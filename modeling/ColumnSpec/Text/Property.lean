import ColumnSpec.Text.Ranges
/-!
# Binary properties

The binary Unicode properties that patterns can name, as of Unicode 16.0. Each property has
its short name first, then its long name and any other, and the set of code points that have
it.
-/
namespace ColumnSpec.Text

/-- A binary property: its names and the code points that have it. -/
structure Property where
  names : List String
  members : RangeSet

def Property.holds (p : Property) (c : Char) : Bool := p.members.contains c.toNat

def Property.asciiHexDigit : Property where
  names := ["AHex", "ASCII_Hex_Digit"]
  members := RangeSet.ofLines
    ["BwkhgBag"]

def Property.alphabetic : Property where
  names := ["Alpha", "Alphabetic"]
  members := RangeSet.ofLines
    ["CnBagBaBvbkbebfxbBfbRqemofhbbbDibBdsbccebbgbbdbbbubDfbFjiGkbBmcbgBpBnobbbcbcbbiBbeeBdlfCeb",
     "hoDybieiedkdcbqBwnDxyBhjcebfycttzhlfybgibiBqkmdhgCybqbdepntbicccwbhbbdediccccbbibecbfmckbe",
     "dbgeccwbhbcbcbcefecccebhebbrgldbjbdbwbhbcbfdjbdbcdbpeveedbicccwbhbcbfdiccccjcecbfnbqcbgddb",
     "edcbbbcdcdddmefddbddbgbBonbdbxbqdibdbdicbdcbceBcebibdbxbkbfdibdbdicgcbendmnbdbBpcibdbdbbfe",
     "hfwgbdbsdybjbbchigbbbiscnCgfhgbBzcbbbfbybbbtbdcfbbgboeBgbClibBketeqbBkCpCdbbcfqCmkecBmbbfb",
     "cBrbMvbechbbbecBpbecBhbechbbbecpbCfbecCpBlqqDicgdXwcrbBafCxdlhulvmumnbdbcmCactobebCpDlhBrf",
     "CskBfbmejxBecflBseBaCcBceClcuBybxcldBxCabpbiBzBqcekBsbloCdwdkBkclfBrcdBpebgbcdbfHktBilKscg",
     "cBmcgcibbbbbbbBfcCbbhbbddbhdecgenfdbhEmbnbqnDxbebckbbdfgbbbbbbeblceffebrBpBFhCaCRuIvgedcmB",
     "mbbfbcCehbqxjhbhbhbhbhbhbhbhbBgBvbSbdzjhfcfeDigdbDmbefBrbDqrBgBwqTsJToCmBGUfCpBucKjdqkcuBv",
     "fidEjBnjcDzcCpccbbbivubBhyCamCqbbBsgdbbdkBhfBjnBddBzbmpbqqkfbCdjosxdCrbbbbydcqcelgcgcgjhbh",
     "bBrbogEtvQNsmxeBxMNcOccEcBmhmffmbnbfbbbcbcbEeBhNzsCmcCcBomEmfbFfBkBagBalDldgcgcgcdBjmbBabt",
     "bcbpcoBiEtCrCbKhBddBxBvBgnBefBrfBecBkeibfBqGcsBkeBkeBoiCamlbpbhbcblbpbhbcdCamLzjwkiygbBqbj",
     "CrgcbbBsbcdbcxkxjBfCntbckwkBaCsCegcCmebcfibdbBdBqBddBdBjibBcBbCckwktnsEgCvCdBznBznBoBiBcdb",
     "fxJqBqbcdcqdCdbdBdkbiwBqsBuvBbxjCsBrfkCfjbnzxBzreiBjdbjCmbejckbbbBjsbBicbgeCkhbbbebpbkhCfx",
     "ebicccwbhbcbfdiccccdbgbfhBckbbcbbBmbkbbcbbebcdbbbBsCobdbeudBeCoccbbHcCcchzgBiClbbdbChCccbC",
     "tBbcovhHdCfDzCmBficbcibcbBebcccceDpicBucgbbbcBbBzckrCufbsCvHrBhBfjbBtbhbbBxBecwboCvhbcbBsd",
     "bbcbdbbccygbcbBlbcbebbMpxjrbBpddEhbDbBJmDyEhrHoDXkDtpBPgrgzFXrfWlKDdBvCPdVxhBfrDbrBesBwqeB",
     "fvftQqBtIdCmEyCxeCfhrCmcbbmcoJCaiBVqBpkNFrebhbcbLfpbBddcboeiPgDKuEdfndjhkebIWfDhbCtbccbccc",
     "ebmbbbhbCnbecibhbBcbebfbbdhbNcczbzbBfbzbBfbzbBfbzbBfbzbiCSyBfggIfhbrchbcbffCkBhbEiBtkhqbMj",
     "BesBsSqBcIuBecbTbhbebcbpbHpChCqdbdbBUiebBbbcbbcbbkbebbbbgbebbbbbbdbcbbcbbbbbbbbbbcbbcebhbe",
     "bebbbkbrfdbfbrYeBagBagBaFMkCLFcBgGDugIocINqoLBlpXyDQwUwCFyHHzfGFg"]

def Property.bidiControl : Property where
  names := ["Bidi_C", "Bidi_Control"]
  members := RangeSet.ofLines
    ["CIebJVlcBafCde"]

def Property.bidiMirrored : Property where
  names := ["Bidi_M", "Bidi_Mirrored"]
  members := RangeSet.ofLines
    ["BocsbbbBcbbbBdbbbBtbpbFMseCUncDQqckcCccocGvbHkedgdbdcdebebbbbejfbbsfejcbbbibBgcefbjcctfcjf",
     "cceycqieuchcBPtoCwbcebcbdfefddoPnwcgboibhgdbefbccfebbdcckgccmtbecbbbcbbefcgdyclceebccceBrc",
     "ibBofbbbdffdebdfbbJwbTvedcbcocckBriQlkciDACrgfcGgcsbbbBcbbbBdbbbbcbcDDPnbCfbCfbCfbCfb"]

def Property.caseIgnorable : Property where
  names := ["CI", "Case_Ignorable"]
  members := RangeSet.ofLines
    ["BnbgblbBjbbbCtbebbbebccTjHkecebjcbbJrhHzbfbBxBtbbbcbcbbBsblgklbbBjbkvqbDxibkbeBhbbbBeBbDnl",
     "CglebcbyyBrdBsbhcfjBpCgCdbbbeiebdhkcnbpbCgbeeibucBabccCfbececcddbBecdblcCfbefbcebucwgbbCgb",
     "cbbeibhclcBebCjbmbBybdbCdbbdfdbehclcBdbCgbcbgbfcucBccCfceeibucBdbCubhdbbDmbchljDubcjjbbhCv",
     "cBbbbbbbCdobfbcflbBkjbDyebgbccczcedqenbccgbpbDqbXkdBKkdBdcBecBecCmcbhibcldbfbBtfBzbCncBibE",
     "odecjbgdIlccbCgbbhbbbbcigkcbBnbiBfBxeBwbbfbbfbBojmcBgeccbdCebbcdbbdCgiccCmgDedbnbhebgbdcBy",
     "ClnbBiDxRdbbdldndndncmfickbcbcfBxfbkbbnbqnBzBhEJrcEjdEvbpbDsBgBvbSbbBkedffbDpgDpdBQBubBWcg",
     "KkbDuebkbbBceDccoBiDabxdDzddcibdbebzcfbFvcBasnbBmizlBudBwbceccrbvcCogccccmbibBjblbBzbbdccf",
     "cbbBbbocfcbbDwfjdErbcbebBDZsbFrrWbqdbmqBibcbGnbhbgblbBjbbbBvbBtcCpbvdTtbIsbFtfBNpgbBqbjWkd",
     "bcfeBodebGjcWbeBmbBafbbMdcDbeCslBxeEtbCcpBpbcckdBxecccbebkbBydBkfbiCkbmcCajkecbDrdcbbcgbcb",
     "GbbdivcCfcdbBlhdfCsgnbbbbbocDhicdbbxbDggbbecbcJeegcbcBbcDhicbbcEcbbbcgbbDxbbbcebfJzjbcJwcb",
     "bebFoeccebBgkBogceibjgcdBunbcPqhbgbbDewchbcbcEsgdbbcbhbbCucdbbbNjclcCaffbbbxbHXdrgpQYymddD",
     "SafChhjeTodBocSobClrCmcbcYGpebhbcEUgcbeGYuBucxUydjqchBeeFsdCYdCdeByibobwfbpCAihbrchbcbffCk",
     "BhbGeoOebCjeTnfJucBCihEfiEBffBSXXpbBeDsEyJg"]

def Property.cased : Property where
  names := ["Cased"]
  members := RangeSet.ofLines
    ["CnBagBaBvbkbebfxbBfbHnbeeIacBjhcBefDsbBqecccebbgbbdbbbubDfbFjiGkbBmjBpEFfBmbbfbcBrbeZwDicg",
     "DFulfBrcdCmHkCmKscgcBmcgcibbbbbbbBfcCbbhbbddbhdecgenfdbhEmbnbqnDxbebckbbdfgbbbbbbebgebceff",
     "ebrBgdcBFlCaCRuIvgedcmBmbbfbBTWcBusBeFcDydebCkccbbbivfbdBFpBrbogDcBEAihmfBNtBagBaBTtDcDsBk",
     "eBkEmlbpbhbcblbpbhbcRjbcdbBqbjBUzBznBzDpwkwEFiCmBGIqCmBMLkDhbCtbccbcccebmbbbhbCnbecibhbBcb",
     "ebfbbdhbNcczbzbBfbzbBfbzbBfbzbBfbzbiCSykbuggKbCkDGkCqDAaBagBagBa"]

def Property.changesWhenCasefolded : Property where
  names := ["CWCF", "Changes_When_Casefolded"]
  members := RangeSet.ofLines
    ["CnBaDmbkxbiBgbbbbbbbbbbbbbbbbbbbbbbbbbbbbbbbbbbbbbbbbbbbbbbbbbbbbbbbcbbbbbbbbbbbbbbbbcbbbb",
     "bbbbbbbbbbbbbbbbbbbbbbbbbbbbbbbbbbbbbbbbbcbbbbbbbcbbbcbdcebcbddcbcbbbbbcbbcbbcbdbbbcdbhcbc",
     "bcbbbbbbbbbbbbbbbbcbbbbbbbbbbbbbbbbbccbbbdbbbbbbbbbbbbbbbbbbbbbbbbbbbbbbbbbbbbbbbbbbbbbbbb",
     "bbbbbbbbbbhcbccbbebbbbbbbbJmbBqbbbdbibgbbdbbbcbrbjwbmddcbbbbbbbbbbbbbbbbbbbbbbbbbcccbbbccB",
     "zBwbbbbbbbbbbbbbbbbbbbbbbbbbbbbbbbbbjbbbbbbbbbbbbbbbbbbbbbbbbbbbbbbbbbbbbbbbbbbbbbbbbbbbbb",
     "bcbbbbbbbbbbbbcbbbbbbbbbbbbbbbbbbbbbbbbbbbbbbbbbbbbbbbbbbbbbbbbbbbbbbbbbbbbbbbbbbbbbbbbbbb",
     "bbbbbbbbbbbbbbbbbbbbcBmBwbEFgBmbbfbBFegDFukgBrcdMibbbbbbbbbbbbbbbbbbbbbbbbbbbbbbbbbbbbbbbb",
     "bbbbbbbbbbbbbbbbbbbbbbbbbbbbbbbbbbbbbbbbbbbbbbbbbbbbbbbbbbbbbbbbbbbbbbbbbbbbbbbbbbbbbbbbbb",
     "bbbbbbbbbbbbbbbbbbbfccbbbbbbbbbbbbbbbbbbbbbbbbbbbbbbbbbbbbbbbbbbbbbbbbbbbbbbbbbbbbbbbbbbbb",
     "bbbbbbbbbbbbbbbbbbbbbbbbbbbbbjiigkiiiiglbbbbbbbiiqBwcdcgfdcglemffdcgLlbdcgbBtqtbBFmBaCSuBw",
     "Bwbbdcbbbbbbebbcbidbbbbbbbbbbbbbbbbbbbbbbbbbbbbbbbbbbbbbbbbbbbbbbbbbbbbbbbbbbbbbbbbbbbbbbb",
     "bbbbbbbbbbbbbbbbbbbbbbbbbbbibbbebBTYjbbbbbbbbbbbbbbbbbbbbbbbbbbbbbbbbbbbbbbbbbbbbbtbbbbbbb",
     "bbbbbbbbbbbbbbbbbbbbFfbbbbbbbbbbbbbdbbbbbbbbbbbbbbbbbbbbbbbbbbbbbbbbbbbbbbbbbbbbbbbbbbbbbb",
     "bbbbbbbkbbbbcbbbbbbbbebbbcbbbdbbbbbbbbbbbbbbbbbbbbfbfbbbbbbbbbbbbbbbebbbcdbfbbbbbbbybBIgDc",
     "BEAihmfBNtBaBUzBoFgBkGalbpbhbcCQcBzGbwEGoBgBGJwBgBULkBi"]

def Property.changesWhenCasemapped : Property where
  names := ["CWCM", "Changes_When_Casemapped"]
  members := RangeSet.ofLines
    ["CnBagBaCgbkxbBfbCmbDgbBccoccbbeDpbsgBbbcbbbcdcbebfcbbccbhbcbbcdgfbkcGkbBqeccddbbgbbdbbbubB",
     "vdBhbfbFdiGkbBmkBnEFgBmbbfbcBrcdZwDicgDFulfBrcdHdbdbqbEjGacbbEocgcBmcgcibbbbbbbBfcCbbhbbdd",
     "bhdecgenfdbhLlbdcgbBbbrBgdcBFlCaCRuEjbcbchDyhedcmBmbbfbBTWcBusBcFeocCkjpddcfbzbBeccbbbiycB",
     "HcbBcDcBEAihmfBNtBagBaBTtDcDsBkeBkEmlbpbhbcblbpbhbcCOpBznBzDpwkwEFiCmBGIqCmBUKeCq"]

def Property.changesWhenLowercased : Property where
  names := ["CWL", "Changes_When_Lowercased"]
  members := RangeSet.ofLines
    ["CnBaDxxbhBhbbbbbbbbbbbbbbbbbbbbbbbbbbbbbbbbbbbbbbbbbbbbbbbbbbbbbbbcbbbbbbbbbbbbbbbcbbbbbbb",
     "bbbbbbbbbbbbbbbbbbbbbbbbbbbbbbbbbbbbbbbcbbbbdcbbbcbdcebcbddcbcbbbbbcbbcbbcbdbbbcdbhcbcbcbb",
     "bbbbbbbbbbbbbbcbbbbbbbbbbbbbbbbbccbbbdbbbbbbbbbbbbbbbbbbbbbbbbbbbbbbbbbbbbbbbbbbbbbbbbbbbb",
     "bbbbbbhcbccbbebbbbbbbbLdbbbdbibgbbdbbbcbrbjBjbibbbbbbbbbbbbbbbbbbbbbbbfbcbbccBzBwbbbbbbbbb",
     "bbbbbbbbbbbbbbbbbbbbbbbbjbbbbbbbbbbbbbbbbbbbbbbbbbbbbbbbbbbbbbbbbbbbbbbbbbbbbbbcbbbbbbbbbb",
     "bbcbbbbbbbbbbbbbbbbbbbbbbbbbbbbbbbbbbbbbbbbbbbbbbbbbbbbbbbbbbbbbbbbbbbbbbbbbbbbbbbbbbbbbbb",
     "bbbbbbbbcBmEHdBmbbfbBBuDiDGlbgBrcdMibbbbbbbbbbbbbbbbbbbbbbbbbbbbbbbbbbbbbbbbbbbbbbbbbbbbbb",
     "bbbbbbbbbbbbbbbbbbbbbbbbbbbbbbbbbbbbbbbbbbbbbbbbbbbbbbbbbbbbbbbbbbbbbbbbbbbbbbbbbbbbbbbbbb",
     "bbbbbjbbbbbbbbbbbbbbbbbbbbbbbbbbbbbbbbbbbbbbbbbbbbbbbbbbbbbbbbbbbbbbbbbbbbbbbbbbbbbbbbbbbb",
     "bbbbbbbbbbbbbjiigkiiiiglbbbbbbbiiyiiiiiiflflemflfLlbdcgbBtqtbBFmBaCSuBwBwbbdcbbbbbbebbcbid",
     "bbbbbbbbbbbbbbbbbbbbbbbbbbbbbbbbbbbbbbbbbbbbbbbbbbbbbbbbbbbbbbbbbbbbbbbbbbbbbbbbbbbbbbbbbb",
     "bbbbbbbbibbbebBTYjbbbbbbbbbbbbbbbbbbbbbbbbbbbbbbbbbbbbbbbbbbbbbtbbbbbbbbbbbbbbbbbbbbbbbbbb",
     "bFfbbbbbbbbbbbbbdbbbbbbbbbbbbbbbbbbbbbbbbbbbbbbbbbbbbbbbbbbbbbbbbbbbbbbbbbbbbbkbbbbcbbbbbb",
     "bbebbbcbbbdbbbbbbbbbbbbbbbbbbbbfbfbbbbbbbbbbbbbbbebbbcdbfbbbbbbbybBHAhBaBUzBoFgBkGalbpbhbc",
     "CQcBzGbwEGoBgBGJwBgBULkBi"]

def Property.changesWhenTitlecased : Property where
  names := ["CWT", "Changes_When_Titlecased"]
  members := RangeSet.ofLines
    ["DtBaCgbBpybibbbbbbbbbbbbbbbbbbbbbbbbbbbbbbbbbbbbbbbbbbbbbbbbbbbbbbbbcbbbbbbbbbbbbbbcbbbbbb",
     "bbbbbbbbbbbbbbbbbbbbbbbbbbbbbbbbbbbbbbbbcbbbbdcbbbcbdbfbcbddcbcbbbbbcbebcbdbbbcbdbbbebbcbc",
     "bbbbbbbbbbbbbbbbbcbbbbbbbbbbbbbbbbbdbbbbdbbbbbbbbbbbbbbbbbbbbbbbbbbbbbbbbbbbbbbbdbbbbbbbbb",
     "bbbbbbbbibccbbebbbbbbbbgbcbbbcdcbebfcbbccbhbcbbcdgfbkcGkbBrbbbdbddsbBbBjbcddbbbbbbbbbbbbbb",
     "bbbbbbbbbfbbcbcbCaBwbbbbbbbbbbbbbbbbbbbbbbbbbbbbbbbbbbjbbbbbbbbbbbbbbbbbbbbbbbbbbbbbbbbbbb",
     "bbbbbbbbbbbbbbbbbbcbbbbbbbbbbbbcbbbbbbbbbbbbbbbbbbbbbbbbbbbbbbbbbbbbbbbbbbbbbbbbbbbbbbbbbb",
     "bbbbbbbbbbbbbbbbbbbbbbbbbbbbbbbbbbbbbbBxBnFMegDFujbbJebdbqbEkbbbbbbbbbbbbbbbbbbbbbbbbbbbbb",
     "bbbbbbbbbbbbbbbbbbbbbbbbbbbbbbbbbbbbbbbbbbbbbbbbbbbbbbbbbbbbbbbbbbbbbbbbbbbbbbbbbbbbbbbbbb",
     "bbbbbbbbbbbbbbbbbbbbbbbbbbbbbhfbbbbbbbbbbbbbbbbbbbbbbbbbbbbbbbbbbbbbbbbbbbbbbbbbbbbbbbbbbb",
     "bbbbbbbbbbbbbbbbbbbbbbbbbbbbbbbbbbbjigkiiiigkiiiiociiiiiifbcgbddbciecciikdbcNebBhqebBGlBaC",
     "TqBwbbdcbbbbbbgbcbkbbbbbbbbbbbbbbbbbbbbbbbbbbbbbbbbbbbbbbbbbbbbbbbbbbbbbbbbbbbbbbbbbbbbbbb",
     "bbbbbbbbbbbbbbbbbbbbbbbbbbbbibbbebmBmbbfbBTWdbbbbbbbbbbbbbbbbbbbbbbbbbbbbbbbbbbbbbbbbbbbbb",
     "tbbbbbbbbbbbbbbbbbbbbbbbbbbbFfbbbbbbbbbbbbbdbbbbbbbbbbbbbbbbbbbbbbbbbbbbbbbbbbbbbbbbbbbbbb",
     "bbbbbbbbbbbbbbbkbbbcbbbbbbbbbebebbccbbbbbbbbbbbbbbbbbbblbbbbbbbbbbbbbbbebbbcbdbbbbbbbbbbbB",
     "abBHcbBcDcBEAihmfBOzBaBVhBoFgBkFzlbpbhbcCRbBzEvwEGoBgBGJwBgBULmBi"]

def Property.changesWhenUppercased : Property where
  names := ["CWU", "Changes_When_Uppercased"]
  members := RangeSet.ofLines
    ["DtBaCgbBpybibbbbbbbbbbbbbbbbbbbbbbbbbbbbbbbbbbbbbbbbbbbbbbbbbbbbbbbbcbbbbbbbbbbbbbbcbbbbbb",
     "bbbbbbbbbbbbbbbbbbbbbbbbbbbbbbbbbbbbbbbbcbbbbdcbbbcbdbfbcbddcbcbbbbbcbebcbdbbbcbdbbbfcbcbc",
     "bbbbbbbbbbbbbbbcbbbbbbbbbbbbbbbbbcbcbbdbbbbbbbbbbbbbbbbbbbbbbbbbbbbbbbbbbbbbbbdbbbbbbbbbbb",
     "bbbbbbibccbbebbbbbbbbgbcbbbcdcbebfcbbccbhbcbbcdgfbkcGkbBrbbbdbddsbBbBjbcddbbbbbbbbbbbbbbbb",
     "bbbbbbbfbbcbcbCaBwbbbbbbbbbbbbbbbbbbbbbbbbbbbbbbbbbbjbbbbbbbbbbbbbbbbbbbbbbbbbbbbbbbbbbbbb",
     "bbbbbbbbbbbbbbbbcbbbbbbbbbbbbcbbbbbbbbbbbbbbbbbbbbbbbbbbbbbbbbbbbbbbbbbbbbbbbbbbbbbbbbbbbb",
     "bbbbbbbbbbbbbbbbbbbbbbbbbbbbbbbbbbbbBxBnEHcBrcdBDggDFujbbJebdbqbEkbbbbbbbbbbbbbbbbbbbbbbbb",
     "bbbbbbbbbbbbbbbbbbbbbbbbbbbbbbbbbbbbbbbbbbbbbbbbbbbbbbbbbbbbbbbbbbbbbbbbbbbbbbbbbbbbbbbbbb",
     "bbbbbbbbbbbbbbbbbbbbbbbbbbbbbbbbbbhfbbbbbbbbbbbbbbbbbbbbbbbbbbbbbbbbbbbbbbbbbbbbbbbbbbbbbb",
     "bbbbbbbbbbbbbbbbbbbbbbbbbbbbbbbbbbbbbbbbjigkiiiigkiiiiocCbbcebbbddbcebdecciikdbcebMzbBhqeb",
     "BGlBaCTqBwbbdcbbbbbbgbcbkbbbbbbbbbbbbbbbbbbbbbbbbbbbbbbbbbbbbbbbbbbbbbbbbbbbbbbbbbbbbbbbbb",
     "bbbbbbbbbbbbbbbbbbbbbbbbbbbbbbbbbbibbbebmBmbbfbBTWdbbbbbbbbbbbbbbbbbbbbbbbbbbbbbbbbbbbbbbb",
     "bbbbbbtbbbbbbbbbbbbbbbbbbbbbbbbbbbFfbbbbbbbbbbbbbdbbbbbbbbbbbbbbbbbbbbbbbbbbbbbbbbbbbbbbbb",
     "bbbbbbbbbbbbbbbbbbbbbkbbbcbbbbbbbbbebebbccbbbbbbbbbbbbbbbbbbblbbbbbbbbbbbbbbbebbbcbdbbbbbb",
     "bbbbbBabBHcbBcDcBEAihmfBOzBaBVhBoFgBkFzlbpbhbcCRbBzEvwEGoBgBGJwBgBULmBi"]

def Property.dash : Property where
  names := ["Dash"]
  members := RangeSet.ofLines
    ["BtbCAubBzbFKjbBNpbDBdgCjbBnbpbPabEOibcbBfcebBcbRebtbEhbCZWacBlbkbGnbFLobMgb"]

def Property.defaultIgnorableCodePoint : Property where
  names := ["DI", "Default_Ignorable_Code_Point"]
  members := RangeSet.ofLines
    ["GrbZxbBBobEGwcCKhcDhfDApfBafBxqGKybCZMpqJfbGebDbjCTLneHWxiBTKZlGBo"]

def Property.deprecated : Property where
  names := ["Dep", "Deprecated"]
  members := RangeSet.ofLines
    ["MrbBYvbDKtbbbDCjcDIjgBAvcBZRYkb"]

def Property.diacritic : Property where
  names := ["Dia", "Diacritic"]
  members := RangeSet.ofLines
    ["DqbbbCtbgbebccTjGdbifgrcebjcJtfIbbCdBtbbbcbcbbFbiecFececddCpBbDnlCglBicEwiBpkqBcCjbqbdeBcb",
     "CwbqbEgbqbEgbqbBvdCibqbhbEpbEgbqbEgbqbEfcqbEubEhbmgbbEdbnfCxcBbbbbbbecCodbcCkbEibbcBocefzh",
     "bbkcBBddBKmcBebFsljbNjdLgbuicbBwpclEabpbBmjCccCgblcCocCmgDezebgbcdByClBwBkfmBllRdbbdldndnd",
     "ncEXkdMfbTmgEbeDrbBSMkbmcbbBccDecoBiDydEfcmbBlbFvbBbsCfeBkbDrbmbBkbFtdCneBzbDwfjdEycBDZsbB",
     "DpqKkbbbBvbBtcCpbBDkbBTngbBqbjYndebGjcVzgBmbBafPjdCslBxeHkbBpbCucEqcCkbCybjdEacGwcDccqbyhd",
     "fDldbcncDrbdbEtcJrcEwbEocElbKjcJycebGabDfbsbDdbQfbJybbcDdbQjcxbHYapQZpbDSafChhVscVarDccYGc",
     "ebhbcLThBucxUyddgiichBeeFMwCkHmhOlbCjeBDmcBCihEfdbd"]

def Property.emoji : Property where
  names := ["Emoji"]
  members := RangeSet.ofLines
    ["BjbgbfkEhbebLYrbmbIibwbDmgpcOdcmbGkbzledHrbIxckbjbCgebfjbcbcccbebcbbccbdbdcidfbbbfmlccbbcb",
     "bsbccsgbbbcdcfbcceclcfccbfcbbbcucfgbecbebcbcgbbcbbbbbgbdbgbkcpbcbebbbedbblcBwdjbobobOicRvd",
     "tcBzbebBVubmbXdbbbGMRqbHubGecmcobckCxBabcxbubcjvcGsBicEiccbdcDfcdbKdbCllgbyhccimbcecbecncc",
     "bicjbfdmdidcbbbebgbdbgDiBwCsficdekdbbcdbckItmebKxBvbkbHdEindkfCehpclgj"]

def Property.emojiComponent : Property where
  names := ["EComp", "Emoji_Component"]
  members := RangeSet.ofLines
    ["BjbgbfkMBjbIfbDFTrbDOIwBaTnfCEaeBSVUqDs"]

def Property.emojiModifier : Property where
  names := ["EMod", "Emoji_Modifier"]
  members := RangeSet.ofLines
    ["HHIxf"]

def Property.emojiModifierBase : Property where
  names := ["EBase", "Emoji_Modifier_Base"]
  members := RangeSet.ofLines
    ["OLhbIlbqeGSJvbCidcbcdEncclvtdbedbdhbbbybHtcebvbecGsddfDfbqdjblbWdbcbiigbjkcdCebCjcbcbbrdbn",
     "IvdBqj"]

def Property.emojiPresentation : Property where
  names := ["EPres", "Emoji_Presentation"]
  members := RangeSet.ofLines
    ["NHqcHxedbcbUbcvcBymBrbtbnbicrcfcibfbvbhcbbebcbhbecBcbBjbbbedbbCjdybobBHbcBzbebGPLebHubHibc",
     "kCxBabbybubcfbdvcGsBhmjbCsbwmBrefmrdbdCtbbbHfcClnebysbBacnbDiDhBwCsgbddcdeelchjItmebKxBvbk",
     "bHdEindkfCehpclgj"]

def Property.extendedPictographic : Property where
  names := ["ExtPict", "Extended_Pictographic"]
  members := RangeSet.ofLines
    ["GnbebLYrbmbIibwbDmgpcOdcmbGkbzledHrbIxckbjbCgebfjbcbcccbebcbbccbdbdcidfbbbfmlccbbcbbsbccsg",
     "bbbcdcfbcceclcfccbfcbbbcucfgbecbebcbcgbbcbbbbbgbdbgbkcpbcbebbbedbblcBwdjbobobOicRvdtcBzbeb",
     "BVubmbXdbbbGMRqbBneDwmpcpbocBlkEicmcobcktCeBbpkbubcjbejxgHgcEiccbdcDfcdbefJubCllgbyhccimbc",
     "ecbecnccbicjbfdmdidcbbbebgbdbgDiBwCsficrdbbgcnEpeDrBmmeCeikgBoiBecmecCkmBvbkbHdDgmoFqJwBNi"]

def Property.extender : Property where
  names := ["Ext", "Extender"]
  members := RangeSet.ofLines
    ["HbbUqcBHubQzbYgbFhbDlbBCybExbDNfbCebXnbPibCqbHKjbBrfDzcDpdBQBubCGsbBLabwbFhbEebvcBFZvbDBkc",
     "CFbbBbbebBVbbLhbEmcTedBVjbBEOfcBTkcbbBQYacBUfbBGud"]

def Property.graphemeBase : Property where
  names := ["Gr_Base", "Grapheme_Base"]
  members := RangeSet.ofLines
    ["BgDrBhnbWwEiicgehbbbubIqhGkbBmcBycdBubbbcbcbjBbegrklbbBuvqbDxibgccbeBgcbbBeBdDllboBrjhdyeb",
     "jbdbhpbzfbblfBfrBqCfCdbbbeiebdhkcBdbcbicccwbhbbdedbbcgcccbbncbdeyfbbgeccwbhbcbcbcedyebbhkc",
     "dbbmbbjbdbwbhbcbfdeibbcdbpcemhbicbicccwbhbcbfdbcbgcccpcbdeslbbgddbedcbbbcdcdddmfbbcddbddbv",
     "vgdbibdbxbqdbdetdcbccekhkblbdbxbkbfdccbbcycbcekbdolbdbBpcbbcfdbdbcedbkeBaccbsdybjbbchjcghh",
     "kcdmBwbcliinBlcbbbfbybbbkbcjbcfbbjkceBgycBbbbbbbobBksbfbcfBxibgbnBlBtebgbccczcedqenbccgbpb",
     "BobbfbcOnbechbbbecBpbecBhbechbbbecpbCfbecCpfBddBagDicgcZtdDlhsntdcjsonbdpCacbhibcljdkgkglf",
     "kgDlhfcBibbfCskBfeecdecbghbdBqcflBseBagldCfccdCebbjbbcignkgkgoDiBwkedibBdjmcBgecgCebbcdbbn",
     "BwicfpdCkfBrcllbnbhebgbdcbfHkCmKscgcBmcgcibbbbbbbBfcCbbpbocgbtcdbjblfyhBxqccBbbndBhClFkeZq",
     "wlvCRscBgbNgdcfBtbbfbcCehcpxjhbhbhbhbhbhbhbhBhDqBiBabDlmIgBaCggqbDieDxfBrbDqbDijBwbBRIrdCd",
     "jNkuBvebkBgcDccgiHyccbbbivqbdbebzcfekgCeiCqkmynbBmizlbmBegBwbcecccbnblehbzbBpgcccldbibbckc",
     "BgbBzbbdccfcbbbyrcilgcgcgjhbhbCieEnbcbedkgQNsmxeBxMNcOccEcBmhmffbbybfbbbcbcbEvqRdcCchbBgqq",
     "kwBjbtbeefbFfeGbcBfdgcgcgcddhbhnccmbBabtbcbpcoBiEtfdeBtdDkbndbBvBtFbBddBxqBbeBkjBefBmkBebB",
     "leoBqGcckgBkeBkeBoiCalmbpbhbcblbpbhbcdCamLzjwkiygbBqbjCrgcbbBsbcdbcxbCuijBwtbcfBhdBbfbCmCe",
     "eucBvpebdbBdkjhjhCmBgBlgmjCcdBdcBbfBahemhDcCvCdBznBzhBqmkgBmiyicIaBfbBqdbccqdChBoiwljwseeB",
     "mBcuxjbbCcpheBebccbmBxecccbeozhkjBkfbjsiBjbdlCajbbiecbqbulsbBcdcegbcClhbbbebpblgBvbdnkicbi",
     "cccwbhbcbfdbbbbeccccdbmhBckbbcbbBmbbbcpbbcdbbdbcBnCeicdbbvbbbdBeBwbcgbbcbbcbceikGkBvbcgecb",
     "cBbBkBzicbbcelkgntBrbbbcicgkguBcBbdbbcebjxHdBvjbcbDwDfmicbcibcbybfbcgebdjkCsicBqiebeBbbkBo",
     "gceijbgcdBunbcjnCvhkHaBiokgjbBmobbgkBddBgzbhbcbCxhbcbBmvbjkggbcbBlecbbbbhkLytcejpbBkicdxDi",
     "bpBynBJnDyEhbflHoDXkDvnBPgrgzFXrfWlKDdBemddkCOsVxhBfbkeDdbkgBehbkBwhpkkbhbvftQqCgHqDnDxCxf",
     "CelnCmeBcJCaiBVqBpkNFrebhbcbLfpbBddcboeiPgDKuEdfndjhkcbcbFVkJqgQuGaEmCiJmkBncCifdwchBeeCjv",
     "CodbEsumumDjjzFfDhbCtbccbcccebmbbbhbCnbecibhbBcbebfbbdhbNccLgcVqCdeByibobhBRwBfggKbCkFqBtk",
     "hckecMiBesBsekfbRwBcekIgBeclebSmhbebcbpbHpcjBwCqhbekecBEfCqCyCjHmebBbbcbbcbbkbebbbbgbebbbb",
     "bbdbcbbcbbbbbbbbbbcbbcebhbebebbbkbrfdbfbrCacKkBseDwmpcpbpbBlkGsCeBdnBsejhcogFyBLwerdndEpeD",
     "rgmebpmeCeikgBoiBecmecCkNcmocndkfCehpclgjhFrbDzBNpCLFcBgGDugIocINqoLBlpXyDQwUwCFyHHzfGFg"]

def Property.graphemeExtend : Property where
  names := ["Gr_Ext", "Grapheme_Extend"]
  members := RangeSet.ofLines
    ["BDoEiKphKdBtbbbcbcbbCulBwvqbDxhcgccbeBjbBeBbDnlCgjjbyebjbdbfBrdChjBqybBgCdbbbeiebdhkcBdbCg",
     "bbbceibjbkcBabccCfbececcddbBecdblcCfbefbcebucwgbbCgbbcbeibhdkcBebChbbbmbjbBobdbCdbbdfdbehc",
     "lcBdbCgbccbbddbehclcBccCfcbbceibjbkcBdbCubebcdbbibDdbchmiDubcjlhCvcBbbbbbbCdobfbcflbBkjbDy",
     "ebgbccczcedqenbccgbpbBBbdBKkeBcdBdcBecCmcbhibcljbBtdbbEncBibEodecjbgdIlccbCgbbhbbbbcigkcbB",
     "wBfBxeBwkedBmjmcBgecgCebbcdbbfCeiccFwdbnbhebgbdcHqCmUebHnBhEOcdFlbDsBgVigEbcBSQeebkBgcDccK",
     "mbdbebzcfbFvcBasnbBmizlbbBsdBwbcecccbBkbCpgccccmbibBvbBzbbdccfcbbBqcibJebcbebBDZsbBCjqqqOc",
     "cXhbIsbFtfCMgdbcfeBodebGjcWbeCnfMfcDbeCslBxeEtbCcpBpbcckdBxecchbCjdBkfbiCkbmcCajbbiecbDrdc",
     "egbcbGbbdivcCfcbbbbmbjbohdfCpbcgbbcbbdedbbocDhicdbbxbDdbcgbbcbbcbcJbbcegcbcBbcDhicbbcEcbbb",
     "ciDxbbbcebfJzjbcJlbkeebFoeccebBgkBogceibjgcdBunbcPqhbgbbDewchbcbcEsgdbbcbhbbCucdbbbNjclcCa",
     "ffdxbHXtbgpQYymddDSafChhBOibCleDdblcBDAxcGYzBucxUwfdgiichBeeFsdCYdCdeByibobwfbpCAihbrchbcb",
     "fDwbGehOlbCjeToeJucBCihEfhBTCAfDsEyJg"]

def Property.graphemeLink : Property where
  names := ["Gr_Link", "Grapheme_Link"]
  members := RangeSet.ofLines
    ["DNpbExbExbExbExbExbExbExbEfcqbEubEhbExbHtbGycCPlcBebGbbZdbItbDxcCscGQtbBUKkbBlbFvbFmbEebLx",
     "bJmbBJSrbCHibBpbobCfbErcFjbEmbGybDubJkbExbJsbExbEobEmbKjbJzcGfbDfbsbDdbQfbKacDdbQjc"]

def Property.hexDigit : Property where
  names := ["Hex", "Hex_Digit"]
  members := RangeSet.ofLines
    ["BwkhgBagDSLlkhgBag"]

def Property.hyphen : Property where
  names := ["Hyphen"]
  members := RangeSet.ofLines
    ["BtbExbBVwbGZzbDBdcFIbbBClbCZUlbGnbDjb"]

def Property.idsBinaryOperator : Property where
  names := ["IDSB", "IDS_Binary_Operator"]
  members := RangeSet.ofLines
    ["SEacckTdb"]

def Property.idsTrinaryOperator : Property where
  names := ["IDST", "IDS_Trinary_Operator"]
  members := RangeSet.ofLines
    ["SEcc"]

def Property.idsUnaryOperator : Property where
  names := ["IDSU", "IDS_Unary_Operator"]
  members := RangeSet.ofLines
    ["SEoc"]

def Property.idCompatMathContinue : Property where
  names := ["ID_Compat_Math_Continue"]
  members := RangeSet.ofLines
    ["GwcfbMAgbdlbpOhbebGJKbbzbBfbzbBfbzbBfbzbBfbzb"]

def Property.idCompatMathStart : Property where
  names := ["ID_Compat_Math_Start"]
  members := RangeSet.ofLines
    ["MWwbebGJKbbzbBfbzbBfbzbBfbzbBfbzb"]

def Property.idContinue : Property where
  names := ["IDC", "ID_Continue"]
  members := RangeSet.ofLines
    ["BwkhBaebbBaBvbkbbbcbfxbBfbRqemofhbbbrEnbccebbgfbbbubDfbFjbfcGkbBmcbgBpiBtbbbcbcbbiBbeeBdlf",
     "CweDybickbtcbqChcDxoCcebcbcBusBcelfybgiCxbEzckbtbicccwbhbbdecjccceibecbfcmkbbbcdbgeccwbhbc",
     "bcbccbbfeccddbhebbhqldbjbdbwbhbcbfckbdbdcbpeckjhbdbicccwbhbcbfcjcccdhdecbfckbbqcbgddbedcbb",
     "bcdcdddmefddbecbgbokqnbdbxbqcjbdbehcbdcbceckqebibdbxbkbfcjbdbehcgcbeckbdmnbdbBzbdbffehfckk",
     "gbdbsdybjbbchdbegbbbigkccnCgfpbkBncbbbfbybbbxcfbbbhbkceBgbxcgklbbbbbekbBkeubsbBkjbCfCwgDac",
     "BmbbfbcBrbMvbechbbbecBpbecBhbechbbbecpbCfbecCpcdjjoqqDicgdXwcrbBafCxdlhwjwlumnbdbcmDgdbecc",
     "kBhdblgDlhBrfCskBfbmemkBocflBseBaglBlBceClbBdclgknbiobqBxCzdkrjmEmmCeikdBxclfBrcdqdbBnfUoc",
     "gcBmcgcibbbbbbbBfcCbbhbbddbhdecgenfdbhpcBxctbBcbnbqnBznebdmrbebckbbcggbbbbbbqceffebrBpDZbI",
     "vgjmBmbbfbcCehbpyjhbhbhbhbhbhbhbhbBgTxdzpbfcfeDichbDrfBrbDqrBgBwqTsJToCmBGUfCpBucKjdBcuBwe",
     "kbElBljcDzcCpccbbbivCcebtCamCskkgydbbBxcBkmBddCnolgBfbCdjockgxdCvydcqcfkgcgcgjhbhbBrbogEtb",
     "cckgQNsmxeBxMNcOccEcBmhmffmbnbfbbbcbcbEeBhNzsCmcCcBomeqqqdcydBgfbFftkhBaebbBakDmdgcgcgcdBj",
     "mbBabtbcbpcoBiEtCrCbFgbFaBddBxpbBfBgnBefBrfBecBkeibfBqGcckgBkeBkeBoiCamlbpbhbcblbpbhbcdCam",
     "LzjwkiygbBqbjCrgcbbBsbcdbcxkxjBfCntbckwkBaCsCegcCmebcfibdbBdcdebBgBddBdBjibBezCckwktnsEgCv",
     "CdBznBznBoikgBmdfbxJqBqbcdcqdCdBhkbiBhBfwBqvBbxjCtBfqjCihbnzhkgCbbkeeiBkcbjCreebnbbBjsbBlg",
     "eCkhbbbebpbkhChfkgebicccwbhbcbfbkcccdcbgbfhchdflkbbcbbBmbkbbcbbebincBdCxfkeeBeCsbbikGkCccj",
     "xgBiCndblkBmCfhkguBcBbcpekghHdChDxCwvicbcibcbBebccjmkCsicBucibcBbClibiCwdbsCvHrBhpkgjbBtbj",
     "pkyBecwboCvhbcbBsdbbcbjikggbcbBlbcbghkLyxjrbBpdfnlDhbDbBJmDyEhrHoDXkDtpBPgqwkFXrfWlKDdCgCO",
     "sVxhBfbkgDbbkgBecflCdjemkjvftQqBtdkHqCmEyCxeCfhrCmcbclcoJCaiBVqBpkNFrebhbcbLfpbBddcboeiPgD",
     "KuEdfndjhkdcGErkTyBucxUwfdgiichBeeFsdRbDhbCtbccbcccebmbbbhbCnbecibhbBcbebfbbdhbNcczbzbBfbz",
     "bBfbzbBfbzbBfbzbicByTsCdeByibobwfbpBQmBfggIfhbrchbcbffCkBhbEiBtdockebMjBfrCgScBqIgBrSrhbeb",
     "cbpbHplhBpCyekBTuebBbbcbbcbbkbebbbbgbebbbbbbdbcbbcbbbbbbbbbbcbbcebhbebebbbkbrfdbfbrFAakBNq",
     "CLFcBgGDugIocINqoLBlpXyDQwUwCFyHHzfGFgBONHgJg"]

def Property.idStart : Property where
  names := ["IDS", "ID_Start"]
  members := RangeSet.ofLines
    ["CnBagBaBvbkbebfxbBfbRqemofhbbbEzfbccebbgbbdbbbubDfbFjiGkbBmcbgBpCtBbeeBtBrBjcbDvbbpchckdcb",
     "qbbBeBdDllbyBhjcebfwebjbdbxzhlfybgrBqCgCcdbsbhkpqeicccwbhbbdedbqbncbdockbigeccwbhbcbcbcBfe",
     "bbtdqjbdbwbhbcbfdbsbpcxblicccwbhbcbfdbBecbdpbrbbgddbedcbbbcdcdddmwbCaibdbxbqdbBadcbccBebei",
     "bdbxbkbfdbBfcbcpcrjbdbBpcbqbfdidygfsdybjbbchCgBwbcmhCgcbbbfbybbbkbcjbcfbbveBgbClibBkBbfElB",
     "rubqgeedbdchdenmbrBmbbfbcBrbMvbechbbbecBpbecBhbechbbbecpbCfbecCpBlqqDicgdXwcrbBafCxdlhsnto",
     "sonbdpCaBjbebCpDlhBpbbfCskBfBxBecflBseBaCcxjCbDebDpBvriCcBenckBsBaBkBpdkBkclfBrcdBpebgbcdb",
     "fHkCmKscgcBmcgcibbbbbbbBfcCbbhbbddbhdecgenfdbhEmbnbqnDxbebckbbcggbbbbbbqceffebrBpDZbIvgedc",
     "mBmbbfbcCehbqxjhbhbhbhbhbhbhbhVedzjhfcfeDiefbDmbefBrbDqrBgBwqTsJToCmBGUfCpBucKjdqkcuBvqBfc",
     "DcBnjcDzcCpccbbbivqbdbebxBdCaoByCkgdbbclBckxzBdhBvBcbqfbkkfbBpxdbiuxdbdBybbdccfcbbbydclhdm",
     "gcgcgjhbhbBrbogElBdQNsmxeBxMNcOccEcBmhmffbbkbnbfbbbcbcbEeBhNzsCmcCcBomEmfbFfBkBagBalDldgcg",
     "cgcdBjmbBabtbcbpcoBiEtCrCbKhBddBxBvBgnBefBmkBecBkeibfBqGcsBkeBkeBoiCamlbpbhbcblbpbhbcdCamL",
     "zjwkiygbBqbjCrgcbbBsbcdbcxkxjBfCntbckwkBaCsCegcCmbpebdbBdBqBddBdBjibBcBbCckwktnsEgCvCdBznB",
     "znBkBmBcjxJqBqgcqdChBdkbiwBqsBuvBbxmCbCfccbnBtBgzBaBkBdbcbiBjdbmBwoevbbbBjsbztcClhbbbebpbk",
     "hBvBmicccwbhbcbfdbsbmfBekbbcbbBmbbzbbbBsCbseudBeBwucbbHcBvBpeBkBwubChBrnbCtBbBlhHdBsEmCmBf",
     "icbcibcbypbbbDqicBnqbbbBcbkBohbvblButbsCvHrBhBfjbBlrbBxBeEihbcbBmvbzgbcbBgobMptpbbnbBiEubD",
     "bBJmDyEhrHoDXkDtpBPgrgzFXrfWlKDdBeCPuVxhBfrDbrBesBwqeBfvftQqBtIdCmEyCxfbConCmcbbBcJCaiBVqB",
     "pkNFrebhbcbLfpbBddcboeiPgDKuEdfndjhkIWkDhbCtbccbcccebmbbbhbCnbecibhbBcbebfbbdhbNcczbzbBfbz",
     "bBfbzbBfbzbBfbzbiCSyBfggKbCkFqBtkhqbMjBesBsSqBcIuBecbTbhbebcbpbHpChCqhbBUiebBbbcbbcbbkbebb",
     "bbgbebbbbbbdbcbbcbbbbbbbbbbcbbcebhbebebbbkbrfdbfbrGOaCLFcBgGDugIocINqoLBlpXyDQwUwCFyHHzfGF",
     "g"]

def Property.ideographic : Property where
  names := ["Ideo", "Ideographic"]
  members := RangeSet.ofLines
    ["SEwczjodBLdJToCmBFBkBHSiOccEcBSIkbBbJCaiBVqBpkNUlPgBDEiCLFcBgGDugIocINqoLBlpXyDQwUwCFyHHzf",
     "GFg"]

def Property.joinControl : Property where
  names := ["Join_C", "Join_Control"]
  members := RangeSet.ofLines
    ["MDoc"]

def Property.logicalOrderException : Property where
  names := ["LOE", "Logical_Order_Exception"]
  members := RangeSet.ofLines
    ["FKifEtfEDsdcbCCXmccbbc"]

def Property.lowercase : Property where
  names := ["Lower", "Lowercase"]
  members := RangeSet.ofLines
    ["DtBaBvbkbebBkybibbbbbbbbbbbbbbbbbbbbbbbbbbbbbbbbbbbbbbbbbbbbbbbbbbbbbbbcbbbbbbbbbbbbbbbcbb",
     "bbbbbbbbbbbbbbbbbbbbbbbbbbbbbbbbbbbbbbbbbbbbcbbbbdcbbbcbdcebcbddcbcbbbbbcbbcbbcbdbbbcccdgb",
     "cbcbbbbbbbbbbbbbbbbcbbbbbbbbbbbbbbbbbccbbbdbbbbbbbbbbbbbbbbbbbbbbbbbbbbbbbbbbbbbbbbbbbbbbb",
     "bbbbbbbbbbbhcbccbbebbbbbbbbCrcBjhcBefDsbBrbbbdbcesbBbBjbcddbbbbbbbbbbbbbbbbbbbbbbbfbbcbccB",
     "zBwbbbbbbbbbbbbbbbbbbbbbbbbbbbbbbbbbbjbbbbbbbbbbbbbbbbbbbbbbbbbbbbbbbbbbbbbbbbbbbbbbbbbbbb",
     "bcbbbbbbbbbbbbcbbbbbbbbbbbbbbbbbbbbbbbbbbbbbbbbbbbbbbbbbbbbbbbbbbbbbbbbbbbbbbbbbbbbbbbbbbb",
     "bbbbbbbbbbbbbbbbbbbbbBwBpEHbBrbeBDggDFujbbEnHkCnbbbbbbbbbbbbbbbbbbbbbbbbbbbbbbbbbbbbbbbbbb",
     "bbbbbbbbbbbbbbbbbbbbbbbbbbbbbbbbbbbbbbbbbbbbbbbbbbbbbbbbbbbbbbbbbbbbbbbbbbbbbbbbbbbbbbbbbb",
     "bbbbbbbbbbbbbbbbjbbbbbbbbbbbbbbbbbbbbbbbbbbbbbbbbbbbbbbbbbbbbbbbbbbbbbbbbbbbbbbbbbbbbbbbbb",
     "bbbbbbbbbbbbbbbbbbbbbbbbjigkiiiigkiiiiociiiiiifbcgbddbciecciikdbcErbnbqnEfbdcdbBbbebebccie",
     "ebBhqebBGlBaCTqBwbbdcbbbbbbebbcbidbbbbbbbbbbbbbbbbbbbbbbbbbbbbbbbbbbbbbbbbbbbbbbbbbbbbbbbb",
     "bbbbbbbbbbbbbbbbbbbbbbbbbbbbbbbbbbbbbbbbbbchbbbebmBmbbfbBTWdbbbbbbbbbbbbbbbbbbbbbbbbbbbbbb",
     "bbbbbbbbbbbbbbbtbbbbbbbbbbbbbbbbbbbbbbbbbbdFdbbbbbbbbbbbbdbbbbbbbbbbbbbbbbbbbbbbbbbbbbbbbb",
     "bbbbbbbbbbbbbbbbbbbbbbbbbbbbbkbbbbcbbbbbbbbbebbbcbbdbbbbbbbbbbbbbbbbbbbbfbfbbbbbbbbbbbbbbb",
     "ebbbcbdbbbbbbbbbbbwdbbbdBFpBrbogDcBEAihmfBOzBaBVhBoFgBkFzlbpbhbcRjbcdbBqbjBXlBzEvwEGoBgBGJ",
     "wBgBMMkBaBahbsBaBaBaebbbhblBaBaBaBaBaBaBaBaBaBaBaBaBaBaBaBaBaBcBczbgBazbgBazbgBazbgBazbgbb",
     "CSykbuggKbCkDHsBi"]

def Property.math : Property where
  names := ["Math"]
  members := RangeSet.ofLines
    ["BrbqdBfbBdbbbBtbebBlbBfbBCadcbBaccdUhdJWnbBbdlbdbnboevflfCnnebdcefsbebckbbcggbdcccbdbgdobb",
     "CqybgbceceBgbbgcoKiieucDmbBeBbbbyblhRdcmkegecccdfobbbcglifcCfbbbBdejdMyCmJwTsBwvcgDASqbBFr",
     "gbbGgbqdBdbbbBdbbbFbbgeFEfcCXDwDhbCtbccbcccebmbbbhbCnbecibhbBcbebfbbdhbNccLgcByIIqebBbbcbb",
     "cbbkbebbbbgbebbbbbbdbcbbcbbbbbbbbbbcbbcebhbebebbbkbrfdbfbrCac"]

def Property.modifierCombiningMark : Property where
  names := ["MCM", "Modifier_Combining_Mark"]
  members := RangeSet.ofLines
    ["CKiccbFbbgbdcSncbddbBfb"]

def Property.noncharacterCodePoint : Property where
  names := ["NChar", "Noncharacter_Code_Point"]
  members := RangeSet.ofLines
    ["DSDcBgUgcDSYocDSYocDSYocDSYocDSYocDSYocDSYocDSYocDSYocDSYocDSYocDSYocDSYocDSYocDSYocDSYoc"]

def Property.otherAlphabetic : Property where
  names := ["OAlpha", "Other_Alphabetic"]
  members := RangeSet.ofLines
    ["BGfbBdnWeobbbcbcbbCulBwnbhqbDxheeccebBjbBeqDylDxcdjbdbeEcbCimdhguCcccpbcfdkcBddCghcccckbkc",
     "BddCgfecccebBecdbldCgibdbcvcwdedCghccccjckcBebChfddbdkbBofCfhbdbdiclcBddCghbdbdiclcpbmeCgh",
     "bdbdkbkcBddCxgbbbiscCjbchsbDvbcgbcqbGhtjlbBkEgmbbcexeedbdchdenmbbkeCLocBecBecBecCotHgcBibE",
     "omejIofCfkcuCwcldBxfBwpCidBejccCflBytPwBiCOnCaDKgBgBTQaiBicNqbibxfDkcByqbbCfbBmfBcmBteBwmB",
     "lbCpombicBtdBybbdccfbBsffbJdiBDZvbDEdfCMgdbcfeBEieCnbMjcDbbJzdCboBtcldBtjjbCjdBkmscCfdBwno",
     "cDojcbgbcbGbkxeCghcccckbkcDgjbbcbbebcDznbdEcsJdhchBdcDepbbEclDzoJxnJngbcccdbbbFmhcgebBckBq",
     "fbeslBuoPribhDfwboEsgdbbcbdbbdbCofbcbeNkejcbbBwhddYYnrFJcbbCdheDpcBDAybNKjhbrchbcbfDwbDHvb",
     "CZwBagBagBa"]

def Property.otherDefaultIgnorableCodePoint : Property where
  names := ["ODI", "Other_Default_Ignorable_Code_Point"]
  members := RangeSet.ofLines
    ["BGpbFIlcCKhcDHnbGLibDACpbDbjBWMIhbbBeDsEyJgFIm"]

def Property.otherGraphemeExtend : Property where
  names := ["OGr_Ext", "Other_Grapheme_Extend"]
  members := RangeSet.ofLines
    ["DRybybNubybDybybIybbbecbcjcDzbybEpbpbDMrbBebBNkbfbbbfcDxbCtcBOibGCvcBTWtbEebBGNlcGWmbEmbKe",
     "bobjbDsbjbcbbdfbIqbmbJhbKcbYjbmbCHfbBEOkcBKXncggBTLAzDs"]

def Property.otherIdContinue : Property where
  names := ["OIDC", "Other_ID_Continue"]
  members := RangeSet.ofLines
    ["HbbBBrbGAjjCLcbCIzcGKrbDAEjb"]

def Property.otherIdStart : Property where
  names := ["OIDS", "Other_ID_Start"]
  members := RangeSet.ofLines
    ["JHlcDGjbvbFVwc"]

def Property.otherLowercase : Property where
  names := ["OLower", "Other_Lowercase"]
  members := RangeSet.ofLines
    ["GobpbThjhcBefDsbCabFCzbEPzClnbBiBlBAnbnbqnIdqBGqBaCWocBUGkcIcbEzddcBHiejbBIWsbcdbBqbjDDZhC",
     "k"]

def Property.otherMath : Property where
  names := ["OMath", "Other_Math"]
  members := RangeSet.ofLines
    ["DqbBHxdcbBacccKQybBbdlbBgeycocCnnebdcefsbebckbbdfgbdcccbdbgdeffCxfcebcbcbbbfccecesccbbbhbb",
     "gcLeeGmcbbybrbRdcmjfffcccdfobbbcgycCfbbbBdejcNecBfkPnwCleBgcDCLfbbbebIdbbbDCOvDhbCtbccbccc",
     "ebmbbbhbCnbecibhbBcbebfbbdhbNcczbzbBfbzbBfbzbBfbzbBfbzbicByIIqebBbbcbbcbbkbebbbbgbebbbbbbd",
     "bcbbcbbbbbbbbbbcbbcebhbebebbbkbrfdbfbr"]

def Property.otherUppercase : Property where
  names := ["OUpper", "Other_Uppercase"]
  members := RangeSet.ofLines
    ["MQqqBGgBaGSIyBagBagBa"]

def Property.patternSyntax : Property where
  names := ["Pat_Syn", "Pattern_Syntax"]
  members := RangeSet.ofLines
    ["BhpkhBaebbBaeBihbbbcbbbcebebdbxbBfbLUeyipctbkLtBBsGeYgBeBRoTsEyOvdezpbCZQzcKbc"]

def Property.patternWhiteSpace : Property where
  names := ["Pat_WS", "Pattern_White_Space"]
  members := RangeSet.ofLines
    ["jfsbDwbLYmcyc"]

def Property.prependedConcatenationMark : Property where
  names := ["PCM", "Prepended_Concatenation_Mark"]
  members := RangeSet.ofLines
    ["CHcgIhbBxbOucDcbDVXybpb"]

def Property.quotationMark : Property where
  names := ["QMark", "Quotation_Mark"]
  members := RangeSet.ofLines
    ["BibebFbbpbLWuizcFIdbRpendDABpeHhbebDmc"]

def Property.radical : Property where
  names := ["Radical"]
  members := RangeSet.ofLines
    ["RPwBabDlmIg"]

def Property.regionalIndicator : Property where
  names := ["RI", "Regional_Indicator"]
  members := RangeSet.ofLines
    ["HGOkBa"]

def Property.sentenceTerminal : Property where
  names := ["STerm", "Sentence_Terminal"]
  members := RangeSet.ofLines
    ["BhbmbqbCAbbFrdGybBrdJmbCjbbbdcLhcCPwcBEkbecBDtbHqcGbcBtbfbMccNqeGgckcccBddHfcCncBJwbxcjdEU",
     "xdLubnbwcQnbBSHwbKkcItbdbOscDicDrbFwcFrdFocJpbBFCwbccChbdcGnbmbqbCnbEDwcBXdfBseHhcEneExdEz",
     "cgbqcDkcbcEebLmcEncOjcfpEbcJpdTxbbbJrcDjcQecBAqcCwcBCMbcFdbCnclbVhcLkbBDOgbLImb"]

def Property.softDotted : Property where
  names := ["SD", "Soft_Dotted"]
  members := RangeSet.ofLines
    ["EbcHobKvbBebCabubMibDubbbJMnbBzbnbdbFcbGbbQfbIgcEGgbGELhcBycBycBycBycBycBycBycBycBycBycByc",
     "BycDFybLtcBab"]

def Property.terminalPunctuation : Property where
  names := ["Term", "Terminal_Punctuation"]
  members := RangeSet.ofLines
    ["BhbkbbblcdbBFybibTtbCfbCubobbdGybBrlbbJbcCcgbiBfbKbcBWucGqbegLzcBEjiBDtbEudCtcGbddbBneccMc",
     "cNqeGgckcbdBddHffCkcBJwbxcjdEUxdLubnbebkbbcdcQmcBSHvcKjdItfOscDicDrbFvdFrdExbqcJpbBFCwbccC",
     "fdbeGnbkbbblcdbCnbcbBPqbBwbBSobHrbLycFwgCqgDleBKqfBseHhhEieExdEzcgbqcDkfEebLmcEndmcNuedpEb",
     "cJpdTxbbbJrcDjcecPydBtbYvcCwcBYxfBAMzcFdbCndkbVhcLjcBDOgbLIle"]

def Property.unifiedIdeograph : Property where
  names := ["UIdeo", "Unified_Ideograph"]
  members := RangeSet.ofLines
    ["TSaJToCmBFBkBICscbbbckbbbbccdDVEcCLFcBgGDugIocINqoLBlpXyGRqHHzfGFg"]

def Property.uppercase : Property where
  names := ["Upper", "Uppercase"]
  members := RangeSet.ofLines
    ["CnBaDxxbhBhbbbbbbbbbbbbbbbbbbbbbbbbbbbbbbbbbbbbbbbbbbbbbbbbbbbbbbbcbbbbbbbbbbbbbbbcbbbbbbb",
     "bbbbbbbbbbbbbbbbbbbbbbbbbbbbbbbbbbbbbbbcbbbbdcbbbcbdcebcbddcbcbbbbbcbbcbbcbdbbbcdbhbcbcbcb",
     "bbbbbbbbbbbbbbcbbbbbbbbbbbbbbbbbcbcbbdbbbbbbbbbbbbbbbbbbbbbbbbbbbbbbbbbbbbbbbbbbbbbbbbbbbb",
     "bbbbbbhcbccbbebbbbbbbbLdbbbdbibgbbdbbbcbrbjBjbcddbbbbbbbbbbbbbbbbbbbbbbbfbcbbccBzBwbbbbbbb",
     "bbbbbbbbbbbbbbbbbbbbbbbbbbjbbbbbbbbbbbbbbbbbbbbbbbbbbbbbbbbbbbbbbbbbbbbbbbbbbbbbbcbbbbbbbb",
     "bbbbcbbbbbbbbbbbbbbbbbbbbbbbbbbbbbbbbbbbbbbbbbbbbbbbbbbbbbbbbbbbbbbbbbbbbbbbbbbbbbbbbbbbbb",
     "bbbbbbbbbbcBmEHdBmbbfbBBuDiDGlbgBrcdMibbbbbbbbbbbbbbbbbbbbbbbbbbbbbbbbbbbbbbbbbbbbbbbbbbbb",
     "bbbbbbbbbbbbbbbbbbbbbbbbbbbbbbbbbbbbbbbbbbbbbbbbbbbbbbbbbbbbbbbbbbbbbbbbbbbbbbbbbbbbbbbbbb",
     "bbbbbbbjbbbbbbbbbbbbbbbbbbbbbbbbbbbbbbbbbbbbbbbbbbbbbbbbbbbbbbbbbbbbbbbbbbbbbbbbbbbbbbbbbb",
     "bbbbbbbbbbbbbbbjiigkiiiiglbbbbbbbiiCuemememfleKcbebddcdcbdfgbbbbbbecekcfbBaqtbBFmBaCSuBwBw",
     "bbdcbbbbbbebbcbidbbbbbbbbbbbbbbbbbbbbbbbbbbbbbbbbbbbbbbbbbbbbbbbbbbbbbbbbbbbbbbbbbbbbbbbbb",
     "bbbbbbbbbbbbbbbbbbbbbbbbbibbbebBTYjbbbbbbbbbbbbbbbbbbbbbbbbbbbbbbbbbbbbbbbbbbbbbtbbbbbbbbb",
     "bbbbbbbbbbbbbbbbbbFfbbbbbbbbbbbbbdbbbbbbbbbbbbbbbbbbbbbbbbbbbbbbbbbbbbbbbbbbbbbbbbbbbbbbbb",
     "bbbbbkbbbbcbbbbbbbbebbbcbbbdbbbbbbbbbbbbbbbbbbbbfbfbbbbbbbbbbbbbbbebbbcdbfbbbbbbbybBHAhBaB",
     "UzBoFgBkGalbpbhbcCQcBzGbwEGoBgBGJwBgBMMqBaBaBaBaBaBabbccbcccebiBaBaBacbecibhBbcbebfbbdhBbB",
     "aBaBaBaBaBaBaBaBaBaBaBezBhzBhzBhzBhzBhbGNlBiDBiBagBagBa"]

def Property.variationSelector : Property where
  names := ["VS", "Variation_Selector"]
  members := RangeSet.ofLines
    ["JCtdbbDJCaqBWNKyJg"]

def Property.whiteSpace : Property where
  names := ["WSpace", "White_Space", "space"]
  members := RangeSet.ofLines
    ["jfsbDwbBabIHjbDPnlBdcfbBvbFXwb"]

def Property.xidContinue : Property where
  names := ["XIDC", "XID_Continue"]
  members := RangeSet.ofLines
    ["BwkhBaebbBaBvbkbbbcbfxbBfbRqemofhbbbrEnbcddbbgfbbbubDfbFjbfcGkbBmcbgBpiBtbbbcbcbbiBbeeBdlf",
     "CweDybickbtcbqChcDxoCcebcbcBusBcelfybgiCxbEzckbtbicccwbhbbdecjccceibecbfcmkbbbcdbgeccwbhbc",
     "bcbccbbfeccddbhebbhqldbjbdbwbhbcbfckbdbdcbpeckjhbdbicccwbhbcbfcjcccdhdecbfckbbqcbgddbedcbb",
     "bcdcdddmefddbecbgbokqnbdbxbqcjbdbehcbdcbceckqebibdbxbkbfcjbdbehcgcbeckbdmnbdbBzbdbffehfckk",
     "gbdbsdybjbbchdbegbbbigkccnCgfpbkBncbbbfbybbbxcfbbbhbkceBgbxcgklbbbbbekbBkeubsbBkjbCfCwgDac",
     "BmbbfbcBrbMvbechbbbecBpbecBhbechbbbecpbCfbecCpcdjjoqqDicgdXwcrbBafCxdlhwjwlumnbdbcmDgdbecc",
     "kBhdblgDlhBrfCskBfbmemkBocflBseBaglBlBceClbBdclgknbiobqBxCzdkrjmEmmCeikdBxclfBrcdqdbBnfUoc",
     "gcBmcgcibbbbbbbBfcCbbhbbddbhdecgenfdbhpcBxctbBcbnbqnBznebdmrbebckbbcggbbbbbbqceffebrBpDZbI",
     "vgjmBmbbfbcCehbpyjhbhbhbhbhbhbhbhbBgTxdzpbfcfeDicccdbDrfBrbDqrBgBwqTsJToCmBGUfCpBucKjdBcuB",
     "wekbElBljcDzcCpccbbbivCcebtCamCskkgydbbBxcBkmBddCnolgBfbCdjockgxdCvydcqcfkgcgcgjhbhbBrbogE",
     "tbcckgQNsmxeBxMNcOccEcBmhmffmbnbfbbbcbcbEeBhFjgIksCmcCcBokgqqqdcydBhbbbdbbbbbbbbEwtkhBaebb",
     "BakDmdgcgcgcdBjmbBabtbcbpcoBiEtCrCbFgbFaBddBxpbBfBgnBefBrfBecBkeibfBqGcckgBkeBkeBoiCamlbpb",
     "hbcblbpbhbcdCamLzjwkiygbBqbjCrgcbbBsbcdbcxkxjBfCntbckwkBaCsCegcCmebcfibdbBdcdebBgBddBdBjib",
     "BezCckwktnsEgCvCdBznBznBoikgBmdfbxJqBqbcdcqdCdBhkbiBhBfwBqvBbxjCtBfqjCihbnzhkgCbbkeeiBkcbj",
     "CreebnbbBjsbBlgeCkhbbbebpbkhChfkgebicccwbhbcbfbkcccdcbgbfhchdflkbbcbbBmbkbbcbbebincBdCxfke",
     "eBeCsbbikGkCccjxgBiCndblkBmCfhkguBcBbcpekghHdChDxCwvicbcibcbBebccjmkCsicBucibcBbClibiCwdbs",
     "CvHrBhpkgjbBtbjpkyBecwboCvhbcbBsdbbcbjikggbcbBlbcbghkLyxjrbBpdfnlDhbDbBJmDyEhrHoDXkDtpBPgq",
     "wkFXrfWlKDdCgCOsVxhBfbkgDbbkgBecflCdjemkjvftQqBtdkHqCmEyCxeCfhrCmcbclcoJCaiBVqBpkNFrebhbcb",
     "LfpbBddcboeiPgDKuEdfndjhkdcGErkTyBucxUwfdgiichBeeFsdRbDhbCtbccbcccebmbbbhbCnbecibhbBcbebfb",
     "bdhbNcczbzbBfbzbBfbzbBfbzbBfbzbicByTsCdeByibobwfbpBQmBfggIfhbrchbcbffCkBhbEiBtdockebMjBfrC",
     "gScBqIgBrSrhbebcbpbHplhBpCyekBTuebBbbcbbcbbkbebbbbgbebbbbbbdbcbbcbbbbbbbbbbcbbcebhbebebbbk",
     "brfdbfbrFAakBNqCLFcBgGDugIocINqoLBlpXyDQwUwCFyHHzfGFgBONHgJg"]

def Property.xidStart : Property where
  names := ["XIDS", "XID_Start"]
  members := RangeSet.ofLines
    ["CnBagBaBvbkbebfxbBfbRqemofhbbbEzfbcddbbgbbdbbbubDfbFjiGkbBmcbgBpCtBbeeBtBrBjcbDvbbpchckdcb",
     "qbbBeBdDllbyBhjcebfwebjbdbxzhlfybgrBqCgCcdbsbhkpqeicccwbhbbdedbqbncbdockbigeccwbhbcbcbcBfe",
     "bbtdqjbdbwbhbcbfdbsbpcxblicccwbhbcbfdbBecbdpbrbbgddbedcbbbcdcdddmwbCaibdbxbqdbBadcbccBebei",
     "bdbxbkbfdbBfcbcpcrjbdbBpcbqbfdidygfsdybjbbchCgBwbbnhCgcbbbfbybbbkbbkbcfbbveBgbClibBkBbfElB",
     "rubqgeedbdchdenmbrBmbbfbcBrbMvbechbbbecBpbecBhbechbbbecpbCfbecCpBlqqDicgdXwcrbBafCxdlhsnto",
     "sonbdpCaBjbebCpDlhBpbbfCskBfBxBecflBseBaCcxjCbDebDpBvriCcBenckBsBaBkBpdkBkclfBrcdBpebgbcdb",
     "fHkCmKscgcBmcgcibbbbbbbBfcCbbhbbddbhdecgenfdbhEmbnbqnDxbebckbbcggbbbbbbqceffebrBpDZbIvgedc",
     "mBmbbfbcCehbqxjhbhbhbhbhbhbhbhVedzjhfcfeDigdbDmbefBrbDqrBgBwqTsJToCmBGUfCpBucKjdqkcuBvqBfc",
     "DcBnjcDzcCpccbbbivqbdbebxBdCaoByCkgdbbclBckxzBdhBvBcbqfbkkfbBpxdbiuxdbdBybbdccfcbbbydclhdm",
     "gcgcgjhbhbBrbogElBdQNsmxeBxMNcOccEcBmhmffbbkbnbfbbbcbcbEeBhFjgIksCmcCcBokEpbbbdbbbbbbbbEwB",
     "kBagBalCecBfdgcgcgcdBjmbBabtbcbpcoBiEtCrCbKhBddBxBvBgnBefBmkBecBkeibfBqGcsBkeBkeBoiCamlbpb",
     "hbcblbpbhbcdCamLzjwkiygbBqbjCrgcbbBsbcdbcxkxjBfCntbckwkBaCsCegcCmbpebdbBdBqBddBdBjibBcBbCc",
     "kwktnsEgCvCdBznBznBkBmBcjxJqBqgcqdChBdkbiwBqsBuvBbxmCbCfccbnBtBgzBaBkBdbcbiBjdbmBwoevbbbBj",
     "sbztcClhbbbebpbkhBvBmicccwbhbcbfdbsbmfBekbbcbbBmbbzbbbBsCbseudBeBwucbbHcBvBpeBkBwubChBrnbC",
     "tBbBlhHdBsEmCmBficbcibcbypbbbDqicBnqbbbBcbkBohbvblButbsCvHrBhBfjbBlrbBxBeEihbcbBmvbzgbcbBg",
     "obMptpbbnbBiEubDbBJmDyEhrHoDXkDtpBPgrgzFXrfWlKDdBeCPuVxhBfrDbrBesBwqeBfvftQqBtIdCmEyCxfbCo",
     "nCmcbbBcJCaiBVqBpkNFrebhbcbLfpbBddcboeiPgDKuEdfndjhkIWkDhbCtbccbcccebmbbbhbCnbecibhbBcbebf",
     "bbdhbNcczbzbBfbzbBfbzbBfbzbBfbzbiCSyBfggKbCkFqBtkhqbMjBesBsSqBcIuBecbTbhbebcbpbHpChCqhbBUi",
     "ebBbbcbbcbbkbebbbbgbebbbbbbdbcbbcbbbbbbbbbbcbbcebhbebebbbkbrfdbfbrGOaCLFcBgGDugIocINqoLBlp",
     "XyDQwUwCFyHHzfGFg"]

/-- Every binary property that can be named. -/
def Property.all : List Property := [
  .asciiHexDigit, .alphabetic, .bidiControl, .bidiMirrored, .caseIgnorable, .cased,
  .changesWhenCasefolded, .changesWhenCasemapped, .changesWhenLowercased, .changesWhenTitlecased,
  .changesWhenUppercased, .dash, .defaultIgnorableCodePoint, .deprecated, .diacritic, .emoji,
  .emojiComponent, .emojiModifier, .emojiModifierBase, .emojiPresentation, .extendedPictographic,
  .extender, .graphemeBase, .graphemeExtend, .graphemeLink, .hexDigit, .hyphen, .idsBinaryOperator,
  .idsTrinaryOperator, .idsUnaryOperator, .idCompatMathContinue, .idCompatMathStart, .idContinue,
  .idStart, .ideographic, .joinControl, .logicalOrderException, .lowercase, .math,
  .modifierCombiningMark, .noncharacterCodePoint, .otherAlphabetic, .otherDefaultIgnorableCodePoint,
  .otherGraphemeExtend, .otherIdContinue, .otherIdStart, .otherLowercase, .otherMath,
  .otherUppercase, .patternSyntax, .patternWhiteSpace, .prependedConcatenationMark, .quotationMark,
  .radical, .regionalIndicator, .sentenceTerminal, .softDotted, .terminalPunctuation,
  .unifiedIdeograph, .uppercase, .variationSelector, .whiteSpace, .xidContinue, .xidStart]

end ColumnSpec.Text
