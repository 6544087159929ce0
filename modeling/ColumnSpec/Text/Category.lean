import ColumnSpec.Text.Ranges
/-!
# General categories

The Unicode general category of every code point, as of Unicode 16.0, by runs of code
points.
-/
namespace ColumnSpec.Text

/-- The Unicode general categories. -/
inductive Category where
  | uppercaseLetter
  | lowercaseLetter
  | titlecaseLetter
  | modifierLetter
  | otherLetter
  | nonspacingMark
  | spacingMark
  | enclosingMark
  | decimalNumber
  | letterNumber
  | otherNumber
  | connectorPunctuation
  | dashPunctuation
  | openPunctuation
  | closePunctuation
  | initialPunctuation
  | finalPunctuation
  | otherPunctuation
  | mathSymbol
  | currencySymbol
  | modifierSymbol
  | otherSymbol
  | spaceSeparator
  | lineSeparator
  | paragraphSeparator
  | control
  | format
  | surrogate
  | privateUse
  | unassigned
  deriving DecidableEq, Repr, Inhabited

/-- The categories, in the order that the table numbers them. -/
def Category.all : Array Category := #[
  .uppercaseLetter, .lowercaseLetter, .titlecaseLetter, .modifierLetter, .otherLetter,
  .nonspacingMark, .spacingMark, .enclosingMark, .decimalNumber, .letterNumber, .otherNumber,
  .connectorPunctuation, .dashPunctuation, .openPunctuation, .closePunctuation, .initialPunctuation,
  .finalPunctuation, .otherPunctuation, .mathSymbol, .currencySymbol, .modifierSymbol, .otherSymbol,
  .spaceSeparator, .lineSeparator, .paragraphSeparator, .control, .format, .surrogate, .privateUse,
  .unassigned]

/-- The names of a category: its two-letter code first, then the long name and any other. -/
def Category.names : Category → List String
  | .uppercaseLetter => ["Lu", "Uppercase_Letter"]
  | .lowercaseLetter => ["Ll", "Lowercase_Letter"]
  | .titlecaseLetter => ["Lt", "Titlecase_Letter"]
  | .modifierLetter => ["Lm", "Modifier_Letter"]
  | .otherLetter => ["Lo", "Other_Letter"]
  | .nonspacingMark => ["Mn", "Nonspacing_Mark"]
  | .spacingMark => ["Mc", "Spacing_Mark"]
  | .enclosingMark => ["Me", "Enclosing_Mark"]
  | .decimalNumber => ["Nd", "Decimal_Number", "digit"]
  | .letterNumber => ["Nl", "Letter_Number"]
  | .otherNumber => ["No", "Other_Number"]
  | .connectorPunctuation => ["Pc", "Connector_Punctuation"]
  | .dashPunctuation => ["Pd", "Dash_Punctuation"]
  | .openPunctuation => ["Ps", "Open_Punctuation"]
  | .closePunctuation => ["Pe", "Close_Punctuation"]
  | .initialPunctuation => ["Pi", "Initial_Punctuation"]
  | .finalPunctuation => ["Pf", "Final_Punctuation"]
  | .otherPunctuation => ["Po", "Other_Punctuation"]
  | .mathSymbol => ["Sm", "Math_Symbol"]
  | .currencySymbol => ["Sc", "Currency_Symbol"]
  | .modifierSymbol => ["Sk", "Modifier_Symbol"]
  | .otherSymbol => ["So", "Other_Symbol"]
  | .spaceSeparator => ["Zs", "Space_Separator"]
  | .lineSeparator => ["Zl", "Line_Separator"]
  | .paragraphSeparator => ["Zp", "Paragraph_Separator"]
  | .control => ["Cc", "Control", "cntrl"]
  | .format => ["Cf", "Format"]
  | .surrogate => ["Cs", "Surrogate"]
  | .privateUse => ["Co", "Private_Use"]
  | .unassigned => ["Cn", "Unassigned"]

/-- The groups of categories, each with its names: a group gathers the categories whose codes
share their first letter, and the cased letters are the upper-, lower- and titlecase ones. -/
def Category.groups : List (List String × List Category) := [
  (["C", "Other"], [.control, .format, .surrogate, .privateUse, .unassigned]),
  (["L", "Letter"],
    [.uppercaseLetter, .lowercaseLetter, .titlecaseLetter, .modifierLetter, .otherLetter]),
  (["LC", "Cased_Letter"], [.uppercaseLetter, .lowercaseLetter, .titlecaseLetter]),
  (["M", "Mark", "Combining_Mark"], [.nonspacingMark, .spacingMark, .enclosingMark]),
  (["N", "Number"], [.decimalNumber, .letterNumber, .otherNumber]),
  (["P", "Punctuation", "punct"],
    [.connectorPunctuation, .dashPunctuation, .openPunctuation, .closePunctuation,
      .initialPunctuation, .finalPunctuation, .otherPunctuation]),
  (["S", "Symbol"], [.mathSymbol, .currencySymbol, .modifierSymbol, .otherSymbol]),
  (["Z", "Separator"], [.spaceSeparator, .lineSeparator, .paragraphSeparator])]

def Category.table : RangeMap Category :=
  RangeMap.ofLines
  ["aBgbdbdbbbbbbckcdcBabbbbbbBabbbbBhbbebbbbbbbbbbbbcbbcbbbbdbxbhybibbbbbbbbbbbbbbbbbbbbbbbbb",
   "bbbbbbbbbbbbbbbbbbbbbbbbbbbbbbcbbbbbbbbbbbbbbbcbbbbbbbbbbbbbbbbbbbbbbbbbbbbbbbbbbbbbbbbbbb",
   "bbbcbbbbdcbbbcbdcebcbddcbcbbbbbcbbcbbcbdbbbccbbdebbbbbbbbbbbbbbbbbbbbbbbbcbbbbbbbbbbbbbbbb",
   "bcbbbbbdbbbbbbbbbbbbbbbbbbbbbbbbbbbbbbbbbbbbbbbbbbbbbbbbbbbbbbbbbbhcbccbbebbbbbbbbCrcBasem",
   "ofhbbbrEibbbbbbbbcbdbbecbbdbbbcbrbjBjbcddbbbbbbbbbbbbbbbbbbbbbbbfbbbbbccBzBwbbbbbbbbbbbbbb",
   "bbbbbbbbbbbbbbbbbbbbbfcbbbbbbbbbbbbbbbbbbbbbbbbbbbbbbbbbbbbbbbbbbbbbbbbbbbbbbcbbbbbbbbbbbb",
   "cbbbbbbbbbbbbbbbbbbbbbbbbbbbbbbbbbbbbbbbbbbbbbbbbbbbbbbbbbbbbbbbbbbbbbbbbbbbbbbbbbbbbbbbbb",
   "bbbbbbbbBmcbgBpbbccbbBtbbbcbcbbiBbeeclgdcbcclbbdBgbkvkecbDvbbhbbgccbeckdcbobbbbBeBbcDllbok",
   "BhjcbdbcbcwebjbdbfcpbzdcbblfybgbcfjBpbybBgbCcbbbbdiebcbhkcckbbpbcbicccwbhbbdecbbdeccccbbib",
   "ecbdcckccgbbbbbccbbgeccwbhbcbcbccbbdceccddbhebbhkcdbbkcbbjbdbwbhbcbfcbbdfbcbbcbcbpccckbbhb",
   "gbbcbicccwbhbcbfcbbbbbeccccbhcbecbdcckbbgkbbbgddbedcbbbcdcdddmecbcddbdbcbgbokdgbbfbdbibdbx",
   "bqcbbdebdbehcbdcbcccckhbhbbbcbibdbxbkbfcbbbbfbbcbcchcgcbccckbcbmccjbdbBpcbdebdbdbbbedbhdcc",
   "kjbgbbcbsdybjbbchdbeddbbbigkccbmBwbchebgbibkcBlcbbbfbybbbkbcjbcfbbbhbkceBgbdpbbdcgkkbbbbbb",
   "bbbbcibBkeobfbcflbBkbibgbcfecBlBrcebgbcccbkggccedbdchdenbccgbbbkdbcBmbbfbcBrbbdMrbechbbbec",
   "BpbecBhbechbbbecpbCfbecCpcdjudqkgDicgcbXwbbrbBabbdCxddihsdbjtcbcjscmnbdbcmCacbhibcldbdbbbc",
   "kgkggbedbbkgBjbCbhfcBibbfCskBfbdecdecbgdebdckBecflBseBagkbdBixccbccCbbbbhbbbbcigkcbkgkghbg",
   "cobqBxebBvbbfbbfbcibckhkjjdcbBebeccbdckBsbbcdbbdcieBkiiccdfkddkBegcjbbfBrcdiidbnbhebgbcbcb",
   "fBsClnbBiBlCmbbbbbbbbbbbbbbbbbbbbbbbbbbbbbbbbbbbbbbbbbbbbbbbbbbbbbbbbbbbbbbbbbbbbbbbbbbbbb",
   "bbbbbbbbbbbbbbbbbbbbbbbbbbbbbbbbbbbbbbbbbbbbbbbbbbbbbbbbbbbbbbbbbbbbbbbbjbbbbbbbbbbbbbbbbb",
   "bbbbbbbbbbbbbbbbbbbbbbbbbbbbbbbbbbbbbbbbbbbbbbbbbbbbbbbbbbbbbbbbbbbbbbbbbbbbbbbbjigcgciiii",
   "gcgcibbbbbbbbiiociiiiiifbcebbbddbcebdeccebdifdcdbcebcblfgcbbbcbbbibbfbjbbecdbbblbbbkbfbkbb",
   "cgdbbbkdbbbndBhpnebdmpcbebcbdcdbbbcbfgbbbbbbebbebebcccfbebbcbbqBjbbebceffcebcbcbhbBfccbbbB",
   "fKiibbbbuchbbDdbBezBogCuwlvCiDawHbbjbCciEhbJobbbbbbbbbbbbbbBeBsfbbBfbbbbbbbbbbqJwFbbbbbbbb",
   "bbbbbbbbbbbbbbbClbbbbBgbbJyBwvcgBncBgbEbBwBwbbdcbbbbbbebbcbgcdbbbbbbbbbbbbbbbbbbbbbbbbbbbb",
   "bbbbbbbbbbbbbbbbbbbbbbbbbbbbbbbbbbbbbbbbbbbbbbbbbbbbbbbbbbbbbbbbbbbbbbcgbbbbdbbfebcBmbbfbc",
   "CehbbobxjhbhbhbhbhbhbhbhbBgcbbbbdbbbbbjbcbbbbcbbbbbbbbbbfbkcebbbncdbbbbbbbbbBiBabDlmIgBaqb",
   "dbbbbbbbbbbbbbbcbbbbbbbbbbcbjecbfcdbbbcbDiccccbbDmbdbfBrbDqbcekBgBmjbqBfbkBeibpBgkBnpMiJTo",
   "CmBFCfbBRzdCdjBogcKibdqkcubbbbbbbbbbbbbbbbbbbbbbbbbbbbbbbbbbbbbbbbbbbbbbbbdbkbbbbbbbbbbbbb",
   "bbbbbbbbbbbbbbbbbccCskcgixjcbbbbbbbbbbbbbdbbbbbbbbbbbbbbbbbbbbbbbbbbbbbbbbbbbbbbbbbbbbbbbb",
   "bbbbbbbbbbbbbbbibbbbcbbbbbbbbbbcbbbbbbbbdbbbbbbbbbbbbbbbbbbbbfbfbbbbbbbbbbbbbbbebbbcbcbbbb",
   "bbbbbbbbbvdbbbcbhbdbebxccbebdgcbbgCaeicByqcickgsgdbbcbkBcicxlclbBdddbBvbceccdnbbkecfbbjkfb",
   "BpgccccjdbibbckceqbgdbbbbBybbdccfcbbbycbclbcccbcbbkgcgcgjhbhbBrbejbceDcBjcbcbcbbbckgQNsmxe",
   "BxeDAuJMeOccEcBmhmffbbkbnbfbbbcbcbEerqNzbbqCmcCchbBgmbdqhbbbgqbccbbbbbbbbbbbbbbbbcbbeddbeb",
   "bbbbbbdbbdbbbcefbFfcbbdbdbbbbbbckcdcBabbbbbbBabbbbbbbbbckbBtcBfdgcgcgcddcbbbcbbeckdccmbBab",
   "tbcbpcoBiEtfdeBtdjCbercdbndbBvBtbFaBddBxpbBbeBgejubibfBmffBebbBkeibfBqBoBoDackgBkeBkeBoiCa",
   "lblbpbhbcblbpbhbcdCamLzjwkiygbBqbjCrgcbbBsbcdbcxbbixchBfijBwtbcffwgdbBafbCmCeeccqcBubdbcfe",
   "ebdbBdcdebjhjhBdcbBddBgibBccefhjCcdhwcitfishemhDcCvCdBznBzhgBkeikgkebbwdfbbwicIaBfbBqbcbcc",
   "qdCdeBdkbiwlefwseeBmvhuxjbbbCbpheukbccbjdbBtdecccbebkbczhkgdBkfbibkebcbiBjbcbjcbBwdjceeebb",
   "bkbbbdbulsbzddcbbcgbcbCkhbbbebpbkbgBvbdifkgccbicccwbhbcbfbcbcbecccdcbgbffcchdflkbbcbbBmbbd",
   "gbbcbbebcbbbbbbcbcicBdCbdicdbbefkcbbbdBeBwdgbbecbccbbikGkBvdececbcxecBiBwdicbbcdblkgntBrbb",
   "bcgbbbbgkguBcBbcbbbcebfekcdbhHdBsdjbcbDwBgBgkjmicbcibcbygbcccbbbbbbbdjkCsicBndeccebbbbbBbb",
   "kBogbbeibibgcdBunbcdbfnCvhkHaBhbokgjbBlbhbgbbbfkktdcBecwbbhbcbcCvhbcbBmgdbbcbhbbikggbcbBgf",
   "bcbcbbbbhkLytccchcbbnbBicfdcbbbnkbDhbpviernbBJmDyEhbflHoDXkDtcnBPgqbgpkFXrfWlKDdBemddkCOsV",
   "xhBfbkecDbbkgBecfbkBwhfeebbkkbhbvftQqdBocdkHqBgBgxeDxCxebbCdhenCmcbbblcoJCaiBVqBpkNFrebhbc",
   "bLfpbBddcboeiPgDKuEdfndjhkcbcbeFVgJgkgQuCyBucxjEmCiJmkBncCicddgiichBeeCjvCodbEsumumDjjzFfB",
   "aBaBahbsBaBabbccbcccebiebbbhblBaBacbecibhbBacbebfbbdhbBaBaBaBaBaBaBaBaBaBaBaBaBcczbzbgzbzb",
   "gzbzbgzbzbgzbzbgbbcByTsCdeByibobcfpfbpBQmkbuggIfhbrchbcbffCkBhbEiBtdhhckebbMiBebrBsekfbRwB",
   "bbekIgBecbkebSmhbebcbpbHpcjhBpBiBihbekecBEfChbdbeCyBtbpHmebBbbcbbcbbkbebbbbgbebbbbbbdbcbbc",
   "bbbbbbbbbbcbbcebhbebebbbkbrfdbfbrCacKkBseDwmpcpbpbBlknGfCeBdnBsejhcogFyJrfBCaerdndEpeDrgme",
   "bpmeCeikgBoiBecmecCkNcmocndkfCehpclgjhFrbDokbBNpCLFcBgGDugIocINqoLBlpXyDQwUwCFyHHzfGFgBOMX",
   "lbBeDsEyJgDSFoDSYocDSYo"]
  ["zwrtrnorsrmrirsranroulubnsoszwrtvruvepsBavuvskubrukeqkrasabsbababababababababababababababa",
   "bababababababababababababababababababababababababababababababababababababababababababababa",
   "bababababababababababababababababababababeabeacbacbacbabababababababababababababababababac",
   "babababababababababababababababababababababababababababababababababababababababebdudududud",
   "ufababduabBddbraBduaraBdaBdabaBdababababababababababababababababsababababababababababababa",
   "babababababababvfhabababababababababababababababababababababababababababababababababababab",
   "ababababababababababababababababababababababababababababababababababababababababababababab",
   "abBdaBddrbrmBdvtBdfmfrfrfrfBdeBderBdBasrtrvfrBaredefireferefBavfdfvfeieverBdBaefefBdefeBdi",
   "efdvrdBdftefdfdfdfBdrBdefBdrBdeBdeueBdBaBdfedfBafgefgfegfgfgefefrirdefgBdeBdeBdeBdeBdeBdeB",
   "dfegfBdgBdgfeBdgBdeBdefBdietkvterfBdfgBdeBdeBdeBdeBdeBdeBdeBdfBdgfBdfBdfBdfBdeBdeBdifefrBd",
   "fgBdeBdeBdeBdeBdeBdeBdfegfBdfgBdgfBdeBdefBdirtBdefBdfgBdeBdeBdeBdeBdeBdeBdfegfgfBdgBdgfBdf",
   "gBdeBdefBdivekBdfeBdeBdeBdeBdeBdeBdeBdeBdeBdeBdgfgBdgBdgfBdeBdgBdikvtvBdfgfeBdeBdeBdeBdfef",
   "gBdfBdfBdfBdeBdeBdefBdiBdrkvefgreBdeBdeBdeBdeBdfegfgBdfgBdgfBdgBdeBdefBdiBdegBdfgeBdeBdefe",
   "gfBdgBdgfevBdegkefBdikveBdfgBdeBdeBdeBdeBdeBdfBdgfBdfBdgBdiBdgrBdefefBdtedfrirBdeBdeBdeBde",
   "BdeBdefefeBdeBddBdfBdiBdeBdevrvrvfvikvfvfvfnonogeBdeBdfgfrfefBdfBdvfvBdvrvrBdegfgfgfgfeire",
   "gfefegegefefgfgfegigfvaBdaBdaBdbrdbeBdeBdeBdeBdeBdeBdeBdeBdeBdeBdeBdeBdeBdeBdeBdeBdfrkBdev",
   "BdaBdbBdmevrewenoBderjeBdefgBdefgrBdefBdeBdeBdfBdefgfgfgfrdrtefBdiBdkBdrmrfBafiBdedeBdefef",
   "eBdeBdeBdfgfgBdgfgfBdvBdrieBdeBdeBdeBdikBdvefgfBdregfgfBdfgfgfgfBdfiBdiBdrdrBdfhfBdfgefgfg",
   "fgfgeBdrirvfvrfgegfgfgfeiefgfgfgfgBdregfgfBdriBdeiedrbabBdaBdarBdfrfgfefefegfeBdbdbdbdfaba",
   "bababababababababababababababababababababababababababababababababababababababababababababa",
   "bababababababababababababababababababababababababababababababababababababababababababababa",
   "babababababababababababababababababababababababababababababababababBdaBdbababBdaBdbBdaBdaB",
   "daBdababBdbcbcbcbBdbacububBdbacubBdbaBdubauBdbBdbacuBdwBamrpqnpqnprxyBawrpqrlrsnorsrlrwBaB",
   "dBakdBdksnodksnoBddBdtBdfhfhfBdvavavbababvavsavavavavavbabebvbasabvsvbvkjabjkvBdsvsvsvsvsv",
   "svsvsvsvsvnonovsvnovsvsvsvBdvBdkvkvsvsvsvsvnononononononokvsnosnononononosvsnonononononono",
   "nonononosnonosnosvsvsvBdvBdvabababababababababdabababababababababababababababababababababa",
   "bababababababababababababababababababababababababababababvababfabBdrkrbBdbBdbBdeBddrBdfeBd",
   "eBdeBdeBdeBdeBdeBdeBdeBdfrpqpqrpqrpqrmrmrpqrpqnonononordrmrmrnrvrnonononomBdvBdvBdvBdvwrvd",
   "ejnononononovnonononomnovjfgmdvjdervBdeBdfudemerdeBdeBdeBdvkvevBdvevBdkvkvkvkvkvevedeBdvBd",
   "edredreieBdabababababababababababababababababababababababefhrfrdababababababababababababab",
   "abdfejfrBduduababababababababababababababababababababababababababababababababababababababd",
   "babababababababduababeababababababababababababababababababababababababBdabBdbBdbabababaBdd",
   "abedbefefefegfgvfBdkvtvBderBdgegfBdriBdfererefiefrefgBdreBdfgefgfgfgrBddiBdrefdeieBdefgfgf",
   "BdefefgBdiBdredevegfgefefefefefeBdedregfgredgfBdeBdeBdeBdeBdeBdbudbduBdbegfgfgrgfBdiBdeBde",
   "BdeBdBbBceBdeBdbBdbBdefeseBdeBdeBdeBdeBdeuBdeonveBdeBdvBdetvfrnorBdfrmlnonononononononorno",
   "rlrBdrmnononorsmsBdrtrBdeBdeBdBaBdrtrnorsrmrirsranroulubnsosnornorededeBdeBdeBdeBdeBdtsuvt",
   "BdvsvBdBavBdeBdeBdeBdeBdeBdeBdeBdrBdkBdvjkvkvBdvBdvBdvfBdeBdeBdfkBdekBdejejBdefBdeBdreBder",
   "jBdabeBdiBdaBdbBdeBdeBdraBdaBdaBdaBdbBdbBdbBdbBdeBdeBdeBdeBddBddBddBdeBdeBdeBdeBdeBdeBdrke",
   "vkeBdkBdeBdeBdkekBdreBdrBdeBdkekBdkefBdfBdfeBdeBdeBdfBdfkBdrBdekrekBdevefBdkrBdeBdreBdkeBd",
   "keBdrBdkBdeBdaBdbBdkefBdiBdiedeaBdfmdbBdsBdkBdeBdfmBdeBdeBdfekeBdefkrBdefrBdekBdeBdgfgefrB",
   "dkifefeBdfgegfgfrBarfBdBaBdeBdiBdfefgfBdiregeBdefreBdfgegfgerfrgfiererBdkBdeBdegfgfgfrfefB",
   "deBdeBdeBdeBderBdefgfBdiBdfgBdeBdeBdeBdeBdeBdeBdfegfgBdgBdgBdeBdgBdegBdfBdfBdeBdeBdeBdeBde",
   "gfBdgBdgBdgBdgfgfeferBdrBdfBdegfgfgferirBdrfeBdegfgfgfgfereBdiBdegfBdgfgfrefBdegfgfgfreBdi",
   "BdrBdefgfgfgferBdiBdiBdeBdfgfgfgfBdikrveBdegfgfrBdabikBdeBdeBdeBdeBdegBdgBdfgfegegfrBdiBde",
   "BdegfBdfgferegBdefefgefrfBdefgfefgfrerBdeBdrBderBdiBdeBdegfBdfgferBdikBdreBdfBdgfgfgfBdeBd",
   "eBdefBdfBdfBdfefBdiBdeBdeBdegBdfBdgfgfeBdiBdefgrBdfegeBdegfBdgfgfrifBdeBdkvtvBdreBdjBdrBde",
   "BderBdeBafefBdeBdeBdefgfiBdeBdeBdiBdreBdiBdeBdfrBdefrvdrvBdiBdkBdeBdeBddedriBdabkrBdeBdfeg",
   "BdfdBddrdfBdgBdeBdeBdeBddBddBddBdeBdeBdeBdeBdeBdeBdeBdeBdeBdeBdvfrBaBdviBdvBdfBdfBdvBdvBdv",
   "BdvgfvgBafvfvfvBdvfvBdkBdkBdvBdkBdababBdbabaBdaBdaBdaBdaBdabBdbBdbBdbabaBdaBdaBdaBdbaBdaBd",
   "aBdaBdaBdbababababababBdasbsbasbsbasbsbasbsbasbsbabBdivfvfvfvfvrBdfBdfBdbebBdbBdfBdfBdfBdf",
   "BdfBddBdfBdeBdfdBdiBdevBdefBdefiBdtBdedfiBdefeiBdrBdeBdeBdeBdeBdeBdkfBdabfdBdiBdrBdkvktkBd",
   "kvkBdeBdeBdeBdeBdeBdeBdeBdeBdeBdeBdeBdeBdeBdeBdeBdeBdeBdeBdeBdeBdeBdeBdeBdeBdeBdeBdeBdeBde",
   "BdeBdeBdeBdeBdsBdvBdvBdvBdvBdvBdvBdkvBdvBdvBdvBdvBdvBdvuvBdvBdvBdvBdvBdvBdvBdvBdvBdvBdvBdv",
   "BdvBdvBdvBdvBdvBdvBdvBdvBdvBdvBdvBdvivBdeBdeBdeBdeBdeBdeBdeBdeBdeBdBaBdBaBdfBdBcBdBcBd"]
  fun i => Category.all.getD i .unassigned

def Category.of (c : Char) : Category := (Category.table.get? c.toNat).getD .unassigned

end ColumnSpec.Text
