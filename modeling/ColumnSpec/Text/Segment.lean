import ColumnSpec.Text.Ranges
/-!
# Classes for text boundaries

The three Unicode properties that find the boundaries of grapheme clusters, words and
sentences, as of Unicode 16.0.
-/
namespace ColumnSpec.Text

/-- A property that sorts characters into classes for finding text boundaries: its names, the
names of each class (short name first), and the class of each run of code points. -/
structure BreakProperty where
  names : List String
  classes : Array (List String)
  table : RangeMap Nat

/-- The place of a character's class, none for a character of no class. -/
def BreakProperty.classOf? (p : BreakProperty) (c : Char) : Option Nat :=
  match p.table.get? c.toNat with
  | some (n + 1) => some n
  | _ => none

/-- The classes that find the boundaries of grapheme clusters. -/
def BreakProperty.graphemeClusterBreak : BreakProperty where
  names := ["GCB", "Grapheme_Cluster_Break"]
  classes := #[
    ["CN", "Control"], ["CR"], ["EX", "Extend"], ["L"], ["LF"], ["LV"], ["LVT"], ["PP", "Prepend"],
    ["RI", "Regional_Indicator"], ["SM", "SpacingMark"], ["T"], ["V"], ["ZWJ"]]
  table := RangeMap.ofLines
    ["akbcbsDrBhnbWwEiKphKdBtbbbcbcbbCegklbbBuvqbDxhbbgccbeBhbbbBeBbDnlCgjjbyebjbdbfBrdCacfjBqyb",
     "BgbCcbbbbdiebcbhkcBdbcCebbbceccccbjbkcBabccbCebbdceccddbBecdblcbCebbdfbcbbcbucwgbbcCebbcbe",
     "ccccbhdkcBebChbbbcddbdbjbBobdbCdbbdebdbehclcBdbcCebbbbcbcbbcbcchclcpbmccCdcbbcebdbdbbibkcB",
     "dbcCsbebcdbbbhbscCjbbbhmiDubbbjlhCvcBbbbbbbecBxobfbcflbBkjbDyebgbcccxccedqenbbbcgbpbDuDsCu",
     "DkNldBKkdbBccbBdcBecCmcbhibcljbBtdbbEncBibEodecdecbgdIlccbCfbbbhbbbbcigkcbBwBfBxebBvhbbfbc",
     "BmjmcbBebeccbdCebbcdbbdcBwiiccFwdbnbhebgbcbcHqCmUdbbbcyhBxqDsBhEOcdFlbDsBgVigEbcBSQeebkBgc",
     "DccKmbdbebxccbebDfcByqcBasnbBmizlcmBdddbBvbceccdBkbCpgccccmbibbBubBzbbdccfcbbBpbccfbbJccbc",
     "bcbbbsbBbbBbbBbbBbbBbbBbbBbbBbbBbbBbbBbbBbbBbbBbbBbbBbbBbbBbbBbbBbbBbbBbbBbbBbbBbbBbbBbbBb",
     "bBbbBbbBbbBbbBbbBbbBbbBbbBbbBbbBbbBbbBbbBbbBbbBbbBbbBbbBbbBbbBbbBbbBbbBbbBbbBbbBbbBbbBbbBb",
     "bBbbBbbBbbBbbBbbBbbBbbBbbBbbBbbBbbBbbBbbBbbBbbBbbBbbBbbBbbBbbBbbBbbBbbBbbBbbBbbBbbBbbBbbBb",
     "bBbbBbbBbbBbbBbbBbbBbbBbbBbbBbbBbbBbbBbbBbbBbbBbbBbbBbbBbbBbbBbbBbbBbbBbbBbbBbbBbbBbbBbbBb",
     "bBbbBbbBbbBbbBbbBbbBbbBbbBbbBbbBbbBbbBbbBbbBbbBbbBbbBbbBbbBbbBbbBbbBbbBbbBbbBbbBbbBbbBbbBb",
     "bBbbBbbBbbBbbBbbBbbBbbBbbBbbBbbBbbBbbBbbBbbBbbBbbBbbBbbBbbBbbBbbBbbBbbBbbBbbBbbBbbBbbBbbBb",
     "bBbbBbbBbbBbbBbbBbbBbbBbbBbbBbbBbbBbbBbbBbbBbbBbbBbbBbbBbbBbbBbbBbbBbbBbbBbbBbbBbbBbbBbbBb",
     "bBbbBbbBbbBbbBbbBbbBbbBbbBbbBbbBbbBbbBbbBbbBbbBbbBbbBbbBbbBbbBbbBbbBbbBbbBbbBbbBbbBbbBbbBb",
     "bBbbBbbBbbBbbBbbBbbBbbBbbBbbBbbBbbBbbBbbBbbBbbBbbBbbBbbBbbBbbBbbBbbBbbBbbBbbBbbBbbBbbBbbBb",
     "bBbbBbbBbbBbbBbbBbbBbbBbbBbbBbbBbbBbbBbbBbbBbbBbbBbbBbbBbbBbbBbbBbbBbbBbbBbbBbbBbbBbbBbbBb",
     "bBbbBbbBbbBbbBbbBbbBbbBbbBbbBbbBbbBbbBbbBbbBbbBbbBbbBbbBbbBbbBbbBbbBbbBbbBbbBbbBbbBbbBbbBb",
     "bBbbBbbBbbBbbBbbBbbBbbBbbBbbBbbBbbBbbBbbBbbBbbBbbBbbBbbBbbBbbBbbBbbBbbBbbBbbBbbBbbBbbBbbBb",
     "bBbbBbbBbbBbbBbbBbbBbbBbbBbbBbbBbbBbbBbbBbbBbbBbbBbbBbbBbbBbbBbbBbbBbbBbbBbbBbbBbbBbbBbbBb",
     "bBbbBbbBbbBbbBbbBbbBbbBbbBbbBbbBbmxeBxNHybBCjqqqHzbGccDcmTtbIsbFtfCMgdbcfeBodebGjcWbeCnfMf",
     "cDbeCslBxeEsbbbCbpBpbcckdbBtdecccbebkbBydBkfbiqcBsbmcbBwdjcbcfebbbDoddcbbcgbcbGbbdivccCdcb",
     "bbbecccdjbkcchdfCpbcgbbcbbdbbcdbbocDedicdbbxbDdbcgbbcbbcbcJbbcececbcBbcDedicbbcEcbbbcgbbDx",
     "dcebfJwdjbcJlbfbcccbbbbbbbFldeccebdbBckBogbbeibjgcdBognbcPpbhbgbbDewbbhbcbcEsgdbbcbhbbCofb",
     "cbcbbbNjccjcbbBwcfdcbbbxbHXdqbgpQYymddDSafChhBOibbCdheDdblcBDAxcbeGYuBucxUwbbddbfiichBeeFs",
     "dCYdCdeByibobwfbpCAihbrchbcbfDwbGehOlbCjeToeJucBCihEfhDGtBaTnfBSXXoBgDsEyJgFIm"]
    ["bfbcbababadadadadadadadaiadabadadadiadadadaiadadadadadadadadadadaiadadidkadkdakdkdkadadadk",
     "adadkdakakdadadadadkadakdadadadadadadkadakdadkakdadadadkadadkdakakdadadadadkdkakakdadadkda",
     "dadkadadadadadkadakdkdkadkakdadadakadkadadkdakakdiadadadkadadkdadakdakadakdadadakdadadadad",
     "adakadkdadadadadadkdadkdakdadadadakdadadaemladadkadkadadadkdkdkdadadbdadadadkdkakdkdadkdak",
     "dkdadadadkdadadadkadkdkdkadadkakdkdkdadkdkdkdkakdkdadadkdadadakdadabdnbababadadadadadadada",
     "dadadadadadakdkadakakdadadadadkaeadkadkdkdkadadkdkdadadkadadadadadadakdkakdakdkdkakdaghghg",
     "hghghghghghghghghghghghghghghghghghghghghghghghghghghghghghghghghghghghghghghghghghghghghg",
     "hghghghghghghghghghghghghghghghghghghghghghghghghghghghghghghghghghghghghghghghghghghghghg",
     "hghghghghghghghghghghghghghghghghghghghghghghghghghghghghghghghghghghghghghghghghghghghghg",
     "hghghghghghghghghghghghghghghghghghghghghghghghghghghghghghghghghghghghghghghghghghghghghg",
     "hghghghghghghghghghghghghghghghghghghghghghghghghghghghghghghghghghghghghghghghghghghghghg",
     "hghghghghghghghghghghghghghghghghghghghghghghghghghghghghghghghghghghghghghghghghghghghghg",
     "hghghghghghghghghghghghghghghghghghghghghghghghghghghghghghghghghghghghghghghghghghghghghg",
     "hghghghghghghghghghghghghghghghghghghghghghghghghghghghghghghghghghghghghghghghghghghghghg",
     "hghghghghghghghghghghghghghghghghghghghghghghghghghghghghghghghghghghghghamaladadadabadaba",
     "dadadadadadadadadadadadadadadakdkadadadadkakdkdaiadaiadadkdakadadkakdkaiadakdakdkdkdadadad",
     "kdadkadadkdkakakadakadadadkdadadadkakdidadakdkdkdadadkdkdkdkdkdadkdakdkdadakdkdkdadkdkdkda",
     "dadkdakdkdadkakadkdikikdakdadkdakadadkidadadkdaidkdakdadkdadakdkdkdadadadadidakadakdkdadka",
     "dikakdakdkdadabdadadkdadadadakadadakadabadadadkdakdbdadadadadadadadadadadadadadadadadadada",
     "dadadadajadabdbdba"]
    id

/-- The classes that find the boundaries of words. -/
def BreakProperty.wordBreak : BreakProperty where
  names := ["WB", "Word_Break"]
  classes := #[
    ["CR"], ["DQ", "Double_Quote"], ["EX", "ExtendNumLet"], ["Extend"], ["FO", "Format"],
    ["HL", "Hebrew_Letter"], ["KA", "Katakana"], ["LE", "ALetter"], ["LF"], ["MB", "MidNumLet"],
    ["ML", "MidLetter"], ["MN", "MidNum"], ["NL", "Newline"], ["NU", "Numeric"],
    ["RI", "Regional_Indicator"], ["SQ", "Single_Quote"], ["WSegSpace"], ["ZWJ"]]
  table := RangeMap.ofLines
    ["akbcbsbbbebebbbbkbbfBaebbBakbBkbcbhbbbcbfxbBfbSmgBiEifbccebbgbbdbbbubDfbFjbhGkbBmcebbbBpbb",
     "gBtbbbcbcbbiBbeebblggcclbbdBrvkbbbbcbDvbbhbbgccbeckdcbpbbbBeBbcDllbokBhjccbbbcbcwebjbdbfsz",
     "delfybgbcfjBqybBhCcdbsbhkcckbqdbicccwbhbbdecbbhcccdbibecbdcckckbbbcdbgeccwbhbcbcbccbbfeccd",
     "dbhebbhkcdbldbjbdbwbhbcbfcbbibdbdcbpccckjbgbdbicccwbhbcbfcbbhcccdhdecbdcckbbqbbbgddbedcbbb",
     "cdcdddmefddbecbgbokqfibdbxbqcbbhbdbehcbdcbcccckqbdbibdbxbkbfcbbhbdbehcgcbccckbcbmejbdbBpcb",
     "hbdbebfdbhdcckkgbdbsdybjbbchdbegbbbigkccCjbchmibkDjbcjlhbkBmbxcgklbbbbbecibBkeubcflbBkjbDw",
     "ubkmeedbdchdenmbbkecBmbbfbcBrbMvbechbbbecBpbecBhbechbbbecpbCfbecCpcdBgqqDicgdXwcrbBafCxdlh",
     "sejtdlscmnbdbcCmBgjbckBhdbbkgDlhfcBibbfCskBfbmemkkEykBmxfCfkbBdcbkgkwBfBxfBvridkrjmdBenckB",
     "somBkuikddkBkclfBrcdqdbvebgbcdbfHkCmKscgcBmcgcibbbbbbbBfcCbbhbbddbhdecgenfdbhdhbdbbbcickbc",
     "bcfbpcdbpbkbfbkbbnbqnBzBhrbebckbbdfgbbbbbbeblceffebrBpBFhCaCRuIvgedcmBmbbfbcCehbpbxjhbhbhb",
     "hbhbhbhbhbBgBvbRwbebBkgbffcDoccdDnbefBrbDqrBgBwqIaBvbDkBPDwBSvCpBucKjdqkcuBvebkbBfcDccwHqc",
     "cbbbivqbdbebxfebtCamcByskkgsgdbbcbkBcicxnmBddeBvoobklbkkgBpojdbicckBhdBybbdccfcbbBelfcdckg",
     "cgcgjhbhbCggElibcckgQNsmxeBxNGuhmffbbkbnbfbbbcbcbkDuBhNzsCmcCcBomeqbcbblqdcydbbbbbbBafbFfc",
     "bhbebbbbkbbfBaebbBalCecBfdgcgcgcdBcdembBabtbcbpcoBiEtCrCbFgbFaBddBxpbBfBgnBefBmffBecBkeibf",
     "BqGcckgBkeBkeBoiCamlbpbhbcblbpbhbcdCamLzjwkiygbBqbjCrgcbbBsbcdbcxkxjBfCntbckwkBaCsCegcCmbd",
     "bcfeebdbBdcdebBgBddBdBjibBcczCckwktnsEgCvCdBznBznBkeikgkBcdfbxJqBqbcdcqdCdeBdkbiwlBfseBqvB",
     "bxjdCbpBfkbccbjeBtlcbebkbczhkgdBkobkebcbiBjbcbjdBwoeeebckbbbBjsbzmgbcbCkhbbbebpbkhBvmfkgeb",
     "icccwbhbcbfbcbhcccdcbgbffcchdflkbbcbbBmbbjbbcbbebfbbbncBdCbsefkebdBeBwucbbikGkBvhcjxecBiBw",
     "rdblkBmBrnbhkguCfpekHqBspDxCmkvicbcibcbygbccebbbcmkCsicBnhchbbbbBbbkBohbeibiblBuqdbsCvHrBh",
     "pkgjbBlibibpkyBecwboCvhbcbBmgdbbcbhbbikggbcbBgfbcbfbhkLytejcbbnbBihdfnkbDhbDbBJmDyEhrHoDXk",
     "DtpBPgqbgpkFXrfWlKDdBeskCOsVxhBfbkgDbbkgBecflBwhjemkjvftQqBtdkHqCmEyCxebbCdhenCmcbbblcYGce",
     "bhbcbbLbdByboeEAiEdfndjhkdcbeGEmkTyBucxUwfdgiichBeeFsdRbDhbCtbccbcccebmbbbhbCnbecibhbBcbeb",
     "fbbdhbNcczbzbBfbzbBfbzbBfbzbBfbzbicByTsCdeByibobwfbpBQmBfggIfhbrchbcbffCkBhbEiBtdhhckebMjB",
     "ebrBsekScBcekIgBecbkSrhbebcbpbHplhBpCqhbekBTuebBbbcbbcbbkbebbbbgbebbbbbbdbcbbcbbbbbbbbbbcb",
     "bcebhbebebbbkbrfdbfbrYeBagBagBaDoBaTnfDAekBSUXbbBeDsEyJg"]
    ["ajnbaracaqamakaolmaiadaianaiafaialaiaiaiaiaieiaiaimiailiaiaiaiaiaeiaiaiailimiaeaeaeaeaeaga",
     "gilafamaeafaieoaomaieiaiefaeieaeioiaiafieieaieiaoieiamaiaeaieieieieaieaiaiaiafaeiefeieieie",
     "ieaoaieaiaiaiaiaiaiaeieaeaeiaeaiaieaoiaiaeaeaiaiaiaiaiaiaiaeaeaeaeaeaiaiaoeieaeaiaiaiaiaia",
     "iaeieaeaeaiaieaoaieaeaiaiaiaiaiaiaeieaeaeaeaiaieaoaiaeiaiaiaiaiaiaiaiaiaiaeaeaeaiaeaoaeiai",
     "aiaiaeieaeaeaeaiaiaieaoaieaiaiaiaiaiaeieaeaeaeaiaieaoaieaeiaiaieieaeaeiaieaieaoaiaeaiaiaia",
     "iaiaeaeaeaeaoaeaeaeaeaoaeaeaeaoaiaeaoaeaeaeaeiaiaeaeieaeaeaeaoaeaeaeaeaeaeaeoeaiaiaiaiaiai",
     "aiaiaiaiaiaiaiaiaiaiaiaiaiaiaeaiaiaiaiairiaiaiaieaieaieaiaiaeaeaeaoaefeoaiaieieiaiaiaeaeao",
     "aoaieaeaeaeoaoaeaeieiaoaeaeieioieaieaoaioiaiaiaiaeaeieieieiaieiaiaiaiaiaiaiaiaiaiaiaiaiaia",
     "iaiaiaiaiararaesfakakalnfdadamadarfafaiaiaiaeaiaiaiaiaiaiaiaiaiaiaiaiaiaiaiaiaieiaiaiaiaia",
     "iaeiaiaiaiaiaiaiaiaiaeaiaraiaeahaiaehahahaiaiaiahahahaiaiaiaioiaieaeaieieaiaiaiaiaieieieie",
     "aeaiaeieaoaeiaiaieoieaieaiaeieaioaeaoaieaieieaoaeaeaeaeaeaeaieaieaiaiaiaiaiaiaieaeaoaiaiai",
     "aiaiagegagagagagagagiaiaiaiaiaemalmaeadadmakamlaiaiafakamakaolmaiadaiaheiaiaiaiaiafaiaiaia",
     "iaiaiaiaiaeaiaiaeaiaiaieaiaiaiaiaiaoaiaiaiaiaiaiaiaiaiaiaiaiaiaiaiaiaiaiaiaiaiaiaiaiaiaiai",
     "aiaiaiaiaiaiaieaeaeiaiaiaeaeaiaiaiaieaiaiaiaiaiaiaiaieaoaoiaeaiaiaeaiaiaeiaiaieaieaiaiaeie",
     "aoeieiaeieafaeafaiaoaeieaoaieiaieaiaeieiaeaeoiaiaiaieaeieaiaiaiaiaiaieaoaeaiaiaiaiaiaiaeie",
     "aeaeaiaeaieaeaeaiaiaiaiaieaeaeaeaeieiaeaieiaoaeiaieiaiaoaieaeaieaieaiaoaieiaoaoaeaoaieaioa",
     "iaiaiaiaieaeaeieieaoaiaieaeiaieaieieieaeaieieaiaiaiaoaiaieaeiaoaiaeaeaiaiaieaeaeaeieaoaiai",
     "aieaeaeiaoaieaeieiaieaeaoeaiaiaiaiaiaifeieaiaiaieoaiaiaoaiaoaiaeaieaiaoaiaiaiaoaiaiaeieaei",
     "aiaieaeahahahahahahahaiaiaiaiaeafaoaeaeaeaefeaeaeaeaiaiaiaiaiaiaiaiaiaiaiaiaiaiaiaiaiaiaia",
     "iaiaiaiaiaiaiaiaiaiaiaoaeaeaeaeaeaeaiaiaeaeaeaeaeaiaeaiaeiaoaiaieaieoaieoaieioaiaiaiaiaiae",
     "aieiaoaiaiaiaiaiaiaiaiaiaiaiaiaiaiaiaiaiaiaiaiaiaiaiaiaiaiaiaiaiaiaiaiaiaiaiaiapaeaoafaeae",
     "a"]
    id

/-- The classes that find the boundaries of sentences. -/
def BreakProperty.sentenceBreak : BreakProperty where
  names := ["SB", "Sentence_Break"]
  classes := #[
    ["AT", "ATerm"], ["CL", "Close"], ["CR"], ["EX", "Extend"], ["FO", "Format"], ["LE", "OLetter"],
    ["LF"], ["LO", "Lower"], ["NU", "Numeric"], ["SC", "SContinue"], ["SE", "Sep"], ["SP", "Sp"],
    ["ST", "STerm"], ["UP", "Upper"]]
  table := RangeMap.ofLines
    ["ajbbcbsbbbedccbbkbebbBabbbdBabbbhbBabjbbbbhbebbexbhybibbbbbbbbbbbbbbbbbbbbbbbbbbbbbbbbbbbb",
     "bbbbbbbbbbbbbbbbbbbcbbbbbbbbbbbbbbbcbbbbbbbbbbbbbbbbbbbbbbbbbbbbbbbbbbbbbbbbbbbbbbcbbbbdcb",
     "bbcbdcebcbddcbcbbbbbcbbcbbcbdbbbccbbdecbcbcbbbbbbbbbbbbbbbbcbbbbbbbbbbbbbbbbbccbbbdbbbbbbb",
     "bbbbbbbbbbbbbbbbbbbbbbbbbbbbbbbbbbbbbbbbbbbbbbbbbbbhcbccbbebbbbbbbbCrbBkhcemofhbbbrEibbbbb",
     "bbbcebbgbbdbbbcbrbjBjbcddbbbbbbbbbbbbbbbbbbbbbbbfbbbbbccBzBwbbbbbbbbbbbbbbbbbbbbbbbbbbbbbb",
     "bbbbbhbbbbbbbbbbbbbbbbbbbbbbbbbbbbbbbbbbbbbbbbbbbbbbbbbbbbbbcbbbbbbbbbbbbcbbbbbbbbbbbbbbbb",
     "bbbbbbbbbbbbbbbbbbbbbbbbbbbbbbbbbbbbbbbbbbbbbbbbbbbbbbbbbbbbbbbbbbbbbbbbbbbbbbbbbBmcbdbcBp",
     "bhBtbbbcbcbbiBbefmggcclbbdBrvkbcbcbDvbbhbbgccbeckdcbdmbbbBeBbcDllbokBhjccbbbcbcwebjbdbfjbb",
     "bdcbzdelfybgbcfjBqybBhCcdbsbhkcckbqdbicccwbhbbdecbbhcccdbibecbdcckckbbbcdbgeccwbhbcbcbccbb",
     "feccddbhebbhkcdbldbjbdbwbhbcbfcbbibdbdcbpccckjbgbdbicccwbhbcbfcbbhcccdhdecbdcckbbqbbbgddbe",
     "dcbbbcdcdddmefddbecbgbokqfibdbxbqcbbhbdbehcbdcbcccckqbdbibdbxbkbfcbbhbdbehcgcbccckbcbmejbd",
     "bBpcbhbdbebfdbhdcckkgbdbsdybjbbchdbegbbbigkccnBwbchfhibkBncbbbfbybbbkbcjbcfbbbhbkceBgbxcgk",
     "lbbbbbecibBkeubcflbBkjbCfBrubkcegeedbdchdenmbbkecBmbbfbcBrbbMubechbbbecBpbecBhbechbbbecpbC",
     "fbecCpcdcbecxqqDicgdXwbbrbBacdCxdlhsejtdcjscmnbdbcmCaBgdbebbckybbebbbdbbkgDlhfcBibbfCskBfb",
     "memickBecflBseBagkBmxfeCbkbBdcbkgknbeeBfBxfBvribckcccljjddBenckBsomBkudcdkddkBkcjbbfBrcdqd",
     "bvebgbcdbfHkCmbbbbbbbbbbbbbbbbbbbbbbbbbbbbbbbbbbbbbbbbbbbbbbbbbbbbbbbbbbbbbbbbbbbbbbbbbbbb",
     "bbbbbbbbbbbbbbbbbbbbbbbbbbbbbbbbbbbbbbbbbbbbbbbbbbbbbbbbbbbbbbbbbbbbbbbbbjbbbbbbbbbbbbbbbb",
     "bbbbbbbbbbbbbbbbbbbbbbbbbbbbbbbbbbbbbbbbbbbbbbbbbbbbbbbbbbbbbbbbbbbbbbbbbbbbbbbbbjigcgciii",
     "igcgcibbbbbbbbiiociiiiiifbcfbbddbcfdecceeiffdbcfdlbccdcdiebdcfbjcbchcdvbfbkbblcbncbnBzBhrb",
     "ebcbdcdbbbdfgbbbbbbebbebebcccfbeebrqqdbbeOteBdcPfBaBaYbghoDbcBfkPnwCleBgcTuBwBwbbdcbbbbbbe",
     "bbcbidbbbbbbbbbbbbbbbbbbbbbbbbbbbbbbbbbbbbbbbbbbbbbbbbbbbbbbbbbbbbbbbbbbbbbbbbbbbbbbbbbbbb",
     "bbbbbbbbbbbbbbcgbbbbdbbmBmbbfbcCehbpbxjhbhbhbhbhbhbhbhbBgoocckebbmbfbqciQdbbbcdkcibdbjgbfc",
     "feDicccdbDmbefBrbDqrBgBwqTsJToCmBGUfCpBubbKjbcqkcubbbbbbbbbbbbbbbbbbbbbbbbbbbbbbbbbbbbbbbb",
     "bbbbbbbebkbbbbbbbbbbbbbbbbbbbbbbbbbbbbbdcDccbbdbBfjcbbbbbbbbbbbbbdbbbbbbbbbbbbbbbbbbbbbbbb",
     "bbbbbbbbbbbbbbbbbbbbbbbbbbbbbbbbbbbbbkbbbbcbbbbbbbbbbcbbbbbbbbdbbbbbbbbbbbbbbbbbbbbfbfbbbb",
     "bbbbbbbbbbbebbbcbcbbbbbbbbbbbbbvdbbbdhbdbebxfebtCaccicBysickgsgdbbcbkBcibbxnmBddeBvohcfbkg",
     "fbkkfbBpojdbicckddxdbdBybbdccfcbbbydclfcdckgcgcgjhbhbBrbogDcBjibcckgQNsmxeBxMNcOccEcBmhmff",
     "bbkbnbfbbbcbcbEeBhNzcqCmcCcBomeqcbbdchqbccqcchcbcbcbgebmfbFfcbbbgcccbbkbebbBabbbdBabbbbcbc",
     "bbCecBfdgcgcgcdBcdembBabtbcbpcoBiEtCrCbFgbFaBddBxpbBfBgnBefBmffBecBkeibfBqBoBoDackgBkeBkeB",
     "oiCamlbpbhbcblbpbhbcdCamLzjwkiybcdbBqbjCrgcbbBsbcdbcxkxjBfCntbckwkBaCsCegcCmbdbcfeebdbBdcd",
     "ebwciBddBdBjibBcczCckwktnsEgCvCdBznBznBkeikgkgwdfbbwJqBqbcdcqdCdeBdkbiwlefwseeBmvBbxjdCbpc",
     "BdkbccbjeBtlcbebkbczhkgdBkobkbdbcbiBjbcbjdBwoeccebckbbbbcBgsbzmcbcbbcbCkhbbbebpbkbgBvmfkge",
     "bicccwbhbcbfbcbhcccdcbgbffcchdflkbbcbbBmbbjbbcbbebfbbbclcBdCbsecdkebdBeBwucbbikGkBvhcjbcfp",
     "ecBiBwrcbblkBmBrnbhkguBcBbcpekcdbhHdBspDxBgBgkvicbcibcbygbccebbbcbbbjkCsicBnhchbbbbBbbkBoh",
     "bedcdbiblBuqbcbsCvHrBhpkgjbBlibibcnkyBecwboCvhbcbBmgdbbcbhbbikggbcbBgfbcbfbhkLytechcbbnbBi",
     "hdfclkbDhbDbBJmDyEhrHoDXkDtpBPgqbgpkFXrfWlKDdBeskCOsVxhBfbkecDbbkgBecfbkBwhcheblkjvftQqBtb",
     "ckHqBgBgybDzCxebbCdhenCmcbbblcoJCaiBVqBpkNFrebhbcbLfpbBddcboeiPgDKuEdfndjhkdcbeGEmkTyBucxU",
     "wfdgiichBeeFsdRbBaBaBahbsBaBabbccbcccebiebbbhblBaBacbecibhbBacbebfbbdhbBaBaBaBaBaBaBaBaBaB",
     "aBaBaBcczbzbgzbzbgzbzbgzbzbgzbzbgbbcByTsCdeByibobdbsfbpBQmkbuggIfhbrchbcbffCkBhbEiBtdhhcke",
     "bMjBebrBsekScBcekIgBecbkSrhbebcbpbHplhBpBiBihbekBTuebBbbcbbcbbkbebbbbgbebbbbbbdbcbbcbbbbbb",
     "bbbbcbbcebhbebebbbkbrfdbfbrYeBagBagBaBWmdCBvkBNqCLFcBgGDugIocINqoLBlpXyDQwUwCFyHHzfGFgBOMX",
     "lbBeDsEyJg"]
    ["amhmdamncacakbajkanaocacaicacalamaicafaiaicaoaoiaioioioioioioioioioioioioioioioioioioioioi",
     "oioioioioioioioioioioioioioioioioioioioioioioioioioioioioioioioioioioioioioioioioioioioioi",
     "oioioioioioioioioioioioioioioigoigoioioioioioioioioioioioioioioioioioioioioioioioioioioioi",
     "oioioioioioioioioioioioioioioioioioioioioioioioioioioioioioioioigigiagaiagagaeoioigaoiaiao",
     "aoaoaoaoioaoioioioioioioioioioioioioioioioiaoioioioioioioioioioioioioioioioioioioioiaeoioi",
     "oioioioioioioioioioioioioioioioioioioioioioioioioioioioioioioioioioioioioioioioioioioioioi",
     "oioioioioioioioioioioioioioioioioioioioioioioioioioioioioioioioioioioiaoagakainaeaeaeaeaea",
     "gagafakaeafngejajagegngefaegeaegjgagnafgegeagegajgegakngaeagegegegeanananageagagagafaegefe",
     "gegegegenjageagagagagagagaegeaeaegaeagageajgagaeaeagagagagagagagaeaeaeaeaeagagajegeaeagaga",
     "gagagagaegeaeaeagageajageaeagagagagagagaegeaeaeaeagageajagaegagagagagagagagagagaeaeaeagaea",
     "jaegagagagaegeaeaeaeagagageajageagagagagagaegeaeaeaeagageajageaegagagegeaeaegageageajagaea",
     "gagagagagaeaeaeaeajaeagegeageajagagagagagagegegagagaeajagagaeajaeaeaecegagaeaegeaeaeagegjn",
     "agegegegegegegejeaoaoaoagaigagagagagagagagagagagagagagagagaeananagaoaiagangmgcagagageagena",
     "geagagaeageagageajaknaknaefejagagegegagagaeaeanjgagagagajageageaeaejajagnaeaegeganjnanaean",
     "egegjgeageanajagjgnioiagagaeaegegegegaieoioioioioioioioioioioioioioioioioioioioioioioioioi",
     "oioioioioioioioioioioioioioioioioioioioioioioioioioioioioioioioioioioioioioioioioioioioioi",
     "oioioioioioioioioioioioioioioioioioioioioioioioioioioioioioioioioioioioioioioioioioioioioi",
     "oioioioioioioioioioiaoaioioiaoaiaoaoaoaoioiaioioioiaioaiaiaioaiaioaioaiaioamfefakacabalfma",
     "canacnamfafaiaciacaiaeaoaoaioioiaoaoaoaoaoaoaioigiaioaoiaiaoigoigacacaoiacacacacacacacaoio",
     "ioioioioioioioioioioioioioioioioioioioioioioioioioioioioioioioioioioioioioioioioioioioioio",
     "ioioioioioioioioioioioioiaoioieoiaiaiaiagagaegagagagagagagagagaecacacanganacancamknagcacac",
     "ageagagagaeagagagagagagagagagagangangjgaoioioioioioioioioioioioioioioioioioioioioioioigeae",
     "agoioioioioioioioioioioioioioiegeananagaoioioioioioioioioioioioioioioioioioioioioioioioioi",
     "oioioioioioioioioioioioioioioioioioioioigaoioigoioioioioioioioioioioioioioioioioioioioioio",
     "ioioiaoiaiaioioioioaioigigegegegeaeaganaegeanjaegagagejgeangeagaegeanagjagegjgageagegeajan",
     "gagegegegegegegagagengeagagagagagaiaiaigeneajagagagagagaiaiagegagagagagagagagcagagagaekaka",
     "caeakacacakbaknkcakagagafanacakbajkanaocacaicacacnckagegagagagagafagagagagagagagagaeagagae",
     "agagageagagagagaoigajaoaiagagaoaoaoaoaiaiaiaiagagagagaigiaiaiagagagagagagagagagagagagagaga",
     "geaeaegagagaeaeanagagagageagagagagagaoaiageajajgoaeagiagaeagagaegagageanagenagagaegenajege",
     "gaegeafneafagajaegeajangegageagaegegnaenejgaganagagenanaegeagagagagagnageajaeagagagagagaga",
     "egeaeaeagaeageaeaeagagagagageaeaeaeaegegnaeagegnajaegagegagajageaeanangeagenagajagegajajag",
     "aeajanagageaoijagagagagageaeaegegenanajagageaegageagegegeanaeagegeangagagajagageaegnajagae",
     "aeagagageaeaeaegeajagagageaeaegajagenaegegageaenajeagagagagagagfegeagagagejagagajangajagae",
     "nagenagnajagagaganjaoianagaegeaegagageaeagagagagagagagagagagagagagagagagaenfajaeaeaeaefeae",
     "aeaeaoioiaioioaoaoaoaoaoiaiaiaioioaoaoaoaioaoaoaoaoaioioioioioioiaoaiaioaiaioaiaioaiaioaia",
     "ioiajaeaeaeaeanaeaeaigiaiaeaeaeaeaeaiaeagaegajagageagejagejagegjagagagagagaeaoiegajagagaga",
     "gagagagagagagagagagagagagagagagagagagagagagagagagagagagagagaoaoaoacajagagagagagagagagagafa",
     "eaea"]
    id

def BreakProperty.all : List BreakProperty :=
  [.graphemeClusterBreak, .wordBreak, .sentenceBreak]

end ColumnSpec.Text
