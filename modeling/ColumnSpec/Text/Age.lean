import ColumnSpec.Text.Ranges
/-!
# Age

The Unicode version that first assigned each code point, up to Unicode 16.0, numbered so
that a version and all before it are the ages up to its number.
-/
namespace ColumnSpec.Text

/-- A Unicode version that assigned characters, by its place in `Age.versions`. -/
structure Age where
  index : Nat
  deriving DecidableEq, Repr

/-- The versions in order, each by its number and then its other name. -/
def Age.versions : Array (List String) := #[
  ["1.1", "V1_1"],
  ["2.0", "V2_0"],
  ["2.1", "V2_1"],
  ["3.0", "V3_0"],
  ["3.1", "V3_1"],
  ["3.2", "V3_2"],
  ["4.0", "V4_0"],
  ["4.1", "V4_1"],
  ["5.0", "V5_0"],
  ["5.1", "V5_1"],
  ["5.2", "V5_2"],
  ["6.0", "V6_0"],
  ["6.1", "V6_1"],
  ["6.2", "V6_2"],
  ["6.3", "V6_3"],
  ["7.0", "V7_0"],
  ["8.0", "V8_0"],
  ["9.0", "V9_0"],
  ["10.0", "V10_0"],
  ["11.0", "V11_0"],
  ["12.0", "V12_0"],
  ["12.1", "V12_1"],
  ["13.0", "V13_0"],
  ["14.0", "V14_0"],
  ["15.0", "V15_0"],
  ["15.1", "V15_1"],
  ["16.0", "V16_0"]]

/-- The version of each run of code points, by its place plus one, and zero for none. -/
def Age.table : RangeMap Nat :=
  RangeMap.ofLines
  ["aTieBeibbsdloDlfcBvbkfrCsjbifdcbnecccbdbbehbbbubBsbhbcbbbbbbbbscbfebmbCobmbBpbcceCbcccccbB",
   "cciccgqeqccibBmchbBnbbbccbbrbnkbjbdiBbebflebbfbbjfbbbbbbBaftddgbocCucfbpbBeckfbobBedBbcdBe",
   "sBxboChcdBucpbBccbblfBfbcfbibblgcbiklbpbBbbbdbCbcsbbfbczcfbccbcbdbicccwbhbbdecbbhcccdbibec",
   "bfcvbcbcbbbbgeccwbhbcbcbccbbfeccddbhebbhpbbkdbhbbbdbwbhbcbfckbdbdcbpbdckbbhbgbdbicccwbhbcb",
   "becibcccdhbcecbdcclbgkcbgddbedcbbbcdcdddibdefddbecbgbobmifbdbibdbxbkbfcbbhbdbehcbcbcbcccck",
   "hbibbcbibdbxbkbfcchbdbehcgbbbccckbcbmbbcbibdbxbqbcbgbbdbebbedbhbccckgdhbbcbsdybjbbchdbegbb",
   "bigkcdmCgeBdBlcbbbbcbbbbbgebhbdbbbbccbnbdcfbbbgbbkcccBgCubBhbceBbegbbbvdhbbdbpbbbcdecBlBib",
   "fbcbhdegBaCmecBmbbfbcBnccbbdDmfCqfDeghbClbbbechbbbecBnbbbecBfbbbechbbbechbhbxbBfbbbechbBnb",
   "tcccBcdBagDhbcgcbYgjBddDdihnbhbjbxjumnbdbcmDpbckgkgpbkgDkbhBqbfCskBdcbmemebdBqcflBqceBagkb",
   "dcBgBcccClbBdclgkgocpcoBxCybbcBtcbBrdmgCaieCedpdBzjcfBrcdiiBjebcbfEeDkhBcpebbbbcFzbeDmgwcg",
   "cBmcgcibbbbbbbBfcCbbpbocgbtcdbjbBvbxbgfccbhfbbehbcBbbfidlbbdcedbbdbbbpschbebpCfcbbpbcbdBwb",
   "bebceDnjmJiobbErbbBeCaclmblhebBlcdwlvFjubFukDciiuccbbDicmckilbccqbkdekbtbbeybebecBcbBjbbbe",
   "dbbhchoBfdybobhebbbcBceqJwTsoghfeBpdffBacBgbbBidmbibzepbBvbBvbndbdegcEdhcfBtbbfbcCcchbbobx",
   "jhbhbhbhbhbhbhbhbBgyectbkhcffbdlBiBabDlmIgBameCeddbbbDgccgcDqbfBobbbbDqbqydfqucjbqBdcbBkmb",
   "pBccbBypmeBvbEpeDvcBfbJTekCmBEXywiibjvfndBSvdscqbmbdbbjBwLouBgcsiBcgbbDkixefcEdcbccmkbdbbc",
   "gcgcfedccbbbfdvdcbcbfBsbdkgCeiCrbimgBcccDglbBddDablecBfbCdjockceBceCpyfxkgcgcgjhbhbBweccee",
   "DcBuckgQNsmxeBxeDAuJXucChdcEcBmhmffbzbfbbbcbcbEeqbqObqCmcCchbBgmbbcqkgedhcvcckbtbeedbbbFfc",
   "bbDqcDqdgcgcgcddhbhkdbdmbBabtbcbpcoBiEtfdeBtdjCxccbmbdbBvBuFaBddBxpBceBfbejdBbfBrfBebbBkeo",
   "BqBmcBmDcckgBkeBkeBoiCalblbpbhbcblbpbhbcdCamLzjwkiygbBqbjCrgcbbBsbcdbcbwbjClijBwtbcffBacdb",
   "BafbCmCeeccqcBuebcfibdbBbccdejbhjhBgBgBgBnemjCcdBdcBbfishemhDcCvCdBznBzhgBoikgBmdBdicIaBfb",
   "BqbdccqdCdbdBoiBqwBaBmBcuxjDaeBegjbCobkbczhkgCbbodbiBnjCvebckbfbulsbBrbdCkhbbbebpblgChfkgb",
   "dbicccwbhbcbfbbjcccdcbgbfhchdflkbbcbbBmbkbbcbbebkbcicBdDmbbbbbbcBeCuikGkCccsuBiCrlkgntCebb",
   "gkguBcBabcpeqhHdCiDwDfmbhcbcibcbBebccmjkCsicBuclBbCuiCacxbfnqCfhkHaBiokgjbBtbokBddBgcwboCv",
   "hbcbBsdbbcbjikggbcbBlbcbghkLyzhrbBpdBcbDhbpBynbBHvBqbDyDvmbeblHoDXkDvnBPfbjBdkFXrfWlKDdCgC",
   "OsVxhBfbkecDbbkgBecgkCskkbhbvftQqCgHqDnDxCrgebBvjhrCmbbcblcoJBpfgiBDbSpBpbjNFrebhbcbcKzepb",
   "BddcboeiPgDKuEdfndjhkciFVgJqgQuCyBucxjEmCiJmkBncbGylcvCsEsumumDjjshFfDhbCtbccbcccebmbbbebc",
   "bCnbecibhbBcbebfbbdhbNaccLeccByZcpfbpBQmBfggIfhbrchbcbffCkBhbEiBtdockecMiBfrCgfbRwBqIgBreb",
   "SmhbebcbpbHpcqBpCxbekecBEfCqCyCjHmebBbbcbbcbbkbebbbbgbebbbbbbdbcbbcbbbbbbbbbbcbbcebhbebebb",
   "bkbrfdbfbrCacKkBseDwmpcobbpbpwklcdBfbbblbbbcbdbdfibhbkcbdjbbccbkecbksbCeBabcnBijbejhcogFyB",
   "hmdgbCsbcumBlbfefmrhiClbbbHabecbCkcehfysbBpbDifbqbdbbbbbbbdbgcebbcebmcclBwCskbccbcebdndedc",
   "bbcdEmdefDhebgmebpmeCeikgBoiBecckecCkmbdjgbiibcmbmbdpnfbbecbbbefnglcgdckgbcibbdxzDgmocebdd",
   "cddecbfbgtedhedbbddbhchdcbcbibbghchFrbCdBlkbBNncCLEthcBgGDpebgIocINqoLBlpXyDQwUwCFwcHHzfGF",
   "gDFLecDSYocDSYocDSYocDSYocDSYocDSYocDSYocDSYocDSYocDSYocbbBeDsEyJgDSFm"]
  ["bebeghehijbehbebehbeghihbegkbkabjbqababababkbegbebebebebfghiebebebebkegebgbgbgjbebibjgjklm",
   "qababububeaqnacicbjbciabaubahnqkibhkbpyibmbkbehimbgbebebebhbeheaeheahikegajaulalamamatayay",
   "aBbynqnqrysxyusrnqlbhbmblmblmbkmqljijqbabababababababhbababiababababltuahbhabababababababa",
   "babababakabababkuababhbababababababababababhabnhartababababababahbabkababaxbababkabhmababa",
   "babababababababibabababakabaibhaqbubabababqbaykbabababakrayabkabavksqbubababababahbabababa",
   "ybabjabajzatqbxbababmbmtkbkababmsasbsrbkabkskaxeaeaeaeaeaeaeaeaeaeaqaeababababavbvbavbvbvb",
   "vbababvbvbvbabababzababnacacekacmcecacececeaeakeiklmaekekekekekeklkbananabgibinblblbleieie",
   "aeaeaeaeaeieaeaeieaeaeaeaeaeieaeieieaeaeieieamieaiaeraraleleaeqagygyaygagagagagaehaeahaeye",
   "aeuaekalahqahahahahahailaiailaihiailalalalalaqxyajyaBbjyBbknknmamkakaksBbauaunalntqvahijkq",
   "tysmljbckbkbababababababababababababababababebgeghigigkapbgabaimabcdegilmoqrtyabegijkabehi",
   "gijklbejklrabegbgbebegeghijlmqstbeBbababghbgbegbhgiebegighiklhijklklmlmlmlqbmbmbmbmbmbmblb",
   "mbgbmbmbmijnknmgkgeghijkjkqklqaqaxquqvqturuviyiyjklkjklilnaiananainaimamiaiaiaiaiaiaiaiaia",
   "kikiklnqstuvxyaeaeaeaeBabegebabgabgbgabktuababemxikBbaBagbhablhgbhibgbhbwbhbhbhexhbiklnrtu",
   "xyeaegegegegealkakmknkqrnlaijkjkmrmnqmnqsuqruvyvxBbayayayBbayxqnmkixalajaksakalrukaklalala",
   "lqakakakaklqlalnamamamamamaqrqvxarlalacalalacbnglaiababaebabababababmyabybabayfbghygiabkqr",
   "bghbabababgbabababgbababababababaedbhahahahahahahahahahiqsakxaqakakakaqafqfatfaqahahiaiafh",
   "fhahasasaqaqaqyayayayayayayayaBbaqaqaqayayayahahahahahahlalqaqarararjlajkakanarnrariaiaiai",
   "aiuaiaiuaialqaqaqalalalalqaqaqalarararuauaBbaBbaBbalaxaxaxaBbaBbzuauayaxavamamyaqlyauanana",
   "nanuxaqanrqxnqraqaqaqszarararararaqaqarqaqaqaqaqaqaqauqaqaqaraqaqaqaqaBbaBbaBbaBbaBbaBbaBb",
   "aBbaBbaBbaBbasxsasuvxaqaqaqaqraqaqasanvyanaBbaruararyauaqaqxaxaxaxaxaxaxaxavavavatatvtutay",
   "qazaBbaBbasasasasasasasatatatatatatatauauauauauauauazazazBbaxavavjqrajqajqarayalzvzaBbaraB",
   "bamaqaqaqyayaqaqaqaqaqaqaqaBbauanvavnvanastvxaxasuvasxaBbxayayayamtyazavazavataqaqaqaqaqaB",
   "baBbayayayafafakfryaiazauahajuafafafafafafafafafhfafafafafafafafafafafiafjafrararayazasasa",
   "sasasazazavavavavayavavazaBbaBbayayayayaqaqasvasasauavanananananananananananananananananan",
   "ananananananananananananananananakakamamqamamqalqxlumlmlmlmlmlmlmlmlmnvxmlmlmlmlmlmsxamlma",
   "lmsalamatamqrmqmqrmqmqmqrqmqrmqmqmqmqrmqnqrmqsqsqmnmnmnmnmnmnmnmnmnmnmnmqrmqmqrstvxazyqaqs",
   "tuvxamzazquzavayaqaqaqaqaqaxBbaBbatxvrstststsvstustuvxuxyuvurstuxvxvuvruvxyvtuvauavxzvyavx",
   "zBbaBbvxyzxyzBbzxyBbazxyzBbaBbyzBbayzaxaxBbxBbacfxyalyzamarataBaafacxazacacacacacacacacaca",
   "cacafafahac"]
  id

/-- The version that assigned a character, none if no version has. -/
def Age.of? (c : Char) : Option Age :=
  match Age.table.get? c.toNat with
  | some (n + 1) => some ⟨n⟩
  | _ => none

end ColumnSpec.Text
