import ColumnSpec.Text.Ranges
/-!
# Scripts

The Unicode script of every code point, as of Unicode 16.0, and the script extensions of
characters used with other scripts too.
-/
namespace ColumnSpec.Text

/-- A script, by its place in `Script.names`. -/
structure Script where
  index : Nat
  deriving DecidableEq, Repr

/-- The names of every script that some character belongs to: the four-letter code first, then
the long name and any other. -/
def Script.names : Array (List String) := #[
  ["Adlm", "Adlam"],
  ["Aghb", "Caucasian_Albanian"],
  ["Ahom"],
  ["Arab", "Arabic"],
  ["Armi", "Imperial_Aramaic"],
  ["Armn", "Armenian"],
  ["Avst", "Avestan"],
  ["Bali", "Balinese"],
  ["Bamu", "Bamum"],
  ["Bass", "Bassa_Vah"],
  ["Batk", "Batak"],
  ["Beng", "Bengali"],
  ["Bhks", "Bhaiksuki"],
  ["Bopo", "Bopomofo"],
  ["Brah", "Brahmi"],
  ["Brai", "Braille"],
  ["Bugi", "Buginese"],
  ["Buhd", "Buhid"],
  ["Cakm", "Chakma"],
  ["Cans", "Canadian_Aboriginal"],
  ["Cari", "Carian"],
  ["Cham"],
  ["Cher", "Cherokee"],
  ["Chrs", "Chorasmian"],
  ["Copt", "Coptic", "Qaac"],
  ["Cpmn", "Cypro_Minoan"],
  ["Cprt", "Cypriot"],
  ["Cyrl", "Cyrillic"],
  ["Deva", "Devanagari"],
  ["Diak", "Dives_Akuru"],
  ["Dogr", "Dogra"],
  ["Dsrt", "Deseret"],
  ["Dupl", "Duployan"],
  ["Egyp", "Egyptian_Hieroglyphs"],
  ["Elba", "Elbasan"],
  ["Elym", "Elymaic"],
  ["Ethi", "Ethiopic"],
  ["Gara", "Garay"],
  ["Geor", "Georgian"],
  ["Glag", "Glagolitic"],
  ["Gong", "Gunjala_Gondi"],
  ["Gonm", "Masaram_Gondi"],
  ["Goth", "Gothic"],
  ["Gran", "Grantha"],
  ["Grek", "Greek"],
  ["Gujr", "Gujarati"],
  ["Gukh", "Gurung_Khema"],
  ["Guru", "Gurmukhi"],
  ["Hang", "Hangul"],
  ["Hani", "Han"],
  ["Hano", "Hanunoo"],
  ["Hatr", "Hatran"],
  ["Hebr", "Hebrew"],
  ["Hira", "Hiragana"],
  ["Hluw", "Anatolian_Hieroglyphs"],
  ["Hmng", "Pahawh_Hmong"],
  ["Hmnp", "Nyiakeng_Puachue_Hmong"],
  ["Hung", "Old_Hungarian"],
  ["Ital", "Old_Italic"],
  ["Java", "Javanese"],
  ["Kali", "Kayah_Li"],
  ["Kana", "Katakana"],
  ["Kawi"],
  ["Khar", "Kharoshthi"],
  ["Khmr", "Khmer"],
  ["Khoj", "Khojki"],
  ["Kits", "Khitan_Small_Script"],
  ["Knda", "Kannada"],
  ["Krai", "Kirat_Rai"],
  ["Kthi", "Kaithi"],
  ["Lana", "Tai_Tham"],
  ["Laoo", "Lao"],
  ["Latn", "Latin"],
  ["Lepc", "Lepcha"],
  ["Limb", "Limbu"],
  ["Lina", "Linear_A"],
  ["Linb", "Linear_B"],
  ["Lisu"],
  ["Lyci", "Lycian"],
  ["Lydi", "Lydian"],
  ["Mahj", "Mahajani"],
  ["Maka", "Makasar"],
  ["Mand", "Mandaic"],
  ["Mani", "Manichaean"],
  ["Marc", "Marchen"],
  ["Medf", "Medefaidrin"],
  ["Mend", "Mende_Kikakui"],
  ["Merc", "Meroitic_Cursive"],
  ["Mero", "Meroitic_Hieroglyphs"],
  ["Mlym", "Malayalam"],
  ["Modi"],
  ["Mong", "Mongolian"],
  ["Mroo", "Mro"],
  ["Mtei", "Meetei_Mayek"],
  ["Mult", "Multani"],
  ["Mymr", "Myanmar"],
  ["Nagm", "Nag_Mundari"],
  ["Nand", "Nandinagari"],
  ["Narb", "Old_North_Arabian"],
  ["Nbat", "Nabataean"],
  ["Newa"],
  ["Nkoo", "Nko"],
  ["Nshu", "Nushu"],
  ["Ogam", "Ogham"],
  ["Olck", "Ol_Chiki"],
  ["Onao", "Ol_Onal"],
  ["Orkh", "Old_Turkic"],
  ["Orya", "Oriya"],
  ["Osge", "Osage"],
  ["Osma", "Osmanya"],
  ["Ougr", "Old_Uyghur"],
  ["Palm", "Palmyrene"],
  ["Pauc", "Pau_Cin_Hau"],
  ["Perm", "Old_Permic"],
  ["Phag", "Phags_Pa"],
  ["Phli", "Inscriptional_Pahlavi"],
  ["Phlp", "Psalter_Pahlavi"],
  ["Phnx", "Phoenician"],
  ["Plrd", "Miao"],
  ["Prti", "Inscriptional_Parthian"],
  ["Rjng", "Rejang"],
  ["Rohg", "Hanifi_Rohingya"],
  ["Runr", "Runic"],
  ["Samr", "Samaritan"],
  ["Sarb", "Old_South_Arabian"],
  ["Saur", "Saurashtra"],
  ["Sgnw", "SignWriting"],
  ["Shaw", "Shavian"],
  ["Shrd", "Sharada"],
  ["Sidd", "Siddham"],
  ["Sind", "Khudawadi"],
  ["Sinh", "Sinhala"],
  ["Sogd", "Sogdian"],
  ["Sogo", "Old_Sogdian"],
  ["Sora", "Sora_Sompeng"],
  ["Soyo", "Soyombo"],
  ["Sund", "Sundanese"],
  ["Sunu", "Sunuwar"],
  ["Sylo", "Syloti_Nagri"],
  ["Syrc", "Syriac"],
  ["Tagb", "Tagbanwa"],
  ["Takr", "Takri"],
  ["Tale", "Tai_Le"],
  ["Talu", "New_Tai_Lue"],
  ["Taml", "Tamil"],
  ["Tang", "Tangut"],
  ["Tavt", "Tai_Viet"],
  ["Telu", "Telugu"],
  ["Tfng", "Tifinagh"],
  ["Tglg", "Tagalog"],
  ["Thaa", "Thaana"],
  ["Thai"],
  ["Tibt", "Tibetan"],
  ["Tirh", "Tirhuta"],
  ["Tnsa", "Tangsa"],
  ["Todr", "Todhri"],
  ["Toto"],
  ["Tutg", "Tulu_Tigalari"],
  ["Ugar", "Ugaritic"],
  ["Vaii", "Vai"],
  ["Vith", "Vithkuqi"],
  ["Wara", "Warang_Citi"],
  ["Wcho", "Wancho"],
  ["Xpeo", "Old_Persian"],
  ["Xsux", "Cuneiform"],
  ["Yezi", "Yezidi"],
  ["Yiii", "Yi"],
  ["Zanb", "Zanabazar_Square"],
  ["Zinh", "Inherited", "Qaai"],
  ["Zyyy", "Common"]]

/-- The script of each run of code points, by its place plus one, and zero for none. -/
def Script.table : RangeMap Nat :=
  RangeMap.ofLines
  ["aCnBagBaBvbpbfxbBfbRhBnffcuEiebdcebbebbbbdbbbubCloqFdcGnbBmcBycdbCdiBbeglfbgbobdbBgbklBabE",
   "ebBiobCicdBwByoChcdBucpbBccbblfBfbcfCxbBdDdepcBaebicccwbhbbdecjccceibecbfczcdbgeccwbhbcbcb",
   "ccbbfeccddbhebbhrkdbjbdbwbhbcbfckbdbdcbpecmhhbdbicccwbhbcbfcjcccdhdecbfcskcbgddbedcbbbcdcd",
   "ddmefddbecbgbovfnbdbxbqcjbdbehcbdcbceckhjnbdbxbkbfcjbdbehcgcbeckbdmnbdbBzbdbgeqcBabdbsdybj",
   "bbchdbegbbbigkcdmCgebBcBlcbbbfbybbbxcfbbbhbkceBgCubBkeBnbBkbpbhecBlGeBmbbfbcBrbeJwCvbechbb",
   "becBpbecBhbechbbbecpbCfbecCpcBgdBagDicgcYqBddCxdlhwjbvcjumnbdbcmDqckgkgccbbugDlhBrfCskBfbm",
   "emebdmBecflBseBagldcBgBcccClbBdclgkgocBfBxCzbByCmCaieCedpddBwlfBrcdiidbnbhebgbdcbfBmfbBxfe",
   "fnbCsbCmJwwcgcBmcgcibbbbbbbBfcCbbpbocgbtcdbjbmcDjblbclbpbndBhpBhpBmbdcgbBbbrBpdeZqwlvBJsJw",
   "YecBgbEbDsBgEmfhBmbbfbcCehcobxjhbhbhbhbhbhbhbhbBgDqBiBabDlmIgBavbbbzjecieebDicccdbDmcdfBrb",
   "DqbqBgBmjbqBfbCmBfDdBvbDkGmJToCmBFBkBSvdCdjBwLouDsDkiBiDydCpccbbbivoBtdkgCeiCsimgBgBubbBkl",
   "bBddDabbkecBfbCdjockceBgCpyfxkgcgcgjhbhbBrbjbeceDcBuckgQNsmxeBxMNcOccEcBmhmffBabfbbbcbcbkE",
   "lqNzcDccCchbBgqqkgocBjbtbeefbFfcbbBgBagBalkbBtcBfdgcgcgcddhbhkfcmbBabtbcbpcoBiEtfdeBtdjDbb",
   "ndbBvBtbFaBddBxpbBbeBkjdBbfBrfBebbBkeoBqDcBwBeckgBkeBkeBoiCalblbpbhbcblbpbhbcdCamLzjwkiygb",
   "BqbjCrgcbbBsbcdbcbwbjBgBfijBwtbcffBcdbBafbCmBgyeucBuebcfibdbBdcdekhjhBgBgBgBnemjCcdhwcitfi",
   "shemhDcCvCdBznBzhgBoikgBmdBdicIaBfbBqbdccqdCdeBoiBqwBaBmBcuxjDaeBkjbCpkbczhkgCbbsiBnjDsbul",
   "sbBvCkhbbbebpblgChfkgebicccwbhbcbfbbjcccdcbgbfhchdflkbbcbbBmbkbbcbbebkbcicBdDobfBeCuikGkCc",
   "cBmBiCrlkgntCggkguBcBbcpexHdCiDwDfmbhcbcibcbBebccmjkCsicBuclBbCuiDfnqCfhkHaBiokgjbBtbokBdd",
   "BgcwboCvhbcbBsdbbcbjikggbcbBlbcbghkLyzhrbBpdBdDhbpBynbBJmDyEhbflHoDXkDvnBQskFXrfWlKDdCgCOs",
   "VxhBfbkecDbbkgBecgkCskkbhbvftQqCgHqDnDxCxeCfhrCmbbcblcoJCaiBDoScBpbjNFrebhbcbbLbdpbBddcboe",
   "iPgDKuEdfndjhkceeFVgJqgQuCyBucxjEmCiJmkBncCkdrichBeeCjvCsEsumumDjjzFfDhbCtbccbcccebmbbbhbC",
   "nbecibhbBcbebfbbdhbNccLgcByZcpfbpBQmBfggIfhbrchbcbffCkBhbEiBtdockecMiBfrCgfbRwBqIgBrebSmhb",
   "ebcbpbHpcqBpCyekecBEfCqCyCjHmebBbbcbbcbbkbebbbbgbebbbbbbdbcbbcbbbbbbbbbbcbbcebhbebebbbkbrf",
   "dbfbrCacKkBseDwmpcpbpbBlkGsCeBabcnBsejhcogFyBLwerdndEpeDrgmebpmeCeikgBoiBecmecCkNcmocndkfC",
   "ehpclgjhFrbDzBNpCLFcBgGDugIocINqoLBlpXyDQwUwCFyHHzfGFgBOMXlbBeDsEyJg"]
  ["GoCvGoCvGoCvGoCvGoCvGoCvGoCvGoCvGooGoGnBtGoBtaBtGoBtaBtGoBtGoBtaBtaBtaBtzBtBcGnBcagagagaCb",
   "aCbaCbaeGoeGoeGoeGoeGoeGneGneGoeFkaFkaFkeFvaDyaDyEuaEuaDfaDfaFkaeaeaeGoeBdGnBdGoBdmamamama",
   "mamamamamamamamamamaBwaBwaBwaBwaBwaBwaBwaBwaBwaBwaBwaBwaBwaBwaBwaBwaBuaBuaBuaBuaBuaBuaBuaB",
   "uaBuaBuaBuaBuaBuaBuaEeaEeaEeaEeaEeaEeaEeaEeaEeaEeaEeaEeaEeaEeaFpaFpaFpaFpaFpaFpaFpaFpaFpaF",
   "paFpaFpaFpaFpaFpaFpaFsaFsaFsaFsaFsaFsaFsaFsaFsaFsaFsaFsaFsCqaCqaCqaCqaCqaCqaCqaCqaCqaCqaCq",
   "aCqaCqaDmaDmaDmaDmaDmaDmaDmaFcaFcaFcaFcaFcaFcaFcaFcaFcaFcaFcaFcaFwaGoFwaCuaCuaCuaCuaCuaCua",
   "CuaCuaCuaCuaCuaFxaFxaFxaFxaFxaFxGoFxaDsBnaBnaBnaBnGoBnBxBlaBlaBlaBlaBlaBlaBlaBlaBlaBlaBlaB",
   "laBlaBlaBlaBlaBlaBlaxaxauEaaEtGoEtaFuaFuBzGoasaFlaFlaFlaCnaCnaCnaDoGoDoGoDoaDoaDoauaCxaCxa",
   "CxaCxaCxFnaFnaFoaFoaFoaFoCnrarCtaCtaCtaCtaCtaGnaiaiFhlalCwaCwaCwEbBcaBnaBnFhaGnGoGnGoGnGoG",
   "nGoGnGoGnGoaCvBtBcCvBtCvBtCvBcCvBtGnCvBtaBtaBtaBtaBtaBtaBtaBtaBtaBtaBtaBtaBtaBtaBtaBtaGoGn",
   "GoaGoCvaGoCvGoaCvaGoaGnaGoBtGoCvGoCvGoCvGoCvGoaGoaGoaGoqGoaGoaGoBoCvzazBnaBnaBnaFtaFtaFtBl",
   "aBlaBlaBlaBlaBlaBlaBlaBlaBcGoaByaByaByaGoByGoByGoByGnBxGoByGoaCcaGnGoCcGoCkGoCkaoaBxaGooGo",
   "aGoCkBxaGoBxGoCkGoCkGoByGoByGlaGlaDaGeaBcjaGoCvGoCvaCvaCvaCvaCvFjaGoaElaEwaEwaBdCjGoCjEraE",
   "rBxaCiaGoCiaCiDsawawawawDsFraFrDqaBlaBlaBlaBlaBlaCvGoCvBtCvGoaxDqaDqaBxaBxaBxaByaByaCvagaC",
   "baCbaCbaCbaCbaCbeaeGoeaeaeaeGnGoaGnBcGoaGoaGoaeaeaGoaGoCvGoCvGoCkGoCkGoBxaBxaBxaBxaBxaGoaG",
   "oaGoaCzaCzaCzaCzaCzaCzaCzaGoaGoaGoBtaGoaBtaGoGnaDbavaGnGoaChaChBraEkaGdaGdGiaGiaBgEyEgaEga",
   "EfaEfaBjacacGfaGfaGfaGfaGfaGfaGfaGfaGaaCyaCyaCyaCvaCvaCvaBbaBbaBbaBbaBbaBbfafEiDwaDwaCaaCa",
   "aCaEoaEoDcaDcaDlDkaDkaDkCmaCmaCmaCmaCmaCmaCmaCmaEvDvaDgaDgahahEqaEqEmaEmEnaEnaEnaEdaCgaCga",
   "CgEsaEsaBmaBmaBmaeaGkaGkaGkaeaeFeaFdaEhayaBkapapapCsaCsaFfaFfatataDdaEzaFcaCoaCoaDraDraDra",
   "DraDraFbaFbaBsaBsaBsaBsaBsaBsaBsaGnBsaBsaBsaBsaBsaBsaBsaBsaGcaGcaGcaGcaGcaGcaGcaGcaGcaGcaG",
   "caDxaDxaFyaFyaFaaFaaDnaDnaDoaFmaFmaDsadadadaBfaGgaGgBeaBeaBeaBeaBeaBeaBeaBeaDuaDuaDuaGmaFg",
   "auEjaBdaFiaFiananananaDhaDhaDhaBqaBqaBqaBqaBqaBqaBqaBpaBpaBpaBpaBpaBpaDeaClaClaClaDaaFpaFp",
   "GjaGjaGjaGjaBaaBiaBiaCdaBvajaDpaDpaDpFzaFzakakaCeaCeaCeaCeaCeaCraDiaEpaEpaEpaFqDzByCpaByaF",
   "qaFqCpaCpFqaCkaCkaCkaCkCcCkaCcaCcaCkaCkaDzaBhaBhaBhaBhaBhGoaGoaGoaGnaGnaGoaGoaGoaGoGnGoGnG",
   "oGnGoGnGoaBtaGoaGoaGoaGoaGoaGoaGoaGoaGoaGoaGoaGoaGoaGoaGoaGoaGoaGoaGoaGoaGoaGoaGoaGoaGoExa",
   "ExaExaCvaCvaBoaBoaBoaBoaBoaBcaBcaCfaCfaCfaCfaGbaGhaGhaDtaEcaEcaBlaBlaBlaBlaDjaDjabababaGoa",
   "GoaeaeaeaeaeaeaeaeaeaeaeaeaeaeaeaeaeaeaeaeaeaeaeaeaeaeaeaeaeaeaeaeaeaeaGoaGoaGoaGoaGoaGoaG",
   "oaGoCcGoaGoaGoaGoaGoaGoaGoaGoaGoaGoaGoaGoaGoaGoaGoaGoaGoaGoaGoaGoaGoaGoaGoaGoaGoaGoaGoaGoa",
   "GoaByaByaByaByaByaByaByaByaByaGoaGoaGna"]
  id

/-- The script of a character, none for a character of no script. -/
def Script.of? (c : Char) : Option Script :=
  match Script.table.get? c.toNat with
  | some (n + 1) => some ⟨n⟩
  | _ => none

def Script.ofCode? (code : String) : Option Script :=
  (Script.names.findIdx? (·.head? == some code)).map Script.mk

/-- The sets of scripts that characters are used with beyond their own script alone. -/
def Script.extensionSets : Array (List Script) := #[
  ["Avst", "Cari", "Copt", "Dupl", "Elba", "Geor", "Glag", "Gong", "Goth", "Grek", "Hani", "Latn", "Lydi", "Mahj", "Perm", "Shaw"],
  ["Beng", "Cyrl", "Deva", "Latn", "Lisu", "Thai", "Toto"],
  ["Bopo", "Latn"],
  ["Latn", "Lisu"],
  ["Latn", "Thai"],
  ["Cher", "Copt", "Cyrl", "Grek", "Latn", "Perm", "Sunu", "Tale"],
  ["Cher", "Cyrl", "Grek", "Latn", "Osge", "Sunu", "Tale", "Todr"],
  ["Cher", "Cyrl", "Latn", "Tfng"],
  ["Glag", "Latn", "Sunu", "Syrc", "Thai"],
  ["Aghb", "Cher", "Copt", "Cyrl", "Goth", "Grek", "Latn", "Osge", "Syrc", "Tfng", "Todr"],
  ["Copt", "Elba", "Glag", "Goth", "Kana", "Latn"],
  ["Cyrl", "Grek", "Latn", "Perm", "Tfng"],
  ["Copt", "Dupl", "Hebr", "Latn", "Perm", "Syrc", "Tale", "Tfng", "Todr"],
  ["Armn", "Cyrl", "Dupl", "Goth", "Grek", "Hebr", "Latn", "Perm", "Syrc", "Tale", "Tfng"],
  ["Latn", "Tfng"],
  ["Dupl", "Latn", "Syrc"],
  ["Cher", "Cyrl", "Latn", "Osge"],
  ["Cher", "Latn", "Tale"],
  ["Latn", "Sunu"],
  ["Ethi", "Latn"],
  ["Cyrl", "Latn", "Todr"],
  ["Grek", "Latn", "Perm", "Todr"],
  ["Cher", "Dupl", "Kana", "Latn", "Syrc", "Tfng"],
  ["Cher", "Dupl", "Latn", "Syrc"],
  ["Latn", "Syrc"],
  ["Latn", "Sunu", "Syrc"],
  ["Cher", "Latn", "Syrc"],
  ["Aghb", "Cher", "Goth", "Latn", "Sunu", "Syrc", "Thai"],
  ["Grek"],
  ["Latn", "Osge"],
  ["Aghb", "Latn", "Todr"],
  ["Latn"],
  ["Copt", "Grek"],
  ["Cyrl", "Perm"],
  ["Cyrl", "Glag"],
  ["Cyrl", "Latn"],
  ["Armn", "Geor", "Glag"],
  ["Arab", "Gara", "Nkoo", "Rohg", "Syrc", "Thaa", "Yezi"],
  ["Arab", "Syrc", "Thaa"],
  ["Adlm", "Arab", "Gara", "Nkoo", "Rohg", "Syrc", "Thaa", "Yezi"],
  ["Adlm", "Arab", "Mand", "Mani", "Ougr", "Phlp", "Rohg", "Sogd", "Syrc"],
  ["Arab", "Syrc"],
  ["Arab", "Thaa", "Yezi"],
  ["Arab", "Rohg"],
  ["Beng", "Deva", "Gran", "Gujr", "Guru", "Knda", "Latn", "Mlym", "Nand", "Newa", "Orya", "Shrd", "Taml", "Telu", "Tirh"],
  ["Beng", "Deva", "Gran", "Gujr", "Guru", "Knda", "Latn", "Mlym", "Newa", "Orya", "Taml", "Telu", "Tirh"],
  ["Beng", "Deva", "Dogr", "Gong", "Gonm", "Gran", "Gujr", "Guru", "Knda", "Mahj", "Mlym", "Nand", "Onao", "Orya", "Sind", "Sinh", "Sylo", "Takr", "Taml", "Telu", "Tirh"],
  ["Beng", "Deva", "Dogr", "Gong", "Gonm", "Gran", "Gujr", "Gukh", "Guru", "Knda", "Limb", "Mahj", "Mlym", "Nand", "Onao", "Orya", "Sind", "Sinh", "Sylo", "Takr", "Taml", "Telu", "Tirh"],
  ["Deva", "Dogr", "Kthi", "Mahj"],
  ["Beng", "Cakm", "Sylo"],
  ["Guru", "Mult"],
  ["Gujr", "Khoj"],
  ["Gran", "Taml"],
  ["Knda", "Nand", "Tutg"],
  ["Cakm", "Mymr", "Tale"],
  ["Geor", "Glag", "Latn"],
  ["Runr"],
  ["Buhd", "Hano", "Tagb", "Tglg"],
  ["Mong", "Phag"],
  ["Beng", "Deva", "Gran", "Knda"],
  ["Deva"],
  ["Deva", "Gran", "Knda"],
  ["Beng", "Deva", "Newa", "Telu", "Tirh"],
  ["Beng", "Deva", "Telu"],
  ["Deva", "Newa", "Shrd"],
  ["Beng", "Deva", "Newa", "Telu"],
  ["Deva", "Shrd"],
  ["Deva", "Knda", "Mlym", "Orya", "Taml", "Telu"],
  ["Beng", "Deva"],
  ["Deva", "Newa", "Tirh"],
  ["Deva", "Nand", "Newa"],
  ["Beng", "Deva", "Shrd"],
  ["Deva", "Newa"],
  ["Beng", "Deva", "Newa", "Shrd"],
  ["Beng", "Deva", "Gran", "Knda", "Mlym", "Nand", "Orya", "Sinh", "Telu", "Tirh", "Tutg"],
  ["Deva", "Gran"],
  ["Deva", "Gran", "Knda", "Tutg"],
  ["Beng"],
  ["Nand"],
  ["Cyrl", "Latn", "Syrc"],
  ["Syrc"],
  ["Latn", "Mong", "Phag"],
  ["Adlm", "Arab"],
  ["Cari", "Geor", "Glag", "Hung", "Lyci", "Orkh"],
  ["Cari", "Grek", "Hung", "Mero"],
  ["Deva", "Gran", "Latn"],
  ["Copt", "Latn"],
  ["Avst", "Orkh"],
  ["Avst", "Cari", "Geor", "Hung", "Kthi", "Lydi", "Samr"],
  ["Dupl"],
  ["Adlm", "Arab", "Hung"],
  ["Hani", "Tang"],
  ["Bopo", "Hang", "Hani", "Hira", "Kana", "Mong", "Yiii"],
  ["Bopo", "Hang", "Hani", "Hira", "Kana", "Mong", "Phag", "Yiii"],
  ["Bopo", "Hang", "Hani", "Hira", "Kana"],
  ["Hani"],
  ["Bopo", "Hang", "Hani", "Hira", "Kana", "Mong", "Tibt", "Yiii"],
  ["Bopo", "Hang", "Hani", "Hira", "Kana", "Lisu", "Mong", "Tibt", "Yiii"],
  ["Bopo", "Hang", "Hani", "Hira", "Kana", "Yiii"],
  ["Bopo", "Hani"],
  ["Hira", "Kana"],
  ["Hani", "Hira", "Kana"],
  ["Hani", "Latn"],
  ["Deva", "Dogr", "Gujr", "Guru", "Khoj", "Knda", "Kthi", "Mahj", "Mlym", "Modi", "Nand", "Shrd", "Sind", "Takr", "Tirh", "Tutg"],
  ["Deva", "Dogr", "Gujr", "Guru", "Khoj", "Knda", "Kthi", "Mahj", "Modi", "Nand", "Shrd", "Sind", "Takr", "Tirh", "Tutg"],
  ["Deva", "Dogr", "Gujr", "Guru", "Khoj", "Kthi", "Mahj", "Modi", "Sind", "Takr", "Tirh"],
  ["Deva", "Dogr", "Gujr", "Guru", "Khoj", "Kthi", "Mahj", "Modi", "Shrd", "Sind", "Takr", "Tirh"],
  ["Beng", "Deva", "Tutg"],
  ["Deva", "Taml"],
  ["Kali", "Latn", "Mymr"],
  ["Bugi", "Java"],
  ["Arab", "Nkoo"],
  ["Arab", "Thaa"],
  ["Cpmn", "Cprt", "Linb"],
  ["Cprt", "Linb"],
  ["Cprt", "Lina", "Linb"],
  ["Arab", "Copt"],
  ["Mani", "Ougr"]].map (·.filterMap Script.ofCode?)

/-- Where a character's script extensions are not its script alone: the set of each run, by its
place in `Script.extensionSets` plus one, and zero where they are the script. -/
def Script.extensionTable : RangeMap Nat :=
  RangeMap.ofLines
  ["aHbbTwbkbbdbbjbbbBmbbbbbbbbbbbbbbbbbbbbpbbbhbbbbbqbcbsbfbenecKjbbcbJxbFabobbcbBgbklkkgbDvb",
   "YmbbrbbkEokEokEokJmoJikBGqkGvbCGldCtcHvcbbBVebbbbbbbbbbbbccbbbgbbbbbebbbcbcbHpcCcbbbVsbBfb",
   "kbcbFqbEZmbybbkbebbbQmqbbbbcbbccgbbiekecbfbbeccDledbDmbbFrqBgBmjbBwBoCeBxpmBzbDkzkfDsBfBRI",
   "ubFoiLkddcbbHbbbbCgbGebBFPmcGwbkbCtcKwfkbBtcNocbeBtdjQaBcDAkbDBibbbCdcETvcbbCHJweIPwsLRyc"]
  ["abacadadaeafadaghijklmnopqrstuatvawaxyzaBazaBbBcaBdaBdaBeaBfaBgaBhaBiBjBkBjaBlaBmaBmBnaBoa",
   "BpaBqaBraBqaBsaBtBuaBvBwBxaByaBzaCaaCbaCcaCdaCeaCfaCgaChaChaCiCjCiCkCjClCmCnCoCpCqCjCpCjCp",
   "CrCsCjCtCuCvCjCwCjCxCyCzCrDaCyDbaBdaDcaDdaDeaDfaDgaDhaDiaDjaDkDlaDmaDnaBjaDoaDpDqDraDsaDtD",
   "uDvaDrDvDraDwaDrDxaDraDyDsaDxaDxaDvDxaDsaDsaDoaDsaDsaDsaDsaDsaDsaDsaBjaDzaEaEbEcEdEcaEeaEf",
   "aEgaEhaEiaEjaEjaDraDvaDxaDxaEkElaEmaElaEnaEoaCbaCbaCbaCbaCbaDmaDsaDsa"]
  id

/-- The scripts that a character is used with, its script extensions. -/
def Script.extensions (c : Char) : List Script :=
  match Script.extensionTable.get? c.toNat with
  | some (n + 1) => Script.extensionSets.getD n []
  | _ => (Script.of? c).toList

end ColumnSpec.Text
