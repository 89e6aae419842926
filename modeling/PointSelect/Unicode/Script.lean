import PointSelect.Unicode.Packed

namespace PointSelect.Unicode

/-- The scripts. -/
def scripts : List NamedSet := [
  (["adlm", "adlam"],
    ["go6DrCEJEB"]),
  (["ahom"],
    ["g4lCaCOEW"]),
  (["hluw", "anatolianhieroglyphs"],
    ["ggxCmS"]),
  (["arab", "arabic"],
    ["gwBEBFBNBCBfBJLZBrDBhBwCvBwHhBFqCBcwy8BtPCvEgBPwDEBmEj7DejCFIIhBFg43BDBaBBBACABJBDBABAGAEABA",
     "BABCBBBACABABABABABBBACDBGBDBDBABJBQFCBEBQ0BB"]),
  (["armn", "armenian"],
    ["xpBlBCxBCCjs9BE"]),
  (["avst", "avestan"],
    ["g4iC1BDG"]),
  (["bali", "balinese"],
    ["g4GsCBxB"]),
  (["bamu", "bamum"],
    ["g1pB3CoowB4R"]),
  (["bass", "bassavah"],
    ["w26CdCF"]),
  (["batk", "batak"],
    ["g.GzBID"]),
  (["beng", "bengali"],
    ["gsCDBHCBCVBGBADDCICBCDIAEBBECY"]),
  (["berf", "beriaerfe"],
    ["g17CYCY"]),
  (["bhks", "bhaiksuki"],
    ["ggnCIBsBBNKc"]),
  (["bopo", "bopomofo"],
    ["qXB5wLqBwDf"]),
  (["brah", "brahmi"],
    ["ggkCtCEjBJA"]),
  (["brai", "braille"],
    ["ggK_H"]),
  (["bugi", "buginese"],
    ["gwGbCB"]),
  (["buhd", "buhid"],
    ["g6FT"]),
  (["cans", "canadianaboriginal"],
    ["ggF_TwRlC6tgCP"]),
  (["cari", "carian"],
    ["g1gCwB"]),
  (["aghb", "caucasianalbanian"],
    ["wphCzBLA"]),
  (["cakm", "chakma"],
    ["gokC0BBR"]),
  (["cham"],
    ["gwqB2BJNCJCD"]),
  (["cher", "cherokee"],
    ["g9E1CCFy7lBvC"]),
  (["chrs", "chorasmian"],
    ["w9jCb"]),
  (["zyyy", "common"],
    ["AgCaFauBBOBEXAfAhOmBFECT0DAJAGABA9TAGAOADAgBA8EAkQAhEB5mBA1MDiJAvvBCnCBrGBBAtmBANAHDBFBCCAlY",
     "LC2CBKDKBORhB.BlBBCCFBaBQpBCE5UWKV_cgIzTCpEgQ9CyMUBABYPHED7CBDA6CBzEPgBlBJAwB_BfwCvBA4CnFguG",
     "_BgoWhBmDClFJ0HAgFArMAOByuUBwGJWiBBSBDzEABfaFaKKAtBBgCGBGKEiICEsBDIwCMzBsBkHaktuBD86D8HDzNGW",
     "PQ_CzD8B1HKmBC9BDQIBHdE8B1GTMTM2CJYnE0CBmCBBCACBCDBLBABGBgCBDCHBGBbBDBEBADGBzKCjJCxBxjFjCsC8",
     "BiWrBEjDMOCOBOBkBKtF4BZBBNrBEIHBOF6E4eDQDMD5GGLEAPLE3BIJGnBIdCLEBOInB3KINCMDKD4BBAEPCLEJHyEB",
     "mDmghYAe_C"]),
  (["copt", "coptic", "qaac"],
    ["ifNwkKzDFG"]),
  (["xsux", "cuneiform"],
    ["ggoC5cmDuDBELjG"]),
  (["cprt", "cypriot"],
    ["ggiCFCABrBBBDACA"]),
  (["cpmn", "cyprominoan"],
    ["w8rCiD"]),
  (["cyrl", "cyrillic"],
    ["ggBkECoFw6FKgFAsCAnjEfgie_Cu8VBgw4B9BhBA"]),
  (["dsrt", "deseret"],
    ["gghCvC"]),
  (["deva", "devanagari"],
    ["goCwCEOCZg7nBfgwcJ"]),
  (["diak", "divesakuru"],
    ["gomCGCACHBBBdBBCLJJ"]),
  (["dogr", "dogra"],
    ["ggmC7B"]),
  (["dupl", "duployan"],
    ["ggvDqDFMDIHJCD"]),
  (["egyp", "egyptianhieroglyphs"],
    ["ggsC1iBK68D"]),
  (["elba", "elbasan"],
    ["gohCnB"]),
  (["elym", "elymaic"],
    ["g_jCW"]),
  (["ethi", "ethiopic"],
    ["gwEoCBDCGBABDCoBBDCgBBDCGBABDCOB4BBDCiCCfDZmvGWJGBGBGBGBGBGBGBGipfFCFCFJGBGxlvCGBDBBBO"]),
  (["gara", "garay"],
    ["gqjClBDcIB"]),
  (["geor", "georgian"],
    ["glElBBAFACqBBDw8CqBCCgiElBBAFA"]),
  (["glag", "glagolitic"],
    ["ggL_Cg9sDGBQCGBBBE"]),
  (["goth", "gothic"],
    ["w5gCa"]),
  (["gran", "grantha"],
    ["g4kCDBHCBCVBGBBBECICBCCCAGAFGCGDE"]),
  (["grek", "greek"],
    ["wbDBCCDBAEABABCBABTB.BOPmpGEyBEEE0CAgKVCFClBCFCHBABABABeC0BBOBNCFBSCCBInJA.xiBA6uVuCRA_i0BlC"]),
  (["gujr", "gujarati"],
    ["h0CCBIBCBVBGBBBECJBCBCCAPDCLHG"]),
  (["gong", "gunjalagondi"],
    ["grnCFBBBkBBBBFHJ"]),
  (["guru", "gurmukhi"],
    ["hwCCBFEBCVBGBBBBBBCABEEBCCDAHDBAHQ"]),
  (["gukh", "gurungkhema"],
    ["go4C5B"]),
  (["hani", "han"],
    ["g0LZB4CM1GvBABAZIODke_tGgC_vUgoWtLCpDoodBMGpgkB_2pBgB9oECt0FCwpHPtTitC9QivBq6EFppI"]),
  (["hang", "hangul"],
    ["goE_HuxHBhI9CxDehCeh3dcjUj9KMWEwBk9JeDFCFCFCC"]),
  (["rohg", "hanifirohingya"],
    ["gojCnBIJ"]),
  (["hano", "hanunoo"],
    ["g5FU"]),
  (["hatr", "hatran"],
    ["gniCSBBFE"]),
  (["hebr", "hebrew"],
    ["xsB2BIaEFop9BZBEBABBBBBJ"]),
  (["hira", "hiragana"],
    ["hiM1CGCh7_C.ISAdCtlQA"]),
  (["armi", "imperialaramaic"],
    ["giiCVBI"]),
  (["zinh", "inherited", "qaai"],
    ["gYvD1IBkOKaAgXD7qEtBCLkPCBMBGEAGADBmG_BsQBiGgB55DDrDBlrzBPQNveAiHA6iEAk.uBtBCWgRCRHCGeDy6rYv",
     "H"]),
  (["phli", "inscriptionalpahlavi"],
    ["g7iCSFH"]),
  (["prti", "inscriptionalparthian"],
    ["g6iCVCH"]),
  (["java", "javanese"],
    ["gsqBtCCJEB"]),
  (["kthi", "kaithi"],
    ["gkkCiCKA"]),
  (["knda", "kannada"],
    ["gkDMBCBWBJBECIBCBDHBFCBDCJBC"]),
  (["kana", "katakana"],
    ["hlM5CCCwHPwGuBB3CugzBJBsByisBDBGBBBA_ICyBAOD"]),
  (["kawi"],
    ["g4nCQBoBDc"]),
  (["kali", "kayahli"],
    ["goqBtBBA"]),
  (["khar", "kharoshthi"],
    ["gwiCDBBFHBCBcCCEJHI"]),
  (["kits", "khitansmallscript"],
    ["k_7CA74G1OpBA"]),
  (["khmr", "khmer"],
    ["g8F9CCJGJmPf"]),
  (["khoj", "khojki"],
    ["gwkCRBuB"]),
  (["sind", "khudawadi"],
    ["w1kC6BFJ"]),
  (["krai", "kiratrai"],
    ["gq7C5B"]),
  (["laoo", "lao"],
    ["h0DBBABEBXBABWCEBABGBJCD"]),
  (["latn", "latin"],
    ["hCZGZvBAPAFWBeBgOnBE7wGlBGwBFDFMBlChC_HxLANAQMtEBGAbARoB32Cfi1elDDxCUOwZqBBIBD28TG6gBZGZlhCF",
     "BpBBIl61BeGF"]),
  (["lepc", "lepcha"],
    ["ggH3BDODC"]),
  (["limb", "limbu"],
    ["goGeBLELEADL"]),
  (["lina", "lineara"],
    ["gwhC2JJVKH"]),
  (["linb", "linearb"],
    ["gggCLBZBSBBBOCNiB6D"]),
  (["lisu"],
    ["wmpBvBw1eA"]),
  (["lyci", "lycian"],
    ["g0gCc"]),
  (["lydi", "lydian"],
    ["gpiCZFA"]),
  (["mahj", "mahajani"],
    ["wqkCmB"]),
  (["maka", "makasar"],
    ["g3nCY"]),
  (["mlym", "malayalam"],
    ["goDMBCByBBCBFEPCZ"]),
  (["mand", "mandaic"],
    ["giCbCA"]),
  (["mani", "manichaean"],
    ["g2iCmBEL"]),
  (["marc", "marchen"],
    ["wjnCfCVBN"]),
  (["gonm", "masaramgondi"],
    ["gonCGBBBrBDABBBIIJ"]),
  (["medf", "medefaidrin"],
    ["gy7C6C"]),
  (["mtei", "meeteimayek"],
    ["g3qBWpGtBCJ"]),
  (["mend", "mendekikakui"],
    ["gg6DkGCP"]),
  (["merc", "meroiticcursive"],
    ["gtiCXETCtB"]),
  (["mero", "meroitichieroglyphs"],
    ["gsiCf"]),
  (["plrd", "miao"],
    ["g47CqCE4BHQ"]),
  (["modi"],
    ["gwlCkCLJ"]),
  (["mong", "mongolian"],
    ["ggGBCABTG4CHqB1t_BM"]),
  (["mroo", "mro"],
    ["gy6CeBJEB"]),
  (["mult", "multani"],
    ["g0kCGBABDBOBK"]),
  (["mymr", "myanmar"],
    ["ggE_EgqmBehDfwibT"]),
  (["nbat", "nabataean"],
    ["gkiCeII"]),
  (["nagm", "nagmundari"],
    ["wm5DpB"]),
  (["nand", "nandinagari"],
    ["gtmCHCtBCK"]),
  (["talu", "newtailue"],
    ["gsGrBEZGKDB"]),
  (["newa"],
    ["gglC7CBE"]),
  (["nkoo", "nko"],
    ["g.B6BCC"]),
  (["nshu", "nushu"],
    ["h_7CAusQrM"]),
  (["hmnp", "nyiakengpuachuehmong"],
    ["go4DsBDNCJEB"]),
  (["ogam", "ogham"],
    ["g0Fc"]),
  (["olck", "olchiki"],
    ["wiHvB"]),
  (["onao", "olonal"],
    ["wu5DqBEA"]),
  (["hung", "oldhungarian"],
    ["gkjCyBNyBHF"]),
  (["ital", "olditalic"],
    ["g4gCjBJC"]),
  (["narb", "oldnortharabian"],
    ["g0iCf"]),
  (["perm", "oldpermic"],
    ["w6gCqB"]),
  (["xpeo", "oldpersian"],
    ["g9gCjBEN"]),
  (["sogo", "oldsogdian"],
    ["g4jCnB"]),
  (["sarb", "oldsoutharabian"],
    ["gziCf"]),
  (["orkh", "oldturkic"],
    ["ggjCoC"]),
  (["ougr", "olduyghur"],
    ["w7jCZ"]),
  (["orya", "oriya"],
    ["h4CCBHCBCVBGBBBECICBCCHCEBBECR"]),
  (["osge", "osage"],
    ["wlhCjBEjB"]),
  (["osma", "osmanya"],
    ["gkhCdCJ"]),
  (["hmng", "pahawhhmong"],
    ["g46ClCKJBGBUFS"]),
  (["palm", "palmyrene"],
    ["gjiCf"]),
  (["pauc", "paucinhau"],
    ["g2mC4B"]),
  (["phag", "phagspa"],
    ["giqB3B"]),
  (["phnx", "phoenician"],
    ["goiCbDA"]),
  (["phlp", "psalterpahlavi"],
    ["g8iCRHDMG"]),
  (["rjng", "rejang"],
    ["wpqBjBLA"]),
  (["runr", "runic"],
    ["g1FqCDK"]),
  (["samr", "samaritan"],
    ["ggCtBCO"]),
  (["saur", "saurashtra"],
    ["gkqBlCIL"]),
  (["shrd", "sharada"],
    ["gskC_CgsCH"]),
  (["shaw", "shavian"],
    ["wihCvB"]),
  (["sidd", "siddham"],
    ["gslC1BClB"]),
  (["sidt", "sidetic"],
    ["gqiCZ"]),
  (["sgnw", "signwriting"],
    ["gg2DrUPEBO"]),
  (["sinh", "sinhala"],
    ["hsDCBRDXBIBACGDAEFBABHGJCCs_gCT"]),
  (["sogd", "sogdian"],
    ["w5jCpB"]),
  (["sora", "sorasompeng"],
    ["wmkCYHJ"]),
  (["soyo", "soyombo"],
    ["wymCyC"]),
  (["sund", "sundanese"],
    ["g8G_BgIH"]),
  (["sunu", "sunuwar"],
    ["g.mChBOJ"]),
  (["sylo", "sylotinagri"],
    ["ggqBsB"]),
  (["syrc", "syriac"],
    ["g4BNB7BCCwIK"]),
  (["tglg", "tagalog"],
    ["g4FVJA"]),
  (["tagb", "tagbanwa"],
    ["g7FMBCBB"]),
  (["tale", "taile"],
    ["wqGdCE"]),
  (["lana", "taitham"],
    ["gxG.BBcCKGJGN"]),
  (["tavt", "taiviet"],
    ["g0qBiCYE"]),
  (["tayo", "taiyo"],
    ["g25DeBVIB"]),
  (["takr", "takri"],
    ["g0lC5BGJ"]),
  (["taml", "tamil"],
    ["i8CBBFDCBDDBBABBDBDCDLEEDCBDCAGAOUl.kCxBNA"]),
  (["tnsa", "tangsa"],
    ["wz6CuCBJ"]),
  (["tang", "tangut"],
    ["g_7CAf_3GgQehDyD"]),
  (["telu", "telugu"],
    ["ggDMBCBWBPCIBCBDHBBCBBCDCJHI"]),
  (["thaa", "thaana"],
    ["g8BxB"]),
  (["thai"],
    ["hwD5BFb"]),
  (["tibt", "tibetan"],
    ["g4DnCBjBEmBBjBBOBGEB"]),
  (["tfng", "tifinagh"],
    ["wpL3BHBOA"]),
  (["tirh", "tirhuta"],
    ["gklCnCIJ"]),
  (["todr", "todhri"],
    ["guhCzB"]),
  (["tols", "tolongsiki"],
    ["wtnCrBEJ"]),
  (["toto"],
    ["w04De"]),
  (["tutg", "tulutigalari"],
    ["g8kCJBACABlBBJBACABDBJBBIB"]),
  (["ugar", "ugaritic"],
    ["g8gCdBA"]),
  (["vaii", "vai"],
    ["gopBrJ"]),
  (["vith", "vithkuqi"],
    ["wrhCKBOBGBBBKBOBGBB"]),
  (["wcho", "wancho"],
    ["g24D5BFA"]),
  (["wara", "warangciti"],
    ["glmCyCMA"]),
  (["yezi", "yezidi"],
    ["g0jCpBBCCB"]),
  (["yiii", "yi"],
    ["ggoBskBD2B"]),
  (["zanb", "zanabazarsquare"],
    ["gwmCnC"])]

end PointSelect.Unicode
