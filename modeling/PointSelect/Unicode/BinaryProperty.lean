import PointSelect.Unicode.Packed

namespace PointSelect.Unicode

/-- The properties that a character has or lacks. -/
def binaryProperties : List NamedSet := [
  (["ahex", "asciihexdigit"],
    ["wBJHFaF"]),
  (["alpha", "alphabetic"],
    ["hCZGZvBAKAEAFWBeBpOELOEHABA2CAdRBBCDBAGABCBABTByCBqEIlFBlBCAGoBnBNBABBBBBAIaEDdKF3BBGOlDBHEH",
     "ECKCCAQvBNkDYgBJBEAFXCSTYHKFXBGHAIpBKLDGGrCBPBCEONSBHCBCVBGBADDDHCBCBBAIAEBBEMBKAECBFEBCVBGB",
     "BBBBBEEEBCBEAHDBARFLCBIBCBVBGBBBEDIBCBBDAPDVDECBHCBCVBGBBBEDHCBCBJBEBBENAQBBFDCBDDBBABBDBDCD",
     "LEEDCBCDAGAoBMBCBWBPDHBCBCIBBCBBCDcDBHBCBWBJBEDHBCBCIBFCBDNCMMBCBoBCHBCBCBAFDHEWFBCBRDXBIBAC",
     "GIFBABHSBN5BFGGAzBBBABEBXBABSBCCEBAGAODgBA_BHBjBESEPBjBjC2BBACEQ_BKDClBBAFACqBBsKBDCGBABDCoB",
     "BDCgBBDCGBABDCOB4BBDCiClBPQ1CCFDrTCQBZFqCDKHTLUMTMMBCBBMzBCSOAEAjC4CHqBFlCKeBLEIXdCELrBEZ2Bb",
     "E.BCTyBAXBLCxBzBBOBHzBpBCDKrBBKO2BWCKjBCKFqBCCpBDBFBBDAF_FThBL1ICFClBCFCHBABABABeC0BBGBADCBG",
     "DDCFEMFCBG0DANAQMlDAEACJBADEGABABABDBKCDFEEARoBtZzB24BkHGDDBMlBBAFAC3BHAQWJGBGBGBGBGBGBGBGBf",
     "vBA1OCZIHECEE1CGCB5CBDFqBB9CRfwBPgQ_tGgCs0VjCtBCsIDPKBUuBFHDwDnBICmDCxCUUBgBYzBMjCBAsBFDABCK",
     "gBFiBNcDyBBLPAQPKEB2BJNSWDkCBABAYCCPCDLFCFCFJGBGBqBBNG6DVj9KMWEwBkoItLCpDmBGMEFLBMBEBABBBBBr",
     "DhBqLS_BC1BoBL0DEBmEkBZGZL4CDFCFCFCCjBLBZBSBBBOCNiB6DlC0BrIcDwBvBfNdFqBFdCjBEHBEqB9ESjBEjBEn",
     "BIzBMKBOBGBBBKBOBGBBDzBM2JJVKHYFBpBBIlCFCABrBBBDACWKWJehCSBBKVKZGZmB3BGBgCDBBFHBCBcqBcDcjBHB",
     "bb1BKVKSNRuDoC3ByBNyBNnBiBbDAFW6HpBBBDBQFyBCDcKAIVqBRuBUbWJlCrBEK4BJANYXyBRDIiBDAJ_BBDJBKABA",
     "jBRBhBCAGD.BGBABDBOBJH4BXDBHCBCVBGBBBEDHCBCBDAGAFGcJBACABlBBJBACABDBBDABAsBhCBCBDUCehCCBBA4F",
     "1BCGZFiB.BBADA7B1BCAnCaCNVG5F4BnD_BfHCACHBBBdBBCBCD9CHCtBCFBABBbyBCJRnCFASoCnDH4CgBfIBsBBGBA",
     "xBdCVBNpCGBBBrBDABBBCBACBYFBBBkBBBBDBAXrBkIWJQBoBDCvDAvC5cmDuDRjGsyCgDPvhBRFZ68DFmS51GuBx2B4",
     "RHeRuCRdSvBQDfUFSwNsBzG_BgBYCYsBqCE4BHQgCBBAMGJ1mHpBfhDyD9vIDBGBBBiJPAdCCAODIrMkoCqDFMDIHJEA",
     "h7F0CBmCBBCACBCDBLBABGBgCBDCHBGBbBDBEBADGBzKCYBYBeBYBeBYBeBYBeBYBH05BeGF1GGBQCGBBBEF9BhBAwDs",
     "BKGQAhKdSrBkPbkHdCAvGeBVIBgHGBDBBBOBkG7BjCDADA0lBDBaBBBACABJBDBABAGAEABABABCBBBACABABABABABB",
     "BACDBGBDBDBABJBQFCBEBQ0TZGZGZ2zD_2pBgB9oECt0FCwpHPtTitC9QivBq6EFppI"]),
  (["bidic", "bidicontrol"],
    ["8wBAxvGBaE3BD"]),
  (["bidim", "bidimirrored"],
    ["oBBSABAcABAdABAtBAPA.zDD96BB8sCBKB2BBOBxFAgGDDFDADBDDBDBABAEIFABRFDJBBABHBfCDFAJBCSFBJECBEXC",
     "PIDUBHB9hBNqCACDBBBCFDFCDNzMVCFBNIAHFDAEEBBCEEABCCBKFCBMSBDCABACABDFBGCYBLBEDBBCBEqBCHBnBFAB",
     "ADEFCEADEBAgIAjQDDBBBOBCJrBHrNJCH9xzBFFBiFBSABAcABAdABABBBB371BA5BA5BA5BA5BA"]),
  (["ci", "caseignorable"],
    ["nBAGALAjBABAnCAEABAEACB3P_FEBEAJBBA7HGvGAFAxBsBBABBBBBAsBALFKKBAjBAKUQAlDHBJBDhBABAea7CK6BKE",
     "ACAYXrBCsBAHBFIpB5B3BABAEHEADGKBNAPA6BAEDIAUBaACB5BAEBEBCCDAeBDALB5BAEEBBEAUBWFBA6BACABDIAHB",
     "LBeA9BAMAyBADA3BABCFCBDHBLBdA6BACAGAFBUBcB5BBEDIAUBdAoCAHCBA6CACGLIiDACIJABGpCBbABABA3BNBEBB",
     "FKBjBJAmDDBFBBCBZBECQDNACBGAPA.CAgTCydCdBeBeBgCBBGIACKDAFAtBEzBAhCBiBA2DCEBJAGC7GBCA6BABGBAB",
     "ACHGJCAnBAItBCLUDwBABEBAFAoBIMBgBDCBBC4BABBDABC6BHCBgCFyCCBMBGEAGADByB.BNAiBkD9NABCLCNCNCNBM",
     "EIBKACACExBEBJBANAQMzBgBr8CBxDC9DAPAgDfvBA1OAkBDDEFA9CF9CC24bAinBFuIAiDDBJBAcDwCBOhBuCAXCmDD",
     "DBIADAEAZBFA3EBaRNAmBHZKuBCwBACDCBRAVBiCFCBCBMAIAjBALAzBABCCBFBBAbAOBFBBAkDEJC5DACAEAw5TAzEQ",
     "9RPDAMPiBACApFAHAGALAjBABAvBAtBBjCAVChQAiHA1EElgBFBpBBImSCBBFDoBCEAlFB9RDmBAaEBA7JBYA0BFmCKx",
     "BD7DA2BOpBACBKCxBDCBCAEAKAyBCkBEBH.BAMB0BIKDCA_CCCABBGACA9EADHVB5BBDAlBGDEmCFNABABAOB1CHCCBA",
     "XA0CFBAEBBBuHDGBBBbB1CHCABBqDABACFBAlDABACDBEjIIBBgIBBAEAwEDCBEAgBJoBFCDIAJFCCuBMBBmGABCBApG",
     "GBFBAyCVCGBBBB6DFDABBBGBAoCBDABAhCA5IBLB0BEFABAXA1mFQGOomLLDCguCE7BGJD8PCoBBiPA_BQgCBBBNB8_P",
     "DBGBB.kDBBD8yEtBCWgRCJPCGeD0EC79B2BExBIAOAWEBOwqBGBQCGBBBEF9BhBAgFNwLA9BD7PE.HBzHACAHBFAJAwO",
     "GtDHv1CEhgjYAe_CgEvH"]),
  (["cased"],
    ["hCZGZvBAKAEAFWBeBiGBDEvGCiBHBeEgDAqBDCBCDBAGABCBABTByCBqEIlFBlBJoB34ClBBAFACqBBDgV1CCFikCKFq",
     "BCCgC_FgC1ICFClBCFCHBABABABeC0BBGBADCBGDDCFEMFCBG0DANAQMlDAEACJBADEGABABABDBFEACDFEEARfDBxZz",
     "B24BkHGDDBMlBBAFAyoetBSdkElDDDBsCUFBC1ZqBBNGvCg6TGMEpgBZGZllBvCgDjBEjB0DKBOBGBBBKBOBGBBjOACC",
     "BpBBIlmByBNyB9CVKV64C_BgrV_BgBYCYspZ0CBmCBBCACBCDBLBABGBgCBDCHBGBbBDBEBADGBzKCYBYBeBYBeBYBeB",
     "YBeBYBH05BJBTGFlI9BykCjCs_BZGZGZ"]),
  (["cwcf", "changeswhencasefolded"],
    ["hCZ6CAKWBHgBABABABABABABABABABABABABABABABABABABABABABABABABABABABACABABABABABABABABBBABABAB",
     "ABABABABABABABABABABABABABABABABABABABBBABABABBBABBBCCDBBBCDBBBBABABBBACABBBCBABBDAHBBBBBBAB",
     "ABABABABABABACABABABABABABABABACBBABCBABABABABABABABABABABABABABABABABABABABABABABABABABABAB",
     "ABAHBBBCABDBABABABA2HAqBABADAIAGABCBABBBQBIWAMCDBBABABABABABABABABABABABABBCBBABBCyBwBABABAB",
     "ABABABABABABABABABABABABABAJABABABABABABABABABABABABABABABABABABABABABABABABABABABBBABABABAB",
     "ABACABABABABABABABABABABABABABABABABABABABABABABABABABABABABABABABABABABABABABABABABABABABAB",
     "ABABABAClBwBA44ClBBAFAqZFikCJGqBCCgKABABABABABABABABABABABABABABABABABABABABABABABABABABABAB",
     "ABABABABABABABABABABABABABABABABABABABABABABABABABABABABABABABABABABABABABABABABABABABABABAB",
     "AFBCABABABABABABABABABABABABABABABABABABABABABABABABABABABABABABABABABABABABABABABABABABABAB",
     "ABABABABAJHIFKHIHIFLABABABAIHQvBCCCFFCCFLDMEFCCFpJADBGAtBPTAyZZw5BvBwBABCCABABABDBACAICBABAB",
     "ABABABABABABABABABABABABABABABABABABABABABABABABABABABABABABABABABABABABABABABABABABABABABAB",
     "AIABAEAtqeABABABABABABABABABABABABABABABABABABABABABABATABABABABABABABABABABABABABAnEABABABA",
     "BABABADABABABABABABABABABABABABABABABABABABABABABABABABABABABABABABAKABABBBABABABAEABACABADA",
     "BABABABABABABABABABEBEBABABABABABABABDBABBBABABABABABABABAYA6bvCg6TGMEpgBZlmBnBoEjB8EKBOBGBB",
     "q3ByB9EV65CfgsVfgCYnyehB"]),
  (["cwcm", "changeswhencasemapped"],
    ["hCZGZ6BAKWBeB_BBzCBbCNCBBAE8CBRGaBBBABBDBBDBECABBCAHACABBDFFAKBmFAqBDCBDCBAGABCBABTBuBDgBBEB",
     "kEIlFBlBKmB44ClBBAFACqBCCgV1CCFikCKFqBCC5FADAQAxD7ECAB1DCFClBCFCHBABABABeC0BBGBADCBGDDCFEMFC",
     "BGpJADBGAbARfDBxZzB24BwDBBBBHlDHDDBMlBBAFAyoetBSbmENC9BJODCCEBYBsBYB8aAcvCg6TGMEpgBZGZllBvCg",
     "DjBEjB0DKBOBGBBBKBOBGBBj2ByBNyB9CVKV64C_BgrV_BgBYCYsxejC"]),
  (["cwl", "changeswhenlowercased"],
    ["hCZlDWBGhBABABABABABABABABABABABABABABABABABABABABABABABABABABABACABABABABABABABACABABABABAB",
     "ABABABABABABABABABABABABABABABABABABBBABADBBABBBCCDBBBCDBBBBABABBBACABBBCBABBDAHBBBBBBABABAB",
     "ABABABABACABABABABABABABABACBBABCBABABABABABABABABABABABABABABABABABABABABABABABABABABABABAH",
     "BBBCABDBABABABAhJABADAIAGABCBABBBQBIjBAIABABABABABABABABABABABAFACABBCyBwBABABABABABABABABAB",
     "ABABABABABABABAJABABABABABABABABABABABABABABABABABABABABABABABABABABABBBABABABABABACABABABAB",
     "ABABABABABABABABABABABABABABABABABABABABABABABABABABABABABABABABABABABABABABABABABABABAClBp6",
     "ClBBAFAyW1CzkCAGqBCCgKABABABABABABABABABABABABABABABABABABABABABABABABABABABABABABABABABABAB",
     "ABABABABABABABABABABABABABABABABABABABABABABABABABABABABABABABABABABABABABABABAJABABABABABAB",
     "ABABABABABABABABABABABABABABABABABABABABABABABABABABABABABABABABABABABABABABABABABABAJHIFKHI",
     "HIFLABABABAIHYHIHIHIELELDMELEpJADBGAtBPTAyZZw5BvBwBABCCABABABDBACAICBABABABABABABABABABABABA",
     "BABABABABABABABABABABABABABABABABABABABABABABABABABABABABABABABABABABABABAIABAEAtqeABABABABA",
     "BABABABABABABABABABABABABABABABABABATABABABABABABABABABABABABABAnEABABABABABABADABABABABABAB",
     "ABABABABABABABABABABABABABABABABABABABABABABABABAKABABBBABABABAEABACABADABABABABABABABABABAB",
     "EBEBABABABABABABABDBABBBABABABABABABABAYAr5VZlmBnBoEjB8EKBOBGBBq3ByB9EV65CfgsVfgCYnyehB"]),
  (["cwt", "changeswhentitlecased"],
    ["hDZ6BApBXBHBABABABABABABABABABABABABABABABABABABABABABABABABABABABACABABABABABABABBBABABABAB",
     "ABABABABABABABABABABABABABABABABABABACABABCCABACADAFACADCCACABABACAEACADABACADABAEABBBBBABAB",
     "ABABABABABABBBABABABABABABABABCBABADABABABABABABABABABABABABABABABABABABABADABABABABABABABAB",
     "AIACBBAEABABABABFBBBABBDBBDBECABBCAHACABBDFFAKBmFArBABADADCSAbiBBBDCBABABABABABABABABABABABE",
     "BACACA0BvBBABABABABABABABABABABABABABABABABAJABABABABABABABABABABABABABABABABABABABABABABABA",
     "BABABACABABABABABABBBABABABABABABABABABABABABABABABABABABABABABABABABABABABABABABABABABABABA",
     "BABABABABABABABABABABABAxBmBwzDFikCIBAuHADAQAyDABABABABABABABABABABABABABABABABABABABABABABA",
     "BABABABABABABABABABABABABABABABABABABABABABABABABABABABABABABABABABABABABABABABABABABABABABA",
     "BABABABABABGFABABABABABABABABABABABABABABABABABABABABABABABABABABABABABABABABABABABABABABABA",
     "BABABABABABABABIIFKHIHIFKHIHINCHIHIHIEBBGADCBBIDCBIHKCBB2KAhBPEAraZm6BvBBADBBABABAGACAKABABA",
     "BABABABABABABABABABABABABABABABABABABABABABABABABABABABABABABABABABABABABABABABABABABABABABA",
     "BAIABAEAMlBBAFAzoeABABABABABABABABABABABABABABABABABABABABABABATABABABABABABABABABABABABABAn",
     "EABABABABABABADABABABABABABABABABABABABABABABABABABABABABABABABABABABABABABAKABACABABABABAEA",
     "EABBCABABABABABABABABABALABABABABABABABAEABACABABABABABABABAaA8aAcvCg6TGMEphBZtmBnBoEjB7EKBO",
     "BGBBj4ByB9DV65CfgsVf7BYuyehB"]),
  (["cwu", "changeswhenuppercased"],
    ["hDZ6BApBXBHBABABABABABABABABABABABABABABABABABABABABABABABABABABABACABABABABABABABBBABABABAB",
     "ABABABABABABABABABABABABABABABABABABACABABCCABACADAFACADCCACABABACAEACADABACADABAFBBBBBBABAB",
     "ABABABABABBBABABABABABABABABBBBBADABABABABABABABABABABABABABABABABABABABADABABABABABABABABAI",
     "ACBBAEABABABABFBBBABBDBBDBECABBCAHACABBDFFAKBmFArBABADADCSAbiBBBDCBABABABABABABABABABABABEBA",
     "CACA0BvBBABABABABABABABABABABABABABABABABAJABABABABABABABABABABABABABABABABABABABABABABABABA",
     "BABACABABABABABABBBABABABABABABABABABABABABABABABABABABABABABABABABABABABABABABABABABABABABA",
     "BABABABABABABABABABABAxBmBo6CqBCC4XFikCIBAuHADAQAyDABABABABABABABABABABABABABABABABABABABABA",
     "BABABABABABABABABABABABABABABABABABABABABABABABABABABABABABABABABABABABABABABABABABABABABABA",
     "BABABABABABABABGFABABABABABABABABABABABABABABABABABABABABABABABABABABABABABABABABABABABABABA",
     "BABABABABABABABABABIIFKHIHIFKHIHINC0BBBEABADCBBEADDCBIHKCBBEAxKAhBPEAraZm6BvBBADBBABABAGACAK",
     "ABABABABABABABABABABABABABABABABABABABABABABABABABABABABABABABABABABABABABABABABABABABABABAB",
     "ABABABAIABAEAMlBBAFAzoeABABABABABABABABABABABABABABABABABABABABABABATABABABABABABABABABABABA",
     "BABAnEABABABABABABADABABABABABABABABABABABABABABABABABABABABABABABABABABABABABABAKABACABABAB",
     "ABAEAEABBCABABABABABABABABABALABABABABABABABAEABACABABABABABABABAaA8aAcvCg6TGMEphBZtmBnBoEjB",
     "7EKBOBGBBj4ByB9DV65CfgsVf7BYuyehB"]),
  (["dash"],
    ["tBA8qBAzBAhyDAlgBApgCF9BAnBAPAmMAkgDACAfBEAcA.NATAvDAwszBBlBAKApFAgzDA.JA"]),
  (["di", "defaultignorablecodepoint"],
    ["tFAhVAsWAi6CBzyBB1CE7_BEaExBP0nEA7kzBPvHAgFAvCInlvBDvmFHl0rY__D"]),
  (["dep", "deprecated"],
    ["pKAppBAjoCABAphCBlmCF5VB2m3bA"]),
  (["dia", "diacritic"],
    [".CABAnCAGAEACB3P.EBHFFRBEAJB9HExGA3BsBBABBBBBAjEHEBmEBEBDCjCa7CK6BKiBB.DHpBJQb9BAQADDcAqCAQA",
     "uDAQAuDAQAvBC8BAQAHA3DAuDAQAuDAQAtDBQA8DAvDAMFBArDANErCBbABABAEBiCCBB.BAwDABBoBBEEZGBAKBhWC0",
     "dBeA0EKJA7KCkJAUHCAwBOCKDOCLoCAPAmBI2BB6BALBiCBgCFyCYEAGACCyB.BwBjBFLlBK9NABCLCNCNCNBwnDC9JA",
     "6PFpDD_CAyrdAMBBAcByCBOhBmDCmDAGBMAlBA3EAbR5BDkBA_CAMAkBA1EChCDzBAkDEJCgEBw5TAhYPuIABAvBAtBB",
     "jCA8XA_kBFBpBBI9TCEAlFB7RFmBAaEsMACCmCKxBDgGApBAoCB4DB.BAsCAJCoDByFBwCBQAYGDE5CCBBNB_CADA7DB",
     "7HB.DA2DBzDAtIBiIBEA8EAzCASAxCAlNAiIABBxCAhCAnLBXAsnFO5mLAguCE7BG0RBiRQwCB._PDBGBBh4HtBCWgRC",
     "DFIHCGeDi0D9BiGG3LA9BD.XBgXGtDCBC"]),
  (["emoji"],
    ["jBAGAFJvDAEAt8HAMA4GAWA6CFPBvLBMAmFAZKECnGAnHBKAJA6BDBEJACACBCAEACABBCADADBICFABAFLLBCABBBAS",
     "ACBSFBABBDBFACBEBLBFBCAFBBABBUBFFBDCAEACACFBACABABAGADAGAKBPACAEABAECBALBwBCJAOAOA0LBvOCTBzB",
     "AEA6mBAMA5SABAqrvDAqGAgFBMBOACJrCZBBXAUACIVBuFhBCvDCBBCCyCCCBmIB.BLFBXHBCHMACDCAEBNBCAIBJAFC",
     "MCICCABAEAGADAG1CwBlCFHCDDJDABBDACJjHLEA7IuBBJB4FwDMDKD4BBAEPCLEJ"]),
  (["ecomp", "emojicomponent"],
    ["jBAGAFJz.HA1GArp3BA2.8BZ7PEwtBDszhY_C"]),
  (["emod", "emojimodifier"],
    ["7_8DE"]),
  (["ebase", "emojimodifierbase"],
    ["9wJA7GAQD3jzDA8BCCACC1DBCKVSDAECBCHABAYApGBEAVAEBuFCDEzCAQCJALA_RACAIHGAJJCC4BA9BBBBBARCBMlH",
     "CqBI"]),
  (["epres", "emojipresentation"],
    ["64IBtGDDACApQBVByBLrBATANAIBRBFBIAFAVAHBBAEACAHAEBcAjBABAECBA9BCYAOA7aBzBAEAulxDAqGA.FACJrCZ",
     "BAYAUACEBCVBuFgBMIBlCBVMqBEEMQDADmCBAB6FC.BNDBXSAaBNA2C0CwBlCGADCCDDDLBHIjHLEA7IuBBJB4FwDMDK",
     "D4BBAEPCLEJ"]),
  (["extpict", "extendedpictographic"],
    ["pFAEAt8HAMA4GAWA6CFPBvLBMAmFAZKECnGAnHBKAJA6BDBEJACACBCAEACABBCADADBICFABAFLLBCABBBASACBSFBA",
     "BBDBFACBEBLBFBCAFBBABBUBFFBDCAEACACFBACABABAGADAGAKBPACAEABAECBALBwBCJAOAOA0LBvOCTBzBAEA6mBA",
     "MA5SABAqrvDAnBDkDLPBPAOBlBJwDBMBOACJT3BbOKAUACIBDJWG7FCvDCBBCCyCCCBDF9HB.BLFBXHBCHMACDCAEBNB",
     "CAIBJAFCMCICCABAEAGADAG1CwBlCFHCQDABFCM6GlBMD4BHKFoBHeBMDCNJmBMuBBJB4F4CHOxEgI9f"]),
  (["ext", "extender"],
    ["3FA4QBubA5NA2TApEA5CAwXA_DAjqCA4BAjTAuMAkCAp8EArBEnDB9CC24bA2vBAieAWApEAsDAVB7jVAwgCBruBAbAE",
     "AnmBAlJA0DByPCvmBAgaAorTB8kBBBAOBoqcBxlBA0aC"]),
  (["grbase", "graphemebase"],
    ["gB.ChBMBxSwDHCFEGBABTB_GHlFBlBCxBCCuBABACACAJaEFRJLABtBVPBkDIAGBCAEfCABdd4CLAOqBJGDXEAJADAHO",
     "BYFABKFfQpB5B2BBABDIDBCHJCcBBBHCBCVBGBADDDABBGBCBBANBBCEXFABFEBCVBGBBBBBBECYDBAHJCCBAMABIBCB",
     "VBGBBBEDDIABBDAPBELHAIBBHCBCVBGBBBEDACAGBCBPBBCERLABFDCBDDBBABBDBDCDLFABBDCBCDAVUGCBHBCBWBPD",
     "ADDTCBBCBEJHJBKBCBWBJBEDBCABBXCBBEJBCOKBCBoBCABBFCBCBBECBJEZCBBRDXBIBACGJBGGHJCCMvBBBLHIMlBB",
     "BABEBXBABJBBJACEBAJJCDgBXCaBABABNBjBSAFACExBHBFBMlBsBEAGACBCYCDDPEMBBCFBOBnBBAFAC4LBDCGBABDC",
     "oBBDCgBBDCGBABDCOB4BBDCiCFcDZG1CCFC8UD4CHRNSDBJROMBCPzBCAHHBBLIDJGJGKFJG4CHEChBBAFlCKeEDCCEB",
     "BFHADpBCELrBEZGKD4BCBD3BBAJABBIFNJGJGN2CvBKDDHBcJLCfEBG3BBACCBANvBIBFOD9BFqBCKLANAHDBFBCCAF_",
     "FgC1ICFClBCFCHBABABABeC0BBOBNCFBSCCBIBKFXHwBQBCaBMDhB.BrEE5UWKVz4BC4LDBFsBBAFAC3BHBPWJGBGBGB",
     "GBGBGBGBGhB9CiBZB4CM1Ga5BGPB1CEkDFqBB9CB1CJvBBszcD2BJ7KUuBEAKfCvCCFI8GUQBCBDBYCEEJG3BIjCKLYM",
     "BlBIYLAMdGvBBBEBCBBMBKEGBYBoBGBCBLCBHBACJCfByBBADBCECABAYQCHLFCFCFJGBGB7BE0DBBBDDJGj9KMWEwBk",
     "oItLCpDmBGMEFABXBEBABBBBBpUgBPQJWiBBSBDEEBmEE8ECeDFCFCFCCDGBGNBCLBZBSBBBOCNiB6DFCEsBD3CBMDAv",
     "BsBjEcDwBQaEjBJdFlBKdBkBENqB9ECJGjBEjBEnBIzBLLBOBGBBBKBOBGBBDzBM2JJVKHYFBpBBIlCFCABrBBBDACWB",
     "nCIIwBSBBFgBDaFamB3BETCuBPDBCBcKIHIH_BgBkBGLJ1BDcCaFZHDMGwCoC3ByBNyBHpBMJGlBIXIBwGeBpBDACBQF",
     "IInBnBIVLIWREDmBbUWJAB1BPGEdBBCAMwBEBCBBDOYHJJjBFAJRIiBBCLzBJABHEBBPBTLRBbDBEFBB_BGBABDBOBKG",
     "uBBCNJIBBHCBCVBGBBBEDABABDCBCBDAMGcJBACABlBBABBPABBDABCBBnB3BIBDABUBABCevBBBGABBBACACDIJmFuB",
     "BBGDCACakByBIBBACDLJGMTqBBABBIBGJGTcaDABBEAJW5FuBJACAkDyCMHCACHBBBXBEBBGDBCJJmCHCpBIDBDbAKnB",
     "GBEHJAGBDtBNACINoCHJ3CADABA4ChBOJGIBlBOABFKcDfZAHACArCGBBBlBVAJJGFBBBkBEBBABAHJGrBEJ2HSCDJOB",
     "jBIBDW2CAPxBN6cmDuDBELjGsyCiDNvhBRFZ68DFmS51GdMCDJm2B4RHeBJEwCBJGdHAKvBHOKJBGBUFSwN5BmG6CFYC",
     "YsBqCF3BLMgCDOEJ1mHpBfhDyD9vIDBGBBBiJPAdCCAODIrMkoCqDFMDIHJCACAg7D8HDzNGWPQ_CzD8B1HKmBC7BFCW",
     "BHdE8BVhCDA6DTMTM2CJYnE0CBmCBBCACBCDBLBABGBgCBDCHBGBbBDBEBADGBzKCjJCxR3BDyBHBNBG0jBeGFlI9ByE",
     "sBKGCJEBgKdSrBEJFAwObEJ2GdCKEAgGeBCBBBGCEJBgHGBDBBBOBkGCIwBjCHAEJEBxYjCsC8BiGDBaBBBACABJBDBA",
     "BAGAEABABABCBBBACABABABABABBBACDBGBDBDBABJBQFCBEBQ0BBuIrBEjDMOCOBOBkBKtF4BcNrBEIHBOF6E4eDQDM",
     "D5GGLEAPLE3BIJGnBIdCLEBOInB3KINCMDKD4BBAEPCLEJHyEBmDlgB_2pBgB9oECt0FCwpHPtTitC9QivBq6EFppI"]),
  (["grext", "graphemeextend"],
    ["gYvDzIGnIsBBABBBBBAoCKwBUQAlDGCFCBBDjBAea7CK6BIJAYDBIBCBErBC7BIqBXBf3BABAEHEADGKBdA6BABACDIA",
     "JAKBaACB5BAEBEBCCDAeBDALB5BAEEBBEAUBWFBA6BABBBDIAHCKBeA7BABAMAJAoBADA3BABCFCBDHBLBdA6BACBBAD",
     "CBDHBLBcB5BBBACDIAJAKBdAoCAEACCBAIAxCACGMHiDACILGpCBbABABA3BNBEBBFKBjBJAmDDBFBBCBZBECQDNACBG",
     "APA_VCydDcCdBeBgCBBGIACKJAtBCBA1DBiBA2DCEBJAGC7GBCA6BABGBABACHGJCAwBtBCLUDwBJECmBIMBgBDCF4BA",
     "BBDABE4BHCB4ECBMBGEAGADBmG_BsQAjGgB._CCtEAgDfqRFpDB0udDBJgBBwCBwIADAEAZBFA3EBaRNAmBHZKBAsBCw",
     "BACDCBCAkBAjCFCBCBMAIAvBAzBABCCBFBBAqBBIAuHACAEAw5TAhXPQPuLB9SAiHA1EEm0BCBBFDoBCEAlFB9RDhCE9",
     "JBtCFmCKxBD7DA2BOpBACBKCxBDCBHA9BCkBEBH.BAMB0BIBAIDCA_CCCDGACA9EADHVB5BBBABAMAJAOGDEjCACFBAC",
     "ABCECBAOB1CHCCBAXAxCACFBACABBBBrHACDGBBBbB1CHCABBqDABACHlDABACDBEjIIBB1HAKDEAwEDCBEAgBJoBFCD",
     "IAJFCCuBMBBmGABCBApGGBFBAyCVCGBBBB6DFDABBBGBAoCBDABA7KBLB0BEFCXAlnFAGOomLLDCguCE7BG4gBA_BDxC",
     "ALBrlTBhzEtBCW.QEDFIHCGeD0EC79B2BExBIAOAWEBOwqBGBQCGBBBEkDAgFG3LA9BD8PD.HBzHACAHBFA6OGtDG12l",
     "Y_CgEvH"]),
  (["grlink", "graphemelink"],
    ["tqCA_DA_DA_DA_DA_DA_DA_DAtDBQA8DAvDA_DApGA0FB52BBeA9EAtUAjHAlDBmCBrsEAm0eAlBA3EAuEAsDA1JA2HA",
     "xyXAmwBApBAOA5BA5DBrEA0DA0FAiDAgECxDA_DA8HA_DA2DA0DAtIAjIBhFAzCASAxCAlNAkIBxCApNBsvQA"]),
  (["hex", "hexdigit"],
    ["wBJHFaFp1_BJHFaF"]),
  (["hyphen"],
    ["tBA_DA8mBA7zEApgCBlwDAjXAnrzBApFA3CA"]),
  (["idsb", "idsbinaryoperator"],
    ["w_LBCJxPA"]),
  (["idst", "idstrinaryoperator"],
    ["y_LB"]),
  (["idsu", "idsunaryoperator"],
    ["._LB"]),
  (["idcompatmathcontinue"],
    ["yFBFA29HADKBOzLAEAWAiltDAZAfAZAfAZAfAZAfAZA"]),
  (["idcompatmathstart"],
    ["iwIAEAWAiltDAZAfAZAfAZAfAZAfAZA"]),
  (["idc", "idcontinue"],
    ["wBJHZEABZvBAKABACAFWBeBpOELOEHABAR0DBBCDBAGEBABTByCBqEBEClFBlBCAGoBIsBBABBBBBAIaEDdKFpCElDBH",
     "CJBSCAQ6BCkDO1BEACACtBSbEKFXBGHqCBgECJBSBHCBCVBGBADDCICBCDIAEBBECLKABACCBFEBCVBGBBBBBBCABEEB",
     "CCDAHDBAHPLCBIBCBVBGBBBECJBCBCCAPDCJJGBCBHCBCVBGBBBECICBCCHCEBBECJBAQBBFDCBDDBBABBDBDCDLEEDC",
     "BDCAGAOJQMBCBWBPCIBCBDHBBCBBCDCJQDBHBCBWBJBECIBCBDHBFCBDCJBCMMBCByBBCBEFDHECJKFBCBRDXBIBACGD",
     "AEFBABHGJCBN5BFOBJnBBBABEBXBABWCEBABGBJCDgBAXBGJLABABAEJBjBETBRBjBJA5BpCGtCClBBAFACqBBsKBDCG",
     "BABDCoBBDCgBBDCGBABDCOB4BBDCiCCCJIOPQ1CCFDrTCQBZFqCDKHVJVLTMMBCBBMzCDAEBCJhBCBKG4CHqBFlCKeBL",
     "ELKnBCELrBEZGKlBbE.BBcCKGJNAINBeCLUsCDJRIMzDM3BIJDwBCKFqBCCQCBmBF1QCFClBCFCHBABABABeC0BBGBAD",
     "CBGDDCFEMFCBGPBxBBTAcANAQMzBMEADLRAEACJBACFGABABABPCDFEEARoB3zCkHGIMlBBAFAC3BHAPXJGBGBGBGBGB",
     "GBGBGBflQCZOBECEE1CCGB.CFqBB9CRfwBPgQ_tGgCs0VjCtBCsIDbUvBEJByDlBICmDCxCU2BEATzBMlCKJGXDABwBC",
     "jBMcDgCOKGeB2BJNCJGWDoCYCCPCEKFCFCFJGBGBqBBNG6DBBCJGj9KMWEwBkoItLCpDmBGMEFLBMBEBABBBBBrDhBqL",
     "S_BC1BoBLEPQPDBYCgBEBmETJHZEABZK5CDFCFCFCCjBLBZBSBBBOCNiB6DlC0BoEAiEcDwBPAffNdFqBFdCjBEHBEqB",
     "9ECJGjBEjBEnBIzBMKBOBGBBBKBOBGBBDzBM2JJVKHYFBpBBIlCFCABrBBBDACWKWJehCSBBKVKZGZmB3BGBgCDBBFHB",
     "CBcCCEAgBcDcjBHBdZ1BKVKSNRuDoC3ByBNyBNnBIJGlBDEBW6HpBBBDBQFyBiBKAIgBfVqBUbWJmCfPJ7BHANYHJG0B",
     "BJEDIjBCAJkCEDBMBAjBRBkBGD.BGBABDBOBJH6BFJGDBHCBCVBGBBBEBJCBCCCAGAFGCGDELJBACABlBBJBACABDBHN",
     "BdqCFJEDelCBAIJmF1BCIXFiBgCDALJmB4BHJGTcaCOEJGG5F6BlDpCVHCACHBBBdBBCIMJmCHCtBCHBBb.BIAIpCDAS",
     "oCnDH4CgBPJGIBsBBIPJYdCVBNpCGBBBrBDABBBIIJGFBBBkBBBBFHJGrBEJ2HWJQBoBDENK1CAvC5cmDuDRjGsyCgDP",
     "vhBQVK68DFmS51G5Bm2B4RHeBJGuCBJGdCEL2BJDMJJUFSwNsBDJmG_BgBYCYsBqCE4BHQgCBBBLGJ1mHpBfhDyD9vID",
     "BGBBBiJPAdCCAODIrMkoCqDFMDIHJDBxiEJmQtBCW.QEDFIHCGeD0EC7N0CBmCBBCACBCDBLBABGBgCBDCHBGBbBDBEB",
     "ADGBzKCYBYBeBYBeBYBeBYBeBYBHCxBgQ2BExBIAOAWEBOwiBeGF1GGBQCGBBBEF9BhBAwDsBDNCJEAhKeR5B2OpB2Gq",
     "BlGeBVIBgHGBDBBBOBkGLGpBrCEJmlBDBaBBBACABJBDBABAGAEABABABCBBBACABABABABABBBACDBGBDBDBABJBQFC",
     "BEBQ0pDJmgB_2pBgB9oECt0FCwpHPtTitC9QivBq6EFppImkzVvH"]),
  (["ids", "idstart"],
    ["hCZGZvBAKAEAFWBeBpOELOEHABAhEEBBCDBAGABCBABTByCBqEIlFBlBCAGoBnCaEDtBqBjBBBiDBAPBHBKCCAQABdd4",
     "CLAYgBJBEAFVEAJADAXYHKFXBGQpB6B1BDASAHJPPEHCBCVBGBADDDAQANBBCOBKAIFEBCVBGBBBBBBfDBATCQIBCBVB",
     "GBBBEDASAPBXALHCBCVBGBBBEDAeBBCPARABFDCBDDBBABBDBDCDLWA0BHBCBWBPDAaCBBCBeAEHBCBWBJBEDAeCBBPB",
     "RIBCBoBCAQAFCICYFFRDXBIBACG6BvBBBMG6BBBABEBXBABJBBJACEBAVDgBA_BHBjBbEzDqBUAQFEDDADBHCEMMARlB",
     "BAFACqBBsKBDCGBABDCoBBDCgBBDCGBABDCOB4BBDCiClBPQ1CCFDrTCQBZFqCDKHRNSOROMBCPzBjBAEAjC4CHoBBAF",
     "lCKexBdCELrBEZ2BWJ0ByCA9CuBRH2BdNBKrBajBpBCKjBCKFqBCCpBDBFBBDAF_FgC1ICFClBCFCHBABABABeC0BBGB",
     "ADCBGDDCFEMFCBG0DANAQMlDAEACJBACFGABABABPCDFEEARoB3zCkHGDDBMlBBAFAC3BHAQWJGBGBGBGBGBGBGBGmRC",
     "ZIHECEE1CEEB5CBDFqBB9CRfwBPgQ_tGgCs0VjCtBCsIDPKBUuBQeCvCnBICmDCxCUQBCBDBWdzBOxB.BFDABBLbKWZc",
     "HuBcAQEBJKEBoBXCBHUWDADxBBADBCECABAYCCKHCMFCFCFJGBGBqBBNGyDdj9KMWEwBkoItLCpDmBGMEFABJBMBEBAB",
     "BBBBrDhBqLS_BC1BoBL0DEBmEkBZGZL4CDFCFCFCCjBLBZBSBBBOCNiB6DlC0BrIcDwBvBfNdFlBKdCjBEHBEqB9ESjB",
     "EjBEnBIzBMKBOBGBBBKBOBGBBDzBM2JJVKHYFBpBBIlCFCABrBBBDACWKWJehCSBBKVKZGZmB3BGBgCAPDBCBcqBcDcj",
     "BHBbb1BKVKSNRuDoC3ByBNyBNjBmBbJW6HpBGBQF4BcKAIVqBRuBUbWM0B5BBCANsBgBYajBdACAIiBDAMvBODVABAjB",
     "RBYTB_BGBABDBOBJHuBmBHCBCVBGBBBEDASAMEeJBACABlBBAZABAsB0BSDUCevBUBBA4FuBpBDkBvBUA7BqBNAnCalB",
     "G5FrB0D_BfHCACHBBBXPABA.CHCmBQABAcAKnBHAVALtBTASoCnGgBfIBkBRAxBdwDGBBBlBVAZFBBBfOAXrBkISPABM",
     "BhB8DAvC5cmDuDRjGsyCgDPvhBRFZ68DFmS51Gdi3B4RHeRuCRdSvBQDfUFSwNsBzG_BgBYCYsBqCFAiCMgCBBAOEJ1m",
     "HpBfhDyD9vIDBGBBBiJPAdCCAODIrMkoCqDFMDIHJm7F0CBmCBBCACBCDBLBABGBgCBDCHBGBbBDBEBADGBzKCYBYBeB",
     "YBeBYBeBYBeBYBH05BeGFlI9ByEsBKGQAhKdSrBkPbkHdCAvGeBCBBBGCEJBgHGBDBBBOBkG7BjCHA0lBDBaBBBACABJ",
     "BDBABAGAEABABABCBBBACABABABABABBBACDBGBDBDBABJBQFCBEBQkqE_2pBgB9oECt0FCwpHPtTitC9QivBq6EFppI"]),
  (["ideo", "ideographic"],
    ["mgMBZIOCle_tGgC_vUgoWtLCpDqodANEJ1mHpBfhDyD97IrMkoT_2pBgB9oECt0FCwpHPtTitC9QivBq6EFppI"]),
  (["joinc", "joincontrol"],
    ["sgIB"]),
  (["loe", "logicalorderexception"],
    ["gyDE7DEw3CCCA6nkBBCABB"]),
  (["lower", "lowercase"],
    ["hDZvBAKAEAkBXBHBABABABABABABABABABABABABABABABABABABABABABABABABABABABBBABABABABABABABBBABAB",
     "ABABABABABABABABABABABABABABABABABABABABACABABCCABACADBEACADCCACABABACABBBACADABACBCCGACACAB",
     "ABABABABABABABBBABABABABABABABABBCABADABABABABABABABABABABABABABABABABABABABABABABABABABABAB",
     "ABABGCACBBAEABABABABkCCiBHBeEgDArBABADACDSAbiBBBDCBABABABABABABABABABABABEBACACBzBvBBABABABA",
     "BABABABABABABABABABABABABAJABABABABABABABABABABABABABABABABABABABABABABABABABABACABABABABABA",
     "BBBABABABABABABABABABABABABABABABABABABABABABABABABABABABABABABABABABABABABABABABABABABABABA",
     "BABABAwBoBn6CqBBD4XFikCIBA1D_FhCABABABABABABABABABABABABABABABABABABABABABABABABABABABABABAB",
     "ABABABABABABABABABABABABABABABABABABABABABABABABABABABABABABABABABABABABABABABABABABABABIBAB",
     "ABABABABABABABABABABABABABABABABABABABABABABABABABABABABABABABABABABABABABABABABABABABABABAB",
     "ABIIFKHIHIFKHIHINCHIHIHIEBBGADCBBIDCBIHKCBB5DANAQMtDADBDAbAEAEACBIDEAhBPEAraZm6BvBBADBBABABA",
     "EABBBHDABABABABABABABABABABABABABABABABABABABABABABABABABABABABABABABABABABABABABABABABABABA",
     "BABABABABABABBHABAEAMlBBAFAzoeABABABABABABABABABABABABABABABABABABABABABABATABABABABABABABAB",
     "ABABABABABClEABABABABABABCBABABABABABABABABABABABABABABABABABABABABABABABABABABABABABABJBABA",
     "CABABABABAEABACABCBABABABABABABABABABAFAFABABABABABABABAEABACABABABABABABABAVDBABC1ZqBBNGvCg",
     "6TGMEphBZtmBnBoEjB7EKBOBGBBjOACCBpBBIloByB9DV65CfgsVf7BYmqZZaGBRaZaDBABGBKaZaZaZaZaZaZaZaZab",
     "cYBFaYBFaYBFaYBFaYBFBA05BJBTGFlI9B0lChB"]),
  (["math"],
    ["rBAQCfAdABAtBAEAlBAfA4WCCAaBCCvQCtwGAbCLADANAODVELEhCMEADBEESAEACJBACFGADBCBBCBFDNBAkCXBFBBE",
     "BEfBAGBOrIIDUB6CAeaBAYALG9NBMJEFEBCBDEOABACFLHFB5BABAdDJCwK_BgI_PwBUCF8.zBA3ZFBAiFAQCdABAdAB",
     "AjEAGDhtDBgrwBAvoB0CBmCBBCACBCDBLBABGBgCBDCHBGBbBDBEBADGBzKCjJCxBgwFDBaBBBACABJBDBABAGAEABAB",
     "ABCBBBACABABABABABBBACDBGBDBDBABJBQFCBEBQ0BB.uCI"]),
  (["mcm", "modifiercombiningmark"],
    ["0yBBCAjEAGADBhPBBCDAfA"]),
  (["nchar", "noncharactercodepoint"],
    ["wu_BfuQB.__BB.__BB.__BB.__BB.__BB.__BB.__BB.__BB.__BB.__BB.__BB.__BB.__BB.__BB.__BB.__BB"]),
  (["oalpha", "otheralphabetic"],
    ["jbMgSNBABBBBBAoCKwBMBGQAlDGEDCBEAjBAePmDKlDBDIBCBDqDA8BLDGGT2BBCOBBFCKBdC6BGCBCBKAKBdC6BEEBC",
     "BEAeBDALC6BHBCBBVBWCEC6BGCBCBJBKBeA7BEDCBCKAoBE5BGBCBCIBLBdC6BGBCBCIBLBPAMD6BGBCBCKAKBdCrCFB",
     "ABHSB9BACGSAjDACFBBQAjFSJKBjBuDLBACDXDECBCCGDDNLBAKD0zBBeBeBeBiCS8FBiBA2DLEI.GE5BJCTqCBLCxBE",
     "wBO8BCeICB5BKyBS8MhBr_Df0jeHiBBiLAIAXE4CByBPBA5BAmBEcLtBDwBLlBAjCNMAIBtBCyBABCCBFAsBEFAtHHz5",
     "TA3iCEm0BCBBFD0YDhCAhKBtCCjIC1BNtBBLCtBIJA9BCkBLSB5BCwBMOB8CICAGACA9EJXD6BGCBCBKAKB0CIBACABD",
     "BBnDMBCqDRtHGCGdByCOBAqDKnDNhIM3HFBBCBDABAuEGCFEAcJqBEBDSKuBNoGHnGHBGzCVBN6DFDABBBCBADAiCEBB",
     "BD8KDJBBAwBGDC9uQQgxDAB2BHD9CBslTAh7IGBQCGBBBEkDAzyBACAHBFAxSA"]),
  (["odi", "otherdefaultignorablecodepoint"],
    ["vaAvwDBzyBBvlCA.nEA7xzBAvCInggaABdgD_DwHvwD"]),
  (["ogrext", "othergraphemeextend"],
    [".tCAYAmLAYAmDAYAoHABAEBBBJBnDAYA3DAPA1pCAeAggBAFABAFBlDAnCB4gBAhhEBjpeAsDA9uVBgxEA0DAoIAOAJA",
     "gDAJACABCFAgHAMAxHAmIA5TAMAjwBAulUBzrYBGFt1rY_C"]),
  (["oidc", "otheridcontinue"],
    ["3FAvWAh_DIozBAxxBBtnEApzzBA"]),
  (["oids", "otheridstart"],
    ["lkGBxkCAVAs7DB"]),
  (["olower", "otherlowercase"],
    ["qFAPA1PIHBeEgDA0BAhsDAvhD.BNAiBkBxVANAQMzGPwaZy8BB.weByGAgEDDBibDJA2gXACCBpBBI1j2B9B"]),
  (["omath", "othermath"],
    [".CAxbCCAaBCBghHAbCLAgBDYBOBhCMEADBEESAEACJBADEGADBCBBCBFDDFErCECDBBBBBABECBEBERCBBABGBAGBiJD",
     "oFBBAYARA9NBMIFEFBCBDEOABACFYB5BABAdDJB2KBfJzMV_BDgBBjj1BABAEAzGABAhm1B0CBmCBBCACBCDBLBABGBg",
     "CBDCHBGBbBDBEBADGBzKCYBYBeBYBeBYBeBYBeBYBHCxBgwFDBaBBBACABJBDBABAGAEABABABCBBBACABABABABABBB",
     "ACDBGBDBDBABJBQFCBEBQ"]),
  (["oupper", "otheruppercase"],
    ["grIPmaZgjzDZGZGZ"]),
  (["patsyn", "patternsyntax"],
    ["hBOKGaDBAaDiBGBABBBABBEAEADAXAfA44HXIOCSBJxJvWgF1TerjBgQ_DhMCEYPAtozBBlIB"]),
  (["patws", "patternwhitespace"],
    ["JESAkDAo8HBYB"]),
  (["pcm", "prependedconcatenationmark"],
    ["gwBF3GAxBAgMBwCA6.hCAPA"]),
  (["qmark", "quotationmark"],
    ["iBAEAjEAPA86HHZBnwDApODNChxzBD9FAEA6CB"]),
  (["radical"],
    ["g0LZB4CM1G"]),
  (["ri", "regionalindicator"],
    ["mv8DZ"]),
  (["sterm", "sentenceterminal"],
    ["hBAMAQApqBAzEC0FArBC2HA9BABADBlJBk3BB2YAEBlYAmGB9EBtBAFA6JBiLDiFBKBCBdC7FBhCBkdAXBJCvlDCyJAN",
     "AWBtNA8ndAuIBjHADA.LB2CB_CA4EBzECwEB5HAmxUACB7BADBpFAMAQAhCA03CB9nBEsBD9FB1DD_DChEBGAQB4CBBB",
     "sDAqJB1DB1LBFOpDB5HClQABA7HB3CBkNB0VBqCBp5SBlEAhCBLApRBoJAmwTAovHA"]),
  (["sd", "softdotted"],
    ["pDBkGA5IAeA0BAUAgKAiDABApoGAzBANADAkEA9EAlNA2GBy5CAl9pDByBByBByBByBByBByBByBByBByBByBByBByBB",
     "mkCAxJBaA"]),
  (["term", "terminalpunctuation"],
    ["hBAKABALBDA.ZAIAhQA5BAoCAOABC0FArBKBArHB2BFBHfAlIB0nBBsFAEF3JB1YHlYA8DCnCB9ECDAnBDCB6JBiLDiF",
     "BKBBCdC7FE.BBkdAXBJCvlDCyJANAEAKABBDBsNB7ndBtICjHE.LB2CB_CA3ECzEC_DAQB5HAmxUACB5BCBDpFAKABAL",
     "BDAhCACA6hBAwBAmkBAnGA2JB4EFkCF5CD4dEsBD9FGwDD_DChEBGAQB4CEsDAqJB1DCMBmLDDOpDB5HClQABA7HB3CB",
     "EB.MCtBAlUBqCBrpBE5vRBlEAhCCKApRBnJBmwTAnvHD"]),
  (["uideo", "unifiedideograph"],
    ["ggN_tGgC_vUuwWBBABBKABABBCC2uhC_2pBgB9oECt0FCwpHPtTitEq6EFppI"]),
  (["upper", "uppercase"],
    ["hCZlDWBGhBABABABABABABABABABABABABABABABABABABABABABABABABABABABACABABABABABABABACABABABABAB",
     "ABABABABABABABABABABABABABABABABABABBBABADBBABBBCCDBBBCDBBBBABABBBACABBBCBABBDAHACACACABABAB",
     "ABABABABACABABABABABABABABACACABCBABABABABABABABABABABABABABABABABABABABABABABABABABABABABAH",
     "BBBCABDBABABABAhJABADAIAGABCBABBBQBIjBACCDABABABABABABABABABABABAFACABBCyBwBABABABABABABABAB",
     "ABABABABABABABABAJABABABABABABABABABABABABABABABABABABABABABABABABABABABBBABABABABABACABABAB",
     "ABABABABABABABABABABABABABABABABABABABABABABABABABABABABABABABABABABABABABABABABABABABABAClB",
     "p6ClBBAFAyW1CzkCAGqBCCgKABABABABABABABABABABABABABABABABABABABABABABABABABABABABABABABABABAB",
     "ABABABABABABABABABABABABABABABABABABABABABABABABABABABABABABABABABABABABABABABABAJABABABABAB",
     "ABABABABABABABABABABABABABABABABABABABABABABABABABABABABABABABABABABABABABABABABABABABAJHIFK",
     "HIHIFLABABABAIHoCDMDMDMELDmIAEADCCCCADEGABABABDCDKBFAaPTAyZZw5BvBwBABCCABABABDBACAICBABABABA",
     "BABABABABABABABABABABABABABABABABABABABABABABABABABABABABABABABABABABABABABABABABABABABABAIA",
     "BAEAtqeABABABABABABABABABABABABABABABABABABABABABABATABABABABABABABABABABABABABAnEABABABABAB",
     "ABADABABABABABABABABABABABABABABABABABABABABABABABABABABABABABABAKABABBBABABABAEABACABADABAB",
     "ABABABABABABABABEBEBABABABABABABABDBABBBABABABABABABABAYAr5VZlmBnBoEjB8EKBOBGBBq3ByB9EV65Cfg",
     "sVfgCYnqZZaZaZaABBCACBCDBHaZaBBDCHBGbBBDBEBADGbZaZaZaZaZaZeYhBYhBYhBYhBYhBA1pEhBugCZGZGZ"]),
  (["vs", "variationselector"],
    ["rgGCBAwv5BPw3gavH"]),
  (["wspace", "whitespace", "space"],
    ["JESAkDAaA_uFA_rCKdBFAvBAg9DA"]),
  (["xidc", "xidcontinue"],
    ["wBJHZEABZvBAKABACAFWBeBpOELOEHABAR0DBBDCBAGEBABTByCBqEBEClFBlBCAGoBIsBBABBBBBAIaEDdKFpCElDBH",
     "CJBSCAQ6BCkDO1BEACACtBSbEKFXBGHqCBgECJBSBHCBCVBGBADDCICBCDIAEBBECLKABACCBFEBCVBGBBBBBBCABEEB",
     "CCDAHDBAHPLCBIBCBVBGBBBECJBCBCCAPDCJJGBCBHCBCVBGBBBECICBCCHCEBBECJBAQBBFDCBDDBBABBDBDCDLEEDC",
     "BDCAGAOJQMBCBWBPCIBCBDHBBCBBCDCJQDBHBCBWBJBECIBCBDHBFCBDCJBCMMBCByBBCBEFDHECJKFBCBRDXBIBACGD",
     "AEFBABHGJCBN5BFOBJnBBBABEBXBABWCEBABGBJCDgBAXBGJLABABAEJBjBETBRBjBJA5BpCGtCClBBAFACqBBsKBDCG",
     "BABDCoBBDCgBBDCGBABDCOB4BBDCiCCCJIOPQ1CCFDrTCQBZFqCDKHVJVLTMMBCBBMzCDAEBCJhBCBKG4CHqBFlCKeBL",
     "ELKnBCELrBEZGKlBbE.BBcCKGJNAINBeCLUsCDJRIMzDM3BIJDwBCKFqBCCQCBmBF1QCFClBCFCHBABABABeC0BBGBAD",
     "CBGDDCFEMFCBGPBxBBTAcANAQMzBMEADLRAEACJBACFGABABABPCDFEEARoB3zCkHGIMlBBAFAC3BHAPXJGBGBGBGBGB",
     "GBGBGBflQCZOBECEE1CCBCCB.CFqBB9CRfwBPgQ_tGgCs0VjCtBCsIDbUvBEJByDlBICmDCxCU2BEATzBMlCKJGXDABw",
     "BCjBMcDgCOKGeB2BJNCJGWDoCYCCPCEKFCFCFJGBGBqBBNG6DBBCJGj9KMWEwBkoItLCpDmBGMEFLBMBEBABBBBBrDhB",
     "qEG5GS_BC1BoBJGPQPDBYChBABADABABABAB9DTJHZEABZK5CDFCFCFCCjBLBZBSBBBOCNiB6DlC0BoEAiEcDwBPAffN",
     "dFqBFdCjBEHBEqB9ECJGjBEjBEnBIzBMKBOBGBBBKBOBGBBDzBM2JJVKHYFBpBBIlCFCABrBBBDACWKWJehCSBBKVKZG",
     "ZmB3BGBgCDBBFHBCBcCCEAgBcDcjBHBdZ1BKVKSNRuDoC3ByBNyBNnBIJGlBDEBW6HpBBBDBQFyBiBKAIgBfVqBUbWJm",
     "CfPJ7BHANYHJG0BBJEDIjBCAJkCEDBMBAjBRBkBGD.BGBABDBOBJH6BFJGDBHCBCVBGBBBEBJCBCCCAGAFGCGDELJBAC",
     "ABlBBJBACABDBHNBdqCFJEDelCBAIJmF1BCIXFiBgCDALJmB4BHJGTcaCOEJGG5F6BlDpCVHCACHBBBdBBCIMJmCHCtB",
     "CHBBb.BIAIpCDASoCnDH4CgBPJGIBsBBIPJYdCVBNpCGBBBrBDABBBIIJGFBBBkBBBBFHJGrBEJ2HWJQBoBDENK1CAvC",
     "5cmDuDRjGsyCgDPvhBQVK68DFmS51G5Bm2B4RHeBJGuCBJGdCEL2BJDMJJUFSwNsBDJmG_BgBYCYsBqCE4BHQgCBBBLG",
     "J1mHpBfhDyD9vIDBGBBBiJPAdCCAODIrMkoCqDFMDIHJDBxiEJmQtBCW.QEDFIHCGeD0EC7N0CBmCBBCACBCDBLBABGB",
     "gCBDCHBGBbBDBEBADGBzKCYBYBeBYBeBYBeBYBeBYBHCxBgQ2BExBIAOAWEBOwiBeGF1GGBQCGBBBEF9BhBAwDsBDNCJ",
     "EAhKeR5B2OpB2GqBlGeBVIBgHGBDBBBOBkGLGpBrCEJmlBDBaBBBACABJBDBABAGAEABABABCBBBACABABABABABBBAC",
     "DBGBDBDBABJBQFCBEBQ0pDJmgB_2pBgB9oECt0FCwpHPtTitC9QivBq6EFppImkzVvH"]),
  (["xids", "xidstart"],
    ["hCZGZvBAKAEAFWBeBpOELOEHABAhEEBBDCBAGABCBABTByCBqEIlFBlBCAGoBnCaEDtBqBjBBBiDBAPBHBKCCAQABdd4",
     "CLAYgBJBEAFVEAJADAXYHKFXBGQpB6B1BDASAHJPPEHCBCVBGBADDDAQANBBCOBKAIFEBCVBGBBBBBBfDBATCQIBCBVB",
     "GBBBEDASAPBXALHCBCVBGBBBEDAeBBCPARABFDCBDDBBABBDBDCDLWA0BHBCBWBPDAaCBBCBeAEHBCBWBJBEDAeCBBPB",
     "RIBCBoBCAQAFCICYFFRDXBIBACG6BvBBANG6BBBABEBXBABJBAKACEBAVDgBA_BHBjBbEzDqBUAQFEDDADBHCEMMARlB",
     "BAFACqBBsKBDCGBABDCoBBDCgBBDCGBABDCOB4BBDCiClBPQ1CCFDrTCQBZFqCDKHRNSOROMBCPzBjBAEAjC4CHoBBAF",
     "lCKexBdCELrBEZ2BWJ0ByCA9CuBRH2BdNBKrBajBpBCKjBCKFqBCCpBDBFBBDAF_FgC1ICFClBCFCHBABABABeC0BBGB",
     "ADCBGDDCFEMFCBG0DANAQMlDAEACJBACFGABABABPCDFEEARoB3zCkHGDDBMlBBAFAC3BHAQWJGBGBGBGBGBGBGBGmRC",
     "ZIHECEE1CGCB5CBDFqBB9CRfwBPgQ_tGgCs0VjCtBCsIDPKBUuBQeCvCnBICmDCxCUQBCBDBWdzBOxB.BFDABBLbKWZc",
     "HuBcAQEBJKEBoBXCBHUWDADxBBADBCECABAYCCKHCMFCFCFJGBGBqBBNGyDdj9KMWEwBkoItLCpDmBGMEFABJBMBEBAB",
     "BBBBrDhBqEG5GS_BC1BoBJ3DABADABABABAB9DkBZGZL3BCeDFCFCFCCjBLBZBSBBBOCNiB6DlC0BrIcDwBvBfNdFlBK",
     "dCjBEHBEqB9ESjBEjBEnBIzBMKBOBGBBBKBOBGBBDzBM2JJVKHYFBpBBIlCFCABrBBBDACWKWJehCSBBKVKZGZmB3BGB",
     "gCAPDBCBcqBcDcjBHBbb1BKVKSNRuDoC3ByBNyBNjBmBbJW6HpBGBQF4BcKAIVqBRuBUbWM0B5BBCANsBgBYajBdACAI",
     "iBDAMvBODVABAjBRBYTB_BGBABDBOBJHuBmBHCBCVBGBBBEDASAMEeJBACABlBBAZABAsB0BSDUCevBUBBA4FuBpBDkB",
     "vBUA7BqBNAnCalBG5FrB0D_BfHCACHBBBXPABA.CHCmBQABAcAKnBHAVALtBTASoCnGgBfIBkBRAxBdwDGBBBlBVAZFB",
     "BBfOAXrBkISPABMBhB8DAvC5cmDuDRjGsyCgDPvhBRFZ68DFmS51Gdi3B4RHeRuCRdSvBQDfUFSwNsBzG_BgBYCYsBqC",
     "FAiCMgCBBAOEJ1mHpBfhDyD9vIDBGBBBiJPAdCCAODIrMkoCqDFMDIHJm7F0CBmCBBCACBCDBLBABGBgCBDCHBGBbBDB",
     "EBADGBzKCYBYBeBYBeBYBeBYBeBYBH05BeGFlI9ByEsBKGQAhKdSrBkPbkHdCAvGeBCBBBGCEJBgHGBDBBBOBkG7BjCH",
     "A0lBDBaBBBACABJBDBABAGAEABABABCBBBACABABABABABBBACDBGBDBDBABJBQFCBEBQkqE_2pBgB9oECt0FCwpHPtT",
     "itC9QivBq6EFppI"])]

end PointSelect.Unicode
