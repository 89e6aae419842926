import PointSelect.Unicode.Packed

namespace PointSelect.Unicode

/-- The roles of characters in the boundaries of words. -/
def wordBreaks : List NamedSet := [
  (["le", "aletter"],
    ["hCZGZvBAKAEAFWBeB_OGhBwDEBBCDBAGABCBABTByCBqEIlFBlBCDBABoBBAoDAsBqBjBBBiDBAPBHBKCCAQABdd4CLA",
     "YgBJBEAFVEAJADAXYHKFXBFRpB6B1BDASAHJPPEHCBCVBGBADDDAQANBBCOBKAIFEBCVBGBBBBBBfDBATCQIBCBVBGBB",
     "BEDASAPBXALHCBCVBGBBBEDAeBBCPARABFDCBDDBBABBDBDCDLWA0BHBCBWBPDAaCCACBeAEHBCBWBJBEDAfBBBPBRIB",
     "CBoBCAQAFCICYFFRDXBIBACG5JA_BHBjBbEzIlBBAFACqBBsKBDCGBABDCoBBDCgBBDCGBABDCOB4BBDCiClBPQ1CCFD",
     "rTCQBZFqCDKHRNSOROMBCvF4CHEChBBAFlCKehHWuHuBRH2BdNBKrBajBpBCKjBCIHqBCCpBDBFBBDAF_FgC1ICFClBC",
     "FCHBABABABeC0BBGBADCBGDDCFEMFCBG0DANAQMlDAEACJBADEGABABABDBJDDFEEARoBtZLBmB24BkHGDDBMlBBAFAC",
     "3BHAQWJGBGBGBGBGBGBGBGwCA1OA1BBoGqBB9CRfgybskBjCtBCsIDPKBUuBQeCvCYiGFBBABEYPBCBDBWdzBOxB.BFD",
     "ABBLbKWZcHuBcAwBoBXCBH0EKHCMFCFCFJGBGB5BGyDdj9KMWEwBk4IGME4BhDhBqLS_BC1BoBL0DEBmEkBZGZlCeDFC",
     "FCFCCjBLBZBSBBBOCNiB6DlC0BrIcDwBvBfNdFlBKdCjBEHBEqB9ESjBEjBEnBIzBMKBOBGBBBKBOBGBBjC2JJVKHYFB",
     "pBBIlCFCABrBBBDACWKWJehCSBBKVKZmC3BGBgCAPDBCBcqBcDcjBHBbb1BKVKSNRuDoC3ByBNyBNjB8KpBGBuCcKAIV",
     "qBRuBUbWM0B5BBCANsBgBYajBdACAIiBDAMvBODVABAjBRBYTB_BGBABDBOBJHuBmBHCBCVBGBBBEDASAME.E0BSDUCe",
     "vBUBBA4FuBpBDkBvBUA7BqBNAnKrB0D_BfHCACHBBBXPABA.CHCmBQABAcAKnBHAVALtBTASoCnIIBkBRAxBdwDGBBBl",
     "BVAZFBBBfOAnKSPABMBhB8DAvC5cmDuDRjGsyCgDPvhBRF59DmS5tI4RHeRuCRdSvBQDfUFSwV_BgEqCFAiCMgCBBA8g",
     "TqDFMDIHJm7F0CBmCBBCACBCDBLBABGBgCBDCHBGBbBDBEBADGBzKCYBYBeBYBeBYBeBYBeBYBH05BeGFlI9ByEsBKGQ",
     "AhKdSrBkPb0XGBDBBBOBkG7BjCHA0lBDBaBBBACABJBDBABAGAEABABABCBBBACABABABABABBBACDBGBDBDBABJBQFC",
     "BEBQ0TZGZILCJ"]),
  (["cr"],
    ["NA"]),
  (["dq", "doublequote"],
    ["iBA"]),
  (["extend"],
    ["gYvDzIGnIsBBABBBBBAoCKwBUQAlDGCFCBBDjBAea7CK6BIJAYDBIBCBErBC8BHqBXBgB2BCBRBGKBdC4BABGCBCCJAK",
     "BaACC4BABEEBCCDAeBDALC4BABHBCBCUBWFBC4BABGCBCCHCKBeA7BEDCBDJAoBE3BABGBCBDHBLBdC4BABGBCBDHBLB",
     "PAMD3BBBGBCBDJAKBdCmCAEFBABHSB9BACGMHiDACILGpCBbABABAEBxBTBBFKBjBJAkDTXDECBCCGDDNLBAKD_VCydD",
     "cCdBeBgCfJAtBCBA1DBiBA2DLEL7GE5BJBcCAwBexBEvBQmBIMCeM4BNwBT4ECBUEAGACCmG_BsQAjGgB._CCtEAgDfq",
     "RFpDB0udDBJgBBwCBwIADAEAXEEAzCByBRaRNAmBHZMsBDvBNkBAjCNMAIBtBCyBABCCBFBBApBEFBsHHBBw5TAhXPQP",
     "uLB9SAiHA1EEm0BCBBFDoBCEAlFB9RDjMBwCCmCKxBD6DC1BOpBACBKDtBKHA9BCkBNQBsBAMCwBNIDBB8CLGACA9ELV",
     "D3BBBGCBCCJAKBCGDEgGRXAxCTrHGCIbByCQqDMlDOgIO1HFBBCDBABBtEGCGDAcJoBGBDIAJKuBP1MHBHyCVBN6DFDA",
     "BBBGBAiCEBBBE7KDJBBAwBGDE9nFAGO60NE7BG4gBAB2BHDxCALBrlTBhzEtBCW.QEDFIHCGeD0EC79B2BExBIAOAWEB",
     "OwqBGBQCGBBBEkDAgFG3LA9BD8PDgfGtDGw1CEghjY_CgEvH"]),
  (["ex", "extendnumlet"],
    ["_CAv.HAPBTA.u3BBYCvHA"]),
  (["fo", "format"],
    ["tFAyqBFWAgGAxBAgMBwCAr5DA__BBaExBEBJv03BA5HChmEAPAi7IPgjiBDvmFHm0rYA"]),
  (["hl", "hebrewletter"],
    ["wuBaEDqp9BABJBMBEBABBBBBJ"]),
  (["ka", "katakana"],
    ["xhMElDBD6CBDwHPwGuBB3CugzB3ByisBDBGBBBA_ICyBAOD"]),
  (["le", "aletter"],
    ["5pIAocAtlzDBMB"]),
  (["lf"],
    ["KA"]),
  (["ml", "midletter"],
    ["6BA8DAvWA3OA0EAyxGArv3BAhCAkGA"]),
  (["mn", "midnum"],
    ["sBAOAiaAqQAiEB.CArMAriGAru3BADA7BADA3FAOA"]),
  (["mb", "midnumlet"],
    ["uBAp_HBKAtx3BA0FAGA"]),
  (["nl", "newline"],
    ["LB4DAi9HB"]),
  (["nu", "numeric"],
    ["wBJmxBJBAkEJmGJ8MJ2DJ2DJ2DJ2DJ2DJ2DJ2DJ2DJ2DJgDJ2DJmCJ2IJmCJm6BJmBJsJJgEJmFJGJ2FJ2CJmEJGJmui",
     "BJmVJmBJmGJWJ2CJ2MJ24UJmsBJmkCJsZJgEJ8BJwEJ2IJ2KJ2DJ2LJmDJmDJmNJmDJ2XJ2HJmCJmNJm4SJ2CJmEJ0jb",
     "xBgqCJmNJ2PJ2iBJ20EJ"]),
  (["ri", "regionalindicator"],
    ["mv8DZ"]),
  (["sq", "singlequote"],
    ["nBA"]),
  (["wsegspace"],
    ["gBA_yFA_rCGBC0CAg9DA"]),
  (["zwj"],
    ["tgIA"])]

end PointSelect.Unicode
