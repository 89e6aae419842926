import PointSelect.Unicode.Packed

namespace PointSelect.Unicode

/-- The roles of characters in the boundaries of sentences. -/
def sentenceBreaks : List NamedSet := [
  (["at", "aterm"],
    ["uBA1_HAtx3BA7FA"]),
  (["cr"],
    ["NA"]),
  (["cl", "close"],
    ["iBAECxBABAdABAtBAPA.zDD96BB7rCHZBKB2BBOB5TDdBwhBFHNvCBfJzMV_BDgBBigBNOBCJYASHrNJCHBC.ozBB3GB",
     "cPCBQFpFBxBABAdABABBBBy49BC"]),
  (["ex", "extend"],
    ["gYvDzIGnIsBBABBBBBAoCKwBUQAlDGCFCBBDjBAea7CK6BIJAYDBIBCBErBC8BHqBXBgB2BCBRBGKBdC4BABGCBCCJAK",
     "BaACC4BABEEBCCDAeBDALC4BABHBCBCUBWFBC4BABGCBCCHCKBeA7BEDCBDJAoBE3BABGBCBDHBLBdC4BABGBCBDHBLB",
     "PAMD3BBBGBCBDJAKBdCmCAEFBABHSB9BACGMHiDACILGpCBbABABAEBxBTBBFKBjBJAkDTXDECBCCGDDNLBAKD_VCydD",
     "cCdBeBgCfJAtBCBA1DBiBA2DLEL7GE5BJBcCAwBexBEvBQmBIMCeM4BNwBT4ECBUEAGACCmG_BsQBiGgB._CCtEAgDfq",
     "RFpDB0udDBJgBBwCBwIADAEAXEEAzCByBRaRNAmBHZMsBDvBNkBAjCNMAIBtBCyBABCCBFBBApBEFBsHHBBw5TAhXPQP",
     "uLB9SAiHA1EEm0BCBBFDoBCEAlFB9RDjMBwCCmCKxBD6DC1BOpBACBKDtBKHA9BCkBNQBsBAMCwBNIDBB8CLGACA9ELV",
     "D3BBBGCBCCJAKBCGDEgGRXAxCTrHGCIbByCQqDMlDOgIO1HFBBCDBABBtEGCGDAcJoBGBDIAJKuBP1MHBHyCVBN6DFDA",
     "BBBGBAiCEBBBE7KDJBBAwBGDE9nFAGO60NE7BG4gBAB2BHDxCALBrlTBhzEtBCW.QEDFIHCGeD0EC79B2BExBIAOAWEB",
     "OwqBGBQCGBBBEkDAgFG3LA9BD8PDgfGtDG12lY_CgEvH"]),
  (["fo", "format"],
    ["tFAyqBFWAgGAxBAgMBwCAr5DA8_BACBaExBEBJv03BA5HChmEAPAi7IPgjiBDvmFHm0rYA"]),
  (["lf"],
    ["KA"]),
  (["lo", "lower"],
    ["hDZvBAKAEAkBXBHBABABABABABABABABABABABABABABABABABABABABABABABABABABABBBABABABABABABABBBABAB",
     "ABABABABABABABABABABABABABABABABABABABABACABABCCABACADBEACADCCACABABACABBBACADABACBCCGACACAB",
     "ABABABABABABABBBABABABABABABABABBCABADABABABABABABABABABABABABABABABABABABABABABABABABABABAB",
     "ABABGCACBBAEABABABABkCBjBHBeEsEABADACDSAbiBBBDCBABABABABABABABABABABABEBACACBzBvBBABABABABAB",
     "ABABABABABABABABABABABAJABABABABABABABABABABABABABABABABABABABABABABABABABABACABABABABABABBB",
     "ABABABABABABABABABABABABABABABABABABABABABABABABABABABABABABABABABABABABABABABABABABABABABAB",
     "ABAwBoBz7CA7XFikCI3D_FhCABABABABABABABABABABABABABABABABABABABABABABABABABABABABABABABABABAB",
     "ABABABABABABABABABABABABABABABABABABABABABABABABABABABABABABABABABABABABABABABABIBABABABABAB",
     "ABABABABABABABABABABABABABABABABABABABABABABABABABABABABABABABABABABABABABABABABABABABIIFKHI",
     "HIFKHIHINCHIHIHIEBBGADCBBIDCBIHKCBB5DANAQMtDADBDAbAEAEACBIDEAhBPEAraZm6BvBBADBBABABAEABBBHDA",
     "BABABABABABABABABABABABABABABABABABABABABABABABABABABABABABABABABABABABABABABABABABABABABABA",
     "BABABBHABAEAMlBBAFAzoeABABABABABABABABABABABABABABABABABABABABABABATABABABABABABABABABABABAB",
     "ABClEABABABABABABCBABABABABABABABABABABABABABABABABABABABABABABABABABABABABABABJBABACABABABA",
     "BAEABACABCBABABABABABABABABABAFAFABABABABABABABAEABAGABABABABAYCBABC1ZqBBNGvCg6TGMEphBZtmBnB",
     "oEjB7EKBOBGBBjOACCBpBBIloByBt.CfgsVf6sZZaGBRaZaDBABGBKaZaZaZaZaZaZaZaZabcYBFaYBFaYBFaYBFaYBF",
     "BA05BJBTGFlI9B0lChB"]),
  (["nu", "numeric"],
    ["wBJmxBJBBjEJmGJ8MJ2DJ2DJ2DJ2DJ2DJ2DJ2DJ2DJ2DJgDJ2DJmCJ2IJmCJm6BJmBJsJJgEJmFJGJ2FJ2CJmEJGJmui",
     "BJmVJmBJmGJWJ2CJ2MJ24UJmsBJmkCJsZJgEJ8BJwEJ2IJ2KJ2DJ2LJmDJmDJmNJmDJ2XJ2HJmCJmNJm4SJ2CJmEJ0jb",
     "xBgqCJmNJ2PJ2iBJ20EJ"]),
  (["le", "oletter"],
    ["7NAEDwGAkBGGLaABAlEAkPA2DaEEsBqBjBBBiDBAPBHBKCCAQABdd4CLAYgBJBEAFVEAJADAXYHKFXBFRpB6B1BDASAH",
     "JPPEHCBCVBGBADDDAQANBBCOBKAIFEBCVBGBBBBBBfDBATCQIBCBVBGBBBEDASAPBXALHCBCVBGBBBEDAeBBCPARABFD",
     "CBDDBBABBDBDCDLWA0BHBCBWBPDAaCCACBeAEHBCBWBJBEDAfBBBPBRIBCBoBCAQAFCICYFFRDXBIBACG6BvBBBMG6BB",
     "BABEBXBABJBBJACEBAVDgBA_BHBjBbEzDqBUAQFEDDADBHCEMMAhCqBCrKBDCGBABDCoBBDCgBBDCGBABDCOB4BBDCiC",
     "lBPxDrTCQBZFqCDKHRNSOROMBCPzBjBAEAjC4CHEChBBAFlCKexBdCELrBEZ2BWJ0ByCA9CuBRH2BdNBKrBajBpBCKjB",
     "SqBCCpBDBFBBDA6hBDnCCCDn9C3BHAQWJGBGBGBGBGBGBGBGwCA1OCZIHECEE1CGCB5CBDFqBB9CRfwBPgQ_tGgCs0Vj",
     "CtBCsIDPKBiCAQAgBvCnBIoDAGAnDADGBCBDBWdzBOxB.BFDABBLbKWZcHuBcAQEBJKEBoBXCBHUWDADxBBADBCECABA",
     "YCCKHCMFCFCFJGBGxEiBdj9KMWEwBkoItLCpDjCABJBMBEBABBBBBrDhBqLS_BC1BoBL0DEBmEpD3BCeDFCFCFCCjBLB",
     "ZBSBBBOCNiB6DlC0BrIcDwBvBfNdFlBKdCjBEHBE6DtCiDnBIzB8E2JJVKHZB9DFCABrBBBDACWKWJehCSBBKVKZmC3B",
     "GBgCAPDBCBcqBcDcjBHBbb1BKVKSNRuDoC3FjB8KpBGBuCcKAIVqBRuBUbWM0B5BBCANsBgBYajBdACAIiBDAMvBODVA",
     "BAjBRBYTB_BGBABDBOBJHuBmBHCBCVBGBBBEDASAME.E0BSDUCevBUBBA4FuBpBDkBvBUA7BqBNAnCalBG5FrBzGHCAC",
     "HBBBXPABA.CHCmBQABAcAKnBHAVALtBTASoCnIIBkBRAxBdwDGBBBlBVAZFBBBfOAnKSPABMBhB8DAvC5cmDuDRjGsyC",
     "gDPvhBRF59DmS5tI4RHeRuCRdSvBQDfUFSwbqCFAiCMgCBBAc3_FI1mBqBIn3IDBGBBBiJPAdCCAODIrMkoCqDFMDIHJ",
     "wzIA1PsBKGQAhKdSrBkPb0XGBDBBBOBkGmEA0lBDBaBBBACABJBDBABAGAEABABABCBBBACABABABABABBBACDBGBDBD",
     "BABJBQFCBEBQkqE_2pBgB5hEG9GCh0FOwpH_gD9QivBq6EF_iE"]),
  (["sc", "scontinue"],
    ["sBBMAipBAuFBqPApgEAFAqgCBs_DAuwzBBBAdBdBDACAKAoFBMApCA"]),
  (["st", "sterm"],
    ["hBAdApqBAzEC0FArBC2HA9BABADBlJBk3BB2YAEBlYAmGBsGAFA6JBiLDuFBCBdB8FBhCB8dBJCkvDANAWBtNA8ndAuI",
     "BjHADA.LB2CB_CA4EBzECwEB5HAqzUBpFAdAhCA03CB9nBEsBD9FB1DD_DChEBGAQB4CBBBsDAhNB1LBFOpDB5HClQAB",
     "A7HB3CBkNB0VBqCBp5SBlEAhCBLAzaAmwTAovHA"]),
  (["se", "sep"],
    ["lEAi9HB"]),
  (["sp"],
    ["JABBTA_DA_uFA_rCKkBAvBAg9DA"]),
  (["up", "upper"],
    ["hCZlDWBGhBABABABABABABABABABABABABABABABABABABABABABABABABABABABACABABABABABABABACABABABABAB",
     "ABABABABABABABABABABABABABABABABABABBBABADBBABBBCCDBBBCDBBBBABABBBACABBBCBABBDAHBBBBBBABABAB",
     "ABABABABACABABABABABABABABACBBABCBABABABABABABABABABABABABABABABABABABABABABABABABABABABABAH",
     "BBBCABDBABABABAhJABADAIAGABCBABBBQBIjBACCDABABABABABABABABABABABAFACABBCyBwBABABABABABABABAB",
     "ABABABABABABABABAJABABABABABABABABABABABABABABABABABABABABABABABABABABABBBABABABABABACABABAB",
     "ABABABABABABABABABABABABABABABABABABABABABABABABABABABABABABABABABABABABABABABABABABABABAClB",
     "p6ClBBAFAyW1CqwCABABABABABABABABABABABABABABABABABABABABABABABABABABABABABABABABABABABABABAB",
     "ABABABABABABABABABABABABABABABABABABABABABABABABABABABABABABABABABABABABAJABABABABABABABABAB",
     "ABABABABABABABABABABABABABABABABABABABABABABABABABABABABABABABABABABABABABABABAJHIFKHIHIFLAB",
     "ABABAIHYHIHIHIELELDMELElIAEADCCCCADEGABABABDCDKBFAaPTAyZZw5BvBwBABCCABABABDBACAICBABABABABAB",
     "ABABABABABABABABABABABABABABABABABABABABABABABABABABABABABABABABABABABABABABABABABABABAIABAE",
     "AtqeABABABABABABABABABABABABABABABABABABABABABABATABABABABABABABABABABABABABAnEABABABABABABA",
     "DABABABABABABABABABABABABABABABABABABABABABABABABABABABABABABAKABABBBABABABAEABACABADABABABA",
     "BABABABABABABEBEBABABABABABABABDBAGAFABAcAr5VZlmBnBoEjB8EKBOBGBBq3ByBt_CfgsVfgtZZaZaZaABBCAC",
     "BCDBHaZaBBDCHBGbBBDBEBADGbZaZaZaZaZaZeYhBYhBYhBYhBYhBA1pEhBugCZGZGZ"])]

end PointSelect.Unicode
