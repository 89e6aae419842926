import PointSelect.Unicode.Packed

namespace PointSelect.Unicode

/-- The general categories that are no groups of others. The code points of surrogates have no
name of their own in expressions; they only close the gap in the group of the others. -/
def generalCategories : List NamedSet := [
  (["lu", "uppercaseletter"],
    ["hCZlDWBGhBABABABABABABABABABABABABABABABABABABABABABABABABABABABACABABABABABABABACABABABABAB",
     "ABABABABABABABABABABABABABABABABABABBBABADBBABBBCCDBBBCDBBBBABABBBACABBBCBABBDAHACACACABABAB",
     "ABABABABACABABABABABABABABACACABCBABABABABABABABABABABABABABABABABABABABABABABABABABABABABAH",
     "BBBCABDBABABABAhJABADAIAGABCBABBBQBIjBACCDABABABABABABABABABABABAFACABBCyBwBABABABABABABABAB",
     "ABABABABABABABABAJABABABABABABABABABABABABABABABABABABABABABABABABABABABBBABABABABABACABABAB",
     "ABABABABABABABABABABABABABABABABABABABABABABABABABABABABABABABABABABABABABABABABABABABABAClB",
     "p6ClBBAFAyW1CzkCAGqBCCgKABABABABABABABABABABABABABABABABABABABABABABABABABABABABABABABABABAB",
     "ABABABABABABABABABABABABABABABABABABABABABABABABABABABABABABABABABABABABABABABABAJABABABABAB",
     "ABABABABABABABABABABABABABABABABABABABABABABABABABABABABABABABABABABABABABABABABABABABAJHIFK",
     "HIHIFLABABABAIHoCDMDMDMELDmIAEADCCCCADEGABABABDCDKBFA9BA8zCvBwBABCCABABABDBACAICBABABABABABA",
     "BABABABABABABABABABABABABABABABABABABABABABABABABABABABABABABABABABABABABABABABABABABAIABAEA",
     "tqeABABABABABABABABABABABABABABABABABABABABABABATABABABABABABABABABABABABABAnEABABABABABABAD",
     "ABABABABABABABABABABABABABABABABABABABABABABABABABABABABABABAKABABBBABABABAEABACABADABABABAB",
     "ABABABABABABEBEBABABABABABABABDBABBBABABABABABABABAYAr5VZlmBnBoEjB8EKBOBGBBq3ByB9EV65CfgsVfg",
     "CYnqZZaZaZaABBCACBCDBHaZaBBDCHBGbBBDBEBADGbZaZaZaZaZaZeYhBYhBYhBYhBYhBA1pEhB"]),
  (["ll", "lowercaseletter"],
    ["hDZ6BApBXBHBABABABABABABABABABABABABABABABABABABABABABABABABABABABBBABABABABABABABBBABABABAB",
     "ABABABABABABABABABABABABABABABABABABACABABCCABACADBEACADCCACABABACABBBACADABACBCCGACACABABAB",
     "ABABABABABBBABABABABABABABABBCABADABABABABABABABABABABABABABABABABABABABABABABABABABABABABAB",
     "GCACBBAEABABABABkCCZhGABADADCSAbiBBBDCBABABABABABABABABABABABEBACACBzBvBBABABABABABABABABABA",
     "BABABABABABABAJABABABABABABABABABABABABABABABABABABABABABABABABABABACABABABABABABBBABABABABA",
     "BABABABABABABABABABABABABABABABABABABABABABABABABABABABABABABABABABABABABABABABABABABAwBoBn6",
     "CqBCC4XFikCIBA1DrB_BMBhBmDABABABABABABABABABABABABABABABABABABABABABABABABABABABABABABABABAB",
     "ABABABABABABABABABABABABABABABABABABABABABABABABABABABABABABABABABABABABABABABABABIBABABABAB",
     "ABABABABABABABABABABABABABABABABABABABABABABABABABABABABABABABABABABABABABABABABABABABABIIFK",
     "HIHIFKHIHINCHIHIHIEBBGADCBBIDCBIHKCBByIADBDAbAEAEACBIDEA1BAr1CvBBADBBABABAEABBBFFABABABABABA",
     "BABABABABABABABABABABABABABABABABABABABABABABABABABABABABABABABABABABABABABABABABABABABBHABA",
     "EAMlBBAFAzoeABABABABABABABABABABABABABABABABABABABABABABATABABABABABABABABABABABABABAnEABABA",
     "BABABABCBABABABABABABABABABABABABABABABABABABABABABABABABABABABABABABABHBABACABABABABAEABACA",
     "BCBABABABABABABABABABAFAFABABABABABABABAEABACABABABABABABABAaADA1ZqBFIHvCg6TGMEphBZtmBnBoEjB",
     "7EKBOBGBBj4ByB9DV65CfgsVf7BYmqZZaGBRaZaDBABGBKaZaZaZaZaZaZaZaZabcYBFaYBFaYBFaYBFaYBFBA05BJBT",
     "GF3vChB"]),
  (["lt", "titlecaseletter"],
    ["lOACACAmBA1sHHIHIHMAPAvBA"]),
  (["lm", "modifierletter"],
    ["wVRELOEHABAlEAFA.OAmHAkFBtIBEAfAJADAgFAnFA0mBA_DA1RA62BArDAjTAwOFuF.BNAiBkBxVANAQM_.CBxHA_FA",
     "1OArBEFAhDB9CC24bAinBFuIAyDAcB5DIwCAXAoDDDB1OAWApEAsDAVBnDDJAmgVAtBBg_BFBpBBIzsBAgBA1KAz4DAm",
     "rTD8PCoBBmRMgCBBAOB8_PDBGBBxhM9BpGGtdAzQArSA"]),
  (["lo", "otherletter"],
    ["qFAPAgIAEDwGB6ZaEDtBfBJjBBBiDBAYBKCCAQABdd4CLAYgBVVqBYHKFXBGQoB7B1BDASAHJQOEHCBCVBGBADDDAQAN",
     "BBCOBKAIFEBCVBGBBBBBBfDBATCQIBCBVBGBBBEDASAPBXALHCBCVBGBBBEDAeBBCPARABFDCBDDBBABBDBDCDLWA0BH",
     "BCBWBPDAaCBBCBeAEHBCBWBJBEDAeCBBPBRIBCBoBCAQAFCICYFFRDXBIBACG6BvBBBMF7BBBABEBXBABJBBJACEXDgB",
     "A_BHBjBbEzDqBUAQFEDDADBHCEMMAxDoKBDCGBABDCoBBDCgBBDCGBABDCOB4BBDCiClBPxDrTCQBZFqCGHHRNSOROMB",
     "CPzBoBAjCiBB0BHEChBBAFlCKexBdCELrBEZ2BWJ0BwFuBRH2BdNBKrBajBpBCKdxDDBFBBDA6hBD3_C3BYWJGBGBGBG",
     "BGBGBGBGnRA1BAE1CIAB5CEAFqBB9CRfwBPgQ_tGgC0wUB2jBjCnBIrIEPKBiCAxBlCpFAnDADGBCBDBWdzBOxB.BFDA",
     "BBLbKWZcHuBtBECIKEBoBXCBHUPBFDADxBBADBCECABAYBDKHAOFCFCFJGBGxEiBdj9KMWEwBkoItLCpDjCABJBMBEBA",
     "BBBBBrDhBqLS_BC1BoBL0DEBmEpDJBsBCeDFCFCFCCjBLBZBSBBBOCNiB6DlMcDwBvBfNTBHGlBKdCjBEHgEtCiDnBIz",
     "B8CzBM2JJVKH4EFCABrBBBDACWKWJehCSBBKVKZGZmB3BGBgCAPDBCBcqBcDcjBHBbb1BKVKSNRuDoC3FjBmBDBAwJpB",
     "GBQCBB4BcKAIVqBRuBUbWM0B5BBCANsBgBYajBdACAIiBDAMvBODVABAjBRBYTB_BGBABDBOBJHuBmBHCBCVBGBBBEDA",
     "SAMEeJBACABlBBAZABAsB0BSDUCevBUBBA4FuBpBDkBvBUA7BqBNAnCalBG5FrBzGHCACHBBBXPABA.CHCmBQABAcAKn",
     "BHAVALtBTASoCnGgBfIBkBRAxBdwDGBBBlBVAZFBBBfOAXoBBBkISPABMBhB8DAvC5cmHjGsyCgDPvhBRFZ68DFmS51G",
     "di3B4RHeRuCRdSvBzBUFSzNnB1MqCFAvF1mHpBfhDyDtwIiJPAdCCAODIrMkoCqDFMDIHJwzIA1PsBhBAhKdSrBkPalH",
     "dCAvGeBCBBBGCEJAhHGBDBBBOBkG7pBDBaBBBACABJBDBABAGAEABABABCBBBACABABABABABBBACDBGBDBDBABJBQFC",
     "BEBQkqE_2pBgB9oECt0FCwpHPtTitC9QivBq6EFppI"]),
  (["mn", "nonspacingmark"],
    ["gYvDzIEpIsBBABBBBBAoCKwBUQAlDGCFCBBDjBAea7CK6BIJAYDBIBCBErBC7BIqBXBf3BABAEHEADGKBdA6BAEDIAUB",
     "aACB5BAEBEBCCDAeBDALB5BAEEBBEAUBWFBA6BACABDIAHBLBeA9BAMAyBADA3BABCFCBDHBLBdA6BACAGAFBUBcB5BB",
     "EDIAUBdAoCAHCBA6CACGMHiDACILGpCBbABABA3BNBEBBFKBjBJAmDDBFBBCBZBECQDNACBGAPA_VCydCdBeBeBgCBBG",
     "IACKJAtBCBA1DBiBA2DCEBJAGC7GBCA6BABGBABACHGJCAwBNBeCLUDwBABEBAFAoBIMBgBDCBBC4BABBDABC6BHCB4E",
     "CBMBGEAGADBmG_BwWMEADL._CCtEAgDfqRDrDB0udAEJgBBwCBwIADAEAZBFA3EBaRNAmBHZKuBCwBACDCBnBAjCFCBC",
     "BMAIAvBAzBABCCBFBBAqBBIAuHACAEAw5TAhXPQPteAiHA1EEm0BCBBFDoBCEAlFB9RDhCE9JBtCFmCKxBD7DA2BOpBA",
     "CBKCxBDCBHA9BCkBEBH.BAMB0BIKDCA_CCCABBGACA9EADHVB5BBDAlBGDEmCFNABABAOB1CHCCBAXA0CFBAEBBBuHDG",
     "BBBbB1CHCABBqDABACFBAlDABACDBEjIIBBgIBBAEAwEDCBEAgBJoBFCDIAJFCCuBMBBmGABCBApGGBFBAyCVCGBBBB6",
     "DFDABBBGBAoCBDABA7KBLB0BEFABAXAlnFAGOomLLDCguCE7BG4gBA_BDxCA4lTBhzEtBCWgRCRHCGeD0EC79B2BExBI",
     "AOAWEBOwqBGBQCGBBBEkDAgFG3LA9BD8PD.HBzHACAHBFA6OGtDG19lYvH"]),
  (["mc", "spacingmark"],
    ["joCA3BACCIDBByBB6BCGBCBKArBA6BCiCA6BCIABB1BB6BABAGBCBKAmDBBBDCBCKApBC9BD9BB6BABECBBBJBcAOB6B",
     "CFCBCKAqBBrCCGHSBqKB_BArFBEAGACBZBKCCGVBCFCAKC4zBAeAhEAHHBB6KDCCEBBFgHB6BABAJABBIFxEAwBAFABE",
     "BB9BAeAEBCA8BACCBADBwBHIBrFAVA25EBz_dBCA4CByBPuEBvBAwBBEBCCuDBCBYAtBABAtDACBFAtHBBBBBBAzgZAB",
     "A_DAtBCEBzDAYB7BAwBCJBNA9CCDBBAqFCfB6BBBDCBCCJAKB0CCHACABDBBBAlDCIBDAqDCGABDCAtHCGDCAxDCIBBA",
     "tDABBGAnDABBEAlICJA3HFBBEACABAuECIDEA0CAdB.BApGADABAnGAOAqDAHACA1GEEBBA.KBMAwBBIBBAovQCkxD2B",
     "oDBzrYBGF"]),
  (["me", "enclosingmark"],
    ["okBB0xFA.wBDBCrshBC"]),
  (["nd", "decimalnumber", "digit"],
    ["wBJmxBJmEJmGJ8MJ2DJ2DJ2DJ2DJ2DJ2DJ2DJ2DJ2DJgDJ2DJmCJ2IJmCJm6BJmBJsJJgEJmFJGJ2FJ2CJmEJGJmuiBJ",
     "mVJmBJmGJWJ2CJ2MJ24UJmsBJmkCJGJ8YJgEJ8BJwEJ2IJ2KJ2DJ2LJmDJGTsCJmNJmDJ2UJ2CJ2HJmCJ2BJmLJ2uQJm",
     "pCJ2CJmEJ2QJ27XJ02CxBgqCJmNJ2PJ3HJ1aJ20EJ"]),
  (["nl", "letternumber"],
    ["u3FCvzCiBCD.zDAZIOCr1dJwyW0BsOAIAmEEqhIuDl8SC"]),
  (["no", "othernumber"],
    ["yFBFACC1pCF4LF4DClEG5GGRIxNJ1hBTzjBJgPA10BADFGJmGPpBA2W7BuCV2TdprBA0kBDqEJeHBOgBJnBOwrdFxmWs",
     "BhCDRB1KakBD0pBHZGnBIrCEWFgFBCPCtBgCI0BBeCrCEoDHYHpBGqKFgLe.EJqBDwDGmET7LTlqBBuNInbSzaUm8SG.",
     "YWphZTMTsDYuqFIhd6BBCBDsCsBBOieM"]),
  (["pc", "connectorpunctuation"],
    ["_CA_.HBTA.u3BBYCvHA"]),
  (["pd", "dashpunctuation"],
    ["tBA8qBAzBAhyDAlgBApgCFhwDACAfBEAcA.NATAvDAwszBBlBAKApFAgzDA.JA"]),
  (["ps", "openpunctuation"],
    ["oBAyBAfA.1DABA.6BA.rCADAmBA3BAPA6TABAeA.hBABABABABABABAwCAgBABABABABA0MABABABABABABABABABABA",
     "gCABAhBAlhBABABABAZASABABABAsNABABABABADABABABACAhpzBA3GAdABABABABABABABADARABABAqFAyBAfADAC",
     "A"]),
  (["pe", "closepunctuation"],
    ["pBAzBAfA91DABA.6BAptCA3BAPA6TABAeA.hBABABABABABABAwCAgBABABABABA0MABABABABABABABABABABAgCABA",
     "hBAlhBABABABAsBABABABAsNABABABABADABABABACB.ozBA5GAdABABABABABABABADARABABAqFAzBAfACACA"]),
  (["pi", "initialpunctuation"],
    ["rFAs7HACBCAZAouDABAEACAPADA"]),
  (["pf", "finalpunctuation"],
    ["7FA96HADAcAouDABAEACAPADA"]),
  (["po", "otherpunctuation"],
    ["hBCBCCABABBKBDBbAkCAFAOBHA.VAIAyOFpBA2BACACAsBBUBBBNABCqCDmDArBNpHC2BOfAlIBKAsEA4DA5DAmMAMAv",
     "LA6CAKBoFOBAwDAqCEEBvDFrFAkTIlYA8DCnCB9ECBClBFBD5JB4GBgEGBFgFBKGcC8DD7BE.BBgCHLAiaBIHIICDCCD",
     "KBABJ6kDDBBwDAvEBECCACIBBBACBKEBJCDBABMCCsNC5BA9FAigdBtICjDAKAzDF8LD2CBoBCBAxBBvBAhDMQB8DD.D",
     "BQB5HAkxUGCAWAUBCDDCBDHCGABB1ECBCCABABBKBDBbAkBACB6MC8UAwBA.MAnXAnGAfAwIImBAwDGiCG5CDzZAkEEs",
     "BD9FGtDBBD.DDwBBvCDEANABC4CFrDAqJBBByDEKBBAoDA6HWpDCcMsCAiEC8HAoIC7EA8CHzCCBE9CJ3GA_CEqBBlUB",
     "qCMvFAwjBE87CB7zOBlEAhCEIAoRCnJDnKA8lTAnvHEz7CA.aB"]),
  (["sm", "mathsymbol"],
    ["rBAQC9BABAtBAEAlBAfA.XAvQC7xGANAnBCNCrEAnBEGAkCEFBEACACAHAfBCABAfrIgBB6CAeYoBF1OAJA2BHvDAwKE",
     "CeKPgIiEW.BEfChIwBUCF8.zBA4ZABCkFAQC9BABAjEAGDhtDBgrwBAw.BAZAfAZAfAZAfAZAfAZAs5FB.uCI"]),
  (["sc", "currencysymbol"],
    ["kBA9DDpnBA7DAyPByPBHA1HAnIAlSA7sCAkmChB27hBAjuVAsDA6EA7GBDB2_HD.4wBAwtCA"]),
  (["sk", "modifiersymbol"],
    [".CABAnCAGAEADApQDMNFGBABQ1DAOBioBA05FABCLCNCNCNB8kEBjzdWJBnDBweAOBmiUQ7bABAiFA3g9BE"]),
  (["so", "othersymbol"],
    ["mFACAEABAxeAqIB_DBuGAKATB3HAjQA1LAiEFBAkEAvGApBAnMCPABCCFUABABAlEHBFBBFDlGBwXJzWAyWA9EhBhLJJ",
     "IjsBBBDBBKABBGFBABABAEALBOABBBA6BBJECDBBBBBGBeCBBABesIHETCGCwCBdZnBGnCWKxCtCW2FBIB1BIuDB3HsB",
     "rBgC_HgQvBVBGmBCpElHFlLBuBZB4CM1GaPEANBMAVBGBwKBEJgBlBJAQeLdIAPfKmBP_JguG_Bw0V2BhbDKBBA9RCpq",
     "UPtLPgCB2BHtBCkPADAEBNB5JI5BQCCBMDAvBsB6zBBvSAogBHmjCA1kCHEQq6SDFA2qUAj7DvHKCDzNGWPPgDzD8B1H",
     "KmBC7BFCWBHdE8BVhCDA6F2CplB_P3BDyBHBNBBo2BA86CAhEAxWrBEjDMOCOBOBkBXgF4BcNrBEIHBOF6E6HF4WDQDM",
     "D5GGLEAPLE3BIJGnBIdCLEB.B3KINCMDKD4BBAEPCLEJHyEB7CKA"]),
  (["zs", "spaceseparator"],
    ["gBA_DA_uFA_rCKkBAvBAg9DA"]),
  (["zl", "lineseparator"],
    ["ohIA"]),
  (["zp", "paragraphseparator"],
    ["phIA"]),
  (["cc", "control", "cntrl"],
    ["Af_CgB"]),
  (["cf", "format"],
    ["tFAyqBFWAgGAxBAgMBwCAr5DA8_BEaExBEBJv03BA5HChmEAPAi7IPgjiBDvmFHm0rYAe_C"]),
  (["co", "privateuse"],
    ["gg4B_nGg4hc9__BC9__B"]),
  (["cn", "unassigned"],
    ["4bBGDHABAUAtMAmBByBBDA3BHbDGKuIA8BBlDN7BBxBBPAcBBALEiBEtHAIBCBWAHABCEBJBCBEHBDCAFBZBDAGDCBWA",
     "HACACACBBAFDCBDCBGEABGRJDAJADAWAHACAFBKADADBBOEBMGHADAIBCBWAHACAFBJBCBDGDDCAFBSJCAGCDAECCABA",
     "CCCCDCMDFCDAEBBFBNVENADAXAQBJADAEGCADACBEBKGWADAXAKAFBJADAEGCEDAEBKADLNADAzBADAGDQBaADASCYAJ",
     "ABBHCBDGABAIFKBDL6BDdkBCABAFAYABAXBFABAHAKBEfoCAkBDnBAkBAPANkBmGABEBB5LAEBHABAEBpBAEBhBAEBHA",
     "BAEBPA5BAEBjCBgBCaF2CBGB9UC5CGWIYIULNADACL.CBKFKFaF5CGrBEmCJfAMDMDBCqBBFKsBDaFLC.BBhCAdBLFKF",
     "OBuBBMTtCAmFH8BCPC.BErBBLHrBE2QBGBmBBGBIABABABAfB1BAPAOBGATBDAJAlDAMBbANCiBNhBOsED6UVLU04BB.",
     "LEtBABEBB4BGCNYIHAHAHAHAHAHAHAHA.DhBaA5CL2GZwCA2CBnDErBA.CA2CIwBAtzcC3BI8KT4FH9GT8BCKF4BHmCH",
     "MF0DKeCuCALDhBA3BIOBKBnDXcJGBGBGIHAHA8BD.DBKFk9KLXDxBDuzIBqDlBHLFEaAFABACACAqUfqBFzBATAEDFAn",
     "EBBA.FCGBGBGBDCHAHJFBMAaATACAPBOhB7DEDDtBC4CANCBuBuBhEdCxBOcDkBIeErBEeAlBDOpB.EBKFkBDkBDoBH0",
     "BKMAPAHACALAPAHACC0BL3JIWJIXGAqBAJkCGBBAsBACCBBXAoCHJvBTACEhBCbEblB4BDUByBACEIADAdBDDKGJGgCf",
     "nBDMI2BCdBbEaGELHvCpC2BzBMzBGuBHKFmBCdHCvGfAqBADBCPGHJgBuBHqBValBcTXIuCDkBIkCJBBZGKF1BASHnBI",
     "gDAUKSAvB9BHABAEAPALF7BEKFEAIBCBWAHACAFAKBCBDBBFBEHBHCFKKABBBAmBAKABBBAEAKACHCc8CAFdoCHKlF2B",
     "BmBhBlCKKFNS6BFKFUbbBPDX4F8BjDzCLIBBBIACAeACBMIKlCIBuBBLaoCHzCMpCGK1CI3CiBNKFJAtBAOJdCgBBWAO",
     "oCHACAsBCBACAJHKFGACAlBACAGGKFsBDK1HZGRApBCd0CBOyBM7clDvDAFKkGryCjDM2iBJ78DEnS41G6Bl2B5RGfAK",
     "DxCAKFeBGJmCJKAHAVETvN6BlG7CEZBZrBrCD5BGR_BFKHI2mHoBgBgDzD8vIEAHACAjJOBcDBBNEHsMjoCrDENCJGKB",
     "I76D9HC0NFXOROuBBXI0D7B2HJnBBiGUmC5DULUL3CIZmE1CAnCACBBBCBEAMABAHAhCAEBIAHAcAEAFABCHA0KBkJB.",
     "VOFAPviBfFG0GHARBHACAFE.BgBBvDtBCOBKDC_JfQ6BEBvOqB1GrBDB_FfAWHC_GHAEACAPAlGBQoBsCDKDCwYkCrC9",
     "BhGEAbACABBBAKAEABABFBDBABABADACABBBABABABABACABBEAHAEAEABAKAREDAFARzBCtIsBDkDLPBPAPAlBJuF3B",
     "dMsBDJGCNG5E5eCRCNC6GFMDBOMD4BHKFoBHeBMDCNJmB4KHOBNCLC5BABDQBMDKGzEAnDkgBg3pBf.oEBu0FBxpHOuT",
     "htC.QhvBr6EEqpIm8yVBdgD_DwHvw_B.__BB.__BB"]),
  (["surrogates"],
    ["gg2B__B"])]

end PointSelect.Unicode
