import PointSelect.Unicode.Packed

namespace PointSelect.Unicode

/-- The roles of characters in the boundaries of user-perceived characters. -/
def graphemeBreaks : List NamedSet := [
  (["cr"],
    ["NA"]),
  (["cn", "control"],
    ["AJBBBR_CgBNAurBAxvEA8_BACBYGxBPv03BAwHL0hNPgjiBDvmFHl0rYfgD_DwHvwD"]),
  (["ex", "extend"],
    ["gYvDzIGnIsBBABBBBBAoCKwBUQAlDGCFCBBDjBAea7CK6BIJAYDBIBCBErBC8BHqBXBf3BABAEHEADGKBdA6BABACDIA",
     "JAKBaACB5BAEBEBCCDAeBDALB5BAEEBBEAUBWFBA6BABBBDIAHCKBeA7BABAMAJAoBADA3BABCFCBDHBLBdA6BACACAD",
     "AFBHBLBcB5BBBACDIAJAKBdAoCAEACCBAIAxCACGMHiDACILGpCBbABABA3BNBEBBFKBjBJAmDDBFBBCBZBECQDNACBG",
     "APA_VCydCdBeBeBgCBBGIACKJAtBCBA1DBiBA2DCEBJAGC7GBCA6BABGBABACHGJCAwBexBDwBGBAFAoBIMBgBDCBBC4",
     "BABBDABC6BHCB4ECBMBGEAGADBmG_BsQAjGgB._CCtEAgDfqRFpDB0udDBJgBBwCBwIADAEAZBFA3EBaRNAmBHZKuBCw",
     "BACDCBnBAjCFCBCBMAIAvBAzBABCCBFBBAqBBIAuHACAEAw5TAhXPQPuLB9SAiHA1EEm0BCBBFDoBCEAlFB9RDjMBwCC",
     "mCKxBD7DA2BOpBACBKCxBDCBHA9BCkBEBH.BAMB0BIKDCA_CCCABBGACA9EADHVB5BBBABAWAOGDEjGHCCBAXAxCACFB",
     "ACABBBBrHACDGBBBbB1CHCABBqDABACFBAlDCCDBEjIIBB1HAKBBAEAwEDCBEAgBJoBFCDIAJFCCuBMBB2MGBFBAyCVC",
     "GBBBB6DFDABBBGBAoCBDABA7KBLB0BEFABA9nFAGO60NE7BG4gBA_BDxCA4lTBhzEtBCW.QABCEEIHCGeD0EC79B2BEx",
     "BIAOAWEBOwqBGBQCGBBBEkDAgFG3LA9BD8PDgfGtDGw1CEghjY_CgEvH"]),
  (["l"],
    ["goE_CggmBc"]),
  (["lf"],
    ["KA"]),
  (["lv"],
    ["ggrBAbAbAbAbAbAbAbAbAbAbAbAbAbAbAbAbAbAbAbAbAbAbAbAbAbAbAbAbAbAbAbAbAbAbAbAbAbAbAbAbAbAbAbAb",
     "AbAbAbAbAbAbAbAbAbAbAbAbAbAbAbAbAbAbAbAbAbAbAbAbAbAbAbAbAbAbAbAbAbAbAbAbAbAbAbAbAbAbAbAbAbAb",
     "AbAbAbAbAbAbAbAbAbAbAbAbAbAbAbAbAbAbAbAbAbAbAbAbAbAbAbAbAbAbAbAbAbAbAbAbAbAbAbAbAbAbAbAbAbAb",
     "AbAbAbAbAbAbAbAbAbAbAbAbAbAbAbAbAbAbAbAbAbAbAbAbAbAbAbAbAbAbAbAbAbAbAbAbAbAbAbAbAbAbAbAbAbAb",
     "AbAbAbAbAbAbAbAbAbAbAbAbAbAbAbAbAbAbAbAbAbAbAbAbAbAbAbAbAbAbAbAbAbAbAbAbAbAbAbAbAbAbAbAbAbAb",
     "AbAbAbAbAbAbAbAbAbAbAbAbAbAbAbAbAbAbAbAbAbAbAbAbAbAbAbAbAbAbAbAbAbAbAbAbAbAbAbAbAbAbAbAbAbAb",
     "AbAbAbAbAbAbAbAbAbAbAbAbAbAbAbAbAbAbAbAbAbAbAbAbAbAbAbAbAbAbAbAbAbAbAbAbAbAbAbAbAbAbAbAbAbAb",
     "AbAbAbAbAbAbAbAbAbAbAbAbAbAbAbAbAbAbAbAbAbAbAbAbAbAbAbAbAbAbAbAbAbAbAbAbAbAbAbAbAbAbAbAbAbAb",
     "AbAbAbAbAbAbAbAbAbAbAbAbAbAbAbAbAbAbAbAbAbAbAbAbAbAbAbAbAbAbAbAbA"]),
  (["lvt"],
    ["hgrBaBaBaBaBaBaBaBaBaBaBaBaBaBaBaBaBaBaBaBaBaBaBaBaBaBaBaBaBaBaBaBaBaBaBaBaBaBaBaBaBaBaBaBaB",
     "aBaBaBaBaBaBaBaBaBaBaBaBaBaBaBaBaBaBaBaBaBaBaBaBaBaBaBaBaBaBaBaBaBaBaBaBaBaBaBaBaBaBaBaBaBaB",
     "aBaBaBaBaBaBaBaBaBaBaBaBaBaBaBaBaBaBaBaBaBaBaBaBaBaBaBaBaBaBaBaBaBaBaBaBaBaBaBaBaBaBaBaBaBaB",
     "aBaBaBaBaBaBaBaBaBaBaBaBaBaBaBaBaBaBaBaBaBaBaBaBaBaBaBaBaBaBaBaBaBaBaBaBaBaBaBaBaBaBaBaBaBaB",
     "aBaBaBaBaBaBaBaBaBaBaBaBaBaBaBaBaBaBaBaBaBaBaBaBaBaBaBaBaBaBaBaBaBaBaBaBaBaBaBaBaBaBaBaBaBaB",
     "aBaBaBaBaBaBaBaBaBaBaBaBaBaBaBaBaBaBaBaBaBaBaBaBaBaBaBaBaBaBaBaBaBaBaBaBaBaBaBaBaBaBaBaBaBaB",
     "aBaBaBaBaBaBaBaBaBaBaBaBaBaBaBaBaBaBaBaBaBaBaBaBaBaBaBaBaBaBaBaBaBaBaBaBaBaBaBaBaBaBaBaBaBaB",
     "aBaBaBaBaBaBaBaBaBaBaBaBaBaBaBaBaBaBaBaBaBaBaBaBaBaBaBaBaBaBaBaBaBaBaBaBaBaBaBaBaBaBaBaBaBaB",
     "aBaBaBaBaBaBaBaBaBaBaBaBaBaBaBaBaBaBaBaBaBaBaBaBaBaBaBaBaBaBaBaBa"]),
  (["pp", "prepend"],
    ["gwBF3GAxBAgMBwCArjBAu7gCAPA0HB77BABA4HApCF8VA7NA"]),
  (["ri", "regionalindicator"],
    ["mv8DZ"]),
  (["sm", "spacingmark"],
    ["joCA3BACCIDBByBB7BBGBCB2BA6BCiCA6BCIABB1BB8BAGBCByDABBDCBC0BC9BD9BB6BABBBBCBBBnBAOB7BBFCBC1B",
     "BsCBGGTB_BA_DAqEB_BAxFAJBZBsBAw0BAeAhEAHHBB6KDCCEBBFgHB6BABAVFxEA2BABEBB9BAeAEBCA8BACCBADBwB",
     "HIBrFAVAr5iBBCA4CByBPuEBvBAwBBEBCCuDBCBYA9EACBFAtHBBBBBBAzgZABA_DAtBCEBzDAYB7BAwBCJBNA9CCDBB",
     "AqFCfB7BABDCBCCUBxGCIBDArDBGABBBACAuHBGDCAxDCIBBAtDABBGAvDAlICJA4HEBBEACABAuECIDEA0CAdB.BA3M",
     "AOAqDAHACA1GEEBBA.KBMAwBBIBBAvgU2BoDB0rYAGA"]),
  (["t"],
    ["otE3CruxBwB"]),
  (["v"],
    ["grEnCowxBW"]),
  (["zwj"],
    ["tgIA"])]

end PointSelect.Unicode
