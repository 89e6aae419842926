import PointSelect.Unicode.Packed

namespace PointSelect.Unicode

/-- The characters that differ in letter case only: the distance of each group to the one before,
the number of its members less two, and the distances of its members. -/
def packedCaseOrbits : List String := [
  "hCAgBBAgBBAgBBAgBBAgBBAgBBAgBBAgBBAgBBAgBBBgB_lIBAgBBAgBBAgBBAgBBAgBBAgBBAgBBBgBsIBAgBBAgBBAgB",
  "BAgBBAgBBAgBBAgB7CBnXgBLAgBBAgBBAgBBAgBBAgBBBgBmiIBAgBBAgBBAgBBAgBBAgBBAgBBAgBBAgBBAgBBAgBBAgB",
  "BAgBBAgBBAgBBAgBBAgBBAgBCAgBBAgBBAgBBAgBBAgBBAgBBAgBBA_tHgBA5DBABCABCABCABCABCABCABCABCABCABCA",
  "BCABCABCABCABCABCABCABCABCABCABCABCABCABEABCABCABDABCABCABCABCABCABCABCABDABCABCABCABCABCABCAB",
  "CABCABCABCABCABCABCABCABCABCABCABCABCABCABCABCABDABCABCABDAjGBAyGBABCABCAuGBABCAtGBAtGBABDAvCB",
  "AqGBArGBABCAtGBAvGBAhDBAzGBAxGBABCAjFBAhypBBAzGBA1GBAiEBA2GBABCABCABCA6GBABCA6GDABCA6GBABCA5GB",
  "A5GBABCABCA7GBABEABDA4BFBBBDBBBDBBBDABCABCABCABCABCABCABCABDABCABCABCABCABCABCABCABCABDBBBDABE",
  "ABCABCABCABCABCABCABCABCABCABCABCABCABCABCABCABCABCABCABCABEABCABCABCABCABCABCABCABCABIArxKBAB",
  "DAoxKBA_xKBA_xKBABDAlCBAnCBABCABCABCABCABCA_wKBA8wKBA.wKKAvqpBFArqpBDAnrpBBAoppBBAkqpBEAkqpBBA",
  "3vKBAhqpBFA9vKMAnvKFAjqpBFAqppBWA1opBBAyopBnFC0CgBlgHrBABCABEABFAiEBAiEBAiECA0DHAmBCAlBBAlBBAl",
  "BCAgCCA_BBA_BBAjiHBAgBBBgBeBAgBBAgBBBgBgCBAgBBAgBBCgBZjBCBgB2BBAgBCAgBBAgBBAgBBBgBWBBgBwBCBfBB",
  "AgBBAgBBBgBPBAgBBAgBBBgB9qHBAgBBAgBFAzhHfAIJABCABCABCABCABCABCABCABCABCABCABCABEAHFABDABGAwCBA",
  "wCBAwCBAwCBAwCBAwCBAwCBAwCBAwCBAwCBAwCBAwCBAwCBAwCBAwCBAwCBAgBBAgBBBgBuiGBAgBBBgBtiGBAgBBAgBBA",
  "gBBAgBBAgBBAgBBAgBBAgBBAgBBBgBkiGBAgBBAgBBBgBiiGBCgBiiGBBAgBBAgBBAgBBAgBBAgBBAgBBAgBBBgB8hGBAg",
  "BBAgBBAgBBAgBBAgBxBABCBBkhGCABCABCABCABCABCABCABCABCABCABCABCABCABCABCABKABCABCABCABCABCABCABC",
  "ABCABCABCABCABCABCABCABCABCABCABCABCABCABCABCABCABCABCABCABCAPBABCABCABCABCABCABCABDABCABCABCA",
  "BCABCABCABCABCABCABCABCABCABCABCABCABCABCABCABCABCABCABCABCABCABCABCABCABCABCABCABCABCABCABCAB",
  "CABCABCABCABCABCABCABCABCABCABCABCABCABDAwBBAwBBAwBBAwBBAwBBAwBBAwBBAwBBAwBBAwBBAwBBAwBBAwBBAw",
  "BBAwBBAwBBAwBBAwBBAwBBAwBBAwBBAwBBAwBBAwBBAwBBAwBBAwBBAwBBAwBBAwBBAwBBAwBBAwBBAwBBAwBBAwBBAwBB",
  "AwBq6CAgjHBAgjHBAgjHBAgjHBAgjHBAgjHBAgjHBAgjHBAgjHBAgjHBAgjHBAgjHBAgjHBAgjHBAgjHBAgjHBAgjHBAgj",
  "HBAgjHBAgjHBAgjHBAgjHBAgjHBAgjHBAgjHBAgjHBAgjHBAgjHBAgjHBAgjHBAgjHBAgjHBAgjHBAgjHBAgjHBAgjHBAg",
  "jHBAgjHCAgjHGAgjHDAg.CBAg.CBAg.CBAg.CBAg.CBAg.CBAg.CBAg.CBAg.CBAg.CBAg.CBAg.CBAg.CBAg.CBAg.CBA",
  "g.CBAg.CBAg.CBAg.CBAg.CBAg.CBAg.CBAg.CBAg.CBAg.CBAg.CBAg.CBAg.CBAg.CBAg.CBAg.CBAg.CBAg.CBAg.CB",
  "Ag.CBAg.CBAg.CBAg.CBAg.CBAg.CBAg.CBAg.CBAg.CDAg.CBAg.CBAg.ChVAw.lBBAw.lBBAw.lBBAw.lBBAw.lBBAw.",
  "lBBAw.lBBAw.lBBAw.lBBAw.lBBAw.lBBAw.lBBAw.lBBAw.lBBAw.lBBAw.lBBAw.lBBAw.lBBAw.lBBAw.lBBAw.lBBA",
  "w.lBBAw.lBBAw.lBBAw.lBBAw.lBBAw.lBBAw.lBBAw.lBBAw.lBBAw.lBBAw.lBBAw.lBBAw.lBBAw.lBBAw.lBBAw.lB",
  "BAw.lBBAw.lBBAw.lBBAw.lBBAw.lBBAw.lBBAw.lBBAw.lBBAw.lBBAw.lBBAw.lBBAw.lBBAw.lBBAw.lBBAw.lBBAw.",
  "lBBAw.lBBAw.lBBAw.lBBAw.lBBAw.lBBAw.lBBAw.lBBAw.lBBAw.lBBAw.lBBAw.lBBAw.lBBAw.lBBAw.lBBAw.lBBA",
  "w.lBBAw.lBBAw.lBBAw.lBBAw.lBBAw.lBBAw.lBBAw.lBBAw.lBBAw.lBBAw.lBBAw.lBBAIBAIBAIBAIBAIBAIzkCBiu",
  "iBBBABwHAkwiBEAm3DRA4xiByDABCABCABCABCABCABCABCABCABCABCABCABCABCABCABCABCABCABCABCABCABCABCAB",
  "CABCABCABCABCABCABCABCABCABCABCABCABCABCABCABCABCABCABCABCABCABCABCABCABCABCBB6BCABCABCABCABCA",
  "BCABCABCABCABCABCABCABCABCABCABCABCABCABCABCABCABCABCABCABCABCABMABCABCABCABCABCABCABCABCABCAB",
  "CABCABCABCABCABCABCABCABCABCABCABCABCABCABCABCABCABCABCABCABCABCABCABCABCABCABCABCABCABCABCABC",
  "ABCABCABCABCABCABCABCAIBAIBAIBAIBAIBAIBAIBAIJAIBAIBAIBAIBAIBAILAIBAIBAIBAIBAIBAIBAIBAIJAIBAIBA",
  "IBAIBAIBAIBAIBAIJAIBAIBAIBAIBAIBAIMAICAICAICAIJAIBAIBAIBAIBAIBAIBAIBAIJAqCBAqCBA2CBA2CBA2CBA2C",
  "BAkDBAkDBAgEBAgEBAwDBAwDBA.DBA.DDAIBAIBAIBAIBAIBAIBAIBAIJAIBAIBAIBAIBAIBAIBAIBAIJAIBAIBAIBAIBA",
  "IBAIBAIBAIJAIBAICAJQAJNAIBAIPAIBAIEAHOAJ_JAcuBAQBAQBAQBAQBAQBAQBAQBAQBAQBAQBAQBAQBAQBAQBAQBAQU",
  "ABzZAaBAaBAaBAaBAaBAaBAaBAaBAaBAaBAaBAaBAaBAaBAaBAaBAaBAaBAaBAaBAaBAaBAaBAaBAaBAax5BAwBBAwBBAw",
  "BBAwBBAwBBAwBBAwBBAwBBAwBBAwBBAwBBAwBBAwBBAwBBAwBBAwBBAwBBAwBBAwBBAwBBAwBBAwBBAwBBAwBBAwBBAwBB",
  "AwBBAwBBAwBBAwBBAwBBAwBBAwBBAwBBAwBBAwBBAwBBAwBBAwBBAwBBAwBBAwBBAwBBAwBBAwBBAwBBAwBBAwBxBABHAB",
  "CABCABHABDABLABCABCABCABCABCABCABCABCABCABCABCABCABCABCABCABCABCABCABCABCABCABCABCABCABCABCABC",
  "ABCABCABCABCABCABCABCABCABCABCABCABCABCABCABCABCABCABCABCABCABCABCABJABCABFABuqeABCABCABCABCAB",
  "EABCABCABCABCABCABCABCABCABCABCABCABCABCABCABCABCABUABCABCABCABCABCABCABCABCABCABCABCABCABCABo",
  "EABCABCABCABCABCABCABEABCABCABCABCABCABCABCABCABCABCABCABCABCABCABCABCABCABCABCABCABCABCABCABC",
  "ABCABCABCABCABCABCABLABCABDABCABCABCABCABFABFABCABCAwBCABCABCABCABCABCABCABCABCABCABLAgdBABCAB",
  "CABCABCABCABCABCABFABCABDABCABCABCABCABCABCABCABbABw4UAB8gBAgBBAgBBAgBBAgBBAgBBAgBBAgBBAgBBAgB",
  "BAgBBAgBBAgBBAgBBAgBBAgBBAgBBAgBBAgBBAgBBAgBBAgBBAgBBAgBBAgBBAgBBAgBmmBAoBBAoBBAoBBAoBBAoBBAoB",
  "BAoBBAoBBAoBBAoBBAoBBAoBBAoBBAoBBAoBBAoBBAoBBAoBBAoBBAoBBAoBBAoBBAoBBAoBBAoBBAoBBAoBBAoBBAoBBA",
  "oBBAoBBAoBBAoBBAoBBAoBBAoBBAoBBAoBBAoBBAoBpEAoBBAoBBAoBBAoBBAoBBAoBBAoBBAoBBAoBBAoBBAoBBAoBBAo",
  "BBAoBBAoBBAoBBAoBBAoBBAoBBAoBBAoBBAoBBAoBBAoBBAoBBAoBBAoBBAoBBAoBBAoBBAoBBAoBBAoBBAoBBAoBBAoB9",
  "EAnBBAnBBAnBBAnBBAnBBAnBBAnBBAnBBAnBBAnBBAnBCAnBBAnBBAnBBAnBBAnBBAnBBAnBBAnBBAnBBAnBBAnBBAnBBA",
  "nBBAnBBAnBCAnBBAnBBAnBBAnBBAnBBAnBBAnBCAnBBAnBr3BAgCBAgCBAgCBAgCBAgCBAgCBAgCBAgCBAgCBAgCBAgCBA",
  "gCBAgCBAgCBAgCBAgCBAgCBAgCBAgCBAgCBAgCBAgCBAgCBAgCBAgCBAgCBAgCBAgCBAgCBAgCBAgCBAgCBAgCBAgCBAgC",
  "BAgCBAgCBAgCBAgCBAgCBAgCBAgCBAgCBAgCBAgCBAgCBAgCBAgCBAgCBAgCBAgC.EAgBBAgBBAgBBAgBBAgBBAgBBAgBB",
  "AgBBAgBBAgBBAgBBAgBBAgBBAgBBAgBBAgBBAgBBAgBBAgBBAgBBAgBBAgB75CAgBBAgBBAgBBAgBBAgBBAgBBAgBBAgBB",
  "AgBBAgBBAgBBAgBBAgBBAgBBAgBBAgBBAgBBAgBBAgBBAgBBAgBBAgBBAgBBAgBBAgBBAgBBAgBBAgBBAgBBAgBBAgBBAg",
  "BhsVAgBBAgBBAgBBAgBBAgBBAgBBAgBBAgBBAgBBAgBBAgBBAgBBAgBBAgBBAgBBAgBBAgBBAgBBAgBBAgBBAgBBAgBBAg",
  "BBAgBBAgBBAgBBAgBBAgBBAgBBAgBBAgBBAgBhCAbBAbBAbBAbBAbBAbBAbBAbBAbBAbBAbBAbBAbBAbBAbBAbBAbBAbBA",
  "bBAbBAbBAbBAbBAbBAboyeAiBBAiBBAiBBAiBBAiBBAiBBAiBBAiBBAiBBAiBBAiBBAiBBAiBBAiBBAiBBAiBBAiBBAiBB",
  "AiBBAiBBAiBBAiBBAiBBAiBBAiBBAiBBAiBBAiBBAiBBAiBBAiBBAiBBAiBBAiB"]

end PointSelect.Unicode
