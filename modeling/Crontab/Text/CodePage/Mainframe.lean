import Crontab.Text.CodePage

/-!
# Mainframe pages

The pages of IBM mainframes, on which hardly any character has its ASCII code.
-/

namespace Crontab.Text

/-- The pages of this family. -/
def mainframePages : List CodePage := [
  { names :=
    ["cp037", "037", "csibm037", "ebcdic_cp_ca", "ebcdic_cp_nl", "ebcdic_cp_us", "ebcdic_cp_wt",
      "ibm037", "ibm039"]
    first := 0x4
    rest :=
      "\u009c\x09\u0086\x7f\u0097\u008d\u008e\x0b\x0c\x0d\x0e\x0f\x10\x11\x12\x13\u009d\u0085" ++
      "\x08\u0087\x18\x19\u0092\u008f\x1c\x1d\x1e\x1f\u0080\u0081\u0082\u0083\u0084\x0a\x17\x1b" ++
      "\u0088\u0089\u008a\u008b\u008c\x05\x06\x07\u0090\u0091\x16\u0093\u0094\u0095\u0096\x04" ++
      "\u0098\u0099\u009a\u009b\x14\x15\u009e\x1a\x20\u00a0âäàáãåçñ¢\x2e\x3c\x28\x2b\x7c\x26éêë" ++
      "èíîïìß\x21\x24\x2a\x29\x3b¬\x2d\x2fÂÄÀÁÃÅÇÑ¦\x2c\x25\x5f\x3e\x3føÉÊËÈÍÎÏÌ\x60\x3a\x23" ++
      "\x40\x27\x3d\x22Øabcdefghi«»ðýþ±°jklmnopqrªºæ¸Æ¤µ\x7estuvwxyz¡¿ÐÝÞ®\x5e£¥·©§¶¼½¾\x5b\x5d" ++
      "¯¨´×\x7bABCDEFGHI\u00adôöòóõ\x7dJKLMNOPQR¹ûüùúÿ\x5c÷STUVWXYZ²ÔÖÒÓÕ0123456789³ÛÜÙÚ\u009f" },
  { names :=
    ["cp273", "273", "csibm273", "ibm273"]
    first := 0x4
    rest :=
      "\u009c\x09\u0086\x7f\u0097\u008d\u008e\x0b\x0c\x0d\x0e\x0f\x10\x11\x12\x13\u009d\u0085" ++
      "\x08\u0087\x18\x19\u0092\u008f\x1c\x1d\x1e\x1f\u0080\u0081\u0082\u0083\u0084\x0a\x17\x1b" ++
      "\u0088\u0089\u008a\u008b\u008c\x05\x06\x07\u0090\u0091\x16\u0093\u0094\u0095\u0096\x04" ++
      "\u0098\u0099\u009a\u009b\x14\x15\u009e\x1a\x20\u00a0â\x7bàáãåçñÄ\x2e\x3c\x28\x2b\x21\x26" ++
      "éêëèíîïì\x7eÜ\x24\x2a\x29\x3b\x5e\x2d\x2fÂ\x5bÀÁÃÅÇÑö\x2c\x25\x5f\x3e\x3føÉÊËÈÍÎÏÌ\x60" ++
      "\x3a\x23§\x27\x3d\x22Øabcdefghi«»ðýþ±°jklmnopqrªºæ¸Æ¤µßstuvwxyz¡¿ÐÝÞ®¢£¥·©\x40¶¼½¾¬\x7c‾" ++
      "¨´×äABCDEFGHI\u00adô¦òóõüJKLMNOPQR¹û\x7dùúÿÖ÷STUVWXYZ²Ô\x5cÒÓÕ0123456789³Û\x5dÙÚ\u009f" },
  { names :=
    ["cp424", "424", "csibm424", "ebcdic_cp_he", "ibm424"]
    first := 0x4
    rest :=
      "\u009c\x09\u0086\x7f\u0097\u008d\u008e\x0b\x0c\x0d\x0e\x0f\x10\x11\x12\x13\u009d\u0085" ++
      "\x08\u0087\x18\x19\u0092\u008f\x1c\x1d\x1e\x1f\u0080\u0081\u0082\u0083\u0084\x0a\x17\x1b" ++
      "\u0088\u0089\u008a\u008b\u008c\x05\x06\x07\u0090\u0091\x16\u0093\u0094\u0095\u0096\x04" ++
      "\u0098\u0099\u009a\u009b\x14\x15\u009e\x1a\x20\u05d0\u05d1\u05d2\u05d3\u05d4\u05d5\u05d6" ++
      "\u05d7\u05d8¢\x2e\x3c\x28\x2b\x7c\x26\u05d9\u05da\u05db\u05dc\u05dd\u05de\u05df\u05e0" ++
      "\u05e1\x21\x24\x2a\x29\x3b¬\x2d\x2f\u05e2\u05e3\u05e4\u05e5\u05e6\u05e7\u05e8\u05e9¦\x2c" ++
      "\x25\x5f\x3e\x3f�\u05ea��\u00a0���‗\x60\x3a\x23\x40\x27\x3d\x22�abcdefghi«»���±°jklmnopq" ++
      "r���¸�¤µ\x7estuvwxyz�����®\x5e£¥·©§¶¼½¾\x5b\x5d¯¨´×\x7bABCDEFGHI\u00ad�����\x7dJKLMNOPQR" ++
      "¹�����\x5c÷STUVWXYZ²�����0123456789³����\u009f" },
  { names :=
    ["cp500", "500", "csibm500", "ebcdic_cp_be", "ebcdic_cp_ch", "ibm500"]
    first := 0x4
    rest :=
      "\u009c\x09\u0086\x7f\u0097\u008d\u008e\x0b\x0c\x0d\x0e\x0f\x10\x11\x12\x13\u009d\u0085" ++
      "\x08\u0087\x18\x19\u0092\u008f\x1c\x1d\x1e\x1f\u0080\u0081\u0082\u0083\u0084\x0a\x17\x1b" ++
      "\u0088\u0089\u008a\u008b\u008c\x05\x06\x07\u0090\u0091\x16\u0093\u0094\u0095\u0096\x04" ++
      "\u0098\u0099\u009a\u009b\x14\x15\u009e\x1a\x20\u00a0âäàáãåçñ\x5b\x2e\x3c\x28\x2b\x21\x26" ++
      "éêëèíîïìß\x5d\x24\x2a\x29\x3b\x5e\x2d\x2fÂÄÀÁÃÅÇÑ¦\x2c\x25\x5f\x3e\x3føÉÊËÈÍÎÏÌ\x60\x3a" ++
      "\x23\x40\x27\x3d\x22Øabcdefghi«»ðýþ±°jklmnopqrªºæ¸Æ¤µ\x7estuvwxyz¡¿ÐÝÞ®¢£¥·©§¶¼½¾¬\x7c¯¨" ++
      "´×\x7bABCDEFGHI\u00adôöòóõ\x7dJKLMNOPQR¹ûüùúÿ\x5c÷STUVWXYZ²ÔÖÒÓÕ0123456789³ÛÜÙÚ\u009f" },
  { names :=
    ["cp875"]
    first := 0x4
    rest :=
      "\u009c\x09\u0086\x7f\u0097\u008d\u008e\x0b\x0c\x0d\x0e\x0f\x10\x11\x12\x13\u009d\u0085" ++
      "\x08\u0087\x18\x19\u0092\u008f\x1c\x1d\x1e\x1f\u0080\u0081\u0082\u0083\u0084\x0a\x17\x1b" ++
      "\u0088\u0089\u008a\u008b\u008c\x05\x06\x07\u0090\u0091\x16\u0093\u0094\u0095\u0096\x04" ++
      "\u0098\u0099\u009a\u009b\x14\x15\u009e\x1a\x20ΑΒΓΔΕΖΗΘΙ\x5b\x2e\x3c\x28\x2b\x21\x26ΚΛΜΝΞ" ++
      "ΟΠΡΣ\x5d\x24\x2a\x29\x3b\x5e\x2d\x2fΤΥΦΧΨΩΪΫ\x7c\x2c\x25\x5f\x3e\x3f¨ΆΈΉ\u00a0ΊΌΎΏ\x60" ++
      "\x3a\x23\x40\x27\x3d\x22΅abcdefghiαβγδεζ°jklmnopqrηθικλμ´\x7estuvwxyzνξοπρσ£άέήϊίόύϋώςτυ" ++
      "φχψ\x7bABCDEFGHI\u00adωΐΰ‘―\x7dJKLMNOPQR±½\x1a·’¦\x5c\x1aSTUVWXYZ²§\x1a\x1a«¬0123456789³" ++
      "©\x1a\x1a»\u009f" },
  { names :=
    ["cp1026", "1026", "csibm1026", "ibm1026"]
    first := 0x4
    rest :=
      "\u009c\x09\u0086\x7f\u0097\u008d\u008e\x0b\x0c\x0d\x0e\x0f\x10\x11\x12\x13\u009d\u0085" ++
      "\x08\u0087\x18\x19\u0092\u008f\x1c\x1d\x1e\x1f\u0080\u0081\u0082\u0083\u0084\x0a\x17\x1b" ++
      "\u0088\u0089\u008a\u008b\u008c\x05\x06\x07\u0090\u0091\x16\u0093\u0094\u0095\u0096\x04" ++
      "\u0098\u0099\u009a\u009b\x14\x15\u009e\x1a\x20\u00a0âäàáãå\x7bñÇ\x2e\x3c\x28\x2b\x21\x26" ++
      "éêëèíîïìßĞİ\x2a\x29\x3b\x5e\x2d\x2fÂÄÀÁÃÅ\x5bÑş\x2c\x25\x5f\x3e\x3føÉÊËÈÍÎÏÌı\x3aÖŞ\x27" ++
      "\x3dÜØabcdefghi«»\x7d\x60¦±°jklmnopqrªºæ¸Æ¤µöstuvwxyz¡¿\x5d\x24\x40®¢£¥·©§¶¼½¾¬\x7c¯¨´×ç" ++
      "ABCDEFGHI\u00adô\x7eòóõğJKLMNOPQR¹û\x5cùúÿü÷STUVWXYZ²Ô\x23ÒÓÕ0123456789³Û\x22ÙÚ\u009f" },
  { names :=
    ["cp1140", "1140", "ibm1140"]
    first := 0x4
    rest :=
      "\u009c\x09\u0086\x7f\u0097\u008d\u008e\x0b\x0c\x0d\x0e\x0f\x10\x11\x12\x13\u009d\u0085" ++
      "\x08\u0087\x18\x19\u0092\u008f\x1c\x1d\x1e\x1f\u0080\u0081\u0082\u0083\u0084\x0a\x17\x1b" ++
      "\u0088\u0089\u008a\u008b\u008c\x05\x06\x07\u0090\u0091\x16\u0093\u0094\u0095\u0096\x04" ++
      "\u0098\u0099\u009a\u009b\x14\x15\u009e\x1a\x20\u00a0âäàáãåçñ¢\x2e\x3c\x28\x2b\x7c\x26éêë" ++
      "èíîïìß\x21\x24\x2a\x29\x3b¬\x2d\x2fÂÄÀÁÃÅÇÑ¦\x2c\x25\x5f\x3e\x3føÉÊËÈÍÎÏÌ\x60\x3a\x23" ++
      "\x40\x27\x3d\x22Øabcdefghi«»ðýþ±°jklmnopqrªºæ¸Æ€µ\x7estuvwxyz¡¿ÐÝÞ®\x5e£¥·©§¶¼½¾\x5b\x5d" ++
      "¯¨´×\x7bABCDEFGHI\u00adôöòóõ\x7dJKLMNOPQR¹ûüùúÿ\x5c÷STUVWXYZ²ÔÖÒÓÕ0123456789³ÛÜÙÚ\u009f" }]

end Crontab.Text
