/-
  Inlay.Text.CodePages
  ────────────────────────────────
  **ENCODINGS OF ONE BYTE FOR A CHARACTER.**

  For each encoding the characters of its bytes: of all 256, or of the upper
  128 where the lower ones are those of ASCII.  U+FFFE stands for a byte that
  is no character.  Beside the tables are the further names of encodings.
-/

namespace Inlay.Text

/-! ## §1. Tables. -/

/-- The characters of each encoding, by its name. -/
def codePages : List (String × String) :=
  [("cp037",
    String.join
    ["\x00\x01\x02\x03\u009c\x09\u0086\x7f\u0097\u008d\u008e\x0b\x0c\x0d\x0e\x0f\x10\x11\x12",
     "\x13\u009d\u0085\x08\u0087\x18\x19\u0092\u008f\x1c\x1d\x1e\x1f\u0080\u0081\u0082\u0083",
     "\u0084\x0a\x17\x1b\u0088\u0089\u008a\u008b\u008c\x05\x06\x07\u0090\u0091\x16\u0093\u0094",
     "\u0095\u0096\x04\u0098\u0099\u009a\u009b\x14\x15\u009e\x1a \u00a0âäàáãåçñ¢.<(+|&éêëèíîïì",
     "ß!$*);¬-/ÂÄÀÁÃÅÇÑ¦,%_>?øÉÊËÈÍÎÏÌ`:#@'=\"Øabcdefghi«»ðýþ±°jklmnopqrªºæ¸Æ¤µ~stuvwxyz¡¿ÐÝÞ®",
     "^£¥·©§¶¼½¾[]¯¨´×\x7bABCDEFGHI\u00adôöòóõ\x7dJKLMNOPQR¹ûüùúÿ\\÷STUVWXYZ²ÔÖÒÓÕ0123456789³Û",
     "ÜÙÚ\u009f"]),
   ("cp1006",
    String.join
    ["\u0080\u0081\u0082\u0083\u0084\u0085\u0086\u0087\u0088\u0089\u008a\u008b\u008c\u008d",
     "\u008e\u008f\u0090\u0091\u0092\u0093\u0094\u0095\u0096\u0097\u0098\u0099\u009a\u009b",
     "\u009c\u009d\u009e\u009f\u00a0۰۱۲۳۴۵۶۷۸۹،\u061b\u00ad\u061f\ufe81\ufe8d\ufe8e\ufe8e",
     "\ufe8f\ufe91\ufb56\ufb58\ufe93\ufe95\ufe97\ufb66\ufb68\ufe99\ufe9b\ufe9d\ufe9f\ufb7a",
     "\ufb7c\ufea1\ufea3\ufea5\ufea7\ufea9\ufb84\ufeab\ufead\ufb8c\ufeaf\ufb8a\ufeb1\ufeb3",
     "\ufeb5\ufeb7\ufeb9\ufebb\ufebd\ufebf\ufec1\ufec5\ufec9\ufeca\ufecb\ufecc\ufecd\ufece",
     "\ufecf\ufed0\ufed1\ufed3\ufed5\ufed7\ufed9\ufedb\ufb92\ufb94\ufedd\ufedf\ufee0\ufee1",
     "\ufee3\ufb9e\ufee5\ufee7\ufe85\ufeed\ufba6\ufba8\ufba9\ufbaa\ufe80\ufe89\ufe8a\ufe8b",
     "\ufef1\ufef2\ufef3\ufbb0\ufbae\ufe7c\ufe7d"]),
   ("cp1026",
    String.join
    ["\x00\x01\x02\x03\u009c\x09\u0086\x7f\u0097\u008d\u008e\x0b\x0c\x0d\x0e\x0f\x10\x11\x12",
     "\x13\u009d\u0085\x08\u0087\x18\x19\u0092\u008f\x1c\x1d\x1e\x1f\u0080\u0081\u0082\u0083",
     "\u0084\x0a\x17\x1b\u0088\u0089\u008a\u008b\u008c\x05\x06\x07\u0090\u0091\x16\u0093\u0094",
     "\u0095\u0096\x04\u0098\u0099\u009a\u009b\x14\x15\u009e\x1a \u00a0âäàáãå\x7bñÇ.<(+!&éêëèí",
     "îïìßĞİ*);^-/ÂÄÀÁÃÅ[Ñş,%_>?øÉÊËÈÍÎÏÌı:ÖŞ'=ÜØabcdefghi«»\x7d`¦±°jklmnopqrªºæ¸Æ¤µöstuvwxyz¡",
     "¿]$@®¢£¥·©§¶¼½¾¬|¯¨´×çABCDEFGHI\u00adô~òóõğJKLMNOPQR¹û\\ùúÿü÷STUVWXYZ²Ô#ÒÓÕ0123456789³Û",
     "\"ÙÚ\u009f"]),
   ("cp1125",
    String.join
    ["АБВГДЕЖЗИЙКЛМНОПРСТУФХЦЧШЩЪЫЬЭЮЯабвгдежзийклмноп░▒▓│┤╡╢╖╕╣║╗╝╜╛┐└┴┬├─┼╞╟╚╔╩╦╠═╬╧╨╤╥╙╘╒╓╫",
     "╪┘┌█▄▌▐▀рстуфхцчшщъыьэюяЁёҐґЄєІіЇї·√№¤■\u00a0"]),
   ("cp1140",
    String.join
    ["\x00\x01\x02\x03\u009c\x09\u0086\x7f\u0097\u008d\u008e\x0b\x0c\x0d\x0e\x0f\x10\x11\x12",
     "\x13\u009d\u0085\x08\u0087\x18\x19\u0092\u008f\x1c\x1d\x1e\x1f\u0080\u0081\u0082\u0083",
     "\u0084\x0a\x17\x1b\u0088\u0089\u008a\u008b\u008c\x05\x06\x07\u0090\u0091\x16\u0093\u0094",
     "\u0095\u0096\x04\u0098\u0099\u009a\u009b\x14\x15\u009e\x1a \u00a0âäàáãåçñ¢.<(+|&éêëèíîïì",
     "ß!$*);¬-/ÂÄÀÁÃÅÇÑ¦,%_>?øÉÊËÈÍÎÏÌ`:#@'=\"Øabcdefghi«»ðýþ±°jklmnopqrªºæ¸Æ€µ~stuvwxyz¡¿ÐÝÞ®",
     "^£¥·©§¶¼½¾[]¯¨´×\x7bABCDEFGHI\u00adôöòóõ\x7dJKLMNOPQR¹ûüùúÿ\\÷STUVWXYZ²ÔÖÒÓÕ0123456789³Û",
     "ÜÙÚ\u009f"]),
   ("cp1250",
    String.join
    ["€\ufffe‚\ufffe„…†‡\ufffe‰Š‹ŚŤŽŹ\ufffe‘’“”•–—\ufffe™š›śťžź\u00a0ˇ˘Ł¤Ą¦§¨©Ş«¬\u00ad®Ż°±˛ł´",
     "µ¶·¸ąş»Ľ˝ľżŔÁÂĂÄĹĆÇČÉĘËĚÍÎĎĐŃŇÓÔŐÖ×ŘŮÚŰÜÝŢßŕáâăäĺćçčéęëěíîďđńňóôőö÷řůúűüýţ˙"]),
   ("cp1251",
    String.join
    ["ЂЃ‚ѓ„…†‡€‰Љ‹ЊЌЋЏђ‘’“”•–—\ufffe™љ›њќћџ\u00a0ЎўЈ¤Ґ¦§Ё©Є«¬\u00ad®Ї°±Ііґµ¶·ё№є»јЅѕїАБВГДЕЖЗИ",
     "ЙКЛМНОПРСТУФХЦЧШЩЪЫЬЭЮЯабвгдежзийклмнопрстуфхцчшщъыьэюя"]),
   ("cp1252",
    String.join
    ["€\ufffe‚ƒ„…†‡ˆ‰Š‹Œ\ufffeŽ\ufffe\ufffe‘’“”•–—˜™š›œ\ufffežŸ\u00a0¡¢£¤¥¦§¨©ª«¬\u00ad®¯°±²³´",
     "µ¶·¸¹º»¼½¾¿ÀÁÂÃÄÅÆÇÈÉÊËÌÍÎÏÐÑÒÓÔÕÖ×ØÙÚÛÜÝÞßàáâãäåæçèéêëìíîïðñòóôõö÷øùúûüýþÿ"]),
   ("cp1253",
    String.join
    ["€\ufffe‚ƒ„…†‡\ufffe‰\ufffe‹\ufffe\ufffe\ufffe\ufffe\ufffe‘’“”•–—\ufffe™\ufffe›\ufffe",
     "\ufffe\ufffe\ufffe\u00a0΅Ά£¤¥¦§¨©\ufffe«¬\u00ad®―°±²³΄µ¶·ΈΉΊ»Ό½ΎΏΐΑΒΓΔΕΖΗΘΙΚΛΜΝΞΟΠΡ",
     "\ufffeΣΤΥΦΧΨΩΪΫάέήίΰαβγδεζηθικλμνξοπρςστυφχψωϊϋόύώ\ufffe"]),
   ("cp1254",
    String.join
    ["€\ufffe‚ƒ„…†‡ˆ‰Š‹Œ\ufffe\ufffe\ufffe\ufffe‘’“”•–—˜™š›œ\ufffe\ufffeŸ\u00a0¡¢£¤¥¦§¨©ª«¬",
     "\u00ad®¯°±²³´µ¶·¸¹º»¼½¾¿ÀÁÂÃÄÅÆÇÈÉÊËÌÍÎÏĞÑÒÓÔÕÖ×ØÙÚÛÜİŞßàáâãäåæçèéêëìíîïğñòóôõö÷øùúûüışÿ"]),
   ("cp1255",
    String.join
    ["€\ufffe‚ƒ„…†‡ˆ‰\ufffe‹\ufffe\ufffe\ufffe\ufffe\ufffe‘’“”•–—˜™\ufffe›\ufffe\ufffe\ufffe",
     "\ufffe\u00a0¡¢£₪¥¦§¨©×«¬\u00ad®¯°±²³´µ¶·¸¹÷»¼½¾¿\u05b0\u05b1\u05b2\u05b3\u05b4\u05b5",
     "\u05b6\u05b7\u05b8\u05b9\ufffe\u05bb\u05bc\u05bd\u05be\u05bf\u05c0\u05c1\u05c2\u05c3",
     "\u05f0\u05f1\u05f2\u05f3\u05f4\ufffe\ufffe\ufffe\ufffe\ufffe\ufffe\ufffe\u05d0\u05d1",
     "\u05d2\u05d3\u05d4\u05d5\u05d6\u05d7\u05d8\u05d9\u05da\u05db\u05dc\u05dd\u05de\u05df",
     "\u05e0\u05e1\u05e2\u05e3\u05e4\u05e5\u05e6\u05e7\u05e8\u05e9\u05ea\ufffe\ufffe\u200e",
     "\u200f\ufffe"]),
   ("cp1256",
    String.join
    ["€\u067e‚ƒ„…†‡ˆ‰\u0679‹Œ\u0686\u0698\u0688\u06af‘’“”•–—\u06a9™\u0691›œ\u200c\u200d\u06ba",
     "\u00a0،¢£¤¥¦§¨©\u06be«¬\u00ad®¯°±²³´µ¶·¸¹\u061b»¼½¾\u061f\u06c1\u0621\u0622\u0623\u0624",
     "\u0625\u0626\u0627\u0628\u0629\u062a\u062b\u062c\u062d\u062e\u062f\u0630\u0631\u0632",
     "\u0633\u0634\u0635\u0636×\u0637\u0638\u0639\u063a\u0640\u0641\u0642\u0643à\u0644â\u0645",
     "\u0646\u0647\u0648çèéêë\u0649\u064aîï\u064b\u064c\u064d\u064eô\u064f\u0650÷\u0651ù\u0652",
     "ûü\u200e\u200f\u06d2"]),
   ("cp1257",
    String.join
    ["€\ufffe‚\ufffe„…†‡\ufffe‰\ufffe‹\ufffe¨ˇ¸\ufffe‘’“”•–—\ufffe™\ufffe›\ufffe¯˛\ufffe\u00a0",
     "\ufffe¢£¤\ufffe¦§Ø©Ŗ«¬\u00ad®Æ°±²³´µ¶·ø¹ŗ»¼½¾æĄĮĀĆÄÅĘĒČÉŹĖĢĶĪĻŠŃŅÓŌÕÖ×ŲŁŚŪÜŻŽßąįāćäåęēčé",
     "źėģķīļšńņóōõö÷ųłśūüżž˙"]),
   ("cp1258",
    String.join
    ["€\ufffe‚ƒ„…†‡ˆ‰\ufffe‹Œ\ufffe\ufffe\ufffe\ufffe‘’“”•–—˜™\ufffe›œ\ufffe\ufffeŸ\u00a0¡¢£¤¥",
     "¦§¨©ª«¬\u00ad®¯°±²³´µ¶·¸¹º»¼½¾¿ÀÁÂĂÄÅÆÇÈÉÊË\u0300ÍÎÏĐÑ\u0309ÓÔƠÖ×ØÙÚÛÜƯ\u0303ßàáâăäåæçèé",
     "êë\u0301íîïđñ\u0323óôơö÷øùúûüư₫ÿ"]),
   ("cp273",
    String.join
    ["\x00\x01\x02\x03\u009c\x09\u0086\x7f\u0097\u008d\u008e\x0b\x0c\x0d\x0e\x0f\x10\x11\x12",
     "\x13\u009d\u0085\x08\u0087\x18\x19\u0092\u008f\x1c\x1d\x1e\x1f\u0080\u0081\u0082\u0083",
     "\u0084\x0a\x17\x1b\u0088\u0089\u008a\u008b\u008c\x05\x06\x07\u0090\u0091\x16\u0093\u0094",
     "\u0095\u0096\x04\u0098\u0099\u009a\u009b\x14\x15\u009e\x1a \u00a0â\x7bàáãåçñÄ.<(+!&éêëèí",
     "îïì~Ü$*);^-/Â[ÀÁÃÅÇÑö,%_>?øÉÊËÈÍÎÏÌ`:#§'=\"Øabcdefghi«»ðýþ±°jklmnopqrªºæ¸Æ¤µßstuvwxyz¡¿Ð",
     "ÝÞ®¢£¥·©@¶¼½¾¬|‾¨´×äABCDEFGHI\u00adô¦òóõüJKLMNOPQR¹û\x7dùúÿÖ÷STUVWXYZ²Ô\\ÒÓÕ0123456789³Û",
     "]ÙÚ\u009f"]),
   ("cp424",
    String.join
    ["\x00\x01\x02\x03\u009c\x09\u0086\x7f\u0097\u008d\u008e\x0b\x0c\x0d\x0e\x0f\x10\x11\x12",
     "\x13\u009d\u0085\x08\u0087\x18\x19\u0092\u008f\x1c\x1d\x1e\x1f\u0080\u0081\u0082\u0083",
     "\u0084\x0a\x17\x1b\u0088\u0089\u008a\u008b\u008c\x05\x06\x07\u0090\u0091\x16\u0093\u0094",
     "\u0095\u0096\x04\u0098\u0099\u009a\u009b\x14\x15\u009e\x1a \u05d0\u05d1\u05d2\u05d3",
     "\u05d4\u05d5\u05d6\u05d7\u05d8¢.<(+|&\u05d9\u05da\u05db\u05dc\u05dd\u05de\u05df\u05e0",
     "\u05e1!$*);¬-/\u05e2\u05e3\u05e4\u05e5\u05e6\u05e7\u05e8\u05e9¦,%_>?\ufffe\u05ea\ufffe",
     "\ufffe\u00a0\ufffe\ufffe\ufffe‗`:#@'=\"\ufffeabcdefghi«»\ufffe\ufffe\ufffe±°jklmnopqr",
     "\ufffe\ufffe\ufffe¸\ufffe¤µ~stuvwxyz\ufffe\ufffe\ufffe\ufffe\ufffe®^£¥·©§¶¼½¾[]¯¨´×\x7bA",
     "BCDEFGHI\u00ad\ufffe\ufffe\ufffe\ufffe\ufffe\x7dJKLMNOPQR¹\ufffe\ufffe\ufffe\ufffe\ufffe",
     "\\÷STUVWXYZ²\ufffe\ufffe\ufffe\ufffe\ufffe0123456789³\ufffe\ufffe\ufffe\ufffe\u009f"]),
   ("cp437",
    String.join
    ["ÇüéâäàåçêëèïîìÄÅÉæÆôöòûùÿÖÜ¢£¥₧ƒáíóúñÑªº¿⌐¬½¼¡«»░▒▓│┤╡╢╖╕╣║╗╝╜╛┐└┴┬├─┼╞╟╚╔╩╦╠═╬╧╨╤╥╙╘╒╓╫",
     "╪┘┌█▄▌▐▀αßΓπΣσµτΦΘΩδ∞φε∩≡±≥≤⌠⌡÷≈°∙·√ⁿ²■\u00a0"]),
   ("cp500",
    String.join
    ["\x00\x01\x02\x03\u009c\x09\u0086\x7f\u0097\u008d\u008e\x0b\x0c\x0d\x0e\x0f\x10\x11\x12",
     "\x13\u009d\u0085\x08\u0087\x18\x19\u0092\u008f\x1c\x1d\x1e\x1f\u0080\u0081\u0082\u0083",
     "\u0084\x0a\x17\x1b\u0088\u0089\u008a\u008b\u008c\x05\x06\x07\u0090\u0091\x16\u0093\u0094",
     "\u0095\u0096\x04\u0098\u0099\u009a\u009b\x14\x15\u009e\x1a \u00a0âäàáãåçñ[.<(+!&éêëèíîïì",
     "ß]$*);^-/ÂÄÀÁÃÅÇÑ¦,%_>?øÉÊËÈÍÎÏÌ`:#@'=\"Øabcdefghi«»ðýþ±°jklmnopqrªºæ¸Æ¤µ~stuvwxyz¡¿ÐÝÞ®",
     "¢£¥·©§¶¼½¾¬|¯¨´×\x7bABCDEFGHI\u00adôöòóõ\x7dJKLMNOPQR¹ûüùúÿ\\÷STUVWXYZ²ÔÖÒÓÕ0123456789³Û",
     "ÜÙÚ\u009f"]),
   ("cp720",
    String.join
    ["\u0080\u0081éâ\u0084à\u0086çêëèïî\u008d\u008e\u008f\u0090\u0651\u0652ô¤\u0640ûù\u0621",
     "\u0622\u0623\u0624£\u0625\u0626\u0627\u0628\u0629\u062a\u062b\u062c\u062d\u062e\u062f",
     "\u0630\u0631\u0632\u0633\u0634\u0635«»░▒▓│┤╡╢╖╕╣║╗╝╜╛┐└┴┬├─┼╞╟╚╔╩╦╠═╬╧╨╤╥╙╘╒╓╫╪┘┌█▄▌▐▀",
     "\u0636\u0637\u0638\u0639\u063a\u0641µ\u0642\u0643\u0644\u0645\u0646\u0647\u0648\u0649",
     "\u064a≡\u064b\u064c\u064d\u064e\u064f\u0650≈°∙·√ⁿ²■\u00a0"]),
   ("cp737",
    String.join
    ["ΑΒΓΔΕΖΗΘΙΚΛΜΝΞΟΠΡΣΤΥΦΧΨΩαβγδεζηθικλμνξοπρσςτυφχψ░▒▓│┤╡╢╖╕╣║╗╝╜╛┐└┴┬├─┼╞╟╚╔╩╦╠═╬╧╨╤╥╙╘╒╓╫",
     "╪┘┌█▄▌▐▀ωάέήϊίόύϋώΆΈΉΊΌΎΏ±≥≤ΪΫ÷≈°∙·√ⁿ²■\u00a0"]),
   ("cp775",
    String.join
    ["ĆüéāäģåćłēŖŗīŹÄÅÉæÆōöĢ¢ŚśÖÜø£Ø×¤ĀĪóŻżź”¦©®¬½¼Ł«»░▒▓│┤ĄČĘĖ╣║╗╝ĮŠ┐└┴┬├─┼ŲŪ╚╔╩╦╠═╬Žąčęėįšųū",
     "ž┘┌█▄▌▐▀ÓßŌŃõÕµńĶķĻļņĒŅ’\u00ad±“¾¶§÷„°∙·¹³²■\u00a0"]),
   ("cp850",
    String.join
    ["ÇüéâäàåçêëèïîìÄÅÉæÆôöòûùÿÖÜø£Ø×ƒáíóúñÑªº¿®¬½¼¡«»░▒▓│┤ÁÂÀ©╣║╗╝¢¥┐└┴┬├─┼ãÃ╚╔╩╦╠═╬¤ðÐÊËÈıÍÎ",
     "Ï┘┌█▄¦Ì▀ÓßÔÒõÕµþÞÚÛÙýÝ¯´\u00ad±‗¾¶§÷¸°¨·¹³²■\u00a0"]),
   ("cp852",
    String.join
    ["ÇüéâäůćçłëŐőîŹÄĆÉĹĺôöĽľŚśÖÜŤťŁ×čáíóúĄąŽžĘę¬źČş«»░▒▓│┤ÁÂĚŞ╣║╗╝Żż┐└┴┬├─┼Ăă╚╔╩╦╠═╬¤đĐĎËďŇÍÎ",
     "ě┘┌█▄ŢŮ▀ÓßÔŃńňŠšŔÚŕŰýÝţ´\u00ad˝˛ˇ˘§÷¸°¨˙űŘř■\u00a0"]),
   ("cp855",
    String.join
    ["ђЂѓЃёЁєЄѕЅіІїЇјЈљЉњЊћЋќЌўЎџЏюЮъЪаАбБцЦдДеЕфФгГ«»░▒▓│┤хХиИ╣║╗╝йЙ┐└┴┬├─┼кК╚╔╩╦╠═╬¤лЛмМнНоО",
     "п┘┌█▄Пя▀ЯрРсСтТуУжЖвВьЬ№\u00adыЫзЗшШэЭщЩчЧ§■\u00a0"]),
   ("cp856",
    String.join
    ["\u05d0\u05d1\u05d2\u05d3\u05d4\u05d5\u05d6\u05d7\u05d8\u05d9\u05da\u05db\u05dc\u05dd",
     "\u05de\u05df\u05e0\u05e1\u05e2\u05e3\u05e4\u05e5\u05e6\u05e7\u05e8\u05e9\u05ea\ufffe£",
     "\ufffe×\ufffe\ufffe\ufffe\ufffe\ufffe\ufffe\ufffe\ufffe\ufffe\ufffe®¬½¼\ufffe«»░▒▓│┤",
     "\ufffe\ufffe\ufffe©╣║╗╝¢¥┐└┴┬├─┼\ufffe\ufffe╚╔╩╦╠═╬¤\ufffe\ufffe\ufffe\ufffe\ufffe\ufffe",
     "\ufffe\ufffe\ufffe┘┌█▄¦\ufffe▀\ufffe\ufffe\ufffe\ufffe\ufffe\ufffeµ\ufffe\ufffe\ufffe",
     "\ufffe\ufffe\ufffe\ufffe¯´\u00ad±‗¾¶§÷¸°¨·¹³²■\u00a0"]),
   ("cp857",
    String.join
    ["ÇüéâäàåçêëèïîıÄÅÉæÆôöòûùİÖÜø£ØŞşáíóúñÑĞğ¿®¬½¼¡«»░▒▓│┤ÁÂÀ©╣║╗╝¢¥┐└┴┬├─┼ãÃ╚╔╩╦╠═╬¤ºªÊËÈ",
     "\ufffeÍÎÏ┘┌█▄¦Ì▀ÓßÔÒõÕµ\ufffe×ÚÛÙìÿ¯´\u00ad±\ufffe¾¶§÷¸°¨·¹³²■\u00a0"]),
   ("cp858",
    String.join
    ["ÇüéâäàåçêëèïîìÄÅÉæÆôöòûùÿÖÜø£Ø×ƒáíóúñÑªº¿®¬½¼¡«»░▒▓│┤ÁÂÀ©╣║╗╝¢¥┐└┴┬├─┼ãÃ╚╔╩╦╠═╬¤ðÐÊËÈ€ÍÎ",
     "Ï┘┌█▄¦Ì▀ÓßÔÒõÕµþÞÚÛÙýÝ¯´\u00ad±‗¾¶§÷¸°¨·¹³²■\u00a0"]),
   ("cp860",
    String.join
    ["ÇüéâãàÁçêÊèÍÔìÃÂÉÀÈôõòÚùÌÕÜ¢£Ù₧ÓáíóúñÑªº¿Ò¬½¼¡«»░▒▓│┤╡╢╖╕╣║╗╝╜╛┐└┴┬├─┼╞╟╚╔╩╦╠═╬╧╨╤╥╙╘╒╓╫",
     "╪┘┌█▄▌▐▀αßΓπΣσµτΦΘΩδ∞φε∩≡±≥≤⌠⌡÷≈°∙·√ⁿ²■\u00a0"]),
   ("cp861",
    String.join
    ["ÇüéâäàåçêëèÐðÞÄÅÉæÆôöþûÝýÖÜø£Ø₧ƒáíóúÁÍÓÚ¿⌐¬½¼¡«»░▒▓│┤╡╢╖╕╣║╗╝╜╛┐└┴┬├─┼╞╟╚╔╩╦╠═╬╧╨╤╥╙╘╒╓╫",
     "╪┘┌█▄▌▐▀αßΓπΣσµτΦΘΩδ∞φε∩≡±≥≤⌠⌡÷≈°∙·√ⁿ²■\u00a0"]),
   ("cp862",
    String.join
    ["\u05d0\u05d1\u05d2\u05d3\u05d4\u05d5\u05d6\u05d7\u05d8\u05d9\u05da\u05db\u05dc\u05dd",
     "\u05de\u05df\u05e0\u05e1\u05e2\u05e3\u05e4\u05e5\u05e6\u05e7\u05e8\u05e9\u05ea¢£¥₧ƒáíóúñ",
     "Ñªº¿⌐¬½¼¡«»░▒▓│┤╡╢╖╕╣║╗╝╜╛┐└┴┬├─┼╞╟╚╔╩╦╠═╬╧╨╤╥╙╘╒╓╫╪┘┌█▄▌▐▀αßΓπΣσµτΦΘΩδ∞φε∩≡±≥≤⌠⌡÷≈°∙·√ⁿ",
     "²■\u00a0"]),
   ("cp863",
    String.join
    ["ÇüéâÂà¶çêëèïî‗À§ÉÈÊôËÏûù¤ÔÜ¢£ÙÛƒ¦´óú¨¸³¯Î⌐¬½¼¾«»░▒▓│┤╡╢╖╕╣║╗╝╜╛┐└┴┬├─┼╞╟╚╔╩╦╠═╬╧╨╤╥╙╘╒╓╫",
     "╪┘┌█▄▌▐▀αßΓπΣσµτΦΘΩδ∞φε∩≡±≥≤⌠⌡÷≈°∙·√ⁿ²■\u00a0"]),
   ("cp864",
    String.join
    ["\x00\x01\x02\x03\x04\x05\x06\x07\x08\x09\x0a\x0b\x0c\x0d\x0e\x0f\x10\x11\x12\x13\x14\x15",
     "\x16\x17\x18\x19\x1a\x1b\x1c\x1d\x1e\x1f !\"#$٪&'()*+,-./0123456789:;<=>?@ABCDEFGHIJKLMN",
     "OPQRSTUVWXYZ[\\]^_`abcdefghijklmnopqrstuvwxyz\x7b|\x7d~\x7f°·∙√▒─│┼┤┬├┴┐┌└┘β∞φ±½¼≈«»",
     "\ufef7\ufef8\ufffe\ufffe\ufefb\ufefc\ufffe\u00a0\u00ad\ufe82£¤\ufe84\ufffe\ufffe\ufe8e",
     "\ufe8f\ufe95\ufe99،\ufe9d\ufea1\ufea5\u0660\u0661\u0662\u0663\u0664\u0665\u0666\u0667",
     "\u0668\u0669\ufed1\u061b\ufeb1\ufeb5\ufeb9\u061f¢\ufe80\ufe81\ufe83\ufe85\ufeca\ufe8b",
     "\ufe8d\ufe91\ufe93\ufe97\ufe9b\ufe9f\ufea3\ufea7\ufea9\ufeab\ufead\ufeaf\ufeb3\ufeb7",
     "\ufebb\ufebf\ufec1\ufec5\ufecb\ufecf¦¬÷×\ufec9\u0640\ufed3\ufed7\ufedb\ufedf\ufee3\ufee7",
     "\ufeeb\ufeed\ufeef\ufef3\ufebd\ufecc\ufece\ufecd\ufee1\ufe7d\u0651\ufee5\ufee9\ufeec",
     "\ufef0\ufef2\ufed0\ufed5\ufef5\ufef6\ufedd\ufed9\ufef1■\ufffe"]),
   ("cp865",
    String.join
    ["ÇüéâäàåçêëèïîìÄÅÉæÆôöòûùÿÖÜø£Ø₧ƒáíóúñÑªº¿⌐¬½¼¡«¤░▒▓│┤╡╢╖╕╣║╗╝╜╛┐└┴┬├─┼╞╟╚╔╩╦╠═╬╧╨╤╥╙╘╒╓╫",
     "╪┘┌█▄▌▐▀αßΓπΣσµτΦΘΩδ∞φε∩≡±≥≤⌠⌡÷≈°∙·√ⁿ²■\u00a0"]),
   ("cp866",
    String.join
    ["АБВГДЕЖЗИЙКЛМНОПРСТУФХЦЧШЩЪЫЬЭЮЯабвгдежзийклмноп░▒▓│┤╡╢╖╕╣║╗╝╜╛┐└┴┬├─┼╞╟╚╔╩╦╠═╬╧╨╤╥╙╘╒╓╫",
     "╪┘┌█▄▌▐▀рстуфхцчшщъыьэюяЁёЄєЇїЎў°∙·√№¤■\u00a0"]),
   ("cp869",
    String.join
    ["\ufffe\ufffe\ufffe\ufffe\ufffe\ufffeΆ\ufffe·¬¦‘’Έ―ΉΊΪΌ\ufffe\ufffeΎΫ©Ώ²³ά£έήίϊΐόύΑΒΓΔΕΖΗ",
     "½ΘΙ«»░▒▓│┤ΚΛΜΝ╣║╗╝ΞΟ┐└┴┬├─┼ΠΡ╚╔╩╦╠═╬ΣΤΥΦΧΨΩαβγ┘┌█▄δε▀ζηθικλμνξοπρσςτ΄\u00ad±υφχ§ψ΅°¨ωϋΰώ",
     "■\u00a0"]),
   ("cp874",
    String.join
    ["€\ufffe\ufffe\ufffe\ufffe…\ufffe\ufffe\ufffe\ufffe\ufffe\ufffe\ufffe\ufffe\ufffe\ufffe",
     "\ufffe‘’“”•–—\ufffe\ufffe\ufffe\ufffe\ufffe\ufffe\ufffe\ufffe\u00a0กขฃคฅฆงจฉชซฌญฎฏฐฑฒณดต",
     "ถทธนบปผฝพฟภมยรฤลฦวศษสหฬอฮฯะ\u0e31าำ\u0e34\u0e35\u0e36\u0e37\u0e38\u0e39\u0e3a\ufffe",
     "\ufffe\ufffe\ufffe฿เแโใไๅๆ\u0e47\u0e48\u0e49\u0e4a\u0e4b\u0e4c\u0e4d\u0e4e๏๐๑๒๓๔๕๖๗๘๙๚๛",
     "\ufffe\ufffe\ufffe\ufffe"]),
   ("cp875",
    String.join
    ["\x00\x01\x02\x03\u009c\x09\u0086\x7f\u0097\u008d\u008e\x0b\x0c\x0d\x0e\x0f\x10\x11\x12",
     "\x13\u009d\u0085\x08\u0087\x18\x19\u0092\u008f\x1c\x1d\x1e\x1f\u0080\u0081\u0082\u0083",
     "\u0084\x0a\x17\x1b\u0088\u0089\u008a\u008b\u008c\x05\x06\x07\u0090\u0091\x16\u0093\u0094",
     "\u0095\u0096\x04\u0098\u0099\u009a\u009b\x14\x15\u009e\x1a ΑΒΓΔΕΖΗΘΙ[.<(+!&ΚΛΜΝΞΟΠΡΣ]$*)",
     ";^-/ΤΥΦΧΨΩΪΫ|,%_>?¨ΆΈΉ\u00a0ΊΌΎΏ`:#@'=\"΅abcdefghiαβγδεζ°jklmnopqrηθικλμ´~stuvwxyzνξοπρσ",
     "£άέήϊίόύϋώςτυφχψ\x7bABCDEFGHI\u00adωΐΰ‘―\x7dJKLMNOPQR±½\x1a·’¦\\\x1aSTUVWXYZ²§\x1a\x1a«¬",
     "0123456789³©\x1a\x1a»\u009f"]),
   ("hp_roman8",
    String.join
    ["\u0080\u0081\u0082\u0083\u0084\u0085\u0086\u0087\u0088\u0089\u008a\u008b\u008c\u008d",
     "\u008e\u008f\u0090\u0091\u0092\u0093\u0094\u0095\u0096\u0097\u0098\u0099\u009a\u009b",
     "\u009c\u009d\u009e\u009f\u00a0ÀÂÈÊËÎÏ´ˋˆ¨˜ÙÛ₤¯Ýý°ÇçÑñ¡¿¤£¥§ƒ¢âêôûáéóúàèòùäëöüÅîØÆåíøæÄìÖ",
     "ÜÉïßÔÁÃãÐðÍÌÓÒÕõŠšÚŸÿÞþ·µ¶¾—¼½ªº«■»±\ufffe"]),
   ("iso8859_1",
    String.join
    ["\u0080\u0081\u0082\u0083\u0084\u0085\u0086\u0087\u0088\u0089\u008a\u008b\u008c\u008d",
     "\u008e\u008f\u0090\u0091\u0092\u0093\u0094\u0095\u0096\u0097\u0098\u0099\u009a\u009b",
     "\u009c\u009d\u009e\u009f\u00a0¡¢£¤¥¦§¨©ª«¬\u00ad®¯°±²³´µ¶·¸¹º»¼½¾¿ÀÁÂÃÄÅÆÇÈÉÊËÌÍÎÏÐÑÒÓÔÕ",
     "Ö×ØÙÚÛÜÝÞßàáâãäåæçèéêëìíîïðñòóôõö÷øùúûüýþÿ"]),
   ("iso8859_10",
    String.join
    ["\u0080\u0081\u0082\u0083\u0084\u0085\u0086\u0087\u0088\u0089\u008a\u008b\u008c\u008d",
     "\u008e\u008f\u0090\u0091\u0092\u0093\u0094\u0095\u0096\u0097\u0098\u0099\u009a\u009b",
     "\u009c\u009d\u009e\u009f\u00a0ĄĒĢĪĨĶ§ĻĐŠŦŽ\u00adŪŊ°ąēģīĩķ·ļđšŧž―ūŋĀÁÂÃÄÅÆĮČÉĘËĖÍÎÏÐŅŌÓÔÕ",
     "ÖŨØŲÚÛÜÝÞßāáâãäåæįčéęëėíîïðņōóôõöũøųúûüýþĸ"]),
   ("iso8859_11",
    String.join
    ["\u0080\u0081\u0082\u0083\u0084\u0085\u0086\u0087\u0088\u0089\u008a\u008b\u008c\u008d",
     "\u008e\u008f\u0090\u0091\u0092\u0093\u0094\u0095\u0096\u0097\u0098\u0099\u009a\u009b",
     "\u009c\u009d\u009e\u009f\u00a0กขฃคฅฆงจฉชซฌญฎฏฐฑฒณดตถทธนบปผฝพฟภมยรฤลฦวศษสหฬอฮฯะ\u0e31าำ",
     "\u0e34\u0e35\u0e36\u0e37\u0e38\u0e39\u0e3a\ufffe\ufffe\ufffe\ufffe฿เแโใไๅๆ\u0e47\u0e48",
     "\u0e49\u0e4a\u0e4b\u0e4c\u0e4d\u0e4e๏๐๑๒๓๔๕๖๗๘๙๚๛\ufffe\ufffe\ufffe\ufffe"]),
   ("iso8859_13",
    String.join
    ["\u0080\u0081\u0082\u0083\u0084\u0085\u0086\u0087\u0088\u0089\u008a\u008b\u008c\u008d",
     "\u008e\u008f\u0090\u0091\u0092\u0093\u0094\u0095\u0096\u0097\u0098\u0099\u009a\u009b",
     "\u009c\u009d\u009e\u009f\u00a0”¢£¤„¦§Ø©Ŗ«¬\u00ad®Æ°±²³“µ¶·ø¹ŗ»¼½¾æĄĮĀĆÄÅĘĒČÉŹĖĢĶĪĻŠŃŅÓŌÕ",
     "Ö×ŲŁŚŪÜŻŽßąįāćäåęēčéźėģķīļšńņóōõö÷ųłśūüżž’"]),
   ("iso8859_14",
    String.join
    ["\u0080\u0081\u0082\u0083\u0084\u0085\u0086\u0087\u0088\u0089\u008a\u008b\u008c\u008d",
     "\u008e\u008f\u0090\u0091\u0092\u0093\u0094\u0095\u0096\u0097\u0098\u0099\u009a\u009b",
     "\u009c\u009d\u009e\u009f\u00a0Ḃḃ£ĊċḊ§Ẁ©ẂḋỲ\u00ad®ŸḞḟĠġṀṁ¶ṖẁṗẃṠỳẄẅṡÀÁÂÃÄÅÆÇÈÉÊËÌÍÎÏŴÑÒÓÔÕ",
     "ÖṪØÙÚÛÜÝŶßàáâãäåæçèéêëìíîïŵñòóôõöṫøùúûüýŷÿ"]),
   ("iso8859_15",
    String.join
    ["\u0080\u0081\u0082\u0083\u0084\u0085\u0086\u0087\u0088\u0089\u008a\u008b\u008c\u008d",
     "\u008e\u008f\u0090\u0091\u0092\u0093\u0094\u0095\u0096\u0097\u0098\u0099\u009a\u009b",
     "\u009c\u009d\u009e\u009f\u00a0¡¢£€¥Š§š©ª«¬\u00ad®¯°±²³Žµ¶·ž¹º»ŒœŸ¿ÀÁÂÃÄÅÆÇÈÉÊËÌÍÎÏÐÑÒÓÔÕ",
     "Ö×ØÙÚÛÜÝÞßàáâãäåæçèéêëìíîïðñòóôõö÷øùúûüýþÿ"]),
   ("iso8859_16",
    String.join
    ["\u0080\u0081\u0082\u0083\u0084\u0085\u0086\u0087\u0088\u0089\u008a\u008b\u008c\u008d",
     "\u008e\u008f\u0090\u0091\u0092\u0093\u0094\u0095\u0096\u0097\u0098\u0099\u009a\u009b",
     "\u009c\u009d\u009e\u009f\u00a0ĄąŁ€„Š§š©Ș«Ź\u00adźŻ°±ČłŽ”¶·žčș»ŒœŸżÀÁÂĂÄĆÆÇÈÉÊËÌÍÎÏĐŃÒÓÔŐ",
     "ÖŚŰÙÚÛÜĘȚßàáâăäćæçèéêëìíîïđńòóôőöśűùúûüęțÿ"]),
   ("iso8859_2",
    String.join
    ["\u0080\u0081\u0082\u0083\u0084\u0085\u0086\u0087\u0088\u0089\u008a\u008b\u008c\u008d",
     "\u008e\u008f\u0090\u0091\u0092\u0093\u0094\u0095\u0096\u0097\u0098\u0099\u009a\u009b",
     "\u009c\u009d\u009e\u009f\u00a0Ą˘Ł¤ĽŚ§¨ŠŞŤŹ\u00adŽŻ°ą˛ł´ľśˇ¸šşťź˝žżŔÁÂĂÄĹĆÇČÉĘËĚÍÎĎĐŃŇÓÔŐ",
     "Ö×ŘŮÚŰÜÝŢßŕáâăäĺćçčéęëěíîďđńňóôőö÷řůúűüýţ˙"]),
   ("iso8859_3",
    String.join
    ["\u0080\u0081\u0082\u0083\u0084\u0085\u0086\u0087\u0088\u0089\u008a\u008b\u008c\u008d",
     "\u008e\u008f\u0090\u0091\u0092\u0093\u0094\u0095\u0096\u0097\u0098\u0099\u009a\u009b",
     "\u009c\u009d\u009e\u009f\u00a0Ħ˘£¤\ufffeĤ§¨İŞĞĴ\u00ad\ufffeŻ°ħ²³´µĥ·¸ışğĵ½\ufffeżÀÁÂ",
     "\ufffeÄĊĈÇÈÉÊËÌÍÎÏ\ufffeÑÒÓÔĠÖ×ĜÙÚÛÜŬŜßàáâ\ufffeäċĉçèéêëìíîï\ufffeñòóôġö÷ĝùúûüŭŝ˙"]),
   ("iso8859_4",
    String.join
    ["\u0080\u0081\u0082\u0083\u0084\u0085\u0086\u0087\u0088\u0089\u008a\u008b\u008c\u008d",
     "\u008e\u008f\u0090\u0091\u0092\u0093\u0094\u0095\u0096\u0097\u0098\u0099\u009a\u009b",
     "\u009c\u009d\u009e\u009f\u00a0ĄĸŖ¤ĨĻ§¨ŠĒĢŦ\u00adŽ¯°ą˛ŗ´ĩļˇ¸šēģŧŊžŋĀÁÂÃÄÅÆĮČÉĘËĖÍÎĪĐŅŌĶÔÕ",
     "Ö×ØŲÚÛÜŨŪßāáâãäåæįčéęëėíîīđņōķôõö÷øųúûüũū˙"]),
   ("iso8859_5",
    String.join
    ["\u0080\u0081\u0082\u0083\u0084\u0085\u0086\u0087\u0088\u0089\u008a\u008b\u008c\u008d",
     "\u008e\u008f\u0090\u0091\u0092\u0093\u0094\u0095\u0096\u0097\u0098\u0099\u009a\u009b",
     "\u009c\u009d\u009e\u009f\u00a0ЁЂЃЄЅІЇЈЉЊЋЌ\u00adЎЏАБВГДЕЖЗИЙКЛМНОПРСТУФХЦЧШЩЪЫЬЭЮЯабвгде",
     "жзийклмнопрстуфхцчшщъыьэюя№ёђѓєѕіїјљњћќ§ўџ"]),
   ("iso8859_6",
    String.join
    ["\u0080\u0081\u0082\u0083\u0084\u0085\u0086\u0087\u0088\u0089\u008a\u008b\u008c\u008d",
     "\u008e\u008f\u0090\u0091\u0092\u0093\u0094\u0095\u0096\u0097\u0098\u0099\u009a\u009b",
     "\u009c\u009d\u009e\u009f\u00a0\ufffe\ufffe\ufffe¤\ufffe\ufffe\ufffe\ufffe\ufffe\ufffe",
     "\ufffe،\u00ad\ufffe\ufffe\ufffe\ufffe\ufffe\ufffe\ufffe\ufffe\ufffe\ufffe\ufffe\ufffe",
     "\ufffe\u061b\ufffe\ufffe\ufffe\u061f\ufffe\u0621\u0622\u0623\u0624\u0625\u0626\u0627",
     "\u0628\u0629\u062a\u062b\u062c\u062d\u062e\u062f\u0630\u0631\u0632\u0633\u0634\u0635",
     "\u0636\u0637\u0638\u0639\u063a\ufffe\ufffe\ufffe\ufffe\ufffe\u0640\u0641\u0642\u0643",
     "\u0644\u0645\u0646\u0647\u0648\u0649\u064a\u064b\u064c\u064d\u064e\u064f\u0650\u0651",
     "\u0652\ufffe\ufffe\ufffe\ufffe\ufffe\ufffe\ufffe\ufffe\ufffe\ufffe\ufffe\ufffe\ufffe"]),
   ("iso8859_7",
    String.join
    ["\u0080\u0081\u0082\u0083\u0084\u0085\u0086\u0087\u0088\u0089\u008a\u008b\u008c\u008d",
     "\u008e\u008f\u0090\u0091\u0092\u0093\u0094\u0095\u0096\u0097\u0098\u0099\u009a\u009b",
     "\u009c\u009d\u009e\u009f\u00a0‘’£€₯¦§¨©ͺ«¬\u00ad\ufffe―°±²³΄΅Ά·ΈΉΊ»Ό½ΎΏΐΑΒΓΔΕΖΗΘΙΚΛΜΝΞΟΠ",
     "Ρ\ufffeΣΤΥΦΧΨΩΪΫάέήίΰαβγδεζηθικλμνξοπρςστυφχψωϊϋόύώ\ufffe"]),
   ("iso8859_8",
    String.join
    ["\u0080\u0081\u0082\u0083\u0084\u0085\u0086\u0087\u0088\u0089\u008a\u008b\u008c\u008d",
     "\u008e\u008f\u0090\u0091\u0092\u0093\u0094\u0095\u0096\u0097\u0098\u0099\u009a\u009b",
     "\u009c\u009d\u009e\u009f\u00a0\ufffe¢£¤¥¦§¨©×«¬\u00ad®¯°±²³´µ¶·¸¹÷»¼½¾\ufffe\ufffe\ufffe",
     "\ufffe\ufffe\ufffe\ufffe\ufffe\ufffe\ufffe\ufffe\ufffe\ufffe\ufffe\ufffe\ufffe\ufffe",
     "\ufffe\ufffe\ufffe\ufffe\ufffe\ufffe\ufffe\ufffe\ufffe\ufffe\ufffe\ufffe\ufffe\ufffe",
     "\ufffe‗\u05d0\u05d1\u05d2\u05d3\u05d4\u05d5\u05d6\u05d7\u05d8\u05d9\u05da\u05db\u05dc",
     "\u05dd\u05de\u05df\u05e0\u05e1\u05e2\u05e3\u05e4\u05e5\u05e6\u05e7\u05e8\u05e9\u05ea",
     "\ufffe\ufffe\u200e\u200f\ufffe"]),
   ("iso8859_9",
    String.join
    ["\u0080\u0081\u0082\u0083\u0084\u0085\u0086\u0087\u0088\u0089\u008a\u008b\u008c\u008d",
     "\u008e\u008f\u0090\u0091\u0092\u0093\u0094\u0095\u0096\u0097\u0098\u0099\u009a\u009b",
     "\u009c\u009d\u009e\u009f\u00a0¡¢£¤¥¦§¨©ª«¬\u00ad®¯°±²³´µ¶·¸¹º»¼½¾¿ÀÁÂÃÄÅÆÇÈÉÊËÌÍÎÏĞÑÒÓÔÕ",
     "Ö×ØÙÚÛÜİŞßàáâãäåæçèéêëìíîïğñòóôõö÷øùúûüışÿ"]),
   ("koi8_r",
    String.join
    ["─│┌┐└┘├┤┬┴┼▀▄█▌▐░▒▓⌠■∙√≈≤≥\u00a0⌡°²·÷═║╒ё╓╔╕╖╗╘╙╚╛╜╝╞╟╠╡Ё╢╣╤╥╦╧╨╩╪╫╬©юабцдефгхийклмнопяр",
     "стужвьызшэщчъЮАБЦДЕФГХИЙКЛМНОПЯРСТУЖВЬЫЗШЭЩЧЪ"]),
   ("koi8_t",
    String.join
    ["қғ‚Ғ„…†‡\ufffe‰ҳ‹ҲҷҶ\ufffeҚ‘’“”•–—\ufffe™\ufffe›\ufffe\ufffe\ufffe\ufffe\ufffeӯӮё¤ӣ¦§",
     "\ufffe\ufffe\ufffe«¬\u00ad®\ufffe°±²Ё\ufffeӢ¶·\ufffe№\ufffe»\ufffe\ufffe\ufffe©юабцдефгх",
     "ийклмнопярстужвьызшэщчъЮАБЦДЕФГХИЙКЛМНОПЯРСТУЖВЬЫЗШЭЩЧЪ"]),
   ("koi8_u",
    String.join
    ["─│┌┐└┘├┤┬┴┼▀▄█▌▐░▒▓⌠■∙√≈≤≥\u00a0⌡°²·÷═║╒ёє╔ії╗╘╙╚╛ґ╝╞╟╠╡ЁЄ╣ІЇ╦╧╨╩╪Ґ╬©юабцдефгхийклмнопяр",
     "стужвьызшэщчъЮАБЦДЕФГХИЙКЛМНОПЯРСТУЖВЬЫЗШЭЩЧЪ"]),
   ("kz1048",
    String.join
    ["ЂЃ‚ѓ„…†‡€‰Љ‹ЊҚҺЏђ‘’“”•–—\ufffe™љ›њқһџ\u00a0ҰұӘ¤Ө¦§Ё©Ғ«¬\u00ad®Ү°±Ііөµ¶·ё№ғ»әҢңүАБВГДЕЖЗИ",
     "ЙКЛМНОПРСТУФХЦЧШЩЪЫЬЭЮЯабвгдежзийклмнопрстуфхцчшщъыьэюя"]),
   ("mac_arabic",
    String.join
    ["Ä\u00a0ÇÉÑÖÜáàâä\u06ba«çéèêëí…îïñó»ôö÷úùûü !\"#$٪&'()*+،-./\u0660\u0661\u0662\u0663",
     "\u0664\u0665\u0666\u0667\u0668\u0669:\u061b<=>\u061f❊\u0621\u0622\u0623\u0624\u0625",
     "\u0626\u0627\u0628\u0629\u062a\u062b\u062c\u062d\u062e\u062f\u0630\u0631\u0632\u0633",
     "\u0634\u0635\u0636\u0637\u0638\u0639\u063a[\\]^_\u0640\u0641\u0642\u0643\u0644\u0645",
     "\u0646\u0647\u0648\u0649\u064a\u064b\u064c\u064d\u064e\u064f\u0650\u0651\u0652\u067e",
     "\u0679\u0686\u06d5\u06a4\u06af\u0688\u0691\x7b|\x7d\u0698\u06d2"]),
   ("mac_croatian",
    String.join
    ["ÄÅÇÉÑÖÜáàâäãåçéèêëíìîïñóòôöõúùûü†°¢£§•¶ß®Š™´¨≠ŽØ∞±≤≥∆µ∂∑∏š∫ªºΩžø¿¡¬√ƒ≈Ć«Č…\u00a0ÀÃÕŒœĐ—“",
     "”‘’÷◊\uf8ff©⁄€‹›Æ»–·‚„‰ÂćÁčÈÍÎÏÌÓÔđÒÚÛÙıˆ˜¯πË˚¸Êæˇ"]),
   ("mac_cyrillic",
    String.join
    ["АБВГДЕЖЗИЙКЛМНОПРСТУФХЦЧШЩЪЫЬЭЮЯ†°Ґ£§•¶І®©™Ђђ≠Ѓѓ∞±≤≥іµґЈЄєЇїЉљЊњјЅ¬√ƒ≈∆«»…\u00a0ЋћЌќѕ–—“",
     "”‘’÷„ЎўЏџ№Ёёяабвгдежзийклмнопрстуфхцчшщъыьэю€"]),
   ("mac_farsi",
    String.join
    ["Ä\u00a0ÇÉÑÖÜáàâä\u06ba«çéèêëí…îïñó»ôö÷úùûü !\"#$٪&'()*+،-./۰۱۲۳۴۵۶۷۸۹:\u061b<=>\u061f❊",
     "\u0621\u0622\u0623\u0624\u0625\u0626\u0627\u0628\u0629\u062a\u062b\u062c\u062d\u062e",
     "\u062f\u0630\u0631\u0632\u0633\u0634\u0635\u0636\u0637\u0638\u0639\u063a[\\]^_\u0640",
     "\u0641\u0642\u0643\u0644\u0645\u0646\u0647\u0648\u0649\u064a\u064b\u064c\u064d\u064e",
     "\u064f\u0650\u0651\u0652\u067e\u0679\u0686\u06d5\u06a4\u06af\u0688\u0691\x7b|\x7d\u0698",
     "\u06d2"]),
   ("mac_greek",
    String.join
    ["Ä¹²É³ÖÜ΅àâä΄¨çéèêë£™îï•½‰ôö¦€ùûü†ΓΔΘΛΞΠß®©ΣΪ§≠°·Α±≤≥¥ΒΕΖΗΙΚΜΦΫΨΩάΝ¬ΟΡ≈Τ«»…\u00a0ΥΧΆΈœ–―“",
     "”‘’÷ΉΊΌΎέήίόΏύαβψδεφγηιξκλμνοπώρστθωςχυζϊϋΐΰ\u00ad"]),
   ("mac_iceland",
    String.join
    ["ÄÅÇÉÑÖÜáàâäãåçéèêëíìîïñóòôöõúùûüÝ°¢£§•¶ß®©™´¨≠ÆØ∞±≤≥¥µ∂∑∏π∫ªºΩæø¿¡¬√ƒ≈∆«»…\u00a0ÀÃÕŒœ–—“",
     "”‘’÷◊ÿŸ⁄€ÐðÞþý·‚„‰ÂÊÁËÈÍÎÏÌÓÔ\uf8ffÒÚÛÙıˆ˜¯˘˙˚¸˝˛ˇ"]),
   ("mac_latin2",
    String.join
    ["ÄĀāÉĄÖÜáąČäčĆćéŹźĎíďĒēĖóėôöõúĚěü†°Ę£§•¶ß®©™ę¨≠ģĮįĪ≤≥īĶ∂∑łĻļĽľĹĺŅņŃ¬√ńŇ∆«»…\u00a0ňŐÕőŌ–—“",
     "”‘’÷◊ōŔŕŘ‹›řŖŗŠ‚„šŚśÁŤťÍŽžŪÓÔūŮÚůŰűŲųÝýķŻŁżĢˇ"]),
   ("mac_roman",
    String.join
    ["ÄÅÇÉÑÖÜáàâäãåçéèêëíìîïñóòôöõúùûü†°¢£§•¶ß®©™´¨≠ÆØ∞±≤≥¥µ∂∑∏π∫ªºΩæø¿¡¬√ƒ≈∆«»…\u00a0ÀÃÕŒœ–—“",
     "”‘’÷◊ÿŸ⁄€‹›\ufb01\ufb02‡·‚„‰ÂÊÁËÈÍÎÏÌÓÔ\uf8ffÒÚÛÙıˆ˜¯˘˙˚¸˝˛ˇ"]),
   ("mac_romanian",
    String.join
    ["ÄÅÇÉÑÖÜáàâäãåçéèêëíìîïñóòôöõúùûü†°¢£§•¶ß®©™´¨≠ĂȘ∞±≤≥¥µ∂∑∏π∫ªºΩăș¿¡¬√ƒ≈∆«»…\u00a0ÀÃÕŒœ–—“",
     "”‘’÷◊ÿŸ⁄€‹›Țț‡·‚„‰ÂÊÁËÈÍÎÏÌÓÔ\uf8ffÒÚÛÙıˆ˜¯˘˙˚¸˝˛ˇ"]),
   ("mac_turkish",
    String.join
    ["ÄÅÇÉÑÖÜáàâäãåçéèêëíìîïñóòôöõúùûü†°¢£§•¶ß®©™´¨≠ÆØ∞±≤≥¥µ∂∑∏π∫ªºΩæø¿¡¬√ƒ≈∆«»…\u00a0ÀÃÕŒœ–—“",
     "”‘’÷◊ÿŸĞğİıŞş‡·‚„‰ÂÊÁËÈÍÎÏÌÓÔ\uf8ffÒÚÛÙ\uf8a0ˆ˜¯˘˙˚¸˝˛ˇ"]),
   ("palmos",
    String.join
    ["€\u0081‚ƒ„…†‡ˆ‰Š‹Œ♦♣♥♠‘’“”•–—˜™š\u009bœ\u009d\u009eŸ\u00a0¡¢£¤¥¦§¨©ª«¬\u00ad®¯°±²³´µ¶·¸¹",
     "º»¼½¾¿ÀÁÂÃÄÅÆÇÈÉÊËÌÍÎÏÐÑÒÓÔÕÖ×ØÙÚÛÜÝÞßàáâãäåæçèéêëìíîïðñòóôõö÷øùúûüýþÿ"]),
   ("ptcp154",
    String.join
    ["ҖҒӮғ„…ҶҮҲүҠӢҢҚҺҸҗ‘’“”•–—ҳҷҡӣңқһҹ\u00a0ЎўЈӨҘҰ§Ё©Ә«¬ӯ®Ҝ°ұІіҙө¶·ё№ә»јҪҫҝАБВГДЕЖЗИЙКЛМНОПРСТ",
     "УФХЦЧШЩЪЫЬЭЮЯабвгдежзийклмнопрстуфхцчшщъыьэюя"]),
   ("tis_620",
    String.join
    ["\u0080\u0081\u0082\u0083\u0084\u0085\u0086\u0087\u0088\u0089\u008a\u008b\u008c\u008d",
     "\u008e\u008f\u0090\u0091\u0092\u0093\u0094\u0095\u0096\u0097\u0098\u0099\u009a\u009b",
     "\u009c\u009d\u009e\u009f\ufffeกขฃคฅฆงจฉชซฌญฎฏฐฑฒณดตถทธนบปผฝพฟภมยรฤลฦวศษสหฬอฮฯะ\u0e31าำ",
     "\u0e34\u0e35\u0e36\u0e37\u0e38\u0e39\u0e3a\ufffe\ufffe\ufffe\ufffe฿เแโใไๅๆ\u0e47\u0e48",
     "\u0e49\u0e4a\u0e4b\u0e4c\u0e4d\u0e4e๏๐๑๒๓๔๕๖๗๘๙๚๛\ufffe\ufffe\ufffe\ufffe"])]

/-! ## §2. Names. -/

/-- Further names of encodings. -/
def encodingAliases : List (String × String) :=
  [("037", "cp037"), ("1026", "cp1026"), ("1125", "cp1125"), ("1140", "cp1140"),
   ("1250", "cp1250"), ("1251", "cp1251"), ("1252", "cp1252"), ("1253", "cp1253"),
   ("1254", "cp1254"), ("1255", "cp1255"), ("1256", "cp1256"), ("1257", "cp1257"),
   ("1258", "cp1258"), ("273", "cp273"), ("424", "cp424"), ("437", "cp437"), ("500", "cp500"),
   ("646", "ascii"), ("775", "cp775"), ("850", "cp850"), ("852", "cp852"), ("855", "cp855"),
   ("857", "cp857"), ("858", "cp858"), ("860", "cp860"), ("861", "cp861"), ("862", "cp862"),
   ("863", "cp863"), ("864", "cp864"), ("865", "cp865"), ("866", "cp866"), ("869", "cp869"),
   ("8859", "latin_1"), ("ansi_x3.4_1968", "ascii"), ("ansi_x3.4_1986", "ascii"),
   ("ansi_x3_4_1968", "ascii"), ("arabic", "iso8859_6"), ("asmo_708", "iso8859_6"),
   ("cp1051", "hp_roman8"), ("cp154", "ptcp154"), ("cp367", "ascii"), ("cp65001", "utf_8"),
   ("cp819", "latin_1"), ("cp866u", "cp1125"), ("cp_gr", "cp869"), ("cp_is", "cp861"),
   ("csHPRoman8", "hp_roman8"), ("csascii", "ascii"), ("csibm037", "cp037"),
   ("csibm1026", "cp1026"), ("csibm273", "cp273"), ("csibm424", "cp424"), ("csibm500", "cp500"),
   ("csibm855", "cp855"), ("csibm857", "cp857"), ("csibm858", "cp858"), ("csibm860", "cp860"),
   ("csibm861", "cp861"), ("csibm863", "cp863"), ("csibm864", "cp864"), ("csibm865", "cp865"),
   ("csibm866", "cp866"), ("csibm869", "cp869"), ("csisolatin1", "latin_1"),
   ("csisolatin2", "iso8859_2"), ("csisolatin3", "iso8859_3"), ("csisolatin4", "iso8859_4"),
   ("csisolatin5", "iso8859_9"), ("csisolatin6", "iso8859_10"),
   ("csisolatinarabic", "iso8859_6"), ("csisolatincyrillic", "iso8859_5"),
   ("csisolatingreek", "iso8859_7"), ("csisolatinhebrew", "iso8859_8"), ("cskoi8r", "koi8_r"),
   ("cspc775baltic", "cp775"), ("cspc850multilingual", "cp850"),
   ("cspc862latinhebrew", "cp862"), ("cspc8codepage437", "cp437"), ("cspcp852", "cp852"),
   ("csptcp154", "ptcp154"), ("cyrillic", "iso8859_5"), ("cyrillic_asian", "ptcp154"),
   ("ebcdic_cp_be", "cp500"), ("ebcdic_cp_ca", "cp037"), ("ebcdic_cp_ch", "cp500"),
   ("ebcdic_cp_he", "cp424"), ("ebcdic_cp_nl", "cp037"), ("ebcdic_cp_us", "cp037"),
   ("ebcdic_cp_wt", "cp037"), ("ecma_114", "iso8859_6"), ("ecma_118", "iso8859_7"),
   ("elot_928", "iso8859_7"), ("greek", "iso8859_7"), ("greek8", "iso8859_7"),
   ("hebrew", "iso8859_8"), ("ibm037", "cp037"), ("ibm039", "cp037"), ("ibm1026", "cp1026"),
   ("ibm1051", "hp_roman8"), ("ibm1125", "cp1125"), ("ibm1140", "cp1140"), ("ibm273", "cp273"),
   ("ibm367", "ascii"), ("ibm424", "cp424"), ("ibm437", "cp437"), ("ibm500", "cp500"),
   ("ibm775", "cp775"), ("ibm819", "latin_1"), ("ibm850", "cp850"), ("ibm852", "cp852"),
   ("ibm855", "cp855"), ("ibm857", "cp857"), ("ibm858", "cp858"), ("ibm860", "cp860"),
   ("ibm861", "cp861"), ("ibm862", "cp862"), ("ibm863", "cp863"), ("ibm864", "cp864"),
   ("ibm865", "cp865"), ("ibm866", "cp866"), ("ibm869", "cp869"), ("iso646_us", "ascii"),
   ("iso8859", "latin_1"), ("iso8859_1", "latin_1"), ("iso_646.irv_1991", "ascii"),
   ("iso_8859_1", "latin_1"), ("iso_8859_10", "iso8859_10"), ("iso_8859_10_1992", "iso8859_10"),
   ("iso_8859_11", "iso8859_11"), ("iso_8859_11_2001", "iso8859_11"),
   ("iso_8859_13", "iso8859_13"), ("iso_8859_14", "iso8859_14"),
   ("iso_8859_14_1998", "iso8859_14"), ("iso_8859_15", "iso8859_15"),
   ("iso_8859_16", "iso8859_16"), ("iso_8859_16_2001", "iso8859_16"),
   ("iso_8859_1_1987", "latin_1"), ("iso_8859_2", "iso8859_2"),
   ("iso_8859_2_1987", "iso8859_2"), ("iso_8859_3", "iso8859_3"),
   ("iso_8859_3_1988", "iso8859_3"), ("iso_8859_4", "iso8859_4"),
   ("iso_8859_4_1988", "iso8859_4"), ("iso_8859_5", "iso8859_5"),
   ("iso_8859_5_1988", "iso8859_5"), ("iso_8859_6", "iso8859_6"),
   ("iso_8859_6_1987", "iso8859_6"), ("iso_8859_7", "iso8859_7"),
   ("iso_8859_7_1987", "iso8859_7"), ("iso_8859_8", "iso8859_8"),
   ("iso_8859_8_1988", "iso8859_8"), ("iso_8859_9", "iso8859_9"),
   ("iso_8859_9_1989", "iso8859_9"), ("iso_celtic", "iso8859_14"), ("iso_ir_100", "latin_1"),
   ("iso_ir_101", "iso8859_2"), ("iso_ir_109", "iso8859_3"), ("iso_ir_110", "iso8859_4"),
   ("iso_ir_126", "iso8859_7"), ("iso_ir_127", "iso8859_6"), ("iso_ir_138", "iso8859_8"),
   ("iso_ir_144", "iso8859_5"), ("iso_ir_148", "iso8859_9"), ("iso_ir_157", "iso8859_10"),
   ("iso_ir_166", "tis_620"), ("iso_ir_199", "iso8859_14"), ("iso_ir_226", "iso8859_16"),
   ("iso_ir_6", "ascii"), ("kz_1048", "kz1048"), ("l1", "latin_1"), ("l10", "iso8859_16"),
   ("l2", "iso8859_2"), ("l3", "iso8859_3"), ("l4", "iso8859_4"), ("l5", "iso8859_9"),
   ("l6", "iso8859_10"), ("l7", "iso8859_13"), ("l8", "iso8859_14"), ("l9", "iso8859_15"),
   ("latin", "latin_1"), ("latin1", "latin_1"), ("latin10", "iso8859_16"),
   ("latin2", "iso8859_2"), ("latin3", "iso8859_3"), ("latin4", "iso8859_4"),
   ("latin5", "iso8859_9"), ("latin6", "iso8859_10"), ("latin7", "iso8859_13"),
   ("latin8", "iso8859_14"), ("latin9", "iso8859_15"), ("mac_centeuro", "mac_latin2"),
   ("maccentraleurope", "mac_latin2"), ("maccyrillic", "mac_cyrillic"),
   ("macgreek", "mac_greek"), ("maciceland", "mac_iceland"), ("macintosh", "mac_roman"),
   ("maclatin2", "mac_latin2"), ("macroman", "mac_roman"), ("macturkish", "mac_turkish"),
   ("pt154", "ptcp154"), ("r8", "hp_roman8"), ("rk1048", "kz1048"), ("roman8", "hp_roman8"),
   ("ruscii", "cp1125"), ("strk1048_2002", "kz1048"), ("thai", "iso8859_11"),
   ("tis620", "tis_620"), ("tis_620_0", "tis_620"), ("tis_620_2529_0", "tis_620"),
   ("tis_620_2529_1", "tis_620"), ("u16", "utf_16"), ("u32", "utf_32"), ("u7", "utf_7"),
   ("u8", "utf_8"), ("unicode_1_1_utf_7", "utf_7"), ("unicodebigunmarked", "utf_16_be"),
   ("unicodelittleunmarked", "utf_16_le"), ("us", "ascii"), ("us_ascii", "ascii"),
   ("utf", "utf_8"), ("utf16", "utf_16"), ("utf32", "utf_32"), ("utf7", "utf_7"),
   ("utf8", "utf_8"), ("utf8_ucs2", "utf_8"), ("utf8_ucs4", "utf_8"), ("utf_16be", "utf_16_be"),
   ("utf_16le", "utf_16_le"), ("utf_32be", "utf_32_be"), ("utf_32le", "utf_32_le"),
   ("windows_1250", "cp1250"), ("windows_1251", "cp1251"), ("windows_1252", "cp1252"),
   ("windows_1253", "cp1253"), ("windows_1254", "cp1254"), ("windows_1255", "cp1255"),
   ("windows_1256", "cp1256"), ("windows_1257", "cp1257"), ("windows_1258", "cp1258")]

/-- The names of encodings that are not about text. -/
def binaryEncodings : List String :=
  ["base64", "base64_codec", "base_64", "bz2", "bz2_codec", "hex", "hex_codec", "quopri",
   "quopri_codec", "quoted_printable", "quotedprintable", "rot13", "rot_13", "uu", "uu_codec",
   "zip", "zlib", "zlib_codec"]

end Inlay.Text
