import Rebalance.Text.CodePage

/-!
# Pages of standards

Pages of the international standard, and of national ones beside it.
-/

namespace Rebalance
namespace Text
namespace CodePage

/-- Pages of the international standard, and of national ones beside it. -/
def standard : List CodePage :=
  [.ofStandard "iso8859_2" ["csisolatin2", "iso_8859_2", "iso_8859_2_1987", "iso_ir_101",
     "l2", "latin2"]
    ("\xa0Ą˘Ł¤ĽŚ§¨ŠŞŤŹ\xadŽŻ°ą˛ł´ľśˇ¸šşťź˝žżŔÁÂĂÄĹĆÇČÉĘËĚÍÎĎĐŃŇÓÔŐÖ×ŘŮÚŰÜÝŢßŕáâăäĺćçčéęëěíîďđńňó"
    ++ "ôőö÷řůúűüýţ˙"),
   .ofStandard "iso8859_3" ["csisolatin3", "iso_8859_3", "iso_8859_3_1988", "iso_ir_109",
     "l3", "latin3"]
    ("\xa0Ħ˘£¤\x00Ĥ§¨İŞĞĴ\xad\x00Ż°ħ²³´µĥ·¸ışğĵ½\x00żÀÁÂ\x00ÄĊĈÇÈÉÊËÌÍÎÏ\x00ÑÒÓÔĠÖ×ĜÙÚÛÜŬŜßàáâ"
    ++ "\x00äċĉçèéêëìíîï\x00ñòóôġö÷ĝùúûüŭŝ˙"),
   .ofStandard "iso8859_4" ["csisolatin4", "iso_8859_4", "iso_8859_4_1988", "iso_ir_110",
     "l4", "latin4"]
    ("\xa0ĄĸŖ¤ĨĻ§¨ŠĒĢŦ\xadŽ¯°ą˛ŗ´ĩļˇ¸šēģŧŊžŋĀÁÂÃÄÅÆĮČÉĘËĖÍÎĪĐŅŌĶÔÕÖ×ØŲÚÛÜŨŪßāáâãäåæįčéęëėíîīđņōķ"
    ++ "ôõö÷øųúûüũū˙"),
   .ofStandard "iso8859_5" ["csisolatincyrillic", "cyrillic", "iso_8859_5",
     "iso_8859_5_1988", "iso_ir_144"]
    ("\xa0ЁЂЃЄЅІЇЈЉЊЋЌ\xadЎЏАБВГДЕЖЗИЙКЛМНОПРСТУФХЦЧШЩЪЫЬЭЮЯабвгдежзийклмнопрстуфхцчшщъыьэюя№ёђѓ"
    ++ "єѕіїјљњћќ§ўџ"),
   .ofStandard "iso8859_6" ["arabic", "asmo_708", "csisolatinarabic", "ecma_114",
     "iso_8859_6", "iso_8859_6_1987", "iso_ir_127"]
    ("\xa0\x00\x00\x00¤\x00\x00\x00\x00\x00\x00\x00،\xad\x00\x00\x00\x00\x00\x00\x00\x00\x00\x00"
    ++ "\x00\x00\x00\u061b\x00\x00\x00\u061f\x00\u0621\u0622\u0623\u0624\u0625\u0626\u0627\u0628"
    ++ "\u0629\u062a\u062b\u062c\u062d\u062e\u062f\u0630\u0631\u0632\u0633\u0634\u0635\u0636\u0637"
    ++ "\u0638\u0639\u063a\x00\x00\x00\x00\x00\u0640\u0641\u0642\u0643\u0644\u0645\u0646\u0647"
    ++ "\u0648\u0649\u064a\u064b\u064c\u064d\u064e\u064f\u0650\u0651\u0652\x00\x00\x00\x00\x00\x00"
    ++ "\x00\x00\x00\x00\x00\x00\x00"),
   .ofStandard "iso8859_7" ["csisolatingreek", "ecma_118", "elot_928", "greek", "greek8",
     "iso_8859_7", "iso_8859_7_1987", "iso_ir_126"]
    ("\xa0‘’£€₯¦§¨©ͺ«¬\xad\x00―°±²³΄΅Ά·ΈΉΊ»Ό½ΎΏΐΑΒΓΔΕΖΗΘΙΚΛΜΝΞΟΠΡ\x00ΣΤΥΦΧΨΩΪΫάέήίΰαβγδεζηθικλμν"
    ++ "ξοπρςστυφχψωϊϋόύώ\x00"),
   .ofStandard "iso8859_8" ["csisolatinhebrew", "hebrew", "iso_8859_8", "iso_8859_8_1988",
     "iso_ir_138"]
    ("\xa0\x00¢£¤¥¦§¨©×«¬\xad®¯°±²³´µ¶·¸¹÷»¼½¾\x00\x00\x00\x00\x00\x00\x00\x00\x00\x00\x00\x00"
    ++ "\x00\x00\x00\x00\x00\x00\x00\x00\x00\x00\x00\x00\x00\x00\x00\x00\x00\x00\x00\x00‗\u05d0"
    ++ "\u05d1\u05d2\u05d3\u05d4\u05d5\u05d6\u05d7\u05d8\u05d9\u05da\u05db\u05dc\u05dd\u05de\u05df"
    ++ "\u05e0\u05e1\u05e2\u05e3\u05e4\u05e5\u05e6\u05e7\u05e8\u05e9\u05ea\x00\x00\u200e\u200f\x00"),
   .ofStandard "iso8859_9" ["csisolatin5", "iso_8859_9", "iso_8859_9_1989", "iso_ir_148",
     "l5", "latin5"]
    ("\xa0¡¢£¤¥¦§¨©ª«¬\xad®¯°±²³´µ¶·¸¹º»¼½¾¿ÀÁÂÃÄÅÆÇÈÉÊËÌÍÎÏĞÑÒÓÔÕÖ×ØÙÚÛÜİŞßàáâãäåæçèéêëìíîïğñòó"
    ++ "ôõö÷øùúûüışÿ"),
   .ofStandard "iso8859_10" ["csisolatin6", "iso_8859_10", "iso_8859_10_1992",
     "iso_ir_157", "l6", "latin6"]
    ("\xa0ĄĒĢĪĨĶ§ĻĐŠŦŽ\xadŪŊ°ąēģīĩķ·ļđšŧž―ūŋĀÁÂÃÄÅÆĮČÉĘËĖÍÎÏÐŅŌÓÔÕÖŨØŲÚÛÜÝÞßāáâãäåæįčéęëėíîïðņōó"
    ++ "ôõöũøųúûüýþĸ"),
   .ofStandard "iso8859_11" ["iso_8859_11", "iso_8859_11_2001", "thai"]
    ("\xa0กขฃคฅฆงจฉชซฌญฎฏฐฑฒณดตถทธนบปผฝพฟภมยรฤลฦวศษสหฬอฮฯะ\u0e31าำ\u0e34\u0e35\u0e36\u0e37\u0e38"
    ++ "\u0e39\u0e3a\x00\x00\x00\x00฿เแโใไๅๆ\u0e47\u0e48\u0e49\u0e4a\u0e4b\u0e4c\u0e4d\u0e4e๏๐๑๒๓๔"
    ++ "๕๖๗๘๙๚๛\x00\x00\x00\x00"),
   .ofStandard "iso8859_13" ["iso_8859_13", "l7", "latin7"]
    ("\xa0”¢£¤„¦§Ø©Ŗ«¬\xad®Æ°±²³“µ¶·ø¹ŗ»¼½¾æĄĮĀĆÄÅĘĒČÉŹĖĢĶĪĻŠŃŅÓŌÕÖ×ŲŁŚŪÜŻŽßąįāćäåęēčéźėģķīļšńņó"
    ++ "ōõö÷ųłśūüżž’"),
   .ofStandard "iso8859_14" ["iso_8859_14", "iso_8859_14_1998", "iso_celtic",
     "iso_ir_199", "l8", "latin8"]
    ("\xa0Ḃḃ£ĊċḊ§Ẁ©ẂḋỲ\xad®ŸḞḟĠġṀṁ¶ṖẁṗẃṠỳẄẅṡÀÁÂÃÄÅÆÇÈÉÊËÌÍÎÏŴÑÒÓÔÕÖṪØÙÚÛÜÝŶßàáâãäåæçèéêëìíîïŵñòó"
    ++ "ôõöṫøùúûüýŷÿ"),
   .ofStandard "iso8859_15" ["iso_8859_15", "l9", "latin9"]
    ("\xa0¡¢£€¥Š§š©ª«¬\xad®¯°±²³Žµ¶·ž¹º»ŒœŸ¿ÀÁÂÃÄÅÆÇÈÉÊËÌÍÎÏÐÑÒÓÔÕÖ×ØÙÚÛÜÝÞßàáâãäåæçèéêëìíîïðñòó"
    ++ "ôõö÷øùúûüýþÿ"),
   .ofStandard "iso8859_16" ["iso_8859_16", "iso_8859_16_2001", "iso_ir_226", "l10",
     "latin10"]
    ("\xa0ĄąŁ€„Š§š©Ș«Ź\xadźŻ°±ČłŽ”¶·žčș»ŒœŸżÀÁÂĂÄĆÆÇÈÉÊËÌÍÎÏĐŃÒÓÔŐÖŚŰÙÚÛÜĘȚßàáâăäćæçèéêëìíîïđńòó"
    ++ "ôőöśűùúûüęțÿ"),
   .ofHigh "koi8_r" ["cskoi8r"]
    ("─│┌┐└┘├┤┬┴┼▀▄█▌▐░▒▓⌠■∙√≈≤≥\xa0⌡°²·÷═║╒ё╓╔╕╖╗╘╙╚╛╜╝╞╟╠╡Ё╢╣╤╥╦╧╨╩╪╫╬©юабцдефгхийклмнопярстуж"
    ++ "вьызшэщчъЮАБЦДЕФГХИЙКЛМНОПЯРСТУЖВЬЫЗШЭЩЧЪ"),
   .ofHigh "koi8_t" []
    ("қғ‚Ғ„…†‡\x00‰ҳ‹ҲҷҶ\x00Қ‘’“”•–—\x00™\x00›\x00\x00\x00\x00\x00ӯӮё¤ӣ¦§\x00\x00\x00«¬\xad®\x00"
    ++ "°±²Ё\x00Ӣ¶·\x00№\x00»\x00\x00\x00©юабцдефгхийклмнопярстужвьызшэщчъЮАБЦДЕФГХИЙКЛМНОПЯРСТУЖВ"
    ++ "ЬЫЗШЭЩЧЪ"),
   .ofHigh "koi8_u" []
    ("─│┌┐└┘├┤┬┴┼▀▄█▌▐░▒▓⌠■∙√≈≤≥\xa0⌡°²·÷═║╒ёє╔ії╗╘╙╚╛ґ╝╞╟╠╡ЁЄ╣ІЇ╦╧╨╩╪Ґ╬©юабцдефгхийклмнопярстуж"
    ++ "вьызшэщчъЮАБЦДЕФГХИЙКЛМНОПЯРСТУЖВЬЫЗШЭЩЧЪ"),
   .ofHigh "kz1048" ["kz_1048", "rk1048", "strk1048_2002"]
    ("ЂЃ‚ѓ„…†‡€‰Љ‹ЊҚҺЏђ‘’“”•–—\x00™љ›њқһџ\xa0ҰұӘ¤Ө¦§Ё©Ғ«¬\xad®Ү°±Ііөµ¶·ё№ғ»әҢңүАБВГДЕЖЗИЙКЛМНОПР"
    ++ "СТУФХЦЧШЩЪЫЬЭЮЯабвгдежзийклмнопрстуфхцчшщъыьэюя"),
   .ofHigh "ptcp154" ["cp154", "csptcp154", "cyrillic_asian", "pt154"]
    ("ҖҒӮғ„…ҶҮҲүҠӢҢҚҺҸҗ‘’“”•–—ҳҷҡӣңқһҹ\xa0ЎўЈӨҘҰ§Ё©Ә«¬ӯ®Ҝ°ұІіҙө¶·ё№ә»јҪҫҝАБВГДЕЖЗИЙКЛМНОПРСТУФХЦ"
    ++ "ЧШЩЪЫЬЭЮЯабвгдежзийклмнопрстуфхцчшщъыьэюя"),
   .ofStandard "tis_620" ["iso_ir_166", "tis620", "tis_620_0", "tis_620_2529_0",
     "tis_620_2529_1"]
    ("\x00กขฃคฅฆงจฉชซฌญฎฏฐฑฒณดตถทธนบปผฝพฟภมยรฤลฦวศษสหฬอฮฯะ\u0e31าำ\u0e34\u0e35\u0e36\u0e37\u0e38"
    ++ "\u0e39\u0e3a\x00\x00\x00\x00฿เแโใไๅๆ\u0e47\u0e48\u0e49\u0e4a\u0e4b\u0e4c\u0e4d\u0e4e๏๐๑๒๓๔"
    ++ "๕๖๗๘๙๚๛\x00\x00\x00\x00")]

end CodePage
end Text
end Rebalance
