import Rebalance.Text.CodePage

/-!
# Pages of Windows
-/

namespace Rebalance
namespace Text
namespace CodePage

/-- Pages of Windows. -/
def windows : List CodePage :=
  [.ofHigh "cp1250" ["1250", "windows_1250"]
    ("€\x00‚\x00„…†‡\x00‰Š‹ŚŤŽŹ\x00‘’“”•–—\x00™š›śťžź\xa0ˇ˘Ł¤Ą¦§¨©Ş«¬\xad®Ż°±˛ł´µ¶·¸ąş»Ľ˝ľżŔÁÂĂÄ"
    ++ "ĹĆÇČÉĘËĚÍÎĎĐŃŇÓÔŐÖ×ŘŮÚŰÜÝŢßŕáâăäĺćçčéęëěíîďđńňóôőö÷řůúűüýţ˙"),
   .ofHigh "cp1251" ["1251", "windows_1251"]
    ("ЂЃ‚ѓ„…†‡€‰Љ‹ЊЌЋЏђ‘’“”•–—\x00™љ›њќћџ\xa0ЎўЈ¤Ґ¦§Ё©Є«¬\xad®Ї°±Ііґµ¶·ё№є»јЅѕїАБВГДЕЖЗИЙКЛМНОПР"
    ++ "СТУФХЦЧШЩЪЫЬЭЮЯабвгдежзийклмнопрстуфхцчшщъыьэюя"),
   .ofHigh "cp1252" ["1252", "windows_1252"]
    ("€\x00‚ƒ„…†‡ˆ‰Š‹Œ\x00Ž\x00\x00‘’“”•–—˜™š›œ\x00žŸ\xa0¡¢£¤¥¦§¨©ª«¬\xad®¯°±²³´µ¶·¸¹º»¼½¾¿ÀÁÂÃÄ"
    ++ "ÅÆÇÈÉÊËÌÍÎÏÐÑÒÓÔÕÖ×ØÙÚÛÜÝÞßàáâãäåæçèéêëìíîïðñòóôõö÷øùúûüýþÿ"),
   .ofHigh "cp1253" ["1253", "windows_1253"]
    ("€\x00‚ƒ„…†‡\x00‰\x00‹\x00\x00\x00\x00\x00‘’“”•–—\x00™\x00›\x00\x00\x00\x00\xa0΅Ά£¤¥¦§¨©"
    ++ "\x00«¬\xad®―°±²³΄µ¶·ΈΉΊ»Ό½ΎΏΐΑΒΓΔΕΖΗΘΙΚΛΜΝΞΟΠΡ\x00ΣΤΥΦΧΨΩΪΫάέήίΰαβγδεζηθικλμνξοπρςστυφχψωϊ"
    ++ "ϋόύώ\x00"),
   .ofHigh "cp1254" ["1254", "windows_1254"]
    ("€\x00‚ƒ„…†‡ˆ‰Š‹Œ\x00\x00\x00\x00‘’“”•–—˜™š›œ\x00\x00Ÿ\xa0¡¢£¤¥¦§¨©ª«¬\xad®¯°±²³´µ¶·¸¹º»¼½¾"
    ++ "¿ÀÁÂÃÄÅÆÇÈÉÊËÌÍÎÏĞÑÒÓÔÕÖ×ØÙÚÛÜİŞßàáâãäåæçèéêëìíîïğñòóôõö÷øùúûüışÿ"),
   .ofHigh "cp1255" ["1255", "windows_1255"]
    ("€\x00‚ƒ„…†‡ˆ‰\x00‹\x00\x00\x00\x00\x00‘’“”•–—˜™\x00›\x00\x00\x00\x00\xa0¡¢£₪¥¦§¨©×«¬\xad®¯"
    ++ "°±²³´µ¶·¸¹÷»¼½¾¿\u05b0\u05b1\u05b2\u05b3\u05b4\u05b5\u05b6\u05b7\u05b8\u05b9\x00\u05bb"
    ++ "\u05bc\u05bd\u05be\u05bf\u05c0\u05c1\u05c2\u05c3\u05f0\u05f1\u05f2\u05f3\u05f4\x00\x00\x00"
    ++ "\x00\x00\x00\x00\u05d0\u05d1\u05d2\u05d3\u05d4\u05d5\u05d6\u05d7\u05d8\u05d9\u05da\u05db"
    ++ "\u05dc\u05dd\u05de\u05df\u05e0\u05e1\u05e2\u05e3\u05e4\u05e5\u05e6\u05e7\u05e8\u05e9\u05ea"
    ++ "\x00\x00\u200e\u200f\x00"),
   .ofHigh "cp1256" ["1256", "windows_1256"]
    ("€\u067e‚ƒ„…†‡ˆ‰\u0679‹Œ\u0686\u0698\u0688\u06af‘’“”•–—\u06a9™\u0691›œ\u200c\u200d\u06ba"
    ++ "\xa0،¢£¤¥¦§¨©\u06be«¬\xad®¯°±²³´µ¶·¸¹\u061b»¼½¾\u061f\u06c1\u0621\u0622\u0623\u0624\u0625"
    ++ "\u0626\u0627\u0628\u0629\u062a\u062b\u062c\u062d\u062e\u062f\u0630\u0631\u0632\u0633\u0634"
    ++ "\u0635\u0636×\u0637\u0638\u0639\u063a\u0640\u0641\u0642\u0643à\u0644â\u0645\u0646\u0647"
    ++ "\u0648çèéêë\u0649\u064aîï\u064b\u064c\u064d\u064eô\u064f\u0650÷\u0651ù\u0652ûü\u200e\u200f"
    ++ "\u06d2"),
   .ofHigh "cp1257" ["1257", "windows_1257"]
    ("€\x00‚\x00„…†‡\x00‰\x00‹\x00¨ˇ¸\x00‘’“”•–—\x00™\x00›\x00¯˛\x00\xa0\x00¢£¤\x00¦§Ø©Ŗ«¬\xad®Æ"
    ++ "°±²³´µ¶·ø¹ŗ»¼½¾æĄĮĀĆÄÅĘĒČÉŹĖĢĶĪĻŠŃŅÓŌÕÖ×ŲŁŚŪÜŻŽßąįāćäåęēčéźėģķīļšńņóōõö÷ųłśūüżž˙"),
   .ofHigh "cp1258" ["1258", "windows_1258"]
    ("€\x00‚ƒ„…†‡ˆ‰\x00‹Œ\x00\x00\x00\x00‘’“”•–—˜™\x00›œ\x00\x00Ÿ\xa0¡¢£¤¥¦§¨©ª«¬\xad®¯°±²³´µ¶·¸"
    ++ "¹º»¼½¾¿ÀÁÂĂÄÅÆÇÈÉÊË\u0300ÍÎÏĐÑ\u0309ÓÔƠÖ×ØÙÚÛÜƯ\u0303ßàáâăäåæçèéêë\u0301íîïđñ\u0323óôơö÷øù"
    ++ "úûüư₫ÿ"),
   .ofHigh "cp874" []
    ("€\x00\x00\x00\x00…\x00\x00\x00\x00\x00\x00\x00\x00\x00\x00\x00‘’“”•–—\x00\x00\x00\x00\x00"
    ++ "\x00\x00\x00\xa0กขฃคฅฆงจฉชซฌญฎฏฐฑฒณดตถทธนบปผฝพฟภมยรฤลฦวศษสหฬอฮฯะ\u0e31าำ\u0e34\u0e35\u0e36"
    ++ "\u0e37\u0e38\u0e39\u0e3a\x00\x00\x00\x00฿เแโใไๅๆ\u0e47\u0e48\u0e49\u0e4a\u0e4b\u0e4c\u0e4d"
    ++ "\u0e4e๏๐๑๒๓๔๕๖๗๘๙๚๛\x00\x00\x00\x00")]

end CodePage
end Text
end Rebalance
