import Rebalance.Text.Case
import Rebalance.Text.CodePage.Desktop
import Rebalance.Text.CodePage.Mainframe
import Rebalance.Text.CodePage.Personal
import Rebalance.Text.CodePage.Standard
import Rebalance.Text.CodePage.Windows
import Rebalance.Text.Utf8

/-!
# Codes of files

The codes in which a file of variables may be written, by their names.  A name counts in any letter
case, and every run of characters other than letters, digits and points in it counts as one mark.

* `Encoding.ofName`: the code of a name.
* `Encoding.decode`: the text of some bytes.
-/

namespace Rebalance
namespace Text

/-- A code.  Those of sixteen and of thirty-two bits have their low byte first or their high byte
first, or say so by a mark at the head of the text. -/
inductive Encoding
  | utf8
  | markedUtf8
  | ascii
  | latin1
  | page (p : CodePage)
  | wide (name : String)
  | utf16
  | utf16Low
  | utf16High
  | utf32
  | utf32Low
  | utf32High
  | undefined
deriving DecidableEq, Repr

/-- What is wrong with the name of a code. -/
inductive NameFault
  | unknown
  | notForTexts
  | holdsNul
deriving DecidableEq, Repr

/-- Why bytes are no text of a code. -/
inductive Undecodable
  | utf8 (fault : Utf8Error)
  | bytes (code reason : String) (byte start length : Nat)
  | noMark (bits : Nat)
  | undefined
deriving DecidableEq, Repr

/-- The message about bytes that are no text. -/
def Undecodable.message : Undecodable → String
  | .utf8 fault => fault.message
  | .bytes code reason byte start length => undecodable code reason byte start length
  | .noMark bits => "UTF-" ++ toString bits ++ " stream does not start with BOM"
  | .undefined => "undefined encoding"

namespace Encoding

/-- Codes with a rule of their own: name and further names. -/
def ruled : List (Encoding × String × List String) :=
  [(.utf8, "utf_8", ["cp65001", "u8", "utf", "utf8", "utf8_ucs2", "utf8_ucs4"]),
   (.markedUtf8, "utf_8_sig", []),
   (.ascii, "ascii", ["646", "ansi_x3.4_1968", "ansi_x3.4_1986", "ansi_x3_4_1968", "cp367",
      "csascii", "ibm367", "iso646_us", "iso_646.irv_1991", "iso_ir_6", "us", "us_ascii"]),
   (.latin1, "latin_1", ["8859", "cp819", "csisolatin1", "ibm819", "iso8859", "iso8859_1",
      "iso_8859_1", "iso_8859_1_1987", "iso_ir_100", "l1", "latin", "latin1"]),
   (.latin1, "charmap", []),
   (.utf16, "utf_16", ["u16", "utf16"]),
   (.utf16Low, "utf_16_le", ["unicodelittleunmarked", "utf_16le"]),
   (.utf16High, "utf_16_be", ["unicodebigunmarked", "utf_16be"]),
   (.utf32, "utf_32", ["u32", "utf32"]),
   (.utf32Low, "utf_32_le", ["utf_32le"]),
   (.utf32High, "utf_32_be", ["utf_32be"]),
   (.undefined, "undefined", [])]

/-- Codes in which ASCII takes one byte for a character and other characters take several. -/
def wideCodes : List (String × List String) :=
  [("big5", ["big5_tw", "csbig5", "x_mac_trad_chinese"]),
   ("big5hkscs", ["big5_hkscs", "hkscs"]),
   ("cp932", ["932", "ms932", "ms_kanji", "mskanji"]),
   ("cp949", ["949", "ms949", "uhc"]),
   ("cp950", ["950", "ms950"]),
   ("euc_jis_2004", ["euc_jis2004", "eucjis2004", "jisx0213"]),
   ("euc_jisx0213", ["eucjisx0213"]),
   ("euc_jp", ["eucjp", "u_jis", "ujis"]),
   ("euc_kr", ["euckr", "korean", "ks_c_5601", "ks_c_5601_1987", "ks_x_1001", "ksc5601",
      "ksx1001", "x_mac_korean"]),
   ("gb18030", ["gb18030_2000"]),
   ("gb2312", ["chinese", "csiso58gb231280", "euc_cn", "euccn", "eucgb2312_cn",
      "gb2312_1980", "gb2312_80", "iso_ir_58", "x_mac_simp_chinese"]),
   ("gbk", ["936", "cp936", "ms936"]),
   ("hz", ["hz_gb", "hz_gb_2312", "hzgb"]),
   ("iso2022_jp", ["csiso2022jp", "iso2022jp", "iso_2022_jp"]),
   ("iso2022_jp_1", ["iso2022jp_1", "iso_2022_jp_1"]),
   ("iso2022_jp_2", ["iso2022jp_2", "iso_2022_jp_2"]),
   ("iso2022_jp_2004", ["iso2022jp_2004", "iso_2022_jp_2004"]),
   ("iso2022_jp_3", ["iso2022jp_3", "iso_2022_jp_3"]),
   ("iso2022_jp_ext", ["iso2022jp_ext", "iso_2022_jp_ext"]),
   ("iso2022_kr", ["csiso2022kr", "iso2022kr", "iso_2022_kr"]),
   ("johab", ["cp1361", "ms1361"]),
   ("shift_jis", ["csshiftjis", "s_jis", "shiftjis", "sjis", "x_mac_japanese"]),
   ("shift_jis_2004", ["s_jis_2004", "shiftjis2004", "sjis_2004"]),
   ("shift_jisx0213", ["s_jisx0213", "shiftjisx0213", "sjisx0213"])]

/-- Codes that are not for texts. -/
def notForTexts : List (String × List String) :=
  [("base64_codec", ["base64", "base_64"]),
   ("bz2_codec", ["bz2"]),
   ("hex_codec", ["hex"]),
   ("quopri_codec", ["quopri", "quoted_printable", "quotedprintable"]),
   ("rot_13", ["rot13"]),
   ("uu_codec", ["uu"]),
   ("zlib_codec", ["zip", "zlib"])]

/-- Every code that can be named, with its name and its further names; those that are not for texts
lead to a fault. -/
def all : List (Except NameFault Encoding × String × List String) :=
  let pages := CodePage.windows ++ CodePage.standard ++ CodePage.personal ++ CodePage.desktop
    ++ CodePage.mainframe
  ruled.map (fun e => (.ok e.1, e.2)) ++ pages.map (fun p => (.ok (.page p), p.name, p.aliases))
    ++ wideCodes.map (fun e => (.ok (.wide e.1), e))
    ++ notForTexts.map (fun e => (.error .notForTexts, e))

/-- A name in small letters, every run of other characters as one mark; those at either end do not
count. -/
def plainName (s : String) : String :=
  let isPart (c : Char) : Bool := c.isAlphanum || c == '.'
  let rec go (marked : Bool) : List Char → List Char
    | [] => []
    | c :: rest =>
      if isPart c then (if marked then ['_', c] else [c]) ++ go false rest else go true rest
  String.ofList (go false ((s.toList.map Char.toLower).dropWhile fun c => !isPart c))

/-- The name for the code of the system, which is spelled in one way only. -/
def systemName : String :=
  "locale"

/-- The code of a name.  A further name counts before a name; its points may stand for marks. -/
def ofName (name : String) : Except NameFault Encoding :=
  let plain := plainName name
  let marked := plain.map fun c => if c = '.' then '_' else c
  if name.toList.contains (Char.ofNat 0) then .error .holdsNul
  else if name = systemName then .ok .utf8
  else
    let found := all.find? (fun e => e.2.2.contains plain)
      <|> all.find? (fun e => e.2.2.contains marked) <|> all.find? (fun e => e.2.1 == plain)
    match found with
    | some e => e.1
    | none => .error .unknown

/-- Reads bytes that each stand for one character, where `char?` knows them. -/
def decodeBytes (code reason : String) (char? : Nat → Option Char) :
    (start : Nat) → List Nat → Except Undecodable (List Char)
  | _, [] => .ok []
  | start, b :: rest =>
    match char? b with
    | none => .error (.bytes code reason b start 1)
    | some c => (decodeBytes code reason char? (start + 1) rest).map (c :: ·)

/-- The character of a byte that ASCII has. -/
def asciiChar? (b : Nat) : Option Char :=
  if b < 0x80 then some (Char.ofNat b) else none

/-- Reads ASCII in a code in which other characters take several bytes; these are refused. -/
def decodeWide (name : String) : (start : Nat) → List Nat → Except Undecodable (List Char)
  | _, [] => .ok []
  | start, b :: rest =>
    match asciiChar? b with
    | none =>
      let reason := if rest.isEmpty then "incomplete" else "illegal"
      .error (.bytes name (reason ++ " multibyte sequence") b start 1)
    | some c => (decodeWide name (start + 1) rest).map (c :: ·)

/-- Whether a unit of sixteen bits is the first half of a pair. -/
def isHighHalf (n : Nat) : Bool :=
  decide (0xd800 ≤ n ∧ n ≤ 0xdbff)

/-- Whether a unit of sixteen bits is the second half of a pair. -/
def isLowHalf (n : Nat) : Bool :=
  decide (0xdc00 ≤ n ∧ n ≤ 0xdfff)

/-- Reads units of sixteen bits, with fuel for the bytes. -/
def decodeUnits (highFirst : Bool) :
    (fuel start : Nat) → List Nat → Except Undecodable (List Char)
  | 0, _, _ => .ok []
  | fuel + 1, start, bytes =>
    let code := if highFirst then "utf-16-be" else "utf-16-le"
    let unit (a b : Nat) : Nat := if highFirst then a * 256 + b else b * 256 + a
    match bytes with
    | [] => .ok []
    | [b] => .error (.bytes code "truncated data" b start 1)
    | a :: b :: rest =>
      let n := unit a b
      if isLowHalf n then .error (.bytes code "illegal encoding" a start 2)
      else if isHighHalf n then
        match rest with
        | c :: d :: rest =>
          let m := unit c d
          if isLowHalf m then
            (decodeUnits highFirst fuel (start + 4) rest).map
              (Char.ofNat (0x10000 + (n - 0xd800) * 0x400 + (m - 0xdc00)) :: ·)
          else .error (.bytes code "illegal UTF-16 surrogate" a start 2)
        | _ => .error (.bytes code "unexpected end of data" a start (bytes.length))
      else (decodeUnits highFirst fuel (start + 2) rest).map (Char.ofNat n :: ·)

/-- Reads units of thirty-two bits. -/
def decodeLongUnits (highFirst : Bool) : (start : Nat) → List Nat → Except Undecodable (List Char)
  | _, [] => .ok []
  | start, a :: b :: c :: d :: rest =>
    let n :=
      if highFirst then ((a * 256 + b) * 256 + c) * 256 + d
      else ((d * 256 + c) * 256 + b) * 256 + a
    let fault (reason : String) : Except Undecodable (List Char) :=
      .error (.bytes (longName highFirst) reason a start 4)
    if isSurrogate n then fault "code point in surrogate code point range(0xd800, 0xe000)"
    else if 0x10ffff < n then fault "code point not in range(0x110000)"
    else (decodeLongUnits highFirst (start + 4) rest).map (Char.ofNat n :: ·)
  | start, a :: rest =>
    .error (.bytes (longName highFirst) "truncated data" a start (rest.length + 1))
where
  /-- The name of the code of thirty-two bits. -/
  longName (highFirst : Bool) : String :=
    if highFirst then "utf-32-be" else "utf-32-le"

/-- The text of units without a mark, which is refused unless it is empty. -/
def unmarked (bits : Nat) (units : Except Undecodable (List Char)) :
    Except Undecodable (List Char) :=
  match units with
  | .ok [] => .ok []
  | .ok _ => .error (.noMark bits)
  | .error e => .error e

/-- The bytes after the mark at their head, if there is one. -/
def afterMark (bytes : List Nat) : List Nat :=
  match bytes with
  | 0xef :: 0xbb :: 0xbf :: rest => rest
  | [0xef] | [0xef, 0xbb] => []
  | bytes => bytes

/-- The text of some bytes. -/
def decode (e : Encoding) (bytes : List Nat) : Except Undecodable (List Char) :=
  match e with
  | .utf8 => (decode? bytes).mapError .utf8
  | .markedUtf8 => (decode? (afterMark bytes)).mapError .utf8
  | .ascii => decodeBytes "ascii" "ordinal not in range(128)" asciiChar? 0 bytes
  | .latin1 => .ok (bytes.map Char.ofNat)
  | .page p => decodeBytes "charmap" "character maps to <undefined>" p.char? 0 bytes
  | .wide name => decodeWide name 0 bytes
  | .utf16Low => decodeUnits false bytes.length 0 bytes
  | .utf16High => decodeUnits true bytes.length 0 bytes
  | .utf16 =>
    match bytes with
    | 0xff :: 0xfe :: rest => decodeUnits false bytes.length 2 rest
    | 0xfe :: 0xff :: rest => decodeUnits true bytes.length 2 rest
    | bytes => unmarked 16 (decodeUnits false bytes.length 0 bytes)
  | .utf32Low => decodeLongUnits false 0 bytes
  | .utf32High => decodeLongUnits true 0 bytes
  | .utf32 =>
    match bytes with
    | 0xff :: 0xfe :: 0 :: 0 :: rest => decodeLongUnits false 4 rest
    | 0 :: 0 :: 0xfe :: 0xff :: rest => decodeLongUnits true 4 rest
    | bytes => unmarked 32 (decodeLongUnits false 0 bytes)
  | .undefined => .error .undefined

end Encoding
end Text
end Rebalance
