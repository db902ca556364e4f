import TerminalReel.Text.Encoding.CodePage
import TerminalReel.Text.Encoding.Escaped
import TerminalReel.Text.Encoding.Idna
import TerminalReel.Text.Encoding.Switching
import TerminalReel.Text.Encoding.Utf7
/-!
# TerminalReel.Text.Encoding

The **encodings of text by their names**.

An encoding goes by several names. The case of their letters and the marks between
their parts do not matter, and a point may stand for such a mark where a name is
known by that.
-/

namespace TerminalReel

/-- A named way to read bytes as text. -/
structure Encoding where
  name : String
  /-- Its other names. -/
  aliases : List String
  /-- The text of some bytes, if they are written in this encoding. -/
  read? : List Nat → Option (List Char)

namespace Encoding

open ByteReader (readAll?)

/-! ### Ways of reading -/

/-- The characters of the numbers of bytes. -/
def charsOf (bytes : List Nat) : List Char := bytes.map Char.ofNat

/-- The text of bytes in UTF-8. -/
def readUtf8? (bytes : List Nat) : Option (List Char) :=
  (String.fromUTF8? ⟨(bytes.map UInt8.ofNat).toArray⟩).map String.toList

/-- The text of bytes in UTF-8, of which a mark at the beginning is no part. -/
def readMarkedUtf8? : List Nat → Option (List Char)
  | 0xEF :: 0xBB :: 0xBF :: rest => readUtf8? rest
  | bytes => readUtf8? bytes

/-- The encoding of a page. -/
def ofPage (page : CodePage) : Encoding := ⟨page.name, page.aliases, page.read?⟩

/-- The encodings of several bytes to a character. -/
def ofSeveralBytes : List Encoding := [
  ⟨"big5", ["big5_tw", "csbig5", "x_mac_trad_chinese"], readAll? big5Reader⟩,
  ⟨"big5hkscs", ["big5_hkscs", "hkscs"], readAll? big5HongKong⟩,
  ⟨"cp932", ["932", "ms932", "ms_kanji", "mskanji"], readAll? codePage932Reader⟩,
  ⟨"cp949", ["949", "ms949", "uhc"], readAll? unifiedHangul⟩,
  ⟨"cp950", ["950", "ms950"], readAll? codePage950Reader⟩,
  ⟨"euc_jis_2004", ["euc_jis2004", "eucjis2004", "jisx0213"], readAll? (eucJis .second)⟩,
  ⟨"euc_jisx0213", ["eucjisx0213"], readAll? (eucJis .first)⟩,
  ⟨"euc_jp", ["eucjp", "u_jis", "ujis"], readAll? eucJp⟩,
  ⟨"euc_kr", [
    "euckr", "korean", "ks_c_5601", "ks_c_5601_1987", "ks_x_1001", "ksc5601", "ksx1001",
    "x_mac_korean"],
    readAll? eucKr⟩,
  ⟨"gb18030", ["gb18030_2000"], readAll? gb18030⟩,
  ⟨"gb2312", [
    "chinese", "csiso58gb231280", "euc_cn", "euccn", "eucgb2312_cn", "gb2312_1980", "gb2312_80",
    "iso_ir_58", "x_mac_simp_chinese"],
    readAll? gb2312Reader⟩,
  ⟨"gbk", ["936", "cp936", "ms936"], readAll? gbk⟩,
  ⟨"hz", ["hz_gb", "hz_gb_2312", "hzgb"], readHz? false⟩,
  ⟨"iso2022_jp", ["csiso2022jp", "iso2022jp", "iso_2022_jp"], iso2022Jp.read?⟩,
  ⟨"iso2022_jp_1", ["iso2022jp_1", "iso_2022_jp_1"], iso2022Jp1.read?⟩,
  ⟨"iso2022_jp_2", ["iso2022jp_2", "iso_2022_jp_2"], iso2022Jp2.read?⟩,
  ⟨"iso2022_jp_2004", ["iso2022jp_2004", "iso_2022_jp_2004"], iso2022Jp2004.read?⟩,
  ⟨"iso2022_jp_3", ["iso2022jp_3", "iso_2022_jp_3"], iso2022Jp3.read?⟩,
  ⟨"iso2022_jp_ext", ["iso2022jp_ext", "iso_2022_jp_ext"], iso2022JpKana.read?⟩,
  ⟨"iso2022_kr", ["csiso2022kr", "iso2022kr", "iso_2022_kr"], iso2022Kr.read?⟩,
  ⟨"johab", ["cp1361", "ms1361"], readAll? johab⟩,
  ⟨"shift_jis", ["csshiftjis", "s_jis", "shiftjis", "sjis", "x_mac_japanese"], readAll? shiftJis⟩,
  ⟨"shift_jis_2004", ["s_jis_2004", "shiftjis2004", "sjis_2004"],
    readAll? (shiftJisX0213 .second)⟩,
  ⟨"shift_jisx0213", ["s_jisx0213", "shiftjisx0213", "sjisx0213"],
    readAll? (shiftJisX0213 .first)⟩,
  ⟨"utf_7", ["u7", "unicode_1_1_utf_7", "utf7"], readUtf7?⟩,
  ⟨"utf_8", ["cp65001", "u8", "utf", "utf8", "utf8_ucs2", "utf8_ucs4"], readUtf8?⟩,
  ⟨"utf_8_sig", [], readMarkedUtf8?⟩,
  ⟨"idna", [], (readDomains? <| charsOf ·)⟩,
  ⟨"unicode_escape", [], (readEscaped? false <| charsOf ·)⟩,
  ⟨"raw_unicode_escape", [], (readEscaped? true <| charsOf ·)⟩]

/-- All encodings. -/
def all : List Encoding := ofSeveralBytes ++ CodePage.all.map ofPage

/-! ### Names -/

/-- The parts of a name: runs of letters, digits and points. -/
def nameParts : List Char → List (List Char)
  | [] => []
  | c :: rest =>
    if c.isAlphanum || c == '.' then
      match rest, nameParts rest with
      | d :: _, part :: parts =>
        if d.isAlphanum || d == '.' then (c :: part) :: parts else [c] :: part :: parts
      | _, parts => [c] :: parts
    else nameParts rest

/-- The key of a name: its parts in small letters, joined by underscores. -/
def nameKey (name : List Char) : String :=
  String.intercalate "_" ((nameParts name).map fun part => String.ofList (part.map Char.toLower))

/-- The encoding that has another name with this key. -/
def ofAlias? (key : String) : Option Encoding :=
  all.find? fun encoding => encoding.aliases.contains key

/-- The encoding of a name. -/
def ofName? (name : List Char) : Option Encoding :=
  let key := nameKey name
  ofAlias? key
    <|> ofAlias? (String.ofList (key.toList.map fun c => if c = '.' then '_' else c))
    <|> all.find? fun encoding => encoding.name = key

end Encoding

end TerminalReel
