import TerminalReel.Proofs.Document.Characters
import TerminalReel.Text.Hex
/-!
# TerminalReel.Proofs.Document.Link

**What a page links to**, and what file a relative reference names.

A reference is not a file name: a scheme takes it elsewhere, its path ends at the first
question mark or number sign, and in the path a percent sign with two hexadecimal digits
stands for one byte. Reading a name as a reference never makes it longer in bytes, so it
gives the name again exactly if none of the three is there (`names_iff`).
-/

namespace TerminalReel

open Markup

/-! ### Sources of images -/

/-- What the images of a page refer to, as a reader finds it: entities decoded. -/
def Document.sources (page : Text) : List Text :=
  ((tags page).filter (·.name = ("img" : Text))).flatMap (·.valuesOf "src")

/-- A page that links has one image, the drawing of its stem. -/
theorem Document.sources_html {config : Config} {stem : Text} {forceLoop : Bool}
    {document : Document} (h : (build config stem forceLoop).outcome = .ok document)
    (linking : config.embed = false) : sources document.html = [stem ++ ".svg"] := by
  obtain ⟨drawing, css, -, -, -, -, html⟩ := build_eq_ok h
  obtain ⟨sound, -, src⟩ := Page.tags_link css drawing stem
  rw [sources, html, linking, tags_renderHtml sound, List.filter_cons_of_neg (by decide), src]

/-! ### Texts that have bytes -/

namespace Text

variable {text : Text}

theorem points_of_chars? {cs : List Char} (h : text.chars? = some cs) :
    text.points = cs.map .char := by
  obtain ⟨points⟩ := text
  unfold chars? at h
  induction points generalizing cs with
  | nil =>
      obtain rfl := Option.some.inj h
      rfl
  | cons point rest ih =>
      simp only [List.mapM_cons, Option.bind_eq_bind, Option.bind_eq_some_iff, Option.pure_def,
        Option.some.injEq] at h
      obtain ⟨c, char, others, later, rfl⟩ := h
      cases point with
      | surrogate offset => cases char
      | char c' =>
          obtain rfl := Option.some.inj char
          exact congrArg (CodePoint.char c' :: ·) (ih later)

theorem surrogate_not_mem {bytes : ByteArray} (h : text.toUTF8? = some bytes)
    (offset : Fin 0x800) : .surrogate offset ∉ text.points := by
  simp only [toUTF8?, toString?, Option.map_eq_some_iff] at h
  obtain ⟨_, ⟨cs, characters, -⟩, -⟩ := h
  rw [points_of_chars? characters, List.mem_map]
  rintro ⟨c, -, e⟩
  cases e

theorem exists_string (h : ∀ offset, .surrogate offset ∉ text.points) :
    ∃ s, text = ofString s := by
  have characters : ∃ cs : List Char, text.points = cs.map .char := by
    obtain ⟨points⟩ := text
    induction points with
    | nil => exact ⟨[], rfl⟩
    | cons point rest ih =>
        obtain ⟨cs, later⟩ := ih fun offset mem => h offset (List.mem_cons_of_mem _ mem)
        cases point with
        | surrogate offset => exact (h offset List.mem_cons_self).elim
        | char c => exact ⟨c :: cs, congrArg (CodePoint.char c :: ·) later⟩
  obtain ⟨cs, points⟩ := characters
  refine ⟨String.ofList cs, ?_⟩
  ext1
  rw [points, points_ofString, String.toList_ofList]

end Text

/-- A page that has bytes links by a name that has bytes. -/
theorem Document.exists_string_of_html {config : Config} {stem : Text} {forceLoop : Bool}
    {document : Document} {bytes : ByteArray}
    (h : (build config stem forceLoop).outcome = .ok document) (linking : config.embed = false)
    (encoded : document.html.toUTF8? = some bytes) : ∃ s, stem = Text.ofString s := by
  refine Text.exists_string fun offset mem => ?_
  have stray : CodePoint.surrogate offset ∈ stem.strays :=
    List.mem_filter.2 ⟨mem, by rw [CodePoint.isAllowed_surrogate]; rfl⟩
  rw [← strays_html h linking] at stray
  exact Text.surrogate_not_mem encoded offset (List.mem_of_mem_filter stray)

/-! ### Relative references -/

namespace Reference

/-- A character of a scheme behind its first letter. -/
def isSchemeChar (c : Char) : Bool := c.isAlphanum || "+-.".toList.contains c

/-- The reference begins with a scheme and is no relative one. -/
def hasScheme : List Char → Bool
  | [] => false
  | c :: rest => c.isAlpha && (rest.dropWhile isSchemeChar).head? == some ':'

/-- The character belongs to the path: it begins no query and no fragment. -/
def isPathChar (c : Char) : Bool := c != '?' && c != '#'

/-- The path of a relative reference. -/
def path (reference : List Char) : List Char := reference.takeWhile isPathChar

/-- The bytes of characters. -/
def bytes (cs : List Char) : List UInt8 := cs.flatMap String.utf8EncodeChar

/-- The bytes that a path stands for: an escape is one byte, and every other character
its own bytes. -/
def percentDecode : List Char → List UInt8
  | '%' :: high :: low :: rest =>
    match hexNumber? [high, low] with
    | some n => UInt8.ofNat n :: percentDecode rest
    | none => String.utf8EncodeChar '%' ++ percentDecode (high :: low :: rest)
  | c :: rest => String.utf8EncodeChar c ++ percentDecode rest
  | [] => []

/-- The name of the file that a reference leads to in the directory of its page, if it
stays there. -/
def sibling? (reference : List Char) : Option ByteArray :=
  if hasScheme reference || (path reference).contains '/' then none
  else some (percentDecode (path reference)).toByteArray

/-- The reference names the file of this name beside its page. -/
def Names (reference : Text) (file : String) : Prop :=
  reference.chars?.bind sibling? = some file.toUTF8

instance {reference : Text} {file : String} : Decidable (Names reference file) :=
  inferInstanceAs (Decidable (_ = _))

/-- A percent sign and two hexadecimal digits stand somewhere. -/
def holdsEscape : List Char → Bool
  | '%' :: high :: low :: rest =>
    (hexNumber? [high, low]).isSome || holdsEscape (high :: low :: rest)
  | _ :: rest => holdsEscape rest
  | [] => false

/-- Read as a reference, the name stands for itself. -/
def isLiteral (name : List Char) : Bool :=
  !hasScheme name && name.all isPathChar && !holdsEscape name

variable {cs : List Char}

theorem bytes_cons (c : Char) (cs : List Char) :
    bytes (c :: cs) = String.utf8EncodeChar c ++ bytes cs := List.flatMap_cons

theorem bytes_append (cs more : List Char) : bytes (cs ++ more) = bytes cs ++ bytes more :=
  List.flatMap_append

theorem holdsEscape_cons {c : Char} {rest : List Char}
    (other : ∀ high low rest', c = '%' → rest = high :: low :: rest' → False) :
    holdsEscape (c :: rest) = holdsEscape rest := by
  rw [holdsEscape]
  exact other

/-- Without escapes a path stands for its own bytes. -/
theorem percentDecode_eq (h : holdsEscape cs = false) : percentDecode cs = bytes cs := by
  fun_induction percentDecode cs with
  | case1 high low rest n number ih => simp [holdsEscape, number] at h
  | case2 high low rest none ih =>
      rw [holdsEscape, none] at h
      rw [ih h]
      rfl
  | case3 c rest other ih =>
      rw [holdsEscape_cons other] at h
      rw [ih h]
      rfl
  | case4 => rfl

theorem one_le_length_utf8 (c : Char) : 1 ≤ (String.utf8EncodeChar c).length := by
  rw [String.length_utf8EncodeChar]
  exact c.utf8Size_pos

theorem length_bytes_cons (c : Char) (cs : List Char) :
    (bytes (c :: cs)).length = (String.utf8EncodeChar c).length + (bytes cs).length := by
  rw [bytes_cons, List.length_append]

/-- No path stands for more bytes than it has, and one with an escape, which is three
bytes and stands for one, for fewer. -/
theorem length_percentDecode (cs : List Char) :
    (percentDecode cs).length + (if holdsEscape cs then 1 else 0) ≤ (bytes cs).length := by
  fun_induction percentDecode cs with
  | case1 high low rest n number ih =>
      have high_one := one_le_length_utf8 high
      have low_one := one_le_length_utf8 low
      rw [length_bytes_cons, length_bytes_cons, length_bytes_cons, List.length_cons]
      have sign_one := one_le_length_utf8 '%'
      split <;> split at ih <;> omega
  | case2 high low rest none ih =>
      rw [holdsEscape, none, length_bytes_cons, List.length_append]
      simp only [Option.isSome_none, Bool.false_or]
      omega
  | case3 c rest other ih =>
      rw [holdsEscape_cons other, length_bytes_cons, List.length_append]
      omega
  | case4 => exact le_refl _

theorem length_bytes_pos {c : Char} (cs : List Char) (mem : c ∈ cs) : 0 < (bytes cs).length := by
  cases cs with
  | nil => cases mem
  | cons first rest =>
      have := one_le_length_utf8 first
      rw [length_bytes_cons]
      omega

/-- What a path stands for are the bytes of the whole reference exactly if the path is
all of it and holds no escape. -/
theorem percentDecode_path_eq_iff :
    percentDecode (path cs) = bytes cs ↔ cs.all isPathChar = true ∧ holdsEscape cs = false := by
  constructor
  · intro same
    have whole : path cs ++ cs.dropWhile isPathChar = cs := List.takeWhile_append_dropWhile
    have decoded := length_percentDecode (path cs)
    have lengths : (bytes (path cs)).length + (bytes (cs.dropWhile isPathChar)).length
        = (bytes cs).length := by
      rw [← List.length_append, ← bytes_append, whole]
    rw [same] at decoded
    have rest : cs.dropWhile isPathChar = [] := by
      by_contra some_rest
      obtain ⟨c, others, split⟩ := List.exists_cons_of_ne_nil some_rest
      have := length_bytes_pos (cs.dropWhile isPathChar) (split ▸ List.mem_cons_self)
      omega
    have all : path cs = cs := by rw [rest, List.append_nil] at whole; exact whole
    refine ⟨List.all_eq_true.2 (List.dropWhile_eq_nil_iff.1 rest), ?_⟩
    by_contra escape
    rw [all, if_pos (Bool.not_eq_false _ ▸ escape)] at decoded
    omega
  · rintro ⟨all, none⟩
    rw [path, List.takeWhile_eq_self_iff.2 (List.all_eq_true.1 all), percentDecode_eq none]

/-! ### Names with a suffix -/

/-- The suffix of the drawing's file. -/
def suffix : List Char := ".svg".toList

/-- The suffix ends no scheme. -/
theorem hasScheme_append_suffix (cs : List Char) : hasScheme (cs ++ suffix) = hasScheme cs := by
  cases cs with
  | nil => decide
  | cons c rest =>
      have none_dropped : suffix.dropWhile isSchemeChar = [] := by decide
      rw [List.cons_append, hasScheme, hasScheme, List.dropWhile_append, none_dropped]
      by_cases all : (rest.dropWhile isSchemeChar).isEmpty = true
      · rw [if_pos all, List.isEmpty_iff.1 all]
      · rw [if_neg all, List.head?_append_of_ne_nil _ (fun none => all (List.isEmpty_iff.2 none))]

/-- The point of the suffix is no digit, so no escape reaches into it. -/
theorem holdsEscape_append_suffix (cs : List Char) :
    holdsEscape (cs ++ suffix) = holdsEscape cs := by
  have point : ∀ c, hexNumber? [c, '.'] = none := by
    intro c
    cases value : hexValue? c with
    | none => simp [hexNumber?, value]
    | some n =>
        have no_digit : hexValue? '.' = none := by decide
        simp [hexNumber?, value, no_digit]
  fun_induction holdsEscape cs with
  | case1 high low rest ih =>
      rw [List.cons_append, List.cons_append, List.cons_append, holdsEscape, ← ih]
      rfl
  | case2 c rest other ih =>
      rw [List.cons_append]
      by_cases sign : c = '%'
      · subst sign
        rcases rest with _ | ⟨digit, _ | ⟨low, rest'⟩⟩
        · decide
        · have first : holdsEscape ('%' :: digit :: suffix) = holdsEscape (digit :: suffix) := by
            rw [suffix, String.toList_ofList, holdsEscape, point]
            rfl
          exact first.trans ih
        · exact (other digit low rest' rfl rfl).elim
      · rw [holdsEscape_cons fun _ _ _ same _ => sign same, ih]
  | case3 => decide

theorem toUTF8_eq (s : String) : s.toUTF8 = (bytes s.toList).toByteArray :=
  (String.utf8Encode_toList (b := s)).symm

/-- A name without slashes, its suffix behind it, names itself exactly if it is literal. -/
theorem names_iff {name : String} (inside : '/' ∉ name.toList) :
    Names (Text.ofString name ++ ".svg") (name ++ ".svg") ↔ isLiteral name.toList = true := by
  have characters : (name ++ ".svg").toList = name.toList ++ suffix := String.toList_append
  have read : (Text.ofString name ++ ".svg").chars? = some (name.toList ++ suffix) := by
    rw [← characters, ← Text.ofString_append]
    exact Text.chars?_ofChars _
  have stays : (path (name.toList ++ suffix)).contains '/' = false := by
    rw [← Bool.not_eq_true, List.contains_iff_mem]
    intro slash
    rcases List.mem_append.1 (List.takeWhile_subset _ slash) with slash | slash
    · exact inside slash
    · exact absurd slash (by decide)
  have all : (name.toList ++ suffix).all isPathChar = name.toList.all isPathChar := by
    rw [List.all_append]
    exact Bool.and_true _
  rw [Names, read, Option.bind_some, sibling?, stays, Bool.or_false, hasScheme_append_suffix,
    isLiteral]
  cases hasScheme name.toList with
  | true => simp
  | false =>
      rw [if_neg Bool.false_ne_true, Option.some.injEq, toUTF8_eq, List.toByteArray_inj, characters,
        percentDecode_path_eq_iff, all, holdsEscape_append_suffix]
      simp

end Reference

end TerminalReel
