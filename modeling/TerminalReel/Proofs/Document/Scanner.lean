import TerminalReel.Proofs.Document.Entities
import TerminalReel.Proofs.Numeric.Plain
/-!
# TerminalReel.Proofs.Document.Scanner

A **reader of documents**, and what it makes of the pieces that are printed.

The reader cuts a document into tags, from `<` up to the next `>`, and the code
points between them. It knows nothing of how documents are printed. A tag has a
name, up to the first space, and attributes, each a name and a quoted value; an
element's content is the text between its tags, whatever tags stand in between.

What is escaped holds none of the characters that the reader looks for. So it
passes over every text that a user writes (`tokensFrom_text`,
`attributesFrom_render`), in tags and between them.
-/

namespace TerminalReel

namespace Markup

/-! ### Tags and text -/

/-- A piece of a document: what stands in a tag, or a code point between tags. -/
inductive Token
  | tag (inside : List CodePoint)
  | point (point : CodePoint)
  deriving DecidableEq

/-- The pieces of a document, behind `<` and what has been seen since, if a tag is
open. A tag that never ends is text. -/
def tokensFrom : Option (List CodePoint) → List CodePoint → List Token
  | none, [] => []
  | some seen, [] => (CodePoint.char '<' :: seen).map .point
  | none, point :: rest =>
    if point = .char '<' then tokensFrom (some []) rest else .point point :: tokensFrom none rest
  | some seen, point :: rest =>
    if point = .char '>' then .tag seen :: tokensFrom none rest
    else tokensFrom (some (seen ++ [point])) rest

/-- The pieces of a document. -/
def tokens (document : Text) : List Token := tokensFrom none document.points

/-! ### Inside a tag -/

/-- Where a reader of attributes stands. -/
inductive AttributeState
  /-- Behind the name of the tag or behind an attribute. -/
  | between
  /-- In the name of an attribute, of which this has been seen. -/
  | name (seen : List CodePoint)
  /-- In the value of an attribute, of which this has been seen. -/
  | value (name seen : List CodePoint)

/-- The attributes that follow in a tag, their values without quotes and references. -/
def attributesFrom : AttributeState → List CodePoint → List (Text × Text)
  | _, [] => []
  | .between, point :: rest =>
    if point = .char ' ' then attributesFrom (.name []) rest else attributesFrom .between rest
  | .name seen, point :: rest =>
    if point = .char '"' then attributesFrom (.value seen []) rest
    else if point = .char '=' then attributesFrom (.name seen) rest
    else attributesFrom (.name (seen ++ [point])) rest
  | .value name seen, point :: rest =>
    if point = .char '"' then (⟨name⟩, decode ⟨seen⟩) :: attributesFrom .between rest
    else attributesFrom (.value name (seen ++ [point])) rest

/-- A tag: its name, behind `/` if it closes an element, and its attributes. -/
structure Tag where
  name : Text
  attributes : List (Text × Text) := []
  deriving DecidableEq

/-- The name of a tag: what stands in it before the first space. -/
def tagName (inside : List CodePoint) : Text := ⟨inside.takeWhile (· ≠ .char ' ')⟩

/-- The tag in which this stands. -/
def Tag.read (inside : List CodePoint) : Tag :=
  ⟨tagName inside, attributesFrom .between (inside.dropWhile (· ≠ .char ' '))⟩

/-- The values of the attributes of a name. -/
def Tag.valuesOf (tag : Tag) (name : Text) : List Text :=
  (tag.attributes.filter (·.1 = name)).map (·.2)

/-- The tag, if the token is one. -/
def Token.tag? : Token → Option Tag
  | .tag inside => some (.read inside)
  | .point _ => none

/-- The tags of a document, in order. -/
def tags (document : Text) : List Tag := (tokens document).filterMap Token.tag?

/-! ### Inside an element -/

/-- The contents of the elements of a name, behind the opening tag of one and what has
been seen since, if one is open. -/
def contentsFrom (name : Text) : Option (List CodePoint) → List Token → List Text
  | none, [] => []
  | some seen, [] => [⟨seen⟩]
  | none, .point _ :: rest => contentsFrom name none rest
  | some seen, .point point :: rest => contentsFrom name (some (seen ++ [point])) rest
  | none, .tag inside :: rest =>
    if tagName inside = name then contentsFrom name (some []) rest else contentsFrom name none rest
  | some seen, .tag inside :: rest =>
    if tagName inside = "/" ++ name then ⟨seen⟩ :: contentsFrom name none rest
    else contentsFrom name (some seen) rest

/-- What stands between the tags of each element of a name, in order: the text alone,
as it is written. -/
def contents (name document : Text) : List Text := contentsFrom name none (tokens document)

/-! ### Printed pieces -/

section Tokens

variable {points inside : List CodePoint}

/-- Text without `<` is text. -/
theorem tokensFrom_text (clean : .char '<' ∉ points) (rest : List CodePoint) :
    tokensFrom none (points ++ rest) = points.map .point ++ tokensFrom none rest := by
  induction points with
  | nil => rfl
  | cons point others ih =>
      have here := List.ne_of_not_mem_cons clean
      have there := List.not_mem_of_not_mem_cons clean
      rw [List.cons_append, tokensFrom, if_neg (Ne.symm here), ih there]
      rfl

/-- A tag is closed by the first `>`. -/
theorem tokensFrom_inside (seen : List CodePoint) (clean : .char '>' ∉ inside)
    (rest : List CodePoint) :
    tokensFrom (some seen) (inside ++ .char '>' :: rest)
      = .tag (seen ++ inside) :: tokensFrom none rest := by
  induction inside generalizing seen with
  | nil => simp [tokensFrom]
  | cons point others ih =>
      have here := List.ne_of_not_mem_cons clean
      have there := List.not_mem_of_not_mem_cons clean
      rw [List.cons_append, tokensFrom, if_neg (Ne.symm here), ih _ there]
      simp

/-- What stands between `<` and the first `>` is a tag. -/
theorem tokensFrom_tag (clean : .char '>' ∉ inside) (rest : List CodePoint) :
    tokensFrom none (.char '<' :: inside ++ .char '>' :: rest)
      = .tag inside :: tokensFrom none rest :=
  tokensFrom_inside [] clean rest

end Tokens

/-- What is escaped holds no character that the reader looks for. -/
theorem escape_clean (text : Text) : ∀ point ∈ (escape text).points,
    point ≠ .char '<' ∧ point ≠ .char '>' ∧ point ≠ .char '"' := by
  intro point mem
  obtain ⟨original, -, mem⟩ := List.mem_flatMap.1 mem
  cases original with
  | surrogate offset =>
      obtain rfl := List.mem_singleton.1 mem
      simp
  | char c =>
      obtain ⟨d, escaped, rfl⟩ := List.mem_map.1 mem
      simpa using escapeChar_clean c d escaped

/-- The text of a string holds no character that fails the test. -/
theorem not_mem_points {test : Char → Bool} {s : String} (all : Consists test s)
    {c : Char} (other : test c = false) : .char c ∉ (Text.ofString s).points := by
  intro mem
  obtain ⟨d, mem, same⟩ := List.mem_map.1 mem
  rw [CodePoint.char.inj same] at mem
  exact all.not_mem other mem

section Attributes

variable {name : String} {seen : List CodePoint}

theorem attributesFrom_name (plain : Plain name) (rest : List CodePoint) :
    attributesFrom (.name seen) ((Text.ofString name).points ++ rest)
      = attributesFrom (.name (seen ++ (Text.ofString name).points)) rest := by
  have quote := not_mem_points plain (c := '"') rfl
  have equals := not_mem_points plain (c := '=') rfl
  generalize (Text.ofString name).points = points at quote equals
  induction points generalizing seen with
  | nil => simp
  | cons point others ih =>
      rw [List.cons_append, attributesFrom, if_neg (Ne.symm (List.ne_of_not_mem_cons quote)),
        if_neg (Ne.symm (List.ne_of_not_mem_cons equals)),
        ih (List.not_mem_of_not_mem_cons quote) (List.not_mem_of_not_mem_cons equals)]
      simp

theorem attributesFrom_value {name points : List CodePoint} (clean : .char '"' ∉ points)
    (rest : List CodePoint) : attributesFrom (.value name seen) (points ++ .char '"' :: rest)
      = (⟨name⟩, decode ⟨seen ++ points⟩) :: attributesFrom .between rest := by
  induction points generalizing seen with
  | nil => simp [attributesFrom]
  | cons point others ih =>
      have here := List.ne_of_not_mem_cons clean
      have there := List.not_mem_of_not_mem_cons clean
      rw [List.cons_append, attributesFrom, if_neg (Ne.symm here), ih there]
      simp

/-- A printed attribute is read as it was, whatever its value is. -/
theorem attributesFrom_renderAttribute (plain : Plain name) (value : Text)
    (rest : List CodePoint) :
    attributesFrom .between ((renderAttribute name value).points ++ rest)
      = (Text.ofString name, value) :: attributesFrom .between rest := by
  have printed : (renderAttribute name value).points ++ rest = .char ' ' ::
      ((Text.ofString name).points ++
        .char '=' :: .char '"' :: ((escape value).points ++ .char '"' :: rest)) := by
    simp [renderAttribute]
  have clean : .char '"' ∉ (escape value).points := fun mem => (escape_clean value _ mem).2.2 rfl
  rw [printed, attributesFrom, if_pos rfl, attributesFrom_name plain, List.nil_append,
    attributesFrom, if_neg (by decide), if_pos rfl, attributesFrom, if_pos rfl,
    attributesFrom_value clean, List.nil_append]
  exact congrArg (fun read => (_, read) :: _) (decode_escape value)

end Attributes

end Markup

end TerminalReel
