import TerminalReel.Text.Basic
/-!
# TerminalReel.Document.Markup

Documents as **trees of elements**, and their printed form.

Text and attribute values are kept as they are meant and escaped when they are
printed, here and nowhere else, so no user text can end an attribute or begin a
tag. Blocks stand on lines of their own, each level two spaces deeper; what is
inside a line is not broken.
-/

namespace TerminalReel

namespace Markup

/-- What a character becomes in text and in attribute values. -/
def escapeChar : Char → List Char
  | '&' => "&amp;".toList
  | '<' => "&lt;".toList
  | '>' => "&gt;".toList
  | '"' => "&quot;".toList
  | '\'' => "&#x27;".toList
  | c => [c]

/-- Text that stands for itself in a document. -/
def escape (text : Text) : Text := text.expand escapeChar

/-- The names and values of an element's attributes, in order. -/
abbrev Attributes := List (String × Text)

/-- A printed attribute behind a space. -/
def renderAttribute (name : String) (value : Text) : Text :=
  Text.ofString (" " ++ name ++ "=\"") ++ escape value ++ Text.ofString "\""

/-- Printed attributes, each behind a space. -/
def renderAttributes (attributes : Attributes) : Text :=
  Text.join (attributes.map fun (name, value) => renderAttribute name value)

/-- An opening tag, up to this end. -/
def tag (name : String) (attributes : Attributes) (ending : String := ">") : Text :=
  Text.ofString ("<" ++ name) ++ renderAttributes attributes ++ Text.ofString ending

/-- A closing tag. -/
def closeTag (name : String) : Text := Text.ofString ("</" ++ name ++ ">")

/-- Content within a line. -/
inductive Inline
  /-- Text. -/
  | text (content : Text)
  /-- An element around content. -/
  | element (name : String) (attributes : Attributes) (children : List Inline)

/-- Content on lines of its own. -/
inductive Block
  /-- An element that fits a line. -/
  | line (name : String) (attributes : Attributes) (children : List Inline)
  /-- An element without content, closed in its own tag. -/
  | empty (name : String) (attributes : Attributes)
  /-- An element that has no content and no closing tag. -/
  | single (name : String) (attributes : Attributes)
  /-- An element around blocks, its tags on lines of their own. -/
  | element (name : String) (attributes : Attributes) (children : List Block)
  /-- Text of another language, put in as it is. -/
  | verbatim (content : Text)
  /-- Blocks that begin at the margin again. -/
  | margin (children : List Block)

mutual

/-- Content within a line as printed. -/
def Inline.render : Inline → Text
  | .text content => escape content
  | .element name attributes children =>
    tag name attributes ++ renderInlines children ++ closeTag name

/-- A run of contents within a line as printed. -/
def renderInlines : List Inline → Text
  | [] => default
  | first :: rest => first.render ++ renderInlines rest

end

/-- The spaces before a line at this depth. -/
def indent (depth : Nat) : Text := .ofChars (List.replicate (2 * depth) ' ')

mutual

/-- The printed lines of a block. -/
def Block.lines (depth : Nat) : Block → List Text
  | .line name attributes children =>
    [indent depth ++ tag name attributes ++ renderInlines children ++ closeTag name]
  | .empty name attributes => [indent depth ++ tag name attributes " />"]
  | .single name attributes => [indent depth ++ tag name attributes]
  | .element name attributes children =>
    (indent depth ++ tag name attributes) :: blockLines (depth + 1) children
      ++ [indent depth ++ closeTag name]
  | .verbatim content => [content]
  | .margin children => blockLines 0 children

/-- The printed lines of a run of blocks. -/
def blockLines (depth : Nat) : List Block → List Text
  | [] => []
  | first :: rest => first.lines depth ++ blockLines depth rest

end

/-- Lines as one text, without an end of line after the last. -/
def joinLines (lines : List Text) : Text := Text.intercalate "\n" lines

/-! ### Escaping, character by character -/

theorem escape_append (a b : Text) : escape (a ++ b) = escape a ++ escape b :=
  Text.expand_append escapeChar a b

/-- An escaped character neither begins or ends a tag nor ends an attribute. -/
theorem escapeChar_clean (c : Char) : ∀ d ∈ escapeChar c, d ≠ '<' ∧ d ≠ '>' ∧ d ≠ '"' := by
  unfold escapeChar
  split
  · simp
  · simp
  · simp
  · simp
  · simp
  · rename_i h1 h2 h3 h4 h5
    simp only [List.mem_singleton]
    rintro d rfl
    exact ⟨h2, h3, h4⟩

end Markup

end TerminalReel
