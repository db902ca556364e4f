import TerminalReel.Proofs.Document.Scanner
/-!
# TerminalReel.Proofs.Document.Tree

**Trees of markup read again**: a printed tree is scanned into the tags and texts of
the tree, whatever its texts and the values of its attributes are.

The tokens of a tree are written down by its shape (`Block.tokens`), and scanning
what is printed gives them back (`tokensFrom_lines`). The two views of a document
are then functions of the tree: its tags (`Block.tags`), which the indentation does
not touch, and the texts of its elements of one name (`Block.textsOf`).
-/

namespace TerminalReel

namespace Markup

/-! ### Sound trees -/

/-- Names are plain, so that the reader finds where they end. -/
def PlainTag (name : String) (attributes : Attributes) : Prop :=
  Plain name ∧ ∀ pair ∈ attributes, Plain pair.1

mutual

/-- Every tag in the content is plain. -/
def Inline.Sound : Inline → Prop
  | .text _ => True
  | .element name attributes children => PlainTag name attributes ∧ SoundInlines children

/-- Every tag in the contents is plain. -/
def SoundInlines : List Inline → Prop
  | [] => True
  | first :: rest => first.Sound ∧ SoundInlines rest

end

mutual

/-- Every tag in the block is plain, and text of another language holds no tag. -/
def Block.Sound : Block → Prop
  | .line name attributes children => PlainTag name attributes ∧ SoundInlines children
  | .empty name attributes | .single name attributes => PlainTag name attributes
  | .element name attributes children => PlainTag name attributes ∧ SoundBlocks children
  | .verbatim content => .char '<' ∉ content.points
  | .margin children => SoundBlocks children

/-- The blocks are sound. -/
def SoundBlocks : List Block → Prop
  | [] => True
  | first :: rest => first.Sound ∧ SoundBlocks rest

end

theorem soundBlocks_append {blocks more : List Block} :
    SoundBlocks (blocks ++ more) ↔ SoundBlocks blocks ∧ SoundBlocks more := by
  induction blocks with
  | nil => exact (and_iff_right trivial).symm
  | cons first rest ih => exact (and_congr_right fun _ => ih).trans and_assoc.symm

/-! ### Tokens of a tree -/

/-- What stands in a printed tag. -/
def tagInside (name : String) (attributes : Attributes) (ending : String := "") :
    List CodePoint :=
  (Text.ofString name ++ renderAttributes attributes ++ Text.ofString ending).points

/-- The token of an opening tag. -/
def openToken (name : String) (attributes : Attributes) : Token := .tag (tagInside name attributes)

/-- The token of a closing tag. -/
def closeToken (name : String) : Token := .tag (Text.ofString ("/" ++ name)).points

/-- The tokens of text. -/
def textTokens (text : Text) : List Token := text.points.map .point

/-- The tokens at the beginning of a line at this depth. -/
def lineStart (depth : Nat) : List Token := .point (.char '\n') :: textTokens (indent depth)

mutual

/-- The tokens of content. -/
def Inline.tokens : Inline → List Token
  | .text content => textTokens (escape content)
  | .element name attributes children =>
    openToken name attributes :: inlineTokens children ++ [closeToken name]

/-- The tokens of a run of contents. -/
def inlineTokens : List Inline → List Token
  | [] => []
  | first :: rest => first.tokens ++ inlineTokens rest

end

mutual

/-- The tokens of a block on lines of its own, each behind the end of the line before. -/
def Block.tokens (depth : Nat) : Block → List Token
  | .line name attributes children =>
    lineStart depth ++ openToken name attributes :: inlineTokens children ++ [closeToken name]
  | .empty name attributes => lineStart depth ++ [.tag (tagInside name attributes " /")]
  | .single name attributes => lineStart depth ++ [openToken name attributes]
  | .element name attributes children =>
    lineStart depth ++ openToken name attributes :: blockTokens (depth + 1) children ++
      lineStart depth ++ [closeToken name]
  | .verbatim content => .point (.char '\n') :: textTokens content
  | .margin children => blockTokens 0 children

/-- The tokens of a run of blocks. -/
def blockTokens (depth : Nat) : List Block → List Token
  | [] => []
  | first :: rest => first.tokens depth ++ blockTokens depth rest

end

/-- Lines that follow others. -/
def continued (lines : List Text) : List CodePoint :=
  lines.flatMap fun line => .char '\n' :: line.points

theorem continued_append (lines more : List Text) :
    continued (lines ++ more) = continued lines ++ continued more :=
  List.flatMap_append

theorem points_joinLines (first : Text) (rest : List Text) :
    (joinLines (first :: rest)).points = first.points ++ continued rest := by
  induction rest generalizing first with
  | nil => simp [joinLines, Text.intercalate, continued, List.intercalate]
  | cons second rest ih =>
      have later := ih second
      simp only [joinLines, Text.intercalate, List.map_cons, List.intercalate_cons_cons] at later ⊢
      rw [later]
      simp [continued]

/-! ### Scanning what is printed -/

/-- The points are scanned into these tokens, whatever follows them. -/
def Scans (points : List CodePoint) (read : List Token) : Prop :=
  ∀ rest, tokensFrom none (points ++ rest) = read ++ tokensFrom none rest

/-- What is scanned of two texts is scanned of both, one behind the other. -/
theorem Scans.append {points points' : List CodePoint} {read read' : List Token}
    (first : Scans points read) (second : Scans points' read') :
    Scans (points ++ points') (read ++ read') := fun rest => by
  rw [List.append_assoc, first, second, List.append_assoc]

theorem scans_text (text : Text) (clean : .char '<' ∉ text.points) :
    Scans text.points (textTokens text) :=
  tokensFrom_text clean

theorem renderAttributes_cons (name : String) (value : Text) (rest : Attributes) :
    renderAttributes ((name, value) :: rest)
      = renderAttribute name value ++ renderAttributes rest := rfl

theorem renderAttributes_append (first second : Attributes) :
    renderAttributes (first ++ second) = renderAttributes first ++ renderAttributes second := by
  ext1
  simp [renderAttributes, Text.join]

variable {name ending : String} {attributes : Attributes}

theorem not_mem_renderAttributes (plain : ∀ pair ∈ attributes, Plain pair.1) :
    .char '>' ∉ (renderAttributes attributes).points := by
  intro mem
  obtain ⟨_, printed, mem⟩ := List.mem_flatMap.1 mem
  obtain ⟨⟨name, value⟩, pair, rfl⟩ := List.mem_map.1 printed
  have in_name := not_mem_points (plain _ pair) (c := '>') rfl
  have in_value : .char '>' ∉ (escape value).points := fun mem => (escape_clean value _ mem).2.1 rfl
  simp [renderAttribute] at mem in_name
  simp_all

theorem scans_inside {inside : List CodePoint} (clean : .char '>' ∉ inside) :
    Scans (.char '<' :: inside ++ [.char '>']) [.tag inside] := fun rest => by
  rw [List.append_assoc]
  exact tokensFrom_tag clean rest

theorem scans_tag (plain : PlainTag name attributes) (ending : String)
    (open_ending : '>' ∉ ending.toList) :
    Scans (tag name attributes (ending ++ ">")).points
      [.tag (tagInside name attributes ending)] := by
  have in_name := not_mem_points plain.1 (c := '>') rfl
  have in_attributes := not_mem_renderAttributes plain.2
  have printed : (tag name attributes (ending ++ ">")).points
      = .char '<' :: tagInside name attributes ending ++ [.char '>'] := by
    simp [tag, tagInside]
  rw [printed]
  apply scans_inside
  simp_all [tagInside]

theorem scans_closeTag (plain : Plain name) :
    Scans (closeTag name).points [closeToken name] := by
  have in_name := not_mem_points plain (c := '>') rfl
  have printed : (closeTag name).points
      = .char '<' :: (Text.ofString ("/" ++ name)).points ++ [.char '>'] := by
    simp [closeTag]
  rw [printed]
  apply scans_inside
  simp_all

/-- An escaped text is scanned as one text. -/
theorem scans_escape (text : Text) : Scans (escape text).points (textTokens (escape text)) :=
  scans_text _ fun mem => (escape_clean text _ mem).1 rfl

theorem scans_lineStart (depth : Nat) :
    Scans (.char '\n' :: (indent depth).points) (lineStart depth) := by
  refine scans_text ⟨.char '\n' :: (indent depth).points⟩ ?_
  simp [indent, Text.ofChars]

mutual

/-- Content within a line is scanned into its tokens. -/
theorem Inline.scans_render :
    ∀ content : Inline, content.Sound → Scans content.render.points content.tokens
  | .text content, _ => scans_escape content
  | .element _ _ children, ⟨plain, sound⟩ =>
    ((scans_tag plain "" (by simp)).append (scans_renderInlines children sound)).append
      (scans_closeTag plain.1)

/-- What stands within a line is scanned as its tags and texts. -/
theorem scans_renderInlines :
    ∀ contents : List Inline, SoundInlines contents →
      Scans (renderInlines contents).points (inlineTokens contents)
  | [], _ => fun _ => rfl
  | first :: rest, ⟨sound, others⟩ =>
    (Inline.scans_render first sound).append (scans_renderInlines rest others)

end

mutual

/-- A block is scanned into its tokens. -/
theorem Block.scans_lines :
    ∀ (depth : Nat) (block : Block), block.Sound →
      Scans (continued (block.lines depth)) (block.tokens depth)
  | depth, .line name attributes children, ⟨plain, sound⟩ => by
    have scans := (((scans_lineStart depth).append
      (scans_tag plain "" (by simp))).append
      (scans_renderInlines children sound)).append (scans_closeTag plain.1)
    simpa [Block.lines, Block.tokens, continued, openToken] using scans
  | depth, .empty name attributes, plain => by
    have scans := (scans_lineStart depth).append (scans_tag plain " /" (by simp))
    simpa [Block.lines, Block.tokens, continued] using scans
  | depth, .single name attributes, plain => by
    have scans := (scans_lineStart depth).append (scans_tag plain "" (by simp))
    simpa [Block.lines, Block.tokens, continued, openToken] using scans
  | depth, .element name attributes children, ⟨plain, sound⟩ => by
    have scans := ((((scans_lineStart depth).append
      (scans_tag plain "" (by simp))).append
      (scans_blockLines (depth + 1) children sound)).append (scans_lineStart depth)).append
      (scans_closeTag plain.1)
    simpa [Block.lines, Block.tokens, continued, openToken] using scans
  | depth, .verbatim content, clean => by
    have scans := scans_text ⟨.char '\n' :: content.points⟩
      (by simpa [Block.Sound] using clean)
    simpa [Block.lines, Block.tokens, continued, textTokens] using scans
  | depth, .margin children, sound => scans_blockLines 0 children sound

/-- The lines of blocks are scanned as their tags and texts. By induction on the blocks, as
they are written. -/
theorem scans_blockLines :
    ∀ (depth : Nat) (blocks : List Block), SoundBlocks blocks →
      Scans (continued (blockLines depth blocks)) (blockTokens depth blocks)
  | _, [], _ => fun _ => rfl
  | depth, first :: rest, ⟨sound, others⟩ => by
    rw [blockLines, continued_append]
    exact (Block.scans_lines depth first sound).append (scans_blockLines depth rest others)

end

/-! ### Tags of a tree -/

/-- The opening tag of an element. -/
def Tag.opening (name : String) (attributes : Attributes) : Tag :=
  ⟨name, attributes.map fun (name, value) => (Text.ofString name, value)⟩

/-- The closing tag of an element. -/
def Tag.closing (name : String) : Tag := ⟨Text.ofString ("/" ++ name), []⟩

@[simp] theorem Tag.name_opening (name : String) (attributes : Attributes) :
    (Tag.opening name attributes).name = name := rfl

@[simp] theorem Tag.name_closing (name : String) :
    (Tag.closing name).name = Text.ofString ("/" ++ name) := rfl

@[simp] theorem Tag.valuesOf_opening (name : String) (attributes : Attributes) (sought : String) :
    (Tag.opening name attributes).valuesOf sought
      = (attributes.filter (·.1 = sought)).map (·.2) := by
  simp [Tag.opening, Tag.valuesOf, List.filter_map, Function.comp_def]

@[simp] theorem Tag.valuesOf_closing (name : String) (sought : Text) :
    (Tag.closing name).valuesOf sought = [] := rfl

mutual

/-- The tags of content. -/
def Inline.tags : Inline → List Tag
  | .text _ => []
  | .element name attributes children =>
    .opening name attributes :: inlineTags children ++ [.closing name]

/-- The tags of a run of contents. -/
def inlineTags : List Inline → List Tag
  | [] => []
  | first :: rest => first.tags ++ inlineTags rest

end

mutual

/-- The tags of a block. -/
def Block.tags : Block → List Tag
  | .line name attributes children =>
    .opening name attributes :: inlineTags children ++ [.closing name]
  | .empty name attributes | .single name attributes => [.opening name attributes]
  | .element name attributes children =>
    .opening name attributes :: blockTags children ++ [.closing name]
  | .verbatim _ => []
  | .margin children => blockTags children

/-- The tags of a run of blocks. -/
def blockTags : List Block → List Tag
  | [] => []
  | first :: rest => first.tags ++ blockTags rest

end

theorem blockTags_append (blocks more : List Block) :
    blockTags (blocks ++ more) = blockTags blocks ++ blockTags more := by
  induction blocks with
  | nil => rfl
  | cons first rest ih =>
      rw [List.cons_append, blockTags, blockTags, ih, List.append_assoc]

/-- The attributes of a tag are read as they were given. -/
theorem attributesFrom_renderAttributes (name : String)
    (plain : ∀ pair ∈ attributes, Plain pair.1) (rest : List CodePoint) :
    attributesFrom .between ((renderAttributes attributes).points ++ rest)
      = (Tag.opening name attributes).attributes ++ attributesFrom .between rest := by
  induction attributes with
  | nil => rfl
  | cons pair others ih =>
      obtain ⟨first, later⟩ := List.forall_mem_cons.1 plain
      rw [renderAttributes_cons, Text.points_append, List.append_assoc,
        attributesFrom_renderAttribute first, ih later]
      rfl

/-- A name ends where a space follows or nothing. -/
theorem read_append {front behind : List CodePoint} (no_space : .char ' ' ∉ front)
    (space : ∀ point ∈ behind.head?, point = .char ' ') :
    Tag.read (front ++ behind) = ⟨⟨front⟩, attributesFrom .between behind⟩ := by
  have before : ∀ point ∈ front, (point ≠ .char ' ' : Bool) = true := by
    intro point mem
    rw [decide_eq_true_iff]
    rintro rfl
    exact no_space mem
  have stop : behind.takeWhile (· ≠ .char ' ') = [] ∧
      behind.dropWhile (· ≠ .char ' ') = behind := by
    cases behind with
    | nil => simp
    | cons point rest =>
        obtain rfl := space point rfl
        simp
  rw [Tag.read, tagName, List.takeWhile_append_of_pos before, List.dropWhile_append_of_pos before,
    stop.1, stop.2, List.append_nil]

/-- What stands in a printed tag is read as its name and its attributes. -/
theorem read_tagInside (plain : PlainTag name attributes) (behind : ending = "" ∨ ending = " /") :
    Tag.read (tagInside name attributes ending) = .opening name attributes := by
  have space : ∀ point ∈ ((renderAttributes attributes).points ++
      (Text.ofString ending).points).head?, point = .char ' ' := by
    cases attributes with
    | nil => rcases behind with rfl | rfl <;> simp [renderAttributes, Text.join]
    | cons pair others => simp [renderAttributes, Text.join, renderAttribute]
  have nothing : attributesFrom .between (Text.ofString ending).points = [] := by
    rcases behind with rfl | rfl <;> decide
  have inside : tagInside name attributes ending = (Text.ofString name).points ++
      ((renderAttributes attributes).points ++ (Text.ofString ending).points) := by
    simp [tagInside]
  rw [inside, read_append (not_mem_points plain.1 rfl) space,
    attributesFrom_renderAttributes name plain.2, nothing, List.append_nil]
  rfl

theorem read_closeInside (plain : Plain name) :
    Tag.read (Text.ofString ("/" ++ name)).points = .closing name := by
  have no_space : .char ' ' ∉ (Text.ofString ("/" ++ name)).points := by
    have := not_mem_points plain (c := ' ') rfl
    simp_all
  have nothing : ∀ point ∈ ([] : List CodePoint).head?, point = .char ' ' := by simp
  have read := read_append no_space nothing
  rwa [List.append_nil] at read

/-- The tags among tokens. -/
def tagsOf (read : List Token) : List Tag := read.filterMap Token.tag?

@[simp] theorem tagsOf_append (read more : List Token) :
    tagsOf (read ++ more) = tagsOf read ++ tagsOf more :=
  List.filterMap_append

@[simp] theorem tagsOf_nil : tagsOf [] = [] := rfl

/-- A tag that is written with attributes is read with them. -/
theorem tagsOf_tagInside (plain : PlainTag name attributes) (behind : ending = "" ∨ ending = " /")
    (rest : List Token) : tagsOf (.tag (tagInside name attributes ending) :: rest)
      = .opening name attributes :: tagsOf rest :=
  congrArg (· :: tagsOf rest) (read_tagInside plain behind)

theorem tagsOf_openToken (plain : PlainTag name attributes) (rest : List Token) :
    tagsOf (openToken name attributes :: rest) = .opening name attributes :: tagsOf rest :=
  tagsOf_tagInside plain (Or.inl rfl) rest

theorem tagsOf_closeToken (plain : Plain name) (rest : List Token) :
    tagsOf (closeToken name :: rest) = .closing name :: tagsOf rest :=
  congrArg (· :: tagsOf rest) (read_closeInside plain)

@[simp] theorem tagsOf_textTokens (text : Text) : tagsOf (textTokens text) = [] := by
  simp [tagsOf, textTokens, Token.tag?]

@[simp] theorem tagsOf_lineStart (depth : Nat) : tagsOf (lineStart depth) = [] :=
  tagsOf_textTokens (indent depth)

mutual

/-- The tags among the tokens of content are its tags. -/
theorem Inline.tagsOf_tokens :
    ∀ content : Inline, content.Sound → tagsOf content.tokens = content.tags
  | .text content, _ => tagsOf_textTokens _
  | .element _ _ children, ⟨plain, sound⟩ => by
    simp [Inline.tokens, Inline.tags, tagsOf_openToken plain, tagsOf_closeToken plain.1,
      tagsOf_inlineTokens children sound]

theorem tagsOf_inlineTokens :
    ∀ contents : List Inline, SoundInlines contents →
      tagsOf (inlineTokens contents) = inlineTags contents
  | [], _ => rfl
  | first :: rest, ⟨sound, others⟩ => by
    rw [inlineTokens, tagsOf_append, first.tagsOf_tokens sound, tagsOf_inlineTokens rest others]
    rfl

end

mutual

/-- The tags among the tokens of a block are its tags, however deep it stands. -/
theorem Block.tagsOf_tokens :
    ∀ (depth : Nat) (block : Block), block.Sound → tagsOf (block.tokens depth) = block.tags
  | depth, .line _ _ children, ⟨plain, sound⟩ => by
    simp [Block.tokens, Block.tags, tagsOf_openToken plain, tagsOf_closeToken plain.1,
      tagsOf_inlineTokens children sound]
  | depth, .empty _ _, plain => by
    simp [Block.tokens, Block.tags, tagsOf_tagInside plain (Or.inr rfl)]
  | depth, .single _ _, plain => by
    simp [Block.tokens, Block.tags, tagsOf_openToken plain]
  | depth, .element _ _ children, ⟨plain, sound⟩ => by
    simp [Block.tokens, Block.tags, tagsOf_openToken plain, tagsOf_closeToken plain.1,
      tagsOf_blockTokens (depth + 1) children sound]
  | _, .verbatim content, _ => tagsOf_textTokens content
  | _, .margin children, sound => tagsOf_blockTokens 0 children sound

theorem tagsOf_blockTokens :
    ∀ (depth : Nat) (blocks : List Block), SoundBlocks blocks →
      tagsOf (blockTokens depth blocks) = blockTags blocks
  | _, [], _ => rfl
  | depth, first :: rest, ⟨sound, others⟩ => by
    rw [blockTokens, tagsOf_append, first.tagsOf_tokens depth sound,
      tagsOf_blockTokens depth rest others]
    rfl

end

/-! ### Texts of a tree -/

mutual

/-- The text of content. -/
def Inline.plainText : Inline → Text
  | .text content => content
  | .element _ _ children => inlinesText children

/-- The text of a run of contents. -/
def inlinesText : List Inline → Text
  | [] => default
  | first :: rest => first.plainText ++ inlinesText rest

end

mutual

/-- No element of this name stands in the content. -/
def Inline.Avoids (avoided : String) : Inline → Prop
  | .text _ => True
  | .element name _ children => name ≠ avoided ∧ AvoidedBy avoided children

/-- No element of this name stands in the contents. -/
def AvoidedBy (avoided : String) : List Inline → Prop
  | [] => True
  | first :: rest => first.Avoids avoided ∧ AvoidedBy avoided rest

end

mutual

/-- Elements of this name fit a line, and none stands in another. -/
def Block.Flat (named : String) : Block → Prop
  | .line _ _ children => AvoidedBy named children
  | .empty name _ | .single name _ => name ≠ named
  | .element name _ children => name ≠ named ∧ FlatBlocks named children
  | .verbatim _ => True
  | .margin children => FlatBlocks named children

/-- Elements of this name fit a line, and none stands in another. -/
def FlatBlocks (named : String) : List Block → Prop
  | [] => True
  | first :: rest => first.Flat named ∧ FlatBlocks named rest

end

mutual

/-- The texts of the elements of this name. -/
def Block.textsOf (named : String) : Block → List Text
  | .line name _ children => if name = named then [inlinesText children] else []
  | .empty _ _ | .single _ _ | .verbatim _ => []
  | .element _ _ children | .margin children => blockTexts named children

/-- The texts of the elements of this name. -/
def blockTexts (named : String) : List Block → List Text
  | [] => []
  | first :: rest => first.textsOf named ++ blockTexts named rest

end

theorem flatBlocks_append {named : String} {blocks more : List Block} :
    FlatBlocks named (blocks ++ more) ↔ FlatBlocks named blocks ∧ FlatBlocks named more := by
  induction blocks with
  | nil => exact (and_iff_right trivial).symm
  | cons first rest ih => exact (and_congr_right fun _ => ih).trans and_assoc.symm

theorem blockTexts_append (named : String) (blocks more : List Block) :
    blockTexts named (blocks ++ more) = blockTexts named blocks ++ blockTexts named more := by
  induction blocks with
  | nil => rfl
  | cons first rest ih =>
      rw [List.cons_append, blockTexts, blockTexts, ih, List.append_assoc]

section Contents

variable {named : String} {state : Option (List CodePoint)}

theorem tagName_tagInside (plain : PlainTag name attributes)
    (behind : ending = "" ∨ ending = " /") : tagName (tagInside name attributes ending) = name :=
  congrArg Tag.name (read_tagInside plain behind)

theorem tagName_closeInside (plain : Plain name) :
    tagName (Text.ofString ("/" ++ name)).points = Text.ofString ("/" ++ name) :=
  congrArg Tag.name (read_closeInside plain)

theorem slash_append (name : String) :
    ("/" : Text) ++ Text.ofString name = Text.ofString ("/" ++ name) :=
  (Text.ofString_append "/" name).symm

/-- A plain name is not that of a closing tag. -/
theorem ne_slash_append (plain : Plain named) (name : String) : "/" ++ name ≠ named := by
  rintro rfl
  exact plain.not_mem (c := '/') rfl (by simp)

/-- Text counts where an element is open. -/
theorem contentsFrom_text (state : Option (List CodePoint)) (name text : Text)
    (rest : List Token) :
    contentsFrom name state (textTokens text ++ rest)
      = contentsFrom name (state.map (· ++ text.points)) rest := by
  obtain ⟨points⟩ := text
  induction points generalizing state with
  | nil => cases state <;> simp [textTokens]
  | cons point others ih =>
      cases state with
      | none => exact ih none
      | some seen =>
          have later := ih (some (seen ++ [point]))
          rw [Option.map_some, List.append_assoc] at later
          exact later

theorem contentsFrom_skip {inside : List CodePoint} {name : Text} (opens : tagName inside ≠ name)
    (closes : tagName inside ≠ "/" ++ name) (rest : List Token) :
    contentsFrom name state (.tag inside :: rest) = contentsFrom name state rest := by
  cases state with
  | none => exact if_neg opens
  | some seen => exact if_neg closes

/-- Opening tags of other elements are passed over. -/
theorem contentsFrom_tagInside (plain : PlainTag name attributes)
    (behind : ending = "" ∨ ending = " /") (other : name ≠ named) (rest : List Token) :
    contentsFrom named state (.tag (tagInside name attributes ending) :: rest)
      = contentsFrom named state rest := by
  apply contentsFrom_skip
  · rwa [tagName_tagInside plain behind, Ne, Text.ofString_inj]
  · rw [tagName_tagInside plain behind, slash_append, Ne, Text.ofString_inj]
    exact (ne_slash_append plain.1 named).symm

/-- Closing tags of other elements are passed over. -/
theorem contentsFrom_closeToken (plain_named : Plain named) (plain : Plain name)
    (other : name ≠ named) (rest : List Token) :
    contentsFrom named state (closeToken name :: rest) = contentsFrom named state rest := by
  apply contentsFrom_skip
  · rw [tagName_closeInside plain, Ne, Text.ofString_inj]
    exact ne_slash_append plain_named name
  · rw [tagName_closeInside plain, slash_append, Ne, Text.ofString_inj, String.append_right_inj]
    exact other

/-- The opening tag of an element of the name. -/
theorem contentsFrom_opens (plain : PlainTag named attributes) (rest : List Token) :
    contentsFrom named none (openToken named attributes :: rest)
      = contentsFrom named (some []) rest :=
  if_pos (tagName_tagInside plain (Or.inl rfl))

/-- The closing tag of an element of the name. -/
theorem contentsFrom_closes (plain : Plain named) (seen : List CodePoint) (rest : List Token) :
    contentsFrom named (some seen) (closeToken named :: rest)
      = ⟨seen⟩ :: contentsFrom named none rest :=
  if_pos ((tagName_closeInside plain).trans (slash_append named).symm)

mutual

/-- Of content that has no element of the name, the text counts. -/
theorem Inline.contentsFrom_tokens (plain_named : Plain named) :
    ∀ (content : Inline), content.Sound → content.Avoids named →
      ∀ (state : Option (List CodePoint)) (rest : List Token),
        contentsFrom named state (content.tokens ++ rest)
          = contentsFrom named (state.map (· ++ (escape content.plainText).points)) rest
  | .text content, _, _, _, rest => contentsFrom_text _ named (escape content) rest
  | .element _ _ children, ⟨plain, sound⟩, ⟨other, avoided⟩, state, rest => by
    rw [Inline.tokens, List.append_assoc, List.cons_append, openToken,
      contentsFrom_tagInside plain (Or.inl rfl) other,
      contentsFrom_inlineTokens plain_named children sound avoided, List.singleton_append,
      contentsFrom_closeToken plain_named plain.1 other]
    rfl

theorem contentsFrom_inlineTokens (plain_named : Plain named) :
    ∀ (contents : List Inline), SoundInlines contents → AvoidedBy named contents →
      ∀ (state : Option (List CodePoint)) (rest : List Token),
        contentsFrom named state (inlineTokens contents ++ rest)
          = contentsFrom named (state.map (· ++ (escape (inlinesText contents)).points)) rest
  | [], _, _, state, rest => by
    cases state <;> simp [inlineTokens, inlinesText, escape, Text.expand, default]
  | first :: others, ⟨sound, sounds⟩, ⟨avoids, avoided⟩, state, rest => by
    rw [inlineTokens, List.append_assoc, first.contentsFrom_tokens plain_named sound avoids,
      contentsFrom_inlineTokens plain_named others sounds avoided, Option.map_map, inlinesText,
      escape_append]
    cases state <;> simp

end

/-- There is nothing in the elements of a name that no tag has. -/
theorem contentsFrom_eq_nil {name : Text} {read : List Token}
    (absent : ∀ tag ∈ tagsOf read, tag.name ≠ name) : contentsFrom name none read = [] := by
  induction read with
  | nil => rfl
  | cons token rest ih =>
      cases token with
      | point point => exact ih absent
      | tag inside =>
          obtain ⟨here, there⟩ := List.forall_mem_cons.1 absent
          exact (if_neg here).trans (ih there)

theorem contentsFrom_lineStart (name : Text) (depth : Nat) (rest : List Token) :
    contentsFrom name none (lineStart depth ++ rest) = contentsFrom name none rest :=
  contentsFrom_text none name ⟨.char '\n' :: (indent depth).points⟩ rest

mutual

/-- The contents of the elements of a name are their texts, escaped. -/
theorem Block.contentsFrom_tokens (plain_named : Plain named) :
    ∀ (depth : Nat) (block : Block), block.Sound → block.Flat named → ∀ rest : List Token,
      contentsFrom named none (block.tokens depth ++ rest)
        = (block.textsOf named).map escape ++ contentsFrom named none rest
  | depth, .line name _ children, ⟨plain, sound⟩, avoided, rest => by
    rw [Block.tokens, List.append_assoc, List.append_assoc, contentsFrom_lineStart,
      List.cons_append, Block.textsOf]
    by_cases same : name = named
    · subst same
      rw [contentsFrom_opens plain, contentsFrom_inlineTokens plain_named children sound avoided,
        Option.map_some, List.singleton_append, contentsFrom_closes plain_named, if_pos rfl]
      rfl
    · rw [openToken, contentsFrom_tagInside plain (Or.inl rfl) same,
        contentsFrom_inlineTokens plain_named children sound avoided, List.singleton_append,
        Option.map_none, contentsFrom_closeToken plain_named plain.1 same, if_neg same]
      rfl
  | depth, .empty _ _, plain, other, rest => by
    rw [Block.tokens, List.append_assoc, contentsFrom_lineStart]
    exact contentsFrom_tagInside plain (Or.inr rfl) other rest
  | depth, .single _ _, plain, other, rest => by
    rw [Block.tokens, List.append_assoc, contentsFrom_lineStart]
    exact contentsFrom_tagInside plain (Or.inl rfl) other rest
  | depth, .element _ _ children, ⟨plain, sound⟩, ⟨other, flat⟩, rest => by
    rw [Block.tokens, List.append_assoc, List.append_assoc, List.append_assoc,
      contentsFrom_lineStart, List.cons_append, openToken,
      contentsFrom_tagInside plain (Or.inl rfl) other,
      contentsFrom_blockTokens plain_named (depth + 1) children sound flat, contentsFrom_lineStart,
      List.singleton_append, contentsFrom_closeToken plain_named plain.1 other]
    rfl
  | _, .verbatim content, _, _, rest =>
    contentsFrom_text none named ⟨.char '\n' :: content.points⟩ rest
  | _, .margin children, sound, flat, rest =>
    contentsFrom_blockTokens plain_named 0 children sound flat rest

theorem contentsFrom_blockTokens (plain_named : Plain named) :
    ∀ (depth : Nat) (blocks : List Block), SoundBlocks blocks → FlatBlocks named blocks →
      ∀ rest : List Token, contentsFrom named none (blockTokens depth blocks ++ rest)
        = (blockTexts named blocks).map escape ++ contentsFrom named none rest
  | _, [], _, _, _ => rfl
  | depth, first :: others, ⟨sound, sounds⟩, ⟨flat, flats⟩, rest => by
    rw [blockTokens, List.append_assoc, first.contentsFrom_tokens plain_named depth sound flat,
      contentsFrom_blockTokens plain_named depth others sounds flats, blockTexts, List.map_append,
      List.append_assoc]

end

end Contents

/-! ### Documents -/

section Documents

variable {declared : String} {block : Block}

/-- A document is the tag of its declaration and then its tree. -/
theorem tokens_joinLines (clean : '>' ∉ declared.toList) (sound : block.Sound) :
    tokens (joinLines (Text.ofString ("<" ++ declared ++ ">") :: block.lines 0))
      = .tag (Text.ofString declared).points :: block.tokens 0 := by
  have inside : .char '>' ∉ (Text.ofString declared).points := by simpa using clean
  have scans := (scans_inside inside).append (Block.scans_lines 0 block sound) []
  rw [List.append_nil] at scans
  have printed : (joinLines (Text.ofString ("<" ++ declared ++ ">") :: block.lines 0)).points
      = (.char '<' :: (Text.ofString declared).points ++ [.char '>'])
        ++ continued (block.lines 0) := by
    rw [points_joinLines]
    simp
  rw [tokens, printed, scans]
  exact List.append_nil _

/-- The tags of a document are those of its tree, behind the declaration. -/
theorem tags_joinLines (clean : '>' ∉ declared.toList) (sound : block.Sound) :
    tags (joinLines (Text.ofString ("<" ++ declared ++ ">") :: block.lines 0))
      = Tag.read (Text.ofString declared).points :: block.tags := by
  rw [tags, tokens_joinLines clean sound]
  exact congrArg (_ :: ·) (block.tagsOf_tokens 0 sound)

/-- The contents of the elements of a document, read, are the texts of its tree. -/
theorem decode_contents_joinLines {named : String} (clean : '>' ∉ declared.toList)
    (sound : block.Sound) (plain : Plain named) (flat : block.Flat named)
    (other : tagName (Text.ofString declared).points ≠ named) :
    (contents named (joinLines (Text.ofString ("<" ++ declared ++ ">") :: block.lines 0))).map
      decode = block.textsOf named := by
  have read := block.contentsFrom_tokens plain 0 sound flat []
  rw [List.append_nil] at read
  rw [contents, tokens_joinLines clean sound, contentsFrom, if_neg other, read]
  simp [contentsFrom, Function.comp_def]

end Documents

end Markup

end TerminalReel
