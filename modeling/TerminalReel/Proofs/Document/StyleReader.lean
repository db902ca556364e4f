import TerminalReel.Proofs.Numeric.Plain
/-!
# TerminalReel.Proofs.Document.StyleReader

A **reader of style sheets**, and how it goes through a sheet piece by piece.

The reader leaves out comments, cuts what remains into blocks, each with what stands
before its braces, and reads a block as keyframes or as a rule: words in front, then
declarations of a property and the words of its value. It knows nothing of how sheets
are printed. Braces within a block are passed over where they match (`Balanced`), and
what is read of one piece does not depend on the pieces around it (`Reads`).
-/

namespace TerminalReel

namespace Style

/-! ### Reading -/

/-- What stands outside of comments, beginning in one or not. A comment that never ends
reaches to the end. -/
def uncommentFrom : Bool → List Char → List Char
  | _, [] => []
  | false, '/' :: '*' :: rest => uncommentFrom true rest
  | false, c :: rest => c :: uncommentFrom false rest
  | true, '*' :: '/' :: rest => uncommentFrom false rest
  | true, _ :: rest => uncommentFrom true rest

/-- A block: what stands before its braces and what stands between them. -/
structure RawBlock where
  head : List Char
  body : List Char

/-- Where a reader of blocks stands. -/
inductive BlockState
  /-- Before a block, of whose head this has been seen. -/
  | outside (head : List Char)
  /-- In a block, of which this has been seen, and in so many braces of its own. -/
  | inside (head body : List Char) (depth : ℕ)

/-- The blocks that follow. -/
def blocksFrom : BlockState → List Char → List RawBlock
  | .outside _, [] => []
  | .inside head body _, [] => [⟨head, body⟩]
  | .outside head, c :: rest =>
    if c = '\x7b' then blocksFrom (.inside head [] 0) rest
    else blocksFrom (.outside (head ++ [c])) rest
  | .inside head body 0, c :: rest =>
    if c = '\x7d' then ⟨head, body⟩ :: blocksFrom (.outside []) rest
    else blocksFrom (.inside head (body ++ [c]) (if c = '\x7b' then 1 else 0)) rest
  | .inside head body (depth + 1), c :: rest =>
    if c = '\x7d' then blocksFrom (.inside head (body ++ [c]) depth) rest
    else blocksFrom (.inside head (body ++ [c]) (if c = '\x7b' then depth + 2 else depth + 1)) rest

/-- A word, if anything has been seen of it. -/
def endWord (seen : List Char) : List String := if seen = [] then [] else [String.ofList seen]

/-- The words that follow, in so many parentheses and behind what has been seen of a
word: what white space stands between, but for that in parentheses. -/
def wordsFrom (depth : ℕ) (seen : List Char) : List Char → List String
  | [] => endWord seen
  | c :: rest =>
    if c = '(' then wordsFrom (depth + 1) (seen ++ [c]) rest
    else if c = ')' then wordsFrom (depth - 1) (seen ++ [c]) rest
    else if depth = 0 ∧ c.isWhitespace then endWord seen ++ wordsFrom 0 [] rest
    else wordsFrom depth (seen ++ [c]) rest

/-- The words of a text. -/
def words (text : List Char) : List String := wordsFrom 0 [] text

/-- A declaration: a property and the words of its value. -/
structure Declaration where
  property : String
  value : List String
  deriving DecidableEq

/-- The declarations that follow, behind a property, if its value is read, and what has
been seen since. -/
def declarationsFrom : Option (List Char) → List Char → List Char → List Declaration
  | none, _, [] => []
  | some property, seen, [] => [⟨String.join (words property), words seen⟩]
  | none, seen, c :: rest =>
    if c = ':' then declarationsFrom (some seen) [] rest
    else if c = ';' then declarationsFrom none [] rest
    else declarationsFrom none (seen ++ [c]) rest
  | some property, seen, c :: rest =>
    if c = ';' then
      ⟨String.join (words property), words seen⟩ :: declarationsFrom none [] rest
    else declarationsFrom (some property) (seen ++ [c]) rest

/-- What a block is: keyframes of a name, or a rule with the words of its selector and
its declarations. -/
inductive Item
  | keyframes (name : String)
  | rule (selector : List String) (declarations : List Declaration)
  deriving DecidableEq

/-- The block as it is read. -/
def RawBlock.read (block : RawBlock) : Item :=
  match words block.head with
  | ["@keyframes", name] => .keyframes name
  | selector => .rule selector (declarationsFrom none [] block.body)

/-- What a style sheet holds, in order. -/
def items (sheet : String) : List Item :=
  (blocksFrom (.outside []) (uncommentFrom false sheet.toList)).map RawBlock.read

/-! ### Comments -/

/-- Text without a slash is no comment. -/
theorem uncommentFrom_text (text : List Char) (clean : '/' ∉ text) (rest : List Char) :
    uncommentFrom false (text ++ rest) = text ++ uncommentFrom false rest := by
  induction text with
  | nil => rfl
  | cons c others ih =>
      have here := List.ne_of_not_mem_cons clean
      rw [List.cons_append, uncommentFrom, ih (List.not_mem_of_not_mem_cons clean)]
      · rfl
      · rintro _ rfl
        exact absurd rfl here

theorem uncommentFrom_inside {text : List Char} (clean : '*' ∉ text) (rest : List Char) :
    uncommentFrom true (text ++ '*' :: '/' :: rest) = uncommentFrom false rest := by
  induction text with
  | nil => rfl
  | cons c others ih =>
      have here := List.ne_of_not_mem_cons clean
      rw [List.cons_append, uncommentFrom, ih (List.not_mem_of_not_mem_cons clean)]
      rintro _ rfl
      exact absurd rfl here

/-- Of a comment on a line of its own, the end of the line is left. -/
theorem uncommentFrom_comment {line : String} {text : List Char}
    (printed : line.toList = '/' :: '*' :: text ++ '*' :: '/' :: ['\n']) (clean : '*' ∉ text)
    (rest : List Char) :
    uncommentFrom false (line.toList ++ rest) = '\n' :: uncommentFrom false rest := by
  have split : line.toList ++ rest = '/' :: '*' :: (text ++ '*' :: '/' :: '\n' :: rest) := by
    simp [printed]
  rw [split]
  exact (uncommentFrom_inside clean _).trans (uncommentFrom_text ['\n'] (by decide) rest)

/-! ### Words -/

/-- White space and nothing else. -/
def Blank (text : List Char) : Prop := ∀ c ∈ text, c.isWhitespace = true

instance (text : List Char) : Decidable (Blank text) :=
  decidable_of_iff (text.all Char.isWhitespace) List.all_eq_true

/-- Text that is read as a word wherever it stands between others. -/
structure IsWord (word : String) : Prop where
  ne_nil : word.toList ≠ []
  passes : ∀ seen rest,
    wordsFrom 0 seen (word.toList ++ rest) = wordsFrom 0 (seen ++ word.toList) rest

theorem wordsFrom_of_isWhitespace {c : Char} (white : c.isWhitespace = true)
    (seen rest : List Char) :
    wordsFrom 0 seen (c :: rest) = endWord seen ++ wordsFrom 0 [] rest := by
  have no_open : c ≠ '(' := by
    rintro rfl
    cases white
  have no_close : c ≠ ')' := by
    rintro rfl
    cases white
  rw [wordsFrom, if_neg no_open, if_neg no_close, if_pos ⟨rfl, white⟩]

theorem wordsFrom_blank {blank : List Char} (white : Blank blank) (seen : List Char) :
    wordsFrom 0 seen blank = endWord seen := by
  induction blank generalizing seen with
  | nil => rfl
  | cons c rest ih =>
      obtain ⟨here, there⟩ := List.forall_mem_cons.1 white
      rw [wordsFrom_of_isWhitespace here, ih there]
      exact List.append_nil _

theorem wordsFrom_blank_append {blank : List Char} (white : Blank blank) (rest : List Char) :
    wordsFrom 0 [] (blank ++ rest) = wordsFrom 0 [] rest := by
  induction blank with
  | nil => rfl
  | cons c others ih =>
      obtain ⟨here, there⟩ := List.forall_mem_cons.1 white
      rw [List.cons_append, wordsFrom_of_isWhitespace here, ih there]
      rfl

theorem endWord_toList {word : String} (h : word.toList ≠ []) : endWord word.toList = [word] := by
  rw [endWord, if_neg h, String.ofList_toList]

/-- Words between spaces are read as they are, whatever white space stands around them. -/
theorem words_intercalate {before : List Char} (white : Blank before) (parts : List String)
    (each : ∀ word ∈ parts, IsWord word) (after : List Char) (white' : Blank after) :
    words (before ++ (String.intercalate " " parts).toList ++ after) = parts := by
  rw [words, List.append_assoc, wordsFrom_blank_append white, String.toList_intercalate]
  induction parts with
  | nil => exact wordsFrom_blank white' []
  | cons word rest ih =>
      obtain ⟨here, there⟩ := List.forall_mem_cons.1 each
      cases rest with
      | nil =>
          simp only [List.map_cons, List.map_nil, List.intercalate_singleton]
          rw [here.passes, List.nil_append, wordsFrom_blank white', endWord_toList here.ne_nil]
      | cons second others =>
          rw [List.map_cons, List.map_cons, List.intercalate_cons_cons, List.append_assoc,
            List.append_assoc, here.passes]
          have later := ih there
          rw [List.map_cons] at later
          have space : " ".toList = [' '] := rfl
          rw [space] at later ⊢
          rw [List.singleton_append, wordsFrom_of_isWhitespace rfl, List.nil_append, later,
            endWord_toList here.ne_nil]
          rfl

/-- Neither a parenthesis nor white space. -/
def isSolid (c : Char) : Bool := c != '(' && c != ')' && !c.isWhitespace

/-- What is solid is a word, unless it is nothing. -/
theorem isWord_of_solid {word : String} (solid : Consists isSolid word)
    (ne_nil : word.toList ≠ []) : IsWord word := by
  refine ⟨ne_nil, fun seen rest => ?_⟩
  have each : ∀ c ∈ word.toList, isSolid c = true := solid
  generalize word.toList = text at each
  induction text generalizing seen with
  | nil => simp
  | cons c others ih =>
      obtain ⟨here, there⟩ := List.forall_mem_cons.1 each
      simp only [isSolid, Bool.and_eq_true, bne_iff_ne, Bool.not_eq_true'] at here
      obtain ⟨⟨no_open, no_close⟩, no_space⟩ := here
      rw [List.cons_append, wordsFrom, if_neg no_open, if_neg no_close, if_neg (by simp [no_space]),
        ih _ there]
      simp

theorem isSolid_of_isPlain {c : Char} (h : isPlain c = true) : isSolid c = true := by
  have other : ∀ d, isPlain d = false → c ≠ d := by
    rintro d not_plain rfl
    rw [h] at not_plain
    cases not_plain
  simp [isSolid, Char.isWhitespace, other '(' rfl, other ')' rfl, other ' ' rfl, other '\t' rfl,
    other '\r' rfl, other '\n' rfl]

/-! ### Declarations -/

/-- A declaration, up to its semicolon, is a property and the words of a value. -/
theorem declarationsFrom_append {property value : List Char} (no_colon : ':' ∉ property)
    (no_end : ';' ∉ property) (no_end' : ';' ∉ value) (seen rest : List Char) :
    declarationsFrom none seen (property ++ ':' :: value ++ ';' :: rest)
      = ⟨String.join (words (seen ++ property)), words value⟩ :: declarationsFrom none [] rest := by
  have read_value : ∀ seen',
      declarationsFrom (some (seen ++ property)) seen' (value ++ ';' :: rest)
        = ⟨String.join (words (seen ++ property)), words (seen' ++ value)⟩
          :: declarationsFrom none [] rest := by
    induction value with
    | nil => simp [declarationsFrom]
    | cons c others ih =>
        intro seen'
        have here := List.ne_of_not_mem_cons no_end'
        rw [List.cons_append, declarationsFrom, if_neg (Ne.symm here),
          ih (List.not_mem_of_not_mem_cons no_end')]
        simp
  induction property generalizing seen with
  | nil =>
      simpa [declarationsFrom] using read_value []
  | cons c others ih =>
      have here := List.ne_of_not_mem_cons no_colon
      have here' := List.ne_of_not_mem_cons no_end
      have later := ih (List.not_mem_of_not_mem_cons no_colon)
        (List.not_mem_of_not_mem_cons no_end) (seen ++ [c]) (by simpa using read_value)
      simp only [List.cons_append, declarationsFrom, if_neg (Ne.symm here), if_neg (Ne.symm here')]
      simpa using later

theorem declarationsFrom_blank {blank : List Char} (white : Blank blank) (seen : List Char) :
    declarationsFrom none seen blank = [] := by
  induction blank generalizing seen with
  | nil => rfl
  | cons c rest ih =>
      obtain ⟨here, there⟩ := List.forall_mem_cons.1 white
      have no_colon : c ≠ ':' := by
        rintro rfl
        cases here
      have no_end : c ≠ ';' := by
        rintro rfl
        cases here
      rw [declarationsFrom, if_neg no_colon, if_neg no_end, ih there]

/-! ### Blocks -/

/-- Text in a block, of which no brace ends the block. -/
def Balanced (text : List Char) : Prop :=
  ∀ head seen depth rest, blocksFrom (.inside head seen depth) (text ++ rest)
    = blocksFrom (.inside head (seen ++ text) depth) rest

theorem balanced_of_not_mem {text : List Char} (no_open : '\x7b' ∉ text)
    (no_close : '\x7d' ∉ text) : Balanced text := by
  intro head seen depth rest
  induction text generalizing seen with
  | nil => simp
  | cons c others ih =>
      have here := Ne.symm (List.ne_of_not_mem_cons no_open)
      have here' := Ne.symm (List.ne_of_not_mem_cons no_close)
      have later := ih (List.not_mem_of_not_mem_cons no_open)
        (List.not_mem_of_not_mem_cons no_close) (seen ++ [c])
      rw [List.append_assoc, List.singleton_append] at later
      cases depth with
      | zero | succ _ => rw [List.cons_append, blocksFrom, if_neg here', if_neg here, later]

theorem Balanced.append {text text' : List Char} (first : Balanced text) (second : Balanced text') :
    Balanced (text ++ text') := by
  intro head seen depth rest
  rw [List.append_assoc, first, second, List.append_assoc]

/-- Braces around text whose braces match. -/
theorem Balanced.braces {text : List Char} (inside : Balanced text) :
    Balanced ('\x7b' :: text ++ ['\x7d']) := by
  intro head seen depth rest
  have closed := inside head (seen ++ ['\x7b']) (depth + 1) ('\x7d' :: rest)
  rw [blocksFrom, if_pos rfl] at closed
  cases depth with
  | zero | succ _ =>
      rw [List.cons_append, List.cons_append, blocksFrom, if_neg (by decide), if_pos rfl,
        List.append_assoc, List.singleton_append, closed]
      simp

/-- A block is read up to the brace that matches. -/
theorem blocksFrom_block {head body : List Char} (no_open : '\x7b' ∉ head)
    (balanced : Balanced body) (seen rest : List Char) :
    blocksFrom (.outside seen) (head ++ '\x7b' :: body ++ '\x7d' :: rest)
      = ⟨seen ++ head, body⟩ :: blocksFrom (.outside []) rest := by
  induction head generalizing seen with
  | nil =>
      have closed := balanced seen [] 0 ('\x7d' :: rest)
      simpa [blocksFrom] using closed
  | cons c others ih =>
      have here := Ne.symm (List.ne_of_not_mem_cons no_open)
      have later := ih (List.not_mem_of_not_mem_cons no_open) (seen ++ [c])
      rw [List.cons_append, List.cons_append, blocksFrom, if_neg here]
      simpa using later

/-! ### Pieces of a sheet -/

/-- The text is read as these items, behind white space and whatever follows. -/
def Reads (text : List Char) (read : List Item) : Prop :=
  ∀ before, Blank before → ∀ rest, ∃ after, Blank after ∧
    (blocksFrom (.outside before) (text ++ rest)).map RawBlock.read
      = read ++ (blocksFrom (.outside after) rest).map RawBlock.read

theorem reads_blank (blank : List Char) (white : Blank blank) : Reads blank [] := by
  intro before white' rest
  refine ⟨before ++ blank, List.forall_mem_append.2 ⟨white', white⟩, ?_⟩
  induction blank generalizing before with
  | nil => simp
  | cons c others ih =>
      obtain ⟨here, there⟩ := List.forall_mem_cons.1 white
      have no_open : c ≠ '\x7b' := by
        rintro rfl
        cases here
      have later := ih there (before ++ [c])
        (List.forall_mem_append.2 ⟨white', by simpa using here⟩)
      rw [List.cons_append, blocksFrom, if_neg no_open, later]
      simp

theorem Reads.append {text text' : List Char} {read read' : List Item} (first : Reads text read)
    (second : Reads text' read') : Reads (text ++ text') (read ++ read') := by
  intro before white rest
  obtain ⟨between, white_between, read_first⟩ := first before white (text' ++ rest)
  obtain ⟨after, white_after, read_second⟩ := second between white_between rest
  exact ⟨after, white_after, by rw [List.append_assoc, read_first, read_second, List.append_assoc]⟩

theorem reads_block {head body : List Char} {item : Item} (no_open : '\x7b' ∉ head)
    (balanced : Balanced body)
    (is_item : ∀ before, Blank before → RawBlock.read ⟨before ++ head, body⟩ = item) :
    Reads (head ++ '\x7b' :: body ++ ['\x7d']) [item] := by
  intro before white rest
  refine ⟨[], by decide, ?_⟩
  have read := blocksFrom_block no_open balanced before rest
  rw [List.append_assoc, List.singleton_append, read, List.map_cons, is_item before white]
  rfl

/-- Pieces on lines of their own. -/
theorem reads_intercalate {texts : List String} {read : List Item}
    (each : List.Forall₂ (fun text item => Reads text.toList [item]) texts read) :
    Reads (String.intercalate "\n" texts).toList read := by
  rw [String.toList_intercalate]
  induction each with
  | nil => exact reads_blank [] (by decide)
  | cons here there ih =>
      cases there with
      | nil => simpa using here
      | cons next others =>
          have line_end : Reads "\n".toList [] := reads_blank _ (by decide)
          rw [List.map_cons, List.map_cons, List.intercalate_cons_cons]
          exact (here.append line_end).append ih

/-- A sheet without comments holds the items that it is read as. -/
theorem Reads.items_eq {text : List Char} {read : List Item} (reads : Reads text read) :
    (blocksFrom (.outside []) text).map RawBlock.read = read := by
  obtain ⟨after, -, all⟩ := reads [] (by decide) []
  rw [List.append_nil] at all
  exact all.trans (List.append_nil _)

end Style

end TerminalReel
