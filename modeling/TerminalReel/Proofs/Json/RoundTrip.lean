import Mathlib.Control.Monad.Basic
import TerminalReel.Proofs.Json.Numbers
import TerminalReel.Proofs.Json.Restorable
/-!
# TerminalReel.Proofs.Json.RoundTrip

Documents **written over several lines and read again**.

What is proved of each piece of text is a judgement that does not depend on where the
piece stands: whatever follows it, the reader takes the piece off the front and makes
this value of it. There is one such judgement for a value, one for the items of an
array and one for the fields of an object, and one rule for each way in which the
printer puts pieces together.
-/

namespace TerminalReel

namespace Json

/-! ### Blanks -/

variable {fuel room : ℕ} {cs others more text rest : List Char} {value : Json}

theorem skipBlanks_lineBreak (depth : ℕ) (cs : List Char) :
    skipBlanks ((lineBreak depth).toList ++ cs) = skipBlanks cs := by
  have blank : ∀ c ∈ (lineBreak depth).toList, isStrictBlank c = true := by
    intro c mem
    simp only [lineBreak, String.toList_append, String.toList_ofList, List.mem_append,
      List.mem_replicate] at mem
    rcases mem with mem | ⟨-, rfl⟩
    · rw [List.mem_singleton.1 mem]
      rfl
    · rfl
  rw [skipBlanks, List.dropWhile_append_of_pos blank, ← skipBlanks]

theorem skipBlanks_cons {c : Char} (visible : isStrictBlank c = false) (cs : List Char) :
    skipBlanks (c :: cs) = c :: cs := by
  rw [skipBlanks, List.dropWhile_cons_of_neg (by rw [visible]; exact Bool.false_ne_true)]

theorem endsNumber_cons {c : Char} (digit : c.isDigit = false)
    (other : c ≠ '.' ∧ c ≠ 'e' ∧ c ≠ 'E') : EndsNumber (c :: cs) := by
  rintro _ ⟨⟩
  exact ⟨digit, other⟩

/-- A number ends where a line does. -/
theorem endsNumber_lineBreak (depth : ℕ) (cs : List Char) :
    EndsNumber ((lineBreak depth).toList ++ cs) := by
  rw [lineBreak, String.toList_append, List.append_assoc]
  exact endsNumber_cons rfl (by decide)

/-! ### Values by themselves -/

/-- A value may begin with the character: it is no blank, no mark of the byte order and
not the end of an array. -/
def opensValue (c : Char) : Bool := !(isStrictBlank c || c == '\ufeff' || c == ']')

/-- A value that is no string and no container may begin with the character. -/
def opensScalar (c : Char) : Bool := opensValue c && !(c == '"' || c == '\x7b' || c == '[')

theorem isStrictBlank_of_opensValue {c : Char} (opens : opensValue c = true) :
    isStrictBlank c = false := by
  simp only [opensValue, Bool.not_eq_true', Bool.or_eq_false_iff] at opens
  exact opens.1.1

theorem opensScalar_of_isDigit {c : Char} (digit : c.isDigit = true) : opensScalar c = true := by
  have other (d : Char) (h : d.isDigit = false) : (c == d) = false := by
    rw [beq_eq_false_iff_ne]
    rintro rfl
    rw [digit] at h
    cases h
  simp [opensScalar, opensValue, isStrictBlank, other]

/-- The text is read as the value wherever it stands, where this many containers may
be opened. -/
structure ReadsAs (room : ℕ) (text : List Char) (value : Json) : Prop where
  begins : ∃ c others, text = c :: others ∧ opensValue c = true
  reads : ∀ {fuel rest}, text.length ≤ fuel → EndsNumber rest →
    readValue fuel room (text ++ rest) = .ok (value, rest)

/-- A value that is no string and no container is a name or a number. -/
theorem readsAs_scalar {c : Char} (begins : text = c :: others) (opens : opensScalar c = true)
    (found : ∀ {rest}, EndsNumber rest →
      ((readName? (text ++ rest)).map Except.ok).getD (readNumber (text ++ rest))
        = .ok (value, rest)) : ReadsAs room text value where
  begins := ⟨c, others, begins, (Bool.and_eq_true_iff.1 opens).1⟩
  reads {fuel rest} enough ends := by
    cases fuel with
    | zero =>
        subst begins
        cases enough
    | succ fuel =>
        rw [← found ends, begins, List.cons_append, readValue]
        · cases readName? (c :: (others ++ rest)) <;> rfl
        all_goals
          intros
          simp_all [opensScalar]

/-- A value that is a name is read from it. -/
theorem readsAs_name {name : String} (mem : (name, value) ∈ names) :
    ReadsAs room name.toList value := by
  simp only [names, List.mem_cons, List.not_mem_nil, or_false, Prod.mk.injEq] at mem
  rcases mem with ⟨rfl, rfl⟩ | ⟨rfl, rfl⟩ | ⟨rfl, rfl⟩ | ⟨rfl, rfl⟩ | ⟨rfl, rfl⟩ | ⟨rfl, rfl⟩
  all_goals exact readsAs_scalar rfl (by decide) fun _ => rfl

/-- No name begins like a number that has digits. -/
theorem readName?_of_beginsNumber (begins : BeginsNumber cs) : readName? cs = none := by
  obtain ⟨negative, first, others, rfl, digit⟩ := begins
  have apart (c : Char) (name : List Char) (other : c.isDigit = false) :
      (c :: name).isPrefixOf (first :: others) = false := by
    rw [List.isPrefixOf_cons_cons, Bool.and_eq_false_iff, beq_eq_false_iff_ne]
    refine .inl ?_
    rintro rfl
    rw [digit] at other
    cases other
  have none_begins : ∀ name ∈ names.map (·.1.toList),
      name.isPrefixOf ((signText negative).toList ++ first :: others) = false := by
    have written : names.map (·.1.toList) = [['n', 'u', 'l', 'l'], ['t', 'r', 'u', 'e'],
        ['f', 'a', 'l', 's', 'e'], ['N', 'a', 'N'], ['I', 'n', 'f', 'i', 'n', 'i', 't', 'y'],
        ['-', 'I', 'n', 'f', 'i', 'n', 'i', 't', 'y']] := rfl
    rw [written]
    cases negative with
    | false => simp [signText, apart]
    | true => simp [signText, apart, List.isPrefixOf_cons_cons]
  rw [readName?, List.findSome?_eq_none_iff]
  intro entry mem
  dsimp only
  rw [none_begins _ (List.mem_map_of_mem mem), if_neg Bool.false_ne_true]

/-- A value is read as a number where its text begins one. -/
theorem readsAs_of_beginsNumber (begins : BeginsNumber text)
    (found : ∀ {rest}, EndsNumber rest → readNumber (text ++ rest) = .ok (value, rest)) :
    ReadsAs room text value := by
  obtain ⟨c, others, opening, opens⟩ :
      ∃ c others, text = c :: others ∧ opensScalar c = true := by
    obtain ⟨_ | _, first, others, rfl, digit⟩ := begins
    · exact ⟨first, others, rfl, opensScalar_of_isDigit digit⟩
    · exact ⟨'-', first :: others, rfl, by decide⟩
  refine readsAs_scalar opening opens fun {rest} ends => ?_
  have begins : BeginsNumber (text ++ rest) := by
    obtain ⟨negative, first, others, rfl, digit⟩ := begins
    exact ⟨negative, first, others ++ rest, by rw [List.append_assoc, List.cons_append], digit⟩
  rw [readName?_of_beginsNumber begins, found ends]
  rfl

/-- A number that may be written is read from its text. -/
theorem readsAs_number {n : Number} (writable : n.isWritable = true) :
    ReadsAs room (encodeNumber n).toList (.number n) := by
  cases n with
  | int n => exact readsAs_of_beginsNumber (beginsNumber_int n) (readNumber_int writable)
  | float x =>
      cases x with
      | nan => exact @readsAs_name room _ "NaN" (by simp [names])
      | infinite negative =>
          cases negative with
          | false => exact @readsAs_name room _ "Infinity" (by simp [names])
          | true => exact @readsAs_name room _ "-Infinity" (by simp [names])
      | finite negative m =>
          exact readsAs_of_beginsNumber (beginsNumber_finite negative m) readNumber_finite

theorem toList_encodeString (s : Text) :
    (encodeString s).toList = '"' :: (s.points.flatMap encodePoint ++ ['"']) :=
  String.toList_ofList

/-- A text without surrogates by themselves is read from its string. -/
theorem readsAs_string {s : Text} (scalar : s.isScalar = true) :
    ReadsAs room (encodeString s).toList (.string s) where
  begins := ⟨'"', _, toList_encodeString s, rfl⟩
  reads {fuel rest} enough _ := by
    rw [toList_encodeString] at enough ⊢
    cases fuel with
    | zero => cases enough
    | succ fuel =>
        rw [List.cons_append, List.append_assoc, List.singleton_append, readValue,
          readString_encodeString scalar]
        rfl

/-! ### Arrays -/

/-- The text is read as the items of an array, up to the closing bracket. -/
structure ReadsItems (room : ℕ) (text : List Char) (items : List Json) : Prop where
  begins : ∃ c others, opensValue c = true ∧
    ∀ rest, skipBlanks (text ++ rest) = c :: (others ++ rest)
  reads : ∀ {fuel after rest}, text.length ≤ fuel → EndsNumber after →
    skipBlanks after = ']' :: rest →
      readItems fuel room (skipBlanks (text ++ after)) = .ok (items, rest)

/-- The text of an item at some depth. -/
def itemText (depth : ℕ) (text : List Char) : List Char := (lineBreak depth).toList ++ text

theorem length_le_of_itemText {depth : ℕ}
    (enough : (itemText depth text ++ rest).length ≤ fuel + 1) :
    text.length ≤ fuel ∧ rest.length ≤ fuel := by
  have line : 1 ≤ (lineBreak depth).toList.length := by simp [lineBreak]
  rw [itemText, List.length_append, List.length_append] at enough
  omega

theorem ReadsAs.skipBlanks_itemText (h : ReadsAs room text value) (depth : ℕ) (rest : List Char) :
    skipBlanks (itemText depth text ++ rest) = text ++ rest := by
  obtain ⟨c, others, rfl, opens⟩ := h.begins
  rw [itemText, List.append_assoc, skipBlanks_lineBreak, List.cons_append,
    skipBlanks_cons (isStrictBlank_of_opensValue opens)]

/-- An item is read, and what follows it says whether there are more. -/
theorem readItems_item (h : ReadsAs room text value) (depth : ℕ) {after : List Char}
    (enough : text.length ≤ fuel) (ends : EndsNumber after) :
    readItems (fuel + 1) room (skipBlanks (itemText depth text ++ after))
      = match skipBlanks after with
        | ']' :: rest => .ok ([value], rest)
        | ',' :: rest =>
          (fun found => (value :: found.1, found.2)) <$> readItems fuel room (skipBlanks rest)
        | rest => .error (.flaw .comma rest) := by
  rw [h.skipBlanks_itemText, readItems, h.reads enough ends, ok_bind]
  rfl

/-- One item alone is read, with the bracket behind it. -/
theorem ReadsItems.single (h : ReadsAs room text value) (depth : ℕ) :
    ReadsItems room (itemText depth text) [value] where
  begins := by
    obtain ⟨c, others, begins, opens⟩ := h.begins
    refine ⟨c, others, opens, fun rest => ?_⟩
    rw [h.skipBlanks_itemText, begins, List.cons_append]
  reads {fuel after rest} enough ends closes := by
    cases fuel with
    | zero => simp [itemText, lineBreak] at enough
    | succ fuel =>
        have enough := (@length_le_of_itemText _ _ [] _ (by rwa [List.append_nil])).1
        rw [readItems_item h depth enough ends, closes]
        rfl

/-- An item is read before others, with the comma between them. -/
theorem ReadsItems.cons {items : List Json} (h : ReadsAs room text value)
    (later : ReadsItems room more items) (depth : ℕ) :
    ReadsItems room (itemText depth text ++ ',' :: more) (value :: items) where
  begins := by
    obtain ⟨c, others, begins, opens⟩ := h.begins
    refine ⟨c, others ++ ',' :: more, opens, fun rest => ?_⟩
    rw [List.append_assoc, h.skipBlanks_itemText, begins, List.cons_append, List.append_assoc]
  reads {fuel after rest} enough ends closes := by
    cases fuel with
    | zero => simp [itemText, lineBreak] at enough
    | succ fuel =>
        obtain ⟨here, there⟩ := length_le_of_itemText enough
        have comma : EndsNumber (',' :: (more ++ after)) := endsNumber_cons rfl (by decide)
        have found := later.reads (Nat.le_of_succ_le there) ends closes
        rw [List.append_assoc, List.cons_append, readItems_item h depth here comma,
          skipBlanks_cons rfl]
        simp only [found, Except.map_ok]

/-- The text of an array that begins with items and ends at this depth. -/
theorem readsAs_array {items : List Json} (h : ReadsItems room text items) (depth : ℕ) :
    ReadsAs (room + 1) ('[' :: (text ++ ((lineBreak depth).toList ++ [']']))) (.array items) where
  begins := ⟨'[', _, rfl, rfl⟩
  reads {fuel rest} enough _ := by
    cases fuel with
    | zero => cases enough
    | succ fuel =>
        have enough : text.length ≤ fuel := by
          rw [List.length_cons, List.length_append] at enough
          omega
        have closes : skipBlanks ((lineBreak depth).toList ++ ']' :: rest) = ']' :: rest := by
          rw [skipBlanks_lineBreak, skipBlanks_cons rfl]
        have read := h.reads enough (endsNumber_lineBreak depth _) closes
        obtain ⟨c, others, opens, begins⟩ := h.begins
        rw [begins] at read
        rw [List.cons_append, List.append_assoc, List.append_assoc, List.singleton_append,
          readValue, begins]
        split
        · rename_i closed
          obtain ⟨rfl, -⟩ := List.cons.inj closed
          cases opens
        · rw [read]
          rfl

theorem readsAs_array_nil : ReadsAs (room + 1) "[]".toList (.array []) where
  begins := ⟨'[', _, rfl, rfl⟩
  reads {fuel rest} enough _ := by
    cases fuel with
    | zero => cases enough
    | succ fuel => rfl

/-! ### Objects -/

/-- The text is read as the fields of an object that follow others, up to the closing
brace. -/
structure ReadsFields (room : ℕ) (text : List Char) (fields : Fields) : Prop where
  begins : ∃ others, ∀ rest, skipBlanks (text ++ rest) = '"' :: (others ++ rest)
  reads : ∀ {fuel before after rest}, text.length ≤ fuel →
    ((before ++ fields).map Prod.fst).Nodup → EndsNumber after →
      skipBlanks after = '\x7d' :: rest →
        readFields fuel room before (skipBlanks (text ++ after)) = .ok (before ++ fields, rest)

/-- The text of a field at some depth. -/
def fieldText (depth : ℕ) (key : Text) (text : List Char) : List Char :=
  (lineBreak depth).toList ++ ((encodeString key).toList ++ (':' :: ' ' :: text))

theorem length_le_of_fieldText {depth : ℕ} {key : Text}
    (enough : (fieldText depth key text ++ rest).length ≤ fuel + 1) :
    text.length ≤ fuel ∧ rest.length ≤ fuel := by
  simp only [fieldText, List.length_append, List.length_cons] at enough
  omega

theorem skipBlanks_fieldText (depth : ℕ) (key : Text) (rest : List Char) :
    skipBlanks (fieldText depth key text ++ rest)
      = '"' :: (key.points.flatMap encodePoint ++ '"' :: ':' :: ' ' :: (text ++ rest)) := by
  rw [fieldText, List.append_assoc, skipBlanks_lineBreak, toList_encodeString, List.append_assoc,
    List.cons_append, skipBlanks_cons rfl]
  simp

/-- A field is set, and what follows it says whether there are more. -/
theorem readFields_field {key : Text} (scalar : key.isScalar = true) (h : ReadsAs room text value)
    {before : Fields} (depth : ℕ) {after : List Char} (enough : text.length ≤ fuel)
    (ends : EndsNumber after) :
    readFields (fuel + 1) room before (skipBlanks (fieldText depth key text ++ after))
      = match skipBlanks after with
        | '\x7d' :: rest => .ok (before.set key value, rest)
        | ',' :: rest => readFields fuel room (before.set key value) (skipBlanks rest)
        | rest => .error (.flaw .comma rest) := by
  have value_read : readValue fuel room (skipBlanks (' ' :: (text ++ after)))
      = .ok (value, after) := by
    obtain ⟨c, others, begins, opens⟩ := h.begins
    have found := h.reads enough ends
    rw [begins, List.cons_append] at found ⊢
    rw [skipBlanks, List.dropWhile_cons_of_pos rfl, ← skipBlanks,
      skipBlanks_cons (isStrictBlank_of_opensValue opens), found]
  rw [skipBlanks_fieldText, readFields, readString_encodeString scalar, ok_bind]
  dsimp only
  rw [skipBlanks_cons rfl]
  simp only [value_read, ok_bind]
  rfl

/-- One field alone is read, with the brace behind it. -/
theorem ReadsFields.single {key : Text} (scalar : key.isScalar = true)
    (h : ReadsAs room text value) (depth : ℕ) :
    ReadsFields room (fieldText depth key text) [(key, value)] where
  begins := by
    refine ⟨key.points.flatMap encodePoint ++ '"' :: ':' :: ' ' :: text, fun rest => ?_⟩
    rw [skipBlanks_fieldText]
    simp
  reads {fuel before after rest} enough apart ends closes := by
    have new : key ∉ before.map Prod.fst := by
      rw [List.map_append] at apart
      exact fun mem => (List.nodup_append.1 apart).2.2 key mem key List.mem_cons_self rfl
    cases fuel with
    | zero => simp [fieldText, lineBreak] at enough
    | succ fuel =>
        have enough := (@length_le_of_fieldText _ _ [] _ _ (by rwa [List.append_nil])).1
        rw [readFields_field scalar h depth enough ends, closes, Fields.set_of_not_mem value new]
        rfl

/-- A field is read before others, with the comma between them. -/
theorem ReadsFields.cons {key : Text} {fields : Fields} (scalar : key.isScalar = true)
    (h : ReadsAs room text value) (later : ReadsFields room more fields) (depth : ℕ) :
    ReadsFields room (fieldText depth key text ++ ',' :: more) ((key, value) :: fields) where
  begins := by
    refine ⟨key.points.flatMap encodePoint ++ '"' :: ':' :: ' ' :: (text ++ ',' :: more),
      fun rest => ?_⟩
    rw [List.append_assoc, skipBlanks_fieldText]
    simp
  reads {fuel before after rest} enough apart ends closes := by
    have new : key ∉ before.map Prod.fst := by
      rw [List.map_append] at apart
      exact fun mem => (List.nodup_append.1 apart).2.2 key mem key List.mem_cons_self rfl
    have split : before ++ (key, value) :: fields = before ++ [(key, value)] ++ fields := by simp
    cases fuel with
    | zero => simp [fieldText, lineBreak] at enough
    | succ fuel =>
        obtain ⟨here, there⟩ := length_le_of_fieldText enough
        have comma : EndsNumber (',' :: (more ++ after)) := endsNumber_cons rfl (by decide)
        rw [split] at apart ⊢
        rw [List.append_assoc, List.cons_append, readFields_field scalar h depth here comma,
          skipBlanks_cons rfl, Fields.set_of_not_mem value new]
        exact later.reads (Nat.le_of_succ_le there) apart ends closes

/-- The text of an object that begins with fields and ends at this depth. -/
theorem readsAs_object {fields : Fields} (h : ReadsFields room text fields)
    (apart : (fields.map Prod.fst).Nodup) (depth : ℕ) :
    ReadsAs (room + 1) ('\x7b' :: (text ++ ((lineBreak depth).toList ++ ['\x7d'])))
      (.object fields) where
  begins := ⟨'\x7b', _, rfl, rfl⟩
  reads {fuel rest} enough _ := by
    cases fuel with
    | zero => cases enough
    | succ fuel =>
        have enough : text.length ≤ fuel := by
          rw [List.length_cons, List.length_append] at enough
          omega
        have closes : skipBlanks ((lineBreak depth).toList ++ '\x7d' :: rest) = '\x7d' :: rest := by
          rw [skipBlanks_lineBreak, skipBlanks_cons rfl]
        have read :=
          @ReadsFields.reads _ _ _ h fuel [] _ _ enough apart (endsNumber_lineBreak depth _) closes
        obtain ⟨others, begins⟩ := h.begins
        rw [begins] at read
        rw [List.cons_append, List.append_assoc, List.append_assoc, List.singleton_append,
          readValue, begins]
        split
        · rename_i closed
          cases closed
        · rw [read]
          rfl

theorem readsAs_object_nil : ReadsAs (room + 1) "\x7b\x7d".toList (.object []) where
  begins := ⟨'\x7b', _, rfl, rfl⟩
  reads {fuel rest} enough _ := by
    cases fuel with
    | zero => cases enough
    | succ fuel => rfl

/-! ### Documents -/

theorem toList_indented_array (depth : ℕ) (item : Json) (items : List Json) :
    ((Json.array (item :: items)).indented depth).toList
      = '[' :: ((indentedItems (depth + 1) (item :: items)).toList
          ++ ((lineBreak depth).toList ++ [']'])) := by
  simp only [indented, String.toList_append, List.append_assoc]
  rfl

theorem toList_indented_object (depth : ℕ) (field : Text × Json) (fields : Fields) :
    ((Json.object (field :: fields)).indented depth).toList
      = '\x7b' :: ((indentedFields (depth + 1) (field :: fields)).toList
          ++ ((lineBreak depth).toList ++ ['\x7d'])) := by
  simp only [indented, String.toList_append, List.append_assoc]
  rfl

theorem toList_indentedItems_singleton (depth : ℕ) (item : Json) :
    (indentedItems depth [item]).toList = itemText depth (item.indented depth).toList :=
  String.toList_append

theorem toList_indentedItems_cons (depth : ℕ) (item second : Json) (items : List Json) :
    (indentedItems depth (item :: second :: items)).toList
      = itemText depth (item.indented depth).toList
          ++ ',' :: (indentedItems depth (second :: items)).toList := by
  simp only [indentedItems, itemText, String.toList_append, List.append_assoc]
  rfl

theorem toList_indentedFields_singleton (depth : ℕ) (key : Text) (value : Json) :
    (indentedFields depth [(key, value)]).toList
      = fieldText depth key (value.indented depth).toList := by
  simp only [indentedFields, fieldText, String.toList_append, List.append_assoc]
  rfl

theorem toList_indentedFields_cons (depth : ℕ) (key : Text) (value : Json)
    (second : Text × Json) (fields : Fields) :
    (indentedFields depth ((key, value) :: second :: fields)).toList
      = fieldText depth key (value.indented depth).toList
          ++ ',' :: (indentedFields depth (second :: fields)).toList := by
  simp only [indentedFields, fieldText, String.toList_append, List.append_assoc]
  rfl

mutual

/-- A document that comes back is read from its text at any depth. -/
theorem readsAs_indented : ∀ (value : Json) {room : ℕ} (depth : ℕ), value.isRestorable = true →
    value.depth ≤ room → ReadsAs room (value.indented depth).toList value
  | .null, room, _, _, _ => @readsAs_name room _ "null" (by simp [names])
  | .bool true, room, _, _, _ => @readsAs_name room _ "true" (by simp [names])
  | .bool false, room, _, _, _ => @readsAs_name room _ "false" (by simp [names])
  | .number _, _, _, writable, _ => readsAs_number writable
  | .string _, _, _, scalar, _ => readsAs_string scalar
  | .array [], _ + 1, _, _, _ => readsAs_array_nil
  | .array (item :: items), room + 1, depth, h, deep => by
      rw [toList_indented_array]
      exact readsAs_array (readsItems_indented (item :: items) (List.cons_ne_nil _ _) (depth + 1) h
        (Nat.le_of_succ_le_succ deep)) depth
  | .object [], _ + 1, _, _, _ => readsAs_object_nil
  | .object (field :: fields), room + 1, depth, h, deep => by
      obtain ⟨apart, each⟩ := Bool.and_eq_true_iff.1 h
      rw [toList_indented_object]
      exact readsAs_object (readsFields_indented (field :: fields) (List.cons_ne_nil _ _)
        (depth + 1) each (Nat.le_of_succ_le_succ deep)) (of_decide_eq_true apart) depth

/-- Items are read from their lines. -/
theorem readsItems_indented : ∀ (items : List Json) (_ : items ≠ []) {room : ℕ} (depth : ℕ),
    areRestorable items = true → itemsDepth items ≤ room →
      ReadsItems room (indentedItems depth items).toList items
  | [], nonempty, _, _, _, _ => absurd rfl nonempty
  | [item], _, _, depth, h, deep => by
      have here := readsAs_indented item depth (Bool.and_eq_true_iff.1 h).1 (Nat.max_le.1 deep).1
      rw [toList_indentedItems_singleton]
      exact .single here depth
  | item :: second :: items, _, _, depth, h, deep => by
      have here := readsAs_indented item depth (Bool.and_eq_true_iff.1 h).1 (Nat.max_le.1 deep).1
      have later := readsItems_indented (second :: items) (List.cons_ne_nil _ _) depth
        (Bool.and_eq_true_iff.1 h).2 (Nat.max_le.1 deep).2
      rw [toList_indentedItems_cons]
      exact .cons here later depth

/-- Fields are read from their lines. -/
theorem readsFields_indented : ∀ (fields : Fields) (_ : fields ≠ []) {room : ℕ} (depth : ℕ),
    fieldsAreRestorable fields = true → fieldsDepth fields ≤ room →
      ReadsFields room (indentedFields depth fields).toList fields
  | [], nonempty, _, _, _, _ => absurd rfl nonempty
  | [(key, value)], _, _, depth, h, deep => by
      obtain ⟨h, -⟩ := Bool.and_eq_true_iff.1 h
      obtain ⟨scalar, h⟩ := Bool.and_eq_true_iff.1 h
      have here := readsAs_indented value depth h (Nat.max_le.1 deep).1
      rw [toList_indentedFields_singleton]
      exact .single scalar here depth
  | (key, value) :: second :: fields, _, _, depth, h, deep => by
      obtain ⟨h, each⟩ := Bool.and_eq_true_iff.1 h
      obtain ⟨scalar, h⟩ := Bool.and_eq_true_iff.1 h
      have here := readsAs_indented value depth h (Nat.max_le.1 deep).1
      have later := readsFields_indented (second :: fields) (List.cons_ne_nil _ _) depth each
        (Nat.max_le.1 deep).2
      rw [toList_indentedFields_cons]
      exact .cons scalar here later depth

end

end Json

end TerminalReel
