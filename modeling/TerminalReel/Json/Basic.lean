import TerminalReel.Numeric.Numeral
import TerminalReel.Text.Quoted
/-!
# TerminalReel.Json.Basic

The values that a configuration document holds.

Objects keep their fields **in the order in which they were first set**, each
key once: setting a key again changes its value and not its place. Numbers keep
the kind in which they were written.
-/

namespace TerminalReel

/-- A value of a configuration document. -/
inductive Json
  /-- The absent value. -/
  | null
  /-- A truth value. -/
  | bool (value : Bool)
  /-- A number. -/
  | number (value : Number)
  /-- A text. -/
  | string (value : Text)
  /-- A sequence of values. -/
  | array (items : List Json)
  /-- Named values, in the order of their first setting. -/
  | object (fields : List (Text × Json))

/-- The fields of an object. -/
abbrev Fields := List (Text × Json)

namespace Fields

/-- The value under a key. -/
def get? (fields : Fields) (key : Text) : Option Json := fields.lookup key

/-- Puts a value under a key: in the key's place if it has one, else at the end. -/
def set (fields : Fields) (key : Text) (value : Json) : Fields :=
  match fields with
  | [] => [(key, value)]
  | (k, v) :: rest => if k = key then (key, value) :: rest else (k, v) :: set rest key value

/-- The fields that a sequence of settings leaves. -/
def ofList (settings : List (Text × Json)) : Fields :=
  settings.foldl (fun fields (key, value) => set fields key value) []

/-- The value under a key, or the default one where the key is absent or null. -/
def getOr (fields defaults : Fields) (key : Text) : Json :=
  match get? fields key with
  | none | some .null => (get? defaults key).getD .null
  | some value => value

@[simp] theorem get?_nil (key : Text) : get? [] key = none := rfl

theorem get?_cons (k key : Text) (v : Json) (rest : Fields) :
    get? ((k, v) :: rest) key = if key = k then some v else get? rest key := by
  unfold get?
  rw [List.lookup_cons]
  by_cases h : key = k
  · simp [h]
  · simp [h, beq_eq_false_iff_ne.2 h]

@[simp] theorem get?_set_self (fields : Fields) (key : Text) (value : Json) :
    get? (set fields key value) key = some value := by
  induction fields with
  | nil => simp [set, get?_cons]
  | cons first rest ih =>
    obtain ⟨k, v⟩ := first
    unfold set
    split
    · simp [get?_cons]
    · rename_i h
      rw [get?_cons, if_neg (Ne.symm h), ih]

/-- Setting a key that is present keeps the order of the keys. -/
theorem keys_set_of_mem {fields : Fields} {key : Text} (value : Json)
    (h : key ∈ fields.map Prod.fst) :
    (set fields key value).map Prod.fst = fields.map Prod.fst := by
  induction fields with
  | nil => simp at h
  | cons first rest ih =>
    obtain ⟨k, v⟩ := first
    unfold set
    split
    · rename_i hk
      simp [hk]
    · rename_i hk
      have : key ∈ rest.map Prod.fst := by
        simpa [Ne.symm hk] using h
      simp [ih this]

end Fields

namespace Json

instance : Inhabited Json := ⟨.null⟩

instance : Coe Number Json := ⟨.number⟩

instance : Coe Text Json := ⟨.string⟩

instance : Coe String Json := ⟨fun s => .string s⟩

instance : Coe Bool Json := ⟨.bool⟩

/-- The kinds of values, as messages name them. -/
inductive Kind
  | null
  | bool
  | int
  | float
  | string
  | array
  | object
  deriving DecidableEq

/-- What a message calls a kind. -/
def Kind.name : Kind → String
  | null => "NoneType"
  | bool => "bool"
  | int => "int"
  | float => "float"
  | string => "str"
  | array => "list"
  | object => "dict"

/-- The kind of a value. -/
def kind : Json → Kind
  | .null => .null
  | .bool _ => .bool
  | .number (.int _) => .int
  | .number (.float _) => .float
  | .string _ => .string
  | .array _ => .array
  | .object _ => .object

/-- An empty, zero, false or absent value, which counts as not given where a
section of a configuration may be left out. -/
def isBlank : Json → Bool
  | .null => true
  | .bool b => !b
  | .number n => n.place? == some (.quanta 0)
  | .string s => s.isEmpty
  | .array items => items.isEmpty
  | .object fields => fields.isEmpty

/-! ### Depth -/

mutual

/-- How many containers stand inside one another, the outermost counted. -/
def depth : Json → Nat
  | .array items => itemsDepth items + 1
  | .object fields => fieldsDepth fields + 1
  | _ => 0

/-- The depth of the deepest item. -/
def itemsDepth : List Json → Nat
  | [] => 0
  | item :: rest => max item.depth (itemsDepth rest)

/-- The depth of the deepest field. -/
def fieldsDepth : List (Text × Json) → Nat
  | [] => 0
  | (_, value) :: rest => max value.depth (fieldsDepth rest)

end

theorem depth_le_itemsDepth {items : List Json} :
    ∀ item ∈ items, item.depth ≤ itemsDepth items := by
  induction items with
  | nil => exact List.forall_mem_nil _
  | cons first rest ih =>
      refine List.forall_mem_cons.2 ⟨Nat.le_max_left _ _, fun item mem => ?_⟩
      exact Nat.le_trans (ih item mem) (Nat.le_max_right _ _)

theorem depth_le_fieldsDepth {fields : Fields} :
    ∀ field ∈ fields, field.2.depth ≤ fieldsDepth fields := by
  induction fields with
  | nil => exact List.forall_mem_nil _
  | cons first rest ih =>
      refine List.forall_mem_cons.2 ⟨Nat.le_max_left _ _, fun field mem => ?_⟩
      exact Nat.le_trans (ih field mem) (Nat.le_max_right _ _)

/-! ### Numbers -/

mutual

/-- Every number in the value may be written. -/
def isWritable : Json → Bool
  | .number n => n.isWritable
  | .array items => areWritable items
  | .object fields => fieldsAreWritable fields
  | _ => true

/-- Every number in the items may be written. -/
def areWritable : List Json → Bool
  | [] => true
  | item :: rest => item.isWritable && areWritable rest

/-- Every number in the fields may be written. -/
def fieldsAreWritable : List (Text × Json) → Bool
  | [] => true
  | (_, value) :: rest => value.isWritable && fieldsAreWritable rest

end

/-! ### Values as messages show them -/

mutual

/-- A value as a message shows it. -/
def shown : Json → String
  | .null => "None"
  | .bool true => "True"
  | .bool false => "False"
  | .number n => n.text
  | .string s => quoted s
  | .array items => "[" ++ shownItems items ++ "]"
  | .object fields => "\x7b" ++ shownFields fields ++ "\x7d"

/-- The items of an array, separated. -/
def shownItems : List Json → String
  | [] => ""
  | [item] => item.shown
  | item :: rest => item.shown ++ ", " ++ shownItems rest

/-- The fields of an object, separated. -/
def shownFields : List (Text × Json) → String
  | [] => ""
  | [(key, value)] => quoted key ++ ": " ++ value.shown
  | (key, value) :: rest => quoted key ++ ": " ++ value.shown ++ ", " ++ shownFields rest

end

/-- A value as running text: a text as it is, all else as a message shows it. -/
def plain : Json → Text
  | .string s => s
  | value => value.shown

end Json

end TerminalReel
