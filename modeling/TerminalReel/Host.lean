import TerminalReel.Json.Basic
/-!
# TerminalReel.Host

What the program has from **its host**, and does not decide itself.

A walk into a value keeps calls open for every container that it is inside of, and the
host stops it where it has no room for more. How much room there is depends on the host
and on where the program is called from, so a host is any that keeps the few laws below.
Relaxed documents are read by a reader that the host supplies.
-/

namespace TerminalReel

/-- How many containers stand inside one another where the program puts a document
together itself: a configuration, its steps, a step, and the sections of that. -/
def Json.ownDepth : Nat := 4

/-- The values that walks of one kind get to the end of. -/
structure Reach where
  /-- A walk through the value gets to its end. -/
  covers : Json → Bool
  /-- What is inside a value takes less room than the value. -/
  item {items : List Json} : covers (.array items) = true → ∀ item ∈ items, covers item = true
  field {fields : Fields} :
    covers (.object fields) = true → ∀ field ∈ fields, covers field.2 = true
  /-- There is room for what the program puts together. -/
  own {value : Json} : value.depth ≤ Json.ownDepth → covers value = true

/-- The walks that are stopped at a number of containers inside one another. -/
def Reach.upTo (limit : Nat) (enough : Json.ownDepth ≤ limit) : Reach where
  covers value := value.depth ≤ limit
  item h item mem := decide_eq_true
    (Nat.le_trans (Json.depth_le_itemsDepth item mem) (Nat.le_of_succ_le (of_decide_eq_true h)))
  field h field mem := decide_eq_true
    (Nat.le_trans (Json.depth_le_fieldsDepth field mem) (Nat.le_of_succ_le (of_decide_eq_true h)))
  own shallow := decide_eq_true (Nat.le_trans shallow enough)

/-- Why the reader of relaxed documents stops. -/
inductive RelaxedStop
  /-- The text is not in the relaxed form, for what the reader reports. -/
  | malformed (report : Text)
  /-- There is no room for another open call. -/
  | tooDeep
  /-- Anything else that a reader may fail with. -/
  | other
  deriving DecidableEq

/-- What a run of the program has from the system that it runs in. -/
structure Host where
  /-- How many containers may be open inside one another while a strict document is read. -/
  room : Nat
  /-- The values that can be copied. -/
  copies : Reach
  /-- The values that can be shown in a message. -/
  shows : Reach
  /-- The values that can be written out as a document. -/
  prints : Reach
  /-- Copying keeps two calls open for each container where the others keep one, so what
  can be copied is read, shown and written out as well. -/
  read_of_copied {value : Json} : copies.covers value = true → value.depth ≤ room
  shown_of_copied {value : Json} : copies.covers value = true → shows.covers value = true
  printed_of_copied {value : Json} : copies.covers value = true → prints.covers value = true
  /-- The document that a relaxed text holds. -/
  readRelaxed : List Char → Except RelaxedStop Json

namespace Host

/-- The reader of relaxed documents refuses a text with a report, or for want of room,
and fails with nothing else. -/
def ReportsFlaws (host : Host) : Prop := ∀ text, host.readRelaxed text ≠ .error .other

/-- The numbers of containers inside one another at which walks are stopped. -/
structure Limits where
  reading : Nat
  copying : Nat
  showing : Nat
  printing : Nat
  own : Json.ownDepth ≤ copying
  least : copying ≤ reading ∧ copying ≤ showing ∧ copying ≤ printing

/-- A host that goes by numbers of containers alone. -/
def ofLimits (limits : Limits) (readRelaxed : List Char → Except RelaxedStop Json) : Host where
  room := limits.reading
  copies := .upTo limits.copying limits.own
  shows := .upTo limits.showing (Nat.le_trans limits.own limits.least.2.1)
  prints := .upTo limits.printing (Nat.le_trans limits.own limits.least.2.2)
  read_of_copied h := Nat.le_trans (of_decide_eq_true h) limits.least.1
  shown_of_copied h := decide_eq_true (Nat.le_trans (of_decide_eq_true h) limits.least.2.1)
  printed_of_copied h := decide_eq_true (Nat.le_trans (of_decide_eq_true h) limits.least.2.2)
  readRelaxed := readRelaxed

end Host

end TerminalReel
