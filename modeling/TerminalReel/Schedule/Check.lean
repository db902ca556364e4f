import TerminalReel.Config.Error
/-!
# TerminalReel.Schedule.Check

Which steps **can be scheduled**: at least one, each of whose three timing
values is a finite number that is not negative. The first fault is reported,
step by step and within a step in the order start, pace, hold. A whole number
beyond the range of binary64 numbers is no fault of a step; it ends the check as
it would end any arithmetic.

A `Draft` is a step whose timing values have not been read yet and may be
anything a document holds. Checking a draft reads it.
-/

namespace TerminalReel

/-- The timing values of a step. -/
inductive TimingField
  | start
  | perChar
  | hold
  deriving DecidableEq

namespace TimingField

/-- What a message calls the field. -/
def name : TimingField → String
  | start => "start"
  | perChar => "per_char"
  | hold => "hold"

/-- The fields in the order in which they are checked. -/
def all : List TimingField := [start, perChar, hold]

/-- The field's value. -/
def value (timing : Timing) : TimingField → Number
  | start => timing.start
  | perChar => timing.perChar
  | hold => timing.hold

end TimingField

/-- What can be wrong with a timing value. -/
inductive TimingFault
  /-- It is no number. -/
  | notNumber (found : Json)
  /-- It is infinite or a nan. -/
  | notFinite (found : Number)
  /-- It is negative. -/
  | negative (found : Number)

/-- The wording of each fault of a timing value. -/
def TimingFault.message : TimingFault → String
  | notNumber found => s!"expected a number, got {found.shown}"
  | notFinite found => s!"must be finite, got {found}"
  | negative found => s!"must be >= 0, got {found}"

/-- The numbers that the wording shows may be written. -/
def TimingFault.isWritable : TimingFault → Bool
  | notNumber found => found.isWritable
  | notFinite found | negative found => found.isWritable

/-- The host can show the values that the wording shows. -/
def TimingFault.isShowable (host : Host) : TimingFault → Bool
  | notNumber found => host.shows.covers found
  | _ => true

/-- Why steps cannot be scheduled. -/
inductive StepError
  /-- There are none. -/
  | noSteps
  /-- A timing value of one step is at fault. -/
  | timing (index : Nat) (field : TimingField) (fault : TimingFault)

namespace StepError

/-- The written place of a fault in a step, with its field if it has one. -/
def placeText (index : Int) (field : Option String) : String :=
  let field := field.filter (· ≠ "")
  s!"step {index}" ++ (field.map fun name => s!" ({name})").getD ""

/-- The index of the faulty step, where there is one. -/
def index? : StepError → Option Nat
  | noSteps => none
  | timing index _ _ => some index

/-- The faulty field, where there is one. -/
def field? : StepError → Option TimingField
  | noSteps => none
  | timing _ field _ => some field

/-- The numbers that the message shows may be written. -/
def isWritable : StepError → Bool
  | noSteps => true
  | timing _ _ fault => fault.isWritable

/-- The host can show the values that the message shows. -/
def isShowable (host : Host) : StepError → Bool
  | noSteps => true
  | timing _ _ fault => fault.isShowable host

/-- The message: the place, then the fault. -/
def message : StepError → String
  | noSteps => "animation needs at least one step"
  | timing index field fault => located (some (placeText index field.name)) fault.message

end StepError

/-- Why a check of steps does not succeed. -/
inductive CheckError
  /-- A step is at fault, or there is none. -/
  | step (e : StepError)
  /-- A value lies beyond the range of binary64 numbers. -/
  | arithmetic (e : ArithmeticError)

/-! ### Single values -/

/-- What is wrong with a timing value, if anything is. -/
def timingFault? (n : Number) : Except ArithmeticError (Option TimingFault) := do
  let x ← n.operand
  if !x.isFinite then return some (.notFinite n)
  else if n.lt 0 then return some (.negative n)
  else return none

/-- Checks one timing value of the step at an index. -/
def checkTimingValue (index : Nat) (field : TimingField) (n : Number) : Except CheckError Unit :=
  match timingFault? n with
  | .ok none => .ok ()
  | .ok (some fault) => .error (.step (.timing index field fault))
  | .error e => .error (.arithmetic e)

/-- A drafted timing value is a number that passes the check. -/
def readTimingValue (index : Nat) (field : TimingField) (value : Json) :
    Except CheckError Number :=
  match value with
  | .number n => do
    checkTimingValue index field n
    return n
  | value => .error (.step (.timing index field (.notNumber value)))

/-! ### Steps -/

/-- Checks the three timing values of the step at an index. -/
def checkTiming (index : Nat) (timing : Timing) : Except CheckError Unit :=
  TimingField.all.forM fun field => checkTimingValue index field (field.value timing)

/-- Checks steps from an index on. -/
def checkStepsFrom : Nat → List Step → Except CheckError Unit
  | _, [] => .ok ()
  | index, step :: rest => do
    checkTiming index step.timing
    checkStepsFrom (index + 1) rest

/-- Checks that steps can be scheduled. -/
def checkSteps : List Step → Except CheckError Unit
  | [] => .error (.step .noSteps)
  | steps => checkStepsFrom 0 steps

/-! ### Drafts -/

/-- A step whose timing values have not been read yet. -/
structure Draft where
  /-- The step apart from its timing. -/
  step : Step := {}
  start : Json := .number ({} : Timing).start
  perChar : Json := .number ({} : Timing).perChar
  hold : Json := .number ({} : Timing).hold

namespace Draft

/-- Reads the draft at an index. -/
def read (index : Nat) (draft : Draft) : Except CheckError Step := do
  let start ← readTimingValue index .start draft.start
  let perChar ← readTimingValue index .perChar draft.perChar
  let hold ← readTimingValue index .hold draft.hold
  return { draft.step with timing := { start, perChar, hold } }

/-- Reads drafts from an index on. -/
def readFrom : Nat → List Draft → Except CheckError (List Step)
  | _, [] => .ok []
  | index, draft :: rest => do
    let step ← draft.read index
    return step :: (← readFrom (index + 1) rest)

/-- Reads drafts that can be scheduled. -/
def readAll : List Draft → Except CheckError (List Step)
  | [] => .error (.step .noSteps)
  | drafts => readFrom 0 drafts

end Draft

end TerminalReel
