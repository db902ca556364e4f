import TerminalReel.Text.Basic
/-!
# TerminalReel.Log

What a run **reports on the way**, kept as part of its result.

A computation that reports is a value with the entries that led to it, oldest
first. An attempt that fails still has the entries written before it failed, so
the failure is inside the value and not around it.
-/

namespace TerminalReel

/-- How much an entry matters. -/
inductive Level
  | debug
  | info
  | warning
  | error
  deriving DecidableEq

/-- The written name of a level. -/
def Level.name : Level → String
  | debug => "DEBUG"
  | info => "INFO"
  | warning => "WARNING"
  | error => "ERROR"

/-- The part of the program that an entry comes from. -/
inductive Channel
  /-- The tools and the command line. -/
  | program
  /-- Reading configurations. -/
  | config
  /-- Compiling timelines. -/
  | timeline
  deriving DecidableEq

/-- The written name of a channel. -/
def Channel.name : Channel → String
  | program => "termanim"
  | config => "termanim.config"
  | timeline => "termanim.timeline"

/-- One report. -/
structure LogEntry where
  level : Level
  channel : Channel
  text : Text
  deriving DecidableEq

/-- A value and what was reported on the way to it. -/
structure Logged (α : Type) where
  /-- The reports, oldest first. -/
  entries : List LogEntry
  value : α

namespace Logged

instance : Monad Logged where
  pure a := ⟨[], a⟩
  bind x f :=
    let y := f x.value
    ⟨x.entries ++ y.entries, y.value⟩

@[simp] theorem entries_pure {α : Type} (a : α) : (pure a : Logged α).entries = [] := rfl

instance : LawfulMonad Logged :=
  LawfulMonad.mk' Logged
    (fun x => by cases x; simp [Functor.map])
    (fun _ _ => rfl)
    (fun x f g => by simp [bind, List.append_assoc])

end Logged

/-- A computation that reports and may fail; a failure keeps the reports. -/
abbrev Attempt (ε α : Type) := ExceptT ε Logged α

namespace Attempt

/-- Reports one entry. -/
def log {ε : Type} (level : Level) (channel : Channel) (text : Text) : Attempt ε Unit :=
  ExceptT.mk ⟨[⟨level, channel, text⟩], .ok ()⟩

/-- A computation that reports nothing. -/
def ofExcept {ε α : Type} (x : Except ε α) : Attempt ε α := ExceptT.mk ⟨[], x⟩

/-- The reports of an attempt. -/
def entries {ε α : Type} (x : Attempt ε α) : List LogEntry := x.run.entries

/-- How an attempt ended. -/
def outcome {ε α : Type} (x : Attempt ε α) : Except ε α := x.run.value

/-- The same attempt, its failure told as a failure of a larger whole. -/
def mapError {ε ε' α : Type} (f : ε → ε') (x : Attempt ε α) : Attempt ε' α :=
  ExceptT.mk ⟨x.entries, x.outcome.mapError f⟩

@[simp] theorem entries_ofExcept {ε α : Type} (x : Except ε α) : (ofExcept x).entries = [] := rfl

@[simp] theorem outcome_ofExcept {ε α : Type} (x : Except ε α) : (ofExcept x).outcome = x := rfl

@[simp] theorem outcome_mapError {ε ε' α : Type} (f : ε → ε') (x : Attempt ε α) :
    (x.mapError f).outcome = x.outcome.mapError f := rfl

@[simp] theorem outcome_pure {ε α : Type} (a : α) : (pure a : Attempt ε α).outcome = .ok a := rfl

@[simp] theorem outcome_log {ε : Type} (level : Level) (channel : Channel) (text : Text) :
    (log level channel text : Attempt ε Unit).outcome = .ok () := rfl

/-- How an attempt ends does not depend on what it reports. -/
@[simp] theorem outcome_bind {ε α β : Type} (x : Attempt ε α) (f : α → Attempt ε β) :
    (x >>= f).outcome = x.outcome >>= fun a => (f a).outcome := by
  rcases x with ⟨entries, _ | a⟩ <;> rfl

end Attempt

end TerminalReel
