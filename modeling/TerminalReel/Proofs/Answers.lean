import TerminalReel.Json.Relaxed
import TerminalReel.Proofs.Document.Range
import TerminalReel.Tools
/-!
# TerminalReel.Proofs.Answers

The tools **answer every request** about a moderate document, with what was asked for or
with a message, and where a request about another document has no answer, something in
the document is too large. This is so on any host, however deep it goes into a value
that a message shows.

A tool turns the reports about a configuration into messages. So what is left is to see
that every other fault is an overflow, a number with too many digits, or a value that is
too deep for the host, and that no moderate document comes to one of these.
-/

namespace TerminalReel

variable {host : Host} {P : Prop}

namespace Fault

/-- Something in the document is too large to be computed with, to be written or to be
shown. -/
def IsExcess (fault : Fault) : Prop :=
  fault = .compile (.arithmetic .intTooLarge) ∨ fault = .longNumeral ∨ fault = .tooDeep

/-- The fault is told to the user, or comes from an excess, where `P` does not hold. -/
def IsAccounted (P : Prop) (fault : Fault) : Prop :=
  fault.isReport = true ∨ fault.IsExcess ∧ ¬P

theorem isAccounted_told {report : Fault} {showable writable : Bool}
    (isReport : report.isReport = true) (canBeTold : P → writable = true ∧ showable = true) :
    (told showable writable report).IsAccounted P := by
  cases showable with
  | false => exact .inr ⟨.inr (.inr rfl), fun holds => Bool.false_ne_true (canBeTold holds).2⟩
  | true =>
      cases writable with
      | false => exact .inr ⟨.inr (.inl rfl), fun holds => Bool.false_ne_true (canBeTold holds).1⟩
      | true => exact .inl isReport

theorem isAccounted_ofConfig {e : ConfigError} (h : e.IsReport host P) :
    (ofConfig host e).IsAccounted P := by
  rw [h.ofConfig_eq_told]
  exact isAccounted_told rfl h.canBeTold

theorem isAccounted_ofArithmetic {e : ArithmeticError} (h : e.IsOverflow ∧ ¬P) :
    (ofArithmetic e).IsAccounted P := by
  obtain ⟨rfl | rfl, fails⟩ := h
  · exact .inr ⟨.inl rfl, fails⟩
  · exact .inr ⟨.inr (.inl rfl), fails⟩

theorem isAccounted_ofCompile {e : CompileError} (h : e.IsRefusal P) :
    (ofCompile host e).IsAccounted P := by
  cases e with
  | step e => exact isAccounted_told rfl fun holds => (h holds).imp_right (· host)
  | crowding e => exact .inl rfl
  | arithmetic e => exact isAccounted_ofArithmetic h

end Fault

namespace Tools

/-! ### The schedule -/

theorem computes_overview {timeline : Timeline}
    (each : ∀ scene ∈ timeline.scenes, scene.IsDrawable host P) :
    Computes P (fun _ => True) (Overview.ofTimeline timeline) := by
  have step (scene : Scene) (mem : scene ∈ timeline.scenes) :
      Computes P (fun _ => True) (StepOverview.ofScene scene) :=
    (PlacedStep.computes_finish (each scene mem).step).bind fun _ _ => .pure trivial
  exact (Ends.mapM step).bind fun _ _ => .pure trivial

/-! ### Replies -/

/-- A reply is given unless there is a fault that is no report. -/
theorem outcome_replying {α : Type} (x : Attempt Fault α) :
    (replying x).outcome = match x.outcome with
      | .ok a => .ok (.answer a)
      | .error fault => if fault.isReport then .ok (.rejected fault.message) else .error fault := by
  rcases x with ⟨entries, fault | a⟩
  · show (if fault.isReport then pure (.rejected fault.message) else throw fault :
      Attempt Fault (Reply α)).outcome = _
    dsimp only [Attempt.outcome, ExceptT.run]
    split <;> rfl
  · rfl

theorem ends_replying {α : Type} {x : Attempt Fault α}
    (h : Ends (fun _ => True) (Fault.IsAccounted P) x.outcome) :
    Ends (fun _ => True) (fun fault => fault.IsExcess ∧ ¬P) (replying x).outcome := by
  rw [outcome_replying]
  generalize x.outcome = ended at h
  cases h with
  | ok _ => exact .ok trivial
  | error accounted =>
      dsimp only
      split
      · exact .ok trivial
      · rename_i untold
        exact .error (accounted.resolve_left untold)

/-- A document stands for a configuration as moderate as it is, or it is rejected. -/
theorem ends_resolveSource (host : Host) (document : Json) :
    Ends (fun config => document.IsModerate host → config.IsModerate host)
      (Fault.IsAccounted (document.IsModerate host))
      (resolveSource host (.document document)).outcome := by
  cases document with
  | object fields =>
      -- The condition on the document is carried along as the proposition.
      exact (Config.reports_ofJson (Json.tellable_isModerate host) (.object fields)).mapError
        fun _ => Fault.isAccounted_ofConfig
  | _ => exact .error (.inl rfl)

/-- The first tool answers, or fails by what is no report, and then the document is not
moderate. -/
theorem ends_compile (host : Host) (document : Json) (stem : Text) (forceLoop : Bool) :
    Ends (fun _ => True) (fun fault => fault.IsExcess ∧ ¬document.IsModerate host)
      (compile host document stem forceLoop).outcome := by
  have replies : Ends (fun _ => True) (fun fault => fault.IsExcess ∧ ¬document.IsModerate host)
      (replying do
        let config ← resolveSource host (.document document)
        (Document.build config stem forceLoop).mapError (.ofCompile host)).outcome := by
    refine ends_replying ?_
    simp only [Attempt.outcome_bind, Attempt.outcome_mapError]
    refine (ends_resolveSource host document).bind fun config moderate => ?_
    exact (Document.compiles_build stem forceLoop moderate).mapError
      fun _ => Fault.isAccounted_ofCompile
  simp only [compile, Attempt.outcome_bind, Attempt.outcome_log]
  refine Ends.bind (.ok trivial) fun _ (_ : True) => replies.bind fun reply _ => ?_
  cases reply with
  | answer document => exact .ok trivial
  | rejected message => exact .ok trivial

/-- The second tool answers, or fails by what is no report, and then the document is not
moderate. -/
theorem ends_describe (host : Host) (document : Json) (forceLoop : Bool) :
    Ends (fun _ => True) (fun fault => fault.IsExcess ∧ ¬document.IsModerate host)
      (describe host document forceLoop).outcome := by
  refine ends_replying ?_
  simp only [Attempt.outcome_bind, Attempt.outcome_mapError, Attempt.outcome_ofExcept]
  refine (ends_resolveSource host document).bind fun config moderate => ?_
  refine ((Timeline.compiles_compile forceLoop moderate).mapError
    fun _ => Fault.isAccounted_ofCompile).bind fun timeline each => ?_
  exact (computes_overview each).mapError fun _ => Fault.isAccounted_ofArithmetic

theorem answered_or_excess {α : Type} {document : Json} {x : Except Fault α}
    (h : Ends (fun _ => True) (fun fault => fault.IsExcess ∧ ¬document.IsModerate host) x) :
    (∃ reply, x = .ok reply) ∨
      ¬document.IsModerate host ∧ ∃ fault, fault.IsExcess ∧ x = .error fault := by
  cases h with
  | @ok reply _ => exact .inl ⟨reply, rfl⟩
  | @error fault excess => exact .inr ⟨excess.2, fault, excess.1, rfl⟩

/-- On any host both tools answer every request about a moderate document, whatever else
is asked for. A request that is not answered fails since something in its document is too
large. -/
theorem answers (host : Host) (document : Json) (stem : Text) (forceLoop : Bool) :
    ((∃ reply, (compile host document stem forceLoop).outcome = .ok reply) ∨
      ¬document.IsModerate host ∧
        ∃ fault, fault.IsExcess ∧
          (compile host document stem forceLoop).outcome = .error fault) ∧
    ((∃ reply, (describe host document forceLoop).outcome = .ok reply) ∨
      ¬document.IsModerate host ∧
        ∃ fault, fault.IsExcess ∧ (describe host document forceLoop).outcome = .error fault) :=
  ⟨answered_or_excess (ends_compile host document stem forceLoop),
    answered_or_excess (ends_describe host document forceLoop)⟩

/-- One step that is held longer than any binary64 number of seconds. -/
def endlessHold : Json :=
  .object [("steps", .array [.object [("timing", .object [("hold", Number.int (10 ^ 400))])]])]

/-- The request fails since a whole number is too large to be computed with. -/
def overflows {α : Type} : Except Fault α → Bool
  | .error (.compile (.arithmetic .intTooLarge)) => true
  | _ => false

theorem eq_error_of_overflows {α : Type} {x : Except Fault α} (h : overflows x = true) :
    x = .error (.compile (.arithmetic .intTooLarge)) := by
  unfold overflows at h
  split at h
  · rfl
  · cases h

theorem unanswered_endlessHold :
    (compile .standard endlessHold).outcome = .error (.compile (.arithmetic .intTooLarge)) ∧
      (describe .standard endlessHold).outcome
        = .error (.compile (.arithmetic .intTooLarge)) :=
  ⟨eq_error_of_overflows (by decide +kernel), eq_error_of_overflows (by decide +kernel)⟩

end Tools

end TerminalReel
