import Mathlib.Data.List.Basic
import Mathlib.Data.List.Induction
import TerminalReel.Json.Relaxed
import TerminalReel.Proofs.Association
import TerminalReel.Proofs.Composer.Sketch
/-!
# TerminalReel.Proofs.Composer.Fluent

One composer and any number of sketches, **whatever the order of the calls**.

The calls are told apart by the sketch that they are about. What a sketch holds is
what it was told since it was opened, and what the composer holds is the step of
each sketch that was handed over, as it was then. Both are read off the sequence of
the calls, and one call after another keeps them true.
-/

namespace TerminalReel

/-- A call about a sketch, with values of the kinds that a step holds. -/
inductive FluentCall
  /-- Opens a sketch under a name. -/
  | openSketch (name : String)
  /-- Changes the sketch of this name. -/
  | tell (name : String) (change : StepChange)
  /-- Hands the step of the sketch of this name to the composer. -/
  | done (name : String)
  deriving DecidableEq

namespace FluentCall

/-- The call on the workbench. -/
def toWorkbenchCall : FluentCall → WorkbenchCall
  | openSketch name => .openSketch name
  | tell name change => .change name change.toSketchChange
  | done name => .done name

/-- The name of the sketch that the call is about. -/
def sketchName : FluentCall → String
  | openSketch name | tell name _ | done name => name

/-- What the sketch of this name is told. -/
def changeOf? (name : String) : FluentCall → Option StepChange
  | tell other change => if other = name then some change else none
  | _ => none

/-- The name of the sketch whose step is handed over. -/
def handed? : FluentCall → Option String
  | done name => some name
  | _ => none

/-- What the sketch of this name was told since it was opened last. -/
def changesOf (name : String) (calls : List FluentCall) : List StepChange :=
  (calls.reverse.takeWhile (· ≠ openSketch name)).reverse.filterMap (changeOf? name)

/-- The steps that are handed over, each as its sketch describes it at that moment. -/
def handedOver (calls : List FluentCall) : List Step :=
  (List.range calls.length).filterMap fun i =>
    (calls[i]?.bind handed?).map fun name => .described (changesOf name (calls.take i))

/-- No sketch is changed or handed over that was not opened before. -/
def OpenedFirst (calls : List FluentCall) : Prop :=
  ∀ i (h : i < calls.length),
    calls[i] = openSketch calls[i].sketchName ∨ openSketch calls[i].sketchName ∈ calls.take i

instance (calls : List FluentCall) : Decidable (OpenedFirst calls) :=
  inferInstanceAs (Decidable (∀ i (_ : i < calls.length), _))

/-! ### One call more -/

variable {calls : List FluentCall} {call : FluentCall} {name : String}

/-- A sketch is told one thing more, or begins anew where it is opened again. -/
theorem changesOf_append_singleton :
    changesOf name (calls ++ [call])
      = if call = openSketch name then []
        else changesOf name calls ++ (changeOf? name call).toList := by
  rw [changesOf, List.reverse_append, List.reverse_singleton, List.singleton_append,
    List.takeWhile_cons]
  by_cases opens : call = openSketch name
  · simp [opens]
  · simp only [opens, ne_eq, not_false_eq_true, decide_true, if_true, if_false, List.reverse_cons,
      List.filterMap_append, List.filterMap_cons, List.filterMap_nil]
    rw [changesOf]
    cases changeOf? name call <;> rfl

/-- What is said to one sketch is not said to another. -/
theorem changesOf_of_ne (ne : name ≠ call.sketchName) :
    changesOf name (calls ++ [call]) = changesOf name calls := by
  have unopened : call ≠ openSketch name := by
    rintro rfl
    exact ne rfl
  have unsaid : changeOf? name call = none := by
    cases call with
    | openSketch other => rfl
    | tell other change => exact if_neg ne.symm
    | done other => rfl
  rw [changesOf_append_singleton, if_neg unopened, unsaid]
  exact List.append_nil _

/-- One more step is handed over, as its sketch is told so far, or none. -/
theorem handedOver_append_singleton :
    handedOver (calls ++ [call]) = handedOver calls
      ++ (call.handed?.map fun name => .described (changesOf name calls)).toList := by
  rw [handedOver, List.length_append, List.length_singleton, List.range_succ,
    List.filterMap_append]
  congr 1
  · refine List.filterMap_congr fun i mem => ?_
    have before : i < calls.length := List.mem_range.1 mem
    rw [List.getElem?_append_left before, List.take_append_of_le_length (Nat.le_of_lt before)]
  · rw [List.filterMap_cons, List.getElem?_concat_length, Option.bind_some, List.take_left]
    cases call.handed? <;> rfl

theorem OpenedFirst.of_append {earlier later : List FluentCall}
    (h : OpenedFirst (earlier ++ later)) : OpenedFirst earlier := by
  intro i before
  have here := h i (by rw [List.length_append]; omega)
  rwa [List.getElem_append_left before, List.take_append_of_le_length (Nat.le_of_lt before)] at here

/-- The sketch of the last call is opened by it, or was before. -/
theorem OpenedFirst.last (h : OpenedFirst (calls ++ [call])) :
    call = openSketch call.sketchName ∨ openSketch call.sketchName ∈ calls := by
  have here := h calls.length (by rw [List.length_append, List.length_singleton]; omega)
  rwa [List.getElem_concat_length rfl, List.take_left] at here

end FluentCall

namespace Workbench

open FluentCall

variable {host : Host} {bench next : Workbench} {calls : List FluentCall} {call : FluentCall}
  {name : String}

/-- The workbench after calls, each of which succeeds. -/
def afterAll (host : Host) (bench : Workbench) (calls : List FluentCall) :
    Except CallError Workbench :=
  calls.foldlM (fun bench call => bench.after host call.toWorkbenchCall) bench

theorem afterAll_append (earlier later : List FluentCall) :
    bench.afterAll host (earlier ++ later)
      = bench.afterAll host earlier >>= fun bench => bench.afterAll host later :=
  List.foldlM_append

theorem afterAll_singleton (call : FluentCall) :
    bench.afterAll host [call] = bench.after host call.toWorkbenchCall := by
  simp [afterAll]

/-! ### What a call leaves alone -/

theorem sketch?_keep_of_ne {other : String} (sketch : StepSketch) (ne : other ≠ name) :
    (bench.keep name sketch).sketch? other = bench.sketch? other := by
  rw [sketch?, keep, List.lookup_cons, beq_eq_false_iff_ne.2 ne]
  exact lookup_filter_of_ne ne bench.sketches

theorem sketch_eq_ok {sketch : StepSketch} :
    bench.sketch name = .ok sketch ↔ bench.sketch? name = some sketch := by
  rw [Workbench.sketch]
  cases bench.sketch? name <;> simp

theorem withComposer_eq_ok {composer : Option Composer} :
    bench.withComposer composer = .ok next ↔
      ∃ c, composer = some c ∧ next = { bench with composer := c } := by
  cases composer with
  | none => exact ⟨nofun, nofun⟩
  | some c => simp [withComposer, eq_comm]

/-- A call on a sketch keeps it under its name, or adds its step and changes no sketch. -/
theorem after_cases (h : bench.after host call.toWorkbenchCall = .ok next) :
    (∃ sketch, next = bench.keep call.sketchName sketch) ∨
      next.sketches = bench.sketches ∧
        ∃ step, next.composer.steps = bench.composer.steps ++ [step] := by
  cases call with
  | openSketch name => exact .inl ⟨{}, (Except.ok.inj h).symm⟩
  | tell name change =>
      obtain ⟨sketch, -, h⟩ := bind_eq_ok.1 h
      exact .inl ⟨_, (pure_eq_ok.1 h).symm⟩
  | done name =>
      obtain ⟨sketch, -, h⟩ := bind_eq_ok.1 h
      obtain ⟨composer, added, rfl⟩ := withComposer_eq_ok.1 h
      exact .inr ⟨rfl, sketch.toJson, Composer.steps_of_addStep? added⟩

/-- No call on one sketch changes another. -/
theorem sketch?_of_after (h : bench.after host call.toWorkbenchCall = .ok next)
    (ne : call.sketchName ≠ name) : next.sketch? name = bench.sketch? name := by
  rcases after_cases h with ⟨sketch, rfl⟩ | ⟨same, -⟩
  · exact sketch?_keep_of_ne sketch ne.symm
  · rw [sketch?, sketch?, same]

/-- No call changes a step that was added before. -/
theorem steps_of_after (h : bench.after host call.toWorkbenchCall = .ok next) :
    bench.composer.steps <+: next.composer.steps := by
  rcases after_cases h with ⟨sketch, rfl⟩ | ⟨-, step, added⟩
  · exact List.prefix_rfl
  · exact ⟨[step], added.symm⟩

/-- No calls on other sketches change a sketch, however many they are. By induction on the
calls, of which each leaves it as it is. -/
theorem sketch?_of_afterAll (h : bench.afterAll host calls = .ok next)
    (ne : ∀ call ∈ calls, call.sketchName ≠ name) : next.sketch? name = bench.sketch? name := by
  induction calls generalizing bench with
  | nil => rw [Except.ok.inj h]
  | cons call rest ih =>
      obtain ⟨middle, first, later⟩ := bind_eq_ok.1 h
      obtain ⟨here, there⟩ := List.forall_mem_cons.1 ne
      rw [ih later there, sketch?_of_after first here]

/-- The steps that were added stay in front of those that later calls add. -/
theorem steps_of_afterAll (h : bench.afterAll host calls = .ok next) :
    bench.composer.steps <+: next.composer.steps := by
  induction calls generalizing bench with
  | nil =>
      obtain rfl := Except.ok.inj h
      exact List.prefix_rfl
  | cons call rest ih =>
      obtain ⟨middle, first, later⟩ := bind_eq_ok.1 h
      exact (steps_of_after first).trans (ih later)

/-! ### What the calls leave behind -/

/-- A workbench that holds what the calls say: the steps that were handed over, and
the sketches as they were told. -/
structure Reflects (calls : List FluentCall) (bench : Workbench) : Prop where
  composer : bench.composer = .holding (handedOver calls)
  sketch : ∀ name, openSketch name ∈ calls →
    bench.sketch? name = some (.describing (.described (changesOf name calls)))

theorem reflects_nil : Reflects [] {} := ⟨rfl, nofun⟩

/-- A sketch that was told what a call says holds it, and the others are as they were. -/
theorem Reflects.keep (h : Reflects calls bench) (call : FluentCall)
    (silent : call.handed? = none) :
    Reflects (calls ++ [call]) (bench.keep call.sketchName
      (.describing (.described (changesOf call.sketchName (calls ++ [call]))))) := by
  refine ⟨?_, fun name mem => ?_⟩
  · rw [composer_keep, h.composer, handedOver_append_singleton, silent]
    exact congrArg _ (List.append_nil _).symm
  · by_cases same : name = call.sketchName
    · rw [same, sketch?_keep_self]
    · have before : openSketch name ∈ calls := by
        rcases List.mem_append.1 mem with mem | mem
        · exact mem
        · exact absurd (congrArg sketchName (List.mem_singleton.1 mem)) same
      rw [sketch?_keep_of_ne _ same, h.sketch name before, changesOf_of_ne same]

theorem Reflects.openSketch (h : Reflects calls bench) (name : String) :
    Reflects (calls ++ [.openSketch name]) (bench.keep name {}) := by
  have keep := h.keep (.openSketch name) rfl
  rwa [sketchName, changesOf_append_singleton, if_pos rfl, StepSketch.describing_described_nil]
    at keep

/-- A sketch that is told one thing more describes the step with that change. -/
theorem Reflects.tell (h : Reflects calls bench) (change : StepChange) :
    Reflects (calls ++ [.tell name change]) (bench.keep name
      ((StepSketch.describing (.described (changesOf name calls))).apply
        change.toSketchChange)) := by
  have keep := h.keep (.tell name change) rfl
  have told : changesOf name (calls ++ [.tell name change]) = changesOf name calls ++ [change] := by
    rw [changesOf_append_singleton, if_neg (by simp), changeOf?, if_pos rfl]
    rfl
  rwa [sketchName, told, Step.described_append_singleton, ← StepSketch.apply_describing] at keep

/-- The step that is handed over is the one that its sketch describes by then. -/
theorem Reflects.done (h : Reflects calls bench) :
    Reflects (calls ++ [.done name]) { bench with
      composer := .holding (handedOver calls ++ [.described (changesOf name calls)]) } := by
  refine ⟨?_, fun other mem => ?_⟩
  · rw [handedOver_append_singleton]
    rfl
  · have before : FluentCall.openSketch other ∈ calls := by simpa using mem
    have untold : changesOf other (calls ++ [.done name]) = changesOf other calls := by
      rw [changesOf_append_singleton, if_neg (by simp)]
      exact List.append_nil _
    rw [untold]
    exact h.sketch other before

/-- A call on a sketch that is open succeeds, and what it leaves says one thing more. -/
theorem Reflects.after (host : Host) (h : Reflects calls bench)
    (opened : call = .openSketch call.sketchName ∨ .openSketch call.sketchName ∈ calls) :
    ∃ next, bench.after host call.toWorkbenchCall = .ok next ∧
      Reflects (calls ++ [call]) next := by
  cases call with
  | openSketch name => exact ⟨_, rfl, h.openSketch name⟩
  | tell name change =>
      have sketch := sketch_eq_ok.2 (h.sketch name (opened.resolve_left nofun))
      refine ⟨_, ?_, h.tell change⟩
      rw [toWorkbenchCall, Workbench.after, sketch, ok_bind]
      rfl
  | done name =>
      have sketch := sketch_eq_ok.2 (h.sketch name (opened.resolve_left nofun))
      refine ⟨_, ?_, h.done⟩
      rw [toWorkbenchCall, Workbench.after, sketch, ok_bind, h.composer, Composer.accept?_holding]
      rfl

/-- Calls on sketches that were opened all succeed, and they leave what they say. By
induction on the calls, the last one taken off. -/
theorem exists_afterAll (host : Host) (opened : OpenedFirst calls) :
    ∃ bench, afterAll host {} calls = .ok bench ∧ Reflects calls bench := by
  induction calls using List.reverseRecOn with
  | nil => exact ⟨{}, rfl, reflects_nil⟩
  | append_singleton calls call ih =>
      obtain ⟨bench, before, reflects⟩ := ih opened.of_append
      obtain ⟨next, now, reflects⟩ := reflects.after host opened.last
      refine ⟨next, ?_, reflects⟩
      rw [afterAll_append, before, ok_bind, afterAll_singleton, now]

/-- Whatever the order of the calls, the composer builds one step for each that was
handed over, and it is what its sketch was told last before that. Later calls leave the
steps that were added and the sketches that they are not about as they are. -/
theorem build_handedOver (host : Host) (opened : OpenedFirst calls) :
    ∃ bench, afterAll host {} calls = .ok bench ∧
      (bench.composer.build host).outcome = .ok { steps := handedOver calls } ∧
      ∀ earlier later, calls = earlier ++ later → ∃ before, afterAll host {} earlier = .ok before ∧
        (before.composer.build host).outcome = .ok { steps := handedOver earlier } ∧
        before.composer.steps <+: bench.composer.steps ∧
        ∀ name, (∀ call ∈ later, call.sketchName ≠ name) →
          bench.sketch? name = before.sketch? name := by
  have builds {calls : List FluentCall} {bench : Workbench} (h : Reflects calls bench) :
      (bench.composer.build host).outcome = .ok { steps := handedOver calls } := by
    rw [h.composer, Composer.build_holding]
    rfl
  obtain ⟨bench, ended, reflects⟩ := exists_afterAll host opened
  refine ⟨bench, ended, builds reflects, ?_⟩
  rintro earlier later rfl
  obtain ⟨before, reached, reflects⟩ := exists_afterAll host opened.of_append
  rw [afterAll_append, reached, ok_bind] at ended
  exact ⟨before, reached, builds reflects, steps_of_afterAll ended,
    fun _ => sketch?_of_afterAll ended⟩

/-- Two sketches in turn, of which one is handed over, told more and handed over again. -/
def interleaved : List FluentCall :=
  [.openSketch "one", .tell "one" (.command "ls"), .openSketch "other",
    .tell "other" (.timing none (some 1) none), .done "one", .tell "one" (.lines ["file"]),
    .done "other", .tell "other" (.timing (some 2) none none), .done "one"]

theorem build_handedOver_interleaved : ∃ bench, afterAll .standard {} interleaved = .ok bench ∧
    (bench.composer.build .standard).outcome = .ok { steps := [
      { command := "ls", timing := .unset },
      { timing := { Timing.unset with perChar := 1 } },
      { command := "ls", timing := .unset, lines := ["file"] }] } := by
  have opened : OpenedFirst interleaved := by decide +kernel
  obtain ⟨bench, ended, built, -⟩ := build_handedOver .standard opened
  refine ⟨bench, ended, built.trans ?_⟩
  have handed : handedOver interleaved = [
      { command := "ls", timing := .unset },
      { timing := { Timing.unset with perChar := 1 } },
      { command := "ls", timing := .unset, lines := ["file"] }] := by
    decide +kernel
  rw [handed]

end Workbench

end TerminalReel
