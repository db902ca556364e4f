import TerminalReel.Proofs.Answers
import TerminalReel.Proofs.Document.Binding
/-!
# TerminalReel.Proofs.Agreement

The two tools **tell the same of a document**.

Both read the same configuration and compile it in the same way, so what one of them
refuses for, the other one does. After that the first one draws, and that fails only by
faults that are no reports; the second one reads off the schedule, and that does not fail
at all, since the length of the cycle was computed from the end of every step
(`exists_overview`). What is left is to count the parts in the style sheet as it is read.
-/

namespace TerminalReel

/-! ### The schedule can be read off -/

namespace Schedule

/-- Where the last fade is computed, the end of every step is. -/
theorem exists_finish_of_lastFade {loop : Bool} {reached n : Number} {placed : List PlacedStep}
    (h : lastFade loop reached placed = .ok n) : ∀ p ∈ placed, ∃ ended, p.finish = .ok ended := by
  induction placed generalizing reached with
  | nil => exact List.forall_mem_nil _
  | cons p rest ih =>
      rw [lastFade, bind_eq_ok] at h
      obtain ⟨fade, fades, later⟩ := h
      obtain ⟨ended, finish, -⟩ := bind_eq_ok.1 fades
      exact List.forall_mem_cons.2 ⟨⟨ended, finish⟩, ih later⟩

end Schedule

/-- A run over elements that all have results has results. -/
theorem exists_mapM {ε α β : Type} {f : α → Except ε β} {as : List α}
    (each : ∀ a ∈ as, ∃ b, f a = .ok b) : ∃ bs, as.mapM f = .ok bs := by
  induction as with
  | nil => exact ⟨[], rfl⟩
  | cons a as ih =>
      obtain ⟨⟨b, here⟩, there⟩ := List.forall_mem_cons.1 each
      obtain ⟨bs, later⟩ := ih there
      exact ⟨b :: bs, mapM_cons_eq_ok.2 ⟨b, bs, here, later, rfl⟩⟩

/-- Each scene of a timeline is that of a step of its configuration, in its place. -/
theorem Timeline.exists_placed_of_compile {config : Config} {forceLoop : Bool}
    {timeline : Timeline} (h : (compile config forceLoop).outcome = .ok timeline) :
    timeline.scenes.length = config.steps.length ∧ ∀ (k : ℕ) (scene : Scene),
      timeline.scenes[k]? = some scene → scene.placed.index = k ∧
        (∃ ended, scene.placed.finish = .ok ended) ∧
        ∀ step, config.steps[k]? = some step →
          scene.placed.requestedStart = step.timing.start := by
  obtain ⟨placed, -, -, places, totals, compiled⟩ := compile_eq_ok h
  obtain ⟨length, each⟩ := scenesAfter_eq_ok compiled
  obtain ⟨last, fades, -⟩ := bind_eq_ok.1 totals
  refine ⟨length.trans (Schedule.placeFrom_follows places).1, fun k scene at_scene => ?_⟩
  obtain ⟨p, at_p, scene_ok⟩ := each k scene at_scene
  obtain ⟨step, at_step, follows⟩ := Schedule.place_follows places at_p
  rw [(sceneOf_eq_ok scene_ok).1]
  refine ⟨follows.index_eq, ?_, fun step' at_step' => ?_⟩
  · exact Schedule.exists_finish_of_lastFade fades p (List.mem_of_getElem? at_p)
  · obtain rfl : step = step' := Option.some.inj (at_step.symm.trans at_step')
    exact follows.requestedStart_eq

namespace Tools

/-- The entry says of a scene what the scene says. -/
structure StepOverview.Describes (entry : StepOverview) (scene : Scene) : Prop where
  index_eq : entry.index = scene.placed.index
  requestedStart_eq : entry.requestedStart = scene.placed.requestedStart
  start_eq : entry.start = scene.placed.start
  finish_eq : scene.placed.finish = .ok entry.finish
  appearAt_eq : entry.appearAt = scene.appearAt
  fadeOutAt_eq : entry.fadeOutAt = scene.fadeOutAt
  partCount_eq : entry.partCount = scene.parts.length

theorem StepOverview.describes_of_ofScene {scene : Scene} {entry : StepOverview}
    (h : StepOverview.ofScene scene = .ok entry) : entry.Describes scene := by
  obtain ⟨ended, finish, h⟩ := bind_eq_ok.1 h
  obtain rfl := pure_eq_ok.1 h
  exact ⟨rfl, rfl, rfl, finish, rfl, rfl, rfl⟩

/-- A compiled animation has a schedule, with an entry for each scene. -/
theorem exists_overview {config : Config} {forceLoop : Bool} {timeline : Timeline}
    (h : (Timeline.compile config forceLoop).outcome = .ok timeline) : ∃ overview,
      Overview.ofTimeline timeline = .ok overview ∧ overview.total = timeline.total ∧
      overview.loop = timeline.loop ∧
      List.Forall₂ StepOverview.Describes overview.steps timeline.scenes := by
  obtain ⟨-, each⟩ := Timeline.exists_placed_of_compile h
  have entries : ∀ scene ∈ timeline.scenes, ∃ entry, StepOverview.ofScene scene = .ok entry := by
    intro scene mem
    obtain ⟨k, at_scene⟩ := List.getElem?_of_mem mem
    obtain ⟨-, ⟨ended, finish⟩, -⟩ := each k scene at_scene
    exact ⟨_, bind_eq_ok.2 ⟨ended, finish, rfl⟩⟩
  obtain ⟨steps, listed⟩ := exists_mapM entries
  refine ⟨⟨timeline.total, timeline.loop, steps⟩, bind_eq_ok.2 ⟨steps, listed, rfl⟩, rfl, rfl, ?_⟩
  have describes := forall₂_of_mapM (g := id) listed fun scene _ entry ok =>
    StepOverview.describes_of_ofScene ok
  rwa [List.map_id] at describes

end Tools

/-! ### The style sheet counts the parts -/

namespace Style

/-- The item is a block of keyframes. -/
def Item.isKeyframes : Item → Bool
  | .keyframes _ => true
  | .rule _ _ => false

/-- The words of the animation that a rule plays, if it plays one: the name of the
keyframes, the length of the cycle, the timing function, the delay, how many times it is
played, and what is kept after that. -/
def Item.playback? : Item → Option (List String)
  | .keyframes _ => none
  | .rule _ declarations => (declarations.find? (·.property = "animation")).map (·.value)

/-- How an animation is played: for ever, or once and its last frame kept. -/
def courseOf (loop : Bool) : List String := if loop then ["infinite"] else ["1", "forwards"]

theorem playback?_ruleItem (loop : Bool) (duration : String) (animated : AnimatedPart) :
    (ruleItem loop duration animated).playback? =
      some ([animated.track.name, duration ++ "ms", animated.part.timingFunction, "0ms"] ++
        courseOf loop) := by
  cases loop <;> rfl

/-- The blocks and the rules of a sheet: as many blocks as parts, as many rules, and every
rule plays an animation in the same way. -/
theorem parts_counted (loop : Bool) (duration : String) (parts : List AnimatedPart) :
    let shown := parts.map (fun animated => Item.keyframes animated.track.name) ++
      parts.map (ruleItem loop duration)
    shown.countP Item.isKeyframes = parts.length ∧
      shown.countP (fun item => !item.isKeyframes) = parts.length ∧
      ∀ item ∈ shown, item.isKeyframes = false →
        ∃ words, item.playback? = some words ∧ words.drop 4 = courseOf loop := by
  intro shown
  have blocks : ∀ item ∈ parts.map (fun animated => Item.keyframes animated.track.name),
      item.isKeyframes = true := List.forall_mem_map.2 fun _ _ => rfl
  have rules : ∀ item ∈ parts.map (ruleItem loop duration), item.isKeyframes = false :=
    List.forall_mem_map.2 fun _ _ => rfl
  have count_blocks : shown.countP Item.isKeyframes = parts.length := by
    rw [List.countP_append, List.countP_eq_length.2 blocks, List.length_map,
      List.countP_eq_zero.2 fun item mem => Bool.eq_false_iff.1 (rules item mem), Nat.add_zero]
  refine ⟨count_blocks, ?_, fun item mem isRule => ?_⟩
  · have total := List.length_eq_countP_add_countP Item.isKeyframes (l := shown)
    rw [count_blocks, List.length_append, List.length_map, List.length_map] at total
    simpa using total.symm
  · rcases List.mem_append.1 mem with mem | mem
    · exact absurd (blocks item mem) (Bool.eq_false_iff.1 isRule)
    · obtain ⟨animated, -, rfl⟩ := List.mem_map.1 mem
      exact ⟨_, playback?_ruleItem loop duration animated, rfl⟩

end Style

namespace Tools

open Markup Style

/-- A schedule tells the same as a drawing of a configuration. -/
structure Tells (overview : Overview) (document : Document) (config : Config) (loop : Bool) :
    Prop where
  total_eq : overview.total = document.timeline.total
  loop_eq : overview.loop = loop
  describes : List.Forall₂ StepOverview.Describes overview.steps document.timeline.scenes
  /-- There is an entry for each step, in order. -/
  length_eq : overview.steps.length = config.steps.length
  entries : ∀ (k : ℕ) (entry : StepOverview) (step : Step), overview.steps[k]? = some entry →
    config.steps[k]? = some step → entry.index = k ∧ entry.requestedStart = step.timing.start
  /-- The drawing has one style sheet. Behind the rule about strokes, which plays nothing,
  every rule of it plays an animation for ever if the schedule says that it starts over,
  and otherwise once; and the entries count the blocks of keyframes and these rules. -/
  sheet : ∃ sheet shown, contents "style" document.svg = [Text.ofString sheet] ∧
    items sheet = inheritRule :: shown ∧
    (∀ item ∈ shown, item.isKeyframes = false →
      ∃ words, item.playback? = some words ∧ words.drop 4 = courseOf overview.loop) ∧
    (overview.steps.map (·.partCount)).sum = shown.countP Item.isKeyframes ∧
    (overview.steps.map (·.partCount)).sum = shown.countP fun item => !item.isKeyframes

variable {config : Config} {stem : Text} {forceLoop : Bool}

section Entries

variable {entries : List StepOverview} {scenes : List Scene}
  (h : List.Forall₂ StepOverview.Describes entries scenes)

include h

/-- The entries count the parts. -/
theorem sum_partCount :
    (entries.map (·.partCount)).sum = (scenes.flatMap Scene.parts).length := by
  induction h with
  | nil => rfl
  | cons first _ ih =>
      rw [List.map_cons, List.sum_cons, List.flatMap_cons, List.length_append, ih,
        first.partCount_eq]

/-- An entry describes the scene in its place. -/
theorem exists_scene {k : ℕ} {entry : StepOverview} (at_entry : entries[k]? = some entry) :
    ∃ scene, scenes[k]? = some scene ∧ entry.Describes scene := by
  obtain ⟨bound, rfl⟩ := List.getElem?_eq_some_iff.1 at_entry
  have within : k < scenes.length := h.length_eq ▸ bound
  exact ⟨scenes[k], List.getElem?_eq_getElem within, h.get bound within⟩

end Entries

/-- What is drawn of a configuration is told of it. -/
theorem tells_of_ofTimeline {timeline : Timeline} {file : Document}
    (compiled : (Timeline.compile config forceLoop).outcome = .ok timeline)
    (h : Document.ofTimeline timeline config stem = .ok file) : ∃ overview,
      Overview.ofTimeline timeline = .ok overview ∧
      Tells overview file config (forceLoop || config.loop) := by
  obtain ⟨drawing, drawn, h⟩ := bind_eq_ok.1 h
  obtain ⟨css, printed, h⟩ := bind_eq_ok.1 h
  obtain rfl := pure_eq_ok.1 h
  obtain ⟨-, loop, -⟩ := Timeline.compile_eq_ok compiled
  obtain ⟨length, each⟩ := Timeline.exists_placed_of_compile compiled
  obtain ⟨overview, listed, total, loops, entries⟩ := exists_overview compiled
  obtain ⟨css', printed', sheet⟩ := Document.contents_style_tree compiled drawn
  obtain rfl : css = css' := Except.ok.inj (printed.symm.trans printed')
  obtain ⟨ms, duration, -, -, read⟩ := Timeline.items_css compiled printed
  obtain ⟨blocks, rules, played⟩ := parts_counted timeline.loop duration timeline.parts
  have count : (overview.steps.map (·.partCount)).sum = timeline.parts.length :=
    sum_partCount entries
  refine ⟨overview, listed, total, loops.trans loop, entries, entries.length_eq.trans length, ?_,
    _, _, sheet, read, loops ▸ played, count.trans blocks.symm, count.trans rules.symm⟩
  intro k entry step at_entry at_step
  obtain ⟨scene, at_scene, described⟩ := exists_scene entries at_entry
  obtain ⟨place, -, start⟩ := each k scene at_scene
  exact ⟨described.index_eq.trans place, described.requestedStart_eq.trans (start step at_step)⟩

/-! ### The two tools -/

/-- What both tools begin with: the configuration of a document, and its animation. -/
def prepare (host : Host) (document : Json) (forceLoop : Bool) :
    Except Fault (Config × Timeline) := do
  let config ← (resolveSource host (.document document)).outcome
  let timeline ← (Timeline.compile config forceLoop).outcome.mapError (.ofCompile host)
  return (config, timeline)

/-- The first tool draws what was prepared. -/
theorem outcome_compile_eq (host : Host) (document : Json) (stem : Text) (forceLoop : Bool) :
    ∃ x : Attempt Fault Document,
      (compile host document stem forceLoop).outcome = (replying x).outcome ∧
      x.outcome = prepare host document forceLoop >>= fun prepared =>
        (Document.ofTimeline prepared.2 prepared.1 stem).mapError .ofArithmetic := by
  refine ⟨do
    let config ← resolveSource host (.document document)
    (Document.build config stem forceLoop).mapError (.ofCompile host), ?_, ?_⟩
  · simp only [compile, Attempt.outcome_bind, Attempt.outcome_log]
    generalize (replying _).outcome = ended
    rcases ended with fault | file | message <;> rfl
  · simp only [prepare, Document.build, Attempt.outcome_bind, Attempt.outcome_mapError,
      Attempt.outcome_ofExcept]
    cases (resolveSource host (.document document)).outcome with
    | error fault => rfl
    | ok config =>
        rw [ok_bind, ok_bind]
        cases (Timeline.compile config forceLoop).outcome with
        | error fault => rfl
        | ok timeline =>
            rw [ok_bind]
            cases drawn : Document.ofTimeline timeline config stem <;>
              simp only [Except.mapError, ok_bind, pure, Except.pure, drawn, Fault.ofCompile]

/-- The second tool lists what was prepared. -/
theorem outcome_describe_eq (host : Host) (document : Json) (forceLoop : Bool) :
    ∃ x : Attempt Fault Overview,
      (describe host document forceLoop).outcome = (replying x).outcome ∧
      x.outcome = prepare host document forceLoop >>= fun prepared =>
        (Overview.ofTimeline prepared.2).mapError .ofArithmetic := by
  refine ⟨_, rfl, ?_⟩
  simp only [prepare, Attempt.outcome_bind, Attempt.outcome_mapError, Attempt.outcome_ofExcept]
  cases (resolveSource host (.document document)).outcome with
  | error fault => rfl
  | ok config =>
      rw [ok_bind, ok_bind]
      cases (Timeline.compile config forceLoop).outcome <;> rfl

variable {host : Host} {document : Json} {reply : Reply Document}

/-- Whenever the first tool answers, the second one tells the same: with the same message
where the first one rejects the document, and otherwise with a schedule of what the first
one drew. -/
theorem describe_agrees (h : (compile host document stem forceLoop).outcome = .ok reply) :
    (∃ message, reply = .rejected message ∧
      (describe host document forceLoop).outcome = .ok (.rejected message)) ∨
    ∃ file overview config, reply = .answer file ∧
      (describe host document forceLoop).outcome = .ok (.answer overview) ∧
      (resolveSource host (.document document)).outcome = .ok config ∧
      Tells overview file config (forceLoop || config.loop) := by
  obtain ⟨drawing, compiled, drawn⟩ := outcome_compile_eq host document stem forceLoop
  obtain ⟨listing, described, listed⟩ := outcome_describe_eq host document forceLoop
  rw [compiled, outcome_replying, drawn] at h
  rw [described, outcome_replying, listed]
  cases prepared : prepare host document forceLoop with
  | error fault =>
      -- A failure of what the tools share is told by both, or by neither.
      rw [prepared] at h
      dsimp only [bind, Except.bind] at h ⊢
      split at h
      · obtain rfl := Except.ok.inj h
        exact .inl ⟨fault.message, rfl, if_pos ‹_›⟩
      · cases h
  | ok pair =>
      obtain ⟨config, timeline⟩ := pair
      obtain ⟨config', resolved, rest⟩ := bind_eq_ok.1 prepared
      obtain ⟨timeline', timed, rest⟩ := bind_eq_ok.1 rest
      obtain ⟨rfl, rfl⟩ : config' = config ∧ timeline' = timeline :=
        Prod.mk.inj (pure_eq_ok.1 rest)
      rw [prepared, ok_bind] at h
      rw [ok_bind]
      cases rendered : Document.ofTimeline timeline' config' stem with
      | error fault =>
          -- Drawing fails by what is no report only, and then there was no answer.
          rw [rendered] at h
          cases fault <;> cases h
      | ok file =>
          rw [rendered] at h
          obtain rfl := Except.ok.inj h
          obtain ⟨overview, schedule, tells⟩ :=
            tells_of_ofTimeline (mapError_eq_ok.1 timed) rendered
          rw [schedule]
          exact .inr ⟨file, overview, config', rfl, rfl, resolved, tells⟩

/-- A step with lines, one without, and one with neither lines nor a command. -/
def mixedSteps : Json :=
  .object [("steps", .array [.object [("terminalLines", .array ["one", "two"]), ("command", "ls")],
    .object [("command", "cd ..")], .object [("terminalLines", .array ["bye"])], .object []])]

/-- The request is answered with what was asked for. -/
def isAnswered {α : Type} : Except Fault (Reply α) → Bool
  | .ok (.answer _) => true
  | _ => false

theorem describe_agrees_mixedSteps : ∃ file overview config,
    (compile .standard mixedSteps).outcome = .ok (.answer file) ∧
      (describe .standard mixedSteps).outcome = .ok (.answer overview) ∧
      (resolveSource .standard (.document mixedSteps)).outcome = .ok config ∧
      Tells overview file config (false || config.loop) := by
  have answered : isAnswered (compile .standard mixedSteps).outcome = true := by decide +kernel
  cases ended : (compile .standard mixedSteps).outcome with
  | error fault =>
      rw [ended] at answered
      cases answered
  | ok reply =>
      obtain ⟨message, rfl, -⟩ | ⟨file, overview, config, rfl, described, resolved, tells⟩ :=
        describe_agrees ended
      · rw [ended] at answered
        cases answered
      · exact ⟨file, overview, config, rfl, described, resolved, tells⟩

end Tools

end TerminalReel
