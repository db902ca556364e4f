import TerminalReel.Animation.Timeline
import TerminalReel.Proofs.Schedule.Range
/-!
# TerminalReel.Proofs.Animation.Range

**Moderate** configurations are compiled, or they are refused with a report, and other
configurations fail for one more reason only.

Percentages are quotients by the length of the cycle, which is no zero, and what is
written for the style sheet is then a binary64 number. Places are computed like times,
from a number, a length and a few constants.
-/

namespace TerminalReel

variable {host : Host} {P : Prop}

/-! ### Steps of compiling -/

/-- The steps or their moments are at fault, which can be told if `P` holds, or a number
is too large, where `P` does not. -/
def CompileError.IsRefusal (P : Prop) : CompileError → Prop
  | .step e => P → e.isWritable = true ∧ ∀ host, e.isShowable host = true
  | .crowding _ => True
  | .arithmetic e => e.IsOverflow ∧ ¬P

/-- A step of compiling that ends in a `good` value, or in a refusal. -/
abbrev Compiles {α : Type} (P : Prop) (good : α → Prop) (x : Except CompileError α) : Prop :=
  Ends good (CompileError.IsRefusal P) x

namespace Timeline

variable {α : Type} {good : α → Prop}

theorem compiles_calculate {x : Except ArithmeticError α} (h : Computes P good x) :
    Compiles P good (calculate x) :=
  h.mapError fun _ bad => bad

theorem compiles_arrange {x : Except CrowdingError α} (h : Ends good (fun _ => True) x) :
    Compiles P good (arrange x) :=
  h.mapError fun _ _ => trivial

end Timeline

/-! ### Tracks -/

theorem isFloat_clampPercent {n : Number} (h : n.IsFloat) : (clampPercent n).IsFloat :=
  Number.min_of_both (Number.isFloat_float _) (Number.max_of_both (Number.isFloat_float _) h)

/-- A time has a percentage in a cycle that takes some time. -/
theorem computes_toPercent {seconds : Number} {total : Binary64}
    (h : P → seconds.IsWithin operandBits) (nonzero : total.isZero = false) :
    Computes P Number.IsFloat (toPercent seconds (.float total)) := by
  have hundred : (100 : Number).IsWithin 10 := Number.isWithin_int.2 (by decide)
  refine (Number.computes_div h nonzero).bind ?_
  rintro _ ⟨x, rfl⟩
  refine (Number.computes_float_mul x fun _ => hundred.mono (by decide)).bind ?_
  rintro _ ⟨y, rfl⟩
  exact .pure (isFloat_clampPercent (Number.isFloat_float _))

namespace Track

/-- The percentages of the track are binary64 numbers. -/
def IsFloat (track : Track) : Prop := ∀ frame ∈ track.frames, frame.percent.IsFloat

theorem ends_framesAfter (part : Part) (previous : Keyframe) {events : List Keyframe}
    (each : ∀ event ∈ events, event.percent.IsFloat) :
    Ends (fun frames => ∀ frame ∈ frames, frame.percent.IsFloat) (fun _ => True)
      (framesAfter part previous events) := by
  induction events generalizing previous with
  | nil =>
      rw [framesAfter, closing]
      split
      · exact .ok (List.forall_mem_singleton.2 (Number.isFloat_float _))
      · exact .ok (List.forall_mem_nil _)
  | cons event rest ih =>
      obtain ⟨here, there⟩ := List.forall_mem_cons.1 each
      rw [framesAfter]
      split
      · split
        · exact ih previous there
        · dsimp only
          split
          · exact .error trivial
          · refine (ih _ there).bind fun frames hf => .pure ?_
            exact List.forall_mem_cons.2 ⟨Number.isFloat_float _, hf⟩
      · refine (ih _ there).bind fun frames hf => .pure ?_
        exact List.forall_mem_cons.2 ⟨isFloat_clampPercent here, hf⟩

/-- A track of events with float percents has float percents itself. -/
theorem ends_ofEvents (part : Part) (initial : Int) {events : List Keyframe}
    (each : ∀ event ∈ events, event.percent.IsFloat) :
    Ends IsFloat (fun _ => True) (ofEvents part initial events) :=
  (ends_framesAfter part _ each).bind fun _ hf =>
    .pure (List.forall_mem_cons.2 ⟨Number.isFloat_float _, hf⟩)

end Track

/-! ### Parts -/

/-- What the style sheet writes of a part are binary64 numbers. -/
structure AnimatedPart.IsFloat (animated : AnimatedPart) : Prop where
  track : animated.track.IsFloat
  duration : animated.rule.durationMs.IsFloat
  delay : animated.rule.delayMs.IsFloat

/-- The same of what is typed for a step, with a part for each character of its command. -/
structure TypedCommand.IsFloat (placed : PlacedStep) (typed : TypedCommand) : Prop where
  prompt : typed.prompt.IsFloat
  command : typed.command.IsFloat
  count : typed.characters.length = placed.step.command.length
  characters : ∀ char ∈ typed.characters, char.animated.IsFloat

namespace Timeline

variable {total : Binary64} {loop : Bool}

theorem compiles_ruleOf (part : Part) (timingFunction : String) :
    Compiles P (fun rule => rule.durationMs.IsFloat ∧ rule.delayMs.IsFloat)
      (ruleOf ⟨.float total, loop⟩ part timingFunction) := by
  have thousand : (1000 : Number).IsWithin 10 := Number.isWithin_int.2 (by decide)
  exact (compiles_calculate (Number.computes_float_mul total fun _ =>
    thousand.mono (by decide))).bind fun _ hd => .pure ⟨hd, Number.isFloat_float _⟩

theorem compiles_animate (part : Part) {track : Track} (h : track.IsFloat) :
    Compiles P AnimatedPart.IsFloat (animate ⟨.float total, loop⟩ part track) :=
  (compiles_ruleOf part "linear").bind fun _ ⟨hd, hdelay⟩ => .pure ⟨h, hd, hdelay⟩

variable (nonzero : total.isZero = false)

include nonzero

/-- The events of a fade are computed, if its times are within bounds. -/
theorem computes_fadeEvents {appearAt : Number} {fadeOutAt : Option Number}
    (appear : P → appearAt.IsWithin operandBits)
    (fade : ∀ n ∈ fadeOutAt, P → n.IsWithin operandBits) :
    Computes P (fun events => ∀ event ∈ events, event.percent.IsFloat)
      (fadeEvents ⟨.float total, loop⟩ appearAt fadeOutAt) := by
  have event (time : Number) (opacity : Int) (h : P → time.IsWithin operandBits) :
      Computes P (fun event => event.percent.IsFloat) (do
        return (⟨← toPercent time (.float total), opacity⟩ : Keyframe)) :=
    (computes_toPercent h nonzero).bind fun _ hp => .pure hp
  have after {time : Number} (h : P → time.IsWithin operandBits) :
      Computes P (fun n => P → n.IsWithin operandBits) (time.add Schedule.fadeDuration) :=
    (Number.computes_add_float h _).mono fun _ isFloat _ => isFloat.isWithin _
  refine (event appearAt Opacity.hidden appear).bind fun a ha => ?_
  refine (after appear).bind fun appeared happeared => ?_
  refine (event appeared Opacity.visible happeared).bind fun b hb => ?_
  cases fadeOutAt with
  | none => exact .pure (by simp [ha, hb])
  | some fadeOutAt =>
      refine (event fadeOutAt Opacity.visible (fade _ rfl)).bind fun c hc => ?_
      refine (after (fade _ rfl)).bind fun faded hfaded => ?_
      refine (event faded Opacity.hidden hfaded).bind fun d hd => ?_
      exact .pure (by simp [ha, hb, hc, hd])

theorem compiles_animateFading (part : Part) {appearAt : Number} {fadeOutAt : Option Number}
    (appear : P → appearAt.IsWithin operandBits)
    (fade : ∀ n ∈ fadeOutAt, P → n.IsWithin operandBits) :
    Compiles P AnimatedPart.IsFloat
      (animateFading ⟨.float total, loop⟩ part appearAt fadeOutAt) := by
  refine (compiles_calculate (computes_fadeEvents nonzero appear fade)).bind fun events he => ?_
  refine (compiles_arrange (Track.ends_ofEvents part Opacity.hidden he)).bind fun track ht => ?_
  exact compiles_animate part ht

/-! ### Typing -/

omit nonzero in
theorem ends_separate (part : Part) (perChar : Number) (previous : Option Number)
    {percent : Number} (h : percent.IsFloat) :
    Ends Number.IsFloat (fun _ => True) (separate part perChar previous percent) := by
  cases previous with
  | none => exact .ok h
  | some previous =>
      rw [separate]
      split
      · dsimp only
        split
        · exact .error trivial
        · exact .ok (Number.isFloat_float _)
      · exact .ok h

/-- The characters are typed, each of them once, as far as the command goes. -/
theorem compiles_typeFrom {placed : PlacedStep} (h : P → placed.step.IsModerate host) (index : ℕ)
    (previous : Option Number) {chars : List CodePoint}
    (inside : index + chars.length ≤ placed.step.command.length) :
    Compiles P
      (fun typed => typed.length = chars.length ∧ ∀ t ∈ typed, t.animated.IsFloat)
      (typeFrom ⟨.float total, loop⟩ placed index previous chars) := by
  -- An index within the command is moderate because the length of the command is.
  induction chars generalizing index previous with
  | nil => exact .ok ⟨rfl, List.forall_mem_nil _⟩
  | cons char rest ih =>
      rw [List.length_cons] at inside
      have typed : index ≤ placed.step.command.length := by omega
      refine (compiles_calculate (placed.computes_revealAt h typed)).bind fun revealAt hr => ?_
      have percents := computes_toPercent (fun holds => (hr holds).mono (by decide)) nonzero
      refine (compiles_calculate percents).bind fun percent hp => ?_
      refine (compiles_arrange (ends_separate _ _ previous hp)).bind fun percent hp => ?_
      have reveal : ∀ event ∈ [Keyframe.mk percent Opacity.visible], event.percent.IsFloat :=
        List.forall_mem_singleton.2 hp
      refine (compiles_arrange (Track.ends_ofEvents _ Opacity.hidden reveal)).bind
        fun track ht => ?_
      refine (compiles_ruleOf _ _).bind fun rule ⟨hd, hdelay⟩ => ?_
      refine (ih (index + 1) _ (by omega)).bind fun others ⟨count, ho⟩ => .pure ⟨?_, ?_⟩
      · rw [List.length_cons, List.length_cons, count]
      · exact List.forall_mem_cons.2 ⟨⟨ht, hd, hdelay⟩, ho⟩

/-- A command of a moderate step is laid out, and all of its parts are drawn with floats. -/
theorem compiles_typedCommand {placed : PlacedStep} (h : P → placed.step.IsModerate host)
    {appearAt : Number} {fadeOutAt : Option Number} (appear : P → appearAt.IsWithin operandBits)
    (fade : ∀ n ∈ fadeOutAt, P → n.IsWithin operandBits) :
    Compiles P (TypedCommand.IsFloat placed)
      (typedCommand ⟨.float total, loop⟩ placed appearAt fadeOutAt) := by
  have still := Track.ends_ofEvents ⟨.prompt, placed.index⟩ Opacity.visible
    (List.forall_mem_nil fun event : Keyframe => event.percent.IsFloat)
  refine (compiles_arrange still).bind fun track ht => ?_
  refine (compiles_animate _ ht).bind fun prompt hp => ?_
  refine (compiles_animateFading nonzero _ appear fade).bind fun command hc => ?_
  refine (compiles_typeFrom nonzero h 0 none (Nat.zero_add _).le).bind fun characters hchars => ?_
  exact .pure ⟨hp, hc, hchars.1, hchars.2⟩

end Timeline

/-! ### Layouts -/

theorem Text.length_append (first second : Text) :
    (first ++ second).length = first.length + second.length :=
  List.length_append

/-- A prompt is its texts, one sign between user and host and one before the path. -/
theorem Prompt.length_text_le (prompt : Prompt) :
    prompt.text.length ≤ prompt.user.length + prompt.host.length
      + (prompt.path.map Text.length).getD 0 + prompt.symbol.length + 2 := by
  have path : ((prompt.shownPath?.map ((":" : Text) ++ ·)).getD "").length
      ≤ (prompt.path.map Text.length).getD 0 + 1 := by
    cases shown : prompt.shownPath? with
    | none => exact Nat.zero_le _
    | some path =>
        have given : prompt.path = some path := (Option.filter_eq_some_iff.1 shown).1
        rw [given, Option.map_some, Option.map_some, Option.getD_some, Option.getD_some,
          Text.length_append]
        exact (Nat.add_comm _ _).le
  have sign : ("@" : Text).length = 1 := rfl
  rw [Prompt.text]
  simp only [Text.length_append, sign]
  omega

/-- The bits of the place where a command begins. -/
def layoutBits : ℕ := productBits + 5

namespace Layout

theorem isWithin_prompt {prompt : Prompt} (h : prompt.Meets (Json.IsModerate host)) :
    (Number.int prompt.text.length).IsWithin (lengthBits + 3) := by
  have user : prompt.user.length < 2 ^ lengthBits := h.user.length_lt
  have host : prompt.host.length < 2 ^ lengthBits := h.host.length_lt
  have symbol : prompt.symbol.length < 2 ^ lengthBits := h.symbol.length_lt
  have path : (prompt.path.map Text.length).getD 0 < 2 ^ lengthBits := by
    cases given : prompt.path with
    | none => exact Nat.two_pow_pos _
    | some path => exact (h.path path given).length_lt
  have length := prompt.length_text_le
  have bits : 2 ^ (lengthBits + 3) = 2 ^ lengthBits * 8 := pow_add 2 lengthBits 3
  show prompt.text.length < 2 ^ (lengthBits + 3)
  omega

/-- A place is the one that is given, or the one that is laid out. -/
theorem isWithin_place {position : Option Position} {place : Position → Option Number} {n : Number}
    {bits : ℕ} (given : ∀ p ∈ position, ∀ x ∈ place p, x.IsWithin bits)
    (laidOut : n.IsWithin bits) : ((position.bind place).getD n).IsWithin bits := by
  cases found : position.bind place with
  | none => exact laidOut
  | some x =>
      obtain ⟨p, hp, hx⟩ := Option.bind_eq_some_iff.1 found
      exact given p hp x hx

variable {charWidth : Number}

theorem computes_ofStep {step : Step} (h : P → step.IsModerate host)
    (wide : P → charWidth.IsWithin numberBits) :
    Computes P (fun layout => (P → layout.promptX.IsWithin numberBits) ∧
      (P → layout.commandX.IsWithin layoutBits)) (ofStep step charWidth) := by
  have twenty : defaultPromptX.IsWithin 10 := Number.isWithin_int.2 (by decide)
  have five : commandGap.IsWithin 10 := Number.isWithin_int.2 (by decide)
  have promptX : P →
      ((step.position.bind (·.promptX)).getD defaultPromptX).IsWithin numberBits :=
    fun holds => isWithin_place
      (fun p hp x hx => (((h holds).position p hp).promptX x hx).isWithin)
      (twenty.mono (by decide))
  have width := Number.computes_mul (fun holds => isWithin_prompt (h holds).prompt) wide (by decide)
  refine width.bind fun promptWidth hw => ?_
  refine (Number.computes_add (fun holds => (promptX holds).mono (by decide)) hw (by decide)).bind
    fun edge he => ?_
  refine (Number.computes_add he (fun _ => five.mono (by decide)) (by decide)).bind
    fun commandX hc => ?_
  refine .pure ⟨promptX, fun holds => ?_⟩
  exact isWithin_place
    (fun p hp x hx => (((h holds).position p hp).commandX x hx).isWithin.mono (by decide))
    (hc holds)

/-- The place of a character is computed, if the layout and the text are within bounds. -/
theorem computes_charX {layout : Layout} {text : Text} {index : ℕ}
    (h : P → layout.commandX.IsWithin layoutBits) (wide : P → charWidth.IsWithin numberBits)
    (moderate : P → (Json.string text).IsModerate host) (le : index ≤ text.length) :
    Computes P Number.IsFloat (layout.charX index charWidth) := by
  have inset : commandInset.IsWithin 10 := Number.isWithin_int.2 (by decide)
  refine (Number.computes_add h (fun _ => inset.mono (by decide)) (by decide)).bind
    fun left hl => ?_
  refine (Number.computes_mul (fun holds => Text.isWithin_of_le_length (moderate holds) le) wide
    (by decide)).bind fun offset ho => ?_
  refine (Number.computes_mul_float (fun holds => (ho holds).mono (by decide)) _).bind ?_
  rintro _ ⟨x, rfl⟩
  exact Number.computes_add_float (fun holds => (hl holds).mono (by decide)) x

end Layout

/-! ### Scenes -/

/-- What is drawn and told of a scene can be computed, if `P` holds. -/
structure Scene.IsDrawable (host : Host) (P : Prop) (scene : Scene) : Prop where
  step : P → scene.placed.step.IsModerate host
  promptX : P → scene.layout.promptX.IsWithin numberBits
  commandX : P → scene.layout.commandX.IsWithin layoutBits
  parts : ∀ animated ∈ scene.parts, animated.IsFloat
  typed : ∀ typed ∈ scene.typed, typed.characters.length = scene.placed.step.command.length

namespace Timeline

variable {total : Binary64} {loop : Bool}

theorem computes_appearAfter {previous : Option PlacedStep}
    (before : ∀ p ∈ previous, P → p.step.IsModerate host) :
    Computes P Number.IsFloat (appearAfter previous) := by
  cases previous with
  | none => exact .ok (Number.isFloat_float _)
  | some p => exact p.computes_nextStart (before p rfl)

theorem computes_fadeOutOf (cycle : Cycle) {placed : PlacedStep}
    (h : P → placed.step.IsModerate host) :
    Computes P (fun fadeOutAt => ∀ n ∈ fadeOutAt, P → n.IsWithin operandBits)
      (fadeOutOf cycle placed) := by
  rw [fadeOutOf]
  split
  · exact .ok forall_mem_none
  · exact (placed.computes_fadeOutAt h cycle.loop).map fun n hn =>
      forall_mem_some fun holds => (hn holds).mono (by decide)

variable (nonzero : total.isZero = false)

include nonzero

/-- The scene of a moderate step after a moderate one is compiled, and it can be drawn. -/
theorem compiles_sceneOf {charWidth : Number} {previous : Option PlacedStep} {placed : PlacedStep}
    (wide : P → charWidth.IsWithin numberBits) (before : ∀ p ∈ previous, P → p.step.IsModerate host)
    (h : P → placed.step.IsModerate host) :
    Compiles P (Scene.IsDrawable host P)
      (sceneOf ⟨.float total, loop⟩ charWidth previous placed) := by
  refine (compiles_calculate (Layout.computes_ofStep h wide)).bind fun layout ⟨hp, hc⟩ => ?_
  refine (compiles_calculate (computes_appearAfter before)).bind fun appearAt ha => ?_
  have appear : P → appearAt.IsWithin operandBits := fun _ => ha.isWithin _
  refine (compiles_calculate (computes_fadeOutOf _ h)).bind fun fadeOutAt fade => ?_
  have printing : Compiles P (fun lines => ∀ animated ∈ lines, animated.IsFloat)
      (some <$> animateFading ⟨.float total, loop⟩ ⟨.lines, placed.index⟩ appearAt fadeOutAt) :=
    (compiles_animateFading nonzero _ appear fade).map fun _ hl => forall_mem_some hl
  have typing : Compiles P (fun typed => ∀ t ∈ typed, TypedCommand.IsFloat placed t)
      (some <$> typedCommand ⟨.float total, loop⟩ placed appearAt fadeOutAt) :=
    (compiles_typedCommand nonzero h appear fade).map fun _ ht => forall_mem_some ht
  have drawable (lines : Option AnimatedPart) (typed : Option TypedCommand)
      (hl : ∀ animated ∈ lines, animated.IsFloat)
      (ht : ∀ t ∈ typed, TypedCommand.IsFloat placed t) :
      Scene.IsDrawable host P { placed, layout, appearAt, fadeOutAt, lines, typed } := by
    refine ⟨h, hp, hc, List.forall_mem_append.2 ⟨?_, ?_⟩, fun t mem => (ht t mem).count⟩
    · exact fun animated mem => hl animated (Option.mem_toList.1 mem)
    · cases typed with
      | none => exact List.forall_mem_nil _
      | some typed =>
          obtain ⟨prompt, command, -, characters⟩ := ht typed rfl
          exact List.forall_mem_cons.2 ⟨command, List.forall_mem_cons.2 ⟨prompt,
            List.forall_mem_map.2 characters⟩⟩
  cases placed.step.lines.isEmpty <;> cases stays ⟨.float total, loop⟩ placed <;>
    simp only [if_true, Bool.false_eq_true, if_false, pure_bind]
  · exact printing.bind fun lines hl => typing.bind fun typed ht =>
      .pure (drawable lines typed hl ht)
  · exact printing.bind fun lines hl => .pure (drawable lines none hl forall_mem_none)
  · exact typing.bind fun typed ht => .pure (drawable none typed forall_mem_none ht)
  · exact .pure (drawable none none forall_mem_none forall_mem_none)

/-- The scenes of moderate steps are compiled. By induction on the steps, each after the one
before. -/
theorem compiles_scenesAfter {charWidth : Number} {previous : Option PlacedStep}
    {placed : List PlacedStep} (wide : P → charWidth.IsWithin numberBits)
    (before : ∀ p ∈ previous, P → p.step.IsModerate host)
    (each : ∀ p ∈ placed, P → p.step.IsModerate host) :
    Compiles P (fun scenes => ∀ scene ∈ scenes, scene.IsDrawable host P)
      (scenesAfter ⟨.float total, loop⟩ charWidth previous placed) := by
  induction placed generalizing previous with
  | nil => exact .ok (List.forall_mem_nil _)
  | cons p rest ih =>
      obtain ⟨here, there⟩ := List.forall_mem_cons.1 each
      refine (compiles_sceneOf nonzero wide before here).bind fun scene hs => ?_
      refine (ih (forall_mem_some here) there).bind fun scenes hscenes => .pure ?_
      exact List.forall_mem_cons.2 ⟨hs, hscenes⟩

omit nonzero

/-! ### Whole animations -/

/-- A configuration is compiled, or refused with a report, if it is moderate. -/
theorem compiles_compile {config : Config} (forceLoop : Bool)
    (h : P → config.IsModerate host) :
    Compiles P (fun timeline => ∀ scene ∈ timeline.scenes, scene.IsDrawable host P)
      (compile config forceLoop).outcome := by
  have steps : ∀ step ∈ config.steps, P → step.IsModerate host :=
    fun step mem holds => (h holds).steps step mem
  have refused (e : CheckError) (bad : e.IsRefusal P) : (CompileError.ofCheck e).IsRefusal P := by
    cases e with
    | step e => exact bad
    | arithmetic e => exact bad
  simp only [compile, Attempt.outcome_bind, Attempt.outcome_ofExcept, Attempt.outcome_mapError,
    Attempt.outcome_log]
  refine ((checks_steps steps).mapError refused).and_eq.bind fun _ ⟨_, checked⟩ => ?_
  have placing : Computes P _ (Schedule.place config.steps).outcome :=
    Schedule.computes_placeFrom 0 forall_mem_none steps
  refine (placing.mapError fun _ bad => bad).and_eq.bind fun placed ⟨each, places⟩ => ?_
  have cycle := Schedule.computes_totalDuration (forceLoop || config.loop) each
  refine (compiles_calculate cycle).and_eq.bind ?_
  rintro _ ⟨⟨total, rfl⟩, totals⟩
  have nonzero : total.isZero = false :=
    Schedule.isZero_of_totalDuration (mapError_eq_ok.1 checked) (mapError_eq_ok.1 places)
      (mapError_eq_ok.1 totals)
  have wide : P → config.charWidth.IsWithin numberBits :=
    fun holds => (h holds).charWidth.isWithin
  refine Ends.bind (.ok trivial) fun _ (_ : True) => ?_
  refine (compiles_scenesAfter nonzero wide
    forall_mem_none each).bind fun scenes hscenes => ?_
  exact .pure hscenes

end Timeline

end TerminalReel
