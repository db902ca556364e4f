import TerminalReel.Log
/-!
# TerminalReel.Proofs.Ending

Computations that **end well**, taken apart.

A sequence ends well only if each of its parts does. The lemmas here turn such an
ending into the endings of the parts, so that no proof about a longer
computation has to open its sequencing.

What is to be said of both endings at once, of the value and of the error, is said by
`Ends`, which goes along the computation with one rule for each way of putting parts
together.
-/

namespace TerminalReel

variable {ε ε' α β : Type}

/-- A sequence ends well exactly if both parts do. -/
theorem bind_eq_ok {x : Except ε α} {f : α → Except ε β} {b : β} :
    (x >>= f) = .ok b ↔ ∃ a, x = .ok a ∧ f a = .ok b := by
  cases x with
  | error e => simp [bind, Except.bind]
  | ok a => simp [bind, Except.bind]

theorem ok_bind (a : α) (f : α → Except ε β) : (Except.ok a >>= f) = f a := rfl

theorem Attempt.ofExcept_ok (a : α) : (ofExcept (.ok a) : Attempt ε α) = pure a := rfl

theorem pure_eq_ok {a b : α} : (pure a : Except ε α) = .ok b ↔ a = b := by
  simp [pure, Except.pure]

theorem map_eq_ok {x : Except ε α} {f : α → β} {b : β} :
    (f <$> x) = .ok b ↔ ∃ a, x = .ok a ∧ f a = b := by
  cases x with
  | error e => simp [Functor.map, Except.map]
  | ok a => simp [Functor.map, Except.map]

theorem mapError_eq_ok {x : Except ε α} {f : ε → ε'} {a : α} :
    x.mapError f = .ok a ↔ x = .ok a := by
  cases x with
  | error e =>
      have failed : (Except.error e : Except ε α).mapError f = .error (f e) := rfl
      rw [failed]
      exact ⟨nofun, nofun⟩
  | ok b =>
      have kept : (Except.ok b : Except ε α).mapError f = .ok b := rfl
      rw [kept, Except.ok.injEq, Except.ok.injEq]

/-- What is seen to end well has a value. -/
theorem exists_of_isOk {x : Except ε α} (h : x.isOk = true) : ∃ a, x = .ok a := by
  cases x with
  | error e => cases h
  | ok a => exact ⟨a, rfl⟩

theorem eq_ok_of_toOption {x : Except ε α} {a : α} (h : x.toOption = some a) : x = .ok a := by
  cases x with
  | error e => cases h
  | ok b => exact congrArg _ (Option.some.inj h)

/-- What is seen to end well with a value that passes a test has such a value. -/
theorem exists_of_any {x : Except ε α} {test : α → Bool} (h : x.toOption.any test = true) :
    ∃ a, x = .ok a ∧ test a = true := by
  cases x with
  | error e => cases h
  | ok a => exact ⟨a, rfl, h⟩

theorem forM_eq_ok {f : α → Except ε Unit} {l : List α} :
    l.forM f = .ok () ↔ ∀ a ∈ l, f a = .ok () := by
  induction l with
  | nil => simp [List.forM, pure_eq_ok]
  | cons a l ih =>
      have step : (a :: l).forM f = (f a >>= fun _ => l.forM f) := rfl
      rw [step, bind_eq_ok, List.forall_mem_cons, ih]
      constructor
      · rintro ⟨⟨⟩, head, tail⟩
        exact ⟨head, tail⟩
      · rintro ⟨head, tail⟩
        exact ⟨(), head, tail⟩

theorem mapM_cons_eq_ok {f : α → Except ε β} {a : α} {as : List α} {bs : List β} :
    (a :: as).mapM f = .ok bs ↔ ∃ b rest, f a = .ok b ∧ as.mapM f = .ok rest ∧ bs = b :: rest := by
  simp only [List.mapM_cons, bind_eq_ok, pure_eq_ok]
  constructor
  · rintro ⟨b, first, rest, later, rfl⟩
    exact ⟨b, rest, first, later, rfl⟩
  · rintro ⟨b, rest, first, later, rfl⟩
    exact ⟨b, first, rest, later, rfl⟩

/-- Each result of a run is that of one of its elements. -/
theorem exists_of_mem_mapM {f : α → Except ε β} {as : List α} {bs : List β} {b : β}
    (h : as.mapM f = .ok bs) (mem : b ∈ bs) : ∃ a ∈ as, f a = .ok b := by
  induction as generalizing bs with
  | nil =>
      obtain rfl := Except.ok.inj h
      cases mem
  | cons a as ih =>
      obtain ⟨c, rest, first, later, rfl⟩ := mapM_cons_eq_ok.1 h
      rcases List.mem_cons.1 mem with rfl | mem
      · exact ⟨a, List.mem_cons_self, first⟩
      · obtain ⟨a', in_as, ok⟩ := ih later mem
        exact ⟨a', List.mem_cons_of_mem a in_as, ok⟩

/-- The results of a run are those of a function that says what each of them is. -/
theorem eq_map_of_mapM {f : α → Except ε β} {g : α → β} {as : List α} {bs : List β}
    (h : as.mapM f = .ok bs) (each : ∀ a ∈ as, ∀ b, f a = .ok b → b = g a) : bs = as.map g := by
  induction as generalizing bs with
  | nil => exact (Except.ok.inj h).symm
  | cons a as ih =>
      obtain ⟨b, rest, first, later, rfl⟩ := mapM_cons_eq_ok.1 h
      obtain ⟨here, there⟩ := List.forall_mem_cons.1 each
      rw [List.map_cons, here b first, ih later there]

/-! ### What may be absent -/

theorem forall_mem_none {p : α → Prop} : ∀ a ∈ (none : Option α), p a :=
  fun a mem => absurd mem (Option.not_mem_none a)

theorem forall_mem_some {p : α → Prop} {a : α} (h : p a) : ∀ b ∈ some a, p b :=
  fun _ mem => Option.some.inj mem ▸ h

/-! ### Both endings -/

/-- The computation ends in a value that is `good`, or in an error that is `bad`. -/
inductive Ends (good : α → Prop) (bad : ε → Prop) : Except ε α → Prop
  | ok {a : α} : good a → Ends good bad (.ok a)
  | error {e : ε} : bad e → Ends good bad (.error e)

namespace Ends

variable {good good' : α → Prop} {bad : ε → Prop} {x : Except ε α}

theorem pure {a : α} (h : good a) : Ends good bad (pure a) := .ok h

theorem of_ok {a : α} (h : Ends good bad x) (ended : x = .ok a) : good a := by
  subst ended
  cases h with
  | ok h => exact h

/-- What ends badly ends with an error of the kind that is said. -/
theorem of_error {e : ε} (h : Ends good bad x) (failed : x = .error e) : bad e := by
  subst failed
  cases h with
  | error h => exact h

theorem mono (h : Ends good bad x) (weaker : ∀ a, good a → good' a) : Ends good' bad x := by
  cases h with
  | ok h => exact .ok (weaker _ h)
  | error h => exact .error h

theorem mono_error {bad' : ε → Prop} (h : Ends good bad x) (weaker : ∀ e, bad e → bad' e) :
    Ends good bad' x := by
  cases h with
  | ok h => exact .ok h
  | error h => exact .error (weaker _ h)

/-- A good value is also known to be the one that the computation ends in. -/
theorem and_eq (h : Ends good bad x) : Ends (fun a => good a ∧ x = .ok a) bad x := by
  cases h with
  | ok h => exact .ok ⟨h, rfl⟩
  | error h => exact .error h

theorem mapError {f : ε → ε'} {bad' : ε' → Prop} (h : Ends good bad x)
    (worse : ∀ e, bad e → bad' (f e)) : Ends good bad' (x.mapError f) := by
  cases h with
  | ok h => exact .ok h
  | error h => exact .error (worse _ h)

theorem bind {f : α → Except ε β} {good' : β → Prop} (h : Ends good bad x)
    (next : ∀ a, good a → Ends good' bad (f a)) : Ends good' bad (x >>= f) := by
  cases h with
  | ok h => exact next _ h
  | error h => exact .error h

/-- Two steps that are known by how they end together. -/
theorem bind_bind {f : α → Except ε β} {good : β → Prop} (h : Ends good bad (x >>= f))
    {γ : Type} {g : β → Except ε γ} {good' : γ → Prop}
    (next : ∀ b, good b → Ends good' bad (g b)) :
    Ends good' bad (x >>= fun a => f a >>= g) := by
  rw [← bind_assoc]
  exact h.bind next

theorem map {f : α → β} {good' : β → Prop} (h : Ends good bad x)
    (next : ∀ a, good a → good' (f a)) : Ends good' bad (f <$> x) := by
  cases h with
  | ok h => exact .ok (next _ h)
  | error h => exact .error h

theorem mapM {f : α → Except ε β} {good : β → Prop} {as : List α}
    (each : ∀ a ∈ as, Ends good bad (f a)) : Ends (∀ b ∈ ·, good b) bad (as.mapM f) := by
  induction as with
  | nil => exact .ok (List.forall_mem_nil _)
  | cons a as ih =>
      obtain ⟨here, there⟩ := List.forall_mem_cons.1 each
      rw [List.mapM_cons]
      exact here.bind fun b hb => (ih there).bind fun bs hbs =>
        .pure (List.forall_mem_cons.2 ⟨hb, hbs⟩)

/-- A run goes wrong at one element, and all the elements before it have their values. -/
theorem mapM_first {f : α → Except ε β} {good : α → Prop} {bad : α → ε → Prop} {as : List α}
    (each : ∀ a ∈ as, Ends (fun _ => good a) (bad a) (f a)) :
    Ends (fun _ => ∀ a ∈ as, good a)
      (fun e => ∃ (i : Nat) (a : α), as[i]? = some a ∧ bad a e ∧
        ∀ j < i, ∀ a, as[j]? = some a → ∃ b, f a = .ok b) (as.mapM f) := by
  induction as with
  | nil => exact .ok (List.forall_mem_nil _)
  | cons a as ih =>
      obtain ⟨here, there⟩ := List.forall_mem_cons.1 each
      rw [List.mapM_cons]
      rcases outcome : f a with e | b
      · refine .error ⟨0, a, rfl, here.of_error outcome, fun j less => ?_⟩
        exact absurd less (Nat.not_lt_zero j)
      · refine ((ih there).mono_error ?_).bind fun bs good => .pure
          (List.forall_mem_cons.2 ⟨here.of_ok outcome, good⟩)
        rintro e ⟨i, a', at_i, bad, before⟩
        refine ⟨i + 1, a', at_i, bad, fun j less c at_j => ?_⟩
        cases j with
        | zero =>
            obtain rfl : a = c := Option.some.inj at_j
            exact ⟨b, outcome⟩
        | succ j => exact before j (Nat.lt_of_succ_lt_succ less) c at_j

theorem forM {f : α → Except ε Unit} {as : List α}
    (each : ∀ a ∈ as, Ends (fun _ => True) bad (f a)) : Ends (fun _ => True) bad (as.forM f) := by
  induction as with
  | nil => exact .ok trivial
  | cons a as ih =>
      obtain ⟨here, there⟩ := List.forall_mem_cons.1 each
      have step : (a :: as).forM f = (f a >>= fun _ => as.forM f) := rfl
      rw [step]
      exact here.bind fun _ _ => ih there

end Ends

end TerminalReel
