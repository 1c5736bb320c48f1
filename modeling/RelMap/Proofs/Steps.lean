import Mathlib.Data.List.Forall2
import RelMap.Bounds

/-!
# Successful steps

A sequence of steps that succeeds has succeeded at each of them. The inversions below take such a
sequence apart, for plain checks, for checks on a state, and for steps whose state outlives a failure.
-/

namespace RelMap

variable {ε σ α β γ : Type}

/-! ## Lists in step -/

section

variable {R : α → β → Prop} {items : List α} {results : List β}

theorem exists_right_of_forall₂ (h : List.Forall₂ R items results) {a : α} (ha : a ∈ items) :
    ∃ b ∈ results, R a b := by
  induction h with
  | nil => cases ha
  | cons hab _ ih =>
    rcases List.mem_cons.mp ha with rfl | ha
    · exact ⟨_, .head _, hab⟩
    · obtain ⟨b, hb, hab⟩ := ih ha
      exact ⟨b, .tail _ hb, hab⟩

theorem exists_left_of_forall₂ (h : List.Forall₂ R items results) {b : β} (hb : b ∈ results) :
    ∃ a ∈ items, R a b :=
  exists_right_of_forall₂ h.flip hb

end

/-! ## Checks -/

namespace Except

theorem bind_eq_ok {x : Except ε α} {f : α → Except ε β} {b : β} (h : x >>= f = .ok b) :
    ∃ a, x = .ok a ∧ f a = .ok b := by
  cases x with
  | error e => cases h
  | ok a => exact ⟨a, rfl, h⟩

theorem bind_eq_error {x : Except ε α} {f : α → Except ε β} {e : ε} (h : x >>= f = .error e) :
    x = .error e ∨ ∃ a, x = .ok a ∧ f a = .error e := by
  cases x with
  | error e' =>
    cases h
    exact .inl rfl
  | ok a => exact .inr ⟨a, rfl, h⟩

theorem check_bind_eq_ok_iff {x : Except ε Unit} {y : Except ε β} {b : β} :
    (do x; y) = .ok b ↔ x = .ok () ∧ y = .ok b := by
  cases x with
  | error e => exact iff_of_false nofun nofun
  | ok => exact ⟨fun h => ⟨rfl, h⟩, fun h => h.2⟩

/-- What a check has found can be decided by running it. -/
instance decidableExistsOk {x : Except ε α} {P : α → Prop} [DecidablePred P] :
    Decidable (∃ a, x = .ok a ∧ P a) :=
  match x with
  | .error _ => isFalse fun ⟨_, h, _⟩ => nomatch h
  | .ok a => decidable_of_iff (P a) ⟨fun h => ⟨a, rfl, h⟩, fun ⟨_, h, hP⟩ => by cases h; exact hP⟩

theorem forall₂_of_mapM_ok {f : α → Except ε β} {items : List α} {results : List β}
    (h : items.mapM f = .ok results) : List.Forall₂ (fun a b => f a = .ok b) items results := by
  induction items generalizing results with
  | nil =>
    cases h
    exact .nil
  | cons a rest ih =>
    rw [List.mapM_cons] at h
    obtain ⟨b, hb, h⟩ := bind_eq_ok h
    obtain ⟨bs, hbs, h⟩ := bind_eq_ok h
    cases h
    exact .cons hb (ih hbs)

theorem exists_of_mem_mapM_ok {f : α → Except ε β} {items : List α} {results : List β}
    (h : items.mapM f = .ok results) {b : β} (hb : b ∈ results) : ∃ a ∈ items, f a = .ok b :=
  exists_left_of_forall₂ (forall₂_of_mapM_ok h) hb

theorem exists_mapM_ok {f : α → Except ε β} {items : List α}
    (h : ∀ a ∈ items, ∃ b, f a = .ok b) : ∃ results, items.mapM f = .ok results := by
  induction items with
  | nil => exact ⟨[], rfl⟩
  | cons a rest ih =>
    rw [List.forall_mem_cons] at h
    obtain ⟨b, hb⟩ := h.1
    obtain ⟨bs, hbs⟩ := ih h.2
    refine ⟨b :: bs, ?_⟩
    rw [List.mapM_cons, hb, hbs]
    rfl

theorem forM_eq_ok_iff {f : α → Except ε Unit} {items : List α} :
    items.forM f = .ok () ↔ ∀ a ∈ items, f a = .ok () := by
  induction items with
  | nil => exact iff_of_true rfl nofun
  | cons a rest ih =>
    change (do f a; rest.forM f) = .ok () ↔ _
    rw [check_bind_eq_ok_iff, ih, List.forall_mem_cons]

/-- What every step keeps about the items so far holds of all the items in the end. -/
theorem foldlM_keeps {f : β → α → Except ε β} {P : List α → β → Prop}
    (hstep : ∀ done b a b', P done b → f b a = .ok b' → P (done ++ [a]) b')
    {items : List α} (done : List α) {b b' : β} (hb : P done b) (h : items.foldlM f b = .ok b') :
    P (done ++ items) b' := by
  induction items generalizing done b with
  | nil =>
    cases h
    rwa [List.append_nil]
  | cons a rest ih =>
    rw [List.foldlM_cons] at h
    obtain ⟨between, ha, h⟩ := bind_eq_ok h
    rw [← List.singleton_append, ← List.append_assoc]
    exact ih _ (hstep done b a between hb ha) h

/-- A fold succeeds if each step does, on what holds of the items before it. -/
theorem exists_foldlM_ok {f : β → α → Except ε β} {P : List α → β → Prop}
    (hkeeps : ∀ done b a b', P done b → f b a = .ok b' → P (done ++ [a]) b') {items : List α}
    (done : List α) {b : β} (hb : P done b)
    (hstep : ∀ first a rest b, items = first ++ a :: rest → P (done ++ first) b →
      ∃ b', f b a = .ok b') :
    ∃ b', items.foldlM f b = .ok b' := by
  induction items generalizing done b with
  | nil => exact ⟨b, rfl⟩
  | cons a rest ih =>
    obtain ⟨between, ha⟩ := hstep [] a rest b rfl (by rwa [List.append_nil])
    rw [List.foldlM_cons, ha]
    refine ih (done ++ [a]) (hkeeps done b a between hb ha) ?_
    intro first a' rest' b' hrest hb'
    refine hstep (a :: first) a' rest' b' (by rw [hrest, List.cons_append]) ?_
    rwa [List.append_assoc] at hb'

theorem exists_foldlM_error {f : β → α → Except ε β} {items : List α} {b : β} {e : ε}
    (h : items.foldlM f b = .error e) :
    ∃ first a rest between, items = first ++ a :: rest ∧ first.foldlM f b = .ok between ∧
      f between a = .error e := by
  induction items generalizing b with
  | nil => cases h
  | cons a rest ih =>
    rw [List.foldlM_cons] at h
    cases ha : f b a with
    | error e' =>
      rw [ha] at h
      cases h
      exact ⟨[], a, rest, b, rfl, rfl, ha⟩
    | ok next =>
      rw [ha] at h
      obtain ⟨first, a', rest', between, rfl, hfirst, herror⟩ := ih h
      refine ⟨a :: first, a', rest', between, rfl, ?_, herror⟩
      rw [List.foldlM_cons, ha]
      exact hfirst

theorem mapError_eq_ok {f : ε → σ} {x : Except ε α} {a : α} (h : x.mapError f = .ok a) :
    x = .ok a := by
  cases x with
  | error e => cases h
  | ok b =>
    cases h
    rfl

end Except

/-! ## Checks on a state -/

namespace StateT

theorem bind_eq_ok {x : StateT σ (Except ε) α} {f : α → StateT σ (Except ε) β} {state state' : σ}
    {b : β} (h : (x >>= f).run state = .ok (b, state')) :
    ∃ a between, x.run state = .ok (a, between) ∧ (f a).run between = .ok (b, state') := by
  rw [StateT.run_bind] at h
  obtain ⟨⟨a, between⟩, ha, h⟩ := Except.bind_eq_ok h
  exact ⟨a, between, ha, h⟩

theorem bind_eq_error {x : StateT σ (Except ε) α} {f : α → StateT σ (Except ε) β} {state : σ}
    {e : ε} (h : (x >>= f).run state = .error e) :
    x.run state = .error e ∨
      ∃ a between, x.run state = .ok (a, between) ∧ (f a).run between = .error e := by
  rw [StateT.run_bind] at h
  obtain h | ⟨⟨a, between⟩, ha, h⟩ := Except.bind_eq_error h
  · exact .inl h
  · exact .inr ⟨a, between, ha, h⟩

theorem run_map_eq_ok {x : StateT σ (Except ε) α} {state state' : σ} {a : α} (f : α → β)
    (h : x.run state = .ok (a, state')) :
    (do return f (← x) : StateT σ (Except ε) β).run state = .ok (f a, state') := by
  rw [StateT.run_bind, h]
  rfl

theorem lift_eq_ok {x : Except ε α} {state state' : σ} {a : α}
    (h : (StateT.lift x : StateT σ (Except ε) α).run state = .ok (a, state')) :
    x = .ok a ∧ state' = state := by
  cases x with
  | error e => cases h
  | ok b =>
    cases h
    exact ⟨rfl, rfl⟩

theorem lift_bind_eq_ok {x : Except ε α} {f : α → StateT σ (Except ε) β} {state state' : σ} {b : β}
    (h : (StateT.lift x >>= f).run state = .ok (b, state')) :
    ∃ a, x = .ok a ∧ (f a).run state = .ok (b, state') := by
  obtain ⟨a, between, ha, h⟩ := bind_eq_ok h
  obtain ⟨hx, hbetween⟩ := lift_eq_ok ha
  rw [hbetween] at h
  exact ⟨a, hx, h⟩

theorem run_bind_of_ok {x : StateT σ (Except ε) α} {f : α → StateT σ (Except ε) β}
    {state between : σ} {a : α} (h : x.run state = .ok (a, between)) :
    (x >>= f).run state = (f a).run between := by
  rw [StateT.run_bind, h]
  rfl

theorem run_bind_of_error {x : StateT σ (Except ε) α} {f : α → StateT σ (Except ε) β} {state : σ}
    {e : ε} (h : x.run state = .error e) : (x >>= f).run state = .error e := by
  rw [StateT.run_bind, h]
  rfl

theorem run_lift_of_ok {x : Except ε α} {a : α} (h : x = .ok a) (state : σ) :
    (StateT.lift x : StateT σ (Except ε) α).run state = .ok (a, state) := by
  rw [h]
  rfl

/-- Only what the first steps can result in matters to the steps that follow. -/
theorem bind_congr_of_ok {x : StateT σ (Except ε) α} {f g : α → StateT σ (Except ε) β}
    (h : ∀ state a state', x.run state = .ok (a, state') → f a = g a) : x >>= f = x >>= g := by
  refine StateT.ext fun state => ?_
  cases hx : x.run state with
  | error e => rw [run_bind_of_error hx, run_bind_of_error hx]
  | ok first =>
    obtain ⟨a, state'⟩ := first
    rw [run_bind_of_ok hx, run_bind_of_ok hx, h state a state' hx]

/-- Checks on the items of a list leave the state to what follows. -/
theorem mapM_lift_bind_eq_ok_iff {f : α → Except ε β} {items : List α}
    {k : List β → StateT σ (Except ε) γ} {state state' : σ} {c : γ} :
    ((items.mapM fun a => (StateT.lift (f a) : StateT σ (Except ε) β)) >>= k).run state =
        .ok (c, state') ↔
      ∃ results, items.mapM f = .ok results ∧ (k results).run state = .ok (c, state') := by
  have hrun : (items.mapM fun a => (StateT.lift (f a) : StateT σ (Except ε) β)).run state =
      (do return (← items.mapM f, state)) := by
    induction items with
    | nil => rfl
    | cons a rest ih =>
      rw [List.mapM_cons, List.mapM_cons]
      cases hfa : f a with
      | error e => rfl
      | ok b =>
        rw [run_bind_of_ok (run_lift_of_ok rfl state), StateT.run_bind, ih]
        cases rest.mapM f <;> rfl
  rw [StateT.run_bind, hrun]
  cases items.mapM f with
  | error e => exact iff_of_false nofun nofun
  | ok results =>
    refine ⟨fun h => ⟨results, rfl, h⟩, ?_⟩
    rintro ⟨_, hresults, h⟩
    cases hresults
    exact h

end StateT

/-! ## States that outlive a failure -/

namespace ExceptT

theorem bind_eq_ok {x : ExceptT ε (StateM σ) α} {f : α → ExceptT ε (StateM σ) β}
    {state state' : σ} {b : β} (h : (x >>= f).run.run state = (.ok b, state')) :
    ∃ a between, x.run.run state = (.ok a, between) ∧ (f a).run.run between = (.ok b, state') := by
  rw [ExceptT.run_bind, StateT.run_bind] at h
  generalize hx : x.run.run state = first at h
  obtain ⟨_ | a, between⟩ := first
  · cases h
  · exact ⟨a, between, rfl, h⟩

theorem bind_eq_error {x : ExceptT ε (StateM σ) α} {f : α → ExceptT ε (StateM σ) β}
    {state state' : σ} {e : ε} (h : (x >>= f).run.run state = (.error e, state')) :
    x.run.run state = (.error e, state') ∨
      ∃ a between, x.run.run state = (.ok a, between) ∧
        (f a).run.run between = (.error e, state') := by
  rw [ExceptT.run_bind, StateT.run_bind] at h
  generalize hx : x.run.run state = first at h
  obtain ⟨_ | a, between⟩ := first
  · cases h
    exact .inl rfl
  · exact .inr ⟨a, between, rfl, h⟩

theorem run_bind_of_ok {x : ExceptT ε (StateM σ) α} {f : α → ExceptT ε (StateM σ) β}
    {state between : σ} {a : α} (h : x.run.run state = (.ok a, between)) :
    (x >>= f).run.run state = (f a).run.run between := by
  rw [ExceptT.run_bind, StateT.run_bind, h]
  rfl

theorem run_bind_of_error {x : ExceptT ε (StateM σ) α} {f : α → ExceptT ε (StateM σ) β}
    {state between : σ} {e : ε} (h : x.run.run state = (.error e, between)) :
    (x >>= f).run.run state = (.error e, between) := by
  rw [ExceptT.run_bind, StateT.run_bind, h]
  rfl

theorem mk_pure_ok_bind (a : α) (f : α → ExceptT ε (StateM σ) β) :
    (ExceptT.mk (pure (.ok a)) : ExceptT ε (StateM σ) α) >>= f = f a := rfl

theorem mk_pure_eq_ok {x : Except ε α} {state state' : σ} {a : α}
    (h : (ExceptT.mk (pure x) : ExceptT ε (StateM σ) α).run.run state = (.ok a, state')) :
    x = .ok a ∧ state' = state := by
  exact ⟨congrArg Prod.fst h, (congrArg Prod.snd h).symm⟩

theorem run_adapt_of_ok {ε' : Type} {f : ε → ε'} {x : ExceptT ε (StateM σ) α} {state state' : σ}
    {a : α} (h : x.run.run state = (.ok a, state')) :
    (x.adapt f).run.run state = (.ok a, state') := by
  change ((x.run.run state).1.mapError f, (x.run.run state).2) = _
  rw [h]
  rfl

theorem run_adapt_of_error {ε' : Type} {f : ε → ε'} {x : ExceptT ε (StateM σ) α} {state state' : σ}
    {e : ε} (h : x.run.run state = (.error e, state')) :
    (x.adapt f).run.run state = (.error (f e), state') := by
  change ((x.run.run state).1.mapError f, (x.run.run state).2) = _
  rw [h]
  rfl

theorem adapt_eq_error {ε' : Type} {f : ε → ε'} {x : ExceptT ε (StateM σ) α} {state state' : σ}
    {e' : ε'} (h : (x.adapt f).run.run state = (.error e', state')) :
    ∃ e, x.run.run state = (.error e, state') ∧ f e = e' := by
  change ((x.run.run state).1.mapError f, (x.run.run state).2) = _ at h
  generalize x.run.run state = outcome at h ⊢
  obtain ⟨e | a, between⟩ := outcome
  · cases h
    exact ⟨e, rfl, rfl⟩
  · cases h

theorem adapt_eq_ok {ε' : Type} {f : ε → ε'} {x : ExceptT ε (StateM σ) α} {state state' : σ}
    {a : α} (h : (x.adapt f).run.run state = (.ok a, state')) :
    x.run.run state = (.ok a, state') := by
  change ((x.run.run state).1.mapError f, (x.run.run state).2) = _ at h
  generalize x.run.run state = outcome at h ⊢
  obtain ⟨_ | b, between⟩ := outcome
  · cases h
  · cases h
    rfl

theorem check_bind_eq_ok {x : Except ε α} {f : α → ExceptT ε (StateM σ) β} {state state' : σ}
    {b : β} (h : (ExceptT.mk (pure x) >>= f).run.run state = (.ok b, state')) :
    ∃ a, x = .ok a ∧ (f a).run.run state = (.ok b, state') := by
  cases x with
  | error e => cases h
  | ok a => exact ⟨a, rfl, h⟩

theorem check_bind_eq_error {x : Except ε α} {f : α → ExceptT ε (StateM σ) β} {state state' : σ}
    {e : ε} (h : (ExceptT.mk (pure x) >>= f).run.run state = (.error e, state')) :
    (x = .error e ∧ state' = state) ∨
      ∃ a, x = .ok a ∧ (f a).run.run state = (.error e, state') := by
  cases x with
  | error e' =>
    cases h
    exact .inl ⟨rfl, rfl⟩
  | ok a => exact .inr ⟨a, rfl, h⟩

theorem check_bind_congr {x : Except ε α} {f g : α → ExceptT ε (StateM σ) β}
    (h : ∀ a, x = .ok a → f a = g a) : ExceptT.mk (pure x) >>= f = ExceptT.mk (pure x) >>= g := by
  cases x with
  | error e => rfl
  | ok a => exact h a rfl

/-- From every state the steps succeed with a value of the property. -/
def Succeeds (x : ExceptT ε (StateM σ) α) (P : α → Prop) : Prop :=
  ∀ state, ∃ a state', x.run.run state = (.ok a, state') ∧ P a

theorem Succeeds.of_ok {P : α → Prop} {x : ExceptT ε (StateM σ) α} (h : Succeeds x P)
    {state state' : σ} {a : α} (hrun : x.run.run state = (.ok a, state')) : P a := by
  obtain ⟨b, between, hrun', hb⟩ := h state
  cases hrun.symm.trans hrun'
  exact hb

theorem Succeeds.pure {P : α → Prop} {a : α} (h : P a) :
    Succeeds (Pure.pure a : ExceptT ε (StateM σ) α) P := by
  intro state
  exact ⟨a, state, rfl, h⟩

theorem Succeeds.bind {P : α → Prop} {Q : β → Prop} {x : ExceptT ε (StateM σ) α}
    {f : α → ExceptT ε (StateM σ) β} (hx : Succeeds x P) (hf : ∀ a, P a → Succeeds (f a) Q) :
    Succeeds (x >>= f) Q := by
  intro state
  obtain ⟨a, between, hrun, ha⟩ := hx state
  obtain ⟨b, state', hrun', hb⟩ := hf a ha between
  refine ⟨b, state', ?_, hb⟩
  rw [ExceptT.run_bind, StateT.run_bind, hrun]
  exact hrun'

end ExceptT

/-! ## Bounded checks -/

namespace Bounded

variable {x : Bounded (Except ε) α} {f : α → Bounded (Except ε) β} {a : α} {b : β}

theorem run_bind_of_ok (h : x.run = .ok (some a)) : (x >>= f).run = (f a).run := by
  rw [OptionT.run_bind, h]
  rfl

theorem bind_eq_ok (h : (x >>= f).run = .ok (some b)) :
    ∃ a, x.run = .ok (some a) ∧ (f a).run = .ok (some b) := by
  rw [OptionT.run_bind] at h
  obtain ⟨found, hfound, h⟩ := Except.bind_eq_ok h
  cases found with
  | none => cases h
  | some a => exact ⟨a, hfound, h⟩

theorem free_bind_eq_ok {x : Except ε α} (h : (free x >>= f).run = .ok (some b)) :
    ∃ a, x = .ok a ∧ (f a).run = .ok (some b) := by
  cases x with
  | error e => cases h
  | ok a => exact ⟨a, rfl, h⟩

instance decidableExistsOk {P : α → Prop} [DecidablePred P] :
    Decidable (∃ a, x.run = .ok (some a) ∧ P a) :=
  match x.run with
  | .ok (some a) =>
    decidable_of_iff (P a) ⟨fun h => ⟨a, rfl, h⟩, fun ⟨_, h, hP⟩ => by cases h; exact hP⟩
  | .ok none | .error _ => isFalse fun ⟨_, h, _⟩ => nomatch h

end Bounded

end RelMap
