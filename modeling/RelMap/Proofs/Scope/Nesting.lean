import RelMap.Proofs.Scope.Growth

/-!
# Nested scopes

Every scope is older than the scopes inside it. A look-up goes through the scopes around the current
one, and the use of tables that is recorded on the way changes nothing about them.
-/

namespace RelMap

/-- What a scope binds, without what is recorded about its use. -/
def Scope.bare (s : Scope) : Scope := { s with tableUse := {} }

/-- Where a scope stands: the scope around it, and whether look-ups may go on there. -/
def Scope.link (s : Scope) : Option ScopeId × Bool := (s.parent, s.correlated)

namespace Resolver

variable {r r' r'' : Resolver} {scope inner outer : ScopeId}

/-! ## The same tables -/

/-- The scopes are the same up to what is recorded about their use. -/
def SameTables (r r' : Resolver) : Prop := r'.scopes.map Scope.bare = r.scopes.map Scope.bare

namespace SameTables

theorem of_scopes (h : r'.scopes = r.scopes) : r.SameTables r' := congrArg (List.map Scope.bare) h

theorem trans (h : r.SameTables r') (h' : r'.SameTables r'') : r.SameTables r'' :=
  Eq.trans h' h

theorem getElem? (h : r.SameTables r') (scope : ScopeId) :
    (r'.scopes[scope]?).map Scope.bare = (r.scopes[scope]?).map Scope.bare := by
  rw [← List.getElem?_map, ← List.getElem?_map, h]

theorem length (h : r.SameTables r') : r'.scopes.length = r.scopes.length := by
  have hlength := congrArg List.length h
  rw [List.length_map, List.length_map] at hlength
  exact hlength

theorem parent? (h : r.SameTables r') (scope : ScopeId) : r'.parent? scope = r.parent? scope := by
  have hget := congrArg (Option.bind · Scope.parent) (h.getElem? scope)
  rw [Option.bind_map, Option.bind_map] at hget
  exact hget

theorem occurrences (h : r.SameTables r') (scope : ScopeId) :
    r'.occurrences scope = r.occurrences scope := by
  have hget := congrArg (Option.map Scope.occurrences) (h.getElem? scope)
  rw [Option.map_map, Option.map_map] at hget
  exact congrArg (Option.getD · []) hget

theorem modifyTableUse (r : Resolver) (scope : ScopeId) (f : TableUse → TableUse) :
    r.SameTables (r.modifyTableUse scope f) := by
  apply List.ext_getElem?
  intro i
  unfold Resolver.modifyTableUse
  rw [List.getElem?_map, List.getElem?_map, getElem?_modifyScope]
  split
  · rw [Option.map_map]
    rfl
  · rfl

end SameTables

/-! ## Scopes inside scopes -/

inductive Inside (r : Resolver) (inner : ScopeId) : ScopeId → Prop
  | refl : Inside r inner inner
  | step {scope parent : ScopeId} (hparent : r.parent? scope = some parent)
    (h : Inside r inner parent) : Inside r inner scope

/-- The current scope exists, and every scope is younger than the one around it. -/
structure WellNested (r : Resolver) : Prop where
  live : r.Live
  older : ∀ scope parent, r.parent? scope = some parent → parent < scope

theorem lt_length_of_parent? {parent : ScopeId} (h : r.parent? scope = some parent) :
    scope < r.scopes.length := by
  obtain ⟨s, hs, -⟩ := Option.bind_eq_some_iff.mp h
  exact (List.getElem?_eq_some_iff.mp hs).1

theorem Inside.le (h : r.Inside inner scope) (hr : r.WellNested) : inner ≤ scope := by
  induction h with
  | refl => exact Nat.le_refl inner
  | step hparent _ ih => exact Nat.le_of_lt (Nat.lt_of_le_of_lt ih (hr.older _ _ hparent))

/-- A scope inside another one has a scope around it, unless it is the other one. -/
theorem Inside.eq_or_parent? (h : r.Inside inner scope) :
    scope = inner ∨ ∃ parent, r.parent? scope = some parent ∧ r.Inside inner parent := by
  cases h with
  | refl => exact .inl rfl
  | step hparent h => exact .inr ⟨_, hparent, h⟩

theorem Inside.congr (h : r.Inside inner scope)
    (hparent : ∀ scope, r'.parent? scope = r.parent? scope) :
    r'.Inside inner scope := by
  induction h with
  | refl => exact .refl
  | step hscope _ ih => exact .step ((hparent _).trans hscope) ih

theorem Inside.trans (h : r.Inside outer inner) (h' : r.Inside inner scope) :
    r.Inside outer scope := by
  induction h' with
  | refl => exact h
  | step hscope _ ih => exact .step hscope ih

/-- A scope inside another one is inside a scope that is opened right there. -/
theorem Inside.exists_child (h : r.Inside outer scope) (hne : scope ≠ outer) :
    ∃ inner, r.parent? inner = some outer ∧ r.Inside inner scope := by
  induction h with
  | refl => exact absurd rfl hne
  | @step scope parent hparent _ ih =>
    by_cases hparent' : parent = outer
    · exact ⟨scope, hparent' ▸ hparent, .refl⟩
    · obtain ⟨inner, hinner, hinside⟩ := ih hparent'
      exact ⟨inner, hinner, .step hparent hinside⟩

theorem Inside.of_parent? (h : r.Inside inner scope) (hparent : r.parent? inner = some outer) :
    r.Inside outer scope :=
  Inside.trans (.step hparent .refl) h

/-! ## Chains -/

theorem mem_chain_of_inside (h : r.Inside outer scope) (hr : r.WellNested)
    (hscope : scope < r.scopes.length) {fuel : Nat} (hfuel : scope < fuel) :
    outer ∈ r.chain (fun _ => true) fuel scope := by
  induction h generalizing fuel with
  | refl =>
    obtain ⟨fuel, rfl⟩ := Nat.exists_eq_add_one_of_ne_zero (Nat.ne_zero_of_lt hfuel)
    rw [chain, List.getElem?_eq_getElem hscope]
    exact .head _
  | @step scope parent hparent _ ih =>
    obtain ⟨fuel, rfl⟩ := Nat.exists_eq_add_one_of_ne_zero (Nat.ne_zero_of_lt hfuel)
    have hlt : parent < scope := hr.older scope parent hparent
    obtain ⟨s, hs, hp⟩ := Option.bind_eq_some_iff.mp hparent
    rw [chain, hs]
    dsimp only
    rw [hp]
    exact .tail _ (ih (Nat.lt_trans hlt hscope) (Nat.lt_of_lt_of_le hlt (Nat.le_of_lt_succ hfuel)))

/-- How far a chain goes is settled by the scopes around each scope. -/
theorem chain_congr (goesOn : Scope → Bool)
    (h : ∀ scope : ScopeId, (r'.scopes[scope]?).map (fun s => (s.parent, goesOn s)) =
      (r.scopes[scope]?).map fun s => (s.parent, goesOn s)) (fuel : Nat) (scope : ScopeId) :
    r'.chain goesOn fuel scope = r.chain goesOn fuel scope := by
  induction fuel generalizing scope with
  | zero => rfl
  | succ fuel ih =>
    have hget := h scope
    rw [Resolver.chain, Resolver.chain]
    cases hs : r.scopes[scope]? with
    | none =>
      rw [hs, Option.map_none, Option.map_eq_none_iff] at hget
      rw [hget]
    | some s =>
      rw [hs, Option.map_some, Option.map_eq_some_iff] at hget
      obtain ⟨s', hs', hsame⟩ := hget
      obtain ⟨hparent, hgoesOn⟩ := Prod.mk.inj hsame
      rw [hs']
      dsimp only
      rw [hparent, hgoesOn]
      cases s.parent with
      | none => rfl
      | some parent =>
        dsimp only
        rw [ih parent]

/-! ## The same tree -/

/-- The scopes stand in the same tree, and the same one is current. -/
structure SameTree (r r' : Resolver) : Prop where
  current : r'.current = r.current
  links : r'.scopes.map Scope.link = r.scopes.map Scope.link

theorem SameTree.getElem? (h : r.SameTree r') (scope : ScopeId) :
    (r'.scopes[scope]?).map Scope.link = (r.scopes[scope]?).map Scope.link := by
  rw [← List.getElem?_map, ← List.getElem?_map, h.links]

theorem SameTree.length (h : r.SameTree r') : r'.scopes.length = r.scopes.length := by
  have hlength := congrArg List.length h.links
  rw [List.length_map, List.length_map] at hlength
  exact hlength

theorem SameTree.visibleScopes (h : r.SameTree r') (filter : ScopeFilter) :
    r'.visibleScopes filter = r.visibleScopes filter := by
  have hchain := chain_congr (·.correlated) h.getElem? r.scopes.length r.current
  cases filter with
  | inner => exact congrArg ([·]) h.current
  | outer =>
    rw [Resolver.visibleScopes, Resolver.visibleScopes, h.length, h.current, hchain]
  | cascade =>
    rw [Resolver.visibleScopes, Resolver.visibleScopes, h.length, h.current, hchain]

theorem SameTables.sameTree (h : r.SameTables r') (hcurrent : r'.current = r.current) :
    r.SameTree r' := by
  refine ⟨hcurrent, ?_⟩
  have hlinks := congrArg (List.map Scope.link) h
  rw [List.map_map, List.map_map] at hlinks
  exact hlinks

theorem SameTables.visibleScopes (h : r.SameTables r') (hcurrent : r'.current = r.current)
    (filter : ScopeFilter) : r'.visibleScopes filter = r.visibleScopes filter :=
  (h.sameTree hcurrent).visibleScopes filter

end Resolver

end RelMap
