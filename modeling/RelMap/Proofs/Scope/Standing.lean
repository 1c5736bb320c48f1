import RelMap.Proofs.Scope.Calls
import RelMap.Proofs.Scope.Visibility

/-!
# Scopes stay in their places

Once a scope is opened, the scope around it and its correlation are settled. So it is known before
anything is marked what a look-up may reach from there: older scopes only, and none if the scope is
not correlated, and it will be the same scopes whatever is bound.
-/

namespace RelMap.Resolver

variable {r r' r'' : Resolver} {scope inner : ScopeId}

/-- Every scope is still there, and in the same place. -/
def Stays (r r' : Resolver) : Prop :=
  ∀ (scope : ScopeId) (s : Scope), r.scopes[scope]? = some s →
    ∃ s', r'.scopes[scope]? = some s' ∧ s'.link = s.link

namespace Stays

theorem of_links (h : r'.scopes.map Scope.link = r.scopes.map Scope.link) : r.Stays r' := by
  intro scope s hs
  have hget : (r'.scopes[scope]?).map Scope.link = (r.scopes[scope]?).map Scope.link := by
    rw [← List.getElem?_map, ← List.getElem?_map, h]
  rw [hs, Option.map_some, Option.map_eq_some_iff] at hget
  exact hget

theorem of_sameTables (h : r.SameTables r') : r.Stays r' := by
  apply of_links
  have hlinks := congrArg (List.map Scope.link) h
  rw [List.map_map, List.map_map] at hlinks
  exact hlinks

theorem lt_length (h : r.Stays r') (hscope : scope < r.scopes.length) :
    scope < r'.scopes.length := by
  obtain ⟨s', hs', -⟩ := h scope _ (List.getElem?_eq_getElem hscope)
  exact (List.getElem?_eq_some_iff.mp hs').1

theorem trans (h : r.Stays r') (h' : r'.Stays r'') : r.Stays r'' := by
  intro scope s hs
  obtain ⟨s', hs', hlink⟩ := h scope s hs
  obtain ⟨s'', hs'', hlink'⟩ := h' scope s' hs'
  exact ⟨s'', hs'', hlink'.trans hlink⟩

theorem modifyScope {f : Scope → Scope} (hf : ∀ s, (f s).link = s.link) :
    r.Stays (r.modifyScope scope f) := by
  intro other s hs
  rw [getElem?_modifyScope, hs]
  split
  · exact ⟨f s, rfl, hf s⟩
  · exact ⟨s, rfl, rfl⟩

theorem step {named : Resolver → Prop} (h : Step named r r') : r.Stays r' := by
  cases h with
  | generate o | name o => exact .modifyScope fun _ => rfl
  | use scope f => exact .modifyScope fun _ => rfl
  | pop => exact .of_links rfl
  | push correlated =>
    intro scope s hs
    refine ⟨s, ?_, rfl⟩
    rw [← hs]
    exact List.getElem?_append_left (List.getElem?_eq_some_iff.mp hs).1

theorem steps {named : Resolver → Prop} (h : Steps named r r') : r.Stays r' :=
  h.keeps (fun _ _ hstep hr => hr.trans (.step hstep)) (.of_links rfl)

end Stays

/-! ## Visible scopes -/

section

variable {around around' : List ScopeId}

theorem Sees.unique (h : r.Sees scope around) (h' : r.Sees scope around') : around = around' := by
  induction h generalizing around' with
  | only hs hends =>
    cases h' with
    | only => rfl
    | through hs' hcorrelated hparent =>
      cases hs.symm.trans hs'
      rcases hends with huncorrelated | hroot
      · cases huncorrelated.symm.trans hcorrelated
      · cases hroot.symm.trans hparent
  | through hs hcorrelated hparent _ ih =>
    cases h' with
    | only hs' hends =>
      cases hs.symm.trans hs'
      rcases hends with huncorrelated | hroot
      · cases huncorrelated.symm.trans hcorrelated
      · cases hroot.symm.trans hparent
    | through hs' hcorrelated' hparent' h' =>
      cases hs.symm.trans hs'
      cases hparent.symm.trans hparent'
      rw [ih h']

theorem Sees.of_stays (h : r.Sees scope around) (hstays : r.Stays r') : r'.Sees scope around := by
  induction h with
  | @only scope s hs hends =>
    obtain ⟨s', hs', hlink⟩ := hstays scope s hs
    obtain ⟨hparent, hcorrelated⟩ := Prod.mk.inj hlink
    refine .only hs' ?_
    rw [hparent, hcorrelated]
    exact hends
  | @through scope parent s around hs hcorrelated hparent _ ih =>
    obtain ⟨s', hs', hlink⟩ := hstays scope s hs
    obtain ⟨hparent', hcorrelated'⟩ := Prod.mk.inj hlink
    exact .through hs' (hcorrelated'.trans hcorrelated) (hparent'.trans hparent) ih

theorem Stays.visibleScopes (h : r.Stays r') (hr : r.WellNested) (hr' : r'.WellNested)
    (hcurrent : r'.current = r.current) (filter : ScopeFilter) :
    r'.visibleScopes filter = r.visibleScopes filter := by
  have hsees := (sees_chain hr hr.live hr.live).of_stays h
  have hsees' := sees_chain hr' hr'.live hr'.live
  rw [hcurrent] at hsees'
  have hchain := hsees'.unique hsees
  cases filter with
  | inner => exact congrArg ([·]) hcurrent
  | outer =>
    rw [Resolver.visibleScopes, Resolver.visibleScopes, hcurrent, hchain]
  | cascade => rw [Resolver.visibleScopes, Resolver.visibleScopes, hcurrent, hchain]

end

namespace Reaches

/-- The scopes in reach are not younger than the current one. -/
theorem le_current (h : r.Reaches scope) (hr : r.WellNested) : scope ≤ r.current := by
  induction h with
  | current => exact Nat.le_refl _
  | @around scope parent s _ hs _ hparent ih =>
    have holder : parent < scope := by
      apply hr.older scope parent
      rw [parent?, hs]
      exact hparent
    exact Nat.le_of_lt (Nat.lt_of_lt_of_le holder ih)

theorem eq_current {s : Scope} (h : r.Reaches scope) (hs : r.scopes[r.current]? = some s)
    (huncorrelated : s.correlated = false) : scope = r.current := by
  induction h with
  | current => rfl
  | @around scope parent s' _ hs' hcorrelated _ ih =>
    rw [ih, hs] at hs'
    cases hs'
    rw [huncorrelated] at hcorrelated
    cases hcorrelated

/-- Besides the scope itself, a scope reaches at most what the scope around it does. -/
theorem of_enter (h : (r.enter inner).Reaches scope) (hparent : r.parent? inner = some r.current) :
    scope = inner ∨ r.Reaches scope := by
  induction h with
  | current => exact .inl rfl
  | @around scope parent s _ hs hcorrelated hp ih =>
    right
    rcases ih with rfl | hreaches
    · have hs : r.scopes[scope]? = some s := hs
      rw [parent?, hs, Option.bind_some, hp] at hparent
      cases hparent
      exact .current
    · exact .around hreaches hs hcorrelated hp

end Reaches

end RelMap.Resolver
