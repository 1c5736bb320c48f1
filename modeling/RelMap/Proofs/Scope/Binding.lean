import Mathlib.Data.List.Nodup
import Mathlib.Logic.Relation
import RelMap.Proofs.Scope.Nesting

/-!
# Binding occurrences

Registration changes the scopes in small steps: it binds occurrences in the current scope, opens and
leaves scopes, and notes how tables are used. No step binds an entity twice at one path, and a
generated alias differs from the qualifiers in all the scopes around it.
-/

namespace RelMap

def Occurrence.place (o : Occurrence) : EntityName × String := (o.entity.name, o.path)

namespace Resolver

variable {r r' : Resolver} {scope inner outer : ScopeId} {o : Occurrence} {correlated : Bool}

/-! ## Single operations -/

theorem parent?_register : (r.register o).parent? scope = r.parent? scope := by
  unfold parent? register
  rw [getElem?_modifyScope]
  split
  · rw [Option.bind_map]
    rfl
  · rfl

theorem occurrences_register_of_ne (h : scope ≠ r.current) :
    (r.register o).occurrences scope = r.occurrences scope := by
  unfold occurrences register
  rw [getElem?_modifyScope, if_neg h.symm]

theorem occurrences_register (h : r.Live) :
    (r.register o).occurrences r.current = r.occurrences r.current ++ [o] := by
  unfold occurrences register
  rw [getElem?_modifyScope, if_pos rfl, List.getElem?_eq_getElem h]
  rfl

theorem tableUse_register : (r.register o).tableUse scope = r.tableUse scope := by
  unfold tableUse register
  rw [getElem?_modifyScope]
  split
  · rw [Option.map_map]
    rfl
  · rfl

theorem parent?_push_of_lt (h : scope < r.scopes.length) :
    (r.push correlated).parent? scope = r.parent? scope := by
  unfold parent? push
  rw [List.getElem?_append_left h]

theorem occurrences_push : (r.push correlated).occurrences scope = r.occurrences scope := by
  unfold occurrences push
  rcases Nat.lt_trichotomy scope r.scopes.length with h | h | h
  · rw [List.getElem?_append_left h]
  · subst h
    rw [List.getElem?_concat_length, List.getElem?_eq_none (Nat.le_refl _)]
    rfl
  · rw [List.getElem?_eq_none (Nat.le_of_lt h), List.getElem?_eq_none]
    rw [List.length_append]
    exact h

/-! ## Steps -/

/-- A step on the scopes. Where `named` holds, an occurrence may be bound to a given alias. -/
inductive Step (named : Resolver → Prop) (r : Resolver) : Resolver → Prop
  | generate (o : Occurrence) (hnew : r.isRegistered o.entity.name o.path = false)
    (hfresh : o.qualifier ∉ r.liveQualifiers) : Step named r (r.register o)
  | name (o : Occurrence) (hnew : r.isRegistered o.entity.name o.path = false)
    (hnamed : named r) : Step named r (r.register o)
  | use (scope : ScopeId) (f : TableUse → TableUse) : Step named r (r.modifyTableUse scope f)
  | push (correlated : Bool) : Step named r (r.push correlated)
  | pop : Step named r r.pop

abbrev Steps (named : Resolver → Prop) : Resolver → Resolver → Prop :=
  Relation.ReflTransGen (Step named)

variable {named : Resolver → Prop}

theorem Steps.keeps {P : Resolver → Prop} (h : Steps named r r')
    (hstep : ∀ r r', Step named r r' → P r → P r') (hr : P r) : P r' := by
  induction h with
  | refl => exact hr
  | tail _ hlast ih => exact hstep _ _ hlast ih

/-! ### Nesting -/

theorem WellNested.of_same (hr : r.WellNested)
    (hscopes : ∀ scope, r'.parent? scope = r.parent? scope)
    (hlength : r'.scopes.length = r.scopes.length) (hcurrent : r'.current < r.scopes.length) :
    r'.WellNested := by
  refine ⟨?_, ?_⟩
  · unfold Live
    rw [hlength]
    exact hcurrent
  · intro scope parent hparent
    rw [hscopes] at hparent
    exact hr.older scope parent hparent

theorem length_modifyScope {f : Scope → Scope} :
    (r.modifyScope scope f).scopes.length = r.scopes.length :=
  List.length_modify _ _ _

theorem WellNested.step (h : Step named r r') (hr : r.WellNested) : r'.WellNested := by
  cases h with
  | generate o | name o => exact hr.of_same (fun _ => parent?_register) length_modifyScope hr.live
  | use scope f =>
    have hsame := SameTables.modifyTableUse r scope f
    exact hr.of_same hsame.parent? hsame.length hr.live
  | pop =>
    refine hr.of_same (fun _ => rfl) rfl ?_
    unfold pop
    dsimp only
    cases hparent : r.parent? r.current with
    | none =>
      rw [parent?] at hparent
      rw [hparent]
      exact hr.live
    | some parent =>
      have hlt := hr.older r.current parent hparent
      rw [parent?] at hparent
      rw [hparent]
      exact Nat.lt_trans hlt hr.live
  | push correlated =>
    refine ⟨live_push, ?_⟩
    intro scope parent hparent
    rcases Nat.lt_or_ge scope r.scopes.length with hlt | hge
    · rw [parent?_push_of_lt hlt] at hparent
      exact hr.older scope parent hparent
    · have hlength := lt_length_of_parent? hparent
      unfold push at hlength
      rw [List.length_append] at hlength
      have heq : scope = r.scopes.length := Nat.le_antisymm (Nat.le_of_lt_succ hlength) hge
      rw [heq, parent?_push] at hparent
      cases hparent
      rw [heq]
      exact hr.live

theorem parent?_step (h : Step named r r') (hscope : scope < r.scopes.length) :
    r'.parent? scope = r.parent? scope := by
  cases h with
  | generate o | name o => exact parent?_register
  | use other f => exact (SameTables.modifyTableUse r other f).parent? scope
  | push correlated => exact parent?_push_of_lt hscope
  | pop => rfl

theorem length_le_step (h : Step named r r') : r.scopes.length ≤ r'.scopes.length := by
  cases h with
  | generate o | name o => exact Nat.le_of_eq length_modifyScope.symm
  | use other f => exact Nat.le_of_eq (SameTables.modifyTableUse r other f).length.symm
  | push correlated =>
    unfold push
    rw [List.length_append]
    exact Nat.le_add_right _ _
  | pop => exact Nat.le_refl _

theorem Steps.parent? (h : Steps named r r') (hscope : scope < r.scopes.length) :
    r'.parent? scope = r.parent? scope := by
  induction h using Relation.ReflTransGen.head_induction_on with
  | refl => rfl
  | head hfirst _ ih =>
    rw [ih (Nat.lt_of_lt_of_le hscope (length_le_step hfirst)), parent?_step hfirst hscope]

theorem Inside.of_step (hinside : r'.Inside inner scope) (h : Step named r r') (hr : r.WellNested)
    (hscope : scope < r.scopes.length) : r.Inside inner scope := by
  induction hinside with
  | refl => exact .refl
  | step hparent _ ih =>
    rw [parent?_step h hscope] at hparent
    exact .step hparent (ih (Nat.lt_trans (hr.older _ _ hparent) hscope))

/-! ### Occurrences -/

def PlacesDistinct (r : Resolver) : Prop :=
  ∀ scope, ((r.occurrences scope).map Occurrence.place).Nodup

theorem not_mem_places (h : r.isRegistered o.entity.name o.path = false) :
    o.place ∉ (r.occurrences r.current).map Occurrence.place := by
  intro hmem
  obtain ⟨other, hother, hplace⟩ := List.mem_map.mp hmem
  obtain ⟨hname, hpath⟩ := Prod.mk.inj hplace
  have hno := List.any_eq_false.mp h other hother
  apply hno
  rw [isAt_iff]
  refine ⟨hname, ?_⟩
  intro path hsome
  cases hsome
  exact hpath.symm

/-- The occurrences of a scope after a step are those from before, and at most a new one in the
current scope. -/
theorem occurrences_step (h : Step named r r') (hr : r.WellNested) (scope : ScopeId) :
    r'.occurrences scope = r.occurrences scope ∨ scope = r.current ∧
      ∃ o, r.isRegistered o.entity.name o.path = false ∧
        (o.qualifier ∉ r.liveQualifiers ∨ named r) ∧
        r'.occurrences scope = r.occurrences scope ++ [o] := by
  have hregister (o : Occurrence) (hnew : r.isRegistered o.entity.name o.path = false)
      (hname : o.qualifier ∉ r.liveQualifiers ∨ named r) :
      (r.register o).occurrences scope = r.occurrences scope ∨ scope = r.current ∧
        ∃ o', r.isRegistered o'.entity.name o'.path = false ∧
          (o'.qualifier ∉ r.liveQualifiers ∨ named r) ∧
          (r.register o).occurrences scope = r.occurrences scope ++ [o'] := by
    by_cases hscope : scope = r.current
    · refine .inr ⟨hscope, o, hnew, hname, ?_⟩
      rw [hscope]
      exact occurrences_register hr.live
    · exact .inl (occurrences_register_of_ne hscope)
  cases h with
  | generate o hnew hfresh => exact hregister o hnew (.inl hfresh)
  | name o hnew hnamed => exact hregister o hnew (.inr hnamed)
  | use other f => exact .inl ((SameTables.modifyTableUse r other f).occurrences scope)
  | push correlated => exact .inl occurrences_push
  | pop => exact .inl rfl

theorem PlacesDistinct.step (h : Step named r r') (hr : r.WellNested ∧ r.PlacesDistinct) :
    r'.WellNested ∧ r'.PlacesDistinct := by
  obtain ⟨hnested, hdistinct⟩ := hr
  refine ⟨hnested.step h, ?_⟩
  intro scope
  rcases occurrences_step h hnested scope with hsame | ⟨rfl, o, hnew, -, hadded⟩
  · rw [hsame]
    exact hdistinct scope
  · rw [hadded, List.map_append, List.nodup_append]
    refine ⟨hdistinct _, List.pairwise_singleton _ _, ?_⟩
    intro place hplace other hother hsame
    cases List.mem_singleton.mp hother
    exact not_mem_places hnew (hsame ▸ hplace)

theorem lt_length_of_mem_occurrences (h : o ∈ r.occurrences scope) : scope < r.scopes.length := by
  by_contra hlt
  rw [occurrences, List.getElem?_eq_none (Nat.le_of_not_lt hlt)] at h
  cases h

/-- What is bound stays bound, and comes before what is bound later. -/
theorem Steps.occurrences_prefix (h : Steps named r r') (hr : r.WellNested) (scope : ScopeId) :
    r.occurrences scope <+: r'.occurrences scope := by
  have hkept := h.keeps (P := fun r' => r'.WellNested ∧ r.occurrences scope <+: r'.occurrences scope)
    (fun r₁ r₂ hstep hr₁ => by
      refine ⟨hr₁.1.step hstep, ?_⟩
      rcases occurrences_step hstep hr₁.1 scope with hsame | ⟨-, o, -, -, hadded⟩
      · rw [hsame]
        exact hr₁.2
      · rw [hadded]
        exact hr₁.2.trans (List.prefix_append _ _))
    ⟨hr, List.prefix_rfl⟩
  exact hkept.2

theorem Steps.occurrences_subset (h : Steps named r r') (hr : r.WellNested) (scope : ScopeId) :
    r.occurrences scope ⊆ r'.occurrences scope :=
  (h.occurrences_prefix hr scope).subset

theorem Steps.wellNested (h : Steps named r r') (hr : r.WellNested) : r'.WellNested :=
  h.keeps (fun _ _ hstep hr => hr.step hstep) hr

/-! ### Look-ups -/

/-- A look-up that cascades gets to the scope, and in none of the scopes before it takes an occurrence
for one of the scope's own. -/
def Unshadowed (r : Resolver) (scope : ScopeId) : Prop :=
  ∃ nearer rest, r.visibleScopes .cascade = nearer ++ scope :: rest ∧
    ∀ inner ∈ nearer, ∀ other ∈ r.occurrences inner, ∀ o ∈ r.occurrences scope,
      other.entity.name = o.entity.name → other.path ≠ o.path ∧ other.qualifier ≠ o.qualifier

theorem Unshadowed.of_sameTables (h : r.Unshadowed scope) (hsame : r.SameTables r')
    (hcurrent : r'.current = r.current) : r'.Unshadowed scope := by
  obtain ⟨nearer, rest, hvisible, hnone⟩ := h
  refine ⟨nearer, rest, (hsame.visibleScopes hcurrent .cascade).trans hvisible, ?_⟩
  intro inner hinner other hother o ho
  rw [hsame.occurrences] at hother ho
  exact hnone inner hinner other hother o ho

theorem filter_isAt_of_mem (hdistinct : r.PlacesDistinct) (ho : o ∈ r.occurrences scope) :
    (r.occurrences scope).filter (isAt o.entity.name (some o.path)) = [o] := by
  have hnodup := List.Nodup.of_map _ (hdistinct scope)
  rw [← List.perm_singleton, List.perm_ext_iff_of_nodup (hnodup.filter _) (List.nodup_singleton o)]
  intro other
  rw [List.mem_filter, isAt_iff, List.mem_singleton]
  constructor
  · rintro ⟨hother, hname, hpath⟩
    apply List.inj_on_of_nodup_map (hdistinct scope) hother ho
    rw [Occurrence.place, Occurrence.place, hname, hpath o.path rfl]
  · rintro rfl
    refine ⟨ho, rfl, ?_⟩
    intro path hpath
    cases hpath
    rfl

/-- An occurrence of an unshadowed scope is found by its place. -/
theorem findBinding_of_mem (hscope : r.Unshadowed scope) (hdistinct : r.PlacesDistinct)
    (ho : o ∈ r.occurrences scope) :
    r.findBinding o.entity.name (some o.path) .cascade = .ok (scope, o) := by
  obtain ⟨nearer, rest, hvisible, hnone⟩ := hscope
  have hnearer : ∀ inner ∈ nearer,
      (r.occurrences inner).filter (isAt o.entity.name (some o.path)) = [] := by
    intro inner hinner
    rw [List.filter_eq_nil_iff]
    intro other hother hat
    obtain ⟨hname, hpath⟩ := isAt_iff.mp hat
    exact (hnone inner hinner other hother o ho hname).1 (hpath o.path rfl).symm
  rw [findBinding, hvisible, bindingIn_append hnearer, bindingIn, filter_isAt_of_mem hdistinct ho]

theorem run_useAlias_of_mem (hscope : r.Unshadowed scope) (ho : o ∈ r.occurrences scope) :
    (useAlias o.entity o.aliasName .cascade).run.run r =
      (.ok scope, r.modifyTableUse scope (·.mark o.qualifier)) := by
  obtain ⟨nearer, rest, hvisible, hnone⟩ := hscope
  have hnearer : nearer.find? (r.owns o.entity o.aliasName) = none := by
    rw [List.find?_eq_none]
    intro inner hinner howns
    obtain ⟨other, hother, hsame⟩ := List.any_eq_true.mp howns
    rw [Bool.and_eq_true, beq_iff_eq, beq_iff_eq] at hsame
    exact (hnone inner hinner other hother o ho hsame.1).2 hsame.2
  have howns : r.owns o.entity o.aliasName scope = true := by
    refine List.any_eq_true.mpr ⟨o, ho, ?_⟩
    rw [Occurrence.qualifier, beq_self_eq_true, beq_self_eq_true]
    rfl
  have hfind : (r.visibleScopes .cascade).find? (r.owns o.entity o.aliasName) = some scope := by
    rw [hvisible, List.find?_append, hnearer, Option.none_or, List.find?_cons_of_pos howns]
  rw [run_useAlias, hfind]
  rfl

theorem useAlias_of_mem (hscope : r.Unshadowed scope) (ho : o ∈ r.occurrences scope)
    {recorded : ScopeId}
    (h : (useAlias o.entity o.aliasName .cascade).run.run r = (.ok recorded, r')) :
    recorded = scope := by
  cases (run_useAlias_of_mem hscope ho).symm.trans h
  rfl

/-! ### Qualifiers apart -/

def Outermost (r : Resolver) : Prop := r.parent? r.current = none

theorem visibleScopes_of_outermost (h : r.Outermost) (hlive : r.Live) :
    r.visibleScopes .cascade = [r.current] := by
  obtain ⟨fuel, hfuel⟩ := Nat.exists_eq_add_one_of_ne_zero (Nat.ne_zero_of_lt hlive)
  unfold Outermost parent? at h
  rw [List.getElem?_eq_getElem hlive, Option.bind_some] at h
  rw [visibleScopes, hfuel, chain, List.getElem?_eq_getElem hlive]
  dsimp only
  rw [h]

theorem unshadowed_of_outermost (h : r.Outermost) (hlive : r.Live) : r.Unshadowed r.current :=
  ⟨[], [], visibleScopes_of_outermost h hlive, nofun⟩

theorem mem_liveQualifiers (hr : r.WellNested) (h : r.Inside outer r.current)
    (ho : o ∈ r.occurrences outer) : o.qualifier ∈ r.liveQualifiers := by
  refine List.mem_flatMap.mpr ⟨outer, ?_, List.mem_map_of_mem ho⟩
  exact mem_chain_of_inside h hr hr.live hr.live

def QualifiersDistinct (r : Resolver) : Prop :=
  ∀ scope, ((r.occurrences scope).map Occurrence.qualifier).Nodup

/-- If all aliases are generated, each differs from the qualifiers that are bound before in its
scope. -/
theorem QualifiersDistinct.step (h : Step (fun _ => False) r r')
    (hr : r.WellNested ∧ r.QualifiersDistinct) : r'.WellNested ∧ r'.QualifiersDistinct := by
  obtain ⟨hnested, hdistinct⟩ := hr
  refine ⟨hnested.step h, ?_⟩
  intro scope
  rcases occurrences_step h hnested scope with hsame | ⟨rfl, new, -, hname, hadded⟩
  · rw [hsame]
    exact hdistinct scope
  · obtain hfresh | hfalse := hname
    · rw [hadded, List.map_append, List.nodup_append]
      refine ⟨hdistinct _, List.pairwise_singleton _ _, ?_⟩
      intro q hq q' hq' hsame
      cases List.mem_singleton.mp hq'
      obtain ⟨o, ho, hqualifier⟩ := List.mem_map.mp hq
      have hlive := mem_liveQualifiers hnested .refl ho
      rw [hqualifier, hsame] at hlive
      exact hfresh hlive
    · exact hfalse.elim

/-- No occurrence inside a scope takes one of the qualifiers, which are bound in the scope
around. -/
structure KeepsApart (r : Resolver) (inner outer : ScopeId) (qualifiers : List String) : Prop where
  nested : r.WellNested
  parent : r.parent? inner = some outer
  bound : ∀ q ∈ qualifiers, ∃ o ∈ r.occurrences outer, o.qualifier = q
  apart : ∀ scope, r.Inside inner scope → ∀ o ∈ r.occurrences scope, o.qualifier ∉ qualifiers

namespace KeepsApart

variable {qualifiers : List String}

theorem push (hr : r.WellNested) (correlated : Bool) :
    (r.push correlated).KeepsApart r.scopes.length r.current
      ((r.occurrences r.current).map Occurrence.qualifier) := by
  have hnested : (r.push correlated).WellNested :=
    hr.step (.push correlated : Step Outermost r _)
  refine ⟨hnested, parent?_push, ?_, ?_⟩
  · intro q hq
    rw [occurrences_push]
    exact List.mem_map.mp hq
  · intro scope hinside o ho
    have hle := hinside.le hnested
    rw [occurrences_push, occurrences, List.getElem?_eq_none hle] at ho
    cases ho

/-- Inside the scope an alias that is generated is none of the qualifiers, and given aliases are not
allowed there. -/
theorem step (h : Step Outermost r r') (hr : r.KeepsApart inner outer qualifiers) :
    r'.KeepsApart inner outer qualifiers := by
  have hnested := hr.nested.step h
  have hsubset := Steps.occurrences_subset (.single h) hr.nested
  refine ⟨hnested, ?_, ?_, ?_⟩
  · rw [parent?_step h (lt_length_of_parent? hr.parent)]
    exact hr.parent
  · intro q hq
    obtain ⟨o, ho, hqualifier⟩ := hr.bound q hq
    exact ⟨o, hsubset outer ho, hqualifier⟩
  · intro scope hinside o ho
    rcases occurrences_step h hr.nested scope with hsame | ⟨rfl, new, -, hname, hadded⟩
    · rw [hsame] at ho
      have hscope := lt_length_of_mem_occurrences ho
      exact hr.apart scope (hinside.of_step h hr.nested hscope) o ho
    have hinside := hinside.of_step h hr.nested hr.nested.live
    rw [hadded, List.mem_append, List.mem_singleton] at ho
    rcases ho with ho | rfl
    · exact hr.apart _ hinside o ho
    intro hq
    rcases hname with hfresh | houtermost
    · obtain ⟨other, hother, hsame⟩ := hr.bound _ hq
      have hlive := mem_liveQualifiers hr.nested (hinside.of_parent? hr.parent) hother
      rw [hsame] at hlive
      exact hfresh hlive
    · unfold Outermost at houtermost
      rcases hinside.eq_or_parent? with hinner | ⟨parent, hparent, -⟩
      · rw [hinner, hr.parent] at houtermost
        cases houtermost
      · rw [hparent] at houtermost
        cases houtermost

end KeepsApart

end Resolver

end RelMap
