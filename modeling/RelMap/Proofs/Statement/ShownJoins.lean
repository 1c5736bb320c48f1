import RelMap.Proofs.Scope.Standing
import RelMap.Proofs.Statement.Shown

/-!
# Queries and automatic joins that are shown

A query that is over has its own scope shown inside of it. An automatic join shows what it depends
on: the source of its relation, or the references of its condition, which are deferred to it.
-/

namespace RelMap

open Compiling

/-! ## Effects of queries -/

namespace Resolver

/-- A query writes automatic joins in its scope, and marks occurrences in the scopes in reach. -/
def effect (r : Resolver) (scope : ScopeId) : Effect :=
  ⟨scope = r.current, r.Reaches scope, fun _ => False⟩

/-- A query inside the current scope marks occurrences around itself only if it is correlated. -/
def nestedEffect (r : Resolver) (correlated : Bool) (scope : ScopeId) : Effect :=
  ⟨False, correlated = true ∧ r.Reaches scope, fun _ => False⟩

/-- What is a part of the automatic join for an alias leaves a note of what the join depends on. -/
def hangingEffect (r : Resolver) (aliasName : String) (scope : ScopeId) : Effect :=
  ⟨scope = r.current, r.Reaches scope ∧ scope ≠ r.current,
    fun a => scope = r.current ∧ a = aliasName⟩

def joinEffect (r : Resolver) (auto : Bool) (aliasName : String) (scope : ScopeId) : Effect :=
  if auto then r.hangingEffect aliasName scope else r.effect scope

variable {r r' : Resolver} {scope : ScopeId} {e : Effect}

theorem within_nothing (hr : r.WellNested) (hscope : r.current < scope)
    (hhosts : e.hosts → scope = r.current) (hmarks : e.marks → r.Reaches scope)
    (hnotes : ∀ a, e.notes a → scope = r.current) : e.Within .nothing :=
  ⟨fun h => Nat.ne_of_gt hscope (hhosts h),
    fun h => Nat.not_le_of_lt hscope ((hmarks h).le_current hr),
    fun a h => Nat.ne_of_gt hscope (hnotes a h)⟩

theorem effect_older (hr : r.WellNested) (hscope : r.current < scope) :
    (r.effect scope).Within .nothing :=
  within_nothing hr hscope id id nofun

theorem nestedEffect_older (hr : r.WellNested) (hscope : r.current < scope) {correlated : Bool} :
    (r.nestedEffect correlated scope).Within .nothing :=
  within_nothing hr hscope nofun And.right nofun

theorem hangingEffect_older (hr : r.WellNested) (hscope : r.current < scope) {aliasName : String} :
    (r.hangingEffect aliasName scope).Within .nothing :=
  within_nothing hr hscope id And.left fun _ => And.left

theorem joinEffect_older (hr : r.WellNested) (hscope : r.current < scope) {auto : Bool}
    {aliasName : String} : (r.joinEffect auto aliasName scope).Within .nothing := by
  cases auto with
  | false => exact effect_older hr hscope
  | true => exact hangingEffect_older hr hscope

theorem effect_within_inQuery : (r.effect scope).Within .inQuery :=
  ⟨fun _ => trivial, fun _ => trivial, fun _ h => h⟩

theorem nestedEffect_within {correlated : Bool} :
    (r.nestedEffect correlated scope).Within (r.effect scope) :=
  ⟨nofun, And.right, fun _ h => h⟩

/-- A derived table may be a part of an automatic join if it is not correlated. -/
theorem nestedEffect_within_joinEffect {correlated auto : Bool} {aliasName : String}
    (h : (auto && correlated) = false) :
    (r.nestedEffect correlated scope).Within (r.joinEffect auto aliasName scope) := by
  cases auto with
  | false => exact nestedEffect_within
  | true =>
    have huncorrelated : correlated = false := h
    subst huncorrelated
    exact ⟨nofun, fun hmarks => Bool.noConfusion hmarks.1, fun _ => nofun⟩

/-- Emission does not change what it may do next. -/
theorem SameTree.effect_within (h : r.SameTree r') : (r'.effect scope).Within (r.effect scope) :=
  ⟨fun hhosts => Eq.trans hhosts h.current, h.reaches, fun _ hnotes => hnotes⟩

theorem SameTree.joinEffect_within (h : r.SameTree r') {auto : Bool} {aliasName : String} :
    (r'.joinEffect auto aliasName scope).Within (r.joinEffect auto aliasName scope) := by
  cases auto with
  | false => exact h.effect_within
  | true =>
    unfold joinEffect hangingEffect
    rw [h.current]
    exact ⟨id, And.imp_left h.reaches, fun _ => id⟩

end Resolver

namespace Shown

variable {format : SqlFormat} {lo hi : ScopeId} {q : Queued} {r r' : Resolver} {p : Passage}
  {aliasName : String}

theorem subquery {inner : ScopeId} {correlated : Bool}
    (h : Shown format (inner + 1) hi (r.enter inner).effect q (r.enter inner) r' p)
    (hr : r.WellNested) (hparent : r.parent? inner = some r.current)
    (hcorrelated : ∀ s, r.scopes[inner]? = some s → s.correlated = correlated) :
    Shown format inner hi (r.nestedEffect correlated) (.opening inner q) r r'.pop
      p.parenthesized where
  le := Nat.le_of_succ_le h.le
  older := fun scope hscope =>
    Resolver.nestedEffect_older hr (Nat.lt_of_lt_of_le (hr.older _ _ hparent) hscope)
  beyond := by
    intro scope hscope
    have hbeyond := h.beyond scope fun hin => hscope ⟨Nat.le_of_succ_le hin.1, hin.2⟩
    have hne : scope ≠ inner := by
      rintro rfl
      exact hscope ⟨Nat.le_refl _, h.le⟩
    have hwithin : ((r.enter inner).effect scope).Within (r.nestedEffect correlated scope) := by
      refine ⟨hne, ?_, fun _ hnotes => hnotes⟩
      intro hreaches
      refine ⟨?_, (Resolver.Reaches.of_enter hreaches hparent).resolve_left hne⟩
      by_contra hno
      obtain ⟨s, hs, -⟩ := Option.bind_eq_some_iff.mp hparent
      have huncorrelated := (hcorrelated s hs).trans (Bool.eq_false_iff.mpr hno)
      exact hne (hreaches.eq_current hs huncorrelated)
    exact (hbeyond.mono hwithin).parenthesized
  opened := by
    intro scope hlo hhi
    rcases Nat.eq_or_lt_of_le hlo with rfl | hlt
    · have hown := h.beyond inner fun hin => Nat.not_succ_le_self _ hin.1
      exact ⟨[], (hown.mono Resolver.effect_within_inQuery).parenthesized⟩
    · obtain ⟨outer, hshown⟩ := h.opened scope hlt hhi
      exact ⟨outer, hshown.parenthesized⟩

/-- The references in the condition of an automatic join become notes of the join. -/
theorem deferSince (h : Shown format lo hi r.effect q r r' p) (hr : r.WellNested)
    (hlo : r.current < lo) (hlive : r.current < r'.scopes.length) :
    Shown format lo hi (r.hangingEffect aliasName) q r
      (r'.modifyTableUse r.current (·.deferSince (r.tableUse r.current).referenced aliasName))
      p where
  le := h.le
  older := fun scope hscope => Resolver.hangingEffect_older hr (Nat.lt_of_lt_of_le hlo hscope)
  beyond := by
    intro scope hscope
    have hshown := h.beyond scope hscope
    by_cases hcurrent : r.current = scope
    · subst hcurrent
      have huse := Resolver.tableUse_modifyTableUse
        (g := (·.deferSince (r.tableUse r.current).referenced aliasName)) hlive
      refine ⟨nofun, fun j hj hj' => ⟨rfl, (hshown.joins j hj hj').2⟩, ?_, ?_, hshown.planned⟩
      · intro a ha
        left
        rw [huse] at ha
        exact (TableUse.mem_referenced_deferSince.mp ha).2
      · intro d hd
        rw [huse] at hd
        rcases TableUse.mem_dependencies_deferSince hd with hd | ⟨⟨hreferenced, hnew⟩, hname⟩
        · rcases hshown.dependencies d hd with hd | hself | ⟨hnotes, -⟩ | hd
          · exact .inl hd
          · exact .inr (.inl hself)
          · exact hnotes.elim
          · exact .inr (.inr (.inr hd))
        · obtain ⟨-, huses⟩ := (hshown.referenced d.1 hreferenced).resolve_left hnew
          exact .inr (.inr (.inl ⟨⟨rfl, hname⟩, huses⟩))
    · have hwithin : (r.effect scope).Within (r.hangingEffect aliasName scope) :=
        ⟨id, fun hreaches => ⟨hreaches, Ne.symm hcurrent⟩, fun _ => False.elim⟩
      exact (hshown.mono hwithin).congr (Resolver.tableUse_modifyTableUse_of_ne hcurrent)
  opened := by
    intro scope hscope hhi
    obtain ⟨outer, hshown⟩ := h.opened scope hscope hhi
    have hne : r.current ≠ scope := Nat.ne_of_lt (Nat.lt_of_lt_of_le hlo hscope)
    exact ⟨outer, hshown.congr (Resolver.tableUse_modifyTableUse_of_ne hne)⟩

theorem autoJoin {joined : Occurrence}
    (h : Shown format lo hi (r.hangingEffect joined.qualifier) q r r' p) (hr : r.WellNested)
    (hlo : r.current < lo) (hconfined : Passage.Confined [.autoJoin r.current joined p]) :
    Shown format lo hi r.effect q r r' [.autoJoin r.current joined p] where
  le := h.le
  older := fun scope hscope => Resolver.effect_older hr (Nat.lt_of_lt_of_le hlo hscope)
  beyond := by
    intro scope hscope
    have hshown := h.beyond scope hscope
    obtain ⟨-, hmentions, hjoins⟩ := hconfined.inside
    have hnone (d : String × String) : ¬ p.Holds format scope [] d := by
      rintro ⟨⟨j, hj, hscope⟩, -⟩
      obtain ⟨hcurrent, -⟩ := hshown.joins j hj hscope
      exact hjoins j hj (hscope.trans hcurrent)
    refine ⟨nofun, ?_, ?_, ?_, fun j hj hscope d hd =>
      (hnone d (hshown.planned j hj hscope d hd)).elim⟩
    · intro j hj hscope
      rw [Passage.joins_autoJoin, List.mem_cons] at hj
      rcases hj with rfl | hj
      · exact ⟨hscope.symm, rfl⟩
      · obtain ⟨inner, hinner, rfl⟩ := List.mem_map.mp hj
        obtain ⟨hcurrent, -⟩ := hshown.joins inner hinner hscope
        exact absurd (hscope.trans hcurrent) (hjoins inner hinner)
    · intro a ha
      left
      apply (hshown.referenced a ha).resolve_right
      rintro ⟨⟨hreaches, hne⟩, huses⟩
      -- a reference to a scope around would be mentioned from inside the join
      obtain ⟨m, hm, hkey⟩ := huses.exists_mention
      have hrecorded : m.item.recorded = scope := congrArg ConditionKey.scope hkey
      have hle : r.current ≤ scope := hrecorded ▸ hmentions m hm
      exact hne (Nat.le_antisymm (hreaches.le_current hr) hle)
    · intro d hd
      rcases hshown.dependencies d hd with hd | hself | ⟨⟨rfl, hname⟩, huses⟩ | hd
      · exact .inl hd
      · exact .inr (.inl hself)
      · refine .inr (.inr (.inr ⟨Passage.hosts_autoJoin, ?_⟩))
        rw [hname]
        exact huses.autoJoin
      · exact (hnone d hd).elim
  opened := by
    intro scope hscope hhi
    obtain ⟨outer, hshown⟩ := h.opened scope hscope hhi
    exact ⟨_, hshown.autoJoin (Nat.ne_of_lt (Nat.lt_of_lt_of_le hlo hscope))⟩

/-- A join shows what its derived table and its condition do. The path that it takes between them
is not recorded anywhere. -/
theorem joinParts {mid mid' : ScopeId} {auto correlated : Bool} {q' : Queued} {r'' : Resolver}
    {table on : Passage} (htable : Shown format lo mid (r.nestedEffect correlated) q r r' table)
    (hon : Shown format mid' hi (r'.joinEffect auto aliasName) q' r' r'' on) (hmid : mid ≤ mid')
    (htree : r.SameTree r') (huncorrelated : (auto && correlated) = false) (hr : r.WellNested)
    (hlo : r.current < lo) (path : String) (f g : Fragment) :
    Shown format lo hi (r.joinEffect auto aliasName) (q ++ (.ofPath path ++ q')) r r''
      (.ofFragment f ++ table ++ .ofFragment g ++ on) := by
  have holder (scope : ScopeId) (hscope : lo ≤ scope) :
      (r.joinEffect auto aliasName scope).Within .nothing :=
    Resolver.joinEffect_older hr (Nat.lt_of_lt_of_le hlo hscope)
  have hlater (scope : ScopeId) (hscope : mid ≤ scope) :
      (r.joinEffect auto aliasName scope).Within .nothing :=
    holder scope (Nat.le_trans htable.le hscope)
  have htable' : Shown format lo mid (r.joinEffect auto aliasName) q r r' table :=
    htable.mono (fun _ => Resolver.nestedEffect_within_joinEffect huncorrelated) holder
  have htaken : Shown format mid mid' (r.joinEffect auto aliasName) (.ofPath path) r' r' [] :=
    of_unchanged hmid hlater rfl rfl
  have hon' : Shown format mid' hi (r.joinEffect auto aliasName) q' r' r'' on :=
    hon.mono (fun _ => htree.joinEffect_within) fun scope hscope =>
      hlater scope (Nat.le_trans hmid hscope)
  exact ((htable'.ofFragment_append f).append_ofFragment g).append (htaken.append hon')

theorem noted {origin joined : ScopeId × Occurrence} {f : Fragment}
    (hspells : f.Spells format origin.2.qualifier) (hr : r.WellNested) (hlo : r.current < lo) :
    Shown format lo lo (r.hangingEffect joined.2.qualifier) .nothing r
      (r.modifyTableUse r.current (·.addDependency origin.2.qualifier joined.2.qualifier))
      (.referring [⟨origin.1, origin.2, r.current⟩, ⟨joined.1, joined.2, r.current⟩] f) := by
  refine of_scopes (Nat.le_refl _)
    (fun scope hscope => Resolver.hangingEffect_older hr (Nat.lt_of_lt_of_le hlo hscope)) ?_
  intro scope
  obtain ⟨hreferenced, hdependencies⟩ := Resolver.tableUse_addDependency r r.current scope
    origin.2.qualifier joined.2.qualifier
  refine ⟨nofun, ?_, ?_, ?_, List.forall_mem_nil _⟩
  · rw [Passage.joins_referring]
    exact List.forall_mem_nil _
  · intro a ha
    rw [hreferenced] at ha
    exact .inl ha
  · intro d hd
    rcases hdependencies d hd with hd | ⟨rfl, rfl⟩
    · exact .inl hd
    · exact .inr (.inr (.inl ⟨⟨rfl, rfl⟩, Passage.Uses.referring (.head _) hspells⟩))

/-! ## Planned joins -/

theorem joins_plannedJoins (joins : List AutoJoin) :
    Passage.joins (joins.map (Emission.plannedJoin format)) =
      joins.map fun j => ⟨⟨j.scope, j.joined, Passage.referring j.mentions
        (Emission.space true ++ j.join.render format)⟩, []⟩ := by
  induction joins with
  | nil => rfl
  | cons j rest ih =>
    rw [List.map_cons, Passage.joins, ih, Emission.plannedJoin, Passage.partJoins,
      Passage.joins_referring]
    rfl

/-- A planned join is written with a column of the joined table that it starts from. -/
theorem uses_plannedJoins {scope : ScopeId} {joins : List AutoJoin} {j : AutoJoin} {o : Occurrence}
    (hqualify : format.qualifyColumns = true) (hj : j ∈ joins) (hstarts : j.StartsIn scope)
    (ho : o ∈ j.source) :
    Passage.Uses format (joins.map (Emission.plannedJoin format)) [⟨scope, j.qualifier⟩]
      ⟨scope, o.qualifier⟩ := by
  have hown : Passage.Uses format [Emission.plannedJoin format j] [⟨scope, j.qualifier⟩]
      ⟨scope, o.qualifier⟩ := by
    obtain ⟨column, key, hjoins⟩ := hstarts.source o ho
    have hmention : ⟨j.scope, o, j.scope⟩ ∈ j.mentions :=
      List.mem_map_of_mem (List.mem_append_left _ (Option.mem_toList.mpr ho))
    rw [← hstarts.scope]
    have hspells := (hjoins.spells_host hqualify).append_right (f := Emission.space true)
    exact (Passage.Uses.referring hmention hspells).autoJoin
  induction hj with
  | head rest => exact hown.append_left
  | tail other _ ih => exact Passage.Uses.append_right (p := [Emission.plannedJoin format other]) ih

theorem plannedJoins {joins : List AutoJoin} (hqualify : format.qualifyColumns = true)
    (hstarts : ∀ j ∈ joins, j.StartsIn r.current) (hr : r.WellNested) (hle : lo ≤ hi)
    (hlo : r.current < lo) :
    Shown format lo hi r.effect ⟨[], [joins], []⟩ r r
      (joins.map (Emission.plannedJoin format)) := by
  refine of_scopes hle
    (fun scope hscope => Resolver.effect_older hr (Nat.lt_of_lt_of_le hlo hscope)) ?_
  intro scope
  refine ⟨nofun, ?_, fun _ => .inl, fun _ => .inl, ?_⟩
  · intro j hj hscope
    rw [joins_plannedJoins] at hj
    obtain ⟨planned, hplanned, rfl⟩ := List.mem_map.mp hj
    exact ⟨hscope.symm.trans (hstarts planned hplanned).scope, rfl⟩
  · intro j hj hscope d hd
    rw [List.flatten_singleton] at hj
    obtain ⟨o, ho, rfl⟩ := hd
    obtain rfl := hscope.symm.trans (hstarts j hj).scope
    obtain ⟨planned, hplanned, hhost, -⟩ := Emission.hasJoin_plannedJoins hj
    exact ⟨⟨planned, hplanned, hhost.trans hscope⟩,
      uses_plannedJoins hqualify hj (hstarts j hj) ho⟩

end Shown

end RelMap
