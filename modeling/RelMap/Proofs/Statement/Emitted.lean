import RelMap.Proofs.Scope.Nesting
import RelMap.Proofs.Statement.Coverage
import RelMap.Proofs.Statement.Queues

/-!
# What emission has done

Emission takes its part of the queues, covers what the passage mentions, and writes the joins that
it has taken.
-/

namespace RelMap

open Compiling

/-- The passage has the automatic join of an occurrence in a scope. -/
def Passage.HasJoin (p : Passage) (scope : ScopeId) (o : Occurrence) : Prop :=
  ∃ j ∈ p.joins, j.item.scope = scope ∧ j.item.joined = o

namespace Passage.HasJoin

variable {p q : Passage} {scope other : ScopeId} {o joined : Occurrence}

theorem append_left (h : p.HasJoin scope o) : (p ++ q).HasJoin scope o := by
  obtain ⟨j, hj, hjoin⟩ := h
  refine ⟨j, ?_, hjoin⟩
  rw [joins_append]
  exact List.mem_append_left _ hj

theorem append_right (h : q.HasJoin scope o) : (p ++ q).HasJoin scope o := by
  obtain ⟨j, hj, hjoin⟩ := h
  refine ⟨j, ?_, hjoin⟩
  rw [joins_append]
  exact List.mem_append_right _ hj

theorem autoJoin (h : p.HasJoin scope o) : HasJoin [.autoJoin other joined p] scope o := by
  obtain ⟨j, hj, hjoin⟩ := h
  refine ⟨j.within [⟨other, joined.qualifier⟩], ?_, hjoin⟩
  rw [joins_autoJoin]
  exact .tail _ (List.mem_map_of_mem hj)

end Passage.HasJoin

/-! ## Marks -/

/-- The mentions are marked, and the tables and the queues left alone. -/
structure Marks (ms : List Mention) (state state' : CompileState) : Prop where
  advances : state.Advances state'
  tables : state.resolver.SameTables state'.resolver
  queued : state'.queued = state.queued
  marked : ∀ m ∈ ms, m.Marked state'.resolver

namespace Marks

variable {ms ms' : List Mention} {state state' state'' : CompileState}

theorem of_quiet {α : Type} {x : Compiling α} (hx : Quiet x) {a : α}
    (h : x.run state = .ok (a, state')) : Marks [] state state' :=
  ⟨hx.advances h, hx.tables h, hx.queued h, fun _ hm => nomatch hm⟩

theorem of_later (h : Marks ms state state') (h' : Marks ms' state' state'') :
    Marks ms' state state'' :=
  ⟨h.advances.trans h'.advances, h.tables.trans h'.tables, h'.queued.trans h.queued, h'.marked⟩

theorem append (h : Marks ms state state') (h' : Marks ms' state' state'') :
    Marks (ms ++ ms') state state'' where
  advances := h.advances.trans h'.advances
  tables := h.tables.trans h'.tables
  queued := h'.queued.trans h.queued
  marked := by
    intro m hm
    rcases List.mem_append.mp hm with hm | hm
    · have hreferenced := (h'.advances.grows.tableUse m.recorded).1
      exact hreferenced (h.marked m hm)
    · exact h'.marked m hm

theorem quiet_after {α : Type} {x : Compiling α} (h : Marks ms state state') (hx : Quiet x) {a : α}
    (hrun : x.run state' = .ok (a, state'')) : Marks ms state state'' := by
  have happend := h.append (of_quiet hx hrun)
  rw [List.append_nil] at happend
  exact happend

end Marks

theorem Resolver.lt_length_of_owns {r : Resolver} {entity : EntityInfo} {aliasName : String}
    {scope : ScopeId} (h : r.owns entity aliasName scope = true) : scope < r.scopes.length := by
  by_contra hlt
  have hscope : r.scopes[scope]? = none := List.getElem?_eq_none (Nat.le_of_not_lt hlt)
  unfold owns occurrences at h
  rw [hscope] at h
  cases h

theorem Resolver.useAlias_marks {r r' : Resolver} {entity : EntityInfo} {aliasName : String}
    {filter : ScopeFilter} {scope : ScopeId}
    (h : (useAlias entity aliasName filter).run.run r = (.ok scope, r')) :
    r.Grows r' ∧ r.SameTables r' ∧ r'.current = r.current ∧
      entity.qualifier aliasName ∈ (r'.tableUse scope).referenced := by
  obtain ⟨hfind, rfl⟩ := useAlias_ok h
  refine ⟨grows_mark, .modifyTableUse _ _ _, rfl, ?_⟩
  rw [tableUse_modifyTableUse (lt_length_of_owns (List.find?_some hfind))]
  exact TableUse.mem_referenced_mark.mpr (.inr rfl)

theorem Compiling.mention_marks {found : ScopeId × Occurrence} {filter : ScopeFilter} {m : Mention}
    {state state' : CompileState} (h : (mention found filter).run state = .ok (m, state')) :
    Marks [m] state state' := by
  obtain ⟨-, hoccurrence, huse, hstate⟩ := mention_ok h
  obtain ⟨hgrows, htables, hcurrent, hmarked⟩ := Resolver.useAlias_marks huse
  refine ⟨⟨hgrows, hcurrent⟩, htables, ?_, ?_⟩
  · rw [hstate]
    rfl
  · intro m' hm
    cases List.mem_singleton.mp hm
    unfold Mention.Marked
    rw [hoccurrence]
    exact hmarked

theorem Compiling.mention_marks_of_found {entity : EntityName} {path : Option String}
    {filter filter' : ScopeFilter} {found : ScopeId × Occurrence} {m : Mention}
    {state between state' : CompileState}
    (hfound : (findBinding entity path filter).run state = .ok (found, between))
    (hm : (mention found filter').run between = .ok (m, state')) : Marks [m] state state' := by
  have hlocated := Marks.of_quiet (quiet_findBinding entity path filter) hfound
  exact hlocated.of_later (mention_marks hm)

/-! ## Passages -/

/-- The passage is written, inside the joins `around`, and `q` is taken from the queues. -/
structure Emitted (around : List ConditionKey) (q : Queued) (state state' : CompileState)
    (p : Passage) : Prop where
  advances : state.Advances state'
  tables : state.resolver.SameTables state'.resolver
  queued : state.queued = q ++ state'.queued
  covered : ∀ m ∈ p.mentions, (m.within around).Covered state'.resolver
  planned : ∀ joins ∈ q.autoJoins, ∀ j ∈ joins, p.HasJoin j.scope j.joined

namespace Emitted

variable {around : List ConditionKey} {q q' : Queued} {state state' state'' : CompileState}
  {p p' : Passage}

theorem of_marks {ms : List Mention} (h : Marks ms state state') (f : Fragment) :
    Emitted around .nothing state state' (.referring ms f) where
  advances := h.advances
  tables := h.tables
  queued := h.queued.symm
  covered := by
    intro m hm
    rw [Passage.mentions_referring] at hm
    obtain ⟨mention, hmention, rfl⟩ := List.mem_map.mp hm
    exact .inl (h.marked mention hmention)
  planned := fun _ h => nomatch h

theorem of_quiet {α : Type} {x : Compiling α} (hx : Quiet x) {a : α}
    (h : x.run state = .ok (a, state')) (f : Fragment) :
    Emitted around .nothing state state' (.ofFragment f) :=
  of_marks (.of_quiet hx h) f

theorem nil : Emitted around .nothing state state [] :=
  ⟨.of_resolver rfl, rfl, rfl, fun _ hm => (List.not_mem_nil hm).elim,
    fun _ h => (List.not_mem_nil h).elim⟩

theorem append (h : Emitted around q state state' p) (h' : Emitted around q' state' state'' p') :
    Emitted around (q ++ q') state state'' (p ++ p') where
  advances := h.advances.trans h'.advances
  tables := h.tables.trans h'.tables
  queued := by rw [h.queued, h'.queued, Queued.append_assoc]
  covered := by
    intro m hm
    rw [Passage.mentions_append] at hm
    rcases List.mem_append.mp hm with hm | hm
    · exact (h.covered m hm).mono h'.advances.grows
    · exact h'.covered m hm
  planned := by
    intro joins hjoins j hj
    rcases List.mem_append.mp hjoins with hjoins | hjoins
    · exact (h.planned joins hjoins j hj).append_left
    · exact (h'.planned joins hjoins j hj).append_right

theorem ofFragment_append (h : Emitted around q state state' p) (f : Fragment) :
    Emitted around q state state' (.ofFragment f ++ p) :=
  append (of_quiet (.pure ()) rfl f) h

theorem append_ofFragment (h : Emitted around q state state' p) (f : Fragment) :
    Emitted around q state state' (p ++ .ofFragment f) := by
  have happend := h.append (of_quiet (.pure ()) rfl f)
  rw [Queued.append_nothing] at happend
  exact happend

theorem quiet_before {α : Type} {x : Compiling α} (hx : Quiet x) {a : α}
    (hrun : x.run state = .ok (a, state')) (h : Emitted around q state' state'' p) :
    Emitted around q state state'' p := by
  have hquiet := hx.queued hrun
  exact ⟨(hx.advances hrun).trans h.advances, (hx.tables hrun).trans h.tables, hquiet ▸ h.queued,
    h.covered, h.planned⟩

theorem within (h : Emitted [] q state state' p) (keys : List ConditionKey) :
    Emitted keys q state state' p :=
  ⟨h.advances, h.tables, h.queued, fun m hm => (h.covered m hm).within, h.planned⟩

theorem autoJoin {scope : ScopeId} {joined : Occurrence}
    (h : Emitted [⟨scope, joined.qualifier⟩] q state state' p) :
    Emitted [] q state state' [.autoJoin scope joined p] where
  advances := h.advances
  tables := h.tables
  queued := h.queued
  covered := by
    intro m hm
    rw [Passage.mentions_autoJoin] at hm
    obtain ⟨inner, hinner, rfl⟩ := List.mem_map.mp hm
    have hcovered := h.covered inner hinner
    exact hcovered
  planned := fun joins hjoins j hj => (h.planned joins hjoins j hj).autoJoin

/-- The references of a passage are deferred to the join that it becomes a part of. -/
theorem deferSince {aliasName : String} (h : Emitted [] q state state' p)
    (hlive : state.resolver.Live) :
    Emitted [⟨state.resolver.current, aliasName⟩] q state
      { state' with
        resolver := state'.resolver.modifyTableUse state'.resolver.current
          (·.deferSince (state.resolver.tableUse state.resolver.current).referenced aliasName) }
      p := by
  have hlive' := h.advances.live hlive
  rw [← h.advances.current]
  refine ⟨⟨?_, h.advances.current⟩, h.tables.trans (.modifyTableUse _ _ _), h.queued, ?_,
    h.planned⟩
  · dsimp only
    rw [h.advances.current]
    exact h.advances.grows.deferSince
  · exact fun m hm => (h.covered m hm).deferSince hlive'

end Emitted

end RelMap
