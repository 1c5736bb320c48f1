import RelMap.Proofs.Schema.Expansion
import RelMap.Proofs.Scope.Lookup
import RelMap.Statement.Compilation

/-!
# Operations of a compilation

What each operation on the state of a compilation has done when it succeeds.
-/

namespace RelMap.Compiling

variable {α β ε : Type} {state state' : CompileState}

theorem lift_bind_ok {x : Except ε α} {cause : ε → Error} {f : α → Compiling β} {b : β}
    (h : ((StateT.lift (x.mapError cause) : Compiling α) >>= f).run state = .ok (b, state')) :
    ∃ a, x = .ok a ∧ (f a).run state = .ok (b, state') := by
  obtain ⟨a, hx, h⟩ := StateT.lift_bind_eq_ok h
  exact ⟨a, Except.mapError_eq_ok hx, h⟩

theorem lift_bind_of_ok {x : Except ε α} {cause : ε → Error}
    {f : α → Compiling β} {a : α} (h : x = .ok a) :
    ((StateT.lift (x.mapError cause) : Compiling α) >>= f).run state = (f a).run state := by
  rw [h]
  rfl

theorem entity_bind_ok {s : Schema} {name : EntityName} {f : Entity → Compiling β} {b : β}
    (h : ((liftM (s.entity name) : Compiling Entity) >>= f).run state = .ok (b, state')) :
    ∃ e, s.entity? name = some e ∧ (f e).run state = .ok (b, state') := by
  obtain ⟨e, he, h⟩ := lift_bind_ok (x := s.entity name) h
  exact ⟨e, Schema.entity?_of_entity he, h⟩

theorem onResolver_ok {x : Resolving Error α} {a : α}
    (h : (onResolver x).run state = .ok (a, state')) :
    ∃ r, x.run.run state.resolver = (.ok a, r) ∧ state' = { state with resolver := r } := by
  have hstep : onResolver x state = .ok (a, state') := h
  unfold onResolver at hstep
  split at hstep
  · next hx =>
    cases hstep
    exact ⟨_, hx, rfl⟩
  · cases hstep

theorem run_onResolver {x : Resolving Error α} {a : α} {r : Resolver}
    (h : x.run.run state.resolver = (.ok a, r)) :
    (onResolver x).run state = .ok (a, { state with resolver := r }) := by
  change onResolver x state = _
  unfold onResolver
  rw [h]

theorem resolving_ok {x : Resolving AliasError α} {a : α}
    (h : (resolving x).run state = .ok (a, state')) :
    ∃ r, x.run.run state.resolver = (.ok a, r) ∧ state' = { state with resolver := r } := by
  obtain ⟨r, hx, hstate⟩ := onResolver_ok h
  exact ⟨r, ExceptT.adapt_eq_ok hx, hstate⟩

theorem run_resolving {x : Resolving AliasError α} {a : α} {r : Resolver}
    (h : x.run.run state.resolver = (.ok a, r)) :
    (resolving x).run state = .ok (a, { state with resolver := r }) :=
  run_onResolver (ExceptT.run_adapt_of_ok h)

theorem findBinding_ok {entity : EntityName} {path : Option String} {filter : ScopeFilter}
    {found : ScopeId × Occurrence}
    (h : (findBinding entity path filter).run state = .ok (found, state')) :
    state.resolver.findBinding entity path filter = .ok found ∧ state' = state := by
  unfold findBinding at h
  obtain ⟨_, _, h0, h⟩ := StateT.bind_eq_ok h
  cases h0
  obtain ⟨hfound, hstate⟩ := StateT.lift_eq_ok h
  exact ⟨Except.mapError_eq_ok hfound, hstate⟩

theorem run_findBinding {entity : EntityName} {path : Option String} {filter : ScopeFilter}
    {found : ScopeId × Occurrence}
    (h : state.resolver.findBinding entity path filter = .ok found) :
    (findBinding entity path filter).run state = .ok (found, state) := by
  have hget : (get : Compiling CompileState).run state = .ok (state, state) := rfl
  unfold findBinding
  rw [StateT.run_bind_of_ok hget, h]
  rfl

/-- A mention is of the occurrence that was found, and recorded where its alias is owned. -/
theorem mention_ok {found : ScopeId × Occurrence} {filter : ScopeFilter} {m : Mention}
    (h : (mention found filter).run state = .ok (m, state')) :
    m.owner = found.1 ∧ m.occurrence = found.2 ∧
      (Resolver.useAlias found.2.entity found.2.aliasName filter).run.run state.resolver =
        (.ok m.recorded, state'.resolver) ∧
      state' = { state with resolver := state'.resolver } := by
  unfold mention at h
  obtain ⟨recorded, between, huse, h⟩ := StateT.bind_eq_ok h
  cases h
  obtain ⟨r, hr, rfl⟩ := resolving_ok huse
  exact ⟨rfl, rfl, hr, rfl⟩

theorem run_mention {found : ScopeId × Occurrence} {filter : ScopeFilter} {recorded : ScopeId}
    {r : Resolver}
    (h : (Resolver.useAlias found.2.entity found.2.aliasName filter).run.run state.resolver =
      (.ok recorded, r)) :
    (mention found filter).run state =
      .ok (⟨found.1, found.2, recorded⟩, { state with resolver := r }) := by
  have huse : (useAlias found.2.entity found.2.aliasName filter).run state =
      .ok (recorded, { state with resolver := r }) := run_resolving h
  unfold mention
  rw [StateT.run_bind_of_ok huse]
  rfl

end RelMap.Compiling
