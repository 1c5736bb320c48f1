import RelMap.Proofs.Scope.Visibility
import RelMap.Proofs.Statement.Clauses
import RelMap.Proofs.Statement.NamedColumns

/-!
# What references record

A select list, a column reference or an object condition marks occurrences that it names a column
of, and only in scopes that its look-up may consult. It adds no dependencies.
-/

namespace RelMap

open Compiling

/-- All the scopes that a look-up consults are near. -/
def Resolver.LooksWithin (r : Resolver) (filter : ScopeFilter) (near : ScopeId → Prop) : Prop :=
  ∀ scope ∈ r.visibleScopes filter, near scope

theorem Resolver.LooksWithin.sameTree {r r' : Resolver} {filter : ScopeFilter}
    {near : ScopeId → Prop} (h : r.LooksWithin filter near) (hsame : r.SameTree r') :
    r'.LooksWithin filter near := by
  intro scope hscope
  rw [hsame.visibleScopes] at hscope
  exact h scope hscope

/-- What is recorded are references to the mentioned occurrences, all in scopes that are near. -/
structure Refers (near : ScopeId → Prop) (ms : List Mention) (state state' : CompileState) :
    Prop where
  tree : state.resolver.SameTree state'.resolver
  referenced : ∀ scope, ∀ a ∈ (state'.resolver.tableUse scope).referenced,
    a ∈ (state.resolver.tableUse scope).referenced ∨ ∃ m ∈ ms, m.key = ⟨scope, a⟩
  dependencies : ∀ scope, (state'.resolver.tableUse scope).dependencies =
    (state.resolver.tableUse scope).dependencies
  apart : ∀ scope, ¬ near scope → state'.resolver.tableUse scope = state.resolver.tableUse scope

namespace Refers

variable {near : ScopeId → Prop} {ms ms' : List Mention} {state state' state'' : CompileState}

theorem of_resolver (h : state'.resolver = state.resolver) : Refers near [] state state' where
  tree := by
    rw [h]
    exact ⟨rfl, rfl⟩
  referenced := fun scope a ha => .inl (h ▸ ha)
  dependencies := fun scope => by rw [h]
  apart := fun scope _ => by rw [h]

theorem of_quiet {α : Type} {x : Compiling α} (hx : Quiet x) {a : α}
    (h : x.run state = .ok (a, state')) : Refers near [] state state' :=
  of_resolver (hx state a state' h).1

theorem append (h : Refers near ms state state') (h' : Refers near ms' state' state'') :
    Refers near (ms ++ ms') state state'' where
  tree := ⟨h'.tree.current.trans h.tree.current, h'.tree.links.trans h.tree.links⟩
  referenced := by
    intro scope a ha
    rcases h'.referenced scope a ha with ha | ⟨m, hm, hkey⟩
    · rcases h.referenced scope a ha with ha | ⟨m, hm, hkey⟩
      · exact .inl ha
      · exact .inr ⟨m, List.mem_append_left _ hm, hkey⟩
    · exact .inr ⟨m, List.mem_append_right _ hm, hkey⟩
  dependencies := fun scope => (h'.dependencies scope).trans (h.dependencies scope)
  apart := fun scope hscope => (h'.apart scope hscope).trans (h.apart scope hscope)

theorem mono (h : Refers near ms state state') (hms : ms ⊆ ms') : Refers near ms' state state' :=
  { h with referenced := fun scope a ha =>
      (h.referenced scope a ha).imp_right fun ⟨m, hm, hkey⟩ => ⟨m, hms hm, hkey⟩ }

theorem quiet_after {α : Type} {x : Compiling α} (h : Refers near ms state state') (hx : Quiet x)
    {a : α} (hrun : x.run state' = .ok (a, state'')) : Refers near ms state state'' := by
  have happend := h.append (of_quiet hx hrun)
  rw [List.append_nil] at happend
  exact happend

theorem useAlias {r : Resolver} {m : Mention} {filter : ScopeFilter}
    (hlooks : state.resolver.LooksWithin filter near)
    (h : (Resolver.useAlias m.occurrence.entity m.occurrence.aliasName filter).run.run
      state.resolver = (.ok m.recorded, r)) :
    Refers near [m] state { state with resolver := r } := by
  obtain ⟨hfind, rfl⟩ := Resolver.useAlias_ok h
  have hlt := Resolver.lt_length_of_owns (List.find?_some hfind)
  have huse := Resolver.tableUse_modifyTableUse (g := (·.mark m.occurrence.qualifier)) hlt
  have hsame := Resolver.SameTables.modifyTableUse state.resolver m.recorded
    (·.mark m.occurrence.qualifier)
  refine ⟨hsame.sameTree rfl, ?_, ?_, ?_⟩
  · intro scope a ha
    by_cases hscope : m.recorded = scope
    · subst hscope
      rcases TableUse.mem_referenced_mark.mp (huse ▸ ha) with ha | rfl
      · exact .inl ha
      · exact .inr ⟨m, .head _, rfl⟩
    · left
      rw [← Resolver.tableUse_modifyTableUse_of_ne hscope]
      exact ha
  · intro scope
    by_cases hscope : m.recorded = scope
    · subst hscope
      exact (congrArg TableUse.dependencies huse).trans TableUse.dependencies_mark
    · exact congrArg TableUse.dependencies (Resolver.tableUse_modifyTableUse_of_ne hscope)
  · intro scope hfar
    apply Resolver.tableUse_modifyTableUse_of_ne
    rintro rfl
    exact hfar (hlooks _ (List.mem_of_find?_eq_some hfind))

end Refers

variable {s : Schema} {near : ScopeId → Prop} {state state' : CompileState}

theorem Compiling.mention_refers {found : ScopeId × Occurrence} {filter : ScopeFilter} {m : Mention}
    (hlooks : state.resolver.LooksWithin filter near)
    (h : (mention found filter).run state = .ok (m, state')) : Refers near [m] state state' := by
  obtain ⟨-, hoccurrence, huse, hstate⟩ := mention_ok h
  rw [← hoccurrence] at huse
  rw [hstate]
  exact .useAlias hlooks huse

theorem Compiling.resolveColumn_refers {c : ColumnRef} {binding : ColumnBinding}
    (hlooks : state.resolver.LooksWithin c.scope near)
    (h : (resolveColumn s c).run state = .ok (binding, state')) :
    Refers near [binding.mention] state state' := by
  obtain ⟨r, hresolved, rfl⟩ := onResolver_ok h
  obtain ⟨span, hresolves⟩ := Resolver.resolves_of_ok hresolved
  exact .useAlias hlooks hresolves.used

/-! ## Conditions -/

def ConditionTarget.scope : ConditionTarget → ScopeFilter
  | .column c => c.scope
  | .entity t => t.scope

theorem Condition.comparison_refers {target : ConditionTarget} {operands : List FieldValue}
    {m : Mention} {c : Condition.Comparison}
    (hlooks : state.resolver.LooksWithin target.scope near)
    (h : (Condition.comparison s target operands).run state = .ok ((m, c), state')) :
    Refers near [m] state state' := by
  unfold Condition.comparison at h
  cases target with
  | column column =>
    obtain ⟨binding, _, hbinding, h⟩ := StateT.bind_eq_ok h
    obtain ⟨field, -, h⟩ := lift_bind_ok h
    obtain ⟨values, _, hvalues, h⟩ := StateT.bind_eq_ok h
    cases h
    have hrefers := resolveColumn_refers hlooks hbinding
    exact hrefers.quiet_after (.mapM (fun _ => .lift _) operands) hvalues
  | entity t =>
    obtain ⟨e, -, h⟩ := entity_bind_ok h
    obtain ⟨found, located, hfound, h⟩ := StateT.bind_eq_ok h
    obtain ⟨-, hlocated⟩ := findBinding_ok hfound
    obtain ⟨m, _, hm, h⟩ := StateT.bind_eq_ok h
    rw [hlocated] at hm
    have hrefers := mention_refers hlooks hm
    split at h
    · cases h
    · obtain ⟨values, _, hvalues, h⟩ := StateT.bind_eq_ok h
      obtain ⟨columns, -, h⟩ := lift_bind_ok h
      cases h
      exact hrefers.quiet_after (.mapM (fun _ => .lift _) operands) hvalues

theorem Condition.objectPredicate_refers {target : ConditionTarget} {operator : Operator}
    {operands : List FieldValue} {m : Mention} {predicate : Predicate}
    (hlooks : state.resolver.LooksWithin target.scope near)
    (h : (Condition.objectPredicate s target operator operands).run state =
      .ok ((m, predicate), state')) : Refers near [m] state state' := by
  obtain ⟨c, hcomparison, -⟩ := objectPredicate_ok h
  exact comparison_refers hlooks hcomparison

/-! ## Select lists -/

namespace Select

mutual

theorem fullField_refers (hcolumned : s.Columned) {host : Host} {inlinePath : String} {start : Nat}
    {listed : List ListedColumn} {state state' : CompileState} (f : Field)
    (hcoherent : f.Coherent s) (hlooks : state.resolver.LooksWithin .cascade near)
    (h : (fullField s.naming host inlinePath start f).run state = .ok (listed, state')) :
    Refers near (listed.map ListedColumn.mention) state state' := by
  cases f with
  | scalar info typ | ref info target key | converted info converter =>
    cases h
    exact (Refers.of_resolver rfl).mono (List.nil_subset _)
  | inline info target fields => exact fullFields_refers hcolumned fields hcoherent.2 hlooks h
  | foreignKey info target key fields =>
    obtain ⟨found, m, marked, -, hm, hfields⟩ := fullField_foreignKey_ok h
    have hmarked := mention_refers hlooks hm
    have hown : m ∈ listed.map ListedColumn.mention :=
      mention_mem_of_fullFields hcolumned fields hcoherent.2 (hcolumned.width_pos hcoherent.1)
        (hcolumned.anyOwn hcoherent.1) (by rw [Field.length_columnsOf, Nat.zero_add]) hfields
    have hrest := fullFields_refers hcolumned fields hcoherent.2 (hlooks.sameTree hmarked.tree)
      hfields
    exact (hmarked.append hrest).mono (List.cons_subset.mpr ⟨hown, List.Subset.refl _⟩)
termination_by structural f

theorem fullFields_refers (hcolumned : s.Columned) {host : Host} {inlinePath : String} {start : Nat}
    {listed : List ListedColumn} {state state' : CompileState} (fields : List Field)
    (hcoherent : Field.AllCoherent s fields) (hlooks : state.resolver.LooksWithin .cascade near)
    (h : (fullFields s.naming host inlinePath start fields).run state = .ok (listed, state')) :
    Refers near (listed.map ListedColumn.mention) state state' := by
  cases fields with
  | nil =>
    cases h
    exact .of_resolver rfl
  | cons f rest =>
    rw [fullFields] at h
    obtain ⟨first, between, hfirst, h⟩ := StateT.bind_eq_ok h
    obtain ⟨others, _, hothers, h⟩ := StateT.bind_eq_ok h
    cases h
    have hrefers := fullField_refers hcolumned f hcoherent.1 hlooks hfirst
    rw [List.map_append]
    exact hrefers.append
      (fullFields_refers hcolumned rest hcoherent.2 (hlooks.sameTree hrefers.tree) hothers)
termination_by structural fields

end

theorem list_refers {spec : SchemaSpec} (hs : spec.toSchema = .ok s) (hcolumned : s.Columned)
    {entity : EntityName} {mode : SelectMode} {path : Option String} {listed : List ListedColumn}
    (hlooks : state.resolver.LooksWithin .cascade near)
    (h : (list s entity mode path).run state = .ok (listed, state')) :
    Refers near (listed.map ListedColumn.mention) state state' := by
  obtain ⟨found, e, -, he, h⟩ := list_ok h
  unfold columns at h
  obtain ⟨m, marked, hm, h⟩ := StateT.bind_eq_ok h
  have hmarked := mention_refers hlooks hm
  have hwidths := hcolumned.width_pos he
  have hcoherent := Schema.allCoherent_of_entity? hs he
  have hown {columns : List Column} {path : String} (hcolumns : columns ≠ []) :
      Refers near (((⟨m, s.columns e, path⟩ : Host).list columns).map ListedColumn.mention) state
        marked :=
    hmarked.mono (List.cons_subset.mpr ⟨Host.mention_mem_list hcolumns, List.nil_subset _⟩)
  cases mode with
  | pk =>
    obtain ⟨keyColumns, hkeyColumns, h⟩ := lift_bind_ok (x := s.keyColumns e) h
    cases h
    exact hown (Schema.keyColumns_ne_nil hkeyColumns)
  | nested =>
    cases h
    exact hown (hcolumned.columns_ne_nil he)
  | full =>
    have hhost := mention_mem_of_fullFields hcolumned e.fields hcoherent hwidths
      (hcolumned.anyOwn he) (s.widths_le_columns e) h
    have hrest := fullFields_refers hcolumned e.fields hcoherent (hlooks.sameTree hmarked.tree) h
    exact (hmarked.append hrest).mono (List.cons_subset.mpr ⟨hhost, List.Subset.refl _⟩)

end Select

end RelMap
