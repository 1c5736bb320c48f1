import RelMap.Proofs.Steps
import RelMap.Scope.ColumnBinding

/-!
# Look-ups

What a look-up that succeeds has found, and where using an alias leaves its mark.
-/

namespace RelMap.Resolver

variable {r r' : Resolver}

theorem isAt_iff {entity : EntityName} {path : Option String} {o : Occurrence} :
    isAt entity path o = true ↔ o.entity.name = entity ∧ ∀ p ∈ path, p = o.path := by
  cases path <;> simp [isAt]

theorem bindingIn_ok {entity : EntityName} {path : Option String} {scopes : List ScopeId}
    {scope : ScopeId} {o : Occurrence} (h : r.bindingIn entity path scopes = .ok (scope, o)) :
    scope ∈ scopes ∧ (r.occurrences scope).filter (isAt entity path) = [o] := by
  induction scopes with
  | nil => cases h
  | cons first rest ih =>
    rw [bindingIn] at h
    split at h
    · obtain ⟨hmem, hfilter⟩ := ih h
      exact ⟨.tail _ hmem, hfilter⟩
    · next hfilter =>
      cases h
      exact ⟨.head _, hfilter⟩
    · cases h

theorem bindingIn_append {entity : EntityName} {path : Option String} {scopes rest : List ScopeId}
    (h : ∀ scope ∈ scopes, (r.occurrences scope).filter (isAt entity path) = []) :
    r.bindingIn entity path (scopes ++ rest) = r.bindingIn entity path rest := by
  induction scopes with
  | nil => rfl
  | cons first scopes ih =>
    rw [List.cons_append, bindingIn, h first (.head _)]
    exact ih fun scope hscope => h scope (.tail _ hscope)

theorem findBinding_ok {entity : EntityName} {path : Option String} {filter : ScopeFilter}
    {found : ScopeId × Occurrence} (h : r.findBinding entity path filter = .ok found) :
    found.1 ∈ r.visibleScopes filter ∧ found.2 ∈ r.occurrences found.1 ∧
      isAt entity path found.2 = true := by
  obtain ⟨hmem, hfilter⟩ := bindingIn_ok h
  have ho : found.2 ∈ (r.occurrences found.1).filter (isAt entity path) := by
    rw [hfilter]
    exact .head _
  rw [List.mem_filter] at ho
  exact ⟨hmem, ho.1, ho.2⟩

theorem run_useAlias (r : Resolver) (entity : EntityInfo) (aliasName : String)
    (filter : ScopeFilter) :
    (useAlias entity aliasName filter).run.run r =
      match (r.visibleScopes filter).find? (r.owns entity aliasName) with
      | some scope =>
        (.ok scope, r.modifyTableUse scope (·.mark (entity.qualifier aliasName)))
      | none => (.error (.unknownAlias entity.name aliasName), r) := by
  have hget : (get : Resolving AliasError Resolver).run.run r = (.ok r, r) := rfl
  unfold useAlias
  rw [ExceptT.run_bind_of_ok hget]
  cases (r.visibleScopes filter).find? (r.owns entity aliasName) <;> rfl

theorem useAlias_ok {entity : EntityInfo} {aliasName : String} {filter : ScopeFilter}
    {scope : ScopeId} (h : (useAlias entity aliasName filter).run.run r = (.ok scope, r')) :
    (r.visibleScopes filter).find? (r.owns entity aliasName) = some scope ∧
      r' = r.modifyTableUse scope (·.mark (entity.qualifier aliasName)) := by
  rw [run_useAlias] at h
  split at h
  · next hfind =>
    cases h
    exact ⟨hfind, rfl⟩
  · cases h

theorem useAlias_error {entity : EntityInfo} {aliasName : String} {filter : ScopeFilter}
    {error : AliasError} (h : (useAlias entity aliasName filter).run.run r = (.error error, r')) :
    error = .unknownAlias entity.name aliasName ∧ r' = r := by
  rw [run_useAlias] at h
  split at h
  · cases h
  · cases h
    exact ⟨rfl, rfl⟩

/-! ## Column references -/

variable {s : Schema} {c : ColumnRef}

/-- The resolver is read first, then everything is checked, and the mark is set last. -/
theorem run_resolveColumn (r : Resolver) (s : Schema) (c : ColumnRef) :
    (resolveColumn s c).run.run r = (do
      let ((owner, o), fieldPath) ← ExceptT.mk (pure (r.columnHost s c))
      let table ← ExceptT.mk (pure ((s.entity o.entity.name).mapError .schema))
      let span ← ExceptT.mk (pure ((table.fieldSpan fieldPath).mapError .schema))
      let scope ← (useAlias o.entity o.aliasName c.scope).adapt Error.aliasing
      return ⟨⟨owner, o, scope⟩, table, fieldPath, span.slice (s.columns table)⟩ :
        Resolving Error ColumnBinding).run.run r :=
  rfl

/-- A column reference has been resolved to the columns of a span. -/
structure Resolves (r : Resolver) (s : Schema) (c : ColumnRef) (b : ColumnBinding) (span : Span)
    (r' : Resolver) : Prop where
  host : r.columnHost s c = .ok ((b.mention.owner, b.mention.occurrence), b.fieldPath)
  table : s.entity b.mention.occurrence.entity.name = .ok b.table
  fieldSpan : b.table.fieldSpan b.fieldPath = .ok span
  columns : b.columns = span.slice (s.columns b.table)
  used : (useAlias b.mention.occurrence.entity b.mention.occurrence.aliasName c.scope).run.run r =
    (.ok b.mention.recorded, r')

theorem resolves_of_ok {b : ColumnBinding} (h : (resolveColumn s c).run.run r = (.ok b, r')) :
    ∃ span, r.Resolves s c b span r' := by
  rw [run_resolveColumn] at h
  obtain ⟨⟨⟨owner, o⟩, fieldPath⟩, hhost, h⟩ := ExceptT.check_bind_eq_ok h
  obtain ⟨table, htable, h⟩ := ExceptT.check_bind_eq_ok h
  obtain ⟨span, hspan, h⟩ := ExceptT.check_bind_eq_ok h
  obtain ⟨scope, _, huse, h⟩ := ExceptT.bind_eq_ok h
  cases h
  exact ⟨span, hhost, Except.mapError_eq_ok htable, Except.mapError_eq_ok hspan, rfl,
    ExceptT.adapt_eq_ok huse⟩

theorem resolveColumn_error {error : Error}
    (h : (resolveColumn s c).run.run r = (.error error, r')) : r' = r := by
  rw [run_resolveColumn] at h
  rcases ExceptT.check_bind_eq_error h with ⟨-, rfl⟩ | ⟨⟨⟨owner, o⟩, fieldPath⟩, -, h⟩
  · rfl
  rcases ExceptT.check_bind_eq_error h with ⟨-, rfl⟩ | ⟨table, -, h⟩
  · rfl
  rcases ExceptT.check_bind_eq_error h with ⟨-, rfl⟩ | ⟨span, -, h⟩
  · rfl
  rcases ExceptT.bind_eq_error h with h | ⟨scope, between, -, h⟩
  · obtain ⟨_, huse, -⟩ := ExceptT.adapt_eq_error h
    exact (useAlias_error huse).2
  · cases h

end RelMap.Resolver
