import RelMap.Proofs.Statement.Emitted
import RelMap.Statement.Emission

/-!
# What clauses mark

Select lists, columns and conditions mark the occurrences that they mention. Clauses of
modifications mention none, since their columns are not qualified.
-/

namespace RelMap

open Compiling

/-! ## Select lists -/

namespace Select

variable {s : Schema} {naming : NamingStrategy} {state state' : CompileState}

theorem fullField_foreignKey_ok {host : Host} {inlinePath : String} {start : Nat} {info : FieldInfo}
    {target : EntityInfo} {key : KeyColumn} {fields : List Field} {listed : List ListedColumn}
    (h : (fullField naming host inlinePath start (.foreignKey info target key fields)).run state =
      .ok (listed, state')) :
    let path := Path.join host.path (Path.join inlinePath info.name)
    ∃ found m marked, state.resolver.findBinding target.name (some path) .cascade = .ok found ∧
      (mention found .cascade).run state = .ok (m, marked) ∧
      (fullFields naming ⟨m, Field.columnsOf naming {} fields, path⟩ "" 0 fields).run marked =
        .ok (listed, state') := by
  rw [fullField] at h
  obtain ⟨found, _, hfind, hrest⟩ := StateT.bind_eq_ok h
  obtain ⟨hfound, rfl⟩ := findBinding_ok hfind
  obtain ⟨m, marked, hm, hfields⟩ := StateT.bind_eq_ok hrest
  exact ⟨found, m, marked, hfound, hm, hfields⟩

theorem list_ok {entity : EntityName} {mode : SelectMode} {path : Option String}
    {listed : List ListedColumn} (h : (list s entity mode path).run state = .ok (listed, state')) :
    ∃ found e, state.resolver.findBinding entity path .cascade = .ok found ∧
      s.entity? entity = some e ∧ (columns s e found mode).run state = .ok (listed, state') := by
  unfold list at h
  obtain ⟨found, _, hfind, hrest⟩ := StateT.bind_eq_ok h
  obtain ⟨hfound, rfl⟩ := findBinding_ok hfind
  obtain ⟨e, he, hcolumns⟩ := entity_bind_ok hrest
  exact ⟨found, e, hfound, he, hcolumns⟩

theorem Host.list_marks {host : Host} {columns : List Column}
    (hhost : host.mention.Marked state.resolver) :
    Marks ((host.list columns).map ListedColumn.mention) state state := by
  refine ⟨.of_resolver rfl, rfl, rfl, ?_⟩
  intro m hm
  obtain ⟨c, hc, rfl⟩ := List.mem_map.mp hm
  obtain ⟨column, -, rfl⟩ := List.mem_map.mp hc
  exact hhost

mutual

theorem fullField_marks {host : Host} {inlinePath : String} {start : Nat}
    {listed : List ListedColumn} {state state' : CompileState} (f : Field)
    (hhost : host.mention.Marked state.resolver)
    (h : (fullField naming host inlinePath start f).run state = .ok (listed, state')) :
    Marks (listed.map ListedColumn.mention) state state' := by
  cases f with
  | scalar info typ | ref info target key | converted info converter =>
    cases h
    exact Host.list_marks hhost
  | inline info target fields => exact fullFields_marks fields hhost h
  | foreignKey info target key fields =>
    obtain ⟨found, m, marked, -, hm, hfields⟩ := fullField_foreignKey_ok h
    have hmarks := mention_marks hm
    have hown : m.Marked marked.resolver := hmarks.marked m (.head _)
    exact hmarks.of_later (fullFields_marks fields hown hfields)
termination_by structural f

theorem fullFields_marks {host : Host} {inlinePath : String} {start : Nat}
    {listed : List ListedColumn} {state state' : CompileState} (fields : List Field)
    (hhost : host.mention.Marked state.resolver)
    (h : (fullFields naming host inlinePath start fields).run state = .ok (listed, state')) :
    Marks (listed.map ListedColumn.mention) state state' := by
  cases fields with
  | nil =>
    cases h
    exact ⟨.of_resolver rfl, rfl, rfl, fun _ hm => nomatch hm⟩
  | cons f rest =>
    rw [fullFields] at h
    obtain ⟨first, between, hfirst, h⟩ := StateT.bind_eq_ok h
    obtain ⟨others, between', hothers, h⟩ := StateT.bind_eq_ok h
    cases h
    have hmarks := fullField_marks f hhost hfirst
    have hstill := (hmarks.advances.grows.tableUse host.mention.recorded).1 hhost
    rw [List.map_append]
    exact hmarks.append (fullFields_marks rest hstill hothers)
termination_by structural fields

end

theorem columns_marks {e : Entity} {found : ScopeId × Occurrence} {mode : SelectMode}
    {listed : List ListedColumn} (h : (columns s e found mode).run state = .ok (listed, state')) :
    Marks (listed.map ListedColumn.mention) state state' := by
  unfold columns at h
  obtain ⟨m, marked, hm, h⟩ := StateT.bind_eq_ok h
  have hmarks := mention_marks hm
  have hhost : m.Marked marked.resolver := hmarks.marked m (.head _)
  apply hmarks.of_later
  cases mode with
  | pk =>
    obtain ⟨keyColumns, -, h⟩ := lift_bind_ok h
    cases h
    exact Host.list_marks hhost
  | nested =>
    cases h
    exact Host.list_marks hhost
  | full => exact fullFields_marks e.fields hhost h

theorem list_marks {entity : EntityName} {mode : SelectMode} {path : Option String}
    {listed : List ListedColumn}
    (h : (list s entity mode path).run state = .ok (listed, state')) :
    Marks (listed.map ListedColumn.mention) state state' := by
  obtain ⟨found, e, -, -, hcolumns⟩ := list_ok h
  exact columns_marks hcolumns

end Select

/-! ## Columns and conditions -/

variable {s : Schema} {state state' : CompileState}

theorem Compiling.resolveColumn_marks {c : ColumnRef} {binding : ColumnBinding}
    (h : (resolveColumn s c).run state = .ok (binding, state')) :
    Marks [binding.mention] state state' := by
  obtain ⟨r, hresolved, rfl⟩ := onResolver_ok h
  obtain ⟨span, hresolves⟩ := Resolver.resolves_of_ok hresolved
  obtain ⟨hgrows, htables, hcurrent, hmarked⟩ := Resolver.useAlias_marks hresolves.used
  refine ⟨⟨hgrows, hcurrent⟩, htables, rfl, ?_⟩
  intro m hm
  cases List.mem_singleton.mp hm
  exact hmarked

theorem Condition.comparison_marks {target : ConditionTarget} {operands : List FieldValue}
    {m : Mention} {c : Condition.Comparison}
    (h : (Condition.comparison s target operands).run state = .ok ((m, c), state')) :
    Marks [m] state state' := by
  unfold Condition.comparison at h
  cases target with
  | column column =>
    obtain ⟨binding, _, hbinding, h⟩ := StateT.bind_eq_ok h
    obtain ⟨field, -, h⟩ := lift_bind_ok h
    obtain ⟨values, _, hvalues, h⟩ := StateT.bind_eq_ok h
    cases h
    have hmarks := resolveColumn_marks hbinding
    exact hmarks.quiet_after (.mapM (fun _ => .lift _) operands) hvalues
  | entity t =>
    obtain ⟨e, -, h⟩ := entity_bind_ok h
    obtain ⟨found, _, hfound, h⟩ := StateT.bind_eq_ok h
    obtain ⟨m, _, hm, h⟩ := StateT.bind_eq_ok h
    have hmarks := mention_marks_of_found hfound hm
    split at h
    · cases h
    · obtain ⟨values, _, hvalues, h⟩ := StateT.bind_eq_ok h
      obtain ⟨columns, -, h⟩ := lift_bind_ok h
      cases h
      exact hmarks.quiet_after (.mapM (fun _ => .lift _) operands) hvalues

theorem Condition.objectPredicate_marks {target : ConditionTarget} {operator : Operator}
    {operands : List FieldValue} {m : Mention} {predicate : Predicate}
    (h : (Condition.objectPredicate s target operator operands).run state =
      .ok ((m, predicate), state')) : Marks [m] state state' := by
  unfold Condition.objectPredicate at h
  obtain ⟨_, -, h⟩ := lift_bind_ok h
  obtain ⟨⟨m', c⟩, _, hcomparison, h⟩ := StateT.bind_eq_ok h
  obtain ⟨_, -, h⟩ := lift_bind_ok h
  cases h
  exact comparison_marks hcomparison

/-! ## Modifications -/

namespace Modification

variable {format : SqlFormat}

theorem quiet_tableAt (e : Entity) (path : String) : Quiet (tableAt e path) := by
  apply (quiet_findBinding _ _ _).bind
  intro found
  exact .pure _

theorem quiet_bindRecordsOf (entity : EntityName) : Quiet (bindRecordsOf entity) := by
  intro state a state' h
  cases h
  exact ⟨rfl, rfl⟩

theorem quiet_emitInsert (entity : EntityName) : Quiet (emitInsert s format entity) := by
  apply (Quiet.lift _).bind
  intro e
  exact .pure _

theorem quiet_emitValues (clause : ValuesClause) : Quiet (emitValues s clause) := by
  cases clause with
  | records records =>
    unfold emitValues
    dsimp only
    split
    · exact .throw_bind _ _
    · apply (Quiet.mapM (fun r => .lift _) records).bind
      intro tuples
      exact .pure _
  | bindVars entity =>
    apply (quiet_bindRecordsOf entity).bind
    intro _
    apply (Quiet.lift _).bind
    intro e
    exact .pure _

theorem quiet_emitUpdate (entity : EntityName) : Quiet (emitUpdate s format entity) := by
  apply (Quiet.lift _).bind
  intro e
  apply (quiet_tableAt e "").bind
  intro table
  exact .pure _

theorem quiet_emitDelete (entity : EntityName) : Quiet (emitDelete s format entity) := by
  apply (Quiet.lift _).bind
  intro e
  apply (quiet_tableAt e "").bind
  intro table
  exact .pure _

theorem quiet_assignments (clause : SetClause) : Quiet (assignments s clause) := by
  cases clause with
  | record r =>
    apply (Quiet.lift _).bind
    intro slots
    exact .pure _
  | bindVars entity =>
    apply (quiet_bindRecordsOf entity).bind
    intro _
    apply (Quiet.lift _).bind
    intro e
    exact .pure _

theorem quiet_emitSet (clause : SetClause) : Quiet (emitSet s format clause) := by
  apply (quiet_assignments clause).bind
  intro assigned
  apply (Quiet.lift _).bind
  intro e
  dsimp only
  split
  · exact .throw _
  · exact .pure _

end Modification

end RelMap
