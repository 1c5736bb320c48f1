import RelMap.Proofs.Row.Slots
import RelMap.Proofs.Schema.Expansion
import RelMap.Proofs.Statement.Operations
import RelMap.Proofs.Statement.Passages
import RelMap.Statement.Select

/-!
# Select lists and row plans

A select list names one column per slot of the row plan of the same entity and mode, and each
column has the type that its slot is decoded with.
-/

namespace RelMap.Select

open Compiling

variable {s : Schema} {state state' : CompileState}

/-- The column belongs to the table of its occurrence. -/
def ListedColumn.Declared (s : Schema) (c : ListedColumn) : Prop :=
  ∃ table, s.entity? c.mention.occurrence.entity.name = some table ∧ c.column ∈ s.columns table

def Host.Declared (s : Schema) (host : Host) : Prop :=
  ∃ table, s.entity? host.mention.occurrence.entity.name = some table ∧
    host.columns = s.columns table

/-- The listed columns have the given types, and each is a column of its table. -/
def Lists (s : Schema) (types : List ScalarType) (listed : List ListedColumn) : Prop :=
  listed.map (·.column.typ) = types ∧ ∀ c ∈ listed, c.Declared s

theorem Lists.append {types types' : List ScalarType} {listed listed' : List ListedColumn}
    (h : Lists s types listed) (h' : Lists s types' listed') :
    Lists s (types ++ types') (listed ++ listed') := by
  refine ⟨by rw [List.map_append, h.1, h'.1], ?_⟩
  intro c hc
  rcases List.mem_append.mp hc with hc | hc
  · exact h.2 c hc
  · exact h'.2 c hc

theorem Host.Declared.lists {host : Host} (hhost : host.Declared s) {columns : List Column}
    (hsub : ∀ c ∈ columns, c ∈ host.columns) :
    Lists s (columns.map (·.typ)) (host.list columns) := by
  obtain ⟨table, htable, hcolumns⟩ := hhost
  constructor
  · rw [Host.list, List.map_map]
    rfl
  · intro c hc
    obtain ⟨column, hcolumn, rfl⟩ := List.mem_map.mp hc
    exact ⟨table, htable, hcolumns ▸ hsub column hcolumn⟩

theorem Host.Declared.lists_slice {host : Host} (hhost : host.Declared s) {span : Span}
    {types : List ScalarType} (h : (span.slice host.columns).map (·.typ) = types) :
    Lists s types (host.list (span.slice host.columns)) := by
  rw [← h]
  apply hhost.lists
  intro c hc
  exact Span.mem_of_mem_slice hc

theorem typ_slice_append {columns : List Column} {start a b : Nat} {types types' : List ScalarType}
    (ha : types.length = a) (hb : types'.length = b)
    (h : ((⟨start, start + (a + b)⟩ : Span).slice columns).map (·.typ) = types ++ types') :
    ((⟨start, start + a⟩ : Span).slice columns).map (·.typ) = types ∧
      ((⟨start + a, start + a + b⟩ : Span).slice columns).map (·.typ) = types' := by
  rw [Span.slice_add, List.map_append] at h
  have hlength := congrArg List.length h
  have hleft := Span.length_slice_le ⟨start, start + a⟩ columns
  have hright := Span.length_slice_le ⟨start + a, start + a + b⟩ columns
  rw [Span.width_mk_add] at hleft hright
  simp only [List.length_append, List.length_map] at hlength
  apply List.append_inj h
  rw [List.length_map]
  omega

mutual

/-- The types of the host's columns in the place of the field are all that matters, since inside an
inline composite the columns are named and flagged by the composites around it. -/
theorem fullField_lists {host : Host} (hhost : host.Declared s) (f : Field) (hf : f.Coherent s)
    {inlinePath : String} {start : Nat}
    (hcolumns : ((⟨start, start + f.width⟩ : Span).slice host.columns).map (·.typ) =
      f.columnTypes) {listed : List ListedColumn} {state state' : CompileState}
    (h : (fullField s.naming host inlinePath start f).run state = .ok (listed, state')) :
    Lists s (FieldPlan.ofField .full f).slotTypes listed := by
  cases f with
  | scalar info typ | ref info target key | converted info converter =>
    cases h
    exact hhost.lists_slice hcolumns
  | inline info target fields => exact fullFields_lists hhost fields hf.2 hcolumns h
  | foreignKey info target key fields =>
    rw [fullField] at h
    obtain ⟨found, between, hfound, h⟩ := StateT.bind_eq_ok h
    obtain ⟨m, between', hm, h⟩ := StateT.bind_eq_ok h
    obtain ⟨-, hoccurrence, -, -⟩ := mention_ok hm
    have hname : m.occurrence.entity.name = target.name := by
      obtain ⟨-, -, hat⟩ := Resolver.findBinding_ok (findBinding_ok hfound).1
      rw [hoccurrence, (Resolver.isAt_iff.mp hat).1]
    refine fullFields_lists ⟨⟨target, fields⟩, ?_, rfl⟩ fields hf.2 ?_ h
    · rw [hname]
      exact hf.1
    · exact Field.map_typ_slice_columnsOf s.naming {} fields
termination_by structural f

theorem fullFields_lists {host : Host} (hhost : host.Declared s) (fields : List Field)
    (hfields : Field.AllCoherent s fields) {inlinePath : String} {start : Nat}
    (hcolumns : ((⟨start, start + Field.widths fields⟩ : Span).slice host.columns).map (·.typ) =
      Field.columnTypesOf fields) {listed : List ListedColumn} {state state' : CompileState}
    (h : (fullFields s.naming host inlinePath start fields).run state = .ok (listed, state')) :
    Lists s (FieldPlan.slotTypesOf (FieldPlan.ofFields .full fields)) listed := by
  cases fields with
  | nil =>
    cases h
    exact ⟨rfl, fun c hc => nomatch hc⟩
  | cons f rest =>
    rw [fullFields] at h
    obtain ⟨first, between, hfirst, h⟩ := StateT.bind_eq_ok h
    obtain ⟨others, between', hothers, h⟩ := StateT.bind_eq_ok h
    cases h
    obtain ⟨hhead, htail⟩ := typ_slice_append (Field.length_columnTypes f)
      (Field.length_columnTypesOf rest) hcolumns
    exact (fullField_lists hhost f hfields.1 hhead hfirst).append
      (fullFields_lists hhost rest hfields.2 htail hothers)
termination_by structural fields

end

theorem columns_lists {e : Entity} {found : ScopeId × Occurrence} {mode : SelectMode}
    {listed : List ListedColumn} (he : s.entity? found.2.entity.name = some e)
    (hfields : Field.AllCoherent s e.fields)
    (h : (columns s e found mode).run state = .ok (listed, state')) :
    ∃ plan, RowPlan.ofEntity e mode = .ok plan ∧ Lists s plan.slotTypes listed := by
  unfold columns at h
  obtain ⟨m, between, hm, h⟩ := StateT.bind_eq_ok h
  obtain ⟨-, hoccurrence, -, -⟩ := mention_ok hm
  have hhost : Host.Declared s ⟨m, s.columns e, found.2.path⟩ := by
    refine ⟨e, ?_, rfl⟩
    rw [hoccurrence, he]
  cases mode with
  | pk =>
    obtain ⟨keyColumns, hkeyColumns, h⟩ := lift_bind_ok (x := s.keyColumns e) h
    cases h
    obtain ⟨rfl, key, hkey⟩ := Schema.keyColumns_ok hkeyColumns
    refine ⟨⟨e.name, [FieldPlan.ofField .pk key]⟩, ?_, ?_⟩
    · rw [RowPlan.ofEntity, hkey]
    · have hlists := hhost.lists fun c hc => Entity.mem_columns_of_mem_keyColumns hc
      rw [Entity.keyColumns_of_keyField? hkey, Field.map_typ_columns] at hlists
      rw [RowPlan.slotTypes, FieldPlan.slotTypesOf, FieldPlan.slotTypesOf, List.append_nil,
        FieldPlan.slotTypes_ofField (by simp), Entity.keyColumns_of_keyField? hkey]
      exact hlists
  | nested =>
    cases h
    refine ⟨⟨e.name, FieldPlan.ofFields .nested e.fields⟩, rfl, ?_⟩
    have hlists := hhost.lists fun c hc => hc
    rw [Schema.columns, Entity.columns, Field.map_typ_columnsOf] at hlists
    rw [RowPlan.slotTypes, FieldPlan.slotTypesOf_ofFields (by simp)]
    exact hlists
  | full =>
    refine ⟨⟨e.name, FieldPlan.ofFields .full e.fields⟩, rfl, ?_⟩
    exact fullFields_lists hhost e.fields hfields
      (Field.map_typ_slice_columnsOf s.naming {} e.fields) h

/-- A select that is written lists a column for every slot of the row plan, and the plan decodes
each slot with the type that the column is declared with. -/
theorem emit_lines_up_with_plan {spec : SchemaSpec} (hs : spec.toSchema = .ok s)
    {format : SqlFormat} {entity : EntityName} {mode : SelectMode} {path : Option String}
    {passage : Passage}
    (h : (emit s format entity mode path).run state = .ok (passage, state')) :
    ∃ e plan listed, s.entity? entity = some e ∧ RowPlan.ofEntity e mode = .ok plan ∧
      (list s entity mode path).run state = .ok (listed, state') ∧
      passage.fragment = .ofText "SELECT " ++ operandList format (listed.map ListedColumn.operand) ∧
      listed.length = plan.width ∧
      (∀ k : Nat, listed[k]?.map (·.column.typ) = plan.slotTypes[k]?) ∧
      ∀ c ∈ listed, c.Declared s := by
  unfold emit at h
  obtain ⟨listed, between, hlist, h⟩ := StateT.bind_eq_ok h
  cases h
  have hrun := hlist
  unfold list at hlist
  obtain ⟨found, before, hfound, hlist⟩ := StateT.bind_eq_ok hlist
  obtain ⟨e, he, hcolumns⟩ := entity_bind_ok hlist
  have hname : found.2.entity.name = entity := by
    obtain ⟨-, -, hat⟩ := Resolver.findBinding_ok (findBinding_ok hfound).1
    exact (Resolver.isAt_iff.mp hat).1
  obtain ⟨plan, hplan, htypes, hdeclared⟩ :=
    columns_lists (hname ▸ he) (Schema.allCoherent_of_entity? hs he) hcolumns
  refine ⟨e, plan, listed, he, hplan, hrun, Passage.fragment_referring _ _, ?_, ?_, hdeclared⟩
  · rw [← RowPlan.length_slotTypes, ← htypes, List.length_map]
  · intro k
    rw [← htypes, List.getElem?_map]

/-- A person, and the city of the home joined to it. -/
def Sample.withHomeCity : CompileState where
  resolver := {
    scopes := [⟨none, false, [⟨Sample.person.toEntityInfo, "", "_p"⟩,
      ⟨Sample.city.toEntityInfo, "home.city", "_c"⟩], {}⟩] }

theorem Sample.emit_person_lines_up : ∃ passage state',
    Sample.spec.toSchema = .ok Sample.schema ∧
    (emit Sample.schema ⟨.postgres, true⟩ "Person" .full none).run Sample.withHomeCity =
      .ok (passage, state') ∧
    ∃ e plan listed, Sample.schema.entity? "Person" = some e ∧ RowPlan.ofEntity e .full = .ok plan ∧
      (list Sample.schema "Person" .full none).run Sample.withHomeCity = .ok (listed, state') ∧
      passage.fragment = .ofText "SELECT " ++
        operandList ⟨.postgres, true⟩ (listed.map ListedColumn.operand) ∧
      listed.length = plan.width ∧
      (∀ k : Nat, listed[k]?.map (·.column.typ) = plan.slotTypes[k]?) ∧
      ∀ c ∈ listed, c.Declared Sample.schema := by
  have hrun : ∃ passage state',
      (emit Sample.schema ⟨.postgres, true⟩ "Person" .full none).run Sample.withHomeCity =
        .ok (passage, state') := ⟨_, _, rfl⟩
  obtain ⟨passage, state', h⟩ := hrun
  exact ⟨passage, state', Sample.toSchema_spec, h,
    emit_lines_up_with_plan Sample.toSchema_spec h⟩

end RelMap.Select
