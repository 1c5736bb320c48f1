import RelMap.Proofs.Schema.Layout
import RelMap.Proofs.Statement.Spelling

/-!
# Columns of what is referred to

Whatever a select list, a column reference or an object condition refers to, it names a column of
it, provided that every field takes columns and every entity has some of its own.
-/

namespace RelMap

open Compiling

/-! ## Fields with columns -/

namespace Field

mutual

/-- A full select of the entity lists columns of its own table for the field. -/
def isOwn : Field → Bool
  | .inline _ _ fields => anyOwn fields
  | .foreignKey _ _ _ _ => false
  | .scalar _ _ | .ref _ _ _ | .converted _ _ => true
termination_by structural f => f

def anyOwn : List Field → Bool
  | [] => false
  | f :: rest => f.isOwn || anyOwn rest
termination_by structural fs => fs

end

end Field

/-- Every field takes columns, and every entity has some of its own in a full select. -/
structure Schema.Columned (s : Schema) : Prop where
  widths : ∀ e ∈ s.entities, ∀ f ∈ e.fields, 0 < f.width
  own : ∀ e ∈ s.entities, Field.anyOwn e.fields = true

instance (s : Schema) : Decidable s.Columned :=
  decidable_of_iff ((∀ e ∈ s.entities, ∀ f ∈ e.fields, 0 < f.width) ∧
    ∀ e ∈ s.entities, Field.anyOwn e.fields = true)
    ⟨fun h => ⟨h.1, h.2⟩, fun h => ⟨h.widths, h.own⟩⟩

variable {s : Schema}

theorem Schema.Columned.width_pos (h : s.Columned) {entity : EntityName} {e : Entity}
    (he : s.entity? entity = some e) : ∀ f ∈ e.fields, 0 < f.width :=
  h.widths e (List.mem_of_find?_eq_some he)

theorem Schema.Columned.anyOwn (h : s.Columned) {entity : EntityName} {e : Entity}
    (he : s.entity? entity = some e) : Field.anyOwn e.fields = true :=
  h.own e (List.mem_of_find?_eq_some he)

theorem Schema.Columned.columns_ne_nil (h : s.Columned) {entity : EntityName} {e : Entity}
    (he : s.entity? entity = some e) : s.columns e ≠ [] := by
  have hown := h.anyOwn he
  have hwidths := h.width_pos he
  apply List.ne_nil_of_length_pos
  rw [columns, Entity.columns, Field.length_columnsOf]
  cases hfields : e.fields with
  | nil =>
    rw [hfields] at hown
    cases hown
  | cons f rest =>
    rw [hfields] at hwidths
    exact Nat.add_pos_left (hwidths f (.head _)) _

/-- The field that names lead to is a field of some entity. -/
theorem Field.start_lt_stop_of_spanAt? (hcolumned : s.Columned) {offset : Nat} {fields : List Field}
    {names : List String} {span : Span} (hcoherent : AllCoherent s fields)
    (hwidths : ∀ f ∈ fields, 0 < f.width) (h : spanAt? offset fields names = some span) :
    span.start < span.stop := by
  induction offset, fields, names using spanAt?.induct with
  | case1 offset fields => cases h
  | case2 offset fields name =>
    obtain ⟨⟨f, own⟩, hfind, h⟩ := Option.map_eq_some_iff.mp h
    cases h
    have hmem := List.mem_of_find?_eq_some hfind
    have hpos := hwidths f (mem_of_mem_spansFrom hmem)
    have hbounds := bounds_of_mem_spansFrom hmem
    rw [Span.shift]
    dsimp only
    omega
  | case3 offset fields name rest hrest info target inner host hfind ih =>
    rw [spanAt?, hfind] at h
    · have hmem := mem_of_mem_spansFrom (List.mem_of_find?_eq_some hfind)
      obtain ⟨hentity, hinner⟩ := allCoherent_iff.mp hcoherent _ hmem
      exact ih hinner (hcolumned.width_pos hentity) h
    · exact hrest
  | case4 offset fields name rest hrest hfind =>
    rw [spanAt?] at h
    · split at h
      · next hinline => exact absurd hinline (hfind _ _ _ _)
      · cases h
    · exact hrest

theorem Entity.slice_fieldSpan_ne_nil (hcolumned : s.Columned) {e : Entity}
    (hcoherent : Field.AllCoherent s e.fields) (hwidths : ∀ f ∈ e.fields, 0 < f.width)
    {path : String} {span : Span} (h : e.fieldSpan path = .ok span) :
    span.slice (s.columns e) ≠ [] := by
  have hspan := fieldSpan_eq_ok_iff.mp h
  have hlt := Field.start_lt_stop_of_spanAt? hcolumned hcoherent hwidths hspan
  obtain ⟨-, hle⟩ := Field.bounds_of_spanAt? hspan
  apply List.ne_nil_of_length_pos
  rw [Span.slice, List.length_take, List.length_drop, Span.width, Schema.columns, columns,
    Field.length_columnsOf]
  omega

theorem Resolver.operands_of_resolveColumn {spec : SchemaSpec} (hs : spec.toSchema = .ok s)
    (hcolumned : s.Columned) {r r' : Resolver} {c : ColumnRef} {binding : ColumnBinding}
    (h : (resolveColumn s c).run.run r = (.ok binding, r')) :
    binding.operands ≠ [] ∧ ∀ x ∈ binding.operands, x.IsOf binding.qualifier := by
  constructor
  · obtain ⟨span, hresolves⟩ := resolves_of_ok h
    have hentity := Schema.entity?_of_entity hresolves.table
    have hslice := Entity.slice_fieldSpan_ne_nil hcolumned
      (Schema.allCoherent_of_entity? hs hentity) (hcolumned.width_pos hentity) hresolves.fieldSpan
    rw [← hresolves.columns] at hslice
    exact mt List.map_eq_nil_iff.mp hslice
  · intro x hx
    obtain ⟨column, -, rfl⟩ := List.mem_map.mp hx
    exact ⟨_, rfl⟩

namespace Condition

variable {target : ConditionTarget} {operands : List FieldValue} {operator : Operator} {m : Mention}
  {p : Predicate} {state state' : CompileState}

theorem comparison_columns {spec : SchemaSpec} (hs : spec.toSchema = .ok s)
    (hcolumned : s.Columned) {c : Comparison}
    (h : (comparison s target operands).run state = .ok ((m, c), state')) :
    c.columns ≠ [] ∧ ∀ x ∈ c.columns, x.IsOf m.occurrence.qualifier := by
  unfold comparison at h
  cases target with
  | column column =>
    obtain ⟨binding, _, hbinding, h⟩ := StateT.bind_eq_ok h
    obtain ⟨field, -, h⟩ := lift_bind_ok h
    obtain ⟨values, _, -, h⟩ := StateT.bind_eq_ok h
    cases h
    obtain ⟨r, hresolved, -⟩ := onResolver_ok hbinding
    exact Resolver.operands_of_resolveColumn hs hcolumned hresolved
  | entity t =>
    obtain ⟨e, -, h⟩ := entity_bind_ok h
    obtain ⟨found, _, -, h⟩ := StateT.bind_eq_ok h
    obtain ⟨m, _, -, h⟩ := StateT.bind_eq_ok h
    split at h
    · cases h
    · obtain ⟨values, _, -, h⟩ := StateT.bind_eq_ok h
      obtain ⟨columns, hcolumns, h⟩ := lift_bind_ok (x := s.keyColumns e) h
      cases h
      refine ⟨mt List.map_eq_nil_iff.mp (Schema.keyColumns_ne_nil hcolumns), ?_⟩
      intro x hx
      obtain ⟨column, -, rfl⟩ := List.mem_map.mp hx
      exact ⟨_, rfl⟩

/-- An object condition with something to compare is about the occurrence that it mentions. -/
theorem about_objectPredicate {spec : SchemaSpec} (hs : spec.toSchema = .ok s)
    (hcolumned : s.Columned) (hcompares : Compares operator operands)
    (h : (objectPredicate s target operator operands).run state = .ok ((m, p), state')) :
    p.About m.occurrence.qualifier := by
  obtain ⟨_, harity, -⟩ := lift_bind_ok (x := checkArity operator operands.length) h
  obtain ⟨c, hcomparison, hp⟩ := objectPredicate_ok h
  obtain ⟨hne, hcolumns⟩ := comparison_columns hs hcolumned hcomparison
  obtain ⟨-, encode, hencode, -⟩ := comparison_ok hcomparison
  have hlength : operands.length = c.operands.length :=
    (Except.forall₂_of_mapM_ok hencode).length_eq
  rw [hlength] at harity
  refine about_predicate hcolumns hne harity ?_ hp
  intro hmembership hnone
  rw [hnone] at hlength
  exact hcompares hmembership (List.eq_nil_of_length_eq_zero hlength)

end Condition

/-! ## Select lists -/

namespace Select

theorem Host.mention_mem_list {host : Host} {columns : List Column} (h : columns ≠ []) :
    host.mention ∈ (host.list columns).map ListedColumn.mention := by
  obtain ⟨c, hc⟩ := List.exists_mem_of_ne_nil columns h
  exact List.mem_map_of_mem (List.mem_map_of_mem hc)

mutual

theorem mention_mem_of_fullField (hcolumned : s.Columned) {host : Host} {inlinePath : String}
    {start : Nat} {listed : List ListedColumn} {state state' : CompileState} (f : Field)
    (hcoherent : f.Coherent s) (hwidth : 0 < f.width) (hown : f.isOwn = true)
    (hcolumns : start + f.width ≤ host.columns.length)
    (h : (fullField s.naming host inlinePath start f).run state = .ok (listed, state')) :
    host.mention ∈ listed.map ListedColumn.mention := by
  cases f with
  | scalar info typ | ref info target key | converted info converter =>
    cases h
    apply Host.mention_mem_list
    apply List.ne_nil_of_length_pos
    rw [Span.length_slice_mk_add hcolumns]
    exact hwidth
  | inline info target fields =>
    exact mention_mem_of_fullFields hcolumned fields hcoherent.2 (hcolumned.width_pos hcoherent.1)
      hown hcolumns h
  | foreignKey info target key fields => cases hown
termination_by structural f

theorem mention_mem_of_fullFields (hcolumned : s.Columned) {host : Host} {inlinePath : String}
    {start : Nat} {listed : List ListedColumn} {state state' : CompileState} (fields : List Field)
    (hcoherent : Field.AllCoherent s fields) (hwidths : ∀ f ∈ fields, 0 < f.width)
    (hown : Field.anyOwn fields = true)
    (hcolumns : start + Field.widths fields ≤ host.columns.length)
    (h : (fullFields s.naming host inlinePath start fields).run state = .ok (listed, state')) :
    host.mention ∈ listed.map ListedColumn.mention := by
  cases fields with
  | nil => cases hown
  | cons f rest =>
    rw [fullFields] at h
    obtain ⟨first, between, hfirst, h⟩ := StateT.bind_eq_ok h
    obtain ⟨others, _, hothers, h⟩ := StateT.bind_eq_ok h
    cases h
    rw [Field.widths, ← Nat.add_assoc] at hcolumns
    rw [List.forall_mem_cons] at hwidths
    rw [Field.anyOwn, Bool.or_eq_true] at hown
    rw [List.map_append, List.mem_append]
    rcases hown with hown | hown
    · left
      exact mention_mem_of_fullField hcolumned f hcoherent.1 hwidths.1 hown (by omega) hfirst
    · right
      exact mention_mem_of_fullFields hcolumned rest hcoherent.2 hwidths.2 hown hcolumns hothers
termination_by structural fields

end

end Select

end RelMap
