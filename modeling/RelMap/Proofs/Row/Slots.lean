import RelMap.Row.Plan

/-!
# Slots and columns

The types of the columns that a field takes in its table, and of the slots that its plan reads.
Both follow the field tree, so where a plan reads columns as they are stored the two are the same.
-/

namespace RelMap

/-! ## Spans -/

namespace Span

variable {α : Type}

@[simp] theorem width_mk_add (start width : Nat) : (⟨start, start + width⟩ : Span).width = width := by
  simp [Span.width]

theorem slice_add (start a b : Nat) (items : List α) :
    (⟨start, start + (a + b)⟩ : Span).slice items =
      (⟨start, start + a⟩ : Span).slice items ++
        (⟨start + a, start + a + b⟩ : Span).slice items := by
  simp only [slice, width_mk_add, List.take_add, List.drop_drop]

theorem length_slice_le (s : Span) (items : List α) : (s.slice items).length ≤ s.width := by
  rw [slice, List.length_take]
  exact Nat.min_le_left _ _

theorem length_slice_mk_add {start width : Nat} {items : List α}
    (h : start + width ≤ items.length) :
    ((⟨start, start + width⟩ : Span).slice items).length = width := by
  have hrest : width ≤ items.length - start := by omega
  rw [slice, width_mk_add, List.length_take, List.length_drop]
  exact Nat.min_eq_left hrest

theorem slice_zero (items : List α) : (⟨0, 0 + items.length⟩ : Span).slice items = items := by
  rw [slice, width_mk_add, List.drop_zero, List.take_length]

theorem mem_of_mem_slice {s : Span} {items : List α} {a : α} (h : a ∈ s.slice items) :
    a ∈ items := by
  exact List.mem_of_mem_drop (List.mem_of_mem_take h)

end Span

/-! ## Columns of fields -/

namespace Field

mutual

def columnTypes : Field → List ScalarType
  | scalar _ typ => [typ]
  | inline _ _ fields => columnTypesOf fields
  | foreignKey _ _ key _ => [key.typ]
  | ref _ _ key => [key.typ]
  | converted _ converter => converter.columns.map (·.typ)
termination_by structural f => f

def columnTypesOf : List Field → List ScalarType
  | [] => []
  | f :: rest => f.columnTypes ++ columnTypesOf rest
termination_by structural fs => fs

end

mutual

/-- No composite behind a foreign key is part of the field. -/
def Unlinked : Field → Prop
  | foreignKey _ _ _ _ => False
  | inline _ _ fields => AllUnlinked fields
  | scalar _ _ | ref _ _ _ | converted _ _ => True
termination_by structural f => f

def AllUnlinked : List Field → Prop
  | [] => True
  | f :: rest => Unlinked f ∧ AllUnlinked rest
termination_by structural fs => fs

end

theorem map_typ_convertedColumns (e : Enclosing) (naming : NamingStrategy) (info : FieldInfo)
    (index : Nat) (columns : List ConvertedColumn) :
    (e.convertedColumns naming info index columns).map (·.typ) = columns.map (·.typ) := by
  induction columns generalizing index with
  | nil => rfl
  | cons c rest ih =>
    rw [Enclosing.convertedColumns, List.map_cons, ih]
    rfl

mutual

theorem map_typ_columns (naming : NamingStrategy) (e : Enclosing) (f : Field) :
    (f.columns naming e).map (·.typ) = f.columnTypes := by
  cases f with
  | scalar | foreignKey | ref => rfl
  | inline info target fields => exact map_typ_columnsOf naming (e.enter info) fields
  | converted info converter => exact map_typ_convertedColumns e naming info 0 converter.columns
termination_by structural f

theorem map_typ_columnsOf (naming : NamingStrategy) (e : Enclosing) (fields : List Field) :
    (columnsOf naming e fields).map (·.typ) = columnTypesOf fields := by
  cases fields with
  | nil => rfl
  | cons f rest =>
    rw [columnsOf, columnTypesOf, List.map_append, map_typ_columns naming e f,
      map_typ_columnsOf naming e rest]
termination_by structural fields

end

mutual

theorem length_columnTypes (f : Field) : f.columnTypes.length = f.width := by
  cases f with
  | scalar | foreignKey | ref => rfl
  | inline info target fields => exact length_columnTypesOf fields
  | converted info converter => simp [columnTypes, width]
termination_by structural f

theorem length_columnTypesOf (fields : List Field) :
    (columnTypesOf fields).length = widths fields := by
  cases fields with
  | nil => rfl
  | cons f rest =>
    rw [columnTypesOf, widths, List.length_append, length_columnTypes f,
      length_columnTypesOf rest]
termination_by structural fields

end

theorem length_columns (naming : NamingStrategy) (e : Enclosing) (f : Field) :
    (f.columns naming e).length = f.width := by
  rw [← length_columnTypes, ← map_typ_columns naming e f, List.length_map]

theorem length_columnsOf (naming : NamingStrategy) (e : Enclosing) (fields : List Field) :
    (columnsOf naming e fields).length = widths fields := by
  rw [← length_columnTypesOf, ← map_typ_columnsOf naming e fields, List.length_map]

theorem map_typ_slice_columnsOf (naming : NamingStrategy) (e : Enclosing) (fields : List Field) :
    ((⟨0, 0 + widths fields⟩ : Span).slice (columnsOf naming e fields)).map (·.typ) =
      columnTypesOf fields := by
  rw [← length_columnsOf naming e, Span.slice_zero, map_typ_columnsOf]

theorem slice_of_mem_spansFrom {naming : NamingStrategy} {e : Enclosing} {fields : List Field}
    {f : Field} {span : Span} (front : List Column)
    (h : (f, span) ∈ spansFrom front.length fields) :
    span.slice (front ++ columnsOf naming e fields) = f.columns naming e := by
  induction fields generalizing front with
  | nil => cases h
  | cons g rest ih =>
    rw [spansFrom, List.mem_cons] at h
    rcases h with h | h
    · cases h
      rw [Span.slice, Span.width_mk_add, List.drop_left, columnsOf,
        ← length_columns naming e f, List.take_left]
    · rw [columnsOf, ← List.append_assoc]
      apply ih
      rw [List.length_append, length_columns]
      exact h

theorem find?_spansFrom (p : Field → Bool) (start : Nat) (fields : List Field) :
    ((spansFrom start fields).find? fun x => p x.1).map (·.1) = fields.find? p := by
  induction fields generalizing start with
  | nil => rfl
  | cons f rest ih =>
    rw [spansFrom, List.find?_cons, List.find?_cons]
    cases p f with
    | true => rfl
    | false => exact ih _

end Field

namespace Entity

variable {naming : NamingStrategy} {e : Entity}

theorem mem_columns_of_mem_keyColumns {c : Column} (h : c ∈ e.keyColumns naming) :
    c ∈ e.columns naming :=
  Span.mem_of_mem_slice h

theorem keyColumns_of_keyField? {key : Field} (h : e.keyField? = some key) :
    e.keyColumns naming = key.columns naming {} := by
  have hfind := Field.find?_spansFrom (·.info.primaryKey) 0 e.fields
  rw [show e.fields.find? (·.info.primaryKey) = some key from h, Option.map_eq_some_iff] at hfind
  obtain ⟨⟨f, span⟩, hfind, rfl⟩ := hfind
  have hspans : e.spans.find? (·.1.info.primaryKey) = some (f, span) := hfind
  rw [keyColumns, keySpan, hspans]
  exact Field.slice_of_mem_spansFrom [] (List.mem_of_find?_eq_some hfind)

theorem keyColumns_eq_nil (h : e.keyField? = none) : e.keyColumns naming = [] := by
  have hfind := Field.find?_spansFrom (·.info.primaryKey) 0 e.fields
  rw [show e.fields.find? (·.info.primaryKey) = none from h, Option.map_eq_none_iff] at hfind
  rw [keyColumns, keySpan, show e.spans.find? (·.1.info.primaryKey) = none from hfind]
  rfl

end Entity

theorem Schema.keyColumns_eq (s : Schema) (e : Entity) :
    s.keyColumns e = if e.keyColumns s.naming = [] then .error (.missingPrimaryKey e.name)
      else .ok (e.keyColumns s.naming) := by
  unfold keyColumns
  change (.ok (e.keyColumns s.naming) : Except SchemaError _) >>= _ = _
  cases e.keyColumns s.naming <;> rfl

theorem Schema.keyColumns_ok {s : Schema} {e : Entity} {columns : List Column}
    (h : s.keyColumns e = .ok columns) :
    columns = e.keyColumns s.naming ∧ ∃ key, e.keyField? = some key := by
  rw [keyColumns_eq] at h
  cases hkey : e.keyField? with
  | none =>
    rw [Entity.keyColumns_eq_nil hkey] at h
    cases h
  | some key =>
    split at h
    · cases h
    · cases h
      exact ⟨rfl, key, rfl⟩

theorem Schema.keyColumns_ne_nil {s : Schema} {e : Entity} {columns : List Column}
    (h : s.keyColumns e = .ok columns) : columns ≠ [] := by
  rw [keyColumns_eq] at h
  split at h
  · cases h
  · next hne =>
    cases h
    exact hne

/-! ## Slots of plans -/

/-- The fields of an inline composite are planned in full only if the composite is. -/
theorem SelectMode.eq_full_of_inner {mode : SelectMode}
    (h : (if mode = .pk then SelectMode.nested else mode) = .full) : mode = .full := by
  split at h
  · cases h
  · exact h

namespace FieldPlan

mutual

def slotTypes : FieldPlan → List ScalarType
  | scalar _ typ _ => [typ]
  | converted _ converter _ => converter.columns.map (·.typ)
  | composite _ _ fields _ => slotTypesOf fields
  | ref _ _ key _ => key
termination_by structural p => p

def slotTypesOf : List FieldPlan → List ScalarType
  | [] => []
  | p :: rest => p.slotTypes ++ slotTypesOf rest
termination_by structural ps => ps

end

mutual

theorem length_slotTypes (p : FieldPlan) : p.slotTypes.length = p.width := by
  cases p with
  | scalar | ref => rfl
  | composite name entity fields nullable => exact length_slotTypesOf fields
  | converted name converter nullable => simp [slotTypes, width]
termination_by structural p

theorem length_slotTypesOf (plans : List FieldPlan) :
    (slotTypesOf plans).length = widths plans := by
  cases plans with
  | nil => rfl
  | cons p rest =>
    rw [slotTypesOf, widths, List.length_append, length_slotTypes p, length_slotTypesOf rest]
termination_by structural plans

end

mutual

/-- Where no linked composite is expanded, the slots of a field are its columns. -/
theorem slotTypes_ofField {mode : SelectMode} {f : Field} (h : mode = .full → f.Unlinked) :
    (ofField mode f).slotTypes = f.columnTypes := by
  cases f with
  | scalar | ref | converted => rfl
  | inline info target fields =>
    exact slotTypesOf_ofFields fun hfull => h (SelectMode.eq_full_of_inner hfull)
  | foreignKey info target key fields =>
    rw [ofField, if_neg h]
    rfl
termination_by structural f

theorem slotTypesOf_ofFields {mode : SelectMode} {fields : List Field}
    (h : mode = .full → Field.AllUnlinked fields) :
    slotTypesOf (ofFields mode fields) = Field.columnTypesOf fields := by
  cases fields with
  | nil => rfl
  | cons f rest =>
    rw [ofFields, slotTypesOf, Field.columnTypesOf, slotTypes_ofField fun hmode => (h hmode).1,
      slotTypesOf_ofFields fun hmode => (h hmode).2]
termination_by structural fields

end

theorem width_ofField {mode : SelectMode} {f : Field} (h : mode = .full → f.Unlinked) :
    (ofField mode f).width = f.width := by
  rw [← length_slotTypes, slotTypes_ofField h, Field.length_columnTypes]

end FieldPlan

namespace RowPlan

def slotTypes (p : RowPlan) : List ScalarType := FieldPlan.slotTypesOf p.fields

theorem length_slotTypes (p : RowPlan) : p.slotTypes.length = p.width :=
  FieldPlan.length_slotTypesOf p.fields

end RowPlan

end RelMap
