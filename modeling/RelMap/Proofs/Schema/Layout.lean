import RelMap.Proofs.Bounds.Access
import RelMap.Proofs.Schema.Keys

/-!
# Column layout

The columns of an entity are laid out in one walk over its tree, which carries names and flags
inward and never looks at the layout of another entity. Main statement: the layout is compositional
all the same. The fields tile the columns in order of declaration, and the columns of an inline
composite at any depth are the columns of its target's own table, with their paths extended.
-/

namespace RelMap

namespace Span

variable {α : Type}

/-- The spans follow each other from `start` to `stop`, without gaps. -/
def Tile (start stop : Nat) : List Span → Prop
  | [] => start = stop
  | s :: rest => s.start = start ∧ s.start ≤ s.stop ∧ Tile s.stop stop rest

theorem slice_shift {outer inner : Span} {items : List α} (h : inner.stop ≤ outer.width) :
    (inner.shift outer.start).slice items = inner.slice (outer.slice items) := by
  have hwidth : (inner.shift outer.start).width = inner.width := by
    simp only [shift, width]
    omega
  have hle : inner.width ≤ outer.width - inner.start := by
    simp only [width] at h ⊢
    omega
  rw [slice, hwidth, slice, slice, List.drop_take, List.take_take, Nat.min_eq_left hle,
    List.drop_drop, shift, Nat.add_comm]

theorem getElem?_slice {s : Span} {k : Nat} (hk : k < s.width) (items : List α) :
    (s.slice items)[k]? = items[s.start + k]? := by
  rw [slice, List.getElem?_take_of_lt hk, List.getElem?_drop]

end Span

/-! ## Columns of composites -/

/-- `hosted` is the column `own` of a composite's target as it stands in the table of a host that
embeds the target at `path`. -/
structure Column.EmbeddedAt (path : String) (own hosted : Column) : Prop where
  typ : hosted.typ = own.typ
  foreignKey : hosted.foreignKey = own.foreignKey
  fieldPath : hosted.fieldPath = path ++ "." ++ own.fieldPath

section

variable {e e' : Enclosing} {front : List String}

theorem Enclosing.embedded_column (hfront : front ≠ []) (hpath : e'.path = front ++ e.path)
    (info : FieldInfo) (foreignKey : Bool) (name name' : String) (typ : ScalarType) :
    Column.EmbeddedAt (".".intercalate front) (e.column info foreignKey name typ)
      (e'.column info foreignKey name' typ) := by
  refine ⟨rfl, rfl, ?_⟩
  rw [Enclosing.column, Enclosing.column, hpath, List.append_assoc]
  exact String.intercalate_append_of_ne_nil hfront (List.append_ne_nil_of_right_ne_nil _ nofun)

theorem Enclosing.embedded_convertedColumns (hfront : front ≠ [])
    (hpath : e'.path = front ++ e.path) (naming : NamingStrategy) (info : FieldInfo) (index : Nat)
    (columns : List ConvertedColumn) :
    List.Forall₂ (Column.EmbeddedAt (".".intercalate front))
      (e.convertedColumns naming info index columns)
      (e'.convertedColumns naming info index columns) := by
  induction columns generalizing index with
  | nil => exact .nil
  | cons c rest ih => exact .cons (embedded_column hfront hpath info false _ _ c.typ) (ih _)

end

namespace Field

mutual

/-- What a field takes over from around it changes neither types nor links of its columns, and
their paths only in front. -/
theorem embedded_columns {e e' : Enclosing} {front : List String} (hfront : front ≠ [])
    (hpath : e'.path = front ++ e.path) (naming : NamingStrategy) (f : Field) :
    List.Forall₂ (Column.EmbeddedAt (".".intercalate front)) (f.columns naming e)
      (f.columns naming e') := by
  cases f with
  | scalar info typ => exact .cons (Enclosing.embedded_column hfront hpath info _ _ _ typ) .nil
  | foreignKey info target key fields =>
    exact .cons (Enclosing.embedded_column hfront hpath info _ _ _ key.typ) .nil
  | ref info target key =>
    exact .cons (Enclosing.embedded_column hfront hpath info _ _ _ key.typ) .nil
  | inline info target fields =>
    apply embedded_columnsOf hfront _ naming fields
    rw [Enclosing.enter, Enclosing.enter, hpath, List.append_assoc]
  | converted info converter =>
    exact Enclosing.embedded_convertedColumns hfront hpath naming info 0 converter.columns
termination_by structural f

theorem embedded_columnsOf {e e' : Enclosing} {front : List String} (hfront : front ≠ [])
    (hpath : e'.path = front ++ e.path) (naming : NamingStrategy) (fields : List Field) :
    List.Forall₂ (Column.EmbeddedAt (".".intercalate front)) (columnsOf naming e fields)
      (columnsOf naming e' fields) := by
  cases fields with
  | nil => exact .nil
  | cons f rest =>
    exact List.rel_append (embedded_columns hfront hpath naming f)
      (embedded_columnsOf hfront hpath naming rest)
termination_by structural fields

end

/-! ## Fields at any depth -/

/-- Among `fields` there is `f`, reached along `path` through inline composites, with its columns at
`span`. -/
inductive Holds : List Field → List String → Span → Field → Prop
  | here {fields : List Field} {f : Field} {span : Span} : (f, span) ∈ spansFrom 0 fields →
    Holds fields [f.name] span f
  | inside {fields inner : List Field} {info : FieldInfo} {target : EntityInfo} {host span : Span}
    {path : List String} {f : Field} : (.inline info target inner, host) ∈ spansFrom 0 fields →
    Holds inner path span f → Holds fields (info.name :: path) (span.shift host.start) f

variable {fields : List Field} {path : List String} {span : Span} {f : Field}

theorem mem_of_mem_spansFrom {start : Nat} (h : (f, span) ∈ spansFrom start fields) :
    f ∈ fields := by
  induction fields generalizing start with
  | nil => cases h
  | cons g rest ih =>
    rw [spansFrom, List.mem_cons] at h
    obtain h | h := h
    · cases h
      exact List.mem_cons_self
    · exact List.mem_cons_of_mem g (ih h)

theorem Holds.path_ne_nil (h : Holds fields path span f) : path ≠ [] := by
  cases h <;> exact List.cons_ne_nil _ _

theorem Holds.bounds (h : Holds fields path span f) :
    span.stop = span.start + f.width ∧ span.stop ≤ widths fields := by
  induction h with
  | here hmem =>
    obtain ⟨-, hstop, hle⟩ := bounds_of_mem_spansFrom hmem
    exact ⟨hstop, by omega⟩
  | inside hmem _ ih =>
    obtain ⟨-, hhost, hle⟩ := bounds_of_mem_spansFrom hmem
    obtain ⟨hstop, hinner⟩ := ih
    rw [width] at hhost
    simp only [Span.shift]
    omega

theorem Holds.width_eq (h : Holds fields path span f) : span.width = f.width := by
  have hstop := h.bounds.1
  rw [Span.width]
  omega

/-- The columns at the span of a field are those that it lays out, whatever is around it. -/
theorem Holds.slice_columnsOf (h : Holds fields path span f) (naming : NamingStrategy)
    (e : Enclosing) :
    ∃ around : Enclosing, around.path ++ [f.name] = e.path ++ path ∧
      span.slice (columnsOf naming e fields) = f.columns naming around := by
  induction h generalizing e with
  | here hmem => exact ⟨e, rfl, slice_of_mem_spansFrom [] hmem⟩
  | @inside fields inner info target host span path f hmem hinner ih =>
    obtain ⟨around, hpath, hslice⟩ := ih (e.enter info)
    have hwidth : host.width = widths inner := by
      have hstop := (bounds_of_mem_spansFrom hmem).2.1
      rw [width] at hstop
      rw [Span.width]
      omega
    have hhost : host.slice (columnsOf naming e fields) = columnsOf naming (e.enter info) inner :=
      slice_of_mem_spansFrom [] hmem
    refine ⟨around, ?_, ?_⟩
    · rw [hpath, Enclosing.enter, List.append_assoc, List.singleton_append]
    · rw [Span.slice_shift (hwidth ▸ hinner.bounds.2), hhost, hslice]

theorem Holds.coherent {s : Schema} (h : Holds fields path span f)
    (hcoherent : AllCoherent s fields) : Coherent s f := by
  induction h with
  | here hmem => exact allCoherent_iff.mp hcoherent _ (mem_of_mem_spansFrom hmem)
  | inside hmem _ ih => exact ih (allCoherent_iff.mp hcoherent _ (mem_of_mem_spansFrom hmem)).2

theorem allKeyed_iff {s : Schema} : AllKeyed s fields ↔ ∀ f ∈ fields, Keyed s f := by
  induction fields with
  | nil => simp [AllKeyed]
  | cons f rest ih => simp [AllKeyed, ih]

theorem Holds.keyed {s : Schema} (h : Holds fields path span f) (hkeyed : AllKeyed s fields) :
    Keyed s f := by
  induction h with
  | here hmem => exact allKeyed_iff.mp hkeyed _ (mem_of_mem_spansFrom hmem)
  | inside hmem _ ih => exact ih (allKeyed_iff.mp hkeyed _ (mem_of_mem_spansFrom hmem))

theorem map_fst_spansFrom (start : Nat) (fields : List Field) :
    (spansFrom start fields).map (·.1) = fields := by
  induction fields generalizing start with
  | nil => rfl
  | cons f rest ih => rw [spansFrom, List.map_cons, ih]

theorem tile_spansFrom (start : Nat) (fields : List Field) :
    Span.Tile start (start + widths fields) ((spansFrom start fields).map (·.2)) := by
  induction fields generalizing start with
  | nil => rfl
  | cons f rest ih =>
    refine ⟨rfl, Nat.le_add_right _ _, ?_⟩
    rw [widths, ← Nat.add_assoc]
    exact ih _

theorem columns_of_isForeignKey {s : Schema} {target : EntityName} (hcoherent : Coherent s f)
    (hkeyed : Keyed s f) (hlink : f.isForeignKey = true) (htarget : f.target? = some target)
    (naming : NamingStrategy) (e : Enclosing) :
    ∃ owner info typ column, s.entity? target = some owner ∧
      owner.keyField? = some (.scalar info typ) ∧ f.columns naming e = [column] ∧
      column.typ = typ ∧ column.foreignKey = true := by
  cases f with
  | scalar | inline | converted => cases hlink
  | foreignKey info link key fields =>
    cases htarget
    obtain ⟨keyInfo, hkey, -⟩ := hkeyed.1
    exact ⟨_, keyInfo, key.typ, _, hcoherent.1, hkey, rfl, rfl, rfl⟩
  | ref info link key =>
    cases htarget
    obtain ⟨owner, howner, keyInfo, hkey, -⟩ := hkeyed
    exact ⟨owner, keyInfo, key.typ, _, howner, hkey, rfl, rfl, rfl⟩

end Field

/-! ## Compositional layouts -/

/-- The columns of the entity are those of its fields in order of declaration. A field at any depth
of inline composites takes the columns that its kind says: the target's key for a link, as many as
the converter has, and for a composite the columns of its target's own table. -/
structure Entity.LaidOut (s : Schema) (e : Entity) : Prop where
  order : e.spans.map (·.1) = e.fields
  tiled : Span.Tile 0 e.columnCount (e.spans.map (·.2))
  covered : (s.columns e).length = e.columnCount
  link : ∀ path span f target, Field.Holds e.fields path span f → f.isForeignKey = true →
    f.target? = some target → span.width = 1 ∧
      ∃ owner info typ column, s.entity? target = some owner ∧
        owner.keyField? = some (.scalar info typ) ∧ (s.columns e)[span.start]? = some column ∧
        column.typ = typ ∧ column.foreignKey = true
  converted : ∀ path span info converter,
    Field.Holds e.fields path span (.converted info converter) →
      span.width = converter.columns.length
  inline : ∀ path span info target inner,
    Field.Holds e.fields path span (.inline info target inner) →
      s.entity? target.name = some ⟨target, inner⟩ ∧
      span.width = (⟨target, inner⟩ : Entity).columnCount ∧
      ∀ k < span.width, ∃ own hosted, (s.columns ⟨target, inner⟩)[k]? = some own ∧
        (s.columns e)[span.start + k]? = some hosted ∧
        Column.EmbeddedAt (".".intercalate path) own hosted

namespace Schema

variable {spec : SchemaSpec} {s : Schema} {name : EntityName} {e : Entity}

/-- The columns of an inline composite are those of its target's own table, one by one. -/
theorem embedded_of_holds {path : List String} {span : Span} {info : FieldInfo}
    {target : EntityInfo} {inner : List Field}
    (h : Field.Holds e.fields path span (.inline info target inner)) :
    List.Forall₂ (Column.EmbeddedAt (".".intercalate path)) (s.columns ⟨target, inner⟩)
      (span.slice (s.columns e)) := by
  obtain ⟨around, hpath, hslice⟩ := h.slice_columnsOf s.naming {}
  have hcolumns : span.slice (s.columns e) = _ := hslice
  rw [hcolumns]
  apply Field.embedded_columnsOf h.path_ne_nil
  rw [Enclosing.enter, List.append_nil]
  exact hpath

/-- The one column of a link, at any depth, is a foreign key of the type of its target's key. -/
theorem column_of_link (hcoherent : Field.AllCoherent s e.fields)
    (hkeyed : Field.AllKeyed s e.fields) {path : List String} {span : Span} {f : Field}
    {target : EntityName} (h : Field.Holds e.fields path span f) (hlink : f.isForeignKey = true)
    (htarget : f.target? = some target) :
    span.width = 1 ∧ ∃ owner info typ column, s.entity? target = some owner ∧
      owner.keyField? = some (.scalar info typ) ∧ (s.columns e)[span.start]? = some column ∧
      column.typ = typ ∧ column.foreignKey = true := by
  obtain ⟨around, -, hslice⟩ := h.slice_columnsOf s.naming {}
  obtain ⟨owner, info, typ, column, howner, hkey, hcolumn, htyp, hforeign⟩ :=
    Field.columns_of_isForeignKey (h.coherent hcoherent) (h.keyed hkeyed) hlink htarget s.naming
      around
  have hwidth : span.width = 1 := by
    rw [h.width_eq, ← Field.length_columns s.naming around, hcolumn, List.length_singleton]
  refine ⟨hwidth, owner, info, typ, column, howner, hkey, ?_, htyp, hforeign⟩
  have hget := Span.getElem?_slice (s := span) (k := 0) (by omega) (s.columns e)
  rw [← Nat.add_zero span.start, ← hget]
  change (span.slice (Field.columnsOf s.naming {} e.fields))[0]? = _
  rw [hslice, hcolumn]
  rfl

theorem column_of_inline {path : List String} {span : Span} {info : FieldInfo}
    {target : EntityInfo} {inner : List Field}
    (h : Field.Holds e.fields path span (.inline info target inner)) {k : Nat}
    (hk : k < span.width) :
    ∃ own hosted, (s.columns ⟨target, inner⟩)[k]? = some own ∧
      (s.columns e)[span.start + k]? = some hosted ∧
      Column.EmbeddedAt (".".intercalate path) own hosted := by
  have hembedded := embedded_of_holds (s := s) h
  have hcount : (s.columns ⟨target, inner⟩).length = span.width :=
    (Field.length_columnsOf s.naming {} inner).trans h.width_eq.symm
  have howned : k < (s.columns ⟨target, inner⟩).length := hcount ▸ hk
  have hhosted : k < (span.slice (s.columns e)).length := hembedded.length_eq ▸ howned
  refine ⟨_, _, List.getElem?_eq_getElem howned, ?_, hembedded.get howned hhosted⟩
  rw [← Span.getElem?_slice hk]
  exact List.getElem?_eq_getElem hhosted

theorem layout_compositional (h : spec.toSchema = .ok s) (he : s.entity? name = some e) :
    e.LaidOut s where
  order := Field.map_fst_spansFrom 0 e.fields
  tiled := by
    have htile := Field.tile_spansFrom 0 e.fields
    rw [Nat.zero_add] at htile
    exact htile
  covered := Field.length_columnsOf s.naming {} e.fields
  link := fun _ _ _ _ =>
    column_of_link (allCoherent_of_entity? h he) (allKeyed_of_entity? h he)
  converted := fun _ _ _ _ hholds => hholds.width_eq
  inline := by
    intro path span info target inner hholds
    have hcoherent := hholds.coherent (allCoherent_of_entity? h he)
    exact ⟨hcoherent.1, hholds.width_eq, fun k hk => column_of_inline hholds hk⟩

/-- A person's home takes the columns 2 and 3, as an address has them. -/
theorem layout_compositional_person :
    Sample.spec.toSchema = .ok Sample.schema ∧
      Sample.schema.entity? "Person" = some Sample.person ∧
      Field.Holds Sample.person.fields ["home"] ⟨2, 4⟩
        (.inline { name := "home", nullable := true } Sample.address.toEntityInfo
          Sample.address.fields) ∧
      Sample.person.LaidOut Sample.schema := by
  have he : Sample.schema.entity? "Person" = some Sample.person := rfl
  have hhome : (Field.inline { name := "home", nullable := true } Sample.address.toEntityInfo
      Sample.address.fields, (⟨2, 4⟩ : Span)) ∈ Field.spansFrom 0 Sample.person.fields :=
    .tail _ (.tail _ (.head _))
  have hholds := Field.Holds.here hhome
  exact ⟨Sample.toSchema_spec, he, hholds, layout_compositional Sample.toSchema_spec he⟩

end Schema

end RelMap
