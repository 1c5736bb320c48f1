import Mathlib.Data.List.Induction
import RelMap.Proofs.Names
import RelMap.Proofs.Schema.ColumnFlags
import RelMap.Proofs.Schema.JoinInference

/-!
# Field paths and the layout

A path is resolved by names, in one walk for the field and in another one for its columns, which are
counted on the way down, while the layout is a walk over all fields. Main statement: they agree. A
path leads to the columns that the field has in the table of the entity that declares it, moved to
where that entity is embedded, and each column and each relation is found again by its own path.
-/

namespace RelMap

/-! ## Names in paths -/

namespace Path

variable {mark : Char} {front chars : List Char} {names : List String}

theorem splitChars_of_not_mem (h : mark ∉ chars) : splitChars mark chars = [chars] := by
  induction chars with
  | nil => rfl
  | cons c rest ih =>
    rw [List.mem_cons, not_or] at h
    rw [splitChars, if_neg (Ne.symm h.1), ih h.2]

theorem splitChars_append (h : mark ∉ front) (chars : List Char) :
    splitChars mark (front ++ mark :: chars) = front :: splitChars mark chars := by
  induction front with
  | nil => rw [List.nil_append, splitChars, if_pos rfl]
  | cons c rest ih =>
    rw [List.mem_cons, not_or] at h
    rw [List.cons_append, splitChars, if_neg (Ne.symm h.1), ih h.2]

/-- A name that can be found again in a path. -/
def IsName (name : String) : Prop := name ≠ "" ∧ '.' ∉ name.toList

instance (name : String) : Decidable (IsName name) := inferInstanceAs (Decidable (_ ∧ _))

theorem segments_intercalate (hne : names ≠ []) (h : ∀ n ∈ names, IsName n) :
    segments (".".intercalate names) = names := by
  induction names with
  | nil => exact absurd rfl hne
  | cons name rest ih =>
    obtain ⟨⟨-, hname⟩, hrest⟩ := List.forall_mem_cons.mp h
    by_cases hlast : rest = []
    · subst hlast
      rw [String.intercalate_singleton, segments, splitChars_of_not_mem hname, List.map_singleton,
        String.ofList_toList]
    · have hpoint : ".".toList = ['.'] := rfl
      have hsegments := ih hlast hrest
      unfold segments at hsegments
      rw [String.intercalate_cons_of_ne_nil hlast, segments, String.toList_append,
        String.toList_append, hpoint, List.append_assoc, List.singleton_append,
        splitChars_append hname, List.map_cons, String.ofList_toList, hsegments]

theorem intercalate_ne_empty (hne : names ≠ []) (h : ∀ n ∈ names, IsName n) :
    ".".intercalate names ≠ "" := by
  intro hempty
  have hsegments := segments_intercalate hne h
  rw [hempty] at hsegments
  subst hsegments
  exact (h "" (.head _)).1 rfl

theorem foldl_join_eq_intercalate (h : ∀ n ∈ names, IsName n) :
    names.foldl join "" = ".".intercalate names := by
  induction names using List.reverseRecOn with
  | nil => rfl
  | append_singleton front name ih =>
    rw [List.forall_mem_append, List.forall_mem_singleton] at h
    rw [List.foldl_append, ih h.1]
    by_cases hfront : front = []
    · subst hfront
      rfl
    · have hlast : [name] ≠ [] := List.cons_ne_nil _ _
      rw [String.intercalate_append_of_ne_nil hfront hlast, String.intercalate_singleton]
      change join (".".intercalate front) name = _
      rw [join, if_neg (intercalate_ne_empty hfront h.1), if_neg h.2.1]

end Path

/-! ## Ways to a field -/

theorem Span.shift_shift (span : Span) (m n : Nat) :
    (span.shift m).shift n = span.shift (m + n) := by
  rw [shift, shift, shift, Nat.add_assoc, Nat.add_assoc]

/-- The names lead from `e` to the field `f` of `owner`, where it has the columns `own`, and the
columns of `owner` begin with number `offset` of those of `e`. On the way there are inline
composites, whose targets are looked up in the schema; of several fields of one name the first
counts. -/
inductive Schema.Leads (s : Schema) : Entity → List String → Entity → Nat → Field → Span → Prop
  | here {e : Entity} {name : String} {f : Field} {own : Span}
    (hfield : e.spans.find? (·.1.name == name) = some (f, own)) : Leads s e [name] e 0 f own
  | inside {e next owner : Entity} {name : String} {names : List String} {info : FieldInfo}
    {target : EntityInfo} {fields : List Field} {host own : Span} {offset : Nat} {f : Field}
    (hfield : e.spans.find? (·.1.name == name) = some (.inline info target fields, host))
    (htarget : s.entity? target.name = some next) (hnext : Leads s next names owner offset f own) :
    Leads s e (name :: names) owner (offset + host.start) f own

theorem Field.find?_eq_map_spansFrom (start : Nat) (fields : List Field) (p : Field → Bool) :
    fields.find? p = ((spansFrom start fields).find? (p ·.1)).map (·.1) := by
  have hfind := List.find?_map (p := p) (f := Prod.fst) (l := spansFrom start fields)
  rwa [map_fst_spansFrom] at hfind

theorem Field.coherent_of_find? {s : Schema} {fields inner : List Field} {p : Field × Span → Bool}
    {info : FieldInfo} {target : EntityInfo} {host : Span} (hcoherent : AllCoherent s fields)
    (hfind : (spansFrom 0 fields).find? p = some (.inline info target inner, host)) :
    s.entity? target.name = some ⟨target, inner⟩ ∧ AllCoherent s inner :=
  allCoherent_iff.mp hcoherent _ (mem_of_mem_spansFrom (List.mem_of_find?_eq_some hfind))

namespace Schema.Leads

variable {s : Schema} {e owner : Entity} {names : List String} {offset : Nat} {f : Field}
  {own : Span}

theorem names_ne_nil (h : s.Leads e names owner offset f own) : names ≠ [] := by
  cases h <;> exact List.cons_ne_nil _ _

theorem spanAt?_eq (h : s.Leads e names owner offset f own)
    (hcoherent : Field.AllCoherent s e.fields) (before : Nat) :
    Field.spanAt? before e.fields names = some (own.shift (before + offset)) := by
  -- An inner walk begins with what has been counted so far, hence the induction over any count.
  induction h generalizing before with
  | @here e name f own hfield =>
    have hfield' : (Field.spansFrom 0 e.fields).find? _ = _ := hfield
    rw [Field.spanAt?, hfield']
    rfl
  | @inside e next owner name names info target fields host own offset f hfield htarget hnext ih =>
    have hinner := Field.coherent_of_find? hcoherent hfield
    cases htarget.symm.trans hinner.1
    have hfield' : (Field.spansFrom 0 e.fields).find? _ = _ := hfield
    rw [Field.spanAt?, hfield']
    · dsimp only
      rw [ih hinner.2, Nat.add_assoc, Nat.add_comm host.start]
    · exact fun hnil => hnext.names_ne_nil hnil

theorem fieldAt?_eq (h : s.Leads e names owner offset f own)
    (hcoherent : Field.AllCoherent s e.fields) : Field.fieldAt? e.fields names = some f := by
  induction h with
  | @here e name f own hfield =>
    have hfield' : (Field.spansFrom 0 e.fields).find? _ = _ := hfield
    rw [Field.fieldAt?, Field.find?_eq_map_spansFrom 0, hfield']
    rfl
  | @inside e next owner name names info target fields host own offset f hfield htarget hnext ih =>
    have hinner := Field.coherent_of_find? hcoherent hfield
    cases htarget.symm.trans hinner.1
    have hfield' : (Field.spansFrom 0 e.fields).find? _ = _ := hfield
    rw [Field.fieldAt?, Field.find?_eq_map_spansFrom 0, hfield']
    · exact ih hinner.2
    · exact fun hnil => hnext.names_ne_nil hnil

theorem exists_of_spanAt? {before : Nat} {fields : List Field} {span : Span}
    (h : Field.spanAt? before fields names = some span) (info : EntityInfo)
    (hcoherent : Field.AllCoherent s fields) :
    ∃ owner offset f own, s.Leads ⟨info, fields⟩ names owner offset f own ∧
      span = own.shift (before + offset) := by
  induction before, fields, names using Field.spanAt?.induct generalizing info with
  | case1 before fields => cases h
  | case2 before fields name =>
    obtain ⟨⟨f, own⟩, hfind, rfl⟩ := Option.map_eq_some_iff.mp h
    exact ⟨_, 0, f, own, .here hfind, rfl⟩
  | case3 before fields name rest hrest fieldInfo target inner host hfind ih =>
    rw [Field.spanAt?, hfind] at h
    · have hinner := Field.coherent_of_find? hcoherent hfind
      obtain ⟨owner, offset, f, own, hleads, rfl⟩ := ih h target hinner.2
      refine ⟨owner, offset + host.start, f, own, .inside hfind hinner.1 hleads, ?_⟩
      rw [Nat.add_assoc, Nat.add_comm host.start]
    · exact hrest
  | case4 before fields name rest hrest hfind =>
    rw [Field.spanAt?] at h
    · split at h
      · next hinline => exact absurd hinline (hfind _ _ _ _)
      · cases h
    · exact hrest

theorem exists_of_fieldAt? {fields : List Field} (h : Field.fieldAt? fields names = some f)
    (info : EntityInfo) (hcoherent : Field.AllCoherent s fields) :
    ∃ owner offset own, s.Leads ⟨info, fields⟩ names owner offset f own := by
  induction fields, names using Field.fieldAt?.induct generalizing info with
  | case1 fields => cases h
  | case2 fields name =>
    rw [Field.fieldAt?, Field.find?_eq_map_spansFrom 0] at h
    obtain ⟨⟨_, own⟩, hfind, rfl⟩ := Option.map_eq_some_iff.mp h
    exact ⟨_, 0, own, .here hfind⟩
  | case3 fields name rest hrest fieldInfo target inner hinline ih =>
    rw [Field.fieldAt?, hinline] at h
    · rw [Field.find?_eq_map_spansFrom 0] at hinline
      obtain ⟨⟨_, host⟩, hfind, rfl⟩ := Option.map_eq_some_iff.mp hinline
      have hinner := Field.coherent_of_find? hcoherent hfind
      obtain ⟨owner, offset, own, hleads⟩ := ih h target hinner.2
      exact ⟨owner, offset + host.start, own, .inside hfind hinner.1 hleads⟩
    · exact hrest
  | case4 fields name rest hrest hfind =>
    rw [Field.fieldAt?] at h
    · split at h
      · next hinline => exact absurd hinline (hfind _ _ _)
      · cases h
    · exact hrest

/-- On its way the field is held by the entity, and by its owner under its own name. -/
theorem holds (h : s.Leads e names owner offset f own)
    (hcoherent : Field.AllCoherent s e.fields) :
    Field.Holds e.fields names (own.shift offset) f ∧ Field.Holds owner.fields [f.name] own f := by
  induction h with
  | here hfield =>
    have hname := List.find?_some hfield
    have hmem := List.mem_of_find?_eq_some hfield
    rw [← eq_of_beq hname]
    exact ⟨.here hmem, .here hmem⟩
  | inside hfield htarget hnext ih =>
    have hinner := Field.coherent_of_find? hcoherent hfield
    cases htarget.symm.trans hinner.1
    obtain ⟨hholds, howner⟩ := ih hinner.2
    have hmem := List.mem_of_find?_eq_some hfield
    have hname := List.find?_some hfield
    refine ⟨?_, howner⟩
    rw [← Span.shift_shift, ← eq_of_beq hname]
    exact .inside hmem hholds

end Schema.Leads

theorem Field.Holds.map_typ_slice {e : Entity} {path : List String} {span : Span} {f : Field}
    (h : Field.Holds e.fields path span f) (s : Schema) :
    (span.slice (s.columns e)).map (·.typ) = f.columnTypes := by
  obtain ⟨around, -, hslice⟩ := h.slice_columnsOf s.naming {}
  change (span.slice (Field.columnsOf s.naming {} e.fields)).map _ = _
  rw [hslice, Field.map_typ_columns]

theorem Field.Holds.within {e : Entity} {path : List String} {span : Span} {f : Field}
    (h : Field.Holds e.fields path span f) (s : Schema) : span.Within (s.columns e) := by
  obtain ⟨hstop, hle⟩ := h.bounds
  have hlength : (s.columns e).length = Field.widths e.fields :=
    Field.length_columnsOf s.naming {} e.fields
  rw [Span.Within, hlength]
  omega

/-! ## Names that can be found again -/

/-- In each entity field names are distinct, and each is fit to stand in a path. -/
def Schema.PathNamed (s : Schema) : Prop :=
  ∀ e ∈ s.entities, (e.fields.map (·.name)).Nodup ∧ ∀ f ∈ e.fields, Path.IsName f.name

instance (s : Schema) : Decidable s.PathNamed := by unfold Schema.PathNamed; infer_instance

theorem Field.find?_of_mem_spansFrom {fields : List Field} {p : Field × Span}
    (hdistinct : (fields.map (·.name)).Nodup) (hmem : p ∈ spansFrom 0 fields) :
    (spansFrom 0 fields).find? (·.1.name == p.1.name) = some p := by
  rw [← map_fst_spansFrom 0 fields, List.map_map] at hdistinct
  exact (find?_eq_some_iff_of_nodup hdistinct p.1.name p).mpr ⟨hmem, rfl⟩

namespace Field.Holds

variable {s : Schema} {fields : List Field} {path : List String} {span : Span} {f : Field}

theorem spanAt?_eq (h : Holds fields path span f) (hnamed : s.PathNamed)
    (hcoherent : AllCoherent s fields) (hdistinct : (fields.map (·.name)).Nodup) (before : Nat) :
    spanAt? before fields path = some (span.shift before) := by
  induction h generalizing before with
  | here hmem =>
    have hfield := find?_of_mem_spansFrom hdistinct hmem
    dsimp only at hfield
    rw [spanAt?, hfield]
    rfl
  | @inside fields inner info target host span path f hmem hinner ih =>
    have hcoherent' := allCoherent_iff.mp hcoherent _ (mem_of_mem_spansFrom hmem)
    have hdistinct' := (hnamed _ (List.mem_of_find?_eq_some hcoherent'.1)).1
    have hhost := find?_of_mem_spansFrom hdistinct hmem
    change (spansFrom 0 fields).find? (·.1.name == info.name) = _ at hhost
    rw [spanAt?, hhost]
    · dsimp only
      rw [ih hcoherent'.2 hdistinct', Span.shift_shift, Nat.add_comm]
    · exact fun hnil => hinner.path_ne_nil hnil

theorem isName (h : Holds fields path span f) (hnamed : s.PathNamed)
    (hcoherent : AllCoherent s fields) (hnames : ∀ f ∈ fields, Path.IsName f.name) :
    ∀ n ∈ path, Path.IsName n := by
  induction h with
  | here hmem => exact List.forall_mem_singleton.mpr (hnames _ (mem_of_mem_spansFrom hmem))
  | inside hmem _ ih =>
    have hcoherent' := allCoherent_iff.mp hcoherent _ (mem_of_mem_spansFrom hmem)
    have hnames' := (hnamed _ (List.mem_of_find?_eq_some hcoherent'.1)).2
    exact List.forall_mem_cons.mpr
      ⟨hnames _ (mem_of_mem_spansFrom hmem), ih hcoherent'.2 hnames'⟩

end Field.Holds

/-! ## Resolution of paths -/

/-- What the paths from an entity lead to. -/
structure Entity.PathsResolved (s : Schema) (e : Entity) : Prop where
  /-- Both look-ups follow the names, the one for the columns, the other for the field. -/
  span_iff : ∀ path span, e.fieldSpan path = .ok span ↔
    ∃ owner offset f own, s.Leads e (Path.segments path) owner offset f own ∧
      span = own.shift offset
  field_iff : ∀ path f, e.fieldAt path = .ok f ↔
    ∃ owner offset own, s.Leads e (Path.segments path) owner offset f own
  succeed_iff : ∀ path, (∃ span, e.fieldSpan path = .ok span) ↔ ∃ f, e.fieldAt path = .ok f
  placed : ∀ path span f, e.fieldSpan path = .ok span → e.fieldAt path = .ok f →
    span.Within (s.columns e) ∧ span.width = f.width ∧
      ∃ owner offset own, s.Leads e (Path.segments path) owner offset f own ∧
        span = own.shift offset ∧ own.Within (s.columns owner) ∧
        (span.slice (s.columns e)).map (·.typ) = (own.slice (s.columns owner)).map (·.typ)

/-- What is laid out for an entity is found again by its own path. -/
structure Entity.FoundAgain (s : Schema) (e : Entity) : Prop where
  columns : ∀ i column, (s.columns e)[i]? = some column →
    ∃ span, e.fieldSpan column.fieldPath = .ok span ∧ span.start ≤ i ∧ i < span.stop
  relations : ∀ parent, ∀ r ∈ s.relations e parent, e.fieldSpan r.fieldPath = .ok r.columns
  eagerRelations : ∀ r ∈ s.eagerRelations e, e.fieldSpan r.fieldPath = .ok r.columns

namespace Entity

variable {s : Schema} {e : Entity} {path : String} {span : Span} {f : Field}

theorem fieldAt_eq_ok_iff :
    e.fieldAt path = .ok f ↔ Field.fieldAt? e.fields (Path.segments path) = some f := by
  unfold fieldAt
  cases Field.fieldAt? e.fields (Path.segments path) <;> simp

theorem fieldSpan_eq_ok_iff_leads (hcoherent : Field.AllCoherent s e.fields) :
    e.fieldSpan path = .ok span ↔
      ∃ owner offset f own, s.Leads e (Path.segments path) owner offset f own ∧
        span = own.shift offset := by
  rw [fieldSpan_eq_ok_iff]
  constructor
  · intro h
    obtain ⟨owner, offset, f, own, hleads, hspan⟩ :=
      Schema.Leads.exists_of_spanAt? h e.toEntityInfo hcoherent
    rw [Nat.zero_add] at hspan
    exact ⟨owner, offset, f, own, hleads, hspan⟩
  · rintro ⟨owner, offset, f, own, hleads, rfl⟩
    rw [hleads.spanAt?_eq hcoherent, Nat.zero_add]

theorem fieldAt_eq_ok_iff_leads (hcoherent : Field.AllCoherent s e.fields) :
    e.fieldAt path = .ok f ↔
      ∃ owner offset own, s.Leads e (Path.segments path) owner offset f own := by
  rw [fieldAt_eq_ok_iff]
  constructor
  · intro h
    exact Schema.Leads.exists_of_fieldAt? h e.toEntityInfo hcoherent
  · rintro ⟨owner, offset, own, hleads⟩
    exact hleads.fieldAt?_eq hcoherent

theorem pathsResolved (hcoherent : Field.AllCoherent s e.fields) : e.PathsResolved s where
  span_iff _ _ := fieldSpan_eq_ok_iff_leads hcoherent
  field_iff _ _ := fieldAt_eq_ok_iff_leads hcoherent
  succeed_iff := by
    intro path
    simp only [fieldSpan_eq_ok_iff_leads hcoherent, fieldAt_eq_ok_iff_leads hcoherent]
    constructor
    · rintro ⟨_, owner, offset, f, own, hleads, rfl⟩
      exact ⟨f, owner, offset, own, hleads⟩
    · rintro ⟨f, owner, offset, own, hleads⟩
      exact ⟨_, owner, offset, f, own, hleads, rfl⟩
  placed := by
    intro path span f hspan hfield
    obtain ⟨owner, offset, g, own, hleads, rfl⟩ := (fieldSpan_eq_ok_iff_leads hcoherent).mp hspan
    -- The walk for the field has come to the same field as the one for the columns.
    cases (hleads.fieldAt?_eq hcoherent).symm.trans (fieldAt_eq_ok_iff.mp hfield)
    obtain ⟨hholds, howner⟩ := hleads.holds hcoherent
    refine ⟨hholds.within s, hholds.width_eq, owner, offset, own, hleads, rfl, howner.within s, ?_⟩
    rw [hholds.map_typ_slice, howner.map_typ_slice]

/-! ## Columns and relations by their paths -/

section

variable (hnamed : s.PathNamed) (hcoherent : Field.AllCoherent s e.fields) (he : e ∈ s.entities)

include hnamed hcoherent he

theorem fieldSpan_of_holds {names : List String} (h : Field.Holds e.fields names span f) :
    e.fieldSpan (".".intercalate names) = .ok span := by
  have hnames := h.isName hnamed hcoherent (hnamed e he).2
  rw [fieldSpan_eq_ok_iff, Path.segments_intercalate h.path_ne_nil hnames]
  exact h.spanAt?_eq hnamed hcoherent (hnamed e he).1 0

theorem fieldSpan_of_mem_leaves {l : Leaf} (hl : l ∈ e.leaves) :
    e.fieldSpan (".".intercalate l.path) = .ok l.span :=
  fieldSpan_of_holds hnamed hcoherent he (holds_of_mem_leaves hl)

theorem fieldSpan_of_mem_relationsIn {wanted : Field → Bool} {r : Relation}
    (hr : r ∈ Field.relationsIn e.name (s.columns e) wanted "" 0 e.fields) :
    e.fieldSpan r.fieldPath = .ok r.columns := by
  have hleaves :=
    Field.relationsIn_eq_map_leaves e.name (s.columns e) wanted [] 0 e.fields
  rw [List.map_nil, List.foldl_nil] at hleaves
  rw [hleaves] at hr
  obtain ⟨l, hl, rfl⟩ := List.mem_map.mp hr
  obtain ⟨hl, hlink⟩ := List.mem_filter.mp hl
  have hnames := (holds_of_mem_leaves hl).isName hnamed hcoherent (hnamed e he).2
  rw [Leaf.fieldPath_relation, Leaf.columns_relation (Bool.and_eq_true_iff.mp hlink).1,
    Leaf.fieldPath, Path.foldl_join_eq_intercalate hnames]
  exact fieldSpan_of_mem_leaves hnamed hcoherent he hl

theorem foundAgain : e.FoundAgain s where
  columns := by
    intro i column hcolumn
    obtain ⟨hlt, hget⟩ := List.getElem?_eq_some_iff.mp hcolumn
    have hlength : (s.columns e).length = e.columnCount :=
      Field.length_columnsOf s.naming {} e.fields
    obtain ⟨l, hl, hstart, hstop⟩ := exists_leaf_at (hlength ▸ hlt)
    have hmem : column ∈ l.span.slice (s.columns e) := by
      have hwidth : i - l.span.start < l.span.width := by
        rw [Span.width]
        omega
      apply List.mem_of_getElem?
      rw [Span.getElem?_slice hwidth, Nat.add_sub_cancel' hstart, hcolumn]
    rw [((Schema.columns_flagged s e).flags l hl column hmem).fieldPath]
    exact ⟨l.span, fieldSpan_of_mem_leaves hnamed hcoherent he hl, hstart, hstop⟩
  relations _ _ hr := fieldSpan_of_mem_relationsIn hnamed hcoherent he hr
  eagerRelations _ hr := fieldSpan_of_mem_relationsIn hnamed hcoherent he hr

end

end Entity

namespace Schema

variable {spec : SchemaSpec} {s : Schema} {name : EntityName} {e : Entity}

/-- Paths lead to the columns of the field that they name, and where names are fit for it, columns
and relations are found again by their paths. -/
theorem paths_agree_with_layout (h : spec.toSchema = .ok s) (he : s.entity? name = some e) :
    e.PathsResolved s ∧ (s.PathNamed → e.FoundAgain s) := by
  have hcoherent := allCoherent_of_entity? h he
  refine ⟨Entity.pathsResolved hcoherent, ?_⟩
  intro hnamed
  exact Entity.foundAgain hnamed hcoherent (List.mem_of_find?_eq_some he)

/-- The city of a person's home is the column 2, the one that it is in an address moved by the
two columns before the home. -/
theorem paths_agree_with_layout_person :
    Sample.spec.toSchema = .ok Sample.schema ∧
      Sample.schema.entity? "Person" = some Sample.person ∧ Sample.schema.PathNamed ∧
      Sample.person.fieldSpan "home.city" = .ok ⟨2, 3⟩ ∧
      Sample.person.PathsResolved Sample.schema ∧ Sample.person.FoundAgain Sample.schema := by
  have hperson : Sample.schema.entity? "Person" = some Sample.person := rfl
  have hnamed : Sample.schema.PathNamed := by decide
  have hspan : Sample.person.fieldSpan "home.city" = .ok ⟨2, 3⟩ := by decide +kernel
  obtain ⟨hresolved, hfound⟩ := paths_agree_with_layout Sample.toSchema_spec hperson
  exact ⟨Sample.toSchema_spec, hperson, hnamed, hspan, hresolved, hfound hnamed⟩

end Schema

end RelMap
