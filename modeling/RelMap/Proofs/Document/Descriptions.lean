import Mathlib.Data.List.Forall2
import Mathlib.Data.List.Nodup
import RelMap.Document.Description

/-!
# Descriptions read back

A description that was written out may be edited before it is read: members that hold their default
may be left out, and members that no reader asks for may be put in, in the structures at every
level. Main statement: the entities are read back from every document that comes about in this way.
Tagged values have no members of their own, an object with a second key being no tagged value.
-/

namespace RelMap

open Document

/-! ## Edited documents -/

structure Member where
  key : String
  /-- What is written for its default, for a member that has one. -/
  default : Option Document := none
  /-- Which documents may take the place of the one that was written. -/
  Edited : Document → Document → Prop := Eq

/-- Members kept, left out and put in. -/
inductive MembersEdited (layout : List Member) :
    List (String × Document) → List (String × Document) → Prop
  | nil : MembersEdited layout [] []
  | keep {m : Member} {d d' : Document} {rest rest' : List (String × Document)} :
      m ∈ layout → m.Edited d d' → MembersEdited layout rest rest' →
      MembersEdited layout ((m.key, d) :: rest) ((m.key, d') :: rest')
  | leaveOut {m : Member} {d : Document} {rest rest' : List (String × Document)} :
      m ∈ layout → m.default = some d → MembersEdited layout rest rest' →
      MembersEdited layout ((m.key, d) :: rest) rest'
  | putIn {key : String} {d : Document} {rest rest' : List (String × Document)} :
      (∀ m ∈ layout, m.key ≠ key) → MembersEdited layout rest rest' →
      MembersEdited layout rest ((key, d) :: rest')

inductive ObjectEdited (layout : List Member) : Document → Document → Prop
  | object {members members' : List (String × Document)} :
      MembersEdited layout members members' →
      ObjectEdited layout (.object members) (.object members')

inductive ItemsEdited (Edited : Document → Document → Prop) : Document → Document → Prop
  | array {items items' : List Document} :
      List.Forall₂ Edited items items' → ItemsEdited Edited (.array items) (.array items')

/-- The body under the tag edited, and a document that is not tagged so left as it is. -/
inductive BodyEdited (tag : String) (Edited : Document → Document → Prop) :
    Document → Document → Prop
  | body {d d' : Document} : Edited d d' → BodyEdited tag Edited (tagged tag d) (tagged tag d')
  | other {d : Document} : (∀ body, d ≠ tagged tag body) → BodyEdited tag Edited d d

namespace BodyEdited

variable {tag : String} {Edited : Document → Document → Prop} {written d : Document}

theorem exists_body (h : BodyEdited tag Edited (tagged tag written) d) :
    ∃ d', Edited written d' ∧ d = tagged tag d' := by
  cases h with
  | body hbody => exact ⟨_, hbody, rfl⟩
  | other hother => exact absurd rfl (hother _)

theorem eq_of_ne (h : BodyEdited tag Edited written d)
    (hother : ∀ body, written ≠ tagged tag body) : written = d := by
  cases h with
  | body => exact absurd rfl (hother _)
  | other => rfl

end BodyEdited

/-- What may be found for a member instead of what was written. -/
def Member.Leaves (m : Member) (written : Document) : Option Document → Prop
  | some d => m.Edited written d
  | none => m.default = some written

namespace MembersEdited

variable {layout : List Member} {members members' : List (String × Document)} {m : Member}
  {d : Document}

theorem lookup_eq_none (h : MembersEdited layout members members') (hm : m ∈ layout)
    (hkey : m.key ∉ members.map Prod.fst) : members'.lookup m.key = none := by
  induction h with
  | nil => rfl
  | keep _ _ _ ih =>
    rw [List.map_cons, List.mem_cons, not_or] at hkey
    rw [List.lookup_cons, beq_false_of_ne hkey.1]
    exact ih hkey.2
  | leaveOut _ _ _ ih =>
    rw [List.map_cons, List.mem_cons, not_or] at hkey
    exact ih hkey.2
  | putIn hunknown _ ih =>
    rw [List.lookup_cons, beq_false_of_ne (hunknown m hm)]
    exact ih hkey

/-- A written member is found as it was kept, or left out. -/
theorem leaves (h : MembersEdited layout members members') (hm : m ∈ layout)
    (hd : (m.key, d) ∈ members) (hlayout : (layout.map Member.key).Nodup)
    (hmembers : (members.map Prod.fst).Nodup) : m.Leaves d (members'.lookup m.key) := by
  induction h with
  | nil => cases hd
  | @keep kept _ _ rest rest' hkept hedited _ ih =>
    rw [List.map_cons, List.nodup_cons] at hmembers
    cases List.mem_cons.mp hd with
    | inl hfirst =>
      obtain ⟨hkey, rfl⟩ := Prod.mk.inj hfirst
      obtain rfl := List.inj_on_of_nodup_map hlayout hm hkept hkey
      rw [List.lookup_cons_self]
      exact hedited
    | inr hrest =>
      have hne : m.key ≠ kept.key := by
        intro heq
        rw [← heq] at hmembers
        exact hmembers.1 (List.mem_map.mpr ⟨_, hrest, rfl⟩)
      rw [List.lookup_cons, beq_false_of_ne hne]
      exact ih hrest hmembers.2
  | @leaveOut omitted _ _ _ homitted hdefault hedits ih =>
    rw [List.map_cons, List.nodup_cons] at hmembers
    cases List.mem_cons.mp hd with
    | inl hfirst =>
      obtain ⟨hkey, rfl⟩ := Prod.mk.inj hfirst
      obtain rfl := List.inj_on_of_nodup_map hlayout hm homitted hkey
      rw [hedits.lookup_eq_none hm hmembers.1]
      exact hdefault
    | inr hrest => exact ih hrest hmembers.2
  | putIn hunknown _ ih =>
    rw [List.lookup_cons, beq_false_of_ne (hunknown m hm)]
    exact ih hd hmembers

end MembersEdited

/-- The members of a structure one by one, each with what was written and what is found. -/
def LeaveAll : List Member → List Document → List (Option Document) → Prop
  | [], [], [] => True
  | m :: layout, d :: written, found :: rest => m.Leaves d found ∧ LeaveAll layout written rest
  | _, _, _ => False

theorem leaveAll_map {layout : List Member} {written : List Document}
    {find : Member → Option Document} (hlength : layout.length = written.length)
    (h : ∀ m d, (m, d) ∈ layout.zip written → m.Leaves d (find m)) :
    LeaveAll layout written (layout.map find) := by
  induction layout generalizing written with
  | nil =>
    cases written with
    | nil => trivial
    | cons => cases hlength
  | cons m layout ih =>
    cases written with
    | nil => cases hlength
    | cons d written =>
      refine ⟨h m d List.mem_cons_self, ih (Nat.succ.inj hlength) ?_⟩
      intro m' d' hmem
      exact h m' d' (List.mem_cons_of_mem _ hmem)

theorem MembersEdited.leaveAll {layout : List Member} {written : List Document}
    {members' : List (String × Document)}
    (h : MembersEdited layout ((layout.map Member.key).zip written) members')
    (hlength : layout.length = written.length) (hlayout : (layout.map Member.key).Nodup) :
    LeaveAll layout written (layout.map fun m => members'.lookup m.key) := by
  apply leaveAll_map hlength
  intro m d hmem
  apply h.leaves (List.of_mem_zip hmem).1 _ hlayout
  · rwa [List.map_fst_zip (by simp [hlength])]
  · rw [List.zip_map_left]
    exact List.mem_map.mpr ⟨(m, d), hmem, rfl⟩

/-! ## Reading members -/

section Reading

variable {α : Type} {read : Document → Option α} {m : Member} {written : Document}
  {found : Option Document} {value default : α}

theorem required_of_leaves (h : m.Leaves written found) (hdefault : m.default = none)
    (hread : ∀ d, m.Edited written d → read d = some value) :
    required read found = some value := by
  cases found with
  | none =>
    rw [Member.Leaves, hdefault] at h
    cases h
  | some d => exact hread d h

theorem optional_of_leaves (h : m.Leaves written found)
    (hdefault : m.default = some written → value = default)
    (hread : ∀ d, m.Edited written d → read d = some value) :
    optional read default found = some value := by
  cases found with
  | none => rw [hdefault h, optional]
  | some d => exact hread d h

theorem mapM_of_forall₂ {Edited : Document → Document → Prop} {write : α → Document}
    (hread : ∀ a d, Edited (write a) d → read d = some a) {values : List α} {items : List Document}
    (h : List.Forall₂ Edited (values.map write) items) : items.mapM read = some values := by
  induction values generalizing items with
  | nil =>
    cases h
    rfl
  | cons a values ih =>
    obtain _ | ⟨hfirst, hrest⟩ := h
    simp [hread a _ hfirst, ih hrest]

theorem strings?_ofStrings (values : List String) : (ofStrings values).strings? = some values := by
  have hsame : List.Forall₂ Eq (values.map string) (values.map string) := List.forall₂_refl _
  exact mapM_of_forall₂ (by rintro a _ rfl; rfl) hsame

end Reading

/-! ## Layouts -/

abbrev Member.flag (key : String) (default : Bool) : Member :=
  { key, default := some (bool default) }

def EnumType.layout : List Member :=
  [{ key := "name" }, { key := "variants" },
    { key := "encoding", default := some (word EnumEncoding.name) }]

def EnumType.written (type : EnumType) : List Document :=
  [string type.name, ofStrings type.variants, word type.encoding]

theorem EnumType.toDocument_eq (type : EnumType) :
    type.toDocument = object ((layout.map Member.key).zip type.written) := rfl

def ScalarType.Edited : Document → Document → Prop :=
  BodyEdited "Enum" (ObjectEdited EnumType.layout)

def FieldType.Edited : Document → Document → Prop := BodyEdited "Scalar" ScalarType.Edited

def FieldSpec.layout : List Member :=
  [{ key := "name" }, { key := "typ", Edited := FieldType.Edited }, .flag "primary_key" false,
    .flag "foreign_key" false, .flag "nullable" false, .flag "auto_generated" false,
    .flag "insertable" true, .flag "updatable" true,
    { key := "columns", default := some (ofStrings []) }]

def FieldSpec.written (f : FieldSpec) : List Document :=
  [string f.name, f.typ.toDocument, bool f.primaryKey, bool f.foreignKey, bool f.nullable,
    bool f.autoGenerated, bool f.insertable, bool f.updatable, ofStrings f.columns]

theorem FieldSpec.toDocument_eq (f : FieldSpec) :
    f.toDocument = object ((layout.map Member.key).zip f.written) := rfl

def tableDocument (table : Option String) : Document :=
  match table with
  | some table => string table
  | none => null

def EntitySpec.layout : List Member :=
  [{ key := "name" }, { key := "kind", default := some (word EntityKind.table) },
    { key := "table", default := some null },
    { key := "fields", Edited := ItemsEdited (ObjectEdited FieldSpec.layout) }]

def EntitySpec.written (e : EntitySpec) : List Document :=
  [string e.name, word e.kind, tableDocument e.table, array (e.fields.map FieldSpec.toDocument)]

theorem EntitySpec.toDocument_eq (e : EntitySpec) :
    e.toDocument = object ((layout.map Member.key).zip e.written) := rfl

def SchemaSpec.layout : List Member :=
  [{ key := "entities", Edited := ItemsEdited (ObjectEdited EntitySpec.layout) }]

def SchemaSpec.written (spec : SchemaSpec) : List Document :=
  [array (spec.entities.map EntitySpec.toDocument)]

theorem SchemaSpec.toDocument_eq (spec : SchemaSpec) :
    spec.toDocument = object ((layout.map Member.key).zip spec.written) := rfl

/-! ## Reading edited descriptions -/

section Members

variable {key : String} {found : Option Document}

theorem required_string? {value : String} (h : ({ key } : Member).Leaves (string value) found) :
    required string? found = some value :=
  required_of_leaves h rfl (by rintro _ rfl; rfl)

theorem required_strings? {values : List String}
    (h : ({ key } : Member).Leaves (ofStrings values) found) :
    required strings? found = some values :=
  required_of_leaves h rfl (by rintro _ rfl; exact strings?_ofStrings values)

theorem optional_bool? {value default : Bool}
    (h : (Member.flag key default).Leaves (bool value) found) :
    optional bool? default found = some value := by
  apply optional_of_leaves h
  · intro hdefault
    cases hdefault
    rfl
  · rintro _ rfl
    rfl

theorem optional_strings? {values : List String}
    (h : ({ key, default := some (ofStrings []) } : Member).Leaves (ofStrings values) found) :
    optional strings? [] found = some values := by
  apply optional_of_leaves h
  · intro hdefault
    cases values with
    | nil => rfl
    | cons => cases hdefault
  · rintro _ rfl
    exact strings?_ofStrings values

/-- If words are read back, no two values have one word. -/
theorem optional_enumerated? {α : Type} [Enumeration α] {value default : α}
    (hwords : ∀ value : α, enumerated? (word value) = some value)
    (h : ({ key, default := some (word default) } : Member).Leaves (word value) found) :
    optional enumerated? default found = some value := by
  apply optional_of_leaves h
  · intro hdefault
    have hsame : word default = word value := Option.some.inj hdefault
    rw [← Option.some_inj, ← hwords value, ← hsame, hwords]
  · rintro _ rfl
    exact hwords value

theorem enumerated?_encoding (value : EnumEncoding) : enumerated? (word value) = some value := by
  cases value <;> rfl

theorem enumerated?_kind (value : EntityKind) : enumerated? (word value) = some value := by
  cases value <;> rfl

theorem optional_table {value : Option String}
    (h : ({ key, default := some null } : Member).Leaves (tableDocument value) found) :
    optional optionalString? none found = some value := by
  apply optional_of_leaves h
  · intro hdefault
    cases value with
    | none => rfl
    | some => cases hdefault
  · rintro _ rfl
    cases value <;> rfl

end Members

theorem EnumType.ofDocument?_of_edited {type : EnumType} {d : Document}
    (h : ObjectEdited layout type.toDocument d) : ofDocument? d = some type := by
  rw [toDocument_eq] at h
  obtain ⟨hedits⟩ := h
  obtain ⟨hname, hvariants, hencoding, -⟩ := hedits.leaveAll rfl (by decide)
  simp only [ofDocument?, members?, List.map_cons, List.map_nil, Option.bind_eq_bind,
    Option.bind_some]
  rw [required_string? hname, required_strings? hvariants,
    optional_enumerated? enumerated?_encoding hencoding]
  rfl

theorem ScalarType.ofDocument?_of_edited {type : ScalarType} {d : Document}
    (h : Edited type.toDocument d) : ofDocument? d = some type := by
  cases type with
  | enum type =>
    obtain ⟨d', hbody, rfl⟩ := BodyEdited.exists_body h
    have hread : EnumType.ofDocument? d' = some type := EnumType.ofDocument?_of_edited hbody
    obtain ⟨hedits⟩ := hbody
    simp [ofDocument?, tagged, tagged?, hread]
  | _ =>
    obtain rfl := BodyEdited.eq_of_ne h (by simp [toDocument, tagged])
    rfl

theorem FieldType.ofDocument?_of_edited {type : FieldType} {d : Document}
    (h : Edited type.toDocument d) : ofDocument? d = some type := by
  cases type with
  | scalar type =>
    obtain ⟨d', hbody, rfl⟩ := BodyEdited.exists_body h
    simp [ofDocument?, tagged, ScalarType.ofDocument?_of_edited hbody]
  | composite | ref | converted =>
    obtain rfl := BodyEdited.eq_of_ne h (by simp [toDocument, tagged])
    rfl

theorem FieldSpec.ofDocument?_of_edited {f : FieldSpec} {d : Document}
    (h : ObjectEdited layout f.toDocument d) : ofDocument? d = some f := by
  rw [toDocument_eq] at h
  obtain ⟨hedits⟩ := h
  obtain ⟨hname, htyp, hprimaryKey, hforeignKey, hnullable, hautoGenerated, hinsertable,
    hupdatable, hcolumns, -⟩ := hedits.leaveAll rfl (by decide)
  simp only [ofDocument?, members?, List.map_cons, List.map_nil, Option.bind_eq_bind,
    Option.bind_some]
  rw [required_string? hname,
    required_of_leaves htyp rfl fun d hd => FieldType.ofDocument?_of_edited hd,
    optional_bool? hprimaryKey, optional_bool? hforeignKey, optional_bool? hnullable,
    optional_bool? hautoGenerated, optional_bool? hinsertable, optional_bool? hupdatable,
    optional_strings? hcolumns]
  rfl

theorem FieldSpec.listOfDocument?_of_edited {fields : List FieldSpec} {d : Document}
    (h : ItemsEdited (ObjectEdited layout) (array (fields.map toDocument)) d) :
    listOfDocument? d = some fields := by
  obtain ⟨hitems⟩ := h
  exact mapM_of_forall₂ (fun f d => ofDocument?_of_edited) hitems

theorem EntitySpec.ofDocument?_of_edited {e : EntitySpec} {d : Document}
    (h : ObjectEdited layout e.toDocument d) : ofDocument? d = some e := by
  rw [toDocument_eq] at h
  obtain ⟨hedits⟩ := h
  obtain ⟨hname, hkind, htable, hfields, -⟩ := hedits.leaveAll rfl (by decide)
  simp only [ofDocument?, members?, List.map_cons, List.map_nil, Option.bind_eq_bind,
    Option.bind_some]
  rw [required_string? hname, optional_enumerated? enumerated?_kind hkind, optional_table htable,
    required_of_leaves hfields rfl fun d hd => FieldSpec.listOfDocument?_of_edited hd]
  rfl

theorem EntitySpec.listOfDocument?_of_edited {entities : List EntitySpec} {d : Document}
    (h : ItemsEdited (ObjectEdited layout) (array (entities.map toDocument)) d) :
    listOfDocument? d = some entities := by
  obtain ⟨hitems⟩ := h
  exact mapM_of_forall₂ (fun e d => ofDocument?_of_edited) hitems

theorem SchemaSpec.ofDocument?_of_edited {spec : SchemaSpec} {d : Document}
    (h : ObjectEdited layout spec.toDocument d) :
    ofDocument? d = some { entities := spec.entities } := by
  rw [toDocument_eq] at h
  obtain ⟨hedits⟩ := h
  obtain ⟨hentities, -⟩ := hedits.leaveAll rfl (by decide)
  simp only [ofDocument?, members?, List.map_cons, List.map_nil, Option.bind_eq_bind,
    Option.bind_some]
  rw [required_of_leaves hentities rfl fun d hd => EntitySpec.listOfDocument?_of_edited hd]
  rfl

/-! ## Unedited descriptions -/

theorem MembersEdited.refl {layout : List Member} {written : List Document}
    (h : ∀ p ∈ layout.zip written, p.1.Edited p.2 p.2) :
    MembersEdited layout ((layout.map Member.key).zip written)
      ((layout.map Member.key).zip written) := by
  suffices hsuffix : ∀ (part : List Member) (written : List Document), part ⊆ layout →
      (∀ p ∈ part.zip written, p.1.Edited p.2 p.2) →
      MembersEdited layout ((part.map Member.key).zip written)
        ((part.map Member.key).zip written) from hsuffix layout written (fun _ h => h) h
  intro part
  induction part with
  | nil => exact fun _ _ _ => .nil
  | cons m part ih =>
    intro written hpart h
    cases written with
    | nil => exact .nil
    | cons d written =>
      rw [List.zip_cons_cons, List.forall_mem_cons] at h
      rw [List.cons_subset] at hpart
      exact .keep hpart.1 h.1 (ih written hpart.2 h.2)

theorem ItemsEdited.refl {α : Type} {Edited : Document → Document → Prop} {write : α → Document}
    (h : ∀ a, Edited (write a) (write a)) (values : List α) :
    ItemsEdited Edited (.array (values.map write)) (.array (values.map write)) := by
  refine .array (List.forall₂_same.mpr ?_)
  intro d hd
  obtain ⟨a, -, rfl⟩ := List.mem_map.mp hd
  exact h a

theorem ObjectEdited.refl {layout : List Member} {written : List Document}
    (h : ∀ p ∈ layout.zip written, p.1.Edited p.2 p.2) :
    ObjectEdited layout (.object ((layout.map Member.key).zip written))
      (.object ((layout.map Member.key).zip written)) :=
  .object (.refl h)

theorem EnumType.edited_refl (type : EnumType) :
    ObjectEdited layout type.toDocument type.toDocument := by
  rw [toDocument_eq]
  exact .refl (by simp [layout, written])

theorem ScalarType.edited_refl (type : ScalarType) : Edited type.toDocument type.toDocument := by
  cases type with
  | enum type => exact .body (EnumType.edited_refl type)
  | _ => exact .other (by simp [toDocument, tagged])

theorem FieldType.edited_refl (type : FieldType) : Edited type.toDocument type.toDocument := by
  cases type with
  | scalar type => exact .body (ScalarType.edited_refl type)
  | composite | ref | converted => exact .other (by simp [toDocument, tagged])

theorem FieldSpec.edited_refl (f : FieldSpec) : ObjectEdited layout f.toDocument f.toDocument := by
  rw [toDocument_eq]
  exact .refl (by simp [layout, written, FieldType.edited_refl])

theorem EntitySpec.edited_refl (e : EntitySpec) :
    ObjectEdited layout e.toDocument e.toDocument := by
  rw [toDocument_eq]
  exact .refl (by simp [layout, written, ItemsEdited.refl FieldSpec.edited_refl])

theorem SchemaSpec.edited_refl (spec : SchemaSpec) :
    ObjectEdited layout spec.toDocument spec.toDocument := by
  rw [toDocument_eq]
  exact .refl (by simp [layout, written, ItemsEdited.refl EntitySpec.edited_refl])

/-! ## Main statement -/

/-- Descriptions are read back as they were written, however they were edited in between. The naming
strategy and the converters are not part of a document. -/
theorem SchemaSpec.reads_back (spec : SchemaSpec) :
    ofDocument? spec.toDocument = some { entities := spec.entities } ∧
    ∀ d, ObjectEdited layout spec.toDocument d →
      ofDocument? d = some { entities := spec.entities } :=
  ⟨ofDocument?_of_edited spec.edited_refl, fun _ hedited => ofDocument?_of_edited hedited⟩

/-- All defaults left out, and notes put in at three levels. -/
theorem SchemaSpec.reads_back_noted :
    let type : EnumType := ⟨"Status", ["NEW", "DONE"], .ordinal⟩
    let field : FieldSpec := .scalar "status" (.enum type)
    let spec : SchemaSpec := { entities := [.ofTable "Order" [field]] }
    let notedType := object [("name", string "Status"), ("variants", ofStrings ["NEW", "DONE"]),
      ("encoding", string "Ordinal"), ("note", null)]
    let notedField := object [("name", string "status"),
      ("typ", tagged "Scalar" (tagged "Enum" notedType)), ("note", bool true)]
    let notedEntity := object [("name", string "Order"), ("fields", array [notedField])]
    let noted := object [("note", string "orders"), ("entities", array [notedEntity])]
    ObjectEdited layout spec.toDocument noted ∧
    ofDocument? noted = some { entities := spec.entities } := by
  intro type field spec notedType notedField notedEntity noted
  have htype : ObjectEdited EnumType.layout type.toDocument notedType :=
    .object <|
      .keep (.head _) rfl <|
      .keep (.tail _ (.head _)) rfl <|
      .keep (.tail _ (.tail _ (.head _))) rfl <|
      .putIn (by simp) .nil
  have hfield : ObjectEdited FieldSpec.layout field.toDocument notedField :=
    .object <|
      .keep (.head _) rfl <|
      .keep (.tail _ (.head _)) (.body (.body htype)) <|
      .leaveOut (m := .flag "primary_key" false) (by simp) rfl <|
      .leaveOut (m := .flag "foreign_key" false) (by simp) rfl <|
      .leaveOut (m := .flag "nullable" false) (by simp) rfl <|
      .leaveOut (m := .flag "auto_generated" false) (by simp) rfl <|
      .leaveOut (m := .flag "insertable" true) (by simp) rfl <|
      .leaveOut (m := .flag "updatable" true) (by simp) rfl <|
      .leaveOut (m := { key := "columns", default := some (ofStrings []) }) (by simp) rfl <|
      .putIn (by simp) .nil
  have hentity : ObjectEdited EntitySpec.layout
      (EntitySpec.toDocument (.ofTable "Order" [field])) notedEntity :=
    .object <|
      .keep (.head _) rfl <|
      .leaveOut (.tail _ (.head _)) rfl <|
      .leaveOut (.tail _ (.tail _ (.head _))) rfl <|
      .keep (.tail _ (.tail _ (.tail _ (.head _)))) (.array (.cons hfield .nil)) .nil
  have hspec : ObjectEdited layout spec.toDocument noted :=
    .object <|
      .putIn (by simp [layout]) <|
      .keep (.head _) (.array (.cons hentity .nil)) .nil
  exact ⟨hspec, (reads_back spec).2 noted hspec⟩

end RelMap
