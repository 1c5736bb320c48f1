import RelMap.Proofs.Row.Slots
import RelMap.Proofs.Schema.Expansion

/-!
# Keys of linked entities

In an accepted schema every foreign key and reference leads to an entity whose primary key is one
scalar field, and takes over the name and the type of its column.
-/

namespace RelMap

/-- The primary key of the entity is a scalar field with that column. -/
def Entity.KeyedBy (naming : NamingStrategy) (e : Entity) (key : KeyColumn) : Prop :=
  ∃ info, e.keyField? = some (.scalar info key.typ) ∧
    Enclosing.columnName {} naming info 0 [] = key.name

theorem Entity.KeyedBy.keyColumns {naming : NamingStrategy} {e : Entity} {key : KeyColumn}
    (h : e.KeyedBy naming key) :
    ∃ column, e.keyColumns naming = [column] ∧ column.name = key.name ∧ column.typ = key.typ := by
  obtain ⟨info, hkey, hname⟩ := h
  rw [keyColumns_of_keyField? hkey]
  exact ⟨_, rfl, hname, rfl⟩

namespace Field

mutual

/-- The foreign keys and references in the field have the key columns of their targets. -/
def Keyed (s : Schema) : Field → Prop
  | .inline _ _ fields => AllKeyed s fields
  | .foreignKey _ target key fields =>
    (⟨target, fields⟩ : Entity).KeyedBy s.naming key ∧ AllKeyed s fields
  | .ref _ target key => ∃ e, s.entity? target = some e ∧ e.KeyedBy s.naming key
  | .scalar _ _ | .converted _ _ => True
termination_by structural f => f

def AllKeyed (s : Schema) : List Field → Prop
  | [] => True
  | f :: rest => Keyed s f ∧ AllKeyed s rest
termination_by structural fs => fs

end

end Field

namespace Draft

variable {naming : NamingStrategy} {drafts : List Draft} {fields : List DraftField}
  {result : List Field}

theorem Expands.find?_key (h : Expands naming drafts fields result) {info : FieldInfo}
    {typ : ScalarType} (hkey : fields.find? (·.info.primaryKey) = some ⟨info, .scalar typ⟩) :
    result.find? (·.info.primaryKey) = some (.scalar info typ) := by
  induction h with
  | nil => cases hkey
  | @scalar info' typ' rest fields _ ih =>
    rw [List.find?_cons] at hkey ⊢
    dsimp only [Field.info] at hkey ⊢
    cases hprimary : info'.primaryKey with
    | true =>
      rw [hprimary] at hkey
      cases hkey
      rfl
    | false =>
      rw [hprimary] at hkey
      exact ih hkey
  | @converted info' _ _ _ _ ih | @ref info' _ _ _ _ _ _ ih | @inline info' _ _ _ _ _ _ _ _ _ ih
  | @foreignKey info' _ _ _ _ _ _ _ _ _ _ _ ih =>
    rw [List.find?_cons] at hkey ⊢
    dsimp only [Field.info] at hkey ⊢
    cases hprimary : info'.primaryKey with
    | true =>
      rw [hprimary] at hkey
      cases hkey
    | false =>
      rw [hprimary] at hkey
      exact ih hkey

theorem keyedBy_of_targetKey {target : EntityName} {key : KeyColumn} {d : Draft}
    (hkey : targetKey naming drafts target = .ok key) (hfind : find? drafts target = some d)
    (h : Expands naming drafts d.fields result) :
    (⟨d.info, result⟩ : Entity).KeyedBy naming key := by
  unfold targetKey at hkey
  rw [hfind, Option.bind_some, keyColumn?] at hkey
  split at hkey
  · next hcolumn =>
    split at hcolumn
    · next info typ hfield =>
      cases hcolumn
      cases hkey
      refine ⟨info, h.find?_key hfield, ?_⟩
      unfold Enclosing.columnName
      cases info.columnNames <;> rfl
    · cases hcolumn
  · cases hkey

end Draft

namespace Schema

variable {spec : SchemaSpec} {s : Schema}

theorem allKeyed_of_expands (h : spec.toSchema = .ok s) {fields : List DraftField}
    {result : List Field} (hfields : Draft.Expands s.naming s.drafts fields result) :
    Field.AllKeyed s result := by
  induction hfields with
  | nil => trivial
  | scalar _ ih | converted _ ih => exact ⟨trivial, ih⟩
  | inline _ _ _ ihInner ih => exact ⟨ihInner, ih⟩
  | foreignKey hfind hkey hinner _ ihInner ih =>
    exact ⟨⟨Draft.keyedBy_of_targetKey hkey hfind hinner, ihInner⟩, ih⟩
  | @ref info target key rest fields hkey _ ih =>
    refine ⟨?_, ih⟩
    cases hfind : Draft.find? s.drafts target with
    | none =>
      unfold Draft.targetKey at hkey
      rw [hfind] at hkey
      cases hkey
    | some d =>
      have hrel := find?_of_forall₂ target (toSchema_ok h).2.2.2
      rw [hfind] at hrel
      cases hentity : s.entities.find? (·.name == target) with
      | none =>
        rw [hentity] at hrel
        cases hrel
      | some e =>
        rw [hentity, Option.rel_some_some] at hrel
        obtain ⟨hinfo, hexpands⟩ := Draft.toEntity_ok hrel
        refine ⟨e, hentity, ?_⟩
        have hkeyed := Draft.keyedBy_of_targetKey hkey hfind hexpands
        rw [← hinfo] at hkeyed
        exact hkeyed

/-- In an accepted schema the key column of a link is that of its target. -/
theorem allKeyed_of_entity? (h : spec.toSchema = .ok s) {name : EntityName} {e : Entity}
    (he : s.entity? name = some e) : Field.AllKeyed s e.fields := by
  obtain ⟨d, _, _, hfields⟩ := exists_draft_of_entity? h he
  exact allKeyed_of_expands h hfields

end Schema

end RelMap
