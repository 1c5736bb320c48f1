import RelMap.Proofs.Schema.Keys
import RelMap.Row.Encode

/-!
# The shape of encoded records

A composite contributes the values of whatever record stands in for it, and a link the key of its
reference as it is. So the values of a record line up with the columns of its table if the records
in it are those of the entities that the fields name, and if keys are single values.
-/

namespace RelMap

/-- A link to the entity: one of its records, or a reference with a single key value. -/
def FieldValue.LinksTo (target : EntityName) : FieldValue → Prop
  | record _ content => content.entity = target
  | reference r => ∀ key ∈ r.key, key.length = 1
  | null | scalar _ | enum _ => True

namespace Field

mutual

/-- The records in the value are those that the field names, and its keys are single values. -/
def Suits : Field → FieldValue → Prop
  | .inline _ target fields, v => ∀ shared ∈ v.record?,
    shared.content.entity = target.name ∧ AllSuit fields shared.content.values
  | .foreignKey _ target _ _, v => v.LinksTo target.name
  | .ref _ target _, v => v.LinksTo target
  | .scalar _ _, _ | .converted _ _, _ => True
termination_by structural f => f

def AllSuit : List Field → List FieldValue → Prop
  | f :: fields, v :: values => Suits f v ∧ AllSuit fields values
  | _, _ => True
termination_by structural fields => fields

end

variable {s : Schema} {values : List SqlValue} {path : String} {v : FieldValue}

/-! ## Plain fields -/

theorem length_encode_scalar {info : FieldInfo} {typ : ScalarType}
    (h : Encode.field s (.scalar info typ) path v = .ok values) : values.length = 1 := by
  cases v with
  | null =>
    cases h
    rfl
  | scalar value =>
    cases typ <;> cases h <;> rfl
  | enum variant =>
    cases typ with
    | enum type =>
      obtain ⟨value, -, h⟩ := Except.bind_eq_ok h
      cases h
      rfl
    | _ => cases h
  | record handle content => cases typ <;> cases h
  | reference r => cases typ <;> cases h

theorem length_converter_encode {converter : Converter}
    (h : converter.encode v path = .ok values) : values.length = converter.columns.length := by
  unfold Converter.encode at h
  split at h
  · cases h
  · split at h
    · next hlength =>
      cases h
      exact hlength
    · cases h

theorem length_encode_converted {info : FieldInfo} {converter : Converter}
    (h : Encode.field s (.converted info converter) path v = .ok values) :
    values.length = converter.columns.length := by
  cases v with
  | null =>
    cases h
    exact List.length_replicate
  | _ =>
    simp only [Encode.field, Encode.plainField] at h
    exact length_converter_encode (Except.mapError_eq_ok h)

/-! ## Links -/

/-- The value at a position takes the width of its field, also when it is missing. -/
theorem length_encode_nth {f : Field} {index : Nat} {vs : List FieldValue}
    (hf : ∀ v values, Encode.field s f path v = .ok values → values.length = f.width)
    (h : Encode.nth s f path index vs = .ok values) : values.length = f.width := by
  induction vs generalizing index with
  | nil =>
    cases h
    exact List.length_replicate
  | cons v vs ih =>
    cases index with
    | zero => exact hf v values h
    | succ index => exact ih h

theorem length_encode_key {e : Entity} {key : KeyColumn} {r : Record}
    (he : s.entity? r.entity = some e) (hkeyed : e.KeyedBy s.naming key)
    (h : Encode.key s r = .ok values) : values.length = 1 := by
  obtain ⟨entity, vs⟩ := r
  obtain ⟨info, hkey, -⟩ := hkeyed
  rw [Encode.key, Schema.entity_of_entity? he] at h
  obtain ⟨_, ⟨⟩, h⟩ := Except.bind_eq_ok h
  rw [hkey] at h
  split at h
  · next f _ hf =>
    cases hf
    exact length_encode_nth (fun _ _ => length_encode_scalar) h
  · cases h

theorem length_encode_link {f : Field} {e : Entity} {key : KeyColumn}
    (hf : (∃ info fields, f = .foreignKey info e.toEntityInfo key fields) ∨
      ∃ info, f = .ref info e.name key)
    (he : s.entity? e.name = some e) (hkeyed : e.KeyedBy s.naming key) (hlinks : v.LinksTo e.name)
    (h : Encode.field s f path v = .ok values) : values.length = 1 := by
  cases v with
  | null =>
    rcases hf with ⟨info, fields, rfl⟩ | ⟨info, rfl⟩ <;> cases h <;> rfl
  | scalar value =>
    rcases hf with ⟨info, fields, rfl⟩ | ⟨info, rfl⟩ <;> cases h <;> rfl
  | enum variant =>
    rcases hf with ⟨info, fields, rfl⟩ | ⟨info, rfl⟩ <;> cases h
  | record handle content =>
    have he' : s.entity? content.entity = some e := by
      rw [show content.entity = e.name from hlinks]
      exact he
    have hrun : Encode.key s content = .ok values := by
      rcases hf with ⟨info, fields, rfl⟩ | ⟨info, rfl⟩ <;> exact h
    exact length_encode_key he' hkeyed hrun
  | reference r =>
    have hvalues : values = r.keyValues 1 := by
      rcases hf with ⟨info, fields, rfl⟩ | ⟨info, rfl⟩ <;> cases h <;> rfl
    rw [hvalues, Reference.keyValues]
    cases hkey : r.key with
    | none => rfl
    | some key => exact hlinks key hkey

/-! ## Records -/

theorem length_of_checkArity {e : Entity} {vs : List FieldValue} {u : Unit}
    (h : e.checkArity vs = .ok u) : vs.length = e.fields.length := by
  unfold Entity.checkArity at h
  split at h
  · next hlength => exact hlength
  · cases h

theorem encodeRecord_ok {e : Entity} {vs : List FieldValue} (he : s.entity? e.name = some e)
    (h : Encode.record s ⟨e.name, vs⟩ = .ok values) :
    vs.length = e.fields.length ∧ Encode.fields s e.name e.fields vs = .ok values := by
  rw [Encode.record, Schema.entity_of_entity? he] at h
  obtain ⟨_, ⟨⟩, h⟩ := Except.bind_eq_ok h
  obtain ⟨_, hchecked, h⟩ := Except.bind_eq_ok h
  exact ⟨length_of_checkArity (Except.mapError_eq_ok hchecked), h⟩

theorem encodeFields_ok {f : Field} {fields : List Field} {vs : List FieldValue}
    {entity : EntityName} (hlength : vs.length = (f :: fields).length)
    (h : Encode.fields s entity (f :: fields) vs = .ok values) :
    ∃ v rest first others, vs = v :: rest ∧ rest.length = fields.length ∧
      Encode.field s f s!"{entity}.{f.name}" v = .ok first ∧
      Encode.fields s entity fields rest = .ok others ∧ values = first ++ others := by
  cases vs with
  | nil => cases hlength
  | cons v rest =>
    rw [Encode.fields] at h
    obtain ⟨first, hfirst, h⟩ := Except.bind_eq_ok h
    obtain ⟨others, hothers, h⟩ := Except.bind_eq_ok h
    cases h
    exact ⟨v, rest, first, others, rfl, Nat.succ.inj hlength, hfirst, hothers, rfl⟩

mutual

theorem length_encode {f : Field} {v : FieldValue} {path : String} {values : List SqlValue}
    (hcoherent : f.Coherent s) (hkeyed : f.Keyed s) (hsuits : f.Suits v)
    (h : Encode.field s f path v = .ok values) : values.length = f.width := by
  cases f with
  | scalar info typ => exact length_encode_scalar h
  | converted info converter => exact length_encode_converted h
  | foreignKey info target key fields =>
    exact length_encode_link (.inl ⟨info, fields, rfl⟩) hcoherent.1 hkeyed.1 hsuits h
  | ref info target key =>
    obtain ⟨e, he, hkeyed⟩ := hkeyed
    cases Schema.name_of_entity? he
    exact length_encode_link (.inr ⟨info, rfl⟩) he hkeyed hsuits h
  | inline info target fields =>
    cases v with
    | null =>
      cases h
      exact List.length_replicate
    | record handle content =>
      obtain ⟨entity, vs⟩ := content
      obtain ⟨rfl, hall⟩ := hsuits ⟨handle, ⟨entity, vs⟩⟩ rfl
      have hrecord : Encode.record s ⟨target.name, vs⟩ = .ok values := h
      obtain ⟨hlength, hfields⟩ := encodeRecord_ok (e := ⟨target, fields⟩) hcoherent.1 hrecord
      exact length_encodeFields hcoherent.2 hkeyed hall hlength hfields
    | _ => cases h
termination_by structural f

theorem length_encodeFields {fields : List Field} {vs : List FieldValue} {entity : EntityName}
    {values : List SqlValue} (hcoherent : AllCoherent s fields) (hkeyed : AllKeyed s fields)
    (hsuits : AllSuit fields vs) (hlength : vs.length = fields.length)
    (h : Encode.fields s entity fields vs = .ok values) : values.length = widths fields := by
  cases fields with
  | nil =>
    rw [List.length_eq_zero_iff.mp hlength] at h
    cases h
    rfl
  | cons f fields =>
    obtain ⟨v, rest, first, others, rfl, hlength, hfirst, hothers, rfl⟩ := encodeFields_ok hlength h
    rw [List.length_append, widths, length_encode hcoherent.1 hkeyed.1 hsuits.1 hfirst,
      length_encodeFields hcoherent.2 hkeyed.2 hsuits.2 hlength hothers]
termination_by structural fields

end

/-- The span of a field's columns holds the values of the field, and nothing else. -/
theorem slice_encodeFields {fields : List Field} {vs : List FieldValue} {entity : EntityName}
    {values : List SqlValue} (front : List SqlValue) (hcoherent : AllCoherent s fields)
    (hkeyed : AllKeyed s fields) (hsuits : AllSuit fields vs) (hlength : vs.length = fields.length)
    (h : Encode.fields s entity fields vs = .ok values) {i : Nat} {f : Field} {span : Span}
    (hspan : (spansFrom front.length fields)[i]? = some (f, span)) :
    ∃ v, vs[i]? = some v ∧
      Encode.field s f s!"{entity}.{f.name}" v = .ok (span.slice (front ++ values)) := by
  induction fields generalizing front vs values i with
  | nil => cases hspan
  | cons g fields ih =>
    obtain ⟨v, rest, first, others, rfl, hlength, hfirst, hothers, rfl⟩ := encodeFields_ok hlength h
    have hwidth := length_encode hcoherent.1 hkeyed.1 hsuits.1 hfirst
    cases i with
    | zero =>
      cases hspan
      refine ⟨v, rfl, ?_⟩
      rw [Span.slice, Span.width_mk_add, List.drop_left, ← hwidth, List.take_left]
      exact hfirst
    | succ i =>
      rw [← List.append_assoc]
      apply ih (front ++ first) hcoherent.2 hkeyed.2 hsuits.2 hlength hothers
      rw [List.length_append, hwidth]
      exact hspan

end Field

end RelMap
