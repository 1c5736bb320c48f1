import RelMap.Proofs.Schema.Acceptance
import RelMap.Row.Plan

/-!
# Order of declaration

Entities are resolved, validated and expanded in the order in which they are declared. Main
statement: the order makes no difference, neither to whether a description is accepted nor to any
entity of the schema. Validity only asks which entities there are, and expansion only looks drafts
up by name.
-/

namespace RelMap

namespace SchemaSpec

/-- Both describe the same entities, in any order, with the same naming and converters. -/
structure SameDeclarations (spec spec' : SchemaSpec) : Prop where
  naming : spec'.naming = spec.naming
  converters : spec'.converters = spec.converters
  entities : spec.entities.Perm spec'.entities

variable {spec spec' : SchemaSpec}

namespace SameDeclarations

theorem symm (h : spec.SameDeclarations spec') : spec'.SameDeclarations spec :=
  ⟨h.naming.symm, h.converters.symm, h.entities.symm⟩

theorem mem_iff (h : spec.SameDeclarations spec') (e : EntitySpec) :
    e ∈ spec'.entities ↔ e ∈ spec.entities :=
  h.entities.symm.mem_iff

theorem nodup (h : spec.SameDeclarations spec') (hdistinct : (spec.entities.map (·.name)).Nodup) :
    (spec'.entities.map (·.name)).Nodup :=
  (h.entities.map _).nodup_iff.mp hdistinct

/-! ## Acceptance -/

theorem isInline_eq (h : spec.SameDeclarations spec') : spec'.IsInline = spec.IsInline := by
  funext name
  simp only [IsInline, h.mem_iff]

theorem declares_eq (h : spec.SameDeclarations spec') : spec'.Declares = spec.Declares := by
  funext f
  simp only [Declares, h.mem_iff, h.converters]

theorem flagsFit_eq (h : spec.SameDeclarations spec') : spec'.FlagsFit = spec.FlagsFit := by
  funext f
  simp only [FlagsFit, h.isInline_eq]

theorem composes_eq (h : spec.SameDeclarations spec') : spec'.Composes = spec.Composes := by
  funext host component
  simp only [Composes, h.mem_iff]

theorem links_eq (h : spec.SameDeclarations spec') : spec'.Links = spec.Links := by
  funext f target
  simp only [Links, h.isInline_eq]

theorem isKeyType_eq (h : spec.SameDeclarations spec') : spec'.IsKeyType = spec.IsKeyType := by
  funext f
  simp only [IsKeyType, h.isInline_eq]

theorem valid (h : spec.SameDeclarations spec') (hvalid : spec.Valid) : spec'.Valid := by
  constructor
  · exact h.nodup hvalid.names_distinct
  · simpa only [h.mem_iff, h.declares_eq] using hvalid.declared
  · simpa only [h.mem_iff, h.flagsFit_eq] using hvalid.flags_fit
  · simpa only [h.composes_eq] using hvalid.acyclic
  · simpa only [h.mem_iff] using hvalid.key_count
  · simpa only [h.mem_iff, h.isKeyType_eq] using hvalid.key_type
  · simpa only [h.mem_iff, h.links_eq] using hvalid.target_key
  · simpa only [h.mem_iff, h.links_eq] using hvalid.column_count

theorem exists_toSchema (h : spec.SameDeclarations spec')
    (haccepted : ∃ s, spec.toSchema = .ok s) : ∃ s', spec'.toSchema = .ok s' := by
  obtain ⟨s, hs⟩ := haccepted
  exact (h.valid (valid_of_toSchema hs)).exists_toSchema

/-! ## Resolution -/

section

variable (h : spec.SameDeclarations spec') (hdistinct : (spec.entities.map (·.name)).Nodup)

include h hdistinct

theorem target_eq : spec'.target = spec.target := by
  funext name
  have hentity : spec'.entity? name = spec.entity? name :=
    find?_eq_of_mem_iff hdistinct (h.nodup hdistinct) h.mem_iff name
  rw [target, target, hentity]

theorem resolveKind_eq : spec'.resolveKind = spec.resolveKind := by
  funext qualified f
  have hconverter : spec'.converter? = spec.converter? := by
    funext name
    rw [converter?, converter?, h.converters]
  rw [resolveKind, resolveKind, h.target_eq hdistinct, hconverter]

theorem resolveEntity_eq : spec'.resolveEntity = spec.resolveEntity := by
  have hfield : spec'.resolveField = spec.resolveField := by
    funext entity f
    rw [resolveField, resolveField, h.resolveKind_eq hdistinct]
  funext e
  rw [resolveEntity, resolveEntity, hfield, h.naming]

end

end SameDeclarations

end SchemaSpec

/-! ## Expansion -/

namespace Draft

/-- Expansion reads the drafts through look-ups by name alone. -/
theorem Expands.congr {naming : NamingStrategy} {drafts drafts' : List Draft}
    {fields : List DraftField} {result : List Field}
    (hfind : ∀ name, find? drafts' name = find? drafts name)
    (h : Expands naming drafts fields result) : Expands naming drafts' fields result := by
  have hkey : ∀ target, targetKey naming drafts' target = targetKey naming drafts target := by
    intro target
    rw [targetKey, targetKey, hfind]
  induction h with
  | nil => exact .nil
  | scalar _ ih => exact .scalar ih
  | converted _ ih => exact .converted ih
  | ref htarget _ ih => exact .ref ((hkey _).trans htarget) ih
  | inline hdraft _ _ ihInner ih => exact .inline ((hfind _).trans hdraft) ihInner ih
  | foreignKey hdraft htarget _ _ ihInner ih =>
    exact .foreignKey ((hfind _).trans hdraft) ((hkey _).trans htarget) ihInner ih

end Draft

namespace Schema

variable {spec spec' : SchemaSpec} {s s' : Schema}

theorem mem_drafts_iff (h : spec.toSchema = .ok s) (d : Draft) :
    d ∈ s.drafts ↔ ∃ e ∈ spec.entities, spec.resolveEntity e = .ok d := by
  have hdrafts := Except.forall₂_of_mapM_ok (toSchema_ok h).2.1
  constructor
  · intro hd
    exact exists_left_of_forall₂ hdrafts hd
  · rintro ⟨e, he, hresolve⟩
    obtain ⟨d', hd', hresolve'⟩ := exists_right_of_forall₂ hdrafts he
    cases hresolve.symm.trans hresolve'
    exact hd'

theorem nodup_drafts (h : spec.toSchema = .ok s) : (s.drafts.map (·.info.name)).Nodup := by
  have hdistinct := (SchemaSpec.valid_of_toSchema h).names_distinct
  have hdrafts := (Except.forall₂_of_mapM_ok (toSchema_ok h).2.1).imp
    fun _ _ => SchemaSpec.resolvesEntity_of_resolveEntity hdistinct
  rwa [SchemaSpec.map_name_drafts hdrafts]

section

variable (hsame : spec.SameDeclarations spec') (h : spec.toSchema = .ok s)
  (h' : spec'.toSchema = .ok s')

include hsame h h'

theorem naming_eq_of_same : s'.naming = s.naming := by
  rw [(toSchema_ok h').1, (toSchema_ok h).1, hsame.naming]

theorem find?_drafts_eq_of_same (name : EntityName) :
    Draft.find? s'.drafts name = Draft.find? s.drafts name := by
  have hdistinct := (SchemaSpec.valid_of_toSchema h).names_distinct
  apply find?_eq_of_mem_iff (nodup_drafts h) (nodup_drafts h')
  intro d
  rw [mem_drafts_iff h', mem_drafts_iff h, hsame.resolveEntity_eq hdistinct]
  simp only [hsame.mem_iff]

theorem entity?_of_same {name : EntityName} {e : Entity} (he : s.entity? name = some e) :
    s'.entity? name = some e := by
  obtain ⟨d, hfind, hinfo, hexpands⟩ := exists_draft_of_entity? h he
  have hfinds := find?_drafts_eq_of_same hsame h h'
  have hexpands' := hexpands.congr hfinds
  rw [← naming_eq_of_same hsame h h'] at hexpands'
  have he' := entity?_of_find? h' ((hfinds name).trans hfind) hexpands'
  rwa [Draft.name_of_find? hfind, ← hinfo] at he'

theorem entity?_eq_of_same (name : EntityName) : s'.entity? name = s.entity? name := by
  apply Option.ext
  intro e
  constructor
  · exact entity?_of_same hsame.symm h' h
  · exact entity?_of_same hsame h h'

end

end Schema

/-! ## Entities of both schemas -/

structure Entity.MappedLike (s s' : Schema) (e e' : Entity) : Prop where
  table : e.table = e'.table
  kind : e.kind = e'.kind
  /-- The same field trees, with the entities they compose. -/
  fields : e.fields = e'.fields
  targets : e.fields.map (fun f => (f.name, f.target?)) =
    e'.fields.map (fun f => (f.name, f.target?))
  spans : e.spans.map (·.2) = e'.spans.map (·.2)
  columns : s.columns e = s'.columns e'
  widths : ∀ mode, RowPlan.width <$> RowPlan.ofEntity e mode =
    RowPlan.width <$> RowPlan.ofEntity e' mode

theorem Entity.MappedLike.of_naming {s s' : Schema} (hnaming : s'.naming = s.naming) (e : Entity) :
    e.MappedLike s s' e := by
  refine ⟨rfl, rfl, rfl, rfl, rfl, ?_, fun _ => rfl⟩
  rw [Schema.columns, Schema.columns, hnaming]

/-- The order in which entities are declared matters neither to whether a description is accepted
nor to any entity of the schema. -/
theorem SchemaSpec.toSchema_declaration_order {spec spec' : SchemaSpec}
    (hsame : spec.SameDeclarations spec') :
    ((∃ s, spec.toSchema = .ok s) ↔ ∃ s', spec'.toSchema = .ok s') ∧
      ∀ s s', spec.toSchema = .ok s → spec'.toSchema = .ok s' →
        ∀ name, Option.Rel (Entity.MappedLike s s') (s.entity? name) (s'.entity? name) := by
  refine ⟨⟨hsame.exists_toSchema, hsame.symm.exists_toSchema⟩, ?_⟩
  intro s s' h h' name
  rw [Schema.entity?_eq_of_same hsame h h' name]
  have hnaming := Schema.naming_eq_of_same hsame h h'
  cases s.entity? name with
  | none => exact .none
  | some e => exact .some (Entity.MappedLike.of_naming hnaming e)

/-- Persons are declared after the addresses and cities they are composed of, and here before. -/
theorem SchemaSpec.toSchema_declaration_order_reverse :
    Sample.spec.SameDeclarations
        { Sample.spec with entities := Sample.spec.entities.reverse } ∧
      ∃ s', SchemaSpec.toSchema { Sample.spec with entities := Sample.spec.entities.reverse } =
          .ok s' ∧
        Option.Rel (Entity.MappedLike Sample.schema s') (some Sample.person)
          (s'.entity? "Person") := by
  have hsame : Sample.spec.SameDeclarations
      { Sample.spec with entities := Sample.spec.entities.reverse } :=
    ⟨rfl, rfl, (List.reverse_perm _).symm⟩
  obtain ⟨haccepted, hmapped⟩ := toSchema_declaration_order hsame
  obtain ⟨s', h'⟩ := haccepted.mp ⟨_, Sample.toSchema_spec⟩
  exact ⟨hsame, s', h', hmapped _ s' Sample.toSchema_spec h' "Person"⟩

end RelMap
