import RelMap.Proofs.Schema.Resolution
import RelMap.Proofs.Schema.Validity

/-!
# Accepted schemas

A schema is built from a description exactly if the description is valid. Validity is stated of the
declared fields alone, in no particular order, and carried over to what they resolve to.
-/

namespace RelMap

def EntitySpec.keyFields (e : EntitySpec) : List FieldSpec := e.fields.filter (·.primaryKey)

namespace SchemaSpec

/-! ## Valid descriptions -/

/-- The entity of the first name has a composite field of the second one, inline or through a
foreign key. -/
def Composes (spec : SchemaSpec) (host component : EntityName) : Prop :=
  ∃ e ∈ spec.entities, e.name = host ∧ ∃ f ∈ e.fields, f.typ = .composite component

def Links (spec : SchemaSpec) (f : FieldSpec) (target : EntityName) : Prop :=
  f.typ = .ref target ∨ f.typ = .composite target ∧ ¬ spec.IsInline target

def IsKeyType (spec : SchemaSpec) (f : FieldSpec) : Prop :=
  (∃ typ, f.typ = .scalar typ) ∨ ∃ name, f.typ = .composite name ∧ spec.IsInline name

structure Valid (spec : SchemaSpec) : Prop where
  names_distinct : (spec.entities.map (·.name)).Nodup
  declared : ∀ e ∈ spec.entities, ∀ f ∈ e.fields, spec.Declares f
  flags_fit : ∀ e ∈ spec.entities, ∀ f ∈ e.fields, spec.FlagsFit f
  acyclic : ∀ name, ¬ Relation.TransGen spec.Composes name name
  key_count : ∀ e ∈ spec.entities, e.kind.AllowsKeys e.keyFields.length
  key_type : ∀ e ∈ spec.entities, ∀ f ∈ e.keyFields, spec.IsKeyType f
  target_key : ∀ e ∈ spec.entities, ∀ f ∈ e.fields, ∀ target ∈ spec.entities,
    spec.Links f target.name → ∃ key typ, target.keyFields = [key] ∧ key.typ = .scalar typ
  column_count : ∀ e ∈ spec.entities, ∀ f ∈ e.fields, ∀ target ∈ spec.entities,
    spec.Links f target.name → f.columns.length ≤ 1

/-! ## Fields and what they resolve to -/

variable {spec : SchemaSpec} {f : FieldSpec} {kind : DraftKind} {target : EntityName}

theorem Resolves.component_iff (h : spec.Resolves f kind) :
    kind.component? = some target ↔ f.typ = .composite target := by
  cases h with
  | scalar htyp | ref htyp | converted htyp =>
    rw [htyp]
    exact iff_of_false nofun nofun
  | inline htyp | foreignKey htyp =>
    rw [htyp]
    simp only [DraftKind.component?, Option.some.injEq, FieldType.composite.injEq]

theorem Resolves.link_iff (h : spec.Resolves f kind) :
    kind.link? = some target ↔ spec.Links f target := by
  unfold Links
  cases h with
  | scalar htyp | converted htyp =>
    rw [htyp]
    exact iff_of_false nofun fun h => h.elim nofun fun h => nomatch h.1
  | inline htyp _ hinline =>
    rw [htyp]
    apply iff_of_false nofun
    rintro (h | ⟨h, hnot⟩)
    · cases h
    · cases h
      exact hnot hinline
  | foreignKey htyp _ hinline =>
    rw [htyp]
    constructor
    · rintro ⟨⟩
      exact .inr ⟨rfl, hinline⟩
    · rintro (h | ⟨h, -⟩) <;> cases h
      rfl
  | ref htyp =>
    rw [htyp]
    constructor
    · rintro ⟨⟩
      exact .inl rfl
    · rintro (h | ⟨h, -⟩) <;> cases h
      rfl

theorem Resolves.isKey_iff (h : spec.Resolves f kind) : kind.IsKey ↔ spec.IsKeyType f := by
  unfold IsKeyType
  cases h with
  | scalar htyp => exact iff_of_true trivial (.inl ⟨_, htyp⟩)
  | inline htyp _ hinline => exact iff_of_true trivial (.inr ⟨_, htyp, hinline⟩)
  | foreignKey htyp _ hinline =>
    rw [htyp]
    apply iff_of_false id
    rintro (⟨_, h⟩ | ⟨_, h, hinline'⟩) <;> cases h
    exact hinline hinline'
  | ref htyp | converted htyp =>
    rw [htyp]
    exact iff_of_false id fun h => h.elim nofun nofun

theorem Resolves.scalar_iff (h : spec.Resolves f kind) :
    (∃ typ, kind = .scalar typ) ↔ ∃ typ, f.typ = .scalar typ := by
  cases h with
  | scalar htyp => exact iff_of_true ⟨_, rfl⟩ ⟨_, htyp⟩
  | inline htyp | foreignKey htyp | ref htyp | converted htyp =>
    rw [htyp]
    exact iff_of_false nofun nofun

theorem Resolves.declared_of_component (h : spec.Resolves f kind)
    (hcomponent : kind.component? = some target) : ∃ e ∈ spec.entities, e.name = target := by
  have hdeclares := h.declares
  rw [Declares, h.component_iff.mp hcomponent] at hdeclares
  exact hdeclares

theorem Resolves.declared_of_link (h : spec.Resolves f kind) (hlink : kind.link? = some target) :
    ∃ e ∈ spec.entities, e.name = target := by
  have hdeclares := h.declares
  rcases h.link_iff.mp hlink with htyp | ⟨htyp, -⟩ <;> rwa [Declares, htyp] at hdeclares

/-! ## Entities and what they resolve to -/

section

variable {e : EntitySpec} {d : Draft}

theorem ResolvesEntity.keyFields (h : spec.ResolvesEntity e d) :
    List.Forall₂ spec.ResolvesField e.keyFields d.keyFields := by
  apply List.rel_filter _ h.fields
  intro f resolved hf
  dsimp only
  rw [hf.primaryKey]

theorem ResolvesEntity.keysFit_iff (h : spec.ResolvesEntity e d) :
    d.KeysFit ↔ e.kind.AllowsKeys e.keyFields.length ∧ ∀ f ∈ e.keyFields, spec.IsKeyType f := by
  unfold Draft.KeysFit
  rw [h.kind, ← h.keyFields.length_eq]
  apply and_congr_right
  intro _
  constructor
  · intro hkeys f hf
    obtain ⟨resolved, hmem, hresolved⟩ := exists_right_of_forall₂ h.keyFields hf
    exact hresolved.kind.isKey_iff.mp (hkeys resolved hmem)
  · intro hkeys resolved hmem
    obtain ⟨f, hf, hresolved⟩ := exists_left_of_forall₂ h.keyFields hmem
    exact hresolved.kind.isKey_iff.mpr (hkeys f hf)

theorem ResolvesEntity.scalarKeyed_iff (h : spec.ResolvesEntity e d) :
    d.ScalarKeyed ↔ ∃ key typ, e.keyFields = [key] ∧ key.typ = .scalar typ := by
  have hkeys := h.keyFields
  unfold Draft.ScalarKeyed
  constructor
  · rintro ⟨info, typ, hfields⟩
    rw [hfields] at hkeys
    obtain ⟨key, rest, hkey, hrest, heq⟩ := List.forall₂_cons_right_iff.mp hkeys
    cases hrest
    obtain ⟨typ', htyp⟩ := hkey.kind.scalar_iff.mp ⟨typ, rfl⟩
    exact ⟨key, typ', heq, htyp⟩
  · rintro ⟨key, typ, hfields, htyp⟩
    rw [hfields] at hkeys
    obtain ⟨⟨info, kind⟩, rest, hkey, hrest, heq⟩ := List.forall₂_cons_left_iff.mp hkeys
    cases hrest
    obtain ⟨typ', rfl⟩ := hkey.kind.scalar_iff.mpr ⟨typ, htyp⟩
    exact ⟨info, typ', heq⟩

end

section

variable {drafts : List Draft} (hdrafts : List.Forall₂ spec.ResolvesEntity spec.entities drafts)
  (hdistinct : (spec.entities.map (·.name)).Nodup)

include hdrafts

theorem map_name_drafts : drafts.map (·.info.name) = spec.entities.map (·.name) := by
  generalize spec.entities = entities at hdrafts
  induction hdrafts with
  | nil => rfl
  | cons hd _ ih => rw [List.map_cons, List.map_cons, hd.name, ih]

theorem exists_entity_of_find? {name : EntityName} {d : Draft}
    (hfind : Draft.find? drafts name = some d) :
    ∃ e ∈ spec.entities, e.name = name ∧ spec.ResolvesEntity e d := by
  obtain ⟨e, he, hresolves⟩ := exists_left_of_forall₂ hdrafts (List.mem_of_find?_eq_some hfind)
  exact ⟨e, he, hresolves.name.symm.trans (Draft.name_of_find? hfind), hresolves⟩

include hdistinct

theorem exists_draft_of_mem {e : EntitySpec} (he : e ∈ spec.entities) :
    ∃ d ∈ drafts, Draft.find? drafts e.name = some d ∧ spec.ResolvesEntity e d := by
  obtain ⟨d, hd, hresolves⟩ := exists_right_of_forall₂ hdrafts he
  have hdraft : (drafts.map (·.info.name)).Nodup := by rwa [map_name_drafts hdrafts]
  exact ⟨d, hd, (find?_eq_some_iff_of_nodup hdraft e.name d).mpr ⟨hd, hresolves.name⟩, hresolves⟩

theorem composes_eq : Draft.Composes drafts = spec.Composes := by
  funext host component
  apply propext
  constructor
  · rintro ⟨d, hfind, resolved, hmem, hcomponent⟩
    obtain ⟨e, he, hname, hresolves⟩ := exists_entity_of_find? hdrafts hfind
    obtain ⟨f, hf, hresolved⟩ := exists_left_of_forall₂ hresolves.fields hmem
    exact ⟨e, he, hname, f, hf, hresolved.kind.component_iff.mp hcomponent⟩
  · rintro ⟨e, he, rfl, f, hf, htyp⟩
    obtain ⟨d, -, hfind, hresolves⟩ := exists_draft_of_mem hdrafts hdistinct he
    obtain ⟨resolved, hmem, hresolved⟩ := exists_right_of_forall₂ hresolves.fields hf
    exact ⟨d, hfind, resolved, hmem, hresolved.kind.component_iff.mpr htyp⟩

theorem linkFits_iff (hkeys : ∀ d ∈ drafts, d.KeysFit) {f : FieldSpec} {resolved : DraftField}
    (h : spec.ResolvesField f resolved) :
    Draft.LinkFits drafts resolved ↔
      ∀ target ∈ spec.entities, spec.Links f target.name →
        (∃ key typ, target.keyFields = [key] ∧ key.typ = .scalar typ) ∧ f.columns.length ≤ 1 := by
  constructor
  · intro hfits target htarget hlinks
    obtain ⟨⟨d, hfind, hkeyed⟩, hcolumns⟩ := hfits target.name (h.kind.link_iff.mpr hlinks)
    obtain ⟨d', hd', hfind', hresolves⟩ := exists_draft_of_mem hdrafts hdistinct htarget
    cases hfind.symm.trans hfind'
    rw [← h.columns]
    exact ⟨hresolves.scalarKeyed_iff.mp (hkeyed.scalarKeyed (hkeys d hd')), hcolumns⟩
  · intro hlinks name hname
    obtain ⟨target, htarget, rfl⟩ := h.kind.declared_of_link hname
    obtain ⟨hkeyed, hcolumns⟩ := hlinks target htarget (h.kind.link_iff.mp hname)
    obtain ⟨d, -, hfind, hresolves⟩ := exists_draft_of_mem hdrafts hdistinct htarget
    rw [h.columns]
    exact ⟨⟨d, hfind, (hresolves.scalarKeyed_iff.mpr hkeyed).simplyKeyed⟩, hcolumns⟩

theorem forall_linkFits_iff (hkeys : ∀ d ∈ drafts, d.KeysFit) :
    (∀ d ∈ drafts, ∀ f ∈ d.fields, Draft.LinkFits drafts f) ↔
      ∀ e ∈ spec.entities, ∀ f ∈ e.fields, ∀ target ∈ spec.entities, spec.Links f target.name →
        (∃ key typ, target.keyFields = [key] ∧ key.typ = .scalar typ) ∧ f.columns.length ≤ 1 := by
  constructor
  · intro hfits e he f hf
    obtain ⟨d, hd, hresolves⟩ := exists_right_of_forall₂ hdrafts he
    obtain ⟨resolved, hmem, hresolved⟩ := exists_right_of_forall₂ hresolves.fields hf
    exact (linkFits_iff hdrafts hdistinct hkeys hresolved).mp (hfits d hd resolved hmem)
  · intro hlinks d hd resolved hmem
    obtain ⟨e, he, hresolves⟩ := exists_left_of_forall₂ hdrafts hd
    obtain ⟨f, hf, hresolved⟩ := exists_left_of_forall₂ hresolves.fields hmem
    exact (linkFits_iff hdrafts hdistinct hkeys hresolved).mpr (hlinks e he f hf)

omit hdistinct in
theorem forall_keysFit_iff :
    (∀ d ∈ drafts, d.KeysFit) ↔ ∀ e ∈ spec.entities,
      e.kind.AllowsKeys e.keyFields.length ∧ ∀ f ∈ e.keyFields, spec.IsKeyType f := by
  constructor
  · intro hkeys e he
    obtain ⟨d, hd, hresolves⟩ := exists_right_of_forall₂ hdrafts he
    exact hresolves.keysFit_iff.mp (hkeys d hd)
  · intro hkeys d hd
    obtain ⟨e, he, hresolves⟩ := exists_left_of_forall₂ hdrafts hd
    exact hresolves.keysFit_iff.mpr (hkeys e he)

/-- What a resolved field needs for its expansion is declared and has a scalar key. -/
theorem expandable (hkeys : ∀ d ∈ drafts, d.KeysFit)
    (hlinks : ∀ d ∈ drafts, ∀ f ∈ d.fields, Draft.LinkFits drafts f) {d : Draft} (hd : d ∈ drafts)
    {f : DraftField} (hf : f ∈ d.fields) : Draft.Expandable drafts f := by
  constructor
  · intro name hname
    obtain ⟨e, he, hresolves⟩ := exists_left_of_forall₂ hdrafts hd
    obtain ⟨declared, -, hresolved⟩ := exists_left_of_forall₂ hresolves.fields hf
    obtain ⟨target, htarget, rfl⟩ := hresolved.kind.declared_of_component hname
    obtain ⟨found, -, hfind, -⟩ := exists_draft_of_mem hdrafts hdistinct htarget
    exact ⟨found, hfind⟩
  · intro name hname
    obtain ⟨⟨found, hfind, hkeyed⟩, -⟩ := hlinks d hd f hf name hname
    exact ⟨found, hfind, hkeyed.scalarKeyed (hkeys found (List.mem_of_find?_eq_some hfind))⟩

end

/-! ## Descriptions and schemas -/

theorem checkDistinct_eq_ok_iff (seen : List EntityName) (entities : List EntitySpec) :
    checkDistinct seen entities = .ok () ↔
      (entities.map (·.name)).Nodup ∧ ∀ e ∈ entities, e.name ∉ seen := by
  induction entities generalizing seen with
  | nil => exact iff_of_true rfl ⟨.nil, List.forall_mem_nil _⟩
  | cons e rest ih =>
    rw [checkDistinct, List.map_cons, List.nodup_cons, List.forall_mem_cons]
    split
    · next hseen =>
      apply iff_of_false
      · intro h
        cases h
      · exact fun h => h.2.1 hseen
    · next hseen =>
      rw [ih]
      simp only [List.mem_cons, not_or, List.mem_map, not_exists, not_and]
      grind

theorem valid_of_toSchema {s : Schema} (h : spec.toSchema = .ok s) : spec.Valid := by
  obtain ⟨-, hmapM, hvalid, -⟩ := Schema.toSchema_ok h
  have hdistinct : (spec.entities.map (·.name)).Nodup := by
    obtain ⟨_, hcheck, -⟩ := Except.bind_eq_ok h
    exact ((checkDistinct_eq_ok_iff [] spec.entities).mp hcheck).1
  have hdrafts : List.Forall₂ spec.ResolvesEntity spec.entities s.drafts :=
    (Except.forall₂_of_mapM_ok hmapM).imp fun e d => resolvesEntity_of_resolveEntity hdistinct
  have hnames : (s.drafts.map (·.info.name)).Nodup := by rwa [map_name_drafts hdrafts]
  obtain ⟨hacyclic, hkeys, hlinks⟩ :=
    (Draft.forall_validate_iff hnames).mp (Except.forM_eq_ok_iff.mp hvalid)
  rw [composes_eq hdrafts hdistinct] at hacyclic
  have hlinks' := (forall_linkFits_iff hdrafts hdistinct hkeys).mp hlinks
  have hkeys' := (forall_keysFit_iff hdrafts).mp hkeys
  have hresolved : ∀ e ∈ spec.entities, ∀ f ∈ e.fields, ∃ kind, spec.Resolves f kind := by
    intro e he f hf
    obtain ⟨d, -, hresolves⟩ := exists_right_of_forall₂ hdrafts he
    obtain ⟨resolved, -, hresolved⟩ := exists_right_of_forall₂ hresolves.fields hf
    exact ⟨resolved.kind, hresolved.kind⟩
  constructor
  · exact hdistinct
  · intro e he f hf
    obtain ⟨kind, hkind⟩ := hresolved e he f hf
    exact hkind.declares
  · intro e he f hf
    obtain ⟨kind, hkind⟩ := hresolved e he f hf
    exact hkind.flagsFit
  · exact hacyclic
  · exact fun e he => (hkeys' e he).1
  · exact fun e he => (hkeys' e he).2
  · exact fun e he f hf target htarget h => (hlinks' e he f hf target htarget h).1
  · exact fun e he f hf target htarget h => (hlinks' e he f hf target htarget h).2

theorem Valid.exists_toSchema (h : spec.Valid) : ∃ s, spec.toSchema = .ok s := by
  have hdistinct := h.names_distinct
  have hcheck : checkDistinct [] spec.entities = .ok () :=
    (checkDistinct_eq_ok_iff [] spec.entities).mpr ⟨hdistinct, nofun⟩
  obtain ⟨drafts, hmapM⟩ : ∃ drafts, spec.entities.mapM spec.resolveEntity = .ok drafts :=
    Except.exists_mapM_ok fun e he =>
      exists_resolveEntity hdistinct (h.declared e he) (h.flags_fit e he)
  have hdrafts : List.Forall₂ spec.ResolvesEntity spec.entities drafts :=
    (Except.forall₂_of_mapM_ok hmapM).imp fun e d => resolvesEntity_of_resolveEntity hdistinct
  have hnames : (drafts.map (·.info.name)).Nodup := by rwa [map_name_drafts hdrafts]
  have hkeys : ∀ d ∈ drafts, d.KeysFit :=
    (forall_keysFit_iff hdrafts).mpr fun e he => ⟨h.key_count e he, h.key_type e he⟩
  have hlinks : ∀ d ∈ drafts, ∀ f ∈ d.fields, Draft.LinkFits drafts f :=
    (forall_linkFits_iff hdrafts hdistinct hkeys).mpr fun e he f hf target htarget hlink =>
      ⟨h.target_key e he f hf target htarget hlink, h.column_count e he f hf target htarget hlink⟩
  have hacyclic : ∀ name, ¬ Relation.TransGen (Draft.Composes drafts) name name := by
    rw [composes_eq hdrafts hdistinct]
    exact h.acyclic
  have hvalid := (Draft.forall_validate_iff hnames).mpr ⟨hacyclic, hkeys, hlinks⟩
  have hentities : ∃ entities, drafts.mapM (Draft.toEntity spec.naming drafts) = .ok entities := by
    apply Except.exists_mapM_ok
    intro d hd
    have hclear := (Draft.forall_checkCycles_iff hnames).mpr hacyclic d hd
    rw [Draft.checkCycles_eq_ok_iff (Draft.remain_without drafts _)] at hclear
    have hexpandable : ∀ d ∈ drafts, ∀ f ∈ d.fields, Draft.Expandable drafts f :=
      fun d hd f hf => expandable hdrafts hdistinct hkeys hlinks hd hf
    obtain ⟨fields, hfields⟩ := Draft.exists_expand spec.naming hexpandable
      (Draft.remain_without drafts _) (hexpandable d hd) hclear
    exact ⟨⟨d.info, fields⟩, by rw [Draft.toEntity, hfields]; rfl⟩
  obtain ⟨entities, hentities⟩ := hentities
  refine ⟨⟨entities, spec.naming, drafts⟩, ?_⟩
  rw [toSchema, hcheck, hmapM]
  change (do drafts.forM (Draft.validate drafts); _) = _
  rw [Except.forM_eq_ok_iff.mpr hvalid]
  change (do let entities ← drafts.mapM (Draft.toEntity spec.naming drafts); _) = _
  rw [hentities]
  rfl

/-- Descriptions are accepted exactly if they are valid. -/
theorem exists_toSchema_iff_valid (spec : SchemaSpec) :
    (∃ s, spec.toSchema = .ok s) ↔ spec.Valid := by
  constructor
  · rintro ⟨s, h⟩
    exact valid_of_toSchema h
  · exact Valid.exists_toSchema

end SchemaSpec

end RelMap
