import RelMap.Proofs.Schema.Cycles

/-!
# Resolved entities

A field resolves if the names in it are declared and its flags fit its type. Resolution keeps what
is declared of the field and says what kind of field it is.
-/

namespace RelMap

namespace SchemaSpec

/-! ## Declared names -/

def Declares (spec : SchemaSpec) (f : FieldSpec) : Prop :=
  match f.typ with
  | .scalar _ => True
  | .composite name | .ref name => ∃ e ∈ spec.entities, e.name = name
  | .converted name => ∃ c ∈ spec.converters, c.1 = name

def IsInline (spec : SchemaSpec) (name : EntityName) : Prop :=
  ∃ e ∈ spec.entities, e.name = name ∧ e.kind = .inline

/-- Scalars and converted fields are no foreign keys, inline entities have no key to refer to, and
converted fields are no keys either. -/
def FlagsFit (spec : SchemaSpec) (f : FieldSpec) : Prop :=
  match f.typ with
  | .scalar _ => f.foreignKey = false
  | .composite name => spec.IsInline name → f.foreignKey = false
  | .ref name => ¬ spec.IsInline name
  | .converted _ => f.primaryKey = false ∧ f.foreignKey = false

inductive Resolves (spec : SchemaSpec) (f : FieldSpec) : DraftKind → Prop
  | scalar {typ : ScalarType} : f.typ = .scalar typ → f.foreignKey = false →
    Resolves spec f (.scalar typ)
  | inline {target : EntitySpec} : f.typ = .composite target.name → target ∈ spec.entities →
    spec.IsInline target.name → f.foreignKey = false → Resolves spec f (.inline target.name)
  | foreignKey {target : EntitySpec} : f.typ = .composite target.name → target ∈ spec.entities →
    ¬ spec.IsInline target.name → Resolves spec f (.foreignKey target.name)
  | ref {target : EntitySpec} : f.typ = .ref target.name → target ∈ spec.entities →
    ¬ spec.IsInline target.name → Resolves spec f (.ref target.name)
  | converted {name : String} {converter : Converter} : f.typ = .converted name →
    (name, converter) ∈ spec.converters → f.primaryKey = false → f.foreignKey = false →
    Resolves spec f (.converted converter)

variable {spec : SchemaSpec} {f : FieldSpec} {kind : DraftKind}

theorem Resolves.declares (h : spec.Resolves f kind) : spec.Declares f := by
  unfold Declares
  cases h with
  | scalar htyp => rw [htyp]; trivial
  | inline htyp htarget | foreignKey htyp htarget | ref htyp htarget =>
    rw [htyp]
    exact ⟨_, htarget, rfl⟩
  | converted htyp hconverter =>
    rw [htyp]
    exact ⟨_, hconverter, rfl⟩

theorem Resolves.flagsFit (h : spec.Resolves f kind) : spec.FlagsFit f := by
  unfold FlagsFit
  cases h with
  | scalar htyp hflag => rwa [htyp]
  | inline htyp _ _ hflag =>
    rw [htyp]
    exact fun _ => hflag
  | foreignKey htyp _ hinline =>
    rw [htyp]
    exact fun h => absurd h hinline
  | ref htyp _ hinline => rwa [htyp]
  | converted htyp _ hprimary hforeign =>
    rw [htyp]
    exact ⟨hprimary, hforeign⟩

section

variable (hdistinct : (spec.entities.map (·.name)).Nodup)

include hdistinct

theorem entity?_eq_some_iff {name : EntityName} {e : EntitySpec} :
    spec.entity? name = some e ↔ e ∈ spec.entities ∧ e.name = name :=
  find?_eq_some_iff_of_nodup hdistinct name e

theorem target_ok {name : EntityName} {e : EntitySpec} (h : spec.target name = .ok e) :
    e ∈ spec.entities ∧ e.name = name := by
  unfold target at h
  split at h
  · next hfind =>
    cases h
    exact (entity?_eq_some_iff hdistinct).mp hfind
  · cases h

theorem target_of_mem {e : EntitySpec} (he : e ∈ spec.entities) : spec.target e.name = .ok e := by
  rw [target, (entity?_eq_some_iff hdistinct).mpr ⟨he, rfl⟩]

theorem isInline_iff {e : EntitySpec} (he : e ∈ spec.entities) :
    spec.IsInline e.name ↔ e.kind = .inline := by
  constructor
  · rintro ⟨other, hother, hname, hkind⟩
    rwa [List.inj_on_of_nodup_map hdistinct he hother hname.symm]
  · intro hkind
    exact ⟨e, he, rfl, hkind⟩

theorem resolves_of_resolveKind {qualified : String} (h : spec.resolveKind qualified f = .ok kind) :
    spec.Resolves f kind := by
  unfold resolveKind at h
  split at h
  · next typ htyp =>
    split at h
    · cases h
    · next hforeign =>
      cases h
      exact .scalar htyp (Bool.eq_false_iff.mpr hforeign)
  · next name htyp =>
    obtain ⟨target, htarget, h⟩ := Except.bind_eq_ok h
    obtain ⟨hmem, rfl⟩ := target_ok hdistinct htarget
    split at h
    · next hkind =>
      cases h
      exact .foreignKey htyp hmem ((isInline_iff hdistinct hmem).not.mpr hkind)
    · next hkind =>
      split at h
      · cases h
      · next hforeign =>
        cases h
        exact .inline htyp hmem ((isInline_iff hdistinct hmem).mpr (not_not.mp hkind))
          (Bool.eq_false_iff.mpr hforeign)
  · next name htyp =>
    obtain ⟨target, htarget, h⟩ := Except.bind_eq_ok h
    obtain ⟨hmem, rfl⟩ := target_ok hdistinct htarget
    split at h
    · cases h
    · next hkind =>
      cases h
      exact .ref htyp hmem ((isInline_iff hdistinct hmem).not.mpr hkind)
  · next name htyp =>
    split at h
    · cases h
    · next converter hconverter =>
      split at h
      · cases h
      · next hflags =>
        cases h
        rw [Bool.or_eq_true, not_or] at hflags
        unfold converter? at hconverter
        split at hconverter
        · next name' _ hfind =>
          cases hconverter
          have hname : name' = name := by simpa using List.find?_some hfind
          subst hname
          exact .converted htyp (List.mem_of_find?_eq_some hfind)
            (Bool.eq_false_iff.mpr hflags.1) (Bool.eq_false_iff.mpr hflags.2)
        · cases hconverter

theorem exists_resolveKind (qualified : String) (hdeclares : spec.Declares f)
    (hflags : spec.FlagsFit f) : ∃ kind, spec.resolveKind qualified f = .ok kind := by
  unfold Declares at hdeclares
  unfold FlagsFit at hflags
  unfold resolveKind
  generalize f.typ = typ at hdeclares hflags ⊢
  cases typ with
  | scalar typ => exact ⟨_, if_neg (Bool.eq_false_iff.mp hflags)⟩
  | composite name =>
    obtain ⟨target, hmem, rfl⟩ := hdeclares
    dsimp only
    rw [target_of_mem hdistinct hmem]
    by_cases hkind : target.kind = .inline
    · have hforeign := hflags ((isInline_iff hdistinct hmem).mpr hkind)
      refine ⟨.inline target.name, ?_⟩
      change (if target.kind ≠ .inline then _ else _) = _
      rw [if_neg (not_not_intro hkind), hforeign]
      rfl
    · exact ⟨.foreignKey target.name, if_pos hkind⟩
  | ref name =>
    obtain ⟨target, hmem, rfl⟩ := hdeclares
    dsimp only
    rw [target_of_mem hdistinct hmem]
    exact ⟨.ref target.name, if_neg ((isInline_iff hdistinct hmem).not.mp hflags)⟩
  | converted name =>
    obtain ⟨⟨name', converter⟩, hmem, rfl⟩ := hdeclares
    obtain ⟨hprimary, hforeign⟩ := hflags
    have hsome : (spec.converters.find? (·.1 == name')).isSome := by
      rw [List.find?_isSome]
      exact ⟨_, hmem, beq_self_eq_true name'⟩
    obtain ⟨⟨_, found⟩, hfind⟩ := Option.isSome_iff_exists.mp hsome
    have hfound : spec.converter? name' = some found := by rw [converter?, hfind]
    refine ⟨.converted found, ?_⟩
    dsimp only
    rw [hfound, hprimary, hforeign]
    rfl

end

/-! ## Resolved entities -/

structure ResolvesField (spec : SchemaSpec) (f : FieldSpec) (resolved : DraftField) : Prop where
  primaryKey : resolved.info.primaryKey = f.primaryKey
  columns : resolved.info.columnNames = f.columns
  kind : spec.Resolves f resolved.kind

structure ResolvesEntity (spec : SchemaSpec) (e : EntitySpec) (d : Draft) : Prop where
  name : d.info.name = e.name
  kind : d.info.kind = e.kind
  fields : List.Forall₂ spec.ResolvesField e.fields d.fields

section

variable (hdistinct : (spec.entities.map (·.name)).Nodup)

include hdistinct

theorem resolvesEntity_of_resolveEntity {e : EntitySpec} {d : Draft}
    (h : spec.resolveEntity e = .ok d) : spec.ResolvesEntity e d := by
  obtain ⟨fields, hfields, h⟩ := Except.bind_eq_ok h
  cases h
  refine ⟨rfl, rfl, (Except.forall₂_of_mapM_ok hfields).imp ?_⟩
  intro f resolved hf
  obtain ⟨kind, hkind, hf⟩ := Except.bind_eq_ok hf
  cases hf
  exact ⟨rfl, rfl, resolves_of_resolveKind hdistinct hkind⟩

theorem exists_resolveEntity {e : EntitySpec} (hdeclares : ∀ f ∈ e.fields, spec.Declares f)
    (hflags : ∀ f ∈ e.fields, spec.FlagsFit f) : ∃ d, spec.resolveEntity e = .ok d := by
  have hfields : ∃ fields, e.fields.mapM (spec.resolveField e.name) = .ok fields := by
    apply Except.exists_mapM_ok
    intro f hf
    obtain ⟨kind, hkind⟩ := exists_resolveKind hdistinct (qualifiedName e.name f.name)
      (hdeclares f hf) (hflags f hf)
    exact ⟨_, by rw [resolveField, hkind]; rfl⟩
  obtain ⟨fields, hfields⟩ := hfields
  exact ⟨_, by rw [resolveEntity, hfields]; rfl⟩

end

end SchemaSpec

end RelMap
