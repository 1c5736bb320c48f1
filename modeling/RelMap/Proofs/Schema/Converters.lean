import RelMap.Proofs.Schema.Expansion

/-!
# Converters of a schema

The laws that a converter is to keep, and the converters that occur in the fields of an accepted
schema, all of which are registered.
-/

namespace RelMap

/-- Splitting a value into columns can be undone, and columns that are all NULL stand for NULL. -/
structure Converter.Lawful (c : Converter) : Prop where
  fromColumns_null : c.fromColumns (List.replicate c.columns.length .null) = .ok .null
  fromColumns_toColumns : ∀ v slots, v ≠ .null → c.toColumns v = .ok slots →
    slots.length = c.columns.length ∧ ∃ w, c.fromColumns slots = .ok w ∧ w.same v

theorem Sample.twice_lawful : Sample.twice.Lawful := by
  refine ⟨rfl, ?_⟩
  intro v slots _ h
  unfold twice at h
  dsimp only at h
  split at h
  · cases h
    exact ⟨rfl, _, rfl, beq_self_eq_true _⟩
  · cases h

namespace Field

mutual

def ForConverters (P : Converter → Prop) : Field → Prop
  | .converted _ converter => P converter
  | .inline _ _ fields | .foreignKey _ _ _ fields => AllForConverters P fields
  | .scalar _ _ | .ref _ _ _ => True
termination_by structural f => f

def AllForConverters (P : Converter → Prop) : List Field → Prop
  | [] => True
  | f :: rest => ForConverters P f ∧ AllForConverters P rest
termination_by structural fs => fs

end

end Field

/-- What holds of all converters in the drafts holds of those in the expanded fields. -/
theorem Draft.Expands.allForConverters {naming : NamingStrategy} {drafts : List Draft}
    {P : Converter → Prop} (hdrafts : ∀ d ∈ drafts, ∀ f ∈ d.fields, ∀ c, f.kind = .converted c → P c)
    {fields : List DraftField} {result : List Field} (h : Expands naming drafts fields result)
    (hfields : ∀ f ∈ fields, ∀ c, f.kind = .converted c → P c) :
    Field.AllForConverters P result := by
  induction h with
  | nil => trivial
  | scalar _ ih | ref _ _ ih =>
    rw [List.forall_mem_cons] at hfields
    exact ⟨trivial, ih hfields.2⟩
  | converted _ ih =>
    rw [List.forall_mem_cons] at hfields
    exact ⟨hfields.1 _ rfl, ih hfields.2⟩
  | inline hfind _ _ ihInner ih | foreignKey hfind _ _ _ ihInner ih =>
    rw [List.forall_mem_cons] at hfields
    have hinner := hdrafts _ (List.mem_of_find?_eq_some hfind)
    exact ⟨ihInner hinner, ih hfields.2⟩

namespace SchemaSpec

variable {spec : SchemaSpec}

theorem mem_converters_of_resolveKind {qualified : String} {f : FieldSpec} {c : Converter}
    (h : spec.resolveKind qualified f = .ok (.converted c)) :
    ∃ name, (name, c) ∈ spec.converters := by
  unfold resolveKind at h
  split at h
  · split at h <;> cases h
  · obtain ⟨target, _, h⟩ := Except.bind_eq_ok h
    split at h
    · cases h
    · split at h <;> cases h
  · obtain ⟨target, _, h⟩ := Except.bind_eq_ok h
    split at h <;> cases h
  · next name _ =>
    split at h
    · cases h
    · next hconverter =>
      split at h <;> cases h
      unfold converter? at hconverter
      split at hconverter
      · next hfind =>
        cases hconverter
        exact ⟨_, List.mem_of_find?_eq_some hfind⟩
      · cases hconverter

theorem mem_converters_of_resolveEntity {e : EntitySpec} {d : Draft}
    (h : spec.resolveEntity e = .ok d) {f : DraftField} (hf : f ∈ d.fields) {c : Converter}
    (hc : f.kind = .converted c) : ∃ name, (name, c) ∈ spec.converters := by
  obtain ⟨fields, hfields, h⟩ := Except.bind_eq_ok h
  cases h
  obtain ⟨declared, _, hresolve⟩ := Except.exists_of_mem_mapM_ok hfields hf
  obtain ⟨kind, hkind, hresolve⟩ := Except.bind_eq_ok hresolve
  cases hresolve
  cases hc
  exact mem_converters_of_resolveKind hkind

end SchemaSpec

theorem Schema.allForConverters_of_entity? {spec : SchemaSpec} {s : Schema}
    (h : spec.toSchema = .ok s) {P : Converter → Prop} (hP : ∀ c ∈ spec.converters, P c.2)
    {name : EntityName} {e : Entity} (he : s.entity? name = some e) :
    Field.AllForConverters P e.fields := by
  have hdrafts : ∀ d ∈ s.drafts, ∀ f ∈ d.fields, ∀ c, f.kind = .converted c → P c := by
    intro d hd f hf c hc
    obtain ⟨declared, _, hresolve⟩ := Except.exists_of_mem_mapM_ok (toSchema_ok h).2.1 hd
    obtain ⟨converter, hmem⟩ := SchemaSpec.mem_converters_of_resolveEntity hresolve hf hc
    exact hP _ hmem
  obtain ⟨d, hfind, _, hfields⟩ := exists_draft_of_entity? h he
  exact hfields.allForConverters hdrafts (hdrafts d (List.mem_of_find?_eq_some hfind))

end RelMap
