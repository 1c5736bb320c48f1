import RelMap.Proofs.Row.InternTables
import RelMap.Proofs.Row.NestedRecords

/-!
# Interning

Rows mapped with one intern table are mapped to what they are mapped to with an empty one, and
their nested records are the same instance exactly if they are equal. Records of the rows' own
entities are not interned.
-/

namespace RelMap

/-! ## Tables of a schema -/

/-- Each record is there once, along with its nested records. -/
structure Interner.Sound (s : Schema) (table : Interner) : Prop where
  canonical : table.Canonical
  closed : ∀ shared ∈ table.records, s.nestedRecords shared.content ⊆ table.records

/-- The table has grown by records of entities of fewer than the given fields. -/
def Interner.GrowsBelow (s : Schema) (bound : Nat) (before after : Interner) : Prop :=
  ∃ added, after.records = before.records ++ added ∧ ∀ shared ∈ added, ∃ e,
    s.entity? shared.content.entity = some e ∧ sizeOf e.fields < bound

namespace Interner

variable {s : Schema} {bound : Nat} {table : Interner}

theorem GrowsBelow.refl (table : Interner) : GrowsBelow s bound table table :=
  ⟨[], (List.append_nil _).symm, nofun⟩

theorem GrowsBelow.trans {first second third : Interner} (h : GrowsBelow s bound first second)
    (h' : GrowsBelow s bound second third) : GrowsBelow s bound first third := by
  obtain ⟨added, hsecond, hadded⟩ := h
  obtain ⟨added', hthird, hadded'⟩ := h'
  refine ⟨added ++ added', ?_, ?_⟩
  · rw [hthird, hsecond, List.append_assoc]
  · intro shared hshared
    obtain hshared | hshared := List.mem_append.mp hshared
    · exact hadded shared hshared
    · exact hadded' shared hshared

theorem GrowsBelow.isPrefix {before after : Interner} (h : GrowsBelow s bound before after) :
    before.records <+: after.records := by
  obtain ⟨added, hafter, -⟩ := h
  exact ⟨added, hafter.symm⟩

/-- A record whose nested records are interned is interned along with them. -/
theorem Sound.intern (h : table.Sound s) {r : Record} {e : Entity}
    (he : s.entity? r.entity = some e) (hbound : sizeOf e.fields < bound)
    (hnested : s.nestedRecords r ⊆ table.records) :
    (table.intern r).2.Sound s ∧ GrowsBelow s bound table (table.intern r).2 ∧
      (table.intern r).1 ∈ (table.intern r).2.records := by
  have hcanonical := h.canonical.intern r
  obtain ⟨shared, hshared, -, hintern⟩ | ⟨-, hintern⟩ := table.intern_cases r
  · rw [hintern]
    exact ⟨h, .refl table, hshared⟩
  · rw [hintern] at hcanonical ⊢
    refine ⟨⟨hcanonical, ?_⟩, ⟨_, rfl, ?_⟩, List.mem_append_right _ (.head _)⟩
    · intro shared hshared
      obtain hshared | hshared := List.mem_append.mp hshared
      · exact List.subset_append_of_subset_left _ (h.closed shared hshared)
      · cases List.mem_singleton.mp hshared
        exact List.subset_append_of_subset_left _ hnested
    · intro shared hshared
      cases List.mem_singleton.mp hshared
      exact ⟨e, he, hbound⟩

end Interner

/-! ## Decoding with a table -/

/-- With the given records in the table, and whether the steps succeed or not: the table stays sound,
it grows by records below the bound, and it holds the records nested in the result. -/
def Decoding.Interns {α : Type} (s : Schema) (bound : Nat) (given : List SharedRecord)
    (x : Decoding α) (nested : α → List SharedRecord) : Prop :=
  ∀ state : DecodeState, state.interner.Sound s → given ⊆ state.interner.records →
    (x.run.run state).2.interner.Sound s ∧
    Interner.GrowsBelow s bound state.interner (x.run.run state).2.interner ∧
    ∀ a, (x.run.run state).1 = .ok a → nested a ⊆ (x.run.run state).2.interner.records

namespace Decoding

variable {α β : Type} {s : Schema} {bound : Nat} {given : List SharedRecord}

theorem Interns.pure {a : α} {nested : α → List SharedRecord} (h : nested a ⊆ given) :
    Interns s bound given (Pure.pure a : Decoding α) nested := by
  intro state hsound hgiven
  refine ⟨hsound, .refl _, ?_⟩
  rintro _ ⟨⟩
  exact List.Subset.trans h hgiven

theorem Interns.of_untouched {x : Decoding α} {nested : α → List SharedRecord}
    (hx : ∀ state, (x.run.run state).2.interner = state.interner) (h : ∀ a, nested a = []) :
    Interns s bound given x nested := by
  intro state hsound _
  rw [hx]
  refine ⟨hsound, .refl _, fun a _ => ?_⟩
  rw [h]
  exact List.nil_subset _

theorem Interns.bind {x : Decoding α} {f : α → Decoding β} {nested : α → List SharedRecord}
    {nested' : β → List SharedRecord} (hx : Interns s bound given x nested)
    (hf : ∀ a, Interns s bound (given ++ nested a) (f a) nested') :
    Interns s bound given (x >>= f) nested' := by
  intro state hsound hgiven
  obtain ⟨hsound', hgrows, hnested⟩ := hx state hsound hgiven
  rw [ExceptT.run_bind, StateT.run_bind]
  generalize x.run.run state = first at hsound' hgrows hnested
  obtain ⟨_ | a, between⟩ := first
  · exact ⟨hsound', hgrows, nofun⟩
  · have hgiven' : given ++ nested a ⊆ between.interner.records :=
      List.append_subset.mpr ⟨List.Subset.trans hgiven hgrows.isPrefix.subset, hnested a rfl⟩
    obtain ⟨hsound'', hgrows', hnested'⟩ := hf a between hsound' hgiven'
    exact ⟨hsound'', hgrows.trans hgrows', hnested'⟩

end Decoding

namespace Decode

open Decoding

variable {s : Schema} {bound : Nat} {given : List SharedRecord}

theorem entity_of_contents {r r' : Record} (h : r.contents = r'.contents) :
    r.entity = r'.entity := by
  cases r
  cases r'
  exact (Record.mk.inj h).1

theorem intern_interns {r : Record} {e : Entity} (he : s.entity? r.entity = some e)
    (hbound : sizeOf e.fields < bound) (hgiven : Field.nestedAll e.fields r.values ⊆ given) :
    Interns s bound given (intern r) fun shared =>
      shared :: Field.nestedAll e.fields shared.content.values := by
  intro state hsound hsubset
  have hnested : s.nestedRecords r ⊆ state.interner.records := by
    rw [Schema.nestedRecords, he]
    exact List.Subset.trans hgiven hsubset
  obtain ⟨hsound', hgrows, hmem⟩ := hsound.intern he hbound hnested
  refine ⟨hsound', hgrows, ?_⟩
  rintro _ ⟨⟩
  have hentity : (state.interner.intern r).1.content.entity = r.entity :=
    entity_of_contents (state.interner.contents_intern r)
  have hclosed := hsound'.closed _ hmem
  rw [Schema.nestedRecords, hentity, he] at hclosed
  exact List.cons_subset.mpr ⟨hmem, hclosed⟩

theorem newReference_interner (target : EntityName) (key : List SqlValue) (state : DecodeState) :
    ((newReference target key).run.run state).2.interner = state.interner := by
  obtain ⟨interner, nextCell⟩ := state
  cases nextCell <;> rfl

theorem reference_interner (slots : List SqlValue) (target : EntityName) (types : List ScalarType)
    (nullable : Bool) (path : String) (state : DecodeState) :
    ((reference slots target types nullable path).run.run state).2.interner = state.interner := by
  unfold reference
  split
  · split <;> rfl
  · cases keyValues path slots types with
    | error e => rfl
    | ok key => exact newReference_interner target key state

theorem composite_interns {slots : List SqlValue} {path name : String} {target : EntityInfo}
    {fs : List Field} {inner : List FieldPlan} {nullable : Bool}
    (he : s.entity? target.name = some ⟨target, fs⟩) (hbound : sizeOf fs < bound)
    (hinner : Interns s bound given (fields slots path inner) (Field.nestedAll fs))
    {nested : FieldValue → List SharedRecord} (hnull : nested .null = [])
    (hrecord : ∀ handle content,
      nested (.record handle content) = ⟨handle, content⟩ :: Field.nestedAll fs content.values) :
    Interns s bound given (field slots path (.composite name target.name inner nullable)) nested := by
  rw [field]
  split
  · apply Interns.pure
    rw [hnull]
    exact List.nil_subset _
  · refine hinner.bind fun values => ?_
    have hintern : Interns s bound _ (intern ⟨target.name, values⟩) _ :=
      intern_interns he hbound (List.subset_append_right given (Field.nestedAll fs values))
    refine hintern.bind fun shared => ?_
    apply Interns.pure
    rw [hrecord]
    exact List.subset_append_right _ _

theorem ref_interns {slots : List SqlValue} {path name : String} {target : EntityName}
    {key : List ScalarType} {nullable : Bool} {nested : FieldValue → List SharedRecord}
    (hnested : ∀ r, nested (.reference r) = []) :
    Interns s bound given (field slots path (.ref name target key nullable)) nested := by
  rw [field]
  have hread : Interns s bound given (reference slots target key nullable path) fun _ => [] :=
    .of_untouched (reference_interner slots target key nullable path) fun _ => rfl
  refine hread.bind fun r => ?_
  apply Interns.pure
  rw [hnested]
  exact List.nil_subset _

mutual

theorem field_interns (f : Field) (mode : SelectMode) {slots : List SqlValue} {path : String}
    {given : List SharedRecord} (hcoherent : f.Coherent s) (hbound : sizeOf f ≤ bound) :
    Interns s bound given (field slots path (FieldPlan.ofField mode f)) f.nested := by
  cases f with
  | scalar info typ | converted info converter =>
    rw [FieldPlan.ofField, field]
    exact .of_untouched (fun _ => rfl) fun _ => rfl
  | ref info target key =>
    rw [FieldPlan.ofField]
    exact ref_interns fun _ => rfl
  | inline info target inner =>
    rw [Field.inline.sizeOf_spec] at hbound
    rw [FieldPlan.ofField]
    exact composite_interns hcoherent.1 (by omega)
      (fields_interns inner _ hcoherent.2 (by omega)) rfl fun _ _ => rfl
  | foreignKey info target key inner =>
    rw [Field.foreignKey.sizeOf_spec] at hbound
    rw [FieldPlan.ofField]
    split
    · exact composite_interns hcoherent.1 (by omega)
        (fields_interns inner mode hcoherent.2 (by omega)) rfl fun _ _ => rfl
    · exact ref_interns fun _ => rfl
termination_by structural f

/-- Decoding interns the records of composites, each after those nested in it. -/
theorem fields_interns (fs : List Field) (mode : SelectMode) {slots : List SqlValue}
    {path : String} {given : List SharedRecord} (hcoherent : Field.AllCoherent s fs)
    (hbound : sizeOf fs ≤ bound) :
    Interns s bound given (fields slots path (FieldPlan.ofFields mode fs)) (Field.nestedAll fs) := by
  cases fs with
  | nil => exact .of_untouched (fun _ => rfl) fun _ => rfl
  | cons f rest =>
    rw [List.cons.sizeOf_spec] at hbound
    rw [FieldPlan.ofFields, fields]
    refine (field_interns f mode hcoherent.1 (by omega)).bind fun v => ?_
    refine (fields_interns rest mode hcoherent.2 (by omega)).bind fun vs => ?_
    apply Interns.pure
    rw [Field.nestedAll, List.append_assoc]
    exact List.subset_append_right _ _
termination_by structural fs

end

end Decode

/-! ## Decoding with different tables -/

/-- From any two states the steps fail alike or give values of the same contents. -/
def Decoding.Agree {α β : Type} (x y : Decoding α) (contents : α → β) : Prop :=
  ∀ state state',
    (x.run.run state).1.map contents = (y.run.run state').1.map contents

namespace Decoding

variable {α β γ δ : Type} {x y : Decoding α} {contents : α → γ} {contents' : β → δ}

theorem Agree.check (x : Except MappingError α) :
    Agree (ExceptT.mk (pure x)) (ExceptT.mk (pure x)) contents := by
  intro state state'
  rfl

theorem Agree.pure {a b : α} (h : contents a = contents b) :
    Agree (Pure.pure a) (Pure.pure b) contents := by
  intro state state'
  exact congrArg Except.ok h

theorem Agree.bind {f g : α → Decoding β} (h : Agree x y contents)
    (hf : ∀ a b, contents a = contents b → Agree (f a) (g b) contents') :
    Agree (x >>= f) (y >>= g) contents' := by
  intro state state'
  have hfirst := h state state'
  rw [ExceptT.run_bind, StateT.run_bind, ExceptT.run_bind, StateT.run_bind]
  generalize x.run.run state = first at hfirst
  generalize y.run.run state' = first' at hfirst
  obtain ⟨e | a, between⟩ := first <;> obtain ⟨e' | b, between'⟩ := first'
  · cases hfirst
    rfl
  · cases hfirst
  · cases hfirst
  · exact hf a b (Except.ok.inj hfirst) between between'

end Decoding

namespace Decode

open Decoding

theorem intern_agrees {r r' : Record} (h : r.contents = r'.contents) :
    Agree (intern r) (intern r') (·.content.contents) := by
  intro state state'
  refine congrArg Except.ok ?_
  exact (state.interner.contents_intern r).trans (h.trans (state'.interner.contents_intern r').symm)

theorem reference_agrees (slots : List SqlValue) (target : EntityName) (types : List ScalarType)
    (nullable : Bool) (path : String) :
    Agree (reference slots target types nullable path) (reference slots target types nullable path)
      fun r => (FieldValue.reference r).contents := by
  unfold reference
  split
  · split
    · exact Agree.pure rfl
    · exact Agree.check (.error _)
  · have hkeys : Agree (ExceptT.mk (pure (keyValues path slots types)))
        (ExceptT.mk (pure (keyValues path slots types))) id := .check _
    refine hkeys.bind ?_
    intro key key' heq state state'
    cases (show key = key' from heq)
    obtain ⟨r, _, hrun, hentity, hkey⟩ := newReference_succeeds target key state
    obtain ⟨r', _, hrun', hentity', hkey'⟩ := newReference_succeeds target key state'
    rw [hrun, hrun']
    refine congrArg Except.ok ?_
    change FieldValue.reference ⟨r.entity, r.key, .unavailable⟩ =
      .reference ⟨r'.entity, r'.key, .unavailable⟩
    rw [hentity, hkey, hentity', hkey']

mutual

theorem field_agrees (p : FieldPlan) (slots : List SqlValue) (path : String) :
    Agree (field slots path p) (field slots path p) FieldValue.contents := by
  cases p with
  | scalar name typ nullable | converted name converter nullable =>
    rw [field]
    exact Agree.check _
  | composite name entity inner nullable =>
    rw [field]
    split
    · exact Agree.pure rfl
    · refine (fields_agree inner slots path).bind fun values values' hvalues => ?_
      have hcontents : (Record.mk entity values).contents = (Record.mk entity values').contents :=
        congrArg (Record.mk entity) hvalues
      refine (intern_agrees hcontents).bind fun shared shared' hshared => ?_
      exact Agree.pure (congrArg (FieldValue.record (.given 0)) hshared)
  | ref name target key nullable =>
    rw [field]
    exact (reference_agrees slots target key nullable path).bind fun _ _ => Agree.pure
termination_by structural p

theorem fields_agree (ps : List FieldPlan) (slots : List SqlValue) (path : String) :
    Agree (fields slots path ps) (fields slots path ps) contentsOf := by
  cases ps with
  | nil => exact Agree.pure rfl
  | cons p rest =>
    rw [fields]
    refine (field_agrees p _ _).bind fun v v' hv => ?_
    refine (fields_agree rest _ path).bind fun vs vs' hvs => ?_
    apply Agree.pure
    rw [contentsOf, contentsOf, hv, hvs]
termination_by structural ps

end

end Decode

/-! ## Rows -/

/-- A row, with the entity and the mode it is to be mapped by. -/
structure RowTask where
  row : List SqlValue
  entity : EntityName
  mode : SelectMode

namespace Schema

def mapRows (s : Schema) (tasks : List RowTask) : StateM DecodeState (List (Except Error Record)) :=
  tasks.mapM fun task => (s.mapRow task.row task.entity task.mode).run

theorem map_toRow_run {α β : Type} (f : α → β) (x : Decoding α) (state : DecodeState) :
    (f <$> x.toRow).run.run state =
      (((x.run.run state).1.mapError .mapping).map f, (x.run.run state).2) := by
  rw [ExceptT.run_map, StateT.run_map, Decoding.toRow_run]
  rfl

theorem mapRow_cases (s : Schema) (task : RowTask) :
    (∃ error, ∀ state,
      (s.mapRow task.row task.entity task.mode).run.run state = (.error error, state)) ∨
    ∃ e, s.entity? task.entity = some e ∧ ∀ state,
      let decoded := (Decode.fields task.row e.name (FieldPlan.ofFields task.mode e.fields)).run.run
        state
      (s.mapRow task.row task.entity task.mode).run.run state =
        ((decoded.1.mapError .mapping).map (Record.mk e.name), decoded.2) := by
  obtain ⟨row, name, mode⟩ := task
  dsimp only
  by_cases hmode : mode = .pk
  · refine .inl ⟨.usage .keyRow, fun state => ?_⟩
    rw [mapRow, if_pos hmode]
    rfl
  cases he : s.entity? name with
  | none =>
    refine .inl ⟨.schema (.unknownEntity name), fun state => ?_⟩
    rw [mapRow, if_neg hmode, entity, he]
    rfl
  | some e =>
    cases name_of_entity? he
    by_cases hlength : row.length = FieldPlan.widths (FieldPlan.ofFields mode e.fields)
    · refine .inr ⟨e, rfl, fun state => ?_⟩
      rw [mapRow_eq hmode he hlength, map_toRow_run]
    · exact .inl ⟨_, mapRow_eq_error hmode he hlength⟩

variable {spec : SchemaSpec} {s : Schema}

/-- Mapping a row keeps the table sound, interns no record of the row's entity and leaves the nested
records of its result in the table. -/
theorem mapRow_interns (h : spec.toSchema = .ok s) (task : RowTask) {state : DecodeState}
    (hsound : state.interner.Sound s) :
    let mapped := (s.mapRow task.row task.entity task.mode).run.run state
    mapped.2.interner.Sound s ∧
      (∃ added, mapped.2.interner.records = state.interner.records ++ added ∧
        ∀ shared ∈ added, shared.content.entity ≠ task.entity) ∧
      ∀ r, mapped.1 = .ok r → s.nestedRecords r ⊆ mapped.2.interner.records := by
  obtain ⟨error, hrefused⟩ | ⟨e, he, hmap⟩ := s.mapRow_cases task
  · rw [hrefused]
    exact ⟨hsound, ⟨[], (List.append_nil _).symm, nofun⟩, nofun⟩
  · have hinterns : Decoding.Interns s (sizeOf e.fields) []
        (Decode.fields task.row e.name (FieldPlan.ofFields task.mode e.fields)) _ :=
      Decode.fields_interns e.fields task.mode (allCoherent_of_entity? h he) (Nat.le_refl _)
    obtain ⟨hsound', ⟨added, hafter, hadded⟩, hnested⟩ := hinterns state hsound (List.nil_subset _)
    rw [hmap]
    refine ⟨hsound', ⟨added, hafter, ?_⟩, ?_⟩
    · rintro shared hshared hentity
      obtain ⟨e', he', hlt⟩ := hadded shared hshared
      rw [hentity, he] at he'
      cases he'
      exact Nat.lt_irrefl _ hlt
    · intro r hr
      dsimp only at hr ⊢
      generalize (Decode.fields _ _ _).run.run state = decoded at hr hnested ⊢
      obtain ⟨_ | values, state'⟩ := decoded
      · cases hr
      · cases hr
        rw [nestedRecords, name_of_entity? he, he]
        exact hnested values rfl

theorem mapRow_agrees (s : Schema) (task : RowTask) (state state' : DecodeState) :
    ((s.mapRow task.row task.entity task.mode).run.run state).1.map Record.contents =
      ((s.mapRow task.row task.entity task.mode).run.run state').1.map Record.contents := by
  obtain ⟨error, hrefused⟩ | ⟨e, -, hmap⟩ := s.mapRow_cases task
  · rw [hrefused, hrefused]
  · have hagree := Decode.fields_agree (FieldPlan.ofFields task.mode e.fields) task.row e.name
      state state'
    have hcontents (x : Except MappingError (List FieldValue)) :
        ((x.mapError Error.mapping).map (Record.mk e.name)).map Record.contents =
          ((x.map contentsOf).mapError .mapping).map (Record.mk e.name) := by
      cases x <;> rfl
    rw [hmap, hmap, hcontents, hcontents, hagree]

theorem mapRows_cons (s : Schema) (task : RowTask) (rest : List RowTask) (state : DecodeState) :
    (s.mapRows (task :: rest)).run state =
      let mapped := (s.mapRow task.row task.entity task.mode).run.run state
      let others := (s.mapRows rest).run mapped.2
      (mapped.1 :: others.1, others.2) := by
  rw [mapRows, List.mapM_cons]
  rfl

theorem mapRows_append (s : Schema) (before after : List RowTask) (state : DecodeState) :
    (s.mapRows (before ++ after)).run state =
      let first := (s.mapRows before).run state
      let second := (s.mapRows after).run first.2
      (first.1 ++ second.1, second.2) := by
  rw [mapRows, List.mapM_append]
  rfl

theorem mapRows_interns (h : spec.toSchema = .ok s) (tasks : List RowTask) {state : DecodeState}
    (hsound : state.interner.Sound s) :
    let mapped := (s.mapRows tasks).run state
    mapped.2.interner.Sound s ∧ state.interner.records <+: mapped.2.interner.records ∧
      ∀ r, .ok r ∈ mapped.1 → s.nestedRecords r ⊆ mapped.2.interner.records := by
  induction tasks generalizing state with
  | nil => exact ⟨hsound, List.prefix_refl _, nofun⟩
  | cons task rest ih =>
    rw [mapRows_cons]
    obtain ⟨hsound', ⟨added, hadded, -⟩, hnested⟩ := mapRow_interns h task hsound
    obtain ⟨hsound'', hprefix, hothers⟩ := ih hsound'
    refine ⟨hsound'', .trans ⟨added, hadded.symm⟩ hprefix, fun r hr => ?_⟩
    obtain hr | hr := List.mem_cons.mp hr
    · exact List.Subset.trans (hnested r hr.symm) hprefix.subset
    · exact hothers r hr

def SameMapping : Except Error Record → Except Error Record → Prop
  | .ok r, .ok r' => r.same r' = true
  | .error e, .error e' => e = e'
  | _, _ => False

theorem sameMapping_of_map_contents_eq {x y : Except Error Record}
    (h : x.map Record.contents = y.map Record.contents) : SameMapping x y := by
  cases x with
  | error e =>
    cases y with
    | error e' => exact Except.error.inj h
    | ok r' => cases h
  | ok r =>
    cases y with
    | error e' => cases h
    | ok r' => exact (Record.same_iff r r').mpr (Except.ok.inj h)

theorem mapRows_forall₂ (s : Schema) (tasks : List RowTask)
    {P : RowTask → Except Error Record → Prop}
    (h : ∀ task state, P task ((s.mapRow task.row task.entity task.mode).run.run state).1)
    (state : DecodeState) : List.Forall₂ P tasks ((s.mapRows tasks).run state).1 := by
  induction tasks generalizing state with
  | nil => exact .nil
  | cons task rest ih =>
    rw [mapRows_cons]
    exact .cons (h task state) (ih _)

/-- Rows mapped one by one, with a table that starts empty, give what they give with an empty one.
The nested records of the results are the same instance exactly if they are equal, and they are all
the records inside the results unless converters make records. What the table holds stays where it
is, and a row adds no record of its own entity, even if it fails. -/
theorem interning_canonical (h : spec.toSchema = .ok s) (tasks : List RowTask) (next : Nat)
    (nextCell : Option Nat) :
    let start : DecodeState := ⟨⟨[], next⟩, nextCell⟩
    let mapped (tasks : List RowTask) := (s.mapRows tasks).run start
    List.Forall₂ (fun task result => ∀ next nextCell, SameMapping result
      ((s.mapRow task.row task.entity task.mode).run.run ⟨⟨[], next⟩, nextCell⟩).1)
      tasks (mapped tasks).1 ∧
    (∀ r r', .ok r ∈ (mapped tasks).1 → .ok r' ∈ (mapped tasks).1 →
      ∀ a ∈ s.nestedRecords r, ∀ b ∈ s.nestedRecords r',
        a.handle = b.handle ↔ a.content.same b.content = true) ∧
    ((∀ c ∈ spec.converters, c.2.Flat) →
      ∀ r, .ok r ∈ (mapped tasks).1 → r.within = s.nestedRecords r) ∧
    (∀ before, before <+: tasks →
      (∀ index shared, (mapped before).2.interner.get? index = some shared →
        (mapped tasks).2.interner.get? index = some shared) ∧
      ∀ r index, (mapped before).2.interner.indexOf? r = some index →
        (mapped tasks).2.interner.indexOf? r = some index) ∧
    ∀ before task, ∃ added,
      (mapped (before ++ [task])).2.interner.records =
        (mapped before).2.interner.records ++ added ∧
      ∀ shared ∈ added, shared.content.entity ≠ task.entity := by
  intro start mapped
  have hstart : start.interner.Sound s := ⟨Interner.canonical_of_records_eq_nil rfl, nofun⟩
  have hmapped := fun tasks => mapRows_interns h tasks hstart
  obtain ⟨hsound, -, hnested⟩ := hmapped tasks
  refine ⟨?_, ?_, ?_, ?_, ?_⟩
  · refine s.mapRows_forall₂ tasks (fun task state next nextCell => ?_) start
    exact sameMapping_of_map_contents_eq (s.mapRow_agrees task state _)
  · intro r r' hr hr' a ha b hb
    exact hsound.canonical.handle_eq_iff (hnested r hr ha) (hnested r' hr' hb)
  · intro hflat r hr
    have hwithin := s.mapRows_forall₂ tasks
      (P := fun _ result => ∀ r, result = .ok r → r.within = s.nestedRecords r)
      (fun task state r hr => within_mapRow h hflat (Prod.ext hr rfl)) start
    obtain ⟨_, -, hP⟩ := exists_left_of_forall₂ hwithin hr
    exact hP r rfl
  · rintro before ⟨after, rfl⟩
    have hprefix : (mapped before).2.interner.records <+:
        (mapped (before ++ after)).2.interner.records := by
      rw [show mapped (before ++ after) = _ from s.mapRows_append before after start]
      exact (mapRows_interns h after (hmapped before).1).2.1
    exact ⟨fun _ _ => Interner.get?_of_prefix hprefix,
      fun _ _ => Interner.indexOf?_of_prefix hprefix⟩
  · intro before task
    rw [show mapped (before ++ [task]) = _ from s.mapRows_append before [task] start]
    exact (mapRow_interns h task (hmapped before).1).2.1

/-- Two persons at the same address, with a row that ends too early between them. -/
theorem interning_canonical_neighbours :
    Sample.spec.toSchema = .ok Sample.schema ∧
    let row (id : Int32) : List SqlValue :=
      [.int id, .int 1, .bigInt 3, .null, .text "Main Street", .null, .null, .int 8]
    let mapped := (Sample.schema.mapRows [⟨row 7, "Person", .full⟩, ⟨[.int 8], "Person", .full⟩,
      ⟨row 9, "Person", .full⟩]).run ⟨⟨[], 0⟩, none⟩
    ∃ first error second, mapped.1 = [.ok first, .error error, .ok second] ∧
      (Sample.schema.nestedRecords first).length = 2 ∧
      ∀ a ∈ Sample.schema.nestedRecords first, ∀ b ∈ Sample.schema.nestedRecords second,
        a.handle = b.handle ↔ a.content.same b.content = true := by
  have hall := interning_canonical Sample.toSchema_spec
    [⟨[.int 7, .int 1, .bigInt 3, .null, .text "Main Street", .null, .null, .int 8], "Person",
        .full⟩,
      ⟨[.int 8], "Person", .full⟩,
      ⟨[.int 9, .int 1, .bigInt 3, .null, .text "Main Street", .null, .null, .int 8], "Person",
        .full⟩] 0 none
  exact ⟨Sample.toSchema_spec, _, _, _, rfl, rfl,
    hall.2.1 _ _ (.head _) (.tail _ (.tail _ (.head _)))⟩

end Schema

end RelMap
