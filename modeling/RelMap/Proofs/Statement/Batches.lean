import RelMap.Proofs.Names
import RelMap.Proofs.Row.EncodedColumns
import RelMap.Proofs.Statement.MentionedJoins
import RelMap.Proofs.Statement.Placeholders

/-!
# Batches

A statement that writes a record can be given the record's values at once, or bind variables to
which each record of a batch is bound. Bound values come from the record as it is encoded, whereas
parameters are adjusted to the dialect.
-/

namespace RelMap

open Compiling Modification

/-- A statement that writes one record of an entity. -/
inductive Writing where
  | insert
  | update (aliasName : Option String)

namespace Writing

def accepts : Writing → Column → Bool
  | insert => Column.isInserted
  | update _ => Column.isUpdated

/-- The statement for a batch of records of the entity. -/
def batch (entity : EntityName) : Writing → List Element
  | insert => [.insert entity, .values (.bindVars entity)]
  | update aliasName => [.update entity aliasName, .set (.bindVars entity)]

def direct (r : Record) : Writing → List Element
  | insert => [.insert r.entity, .values (.records [r])]
  | update aliasName => [.update r.entity aliasName, .set (.record r)]

end Writing

/-! ## Parameters of emitted elements -/

/-- Whatever is written has these parameters, and none of them depends on a join. -/
def Compiling.Places (x : Compiling Passage) (slots : List ParamSlot) : Prop :=
  ∀ state passage state', x.run state = .ok (passage, state') →
    ∀ keep, passage.fragment.params keep = slots

namespace Emission

variable {s : Schema} {format : SqlFormat} {e : Entity} {r : Record} {slots : List ParamSlot}

theorem places_ofFragment {x : Compiling Fragment}
    (h : ∀ state f state', x.run state = .ok (f, state') → ∀ keep, f.params keep = slots) :
    Places (do return .ofFragment (← x)) slots := by
  intro state passage state' hrun keep
  obtain ⟨f, between, hf, hrun⟩ := StateT.bind_eq_ok hrun
  cases hrun
  rw [Passage.fragment_ofFragment]
  exact h _ _ _ hf keep

theorem params_space (wanted : Bool) (keep : ConditionKey → Bool) :
    (space wanted).params keep = [] := by
  cases wanted <;> rfl

theorem places_elements {first second : Element} {slots' : List ParamSlot} {afterSql : Bool}
    (hfirst : ∀ separate, Places (element s format separate first) slots)
    (hsecond : ∀ separate, Places (element s format separate second) slots') :
    Places (elements s format afterSql [first, second]) (slots ++ slots') := by
  intro state passage state' hrun keep
  rw [elements, elements, elements] at hrun
  obtain ⟨p, between, hp, hrun⟩ := StateT.bind_eq_ok hrun
  obtain ⟨rest, between', hrest, hrun⟩ := StateT.bind_eq_ok hrun
  cases hrun
  obtain ⟨q, between'', hq, hrest⟩ := StateT.bind_eq_ok hrest
  cases hrest
  simp only [Passage.fragment_append, Passage.fragment_ofFragment, Fragment.params_append,
    params_space, hfirst _ _ _ _ hp keep, hsecond _ _ _ _ hq keep]
  simp [Passage.fragment]

theorem places_insert (entity : EntityName) (separate : Bool) :
    Places (element s format separate (.insert entity)) [] := by
  rw [element]
  apply places_ofFragment
  intro state f state' hrun keep
  obtain ⟨e, -, hrun⟩ := entity_bind_ok hrun
  cases hrun
  simp [List.flatMap_map]

theorem places_update (entity : EntityName) (aliasName : Option String) (separate : Bool) :
    Places (element s format separate (.update entity aliasName)) [] := by
  rw [element]
  apply places_ofFragment
  intro state f state' hrun keep
  obtain ⟨e, -, hrun⟩ := entity_bind_ok hrun
  obtain ⟨table, between, -, hrun⟩ := StateT.bind_eq_ok hrun
  cases hrun
  unfold TableName.render
  split <;> simp

theorem params_tuple (slots : List ParamSlot) (keep : ConditionKey → Bool) :
    (tuple slots).params keep = slots := by
  simp [tuple, List.flatMap_map]

theorem places_values_records (hslots : recordSlots s Column.isInserted r = .ok slots)
    (separate : Bool) : Places (element s format separate (.values (.records [r]))) slots := by
  rw [element]
  apply places_ofFragment
  intro state f state' hrun keep
  obtain ⟨tuples, between, htuples, hrun⟩ := StateT.bind_eq_ok hrun
  cases hrun
  rw [List.mapM_cons] at htuples
  rw [hslots] at htuples
  cases htuples
  simp [params_tuple]

theorem places_values_bindVars (he : s.entity? e.name = some e) (separate : Bool) :
    Places (element s format separate (.values (.bindVars e.name)))
      (bindSlots s Column.isInserted e) := by
  rw [element]
  apply places_ofFragment
  intro state f state' hrun keep
  obtain ⟨_, between, -, hrun⟩ := StateT.bind_eq_ok hrun
  obtain ⟨e', he', hrun⟩ := entity_bind_ok hrun
  cases he.symm.trans he'
  cases hrun
  simp [params_tuple]

theorem places_set {clause : SetClause} (he : s.entity? e.name = some e)
    (hlength : slots.length ≤ ((s.columns e).filter Column.isUpdated).length)
    (hassignments : ∀ state assigned state',
      (assignments s clause).run state = .ok (assigned, state') → assigned = (e.name, slots))
    (separate : Bool) : Places (element s format separate (.set clause)) slots := by
  rw [element]
  apply places_ofFragment
  intro state f state' hrun keep
  obtain ⟨assigned, between, hassigned, hrun⟩ := StateT.bind_eq_ok hrun
  cases hassignments _ _ _ hassigned
  obtain ⟨e', he', hrun⟩ := entity_bind_ok hrun
  cases he.symm.trans he'
  have hsnd : (((s.columns e).filter Column.isUpdated).zip slots).map Prod.snd = slots :=
    List.map_snd_zip hlength
  dsimp only at hrun
  generalize ((s.columns e).filter Column.isUpdated).zip slots = pairs at hrun hsnd
  cases pairs with
  | nil => cases hrun
  | cons first rest =>
    cases hrun
    simp only [Fragment.params_append, Fragment.params_ofText, Fragment.params_join,
      List.flatMap_map, Fragment.params_column, Fragment.params_ofParam, List.nil_append]
    rw [← hsnd, List.map_eq_flatMap]

theorem places_set_record (he : s.entity? r.entity = some e)
    (hslots : recordSlots s Column.isUpdated r = .ok slots)
    (hlength : slots.length ≤ ((s.columns e).filter Column.isUpdated).length) (separate : Bool) :
    Places (element s format separate (.set (.record r))) slots := by
  have hname := Schema.name_of_entity? he
  rw [← hname] at he
  apply places_set he hlength
  intro state assigned state' hrun
  obtain ⟨slots', between, hslots', hrun⟩ := StateT.bind_eq_ok hrun
  rw [hslots] at hslots'
  cases hslots'
  cases hrun
  rw [hname]

theorem places_set_bindVars (he : s.entity? e.name = some e) (separate : Bool) :
    Places (element s format separate (.set (.bindVars e.name)))
      (bindSlots s Column.isUpdated e) := by
  apply places_set he
  · exact Nat.le_of_eq (List.length_map _)
  · intro state assigned state' hrun
    obtain ⟨_, between, -, hrun⟩ := StateT.bind_eq_ok hrun
    obtain ⟨e', he', hrun⟩ := entity_bind_ok hrun
    cases he.symm.trans he'
    cases hrun
    rfl

theorem places_batch (he : s.entity? e.name = some e) (w : Writing) :
    Places (elements s format true (w.batch e.name)) (bindSlots s w.accepts e) := by
  cases w with
  | insert => exact places_elements (places_insert e.name) (places_values_bindVars he)
  | update aliasName =>
    exact places_elements (places_update e.name aliasName) (places_set_bindVars he)

theorem places_direct (he : s.entity? r.entity = some e) (w : Writing)
    (hslots : recordSlots s w.accepts r = .ok slots)
    (hlength : slots.length ≤ ((s.columns e).filter w.accepts).length) :
    Places (elements s format true (w.direct r)) slots := by
  cases w with
  | insert => exact places_elements (places_insert r.entity) (places_values_records hslots)
  | update aliasName =>
    exact places_elements (places_update r.entity aliasName) (places_set_record he hslots hlength)

end Emission

/-! ## Compiled batches -/

namespace Schema

variable {s : Schema} {e : Entity} {elements : List Element} {options : CompileOptions}
  {statement : CompiledStatement}

theorem collect_of_compile {slots : List ParamSlot} (hobservers : options.observers = [])
    (hplaces : Places (Emission.elements s ⟨options.dialect, true⟩ true elements) slots)
    (h : s.compile options elements = .ok statement) :
    ∃ f keep style, (∀ keep, Fragment.params keep f = slots) ∧ f.paramStyle = .ok style ∧
      Parameters.collect (f.render style keep).slots style options.dialect =
        .ok (statement.parameters, statement.bindVars) := by
  obtain ⟨passage, state, style, parameters, bindVars, hemit, hstyle, hcollect, hstatement⟩ :=
    compile_ok h
  obtain ⟨registered, -, hrun⟩ := emit_walks hemit
  rw [hstatement hobservers]
  exact ⟨passage.fragment, keeps state.resolver, style, hplaces _ _ _ hrun, hstyle, hcollect⟩

theorem parameters_of_anonymous {values : List SqlValue} (hobservers : options.observers = [])
    (hplaces : Places (Emission.elements s ⟨options.dialect, true⟩ true elements)
      (values.map .anonymous)) (h : s.compile options elements = .ok statement) :
    statement.parameters = .positional (values.map options.dialect.coerce) := by
  obtain ⟨f, keep, style, hparams, hstyle, hcollect⟩ := collect_of_compile hobservers hplaces h
  have hpositional : f.paramStyle = .ok .positional := by
    apply Fragment.paramStyle_eq_positional
    rw [Fragment.slots_eq_params, hparams]
    intro slot hslot
    obtain ⟨value, -, rfl⟩ := List.mem_map.mp hslot
    rfl
  cases hstyle.symm.trans hpositional
  have hslots : (f.render .positional keep).slots = values.map .anonymous := hparams keep
  rw [hslots, Parameters.collect_anonymous, Except.ok.injEq, Prod.mk.injEq] at hcollect
  exact hcollect.1.symm

theorem bindVars_of_bindVars {names : List String} (hdistinct : names.Nodup)
    (hobservers : options.observers = [])
    (hplaces : Places (Emission.elements s ⟨options.dialect, true⟩ true elements)
      (names.map .bindVar)) (h : s.compile options elements = .ok statement) :
    statement.parameters.size = 0 ∧ statement.bindVars = names := by
  obtain ⟨f, keep, style, hparams, hstyle, hcollect⟩ := collect_of_compile hobservers hplaces h
  have hslots : f.slots = names.map .bindVar := by
    rw [Fragment.slots_eq_params, hparams]
  have hbindVars : ∀ slot ∈ names.map ParamSlot.bindVar, ∃ name, slot = .bindVar name := by
    intro slot hslot
    obtain ⟨name, -, rfl⟩ := List.mem_map.mp hslot
    exact ⟨name, rfl⟩
  obtain ⟨sql, parameters, bindVars, safety, bindEntity⟩ := statement
  by_cases hnames : names = []
  · subst hnames
    have hpositional : f.paramStyle = .ok .positional := by
      apply Fragment.paramStyle_eq_positional
      rw [hslots]
      nofun
    cases hstyle.symm.trans hpositional
    have hrendered : (f.render .positional keep).slots = [] := hparams keep
    rw [hrendered] at hcollect
    cases hcollect
    exact ⟨rfl, rfl⟩
  · have hnamed : f.paramStyle = .ok .named := by
      apply Fragment.paramStyle_eq_named
      · rw [hslots]
        exact fun hnil => hnames (List.map_eq_nil_iff.mp hnil)
      · rw [hslots]
        exact hbindVars
    cases hstyle.symm.trans hnamed
    rw [← hparams keep] at hbindVars
    rw [Fragment.slots_render_named hbindVars, hparams, Parameters.collect_bindVars hdistinct]
      at hcollect
    cases hcollect
    exact ⟨rfl, rfl⟩

end Schema

/-! ## Bound records -/

namespace CompiledStatement

variable {s : Schema} {statement : CompiledStatement} {r : Record}
  {bound : List (String × SqlValue)}

section Insertion

variable {known : List (String × SqlValue)} {name : String} {rest : List String}

theorem insertValue_of_fresh (h : known.lookup name = none) (v : SqlValue) :
    insertValue known name v = known ++ [(name, v)] := by
  rw [insertValue, h]
  rfl

theorem fresh_of_insertValue (hname : name ∉ rest)
    (hfresh : ∀ other ∈ rest, known.lookup other = none) (v : SqlValue) :
    ∀ other ∈ rest, (known ++ [(name, v)]).lookup other = none := by
  intro other hother
  have hne : other ≠ name := by
    rintro rfl
    exact hname hother
  rw [List.lookup_append, hfresh other hother, List.lookup_cons, beq_false_of_ne hne]
  rfl

end Insertion

/-- Distinct names that are not known yet are added in order, with their values. -/
theorem foldlM_insertValue {value : String → Bounded (Except Error) SqlValue}
    {names : List String} {known : List (String × SqlValue)} (hdistinct : names.Nodup)
    (hfresh : ∀ name ∈ names, known.lookup name = none)
    (h : (names.foldlM (fun values name => do return insertValue values name (← value name))
      known).run = .ok (some bound)) :
    ∃ values, List.Forall₂ (fun name v => (value name).run = .ok (some v)) names values ∧
      bound = known ++ names.zip values := by
  induction names generalizing known with
  | nil =>
    cases h
    exact ⟨[], .nil, (List.append_nil _).symm⟩
  | cons name rest ih =>
    rw [List.nodup_cons] at hdistinct
    rw [List.forall_mem_cons] at hfresh
    rw [List.foldlM_cons] at h
    obtain ⟨between, hstep, h⟩ := Bounded.bind_eq_ok h
    obtain ⟨v, hv, hstep⟩ := Bounded.bind_eq_ok hstep
    rw [insertValue_of_fresh hfresh.1] at hstep
    cases hstep
    obtain ⟨values, hvalues, rfl⟩ :=
      ih hdistinct.2 (fresh_of_insertValue hdistinct.1 hfresh.2 v) h
    refine ⟨v :: values, .cons hv hvalues, ?_⟩
    rw [List.append_assoc]
    rfl

theorem bindable_ok {found : List (String × SqlValue) × List Column × List SqlValue}
    (h : statement.bindable s r = .ok found) :
    ∃ known e encoded,
      (statement.parameters = .named known ∨ statement.parameters = .positional [] ∧ known = []) ∧
      s.entity? r.entity = some e ∧ s.encodeRecord r = .ok encoded ∧
      found = (known, s.columns e, encoded) := by
  obtain ⟨known, hknown, h⟩ := Except.bind_eq_ok h
  have hparameters :
      statement.parameters = .named known ∨ statement.parameters = .positional [] ∧ known = [] := by
    replace hknown := Except.mapError_eq_ok hknown
    unfold ownValues at hknown
    split at hknown
    · next values hnamed =>
      cases hknown
      exact .inl hnamed
    · next hnone =>
      cases hknown
      exact .inr ⟨hnone, rfl⟩
    · cases hknown
  obtain ⟨-, -, h⟩ := Except.bind_eq_ok h
  obtain ⟨e, he, h⟩ := Except.bind_eq_ok h
  obtain ⟨encoded, hencoded, h⟩ := Except.bind_eq_ok h
  cases h
  exact ⟨known, e, encoded, hparameters, Schema.entity?_of_entity (Except.mapError_eq_ok he),
    hencoded, rfl⟩

theorem exists_fold_of_bind (h : (statement.bind s r).run = .ok (some bound)) :
    ∃ known e encoded,
      (statement.parameters = .named known ∨ statement.parameters = .positional [] ∧ known = []) ∧
      s.entity? r.entity = some e ∧ s.encodeRecord r = .ok encoded ∧
      (statement.bindVars.foldlM (fun values name => do
        return insertValue values name (← boundValue (s.columns e) encoded name)) known).run =
          .ok (some bound) := by
  obtain ⟨found, hfound, hfold⟩ := Bounded.free_bind_eq_ok h
  obtain ⟨known, e, encoded, hknown, he, hencoded, rfl⟩ := bindable_ok hfound
  exact ⟨known, e, encoded, hknown, he, hencoded, hfold⟩

theorem bind_ok (hparameters : statement.parameters.size = 0) (hdistinct : statement.bindVars.Nodup)
    (h : (statement.bind s r).run = .ok (some bound)) :
    ∃ e encoded values, s.entity? r.entity = some e ∧ s.encodeRecord r = .ok encoded ∧
      List.Forall₂ (fun name v => (boundValue (s.columns e) encoded name).run = .ok (some v))
        statement.bindVars values ∧ bound = statement.bindVars.zip values := by
  obtain ⟨known, e, encoded, hknown, he, hencoded, hfold⟩ := exists_fold_of_bind h
  have hnone : known = [] := by
    rcases hknown with hknown | ⟨-, rfl⟩
    · rw [hknown] at hparameters
      exact List.length_eq_zero_iff.mp hparameters
    · rfl
  subst hnone
  obtain ⟨values, hvalues, hbound⟩ := foldlM_insertValue hdistinct (fun _ _ => rfl) hfold
  exact ⟨e, encoded, values, he, hencoded, hvalues, hbound⟩

theorem getElem?_of_boundValue {columns : List Column} {encoded : List SqlValue} {c : Column}
    {v : SqlValue} {i : Nat} (hdistinct : (columns.map (·.name)).Nodup) (hc : columns[i]? = some c)
    (h : (boundValue columns encoded c.name).run = .ok (some v)) : encoded[i]? = some v := by
  unfold boundValue at h
  rw [findIdx?_of_getElem? hdistinct hc] at h
  exact Except.ok.inj h

end CompiledStatement

/-! ## Batches and single records -/

/-- Filtering items with their values leaves the values that are found for the filtered items. -/
theorem map_snd_filter_zip {α β : Type} {p : α → Bool} {Found : α → β → Prop} {as : List α}
    {bs values : List β} (hfound : ∀ (i : Nat) a v, as[i]? = some a → Found a v → bs[i]? = some v)
    (h : List.Forall₂ Found (as.filter p) values) :
    ((as.zip bs).filter fun x => p x.1).map Prod.snd = values := by
  induction as generalizing bs values with
  | nil => cases h; rfl
  | cons a as ih =>
    cases bs with
    | nil =>
      -- Without values nothing is found, so nothing can have been filtered either.
      cases h' : (a :: as).filter p with
      | nil =>
        rw [h'] at h
        cases h
        rfl
      | cons a' rest =>
        rw [h'] at h
        obtain _ | ⟨hfirst, -⟩ := h
        have hmem : a' ∈ (a :: as).filter p := by
          rw [h']
          exact List.mem_cons_self
        obtain ⟨i, hi⟩ := List.mem_iff_getElem?.mp (List.mem_filter.mp hmem).1
        cases hfound i a' _ hi hfirst
    | cons b bs =>
      have htail : ∀ (i : Nat) a' v, as[i]? = some a' → Found a' v → bs[i]? = some v :=
        fun i => hfound (i + 1)
      rw [List.filter_cons] at h
      rw [List.zip_cons_cons, List.filter_cons]
      cases hp : p a with
      | false =>
        rw [hp] at h
        exact ih htail h
      | true =>
        rw [hp] at h
        obtain _ | ⟨hfirst, hrest⟩ := h
        cases hfound 0 a _ rfl hfirst
        rw [if_pos rfl, List.map_cons, ih htail hrest]

namespace Schema

variable {s : Schema} {e : Entity} {r : Record} {options : CompileOptions} {w : Writing}
  {batch direct : CompiledStatement} {bound : List (String × SqlValue)}

/-- The values of a record in the columns that are written are those that are found by name. -/
theorem recordSlots_of_boundValue {accepts : Column → Bool} {encoded values : List SqlValue}
    (he : s.entity? r.entity = some e) (hdistinct : ((s.columns e).map (·.name)).Nodup)
    (hencoded : s.encodeRecord r = .ok encoded)
    (hvalues : List.Forall₂
      (fun c v => (CompiledStatement.boundValue (s.columns e) encoded c.name).run = .ok (some v))
      ((s.columns e).filter accepts) values) :
    recordSlots s accepts r = .ok (values.map .anonymous) := by
  have hsnd : (((s.columns e).zip encoded).filter fun x => accepts x.1).map Prod.snd = values :=
    map_snd_filter_zip (fun _ _ _ => CompiledStatement.getElem?_of_boundValue hdistinct) hvalues
  unfold recordSlots
  rw [entity_of_entity? he, hencoded, ← hsnd, List.map_map]
  rfl

/-- If columns have distinct names, the bind variables of a statement get exactly the values that
are parameters if the record is given at once, but as they are encoded. The parameters are the same
values unless the dialect has others for them. -/
theorem parameters_eq_bound_iff (he : s.entity? r.entity = some e)
    (hdistinct : ((s.columns e).map (·.name)).Nodup) (hobservers : options.observers = [])
    (hbatch : s.compile options (w.batch r.entity) = .ok batch)
    (hdirect : s.compile options (w.direct r) = .ok direct)
    (hbind : (batch.bind s r).run = .ok (some bound)) :
    ∃ values, batch.bindVars.map (bound.lookup ·) = values.map some ∧
      direct.parameters = .positional (values.map options.dialect.coerce) ∧
      (direct.parameters = .positional values ↔ (options.dialect = .mySql →
        ∀ v ∈ values, (∀ b, v ≠ .boolean b) ∧ ∀ u, v ≠ .uuid u)) := by
  have hname := name_of_entity? he
  have hnames : (((s.columns e).filter w.accepts).map (·.name)).Nodup :=
    hdistinct.sublist (List.filter_sublist.map _)
  -- The names are collected in the order of the columns, and bound in the same order.
  obtain ⟨hempty, hbindVars⟩ : batch.parameters.size = 0 ∧
      batch.bindVars = ((s.columns e).filter w.accepts).map (·.name) := by
    apply bindVars_of_bindVars hnames hobservers _ hbatch
    rw [List.map_map, ← hname]
    exact Emission.places_batch (hname ▸ he) w
  rw [← hbindVars] at hnames
  obtain ⟨e', encoded, values, he', hencoded, hvalues, rfl⟩ :=
    CompiledStatement.bind_ok hempty hnames hbind
  cases he.symm.trans he'
  have hlookup := map_lookup_zip hnames hvalues.length_eq
  rw [hbindVars, List.forall₂_map_left_iff] at hvalues
  have hslots := recordSlots_of_boundValue he hdistinct hencoded hvalues
  have hparameters : direct.parameters = .positional (values.map options.dialect.coerce) := by
    apply parameters_of_anonymous hobservers _ hdirect
    apply Emission.places_direct he w hslots
    exact Nat.le_of_eq (by rw [List.length_map, hvalues.length_eq])
  refine ⟨values, hlookup, hparameters, ?_⟩
  calc direct.parameters = .positional values
      ↔ values.map options.dialect.coerce = values.map id := by
        rw [hparameters, Parameters.positional.injEq, List.map_id]
    _ ↔ ∀ v ∈ values, options.dialect.coerce v = v := List.map_inj_left
    _ ↔ _ := by
      simp only [Dialect.coerce_eq_self_iff]
      exact ⟨fun h hd v hv => h v hv hd, fun h v hv hd => h hd v hv⟩

end Schema

/-! ## Tasks -/

namespace Sample

def taskSpec : SchemaSpec where
  naming := naming
  entities := [.ofTable "Task" [(.scalar "id" .uuid : FieldSpec).asPrimaryKey,
    .scalar "done" .boolean]]

def task : Entity := ⟨⟨"Task", "Task", .table⟩,
  [.scalar { name := "id", primaryKey := true } .uuid, .scalar { name := "done" } .boolean]⟩

def tasks : Schema := ⟨[task], naming, [⟨task.toEntityInfo,
  [⟨{ name := "id", primaryKey := true }, .scalar .uuid⟩, ⟨{ name := "done" }, .scalar .boolean⟩]⟩]⟩

theorem toSchema_taskSpec : taskSpec.toSchema = .ok tasks := by
  cbv

theorem nodup_task_columns : ((tasks.columns task).map (·.name)).Nodup := by
  decide +kernel

def doneTask : Record := ⟨"Task", [.scalar (.uuid ⟨7⟩), .scalar (.boolean true)]⟩

end Sample

namespace Schema

theorem parameters_eq_bound_iff_doneTask :
    Sample.taskSpec.toSchema = .ok Sample.tasks ∧
    Sample.tasks.entity? "Task" = some Sample.task ∧
    ((Sample.tasks.columns Sample.task).map (·.name)).Nodup ∧
    ∃ batch, Sample.tasks.compile { dialect := .postgres } (Writing.insert.batch "Task") =
        .ok batch ∧
      ∃ direct, Sample.tasks.compile { dialect := .postgres }
          (Writing.insert.direct Sample.doneTask) = .ok direct ∧
        ∃ bound, (batch.bind Sample.tasks Sample.doneTask).run = .ok (some bound) ∧
          ∃ values, batch.bindVars.map (bound.lookup ·) = values.map some ∧
            direct.parameters = .positional values := by
  have hrun : ∃ batch, Sample.tasks.compile { dialect := .postgres }
      (Writing.insert.batch "Task") = .ok batch ∧
      ∃ direct, Sample.tasks.compile { dialect := .postgres }
          (Writing.insert.direct Sample.doneTask) = .ok direct ∧
        ∃ bound, (batch.bind Sample.tasks Sample.doneTask).run = .ok (some bound) ∧
          bound.length = 2 := by
    decide +kernel
  obtain ⟨batch, hbatch, direct, hdirect, bound, hbound, -⟩ := hrun
  have he : Sample.tasks.entity? Sample.doneTask.entity = some Sample.task := rfl
  obtain ⟨values, hvalues, -, hsame⟩ :=
    parameters_eq_bound_iff he Sample.nodup_task_columns rfl hbatch hdirect hbound
  exact ⟨Sample.toSchema_taskSpec, he, Sample.nodup_task_columns, batch, hbatch, direct, hdirect,
    bound, hbound, values, hvalues, hsame.mpr nofun⟩

/-- Written at once a task has other parameters than it is bound to in a batch: the text of its
UUID, and a number that tells whether it is done. -/
theorem exists_bound_ne_parameters :
    Sample.taskSpec.toSchema = .ok Sample.tasks ∧
    Sample.tasks.entity? "Task" = some Sample.task ∧
    ((Sample.tasks.columns Sample.task).map (·.name)).Nodup ∧
    (∃ batch, Sample.tasks.compile { dialect := .mySql } (Writing.insert.batch "Task") =
        .ok batch ∧
      ∃ direct, Sample.tasks.compile { dialect := .mySql }
          (Writing.insert.direct Sample.doneTask) = .ok direct ∧
        ∃ bound, (batch.bind Sample.tasks Sample.doneTask).run = .ok (some bound) ∧
          batch.bindVars.map (bound.lookup ·) = [some (.uuid ⟨7⟩), some (.boolean true)] ∧
          direct.parameters =
            .positional [.text "00000000-0000-0000-0000-000000000007", .int 1]) ∧
    ∃ batch, Sample.tasks.compile { dialect := .mySql } ((Writing.update none).batch "Task") =
        .ok batch ∧
      ∃ direct, Sample.tasks.compile { dialect := .mySql }
          ((Writing.update none).direct Sample.doneTask) = .ok direct ∧
        ∃ bound, (batch.bind Sample.tasks Sample.doneTask).run = .ok (some bound) ∧
          batch.bindVars.map (bound.lookup ·) = [some (.boolean true)] ∧
          direct.parameters = .positional [.int 1] :=
  ⟨Sample.toSchema_taskSpec, rfl, Sample.nodup_task_columns, by decide +kernel, by decide +kernel⟩

end Schema

end RelMap
