import RelMap.Proofs.Schema.ColumnNames
import RelMap.Proofs.Statement.WrittenColumns

/-!
# Batches by column name

A batch statement has a bind variable for each column that it writes, called like the column, and a
record is bound by looking up the first column of that name. Main statement: which columns of an
entity have one name, and that without such columns a batch names each written column once and binds
it to the value that the record is encoded to at its position.
-/

namespace RelMap

open Compiling Modification

/-! ## Statements in named style -/

namespace Fragment

variable {keep : ConditionKey → Bool} {format : SqlFormat}

/-- The text in named style, if every parameter has a name of its own. -/
def spell (keep : ConditionKey → Bool) (f : Fragment) : String :=
  String.join ((tokens keep f).map (·.sql .named))

theorem spell_append (f g : Fragment) : (f ++ g).spell keep = f.spell keep ++ g.spell keep := by
  rw [spell, tokens_append, List.map_append, String.join_append]
  rfl

theorem spell_ofText (text : String) : (ofText text).spell keep = text := by
  change String.join [text] = text
  rw [String.join_cons, String.join_nil, String.append_empty]

theorem spell_bindVar (name : String) : (ofParam (.bindVar name)).spell keep = ":" ++ name := by
  change String.join [":" ++ name] = _
  rw [String.join_cons, String.join_nil, String.append_empty]

theorem spell_identifier (name : String) :
    (format.identifier name).spell keep = format.dialect.quote name :=
  spell_ofText _

theorem spell_join (separator : String) (fragments : List Fragment) :
    (join separator fragments).spell keep =
      separator.intercalate (fragments.map (spell keep)) := by
  induction fragments with
  | nil => rfl
  | cons f rest ih =>
    cases rest with
    | nil => exact String.intercalate_singleton.symm
    | cons g rest =>
      have hjoin : join separator (f :: g :: rest) =
          f ++ ofText separator ++ join separator (g :: rest) := rfl
      rw [hjoin, spell_append, spell_append, spell_ofText, ih]
      exact String.intercalate_cons_cons.symm

theorem spell_parenthesized (f : Fragment) :
    f.parenthesized.spell keep = "(" ++ f.spell keep ++ ")" := by
  rw [parenthesized, spell_append, spell_append, spell_ofText, spell_ofText]

theorem spell_table (t : TableName) : (t.render format).spell keep = format.dialect.quote t.name ++
    if t.aliasName = "" ∨ t.aliasName = t.name then "" else
      " AS " ++ format.dialect.quote t.aliasName := by
  rw [TableName.render, spell_append, spell_identifier]
  split
  · rfl
  · rw [spell_append, spell_ofText, spell_identifier]

end Fragment

theorem Token.nameAnonymous_eq_self {count : Nat} {tokens : List Token}
    (h : ∀ slot ∈ tokens.filterMap Token.slot?, ∃ name, slot = .bindVar name) :
    Token.nameAnonymous count tokens = tokens := by
  induction tokens with
  | nil => rfl
  | cons token rest ih =>
    cases token with
    | text content => exact congrArg (Token.text content :: ·) (ih h)
    | param slot =>
      obtain ⟨name, rfl⟩ := h slot (.head _)
      exact congrArg (Token.param (.bindVar name) :: ·) (ih fun slot hslot => h slot (.tail _ hslot))

theorem Token.sql_eq_named {style : ParamStyle} {tokens : List Token}
    (h : tokens.filterMap Token.slot? = []) :
    tokens.map (·.sql style) = tokens.map (·.sql .named) := by
  apply List.map_congr_left
  intro token htoken
  cases token with
  | text content => rfl
  | param slot =>
    have hslot : slot ∈ tokens.filterMap Token.slot? :=
      List.mem_filterMap.mpr ⟨_, htoken, rfl⟩
    rw [h] at hslot
    cases hslot

theorem Fragment.render_bindVars {f : Fragment} {names : List String} (hdistinct : names.Nodup)
    (dialect : Dialect) (h : ∀ keep, f.params keep = names.map .bindVar)
    (keep : ConditionKey → Bool) :
    ∃ style parameters, f.paramStyle = .ok style ∧ (f.render style keep).sql = f.spell keep ∧
      Parameters.collect (f.render style keep).slots style dialect = .ok (parameters, names) ∧
      (parameters = .positional [] ∨ parameters = .named []) := by
  have hbindVars : ∀ slot ∈ names.map ParamSlot.bindVar, ∃ name, slot = .bindVar name := by
    intro slot hslot
    obtain ⟨name, -, rfl⟩ := List.mem_map.mp hslot
    exact ⟨name, rfl⟩
  by_cases hnames : names = []
  · subst hnames
    refine ⟨.positional, .positional [], paramStyle_eq_positional ?_, ?_, ?_, .inl rfl⟩
    · rw [slots_eq_params, h]
      nofun
    · exact congrArg String.join (Token.sql_eq_named (h keep))
    · have hslots : (f.render .positional keep).slots = [] := h keep
      rw [hslots]
      rfl
  · refine ⟨.named, .named [], paramStyle_eq_named ?_ ?_, ?_, ?_, .inr rfl⟩
    · rw [slots_eq_params, h]
      exact fun hnil => hnames (List.map_eq_nil_iff.mp hnil)
    · rw [slots_eq_params, h]
      exact hbindVars
    · have htokens : f.styledTokens .named keep = tokens keep f := by
        apply Token.nameAnonymous_eq_self
        rw [← params, h]
        exact hbindVars
      rw [render, htokens]
      rfl
    · rw [slots_render_named (by rw [h]; exact hbindVars), h, Parameters.collect_bindVars hdistinct]

namespace Schema

variable {s : Schema}

/-- A statement whose parameters are bind variables of different names is compiled as it is
emitted. -/
theorem compile_of_bindVars {elements : List Element} {dialect : Dialect} {passage : Passage}
    {state : CompileState} {names : List String} (hdistinct : names.Nodup)
    (hemit : s.emit dialect elements = .ok (passage, state))
    (hparams : ∀ keep, passage.fragment.params keep = names.map .bindVar) :
    ∃ statement, s.compile { dialect } elements = .ok statement ∧
      statement.sql = passage.fragment.spell (keeps state.resolver) ∧
      (statement.parameters = .positional [] ∨ statement.parameters = .named []) ∧
      statement.bindVars = names ∧ statement.bindEntity = state.bindEntity := by
  obtain ⟨style, parameters, hstyle, hsql, hcollect, hparameters⟩ :=
    Fragment.render_bindVars hdistinct dialect hparams (keeps state.resolver)
  refine ⟨⟨_, parameters, names, safetyOf elements, state.bindEntity⟩, ?_, hsql, hparameters, rfl,
    rfl⟩
  unfold compile
  rw [hemit]
  dsimp only [bind, Except.bind]
  rw [hstyle]
  dsimp only [liftM, monadLift, MonadLift.monadLift, Except.mapError]
  rw [hcollect]
  rfl

end Schema

/-! ## Bound records -/

namespace CompiledStatement

variable {s : Schema} {e : Entity} {statement : CompiledStatement} {r : Record}
  {row : List SqlValue} {accepts : Column → Bool}

theorem foldlM_insertValue_eq_ok {value : String → Bounded (Except Error) SqlValue}
    {names : List String} {values : List SqlValue} {known : List (String × SqlValue)}
    (hdistinct : names.Nodup) (hfresh : ∀ name ∈ names, known.lookup name = none)
    (h : List.Forall₂ (fun name v => (value name).run = .ok (some v)) names values) :
    (names.foldlM (fun values name => do return insertValue values name (← value name)) known).run =
      .ok (some (known ++ names.zip values)) := by
  induction h generalizing known with
  | nil => exact congrArg (Except.ok ∘ some) (List.append_nil known).symm
  | @cons name v rest values hvalue _ ih =>
    rw [List.nodup_cons] at hdistinct
    rw [List.forall_mem_cons] at hfresh
    have hstep : (do return insertValue known name (← value name) :
        Bounded (Except Error) _).run = .ok (some (insertValue known name v)) :=
      Bounded.run_bind_of_ok hvalue
    rw [List.foldlM_cons, Bounded.run_bind_of_ok hstep, insertValue_of_fresh hfresh.1,
      ih hdistinct.2 (fresh_of_insertValue hdistinct.1 hfresh.2 v), List.append_assoc]
    rfl

theorem boundValue_eq_ok {columns : List Column} {c : Column} {v : SqlValue}
    (hdistinct : (columns.map (·.name)).Nodup) (h : (c, v) ∈ columns.zip row) :
    (boundValue columns row c.name).run = .ok (some v) := by
  obtain ⟨i, hi⟩ := List.mem_iff_getElem?.mp h
  obtain ⟨hc, hv⟩ := List.getElem?_zip_eq_some.mp hi
  rw [boundValue, findIdx?_of_getElem? hdistinct hc]
  exact congrArg Except.ok hv

theorem boundValue_pick (hdistinct : ((s.columns e).map (·.name)).Nodup)
    (hlength : row.length = (s.columns e).length) :
    List.Forall₂ (fun name v => (boundValue (s.columns e) row name).run = .ok (some v))
      (((s.columns e).filter accepts).map (·.name)) (Column.pick accepts (s.columns e) row) := by
  have hcolumns : (s.columns e).filter accepts =
      (((s.columns e).zip row).filter fun x => accepts x.1).map Prod.fst := by
    conv_lhs => rw [← List.map_fst_zip (Nat.le_of_eq hlength.symm)]
    exact List.filter_map
  rw [hcolumns, Column.pick, List.map_map, List.forall₂_map_left_iff, List.forall₂_map_right_iff,
    List.forall₂_same]
  intro x hx
  exact boundValue_eq_ok hdistinct (List.mem_filter.mp hx).1

/-- The bind variables are those columns, by name and each once, and a record is bound to the values
that it is encoded to at their positions. -/
structure BindsEach (statement : CompiledStatement) (s : Schema) (e : Entity)
    (accepts : Column → Bool) : Prop where
  bindVars : statement.bindVars = ((s.columns e).filter accepts).map (·.name)
  distinct : statement.bindVars.Nodup
  bind : ∀ r row, Encodes s e r row →
    (statement.bind s r).run =
      .ok (some (statement.bindVars.zip (Column.pick accepts (s.columns e) row)))

theorem bind_eq_ok {values : List SqlValue} (he : s.entity? r.entity = some e)
    (hparameters : statement.parameters = .positional [] ∨ statement.parameters = .named [])
    (hentity : statement.bindEntity = some r.entity) (hencoded : s.encodeRecord r = .ok row)
    (hdistinct : statement.bindVars.Nodup)
    (hvalues : List.Forall₂ (fun name v => (boundValue (s.columns e) row name).run = .ok (some v))
      statement.bindVars values) :
    (statement.bind s r).run = .ok (some (statement.bindVars.zip values)) := by
  have hfound : statement.bindable s r = .ok ([], s.columns e, row) := by
    have hentities : statement.checkEntity r.entity = .ok () := by
      rw [checkEntity, hentity]
      exact if_pos rfl
    have hvalues : statement.ownValues = .ok [] := by
      rw [ownValues]
      rcases hparameters with hnone | hnone <;> rw [hnone]
    rw [bindable, hvalues, hentities, Schema.entity_of_entity? he, hencoded]
    rfl
  rw [bind, hfound]
  exact foldlM_insertValue_eq_ok hdistinct (fun _ _ => rfl) hvalues

theorem bindsEach (he : s.entity? e.name = some e)
    (hdistinct : ((s.columns e).map (·.name)).Nodup)
    (hparameters : statement.parameters = .positional [] ∨ statement.parameters = .named [])
    (hbindVars : statement.bindVars = ((s.columns e).filter accepts).map (·.name))
    (hentity : statement.bindEntity = some e.name) : statement.BindsEach s e accepts := by
  have hnames : statement.bindVars.Nodup := by
    rw [hbindVars]
    exact hdistinct.sublist (List.filter_sublist.map _)
  refine ⟨hbindVars, hnames, fun r row hrow => ?_⟩
  apply bind_eq_ok (hrow.entity ▸ he) hparameters (hrow.entity ▸ hentity) hrow.encoded hnames
  rw [hbindVars]
  exact boundValue_pick hdistinct hrow.length_eq

end CompiledStatement

/-! ## Batches -/

def batchInsertSql (dialect : Dialect) (table : String) (names : List String) : String :=
  "INSERT INTO " ++ dialect.quote table ++
    " (" ++ ", ".intercalate (names.map dialect.quote) ++ ") VALUES (" ++
    ", ".intercalate (names.map (":" ++ ·)) ++ ")"

theorem batchInsertSql_eq (dialect : Dialect) (table : String) (names : List String) :
    batchInsertSql dialect table names = "INSERT INTO " ++ dialect.quote table ++
      " (" ++ ", ".intercalate (names.map dialect.quote) ++ (")" ++ " " ++ "VALUES " ++ "(") ++
      ", ".intercalate (names.map (":" ++ ·)) ++ ")" := rfl

def batchUpdateSql (dialect : Dialect) (table aliasName : String) (names : List String) : String :=
  "UPDATE " ++ dialect.quote table ++
    (if aliasName = "" ∨ aliasName = table then "" else " AS " ++ dialect.quote aliasName) ++
    " SET " ++ ", ".intercalate (names.map fun name => dialect.quote name ++ " = :" ++ name)

theorem batchUpdateSql_eq (dialect : Dialect) (table aliasName : String) (names : List String) :
    batchUpdateSql dialect table aliasName names = "UPDATE " ++ dialect.quote table ++
      (if aliasName = "" ∨ aliasName = table then "" else " AS " ++ dialect.quote aliasName) ++
      (" " ++ "SET ") ++
      ", ".intercalate (names.map fun name => dialect.quote name ++ " = :" ++ name) := rfl

namespace Emission

variable {s : Schema} {e : Entity} {format : SqlFormat}

theorem run_bindRecordsOf (entity : EntityName) (state : CompileState) :
    (bindRecordsOf entity).run state = .ok ((), { state with bindEntity := some entity }) := rfl

theorem run_values_bindVars (he : s.entity? e.name = some e) (format : SqlFormat)
    (state : CompileState) (separate : Bool) :
    (element s format separate (.values (.bindVars e.name))).run state =
      .ok (.ofFragment (.ofText "VALUES " ++ tuple (bindSlots s Column.isInserted e)),
        { state with bindEntity := some e.name }) := by
  have hvalues : (emitValues s (.bindVars e.name)).run state =
      .ok (.ofText "VALUES " ++ tuple (bindSlots s Column.isInserted e),
        { state with bindEntity := some e.name }) :=
    (StateT.run_bind_of_ok (run_bindRecordsOf e.name state)).trans
      (lift_bind_of_ok (Schema.entity_of_entity? he))
  rw [element, StateT.run_bind_of_ok hvalues]
  rfl

theorem run_set_bindVars (he : s.entity? e.name = some e)
    (hne : (s.columns e).filter Column.isUpdated ≠ []) (format : SqlFormat)
    (state : CompileState) (separate : Bool) :
    (element s format separate (.set (.bindVars e.name))).run state =
      .ok (.ofFragment (assignmentList format
          (((s.columns e).filter Column.isUpdated).zip (bindSlots s Column.isUpdated e))),
        { state with bindEntity := some e.name }) := by
  have hassignments : (assignments s (.bindVars e.name)).run state =
      .ok ((e.name, bindSlots s Column.isUpdated e), { state with bindEntity := some e.name }) :=
    (StateT.run_bind_of_ok (run_bindRecordsOf e.name state)).trans
      (lift_bind_of_ok (Schema.entity_of_entity? he))
  have hsome : ((s.columns e).filter Column.isUpdated).zip (bindSlots s Column.isUpdated e) ≠
      [] := by
    rw [bindSlots, Ne, List.zip_eq_nil_iff, List.map_eq_nil_iff, or_self]
    exact hne
  obtain ⟨pair, rest, hpairs⟩ := List.exists_cons_of_ne_nil hsome
  have hset : (emitSet s format (.bindVars e.name)).run state =
      .ok (assignmentList format
          (((s.columns e).filter Column.isUpdated).zip (bindSlots s Column.isUpdated e)),
        { state with bindEntity := some e.name }) := by
    rw [emitSet, StateT.run_bind_of_ok hassignments]
    apply (lift_bind_of_ok (Schema.entity_of_entity? he)).trans
    dsimp only
    rw [hpairs]
    rfl
  rw [element]
  exact StateT.run_bind_of_ok hset

theorem spell_assignmentList (columns : List Column) (keep : ConditionKey → Bool) :
    (assignmentList format (columns.zip (columns.map fun c => .bindVar c.name))).spell keep =
      "SET " ++ ", ".intercalate
        ((columns.map (·.name)).map fun name => format.dialect.quote name ++ " = :" ++ name) := by
  have hassignment (c : Column) :
      (({ format with qualifyColumns := false } : SqlFormat).column "" c.name ++
        Fragment.ofText " = " ++ Fragment.ofParam (.bindVar c.name)).spell keep =
      format.dialect.quote c.name ++ " = :" ++ c.name := by
    have hequals : " = :" = " = " ++ ":" := rfl
    rw [Fragment.spell_append, Fragment.spell_append, Fragment.spell_ofText, Fragment.spell_bindVar,
      hequals, ← String.append_assoc, ← String.append_assoc]
    exact congrArg (· ++ " = " ++ ":" ++ c.name) (Fragment.spell_identifier c.name)
  rw [assignmentList, Fragment.spell_append, Fragment.spell_ofText, Fragment.spell_join,
    ← List.map_prod_left_eq_zip, List.map_map, List.map_map, List.map_map]
  congr 2
  exact List.map_congr_left fun c _ => hassignment c

theorem spell_tuple (columns : List Column) (keep : ConditionKey → Bool) :
    (tuple (columns.map fun c => .bindVar c.name)).spell keep =
      "(" ++ ", ".intercalate ((columns.map (·.name)).map (":" ++ ·)) ++ ")" := by
  have hparameters : ((columns.map fun c => ParamSlot.bindVar c.name).map Fragment.ofParam).map
      (Fragment.spell keep) = (columns.map (·.name)).map (":" ++ ·) := by
    rw [List.map_map, List.map_map, List.map_map]
    apply List.map_congr_left
    intro c _
    change (Fragment.ofParam (.bindVar c.name)).spell keep = ":" ++ c.name
    rw [Fragment.spell_bindVar]
  rw [tuple, Fragment.spell_parenthesized, Fragment.spell_join, hparameters]

end Emission

namespace Schema

variable {s : Schema} {e : Entity}

/-- A batch of inserts names each inserted column and its bind variable. -/
theorem compile_insert_bindVars (he : s.entity? e.name = some e)
    (hdistinct : ((s.columns e).map (·.name)).Nodup) (dialect : Dialect) :
    ∃ statement, s.compile { dialect } (Writing.insert.batch e.name) = .ok statement ∧
      statement.sql = batchInsertSql dialect e.table
        (((s.columns e).filter Column.isInserted).map (·.name)) ∧
      statement.BindsEach s e Column.isInserted := by
  obtain ⟨passage, hemit, hfragment⟩ := Emission.run_pair rfl rfl rfl
    (Emission.run_insert he ⟨dialect, true⟩ (.rooted e.toEntityInfo "") false)
    (Emission.run_values_bindVars he _ _ true)
  have hparams : ∀ keep, passage.fragment.params keep =
      (((s.columns e).filter Column.isInserted).map (·.name)).map .bindVar := by
    rw [List.map_map]
    exact Emission.places_batch he .insert _ _ _ hemit
  obtain ⟨statement, hcompile, hsql, hparameters, hbindVars, hentity⟩ :=
    compile_of_bindVars (hdistinct.sublist (List.filter_sublist.map _))
      (emit_of_walks (Registration.run_insert he (.bindVars e.name)) hemit) hparams
  refine ⟨statement, hcompile, ?_,
    statement.bindsEach he hdistinct hparameters hbindVars hentity⟩
  rw [hsql, hfragment, batchInsertSql_eq]
  simp only [Fragment.spell_append, Fragment.spell_ofText, Fragment.spell_identifier,
    Fragment.spell_parenthesized, Fragment.spell_join, bindSlots, Emission.spell_tuple,
    List.map_map, Function.comp_def, String.append_assoc]
  rfl

/-- A batch of updates assigns its bind variable to each updated column. -/
theorem compile_update_bindVars (he : s.entity? e.name = some e)
    (hdistinct : ((s.columns e).map (·.name)).Nodup)
    (hne : (s.columns e).filter Column.isUpdated ≠ []) (dialect : Dialect)
    (aliasName : Option String) :
    ∃ statement, s.compile { dialect } ((Writing.update aliasName).batch e.name) = .ok statement ∧
      statement.sql = batchUpdateSql dialect e.table (aliasName.getD "")
        (((s.columns e).filter Column.isUpdated).map (·.name)) ∧
      statement.BindsEach s e Column.isUpdated := by
  obtain ⟨passage, hemit, hfragment⟩ := Emission.run_pair rfl rfl rfl
    (Emission.run_update he aliasName (aliasName.getD "") ⟨dialect, true⟩ false)
    (Emission.run_set_bindVars he hne _ _ true)
  have hparams : ∀ keep, passage.fragment.params keep =
      (((s.columns e).filter Column.isUpdated).map (·.name)).map .bindVar := by
    rw [List.map_map]
    exact Emission.places_batch he (.update aliasName) _ _ _ hemit
  obtain ⟨statement, hcompile, hsql, hparameters, hbindVars, hentity⟩ :=
    compile_of_bindVars (hdistinct.sublist (List.filter_sublist.map _))
      (emit_of_walks (Registration.run_update he aliasName (.bindVars e.name)) hemit) hparams
  refine ⟨statement, hcompile, ?_,
    statement.bindsEach he hdistinct hparameters hbindVars hentity⟩
  rw [hsql, hfragment, batchUpdateSql_eq]
  simp only [Fragment.spell_append, Fragment.spell_ofText, Fragment.spell_table, bindSlots,
    Emission.spell_assignmentList, String.append_assoc]

/-- What the columns of an entity are called, and what their names serve for. -/
structure NamesColumns (s : Schema) (e : Entity) : Prop where
  names_eq : (s.columns e).map (·.name) = e.labels.map (·.name s.naming)
  /-- Columns have one name if they have one label, or if two labels are made one name. -/
  distinct_iff : ((s.columns e).map (·.name)).Nodup ↔
    e.labels.Nodup ∧
      ∀ a ∈ e.labels, ∀ b ∈ e.labels, a.name s.naming = b.name s.naming → a = b
  /-- It takes given names, or a repeated suffix, for columns to have one label. -/
  labels_distinct : e.NamesDerived → e.labels.Nodup
  /-- Exactly if names are distinct, every column is found by its name. -/
  found_iff : ((s.columns e).map (·.name)).Nodup ↔
    ∀ i c, (s.columns e)[i]? = some c → (s.columns e).findIdx? (·.name == c.name) = some i
  inserts : ((s.columns e).map (·.name)).Nodup → ∀ dialect,
    ∃ statement, s.compile { dialect } (Writing.insert.batch e.name) = .ok statement ∧
      statement.sql = batchInsertSql dialect e.table
        (((s.columns e).filter Column.isInserted).map (·.name)) ∧
      statement.BindsEach s e Column.isInserted
  updates : ((s.columns e).map (·.name)).Nodup → (s.columns e).filter Column.isUpdated ≠ [] →
    ∀ dialect aliasName,
      ∃ statement, s.compile { dialect } ((Writing.update aliasName).batch e.name) =
          .ok statement ∧
        statement.sql = batchUpdateSql dialect e.table (aliasName.getD "")
          (((s.columns e).filter Column.isUpdated).map (·.name)) ∧
        statement.BindsEach s e Column.isUpdated

theorem nodup_names_iff_found :
    ((s.columns e).map (·.name)).Nodup ↔ ∀ i c, (s.columns e)[i]? = some c →
      (s.columns e).findIdx? (·.name == c.name) = some i := by
  constructor
  · exact fun hdistinct i c hc => findIdx?_of_getElem? hdistinct hc
  · intro hfound
    rw [List.nodup_iff_getElem?_ne_getElem?]
    intro i j hlt hj heq
    rw [List.length_map] at hj
    rw [List.getElem?_map, List.getElem?_map, List.getElem?_eq_getElem (Nat.lt_trans hlt hj),
      List.getElem?_eq_getElem hj] at heq
    have hname : (s.columns e)[i].name = (s.columns e)[j].name := Option.some.inj heq
    have hi := hfound i _ (List.getElem?_eq_getElem (Nat.lt_trans hlt hj))
    rw [hname, hfound j _ (List.getElem?_eq_getElem hj)] at hi
    exact Nat.ne_of_lt hlt (Option.some.inj hi).symm

/-- In an accepted schema whose entities have no two fields of one name, columns are told apart by
their names exactly if given names and the naming strategy allow it, and then so are they in
batches. -/
theorem columns_named {spec : SchemaSpec} (h : spec.toSchema = .ok s)
    (hdistinct : ∀ e ∈ s.entities, (e.fields.map (·.name)).Nodup) {name : EntityName}
    (he : s.entity? name = some e) : NamesColumns s e := by
  have hentity : s.entity? e.name = some e := by rwa [name_of_entity? he]
  exact {
    names_eq := e.map_name_columns s.naming
    distinct_iff := e.nodup_names_iff s.naming
    labels_distinct := Entity.nodup_labels hdistinct (allCoherent_of_entity? h he)
      (hdistinct e (List.mem_of_find?_eq_some he))
    found_iff := nodup_names_iff_found
    inserts := compile_insert_bindVars hentity
    updates := compile_update_bindVars hentity }

/-- A person has seven columns with names of their own, two of them inside the home. -/
theorem columns_named_person :
    Sample.spec.toSchema = .ok Sample.schema ∧
    (∀ e ∈ Sample.schema.entities, (e.fields.map (·.name)).Nodup) ∧
    Sample.schema.entity? "Person" = some Sample.person ∧
    NamesColumns Sample.schema Sample.person ∧
    (Sample.schema.columns Sample.person).map (·.name) =
      ["id", "mood", "home_city_id", "home_street", "motto", "motto_copy", "boss_id"] := by
  have hdistinct : ∀ e ∈ Sample.schema.entities, (e.fields.map (·.name)).Nodup := by
    decide +kernel
  have he : Sample.schema.entity? "Person" = some Sample.person := rfl
  exact ⟨Sample.toSchema_spec, hdistinct, he, columns_named Sample.toSchema_spec hdistinct he,
    by decide +kernel⟩

end Schema

/-! ### Owners of boats

A boat has a column of its own for the key of its owner, which is not to be written, beside the
column of the reference; in a berth both are written. -/

namespace Sample

def boatSpec : SchemaSpec where
  naming := naming
  entities := [
    .ofTable "Owner" [(.scalar "id" .int : FieldSpec).asPrimaryKey],
    .ofTable "Boat" [(.scalar "id" .int : FieldSpec).asPrimaryKey,
      ((.scalar "owner_id" .int : FieldSpec).asNullable).asReadOnly, .reference "owner" "Owner"],
    .ofTable "Berth" [(.scalar "id" .int : FieldSpec).asPrimaryKey,
      (.scalar "owner_id" .int : FieldSpec).asNullable, .reference "owner" "Owner"]]

def owner : Entity := ⟨⟨"Owner", "Owner", .table⟩,
  [.scalar { name := "id", primaryKey := true } .int]⟩

def ownerKey : FieldInfo :=
  { name := "owner_id", nullable := true, insertable := false, updatable := false }

def boat : Entity := ⟨⟨"Boat", "Boat", .table⟩,
  [.scalar { name := "id", primaryKey := true } .int, .scalar ownerKey .int,
    .ref { name := "owner" } "Owner" ⟨"id", .int⟩]⟩

def berth : Entity := ⟨⟨"Berth", "Berth", .table⟩,
  [.scalar { name := "id", primaryKey := true } .int,
    .scalar { name := "owner_id", nullable := true } .int,
    .ref { name := "owner" } "Owner" ⟨"id", .int⟩]⟩

def boats : Schema := ⟨[owner, boat, berth], naming,
  [⟨owner.toEntityInfo, [⟨{ name := "id", primaryKey := true }, .scalar .int⟩]⟩,
    ⟨boat.toEntityInfo, [⟨{ name := "id", primaryKey := true }, .scalar .int⟩,
      ⟨ownerKey, .scalar .int⟩, ⟨{ name := "owner" }, .ref "Owner"⟩]⟩,
    ⟨berth.toEntityInfo, [⟨{ name := "id", primaryKey := true }, .scalar .int⟩,
      ⟨{ name := "owner_id", nullable := true }, .scalar .int⟩,
      ⟨{ name := "owner" }, .ref "Owner"⟩]⟩]⟩

theorem toSchema_boatSpec : boatSpec.toSchema = .ok boats := by
  cbv

def newBoat : Record := ⟨"Boat",
  [.scalar (.int 1), .null, .reference ⟨"Owner", some [.int 7], .unavailable⟩]⟩

end Sample

/-- The owner of a boat is bound to the value of the column that is not to be written, and a berth
names a column twice. -/
theorem Schema.exists_columns_named_alike :
    Sample.boatSpec.toSchema = .ok Sample.boats ∧
    (∀ e ∈ Sample.boats.entities, (e.fields.map (·.name)).Nodup) ∧
    Sample.boats.entity? "Boat" = some Sample.boat ∧
    ¬((Sample.boats.columns Sample.boat).map (·.name)).Nodup ∧
    (∃ batch, Sample.boats.compile {} (Writing.insert.batch "Boat") = .ok batch ∧
      (batch.bind Sample.boats Sample.newBoat).run =
        .ok (some [("id", .int 1), ("owner_id", .null)]) ∧
      ∃ direct, Sample.boats.compile {} (Writing.insert.direct Sample.newBoat) = .ok direct ∧
        direct.parameters = .positional [.int 1, .int 7]) ∧
    (∃ batch, Sample.boats.compile {} ((Writing.update none).batch "Boat") = .ok batch ∧
      (batch.bind Sample.boats Sample.newBoat).run = .ok (some [("owner_id", .null)]) ∧
      ∃ direct, Sample.boats.compile {} ((Writing.update none).direct Sample.newBoat) =
          .ok direct ∧
        direct.parameters = .positional [.int 7]) ∧
    ∃ batch, Sample.boats.compile {} (Writing.insert.batch "Berth") = .ok batch ∧
      batch.sql = batchInsertSql .ansi "Berth" ["id", "owner_id", "owner_id"] :=
  ⟨Sample.toSchema_boatSpec, by decide +kernel, rfl, by decide +kernel, by decide +kernel,
    by decide +kernel, by decide +kernel⟩

end RelMap
