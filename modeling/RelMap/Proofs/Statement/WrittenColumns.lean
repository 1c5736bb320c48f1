import RelMap.Proofs.Schema.ColumnFlags
import RelMap.Proofs.Statement.Batches
import RelMap.Proofs.Statement.Rendering

/-!
# Written columns

An insert or update picks its columns by their flags, and the values of a record by the flags of the
columns that they belong to. If there is one value for each column, both picks select the same
positions, so every value is written to the column that it was encoded for.
-/

namespace RelMap

open Compiling Modification

/-! ## Picked values -/

namespace Column

def pick (accepts : Column → Bool) (columns : List Column) (values : List SqlValue) :
    List SqlValue :=
  ((columns.zip values).filter fun x => accepts x.1).map Prod.snd

variable {accepts : Column → Bool} {columns : List Column} {values : List SqlValue}

theorem length_pick (h : values.length = columns.length) :
    (pick accepts columns values).length = (columns.filter accepts).length := by
  rw [pick, List.length_map, length_filter_zip h]

theorem map_findIdxs_eq_pick (front : List SqlValue) (h : values.length = columns.length) :
    (columns.findIdxs accepts front.length).map (fun i => (front ++ values)[i]?) =
      (pick accepts columns values).map some := by
  induction columns generalizing front values with
  | nil => rfl
  | cons c rest ih =>
    cases values with
    | nil => cases h
    | cons v values =>
      -- the first value goes to the front, so that no position is shifted
      have hrest := ih (front ++ [v]) (Nat.succ.inj h)
      rw [List.length_append, List.length_singleton, List.append_assoc, List.singleton_append]
        at hrest
      have hfirst : (front ++ v :: values)[front.length]? = some v := by
        rw [List.getElem?_append_right (Nat.le_refl _), Nat.sub_self]
        rfl
      rw [List.findIdxs_cons, pick, List.zip_cons_cons, List.filter_cons]
      dsimp only
      cases accepts c with
      | false => exact hrest
      | true =>
        rw [if_pos rfl, if_pos rfl, List.map_cons, List.map_cons, List.map_cons, hfirst, hrest]
        rfl

/-- Picked value number `k` is that of column number `k` among those that pass. -/
theorem exists_getElem?_pick (h : values.length = columns.length) {k i : Nat}
    (hi : (columns.findIdxs accepts)[k]? = some i) :
    ∃ v, values[i]? = some v ∧ (pick accepts columns values)[k]? = some v := by
  have hmap : ((columns.findIdxs accepts).map fun i => values[i]?)[k]? =
      ((pick accepts columns values).map some)[k]? :=
    congrArg (·[k]?) (map_findIdxs_eq_pick [] h)
  rw [List.getElem?_map, List.getElem?_map, hi, Option.map_some] at hmap
  cases hpicked : (pick accepts columns values)[k]? with
  | none =>
    rw [hpicked] at hmap
    cases hmap
  | some v =>
    rw [hpicked] at hmap
    exact ⟨v, Option.some.inj hmap, rfl⟩

theorem findIdxs_eq_nil_iff_filter :
    columns.findIdxs accepts = [] ↔ columns.filter accepts = [] := by
  rw [List.findIdxs_eq_nil_iff, List.filter_eq_nil_iff]
  simp only [Bool.not_eq_true]

end Column

theorem recordSlots_of_encode {s : Schema} {e : Entity} {r : Record} {values : List SqlValue}
    {accepts : Column → Bool} (he : s.entity? r.entity = some e)
    (h : s.encodeRecord r = .ok values) :
    recordSlots s accepts r =
      .ok ((Column.pick accepts (s.columns e) values).map .anonymous) := by
  unfold recordSlots
  rw [Schema.entity_of_entity? he, h, Column.pick, List.map_map]
  rfl

/-! ## Values in tuples -/

/-- The values are those of the rows, tuple by tuple: value number `k` of a tuple is the one that
its row has at position number `k`, as the dialect's drivers take it. -/
structure ValuesAligned (dialect : Dialect) (positions : List Nat) (rows : List (List SqlValue))
    (values : List SqlValue) : Prop where
  length : values.length = rows.length * positions.length
  value : ∀ j k row i, rows[j]? = some row → positions[k]? = some i →
    ∃ v, row[i]? = some v ∧ values[j * positions.length + k]? = some (dialect.coerce v)

/-- What is picked row by row is aligned with the positions of the columns that pass. -/
theorem valuesAligned_pick {accepts : Column → Bool} {columns : List Column}
    {rows : List (List SqlValue)} (dialect : Dialect)
    (h : ∀ row ∈ rows, row.length = columns.length) :
    ValuesAligned dialect (columns.findIdxs accepts) rows
      ((rows.flatMap (Column.pick accepts columns)).map dialect.coerce) := by
  have hcount : (columns.findIdxs accepts).length = (columns.filter accepts).length := by
    rw [List.length_findIdxs, List.countP_eq_length_filter]
  induction rows with
  | nil => exact ⟨(Nat.zero_mul _).symm, fun _ _ _ _ h => nomatch h⟩
  | cons row rest ih =>
    rw [List.forall_mem_cons] at h
    obtain ⟨hlength, hvalue⟩ := ih h.2
    have hpick : ((Column.pick accepts columns row).map dialect.coerce).length =
        (columns.findIdxs accepts).length := by
      rw [List.length_map, Column.length_pick h.1, hcount]
    rw [List.flatMap_cons, List.map_append]
    refine ⟨?_, ?_⟩
    · rw [List.length_append, hpick, hlength, List.length_cons, Nat.succ_mul, Nat.add_comm]
    · rintro (_ | j) k row' i hrow hi
      · cases hrow
        obtain ⟨v, hv, hpicked⟩ := Column.exists_getElem?_pick h.1 hi
        refine ⟨v, hv, ?_⟩
        have hk : k < ((Column.pick accepts columns row).map dialect.coerce).length := by
          rw [hpick]
          exact (List.getElem?_eq_some_iff.mp hi).1
        rw [Nat.zero_mul, Nat.zero_add, List.getElem?_append_left hk, List.getElem?_map, hpicked]
        rfl
      · obtain ⟨v, hv, hlater⟩ := hvalue j k row' i hrow hi
        refine ⟨v, hv, ?_⟩
        rw [List.getElem?_append_right (by rw [hpick, Nat.succ_mul]; omega), hpick, ← hlater]
        congr 1
        rw [Nat.succ_mul]
        omega

/-! ## Texts -/

def insertSql (dialect : Dialect) (table : String) (columns : List Column) (tuples : Nat) :
    String :=
  "INSERT INTO " ++ dialect.quote table ++
    " (" ++ ", ".intercalate (columns.map fun c => dialect.quote c.name) ++ ") VALUES " ++
    ", ".intercalate
      (List.replicate tuples ("(" ++ ", ".intercalate (List.replicate columns.length "?") ++ ")"))

/-- An update that sets columns of a table, which may go by an alias. -/
def updateSql (dialect : Dialect) (table aliasName : String) (columns : List Column) : String :=
  "UPDATE " ++ dialect.quote table ++
    (if aliasName = "" ∨ aliasName = table then "" else " AS " ++ dialect.quote aliasName) ++
    " SET " ++ ", ".intercalate (columns.map fun c => dialect.quote c.name ++ " = ?")

namespace Fragment

variable {keep : ConditionKey → Bool} {format : SqlFormat}

theorem sql_render_identifier (name : String) :
    ((format.identifier name).render .positional keep).sql = format.dialect.quote name :=
  sql_render_ofText _

theorem sql_render_tuple (slots : List ParamSlot) :
    ((tuple slots).render .positional keep).sql =
      "(" ++ ", ".intercalate (List.replicate slots.length "?") ++ ")" := by
  have hslots : (slots.map ofParam).map (fun f => (f.render .positional keep).sql) =
      List.replicate slots.length "?" := by
    rw [List.map_map, ← List.map_const]
    exact List.map_congr_left fun slot _ => sql_render_ofParam slot
  rw [tuple, sql_render_parenthesized, sql_render_join, hslots]

theorem sql_render_table (t : TableName) :
    ((t.render format).render .positional keep).sql = format.dialect.quote t.name ++
      if t.aliasName = "" ∨ t.aliasName = t.name then "" else
        " AS " ++ format.dialect.quote t.aliasName := by
  rw [TableName.render, sql_render_append, sql_render_identifier]
  split
  · rfl
  · rw [sql_render_append, sql_render_ofText, sql_render_identifier]

theorem params_table (t : TableName) : (t.render format).params keep = [] := by
  unfold TableName.render
  split <;> simp

end Fragment

/-! ## Roots -/

/-- The state in which the only table is bound, under an alias if it is not empty. -/
def CompileState.rooted (entity : EntityInfo) (aliasName : String) : CompileState where
  resolver := ⟨[⟨none, false, [⟨entity, "", aliasName⟩], {}⟩], 0⟩
  roots := [(0, entity.name)]

namespace Registration

variable {s : Schema} {e : Entity}

theorem run_insert (he : s.entity? e.name = some e) (clause : ValuesClause) :
    (elements s [.insert e.name, .values clause]).run {} =
      .ok ((), .rooted e.toEntityInfo "") := by
  have hinsert : (element s (.insert e.name)).run {} = .ok ((), .rooted e.toEntityInfo "") := by
    rw [element]
    exact lift_bind_of_ok (Schema.entity_of_entity? he)
  rw [elements, StateT.run_bind_of_ok hinsert]
  rfl

theorem run_update (he : s.entity? e.name = some e) (aliasName : Option String)
    (clause : SetClause) :
    (elements s [.update e.name aliasName, .set clause]).run {} =
      .ok ((), .rooted e.toEntityInfo (aliasName.getD "")) := by
  have hupdate : (element s (.update e.name aliasName)).run {} =
      .ok ((), .rooted e.toEntityInfo (aliasName.getD "")) := by
    rw [element]
    exact lift_bind_of_ok (Schema.entity_of_entity? he)
  rw [elements, StateT.run_bind_of_ok hupdate]
  rfl

end Registration

theorem CompileState.findBinding_rooted (entity : EntityInfo) (aliasName : String) :
    (rooted entity aliasName).resolver.findBinding entity.name (some "") .inner =
      .ok (0, ⟨entity, "", aliasName⟩) := by
  have hat : Resolver.isAt entity.name (some "") ⟨entity, "", aliasName⟩ = true :=
    Resolver.isAt_iff.mpr ⟨rfl, fun p hp => (Option.some.inj hp).symm⟩
  have hfilter : ((rooted entity aliasName).resolver.occurrences 0).filter
      (Resolver.isAt entity.name (some "")) = [⟨entity, "", aliasName⟩] :=
    List.filter_cons_of_pos hat
  change Resolver.bindingIn _ _ _ [0] = _
  rw [Resolver.bindingIn, hfilter]

/-! ## Emission -/

namespace Emission

variable {s : Schema} {e : Entity} {format : SqlFormat} {state : CompileState}

theorem run_pair {x y : Element} {f g : Fragment} {state' : CompileState} (hx : x.isSql = false)
    (hy : y.isSql = false) (hyjoin : y.isJoin = false)
    (hfirst : (element s format false x).run state = .ok (.ofFragment f, state))
    (hsecond : (element s format true y).run state = .ok (.ofFragment g, state')) :
    ∃ passage, (elements s format true [x, y]).run state = .ok (passage, state') ∧
      passage.fragment = f ++ .ofText " " ++ g := by
  have hrest : (elements s format false [y]).run state =
      .ok (Passage.ofFragment (space true) ++ Passage.ofFragment g ++ [], state') := by
    rw [elements, hy, hyjoin]
    exact StateT.run_bind_of_ok hsecond
  refine ⟨Passage.ofFragment (space false) ++ Passage.ofFragment f ++
    (Passage.ofFragment (space true) ++ Passage.ofFragment g ++ []), ?_, ?_⟩
  · rw [elements, hx]
    refine (StateT.run_bind_of_ok hfirst).trans ?_
    exact StateT.run_bind_of_ok hrest
  · simp only [Passage.fragment_append, Passage.fragment_ofFragment]
    simp [space, Passage.fragment]

theorem run_pair_error {x y : Element} {f : Fragment} {error : Error} (hx : x.isSql = false)
    (hy : y.isSql = false)
    (hfirst : (element s format false x).run state = .ok (.ofFragment f, state))
    (hsecond : (element s format true y).run state = .error error) :
    (elements s format true [x, y]).run state = .error error := by
  have hrest : (elements s format false [y]).run state = .error error := by
    rw [elements, hy]
    exact StateT.run_bind_of_error hsecond
  rw [elements, hx]
  refine (StateT.run_bind_of_ok hfirst).trans ?_
  exact StateT.run_bind_of_error hrest

theorem run_insert (he : s.entity? e.name = some e) (format : SqlFormat) (state : CompileState)
    (separate : Bool) : (element s format separate (.insert e.name)).run state =
      .ok (.ofFragment (.ofText "INSERT INTO " ++ format.identifier e.table ++ .ofText " " ++
        Fragment.parenthesized (.join ", " (((s.columns e).filter Column.isInserted).map fun c =>
          format.identifier c.name))), state) := by
  have hinsert : (emitInsert s format e.name).run state = .ok (_, state) :=
    lift_bind_of_ok (Schema.entity_of_entity? he)
  rw [element, StateT.run_bind_of_ok hinsert]
  rfl

theorem run_values {records : List Record} {tuples : List (List ParamSlot)}
    (hne : records ≠ []) (h : records.mapM (recordSlots s Column.isInserted) = .ok tuples)
    (format : SqlFormat) (state : CompileState) (separate : Bool) :
    (element s format separate (.values (.records records))).run state =
      .ok (.ofFragment (.ofText "VALUES " ++ .join ", " (tuples.map tuple)), state) := by
  have hvalues : (emitValues s (.records records)).run state =
      .ok (.ofText "VALUES " ++ .join ", " (tuples.map tuple), state) := by
    rw [emitValues, List.isEmpty_eq_false_iff.mpr hne]
    exact StateT.mapM_lift_bind_eq_ok_iff.mpr ⟨tuples, h, rfl⟩
  rw [element, StateT.run_bind_of_ok hvalues]
  rfl

theorem run_update (he : s.entity? e.name = some e) (given : Option String) (aliasName : String)
    (format : SqlFormat) (separate : Bool) :
    (element s format separate (.update e.name given)).run (.rooted e.toEntityInfo aliasName) =
      .ok (.ofFragment (.ofText "UPDATE " ++ (⟨e.table, aliasName⟩ : TableName).render format),
        .rooted e.toEntityInfo aliasName) := by
  have htable : (tableAt e "").run (.rooted e.toEntityInfo aliasName) =
      .ok (⟨e.table, aliasName⟩, .rooted e.toEntityInfo aliasName) := by
    rw [tableAt, StateT.run_bind_of_ok
      (run_findBinding (CompileState.findBinding_rooted e.toEntityInfo aliasName))]
    rfl
  have hupdate : (emitUpdate s format e.name).run (.rooted e.toEntityInfo aliasName) =
      .ok (.ofText "UPDATE " ++ (⟨e.table, aliasName⟩ : TableName).render format,
        .rooted e.toEntityInfo aliasName) := by
    refine (lift_bind_of_ok (Schema.entity_of_entity? he)).trans ?_
    exact StateT.run_bind_of_ok htable
  rw [element, StateT.run_bind_of_ok hupdate]
  rfl

def assignmentList (format : SqlFormat) (pairs : List (Column × ParamSlot)) : Fragment :=
  .ofText "SET " ++ .join ", " (pairs.map fun (c, slot) =>
    ({ format with qualifyColumns := false } : SqlFormat).column "" c.name ++ .ofText " = " ++
      .ofParam slot)

theorem params_assignmentList (pairs : List (Column × ParamSlot)) (keep : ConditionKey → Bool) :
    (assignmentList format pairs).params keep = pairs.map Prod.snd := by
  simp only [assignmentList, Fragment.params_append, Fragment.params_ofText, Fragment.params_join,
    List.flatMap_map, Fragment.params_column, Fragment.params_ofParam, List.nil_append]
  exact List.map_eq_flatMap.symm

theorem sql_assignmentList (pairs : List (Column × ParamSlot)) (keep : ConditionKey → Bool) :
    ((assignmentList format pairs).render .positional keep).sql = "SET " ++
      ", ".intercalate
        ((pairs.map Prod.fst).map fun c => format.dialect.quote c.name ++ " = ?") := by
  have hpair (p : Column × ParamSlot) :
      ((({ format with qualifyColumns := false } : SqlFormat).column "" p.1.name ++
        Fragment.ofText " = " ++ Fragment.ofParam p.2).render .positional keep).sql =
      format.dialect.quote p.1.name ++ " = ?" := by
    rw [Fragment.sql_render_append, Fragment.sql_render_append, Fragment.sql_render_ofText,
      Fragment.sql_render_ofParam, String.append_assoc]
    exact congrArg (· ++ " = ?") (Fragment.sql_render_identifier p.1.name)
  rw [assignmentList, Fragment.sql_render_append, Fragment.sql_render_ofText,
    Fragment.sql_render_join, List.map_map, List.map_map]
  congr 2
  exact List.map_congr_left fun p _ => hpair p

theorem run_emitSet {r : Record} {slots : List ParamSlot} (he : s.entity? r.entity = some e)
    (h : recordSlots s Column.isUpdated r = .ok slots) (format : SqlFormat)
    (state : CompileState) : (emitSet s format (.record r)).run state =
      (match ((s.columns e).filter Column.isUpdated).zip slots with
        | [] => throw (.usage (.noUpdatableColumns r.entity))
        | pairs => return assignmentList format pairs : Compiling Fragment).run state := by
  have hassignments : (assignments s (.record r)).run state = .ok ((r.entity, slots), state) :=
    StateT.run_bind_of_ok (StateT.run_lift_of_ok h state)
  rw [emitSet, StateT.run_bind_of_ok hassignments]
  exact lift_bind_of_ok (Schema.entity_of_entity? he)

theorem run_set {r : Record} {slots : List ParamSlot} (he : s.entity? r.entity = some e)
    (h : recordSlots s Column.isUpdated r = .ok slots)
    (hne : ((s.columns e).filter Column.isUpdated).zip slots ≠ []) (format : SqlFormat)
    (state : CompileState) (separate : Bool) :
    (element s format separate (.set (.record r))).run state =
      .ok (.ofFragment (assignmentList format (((s.columns e).filter Column.isUpdated).zip slots)),
        state) := by
  have hset := run_emitSet he h format state
  generalize ((s.columns e).filter Column.isUpdated).zip slots = pairs at hset hne
  rw [element]
  cases pairs with
  | nil => exact absurd rfl hne
  | cons => exact StateT.run_bind_of_ok hset

theorem run_set_error {r : Record} {slots : List ParamSlot} (he : s.entity? r.entity = some e)
    (h : recordSlots s Column.isUpdated r = .ok slots)
    (hnone : ((s.columns e).filter Column.isUpdated).zip slots = []) (format : SqlFormat)
    (state : CompileState) (separate : Bool) :
    (element s format separate (.set (.record r))).run state =
      .error (.usage (.noUpdatableColumns r.entity)) := by
  have hset := run_emitSet he h format state
  rw [hnone] at hset
  rw [element]
  exact StateT.run_bind_of_error hset

end Emission

/-! ## Written flags -/

namespace Leaf

variable {s : Schema} {e : Entity} {l : Leaf}

/-- A column of a leaf is inserted if it is insertable and nothing around it is generated, and updated
if it is updatable and nothing around it is generated or part of the key. -/
theorem exists_written_column (hl : l ∈ e.leaves) {i : Nat} (hstart : l.span.start ≤ i)
    (hstop : i < l.span.stop) :
    ∃ c, (s.columns e)[i]? = some c ∧
      (i ∈ (s.columns e).findIdxs Column.isInserted ↔
        c.insertable = true ∧ ∀ info ∈ l.infos, info.autoGenerated = false) ∧
      (i ∈ (s.columns e).findIdxs Column.isUpdated ↔
        c.updatable = true ∧
          ∀ info ∈ l.infos, info.autoGenerated = false ∧ info.primaryKey = false) := by
  have hbounds := (Entity.holds_of_mem_leaves hl).bounds
  have hi : i < (s.columns e).length := by
    have hlength := Field.length_columnsOf s.naming {} e.fields
    exact Nat.lt_of_lt_of_le hstop (Nat.le_trans hbounds.2 (Nat.le_of_eq hlength.symm))
  have hmem : (s.columns e)[i] ∈ l.span.slice (s.columns e) := by
    have hwidth : i - l.span.start < l.span.width := by
      rw [Span.width]
      omega
    apply List.mem_of_getElem? (i := i - l.span.start)
    rw [Span.getElem?_slice hwidth, Nat.add_sub_cancel' hstart, List.getElem?_eq_getElem hi]
  have hflags := (s.columns_flagged e).flags l hl _ hmem
  have hgenerated : (s.columns e)[i].autoGenerated = false ↔
      ∀ info ∈ l.infos, info.autoGenerated = false := by
    rw [← Bool.not_eq_true, hflags.autoGenerated]
    simp only [not_exists, not_and, Bool.not_eq_true]
  have hkey : (s.columns e)[i].primaryKey = false ↔
      ∀ info ∈ l.infos, info.primaryKey = false := by
    rw [← Bool.not_eq_true, hflags.primaryKey]
    simp only [not_exists, not_and, Bool.not_eq_true]
  refine ⟨_, List.getElem?_eq_getElem hi, ?_, ?_⟩
  · rw [List.mem_findIdxs_iff_pos_getElem hi, Column.isInserted, Bool.and_eq_true,
      Bool.not_eq_true', hgenerated]
  · rw [List.mem_findIdxs_iff_pos_getElem hi, Column.isUpdated, Bool.and_eq_true, Bool.and_eq_true,
      Bool.not_eq_true', Bool.not_eq_true', hgenerated, hkey, and_assoc, forall₂_and,
      and_comm (a := ∀ info ∈ l.infos, info.primaryKey = false)]

end Leaf

/-! ## Aligned writes -/

/-- The record is one of the entity and is encoded to a row with a value for each column. -/
structure Encodes (s : Schema) (e : Entity) (r : Record) (row : List SqlValue) : Prop where
  entity : r.entity = e.name
  encoded : s.encodeRecord r = .ok row
  width : row.length = e.columnCount

namespace Encodes

variable {s : Schema} {e : Entity} {r : Record} {row : List SqlValue}

theorem length_eq (h : Encodes s e r row) : row.length = (s.columns e).length :=
  h.width.trans (Field.length_columnsOf s.naming {} e.fields).symm

theorem recordSlots (h : Encodes s e r row) (he : s.entity? e.name = some e)
    (accepts : Column → Bool) : recordSlots s accepts r =
      .ok ((Column.pick accepts (s.columns e) row).map .anonymous) :=
  recordSlots_of_encode (h.entity ▸ he) h.encoded

end Encodes

namespace Schema

variable {s : Schema} {e : Entity}

theorem mapM_recordSlots {records : List Record} {rows : List (List SqlValue)}
    (he : s.entity? e.name = some e) (h : List.Forall₂ (Encodes s e) records rows) :
    records.mapM (recordSlots s Column.isInserted) =
      .ok (rows.map fun row => (Column.pick Column.isInserted (s.columns e) row).map .anonymous) := by
  induction h with
  | nil => rfl
  | cons hrow _ ih =>
    rw [List.mapM_cons, hrow.recordSlots he, ih]
    rfl

theorem compile_insert {records : List Record} {rows : List (List SqlValue)}
    (he : s.entity? e.name = some e) (dialect : Dialect) (hne : records ≠ [])
    (h : List.Forall₂ (Encodes s e) records rows) :
    ∃ statement, s.compile { dialect } [.insert e.name, .values (.records records)] =
        .ok statement ∧
      statement.sql = insertSql dialect e.table ((s.columns e).filter Column.isInserted)
        records.length ∧
      statement.parameters = .positional
        ((rows.flatMap (Column.pick Column.isInserted (s.columns e))).map dialect.coerce) := by
  have htuples := mapM_recordSlots he h
  obtain ⟨passage, hemit, hfragment⟩ := Emission.run_pair rfl rfl rfl
    (Emission.run_insert he ⟨dialect, true⟩ (.rooted e.toEntityInfo "") false)
    (Emission.run_values hne htuples _ _ true)
  have hparams : ∀ keep, passage.fragment.params keep =
      (rows.flatMap (Column.pick Column.isInserted (s.columns e))).map .anonymous := by
    intro keep
    rw [hfragment]
    simp [List.flatMap_map, List.map_flatMap, Emission.params_tuple]
  have hrow : ∀ row ∈ rows, row.length = (s.columns e).length := by
    intro row hrow
    obtain ⟨r, -, hencodes⟩ := exists_left_of_forall₂ h hrow
    exact hencodes.length_eq
  refine ⟨_, compile_of_emit rfl (.inl rfl)
    (emit_of_walks (Registration.run_insert he (.records records)) hemit) hparams, ?_, rfl⟩
  have htexts : ∀ keep, (rows.map fun row => ((tuple ((Column.pick Column.isInserted (s.columns e)
      row).map .anonymous)).render .positional keep).sql) = List.replicate records.length
        ("(" ++ ", ".intercalate (List.replicate ((s.columns e).filter Column.isInserted).length
          "?") ++ ")") := by
    intro keep
    rw [List.eq_replicate_iff, List.length_map, h.length_eq]
    refine ⟨rfl, List.forall_mem_map.mpr fun row hmem => ?_⟩
    rw [Fragment.sql_render_tuple, List.length_map, Column.length_pick (hrow row hmem)]
  delta insertSql
  simp only [hfragment, Fragment.sql_render_append, Fragment.sql_render_ofText,
    Fragment.sql_render_identifier, Fragment.sql_render_parenthesized, Fragment.sql_render_join,
    List.map_map, Function.comp_def, htexts, String.append_assoc]
  rfl

theorem compile_update {r : Record} {row : List SqlValue} (he : s.entity? e.name = some e)
    (dialect : Dialect) (h : Encodes s e r row) (hne : (s.columns e).findIdxs Column.isUpdated ≠ [])
    (aliasName : Option String) :
    ∃ statement, s.compile { dialect } [.update e.name aliasName, .set (.record r)] =
        .ok statement ∧
      statement.sql = updateSql dialect e.table (aliasName.getD "")
        ((s.columns e).filter Column.isUpdated) ∧
      statement.parameters = .positional
        ((Column.pick Column.isUpdated (s.columns e) row).map dialect.coerce) := by
  have hlength : ((s.columns e).filter Column.isUpdated).length =
      ((Column.pick Column.isUpdated (s.columns e) row).map ParamSlot.anonymous).length := by
    rw [List.length_map, Column.length_pick h.length_eq]
  have hcolumns := List.map_fst_zip (Nat.le_of_eq hlength)
  have hslots := List.map_snd_zip (Nat.le_of_eq hlength.symm)
  have hpairs : ((s.columns e).filter Column.isUpdated).zip
      ((Column.pick Column.isUpdated (s.columns e) row).map ParamSlot.anonymous) ≠ [] := by
    intro hnil
    rw [hnil] at hcolumns
    exact hne (Column.findIdxs_eq_nil_iff_filter.mpr hcolumns.symm)
  have he' : s.entity? r.entity = some e := h.entity ▸ he
  obtain ⟨passage, hemit, hfragment⟩ := Emission.run_pair rfl rfl rfl
    (Emission.run_update he aliasName (aliasName.getD "") ⟨dialect, true⟩ false)
    (Emission.run_set he' (h.recordSlots he Column.isUpdated) hpairs _ _ true)
  have hparams : ∀ keep, passage.fragment.params keep =
      (Column.pick Column.isUpdated (s.columns e) row).map .anonymous := by
    intro keep
    rw [hfragment, Fragment.params_append, Fragment.params_append, Fragment.params_append,
      Fragment.params_table, Emission.params_assignmentList, hslots]
    rfl
  refine ⟨_, compile_of_emit rfl (.inl rfl)
    (emit_of_walks (Registration.run_update he aliasName (.record r)) hemit) hparams, ?_, rfl⟩
  have hspace : " SET " = " " ++ "SET " := rfl
  rw [hfragment, updateSql, hspace]
  simp only [Fragment.sql_render_append, Fragment.sql_render_ofText, Fragment.sql_render_table,
    Emission.sql_assignmentList, hcolumns, String.append_assoc]

theorem compile_update_none {r : Record} {row : List SqlValue} (he : s.entity? e.name = some e)
    (dialect : Dialect) (h : Encodes s e r row) (hnone : (s.columns e).findIdxs Column.isUpdated = [])
    (aliasName : Option String) :
    s.compile { dialect } [.update e.name aliasName, .set (.record r)] =
      .error (.usage (.noUpdatableColumns e.name)) := by
  have he' : s.entity? r.entity = some e := h.entity ▸ he
  have hpairs : ((s.columns e).filter Column.isUpdated).zip
      ((Column.pick Column.isUpdated (s.columns e) row).map ParamSlot.anonymous) = [] := by
    rw [Column.findIdxs_eq_nil_iff_filter.mp hnone]
    rfl
  have hemit := Emission.run_pair_error rfl rfl
    (Emission.run_update he aliasName (aliasName.getD "") ⟨dialect, true⟩ false)
    (Emission.run_set_error he' (h.recordSlots he Column.isUpdated) hpairs _ _ true)
  have hwalks : s.emit dialect [.update e.name aliasName, .set (.record r)] =
      .error (.usage (.noUpdatableColumns e.name)) := by
    have henter : (modifyResolver (·.enter 0)).run (.rooted e.toEntityInfo (aliasName.getD "")) =
      .ok ((), .rooted e.toEntityInfo (aliasName.getD "")) := rfl
    rw [h.entity] at hemit
    exact (StateT.run_bind_of_ok (Registration.run_update he aliasName (.record r))).trans
      ((StateT.run_bind_of_ok henter).trans hemit)
  unfold compile
  rw [hwalks]
  rfl

/-- Inserts and updates name the columns that are to be written, in layout order, with a placeholder
for each, and give each of them the value that the record is encoded to at its position. An update
fails just if no column is to be written. -/
theorem writes_aligned (he : s.entity? e.name = some e) (dialect : Dialect) :
    (∀ records rows, records ≠ [] → List.Forall₂ (Encodes s e) records rows →
      ∃ statement values, s.compile { dialect } [.insert e.name, .values (.records records)] =
          .ok statement ∧
        statement.sql = insertSql dialect e.table ((s.columns e).filter Column.isInserted)
          records.length ∧
        statement.parameters = .positional values ∧
        ValuesAligned dialect ((s.columns e).findIdxs Column.isInserted) rows values) ∧
    (∀ r row aliasName, Encodes s e r row →
      let written := (s.columns e).findIdxs Column.isUpdated
      let compiled := s.compile { dialect } [.update e.name aliasName, .set (.record r)]
      ((∃ usage, compiled = .error (.usage usage)) ↔ written = []) ∧
      (written ≠ [] → ∃ statement values, compiled = .ok statement ∧
        statement.sql = updateSql dialect e.table (aliasName.getD "")
          ((s.columns e).filter Column.isUpdated) ∧
        statement.parameters = .positional values ∧
        ValuesAligned dialect written [row] values)) ∧
    ∀ i < e.columnCount, ∃ l ∈ e.leaves, l.span.start ≤ i ∧ i < l.span.stop ∧
      ∃ c, (s.columns e)[i]? = some c ∧
        (i ∈ (s.columns e).findIdxs Column.isInserted ↔
          c.insertable = true ∧ ∀ info ∈ l.infos, info.autoGenerated = false) ∧
        (i ∈ (s.columns e).findIdxs Column.isUpdated ↔
          c.updatable = true ∧
            ∀ info ∈ l.infos, info.autoGenerated = false ∧ info.primaryKey = false) := by
  refine ⟨?_, ?_, ?_⟩
  · intro records rows hne hencodes
    obtain ⟨statement, hcompile, hsql, hparameters⟩ := compile_insert he dialect hne hencodes
    refine ⟨statement, _, hcompile, hsql, hparameters, valuesAligned_pick dialect ?_⟩
    intro row hrow
    obtain ⟨r, -, hr⟩ := exists_left_of_forall₂ hencodes hrow
    exact hr.length_eq
  · intro r row aliasName hencodes
    by_cases hnone : (s.columns e).findIdxs Column.isUpdated = []
    · exact ⟨iff_of_true ⟨_, compile_update_none he dialect hencodes hnone aliasName⟩ hnone,
        fun hne => absurd hnone hne⟩
    · obtain ⟨statement, hcompile, hsql, hparameters⟩ :=
        compile_update he dialect hencodes hnone aliasName
      have haligned : ValuesAligned dialect ((s.columns e).findIdxs Column.isUpdated) [row] _ :=
        valuesAligned_pick dialect (List.forall_mem_singleton.mpr hencodes.length_eq)
      rw [List.flatMap_singleton] at haligned
      refine ⟨iff_of_false ?_ hnone, fun _ => ⟨statement, _, hcompile, hsql, hparameters, haligned⟩⟩
      rintro ⟨usage, herror⟩
      cases hcompile.symm.trans herror
  · intro i hi
    obtain ⟨l, hl, hstart, hstop⟩ := Entity.exists_leaf_at hi
    exact ⟨l, hl, hstart, hstop, l.exists_written_column hl hstart hstop⟩

end Schema

/-! ## Readings

A reading is identified by an embedded slot, and stamped by the database. -/

namespace Sample

def readingSpec : SchemaSpec where
  naming := naming
  entities := [
    .ofInline "Slot" [.scalar "day" .int, .scalar "hour" .int],
    .ofTable "Reading" [(FieldSpec.composite "slot" "Slot").asPrimaryKey,
      (FieldSpec.scalar "stamp" .int).asAutoGenerated, .scalar "valid" .boolean]]

def slot : Entity := ⟨⟨"Slot", "Slot", .inline⟩,
  [.scalar { name := "day" } .int, .scalar { name := "hour" } .int]⟩

def reading : Entity := ⟨⟨"Reading", "Reading", .table⟩,
  [.inline { name := "slot", primaryKey := true } slot.toEntityInfo slot.fields,
    .scalar { name := "stamp", insertable := false, updatable := false, autoGenerated := true } .int,
    .scalar { name := "valid" } .boolean]⟩

def readings : Schema := ⟨[slot, reading], naming,
  [⟨slot.toEntityInfo, [⟨{ name := "day" }, .scalar .int⟩, ⟨{ name := "hour" }, .scalar .int⟩]⟩,
    ⟨reading.toEntityInfo, [⟨{ name := "slot", primaryKey := true }, .inline "Slot"⟩,
      ⟨{ name := "stamp", insertable := false, updatable := false, autoGenerated := true },
        .scalar .int⟩,
      ⟨{ name := "valid" }, .scalar .boolean⟩]⟩]⟩

theorem toSchema_readingSpec : readingSpec.toSchema = .ok readings := by
  cbv

def readingAt (day hour : Int32) (valid : Bool) : Record := ⟨"Reading",
  [.record (.given 1) ⟨"Slot", [.scalar (.int day), .scalar (.int hour)]⟩, .scalar (.int 0),
    .scalar (.boolean valid)]⟩

theorem readingAt_encodes (day hour : Int32) (valid : Bool) :
    Encodes readings reading (readingAt day hour valid)
      [.int day, .int hour, .int 0, .boolean valid] :=
  ⟨rfl, rfl, rfl⟩

end Sample

/-- Readings are inserted without their stamps, and only the last column of one is updated. -/
theorem Schema.writes_aligned_readings :
    Sample.readingSpec.toSchema = .ok Sample.readings ∧
    Sample.readings.entity? "Reading" = some Sample.reading ∧
    (∃ statement values, Sample.readings.compile { dialect := .mySql }
        [.insert "Reading", .values (.records [Sample.readingAt 3 9 true,
          Sample.readingAt 3 10 false])] = .ok statement ∧
      statement.parameters = .positional values ∧
      ValuesAligned .mySql [0, 1, 3] [[.int 3, .int 9, .int 0, .boolean true],
        [.int 3, .int 10, .int 0, .boolean false]] values) ∧
    ∃ statement values, Sample.readings.compile { dialect := .mySql }
        [.update "Reading" none, .set (.record (Sample.readingAt 3 9 true))] = .ok statement ∧
      statement.parameters = .positional values ∧
      ValuesAligned .mySql [3] [[.int 3, .int 9, .int 0, .boolean true]] values := by
  have he : Sample.readings.entity? Sample.reading.name = some Sample.reading := rfl
  have hinserted : (Sample.readings.columns Sample.reading).findIdxs Column.isInserted =
      [0, 1, 3] := by
    decide +kernel
  have hupdated : (Sample.readings.columns Sample.reading).findIdxs Column.isUpdated = [3] := by
    decide +kernel
  obtain ⟨hinsert, hupdate, -⟩ := writes_aligned he .mySql
  rw [hinserted] at hinsert
  rw [hupdated] at hupdate
  obtain ⟨statement, values, hcompile, -, hparameters, haligned⟩ := hinsert _ _
    (List.cons_ne_nil _ _) (.cons (Sample.readingAt_encodes 3 9 true)
      (.cons (Sample.readingAt_encodes 3 10 false) .nil))
  obtain ⟨statement', values', hcompile', -, hparameters', haligned'⟩ :=
    (hupdate _ _ none (Sample.readingAt_encodes 3 9 true)).2 (List.cons_ne_nil _ _)
  exact ⟨Sample.toSchema_readingSpec, he, ⟨statement, values, hcompile, hparameters, haligned⟩,
    statement', values', hcompile', hparameters', haligned'⟩

end RelMap
