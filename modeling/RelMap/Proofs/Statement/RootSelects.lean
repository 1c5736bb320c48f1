import RelMap.Proofs.Statement.Planning
import RelMap.Proofs.Statement.Rendering

/-!
# Selects from a root table

A root table brings along the joins for its foreign keys, at every depth. A full select of the table
is written with all of them, and one of its own columns alone with none.
-/

namespace RelMap

open Compiling Resolver Select

variable {s : Schema} {e : Entity} {root : Occurrence} {joins : List AutoJoin}
  {registered : CompileState}

/-! ## Statements -/

/-- A select of an entity that is the root table, its joins included. -/
def rootSelect (entity : EntityName) (mode : SelectMode) : List Element :=
  [.select entity mode none, .fromTable entity none true]

def AutoJoin.sql (format : SqlFormat) (j : AutoJoin) : String :=
  " " ++ (j.join.render format).toSql.1

def selectSql (format : SqlFormat) (listed : List ListedColumn) (table : TableName)
    (joins : List AutoJoin) : String :=
  "SELECT " ++ (operandList format (listed.map ListedColumn.operand)).toSql.1 ++
    " FROM " ++ (table.render format).toSql.1 ++ String.join (joins.map (AutoJoin.sql format))

namespace Fragment.Textual

variable (format : SqlFormat)

theorem operandList (listed : List ListedColumn) :
    (Select.operandList format (listed.map ListedColumn.operand)).Textual := by
  apply Textual.join
  intro f hf
  obtain ⟨operand, hoperand, rfl⟩ := List.mem_map.mp hf
  obtain ⟨c, -, rfl⟩ := List.mem_map.mp hoperand
  exact column format _ _

theorem table (t : TableName) : (t.render format).Textual := by
  unfold TableName.render
  split
  · exact (ofText _).append ⟨[], rfl⟩
  · exact (ofText _).append ((ofText " AS ").append (ofText _))

theorem join_render {j : AutoJoin} {host o : Occurrence} {column : Column} {key : KeyColumn}
    (h : j.Joins host column key o) : (j.join.render format).Textual := by
  unfold Join.render
  rw [h.condition]
  have hcondition := ((Textual.column format host.qualifier column.name).append
    (ofText " = ")).append (Textual.column format o.qualifier key.name)
  exact (((ofText _).append (ofText " ")).append (table format _)).append
    ((ofText " ON ").append hcondition)

end Fragment.Textual

namespace Passage

variable {format : SqlFormat} {keep : ConditionKey → Bool}

theorem sql_plannedJoins (htext : ∀ j ∈ joins, (j.join.render format).Textual) :
    ((fragment (joins.map (Emission.plannedJoin format))).render .positional keep).sql =
      String.join ((joins.filter fun j => keep ⟨j.scope, j.qualifier⟩).map (·.sql format)) := by
  induction joins with
  | nil => rfl
  | cons j rest ih =>
    rw [List.forall_mem_cons] at htext
    have hjoin : ((partFragment (Emission.plannedJoin format j)).render .positional keep).sql =
        if keep ⟨j.scope, j.qualifier⟩ then j.sql format else "" := by
      rw [Emission.plannedJoin, partFragment, fragment_referring, Fragment.sql_render_conditional,
        Fragment.sql_render_append, Emission.space, if_pos rfl, Fragment.sql_render_ofText,
        htext.1.sql_render]
      rfl
    rw [List.map_cons, fragment, Fragment.sql_render_append, hjoin, ih htext.2, List.filter_cons]
    split
    · rw [List.map_cons, String.join_cons]
    · exact String.empty_append

theorem params_plannedJoins (htext : ∀ j ∈ joins, (j.join.render format).Textual) :
    (fragment (joins.map (Emission.plannedJoin format))).params keep = [] := by
  induction joins with
  | nil => rfl
  | cons j rest ih =>
    rw [List.forall_mem_cons] at htext
    have hjoin : (partFragment (Emission.plannedJoin format j)).params keep = [] := by
      have hspaced : (Emission.space true ++ j.join.render format).Textual :=
        (Fragment.Textual.ofText " ").append htext.1
      rw [Emission.plannedJoin, partFragment, fragment_referring, Fragment.params_conditional,
        hspaced.params_eq_nil, ite_self]
    rw [List.map_cons, fragment, Fragment.params_append, hjoin, ih htext.2]
    rfl

end Passage

theorem Registration.run_rootSelect {name : EntityName} {mode : SelectMode}
    (h : (element s (.fromTable name none true)).run {} = .ok ((), registered)) :
    (elements s (rootSelect name mode)).run {} = .ok ((), registered) := by
  have hselect : (element s (.select name mode none)).run {} = .ok ((), {}) := by
    rw [element]
    rfl
  rw [rootSelect, elements, StateT.run_bind_of_ok hselect, elements, StateT.run_bind_of_ok h,
    elements]
  rfl

theorem Emission.run_rootSelect {format : SqlFormat} {mode : SelectMode}
    {listed : List ListedColumn} {state selected : CompileState} (he : s.entity? e.name = some e)
    (hlist : (Select.list s e.name mode none).run state = .ok (listed, selected))
    (hroot : selected.resolver.findBinding e.name (some "") .inner = .ok (0, root))
    (hqueue : selected.autoJoins = [joins]) :
    ∃ passage, (elements s format true (rootSelect e.name mode)).run state =
        .ok (passage, { selected with autoJoins := [] }) ∧
      passage.fragment =
        .ofText "SELECT " ++ operandList format (listed.map ListedColumn.operand) ++ .ofText " " ++
        (.ofText "FROM " ++ (⟨e.table, root.aliasName⟩ : TableName).render format) ++
        Passage.fragment (joins.map (plannedJoin format)) := by
  let columns : Passage := .referring (listed.map ListedColumn.mention)
    (.ofText "SELECT " ++ operandList format (listed.map ListedColumn.operand))
  let table : Passage :=
    .ofFragment (.ofText "FROM " ++ (⟨e.table, root.aliasName⟩ : TableName).render format) ++
      joins.map (plannedJoin format)
  have hselect : (element s format false (.select e.name mode none)).run state =
      .ok (columns, selected) := by
    rw [element, Select.emit, StateT.run_bind_of_ok hlist]
    rfl
  have htable : (Modification.tableAt e "").run selected =
      .ok (⟨e.table, root.aliasName⟩, selected) := by
    rw [Modification.tableAt, StateT.run_bind_of_ok (run_findBinding hroot)]
    rfl
  have hfrom : (element s format true (.fromTable e.name none true)).run selected =
      .ok (table, { selected with autoJoins := [] }) := by
    rw [element, emitFrom]
    refine (lift_bind_of_ok (Schema.entity_of_entity? he)).trans ?_
    rw [StateT.run_bind_of_ok htable, if_pos rfl, StateT.run_bind_of_ok (run_nextAutoJoins hqueue)]
    rfl
  have hrest : (elements s format false [.fromTable e.name none true]).run selected =
      .ok (.ofFragment (space true) ++ table ++ [], { selected with autoJoins := [] }) := by
    rw [elements]
    exact (StateT.run_bind_of_ok hfrom).trans rfl
  refine ⟨.ofFragment (space false) ++ columns ++ (.ofFragment (space true) ++ table ++ []), ?_, ?_⟩
  · rw [rootSelect, elements]
    exact (StateT.run_bind_of_ok hselect).trans ((StateT.run_bind_of_ok hrest).trans rfl)
  · simp only [columns, table, space, Passage.fragment_append, Passage.fragment_ofFragment,
      Passage.fragment_referring, List.append_nil, List.append_assoc]
    rfl

/-! ## The root and its joins -/

/-- A root table is registered, and besides it only what is joined to it. Nothing is referred to
yet. -/
structure RootPlan (s : Schema) (e : Entity) (root : Occurrence) (joins : List AutoJoin)
    (registered : CompileState) : Prop where
  entity : root.entity = e.toEntityInfo
  path : root.path = ""
  queued : registered.autoJoins = [joins]
  linked : root.Linked s (PlannedIn registered.resolver 0 joins)
  planned : ∃ before after,
    (Registration.planFields s ⟨e, root, none⟩ "" 0 e.fields).run before = .ok (joins, after)
  live : registered.resolver.Live
  current : registered.resolver.current = 0
  outermost : registered.resolver.Outermost
  places : registered.resolver.PlacesDistinct
  qualifiers : registered.resolver.QualifiersDistinct
  bound : registered.resolver.occurrences 0 = root :: joins.map (·.joined)
  inside : ∀ j ∈ joins, j.PlannedInside s 0 (sizeOf e.fields)
  referenced : (registered.resolver.tableUse 0).referenced = []
  dependents : ∀ d ∈ (registered.resolver.tableUse 0).dependencies, ∃ j ∈ joins, d.2 = j.qualifier

theorem Registration.exists_rootPlan {spec : SchemaSpec} (hs : spec.toSchema = .ok s)
    {name : EntityName} (he : s.entity? name = some e)
    (h : (element s (.fromTable name none true)).run {} = .ok ((), registered)) :
    ∃ root joins, RootPlan s e root joins registered := by
  have hregister : (elements s (rootSelect name .full)).run {} = .ok ((), registered) :=
    run_rootSelect h
  have hsteps := steps_of_registers hregister
  have hlive := (Steps.wellNested hsteps wellNested_initial).live
  have hplaces := placesDistinct_of_registers hregister
  have hqualifiers := qualifiersDistinct_of_generates rfl hregister
  have hroot : registered.resolver.parent? 0 = none :=
    Steps.parent? hsteps (Nat.zero_lt_one : 0 < 1)
  rw [element] at h
  obtain ⟨e', he', hfrom⟩ := entity_bind_ok h
  cases he.symm.trans he'
  cases Schema.name_of_entity? he
  have hcoherent := Schema.allCoherent_of_entity? hs he
  have hkeyed := Schema.allKeyed_of_entity? hs he
  obtain ⟨joins, hjoins, hlinked⟩ :=
    registerFrom_plans he hcoherent hkeyed wellNested_initial hfrom
  obtain ⟨root, joins', tabled, planned, hentity, hpath, htabled, hplan, hbrings, hresolver,
    hqueued⟩ := registerFrom_brings hcoherent hkeyed live_initial hfrom
  cases hqueued.symm.trans hjoins
  obtain ⟨-, hcurrent, hbound, hinside, hreferenced, hdependents⟩ := hbrings
  rw [htabled, ← hresolver] at hcurrent hbound hreferenced hdependents
  rw [htabled] at hinside
  have hroots : registered.resolver.occurrences 0 = root :: joins.map (·.joined) := hbound
  refine ⟨root, joins, hentity, hpath, hqueued, ?linked, ⟨tabled, planned, hplan⟩, hlive, hcurrent,
    ?outermost, hplaces, hqualifiers, hroots, hinside, hreferenced, ?dependents⟩
  case linked =>
    refine (hlinked root ?_).resolve_left nofun
    rw [hroots]
    exact .head _
  case outermost =>
    unfold Outermost
    rw [hcurrent]
    exact hroot
  case dependents =>
    intro d hd
    exact (hdependents d hd).resolve_left nofun

namespace RootPlan

variable {r : Resolver} {j : AutoJoin}

theorem sees (h : RootPlan s e root joins registered) : Sees registered.resolver 0 registered where
  distinct := h.places
  tables := .of_scopes rfl
  unshadowed := by
    have hunshadowed := unshadowed_of_outermost h.outermost h.live
    rw [h.current] at hunshadowed
    exact hunshadowed

theorem emitting_eq (h : RootPlan s e root joins registered) : registered.emitting = registered := by
  have hentered : registered.resolver.enter 0 = registered.resolver := by
    rw [← h.current]
    rfl
  rw [CompileState.emitting, hentered]

theorem root_mem (h : RootPlan s e root joins registered) :
    root ∈ registered.resolver.occurrences 0 := by
  rw [h.bound]
  exact .head _

theorem joined_mem (h : RootPlan s e root joins registered) (hj : j ∈ joins) :
    j.joined ∈ registered.resolver.occurrences 0 := by
  rw [h.bound]
  exact .tail _ (List.mem_map_of_mem hj)

/-- A joined entity lies inside of the root's, so it is not the same. -/
theorem name_ne (h : RootPlan s e root joins registered) (he : s.entity? e.name = some e)
    (hj : j ∈ joins) : j.joined.entity.name ≠ e.name := by
  intro hname
  obtain ⟨fields, hentity, hsize⟩ := (h.inside j hj).entity
  rw [hname, he] at hentity
  cases hentity
  exact Nat.lt_irrefl _ hsize

theorem qualifier_ne (h : RootPlan s e root joins registered) (hj : j ∈ joins) :
    j.qualifier ≠ root.qualifier := by
  have hdistinct := h.qualifiers 0
  rw [h.bound, List.map_cons, List.nodup_cons, List.map_map] at hdistinct
  intro hsame
  apply hdistinct.1
  rw [← hsame]
  exact List.mem_map_of_mem hj

theorem findBinding (h : RootPlan s e root joins registered) (he : s.entity? e.name = some e)
    (hsame : registered.resolver.SameTables r) {path : Option String} {filter : ScopeFilter}
    (hpath : ∀ p ∈ path, p = "") (hvisible : r.visibleScopes filter = [0]) :
    r.findBinding e.name path filter = .ok (0, root) := by
  have hroot : isAt e.name path root = true := by
    rw [isAt_iff, h.entity, h.path]
    exact ⟨rfl, hpath⟩
  have hjoined : (joins.map (·.joined)).filter (isAt e.name path) = [] := by
    rw [List.filter_eq_nil_iff]
    intro o ho hat
    obtain ⟨j, hj, rfl⟩ := List.mem_map.mp ho
    exact h.name_ne he hj (isAt_iff.mp hat).1
  rw [Resolver.findBinding, hvisible, bindingIn, hsame.occurrences, h.bound,
    List.filter_cons_of_pos hroot, hjoined]

theorem not_required (h : RootPlan s e root joins registered) {use : TableUse}
    (hreferenced : use.referenced = [root.qualifier])
    (hdependencies : use.dependencies = (registered.resolver.tableUse 0).dependencies)
    (hj : j ∈ joins) : use.isRequired j.qualifier = false := by
  rw [Bool.eq_false_iff]
  intro hrequired
  obtain ⟨a, ha, hchain⟩ := TableUse.isRequired_iff.mp hrequired
  rw [hreferenced, List.mem_singleton] at ha
  rw [ha] at hchain
  -- whatever a chain of dependencies leads to is joined
  rcases hchain.cases_tail with hroot | ⟨c, -, hlast⟩
  · exact h.qualifier_ne hj hroot.symm
  · rw [hdependencies] at hlast
    obtain ⟨j', hj', hqualifier⟩ := h.dependents _ hlast
    exact h.qualifier_ne hj' hqualifier.symm

end RootPlan

/-! ## Compiled selects -/

/-- The select from the root table is compiled to the given columns and joins. -/
def SelectWritten (s : Schema) (options : CompileOptions) (entity : EntityName) (mode : SelectMode)
    (listed : List ListedColumn) (table : TableName) (joins : List AutoJoin) : Prop :=
  ∃ statement, s.compile options (rootSelect entity mode) = .ok statement ∧
    statement.sql = selectSql ⟨options.dialect, true⟩ listed table joins

namespace RootPlan

variable {options : CompileOptions} {mode : SelectMode} {listed : List ListedColumn}
  {selected : CompileState}

/-- A select of the root is written with the joins that are required by what it lists. -/
theorem selectWritten (h : RootPlan s e root joins registered) (he : s.entity? e.name = some e)
    (hregister : (Registration.element s (.fromTable e.name none true)).run {} =
      .ok ((), registered))
    (hlist : (Select.list s e.name mode none).run registered = .ok (listed, selected))
    {ms : List Mention} (hmarks : Marks ms registered selected)
    (hobservers : options.observers = []) :
    SelectWritten s options e.name mode listed ⟨e.table, root.aliasName⟩
      (joins.filter fun j => Schema.keeps selected.resolver ⟨j.scope, j.qualifier⟩) := by
  have hwalked : (Registration.elements s (rootSelect e.name mode)).run {} = .ok ((), registered) :=
    Registration.run_rootSelect hregister
  have hroot : selected.resolver.findBinding e.name (some "") .inner = .ok (0, root) := by
    refine h.findBinding he hmarks.tables (fun p hp => (Option.some.inj hp).symm) ?_
    rw [visibleScopes, hmarks.advances.current, h.current]
  have hqueue : selected.autoJoins = [joins] :=
    (congrArg Queued.autoJoins hmarks.queued).trans h.queued
  obtain ⟨passage, hemit, hfragment⟩ := Emission.run_rootSelect he hlist hroot hqueue
  have htext : ∀ j ∈ joins, (j.join.render ⟨options.dialect, true⟩).Textual := by
    intro j hj
    obtain ⟨host, column, key, hjoins⟩ := (h.inside j hj).joins
    exact .join_render _ hjoins
  have hcolumns := Fragment.Textual.operandList ⟨options.dialect, true⟩ listed
  have htable := Fragment.Textual.table ⟨options.dialect, true⟩ ⟨e.table, root.aliasName⟩
  have hemitted : s.emit options.dialect (rootSelect e.name mode) = .ok (passage, _) :=
    Schema.emit_of_walks hwalked (h.emitting_eq.symm ▸ hemit)
  have hparams : ∀ keep, passage.fragment.params keep = ([] : List SqlValue).map .anonymous := by
    intro keep
    simp only [hfragment, Fragment.params_append, Fragment.params_ofText, hcolumns.params_eq_nil,
      htable.params_eq_nil, Passage.params_plannedJoins htext, List.append_nil, List.map_nil]
  refine ⟨_, Schema.compile_of_emit hobservers (.inr rfl) hemitted hparams, ?_⟩
  have hspace : " FROM " = " " ++ "FROM " := rfl
  rw [hfragment, selectSql, hspace]
  simp only [Fragment.sql_render_append, Fragment.sql_render_ofText, hcolumns.sql_render,
    htable.sql_render, Passage.sql_plannedJoins htext, String.append_assoc]

theorem run_list (h : RootPlan s e root joins registered) (he : s.entity? e.name = some e) :
    (Select.list s e.name mode none).run registered =
      (columns s e (0, root) mode).run registered := by
  have hvisible := visibleScopes_of_outermost h.outermost h.live
  rw [h.current] at hvisible
  have hanywhere : ∀ p ∈ (none : Option String), p = "" := nofun
  have hfound := run_findBinding (h.findBinding he (.of_scopes rfl) hanywhere hvisible)
  rw [Select.list, StateT.run_bind_of_ok hfound]
  exact lift_bind_of_ok (Schema.entity_of_entity? he)

theorem selectWritten_own (h : RootPlan s e root joins registered) (he : s.entity? e.name = some e)
    (hregister : (Registration.element s (.fromTable e.name none true)).run {} =
      .ok ((), registered))
    (hobservers : options.observers = [])
    (hcolumns : ∀ marked,
      (mention (0, root) .cascade).run registered = .ok (⟨0, root, 0⟩, marked) →
      (columns s e (0, root) mode).run registered = .ok (listed, marked)) :
    SelectWritten s options e.name mode listed ⟨e.table, root.aliasName⟩ [] := by
  have hm := h.sees.run_mention h.root_mem
  have hlist := (h.run_list he).trans (hcolumns _ hm)
  have hwritten := h.selectWritten he hregister hlist (mention_marks hm) hobservers
  have hlive : 0 < registered.resolver.scopes.length := h.current ▸ h.live
  have huse : (registered.resolver.modifyTableUse 0 (·.mark root.qualifier)).tableUse 0 =
      (registered.resolver.tableUse 0).mark root.qualifier := tableUse_modifyTableUse hlive
  have hreferenced : ((registered.resolver.tableUse 0).mark root.qualifier).referenced =
      [root.qualifier] := by
    unfold TableUse.mark
    rw [h.referenced]
    rfl
  rw [List.filter_eq_nil_iff.mpr] at hwritten
  · exact hwritten
  · intro j hj
    have hrequired := h.not_required hreferenced TableUse.dependencies_mark hj
    rw [Schema.keeps, (h.inside j hj).scope]
    dsimp only
    rw [huse, hrequired]
    exact Bool.false_ne_true

theorem selectWritten_full (h : RootPlan s e root joins registered)
    (he : s.entity? e.name = some e) (hkeyed : Field.AllKeyed s e.fields)
    (hregister : (Registration.element s (.fromTable e.name none true)).run {} =
      .ok ((), registered))
    (hobservers : options.observers = []) :
    ∃ listed, Field.AllReadFrom s.naming (PlannedReading registered.resolver 0 joins)
        ⟨⟨0, root, 0⟩, s.columns e, root.path⟩ 0 listed e.fields ∧
      SelectWritten s options e.name .full listed ⟨e.table, root.aliasName⟩ joins := by
  have hm := h.sees.run_mention h.root_mem
  have hmarks := mention_marks hm
  obtain ⟨before, after, hplan⟩ := h.planned
  let host : Host := ⟨⟨0, root, 0⟩, s.columns e, root.path⟩
  obtain ⟨listed, selected, hlisted, hmarks'⟩ := fullFields_of_planFields e.fields hkeyed hplan
    (fun j hj => h.joined_mem hj) (h.sees.of_marks hmarks) (rfl : host.path = root.path)
  have hcolumns : (columns s e (0, root) .full).run registered = .ok (listed, selected) := by
    rw [columns, StateT.run_bind_of_ok hm]
    exact hlisted
  have hentity : s.entity? root.entity.name = some e := by
    rw [h.entity]
    exact he
  refine ⟨listed, columns_readFrom h.sees h.root_mem hentity h.linked hcolumns, ?_⟩
  have hlist := (h.run_list he).trans hcolumns
  have hmarked := hmarks.of_later hmarks'
  have hwritten := h.selectWritten he hregister hlist hmarked hobservers
  rw [List.filter_eq_self.mpr] at hwritten
  · exact hwritten
  · intro j hj
    have hjoined := hmarked.marked ⟨0, j.joined, 0⟩ (List.mem_map_of_mem hj)
    rw [Schema.keeps, (h.inside j hj).scope]
    exact TableUse.isRequired_of_mem_referenced hjoined

end RootPlan

namespace Schema

theorem keyColumns_of_ne_nil (h : e.keyColumns s.naming ≠ []) :
    s.keyColumns e = .ok (e.keyColumns s.naming) := by
  rw [keyColumns_eq, if_neg h]

/-- A full select from the root table compiles, with all joins that are planned for the foreign keys
of the table at every depth, and a select of its own columns or its key with none of them. -/
theorem compile_rootSelect_writes_joins {spec : SchemaSpec} (hs : spec.toSchema = .ok s)
    {name : EntityName} (he : s.entity? name = some e)
    (hregister : (Registration.element s (.fromTable name none true)).run {} =
      .ok ((), registered)) :
    ∃ root joins, root.entity = e.toEntityInfo ∧ root.path = "" ∧ registered.autoJoins = [joins] ∧
      root.Linked s (PlannedIn registered.resolver 0 joins) ∧
      ∀ options : CompileOptions, options.observers = [] →
        let table : TableName := ⟨e.table, root.aliasName⟩
        let host : Host := ⟨⟨0, root, 0⟩, s.columns e, root.path⟩
        (∃ listed, Field.AllReadFrom s.naming (PlannedReading registered.resolver 0 joins) host 0
            listed e.fields ∧
          SelectWritten s options name .full listed table joins) ∧
        SelectWritten s options name .nested (host.list (s.columns e)) table [] ∧
        (e.keyColumns s.naming ≠ [] →
          SelectWritten s options name .pk (host.list (e.keyColumns s.naming)) table []) := by
  cases name_of_entity? he
  have hkeyed := allKeyed_of_entity? hs he
  obtain ⟨root, joins, h⟩ := Registration.exists_rootPlan hs he hregister
  refine ⟨root, joins, h.entity, h.path, h.queued, h.linked, ?_⟩
  intro options hobservers table host
  refine ⟨h.selectWritten_full he hkeyed hregister hobservers, ?nested, ?pk⟩
  case nested =>
    refine h.selectWritten_own he hregister hobservers ?_
    intro marked hm
    rw [Select.columns, StateT.run_bind_of_ok hm]
    rfl
  case pk =>
    intro hkey
    refine h.selectWritten_own he hregister hobservers ?_
    intro marked hm
    rw [Select.columns, StateT.run_bind_of_ok hm]
    exact lift_bind_of_ok (keyColumns_of_ne_nil hkey)

end Schema

/-! ## Parcels with orders of customers -/

namespace Sample

def parcelSpec : SchemaSpec where
  naming := naming
  entities := [
    .ofTable "Customer" [(.scalar "id" .int : FieldSpec).asPrimaryKey],
    .ofTable "Order" [(.scalar "id" .int : FieldSpec).asPrimaryKey, .linked "customer" "Customer"],
    .ofTable "Parcel" [(.scalar "id" .int : FieldSpec).asPrimaryKey, .linked "order" "Order"]]

def parcel : Entity := ⟨⟨"Parcel", "Parcel", .table⟩,
  [.scalar { name := "id", primaryKey := true } .int,
    .foreignKey { name := "order" } (ofCustomer "Order").toEntityInfo ⟨"id", .int⟩
      (ofCustomer "Order").fields]⟩

def parcels : Schema := ⟨[customer, ofCustomer "Order", parcel], naming, [
  ⟨customer.toEntityInfo, [⟨{ name := "id", primaryKey := true }, .scalar .int⟩]⟩,
  ⟨(ofCustomer "Order").toEntityInfo, [⟨{ name := "id", primaryKey := true }, .scalar .int⟩,
    ⟨{ name := "customer" }, .foreignKey "Customer"⟩]⟩,
  ⟨parcel.toEntityInfo, [⟨{ name := "id", primaryKey := true }, .scalar .int⟩,
    ⟨{ name := "order" }, .foreignKey "Order"⟩]⟩]⟩

theorem toSchema_parcelSpec : parcelSpec.toSchema = .ok parcels := by
  cbv

end Sample

/-- The order of a parcel is joined, and the customer of the order with it. -/
theorem Schema.compile_rootSelect_parcel_writes_joins :
    Sample.parcelSpec.toSchema = .ok Sample.parcels ∧
    Sample.parcels.entity? "Parcel" = some Sample.parcel ∧
    Sample.parcel.keyColumns Sample.parcels.naming ≠ [] ∧
    ∃ registered,
      (Registration.element Sample.parcels (.fromTable "Parcel" none true)).run {} =
        .ok ((), registered) ∧
      ∃ root joins, registered.autoJoins = [joins] ∧ joins.length = 2 ∧
        root.Linked Sample.parcels (PlannedIn registered.resolver 0 joins) ∧
        let table : TableName := ⟨"Parcel", root.aliasName⟩
        let host : Host := ⟨⟨0, root, 0⟩, Sample.parcels.columns Sample.parcel, root.path⟩
        (∃ listed, Field.AllReadFrom Sample.parcels.naming
            (PlannedReading registered.resolver 0 joins) host 0 listed Sample.parcel.fields ∧
          SelectWritten Sample.parcels {} "Parcel" .full listed table joins) ∧
        SelectWritten Sample.parcels {} "Parcel" .nested
          (host.list (Sample.parcels.columns Sample.parcel)) table [] ∧
        SelectWritten Sample.parcels {} "Parcel" .pk
          (host.list (Sample.parcel.keyColumns Sample.parcels.naming)) table [] := by
  have hparcel : Sample.parcels.entity? "Parcel" = some Sample.parcel := rfl
  have hkey : Sample.parcel.keyColumns Sample.parcels.naming ≠ [] := by decide +kernel
  have hrun : ∃ walked,
      (Registration.element Sample.parcels (.fromTable "Parcel" none true)).run {} = .ok walked ∧
      walked.2.autoJoins.map List.length = [2] := by
    decide +kernel
  obtain ⟨⟨_, registered⟩, hregister, hlengths⟩ := hrun
  obtain ⟨root, joins, -, -, hjoins, hlinked, hwritten⟩ :=
    compile_rootSelect_writes_joins Sample.toSchema_parcelSpec hparcel hregister
  obtain ⟨hfull, hnested, hpk⟩ := hwritten {} rfl
  have hlength : joins.length = 2 := by
    dsimp only at hlengths
    rw [hjoins] at hlengths
    exact List.head_eq_of_cons_eq hlengths
  exact ⟨Sample.toSchema_parcelSpec, hparcel, hkey, registered, hregister, root, joins, hjoins,
    hlength, hlinked, hfull, hnested, hpk hkey⟩

/-- The customer is joined to the order, not to the parcel. -/
example : ∃ statement, Sample.parcels.compile {} (rootSelect "Parcel" .full) = .ok statement ∧
    statement.sql =
      "SELECT \"_p\".\"id\", \"_o\".\"id\", \"_c\".\"id\" FROM \"Parcel\" AS \"_p\"" ++
      " INNER JOIN \"Order\" AS \"_o\" ON \"_p\".\"order_id\" = \"_o\".\"id\"" ++
      " INNER JOIN \"Customer\" AS \"_c\" ON \"_o\".\"customer_id\" = \"_c\".\"id\"" := by
  decide +kernel

end RelMap
