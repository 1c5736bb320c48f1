import RelMap.Proofs.Schema.ColumnFlags
import RelMap.Proofs.Schema.EagerPaths
import RelMap.Proofs.Schema.JoinInference
import RelMap.Proofs.Scope.Requirement
import RelMap.Proofs.Statement.Planning
import RelMap.Proofs.Statement.PlanningByName

/-!
# Automatic joins

Every path of foreign keys from a root table gets one join, in preorder: a left join exactly if some
key on the path may be missing. It equates the last key of the path, in the table joined before it,
with the key of the entity that it leads to, and it never comes without the join it hangs on.
-/

namespace RelMap

open Compiling

/-! ## Plans along paths -/

theorem JoinKind.eq_left_iff {kind : JoinKind} {p : Prop} (hleft : p → kind = .left)
    (hinner : ¬ p → kind = .inner) : kind = .left ↔ p := by
  refine ⟨fun hkind => ?_, hleft⟩
  by_contra hp
  cases hkind.symm.trans (hinner hp)

theorem AutoJoin.qualifier_eq {j : AutoJoin} (h : j.joined.aliasName ≠ "") :
    j.qualifier = j.joined.aliasName :=
  if_neg h

/-- The join is one for the foreign key `l` of `owner`, which occurs as `host`: it equates the
column of the key there with the key column of the entity that it leads to. -/
structure AutoJoin.HangsOn (s : Schema) (owner : Entity) (host : Occurrence) (l : Leaf)
    (j : AutoJoin) : Prop where
  key : l ∈ owner.leaves
  path : j.joined.path = Path.join host.path l.fieldPath
  aliased : j.joined.aliasName ≠ ""
  table : j.join.table = ⟨j.joined.entity.table, j.joined.aliasName⟩
  condition : ∃ target condition, s.linked? l.field = some target ∧
    j.joined.entity = target.toEntityInfo ∧ j.join.condition = some condition ∧
    Link.Equates s ⟨⟨owner, host.qualifier⟩, ⟨target, j.joined.aliasName⟩, l⟩ condition

/-- Some key on the path may be null, of its own or through a composite around it. -/
def MayBeMissing (path : List Leaf) : Prop := ∃ l ∈ path, ∃ info ∈ l.infos, info.nullable = true

theorem mayBeMissing_cons {l : Leaf} {path : List Leaf} :
    MayBeMissing (l :: path) ↔ (∃ info ∈ l.infos, info.nullable = true) ∨ MayBeMissing path := by
  simp only [MayBeMissing, List.exists_mem_cons_iff]

theorem mayBeMissing_singleton {l : Leaf} :
    MayBeMissing [l] ↔ ∃ info ∈ l.infos, info.nullable = true := by
  simp [MayBeMissing]

theorem Leaf.nullable_relation {s : Schema} {e : Entity} {l : Leaf} (hl : l ∈ e.leaves)
    (hlink : l.field.isForeignKey = true) :
    (l.relation e.name (s.columns e)).nullable = true ↔
      ∃ info ∈ l.infos, info.nullable = true := by
  obtain ⟨column, hcolumn⟩ : ∃ column, l.columns s.naming = [column] := by
    rw [← List.length_eq_one_iff, Leaf.columns, Field.length_columns,
      Field.width_of_isForeignKey hlink]
  have hmem : column ∈ l.columns s.naming := hcolumn ▸ .head _
  have hflags := Leaf.flags_of_mem_columns (Entity.isInline_of_mem_leaves hl) hmem
  have hslice : (l.relation e.name (s.columns e)).columns.slice (s.columns e) = [column] := by
    rw [Leaf.columns_relation hlink, ← hcolumn]
    exact Entity.slice_of_mem_leaves hl
  have hnullable : (l.relation e.name (s.columns e)).nullable = [column].any (·.nullable) := by
    rw [← hslice]
    rfl
  rw [hnullable, List.any_cons, List.any_nil, Bool.or_false, hflags.nullable]

theorem Schema.link_of_linked? {s : Schema} {f : Field} {target : Entity}
    (h : s.linked? f = some target) :
    f.isForeignKey = true ∧ f.target? = some target.name ∧ s.entity? target.name = some target := by
  cases f with
  | scalar | inline | ref | converted => cases h
  | foreignKey info target' key fields =>
    have hname : target.name = target'.name := name_of_entity? h
    exact ⟨rfl, congrArg some hname.symm, hname ▸ h⟩

/-- Joins with the paths of foreign keys that they are planned for. -/
abbrev JoinPlan := List (List Leaf × AutoJoin)

namespace Registration

variable {s : Schema} {source : PlannedTable} {plan plan' : JoinPlan} {entry : List Leaf × AutoJoin}
  {front : List Leaf} {owner : Entity} {host : Occurrence}

/-- What stands before the last key of an entry's path: the source itself, or what is joined for the
path up to there, which comes earlier in the plan. -/
def Previous (s : Schema) (source : PlannedTable) (plan : JoinPlan) (front : List Leaf)
    (entry : List Leaf × AutoJoin) (owner : Entity) (host : Occurrence) : Prop :=
  (front = [] ∧ owner = source.entity ∧ host = source.occurrence ∧
    entry.2.source = if source.joined.isSome then some source.occurrence else none) ∨
  front ≠ [] ∧ ∃ j, [(front, j), entry].Sublist plan ∧
    s.entity? j.joined.entity.name = some owner ∧ host = j.joined ∧ entry.2.source = some j.joined

theorem Previous.mono (h : Previous s source plan front entry owner host)
    (hplan : plan.Sublist plan') : Previous s source plan' front entry owner host := by
  refine h.imp_right ?_
  rintro ⟨hfront, j, hbefore, hrest⟩
  exact ⟨hfront, j, hbefore.trans hplan, hrest⟩

/-- An entry has the kind of join that its path and the source ask for, and hangs on what is
before. -/
structure InPlan (s : Schema) (source : PlannedTable) (plan : JoinPlan)
    (entry : List Leaf × AutoJoin) : Prop where
  left : source.joined = some .left ∨ MayBeMissing entry.1 → entry.2.join.kind = .left
  inner : ¬ (source.joined = some .left ∨ MayBeMissing entry.1) → entry.2.join.kind = .inner
  hangs : ∃ front l owner host, entry.1 = front ++ [l] ∧
    Previous s source plan front entry owner host ∧ entry.2.HangsOn s owner host l

theorem InPlan.left_iff (h : InPlan s source plan entry) :
    entry.2.join.kind = .left ↔ source.joined = some .left ∨ MayBeMissing entry.1 :=
  JoinKind.eq_left_iff h.left h.inner

theorem InPlan.inner_iff (h : InPlan s source plan entry) :
    entry.2.join.kind = .inner ↔ ¬ (source.joined = some .left ∨ MayBeMissing entry.1) :=
  ⟨fun hinner hleft => (nomatch hinner.symm.trans (h.left hleft)), h.inner⟩

theorem InPlan.mono (h : InPlan s source plan entry) (hplan : plan.Sublist plan') :
    InPlan s source plan' entry := by
  obtain ⟨front, l, owner, host, hpath, hprevious, hangs⟩ := h.hangs
  exact ⟨h.left, h.inner, front, l, owner, host, hpath, hprevious.mono hplan, hangs⟩

structure Covers (s : Schema) (source : PlannedTable) (paths : List (List Leaf))
    (joins : List AutoJoin) (plan : JoinPlan) : Prop where
  paths : plan.map (·.1) = paths
  joins : plan.map (·.2) = joins
  entries : ∀ entry ∈ plan, InPlan s source plan entry

namespace Covers

variable {paths paths' : List (List Leaf)} {joins joins' : List AutoJoin}

theorem nothing : Covers s source [] [] [] := ⟨rfl, rfl, List.forall_mem_nil _⟩

theorem append (h : Covers s source paths joins plan) (h' : Covers s source paths' joins' plan') :
    Covers s source (paths ++ paths') (joins ++ joins') (plan ++ plan') where
  paths := by rw [List.map_append, h.paths, h'.paths]
  joins := by rw [List.map_append, h.joins, h'.joins]
  entries := by
    intro entry hentry
    rcases List.mem_append.mp hentry with hentry | hentry
    · exact (h.entries entry hentry).mono (List.sublist_append_left plan plan')
    · exact (h'.entries entry hentry).mono (List.sublist_append_right plan plan')

/-- What is planned for the target of a key is planned for the source behind the key. -/
theorem behind {l : Leaf} {j : AutoJoin} {target : Entity}
    (htarget : s.entity? j.joined.entity.name = some target)
    (hkind : j.join.kind = .left ↔
      source.joined = some .left ∨ ∃ info ∈ l.infos, info.nullable = true)
    (hj : InPlan s source [([l], j)] ([l], j))
    (h : Covers s ⟨target, j.joined, some j.join.kind⟩ paths joins plan) :
    Covers s source ([l] :: paths.map (l :: ·)) (j :: joins)
      (([l], j) :: plan.map fun entry => (l :: entry.1, entry.2)) where
  paths := by
    rw [List.map_cons, List.map_map, ← h.paths, List.map_map]
    rfl
  joins := by
    rw [List.map_cons, List.map_map, ← h.joins]
    rfl
  entries := by
    intro entry hentry
    rcases List.mem_cons.mp hentry with rfl | hentry
    · exact hj.mono ((List.nil_sublist _).cons_cons _)
    obtain ⟨⟨p, j'⟩, hmem, rfl⟩ := List.mem_map.mp hentry
    have hinner := h.entries _ hmem
    have hsame : source.joined = some .left ∨ MayBeMissing (l :: p) ↔
        some j.join.kind = some .left ∨ MayBeMissing p := by
      rw [mayBeMissing_cons, Option.some_inj, hkind, or_assoc]
    obtain ⟨front, l', owner, host, hpath, hprevious, hangs⟩ := hinner.hangs
    refine ⟨fun hleft => hinner.left (hsame.mp hleft),
      fun hright => hinner.inner (hsame.not.mp hright), l :: front, l', owner, host, ?_, ?_, hangs⟩
    · exact congrArg (l :: ·) hpath
    refine .inr ⟨List.cons_ne_nil _ _, ?_⟩
    rcases hprevious with ⟨rfl, rfl, rfl, hsource⟩ | ⟨-, j'', hbefore, howner, hhost, hsource⟩
    · -- the key hangs on what is joined for `l`, at the head of the plan
      refine ⟨j, ?_, htarget, rfl, hsource⟩
      exact (List.singleton_sublist.mpr hentry).cons_cons _
    · refine ⟨j'', ?_, howner, hhost, hsource⟩
      exact (hbefore.map fun entry => (l :: entry.1, entry.2)).cons _

end Covers

variable {spec : SchemaSpec} {a : EntityName}

/-- The join that is planned for a key is the plan for the key alone. -/
theorem PlannedFor.inPlan {l : Leaf} {j : AutoJoin} {target : Entity}
    (h : spec.toSchema = .ok s) (hsource : s.entity? a = some source.entity)
    (hl : l ∈ source.entity.leaves) (htarget : s.linked? l.field = some target)
    (hj : PlannedFor s source (l.relation source.entity.name (s.columns source.entity)) target j) :
    InPlan s source [([l], j)] ([l], j) := by
  obtain ⟨hlink, hrefers, hentity⟩ := Schema.link_of_linked? htarget
  have hleft := hj.left
  have hinner := hj.inner
  rw [Leaf.nullable_relation hl hlink, ← mayBeMissing_singleton] at hleft hinner
  refine ⟨hleft, hinner, [], l, source.entity, source.occurrence, rfl,
    .inl ⟨rfl, rfl, rfl, hj.holder⟩, hl, ?_, hj.aliased, ?_, ?_⟩
  · rw [hj.path, Leaf.fieldPath_relation]
  · rw [hj.table, hj.entity]
  · obtain ⟨condition, hcondition, hok⟩ := hj.condition
    have hlinks : l ∈ source.entity.linksTo target.name :=
      List.mem_filter.mpr ⟨hl, by rw [hlink, hrefers]; exact beq_self_eq_true _⟩
    let link : Link :=
      ⟨⟨source.entity, source.occurrence.qualifier⟩, ⟨target, j.joined.aliasName⟩, l⟩
    have hchild : s.entity? a = some link.child.entity := hsource
    obtain ⟨condition', hequates, hok'⟩ := Schema.relationCondition_link h hchild hentity hlinks
    rw [AutoJoin.qualifier_eq hj.aliased] at hok
    cases hok.symm.trans hok'
    exact ⟨target, condition, htarget, hj.entity, hcondition, hequates⟩

theorem PlannedFor.left_iff {l : Leaf} {j : AutoJoin} {target : Entity}
    (hl : l ∈ source.entity.leaves) (hlink : l.field.isForeignKey = true)
    (hj : PlannedFor s source (l.relation source.entity.name (s.columns source.entity)) target j) :
    j.join.kind = .left ↔ source.joined = some .left ∨ ∃ info ∈ l.infos, info.nullable = true := by
  rw [← Leaf.nullable_relation (s := s) hl hlink]
  exact JoinKind.eq_left_iff hj.left hj.inner

mutual

theorem planField_covers (h : spec.toSchema = .ok s) (source : PlannedTable)
    (around : List FieldInfo) (start : Nat) (joins : List AutoJoin) (before after : CompileState)
    (f : Field) (a : EntityName) (hsource : s.entity? a = some source.entity)
    (hleaves : f.leaves around start ⊆ source.entity.leaves) (hcoherent : f.Coherent s)
    (hplan : (planField s source ((around.map (·.name)).foldl Path.join "") start f).run before =
      .ok (joins, after)) :
    ∃ plan, Covers s source (f.eagerPaths around start) joins plan := by
  cases f with
  | scalar | ref | converted =>
    cases hplan
    exact ⟨[], .nothing⟩
  | inline info target fields =>
    refine planFields_covers h source (around ++ [info]) start joins before after fields a hsource
      hleaves hcoherent.2 ?_
    rw [List.map_append, List.foldl_append]
    exact hplan
  | foreignKey info target key fields =>
    rw [planField_foreignKey] at hplan
    obtain ⟨j, noted, hjoin, hplan⟩ := StateT.bind_eq_ok hplan
    obtain ⟨others, _, hothers, hplan⟩ := StateT.bind_eq_ok hplan
    cases hplan
    let l : Leaf := ⟨around, .foreignKey info target key fields, start⟩
    have hl : l ∈ source.entity.leaves := hleaves (.head _)
    have hj : PlannedFor s source (l.relation source.entity.name (s.columns source.entity))
      ⟨target, fields⟩ j := planRelation_ok hjoin
    obtain ⟨plan, hplan⟩ := planFields_covers h ⟨⟨target, fields⟩, j.joined, some j.join.kind⟩ [] 0
      others noted after fields target.name hcoherent.1 (List.Subset.refl _) hcoherent.2 hothers
    exact ⟨_, hplan.behind (hj.entity ▸ hcoherent.1) (hj.left_iff hl rfl)
      (hj.inPlan h hsource hl hcoherent.1)⟩
termination_by structural f

theorem planFields_covers (h : spec.toSchema = .ok s) (source : PlannedTable)
    (around : List FieldInfo) (start : Nat) (joins : List AutoJoin) (before after : CompileState)
    (fields : List Field) (a : EntityName) (hsource : s.entity? a = some source.entity)
    (hleaves : Field.leavesOf around start fields ⊆ source.entity.leaves)
    (hcoherent : Field.AllCoherent s fields)
    (hplan : (planFields s source ((around.map (·.name)).foldl Path.join "") start fields).run
      before = .ok (joins, after)) :
    ∃ plan, Covers s source (Field.eagerPathsOf around start fields) joins plan := by
  cases fields with
  | nil =>
    cases hplan
    exact ⟨[], .nothing⟩
  | cons f rest =>
    rw [planFields] at hplan
    obtain ⟨first, between, hfirst, hplan⟩ := StateT.bind_eq_ok hplan
    obtain ⟨others, _, hothers, hplan⟩ := StateT.bind_eq_ok hplan
    cases hplan
    rw [Field.leavesOf, List.append_subset] at hleaves
    obtain ⟨plan, hplan⟩ := planField_covers h source around start first before between f a hsource
      hleaves.1 hcoherent.1 hfirst
    obtain ⟨plan', hplan'⟩ := planFields_covers h source around (start + f.width) others between
      after rest a hsource hleaves.2 hcoherent.2 hothers
    exact ⟨plan ++ plan', hplan.append hplan'⟩
termination_by structural fields

end

end Registration

/-! ## Joins along foreign keys -/

/-- The joins planned for `e`, which occurs as `root`, are those along the paths of its foreign
keys, given what their scope has noted to depend on what. -/
structure FollowsPaths (s : Schema) (e : Entity) (root : Occurrence)
    (dependencies : List (String × String)) (plan : JoinPlan) : Prop where
  complete : ∀ p, p ∈ plan.map (·.1) ↔ EagerPath s e p
  preorder : (plan.map (·.1)).Pairwise PathPrecedes
  distinct : (plan.map (·.1)).Nodup
  left : ∀ p j, (p, j) ∈ plan → (j.join.kind = .left ↔ MayBeMissing p)
  inner : ∀ p j, (p, j) ∈ plan → (j.join.kind = .inner ↔ ¬ MayBeMissing p)
  first : ∀ l j, ([l], j) ∈ plan → j.HangsOn s e root l
  /-- A join that hangs on another comes after it, and whenever it is required the other is. -/
  further : ∀ front l j, front ≠ [] → (front ++ [l], j) ∈ plan →
    ∃ j' owner, [(front, j'), (front ++ [l], j)].Sublist plan ∧
      s.entity? j'.joined.entity.name = some owner ∧ j.HangsOn s owner j'.joined l ∧
      ∀ use : TableUse, dependencies ⊆ use.dependencies →
        use.isRequired j.qualifier = true → use.isRequired j'.qualifier = true

namespace Registration

variable {s : Schema} {spec : SchemaSpec} {name : EntityName} {e : Entity}

theorem Covers.followsPaths {root : Occurrence} {joins : List AutoJoin} {plan : JoinPlan}
    {dependencies : List (String × String)} (h : Covers s ⟨e, root, none⟩ e.eagerPaths joins plan)
    (hcoherent : Field.AllCoherent s e.fields)
    (hnoted : ∀ j ∈ joins, ∀ o ∈ j.source, (o.qualifier, j.qualifier) ∈ dependencies) :
    FollowsPaths s e root dependencies plan where
  complete := by
    intro p
    rw [h.paths, Entity.mem_eagerPaths_iff hcoherent]
  preorder := h.paths ▸ e.pairwise_eagerPaths
  distinct := h.paths ▸ e.pairwise_eagerPaths.imp PathPrecedes.ne
  left := by
    intro p j hentry
    simpa using (h.entries _ hentry).left_iff
  inner := by
    intro p j hentry
    simpa using (h.entries _ hentry).inner_iff
  first := by
    intro l j hentry
    obtain ⟨front, l', owner, host, hpath, hprevious, hangs⟩ := (h.entries _ hentry).hangs
    have hsplit : [] ++ [l] = front ++ [l'] := hpath
    obtain ⟨hfront, hl⟩ := List.append_inj' hsplit rfl
    cases hl
    rcases hprevious with ⟨-, rfl, rfl, -⟩ | ⟨hne, -⟩
    · exact hangs
    · exact absurd hfront.symm hne
  further := by
    intro front l j hne hentry
    obtain ⟨front', l', owner, host, hpath, hprevious, hangs⟩ := (h.entries _ hentry).hangs
    obtain ⟨rfl, hl⟩ := List.append_inj' hpath rfl
    cases hl
    rcases hprevious with ⟨hfront, -⟩ | ⟨-, j', hbefore, howner, rfl, hsource⟩
    · exact absurd hfront hne
    refine ⟨j', owner, hbefore, howner, hangs, ?_⟩
    intro use hlater hrequired
    have hj : j ∈ joins := h.joins ▸ List.mem_map_of_mem hentry
    exact TableUse.isRequired_of_dependency (hlater (hnoted j hj j'.joined hsource)) hrequired

theorem plan_along_foreign_keys (h : spec.toSchema = .ok s) (he : s.entity? name = some e)
    (root : Occurrence) :
    (∀ x, Unfolds s ⟨e, root, none⟩ (s.eagerRelations e) x ↔
      x = planFields s ⟨e, root, none⟩ "" 0 e.fields) ∧
    ∀ before joins after, before.resolver.Live →
      (planFields s ⟨e, root, none⟩ "" 0 e.fields).run before = .ok (joins, after) →
      (∀ j ∈ joins, j.scope = before.resolver.current) ∧
      ∃ plan : JoinPlan, plan.map (·.2) = joins ∧ FollowsPaths s e root
        (after.resolver.tableUse before.resolver.current).dependencies plan := by
  have hcoherent := Schema.allCoherent_of_entity? h he
  have hunfolds : Unfolds s ⟨e, root, none⟩ (s.eagerRelations e)
      (planFields s ⟨e, root, none⟩ "" 0 e.fields) :=
    planFields_unfolds ⟨e, root, none⟩ "" 0 e.fields hcoherent
  refine ⟨fun x => ⟨fun hx => hx.unique hunfolds, fun hx => hx ▸ hunfolds⟩, ?_⟩
  intro before joins after hlive hrun
  have hkeyed := Schema.allKeyed_of_entity? h he
  have hscope : ∀ j ∈ joins, j.scope = before.resolver.current := fun j hj =>
    ((planFields_brings e.fields hcoherent hkeyed hlive hrun).planned j hj).scope
  obtain ⟨plan, hcovers⟩ := planFields_covers h ⟨e, root, none⟩ [] 0 joins before after e.fields
    name he (List.Subset.refl _) hcoherent hrun
  refine ⟨hscope, plan, hcovers.joins, Covers.followsPaths hcovers hcoherent ?_⟩
  intro j hj o ho
  have hnoted := (planFields_planned e.fields hlive hrun).2 j hj o ho
  rwa [hscope j hj] at hnoted

end Registration

/-! ### The joins of trips -/

namespace Sample

def tripRoot : Occurrence := ⟨trip.toEntityInfo, "", "_t"⟩

end Sample

/-- A trip may have no goal, so both the town and its country are joined by left joins. -/
theorem Registration.plan_along_foreign_keys_trip :
    Sample.tripSpec.toSchema = .ok Sample.trips ∧
    Sample.trips.entity? "Trip" = some Sample.trip ∧
    ({} : CompileState).resolver.Live ∧
    ∃ joins after,
      (planFields Sample.trips ⟨Sample.trip, Sample.tripRoot, none⟩ "" 0
        Sample.trip.fields).run {} = .ok (joins, after) ∧
      joins.map (fun j => (j.joined.path, j.join.kind)) =
        [("goal.town", .left), ("goal.town.country", .left)] ∧
      ∃ plan : JoinPlan, plan.map (·.2) = joins ∧ FollowsPaths Sample.trips Sample.trip
        Sample.tripRoot (after.resolver.tableUse 0).dependencies plan := by
  have hlive : ({} : CompileState).resolver.Live := Nat.zero_lt_one
  have hrun : ∃ planned,
      (planFields Sample.trips ⟨Sample.trip, Sample.tripRoot, none⟩ "" 0
        Sample.trip.fields).run {} = .ok planned ∧
      planned.1.map (fun j => (j.joined.path, j.join.kind)) =
        [("goal.town", .left), ("goal.town.country", .left)] := by
    decide +kernel
  obtain ⟨⟨joins, after⟩, hrun, hjoins⟩ := hrun
  have htrip : Sample.trips.entity? "Trip" = some Sample.trip := rfl
  obtain ⟨-, hplan⟩ := plan_along_foreign_keys Sample.toSchema_tripSpec htrip Sample.tripRoot
  exact ⟨Sample.toSchema_tripSpec, htrip, hlive, joins, after, hrun, hjoins,
    (hplan {} joins after hlive hrun).2⟩

end RelMap
