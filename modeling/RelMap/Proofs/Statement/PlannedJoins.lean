import Mathlib.Order.Monotone.Defs
import RelMap.Proofs.Bounds.Access
import RelMap.Proofs.Schema.Keys
import RelMap.Proofs.Statement.Bindings

/-!
# Joins that are planned

Every composite behind a foreign key is joined: to the root table, to a table that is joined itself,
and so on as deep as foreign keys lead. An occurrence is linked if for all of its foreign keys there
are occurrences that are joined to it, and they are linked again.
-/

namespace RelMap

open Compiling Resolver

/-- How an occurrence, with one of its columns, goes with a key and another occurrence. -/
abbrev Linking := Occurrence → Column → KeyColumn → Occurrence → Prop

namespace Field

mutual

/-- The foreign keys in the field lead from the host to other occurrences. The first column of the
field is number `start` of the host's columns. -/
def Linked (naming : NamingStrategy) (links : Linking) (host : Occurrence) (columns : List Column)
    (inlinePath : String) (start : Nat) : Field → Prop
  | .inline info _ fields =>
    AllLinked naming links host columns (Path.join inlinePath info.name) start fields
  | .foreignKey info target key fields => ∃ column joined, columns[start]? = some column ∧
    joined.entity = target ∧ joined.path = Path.join host.path (Path.join inlinePath info.name) ∧
    links host column key joined ∧
    AllLinked naming links joined (columnsOf naming {} fields) "" 0 fields
  | .scalar _ _ | .ref _ _ _ | .converted _ _ => True
termination_by structural f => f

def AllLinked (naming : NamingStrategy) (links : Linking) (host : Occurrence)
    (columns : List Column) (inlinePath : String) (start : Nat) : List Field → Prop
  | [] => True
  | f :: rest => Linked naming links host columns inlinePath start f ∧
    AllLinked naming links host columns inlinePath (start + f.width) rest
termination_by structural fs => fs

end

variable {naming : NamingStrategy} {links links' : Linking}

mutual

theorem Linked.mono {host : Occurrence} {columns : List Column} {inlinePath : String} {start : Nat}
    {f : Field} (hlinks : links ≤ links')
    (h : Linked naming links host columns inlinePath start f) :
    Linked naming links' host columns inlinePath start f := by
  cases f with
  | scalar info typ | ref info target key | converted info converter => trivial
  | inline info target fields => exact AllLinked.mono hlinks h
  | foreignKey info target key fields =>
    obtain ⟨column, joined, hcolumn, hentity, hpath, hjoined, hall⟩ := h
    exact ⟨column, joined, hcolumn, hentity, hpath, hlinks host column key joined hjoined,
      AllLinked.mono hlinks hall⟩
termination_by structural f

theorem AllLinked.mono {host : Occurrence} {columns : List Column} {inlinePath : String}
    {start : Nat} {fields : List Field} (hlinks : links ≤ links')
    (h : AllLinked naming links host columns inlinePath start fields) :
    AllLinked naming links' host columns inlinePath start fields := by
  cases fields with
  | nil => trivial
  | cons f fields => exact ⟨Linked.mono hlinks h.1, AllLinked.mono hlinks h.2⟩
termination_by structural fields

end

end Field

/-- All foreign keys of the occurrence's entity lead to linked occurrences. -/
def Occurrence.Linked (s : Schema) (links : Linking) (o : Occurrence) : Prop :=
  ∃ fields, s.entity? o.entity.name = some ⟨o.entity, fields⟩ ∧
    Field.AllLinked s.naming links o (Field.columnsOf s.naming {} fields) "" 0 fields

theorem Occurrence.Linked.mono {s : Schema} {links links' : Linking} {o : Occurrence}
    (hlinks : links ≤ links') (h : o.Linked s links) : o.Linked s links' := by
  obtain ⟨fields, he, hall⟩ := h
  exact ⟨fields, he, hall.mono hlinks⟩

structure AutoJoin.Joins (j : AutoJoin) (host : Occurrence) (column : Column) (key : KeyColumn)
    (o : Occurrence) : Prop where
  joined : j.joined = o
  table : j.join.table = ⟨o.entity.table, o.aliasName⟩
  condition : j.join.condition =
    some [⟨.column host.qualifier column.name, .column o.qualifier key.name⟩]

/-- The joined occurrence is bound in the scope, and its join is among the planned ones. -/
def PlannedIn (r : Resolver) (scope : ScopeId) (joins : List AutoJoin) : Linking :=
  fun host column key joined => joined ∈ r.occurrences scope ∧
    ∃ j ∈ joins, j.scope = scope ∧ j.Joins host column key joined

theorem PlannedIn.mono {r r' : Resolver} {scope : ScopeId} {joins joins' : List AutoJoin}
    (hoccurrences : r.occurrences scope ⊆ r'.occurrences scope) (hjoins : joins ⊆ joins') :
    PlannedIn r scope joins ≤ PlannedIn r' scope joins' := by
  rintro host column key joined ⟨hjoined, j, hj, hplanned⟩
  exact ⟨hoccurrences hjoined, j, hjoins hj, hplanned⟩

namespace Registration

variable {s : Schema}

/-- The joins are planned: the fields are linked by them, and so are all the occurrences that are
bound for them. -/
structure Plans (s : Schema) (fields : Linking → Prop) (joins : List AutoJoin)
    (before after : CompileState) : Prop where
  nested : after.resolver.WellNested
  advances : before.Advances after
  autoJoins : after.autoJoins = before.autoJoins
  bound : before.resolver.occurrences before.resolver.current ⊆
    after.resolver.occurrences before.resolver.current
  linked : fields (PlannedIn after.resolver before.resolver.current joins)
  others : ∀ o ∈ after.resolver.occurrences before.resolver.current,
    o ∈ before.resolver.occurrences before.resolver.current ∨
      o.Linked s (PlannedIn after.resolver before.resolver.current joins)

theorem Plans.nothing {fields : Linking → Prop} {state : CompileState}
    (hnested : state.resolver.WellNested) (h : ∀ links, fields links) :
    Plans s fields [] state state :=
  ⟨hnested, .of_resolver rfl, rfl, List.Subset.refl _, h _, fun _ ho => .inl ho⟩

theorem Plans.append {fields fields' : Linking → Prop} {joins joins' : List AutoJoin}
    {before between after : CompileState} (hfields : Monotone fields) (hfields' : Monotone fields')
    (h : Plans s fields joins before between) (h' : Plans s fields' joins' between after) :
    Plans s (fun links => fields links ∧ fields' links) (joins ++ joins') before after := by
  obtain ⟨hnested, hadvances, hautoJoins, hbound, hlinked, hothers⟩ := h'
  rw [h.advances.current] at hbound hlinked hothers
  have hfirst := PlannedIn.mono hbound (List.subset_append_left joins joins')
  have hsecond : PlannedIn after.resolver before.resolver.current joins' ≤ _ :=
    PlannedIn.mono (List.Subset.refl _) (List.subset_append_right joins joins')
  refine ⟨hnested, h.advances.trans hadvances, hautoJoins.trans h.autoJoins,
    List.Subset.trans h.bound hbound, ⟨hfields hfirst h.linked, hfields' hsecond hlinked⟩, ?_⟩
  intro o ho
  rcases hothers o ho with ho | ho
  · exact (h.others o ho).imp_right (·.mono hfirst)
  · exact .inr (ho.mono hsecond)

/-- A join is followed by those that hang on it. -/
theorem Plans.join {fields inner : Linking → Prop} {j : AutoJoin} {others : List AutoJoin}
    {before between after : CompileState} (hadvances : before.Advances between)
    (hautoJoins : between.autoJoins = before.autoJoins)
    (hbound : between.resolver.occurrences before.resolver.current =
      before.resolver.occurrences before.resolver.current ++ [j.joined])
    (hinner : Monotone inner) (h : Plans s inner others between after)
    (hlinked : ∀ links, inner links → j.joined.Linked s links)
    (hfields : ∀ r, j.joined ∈ r.occurrences before.resolver.current →
      inner (PlannedIn r before.resolver.current (j :: others)) →
      fields (PlannedIn r before.resolver.current (j :: others))) :
    Plans s fields (j :: others) before after := by
  obtain ⟨hnested, hadvances', hautoJoins', hbound', hlinked', hothers⟩ := h
  rw [hadvances.current] at hbound' hlinked' hothers
  rw [hbound] at hbound' hothers
  have hlater : PlannedIn after.resolver before.resolver.current others ≤ _ :=
    PlannedIn.mono (List.Subset.refl _) (List.subset_cons_self j others)
  have hall := hinner hlater hlinked'
  have hjoined := hbound' (List.mem_append_right _ (.head _))
  refine ⟨hnested, hadvances.trans hadvances', hautoJoins'.trans hautoJoins,
    List.Subset.trans (List.subset_append_left _ _) hbound', hfields _ hjoined hall, ?_⟩
  intro o ho
  rcases hothers o ho with ho | ho
  · rcases List.mem_append.mp ho with ho | ho
    · exact .inl ho
    · cases List.mem_singleton.mp ho
      exact .inr (hlinked _ hall)
  · exact .inr (ho.mono hlater)

theorem relationCondition_ok {child parent : Entity} {key : KeyColumn} {relation : Relation}
    {start : Nat} {childQualifier parentQualifier : String} {condition : JoinCondition}
    (hkeyed : parent.KeyedBy s.naming key) (hcolumns : relation.columns = ⟨start, start + 1⟩)
    (h : s.relationCondition relation child parent childQualifier parentQualifier =
      .ok condition) :
    ∃ column, (s.columns child)[start]? = some column ∧
      condition = [⟨.column childQualifier column.name, .column parentQualifier key.name⟩] := by
  obtain ⟨keyColumn, hkey, hname, -⟩ := hkeyed.keyColumns
  rw [Schema.relationCondition_ignored] at h
  dsimp only at h
  rw [hkey, hcolumns] at h
  split at h
  · cases h
  · next hlength =>
    obtain ⟨column, hcolumn⟩ := List.length_eq_one_iff.mp (not_not.mp hlength)
    rw [hcolumn] at h
    cases h
    refine ⟨column, ?_, by rw [← hname]; rfl⟩
    rw [Span.slice, Span.width_mk_add] at hcolumn
    have hfirst := congrArg (·[0]?) hcolumn
    rw [List.getElem?_take_of_lt Nat.zero_lt_one, List.getElem?_drop, Nat.add_zero] at hfirst
    exact hfirst

theorem noteSource_ok {source : PlannedTable} {joined : Occurrence} {holder : Option Occurrence}
    {state state' : CompileState}
    (h : (noteSource source joined).run state = .ok (holder, state')) :
    state.resolver.SameTables state'.resolver ∧ state'.autoJoins = state.autoJoins := by
  unfold noteSource at h
  split at h
  · obtain ⟨_, noted, hnote, h⟩ := StateT.bind_eq_ok h
    cases hnote
    cases h
    exact ⟨.modifyTableUse _ _ _, rfl⟩
  · cases h
    exact ⟨rfl, rfl⟩

mutual

theorem planField_plans {source : PlannedTable} {inlinePath : String} {start : Nat}
    {joins : List AutoJoin} {before after : CompileState} (f : Field) (hcoherent : f.Coherent s)
    (hkeyed : f.Keyed s) (hnested : before.resolver.WellNested)
    (h : (planField s source inlinePath start f).run before = .ok (joins, after)) :
    Plans s (fun links => f.Linked s.naming links source.occurrence (s.columns source.entity)
      inlinePath start) joins before after := by
  cases f with
  | scalar info typ | ref info target key | converted info converter =>
    cases h
    exact .nothing hnested fun _ => trivial
  | inline info target fields => exact planFields_plans fields hcoherent.2 hkeyed hnested h
  | foreignKey info target key fields =>
    obtain ⟨aliasName, registered, condition, holder, noted, kind, others, halias, hcondition,
      hnote, hothers, rfl⟩ := planField_foreignKey_ok h
    have hregister : Steps Outermost before.resolver registered.resolver :=
      Stepwise.generateAlias _ _ _ _ _ _ halias
    have hregistered := Steps.wellNested hregister hnested
    have hadvances :=
      (register_registered (fun _ hr => (generateAlias_ok hr).2.2.2) halias).advances
    obtain ⟨r, hr, rfl⟩ := resolving_ok halias
    obtain ⟨-, -, -, rfl⟩ := generateAlias_ok hr
    obtain ⟨column, hcolumn, rfl⟩ := relationCondition_ok hkeyed.1 rfl hcondition
    have hnoted : Steps Outermost _ noted.resolver := noteSource_stepwise _ _ _ _ _ hnote
    obtain ⟨hsame, hautoJoins⟩ := noteSource_ok hnote
    have hadvances' := (noteSource_planned hregistered.live hnote).1.advances
    have hplans := planFields_plans fields hcoherent.2 hkeyed.2
      (Steps.wellNested hnoted hregistered) hothers
    refine .join (hadvances.trans hadvances') hautoJoins ?_
      (fun _ _ hlinks => Field.AllLinked.mono hlinks) hplans
      (fun _ hall => ⟨fields, hcoherent.1, hall⟩) ?_
    · rw [hsame.occurrences]
      exact occurrences_register hnested.live
    · intro r hjoined hall
      refine ⟨column, _, hcolumn, rfl, rfl, ⟨hjoined, _, .head _, ?_, rfl, rfl, rfl⟩, hall⟩
      exact hadvances'.current
termination_by structural f

theorem planFields_plans {source : PlannedTable} {inlinePath : String} {start : Nat}
    {joins : List AutoJoin} {before after : CompileState} (fields : List Field)
    (hcoherent : Field.AllCoherent s fields) (hkeyed : Field.AllKeyed s fields)
    (hnested : before.resolver.WellNested)
    (h : (planFields s source inlinePath start fields).run before = .ok (joins, after)) :
    Plans s (fun links => Field.AllLinked s.naming links source.occurrence
      (s.columns source.entity) inlinePath start fields) joins before after := by
  cases fields with
  | nil =>
    cases h
    exact .nothing hnested fun _ => trivial
  | cons f rest =>
    rw [planFields] at h
    obtain ⟨first, between, hfirst, h⟩ := StateT.bind_eq_ok h
    obtain ⟨others, _, hothers, h⟩ := StateT.bind_eq_ok h
    cases h
    have hplans := planField_plans f hcoherent.1 hkeyed.1 hnested hfirst
    have hplans' := planFields_plans rest hcoherent.2 hkeyed.2 hplans.nested hothers
    exact hplans.append (fun _ _ hlinks => Field.Linked.mono hlinks)
      (fun _ _ hlinks => Field.AllLinked.mono hlinks) hplans'
termination_by structural fields

end

theorem registerTable_ok {entity : EntityInfo} {aliasName : Option String} {path bound : String}
    {before after : CompileState}
    (h : (registerTable s entity aliasName path).run before = .ok (bound, after)) :
    after.resolver = before.resolver.register ⟨entity, path, bound⟩ := by
  unfold registerTable at h
  obtain ⟨_, between, hbind, h⟩ := StateT.bind_eq_ok h
  obtain ⟨_, rooted, hroot, h⟩ := StateT.bind_eq_ok h
  cases h
  have hregistered : between.resolver = before.resolver.register ⟨entity, path, bound⟩ := by
    cases aliasName with
    | some aliasName =>
      obtain ⟨_, _, hset, hbind⟩ := StateT.bind_eq_ok hbind
      cases hbind
      obtain ⟨r, hr, rfl⟩ := resolving_ok hset
      exact (setAlias_ok hr).2.2
    | none =>
      obtain ⟨r, hr, rfl⟩ := resolving_ok hbind
      exact (generateAlias_ok hr).2.2.2
  cases hroot
  rw [← hregistered]
  dsimp only
  split <;> rfl

/-- All that a root table binds is linked by the joins that are planned for it. -/
theorem registerFrom_plans {entity : Entity} {aliasName : Option String}
    {before after : CompileState} (hentity : s.entity? entity.name = some entity)
    (hcoherent : Field.AllCoherent s entity.fields) (hkeyed : Field.AllKeyed s entity.fields)
    (hnested : before.resolver.WellNested)
    (h : (registerFrom s entity aliasName true).run before = .ok ((), after)) :
    ∃ joins, after.autoJoins = before.autoJoins ++ [joins] ∧
      ∀ o ∈ after.resolver.occurrences before.resolver.current,
        o ∈ before.resolver.occurrences before.resolver.current ∨
          o.Linked s (PlannedIn after.resolver before.resolver.current joins) := by
  unfold registerFrom at h
  obtain ⟨bound, registered, htable, h⟩ := StateT.bind_eq_ok h
  obtain ⟨_, -, h⟩ := lift_bind_ok h
  obtain ⟨joins, planned, hplan, h⟩ := StateT.bind_eq_ok h
  cases h
  have hregistered := registerTable_registered htable
  have hsteps : Steps (fun _ => True) before.resolver registered.resolver :=
    registerTable_steps (.inr trivial) htable
  have hplans := planFields_plans entity.fields hcoherent hkeyed
    (Steps.wellNested hsteps hnested) hplan
  have hautoJoins : registered.autoJoins = before.autoJoins ++ [] :=
    congrArg Queued.autoJoins hregistered.queued
  rw [List.append_nil] at hautoJoins
  have hbound : registered.resolver.occurrences before.resolver.current =
      before.resolver.occurrences before.resolver.current ++
        [⟨entity.toEntityInfo, "", bound⟩] := by
    rw [registerTable_ok htable]
    exact occurrences_register hnested.live
  obtain ⟨-, -, hplanned, -, hlinked, hothers⟩ := hplans
  rw [hregistered.advances.current] at hlinked hothers
  rw [hbound] at hothers
  refine ⟨joins, congrArg (· ++ [joins]) (hplanned.trans hautoJoins), ?_⟩
  intro o ho
  rcases hothers o ho with ho | ho
  · rcases List.mem_append.mp ho with ho | ho
    · exact .inl ho
    · cases List.mem_singleton.mp ho
      exact .inr ⟨entity.fields, hentity, hlinked⟩
  · exact .inr ho

end Registration

end RelMap
