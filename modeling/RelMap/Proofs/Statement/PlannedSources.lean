import RelMap.Proofs.Statement.Planning

/-!
# What planning records

Registration refers to nothing. The only dependencies that it adds are those of planned joins on the
joined tables that they start from.
-/

namespace RelMap

open Compiling Resolver

variable {s : Schema}

theorem Resolver.tableUse_push {r : Resolver} {correlated : Bool} {scope : ScopeId} :
    (r.push correlated).tableUse scope = r.tableUse scope := by
  unfold tableUse push
  rcases Nat.lt_trichotomy scope r.scopes.length with h | h | h
  · rw [List.getElem?_append_left h]
  · subst h
    rw [List.getElem?_concat_length, List.getElem?_eq_none (Nat.le_refl _)]
    rfl
  · rw [List.getElem?_eq_none (Nat.le_of_lt h), List.getElem?_eq_none]
    rw [List.length_append]
    exact h

theorem Resolver.tableUse_addDependency (r : Resolver) (scope other : ScopeId) (a b : String) :
    let use := (r.modifyTableUse scope (·.addDependency a b)).tableUse other
    use.referenced = (r.tableUse other).referenced ∧
      ∀ d ∈ use.dependencies, d ∈ (r.tableUse other).dependencies ∨ scope = other ∧ d = (a, b) := by
  intro use
  by_cases hscope : scope = other
  · subst hscope
    rcases Nat.lt_or_ge scope r.scopes.length with hlt | hge
    · have huse : use = (r.tableUse scope).addDependency a b := tableUse_modifyTableUse hlt
      rw [huse]
      refine ⟨rfl, fun d hd => ?_⟩
      exact (List.mem_append.mp hd).imp_right fun hd => ⟨rfl, List.mem_singleton.mp hd⟩
    · have huse : use = r.tableUse scope := by
        unfold use tableUse modifyTableUse
        rw [getElem?_modifyScope, if_pos rfl, List.getElem?_eq_none hge]
        rfl
      rw [huse]
      exact ⟨rfl, fun d hd => .inl hd⟩
  · have huse : use = r.tableUse other := tableUse_modifyTableUse_of_ne hscope
    rw [huse]
    exact ⟨rfl, fun d hd => .inl hd⟩

namespace AutoJoin

def DependsBy (j : AutoJoin) (d : String × String) : Prop :=
  ∃ o ∈ j.source, d = (o.qualifier, j.qualifier)

/-- The join is planned in the scope, and has a column of the joined table that it starts from in
its condition. -/
structure StartsIn (scope : ScopeId) (j : AutoJoin) : Prop where
  scope : j.scope = scope
  source : ∀ o ∈ j.source, ∃ column key, j.Joins o column key j.joined

end AutoJoin

namespace Registration

/-- Nothing is referred to, and all that is new are dependencies of the joins. -/
structure Plots (joins : List AutoJoin) (before after : CompileState) : Prop where
  referenced : ∀ scope, (after.resolver.tableUse scope).referenced =
    (before.resolver.tableUse scope).referenced
  dependencies : ∀ scope, ∀ d ∈ (after.resolver.tableUse scope).dependencies,
    d ∈ (before.resolver.tableUse scope).dependencies ∨
      ∃ j ∈ joins, j.scope = scope ∧ j.DependsBy d

namespace Plots

variable {joins joins' : List AutoJoin} {before between after : CompileState}

theorem of_tableUse (h : ∀ scope, after.resolver.tableUse scope = before.resolver.tableUse scope) :
    Plots [] before after where
  referenced := fun scope => by rw [h]
  dependencies := fun scope d hd => .inl (by rwa [h] at hd)

theorem append (h : Plots joins before between) (h' : Plots joins' between after) :
    Plots (joins ++ joins') before after where
  referenced := fun scope => (h'.referenced scope).trans (h.referenced scope)
  dependencies := by
    intro scope d hd
    rcases h'.dependencies scope d hd with hd | ⟨j, hj, hdepends⟩
    · rcases h.dependencies scope d hd with hd | ⟨j, hj, hdepends⟩
      · exact .inl hd
      · exact .inr ⟨j, List.mem_append_left _ hj, hdepends⟩
    · exact .inr ⟨j, List.mem_append_right _ hj, hdepends⟩

theorem single {j : AutoJoin} (h : ∀ scope,
    (after.resolver.tableUse scope).referenced = (before.resolver.tableUse scope).referenced ∧
      ∀ d ∈ (after.resolver.tableUse scope).dependencies,
        d ∈ (before.resolver.tableUse scope).dependencies ∨ j.scope = scope ∧ j.DependsBy d) :
    Plots [j] before after where
  referenced := fun scope => (h scope).1
  dependencies := fun scope d hd =>
    ((h scope).2 d hd).imp_right fun ⟨hscope, hdepends⟩ => ⟨j, .head _, hscope, hdepends⟩

end Plots

/-! ## Planned joins -/

theorem noteSource_dependencies {source : PlannedTable} {joined : Occurrence}
    {holder : Option Occurrence} {before after : CompileState}
    (h : (noteSource source joined).run before = .ok (holder, after)) :
    (∀ o ∈ holder, o = source.occurrence) ∧
      after.resolver.current = before.resolver.current ∧
      ∀ scope, (after.resolver.tableUse scope).referenced =
          (before.resolver.tableUse scope).referenced ∧
        ∀ d ∈ (after.resolver.tableUse scope).dependencies,
          d ∈ (before.resolver.tableUse scope).dependencies ∨
            after.resolver.current = scope ∧ ∃ o ∈ holder, d = (o.qualifier, joined.qualifier) := by
  unfold noteSource at h
  split at h
  · obtain ⟨_, noted, hnote, h⟩ := StateT.bind_eq_ok h
    cases hnote
    cases h
    refine ⟨fun o ho => (Option.some.inj ho).symm, rfl, fun scope => ?_⟩
    obtain ⟨hreferenced, hdependencies⟩ := tableUse_addDependency before.resolver
      before.resolver.current scope source.occurrence.qualifier joined.qualifier
    refine ⟨hreferenced, fun d hd => (hdependencies d hd).imp_right ?_⟩
    rintro ⟨hscope, rfl⟩
    exact ⟨hscope, _, rfl, rfl⟩
  · cases h
    exact ⟨nofun, rfl, fun scope => ⟨rfl, fun d hd => .inl hd⟩⟩

mutual

theorem planField_plots {source : PlannedTable} {inlinePath : String} {start : Nat}
    {joins : List AutoJoin} {before after : CompileState} (f : Field) (hkeyed : f.Keyed s)
    (h : (planField s source inlinePath start f).run before = .ok (joins, after)) :
    Plots joins before after ∧ after.resolver.current = before.resolver.current ∧
      after.autoJoins = before.autoJoins ∧ ∀ j ∈ joins, j.StartsIn before.resolver.current := by
  cases f with
  | scalar info typ | ref info target key | converted info converter =>
    cases h
    exact ⟨.of_tableUse fun _ => rfl, rfl, rfl, List.forall_mem_nil _⟩
  | inline info target fields => exact planFields_plots fields hkeyed h
  | foreignKey info target key fields =>
    obtain ⟨aliasName, registered, condition, holder, noted, kind, others, halias, hcondition,
      hnote, hothers, rfl⟩ := planField_foreignKey_ok h
    obtain ⟨r, hr, rfl⟩ := resolving_ok halias
    obtain ⟨-, -, -, rfl⟩ := generateAlias_ok hr
    obtain ⟨column, -, rfl⟩ := relationCondition_ok hkeyed.1 rfl hcondition
    obtain ⟨hsource, hcurrent, hnoted⟩ := noteSource_dependencies hnote
    have hautoJoins := (noteSource_ok hnote).2
    simp only [tableUse_register] at hnoted
    obtain ⟨hplots, hcurrent', hautoJoins', hstarts⟩ := planFields_plots fields hkeyed.2 hothers
    rw [hcurrent] at hstarts
    refine ⟨(Plots.single hnoted).append hplots, hcurrent'.trans hcurrent,
      hautoJoins'.trans hautoJoins, ?_⟩
    · intro j hj
      rcases List.mem_cons.mp hj with rfl | hj
      · refine ⟨hcurrent, fun o ho => ?_⟩
        rw [hsource o ho]
        exact ⟨column, key, rfl, rfl, rfl⟩
      · exact hstarts j hj
termination_by structural f

theorem planFields_plots {source : PlannedTable} {inlinePath : String} {start : Nat}
    {joins : List AutoJoin} {before after : CompileState} (fields : List Field)
    (hkeyed : Field.AllKeyed s fields)
    (h : (planFields s source inlinePath start fields).run before = .ok (joins, after)) :
    Plots joins before after ∧ after.resolver.current = before.resolver.current ∧
      after.autoJoins = before.autoJoins ∧ ∀ j ∈ joins, j.StartsIn before.resolver.current := by
  cases fields with
  | nil =>
    cases h
    exact ⟨.of_tableUse fun _ => rfl, rfl, rfl, List.forall_mem_nil _⟩
  | cons f rest =>
    rw [planFields] at h
    obtain ⟨first, between, hfirst, h⟩ := StateT.bind_eq_ok h
    obtain ⟨others, _, hothers, h⟩ := StateT.bind_eq_ok h
    cases h
    obtain ⟨hplots, hcurrent, hautoJoins, hstarts⟩ := planField_plots f hkeyed.1 hfirst
    obtain ⟨hplots', hcurrent', hautoJoins', hstarts'⟩ := planFields_plots rest hkeyed.2 hothers
    rw [hcurrent] at hcurrent' hstarts'
    refine ⟨hplots.append hplots', hcurrent', hautoJoins'.trans hautoJoins, ?_⟩
    intro j hj
    exact (List.mem_append.mp hj).elim (hstarts j) (hstarts' j)
termination_by structural fields

end

theorem registerFrom_plots {entity : Entity} {aliasName : Option String} {autoJoin : Bool}
    {before after : CompileState} (hkeyed : Field.AllKeyed s entity.fields)
    (h : (registerFrom s entity aliasName autoJoin).run before = .ok ((), after)) :
    ∃ joins, after.autoJoins = before.autoJoins ++ (if autoJoin then [joins] else []) ∧
      Plots (if autoJoin then [joins] else []).flatten before after ∧
      ∀ j ∈ joins, j.StartsIn before.resolver.current := by
  unfold registerFrom at h
  obtain ⟨bound, tabled, htable, h⟩ := StateT.bind_eq_ok h
  have hresolver := registerTable_ok htable
  have hautoJoins := congrArg Queued.autoJoins (registerTable_registered htable).queued
  have hplots : Plots [] before tabled := .of_tableUse fun scope => by
    rw [hresolver, tableUse_register]
  cases autoJoin with
  | false =>
    cases h
    exact ⟨[], hautoJoins, hplots, List.forall_mem_nil _⟩
  | true =>
    obtain ⟨_, -, h⟩ := lift_bind_ok h
    obtain ⟨joins, planned, hplan, h⟩ := StateT.bind_eq_ok h
    cases h
    obtain ⟨hplots', -, hautoJoins', hstarts⟩ := planFields_plots entity.fields hkeyed hplan
    rw [hresolver] at hstarts
    have hwhole := hplots.append hplots'
    rw [← List.flatten_singleton (l := [] ++ joins)] at hwhole
    refine ⟨joins, ?_, ⟨hwhole.referenced, hwhole.dependencies⟩, hstarts⟩
    exact congrArg (· ++ [joins]) (hautoJoins'.trans (hautoJoins.trans (List.append_nil _)))

/-! ## Whole queries -/

/-- Whatever the computation records is planned with the joins that it queues. -/
def Plotting {α : Type} (x : Compiling α) : Prop :=
  ∀ before a after, x.run before = .ok (a, after) → ∃ queued,
    after.autoJoins = before.autoJoins ++ queued ∧ Plots queued.flatten before after

namespace Plotting

variable {α β : Type}

theorem bind {x : Compiling α} {f : α → Compiling β} (hx : Plotting x) (hf : ∀ a, Plotting (f a)) :
    Plotting (x >>= f) := by
  intro before b after h
  obtain ⟨a, between, hrun, h⟩ := StateT.bind_eq_ok h
  obtain ⟨queued, hqueued, hplots⟩ := hx before a between hrun
  obtain ⟨queued', hqueued', hplots'⟩ := hf a between b after h
  refine ⟨queued ++ queued', ?_, ?_⟩
  · rw [hqueued', hqueued, List.append_assoc]
  · rw [List.flatten_append]
    exact hplots.append hplots'

theorem of_tableUse {x : Compiling α} (h : ∀ before a after, x.run before = .ok (a, after) →
    after.autoJoins = before.autoJoins ∧
      ∀ scope, after.resolver.tableUse scope = before.resolver.tableUse scope) : Plotting x := by
  intro before a after hrun
  obtain ⟨hautoJoins, huse⟩ := h before a after hrun
  exact ⟨[], hautoJoins.trans (List.append_nil _).symm, .of_tableUse huse⟩

theorem of_quiet {x : Compiling α} (hx : Quiet x) : Plotting x := by
  apply of_tableUse
  intro before a after h
  obtain ⟨hresolver, hqueued⟩ := hx before a after h
  exact ⟨congrArg Queued.autoJoins hqueued, fun scope => by rw [hresolver]⟩

theorem pure (a : α) : Plotting (pure a : Compiling α) := of_quiet (.pure a)

theorem lift (x : Except Error α) : Plotting (StateT.lift x : Compiling α) := of_quiet (.lift x)

theorem registerTable (entity : EntityInfo) (aliasName : Option String) (path : String) :
    Plotting (Registration.registerTable s entity aliasName path) := by
  apply of_tableUse
  intro before bound after h
  have hqueued := congrArg Queued.autoJoins (registerTable_registered h).queued
  refine ⟨hqueued.trans (List.append_nil _), fun scope => ?_⟩
  rw [registerTable_ok h, tableUse_register]

theorem table (name : EntityName) (aliasName : Option String) (path : String) :
    Plotting (do
      let e ← s.entity name
      let _ ← Registration.registerTable s e.toEntityInfo aliasName path : Compiling Unit) := by
  apply (lift _).bind
  intro e
  exact (registerTable _ _ _).bind fun _ => .pure _

theorem registerJoined (entity : EntityName) (aliasName path : Option String) (onClause : JoinOn) :
    Plotting (Registration.registerJoined s entity aliasName path onClause) := by
  unfold Registration.registerJoined
  apply (lift _).bind
  intro e
  apply (of_quiet (quiet_joinedPath s e aliasName path onClause)).bind
  intro path
  apply (registerTable _ _ _).bind
  intro bound
  apply of_tableUse
  intro before a after h
  cases h
  exact ⟨rfl, fun _ => rfl⟩

theorem inNewScope {correlated : Bool} {body : Compiling Unit} (h : Plotting body) :
    Plotting (Registration.inNewScope correlated body) := by
  intro before _ after hrun
  obtain ⟨walked, hbody, rfl⟩ := inNewScope_ok hrun
  obtain ⟨queued, hqueued, hplots⟩ := h _ _ walked hbody
  have hopened : Plots [] before (before.opened correlated) := .of_tableUse fun _ => tableUse_push
  have hleft : Plots [] walked walked.left := .of_tableUse fun _ => rfl
  refine ⟨queued, hqueued, ?_⟩
  have hwhole := (hopened.append hplots).append hleft
  rw [List.append_nil] at hwhole
  exact hwhole

end Plotting

mutual

theorem element_plotting {spec : SchemaSpec} (hs : spec.toSchema = .ok s) (e : Element) :
    Plotting (element s e) := by
  cases e with
  | sql _ | select _ _ _ | aliasOf _ | column _ | values _ | set _ | param _ => exact .pure ()
  | fromTable name aliasName autoJoin =>
    intro before _ after h
    rw [element] at h
    obtain ⟨e, he, h⟩ := entity_bind_ok h
    obtain ⟨joins, hqueued, hplots, -⟩ := registerFrom_plots (Schema.allKeyed_of_entity? hs he) h
    exact ⟨_, hqueued, hplots⟩
  | table name aliasName path | insert name | update name aliasName | delete name aliasName =>
    exact .table _ _ _
  | join j => exact join_plotting hs j
  | subquery inner correlated => exact .inNewScope (elements_plotting hs inner)
  | condition clause => exact condition_plotting hs clause
termination_by structural e

theorem elements_plotting {spec : SchemaSpec} (hs : spec.toSchema = .ok s) (es : List Element) :
    Plotting (elements s es) := by
  cases es with
  | nil => exact .pure ()
  | cons e rest => exact (element_plotting hs e).bind fun _ => elements_plotting hs rest
termination_by structural es

theorem join_plotting {spec : SchemaSpec} (hs : spec.toSchema = .ok s) (j : JoinElement) :
    Plotting (join s j) := by
  obtain ⟨kind, target, aliasName, path, onClause, auto⟩ := j
  apply (joinTarget_plotting hs target).bind
  intro _
  apply (Plotting.registerJoined _ _ _ _).bind
  intro _
  exact joinOn_plotting hs onClause
termination_by structural j

theorem joinTarget_plotting {spec : SchemaSpec} (hs : spec.toSchema = .ok s) (t : JoinTarget) :
    Plotting (joinTarget s t) := by
  cases t with
  | entity entity => exact .pure ()
  | subquery entity inner correlated => exact .inNewScope (elements_plotting hs inner)
termination_by structural t

theorem joinOn_plotting {spec : SchemaSpec} (hs : spec.toSchema = .ok s) (onClause : JoinOn) :
    Plotting (joinOn s onClause) := by
  cases onClause with
  | relation source | none => exact .pure ()
  | template inner => exact elements_plotting hs inner
termination_by structural onClause

theorem condition_plotting {spec : SchemaSpec} (hs : spec.toSchema = .ok s)
    (clause : WhereClause) : Plotting (condition s clause) := by
  cases clause with
  | object target operator operands => exact .pure ()
  | template inner => exact elements_plotting hs inner
termination_by structural clause

end

end Registration

end RelMap
