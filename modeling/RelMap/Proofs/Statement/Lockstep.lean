import RelMap.Proofs.Statement.MentionedJoins
import RelMap.Proofs.Statement.Visits

/-!
# The queues are taken back as they were filled

At every construct emission takes from the queues what registration has pushed for the same
construct in the same scope. So it never asks for more than is queued, and leaves nothing behind.
-/

namespace RelMap

open Compiling

variable {s : Schema}

/-! ## Parts of a query -/

section

variable {before after state : CompileState} {q : Queued}

/-- Ready for a query, emission is ready for its first element, and then for the others. -/
theorem Ready.cons (format : SqlFormat) {e : Element} {rest : List Element}
    (hlive : before.resolver.Live)
    (hrun : (Registration.elements s (e :: rest)).run before = .ok ((), after))
    (hq : Registered q before after) (hready : Ready after before.resolver.current q state) :
    ∃ between q₁ q₂, (Registration.element s e).run before = .ok ((), between) ∧
      Registered q₁ before between ∧ Ready between before.resolver.current q₁ state ∧
      (Registration.elements s rest).run between = .ok ((), after) ∧
      Registered q₂ between after ∧
      ∀ separate passage state',
        (Emission.element s format separate e).run state = .ok (passage, state') →
        Ready after between.resolver.current q₂ state' ∧
          state.resolver.SameTables state'.resolver := by
  rw [Registration.elements] at hrun
  obtain ⟨_, between, hfirst, hothers⟩ := StateT.bind_eq_ok hrun
  have hstep (separate : Bool) :
      InStep _ [] (Registration.element s e) (Emission.element s format separate e) :=
    element_inStep e before.resolver.current separate
  obtain ⟨q₁, hq₁, -⟩ := hstep true before between hlive rfl hfirst
  have hrest : InStep _ [] (Registration.elements s rest) (Emission.elements s format true rest) :=
    elements_inStep rest between.resolver.current true
  obtain ⟨q₂, hq₂, -⟩ := hrest between after (hq₁.advances.live hlive) rfl hothers
  cases hq.unique (hq₁.append hq₂)
  refine ⟨between, q₁, q₂, hfirst, hq₁, hready.first hq₂, hothers, hq₂, ?_⟩
  intro separate passage state' hemit
  obtain ⟨q₃, hq₃, hemitted⟩ := hstep separate before between hlive rfl hfirst
  cases hq₁.unique hq₃
  have hemitted := hemitted state passage state' (hready.first hq₂) hemit
  rw [hq₁.advances.current]
  exact ⟨hready.second hemitted, hemitted.tables⟩

/-- Ready for a query in a scope of its own, emission is ready for it in that scope. -/
theorem Ready.inNewScope {inner : List Element} {correlated : Bool}
    (hrun : (Registration.inNewScope correlated (Registration.elements s inner)).run before =
      .ok ((), after))
    (hq : Registered q before after) (hready : Ready after before.resolver.current q state) :
    ∃ walked q', (Registration.elements s inner).run (before.opened correlated) =
        .ok ((), walked) ∧
      Registered q' (before.opened correlated) walked ∧
      q = .opening before.resolver.scopes.length q' ∧
      ∀ scope rest, state.subqueries = scope :: rest →
        Ready walked (before.opened correlated).resolver.current q' (state.entered scope rest) := by
  obtain ⟨walked, hbody, rfl⟩ := Registration.inNewScope_ok hrun
  have hinner : InStep _ [] (Registration.elements s inner)
      (Emission.elements s ⟨.ansi, true⟩ true inner) :=
    elements_inStep inner (before.opened correlated).resolver.current true
  obtain ⟨q', hq', -⟩ := hinner (before.opened correlated) walked Resolver.live_push rfl hbody
  cases hq.unique (Registration.opened_registered hq')
  refine ⟨walked, q', hbody, hq', rfl, ?_⟩
  intro scope rest hqueue
  obtain ⟨rfl, -, hentered⟩ := hready.entered hq' hqueue
  exact hentered

/-- Ready for a join, emission is ready for its target, then for the path of the joined table, and
then for the condition. -/
theorem Ready.join (format : SqlFormat) {kind : JoinKind} {target : JoinTarget}
    {aliasName path : Option String} {onClause : JoinOn} {auto : Bool} (hlive : before.resolver.Live)
    (hrun : (Registration.join s ⟨kind, target, aliasName, path, onClause, auto⟩).run before =
      .ok ((), after))
    (hq : Registered q before after) (hready : Ready after before.resolver.current q state) :
    ∃ located bound q₁ p q₂, (Registration.joinTarget s target).run before = .ok ((), located) ∧
      Registered q₁ before located ∧ Ready located before.resolver.current q₁ state ∧
      (Registration.registerJoined s target.entityName aliasName path onClause).run located =
        .ok ((), bound) ∧
      Registered (.ofPath p) located bound ∧
      (Registration.joinOn s onClause).run bound = .ok ((), after) ∧ Registered q₂ bound after ∧
      ∀ passage state', (Emission.joinTarget s format target).run state = .ok (passage, state') →
        state.resolver.SameTables state'.resolver ∧
        Ready bound located.resolver.current (.ofPath p) state' ∧
        ∀ next state'', nextJoinPath.run state' = .ok (next, state'') →
          state'.resolver.SameTables state''.resolver ∧
          Ready after bound.resolver.current q₂ state'' := by
  rw [Registration.join] at hrun
  obtain ⟨_, located, htarget, hrun⟩ := StateT.bind_eq_ok hrun
  obtain ⟨_, bound, hjoined, hon⟩ := StateT.bind_eq_ok hrun
  have hstep : InStep _ [] (Registration.joinTarget s target)
      (Emission.joinTarget s format target) := joinTarget_inStep target before.resolver.current
  obtain ⟨q₁, hq₁, hemitted⟩ := hstep before located hlive rfl htarget
  obtain ⟨⟨e, -⟩, p, hp⟩ := Registration.registerJoined_registered hjoined
  have hcondition : InStep bound.resolver.current _ (Registration.joinOn s onClause)
      (Emission.joinOn s format auto e (0, ⟨e.toEntityInfo, "", ""⟩) onClause) :=
    joinOn_inStep onClause _ auto e _
  obtain ⟨q₂, hq₂, -⟩ :=
    hcondition bound after (hp.advances.live (hq₁.advances.live hlive)) rfl hon
  cases hq.unique (hq₁.append (hp.append hq₂))
  refine ⟨located, bound, q₁, p, q₂, htarget, hq₁, hready.first (hp.append hq₂), hjoined, hp, hon,
    hq₂, ?_⟩
  intro passage state' hemit
  have hemitted := hemitted state passage state' (hready.first (hp.append hq₂)) hemit
  have hready := hready.second hemitted
  rw [hp.advances.current, hq₁.advances.current]
  refine ⟨hemitted.tables, hready.first hq₂, ?_⟩
  intro next state'' hnext
  obtain ⟨rest, hqueue, rfl⟩ := nextJoinPath_ok hnext
  obtain ⟨others, hothers⟩ := hready.queued
  obtain ⟨rfl, -⟩ := List.cons.inj (hqueue.symm.trans (congrArg Queued.joinPaths hothers))
  have htaken : Emitted [] (.ofPath next) state' { state' with joinPaths := rest } [] :=
    Emission.joinPath_emitted hqueue
  exact ⟨htaken.tables, hready.second htaken⟩

end

/-! ## Constructs -/

variable {format : SqlFormat}

/-- Registration has reached the construct at the address, and what it has queued for it is what
emission is about to take, in the same scope. -/
def Matched (s : Schema) (es : List Element) (before : CompileState) (address : List Nat)
    (c : Construct) (visited : CompileState) : Prop :=
  ∃ reached after q, (Registration.walk s).Reaches es before address c reached ∧
    reached.resolver.Live ∧ (c.register s).run reached = .ok ((), after) ∧
    Registered q reached after ∧ Ready after reached.resolver.current q visited

/-- Whatever emission reaches is matched by what registration has reached, and there are the same
tables all the way. -/
theorem Emission.matched_of_reaches {es : List Element} {before after state visited : CompileState}
    {q : Queued} {address : List Nat} {c : Construct} (hlive : before.resolver.Live)
    (hrun : (Registration.elements s es).run before = .ok ((), after))
    (hq : Registered q before after) (hready : Ready after before.resolver.current q state)
    (hreaches : (walk s format).Reaches es state address c visited) :
    Matched s es before address c visited ∧ state.resolver.SameTables visited.resolver := by
  induction hreaches generalizing before after q with
  | here e rest state =>
    obtain ⟨between, q₁, q₂, helement, hq₁, hready, -⟩ := hready.cons format hlive hrun hq
    exact ⟨⟨before, between, q₁, .here e rest before, hlive, helement, hq₁, hready⟩, rfl⟩
  | later hemit hrest ih =>
    obtain ⟨separate, passage, hemit⟩ := hemit
    obtain ⟨between, q₁, q₂, helement, hq₁, -, hothers, hq₂, hnext⟩ :=
      hready.cons format hlive hrun hq
    obtain ⟨hready, htables⟩ := hnext separate passage _ hemit
    obtain ⟨⟨reached, after, q, hreaches, hmatch⟩, hsame⟩ :=
      ih (hq₁.advances.live hlive) hothers hq₂ hready
    exact ⟨⟨reached, after, q, .later helement hreaches, hmatch⟩, htables.trans hsame⟩
  | subquery henter hinner ih =>
    obtain ⟨scope, rest, hqueue, rfl⟩ := henter
    obtain ⟨between, q₁, q₂, helement, hq₁, hready, -⟩ := hready.cons format hlive hrun hq
    rw [Registration.element] at helement
    obtain ⟨walked, q', hbody, hq', rfl, hentered⟩ := hready.inNewScope helement hq₁
    obtain ⟨⟨reached, after, q, hreaches, hmatch⟩, hsame⟩ :=
      ih Resolver.live_push hbody hq' (hentered scope rest hqueue)
    exact ⟨⟨reached, after, q, .subquery rfl hreaches, hmatch⟩, hsame⟩
  | condition hinner ih =>
    obtain ⟨between, q₁, q₂, helement, hq₁, hready, -⟩ := hready.cons format hlive hrun hq
    rw [Registration.element, Registration.condition] at helement
    obtain ⟨⟨reached, after, q, hreaches, hmatch⟩, hsame⟩ := ih hlive helement hq₁ hready
    exact ⟨⟨reached, after, q, .condition hreaches, hmatch⟩, hsame⟩
  | derived kind entity inner rest correlated aliasName path onClause auto state =>
    obtain ⟨between, q₁, q₂, helement, hq₁, hready, -⟩ := hready.cons format hlive hrun hq
    rw [Registration.element] at helement
    obtain ⟨located, bound, q₃, p, q₄, htarget, hq₃, hready, -⟩ :=
      hready.join format hlive helement hq₁
    rw [Registration.joinTarget] at htarget
    exact ⟨⟨before, located, q₃, .derived kind entity inner rest correlated aliasName path onClause
      auto before, hlive, htarget, hq₃, hready⟩, rfl⟩
  | inDerived henter hinner ih =>
    obtain ⟨scope, rest, hqueue, rfl⟩ := henter
    obtain ⟨between, q₁, q₂, helement, hq₁, hready, -⟩ := hready.cons format hlive hrun hq
    rw [Registration.element] at helement
    obtain ⟨located, bound, q₃, p, q₄, htarget, hq₃, hready, -⟩ :=
      hready.join format hlive helement hq₁
    rw [Registration.joinTarget] at htarget
    obtain ⟨walked, q', hbody, hq', rfl, hentered⟩ := hready.inNewScope htarget hq₃
    obtain ⟨⟨reached, after, q, hreaches, hmatch⟩, hsame⟩ :=
      ih Resolver.live_push hbody hq' (hentered scope rest hqueue)
    exact ⟨⟨reached, after, q, .inDerived rfl hreaches, hmatch⟩, hsame⟩
  | @joined j _ _ _ htarget =>
    obtain ⟨kind, target, aliasName, path, onClause, auto⟩ := j
    obtain ⟨table, hemit⟩ := htarget
    obtain ⟨between, q₁, q₂, helement, hq₁, hready, -⟩ := hready.cons format hlive hrun hq
    rw [Registration.element] at helement
    obtain ⟨located, bound, q₃, p, q₄, htarget, hq₃, -, hjoined, hp, -, -, hnext⟩ :=
      hready.join format hlive helement hq₁
    obtain ⟨htables, hready, -⟩ := hnext table _ hemit
    exact ⟨⟨located, bound, .ofPath p, .joined htarget, hq₃.advances.live hlive, hjoined, hp,
      hready⟩, htables⟩
  | on htarget hjoined hinner ih =>
    obtain ⟨table, hemit⟩ := htarget
    obtain ⟨next, hemit'⟩ := hjoined
    obtain ⟨between, q₁, q₂, helement, hq₁, hready, -⟩ := hready.cons format hlive hrun hq
    rw [Registration.element] at helement
    obtain ⟨located, bound, q₃, p, q₄, htarget, hq₃, -, hjoined, hp, hon, hq₄, hnext⟩ :=
      hready.join format hlive helement hq₁
    rw [Registration.joinOn] at hon
    have hlive := hp.advances.live (hq₃.advances.live hlive)
    obtain ⟨htables, -, hbound⟩ := hnext table _ hemit
    obtain ⟨htables', hready⟩ := hbound next _ hemit'
    obtain ⟨⟨reached, after, q, hreaches, hmatch⟩, hsame⟩ := ih hlive hon hq₄ hready
    exact ⟨⟨reached, after, q, .on htarget hjoined hreaches, hmatch⟩,
      (htables.trans htables').trans hsame⟩

/-! ## Items -/

section

variable {scope : ScopeId} {before after state : CompileState} {q : Queued}

theorem Ready.takes_scope {inner : List Element} {correlated : Bool}
    (hrun : (Registration.inNewScope correlated (Registration.elements s inner)).run before =
      .ok ((), after))
    (hq : Registered q before after) (hready : Ready after before.resolver.current q state) :
    ∃ item taken, QueueItem.IsPushed item before after ∧ item.IsNext state ∧
      (do return .scope (← nextSubquery) : Compiling QueueItem).run state = .ok (item, taken) := by
  obtain ⟨walked, q', -, -, rfl, -⟩ := hready.inNewScope hrun hq
  obtain ⟨rest, hrest⟩ := hready.queued
  have hnext := congrArg Queued.subqueries hrest
  exact ⟨.scope before.resolver.scopes.length, _, ⟨_, congrArg Queued.subqueries hq.queued⟩,
    ⟨_, hnext⟩, StateT.run_map_eq_ok QueueItem.scope (run_nextSubquery hnext)⟩

theorem Ready.takes_joins {entity : EntityName} {aliasName : Option String}
    (hlive : before.resolver.Live)
    (hrun : (Registration.element s (.fromTable entity aliasName true)).run before =
      .ok ((), after))
    (hq : Registered q before after) (hready : Ready after scope q state) :
    ∃ item taken, QueueItem.IsPushed item before after ∧ item.IsNext state ∧
      (do return .joins (← nextAutoJoins) : Compiling QueueItem).run state = .ok (item, taken) := by
  rw [Registration.element] at hrun
  obtain ⟨e, -, hrun⟩ := entity_bind_ok hrun
  obtain ⟨joins, hregistered⟩ := Registration.registerFrom_registered hlive hrun
  cases hq.unique hregistered
  obtain ⟨rest, hrest⟩ := hready.queued
  have hnext := congrArg Queued.autoJoins hrest
  exact ⟨.joins joins, _, ⟨_, congrArg Queued.autoJoins hq.queued⟩, ⟨_, hnext⟩,
    StateT.run_map_eq_ok QueueItem.joins (run_nextAutoJoins hnext)⟩

theorem Ready.takes_path {entity : EntityName} {aliasName path : Option String} {onClause : JoinOn}
    (hrun : (Registration.registerJoined s entity aliasName path onClause).run before =
      .ok ((), after))
    (hq : Registered q before after) (hready : Ready after scope q state) :
    ∃ item taken, QueueItem.IsPushed item before after ∧ item.IsNext state ∧
      (do return .path (← nextJoinPath) : Compiling QueueItem).run state = .ok (item, taken) := by
  obtain ⟨-, p, hregistered⟩ := Registration.registerJoined_registered hrun
  cases hq.unique hregistered
  obtain ⟨rest, hrest⟩ := hready.queued
  have hnext := congrArg Queued.joinPaths hrest
  exact ⟨.path p, _, ⟨_, congrArg Queued.joinPaths hq.queued⟩, ⟨_, hnext⟩,
    StateT.run_map_eq_ok QueueItem.path (run_nextJoinPath hnext)⟩

theorem Ready.takes {c : Construct} (hlive : before.resolver.Live)
    (hrun : (c.register s).run before = .ok ((), after)) (hq : Registered q before after)
    (hready : Ready after before.resolver.current q state) :
    ∀ take ∈ c.take?, ∃ item taken, QueueItem.IsPushed item before after ∧ item.IsNext state ∧
      take.run state = .ok (item, taken) := by
  intro take htake
  cases c with
  | derived inner correlated =>
    cases htake
    exact hready.takes_scope hrun hq
  | joined j =>
    cases htake
    exact hready.takes_path hrun hq
  | element e =>
    cases e with
    | subquery inner correlated =>
      cases htake
      rw [Construct.register, Registration.element] at hrun
      exact hready.takes_scope hrun hq
    | fromTable entity aliasName autoJoin =>
      cases autoJoin with
      | false => cases htake
      | true =>
        cases htake
        exact hready.takes_joins hlive hrun hq
    | sql _ | select _ _ _ | table _ _ _ | aliasOf _ | column _ | join _ | insert _ | values _
    | update _ _ | set _ | delete _ _ | condition _ | param _ => cases htake

end

/-! ## Whole queries -/

structure TakesBack (s : Schema) (format : SqlFormat) (es : List Element)
    (registered : CompileState) : Prop where
  /-- At whatever construct emission arrives, be it in an emission that fails later on, registration
  has been there in the same scope, and what is next in the queue is what it has pushed there. -/
  items : ∀ address c visited,
    (Emission.walk s format).Reaches es registered.emitting address c visited →
    ∃ reached after, (Registration.walk s).Reaches es {} address c reached ∧
      (c.register s).run reached = .ok ((), after) ∧
      visited.resolver.current = reached.resolver.current ∧
      ∀ take ∈ c.take?, ∃ item taken, QueueItem.IsPushed item reached after ∧ item.IsNext visited ∧
        take.run visited = .ok (item, taken)
  /-- Emission does not fail for want of an item. -/
  failures : ∀ err, (Emission.elements s format true es).run registered.emitting = .error err →
    err ≠ .usage .subqueryNotRegistered ∧ err ≠ .usage .joinNotRegistered
  /-- An emission that succeeds has been wherever registration has been, and leaves nothing. -/
  finish : ∀ passage state,
    (Emission.elements s format true es).run registered.emitting = .ok (passage, state) →
    (∀ address c reached, (Registration.walk s).Reaches es {} address c reached →
      ∃ visited, (Emission.walk s format).Reaches es registered.emitting address c visited) ∧
    state.subqueries = [] ∧ state.autoJoins = [] ∧ state.joinPaths = [] ∧
    state.resolver.current = 0

section

variable {es : List Element} {registered : CompileState}

/-- Whatever the emission of a query reaches is matched, and has the tables that are registered. -/
theorem matched_of_reaches_emitting
    (h : (Registration.elements s es).run {} = .ok ((), registered)) {address : List Nat}
    {c : Construct} {visited : CompileState}
    (hreaches : (Emission.walk s format).Reaches es registered.emitting address c visited) :
    Matched s es {} address c visited ∧ registered.resolver.SameTables visited.resolver := by
  have hstep : InStep 0 [] (Registration.elements s es) (Emission.elements s format true es) :=
    elements_inStep es 0 true
  obtain ⟨q, hq, -⟩ := hstep {} registered live_initial rfl h
  have hmatched := Emission.matched_of_reaches live_initial h hq (ready_emitting hq) hreaches
  exact hmatched

/-- Whatever a query registers, its emission takes back. -/
theorem emission_takes_back (h : (Registration.elements s es).run {} = .ok ((), registered)) :
    TakesBack s format es registered := by
  refine ⟨?_, ?_, ?_⟩
  · intro address c visited hreaches
    obtain ⟨⟨reached, after, q', hthere, hlive', hrun, hq', hready'⟩, -⟩ :=
      matched_of_reaches_emitting h hreaches
    exact ⟨reached, after, hthere, hrun, hready'.current, hready'.takes hlive' hrun hq'⟩
  · intro err herr
    rw [← not_or]
    intro hstep
    obtain ⟨address, c, visited, hreaches, take, htake, hfails⟩ :=
      Emission.elements_error es hstep herr
    obtain ⟨⟨reached, after, q', -, hlive', hrun, hq', hready'⟩, -⟩ :=
      matched_of_reaches_emitting h hreaches
    obtain ⟨item, taken, -, -, htaken⟩ := hready'.takes hlive' hrun hq' take htake
    cases hfails.symm.trans htaken
  · intro passage state hrun
    have hstep : InStep 0 [] (Registration.elements s es) (Emission.elements s format true es) :=
      elements_inStep es 0 true
    obtain ⟨q, hq, hemit⟩ := hstep {} registered live_initial rfl h
    have hemitted := hemit _ passage state (ready_emitting hq) hrun
    have hqueued : registered.queued = q := hq.queued
    have hrest : state.queued = .nothing := by
      apply Queued.eq_nothing_of_append_eq_left
      exact hemitted.queued.symm.trans hqueued
    refine ⟨fun address c reached hreaches => Emission.reaches_of_ok hreaches hrun, ?_⟩
    exact ⟨congrArg Queued.subqueries hrest, congrArg Queued.autoJoins hrest,
      congrArg Queued.joinPaths hrest, hemitted.advances.current⟩

end

/-- Orders beside the visits of a derived table, with queries in the condition of the join and in
the condition of the statement. -/
def Sample.nestedOrders : List Element := [
  .select "Order" .full none, .fromTable "Order" none true,
  .join ⟨.left, .subquery "Visit" [.select "Visit" .nested none, .fromTable "Visit" none true] false,
    none, none, .template [.column ⟨"Visit", "id", none, .cascade⟩, .sql " IN ",
      .subquery [.select "Item" .pk none, .fromTable "Item" none true] true], true⟩,
  .condition (.template [.sql "EXISTS ",
    .subquery [.select "Customer" .nested none, .fromTable "Customer" none true] true])]

theorem emission_takes_back_nestedOrders :
    ∃ registered, (Registration.elements Sample.shop Sample.nestedOrders).run {} =
        .ok ((), registered) ∧
      TakesBack Sample.shop ⟨.ansi, true⟩ Sample.nestedOrders registered ∧
      ∃ result, (Emission.elements Sample.shop ⟨.ansi, true⟩ true Sample.nestedOrders).run
        registered.emitting = .ok result := by
  have hrun : ∃ walked, (Registration.elements Sample.shop Sample.nestedOrders).run {} =
      .ok walked ∧ ∃ result, (Emission.elements Sample.shop ⟨.ansi, true⟩ true
        Sample.nestedOrders).run walked.2.emitting = .ok result ∧ True := by
    decide +kernel
  obtain ⟨⟨_, registered⟩, hregister, result, hemit, -⟩ := hrun
  exact ⟨registered, hregister, emission_takes_back hregister, result, hemit⟩

end RelMap
