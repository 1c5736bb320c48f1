import RelMap.Proofs.Bounds.Access
import RelMap.Proofs.Scope.LaterBindings
import RelMap.Proofs.Statement.Captures
import RelMap.Proofs.Statement.Roots

/-!
# Sources of relation joins

Both walks look the source of a relation join up: registration for the path of the joined table, and
emission for the condition. In between more tables are bound, among them the joined one itself. The
root of a scope is found again all the same, and so is any source with a path in the current scope.
Any other reference finds its source again exactly if no table that it matches is bound later in the
scope of the source or in a nearer one.
-/

namespace RelMap

open Compiling Resolver

variable {s : Schema} {format : SqlFormat} {state state' : CompileState} {source : Option TableRef}
  {t : TableRef} {found : ScopeId × Occurrence}

/-! ## The reference to a source -/

/-- The reference by which the source of a relation join is found: the given one, or one to the root
of the scope. -/
def CompileState.sourceRef (state : CompileState) : Option TableRef → Option TableRef
  | some t => some t
  | none => (state.roots.lookup state.resolver.current).map fun root => ⟨root, some "", .inner⟩

theorem Compiling.relationSource_ok
    (h : (relationSource source).run state = .ok (found, state')) :
    ∃ t, state.sourceRef source = some t ∧
      state.resolver.findBinding t.entity t.path t.scope = .ok found ∧ state' = state := by
  unfold relationSource at h
  cases source with
  | some t =>
    obtain ⟨hfound, hstate⟩ := Compiling.findBinding_ok h
    exact ⟨t, rfl, hfound, hstate⟩
  | none =>
    obtain ⟨_, _, hget, h⟩ := StateT.bind_eq_ok h
    cases hget
    split at h
    · next root hroot =>
      obtain ⟨hfound, hstate⟩ := Compiling.findBinding_ok h
      exact ⟨⟨root, some "", .inner⟩, Option.map_eq_some_iff.mpr ⟨root, hroot, rfl⟩, hfound, hstate⟩
    · cases h

theorem Compiling.run_relationSource (ht : state.sourceRef source = some t) :
    (relationSource source).run state =
      ((state.resolver.findBinding t.entity t.path t.scope).mapError .aliasing).map (·, state) := by
  have hget : (get : Compiling CompileState).run state = .ok (state, state) := rfl
  unfold relationSource
  cases source with
  | some _ =>
    cases ht
    dsimp only
    unfold Compiling.findBinding
    rw [StateT.run_bind_of_ok hget]
    cases state.resolver.findBinding t.entity t.path t.scope <;> rfl
  | none =>
    obtain ⟨root, hroot, rfl⟩ := Option.map_eq_some_iff.mp ht
    dsimp only
    rw [StateT.run_bind_of_ok hget, hroot]
    unfold Compiling.findBinding
    rw [StateT.run_bind_of_ok hget]
    cases state.resolver.findBinding root (some "") .inner <;> rfl

theorem Compiling.run_relationSource_eq_ok_iff (ht : state.sourceRef source = some t) :
    (relationSource source).run state = .ok (found, state) ↔
      state.resolver.findBinding t.entity t.path t.scope = .ok found := by
  constructor
  · intro h
    obtain ⟨t', ht', hfound, -⟩ := relationSource_ok h
    cases ht.symm.trans ht'
    exact hfound
  · intro h
    rw [run_relationSource ht, h]
    rfl

theorem CompileState.KeepsRoots.sourceRef (h : state.KeepsRoots state')
    (hcurrent : state'.resolver.current = state.resolver.current)
    (ht : state.sourceRef source = some t) : state'.sourceRef source = some t := by
  cases source with
  | some _ => exact ht
  | none =>
    obtain ⟨root, hroot, rfl⟩ := Option.map_eq_some_iff.mp ht
    unfold CompileState.sourceRef
    rw [hcurrent, h _ root hroot]
    rfl

/-! ## Paths and conditions -/

def Registration.pathFrom (s : Schema) (target : Entity) (byName : String) (o : Occurrence) :
    Except SchemaError String := do
  let entity ← s.entity o.entity.name
  match s.findRelation entity target with
  | .ok relation =>
    if relation.child = entity.name then return Path.join o.path relation.fieldPath
    else return byName
  | .error _ => return byName

def Emission.conditionFrom (s : Schema) (format : SqlFormat) (auto : Bool) (target : Entity)
    (joined origin : ScopeId × Occurrence) : Compiling Passage := do
  let entity ← s.entity origin.2.entity.name
  let condition ← s.joinCondition entity origin.2.qualifier target joined.2.qualifier
  let sides ← joinSides auto origin joined
  return .referring sides (.ofText " ON " ++ condition.render format)

theorem Registration.joinedPath_relation_ok {target : Entity} {aliasName : Option String}
    {path : String}
    (h : (joinedPath s target aliasName none (.relation source)).run state = .ok (path, state')) :
    ∃ found, (relationSource source).run state = .ok (found, state) ∧
      pathFrom s target (aliasName.getD target.table) found.2 = .ok path := by
  unfold joinedPath at h
  obtain ⟨found, located, hsource, h⟩ := StateT.bind_eq_ok h
  obtain ⟨t, -, -, hlocated⟩ := relationSource_ok hsource
  rw [hlocated] at hsource
  refine ⟨found, hsource, ?_⟩
  obtain ⟨entity, hentity, h⟩ := lift_bind_ok (x := s.entity found.2.entity.name) h
  obtain ⟨candidates, hcandidates, h⟩ := lift_bind_ok (x := s.candidates entity target) h
  rw [Schema.candidates_eq_ok] at hcandidates
  cases hcandidates
  unfold pathFrom
  rw [hentity]
  dsimp only [bind, Except.bind] at h ⊢
  rw [Schema.findRelation_eq_choose]
  cases hrelation : Schema.choose entity.name target.name _ with
  | ok relation =>
    rw [hrelation] at h
    dsimp only at h ⊢
    split at h <;> next hchild =>
      cases h
      simp only [hchild, if_true, if_false]
      rfl
  | error _ =>
    rw [hrelation] at h
    cases h
    rfl

theorem Emission.run_emitRelation_of_source {auto : Bool} {target : Entity}
    {joined : ScopeId × Occurrence} (h : (relationSource source).run state = .ok (found, state)) :
    (emitRelation s format auto target joined source).run state =
      (conditionFrom s format auto target joined found).run state :=
  StateT.run_bind_of_ok h

/-! ## Both walks -/

/-- What the walks find for the source of a relation join: registration at `reached`, and emission at
`bound`, when it has taken the path of the joined table. -/
structure JoinSource (s : Schema) (format : SqlFormat) (j : JoinElement)
    (source : Option TableRef) (path : String) (reached bound : CompileState) (t : TableRef)
    (scope : ScopeId) (o : Occurrence) : Prop where
  /-- Both look it up by the same reference and from the same scope. -/
  current : bound.resolver.current = reached.resolver.current
  sought : reached.sourceRef source = some t ∧ bound.sourceRef source = some t
  registered : (relationSource source).run reached = .ok ((scope, o), reached)
  /-- The path of the joined table is derived from what registration has found. -/
  path : ∃ e, s.entity? j.target.entityName = some e ∧
    Registration.pathFrom s e (j.aliasName.getD e.table) o = .ok path
  /-- Emission finds it again, exactly if no match is bound later where it would be found. -/
  again_iff : (relationSource source).run bound = .ok ((scope, o), bound) ↔
    reached.resolver.Undisturbed bound.resolver t.entity t.path t.scope scope
  /-- Then the condition is derived from it as well. -/
  condition : reached.resolver.Undisturbed bound.resolver t.entity t.path t.scope scope →
    ∀ e joined, (Emission.emitRelation s format j.auto e joined source).run bound =
      (Emission.conditionFrom s format j.auto e joined (scope, o)).run bound
  /-- Otherwise it takes a table that a nearer scope has bound later, or does not know which. -/
  emitted : (relationSource source).run bound = .ok ((scope, o), bound) ∨
    (∃ inner ∈ reached.resolver.nearer t.scope scope,
      ∃ later ∈ reached.resolver.boundSince bound.resolver inner,
        (relationSource source).run bound = .ok ((inner, later), bound)) ∨
    ∃ paths, (relationSource source).run bound = .error (.aliasing (.ambiguous t.entity paths))
  /-- The root of the scope and places in it are always found again. -/
  settled : source = none ∨ t.path.isSome = true ∧ t.scope = .inner →
    reached.resolver.Undisturbed bound.resolver t.entity t.path t.scope scope

section

variable {reached bound : CompileState} {path : String} {scope : ScopeId} {o : Occurrence}

theorem joinSource_of_bindsMore {j : JoinElement} {e : Entity}
    (hcurrent : bound.resolver.current = reached.resolver.current)
    (hroots : reached.KeepsRoots bound) (hmore : reached.resolver.BindsMore bound.resolver)
    (hplaces : bound.resolver.PlacesDistinct)
    (hsource : (relationSource source).run reached = .ok ((scope, o), reached))
    (hentity : s.entity? j.target.entityName = some e)
    (hpath : Registration.pathFrom s e (j.aliasName.getD e.table) o = .ok path) :
    ∃ t, JoinSource s format j source path reached bound t scope o := by
  obtain ⟨t, ht, hfound, -⟩ := relationSource_ok hsource
  have ht' := hroots.sourceRef hcurrent ht
  have hiff : (relationSource source).run bound = .ok ((scope, o), bound) ↔
      reached.resolver.Undisturbed bound.resolver t.entity t.path t.scope scope :=
    (run_relationSource_eq_ok_iff ht').trans (hmore.findBinding_again_iff hfound)
  refine ⟨t, hcurrent, ⟨ht, ht'⟩, hsource, ⟨e, hentity, hpath⟩, hiff, ?_, ?_, ?_⟩
  · intro hundisturbed e joined
    exact Emission.run_emitRelation_of_source (hiff.mpr hundisturbed)
  · rcases hmore.findBinding_again_cases hfound with h | ⟨inner, hinner, later, hlater, h⟩ |
      ⟨paths, h⟩
    · exact .inl ((run_relationSource_eq_ok_iff ht').mpr h)
    · have hrun := (run_relationSource_eq_ok_iff ht').mpr h
      exact .inr (.inl ⟨inner, hinner, later, hlater, hrun⟩)
    · refine .inr (.inr ⟨paths, ?_⟩)
      rw [run_relationSource ht', h]
      rfl
  · rintro (rfl | ⟨hpath, hinner⟩)
    · obtain ⟨root, -, rfl⟩ := Option.map_eq_some_iff.mp ht
      exact hmore.undisturbed_of_inner hfound hplaces rfl rfl
    · obtain ⟨p, hp⟩ := Option.isSome_iff_exists.mp hpath
      exact hmore.undisturbed_of_inner hfound hplaces hp hinner

end

/-- For a relation join without a path both walks look for the same source, and registration derives
the path of the joined table from the one that it finds. Emission finds the same one, and derives the
condition from it, exactly if no table that the reference matches is bound later in the scope of the
source or in a nearer one. -/
theorem relation_sources_found_again {es : List Element} {registered visited : CompileState}
    (h : (Registration.elements s es).run {} = .ok ((), registered)) {address : List Nat}
    {j : JoinElement}
    (hreaches : (Emission.walk s format).Reaches es registered.emitting address (.joined j) visited)
    (hpath : j.path = none) (hon : j.onClause = .relation source) :
    ∃ reached path bound t scope o,
      (Registration.walk s).Reaches es {} address (.joined j) reached ∧
      nextJoinPath.run visited = .ok (path, bound) ∧
      JoinSource s format j source path reached bound t scope o := by
  obtain ⟨⟨reached, after, q, hreached, hlive, hrun, hq, hready⟩, hsame⟩ :=
    matched_of_reaches_emitting h hreaches
  -- registration of the joined table
  rw [Construct.register, hpath, hon] at hrun
  obtain ⟨e, path, located, hentity, hjoined, hregistered⟩ := Registration.registerJoined_ok hrun
  obtain ⟨⟨scope, o⟩, hsource, hderived⟩ := Registration.joinedPath_relation_ok hjoined
  -- its path is next in the queue
  cases hq.unique hregistered
  obtain ⟨others, hothers⟩ := hready.queued
  have hnext := run_nextJoinPath (congrArg Queued.joinPaths hothers)
  -- what is bound from there on
  have haround : ∃ done, Registration.Around s (fun _ => True) {} registered _ reached done :=
    Registration.around_of_reaches hreached true (.inside live_initial) (.inl fun _ => trivial) h
  obtain ⟨done, hdone⟩ := haround
  have hnested := hdone.first.wellNested wellNested_initial
  have hbind : Steps (fun _ => True) reached.resolver done.resolver :=
    Registration.registerJoined_steps (.inr trivial) hdone.run
  have hmore : reached.resolver.BindsMore visited.resolver :=
    .of_steps (hbind.trans hdone.last) hnested hsame hready.current
  have hplaces : visited.resolver.PlacesDistinct := by
    intro scope
    rw [hsame.occurrences]
    exact placesDistinct_of_registers h scope
  have hkept : registered.KeepsRoots registered.emitting := .of_roots rfl
  have hroots := ((Registration.keepsRoots_of_reaches hreached h).trans hkept).trans
    (Emission.keepsRoots_of_reaches hreaches)
  have hsources : ∃ t, JoinSource s format j source path reached
      { visited with joinPaths := others.joinPaths } t scope o :=
    joinSource_of_bindsMore hready.current hroots hmore hplaces hsource hentity hderived
  obtain ⟨t, ht⟩ := hsources
  exact ⟨reached, path, _, t, scope, o, hreached, hnext, ht⟩

/-! ## Customers and bosses -/

namespace Sample

/-- A join of customers with the only orders that are found, or with the root. -/
def joinCustomer (source : Option TableRef) : JoinElement :=
  ⟨.inner, .entity "Customer", none, none, .relation source, false⟩

def anyOrder : TableRef := ⟨"Order", none, .cascade⟩

/-- Orders with their customers, joined from the root. -/
def customersOfOrders : List Element := [
  .select "Order" .nested none, .fromTable "Order" none false, .join (joinCustomer none)]

/-- The customer is joined from the orders around, and more orders come in after that. -/
def ordersAroundOrders : List Element := [
  .sql "SELECT * ", .fromTable "Order" none false, .sql " WHERE EXISTS ",
  .subquery [.sql "SELECT 1 ", .fromTable "Item" none false, .join (joinCustomer anyOrder),
    .sql ", ", .table "Order" none none] true]

def anyPerson : TableRef := ⟨"Person", none, .cascade⟩

def joinBoss : JoinElement :=
  ⟨.inner, .entity "Person", none, none, .relation anyPerson, false⟩

def bosses : List Element := [
  .sql "SELECT * ", .fromTable "Person" none false, .join joinBoss]

end Sample

theorem relation_sources_found_again_customersOfOrders :
    ∃ registered visited,
      (Registration.elements Sample.shop Sample.customersOfOrders).run {} = .ok ((), registered) ∧
      (Emission.walk Sample.shop ⟨.ansi, true⟩).Reaches Sample.customersOfOrders
        registered.emitting [2, 1] (.joined (Sample.joinCustomer none)) visited ∧
      ∃ path bound scope o, nextJoinPath.run visited = .ok (path, bound) ∧
        (relationSource none).run bound = .ok ((scope, o), bound) ∧
        ∃ reached t, JoinSource Sample.shop ⟨.ansi, true⟩ (Sample.joinCustomer none) none path
          reached bound t scope o := by
  have hrun : ∃ walked, (Registration.elements Sample.shop Sample.customersOfOrders).run {} =
        .ok walked ∧
      ∃ listed, (Emission.element Sample.shop ⟨.ansi, true⟩ false
          (.select "Order" .nested none)).run walked.2.emitting = .ok listed ∧
      ∃ rooted, (Emission.element Sample.shop ⟨.ansi, true⟩ true
          (.fromTable "Order" none false)).run listed.2 = .ok rooted ∧ True := by
    decide +kernel
  obtain ⟨⟨_, registered⟩, hregister, listed, hlisted, rooted, hrooted, -⟩ := hrun
  have hreaches : (Emission.walk Sample.shop ⟨.ansi, true⟩).Reaches Sample.customersOfOrders
      registered.emitting [2, 1] (.joined (Sample.joinCustomer none)) rooted.2 :=
    .later ⟨_, _, hlisted⟩ (.later ⟨_, _, hrooted⟩ (.joined ⟨_, rfl⟩))
  obtain ⟨reached, path, bound, t, scope, o, -, hnext, hsource⟩ :=
    relation_sources_found_again hregister hreaches rfl rfl
  exact ⟨registered, _, hregister, hreaches, path, bound, scope, o, hnext,
    hsource.again_iff.mpr (hsource.settled (.inl rfl)), reached, t, hsource⟩

/-! ### Sources that are lost -/

/-- Both walks get to the join. Registration finds its source and queues the path, and emission is
about to look for the source again. -/
def LooksAgain (s : Schema) (es : List Element) (address : List Nat) (j : JoinElement)
    (t : TableRef) (found : ScopeId × Occurrence) (path : String) (bound : CompileState) : Prop :=
  ∃ registered reached visited, (Registration.elements s es).run {} = .ok ((), registered) ∧
    (Registration.walk s).Reaches es {} address (.joined j) reached ∧
    (relationSource (some t)).run reached = .ok (found, reached) ∧
    (Emission.walk s ⟨.ansi, true⟩).Reaches es registered.emitting address (.joined j) visited ∧
    nextJoinPath.run visited = .ok (path, bound)

theorem Sample.looksAgain_ordersAroundOrders : ∃ bound,
    LooksAgain shop ordersAroundOrders [3, 2, 1] (joinCustomer anyOrder) anyOrder
      (0, ⟨(ofCustomer "Order").toEntityInfo, "", "_o"⟩) "customer" bound ∧
    (relationSource (some anyOrder)).run bound =
      .ok ((1, ⟨(ofCustomer "Order").toEntityInfo, "", "_o1"⟩), bound) := by
  let orders := (ofCustomer "Order").toEntityInfo
  have hwalk : ∃ rooted, (Registration.element shop (.fromTable "Order" none false)).run {} =
        .ok rooted ∧
      ∃ opened, (Registration.element shop (.fromTable "Item" none false)).run
          (rooted.2.opened true) = .ok opened ∧
        opened.2.resolver.findBinding "Order" none .cascade = .ok (0, ⟨orders, "", "_o"⟩) := by
    decide +kernel
  obtain ⟨⟨_, rooted⟩, hrooted, ⟨_, reached⟩, hopened, hfound⟩ := hwalk
  have hvisit : ∃ walked, (Registration.elements shop ordersAroundOrders).run {} = .ok walked ∧
      ∃ rooted, (Emission.element shop ⟨.ansi, true⟩ false (.fromTable "Order" none false)).run
          walked.2.emitting = .ok rooted ∧ rooted.2.subqueries = [1] ∧
      ∃ opened, (Emission.element shop ⟨.ansi, true⟩ false (.fromTable "Item" none false)).run
          (rooted.2.entered 1 []) = .ok opened ∧
      ∃ taken, nextJoinPath.run opened.2 = .ok taken ∧ taken.1 = "customer" ∧
        taken.2.resolver.findBinding "Order" none .cascade = .ok (1, ⟨orders, "", "_o1"⟩) := by
    decide +kernel
  obtain ⟨⟨_, registered⟩, hregister, rooted', hrooted', hqueue, opened, hopened', ⟨_, bound⟩, htaken,
    rfl, hagain⟩ := hvisit
  have hsought (state : CompileState) : state.sourceRef (some anyOrder) = some anyOrder := rfl
  refine ⟨bound, ⟨registered, reached, opened.2, hregister, ?_,
    (run_relationSource_eq_ok_iff (hsought _)).mpr hfound, ?_, htaken⟩,
    (run_relationSource_eq_ok_iff (hsought _)).mpr hagain⟩
  · exact .later rfl (.later hrooted (.later rfl (.subquery rfl
      (.later rfl (.later hopened (.joined rfl))))))
  · exact .later ⟨true, _, rfl⟩ (.later ⟨_, _, hrooted'⟩ (.later ⟨true, _, rfl⟩
      (.subquery ⟨1, [], hqueue, rfl⟩ (.later ⟨true, _, rfl⟩ (.later ⟨_, _, hopened'⟩
        (.joined ⟨_, rfl⟩))))))

theorem Sample.looksAgain_bosses : ∃ bound paths,
    LooksAgain schema bosses [2, 1] joinBoss anyPerson (0, ⟨person.toEntityInfo, "", "_p"⟩) "boss"
      bound ∧
    (relationSource (some anyPerson)).run bound =
      .error (.aliasing (.ambiguous "Person" paths)) := by
  have hwalk : ∃ rooted, (Registration.element schema (.fromTable "Person" none false)).run {} =
        .ok rooted ∧
      rooted.2.resolver.findBinding "Person" none .cascade =
        .ok (0, ⟨person.toEntityInfo, "", "_p"⟩) := by
    decide +kernel
  obtain ⟨⟨_, reached⟩, hrooted, hfound⟩ := hwalk
  have hvisit : ∃ walked, (Registration.elements schema bosses).run {} = .ok walked ∧
      ∃ rooted, (Emission.element schema ⟨.ansi, true⟩ false (.fromTable "Person" none false)).run
          walked.2.emitting = .ok rooted ∧
      ∃ taken, nextJoinPath.run rooted.2 = .ok taken ∧ taken.1 = "boss" ∧
        taken.2.resolver.nearest? "Person" none .cascade = some 0 ∧
        2 ≤ ((taken.2.resolver.occurrences 0).filter (isAt "Person" none)).length := by
    decide +kernel
  obtain ⟨⟨_, registered⟩, hregister, rooted', hrooted', ⟨_, bound⟩, htaken, rfl, hnearest,
    hseveral⟩ := hvisit
  have hagain : ∃ paths, bound.resolver.findBinding "Person" none .cascade =
      .error (.ambiguous "Person" paths) := by
    rw [findBinding_of_nearest? hnearest, answerIn]
    split
    · next honly =>
      rw [honly] at hseveral
      exact absurd hseveral (Nat.not_succ_le_self 1)
    · exact ⟨_, rfl⟩
  obtain ⟨paths, hagain⟩ := hagain
  have hsought (state : CompileState) : state.sourceRef (some anyPerson) = some anyPerson := rfl
  refine ⟨bound, paths, ⟨registered, reached, rooted'.2, hregister, ?_,
    (run_relationSource_eq_ok_iff (hsought _)).mpr hfound, ?_, htaken⟩, ?_⟩
  · exact .later rfl (.later hrooted (.joined rfl))
  · exact .later ⟨true, _, rfl⟩ (.later ⟨_, _, hrooted'⟩ (.joined ⟨_, rfl⟩))
  · rw [run_relationSource (hsought _)]
    dsimp only [anyPerson]
    rw [hagain]
    rfl

/-- The orders that come in later are nearer, so the condition is about them, and not about those
that the path is derived from. The boss is a person as well, so that there are two when the source
is looked up again. -/
theorem exists_lost_source :
    Sample.shopSpec.toSchema = .ok Sample.shop ∧
    (∃ bound, LooksAgain Sample.shop Sample.ordersAroundOrders [3, 2, 1]
        (Sample.joinCustomer Sample.anyOrder) Sample.anyOrder
        (0, ⟨(Sample.ofCustomer "Order").toEntityInfo, "", "_o"⟩) "customer" bound ∧
      (relationSource (some Sample.anyOrder)).run bound =
        .ok ((1, ⟨(Sample.ofCustomer "Order").toEntityInfo, "", "_o1"⟩), bound)) ∧
    Sample.spec.toSchema = .ok Sample.schema ∧
    ∃ bound paths, LooksAgain Sample.schema Sample.bosses [2, 1] Sample.joinBoss Sample.anyPerson
        (0, ⟨Sample.person.toEntityInfo, "", "_p"⟩) "boss" bound ∧
      (relationSource (some Sample.anyPerson)).run bound =
        .error (.aliasing (.ambiguous "Person" paths)) :=
  ⟨Sample.toSchema_shopSpec, Sample.looksAgain_ordersAroundOrders, Sample.toSchema_spec,
    Sample.looksAgain_bosses⟩

end RelMap
