import RelMap.Proofs.Statement.Visits

/-!
# The roots of scopes

The root of a scope is the first table that is registered there. No table that comes later takes its
place, and emission does not touch the roots at all.
-/

namespace RelMap

open Compiling

variable {α β : Type} {state state' state'' : CompileState}

def CompileState.KeepsRoots (state state' : CompileState) : Prop :=
  ∀ scope root, state.roots.lookup scope = some root → state'.roots.lookup scope = some root

namespace CompileState.KeepsRoots

theorem of_roots (h : state'.roots = state.roots) : state.KeepsRoots state' := by
  intro scope root hroot
  rw [h]
  exact hroot

theorem trans (h : state.KeepsRoots state') (h' : state'.KeepsRoots state'') :
    state.KeepsRoots state'' := fun scope root hroot => h' scope root (h scope root hroot)

end CompileState.KeepsRoots

/-- From every state, the scopes that have a root keep it. -/
def Compiling.KeepsRoots (x : Compiling α) : Prop :=
  ∀ state a state', x.run state = .ok (a, state') → state.KeepsRoots state'

namespace Compiling.KeepsRoots

theorem pure (a : α) : KeepsRoots (pure a : Compiling α) := by
  intro state b state' h
  cases h
  exact .of_roots rfl

theorem throw (e : Error) : KeepsRoots (throw e : Compiling α) := by
  intro state b state' h
  cases h

theorem lift (x : Except Error α) : KeepsRoots (StateT.lift x : Compiling α) := by
  intro state b state' h
  obtain ⟨-, rfl⟩ := StateT.lift_eq_ok h
  exact .of_roots rfl

theorem get : KeepsRoots (get : Compiling CompileState) := by
  intro state b state' h
  cases h
  exact .of_roots rfl

theorem modify {f : CompileState → CompileState}
    (hf : ∀ state : CompileState, state.KeepsRoots (f state)) :
    KeepsRoots (modify f : Compiling PUnit) := by
  intro state b state' h
  cases h
  exact hf state

theorem bind {x : Compiling α} {f : α → Compiling β} (hx : KeepsRoots x)
    (hf : ∀ a, KeepsRoots (f a)) : KeepsRoots (x >>= f) := by
  intro state b state' h
  obtain ⟨a, between, hrun, h⟩ := StateT.bind_eq_ok h
  exact (hx state a between hrun).trans (hf a between b state' h)

theorem throw_bind (e : Error) (f : α → Compiling β) :
    KeepsRoots (MonadExcept.throw e >>= f) := by
  intro state b state' h
  obtain ⟨_, _, h0, -⟩ := StateT.bind_eq_ok h
  cases h0

theorem mapM {f : α → Compiling β} (hf : ∀ a, KeepsRoots (f a)) (items : List α) :
    KeepsRoots (items.mapM f) := by
  induction items with
  | nil =>
    rw [List.mapM_nil]
    exact pure []
  | cons a rest ih =>
    rw [List.mapM_cons]
    exact (hf a).bind fun _ => ih.bind fun _ => pure _

theorem onResolver (x : Resolving Error α) : KeepsRoots (onResolver x) := by
  intro state a state' h
  obtain ⟨r, -, rfl⟩ := onResolver_ok h
  exact .of_roots rfl

theorem resolving (x : Resolving AliasError α) : KeepsRoots (resolving x) := onResolver _

theorem modifyResolver (f : Resolver → Resolver) : KeepsRoots (modifyResolver f) :=
  modify fun _ => .of_roots rfl

theorem currentScope : KeepsRoots currentScope := get.bind fun _ => pure _

theorem findBinding (entity : EntityName) (path : Option String) (filter : ScopeFilter) :
    KeepsRoots (findBinding entity path filter) := get.bind fun _ => lift _

theorem mention (found : ScopeId × Occurrence) (filter : ScopeFilter) :
    KeepsRoots (mention found filter) := (resolving _).bind fun _ => pure _

theorem resolveColumn (s : Schema) (c : ColumnRef) : KeepsRoots (resolveColumn s c) :=
  onResolver _

theorem relationSource (source : Option TableRef) : KeepsRoots (relationSource source) := by
  unfold Compiling.relationSource
  cases source with
  | some t => exact findBinding _ _ _
  | none =>
    apply get.bind
    intro state
    split
    · exact findBinding _ _ _
    · exact throw _

theorem nextSubquery : KeepsRoots nextSubquery := by
  intro state scope state' h
  obtain ⟨rest, -, rfl⟩ := nextSubquery_ok h
  exact .of_roots rfl

theorem nextJoinPath : KeepsRoots nextJoinPath := by
  intro state path state' h
  obtain ⟨rest, -, rfl⟩ := nextJoinPath_ok h
  exact .of_roots rfl

theorem nextAutoJoins : KeepsRoots nextAutoJoins := by
  intro state joins state' h
  unfold Compiling.nextAutoJoins at h
  obtain ⟨_, _, hget, h⟩ := StateT.bind_eq_ok h
  cases hget
  split at h <;> cases h <;> exact .of_roots rfl

end Compiling.KeepsRoots

/-! ## Registration -/

namespace Registration

variable {s : Schema}

theorem registerTable_keepsRoots (entity : EntityInfo) (aliasName : Option String) (path : String) :
    KeepsRoots (registerTable s entity aliasName path) := by
  apply KeepsRoots.bind
  · cases aliasName with
    | none => exact .resolving _
    | some aliasName => exact (KeepsRoots.resolving _).bind fun _ => .pure _
  intro bound
  refine KeepsRoots.bind (.modify fun state => ?_) fun _ => .pure _
  dsimp only
  split
  · exact .of_roots rfl
  · intro scope root hroot
    rw [List.lookup_append, hroot]
    rfl

theorem planRelation_keepsRoots (source : PlannedTable) (relation : Relation) (parent : Entity) :
    KeepsRoots (planRelation s source relation parent) := by
  apply (KeepsRoots.resolving _).bind
  intro aliasName
  apply (KeepsRoots.lift _).bind
  intro condition
  apply KeepsRoots.bind
  · unfold noteSource
    split
    · exact (KeepsRoots.modifyResolver _).bind fun _ => .pure _
    · exact .pure _
  intro holder
  exact KeepsRoots.currentScope.bind fun _ => .pure _

mutual

theorem planField_keepsRoots {source : PlannedTable} {inlinePath : String} {start : Nat}
    (f : Field) : KeepsRoots (planField s source inlinePath start f) := by
  cases f with
  | scalar info typ | ref info target key | converted info converter => exact .pure _
  | inline info target fields => exact planFields_keepsRoots fields
  | foreignKey info target key fields =>
    rw [planField]
    apply (KeepsRoots.lift _).bind
    intro relation
    apply (planRelation_keepsRoots _ _ _).bind
    intro join
    apply (KeepsRoots.lift _).bind
    intro relations
    exact (planFields_keepsRoots fields).bind fun _ => .pure _
termination_by structural f

theorem planFields_keepsRoots {source : PlannedTable} {inlinePath : String} {start : Nat}
    (fields : List Field) : KeepsRoots (planFields s source inlinePath start fields) := by
  cases fields with
  | nil => exact .pure _
  | cons f rest =>
    rw [planFields]
    exact (planField_keepsRoots f).bind fun _ => (planFields_keepsRoots rest).bind fun _ => .pure _
termination_by structural fields

end

theorem registerFrom_keepsRoots (entity : Entity) (aliasName : Option String) (autoJoin : Bool) :
    KeepsRoots (registerFrom s entity aliasName autoJoin) := by
  apply (registerTable_keepsRoots _ _ _).bind
  intro bound
  cases autoJoin with
  | false => exact .pure _
  | true =>
    apply (KeepsRoots.lift _).bind
    intro relations
    exact (planFields_keepsRoots _).bind fun _ => .modify fun _ => .of_roots rfl

theorem joinedPath_keepsRoots (target : Entity) (aliasName path : Option String)
    (onClause : JoinOn) : KeepsRoots (joinedPath s target aliasName path onClause) := by
  unfold joinedPath
  cases path with
  | some path => exact .pure _
  | none =>
    cases onClause with
    | template inner | none => exact .pure _
    | relation source =>
      apply (KeepsRoots.relationSource source).bind
      intro found
      apply (KeepsRoots.lift _).bind
      intro entity
      apply (KeepsRoots.lift _).bind
      intro candidates
      split
      · split <;> exact .pure _
      · exact .pure _

theorem registerJoined_keepsRoots (entity : EntityName) (aliasName path : Option String)
    (onClause : JoinOn) : KeepsRoots (registerJoined s entity aliasName path onClause) := by
  apply (KeepsRoots.lift _).bind
  intro e
  apply (joinedPath_keepsRoots e aliasName path onClause).bind
  intro path'
  apply (registerTable_keepsRoots _ _ _).bind
  intro bound
  exact .modify fun _ => .of_roots rfl

theorem inNewScope_keepsRoots {correlated : Bool} {body : Compiling Unit} (h : KeepsRoots body) :
    KeepsRoots (inNewScope correlated body) := by
  apply (KeepsRoots.modifyResolver _).bind
  intro _
  apply KeepsRoots.currentScope.bind
  intro scope
  refine KeepsRoots.bind (.modify fun state => ?_) fun _ => h.bind fun _ => .modifyResolver _
  exact .of_roots rfl

theorem table_keepsRoots (name : EntityName) (aliasName : Option String) (path : String) :
    KeepsRoots (do
      let e ← s.entity name
      let _ ← registerTable s e.toEntityInfo aliasName path : Compiling Unit) := by
  apply (KeepsRoots.lift _).bind
  intro e
  exact (registerTable_keepsRoots _ _ _).bind fun _ => .pure _

mutual

theorem element_keepsRoots (e : Element) : KeepsRoots (element s e) := by
  cases e with
  | sql _ | select _ _ _ | aliasOf _ | column _ | values _ | set _ | param _ => exact .pure _
  | fromTable name aliasName autoJoin =>
    rw [element]
    exact (KeepsRoots.lift _).bind fun e => registerFrom_keepsRoots e aliasName autoJoin
  | table name aliasName path =>
    rw [element]
    exact table_keepsRoots _ _ _
  | insert name | update name aliasName | delete name aliasName =>
    rw [element]
    exact table_keepsRoots _ _ _
  | join j => exact join_keepsRoots j
  | subquery inner correlated => exact inNewScope_keepsRoots (elements_keepsRoots inner)
  | condition clause => exact condition_keepsRoots clause
termination_by structural e

theorem elements_keepsRoots (es : List Element) : KeepsRoots (elements s es) := by
  cases es with
  | nil => exact .pure _
  | cons e rest =>
    rw [elements]
    exact (element_keepsRoots e).bind fun _ => elements_keepsRoots rest
termination_by structural es

theorem join_keepsRoots (j : JoinElement) : KeepsRoots (join s j) := by
  obtain ⟨kind, target, aliasName, path, onClause, auto⟩ := j
  rw [join]
  apply (joinTarget_keepsRoots target).bind
  intro _
  apply (registerJoined_keepsRoots _ _ _ _).bind
  intro _
  exact joinOn_keepsRoots onClause
termination_by structural j

theorem joinTarget_keepsRoots (t : JoinTarget) : KeepsRoots (joinTarget s t) := by
  cases t with
  | entity entity => exact .pure _
  | subquery entity inner correlated => exact inNewScope_keepsRoots (elements_keepsRoots inner)
termination_by structural t

theorem joinOn_keepsRoots (onClause : JoinOn) : KeepsRoots (joinOn s onClause) := by
  cases onClause with
  | relation source | none => exact .pure _
  | template inner => exact elements_keepsRoots inner
termination_by structural onClause

theorem condition_keepsRoots (clause : WhereClause) : KeepsRoots (condition s clause) := by
  cases clause with
  | object target operator operands => exact .pure _
  | template inner => exact elements_keepsRoots inner
termination_by structural clause

end

theorem joined_keepsRoots (entity : EntityName) (aliasName path : Option String)
    (onClause : JoinOn) : KeepsRoots (do
      registerJoined s entity aliasName path onClause
      joinOn s onClause) :=
  (registerJoined_keepsRoots entity aliasName path onClause).bind fun _ =>
    joinOn_keepsRoots onClause

/-- What registration knows when it reaches a construct it still knows in the end. -/
theorem keepsRoots_of_reaches {es : List Element} {before reached after : CompileState}
    {address : List Nat} {c : Construct} (hreaches : (walk s).Reaches es before address c reached)
    (h : (elements s es).run before = .ok ((), after)) : reached.KeepsRoots after := by
  -- the rest of the elements, after the one on the way to the construct
  have hcons {e : Element} {rest : List Element} {before after : CompileState}
      (h : (elements s (e :: rest)).run before = .ok ((), after)) :
      ∃ between, (element s e).run before = .ok ((), between) ∧
        (elements s rest).run between = .ok ((), after) ∧ between.KeepsRoots after := by
    rw [elements] at h
    obtain ⟨_, between, hfirst, hrest⟩ := StateT.bind_eq_ok h
    exact ⟨between, hfirst, hrest, elements_keepsRoots rest _ _ _ hrest⟩
  induction hreaches generalizing after with
  | here e rest before => exact elements_keepsRoots _ _ _ _ h
  | later helement hrest ih =>
    obtain ⟨between, hfirst, hothers, -⟩ := hcons h
    cases hfirst.symm.trans helement
    exact ih hothers
  | subquery henter hinner ih =>
    obtain ⟨between, hfirst, -, hlast⟩ := hcons h
    cases henter
    rw [element] at hfirst
    obtain ⟨walked, hbody, rfl⟩ := inNewScope_ok hfirst
    exact (ih hbody).trans hlast
  | condition hinner ih =>
    obtain ⟨between, hfirst, -, hlast⟩ := hcons h
    exact (ih hfirst).trans hlast
  | derived kind entity inner rest correlated aliasName path onClause auto before =>
    exact elements_keepsRoots _ _ _ _ h
  | @inDerived _ entity _ _ _ aliasName path onClause _ _ _ _ _ _ henter hinner ih =>
    obtain ⟨between, hfirst, -, hlast⟩ := hcons h
    rw [element, join] at hfirst
    obtain ⟨_, located, htarget, hfirst⟩ := StateT.bind_eq_ok hfirst
    cases henter
    rw [joinTarget] at htarget
    obtain ⟨walked, hbody, rfl⟩ := inNewScope_ok htarget
    have hjoined := joined_keepsRoots entity aliasName path onClause _ _ _ hfirst
    exact ((ih hbody).trans hjoined).trans hlast
  | @joined j _ _ _ htarget =>
    obtain ⟨kind, target, aliasName, path, onClause, auto⟩ := j
    obtain ⟨between, hfirst, -, hlast⟩ := hcons h
    rw [element, join] at hfirst
    obtain ⟨_, located, hrun, hfirst⟩ := StateT.bind_eq_ok hfirst
    cases hrun.symm.trans htarget
    have hjoined := joined_keepsRoots target.entityName aliasName path onClause _ _ _ hfirst
    exact hjoined.trans hlast
  | on htarget hjoined hinner ih =>
    obtain ⟨between, hfirst, -, hlast⟩ := hcons h
    rw [element, join] at hfirst
    obtain ⟨_, located, hrun, hfirst⟩ := StateT.bind_eq_ok hfirst
    cases hrun.symm.trans htarget
    obtain ⟨_, bound, hrun, hon⟩ := StateT.bind_eq_ok hfirst
    cases hrun.symm.trans hjoined
    rw [joinOn] at hon
    exact (ih hon).trans hlast

end Registration

/-! ## Clauses -/

variable {s : Schema} {format : SqlFormat}

namespace Select

mutual

theorem fullField_keepsRoots {naming : NamingStrategy} {host : Host} {inlinePath : String}
    {start : Nat} (f : Field) : KeepsRoots (fullField naming host inlinePath start f) := by
  cases f with
  | scalar info typ | ref info target key | converted info converter => exact .pure _
  | inline info target fields => exact fullFields_keepsRoots fields
  | foreignKey info target key fields =>
    apply (KeepsRoots.findBinding _ _ _).bind
    intro found
    apply (KeepsRoots.mention found _).bind
    intro m
    exact fullFields_keepsRoots fields
termination_by structural f

theorem fullFields_keepsRoots {naming : NamingStrategy} {host : Host} {inlinePath : String}
    {start : Nat} (fields : List Field) :
    KeepsRoots (fullFields naming host inlinePath start fields) := by
  cases fields with
  | nil => exact .pure _
  | cons f rest =>
    exact (fullField_keepsRoots f).bind fun _ => (fullFields_keepsRoots rest).bind fun _ => .pure _
termination_by structural fields

end

theorem emit_keepsRoots (entity : EntityName) (mode : SelectMode) (path : Option String) :
    KeepsRoots (emit s format entity mode path) := by
  refine KeepsRoots.bind ?_ fun _ => .pure _
  apply (KeepsRoots.findBinding _ _ _).bind
  intro found
  apply (KeepsRoots.lift _).bind
  intro e
  apply (KeepsRoots.mention found _).bind
  intro m
  cases mode with
  | pk => exact (KeepsRoots.lift _).bind fun _ => .pure _
  | nested => exact .pure _
  | full => exact fullFields_keepsRoots _

end Select

namespace Condition

theorem objectPredicate_keepsRoots (target : ConditionTarget) (operator : Operator)
    (operands : List FieldValue) :
    KeepsRoots (objectPredicate s target operator operands) := by
  apply (KeepsRoots.lift _).bind
  intro _
  refine KeepsRoots.bind ?_ fun _ => (KeepsRoots.lift _).bind fun _ => .pure _
  unfold comparison
  cases target with
  | column c =>
    apply (KeepsRoots.resolveColumn s c).bind
    intro binding
    apply (KeepsRoots.lift _).bind
    intro field
    exact (KeepsRoots.mapM (fun _ => .lift _) operands).bind fun _ => .pure _
  | entity t =>
    apply (KeepsRoots.lift _).bind
    intro e
    apply (KeepsRoots.findBinding _ _ _).bind
    intro found
    apply (KeepsRoots.mention found _).bind
    intro m
    split
    · exact .throw _
    · apply (KeepsRoots.mapM (fun _ => .lift _) operands).bind
      intro values
      exact (KeepsRoots.lift _).bind fun _ => .pure _

end Condition

namespace Modification

theorem tableAt_keepsRoots (e : Entity) (path : String) : KeepsRoots (tableAt e path) :=
  (KeepsRoots.findBinding _ _ _).bind fun _ => .pure _

theorem bindRecordsOf_keepsRoots (entity : EntityName) : KeepsRoots (bindRecordsOf entity) :=
  .modify fun _ => .of_roots rfl

theorem emitInsert_keepsRoots (entity : EntityName) : KeepsRoots (emitInsert s format entity) :=
  (KeepsRoots.lift _).bind fun _ => .pure _

theorem emitValues_keepsRoots (clause : ValuesClause) : KeepsRoots (emitValues s clause) := by
  cases clause with
  | records records =>
    unfold emitValues
    dsimp only
    split
    · exact .throw_bind _ _
    · exact (KeepsRoots.mapM (fun _ => .lift _) records).bind fun _ => .pure _
  | bindVars entity =>
    apply (bindRecordsOf_keepsRoots entity).bind
    intro _
    exact (KeepsRoots.lift _).bind fun _ => .pure _

theorem emitUpdate_keepsRoots (entity : EntityName) : KeepsRoots (emitUpdate s format entity) :=
  (KeepsRoots.lift _).bind fun e => (tableAt_keepsRoots e "").bind fun _ => .pure _

theorem emitDelete_keepsRoots (entity : EntityName) : KeepsRoots (emitDelete s format entity) :=
  (KeepsRoots.lift _).bind fun e => (tableAt_keepsRoots e "").bind fun _ => .pure _

theorem emitSet_keepsRoots (clause : SetClause) : KeepsRoots (emitSet s format clause) := by
  apply KeepsRoots.bind
  · cases clause with
    | record r => exact (KeepsRoots.lift _).bind fun _ => .pure _
    | bindVars entity =>
      apply (bindRecordsOf_keepsRoots entity).bind
      intro _
      exact (KeepsRoots.lift _).bind fun _ => .pure _
  intro assigned
  apply (KeepsRoots.lift _).bind
  intro e
  dsimp only
  split
  · exact .throw _
  · exact .pure _

end Modification

/-! ## Emission -/

namespace Emission

theorem emitFrom_keepsRoots (entity : EntityName) (autoJoin : Bool) :
    KeepsRoots (emitFrom s format entity autoJoin) := by
  apply (KeepsRoots.lift _).bind
  intro e
  apply (Modification.tableAt_keepsRoots e "").bind
  intro table
  cases autoJoin with
  | false => exact .pure _
  | true => exact KeepsRoots.nextAutoJoins.bind fun _ => .pure _

theorem emitRelation_keepsRoots (auto : Bool) (target : Entity) (joined : ScopeId × Occurrence)
    (source : Option TableRef) :
    KeepsRoots (emitRelation s format auto target joined source) := by
  apply (KeepsRoots.relationSource source).bind
  intro origin
  apply (KeepsRoots.lift _).bind
  intro entity
  apply (KeepsRoots.lift _).bind
  intro condition
  refine KeepsRoots.bind ?_ fun _ => .pure _
  cases auto with
  | false =>
    apply (KeepsRoots.mention origin _).bind
    intro left
    exact (KeepsRoots.mention joined _).bind fun _ => .pure _
  | true =>
    apply (KeepsRoots.modifyResolver _).bind
    intro _
    exact KeepsRoots.currentScope.bind fun _ => .pure _

theorem inSubquery_keepsRoots {emit : Compiling Passage} (h : KeepsRoots emit) :
    KeepsRoots (inSubquery emit) := by
  apply KeepsRoots.nextSubquery.bind
  intro scope
  apply (KeepsRoots.modifyResolver _).bind
  intro _
  apply h.bind
  intro passage
  exact (KeepsRoots.modifyResolver _).bind fun _ => .pure _

theorem inCondition_keepsRoots {auto : Bool} {aliasName : String} {emit : Compiling Passage}
    (h : KeepsRoots emit) : KeepsRoots (inCondition auto aliasName emit) := by
  apply KeepsRoots.get.bind
  intro state
  apply KeepsRoots.currentScope.bind
  intro scope
  apply h.bind
  intro passage
  cases auto with
  | false => exact .pure _
  | true => exact (KeepsRoots.modifyResolver _).bind fun _ => .pure _

mutual

theorem element_keepsRoots (e : Element) (separate : Bool) :
    KeepsRoots (element s format separate e) := by
  cases e with
  | sql text | param p => exact .pure _
  | select entity mode path => exact Select.emit_keepsRoots entity mode path
  | fromTable entity aliasName autoJoin => exact emitFrom_keepsRoots entity autoJoin
  | table entity aliasName path =>
    rw [element]
    apply (KeepsRoots.lift _).bind
    intro e
    exact (Modification.tableAt_keepsRoots e _).bind fun _ => .pure _
  | aliasOf t =>
    rw [element]
    apply (KeepsRoots.lift _).bind
    intro e
    apply (KeepsRoots.findBinding _ _ _).bind
    intro found
    exact (KeepsRoots.mention found _).bind fun _ => .pure _
  | column c => exact (KeepsRoots.resolveColumn s c).bind fun _ => .pure _
  | join j => exact join_keepsRoots j separate
  | insert entity => exact (Modification.emitInsert_keepsRoots entity).bind fun _ => .pure _
  | values clause => exact (Modification.emitValues_keepsRoots clause).bind fun _ => .pure _
  | update entity aliasName =>
    exact (Modification.emitUpdate_keepsRoots entity).bind fun _ => .pure _
  | set clause => exact (Modification.emitSet_keepsRoots clause).bind fun _ => .pure _
  | delete entity aliasName =>
    exact (Modification.emitDelete_keepsRoots entity).bind fun _ => .pure _
  | condition clause => exact (condition_keepsRoots clause).bind fun _ => .pure _
  | subquery inner correlated => exact inSubquery_keepsRoots (elements_keepsRoots inner true)
termination_by structural e

theorem elements_keepsRoots (es : List Element) (afterSql : Bool) :
    KeepsRoots (elements s format afterSql es) := by
  cases es with
  | nil => exact .pure _
  | cons e rest =>
    rw [elements]
    apply (element_keepsRoots e _).bind
    intro first
    exact (elements_keepsRoots rest _).bind fun _ => .pure _
termination_by structural es

theorem join_keepsRoots (j : JoinElement) (separate : Bool) :
    KeepsRoots (join s format separate j) := by
  obtain ⟨kind, target, aliasName, path, onClause, auto⟩ := j
  rw [join]
  apply (joinTarget_keepsRoots target).bind
  intro table
  apply (KeepsRoots.lift _).bind
  intro e
  apply KeepsRoots.nextJoinPath.bind
  intro next
  apply (KeepsRoots.findBinding _ _ _).bind
  intro joined
  apply (joinOn_keepsRoots onClause auto e joined).bind
  intro condition
  cases auto with
  | false => exact .pure _
  | true => exact KeepsRoots.currentScope.bind fun _ => .pure _
termination_by structural j

theorem joinTarget_keepsRoots (t : JoinTarget) : KeepsRoots (joinTarget s format t) := by
  cases t with
  | entity entity =>
    rw [joinTarget]
    exact (KeepsRoots.lift _).bind fun _ => .pure _
  | subquery entity inner correlated => exact inSubquery_keepsRoots (elements_keepsRoots inner true)
termination_by structural t

theorem joinOn_keepsRoots (onClause : JoinOn) (auto : Bool) (target : Entity)
    (joined : ScopeId × Occurrence) :
    KeepsRoots (joinOn s format auto target joined onClause) := by
  cases onClause with
  | relation source => exact emitRelation_keepsRoots auto target joined source
  | template inner => exact inCondition_keepsRoots (elements_keepsRoots inner true)
  | none => exact .pure _
termination_by structural onClause

theorem condition_keepsRoots (clause : WhereClause) : KeepsRoots (condition s format clause) := by
  cases clause with
  | template inner => exact elements_keepsRoots inner true
  | object target operator operands =>
    exact (Condition.objectPredicate_keepsRoots target operator operands).bind fun _ => .pure _
termination_by structural clause

end

/-- Emission knows at a construct what it has known in the beginning. -/
theorem keepsRoots_of_reaches {es : List Element} {state visited : CompileState}
    {address : List Nat} {c : Construct}
    (hreaches : (walk s format).Reaches es state address c visited) : state.KeepsRoots visited := by
  have hpath {j : JoinElement} {state state' : CompileState}
      (h : (walk s format).joined j state state') : state.KeepsRoots state' := by
    obtain ⟨path, hrun⟩ := h
    exact KeepsRoots.nextJoinPath _ _ _ hrun
  have htarget {t : JoinTarget} {state state' : CompileState}
      (h : (walk s format).target t state state') : state.KeepsRoots state' := by
    obtain ⟨table, hrun⟩ := h
    exact joinTarget_keepsRoots t _ _ _ hrun
  induction hreaches with
  | here | derived => exact .of_roots rfl
  | @later e _ _ _ _ _ _ _ helement hrest ih =>
    obtain ⟨separate, passage, hrun⟩ := helement
    exact (element_keepsRoots e separate _ _ _ hrun).trans ih
  | subquery henter hinner ih | inDerived henter hinner ih =>
    obtain ⟨scope, rest, -, rfl⟩ := henter
    exact ih
  | condition hinner ih => exact ih
  | joined h => exact htarget h
  | on h hjoined hinner ih => exact ((htarget h).trans (hpath hjoined)).trans ih

end Emission

end RelMap
