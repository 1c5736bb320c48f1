import RelMap.Proofs.Statement.Operations
import RelMap.Statement.Emission

/-!
# Errors of emission

Emission that finds a queue empty fails with an error for it. Only taking from a queue raises such
an error: encoding, look-ups and the clauses that are written from them fail for other causes.
-/

namespace RelMap

variable {α β ε σ : Type}

/-- Emission has asked for more than registration has queued. -/
def Error.IsOutOfStep (e : Error) : Prop :=
  e = .usage .subqueryNotRegistered ∨ e = .usage .joinNotRegistered

def Except.KeepsStep (x : Except Error α) : Prop := ∀ e, x = .error e → ¬ e.IsOutOfStep

namespace Except.KeepsStep

theorem ok (a : α) : Except.KeepsStep (.ok a) := by
  intro e h
  cases h

theorem error {e : Error} (he : ¬ e.IsOutOfStep) : Except.KeepsStep (.error e : Except Error α) := by
  intro e' h
  cases h
  exact he

theorem bind {x : Except Error α} {f : α → Except Error β} (hx : Except.KeepsStep x)
    (hf : ∀ a, Except.KeepsStep (f a)) : Except.KeepsStep (x >>= f) := by
  cases x with
  | ok a => exact hf a
  | error e => exact error (hx e rfl)

theorem mapError {x : Except ε α} {cause : ε → Error}
    (h : ∀ e, x = .error e → ¬ (cause e).IsOutOfStep) : Except.KeepsStep (x.mapError cause) := by
  cases x with
  | ok a => exact ok a
  | error e => exact error (h e rfl)

theorem of_alias (x : Except AliasError α) : Except.KeepsStep (x.mapError .aliasing) :=
  mapError fun e _ => by simp [Error.IsOutOfStep]

theorem of_join (x : Except JoinError α) : Except.KeepsStep (x.mapError .join) :=
  mapError fun e _ => by simp [Error.IsOutOfStep]

theorem of_schema (x : Except SchemaError α) : Except.KeepsStep (x.mapError .schema) :=
  mapError fun e _ => by simp [Error.IsOutOfStep]

theorem of_mapping (x : Except MappingError α) : Except.KeepsStep (x.mapError .mapping) :=
  mapError fun e _ => by simp [Error.IsOutOfStep]

end Except.KeepsStep

/-! ## Encoding -/

namespace Encode

variable {s : Schema}

theorem plainField_keepsStep (f : Field) (value : FieldValue) (path : String) :
    Except.KeepsStep (plainField f value path) := by
  have hmismatch (expected : String) : Except.KeepsStep
      (.error (.mapping (.typeMismatch path expected value.typeName)) :
        Except Error (List SqlValue)) := .error (by simp [Error.IsOutOfStep])
  have hkey (target : EntityName) : Except.KeepsStep (plainField.keyOf f path target value) := by
    cases value with
    | reference r | scalar key => exact .ok _
    | null | enum variant | record handle content => exact hmismatch _
  cases f with
  | scalar info typ =>
    unfold plainField
    split
    · exact (Except.KeepsStep.of_mapping _).bind fun _ => .ok _
    · exact .ok _
    · exact hmismatch _
    all_goals contradiction
  | converted info converter => exact .of_mapping _
  | inline info target fields => exact hmismatch _
  | foreignKey info target key fields => exact hkey _
  | ref info target key => exact hkey _

mutual

theorem field_keepsStep (f : Field) (path : String) (value : FieldValue) :
    Except.KeepsStep (field s f path value) := by
  cases value with
  | null => exact .ok _
  | scalar v | enum variant | reference r => exact plainField_keepsStep f _ path
  | record handle content =>
    cases f with
    | inline info target fields => exact record_keepsStep content
    | foreignKey info target k fields => exact key_keepsStep content
    | ref info target k => exact key_keepsStep content
    | scalar info typ => exact plainField_keepsStep (.scalar info typ) (.record handle content) path
    | converted info converter =>
      exact plainField_keepsStep (.converted info converter) (.record handle content) path
termination_by structural value

theorem record_keepsStep (r : Record) : Except.KeepsStep (record s r) := by
  obtain ⟨entity, values⟩ := r
  apply (Except.KeepsStep.of_schema _).bind
  intro e
  apply Except.KeepsStep.bind
  · apply Except.KeepsStep.mapError
    intro cause hcause
    unfold Entity.checkArity at hcause
    split at hcause
    · cases hcause
    · cases hcause
      simp [Error.IsOutOfStep]
  · intro _
    exact fields_keepsStep e.name e.fields values
termination_by structural r

theorem fields_keepsStep (entity : EntityName) (fs : List Field) (values : List FieldValue) :
    Except.KeepsStep (fields s entity fs values) := by
  cases values with
  | nil => exact .ok _
  | cons value rest =>
    cases fs with
    | nil => exact .ok _
    | cons f fs =>
      apply (field_keepsStep f _ value).bind
      intro first
      exact (fields_keepsStep entity fs rest).bind fun _ => .ok _
termination_by structural values

theorem key_keepsStep (r : Record) : Except.KeepsStep (key s r) := by
  obtain ⟨entity, values⟩ := r
  apply (Except.KeepsStep.of_schema _).bind
  intro e
  split
  · exact nth_keepsStep _ _ _ values
  · exact .error (by simp [Error.IsOutOfStep])
termination_by structural r

theorem nth_keepsStep (f : Field) (path : String) (index : Nat) (values : List FieldValue) :
    Except.KeepsStep (nth s f path index values) := by
  cases values with
  | nil => exact .ok _
  | cons value rest =>
    cases index with
    | zero => exact field_keepsStep f path value
    | succ index => exact nth_keepsStep f path index rest
termination_by structural values

end

end Encode

/-! ## Steps on a state -/

/-- From every state, fails for other causes only. -/
def StateT.KeepsStep (x : StateT σ (Except Error) α) : Prop :=
  ∀ state, Except.KeepsStep (x.run state)

namespace StateT.KeepsStep

theorem pure (a : α) : StateT.KeepsStep (pure a : StateT σ (Except Error) α) :=
  fun _ => .ok _

theorem throw {e : Error} (he : ¬ e.IsOutOfStep) :
    StateT.KeepsStep (throw e : StateT σ (Except Error) α) :=
  fun _ => .error he

theorem throw_bind {e : Error} (he : ¬ e.IsOutOfStep) (f : α → StateT σ (Except Error) β) :
    StateT.KeepsStep (MonadExcept.throw e >>= f) :=
  fun _ => .error he

theorem get : StateT.KeepsStep (get : StateT σ (Except Error) σ) :=
  fun _ => .ok _

theorem set (state : σ) : StateT.KeepsStep (set state : StateT σ (Except Error) PUnit) :=
  fun _ => .ok _

theorem modify (f : σ → σ) : StateT.KeepsStep (modify f : StateT σ (Except Error) PUnit) :=
  fun _ => .ok _

theorem bind {x : StateT σ (Except Error) α} {f : α → StateT σ (Except Error) β}
    (hx : StateT.KeepsStep x) (hf : ∀ a, StateT.KeepsStep (f a)) : StateT.KeepsStep (x >>= f) := by
  intro state
  rw [StateT.run_bind]
  exact (hx state).bind fun p => hf p.1 p.2

/-- If steps fail for want of an item, those that keep step have succeeded. -/
theorem bind_error {x : StateT σ (Except Error) α} {f : α → StateT σ (Except Error) β} {state : σ}
    {e : Error} (hx : StateT.KeepsStep x) (he : e.IsOutOfStep)
    (h : (x >>= f).run state = .error e) :
    ∃ a between, x.run state = .ok (a, between) ∧ (f a).run between = .error e := by
  rcases StateT.bind_eq_error h with h | h
  · exact absurd he (hx state e h)
  · exact h

theorem lift {x : Except Error α} (hx : Except.KeepsStep x) :
    StateT.KeepsStep (StateT.lift x : StateT σ (Except Error) α) :=
  fun _ => hx.bind fun _ => .ok _

theorem of_schema (x : Except SchemaError α) :
    StateT.KeepsStep (liftM x : StateT σ (Except Error) α) :=
  lift (.of_schema x)

theorem of_join (x : Except JoinError α) : StateT.KeepsStep (liftM x : StateT σ (Except Error) α) :=
  lift (.of_join x)

theorem of_alias (x : Except AliasError α) :
    StateT.KeepsStep (liftM x : StateT σ (Except Error) α) :=
  lift (.of_alias x)

theorem mapM {f : α → StateT σ (Except Error) β} (hf : ∀ a, StateT.KeepsStep (f a))
    (items : List α) : StateT.KeepsStep (items.mapM f) := by
  induction items with
  | nil =>
    rw [List.mapM_nil]
    exact pure []
  | cons a rest ih =>
    rw [List.mapM_cons]
    apply (hf a).bind
    intro b
    apply ih.bind
    intro bs
    exact pure (b :: bs)

end StateT.KeepsStep

/-! ## Look-ups -/

variable {s : Schema} {format : SqlFormat}

theorem Resolver.columnHost_keepsStep (r : Resolver) (c : ColumnRef) :
    Except.KeepsStep (r.columnHost s c) := by
  unfold columnHost
  apply (Except.KeepsStep.of_schema _).bind
  intro entity
  split
  · exact (Except.KeepsStep.of_alias _).bind fun found => .ok _
  · exact (Except.KeepsStep.of_alias _).bind fun found => .ok _

theorem Resolver.resolveColumn_keepsStep {r r' : Resolver} {c : ColumnRef} {e : Error}
    (h : (resolveColumn s c).run.run r = (.error e, r')) : ¬ e.IsOutOfStep := by
  rw [run_resolveColumn] at h
  rcases ExceptT.check_bind_eq_error h with ⟨hhost, -⟩ | ⟨⟨⟨owner, o⟩, fieldPath⟩, -, h⟩
  · exact columnHost_keepsStep r c e hhost
  rcases ExceptT.check_bind_eq_error h with ⟨htable, -⟩ | ⟨table, -, h⟩
  · exact Except.KeepsStep.of_schema _ e htable
  rcases ExceptT.check_bind_eq_error h with ⟨hspan, -⟩ | ⟨span, -, h⟩
  · exact Except.KeepsStep.of_schema _ e hspan
  rcases ExceptT.bind_eq_error h with h | ⟨scope, between, -, h⟩
  · obtain ⟨_, -, rfl⟩ := ExceptT.adapt_eq_error h
    simp [Error.IsOutOfStep]
  · cases h

namespace Compiling

theorem onResolver_keepsStep {x : Resolving Error α}
    (hx : ∀ r r' e, x.run.run r = (.error e, r') → ¬ e.IsOutOfStep) :
    StateT.KeepsStep (onResolver x) := by
  intro state e h
  have hstep : onResolver x state = .error e := h
  unfold onResolver at hstep
  split at hstep
  · cases hstep
  · next hfails =>
    cases hstep
    exact hx _ _ e hfails

theorem resolving_keepsStep (x : Resolving AliasError α) : StateT.KeepsStep (resolving x) := by
  apply onResolver_keepsStep
  intro r r' e h
  obtain ⟨_, -, rfl⟩ := ExceptT.adapt_eq_error h
  simp [Error.IsOutOfStep]

theorem findBinding_keepsStep (entity : EntityName) (path : Option String) (filter : ScopeFilter) :
    StateT.KeepsStep (findBinding entity path filter) := by
  apply StateT.KeepsStep.get.bind
  intro state
  exact .of_alias _

theorem mention_keepsStep (found : ScopeId × Occurrence) (filter : ScopeFilter) :
    StateT.KeepsStep (mention found filter) := by
  apply (resolving_keepsStep _).bind
  intro recorded
  exact .pure _

theorem resolveColumn_keepsStep (c : ColumnRef) : StateT.KeepsStep (resolveColumn s c) :=
  onResolver_keepsStep fun _ _ _ => Resolver.resolveColumn_keepsStep

theorem relationSource_keepsStep (source : Option TableRef) :
    StateT.KeepsStep (relationSource source) := by
  unfold relationSource
  cases source with
  | some t => exact findBinding_keepsStep _ _ _
  | none =>
    apply StateT.KeepsStep.get.bind
    intro state
    split
    · exact findBinding_keepsStep _ _ _
    · exact .throw (by simp [Error.IsOutOfStep])

end Compiling

open Compiling

/-! ## Select lists -/

namespace Select

mutual

theorem fullField_keepsStep {naming : NamingStrategy} {host : Host} {inlinePath : String}
    {start : Nat} (f : Field) : StateT.KeepsStep (fullField naming host inlinePath start f) := by
  cases f with
  | scalar info typ | ref info target key | converted info converter => exact .pure _
  | inline info target fields => exact fullFields_keepsStep fields
  | foreignKey info target key fields =>
    apply (findBinding_keepsStep _ _ _).bind
    intro found
    apply (mention_keepsStep found _).bind
    intro m
    exact fullFields_keepsStep fields
termination_by structural f

theorem fullFields_keepsStep {naming : NamingStrategy} {host : Host} {inlinePath : String}
    {start : Nat} (fields : List Field) :
    StateT.KeepsStep (fullFields naming host inlinePath start fields) := by
  cases fields with
  | nil => exact .pure _
  | cons f rest =>
    apply (fullField_keepsStep f).bind
    intro first
    exact (fullFields_keepsStep rest).bind fun _ => .pure _
termination_by structural fields

end

theorem emit_keepsStep (entity : EntityName) (mode : SelectMode) (path : Option String) :
    StateT.KeepsStep (emit s format entity mode path) := by
  apply StateT.KeepsStep.bind
  · apply (findBinding_keepsStep _ _ _).bind
    intro found
    apply (StateT.KeepsStep.of_schema _).bind
    intro e
    apply (mention_keepsStep found _).bind
    intro m
    cases mode with
    | pk => exact (StateT.KeepsStep.of_schema _).bind fun _ => .pure _
    | nested => exact .pure _
    | full => exact fullFields_keepsStep _
  · exact fun listed => .pure _

theorem emitColumn_keepsStep (c : ColumnRef) : StateT.KeepsStep (emitColumn s format c) :=
  (resolveColumn_keepsStep c).bind fun _ => .pure _

end Select

/-! ## Conditions -/

namespace Condition

theorem keyOperand_keepsStep (key : Field) (path : String) (operand : FieldValue) :
    Except.KeepsStep (keyOperand s key path operand) := by
  cases operand with
  | record handle content => exact Encode.key_keepsStep content
  | reference r => exact .ok _
  | null | scalar v | enum variant => exact Encode.field_keepsStep key path _

theorem checkArity_keepsStep (operator : Operator) (count : Nat) :
    Except.KeepsStep ((checkArity operator count).mapError .usage) := by
  apply Except.KeepsStep.mapError
  intro e h
  unfold checkArity at h
  split at h
  · cases h
  · split at h <;> cases h
    simp [Error.IsOutOfStep]

theorem checkOperands_keepsStep (operator : Operator) (columns : Nat)
    (operands : List (List SqlValue)) :
    Except.KeepsStep ((checkOperands operator columns operands).mapError .usage) := by
  apply Except.KeepsStep.mapError
  intro e h
  unfold checkOperands at h
  split at h
  · cases h
    simp [Error.IsOutOfStep]
  · split at h <;> cases h
    simp [Error.IsOutOfStep]

theorem singleColumn_keepsStep (column : Operand) (operator : Operator) (operands : List Operand) :
    Except.KeepsStep ((singleColumn column operator operands).mapError .usage) := by
  apply Except.KeepsStep.mapError
  intro e h
  unfold singleColumn at h
  split at h
  · cases h
  · split at h <;> cases h

theorem manyColumns_keepsStep (columns : List Operand) (operator : Operator)
    (operands : List (List Operand)) :
    Except.KeepsStep ((manyColumns columns operator operands).mapError .usage) := by
  apply Except.KeepsStep.mapError
  intro e h
  cases operator <;> cases h <;> simp [Error.IsOutOfStep]

theorem predicate_keepsStep (c : Comparison) (operator : Operator) :
    Except.KeepsStep ((predicate c operator).mapError .usage) := by
  apply Except.KeepsStep.mapError
  intro e h
  unfold predicate at h
  rcases Except.bind_eq_error h with h | ⟨_, -, h⟩
  · exact checkOperands_keepsStep operator c.columns.length c.operands (.usage e) (by rw [h]; rfl)
  · split at h
    · next column _ =>
      exact singleColumn_keepsStep column operator _ (.usage e) (by rw [h]; rfl)
    · exact manyColumns_keepsStep c.columns operator _ (.usage e) (by rw [h]; rfl)

theorem comparison_keepsStep (target : ConditionTarget) (operands : List FieldValue) :
    StateT.KeepsStep (comparison s target operands) := by
  unfold comparison
  cases target with
  | column c =>
    apply (resolveColumn_keepsStep c).bind
    intro binding
    apply (StateT.KeepsStep.of_schema _).bind
    intro field
    apply (StateT.KeepsStep.mapM (fun _ => .lift (Encode.field_keepsStep _ _ _)) operands).bind
    intro values
    exact .pure _
  | entity t =>
    apply (StateT.KeepsStep.of_schema _).bind
    intro e
    apply (findBinding_keepsStep _ _ _).bind
    intro found
    apply (mention_keepsStep found _).bind
    intro m
    split
    · exact .throw (by simp [Error.IsOutOfStep])
    · apply (StateT.KeepsStep.mapM (fun _ => .lift (keyOperand_keepsStep _ _ _)) operands).bind
      intro values
      exact (StateT.KeepsStep.of_schema _).bind fun _ => .pure _

theorem objectPredicate_keepsStep (target : ConditionTarget) (operator : Operator)
    (operands : List FieldValue) : StateT.KeepsStep (objectPredicate s target operator operands) := by
  apply (StateT.KeepsStep.lift (checkArity_keepsStep operator operands.length)).bind
  intro _
  apply (comparison_keepsStep target operands).bind
  intro found
  exact (StateT.KeepsStep.lift (predicate_keepsStep found.2 operator)).bind fun _ => .pure _

end Condition

/-! ## Modifications -/

namespace Modification

theorem tableAt_keepsStep (e : Entity) (path : String) : StateT.KeepsStep (tableAt e path) :=
  (findBinding_keepsStep _ _ _).bind fun _ => .pure _

theorem recordSlots_keepsStep (accepts : Column → Bool) (r : Record) :
    Except.KeepsStep (recordSlots s accepts r) := by
  apply (Except.KeepsStep.of_schema _).bind
  intro e
  exact (Encode.record_keepsStep r).bind fun _ => .ok _

theorem emitInsert_keepsStep (entity : EntityName) :
    StateT.KeepsStep (emitInsert s format entity) :=
  (StateT.KeepsStep.of_schema _).bind fun _ => .pure _

theorem emitValues_keepsStep (clause : ValuesClause) : StateT.KeepsStep (emitValues s clause) := by
  cases clause with
  | records records =>
    unfold emitValues
    dsimp only
    split
    · exact .throw_bind (by simp [Error.IsOutOfStep]) _
    · apply (StateT.KeepsStep.mapM (fun r => .lift (recordSlots_keepsStep _ r)) records).bind
      intro tuples
      exact .pure _
  | bindVars entity =>
    apply (StateT.KeepsStep.modify _).bind
    intro _
    exact (StateT.KeepsStep.of_schema _).bind fun _ => .pure _

theorem emitUpdate_keepsStep (entity : EntityName) :
    StateT.KeepsStep (emitUpdate s format entity) := by
  apply (StateT.KeepsStep.of_schema _).bind
  intro e
  exact (tableAt_keepsStep e "").bind fun _ => .pure _

theorem emitDelete_keepsStep (entity : EntityName) :
    StateT.KeepsStep (emitDelete s format entity) := by
  apply (StateT.KeepsStep.of_schema _).bind
  intro e
  exact (tableAt_keepsStep e "").bind fun _ => .pure _

theorem assignments_keepsStep (clause : SetClause) : StateT.KeepsStep (assignments s clause) := by
  cases clause with
  | record r => exact (StateT.KeepsStep.lift (recordSlots_keepsStep _ r)).bind fun _ => .pure _
  | bindVars entity =>
    apply (StateT.KeepsStep.modify _).bind
    intro _
    exact (StateT.KeepsStep.of_schema _).bind fun _ => .pure _

theorem emitSet_keepsStep (clause : SetClause) : StateT.KeepsStep (emitSet s format clause) := by
  apply (assignments_keepsStep clause).bind
  intro assigned
  apply (StateT.KeepsStep.of_schema _).bind
  intro e
  dsimp only
  split
  · exact .throw (by simp [Error.IsOutOfStep])
  · exact .pure _

end Modification

/-! ## Tables and joins -/

namespace Emission

theorem nextAutoJoins_keepsStep : StateT.KeepsStep nextAutoJoins := by
  apply StateT.KeepsStep.get.bind
  intro state
  split
  · exact (StateT.KeepsStep.set _).bind fun _ => .pure _
  · exact .pure _

theorem emitFrom_keepsStep (entity : EntityName) (autoJoin : Bool) :
    StateT.KeepsStep (emitFrom s format entity autoJoin) := by
  apply (StateT.KeepsStep.of_schema _).bind
  intro e
  apply (Modification.tableAt_keepsStep e "").bind
  intro table
  cases autoJoin with
  | false => exact .pure _
  | true => exact nextAutoJoins_keepsStep.bind fun _ => .pure _

theorem emitAlias_keepsStep (t : TableRef) : StateT.KeepsStep (emitAlias s format t) := by
  apply (StateT.KeepsStep.of_schema _).bind
  intro e
  apply (findBinding_keepsStep _ _ _).bind
  intro found
  exact (mention_keepsStep found _).bind fun _ => .pure _

theorem joinSides_keepsStep (auto : Bool) (origin joined : ScopeId × Occurrence) :
    StateT.KeepsStep (joinSides auto origin joined) := by
  cases auto with
  | false =>
    apply (mention_keepsStep origin _).bind
    intro left
    exact (mention_keepsStep joined _).bind fun _ => .pure _
  | true =>
    apply (StateT.KeepsStep.modify _).bind
    intro _
    exact (StateT.KeepsStep.get.bind fun _ => .pure _).bind fun _ => .pure _

theorem emitRelation_keepsStep (auto : Bool) (target : Entity) (joined : ScopeId × Occurrence)
    (source : Option TableRef) :
    StateT.KeepsStep (emitRelation s format auto target joined source) := by
  apply (relationSource_keepsStep source).bind
  intro origin
  apply (StateT.KeepsStep.of_schema _).bind
  intro entity
  apply (StateT.KeepsStep.of_join _).bind
  intro condition
  exact (joinSides_keepsStep auto origin joined).bind fun _ => .pure _

end Emission

end RelMap
