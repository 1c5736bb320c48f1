import RelMap.Proofs.Statement.Batches
import RelMap.Proofs.Text.WholeWords

/-!
# Safety of statements

A statement is flagged when it updates or deletes rows and brings no condition, and may be refused
for it. Main statement: what counts are the elements of the query itself. An update or delete among
them is flagged whatever conditions stand in nested queries, while one in a nested query is flagged
only if the query around it is unfiltered too.
-/

namespace RelMap

/-! ## Unfiltered queries -/

namespace Element

inductive Modifies : Element → Prop
  | update (entity : EntityName) (aliasName : Option String) : Modifies (.update entity aliasName)
  | delete (entity : EntityName) (aliasName : Option String) : Modifies (.delete entity aliasName)

/-- A condition of any form, or literal SQL with the word WHERE in it. -/
inductive Filters : Element → Prop
  | condition (clause : WhereClause) : Filters (.condition clause)
  | sql {text : String} (h : Text.HoldsWord "where".toList text.toList) : Filters (.sql text)

inductive Contains : Element → List Element → Prop
  | subquery (inner : List Element) (correlated : Bool) :
    Contains (.subquery inner correlated) inner
  | condition (inner : List Element) : Contains (.condition (.template inner)) inner
  | derived (kind : JoinKind) (entity : EntityName) (inner : List Element) (correlated : Bool)
    (aliasName path : Option String) (onClause : JoinOn) (auto : Bool) :
    Contains (.join ⟨kind, .subquery entity inner correlated, aliasName, path, onClause, auto⟩)
      inner
  | onClause (kind : JoinKind) (target : JoinTarget) (aliasName path : Option String)
    (inner : List Element) (auto : Bool) :
    Contains (.join ⟨kind, target, aliasName, path, .template inner, auto⟩) inner

theorem modifiesRows_iff {e : Element} : e.modifiesRows = true ↔ e.Modifies := by
  constructor
  · intro h
    cases e with
    | update => exact .update _ _
    | delete => exact .delete _ _
    | _ => cases h
  · rintro (_ | _) <;> rfl

theorem hasCondition_iff {e : Element} : e.hasCondition = true ↔ e.Filters := by
  have hword : ∀ text, Text.containsWord "where" text = true ↔
      Text.HoldsWord "where".toList text.toList :=
    fun text => Text.containsWord_iff (by simp) (by simp)
  constructor
  · intro h
    cases e with
    | condition => exact .condition _
    | sql text => exact .sql ((hword text).mp h)
    | _ => cases h
  · rintro (_ | ⟨h⟩)
    · rfl
    · exact (hword _).mpr h

end Element

/-- The query updates or deletes rows, and none of its own elements is a condition. -/
def Unfiltered (elements : List Element) : Prop :=
  (∃ e ∈ elements, e.Modifies) ∧ ∀ e ∈ elements, ¬e.Filters

inductive InQuery (elements : List Element) : List Element → Prop
  | itself : InQuery elements elements
  | nested {outer inner : List Element} {e : Element} (houter : InQuery elements outer)
    (he : e ∈ outer) (hinner : e.Contains inner) : InQuery elements inner

/-- Nothing nested in the query is unfiltered, unless the query itself is. -/
def Guarded (elements : List Element) : Prop :=
  ∀ inner, InQuery elements inner → Unfiltered inner → Unfiltered elements

theorem safetyOf_eq_missingWhere_iff {elements : List Element} :
    safetyOf elements = .missingWhere ↔ Unfiltered elements := by
  have hmodifies : elements.any Element.modifiesRows = true ↔ ∃ e ∈ elements, e.Modifies := by
    simp only [List.any_eq_true, Element.modifiesRows_iff]
  have hfilters : (!elements.any Element.hasCondition) = true ↔ ∀ e ∈ elements, ¬e.Filters := by
    simp [← Element.hasCondition_iff]
  rw [safetyOf, Unfiltered, ← hmodifies, ← hfilters, ← Bool.and_eq_true]
  generalize (elements.any Element.modifiesRows && !elements.any Element.hasCondition) = flagged
  cases flagged <;> decide

instance (elements : List Element) : Decidable (Unfiltered elements) :=
  decidable_of_iff _ safetyOf_eq_missingWhere_iff

/-! ## Flags and refusals -/

namespace Schema

variable {s : Schema} {elements : List Element} {options : CompileOptions}
  {statement : CompiledStatement}

theorem safety_of_compile (hobservers : options.observers = [])
    (h : s.compile options elements = .ok statement) : statement.safety = safetyOf elements := by
  obtain ⟨_, _, _, _, _, -, -, -, hstatement⟩ := compile_ok h
  rw [hstatement hobservers]

theorem compile_rejecting (hobservers : options.observers = []) :
    s.compile { options with rejectUnsafe := true } elements =
      s.compile { options with rejectUnsafe := false } elements >>= fun statement =>
        if Unfiltered elements then .error (.usage .unsafeStatement) else .ok statement := by
  unfold compile
  rw [hobservers]
  cases hemit : s.emit options.dialect elements with
  | error error => rfl
  | ok emitted =>
    obtain ⟨passage, state⟩ := emitted
    dsimp only [bind, Except.bind]
    cases hstyle : passage.fragment.paramStyle with
    | error error => rfl
    | ok style =>
      dsimp only [liftM, monadLift, MonadLift.monadLift, Except.mapError]
      cases hcollect : Parameters.collect
          (passage.fragment.render style (keeps state.resolver)).slots style options.dialect with
      | error error => rfl
      | ok collected =>
        by_cases hunfiltered : Unfiltered elements
        · simp only [if_pos hunfiltered]
          rw [safetyOf_eq_missingWhere_iff.mpr hunfiltered]
          rfl
        · have hsafe : safetyOf elements = .safe := by
            cases hsafety : safetyOf elements with
            | safe => rfl
            | missingWhere => exact absurd (safetyOf_eq_missingWhere_iff.mp hsafety) hunfiltered
          simp only [if_neg hunfiltered]
          rw [hsafe]
          rfl

theorem compile_rejecting_eq_ok_iff (hobservers : options.observers = []) :
    s.compile { options with rejectUnsafe := true } elements = .ok statement ↔
      s.compile { options with rejectUnsafe := false } elements = .ok statement ∧
        ¬Unfiltered elements := by
  rw [compile_rejecting hobservers]
  constructor
  · intro h
    obtain ⟨between, hbetween, h⟩ := Except.bind_eq_ok h
    split at h
    · cases h
    · next hfiltered =>
      cases h
      exact ⟨hbetween, hfiltered⟩
  · rintro ⟨h, hfiltered⟩
    rw [h]
    exact if_neg hfiltered

/-- What would compile otherwise is refused for nothing else. -/
theorem compile_rejecting_eq_error_iff (hobservers : options.observers = [])
    (h : s.compile { options with rejectUnsafe := false } elements = .ok statement)
    {error : Error} :
    s.compile { options with rejectUnsafe := true } elements = .error error ↔
      error = .usage .unsafeStatement ∧ Unfiltered elements := by
  rw [compile_rejecting hobservers, h]
  change (if _ then _ else _) = _ ↔ _
  by_cases hunfiltered : Unfiltered elements <;> simp [hunfiltered, eq_comm]

structure GuardsChanges (s : Schema) (options : CompileOptions) (elements : List Element) :
    Prop where
  flagged_iff : ∀ statement, s.compile options elements = .ok statement →
    (statement.safety = .missingWhere ↔ Unfiltered elements)
  /-- When no unfiltered query in the statement goes unflagged. -/
  allFlagged_iff : ∀ statement, s.compile options elements = .ok statement →
    ((∀ inner, InQuery elements inner → Unfiltered inner → statement.safety = .missingWhere) ↔
      Guarded elements)
  accepted_iff : ∀ statement,
    s.compile { options with rejectUnsafe := true } elements = .ok statement ↔
      s.compile { options with rejectUnsafe := false } elements = .ok statement ∧
        ¬Unfiltered elements
  refused_iff : ∀ statement,
    s.compile { options with rejectUnsafe := false } elements = .ok statement →
      (s.compile { options with rejectUnsafe := true } elements =
        .error (.usage .unsafeStatement) ↔ Unfiltered elements)
  /-- When no unfiltered query in the statement is let through. -/
  allRefused_iff : ∀ statement,
    s.compile { options with rejectUnsafe := false } elements = .ok statement →
      ((∀ inner, InQuery elements inner → Unfiltered inner →
        ∃ error, s.compile { options with rejectUnsafe := true } elements = .error error) ↔
          Guarded elements)

/-- Updates and deletes without a condition are flagged or refused just where they are elements of
the query itself. -/
theorem compile_guards_changes (s : Schema) (elements : List Element)
    (hobservers : options.observers = []) : s.GuardsChanges options elements := by
  have hflagged : ∀ statement, s.compile options elements = .ok statement →
      (statement.safety = .missingWhere ↔ Unfiltered elements) := by
    intro statement h
    rw [safety_of_compile hobservers h, safetyOf_eq_missingWhere_iff]
  refine ⟨hflagged, ?allFlagged, fun _ => compile_rejecting_eq_ok_iff hobservers, ?refused,
    ?allRefused⟩
  case allFlagged =>
    intro statement h
    simp only [hflagged statement h]
    exact Iff.rfl
  case refused =>
    intro statement h
    simp [compile_rejecting_eq_error_iff hobservers h]
  case allRefused =>
    intro statement h
    simp only [compile_rejecting_eq_error_iff hobservers h, exists_eq_left]
    exact Iff.rfl

/-- All tasks are deleted, which no condition in a nested query makes up for. -/
theorem compile_guards_changes_tasks :
    let query : List Element := [.delete "Task" none, .sql " RETURNING ", .subquery
      [.sql "SELECT 1 WHERE 1 = 0"] false]
    ({} : CompileOptions).observers = [] ∧ Unfiltered query ∧
      ∃ statement, Sample.tasks.compile {} query = .ok statement ∧
        statement.safety = .missingWhere ∧
        Sample.tasks.compile { rejectUnsafe := true } query = .error (.usage .unsafeStatement) := by
  intro query
  have hunfiltered : Unfiltered query := by decide +kernel
  have hcompile : ∃ statement, Sample.tasks.compile {} query = .ok statement ∧
      statement.parameters.size = 0 := by
    decide +kernel
  obtain ⟨statement, hcompile, -⟩ := hcompile
  have hguards : Sample.tasks.GuardsChanges {} query := compile_guards_changes _ _ rfl
  exact ⟨rfl, hunfiltered, statement, hcompile, (hguards.flagged_iff statement hcompile).mpr
    hunfiltered, (hguards.refused_iff statement hcompile).mpr hunfiltered⟩

/-- A query that is used as a table expression deletes all tasks, and the statement around it passes
for safe. -/
theorem exists_unflagged_delete :
    let gone : List Element := [.delete "Task" none, .sql " RETURNING id"]
    let query : List Element := [.sql "WITH gone AS ", .subquery gone false,
      .sql " SELECT count(*) FROM gone"]
    Sample.taskSpec.toSchema = .ok Sample.tasks ∧ InQuery query gone ∧ Unfiltered gone ∧
      ∀ reject, ∃ statement, Sample.tasks.compile { rejectUnsafe := reject } query =
        .ok statement ∧
        statement.sql =
          "WITH gone AS (DELETE FROM \"Task\" RETURNING id) SELECT count(*) FROM gone" ∧
        statement.safety = .safe :=
  ⟨Sample.toSchema_taskSpec, .nested .itself (.tail _ (.head _)) (.subquery _ _),
    by decide +kernel, by decide +kernel⟩

end Schema

end RelMap
