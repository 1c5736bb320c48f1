import RelMap.Sql.Predicate

/-!
# Truth of predicates

What a predicate says about a row, in the way databases read it as it is written: it holds, it fails,
or it is unknown because NULL has been compared. Simplifying a predicate does not change what it says.
-/

namespace RelMap

inductive Truth where
  | holds
  | fails
  | unknown
deriving DecidableEq, Repr

namespace Truth

def ofBool (b : Bool) : Truth := if b then holds else fails

def not : Truth → Truth
  | holds => fails
  | fails => holds
  | unknown => unknown

def and : Truth → Truth → Truth
  | fails, _ => fails
  | _, fails => fails
  | holds, holds => holds
  | _, _ => unknown

def or : Truth → Truth → Truth
  | holds, _ => holds
  | _, holds => holds
  | fails, fails => fails
  | _, _ => unknown

def any (ts : List Truth) : Truth := ts.foldr or fails

theorem not_ofBool (b : Bool) : (ofBool b).not = ofBool !b := by
  cases b <;> rfl

@[simp] theorem not_not (t : Truth) : t.not.not = t := by
  cases t <;> rfl

@[simp] theorem not_eq_holds {t : Truth} : t.not = holds ↔ t = fails := by
  cases t <;> decide

@[simp] theorem fails_or (t : Truth) : fails.or t = t := by
  cases t <;> rfl

@[simp] theorem or_fails (t : Truth) : t.or fails = t := by
  cases t <;> rfl

@[simp] theorem or_holds (t : Truth) : t.or holds = holds := by
  cases t <;> rfl

@[simp] theorem or_self (t : Truth) : t.or t = t := by
  cases t <;> rfl

theorem or_assoc (t u w : Truth) : (t.or u).or w = t.or (u.or w) := by
  cases t <;> cases u <;> cases w <;> rfl

theorem or_eq_holds {t u : Truth} : t.or u = holds ↔ t = holds ∨ u = holds := by
  cases t <;> cases u <;> decide

theorem or_eq_fails {t u : Truth} : t.or u = fails ↔ t = fails ∧ u = fails := by
  cases t <;> cases u <;> decide

@[simp] theorem holds_and (t : Truth) : holds.and t = t := by
  cases t <;> rfl

@[simp] theorem and_holds (t : Truth) : t.and holds = t := by
  cases t <;> rfl

@[simp] theorem and_fails (t : Truth) : t.and fails = fails := by
  cases t <;> rfl

@[simp] theorem and_self (t : Truth) : t.and t = t := by
  cases t <;> rfl

theorem any_append (ts us : List Truth) : any (ts ++ us) = (any ts).or (any us) := by
  induction ts with
  | nil => exact (fails_or _).symm
  | cons t rest ih => exact (congrArg t.or ih).trans (or_assoc _ _ _).symm

theorem any_eq_holds {ts : List Truth} : any ts = holds ↔ holds ∈ ts := by
  induction ts with
  | nil => exact iff_of_false nofun nofun
  | cons t rest ih =>
    rw [List.mem_cons, ← ih, eq_comm (b := t), ← or_eq_holds]
    rfl

theorem any_eq_fails {ts : List Truth} : any ts = fails ↔ ∀ t ∈ ts, t = fails := by
  induction ts with
  | nil => exact iff_of_true rfl nofun
  | cons t rest ih =>
    rw [List.forall_mem_cons, ← ih, ← or_eq_fails]
    rfl

end Truth

/-- What a predicate is read in: a row, values for the bind variables, and the comparisons of a
database. -/
structure Evaluation where
  dialect : Dialect
  /-- The value of a column, by its qualifier and name. -/
  column : String → String → SqlValue
  bindVar : String → SqlValue
  /-- How two values compare neither of which is NULL. -/
  compare : CompareOp → SqlValue → SqlValue → Bool
  compare_neq : ∀ a b, compare .neq a b = !compare .eq a b

/-- Parameters reach the database as the dialect has them. -/
def Operand.value (v : Evaluation) : Operand → SqlValue
  | column qualifier name => v.column qualifier name
  | param (.bindVar name) => v.bindVar name
  | param (.anonymous value) | param (.positional _ value) | param (.named _ value) =>
    v.dialect.coerce value
  | null => .null

namespace Evaluation

variable (v : Evaluation)

def isNull (x : Operand) : Truth := .ofBool (x.value v).isNull

/-- Nothing is known of a comparison with NULL. -/
def compares (op : CompareOp) (left right : Operand) : Truth :=
  if (left.value v).isNull || (right.value v).isNull then .unknown
  else .ofBool (v.compare op (left.value v) (right.value v))

/-- A comparison as it is written: with the word NULL it is a test for NULL if it is for equality. -/
def written (op : CompareOp) (left right : Operand) : Truth :=
  match op, right with
  | .eq, .null => v.isNull left
  | .neq, .null => (v.isNull left).not
  | op, right => v.compares op left right

/-- A member of the list equals the operand; there NULL is compared like any other value. -/
def isIn (x : Operand) (items : List Operand) : Truth := .any (items.map (v.compares .eq x))

theorem isIn_flatten (x : Operand) (lists : List (List Operand)) :
    v.isIn x lists.flatten = .any (lists.map (v.isIn x)) := by
  induction lists with
  | nil => rfl
  | cons items rest ih =>
    rw [List.flatten_cons, isIn, List.map_append, Truth.any_append]
    exact congrArg (Truth.or _) ih

theorem compares_neq (x y : Operand) : v.compares .neq x y = (v.compares .eq x y).not := by
  unfold compares
  split
  · rfl
  · rw [v.compare_neq, Truth.not_ofBool]

end Evaluation

namespace Predicate

def truth (v : Evaluation) : Predicate → Truth
  | true => .holds
  | false => .fails
  | compare left op right => v.written op left right
  | .in x items => v.isIn x items
  | notIn x items => (v.isIn x items).not
  | between x low high => (v.compares .gte x low).and (v.compares .lte x high)
  | isNull x => v.isNull x
  | isNotNull x => (v.isNull x).not
  | and left right => (left.truth v).and (right.truth v)
  | or left right => (left.truth v).or (right.truth v)
  | not inner => (inner.truth v).not

variable {v : Evaluation}

theorem truth_disj (p q : Predicate) : (disj p q).truth v = (p.truth v).or (q.truth v) := by
  unfold disj
  split
  · rfl
  · exact (Truth.or_holds _).symm
  · exact (Truth.fails_or _).symm
  · exact (Truth.or_fails _).symm
  · split
    · next h =>
      subst h
      exact (Truth.or_self _).symm
    · rfl

theorem truth_conj (p q : Predicate) : (conj p q).truth v = (p.truth v).and (q.truth v) := by
  unfold conj
  split
  · rfl
  · exact (Truth.and_fails _).symm
  · exact (Truth.holds_and _).symm
  · exact (Truth.and_holds _).symm
  · split
    · next h =>
      subst h
      exact (Truth.and_self _).symm
    · rfl

theorem truth_negate (p : Predicate) : p.negate.truth v = (p.truth v).not := by
  cases p with
  | isNotNull x | notIn x items => exact (Truth.not_not _).symm
  | true | false | compare left op right | «in» x items | between x low high | isNull x
  | and left right | or left right | not inner => rfl

theorem truth_disjAll (ps : List Predicate) :
    (disjAll ps).truth v = .any (ps.map (truth v)) := by
  have hfold (p : Predicate) :
      (ps.foldl disj p).truth v = (p.truth v).or (.any (ps.map (truth v))) := by
    induction ps generalizing p with
    | nil => exact (Truth.or_fails _).symm
    | cons q rest ih =>
      rw [List.foldl_cons, ih, truth_disj, Truth.or_assoc]
      rfl
  exact (hfold false).trans (Truth.fails_or _)

theorem truth_conjAll_singleton (p : Predicate) : (conjAll [p]).truth v = p.truth v :=
  (truth_conj true p).trans (Truth.holds_and _)

/-- Nothing is in the empty list, which is not written. -/
theorem truth_inList (x : Operand) (items : List Operand) :
    (inList x items).truth v = v.isIn x items := by
  cases items <;> rfl

theorem truth_notInList (x : Operand) (items : List Operand) :
    (notInList x items).truth v = (v.isIn x items).not := by
  cases items <;> rfl

end Predicate

end RelMap
