import RelMap.Proofs.Sql.Truth

/-!
# Simplification

The connectives leave out what does not matter, in every row, unknown or not. Equality is decided
before the statement is run by whether two operands, or two literals, are the same; a database
decides otherwise on NULL, and on numbers that are the same only by their value.
-/

namespace RelMap

/-! ## Connectives -/

namespace Truth

def all (ts : List Truth) : Truth := ts.foldr and holds

theorem and_assoc (t u w : Truth) : (t.and u).and w = t.and (u.and w) := by
  cases t <;> cases u <;> cases w <;> rfl

theorem not_or (t u : Truth) : (t.or u).not = t.not.and u.not := by
  cases t <;> cases u <;> rfl

theorem not_any (ts : List Truth) : (any ts).not = all (ts.map not) := by
  induction ts with
  | nil => rfl
  | cons t rest ih => exact (not_or t (any rest)).trans (congrArg t.not.and ih)

end Truth

/-- Nothing in a list is outside of it, if it is unequal to each of its members. -/
theorem Evaluation.not_isIn (v : Evaluation) (x : Operand) (items : List Operand) :
    (v.isIn x items).not = .all (items.map (v.compares .neq x)) := by
  rw [isIn, Truth.not_any, List.map_map]
  exact congrArg Truth.all (List.map_congr_left fun y _ => (v.compares_neq x y).symm)

namespace Predicate

variable {v : Evaluation}

theorem truth_conjAll (ps : List Predicate) : (conjAll ps).truth v = .all (ps.map (truth v)) := by
  have hfold (p : Predicate) :
      (ps.foldl conj p).truth v = (p.truth v).and (.all (ps.map (truth v))) := by
    induction ps generalizing p with
    | nil => exact (Truth.and_holds _).symm
    | cons q rest ih =>
      rw [List.foldl_cons, ih, truth_conj, Truth.and_assoc]
      rfl
  exact (hfold true).trans (Truth.holds_and _)

/-- The simplified connectives say what they stand for, in every row and whatever is known of it,
where equality with the word NULL is read as the test for NULL that it is written as. -/
theorem connectives_sound (v : Evaluation) (p q : Predicate) (ps : List Predicate) (x : Operand)
    (items : List Operand) :
    (conj p q).truth v = (p.truth v).and (q.truth v) ∧
    (disj p q).truth v = (p.truth v).or (q.truth v) ∧
    (conjAll ps).truth v = .all (ps.map (truth v)) ∧
    (disjAll ps).truth v = .any (ps.map (truth v)) ∧
    p.negate.truth v = (p.truth v).not ∧
    (inList x items).truth v = .any (items.map (v.compares .eq x)) ∧
    (notInList x items).truth v = .all (items.map (v.compares .neq x)) ∧
    (∀ format, (compare x .eq .null).render format = (isNull x).render format ∧
      (compare x .neq .null).render format = (isNotNull x).render format) ∧
    (compare x .eq .null).truth v = .ofBool (x.value v).isNull ∧
    (compare x .neq .null).truth v = .ofBool !(x.value v).isNull :=
  ⟨truth_conj p q, truth_disj p q, truth_conjAll ps, truth_disjAll ps, truth_negate p,
    truth_inList x items, (truth_notInList x items).trans (v.not_isIn x items),
    fun _ => ⟨rfl, rfl⟩, rfl, Truth.not_ofBool _⟩

end Predicate

/-! ## Equality -/

namespace Evaluation

variable (v : Evaluation)

def Decides (x y : Operand) (outcome : Bool) : Prop :=
  x.value v ≠ .null ∧ y.value v ≠ .null ∧ v.compare .eq (x.value v) (y.value v) = outcome

theorem compares_eq_ofBool_iff (x y : Operand) (outcome : Bool) :
    v.compares .eq x y = .ofBool outcome ↔ v.Decides x y outcome := by
  unfold compares Decides
  rw [ne_eq, ne_eq, ← SqlValue.isNull_iff, ← SqlValue.isNull_iff]
  cases (x.value v).isNull <;> cases (y.value v).isNull <;>
    cases v.compare .eq (x.value v) (y.value v) <;> cases outcome <;> simp [Truth.ofBool]

/-- A comparison is written as it is, unless it is one with the word NULL. -/
theorem written_eq_compares (op : CompareOp) (x : Operand) {y : Operand} (hy : y ≠ .null) :
    v.written op x y = v.compares op x y := by
  cases y with
  | null => exact absurd rfl hy
  | column _ _ | param _ => cases op <;> rfl

end Evaluation

namespace Predicate

variable {v : Evaluation} {left right : Operand}

theorem differentLiterals_iff :
    differentLiterals left right = Bool.true ↔ ∃ a b, left = .param (.anonymous a) ∧
      right = .param (.anonymous b) ∧ a ≠ b := by
  constructor
  · intro h
    unfold differentLiterals at h
    split at h
    · exact ⟨_, _, rfl, rfl, bne_iff_ne.mp h⟩
    · cases h
  · rintro ⟨a, b, rfl, rfl, hne⟩
    exact bne_iff_ne.mpr hne

/-- Equality says the same of a row, decided beforehand or as it is written. -/
def KeepsTruth (v : Evaluation) (left right : Operand) : Prop :=
  (equal left right).truth v = (compare left .eq right).truth v

/-- What is taken to be equal must be so for the database, and different literals unequal. -/
theorem keepsTruth_iff (v : Evaluation) (left right : Operand) :
    KeepsTruth v left right ↔
      (left = right → left = .null ∨ v.Decides left right Bool.true) ∧
      ∀ a b, left = .param (.anonymous a) → right = .param (.anonymous b) → a ≠ b →
        v.Decides left right Bool.false := by
  unfold KeepsTruth equal
  by_cases hsame : left = right
  · subst hsame
    rw [if_pos rfl]
    have hliterals : ∀ a b, left = .param (.anonymous a) → left = .param (.anonymous b) → a ≠ b →
        v.Decides left left Bool.false := by
      rintro a b rfl ⟨⟩ hne
      exact absurd rfl hne
    rw [and_iff_left hliterals, eq_self, true_imp_iff]
    by_cases hnull : left = .null
    · subst hnull
      exact iff_of_true rfl (.inl rfl)
    · rw [or_iff_right hnull, ← v.compares_eq_ofBool_iff, ← v.written_eq_compares .eq left hnull]
      exact eq_comm
  · rw [if_neg hsame]
    have hfirst : left = right → left = .null ∨ v.Decides left right Bool.true :=
      fun h => absurd h hsame
    rw [and_iff_right hfirst]
    by_cases hdifferent : differentLiterals left right = Bool.true
    · obtain ⟨a, b, rfl, rfl, hne⟩ := differentLiterals_iff.mp hdifferent
      rw [if_pos hdifferent]
      have hwritten := v.written_eq_compares .eq (.param (.anonymous a))
        (y := .param (.anonymous b)) nofun
      constructor
      · rintro h _ _ ⟨⟩ ⟨⟩ -
        rw [← v.compares_eq_ofBool_iff, ← hwritten]
        exact h.symm
      · intro h
        have hdecides := h a b rfl rfl hne
        rw [← v.compares_eq_ofBool_iff, ← hwritten] at hdecides
        exact hdecides.symm
    · rw [if_neg hdifferent]
      refine iff_of_true rfl fun a b hleft hright hne => ?_
      exact absurd (differentLiterals_iff.mpr ⟨a, b, hleft, hright, hne⟩) hdifferent

end Predicate

/-! ## Databases that compare as in SQL -/

namespace SqlValue

/-- The integer of a value, whatever its width. -/
def integer? : SqlValue → Option Int
  | int value => some value.toInt
  | bigInt value => some value.toInt
  | _ => none

end SqlValue

theorem Dialect.coerce_eq_null_iff (d : Dialect) (value : SqlValue) :
    d.coerce value = .null ↔ value = .null := by
  cases d <;> cases value <;> simp [coerce]

def Double.isZero (x : Double) : Bool := x.significand == 0

/-- What all databases have in common about equality: a value equals itself, integers are equal by
their value alone, and doubles by theirs, so that zeros are equal. -/
structure Evaluation.ComparesAsSql (v : Evaluation) : Prop where
  self : ∀ a, a ≠ .null → v.compare .eq a a = true
  integers : ∀ a b m n, a.integer? = some m → b.integer? = some n →
    (v.compare .eq a b = true ↔ m = n)
  doubles : ∀ x y : Double, x.isNaN = false → y.isNaN = false →
    (v.compare .eq (.double x) (.double y) = true ↔ x = y ∨ x.isZero ∧ y.isZero)

namespace Predicate

variable {v : Evaluation}

theorem keepsTruth_self (hsql : v.ComparesAsSql) (x : Operand) :
    KeepsTruth v x x ↔ x = .null ∨ x.value v ≠ .null := by
  have hliterals : ∀ a b, x = .param (.anonymous a) → x = .param (.anonymous b) → a ≠ b →
      v.Decides x x Bool.false := by
    rintro a b rfl ⟨⟩ hne
    exact absurd rfl hne
  rw [keepsTruth_iff, and_iff_left hliterals, eq_self, true_imp_iff]
  refine or_congr_right ⟨fun h => h.1, fun h => ⟨h, h, hsql.self _ h⟩⟩

/-- Literals must be the same if the database takes for equal what it gets of them. -/
theorem keepsTruth_literals_iff (hsql : v.ComparesAsSql) (a b : SqlValue) :
    KeepsTruth v (.param (.anonymous a)) (.param (.anonymous b)) ↔
      a ≠ .null ∧ b ≠ .null ∧
        (v.compare .eq (v.dialect.coerce a) (v.dialect.coerce b) = Bool.true → a = b) := by
  have hnull (value : SqlValue) : v.dialect.coerce value ≠ .null ↔ value ≠ .null :=
    not_congr (v.dialect.coerce_eq_null_iff value)
  by_cases hsame : a = b
  · subst hsame
    have hself : KeepsTruth v (.param (.anonymous a)) (.param (.anonymous a)) ↔ a ≠ .null := by
      rw [keepsTruth_self hsql, or_iff_right nofun]
      exact hnull a
    rw [hself]
    exact ⟨fun h => ⟨h, h, fun _ => rfl⟩, fun h => h.1⟩
  · have hfirst : Operand.param (.anonymous a) ≠ .param (.anonymous b) := by
      rintro ⟨⟩
      exact hsame rfl
    rw [keepsTruth_iff, and_iff_right fun h => absurd h hfirst, ← hnull a, ← hnull b]
    constructor
    · intro h
      obtain ⟨ha, hb, hunequal⟩ := h a b rfl rfl hsame
      exact ⟨ha, hb, fun hequal => by cases hequal.symm.trans hunequal⟩
    · rintro ⟨ha, hb, hequal⟩ _ _ ⟨⟩ ⟨⟩ -
      exact ⟨ha, hb, Bool.eq_false_iff.mpr (mt hequal hsame)⟩

theorem keepsTruth_integers_iff (hsql : v.ComparesAsSql) {a b : SqlValue} {m n : Int}
    (ha : a.integer? = some m) (hb : b.integer? = some n) :
    KeepsTruth v (.param (.anonymous a)) (.param (.anonymous b)) ↔ (m = n → a = b) := by
  have hinteger {c : SqlValue} {k : Int} (hc : c.integer? = some k) :
      c ≠ .null ∧ v.dialect.coerce c = c := by
    cases c with
    | int _ | bigInt _ => exact ⟨nofun, by cases v.dialect <;> rfl⟩
    | null | boolean _ | double _ | text _ | date _ | timestamp _ | uuid _ | bytes _ => cases hc
  obtain ⟨hanull, hacoerce⟩ := hinteger ha
  obtain ⟨hbnull, hbcoerce⟩ := hinteger hb
  rw [keepsTruth_literals_iff hsql, hacoerce, hbcoerce, hsql.integers a b m n ha hb,
    and_iff_right hanull, and_iff_right hbnull]

theorem keepsTruth_doubles_iff (hsql : v.ComparesAsSql) {x y : Double} (hx : x.isNaN = Bool.false)
    (hy : y.isNaN = Bool.false) :
    KeepsTruth v (.param (.anonymous (.double x))) (.param (.anonymous (.double y))) ↔
      (x.isZero → y.isZero → x = y) := by
  have hcoerce (z : Double) : v.dialect.coerce (.double z) = .double z := by
    cases v.dialect <;> rfl
  rw [keepsTruth_literals_iff hsql, hcoerce, hcoerce, hsql.doubles x y hx hy, and_iff_right nofun,
    and_iff_right nofun, SqlValue.double.injEq]
  exact ⟨fun h hx hy => h (.inr ⟨hx, hy⟩), fun h hor => hor.elim id fun hzero => h hzero.1 hzero.2⟩

/-- Comparisons say the same, simplified or as they are written, but for two kinds of equality. That
of an operand with itself is kept only where its value is not NULL, and the database finds it equal
to itself, unless it is the word NULL. That of different literals is kept only where neither is NULL
and the database finds them unequal: in all databases that compare as in SQL neither that of equal
integers of different widths, nor that of zeros of different signs. -/
theorem comparison_keeps_truth_iff (v : Evaluation) :
    (∀ left right, KeepsTruth v left right ↔
      (left = right → left = .null ∨ v.Decides left right Bool.true) ∧
      ∀ a b, left = .param (.anonymous a) → right = .param (.anonymous b) → a ≠ b →
        v.Decides left right Bool.false) ∧
    (∀ left op right, (comparison left op right).truth v = (compare left op right).truth v ↔
      (op = .eq → KeepsTruth v left right)) ∧
    (v.ComparesAsSql →
      (∀ x, KeepsTruth v x x ↔ x = .null ∨ x.value v ≠ .null) ∧
      (∀ a b, KeepsTruth v (.param (.anonymous a)) (.param (.anonymous b)) ↔
        a ≠ .null ∧ b ≠ .null ∧
          (v.compare .eq (v.dialect.coerce a) (v.dialect.coerce b) = Bool.true → a = b)) ∧
      (∀ a b m n, a.integer? = some m → b.integer? = some n →
        (KeepsTruth v (.param (.anonymous a)) (.param (.anonymous b)) ↔ (m = n → a = b))) ∧
      ∀ x y : Double, x.isNaN = Bool.false → y.isNaN = Bool.false →
        (KeepsTruth v (.param (.anonymous (.double x))) (.param (.anonymous (.double y))) ↔
          (x.isZero → y.isZero → x = y))) := by
  refine ⟨keepsTruth_iff v, fun left op right => ?_, fun hsql => ⟨keepsTruth_self hsql,
    keepsTruth_literals_iff hsql, fun a b m n => keepsTruth_integers_iff hsql,
    fun x y => keepsTruth_doubles_iff hsql⟩⟩
  cases op with
  | eq => exact ⟨fun h _ => h, fun h => h rfl⟩
  | neq | lt | lte | gt | gte | like => exact iff_of_true rfl nofun

end Predicate

namespace Sample

def sqlEqual (a b : SqlValue) : Bool :=
  match a.integer?, b.integer? with
  | some m, some n => m == n
  | _, _ =>
    match a, b with
    | .double x, .double y => x == y || x.isZero && y.isZero
    | a, b => a == b

/-- A row of a database that compares as in SQL, with values for the columns of these names. -/
def sqlRow (values : List (String × SqlValue)) : Evaluation where
  dialect := .ansi
  column _ name := (values.lookup name).getD .null
  bindVar _ := .null
  compare op a b := if op = .neq then !sqlEqual a b else sqlEqual a b
  compare_neq _ _ := rfl

theorem comparesAsSql_sqlRow (values : List (String × SqlValue)) :
    (sqlRow values).ComparesAsSql where
  self a _ := by
    change sqlEqual a a = true
    cases a <;> simp [sqlEqual, SqlValue.integer?]
  integers a b m n ha hb := by
    change sqlEqual a b = true ↔ _
    simp [sqlEqual, ha, hb]
  doubles x y _ _ := by
    change sqlEqual (.double x) (.double y) = true ↔ _
    simp [sqlEqual, SqlValue.integer?]

/-- A city with a name, and one without. -/
def oslo : Evaluation := sqlRow [("name", .text "Oslo")]

def nameless : Evaluation := sqlRow []

def nameColumn : Operand := .column "_c" "name"

def boundName : Operand := .param (.bindVar "name")

def given (value : SqlValue) : Operand := .param (.anonymous value)

def zero : Operand := given (.double ⟨0⟩)

def minusZero : Operand := given (.double (Double.negate ⟨0⟩))

end Sample

namespace Predicate

open Sample

theorem comparison_keeps_truth_iff_oslo :
    oslo.ComparesAsSql ∧ KeepsTruth oslo nameColumn nameColumn ∧
      KeepsTruth oslo (given (.int 1)) (given (.bigInt 2)) := by
  have hsql : oslo.ComparesAsSql := comparesAsSql_sqlRow _
  obtain ⟨hself, -, hintegers, -⟩ := (comparison_keeps_truth_iff oslo).2.2 hsql
  exact ⟨hsql, (hself _).mpr (.inr (by decide)),
    (hintegers (.int 1) (.bigInt 2) 1 2 rfl rfl).mpr (by decide)⟩

/-- Of a city without a name equality is decided against the database: of a column, a bind variable
or a literal NULL with itself, of NULL with another literal, of an integer with itself in another
width, and of two zeros. -/
theorem exists_equality_lost :
    nameless.ComparesAsSql ∧
    ((equal nameColumn nameColumn).truth nameless = .holds ∧
      (compare nameColumn .eq nameColumn).truth nameless = .unknown) ∧
    ((equal boundName boundName).truth nameless = .holds ∧
      (compare boundName .eq boundName).truth nameless = .unknown) ∧
    ((equal (given .null) (given .null)).truth nameless = .holds ∧
      (compare (given .null) .eq (given .null)).truth nameless = .unknown) ∧
    ((comparison (given .null) .eq (given (.int 1))).truth nameless = .fails ∧
      (compare (given .null) .eq (given (.int 1))).truth nameless = .unknown) ∧
    ((comparison (given (.int 1)) .eq (given (.bigInt 1))).truth nameless = .fails ∧
      (compare (given (.int 1)) .eq (given (.bigInt 1))).truth nameless = .holds) ∧
    (equal zero minusZero).truth nameless = .fails ∧
    (compare zero .eq minusZero).truth nameless = .holds :=
  ⟨comparesAsSql_sqlRow [], by decide +kernel⟩

end Predicate

end RelMap
