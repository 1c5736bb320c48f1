import RelMap.Proofs.Sql.Reading
import RelMap.Proofs.Sql.Truth

/-!
# Reading conditions back

A condition without named or numbered parameters can be read back from its text and its values: the
parentheses around connectives and the commas in lists tell how it is grouped, whatever the names in
it are. Two conditions are written alike only if they are the same, apart from equality with the
word NULL, which is written as the test for NULL.
-/

namespace RelMap

def CompareOp.all : List CompareOp := [eq, neq, lt, lte, gt, gte, like]

theorem CompareOp.mem_all (op : CompareOp) : op ∈ all := by
  cases op <;> decide

namespace Predicate

/-- Equality with the word NULL is replaced by the test for NULL, inequality by its opposite. -/
def normal : Predicate → Predicate
  | compare x .eq .null => isNull x
  | compare x .neq .null => isNotNull x
  | and left right => and left.normal right.normal
  | or left right => or left.normal right.normal
  | not inner => not inner.normal
  | p => p

def operands : Predicate → List Operand
  | true | false => []
  | compare x _ y => [x, y]
  | .in x items | notIn x items => x :: items
  | between x low high => [x, low, high]
  | isNull x | isNotNull x => [x]
  | and left right | or left right => left.operands ++ right.operands
  | not inner => inner.operands

def Anonymous (p : Predicate) : Prop := ∀ x ∈ p.operands, x.isAnonymous

instance (p : Predicate) : Decidable p.Anonymous :=
  inferInstanceAs (Decidable (∀ x ∈ p.operands, _))

def script (d : Dialect) (p : Predicate) : Script := (p.render ⟨d, Bool.true⟩).script

end Predicate

namespace Reader

/-! ## Readers of conditions -/

/-- The members of a list behind the first one, and the end of the list. -/
def moreItems (d : Dialect) : Nat → Reader (List Operand)
  | 0 => failure
  | n + 1 =>
    choice
      [(")", pure []),
       (", ", do
          let x ← operand d
          (x :: ·) <$> moreItems d n)]
      failure

def items (d : Dialect) (n : Nat) : Reader (List Operand) :=
  choice [(")", pure [])] do
    let x ← operand d
    (x :: ·) <$> moreItems d n

/-- How a condition goes on behind its first operand. -/
def endings (d : Dialect) (n : Nat) (x : Operand) : List (String × Reader Predicate) :=
  [(" IS NULL", pure (.isNull x)),
   (" IS NOT NULL", pure (.isNotNull x)),
   (" IN (", .in x <$> items d n),
   (" NOT IN (", .notIn x <$> items d n),
   (" BETWEEN ", do
      let low ← operand d
      word " AND "
      .between x low <$> operand d)] ++
  CompareOp.all.map fun op => (" " ++ op.sql ++ " ", .compare x op <$> operand d)

def closed (f : Predicate → Predicate) (r : Reader Predicate) : Reader Predicate := do
  let p ← r
  word ")"
  return f p

def connectives : List (String × (Predicate → Predicate → Predicate)) :=
  [(" AND ", .and), (" OR ", .or)]

def predicate (d : Dialect) : Nat → Reader Predicate
  | 0 => failure
  | n + 1 =>
    choice
      [("TRUE", pure .true),
       ("FALSE", pure .false),
       ("NOT(", closed .not (predicate d n)),
       ("(", do
          let left ← predicate d n
          choice (connectives.map fun (s, f) => (s, closed (f left) (predicate d n))) failure)] do
    let x ← operand d
    choice (endings d n x) failure

variable {d : Dialect} {n : Nat}

/-! ## Lists -/

/-- The members of a list behind the first one as they are written. -/
def moreScript (d : Dialect) : List Operand → Script
  | [] => .word ")"
  | x :: rest => .word ", " ++ (x.script d ++ moreScript d rest)

theorem separate_moreScript (rest : List Operand) : (moreScript d rest).Separate d := by
  cases rest with
  | nil => exact Script.separate_word (by decide)
  | cons x rest => exact (Script.separate_word (by decide)).append _

theorem takes_moreItems {rest : List Operand} (hrest : ∀ x ∈ rest, x.isAnonymous)
    (hn : (moreScript d rest).text.length ≤ n) :
    Takes d (moreItems d n) (moreScript d rest) rest := by
  have hentries : [")", ", "].Pairwise Apart := by decide
  induction rest generalizing n with
  | nil =>
    cases n with
    | zero => simp [moreScript] at hn
    | succ n => exact .choice_word hentries (.head _)
  | cons x rest ih =>
    cases n with
    | zero => simp [moreScript] at hn
    | succ n =>
      obtain ⟨hx, hrest⟩ := List.forall_mem_cons.mp hrest
      have hlength : (moreScript d rest).text.length ≤ n := by
        simp [moreScript] at hn
        omega
      have htail := (ih hrest hlength).map (x :: ·)
      exact .choice hentries (.tail _ (.head _))
        ((takes_operand hx).bind htail (separate_moreScript rest))

theorem script_join (x : Operand) (rest : List Operand) :
    (Fragment.join ", " ((x :: rest).map (Operand.render ⟨d, true⟩))).script ++ .word ")" =
      x.script d ++ moreScript d rest := by
  induction rest generalizing x with
  | nil => rfl
  | cons y rest ih =>
    have hjoin : Fragment.join ", " ((x :: y :: rest).map (Operand.render ⟨d, true⟩)) =
        x.render ⟨d, true⟩ ++ Fragment.ofText ", " ++
          Fragment.join ", " ((y :: rest).map (Operand.render ⟨d, true⟩)) := rfl
    rw [hjoin, Fragment.script_append, Fragment.script_append, Fragment.script_ofText,
      Script.append_assoc, ih, Script.append_assoc]
    rfl

def itemsScript (d : Dialect) (items : List Operand) : Script :=
  (Fragment.join ", " (items.map (Operand.render ⟨d, true⟩))).script ++ .word ")"

theorem takes_items {xs : List Operand} (hxs : ∀ x ∈ xs, x.isAnonymous)
    (hn : (itemsScript d xs).text.length ≤ n) : Takes d (items d n) (itemsScript d xs) xs := by
  have hentries : [")"].Pairwise Apart := by decide
  cases xs with
  | nil => exact .choice_word hentries (.head _)
  | cons x rest =>
    obtain ⟨hx, hrest⟩ := List.forall_mem_cons.mp hxs
    have hscript : itemsScript d (x :: rest) = x.script d ++ moreScript d rest :=
      script_join x rest
    have hlength : (moreScript d rest).text.length ≤ n := by
      rw [hscript, Script.text_append, List.length_append] at hn
      omega
    -- the list does not end where its first member begins
    have happart := x.apart_opening d ")" (by decide)
    have hlist : Takes d (do let x ← operand d; (x :: ·) <$> moreItems d n)
        (x.script d ++ moreScript d rest) (x :: rest) :=
      (takes_operand hx).bind ((takes_moreItems hrest hlength).map (x :: ·))
        (separate_moreScript rest)
    obtain ⟨w, hw⟩ := x.exists_script_eq d
    rw [hscript]
    rw [hw, Script.append_assoc] at hlist ⊢
    exact .choice_apart (List.forall_mem_singleton.mpr happart) hlist

/-! ## Conditions -/

theorem takes_closed (f : Predicate → Predicate) {r : Reader Predicate} {w : Script}
    {p : Predicate} (h : Takes d r w p) : Takes d (closed f r) (w ++ .word ")") (f p) := by
  have hclosing : Takes d (do word ")"; return f p) (.word ")" ++ .word "") (f p) :=
    (Takes.pure (f p)).behind_word ")"
  rw [Script.append_empty] at hclosing
  exact h.bind hclosing (Script.separate_word (by decide))

theorem openings_apart : ["TRUE", "FALSE", "NOT(", "("].Pairwise Apart := by decide

theorem takes_true : Takes d (predicate d (n + 1)) (.word "TRUE") .true :=
  .choice_word openings_apart (.head _)

theorem takes_false : Takes d (predicate d (n + 1)) (.word "FALSE") .false :=
  .choice_word openings_apart (.tail _ (.head _))

theorem takes_not {w : Script} {p : Predicate} (h : Takes d (predicate d n) w p) :
    Takes d (predicate d (n + 1)) (.word "NOT(" ++ (w ++ .word ")")) (.not p) :=
  .choice openings_apart (.tail _ (.tail _ (.head _))) (takes_closed .not h)

theorem takes_connective {w w' : Script} {p q : Predicate} {s : String}
    {f : Predicate → Predicate → Predicate} (hmem : (s, f) ∈ connectives)
    (hp : Takes d (predicate d n) w p) (hq : Takes d (predicate d n) w' q) :
    Takes d (predicate d (n + 1)) (.word "(" ++ (w ++ (.word s ++ (w' ++ .word ")")))) (f p q) := by
  have hwords : (connectives.map Prod.fst).Pairwise Apart := by decide
  have hpunctuated : ∀ s ∈ connectives.map Prod.fst, Script.punctuated s := by decide
  have hright : Takes d
      (choice (connectives.map fun (s, f) => (s, closed (f p) (predicate d n))) failure)
      (.word s ++ (w' ++ .word ")")) (f p q) :=
    .choice hwords (List.mem_map_of_mem hmem) (takes_closed (f p) hq)
  have hseparate : (Script.word s).Separate d :=
    Script.separate_word (hpunctuated s (List.mem_map_of_mem hmem))
  exact .choice openings_apart (.tail _ (.tail _ (.tail _ (.head _))))
    (hp.bind hright (hseparate.append _))

def endingWords : List String :=
  [" IS NULL", " IS NOT NULL", " IN (", " NOT IN (", " BETWEEN "] ++
    CompareOp.all.map fun op => " " ++ op.sql ++ " "

/-- A condition goes on behind its first operand in one of the known ways. -/
theorem takes_ending {x : Operand} (hx : x.isAnonymous) {s : String} {r : Reader Predicate}
    {w : Script} {p : Predicate} (hmem : (s, r) ∈ endings d n x) (h : Takes d r w p) :
    Takes d (predicate d (n + 1)) (x.script d ++ (.word s ++ w)) p := by
  have hwords : endingWords.Pairwise Apart := by decide
  have hpunctuated : ∀ s ∈ endingWords, Script.punctuated s := by decide
  have hseparate : (Script.word s).Separate d :=
    Script.separate_word (hpunctuated s (List.mem_map_of_mem (f := Prod.fst) hmem))
  have hcondition : Takes d (do let x ← operand d; choice (endings d n x) failure)
      (x.script d ++ (.word s ++ w)) p :=
    (takes_operand hx).bind (.choice hwords hmem h) (hseparate.append w)
  obtain ⟨w', hw'⟩ := x.exists_script_eq d
  -- no opening word is mistaken for the operand, so the reader gets as far as the last entry
  rw [hw', Script.append_assoc] at hcondition ⊢
  refine .choice_apart ?_ hcondition
  exact fun s hs => x.apart_opening d s (List.mem_append_left [")"] hs)

theorem takes_between {x low high : Operand} (hx : x.isAnonymous) (hlow : low.isAnonymous)
    (hhigh : high.isAnonymous) :
    Takes d (predicate d (n + 1))
      (x.script d ++ (.word " BETWEEN " ++ (low.script d ++ (.word " AND " ++ high.script d))))
      (.between x low high) := by
  have hbounds : Takes d
      (do let low ← operand d; word " AND "; Predicate.between x low <$> operand d)
      (low.script d ++ (.word " AND " ++ high.script d)) (.between x low high) :=
    (takes_operand hlow).bind
      (((takes_operand hhigh).map (Predicate.between x low)).behind_word " AND ")
      ((Script.separate_word (by decide)).append _)
  refine takes_ending hx ?_ hbounds
  simp [endings]

theorem takes_compare {x y : Operand} (op : CompareOp) (hx : x.isAnonymous) (hy : y.isAnonymous) :
    Takes d (predicate d (n + 1)) (x.script d ++ (.word (" " ++ op.sql ++ " ") ++ y.script d))
      (.compare x op y) := by
  refine takes_ending hx ?_ ((takes_operand hy).map (Predicate.compare x op))
  exact List.mem_append_right _ (List.mem_map_of_mem op.mem_all)

end Reader

namespace Predicate

variable {d : Dialect}

/-! ## How conditions are written -/

theorem script_binary (f : Fragment) (op : String) (g : Fragment) :
    (binary f op g).script = f.script ++ (.word (" " ++ op ++ " ") ++ g.script) := by
  rw [binary]
  simp only [Fragment.script_append, Fragment.script_ofText, Script.word_append,
    Script.append_assoc]

def connected (d : Dialect) (p : Predicate) (op : String) (q : Predicate) : Fragment :=
  .parenthesized (binary (p.render ⟨d, Bool.true⟩) op (q.render ⟨d, Bool.true⟩))

theorem script_connected (p : Predicate) (op : String) (q : Predicate) :
    (connected d p op q).script =
      .word "(" ++ (p.script d ++ (.word (" " ++ op ++ " ") ++ (q.script d ++ .word ")"))) := by
  rw [connected, Fragment.script_parenthesized, script_binary]
  simp only [Script.append_assoc]
  rfl

theorem script_list (x : Operand) (op : String) (items : List Operand) :
    (list ⟨d, Bool.true⟩ x op items).script =
      x.script d ++ (.word (" " ++ op ++ " (") ++ Reader.itemsScript d items) := by
  have hopening : Script.word (" " ++ op ++ " (") = .word (" " ++ op ++ " ") ++ .word "(" := by
    have hspace : " (" = " " ++ "(" := by decide
    rw [← Script.word_append, hspace, ← String.append_assoc]
  rw [list, script_binary, Fragment.script_parenthesized, hopening, Reader.itemsScript]
  simp only [Script.append_assoc]
  rfl

theorem script_test (x : Operand) (s : String) :
    (x.render ⟨d, Bool.true⟩ ++ Fragment.ofText s).script =
      x.script d ++ (.word s ++ .word "") := by
  rw [Fragment.script_append, Fragment.script_ofText, Script.append_empty]
  rfl

theorem script_not (p : Predicate) :
    (not p).script d = .word "NOT(" ++ (p.script d ++ .word ")") := by
  have hopening : "NOT(" = "NOT" ++ "(" := by decide
  rw [script, render, Fragment.script_append, Fragment.script_ofText,
    Fragment.script_parenthesized, hopening, Script.word_append]
  simp only [Script.append_assoc]
  rfl

/-- A comparison is written as it is, unless it is one with the word NULL. -/
theorem compare_forms (x : Operand) (op : CompareOp) (y : Operand) :
    compare x op y = compare x .eq .null ∨ compare x op y = compare x .neq .null ∨
    (compare x op y).normal = compare x op y ∧ ∀ format,
      (compare x op y).render format = binary (x.render format) op.sql (y.render format) := by
  cases op <;> cases y <;> simp [normal, render]

theorem render_normal (format : SqlFormat) (p : Predicate) :
    p.normal.render format = p.render format := by
  induction p with
  | compare x op y =>
    rcases compare_forms x op y with h | h | ⟨h, -⟩ <;> rw [h] <;> rfl
  | and left right ihl ihr | or left right ihl ihr => rw [normal, render, render, ihl, ihr]
  | not inner ih => rw [normal, render, render, ih]
  | true | false | «in» x items | notIn x items | between x low high | isNull x | isNotNull x => rfl

theorem truth_normal (v : Evaluation) (p : Predicate) : p.normal.truth v = p.truth v := by
  induction p with
  | compare x op y =>
    rcases compare_forms x op y with h | h | ⟨h, -⟩ <;> rw [h] <;> rfl
  | and left right ihl ihr | or left right ihl ihr => rw [normal, truth, truth, ihl, ihr]
  | not inner ih => rw [normal, truth, truth, ih]
  | true | false | «in» x items | notIn x items | between x low high | isNull x | isNotNull x => rfl

/-! ## Conditions read back -/

theorem takes_list {x : Operand} {items : List Operand} (hx : x.isAnonymous)
    (hitems : ∀ y ∈ items, y.isAnonymous) {op : String} {f : List Operand → Predicate} {n : Nat}
    (hmem : (" " ++ op ++ " (", f <$> Reader.items d n) ∈ Reader.endings d n x)
    (hn : (list ⟨d, Bool.true⟩ x op items).script.text.length ≤ n) :
    (Reader.predicate d (n + 1)).Takes d (list ⟨d, Bool.true⟩ x op items).script (f items) := by
  rw [script_list] at hn ⊢
  simp only [Script.text_append, List.length_append] at hn
  have hlength : (Reader.itemsScript d items).text.length ≤ n := by omega
  exact Reader.takes_ending hx hmem ((Reader.takes_items hitems hlength).map f)

theorem takes_connected {p q p' q' : Predicate} {op : String} {n : Nat}
    {f : Predicate → Predicate → Predicate} (hmem : (" " ++ op ++ " ", f) ∈ Reader.connectives)
    (hp : ∀ {n}, (p.script d).text.length ≤ n →
      (Reader.predicate d (n + 1)).Takes d (p.script d) p')
    (hq : ∀ {n}, (q.script d).text.length ≤ n →
      (Reader.predicate d (n + 1)).Takes d (q.script d) q')
    (hn : (connected d p op q).script.text.length ≤ n) :
    (Reader.predicate d (n + 1)).Takes d (connected d p op q).script (f p' q') := by
  rw [script_connected] at hn ⊢
  simp only [Script.text_append, Script.text_word, List.length_append] at hn
  have hparenthesis : "(".toList.length = 1 := by decide
  obtain ⟨m, rfl⟩ : ∃ m, n = m + 1 := Nat.exists_eq_add_one.mpr (by omega)
  exact Reader.takes_connective hmem (hp (by omega)) (hq (by omega))

theorem takes_predicate {p : Predicate} {n : Nat} (hp : p.Anonymous)
    (hn : (p.script d).text.length ≤ n) :
    (Reader.predicate d (n + 1)).Takes d (p.script d) p.normal := by
  -- the parts of a condition are shorter than it is, so they are read with a smaller number
  induction p generalizing n with
  | true =>
    rw [script, render, Fragment.script_ofText]
    exact Reader.takes_true
  | false =>
    rw [script, render, Fragment.script_ofText]
    exact Reader.takes_false
  | compare x op y =>
    have hx : x.isAnonymous := hp x (.head _)
    have hy : y.isAnonymous := hp y (.tail _ (.head _))
    rcases compare_forms x op y with h | h | ⟨hnormal, hrender⟩
    · rw [h, script, render, script_test]
      exact Reader.takes_ending hx (.head _) (.pure _)
    · rw [h, script, render, script_test]
      exact Reader.takes_ending hx (.tail _ (.head _)) (.pure _)
    · rw [script, hrender, hnormal, script_binary]
      exact Reader.takes_compare op hx hy
  | «in» x items =>
    obtain ⟨hx, hitems⟩ := List.forall_mem_cons.mp hp
    exact takes_list hx hitems (.tail _ (.tail _ (.head _))) hn
  | notIn x items =>
    obtain ⟨hx, hitems⟩ := List.forall_mem_cons.mp hp
    exact takes_list hx hitems (.tail _ (.tail _ (.tail _ (.head _)))) hn
  | between x low high =>
    rw [script, render, script_binary, script_binary]
    exact Reader.takes_between (hp x (.head _)) (hp low (.tail _ (.head _)))
      (hp high (.tail _ (.tail _ (.head _))))
  | isNull x =>
    rw [script, render, script_test]
    exact Reader.takes_ending (hp x (.head _)) (.head _) (.pure _)
  | isNotNull x =>
    rw [script, render, script_test]
    exact Reader.takes_ending (hp x (.head _)) (.tail _ (.head _)) (.pure _)
  | and left right ihl ihr =>
    obtain ⟨hleft, hright⟩ := List.forall_mem_append.mp hp
    exact takes_connected (.head _) (ihl hleft) (ihr hright) hn
  | or left right ihl ihr =>
    obtain ⟨hleft, hright⟩ := List.forall_mem_append.mp hp
    exact takes_connected (.tail _ (.head _)) (ihl hleft) (ihr hright) hn
  | not inner ih =>
    rw [script_not] at hn ⊢
    simp only [Script.text_append, Script.text_word, List.length_append] at hn
    have hparenthesis : ")".toList.length = 1 := by decide
    obtain ⟨m, rfl⟩ : ∃ m, n = m + 1 := Nat.exists_eq_add_one.mpr (by omega)
    exact Reader.takes_not (ih hp (by omega))

def ofSql (d : Dialect) (sql : String × List SqlValue) : Option Predicate :=
  match (Reader.predicate d (sql.1.toList.length + 1)).run ⟨sql.1.toList, sql.2⟩ with
  | some (p, ⟨[], []⟩) => p
  | _ => none

theorem ofSql_toSql (d : Dialect) {p : Predicate} (hp : p.Anonymous) :
    ofSql d (p.render ⟨d, Bool.true⟩).toSql = p.normal := by
  have htaken := takes_predicate hp (Nat.le_refl (p.script d).text.length) (.word "") nofun
  rw [Script.append_empty] at htaken
  unfold ofSql
  change (match (Reader.predicate d ((p.script d).text.length + 1)).run (p.script d) with
    | some (p, ⟨[], []⟩) => some p
    | _ => none) = _
  rw [htaken]
  rfl

theorem normal_eq_of_toSql_eq {p q : Predicate} (hp : p.Anonymous) (hq : q.Anonymous)
    (h : (p.render ⟨d, Bool.true⟩).toSql = (q.render ⟨d, Bool.true⟩).toSql) :
    p.normal = q.normal := by
  have hread : some p.normal = some q.normal := by
    rw [← ofSql_toSql d hp, h, ofSql_toSql d hq]
  exact Option.some.inj hread

/-- Conditions that are written alike say the same of every row. -/
theorem truth_eq_of_toSql_eq (v : Evaluation) {p q : Predicate} (hp : p.Anonymous)
    (hq : q.Anonymous) (h : (p.render ⟨d, Bool.true⟩).toSql = (q.render ⟨d, Bool.true⟩).toSql) :
    p.truth v = q.truth v := by
  rw [← truth_normal v p, normal_eq_of_toSql_eq hp hq h, truth_normal]

/-- Conditions without named or numbered parameters have the same text and the same values exactly
if they are the same, where equality with the word NULL counts as the test for NULL. -/
theorem toSql_eq_iff_normal_eq (d : Dialect) {p q : Predicate} (hp : p.Anonymous)
    (hq : q.Anonymous) :
    (p.render ⟨d, Bool.true⟩).toSql = (q.render ⟨d, Bool.true⟩).toSql ↔ p.normal = q.normal := by
  refine ⟨normal_eq_of_toSql_eq hp hq, fun h => ?_⟩
  rw [← render_normal _ p, h, render_normal]

namespace Sample

/-- A column whose name looks like the rest of a condition. -/
def quoted : Operand := .column "t" "x\" BETWEEN ? AND \"y"

def range : Predicate :=
  .between quoted (.param (.anonymous (.int 1))) (.param (.anonymous (.int 5)))

def leftGrouped : Predicate := .and (.and range (.compare quoted .eq .null)) range

def rightGrouped : Predicate := .and range (.and (.compare quoted .eq .null) range)

def leftTested : Predicate := .and (.and range (.isNull quoted)) range

end Sample

theorem toSql_eq_iff_normal_eq_grouped :
    Sample.leftGrouped.Anonymous ∧ Sample.rightGrouped.Anonymous ∧ Sample.leftTested.Anonymous ∧
    (Sample.leftGrouped.render ⟨.ansi, Bool.true⟩).toSql ≠
      (Sample.rightGrouped.render ⟨.ansi, Bool.true⟩).toSql ∧
    (Sample.leftGrouped.render ⟨.ansi, Bool.true⟩).toSql =
      (Sample.leftTested.render ⟨.ansi, Bool.true⟩).toSql := by
  have hleft : Sample.leftGrouped.Anonymous := by decide
  have hright : Sample.rightGrouped.Anonymous := by decide
  have htested : Sample.leftTested.Anonymous := by decide
  refine ⟨hleft, hright, htested, fun h => ?_, ?_⟩
  · have hnormal := (toSql_eq_iff_normal_eq .ansi hleft hright).mp h
    exact absurd hnormal (by decide)
  · exact (toSql_eq_iff_normal_eq .ansi hleft htested).mpr rfl

end Predicate

end RelMap
