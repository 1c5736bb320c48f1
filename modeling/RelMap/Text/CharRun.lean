/-!
# Runs of code points

A character class is given as a list of runs, each an arithmetic progression of code points. The
stride is 1 for a plain interval and 2 where two classes alternate, as capitals and small letters
do.
-/

namespace RelMap.Text

/-- The code points `first`, `first + stride`, ... up to `last`. -/
structure CharRun where
  first : Nat
  last : Nat
  stride : Nat
deriving DecidableEq, Repr

def CharRun.has (run : CharRun) (code : Nat) : Bool :=
  run.first ≤ code && code ≤ run.last && (code - run.first) % run.stride == 0

def inRuns (runs : List CharRun) (c : Char) : Bool :=
  runs.any (·.has c.toNat)

theorem CharRun.has_iff (run : CharRun) (code : Nat) :
    run.has code = true ↔
      run.first ≤ code ∧ code ≤ run.last ∧ (code - run.first) % run.stride = 0 := by
  simp [CharRun.has, and_assoc]

theorem inRuns_iff (runs : List CharRun) (c : Char) :
    inRuns runs c = true ↔ ∃ run ∈ runs, run.has c.toNat = true := by
  simp [inRuns]

end RelMap.Text
