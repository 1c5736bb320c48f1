import RelMap.Proofs.Schema.Leaves

/-!
# Eager paths

From an entity foreign keys lead to other entities, from there further ones, and so on. References
are lazy: they are not followed. Main statement: a walk of the field tree meets each path of foreign
keys once, and each before the paths that go on from it.
-/

namespace RelMap

def Schema.linked? (s : Schema) : Field → Option Entity
  | .foreignKey _ target _ _ => s.entity? target.name
  | .scalar _ _ | .inline _ _ _ | .ref _ _ _ | .converted _ _ => none

/-- Foreign keys that lead on from each other, the first being one of the entity. -/
inductive EagerPath (s : Schema) : Entity → List Leaf → Prop
  | last {e target : Entity} {l : Leaf} (hl : l ∈ e.leaves)
    (htarget : s.linked? l.field = some target) : EagerPath s e [l]
  | further {e target : Entity} {l : Leaf} {path : List Leaf} (hl : l ∈ e.leaves)
    (htarget : s.linked? l.field = some target) (hpath : EagerPath s target path) :
    EagerPath s e (l :: path)

/-- Of two paths the one precedes that is left first, or is only the beginning of the other. -/
def PathPrecedes (p q : List Leaf) : Prop :=
  List.Lex (· < ·) (p.map (·.start)) (q.map (·.start))

theorem PathPrecedes.ne {p q : List Leaf} (h : PathPrecedes p q) : p ≠ q := by
  rintro rfl
  exact List.lt_irrefl _ h

namespace Field

mutual

def eagerPaths (around : List FieldInfo) (start : Nat) : Field → List (List Leaf)
  | .inline info _ fields => eagerPathsOf (around ++ [info]) start fields
  | .foreignKey info target key fields =>
    let l : Leaf := ⟨around, .foreignKey info target key fields, start⟩
    [l] :: (eagerPathsOf [] 0 fields).map (l :: ·)
  | .scalar _ _ | .ref _ _ _ | .converted _ _ => []
termination_by structural f => f

def eagerPathsOf (around : List FieldInfo) (start : Nat) : List Field → List (List Leaf)
  | [] => []
  | f :: rest => f.eagerPaths around start ++ eagerPathsOf around (start + f.width) rest
termination_by structural fs => fs

end

variable {s : Schema}

/-! ## Completeness -/

def PathFrom (s : Schema) (leaves : List Leaf) (p : List Leaf) : Prop :=
  ∃ l ∈ leaves, ∃ target, s.linked? l.field = some target ∧
    (p = [l] ∨ ∃ q, p = l :: q ∧ EagerPath s target q)

theorem eagerPath_iff {e : Entity} {p : List Leaf} : EagerPath s e p ↔ PathFrom s e.leaves p := by
  constructor
  · intro h
    cases h with
    | last hl htarget => exact ⟨_, hl, _, htarget, .inl rfl⟩
    | further hl htarget hpath => exact ⟨_, hl, _, htarget, .inr ⟨_, rfl, hpath⟩⟩
  · rintro ⟨l, hl, target, htarget, rfl | ⟨q, rfl, hpath⟩⟩
    · exact .last hl htarget
    · exact .further hl htarget hpath

theorem pathFrom_append {leaves leaves' p : List Leaf} :
    PathFrom s (leaves ++ leaves') p ↔ PathFrom s leaves p ∨ PathFrom s leaves' p := by
  simp only [PathFrom, List.mem_append, or_and_right, exists_or]

theorem not_pathFrom {l : Leaf} {p : List Leaf} (hl : s.linked? l.field = none) :
    ¬ PathFrom s [l] p := by
  rintro ⟨l', hl', target, htarget, -⟩
  cases List.mem_singleton.mp hl'
  rw [hl] at htarget
  cases htarget

mutual

theorem mem_eagerPaths (around : List FieldInfo) (start : Nat) (f : Field)
    (hcoherent : f.Coherent s) (p : List Leaf) :
    p ∈ f.eagerPaths around start ↔ PathFrom s (f.leaves around start) p := by
  cases f with
  | scalar | ref | converted => exact iff_of_false nofun (not_pathFrom rfl)
  | inline info target fields =>
    exact mem_eagerPathsOf (around ++ [info]) start fields hcoherent.2 p
  | foreignKey info target key fields =>
    have hinner : ∀ q, q ∈ eagerPathsOf [] 0 fields ↔ EagerPath s ⟨target, fields⟩ q := by
      intro q
      rw [eagerPath_iff]
      exact mem_eagerPathsOf [] 0 fields hcoherent.2 q
    rw [eagerPaths, List.mem_cons, List.mem_map, leaves_eq_singleton rfl]
    constructor
    · rintro (rfl | ⟨q, hq, rfl⟩)
      · exact ⟨_, .head _, _, hcoherent.1, .inl rfl⟩
      · exact ⟨_, .head _, _, hcoherent.1, .inr ⟨q, rfl, (hinner q).mp hq⟩⟩
    · rintro ⟨l, hl, target', htarget, hp⟩
      cases List.mem_singleton.mp hl
      cases hcoherent.1.symm.trans htarget
      refine hp.imp_right ?_
      rintro ⟨q, rfl, hq⟩
      exact ⟨q, (hinner q).mpr hq, rfl⟩
termination_by structural f

theorem mem_eagerPathsOf (around : List FieldInfo) (start : Nat) (fields : List Field)
    (hcoherent : AllCoherent s fields) (p : List Leaf) :
    p ∈ eagerPathsOf around start fields ↔ PathFrom s (leavesOf around start fields) p := by
  cases fields with
  | nil => exact iff_of_false nofun fun ⟨_, hl, _⟩ => nomatch hl
  | cons f rest =>
    rw [eagerPathsOf, leavesOf, List.mem_append, pathFrom_append,
      mem_eagerPaths around start f hcoherent.1 p,
      mem_eagerPathsOf around (start + f.width) rest hcoherent.2 p]
termination_by structural fields

end

/-! ## Order -/

/-- The paths are in order, and begin with columns from `start` up to but not including `stop`. -/
structure InOrder (start stop : Nat) (paths : List (List Leaf)) : Prop where
  pairwise : paths.Pairwise PathPrecedes
  first : ∀ p ∈ paths, ∃ l q, p = l :: q ∧ start ≤ l.start ∧ l.start < stop

theorem InOrder.append {start middle stop : Nat} {paths paths' : List (List Leaf)}
    (h : InOrder start middle paths) (h' : InOrder middle stop paths') (hstart : start ≤ middle)
    (hstop : middle ≤ stop) : InOrder start stop (paths ++ paths') where
  pairwise := by
    refine List.pairwise_append.mpr ⟨h.pairwise, h'.pairwise, ?_⟩
    intro p hp q hq
    obtain ⟨l, p', rfl, -, hl⟩ := h.first p hp
    obtain ⟨l', q', rfl, hl', -⟩ := h'.first q hq
    exact .rel (Nat.lt_of_lt_of_le hl hl')
  first := by
    intro p hp
    rcases List.mem_append.mp hp with hp | hp
    · obtain ⟨l, q, hq, hl, hlt⟩ := h.first p hp
      exact ⟨l, q, hq, hl, Nat.lt_of_lt_of_le hlt hstop⟩
    · obtain ⟨l, q, hq, hl, hlt⟩ := h'.first p hp
      exact ⟨l, q, hq, Nat.le_trans hstart hl, hlt⟩

/-- A key comes before the paths that go on from it. -/
theorem InOrder.behind {start stop : Nat} {paths : List (List Leaf)} (h : InOrder start stop paths)
    (l : Leaf) : InOrder l.start (l.start + 1) ([l] :: paths.map (l :: ·)) where
  pairwise := by
    refine List.pairwise_cons.mpr ⟨?_, List.pairwise_map.mpr (h.pairwise.imp .cons)⟩
    intro p hp
    obtain ⟨q, hq, rfl⟩ := List.mem_map.mp hp
    obtain ⟨l', q', rfl, -⟩ := h.first q hq
    exact .cons .nil
  first := by
    intro p hp
    rcases List.mem_cons.mp hp with rfl | hp
    · exact ⟨l, [], rfl, Nat.le_refl _, Nat.lt_succ_self _⟩
    · obtain ⟨q, -, rfl⟩ := List.mem_map.mp hp
      exact ⟨l, q, rfl, Nat.le_refl _, Nat.lt_succ_self _⟩

theorem inOrder_nil (start stop : Nat) : InOrder start stop [] := ⟨.nil, nofun⟩

mutual

theorem inOrder_eagerPaths (around : List FieldInfo) (start : Nat) (f : Field) :
    InOrder start (start + f.width) (f.eagerPaths around start) := by
  cases f with
  | scalar | ref | converted => exact inOrder_nil _ _
  | inline info target fields => exact inOrder_eagerPathsOf (around ++ [info]) start fields
  | foreignKey info target key fields =>
    let l : Leaf := ⟨around, .foreignKey info target key fields, start⟩
    exact (inOrder_eagerPathsOf [] 0 fields).behind l
termination_by structural f

theorem inOrder_eagerPathsOf (around : List FieldInfo) (start : Nat) (fields : List Field) :
    InOrder start (start + widths fields) (eagerPathsOf around start fields) := by
  cases fields with
  | nil => exact inOrder_nil _ _
  | cons f rest =>
    have hrest := inOrder_eagerPathsOf around (start + f.width) rest
    rw [Nat.add_assoc] at hrest
    exact (inOrder_eagerPaths around start f).append hrest (Nat.le_add_right _ _)
      (by rw [widths]; omega)
termination_by structural fields

end

end Field

namespace Entity

def eagerPaths (e : Entity) : List (List Leaf) := Field.eagerPathsOf [] 0 e.fields

theorem mem_eagerPaths_iff {s : Schema} {e : Entity} (hcoherent : Field.AllCoherent s e.fields)
    {p : List Leaf} : p ∈ e.eagerPaths ↔ EagerPath s e p :=
  (Field.mem_eagerPathsOf [] 0 e.fields hcoherent p).trans Field.eagerPath_iff.symm

theorem pairwise_eagerPaths (e : Entity) : e.eagerPaths.Pairwise PathPrecedes :=
  (Field.inOrder_eagerPathsOf [] 0 e.fields).pairwise

end Entity

end RelMap
