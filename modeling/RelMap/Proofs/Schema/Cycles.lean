import Mathlib.Logic.Relation
import RelMap.Proofs.Names
import RelMap.Proofs.Schema.Expansion

/-!
# Cycles of composition

Declared entities are composed of one another by their inline composites and foreign keys. The
search for cycles that each of them goes through succeeds for all of them exactly if no path of
composition leads from an entity back to itself.
-/

namespace RelMap

namespace Draft

variable {drafts fresh : List Draft} {stack : List EntityName} {target : EntityName} {d : Draft}

/-! ## Composition as a graph -/

def Composes (drafts : List Draft) (host component : EntityName) : Prop :=
  ∃ d, find? drafts host = some d ∧ ∃ f ∈ d.fields, f.kind.component? = some component

/-- Paths of composition from the entity neither enter the stack nor run into a cycle. -/
def Clear (drafts : List Draft) (stack : List EntityName) (name : EntityName) : Prop :=
  ∀ other, Relation.ReflTransGen (Composes drafts) name other →
    other ∉ stack ∧ ¬ Relation.TransGen (Composes drafts) other other

def AllClear (drafts : List Draft) (stack : List EntityName) (fields : List DraftField) : Prop :=
  ∀ f ∈ fields, ∀ target ∈ f.kind.component?, Clear drafts stack target

theorem clear_iff (hfind : find? drafts target = some d) :
    Clear drafts stack target ↔ target ∉ stack ∧ AllClear drafts (stack ++ [target]) d.fields := by
  constructor
  · intro h
    obtain ⟨hstack, hacyclic⟩ := h target .refl
    refine ⟨hstack, ?_⟩
    intro f hf component hcomponent other hother
    have hstep : Composes drafts target component := ⟨d, hfind, f, hf, hcomponent⟩
    obtain ⟨hother', hcycle⟩ := h other (.head hstep hother)
    refine ⟨?_, hcycle⟩
    rw [List.mem_append, List.mem_singleton, not_or]
    refine ⟨hother', ?_⟩
    -- A path back to the entity itself would close a cycle there.
    rintro rfl
    exact hacyclic (.head' hstep hother)
  · rintro ⟨hstack, hfields⟩ other hother
    have hsteps : ∀ component, Composes drafts target component →
        Clear drafts (stack ++ [target]) component := by
      rintro component ⟨d', hfind', f, hf, hcomponent⟩
      cases hfind.symm.trans hfind'
      exact hfields f hf component hcomponent
    rcases Relation.ReflTransGen.cases_head hother with rfl | ⟨component, hstep, hpath⟩
    · refine ⟨hstack, ?_⟩
      intro hcycle
      obtain ⟨component, hstep, hpath⟩ := Relation.TransGen.head'_iff.mp hcycle
      obtain ⟨hnot, -⟩ := hsteps component hstep _ hpath
      exact hnot (List.mem_append_right stack (.head _))
    · obtain ⟨hnot, hcycle⟩ := hsteps component hstep other hpath
      exact ⟨fun hother => hnot (List.mem_append_left _ hother), hcycle⟩

theorem clear_iff_of_none (hfind : find? drafts target = none) :
    Clear drafts stack target ↔ target ∉ stack := by
  have hnone : ∀ component, ¬ Composes drafts target component := by
    rintro component ⟨d, hfind', -⟩
    cases hfind.symm.trans hfind'
  constructor
  · intro h
    exact (h target .refl).1
  · intro hstack other hother
    rcases Relation.ReflTransGen.cases_head hother with rfl | ⟨component, hstep, -⟩
    · refine ⟨hstack, ?_⟩
      intro hcycle
      obtain ⟨component, hstep, -⟩ := Relation.TransGen.head'_iff.mp hcycle
      exact hnone component hstep
    · exact (hnone component hstep).elim

/-! ## The search -/

def Remain (drafts fresh : List Draft) (stack : List EntityName) : Prop :=
  ∀ name, find? fresh name = if name ∈ stack then none else find? drafts name

theorem remain_without (drafts : List Draft) (name : EntityName) :
    Remain drafts (without drafts name) [name] := by
  intro other
  rw [find?_without]
  simp only [List.mem_singleton]

theorem Remain.push (h : Remain drafts fresh stack) (name : EntityName) :
    Remain drafts (without fresh name) (stack ++ [name]) := by
  intro other
  rw [find?_without, h other]
  simp only [List.mem_append, List.mem_singleton]
  grind

theorem Remain.find?_eq (h : Remain drafts fresh stack) (hstack : target ∉ stack) :
    find? fresh target = find? drafts target := by
  rw [h target, if_neg hstack]

theorem allClear_cons {f : DraftField} {rest : List DraftField} :
    AllClear drafts stack (f :: rest) ↔
      (∀ target ∈ f.kind.component?, Clear drafts stack target) ∧ AllClear drafts stack rest :=
  List.forall_mem_cons

/-- The search looks at every path of composition, down to where it ends or enters the stack. -/
theorem checkCycles_eq_ok_iff {fields : List DraftField} (hfresh : Remain drafts fresh stack) :
    checkCycles fresh stack fields = .ok () ↔ AllClear drafts stack fields := by
  -- The search gives up a draft for every name that it pushes, so that `Remain` is kept.
  induction fresh, stack, fields using checkCycles.induct with
  | case1 fresh stack =>
    rw [checkCycles]
    exact iff_of_true rfl (List.forall_mem_nil _)
  | case2 fresh stack f rest hcomponent ih =>
    rw [checkCycles, hcomponent, allClear_cons, hcomponent]
    dsimp only
    rw [ih hfresh]
    exact ⟨fun h => ⟨fun _ hnone => absurd hnone (Option.not_mem_none _), h⟩, fun h => h.2⟩
  | case3 fresh stack f rest target hcomponent hstack ih ihInner =>
    rw [checkCycles, hcomponent, allClear_cons, hcomponent]
    dsimp only
    rw [if_pos hstack]
    apply iff_of_false
    · intro h
      cases h
    · intro hclear
      exact (hclear.1 target rfl target .refl).1 hstack
  | case4 fresh stack f rest target hcomponent hstack ih ihInner =>
    rw [checkCycles, hcomponent, allClear_cons, hcomponent]
    dsimp only
    rw [if_neg hstack]
    have hclear : (∀ other ∈ some target, Clear drafts stack other) ↔
        Clear drafts stack target := by
      simp only [Option.mem_def, Option.some.injEq, forall_eq']
    rw [hclear]
    split
    · next hfind =>
      rw [hfresh.find?_eq hstack] at hfind
      rw [ih hfresh, clear_iff_of_none hfind]
      exact ⟨fun h => ⟨hstack, h⟩, fun h => h.2⟩
    · next d hfind =>
      rw [Except.check_bind_eq_ok_iff, ihInner d hfind (hfresh.push target), ih hfresh]
      rw [hfresh.find?_eq hstack] at hfind
      rw [clear_iff hfind, and_iff_right hstack]

/-- No entity is composed of itself exactly if the search from each of them succeeds. -/
theorem forall_checkCycles_iff (hdistinct : (drafts.map (·.info.name)).Nodup) :
    (∀ d ∈ drafts, checkCycles (without drafts d.info.name) [d.info.name] d.fields = .ok ()) ↔
      ∀ name, ¬ Relation.TransGen (Composes drafts) name name := by
  simp only [checkCycles_eq_ok_iff (remain_without drafts _)]
  constructor
  · intro h name hcycle
    obtain ⟨component, ⟨d, hfind, f, hf, hcomponent⟩, hpath⟩ :=
      Relation.TransGen.head'_iff.mp hcycle
    have hd := h d (List.mem_of_find?_eq_some hfind)
    rw [name_of_find? hfind] at hd
    exact (hd f hf component hcomponent name hpath).1 (.head _)
  · intro h d hd f hf component hcomponent other hother
    refine ⟨?_, h other⟩
    rw [List.mem_singleton]
    rintro rfl
    have hfind : find? drafts d.info.name = some d :=
      (find?_eq_some_iff_of_nodup hdistinct _ d).mpr ⟨hd, rfl⟩
    exact h _ (.head' ⟨d, hfind, f, hf, hcomponent⟩ hother)

end Draft

end RelMap
