import RelMap.Proofs.Scope.Requirement

/-!
# Deferred references

What the condition of an automatic join mentions is needed only if the join is, so its references
are taken back and the join is made to hang on what they refer to. Main statement: however the
dependencies run, in circles too, and whatever is noted later, every join is then as required as if
the references had been kept, if the join that they are deferred to is required, and as if they had
never been made, if it is not.
-/

namespace RelMap.TableUse

variable {u kept deferred withdrawn : TableUse} {a b x : String}

/-! ## Notes -/

/-- What is noted about the tables of a scope while its parts are written. -/
inductive Note
  | reference (aliasName : String)
  | dependency (aliasName dependent : String)

def Note.isDependency : Note → Bool
  | .reference _ => false
  | .dependency _ _ => true

def note (u : TableUse) : Note → TableUse
  | .reference aliasName => u.mark aliasName
  | .dependency aliasName dependent => u.addDependency aliasName dependent

def noteAll (u : TableUse) (notes : List Note) : TableUse := notes.foldl note u

theorem mem_referenced_note {n : Note} :
    b ∈ (u.note n).referenced ↔ b ∈ u.referenced ∨ n = .reference b := by
  cases n with
  | reference c => simp [note, mem_referenced_mark, eq_comm]
  | dependency c d => simp [note, addDependency]

theorem mem_dependencies_note {n : Note} {d : String × String} :
    d ∈ (u.note n).dependencies ↔ d ∈ u.dependencies ∨ n = .dependency d.1 d.2 := by
  cases n with
  | reference c => simp [note, dependencies_mark]
  | dependency c e => simp [note, addDependency, Prod.ext_iff, eq_comm]

theorem mem_referenced_noteAll {notes : List Note} :
    b ∈ (u.noteAll notes).referenced ↔ b ∈ u.referenced ∨ .reference b ∈ notes := by
  induction notes generalizing u with
  | nil => simp [noteAll]
  | cons n rest ih =>
    have hrest := ih (u := u.note n)
    rw [mem_referenced_note, or_assoc, eq_comm, ← List.mem_cons] at hrest
    exact hrest

theorem mem_dependencies_noteAll {notes : List Note} {d : String × String} :
    d ∈ (u.noteAll notes).dependencies ↔
      d ∈ u.dependencies ∨ .dependency d.1 d.2 ∈ notes := by
  induction notes generalizing u with
  | nil => simp [noteAll]
  | cons n rest ih =>
    have hrest := ih (u := u.note n)
    rw [mem_dependencies_note, or_assoc, eq_comm, ← List.mem_cons] at hrest
    exact hrest

/-! ## Deferring -/

/-- References of `kept` are missing from `deferred`, where the join for `a` depends on them
instead. -/
structure Defers (a : String) (kept deferred : TableUse) : Prop where
  referenced : deferred.referenced ⊆ kept.referenced
  dependencies : kept.dependencies ⊆ deferred.dependencies
  missing : ∀ b ∈ kept.referenced,
    b ∈ deferred.referenced ∨ b = a ∨ (b, a) ∈ deferred.dependencies
  added : ∀ d ∈ deferred.dependencies,
    d ∈ kept.dependencies ∨ d.1 ∈ kept.referenced ∧ d.2 = a

theorem defers_deferSince {before : List String} : Defers a u (u.deferSince before a) where
  referenced := fun _ hb => (mem_referenced_deferSince.mp hb).1
  dependencies := dependencies_deferSince
  missing := fun _ hb => deferSince_of_mem_referenced hb
  added := fun _ hd => (mem_dependencies_deferSince hd).imp_right fun h => ⟨h.1.1, h.2⟩

namespace Defers

theorem note (h : Defers a kept deferred) (n : Note) :
    Defers a (kept.note n) (deferred.note n) where
  referenced := fun _ hb => mem_referenced_note.mpr
    ((mem_referenced_note.mp hb).imp_left fun hb => h.referenced hb)
  dependencies := fun _ hd => mem_dependencies_note.mpr
    ((mem_dependencies_note.mp hd).imp_left fun hd => h.dependencies hd)
  missing := by
    intro b hb
    rw [mem_referenced_note, mem_dependencies_note]
    rcases mem_referenced_note.mp hb with hb | hn
    · rcases h.missing b hb with hb | hb | hd
      · exact .inl (.inl hb)
      · exact .inr (.inl hb)
      · exact .inr (.inr (.inl hd))
    · exact .inl (.inr hn)
  added := by
    intro d hd
    rw [mem_referenced_note, mem_dependencies_note]
    rcases mem_dependencies_note.mp hd with hd | hn
    · rcases h.added d hd with hd | ⟨hb, ha⟩
      · exact .inl (.inl hd)
      · exact .inr ⟨.inl hb, ha⟩
    · exact .inl (.inr hn)

theorem noteAll (h : Defers a kept deferred) (notes : List Note) :
    Defers a (kept.noteAll notes) (deferred.noteAll notes) := by
  induction notes generalizing kept deferred with
  | nil => exact h
  | cons n rest ih => exact ih (h.note n)

/-- Where a chain first takes a dependency that is new, it has come to a reference of `kept`. -/
theorem isRequired_kept (h : Defers a kept deferred) (hx : deferred.isRequired x = true) :
    kept.isRequired x = true := by
  obtain ⟨b, hb, hchain⟩ := isRequired_iff.mp hx
  clear hx
  induction hchain using Relation.ReflTransGen.head_induction_on with
  | refl => exact isRequired_of_mem_referenced (h.referenced hb)
  | head hstep _ ih =>
    rcases h.added _ hstep with hstep | ⟨hreferenced, -⟩
    · exact isRequired_of_dependency hstep ih
    · exact isRequired_of_mem_referenced hreferenced

theorem isRequired_eq_kept (h : Defers a kept deferred) (ha : deferred.isRequired a = true) :
    deferred.isRequired x = kept.isRequired x := by
  rw [Bool.eq_iff_iff]
  refine ⟨h.isRequired_kept, ?_⟩
  intro hx
  obtain ⟨b, hb, hchain⟩ := isRequired_iff.mp hx
  apply isRequired_of_leadsTo (hchain.mono h.dependencies)
  rcases h.missing b hb with hb | rfl | hdependency
  · exact isRequired_of_mem_referenced hb
  · exact ha
  · exact isRequired_of_dependency hdependency ha

theorem leadsTo_or (h : Defers a kept deferred) (hchain : deferred.LeadsTo x b) :
    kept.LeadsTo x b ∨ deferred.LeadsTo a b := by
  induction hchain using Relation.ReflTransGen.head_induction_on with
  | refl => exact .inl .refl
  | head hstep hrest ih =>
    rcases h.added _ hstep with hstep | ⟨-, rfl⟩
    · exact ih.imp_left (.head hstep)
    · exact .inr hrest

theorem isRequired_eq_withdrawn (h : Defers a kept deferred)
    (ha : deferred.isRequired a = false)
    (hreferenced : ∀ b, b ∈ withdrawn.referenced ↔ b ∈ deferred.referenced)
    (hdependencies : ∀ d, d ∈ withdrawn.dependencies ↔ d ∈ kept.dependencies) :
    deferred.isRequired x = withdrawn.isRequired x := by
  rw [Bool.eq_iff_iff, isRequired_iff, isRequired_iff]
  constructor
  · rintro ⟨b, hb, hchain⟩
    rcases h.leadsTo_or hchain with hchain | hreach
    · exact ⟨b, (hreferenced b).mpr hb, hchain.mono fun d hd => (hdependencies d).mpr hd⟩
    · cases ha.symm.trans (isRequired_iff.mpr ⟨b, hb, hreach⟩)
  · rintro ⟨b, hb, hchain⟩
    refine ⟨b, (hreferenced b).mp hb, hchain.mono fun d hd => ?_⟩
    exact h.dependencies ((hdependencies d).mp hd)

end Defers

/-- The references noted since `u` are deferred to the join for `a`, and more is noted later. If
that join is required by then, every join is required just as if the references had been kept. If
not, it is as if only the dependencies had been noted since `u`, so that `withdrawn` is `u` where
there were none. References of `u` itself are never lost. -/
theorem deferred_references_count_with_join (u : TableUse) (since later : List Note) (a : String) :
    let kept := u.noteAll since
    let withdrawn := u.noteAll (since.filter Note.isDependency)
    let deferred := (kept.deferSince u.referenced a).noteAll later
    (∀ x, deferred.isRequired x =
        if deferred.isRequired a then (kept.noteAll later).isRequired x
        else (withdrawn.noteAll later).isRequired x) ∧
      u.referenced ⊆ deferred.referenced := by
  intro kept withdrawn deferred
  have hdefers : Defers a (kept.noteAll later) deferred := defers_deferSince.noteAll later
  have hreferenced : ∀ b, b ∈ deferred.referenced ↔ b ∈ u.referenced ∨ .reference b ∈ later := by
    intro b
    rw [mem_referenced_noteAll, mem_referenced_deferSince, mem_referenced_noteAll]
    tauto
  refine ⟨?_, fun b hb => (hreferenced b).mpr (.inl hb)⟩
  intro x
  split
  · next ha => exact hdefers.isRequired_eq_kept ha
  · next ha =>
    apply hdefers.isRequired_eq_withdrawn (Bool.eq_false_iff.mpr ha)
    · intro b
      rw [hreferenced, mem_referenced_noteAll, mem_referenced_noteAll]
      simp [Note.isDependency]
    · intro d
      simp only [kept, withdrawn, mem_dependencies_noteAll]
      simp [Note.isDependency]

/-- Addresses, which the condition of the join for customers mentions, wait for a reference to
them. -/
example :
    let u : TableUse := { referenced := ["_o"] }
    let deferred := (u.noteAll [.reference "_o", .reference "_a", .reference "_c"]).deferSince
      u.referenced "_c"
    deferred.isRequired "_o" = true ∧ deferred.isRequired "_a" = false ∧
      (deferred.note (.reference "_c")).isRequired "_a" = true := by decide

end RelMap.TableUse
