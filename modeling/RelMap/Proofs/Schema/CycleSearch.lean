import Mathlib.Data.List.Chain
import RelMap.Proofs.Schema.Cycles

/-!
# The search for cycles

From any entity the search follows the composite fields in depth, with nothing in hand but the names
on the way to where it is. Main statement: it comes to an end even where compositions run in circles.
It succeeds exactly if no cycle is in reach of the entity, and otherwise reports the way to the first
name that it meets for the second time.
-/

namespace RelMap.Draft

variable {drafts fresh : List Draft} {stack : List EntityName} {fields : List DraftField}
  {name target : EntityName} {d : Draft}

/-! ## Searches that end -/

def fieldsOf (drafts : List Draft) (name : EntityName) : List DraftField :=
  match find? drafts name with
  | some d => d.fields
  | none => []

/-- The search of the fields ends with the outcome. What is on the stack is all that it remembers of
the entities it has been to. -/
inductive Searched (drafts : List Draft) :
    List EntityName → List DraftField → Except SchemaError Unit → Prop
  | done {stack : List EntityName} : Searched drafts stack [] (.ok ())
  | plain {stack : List EntityName} {f : DraftField} {rest : List DraftField}
    {outcome : Except SchemaError Unit} (hcomponent : f.kind.component? = none)
    (hrest : Searched drafts stack rest outcome) : Searched drafts stack (f :: rest) outcome
  | met {stack : List EntityName} {f : DraftField} {rest : List DraftField} {target : EntityName}
    (hcomponent : f.kind.component? = some target) (hstack : target ∈ stack) :
    Searched drafts stack (f :: rest) (.error (.cycle (stack ++ [target])))
  | failed {stack : List EntityName} {f : DraftField} {rest : List DraftField}
    {target : EntityName} {e : SchemaError} (hcomponent : f.kind.component? = some target)
    (hstack : target ∉ stack)
    (hinner : Searched drafts (stack ++ [target]) (fieldsOf drafts target) (.error e)) :
    Searched drafts stack (f :: rest) (.error e)
  | passed {stack : List EntityName} {f : DraftField} {rest : List DraftField}
    {target : EntityName} {outcome : Except SchemaError Unit}
    (hcomponent : f.kind.component? = some target) (hstack : target ∉ stack)
    (hinner : Searched drafts (stack ++ [target]) (fieldsOf drafts target) (.ok ()))
    (hrest : Searched drafts stack rest outcome) : Searched drafts stack (f :: rest) outcome

theorem Searched.unique {outcome outcome' : Except SchemaError Unit}
    (h : Searched drafts stack fields outcome) (h' : Searched drafts stack fields outcome') :
    outcome = outcome' := by
  induction h generalizing outcome' with
  | done =>
    cases h'
    rfl
  | plain hcomponent _ ih =>
    cases h' with
    | plain _ hrest' => exact ih hrest'
    | met hcomponent' _ | failed hcomponent' _ _ | passed hcomponent' _ _ _ =>
      cases hcomponent.symm.trans hcomponent'
  | met hcomponent hstack =>
    cases h' with
    | plain hcomponent' _ => cases hcomponent.symm.trans hcomponent'
    | met hcomponent' _ =>
      cases hcomponent.symm.trans hcomponent'
      rfl
    | failed hcomponent' hstack' _ | passed hcomponent' hstack' _ _ =>
      cases hcomponent.symm.trans hcomponent'
      exact absurd hstack hstack'
  | failed hcomponent hstack _ ih =>
    cases h' with
    | plain hcomponent' _ => cases hcomponent.symm.trans hcomponent'
    | met hcomponent' hstack' =>
      cases hcomponent.symm.trans hcomponent'
      exact absurd hstack' hstack
    | failed hcomponent' _ hinner' =>
      cases hcomponent.symm.trans hcomponent'
      exact ih hinner'
    | passed hcomponent' _ hinner' _ =>
      cases hcomponent.symm.trans hcomponent'
      cases ih hinner'
  | passed hcomponent hstack _ _ ihInner ih =>
    cases h' with
    | plain hcomponent' _ => cases hcomponent.symm.trans hcomponent'
    | met hcomponent' hstack' =>
      cases hcomponent.symm.trans hcomponent'
      exact absurd hstack' hstack
    | failed hcomponent' _ hinner' =>
      cases hcomponent.symm.trans hcomponent'
      cases ihInner hinner'
    | passed _ _ _ hrest' => exact ih hrest'

theorem searched_checkCycles (hfresh : Remain drafts fresh stack) :
    Searched drafts stack fields (checkCycles fresh stack fields) := by
  induction fresh, stack, fields using checkCycles.induct with
  | case1 fresh stack =>
    rw [checkCycles]
    exact .done
  | case2 fresh stack f rest hcomponent ih =>
    rw [checkCycles, hcomponent]
    exact .plain hcomponent (ih hfresh)
  | case3 fresh stack f rest target hcomponent hstack ih ihInner =>
    rw [checkCycles, hcomponent]
    dsimp only
    rw [if_pos hstack]
    exact .met hcomponent hstack
  | case4 fresh stack f rest target hcomponent hstack ih ihInner =>
    rw [checkCycles, hcomponent]
    dsimp only
    rw [if_neg hstack]
    have hfind := hfresh.find?_eq hstack
    split
    · next hnone =>
      have hfields : fieldsOf drafts target = [] := by rw [fieldsOf, ← hfind, hnone]
      exact .passed hcomponent hstack (hfields ▸ .done) (ih hfresh)
    · next d hsome =>
      have hfields : fieldsOf drafts target = d.fields := by rw [fieldsOf, ← hfind, hsome]
      have hinner := ihInner d hsome (hfresh.push target)
      rw [← hfields] at hinner ⊢
      cases hresult : checkCycles (without fresh target) (stack ++ [target])
          (fieldsOf drafts target) with
      | error e => exact .failed hcomponent hstack (hresult ▸ hinner)
      | ok _ => exact .passed hcomponent hstack (hresult ▸ hinner) (ih hfresh)

/-! ## What is reported -/

/-- Each entity is composed of the next, beginning with `start`, and only the last has been there
before. -/
structure Circles (drafts : List Draft) (start : EntityName) (path : List EntityName) : Prop where
  first : path.head? = some start
  linked : path.IsChain (Composes drafts)
  distinct : path.dropLast.Nodup
  again : ∃ last, path.getLast? = some last ∧ last ∈ path.dropLast

/-- The stack is a way from `start` that meets no entity twice, and the fields belong to the last
entity on it. -/
structure OnWay (drafts : List Draft) (start : EntityName) (stack : List EntityName)
    (fields : List DraftField) : Prop where
  first : stack.head? = some start
  linked : stack.IsChain (Composes drafts)
  distinct : stack.Nodup
  last : ∀ f ∈ fields, ∀ target ∈ f.kind.component?, ∀ host ∈ stack.getLast?,
    Composes drafts host target

namespace OnWay

variable {start : EntityName} {f : DraftField} {rest : List DraftField}

theorem tail (h : OnWay drafts start stack (f :: rest)) : OnWay drafts start stack rest :=
  { h with last := fun g hg => h.last g (.tail _ hg) }

theorem isChain_append (h : OnWay drafts start stack (f :: rest))
    (hcomponent : f.kind.component? = some target) :
    (stack ++ [target]).IsChain (Composes drafts) := by
  refine List.isChain_append.mpr ⟨h.linked, List.isChain_singleton target, ?_⟩
  intro host hhost component hcomponent'
  cases hcomponent'
  exact h.last f (.head _) target hcomponent host hhost

theorem head?_append (h : OnWay drafts start stack fields) :
    (stack ++ [target]).head? = some start := by
  rw [List.head?_append, h.first, Option.some_or]

theorem push (h : OnWay drafts start stack (f :: rest))
    (hcomponent : f.kind.component? = some target) (hstack : target ∉ stack) :
    OnWay drafts start (stack ++ [target]) (fieldsOf drafts target) where
  first := h.head?_append
  linked := h.isChain_append hcomponent
  distinct := by
    rw [List.nodup_append_comm]
    exact h.distinct.cons hstack
  last := by
    intro g hg component hcomponent' host hhost
    rw [List.getLast?_concat] at hhost
    cases hhost
    unfold fieldsOf at hg
    split at hg
    · next d hfind => exact ⟨d, hfind, g, hg, hcomponent'⟩
    · cases hg

theorem circles (h : OnWay drafts start stack (f :: rest))
    (hcomponent : f.kind.component? = some target) (hstack : target ∈ stack) :
    Circles drafts start (stack ++ [target]) where
  first := h.head?_append
  linked := h.isChain_append hcomponent
  distinct := by
    rw [List.dropLast_concat]
    exact h.distinct
  again := by
    rw [List.dropLast_concat, List.getLast?_concat]
    exact ⟨target, rfl, hstack⟩

end OnWay

theorem Searched.exists_circles {start : EntityName} {outcome : Except SchemaError Unit}
    {e : SchemaError} (h : Searched drafts stack fields outcome)
    (hway : OnWay drafts start stack fields) (houtcome : outcome = .error e) :
    ∃ path, e = .cycle path ∧ Circles drafts start path := by
  induction h with
  | done => cases houtcome
  | plain _ _ ih => exact ih hway.tail houtcome
  | met hcomponent hstack =>
    cases houtcome
    exact ⟨_, rfl, hway.circles hcomponent hstack⟩
  | failed hcomponent hstack _ ih => exact ih (hway.push hcomponent hstack) houtcome
  | passed _ _ _ _ _ ih => exact ih hway.tail houtcome

/-- No cycle of composition is in reach of the entity. -/
def Acyclic (drafts : List Draft) (name : EntityName) : Prop :=
  ∀ other, Relation.ReflTransGen (Composes drafts) name other →
    ¬ Relation.TransGen (Composes drafts) other other

theorem checkCycles_eq_ok_iff_acyclic (hfind : find? drafts name = some d) :
    checkCycles (without drafts name) [name] d.fields = .ok () ↔ Acyclic drafts name := by
  have hclear : Clear drafts [] name ↔ AllClear drafts [name] d.fields := by
    rw [clear_iff hfind, and_iff_right List.not_mem_nil, List.nil_append]
  rw [checkCycles_eq_ok_iff (remain_without drafts name), ← hclear]
  exact forall₂_congr fun _ _ => and_iff_right List.not_mem_nil

/-- From an entity whose compositions may be cyclic in any way, the search ends, with one outcome.
It succeeds exactly if no cycle is in reach, and otherwise reports a way from the entity to the
first name that is met again. -/
theorem cycle_search_reports (hfind : find? drafts name = some d) :
    (∀ outcome, Searched drafts [name] d.fields outcome ↔
      outcome = checkCycles (without drafts name) [name] d.fields) ∧
    (checkCycles (without drafts name) [name] d.fields = .ok () ↔ Acyclic drafts name) ∧
    (¬ Acyclic drafts name → ∃ path,
      checkCycles (without drafts name) [name] d.fields = .error (.cycle path) ∧
        Circles drafts name path) := by
  have hends : Searched drafts [name] d.fields _ := searched_checkCycles (remain_without drafts name)
  have hway : OnWay drafts name [name] d.fields :=
    ⟨rfl, List.isChain_singleton name, List.nodup_singleton name, by
      intro f hf target hcomponent host hhost
      cases hhost
      exact ⟨d, hfind, f, hf, hcomponent⟩⟩
  refine ⟨?_, checkCycles_eq_ok_iff_acyclic hfind, ?_⟩
  · intro outcome
    constructor
    · intro h
      exact h.unique hends
    · rintro rfl
      exact hends
  · intro hcyclic
    cases hresult : checkCycles (without drafts name) [name] d.fields with
    | ok _ => exact absurd ((checkCycles_eq_ok_iff_acyclic hfind).mp hresult) hcyclic
    | error e =>
      obtain ⟨path, rfl, hcircles⟩ := hends.exists_circles hway hresult
      exact ⟨path, rfl, hcircles⟩

/-- Orders and customers are composed of each other, visits of orders. That customers refer to
visits closes no cycle. -/
def circular : List Draft := [
  ⟨⟨"Visit", "visit", .table⟩, [⟨{ name := "order" }, .foreignKey "Order"⟩]⟩,
  ⟨⟨"Order", "order", .table⟩, [⟨{ name := "customer" }, .foreignKey "Customer"⟩]⟩,
  ⟨⟨"Customer", "customer", .table⟩, [⟨{ name := "visit" }, .ref "Visit"⟩,
    ⟨{ name := "order" }, .foreignKey "Order"⟩]⟩]

/-- The cycle is found from a visit, which is not on it. -/
theorem cycle_search_reports_visit :
    ∃ d, find? circular "Visit" = some d ∧ ¬ Acyclic circular "Visit" ∧
      checkCycles (without circular "Visit") ["Visit"] d.fields =
        .error (.cycle ["Visit", "Order", "Customer", "Order"]) ∧
      Circles circular "Visit" ["Visit", "Order", "Customer", "Order"] := by
  have hfind : find? circular "Visit" = some circular[0] := rfl
  have hresult : checkCycles (without circular "Visit") ["Visit"] circular[0].fields =
      .error (.cycle ["Visit", "Order", "Customer", "Order"]) := by
    cbv
  obtain ⟨-, hok, hreports⟩ := cycle_search_reports hfind
  have hcyclic : ¬ Acyclic circular "Visit" := by
    intro hacyclic
    cases hresult.symm.trans (hok.mpr hacyclic)
  obtain ⟨path, hpath, hcircles⟩ := hreports hcyclic
  cases hresult.symm.trans hpath
  exact ⟨_, hfind, hcyclic, hresult, hcircles⟩

end RelMap.Draft
