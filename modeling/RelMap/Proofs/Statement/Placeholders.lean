import RelMap.Proofs.Statement.Passages
import RelMap.Sql.Parameters

/-!
# Parameters of fragments

Which parameters a fragment has, piece by piece, and what is collected from parameters of one sort:
the values of anonymous parameters as the dialect has them, and the names of bind variables.
-/

namespace RelMap

namespace Fragment

variable {keep : ConditionKey → Bool}

def params (keep : ConditionKey → Bool) (f : Fragment) : List ParamSlot :=
  (tokens keep f).filterMap Token.slot?

@[simp] theorem params_append (f g : Fragment) :
    params keep (f ++ g) = params keep f ++ params keep g := by
  rw [params, tokens_append, List.filterMap_append]
  rfl

@[simp] theorem params_nil : params keep [] = [] := rfl

@[simp] theorem params_ofText (text : String) : params keep (ofText text) = [] := rfl

@[simp] theorem params_ofParam (slot : ParamSlot) : params keep (ofParam slot) = [slot] := rfl

theorem params_conditional (key : ConditionKey) (f : Fragment) :
    params keep [.conditional key f] = if keep key then f.params keep else [] := by
  rw [params, tokens, pieceTokens, tokens, List.append_nil]
  split <;> rfl

@[simp] theorem params_identifier (format : SqlFormat) (name : String) :
    params keep (format.identifier name) = [] := rfl

@[simp] theorem params_parenthesized (f : Fragment) :
    params keep f.parenthesized = params keep f := by
  simp [parenthesized]

@[simp] theorem params_join (separator : String) (fragments : List Fragment) :
    params keep (join separator fragments) = fragments.flatMap (params keep) := by
  induction fragments with
  | nil => rfl
  | cons f rest ih =>
    cases rest with
    | nil => simp [join]
    | cons g rest => simp [join, ih]

theorem params_column (format : SqlFormat) (qualifier name : String) :
    params keep (format.column qualifier name) = [] := by
  unfold SqlFormat.column
  split
  · simp
  · rfl

theorem slots_eq_params (f : Fragment) : f.slots = f.params fun _ => true := by
  unfold slots params
  congr 1

/-! ## Styles -/

theorem paramStyle_eq_positional {f : Fragment} (h : ∀ slot ∈ f.slots, slot.name? = none) :
    f.paramStyle = .ok .positional := by
  have hnames : f.slots.any (·.name?.isSome) = false := by
    rw [List.any_eq_false]
    intro slot hslot
    simp [h slot hslot]
  unfold paramStyle
  rw [hnames]
  cases f.slots.any (·.isPositional) <;> rfl

theorem paramStyle_eq_named {f : Fragment} (hne : f.slots ≠ [])
    (h : ∀ slot ∈ f.slots, ∃ name, slot = .bindVar name) : f.paramStyle = .ok .named := by
  have hpositions : f.slots.any (·.isPositional) = false := by
    rw [List.any_eq_false]
    intro slot hslot
    obtain ⟨name, rfl⟩ := h slot hslot
    exact Bool.false_ne_true
  have hnames : f.slots.any (·.name?.isSome) = true := by
    obtain ⟨slot, hslot⟩ := List.exists_mem_of_ne_nil _ hne
    obtain ⟨name, rfl⟩ := h slot hslot
    exact List.any_eq_true.mpr ⟨_, hslot, rfl⟩
  unfold paramStyle
  rw [hpositions, hnames]

theorem slots_nameAnonymous {count : Nat} {tokens : List Token}
    (h : ∀ slot ∈ tokens.filterMap Token.slot?, ∃ name, slot = .bindVar name) :
    (Token.nameAnonymous count tokens).filterMap Token.slot? = tokens.filterMap Token.slot? := by
  induction tokens with
  | nil => rfl
  | cons token rest ih =>
    cases token with
    | text content => exact ih h
    | param slot =>
      obtain ⟨name, rfl⟩ := h slot (.head _)
      exact congrArg (ParamSlot.bindVar name :: ·) (ih fun slot hslot => h slot (.tail _ hslot))

theorem slots_render_named {f : Fragment} {keep : ConditionKey → Bool}
    (h : ∀ slot ∈ f.params keep, ∃ name, slot = .bindVar name) :
    (f.render .named keep).slots = f.params keep :=
  slots_nameAnonymous h

end Fragment

/-! ## Collected parameters -/

namespace Parameters

variable {dialect : Dialect}

theorem foldlM_addPositional (indexed : List (Nat × SqlValue)) (front values : List SqlValue) :
    (values.map ParamSlot.anonymous).foldlM addPositional (indexed, front) =
      .ok (indexed, front ++ values) := by
  induction values generalizing front with
  | nil => rw [List.append_nil]; rfl
  | cons value rest ih =>
    rw [List.map_cons, List.foldlM_cons]
    change (rest.map ParamSlot.anonymous).foldlM addPositional (indexed, front ++ [value]) = _
    rw [ih, List.append_assoc]
    rfl

/-- Values without positions or names are adjusted to the dialect and kept in order. -/
theorem collect_anonymous (values : List SqlValue) :
    collect (values.map .anonymous) .positional dialect =
      .ok (.positional (values.map dialect.coerce), []) := by
  unfold collect
  dsimp only
  rw [foldlM_addPositional]
  rfl

theorem foldlM_addNamed {front names : List String} (h : (front ++ names).Nodup) :
    (names.map ParamSlot.bindVar).foldlM (addNamed dialect) ([], front) =
      .ok ([], front ++ names) := by
  induction names generalizing front with
  | nil => rw [List.append_nil]; rfl
  | cons name rest ih =>
    have hname : name ∉ front := by
      intro hfront
      exact (List.nodup_append.mp h).2.2 name hfront name (.head _) rfl
    have hstep : addNamed dialect ([], front) (.bindVar name) = .ok ([], front ++ [name]) := by
      simp only [addNamed, List.lookup_nil, if_neg hname]
      rfl
    rw [List.map_cons, List.foldlM_cons, hstep]
    change (rest.map ParamSlot.bindVar).foldlM (addNamed dialect) ([], front ++ [name]) = _
    rw [ih, List.append_assoc]
    · rfl
    · rwa [List.append_assoc]

theorem collect_bindVars {names : List String} (h : names.Nodup) :
    collect (names.map .bindVar) .named dialect = .ok (.named [], names) := by
  have hfresh : ([] ++ names).Nodup := h
  unfold collect
  dsimp only
  rw [foldlM_addNamed hfresh]
  rfl

end Parameters

end RelMap
