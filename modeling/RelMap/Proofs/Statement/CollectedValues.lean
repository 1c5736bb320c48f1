import RelMap.Proofs.Statement.Batches
import RelMap.Proofs.Statement.Rendering

/-!
# Values of placeholders

What is collected from the parameters of a statement is a value for each placeholder: in order for
question marks, and by name, unless the name is a bind variable, for names.
-/

namespace RelMap

namespace Parameters

variable {dialect : Dialect} {slots : List ParamSlot} {values : List (String × SqlValue)}
  {bindVars : List String}

/-! ## Question marks -/

theorem value?_of_addPositional {state state' : List (Nat × SqlValue) × List SqlValue}
    {slot : ParamSlot} (h : addPositional state slot = .ok state') :
    ∃ value, slot.value? = some value ∧ state'.2 = state.2 ++ [value] := by
  unfold addPositional at h
  cases slot with
  | anonymous value =>
    cases h
    exact ⟨value, rfl, rfl⟩
  | positional index value =>
    dsimp only at h
    split at h
    · split at h
      · cases h
        exact ⟨value, rfl, rfl⟩
      · cases h
    · cases h
      exact ⟨value, rfl, rfl⟩
  | named name value | bindVar name => cases h

theorem collect_positional {parameters : Parameters}
    (h : collect slots .positional dialect = .ok (parameters, bindVars)) :
    ∃ collected : List SqlValue, slots.map ParamSlot.value? = collected.map some ∧
      parameters = .positional (collected.map dialect.coerce) ∧ bindVars = [] := by
  obtain ⟨⟨indexed, values⟩, hfold, h⟩ := Except.bind_eq_ok h
  obtain ⟨_, -, h⟩ := Except.bind_eq_ok h
  cases h
  have hstep (done : List ParamSlot) (state : List (Nat × SqlValue) × List SqlValue)
      (slot : ParamSlot) (state' : List (Nat × SqlValue) × List SqlValue)
      (hdone : done.map ParamSlot.value? = state.2.map some)
      (hslot : addPositional state slot = .ok state') :
      (done ++ [slot]).map ParamSlot.value? = state'.2.map some := by
    obtain ⟨value, hvalue, hstate⟩ := value?_of_addPositional hslot
    rw [hstate, List.map_append, List.map_append, hdone, List.map_singleton, hvalue]
    rfl
  exact ⟨values, Except.foldlM_keeps hstep [] rfl hfold, rfl, rfl⟩

/-! ## Names -/

theorem lookup_eq_none_iff {α β : Type} [BEq α] [LawfulBEq α] {entries : List (α × β)} {key : α} :
    entries.lookup key = none ↔ key ∉ entries.map Prod.fst := by
  rw [List.lookup_eq_none_iff, List.mem_map, not_exists]
  constructor
  · rintro h entry ⟨hentry, rfl⟩
    simpa using h entry hentry
  · intro h entry hentry
    rw [bne_iff_ne]
    rintro rfl
    exact h entry ⟨hentry, rfl⟩

theorem mem_of_lookup {α β : Type} [BEq α] [LawfulBEq α] {entries : List (α × β)} {key : α} {b : β}
    (h : entries.lookup key = some b) : key ∈ entries.map Prod.fst := by
  by_contra hnot
  cases (lookup_eq_none_iff.mpr hnot).symm.trans h

/-- The parameter has a value under its name, or its name is to be bound. -/
inductive Served (dialect : Dialect) (values : List (String × SqlValue)) (bindVars : List String) :
    ParamSlot → Prop
  | stored {name : String} {value : SqlValue}
    (h : values.lookup name = some (dialect.coerce value)) :
    Served dialect values bindVars (.named name value)
  | bound {name : String} (h : name ∈ bindVars) : Served dialect values bindVars (.bindVar name)

namespace Served

variable {slot : ParamSlot}

theorem exists_name (h : Served dialect values bindVars slot) :
    ∃ name, slot.name? = some name ∧ name ∈ values.map Prod.fst ++ bindVars := by
  cases h with
  | stored h => exact ⟨_, rfl, List.mem_append_left _ (mem_of_lookup h)⟩
  | bound h => exact ⟨_, rfl, List.mem_append_right _ h⟩

theorem append (h : Served dialect values bindVars slot) (more : List (String × SqlValue))
    (others : List String) : Served dialect (values ++ more) (bindVars ++ others) slot := by
  cases h with
  | stored h =>
    apply Served.stored
    rw [List.lookup_append, h]
    rfl
  | bound h => exact .bound (List.mem_append_left _ h)

end Served

/-- The values and bind variables are those of the parameters, and no name is both. -/
structure Collected (dialect : Dialect) (slots : List ParamSlot)
    (values : List (String × SqlValue)) (bindVars : List String) : Prop where
  distinct : (values.map Prod.fst ++ bindVars).Nodup
  exact : ∀ name, name ∈ values.map Prod.fst ++ bindVars ↔ ∃ slot ∈ slots, slot.name? = some name
  served : ∀ slot ∈ slots, Served dialect values bindVars slot

theorem collected_nil : Collected dialect [] [] [] where
  distinct := List.nodup_nil
  exact _ := iff_of_false nofun nofun
  served := nofun

theorem Collected.append (h : Collected dialect slots values bindVars) {slot : ParamSlot}
    {name : String} (hname : slot.name? = some name) (more : List (String × SqlValue))
    (others : List String) (hmore : ∀ other ∈ more.map Prod.fst ++ others, other = name)
    (hdistinct : ((values ++ more).map Prod.fst ++ (bindVars ++ others)).Nodup)
    (hserved : Served dialect (values ++ more) (bindVars ++ others) slot) :
    Collected dialect (slots ++ [slot]) (values ++ more) (bindVars ++ others) where
  distinct := hdistinct
  exact other := by
    have hslots : (∃ slot' ∈ slots ++ [slot], slot'.name? = some other) ↔
        (∃ slot' ∈ slots, slot'.name? = some other) ∨ other = name := by
      simp only [List.mem_append, List.mem_singleton, or_and_right, exists_or, exists_eq_left,
        hname, Option.some.injEq, eq_comm (a := name)]
    have hnew : name ∈ (values ++ more).map Prod.fst ++ (bindVars ++ others) := by
      obtain ⟨name', hname', hmem⟩ := hserved.exists_name
      cases hname.symm.trans hname'
      exact hmem
    rw [hslots, ← h.exact]
    constructor
    · intro hother
      simp only [List.map_append, List.mem_append] at hother hmore ⊢
      rcases hother with (hother | hother) | (hother | hother)
      · exact .inl (.inl hother)
      · exact .inr (hmore other (.inl hother))
      · exact .inl (.inr hother)
      · exact .inr (hmore other (.inr hother))
    · rintro (hother | rfl)
      · simp only [List.map_append, List.mem_append] at hother ⊢
        exact hother.imp .inl .inl
      · exact hnew
  served := by
    intro slot' hslot'
    rcases List.mem_append.mp hslot' with hold | hlast
    · exact (h.served slot' hold).append more others
    · rw [List.mem_singleton.mp hlast]
      exact hserved

theorem Collected.addNamed (h : Collected dialect slots values bindVars) {slot : ParamSlot}
    {values' : List (String × SqlValue)} {bindVars' : List String}
    (hslot : addNamed dialect (values, bindVars) slot = .ok (values', bindVars')) :
    Collected dialect (slots ++ [slot]) values' bindVars' := by
  have hagain {name : String} (hname : slot.name? = some name)
      (hserved : Served dialect values bindVars slot) :
      Collected dialect (slots ++ [slot]) values bindVars := by
    have happend := h.append hname [] [] nofun
    simp only [List.append_nil] at happend
    exact happend h.distinct hserved
  unfold Parameters.addNamed at hslot
  cases slot with
  | anonymous value | positional index value => cases hslot
  | named name value =>
    dsimp only at hslot
    split at hslot
    · cases hslot
    next hunbound =>
    split at hslot
    · next known hknown =>
      split at hslot
      · next hsame =>
        cases hslot
        exact hagain rfl (.stored (hsame ▸ hknown))
      · cases hslot
    · next hunknown =>
      cases hslot
      have hfresh : name ∉ values.map Prod.fst ++ bindVars := by
        rw [List.mem_append, not_or]
        exact ⟨lookup_eq_none_iff.mp hunknown, hunbound⟩
      have hname : (ParamSlot.named name value).name? = some name := rfl
      have hadded := h.append hname [(name, dialect.coerce value)] []
      simp only [List.append_nil] at hadded
      refine hadded ?_ ?_ (.stored ?_)
      · rintro other hother
        exact List.mem_singleton.mp hother
      · rw [List.map_append, List.append_assoc]
        exact List.nodup_middle.mpr (List.nodup_cons.mpr ⟨hfresh, h.distinct⟩)
      · rw [List.lookup_append, hunknown, List.lookup_cons_self]
        rfl
  | bindVar name =>
    dsimp only at hslot
    split at hslot
    · cases hslot
    next hunknown =>
    split at hslot
    · next hbound =>
      cases hslot
      exact hagain rfl (.bound hbound)
    · next hunbound =>
      cases hslot
      have hfresh : name ∉ values.map Prod.fst ++ bindVars := by
        rw [List.mem_append, not_or, ← lookup_eq_none_iff, ← Option.not_isSome_iff_eq_none]
        exact ⟨hunknown, hunbound⟩
      have hname : (ParamSlot.bindVar name).name? = some name := rfl
      have hadded := h.append hname [] [name]
      rw [List.append_nil] at hadded
      refine hadded ?_ ?_ (.bound (List.mem_append_right _ (.head _)))
      · rintro other hother
        exact List.mem_singleton.mp hother
      · rw [← List.append_assoc, List.nodup_middle, List.append_nil]
        exact List.nodup_cons.mpr ⟨hfresh, h.distinct⟩

theorem collected_of_fold
    (h : slots.foldlM (addNamed dialect) ([], []) = .ok (values, bindVars)) :
    Collected dialect slots values bindVars := by
  exact Except.foldlM_keeps (P := fun done state => Collected dialect done state.1 state.2)
    (fun _ _ _ _ hdone hslot => hdone.addNamed hslot) [] collected_nil h

/-- In named style the names of the parameters are those of the values and bind variables. -/
theorem collect_named {parameters : Parameters}
    (h : collect slots .named dialect = .ok (parameters, bindVars)) :
    ∃ values, parameters = .named values ∧ Collected dialect slots values bindVars := by
  obtain ⟨⟨values, bindVars⟩, hfold, h⟩ := Except.bind_eq_ok h
  cases h
  exact ⟨values, rfl, collected_of_fold hfold⟩

/-- Binding adds the bind variables to the names that have values. -/
theorem Collected.keys_of_bind (h : Collected dialect slots values bindVars)
    {statement : CompiledStatement} (hparameters : statement.parameters = .named values)
    (hbindVars : statement.bindVars = bindVars) {s : Schema} {r : Record}
    {bound : List (String × SqlValue)} (hbind : (statement.bind s r).run = .ok (some bound)) :
    bound.map Prod.fst = values.map Prod.fst ++ bindVars := by
  obtain ⟨known, e, encoded, hknown, -, -, hfold⟩ := CompiledStatement.exists_fold_of_bind hbind
  rw [hparameters] at hknown
  rw [hbindVars] at hfold
  have hsame : known = values := by
    rcases hknown with hknown | ⟨hknown, -⟩
    · cases hknown
      rfl
    · cases hknown
  subst hsame
  obtain ⟨-, hdistinct, hapart⟩ := List.nodup_append.mp h.distinct
  have hfresh : ∀ name ∈ bindVars, known.lookup name = none := by
    intro name hname
    rw [lookup_eq_none_iff]
    intro hknown
    exact hapart name hknown name hname rfl
  obtain ⟨found, hfound, rfl⟩ := CompiledStatement.foldlM_insertValue hdistinct hfresh hfold
  rw [List.map_append, List.map_fst_zip (Nat.le_of_eq hfound.length_eq)]

end Parameters

namespace Fragment

variable {f : Fragment} {keep : ConditionKey → Bool} {dialect : Dialect} {style : ParamStyle}
  {parameters : Parameters} {bindVars : List String}

/-- Every placeholder of a statement stands for the parameter in its place and has its value. Parts
that are left out change nothing, and binding a record leaves no name without a value. -/
theorem placeholders_have_values
    (h : Parameters.collect (f.render style keep).slots style dialect =
      .ok (parameters, bindVars)) :
    render (prune keep f) style (fun _ => true) = f.render style keep ∧
    (f.texts keep).length = (f.params keep).length + 1 ∧
    match style with
    | .positional =>
      (f.render .positional keep).sql =
        weave (f.texts keep) ((f.params keep).map fun _ => "?") ∧
      (∃ values : List SqlValue, (f.params keep).map ParamSlot.value? = values.map some ∧
        parameters = .positional (values.map dialect.coerce)) ∧
      bindVars = [] ∧
      ∀ (statement : CompiledStatement) s r bound, statement.parameters = parameters →
        statement.bindVars = bindVars → (statement.bind s r).run = .ok (some bound) →
        f.params keep = [] ∧ bound = []
    | .named =>
      (f.render .named keep).sql =
        weave (f.texts keep) ((placeholderNames (f.params keep)).map (":" ++ ·)) ∧
      ∃ values, parameters = .named values ∧ (values.map Prod.fst ++ bindVars).Nodup ∧
        (∀ name, name ∈ placeholderNames (f.params keep) ↔
          name ∈ values.map Prod.fst ++ bindVars) ∧
        (∀ i (slot : ParamSlot), (f.params keep)[i]? = some slot →
          let name := slot.placeholder ((f.params keep).take i)
          match slot.value? with
          | some value => values.lookup name = some (dialect.coerce value)
          | none => name ∈ bindVars) ∧
        ∀ (statement : CompiledStatement) s r bound, statement.parameters = parameters →
          statement.bindVars = bindVars → (statement.bind s r).run = .ok (some bound) →
          bound.map Prod.fst = values.map Prod.fst ++ bindVars := by
  refine ⟨render_prune f style keep, length_texts, ?_⟩
  cases style with
  | positional =>
    obtain ⟨values, hvalues, rfl, rfl⟩ := Parameters.collect_positional h
    refine ⟨sql_render_positional, ⟨values, hvalues, rfl⟩, rfl, ?_⟩
    intro statement s r bound hparameters hbindVars hbind
    obtain ⟨known, e, encoded, hknown, -, -, hfold⟩ := CompiledStatement.exists_fold_of_bind hbind
    rw [hparameters] at hknown
    rw [hbindVars] at hfold
    cases hfold
    rcases hknown with hknown | ⟨hknown, rfl⟩
    · cases hknown
    · cases List.map_eq_nil_iff.mp (Parameters.positional.inj hknown)
      exact ⟨List.map_eq_nil_iff.mp hvalues, rfl⟩
  | named =>
    obtain ⟨values, rfl, hcollected⟩ := Parameters.collect_named h
    rw [slots_render_withName] at hcollected
    refine ⟨sql_render_named, values, rfl, hcollected.distinct, ?_, ?_, ?_⟩
    · intro name
      rw [hcollected.exact, ← map_name?_withName, List.mem_map]
      refine exists_congr fun slot => and_congr_right fun hslot => ?_
      obtain ⟨name', hname', -⟩ := (hcollected.served slot hslot).exists_name
      rw [hname', Option.getD_some, Option.some.injEq]
    · intro i slot hslot
      have hmem : slot.withName ((f.params keep).take i) ∈
          (f.params keep).mapIdx fun i slot => slot.withName ((f.params keep).take i) := by
        apply List.mem_of_getElem? (i := i)
        rw [List.getElem?_mapIdx, hslot]
        rfl
      have hserved := hcollected.served _ hmem
      cases slot with
      | anonymous value | named name value =>
        cases hserved with
        | stored h => exact h
      | positional index value => cases hserved
      | bindVar name =>
        cases hserved with
        | bound h => exact h
    · intro statement s r bound hparameters hbindVars hbind
      exact hcollected.keys_of_bind hparameters hbindVars hbind

end Fragment

/-! ## Open tasks -/

namespace Sample

def openTasks : Fragment := [.text "done = ", .param (.anonymous (.boolean false)),
  .conditional ⟨0, "_p"⟩ [.text " AND owner = ", .param (.anonymous (.int 3))],
  .text " AND id <> ", .param (.bindVar "id"), .text " AND rank < ", .param (.anonymous (.int 9))]

end Sample

namespace Fragment

theorem placeholders_have_values_openTasks :
    ∃ collected,
      Parameters.collect (render Sample.openTasks .named fun _ => false).slots .named .mySql =
        .ok collected ∧
      (render Sample.openTasks .named fun _ => false).sql =
        "done = :_p1 AND id <> :id AND rank < :_p2" ∧
      ∃ values, collected.1 = .named values ∧ values.lookup "_p2" = some (.int 9) ∧
        ∀ name, name ∈ ["_p1", "id", "_p2"] ↔ name ∈ values.map Prod.fst ++ collected.2 := by
  have hrun : ∃ collected,
      Parameters.collect (render Sample.openTasks .named fun _ => false).slots .named .mySql =
        .ok collected ∧
      (render Sample.openTasks .named fun _ => false).sql =
        "done = :_p1 AND id <> :id AND rank < :_p2" := by
    decide +kernel
  obtain ⟨⟨parameters, bindVars⟩, hcollect, hsql⟩ := hrun
  obtain ⟨-, -, -, values, rfl, -, hnames, hvalues, -⟩ := placeholders_have_values hcollect
  exact ⟨_, hcollect, hsql, values, rfl, hvalues 2 (.anonymous (.int 9)) rfl, hnames⟩

end Fragment

end RelMap
