import RelMap.Proofs.Statement.Lockstep

/-!
# Where elements are written

In a query without joins every element writes its part of the statement as it is, nested queries in
parentheses. Joins may be left out, and what is written inside them with them.
-/

namespace RelMap

open Compiling

/-! ## Queries without joins -/

mutual

/-- Whether no tables are joined in the element, except automatically to a root table. -/
def Element.joinless : Element → Bool
  | .join _ => false
  | .subquery inner _ => Element.allJoinless inner
  | .condition clause => clause.joinless
  | .sql _ | .select _ _ _ | .fromTable _ _ _ | .table _ _ _ | .aliasOf _ | .column _ | .insert _
  | .values _ | .update _ _ | .set _ | .delete _ _ | .param _ => true
termination_by structural e => e

def Element.allJoinless : List Element → Bool
  | [] => true
  | e :: rest => e.joinless && Element.allJoinless rest
termination_by structural es => es

def WhereClause.joinless : WhereClause → Bool
  | .template inner => Element.allJoinless inner
  | .object _ _ _ => true
termination_by structural clause => clause

end

variable {s : Schema} {format : SqlFormat}

/-- Only joins write the space before them themselves. -/
theorem Emission.element_congr {e : Element} (he : e.joinless = true) (separate separate' : Bool) :
    element s format separate e = element s format separate' e := by
  cases e with
  | join j => cases he
  | sql _ | select _ _ _ | fromTable _ _ _ | table _ _ _ | aliasOf _ | column _ | insert _
  | values _ | update _ _ | set _ | delete _ _ | condition _ | param _ | subquery _ _ =>
    rw [element, element]

/-- What is written for an element that emission reaches is a part of the passage. -/
theorem Emission.written_of_reaches {es : List Element} {before visited after : CompileState}
    {address : List Nat} {e : Element} {afterSql : Bool} {passage : Passage}
    (hreaches : (walk s format).Reaches es before address (.element e) visited)
    (hjoinless : Element.allJoinless es = true)
    (h : (elements s format afterSql es).run before = .ok (passage, after)) :
    ∃ separate p done, (element s format separate e).run visited = .ok (p, done) ∧
      p <:+: passage := by
  generalize hc : Construct.element e = c at hreaches
  induction hreaches generalizing afterSql passage after with
  | here e rest state =>
    cases hc
    obtain ⟨separate, first, between, others, hfirst, -, f, rfl⟩ := elements_cons_ok h
    exact ⟨separate, first, between, hfirst, List.infix_append _ _ _⟩
  | later hwalked hrest ih =>
    rw [Element.allJoinless, Bool.and_eq_true] at hjoinless
    obtain ⟨separate, first, between, others, hfirst, hothers, f, rfl⟩ := elements_cons_ok h
    obtain ⟨separate', walked, hwalked⟩ := hwalked
    rw [element_congr hjoinless.1 separate' separate] at hwalked
    cases hwalked.symm.trans hfirst
    obtain ⟨separate, p, done, hrun, hpart⟩ := ih hjoinless.2 hothers hc
    exact ⟨separate, p, done, hrun, hpart.trans (List.suffix_append _ _).isInfix⟩
  | subquery henter hinner ih =>
    rw [Element.allJoinless, Bool.and_eq_true, Element.joinless] at hjoinless
    obtain ⟨_, first, _, others, hfirst, -, f, rfl⟩ := elements_cons_ok h
    rw [element] at hfirst
    obtain ⟨scope, queue, inner, written, hqueue, hrun, rfl, -⟩ := inSubquery_ok hfirst
    obtain ⟨_, _, hqueue', rfl⟩ := henter
    cases hqueue.symm.trans hqueue'
    obtain ⟨separate, p, done, hrun, hpart⟩ := ih hjoinless.1 hrun hc
    have hparenthesized : inner <:+: inner.parenthesized := List.infix_append _ _ _
    exact ⟨separate, p, done, hrun, (hpart.trans hparenthesized).trans (List.infix_append _ _ _)⟩
  | condition hinner ih =>
    rw [Element.allJoinless, Bool.and_eq_true, Element.joinless, WhereClause.joinless] at hjoinless
    obtain ⟨_, first, _, others, hfirst, -, f, rfl⟩ := elements_cons_ok h
    rw [element] at hfirst
    obtain ⟨inner, written, hrun, hfirst⟩ := StateT.bind_eq_ok hfirst
    cases hfirst
    rw [condition] at hrun
    obtain ⟨separate, p, done, hrun, hpart⟩ := ih hjoinless.1 hrun hc
    have hclause : inner <:+: Passage.ofText "WHERE " ++ inner := (List.suffix_append _ _).isInfix
    exact ⟨separate, p, done, hrun, (hpart.trans hclause).trans (List.infix_append _ _ _)⟩
  | derived | joined => cases hc
  | inDerived | on =>
    rw [Element.allJoinless, Bool.and_eq_true, Element.joinless] at hjoinless
    cases hjoinless.1

/-! ## One state at every address -/

structure Walk.Functional (w : Walk) : Prop where
  element : ∀ {e : Element} {state state' state'' : CompileState}, w.element e state state' →
    w.element e state state'' → state' = state''
  enter : ∀ {correlated : Bool} {state state' state'' : CompileState},
    w.enter correlated state state' → w.enter correlated state state'' → state' = state''
  target : ∀ {t : JoinTarget} {state state' state'' : CompileState}, w.target t state state' →
    w.target t state state'' → state' = state''
  joined : ∀ {j : JoinElement} {state state' state'' : CompileState}, w.joined j state state' →
    w.joined j state state'' → state' = state''

theorem Registration.walk_functional : (walk s).Functional where
  element h h' := (Prod.mk.inj (Except.ok.inj (h.symm.trans h'))).2
  enter h h' := h.trans h'.symm
  target h h' := (Prod.mk.inj (Except.ok.inj (h.symm.trans h'))).2
  joined h h' := (Prod.mk.inj (Except.ok.inj (h.symm.trans h'))).2

theorem Walk.Reaches.unique {w : Walk} (hw : w.Functional) {es : List Element}
    {state reached reached' : CompileState} {address : List Nat} {c c' : Construct}
    (h : w.Reaches es state address c reached) (h' : w.Reaches es state address c' reached') :
    c = c' ∧ reached = reached' := by
  have hnil {es : List Element} {state reached : CompileState} {c : Construct}
      (h : w.Reaches es state [] c reached) : False := by
    obtain ⟨i, rest, hcons⟩ := h.address_eq_cons
    cases hcons
  induction h with
  | here e rest state =>
    cases h' with
    | here => exact ⟨rfl, rfl⟩
    | subquery _ hinner | condition hinner => exact (hnil hinner).elim
  | later helement _ ih =>
    cases h' with
    | later helement' hrest' =>
      cases hw.element helement helement'
      exact ih hrest'
  | subquery henter hinner ih =>
    cases h' with
    | here => exact (hnil hinner).elim
    | subquery henter' hinner' =>
      cases hw.enter henter henter'
      exact ih hinner'
  | condition hinner ih =>
    cases h' with
    | here => exact (hnil hinner).elim
    | condition hinner' => exact ih hinner'
  | derived =>
    cases h' with
    | derived => exact ⟨rfl, rfl⟩
    | inDerived _ hinner' => exact (hnil hinner').elim
  | inDerived henter hinner ih =>
    cases h' with
    | derived => exact (hnil hinner).elim
    | inDerived henter' hinner' =>
      cases hw.enter henter henter'
      exact ih hinner'
  | joined htarget =>
    cases h' with
    | joined htarget' => exact ⟨rfl, hw.target htarget htarget'⟩
  | on htarget hjoined hinner ih =>
    cases h' with
    | on htarget' hjoined' hinner' =>
      cases hw.target htarget htarget'
      cases hw.joined hjoined hjoined'
      exact ih hinner'

/-! ## Planned joins -/

theorem Emission.emitFrom_ok {entity : EntityName} {joins : List AutoJoin}
    {rest : List (List AutoJoin)} {visited after : CompileState} {passage : Passage}
    (hqueue : visited.autoJoins = joins :: rest)
    (h : (emitFrom s format entity true).run visited = .ok (passage, after)) :
    ∃ f, passage = .ofFragment f ++ joins.map (plannedJoin format) := by
  unfold emitFrom at h
  obtain ⟨e, -, h⟩ := entity_bind_ok h
  obtain ⟨table, located, htable, h⟩ := StateT.bind_eq_ok h
  have hqueued := congrArg Queued.autoJoins ((Modification.quiet_tableAt e "").queued htable)
  obtain ⟨next, _, hnext, h⟩ := StateT.bind_eq_ok h
  cases (run_nextAutoJoins (hqueued.trans hqueue)).symm.trans hnext
  cases h
  exact ⟨_, rfl⟩

/-- The joins that registration has planned for a root table are written where emission writes the
table. -/
theorem Emission.writes_planned_joins {es : List Element}
    {registered reached bound finished : CompileState} {passage : Passage} {address : List Nat}
    {name : EntityName} {aliasName : Option String} {joins : List AutoJoin}
    (hjoinless : Element.allJoinless es = true)
    (hregister : (Registration.elements s es).run {} = .ok ((), registered))
    (hemit : (elements s format true es).run registered.emitting = .ok (passage, finished))
    (hreaches : (Registration.walk s).Reaches es {} address
      (.element (.fromTable name aliasName true)) reached)
    (hbound : (Registration.element s (.fromTable name aliasName true)).run reached =
      .ok ((), bound))
    (hjoins : bound.autoJoins = reached.autoJoins ++ [joins]) :
    ∀ j ∈ joins, plannedJoin format j ∈ passage := by
  have htakes : TakesBack s format es registered := emission_takes_back hregister
  obtain ⟨visited, hvisited⟩ := (htakes.finish passage finished hemit).1 _ _ _ hreaches
  obtain ⟨_, _, hreaches', hbound', -, htake⟩ := htakes.items _ _ _ hvisited
  obtain ⟨-, rfl⟩ := hreaches.unique Registration.walk_functional hreaches'
  cases hbound.symm.trans hbound'
  obtain ⟨item, taken, hpushed, hnext, htaken⟩ := htake _ rfl
  obtain ⟨next, _, -, htaken⟩ := StateT.bind_eq_ok htaken
  cases htaken
  obtain ⟨others, hpushed⟩ := hpushed
  obtain ⟨rfl, -⟩ := List.cons.inj (List.append_cancel_left (hjoins.symm.trans hpushed))
  obtain ⟨rest, hqueue⟩ := hnext
  obtain ⟨separate, p, done, hrun, hpart⟩ := written_of_reaches hvisited hjoinless hemit
  rw [element] at hrun
  obtain ⟨f, rfl⟩ := emitFrom_ok hqueue hrun
  intro j hj
  exact hpart.subset (List.mem_append_right _ (List.mem_map_of_mem hj))

theorem Emission.tokens_plannedJoin {keep : ConditionKey → Bool} {passage : Passage} {j : AutoJoin}
    (hj : plannedJoin format j ∈ passage) (hkeep : keep ⟨j.scope, j.qualifier⟩ = true) :
    Fragment.tokens keep (j.join.render format) <:+: Fragment.tokens keep passage.fragment := by
  obtain ⟨front, back, rfl⟩ := List.append_of_mem hj
  have hpart : [plannedJoin format j] <:+: front ++ plannedJoin format j :: back :=
    ⟨front, back, List.append_assoc _ _ _⟩
  have hwritten := Passage.tokens_joins _ (Passage.joins_subset hpart (.head _))
    ⟨fun _ hk => (List.not_mem_nil hk).elim, hkeep⟩
  rw [Passage.fragment_referring, Fragment.tokens_append] at hwritten
  exact (List.suffix_append _ _).isInfix.trans hwritten

end RelMap
