import RelMap.Proofs.Statement.Elements
import RelMap.Proofs.Statement.Placeholders

/-!
# Joins for what a statement mentions

An occurrence that an automatic join introduces may be mentioned anywhere in a query. The reference
is recorded in the nearest scope that owns an occurrence of the same entity and qualifier, or where
an automatic join in a nearer scope starts from it; that need not be the scope of the join.
-/

namespace RelMap

open Compiling

variable {s : Schema} {elements : List Element}

/-- The join introduces the occurrence that is mentioned. -/
def JoinPart.Introduces (j : JoinPart) (m : Mention) : Prop :=
  j.scope = m.owner ∧ j.joined = m.occurrence

instance (j : JoinPart) (m : Mention) : Decidable (j.Introduces m) :=
  inferInstanceAs (Decidable (j.scope = m.owner ∧ j.joined = m.occurrence))

namespace Schema

theorem emit_walks {dialect : Dialect} {passage : Passage} {state : CompileState}
    (h : s.emit dialect elements = .ok (passage, state)) :
    ∃ registered, (Registration.elements s elements).run {} = .ok ((), registered) ∧
      (Emission.elements s ⟨dialect, true⟩ true elements).run registered.emitting =
        .ok (passage, state) := by
  unfold emit at h
  obtain ⟨_, registered, hregister, h⟩ := StateT.bind_eq_ok h
  obtain ⟨_, _, henter, h⟩ := StateT.bind_eq_ok h
  cases henter
  exact ⟨registered, hregister, h⟩

theorem emit_of_walks {dialect : Dialect} {registered state : CompileState} {passage : Passage}
    (hregister : (Registration.elements s elements).run {} = .ok ((), registered))
    (hemit : (Emission.elements s ⟨dialect, true⟩ true elements).run registered.emitting =
      .ok (passage, state)) : s.emit dialect elements = .ok (passage, state) := by
  have henter : (modifyResolver (·.enter 0)).run registered = .ok ((), registered.emitting) := rfl
  exact (StateT.run_bind_of_ok hregister).trans ((StateT.run_bind_of_ok henter).trans hemit)

/-- A statement that is emitted has all the joins planned for it, and covers what it mentions. -/
theorem emit_ok {dialect : Dialect} {passage : Passage} {state : CompileState}
    (h : s.emit dialect elements = .ok (passage, state)) :
    ∃ registered, (Registration.elements s elements).run {} = .ok ((), registered) ∧
      (∀ joins ∈ registered.autoJoins, ∀ j ∈ joins, passage.HasJoin j.scope j.joined) ∧
      ∀ m ∈ passage.mentions, m.Covered state.resolver := by
  obtain ⟨registered, hregister, h⟩ := emit_walks h
  obtain ⟨q, hq, hemit⟩ := elements_inStep elements 0 true {} registered live_initial rfl hregister
  have hemitted := hemit _ passage state (ready_emitting hq) h
  refine ⟨registered, hregister, ?_, hemitted.covered⟩
  intro joins hjoins
  have hautoJoins : registered.autoJoins = q.autoJoins := congrArg Queued.autoJoins hq.queued
  rw [hautoJoins] at hjoins
  exact hemitted.planned joins hjoins

theorem compile_ok {options : CompileOptions} {statement : CompiledStatement}
    (h : s.compile options elements = .ok statement) :
    ∃ passage state style parameters bindVars,
      s.emit options.dialect elements = .ok (passage, state) ∧
      passage.fragment.paramStyle = .ok style ∧
      Parameters.collect (passage.fragment.render style (keeps state.resolver)).slots style
        options.dialect = .ok (parameters, bindVars) ∧
      (options.observers = [] → statement =
        ⟨(passage.fragment.render style (keeps state.resolver)).sql, parameters, bindVars,
          safetyOf elements, state.bindEntity⟩) := by
  unfold compile at h
  obtain ⟨⟨passage, state⟩, hemit, h⟩ := Except.bind_eq_ok h
  obtain ⟨style, hstyle, h⟩ := Except.bind_eq_ok h
  obtain ⟨⟨parameters, bindVars⟩, hcollect, h⟩ := Except.bind_eq_ok h
  refine ⟨passage, state, style, parameters, bindVars, hemit, Except.mapError_eq_ok hstyle,
    Except.mapError_eq_ok hcollect, ?_⟩
  intro hobservers
  rw [hobservers] at h
  dsimp only at h
  split at h
  · obtain ⟨_, -, h⟩ := Except.bind_eq_ok h
    cases h
    rfl
  · cases h
    rfl

/-- A statement whose parameters are values without names is compiled as it is emitted, unless it is
refused. -/
theorem compile_of_emit {options : CompileOptions} {passage : Passage} {state : CompileState}
    {values : List SqlValue} (hobservers : options.observers = [])
    (hallowed : options.rejectUnsafe = false ∨ safetyOf elements = .safe)
    (hemit : s.emit options.dialect elements = .ok (passage, state))
    (hparams : ∀ keep, passage.fragment.params keep = values.map .anonymous) :
    s.compile options elements = .ok
      ⟨(passage.fragment.render .positional (keeps state.resolver)).sql,
        .positional (values.map options.dialect.coerce), [], safetyOf elements,
        state.bindEntity⟩ := by
  have hstyle : passage.fragment.paramStyle = .ok .positional := by
    apply Fragment.paramStyle_eq_positional
    rw [Fragment.slots_eq_params, hparams]
    intro slot hslot
    obtain ⟨value, -, rfl⟩ := List.mem_map.mp hslot
    rfl
  have hslots : (passage.fragment.render .positional (keeps state.resolver)).slots =
      values.map .anonymous := hparams _
  unfold compile
  rw [hemit, hobservers]
  dsimp only [bind, Except.bind]
  rw [hstyle]
  dsimp only [liftM, monadLift, MonadLift.monadLift, Except.mapError]
  rw [hslots, Parameters.collect_anonymous]
  rcases hallowed with hallowed | hsafe
  · rw [hallowed]
    rfl
  · rw [hsafe]
    cases options.rejectUnsafe <;> rfl

theorem emit_of_compile {options : CompileOptions} {statement : CompiledStatement}
    (h : s.compile options elements = .ok statement) :
    ∃ passage state style, s.emit options.dialect elements = .ok (passage, state) ∧
      passage.fragment.paramStyle = .ok style ∧
      (options.observers = [] →
        statement.sql = (passage.fragment.render style (keeps state.resolver)).sql) := by
  obtain ⟨passage, state, style, parameters, bindVars, hemit, hstyle, -, hstatement⟩ := compile_ok h
  exact ⟨passage, state, style, hemit, hstyle, fun hobservers => by rw [hstatement hobservers]⟩

/-- The join for an occurrence that is mentioned in a statement is written with it exactly if no
automatic join around it is left out, and the reference is recorded in the scope of the join or the
join is required there by another one. -/
theorem compile_writes_mentioned_joins {options : CompileOptions} {statement : CompiledStatement}
    (h : s.compile options elements = .ok statement) :
    ∃ registered passage state style,
      (Registration.elements s elements).run {} = .ok ((), registered) ∧
      s.emit options.dialect elements = .ok (passage, state) ∧
      (options.observers = [] →
        statement.sql = (passage.fragment.render style (keeps state.resolver)).sql) ∧
      (∀ joins ∈ registered.autoJoins, ∀ j ∈ joins, passage.HasJoin j.scope j.joined) ∧
      ∀ m ∈ passage.mentions, m.Kept (keeps state.resolver) →
        ∀ j ∈ passage.joins, j.item.Introduces m.item →
          let use := state.resolver.tableUse m.item.owner
          (j.Written (keeps state.resolver) ↔ j.Kept (keeps state.resolver) ∧
            (m.item.recorded = m.item.owner ∨
              ∃ a ∈ use.referenced, use.LeadsTo m.item.occurrence.qualifier a)) ∧
          (j.Written (keeps state.resolver) →
            Fragment.tokens (keeps state.resolver) j.item.parts.fragment <:+:
              Fragment.tokens (keeps state.resolver) passage.fragment) := by
  obtain ⟨passage, state, style, hemit, -, hsql⟩ := emit_of_compile h
  obtain ⟨registered, hregister, hplanned, hcovered⟩ := emit_ok hemit
  refine ⟨registered, passage, state, style, hregister, hemit, hsql, hplanned, ?_⟩
  intro m hm hkept j hj ⟨hscope, hjoined⟩
  refine ⟨?_, Passage.tokens_joins passage hj⟩
  have hkey : j.item.key = ⟨m.item.owner, m.item.occurrence.qualifier⟩ := by
    rw [JoinPart.key, hscope, hjoined]
  have hkeeps := (hcovered m hm).keeps hkept
  unfold Placed.Written
  rw [hkey]
  apply and_congr_right
  intro _
  rw [keeps, TableUse.isRequired_iff]
  constructor
  · exact .inr
  · rintro (hrecorded | hrequired)
    · rw [Mention.key, hrecorded] at hkeeps
      exact TableUse.isRequired_iff.mp hkeeps
    · exact hrequired

end Schema

/-! ## Orders and visits of customers -/

namespace Sample

def shopSpec : SchemaSpec where
  naming := naming
  entities := [
    .ofTable "Customer" [(.scalar "id" .int : FieldSpec).asPrimaryKey],
    .ofTable "Order" [(.scalar "id" .int : FieldSpec).asPrimaryKey, .linked "customer" "Customer"],
    .ofTable "Visit" [(.scalar "id" .int : FieldSpec).asPrimaryKey, .linked "customer" "Customer"],
    .ofTable "Item" [(.scalar "id" .int : FieldSpec).asPrimaryKey]]

def customer : Entity := ⟨⟨"Customer", "Customer", .table⟩,
  [.scalar { name := "id", primaryKey := true } .int]⟩

def ofCustomer (name : EntityName) : Entity := ⟨⟨name, name, .table⟩,
  [.scalar { name := "id", primaryKey := true } .int,
    .foreignKey { name := "customer" } customer.toEntityInfo ⟨"id", .int⟩ customer.fields]⟩

def item : Entity := ⟨⟨"Item", "Item", .table⟩,
  [.scalar { name := "id", primaryKey := true } .int]⟩

def shopDrafts : List Draft := [
  ⟨customer.toEntityInfo, [⟨{ name := "id", primaryKey := true }, .scalar .int⟩]⟩,
  ⟨(ofCustomer "Order").toEntityInfo, [⟨{ name := "id", primaryKey := true }, .scalar .int⟩,
    ⟨{ name := "customer" }, .foreignKey "Customer"⟩]⟩,
  ⟨(ofCustomer "Visit").toEntityInfo, [⟨{ name := "id", primaryKey := true }, .scalar .int⟩,
    ⟨{ name := "customer" }, .foreignKey "Customer"⟩]⟩,
  ⟨item.toEntityInfo, [⟨{ name := "id", primaryKey := true }, .scalar .int⟩]⟩]

def shop : Schema :=
  ⟨[customer, ofCustomer "Order", ofCustomer "Visit", item], naming, shopDrafts⟩

theorem toSchema_shopSpec : shopSpec.toSchema = .ok shop := by
  cbv

def orders : List Element := [.select "Order" .full none, .fromTable "Order" none true]

/-- Orders for whose customer there is a visit, the visits being joined automatically. -/
def visitedOrders : List Element := [
  .select "Order" .nested none, .fromTable "Order" none true, .sql " WHERE EXISTS ",
  .subquery [.sql "SELECT ", .column ⟨"Visit", "id", none, .cascade⟩, .sql " ",
    .fromTable "Item" none false,
    .join ⟨.inner, .entity "Visit", none, none,
      .relation (some ⟨"Customer", some "customer", .outer⟩), true⟩] true]

end Sample

namespace Schema

theorem compile_orders_writes_mentioned_joins :
    ∃ statement, Sample.shop.compile {} Sample.orders = .ok statement ∧
      ∃ registered passage state style,
        (Registration.elements Sample.shop Sample.orders).run {} = .ok ((), registered) ∧
        Sample.shop.emit ({} : CompileOptions).dialect Sample.orders = .ok (passage, state) ∧
        (({} : CompileOptions).observers = [] →
          statement.sql = (passage.fragment.render style (keeps state.resolver)).sql) ∧
        (∀ joins ∈ registered.autoJoins, ∀ j ∈ joins, passage.HasJoin j.scope j.joined) ∧
        (∀ m ∈ passage.mentions, m.Kept (keeps state.resolver) →
          ∀ j ∈ passage.joins, j.item.Introduces m.item →
            let use := state.resolver.tableUse m.item.owner
            (j.Written (keeps state.resolver) ↔ j.Kept (keeps state.resolver) ∧
              (m.item.recorded = m.item.owner ∨
                ∃ a ∈ use.referenced, use.LeadsTo m.item.occurrence.qualifier a)) ∧
            (j.Written (keeps state.resolver) →
              Fragment.tokens (keeps state.resolver) j.item.parts.fragment <:+:
                Fragment.tokens (keeps state.resolver) passage.fragment)) ∧
        ∃ m ∈ passage.mentions, m.Kept (keeps state.resolver) ∧
          ∃ j ∈ passage.joins, j.item.Introduces m.item ∧ j.Written (keeps state.resolver) := by
  have hrun : ∃ statement, Sample.shop.compile {} Sample.orders = .ok statement ∧
      statement.sql = "SELECT \"_o\".\"id\", \"_c\".\"id\" FROM \"Order\" AS \"_o\"" ++
        " INNER JOIN \"Customer\" AS \"_c\" ON \"_o\".\"customer_id\" = \"_c\".\"id\"" := by
    decide +kernel
  have hmentioned : ∃ result,
      Sample.shop.emit ({} : CompileOptions).dialect Sample.orders = .ok result ∧
      ∃ m ∈ result.1.mentions, m.Kept (keeps result.2.resolver) ∧
        ∃ j ∈ result.1.joins, j.item.Introduces m.item ∧
          j.Written (keeps result.2.resolver) := by
    decide +kernel
  obtain ⟨statement, h, -⟩ := hrun
  obtain ⟨registered, passage, state, style, hregister, hemit, hsql, hplanned, hjoins⟩ :=
    compile_writes_mentioned_joins h
  obtain ⟨result, hresult, hwritten⟩ := hmentioned
  rw [hemit] at hresult
  cases hresult
  exact ⟨statement, h, registered, passage, state, style, hregister, hemit, hsql, hplanned, hjoins,
    hwritten⟩

/-- The subquery mentions the customer that is joined to the order, but the reference is recorded
in the subquery, where it starts an automatic join. The statement is written without the customer. -/
theorem exists_mention_without_join :
    Sample.shopSpec.toSchema = .ok Sample.shop ∧
    (∃ statement, Sample.shop.compile {} Sample.visitedOrders = .ok statement ∧
      statement.sql =
        "SELECT \"_o\".\"id\", \"_o\".\"customer_id\" FROM \"Order\" AS \"_o\" WHERE EXISTS " ++
        "(SELECT \"_v\".\"id\" FROM \"Item\" AS \"_i\" " ++
        "INNER JOIN \"Visit\" AS \"_v\" ON \"_v\".\"customer_id\" = \"_c\".\"id\")") ∧
    ∃ result, Sample.shop.emit .ansi Sample.visitedOrders = .ok result ∧
      ∃ m ∈ result.1.mentions, m.Kept (keeps result.2.resolver) ∧
        ∃ j ∈ result.1.joins, j.item.Introduces m.item ∧ ¬ j.Written (keeps result.2.resolver) :=
  ⟨Sample.toSchema_shopSpec, by decide +kernel, by decide +kernel⟩

end Schema

end RelMap
