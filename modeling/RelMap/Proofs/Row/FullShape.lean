import RelMap.Proofs.Row.Shape
import RelMap.Row.EncodeFull

/-!
# The shape of full encodings

In a full select the record behind a foreign key takes the place of its key. It is the one that is
given, that a reference has come with, or that the reference is loaded with, and no key will do. The
references of a loaded record are loaded in turn; the fields of the entity say how often.
-/

namespace RelMap

variable {σ : Type} {s : Schema}

namespace Field

def isComposite : Field → Bool
  | .inline _ _ _ | .foreignKey _ _ _ _ => true
  | .scalar _ _ | .ref _ _ _ | .converted _ _ => false

mutual

/-- The records in the value are those that the field names, also those that references are loaded
with while the value is encoded from the store on. -/
def Spreads (s : Schema) : Field → FieldValue → ReferenceStore σ → Prop
  | .inline _ target fields, v, store => ∀ shared ∈ v.record?,
    shared.content.entity = target.name ∧ AllSpread s fields shared.content.values store
  | .foreignKey _ target _ fields, v, store =>
    match v with
    | .record _ content =>
      content.entity = target.name ∧ AllSpread s fields content.values store
    | .reference r => ∀ shared store',
      (ReferenceStore.fetch r).run.run store = (.ok (some shared), store') →
        shared.content.entity = target.name ∧ AllSpread s fields shared.content.values store'
    | .scalar _ => Field.fullWidth fields = 1
    | .null | .enum _ => True
  | .ref _ target _, v, _ => v.LinksTo target
  | .scalar _ _, _, _ | .converted _ _, _, _ => True
termination_by structural f => f

/-- Each value starts from the store that the values before it leave. -/
def AllSpread (s : Schema) : List Field → List FieldValue → ReferenceStore σ → Prop
  | f :: fields, v :: values, store => Spreads s f v store ∧ ∀ path slots store',
    (Field.encodeFull s f path v).run.run store = some (.ok slots, store') →
      AllSpread s fields values store'
  | _, _, _ => True
termination_by structural fields => fields

end

end Field

/-! ## Fetching that ends -/

namespace Fetching

variable {α β : Type} {store : ReferenceStore σ} {P : α → Prop}

/-- The steps come to an end from the store, with a result that has the property or an error. -/
def Ends (x : Fetching σ α) (store : ReferenceStore σ) (P : α → Prop) : Prop :=
  ∃ outcome store', x.run.run store = some (outcome, store') ∧ ∀ a, outcome = .ok a → P a

theorem Ends.pure {a : α} (h : P a) : Ends (Pure.pure a : Fetching σ α) store P := by
  refine ⟨.ok a, store, rfl, ?_⟩
  rintro _ ⟨⟩
  exact h

theorem Ends.throw (e : Error) : Ends (throw e : Fetching σ α) store P :=
  ⟨.error e, store, rfl, nofun⟩

theorem Ends.check {x : Except Error α} (h : ∀ a, x = .ok a → P a) :
    Ends (liftM x : Fetching σ α) store P := by
  cases x with
  | error e => exact .throw e
  | ok a => exact .pure (h a rfl)

theorem Ends.bind {Q : β → Prop} {x : Fetching σ α} {f : α → Fetching σ β} (hx : Ends x store P)
    (hf : ∀ a store', x.run.run store = some (.ok a, store') → P a → Ends (f a) store' Q) :
    Ends (x >>= f) store Q := by
  obtain ⟨outcome, between, hrun, hok⟩ := hx
  unfold Ends
  rw [ExceptT.run_bind, StateT.run_bind, hrun]
  cases outcome with
  | error e => exact ⟨.error e, between, rfl, nofun⟩
  | ok a => exact hf a between hrun (hok a rfl)

theorem Ends.check_bind {Q : β → Prop} {x : Except Error α} {f : α → Fetching σ β}
    (hf : ∀ a, x = .ok a → Ends (f a) store Q) : Ends (liftM x >>= f) store Q := by
  cases x with
  | error e => exact .throw e
  | ok a => exact hf a rfl

theorem Ends.fetch (r : Reference) :
    Ends (liftM (ReferenceStore.fetch r : Loading σ (Option SharedRecord))) store fun _ => True :=
  ⟨_, _, rfl, fun _ _ => trivial⟩

end Fetching

/-! ## Records and links -/

variable {store : ReferenceStore σ} {path : String} {v : FieldValue}

theorem Field.encodeFull_eq_of_not_composite {f : Field} (hf : f.isComposite = false) (path : String)
    (v : FieldValue) :
    (f.encodeFull s path v : Fetching σ (List SqlValue)) = liftM (s.encodeField f v path) := by
  cases f with
  | inline info target fields | foreignKey info target key fields => cases hf
  | _ => cases v <;> exact Field.encodeFull.eq_def ..

theorem Field.ends_of_stored {f : Field} {P : List SqlValue → Prop}
    (hf : (f.encodeFull s path v : Fetching σ (List SqlValue)) = liftM (s.encodeField f v path))
    (h : ∀ values, Encode.field s f path v = .ok values → P values) :
    Fetching.Ends (f.encodeFull s path v) store P := by
  rw [hf]
  exact .check h

/-- Nothing is fetched for another field than a composite. -/
theorem Field.run_encodeFull_of_not_composite {f : Field} (hf : f.isComposite = false)
    {slots : List SqlValue} {store' : ReferenceStore σ}
    (h : (f.encodeFull s path v).run.run store = some (.ok slots, store')) : store' = store := by
  rw [Field.encodeFull_eq_of_not_composite hf] at h
  cases hv : s.encodeField f v path with
  | error e =>
    rw [hv] at h
    cases h
  | ok slots =>
    rw [hv] at h
    cases h
    rfl

theorem Record.ends_encodeFull {target : EntityInfo} {fields : List Field} {content : Record}
    {P : List SqlValue → Prop} (hentity : s.entity? target.name = some ⟨target, fields⟩)
    (hcontent : content.entity = target.name)
    (hfields : content.values.length = fields.length →
      Fetching.Ends (Entity.encodeFields s ⟨target, fields⟩ fields content.values) store P) :
    Fetching.Ends (content.encodeFull s) store P := by
  have hschema : s.entity content.entity = .ok ⟨target, fields⟩ := by
    rw [hcontent]
    exact Schema.entity_of_entity? hentity
  rw [Record.encodeFull, hschema]
  apply Fetching.Ends.check_bind
  rintro _ ⟨⟩
  apply Fetching.Ends.check_bind
  intro _ harity
  exact hfields (Field.length_of_checkArity (Except.mapError_eq_ok harity))

mutual

theorem Field.ends_encodeFull {f : Field} {v : FieldValue} {store : ReferenceStore σ} (path : String)
    (hcoherent : f.Coherent s) (hkeyed : f.Keyed s) (hspreads : f.Spreads s v store) :
    Fetching.Ends (f.encodeFull s path v) store (·.length = (FieldPlan.ofField .full f).width) := by
  cases f with
  | scalar info typ =>
    exact Field.ends_of_stored (Field.encodeFull_eq_of_not_composite rfl path v) fun _ =>
      Field.length_encode_scalar
  | converted info converter =>
    exact Field.ends_of_stored (Field.encodeFull_eq_of_not_composite rfl path v) fun _ =>
      Field.length_encode_converted
  | ref info target key =>
    exact Field.ends_of_stored (Field.encodeFull_eq_of_not_composite rfl path v) fun _ =>
      Field.length_encode hcoherent hkeyed hspreads
  | inline info target fields =>
    cases v with
    | null =>
      rw [Field.encodeFull]
      exact .pure List.length_replicate
    | record handle content =>
      obtain ⟨hcontent, hvalues⟩ := hspreads ⟨handle, content⟩ rfl
      rw [Field.encodeFull]
      exact Record.ends_encodeFull hcoherent.1 hcontent fun hlength =>
        Entity.ends_encodeFields ⟨target, fields⟩ hcoherent.2 hkeyed hvalues hlength
    | scalar value | enum variant | reference r =>
      apply Field.ends_of_stored (Field.encodeFull.eq_def ..)
      intro values hvalues
      cases hvalues
  | foreignKey info target key fields =>
    have hrecord (content : Record) (store : ReferenceStore σ)
        (hcontent : content.entity = target.name ∧ Field.AllSpread s fields content.values store) :
        Fetching.Ends (content.encodeFull s) store (·.length = Field.fullWidth fields) :=
      Record.ends_encodeFull hcoherent.1 hcontent.1 fun hlength =>
        Entity.ends_encodeFields ⟨target, fields⟩ hcoherent.2 hkeyed.2 hcontent.2 hlength
    cases v with
    | null =>
      rw [Field.encodeFull]
      exact .pure List.length_replicate
    | record handle content =>
      rw [Field.encodeFull]
      exact hrecord content store hspreads
    | reference r =>
      rw [Field.encodeFull]
      apply (Fetching.Ends.fetch r).bind
      intro found store' hfetch _
      cases found with
      | none => exact .throw _
      | some shared =>
        exact hrecord shared.content store' (hspreads shared store' (Option.some.inj hfetch))
    | scalar value =>
      apply Field.ends_of_stored (Field.encodeFull.eq_def ..)
      intro values hvalues
      cases hvalues
      exact hspreads.symm
    | enum variant =>
      apply Field.ends_of_stored (Field.encodeFull.eq_def ..)
      intro values hvalues
      cases hvalues
termination_by structural f

theorem Entity.ends_encodeFields (e : Entity) {fields : List Field} {vs : List FieldValue}
    {store : ReferenceStore σ} (hcoherent : Field.AllCoherent s fields)
    (hkeyed : Field.AllKeyed s fields)
    (hspreads : Field.AllSpread s fields vs store) (hlength : vs.length = fields.length) :
    Fetching.Ends (e.encodeFields s fields vs) store (·.length = Field.fullWidth fields) := by
  cases fields with
  | nil =>
    rw [Entity.encodeFields]
    · exact .pure rfl
    · nofun
  | cons f fields =>
    cases vs with
    | nil => cases hlength
    | cons v vs =>
      rw [Entity.encodeFields]
      apply (Field.ends_encodeFull _ hcoherent.1 hkeyed.1 hspreads.1).bind
      intro first between hrun hfirst
      have hrest := hspreads.2 _ first between hrun
      apply (Entity.ends_encodeFields e hcoherent.2 hkeyed.2 hrest (Nat.succ.inj hlength)).bind
      intro others _ _ hothers
      apply Fetching.Ends.pure
      rw [List.length_append, hfirst, hothers]
      rfl
termination_by structural fields

end

theorem Field.allSpread_cons_of_not_composite {f : Field} {fields : List Field} {v : FieldValue}
    {values : List FieldValue} {store : ReferenceStore σ} (hf : f.isComposite = false)
    (hfirst : f.Spreads s v store) (hrest : AllSpread s fields values store) :
    AllSpread s (f :: fields) (v :: values) store := by
  refine ⟨hfirst, fun path slots store' h => ?_⟩
  rwa [Field.run_encodeFull_of_not_composite hf h]

end RelMap
