import RelMap.Reference.Store
import RelMap.Row.Encode

/-!
# Encoding with linked records

A record becomes the values of a full select of its entity: a foreign key contributes all values of
the record behind it, which is fetched if the key holds a reference. The fetched record may hold
references to be fetched in turn, so nothing but the fetcher keeps this from going on forever.
-/

namespace RelMap

/-- Loading that may never come to an end, where nothing is returned. -/
abbrev Fetching (σ : Type) := ExceptT Error (StateT (ReferenceStore σ) Option)

instance {σ : Type} : MonadLift (Loading σ) (Fetching σ) := ⟨fun x store => some (x.run.run store)⟩

variable {σ : Type}

def Field.fullWidth (fields : List Field) : Nat :=
  FieldPlan.widths (FieldPlan.ofFields .full fields)

mutual

def Field.encodeFull (s : Schema) (f : Field) (path : String) (value : FieldValue) :
    Fetching σ (List SqlValue) :=
  match f, value with
  | .inline _ _ _, .record _ content | .foreignKey _ _ _ _, .record _ content =>
    content |>.encodeFull s
  | .inline _ _ inner, .null | .foreignKey _ _ _ inner, .null =>
    return List.replicate (Field.fullWidth inner) .null
  | .foreignKey _ _ _ _, .reference r => do
    match ← (ReferenceStore.fetch r : Loading σ (Option SharedRecord)) with
    | some shared => shared.content |>.encodeFull s
    | none => throw (.usage (.nullReference path))
  | f, value => s.encodeField f value path
partial_fixpoint

def Record.encodeFull (s : Schema) (r : Record) : Fetching σ (List SqlValue) := do
  let e ← s.entity r.entity
  e.checkArity r.values
  e |>.encodeFields s e.fields r.values
partial_fixpoint

def Entity.encodeFields (s : Schema) (e : Entity) (fs : List Field) (values : List FieldValue) :
    Fetching σ (List SqlValue) :=
  match fs, values with
  | f :: fs, value :: values => do
    let first ← f |>.encodeFull s s!"{e.name}.{f.name}" value
    let others ← e |>.encodeFields s fs values
    return first ++ others
  | _, _ => return []
partial_fixpoint

end

namespace Schema

/-- The slots of a full select of the record. -/
def encodeFull {σ : Type} (s : Schema) (r : Record) : Fetching σ (List SqlValue) :=
  r.encodeFull s

end Schema

end RelMap
