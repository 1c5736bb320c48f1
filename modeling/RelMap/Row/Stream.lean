import RelMap.Row.Decode

/-!
# Result streams

A stream pulls rows from a source and decodes them one at a time. The source is closed once: when
the rows run out, when reading or decoding fails, on demand, or when the stream is dropped. Reading
from a closed stream is an error; only a stream whose rows ran out ends quietly as an iteration.
-/

namespace RelMap

abbrev Row := List SqlValue

/-- The cursor of an executed statement, a state with its two operations. -/
structure RowSource (σ : Type) where
  /-- The next row, none once the rows are exhausted. -/
  next : σ → Except Error (Option Row) × σ
  close : σ → Except Error Unit × σ

structure RowDecoder (δ α : Type) where
  decode : Row → δ → Except Error α × δ
  /-- Gives up what was kept from row to row; called when the stream closes. -/
  release : δ → δ := id

namespace RowDecoder

def raw : RowDecoder Unit Row where
  decode row state := (.ok row, state)

def records (s : Schema) (entity : EntityName) (mode : SelectMode) :
    RowDecoder DecodeState Record where
  decode row state := (s.mapRow row entity mode).run.run state
  release state := { state with interner := state.interner.clear }

def references (s : Schema) (entity : EntityName) (mode : SelectMode) :
    RowDecoder DecodeState Reference where
  decode row state := (s.mapRef row entity mode).run.run state

end RowDecoder

/-- What a stream asks of its source and its decoder, which work on one state. -/
structure StreamParts (ω α : Type) where
  next : StateM ω (Except Error (Option Row))
  close : StateM ω (Except Error Unit)
  decode : Row → StateM ω (Except Error α)
  release : StateM ω Unit

structure StreamFlags where
  closed : Bool := false
  /-- The source has reported the end of its rows. -/
  exhausted : Bool := false
deriving DecidableEq, Repr

abbrev Streaming (ω : Type) := StateT StreamFlags (StateM ω)

namespace StreamParts

variable {σ δ ω α β : Type}

def of (source : RowSource σ) (decoder : RowDecoder δ α) : StreamParts (σ × δ) α where
  next := fun (sourceState, decoderState) =>
    let (read, sourceState) := source.next sourceState
    (read, sourceState, decoderState)
  close := fun (sourceState, decoderState) =>
    let (result, sourceState) := source.close sourceState
    (result, sourceState, decoderState)
  decode row := fun (sourceState, decoderState) =>
    let (decoded, decoderState) := decoder.decode row decoderState
    (decoded, sourceState, decoderState)
  release := fun (sourceState, decoderState) => ((), sourceState, decoder.release decoderState)

/-- Releases the decoder, then closes the source. A closed stream is left as it is. -/
def closing (parts : StreamParts ω α) : Streaming ω (Except Error Unit) := do
  if (← get).closed then return .ok ()
  modify fun flags => { flags with closed := true }
  parts.release
  parts.close

/-- Fails with `error` after closing, whatever closing answers. -/
def failing (parts : StreamParts ω α) (error : Error) : Streaming ω (Except Error β) := do
  let _ ← parts.closing
  return .error error

def consuming (parts : StreamParts ω α) :
    Except Error (Option Row) → Streaming ω (Except Error (Option α))
  | .error e => parts.failing e
  | .ok none => do
    modify fun flags => { flags with exhausted := true }
    return (← parts.closing).map fun _ => none
  | .ok (some row) => do
    match ← parts.decode row with
    | .error e => parts.failing e
    | .ok item => return .ok (some item)

def nextItem (parts : StreamParts ω α) : Streaming ω (Except Error (Option α)) := do
  if (← get).closed then return .error (.usage .streamClosed)
  parts.consuming (← parts.next)

/-- The next result of the iteration, none once the rows ran out. -/
def iterating (parts : StreamParts ω α) : Streaming ω (Option (Except Error α)) := do
  if (← get).exhausted then return none
  match ← parts.nextItem with
  | .error e => return some (.error e)
  | .ok none => return none
  | .ok (some item) => return some (.ok item)

/-- Closes the stream if it is still open, ignoring a failure. -/
def dropping (parts : StreamParts ω α) : Streaming ω Unit := do
  let _ ← parts.closing

end StreamParts

structure ResultStream (σ δ α : Type) where
  source : RowSource σ
  decoder : RowDecoder δ α
  sourceState : σ
  decoderState : δ
  closed : Bool := false
  exhausted : Bool := false

namespace ResultStream

variable {σ δ α β : Type}

def perform (stream : ResultStream σ δ α)
    (operation : StreamParts (σ × δ) α → Streaming (σ × δ) β) : β × ResultStream σ δ α :=
  let run := operation (.of stream.source stream.decoder)
  let ((answer, flags), sourceState, decoderState) :=
    (run.run ⟨stream.closed, stream.exhausted⟩).run (stream.sourceState, stream.decoderState)
  (answer, ⟨stream.source, stream.decoder, sourceState, decoderState, flags.closed,
    flags.exhausted⟩)

def close (stream : ResultStream σ δ α) : Except Error Unit × ResultStream σ δ α :=
  stream.perform (·.closing)

def next (stream : ResultStream σ δ α) : Except Error (Option α) × ResultStream σ δ α :=
  stream.perform (·.nextItem)

def iterate (stream : ResultStream σ δ α) : Option (Except Error α) × ResultStream σ δ α :=
  stream.perform (·.iterating)

def drop (stream : ResultStream σ δ α) : ResultStream σ δ α := (stream.perform (·.dropping)).2

/-- The items up to the end of the rows, or up to `limit` of them. -/
def take : Nat → ResultStream σ δ α → Except Error (List α) × ResultStream σ δ α
  | 0, stream => (.ok [], stream)
  | limit + 1, stream =>
    match stream.next with
    | (.error e, stream) => (.error e, stream)
    | (.ok none, stream) => (.ok [], stream)
    | (.ok (some item), stream) =>
      let (rest, stream) := take limit stream
      (rest.map (item :: ·), stream)

/-- Reads the remaining items, at most `limit` of them, and drops the stream. -/
def collect (limit : Nat) (stream : ResultStream σ δ α) :
    Except Error (List α) × ResultStream σ δ α :=
  let (items, stream) := stream.take limit
  (items, stream.drop)

end ResultStream

end RelMap
