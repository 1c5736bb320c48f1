import RelMap.Row.Stream

/-!
# Logged streams

The calls on a stream can be followed on a stream whose source and decoder keep a log of what they
are asked. The log changes nothing of what the stream answers.
-/

namespace RelMap

variable {σ δ ω κ α β γ : Type}

/-! ## Logs -/

/-- What a stream has asked of its source or its decoder, with the answer. -/
inductive StreamEvent (α : Type) where
  | read (answer : Except Error (Option Row))
  | decoded (row : Row) (answer : Except Error α)
  | released
  | closed (answer : Except Error Unit)

namespace StreamEvent

def isRead : StreamEvent α → Bool
  | read _ => true
  | _ => false

def isReleased : StreamEvent α → Bool
  | released => true
  | _ => false

def isClosed : StreamEvent α → Bool
  | closed _ => true
  | _ => false

def row? : StreamEvent α → Option Row
  | read (.ok (some row)) => some row
  | _ => none

end StreamEvent

def StreamParts.recorded (parts : StreamParts ω α) :
    StreamParts (ω × List (StreamEvent α)) α where
  next := fun (world, log) =>
    let (answer, world) := parts.next world
    (answer, world, log ++ [.read answer])
  close := fun (world, log) =>
    let (answer, world) := parts.close world
    (answer, world, log ++ [.closed answer])
  decode row := fun (world, log) =>
    let (answer, world) := parts.decode row world
    (answer, world, log ++ [.decoded row answer])
  release := fun (world, log) =>
    let ((), world) := parts.release world
    ((), world, log ++ [.released])

/-! ## Calls -/

inductive StreamCall where
  | nextItem
  /-- The next result of the iteration. -/
  | next
  | close

inductive StreamAnswer (α : Type) where
  | item (answer : Except Error (Option α))
  | iteration (answer : Option (Except Error α))
  | closing (answer : Except Error Unit)

def StreamAnswer.item? : StreamAnswer α → Option α
  | item (.ok (some a)) | iteration (some (.ok a)) => some a
  | _ => none

def StreamParts.call (parts : StreamParts ω α) : StreamCall → Streaming ω (StreamAnswer α)
  | .nextItem => return .item (← parts.nextItem)
  | .next => return .iteration (← parts.iterating)
  | .close => return .closing (← parts.closing)

def ResultStream.call (stream : ResultStream σ δ α) :
    StreamCall → StreamAnswer α × ResultStream σ δ α
  | .nextItem => stream.next.map .item id
  | .next => stream.iterate.map .iteration id
  | .close => stream.close.map .closing id

def ResultStream.calls (stream : ResultStream σ δ α) :
    List StreamCall → List (StreamAnswer α) × ResultStream σ δ α
  | [] => ([], stream)
  | c :: rest =>
    let (answer, stream) := stream.call c
    (stream.calls rest).map (answer :: ·) id

/-- A stream whose source and decoder keep a log of what they are asked. -/
structure LoggedStream (σ δ α : Type) where
  stream : ResultStream σ δ α
  log : List (StreamEvent α) := []

abbrev ResultStream.loggedParts (stream : ResultStream σ δ α) :
    StreamParts ((σ × δ) × List (StreamEvent α)) α :=
  (StreamParts.of stream.source stream.decoder).recorded

namespace LoggedStream

def flags (logged : LoggedStream σ δ α) : StreamFlags :=
  ⟨logged.stream.closed, logged.stream.exhausted⟩

def world (logged : LoggedStream σ δ α) : (σ × δ) × List (StreamEvent α) :=
  ((logged.stream.sourceState, logged.stream.decoderState), logged.log)

def perform (logged : LoggedStream σ δ α)
    (operation : StreamParts ((σ × δ) × List (StreamEvent α)) α →
      Streaming ((σ × δ) × List (StreamEvent α)) β) : β × LoggedStream σ δ α :=
  let run := operation logged.stream.loggedParts
  let ((answer, flags), (sourceState, decoderState), log) :=
    (run.run logged.flags).run logged.world
  (answer, ⟨⟨logged.stream.source, logged.stream.decoder, sourceState, decoderState, flags.closed,
    flags.exhausted⟩, log⟩)

def call (logged : LoggedStream σ δ α) (c : StreamCall) : StreamAnswer α × LoggedStream σ δ α :=
  logged.perform (·.call c)

def calls (logged : LoggedStream σ δ α) :
    List StreamCall → List (StreamAnswer α) × LoggedStream σ δ α
  | [] => ([], logged)
  | c :: rest =>
    let (answer, logged) := logged.call c
    (logged.calls rest).map (answer :: ·) id

def drop (logged : LoggedStream σ δ α) : LoggedStream σ δ α := (logged.perform (·.dropping)).2

end LoggedStream

/-! ## The log changes nothing -/

/-- But for the log, both do the same. -/
def Forgets (logging : Streaming (ω × κ) β) (plain : Streaming ω β) : Prop :=
  ∀ flags world log,
    ((logging.run flags).run (world, log)).map id Prod.fst = (plain.run flags).run world

namespace Forgets

theorem pure (b : β) : Forgets (κ := κ) (Pure.pure b) (Pure.pure b : Streaming ω β) := by
  intro flags world log
  rfl

theorem get : Forgets (κ := κ) MonadState.get (MonadState.get : Streaming ω StreamFlags) := by
  intro flags world log
  rfl

theorem bind {x : Streaming (ω × κ) β} {y : Streaming ω β} {f : β → Streaming (ω × κ) γ}
    {g : β → Streaming ω γ} (hx : Forgets x y) (hf : ∀ b, Forgets (f b) (g b)) :
    Forgets (x >>= f) (y >>= g) := by
  intro flags world log
  have hfirst : (x flags (world, log)).map id Prod.fst = y flags world := hx flags world log
  change (((f _).run _).run _).map id Prod.fst =
    ((g (y flags world).1.1).run _).run (y flags world).2
  rw [← hfirst]
  exact hf _ _ _ _

end Forgets

namespace StreamParts

open Forgets

variable (parts : StreamParts ω α)

theorem recorded_closing_forgets : Forgets parts.recorded.closing parts.closing := by
  apply bind get
  intro flags
  cases flags.closed with
  | true => exact pure _
  | false => exact bind (fun _ _ _ => rfl) fun _ => bind (fun _ _ _ => rfl) fun _ _ _ _ => rfl

theorem recorded_failing_forgets (error : Error) :
    Forgets (parts.recorded.failing error) (parts.failing error : Streaming ω (Except Error β)) :=
  bind parts.recorded_closing_forgets fun _ => pure _

theorem recorded_consuming_forgets (read : Except Error (Option Row)) :
    Forgets (parts.recorded.consuming read) (parts.consuming read) := by
  match read with
  | .error e => exact parts.recorded_failing_forgets e
  | .ok none =>
    exact bind (fun _ _ _ => rfl) fun _ => bind parts.recorded_closing_forgets fun _ => pure _
  | .ok (some row) =>
    refine bind (fun _ _ _ => rfl) fun decoded => ?_
    cases decoded with
    | error e => exact parts.recorded_failing_forgets e
    | ok item => exact pure _

theorem recorded_nextItem_forgets : Forgets parts.recorded.nextItem parts.nextItem := by
  apply bind get
  intro flags
  cases flags.closed with
  | true => exact pure _
  | false => exact bind (fun _ _ _ => rfl) parts.recorded_consuming_forgets

theorem recorded_iterating_forgets : Forgets parts.recorded.iterating parts.iterating := by
  apply bind get
  intro flags
  cases flags.exhausted with
  | true => exact pure _
  | false =>
    refine bind parts.recorded_nextItem_forgets fun answer => ?_
    match answer with
    | .error _ | .ok none | .ok (some _) => exact pure _

theorem recorded_dropping_forgets : Forgets parts.recorded.dropping parts.dropping :=
  bind parts.recorded_closing_forgets fun _ => pure _

theorem recorded_call_forgets (c : StreamCall) :
    Forgets (parts.recorded.call c) (parts.call c) := by
  cases c with
  | nextItem => exact bind parts.recorded_nextItem_forgets fun _ => pure _
  | next => exact bind parts.recorded_iterating_forgets fun _ => pure _
  | close => exact bind parts.recorded_closing_forgets fun _ => pure _

end StreamParts

namespace LoggedStream

theorem stream_perform (logged : LoggedStream σ δ α)
    (operation : StreamParts ((σ × δ) × List (StreamEvent α)) α →
      Streaming ((σ × δ) × List (StreamEvent α)) β)
    (plain : StreamParts (σ × δ) α → Streaming (σ × δ) β)
    (h : Forgets (operation logged.stream.loggedParts)
      (plain (.of logged.stream.source logged.stream.decoder))) :
    (logged.perform operation).map id stream = logged.stream.perform plain := by
  have hrun := h ⟨logged.stream.closed, logged.stream.exhausted⟩
    (logged.stream.sourceState, logged.stream.decoderState) logged.log
  rw [ResultStream.perform, show StateT.run _ _ = _ from hrun.symm]
  rfl

theorem stream_call (logged : LoggedStream σ δ α) (c : StreamCall) :
    (logged.call c).map id stream = logged.stream.call c := by
  have hperform := logged.stream_perform (·.call c) (·.call c)
    (StreamParts.recorded_call_forgets _ c)
  cases c <;> exact hperform

theorem stream_drop (logged : LoggedStream σ δ α) : logged.drop.stream = logged.stream.drop :=
  congrArg Prod.snd (logged.stream_perform (·.dropping) (·.dropping)
    (StreamParts.recorded_dropping_forgets _))

/-- The log does not change what is answered. -/
theorem stream_calls (logged : LoggedStream σ δ α) (called : List StreamCall) :
    (logged.calls called).map id stream = logged.stream.calls called := by
  induction called generalizing logged with
  | nil => rfl
  | cons c rest ih =>
    rw [ResultStream.calls, ← logged.stream_call c]
    change (((logged.call c).2.calls rest).map id stream).map _ id =
      ((logged.call c).2.stream.calls rest).map _ id
    rw [ih]
    rfl

end LoggedStream

end RelMap
