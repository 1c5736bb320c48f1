import RelMap.Proofs.Row.StreamLogs

/-!
# Use of streams

Whatever is called on a stream, its source is closed once, after its decoder has been released, and
not read any more. The items are the decodings of the first rows.
-/

namespace RelMap

variable {σ δ ω α β γ : Type}

/-! ## The log along the calls -/

namespace StreamEvent

/-- Each row is read and decoded before the next one. -/
def transcript (made : List (Row × α)) : List (StreamEvent α) :=
  made.flatMap fun (row, item) => [.read (.ok (some row)), .decoded row (.ok item)]

theorem transcript_concat (made : List (Row × α)) (row : Row) (item : α) :
    transcript (made ++ [(row, item)]) =
      transcript made ++ [.read (.ok (some row))] ++ [.decoded row (.ok item)] := by
  simp [transcript]

/-- An event of reading and decoding, not of closing. -/
def IsWork (event : StreamEvent α) : Prop := event.isReleased = false ∧ event.isClosed = false

theorem isWork_of_mem_transcript {made : List (Row × α)} {event : StreamEvent α}
    (h : event ∈ transcript made) : event.IsWork ∧ event ≠ .read (.ok none) := by
  obtain ⟨⟨row, item⟩, -, h⟩ := List.mem_flatMap.mp h
  obtain rfl | rfl : event = .read (.ok (some row)) ∨ event = .decoded row (.ok item) := by
    simpa using h
  · exact ⟨⟨rfl, rfl⟩, nofun⟩
  · exact ⟨⟨rfl, rfl⟩, nofun⟩

theorem rows_transcript (made : List (Row × α)) :
    (transcript made).filterMap row? = made.map Prod.fst := by
  induction made with
  | nil => rfl
  | cons pair made ih => exact congrArg (pair.1 :: ·) ih

end StreamEvent

inductive RowSource.Gives (source : RowSource σ) (start : σ) : List Row → σ → Prop
  | nil : Gives source start [] start
  | snoc {rows : List Row} {row : Row} {state state' : σ} (h : Gives source start rows state)
    (hnext : source.next state = (.ok (some row), state')) :
    Gives source start (rows ++ [row]) state'

inductive RowDecoder.Makes (decoder : RowDecoder δ α) (start : δ) : List (Row × α) → δ → Prop
  | nil : Makes decoder start [] start
  | snoc {made : List (Row × α)} {row : Row} {item : α} {state state' : δ}
    (h : Makes decoder start made state) (hdecode : decoder.decode row state = (.ok item, state')) :
    Makes decoder start (made ++ [(row, item)]) state'

/-- How reading comes to an end: the rows read that give no item, whether the source has reported
its end, and what is asked for that. -/
inductive StreamEnding : List Row → Bool → List (StreamEvent α) → Prop
  | abandoned : StreamEnding [] false []
  | exhausted : StreamEnding [] true [.read (.ok none)]
  | unread (e : Error) : StreamEnding [] false [.read (.error e)]
  | undecoded (row : Row) (e : Error) :
    StreamEnding [row] false [.read (.ok (some row)), .decoded row (.error e)]

namespace StreamEnding

variable {rest : List Row} {exhausted : Bool} {ending : List (StreamEvent α)}

theorem isWork (h : StreamEnding rest exhausted ending) : ∀ event ∈ ending, event.IsWork := by
  cases h <;> simp [StreamEvent.IsWork, StreamEvent.isReleased, StreamEvent.isClosed]

theorem end_mem_iff (h : StreamEnding rest exhausted ending) :
    .read (.ok none) ∈ ending ↔ exhausted = true := by
  cases h <;> simp

theorem rows_eq (h : StreamEnding rest exhausted ending) :
    ending.filterMap StreamEvent.row? = rest := by
  cases h <;> rfl

theorem rest_undecoded (h : StreamEnding rest exhausted ending) :
    rest.length ≤ 1 ∧ ∀ row ∈ rest, ∃ e, .decoded row (.error e) ∈ ending := by
  cases h <;> simp

end StreamEnding

/-! ## Standings -/

section

variable (origin : ResultStream σ δ α)

structure StreamReading (made : List (Row × α)) (flags : StreamFlags)
    (world : (σ × δ) × List (StreamEvent α)) : Prop where
  flags_eq : flags = {}
  gives : origin.source.Gives origin.sourceState (made.map Prod.fst) world.1.1
  makes : origin.decoder.Makes origin.decoderState made world.1.2
  log_eq : world.2 = StreamEvent.transcript made

structure StreamRead (made : List (Row × α)) (read : Except Error (Option Row))
    (flags : StreamFlags) (world : (σ × δ) × List (StreamEvent α)) : Prop where
  flags_eq : flags = {}
  gives : ∃ state, origin.source.Gives origin.sourceState (made.map Prod.fst) state ∧
    origin.source.next state = (read, world.1.1)
  makes : origin.decoder.Makes origin.decoderState made world.1.2
  log_eq : world.2 = StreamEvent.transcript made ++ [.read read]

/-- The stream has read and decoded the rows and come to an end; `after` is asked since. -/
structure StreamEnded (made : List (Row × α)) (exhausted : Bool)
    (after log : List (StreamEvent α)) : Prop where
  makes : ∃ state, origin.decoder.Makes origin.decoderState made state
  log_eq : ∃ rest ending, StreamEnding rest exhausted ending ∧
    (∃ state, origin.source.Gives origin.sourceState (made.map Prod.fst ++ rest) state) ∧
    log = StreamEvent.transcript made ++ ending ++ after

def StreamEnds (made : List (Row × α)) (exhausted : Bool) (flags : StreamFlags)
    (world : (σ × δ) × List (StreamEvent α)) : Prop :=
  flags = ⟨false, exhausted⟩ ∧ StreamEnded origin made exhausted [] world.2

/-- The stream has ended and is closed, its decoder released before its source. -/
def StreamClosed (made : List (Row × α)) (exhausted : Bool) (flags : StreamFlags)
    (world : (σ × δ) × List (StreamEvent α)) : Prop :=
  flags = ⟨true, exhausted⟩ ∧
    ∃ answer, StreamEnded origin made exhausted [.released, .closed answer] world.2

def StreamGave (items : List α) (flags : StreamFlags) (world : (σ × δ) × List (StreamEvent α)) :
    Prop :=
  ∃ made, items = made.map Prod.snd ∧
    (StreamReading origin made flags world ∨
      ∃ exhausted, StreamClosed origin made exhausted flags world)

end

/-- Run where `P` holds, the operation answers and ends as `Q` says. -/
def Leads (P : StreamFlags → ω → Prop) (x : Streaming ω β) (Q : β → StreamFlags → ω → Prop) :
    Prop :=
  ∀ flags world, P flags world →
    let ((b, flags), world) := (x.run flags).run world
    Q b flags world

theorem Leads.bind {P : StreamFlags → ω → Prop} {x : Streaming ω β}
    {between : β → StreamFlags → ω → Prop} {f : β → Streaming ω γ}
    {Q : γ → StreamFlags → ω → Prop} (hx : Leads P x between)
    (hf : ∀ b, Leads (between b) (f b) Q) : Leads P (x >>= f) Q := by
  intro flags world hP
  exact hf _ _ _ (hx flags world hP)

theorem Leads.imp {P P' : StreamFlags → ω → Prop} {x : Streaming ω β}
    {Q Q' : β → StreamFlags → ω → Prop} (h : Leads P x Q)
    (hP : ∀ flags world, P' flags world → P flags world)
    (hQ : ∀ b flags world, Q b flags world → Q' b flags world) : Leads P' x Q' := by
  intro flags world hP'
  exact hQ _ _ _ (h flags world (hP flags world hP'))

section

variable (origin : ResultStream σ δ α) (made : List (Row × α))

theorem leads_closing (exhausted : Bool) :
    Leads (StreamEnds origin made exhausted) origin.loggedParts.closing
      fun _ => StreamClosed origin made exhausted := by
  rintro _ ⟨⟨sourceState, decoderState⟩, log⟩ ⟨rfl, hended⟩
  obtain ⟨rest, ending, hending, hgives, hlog⟩ := hended.log_eq
  refine ⟨rfl, (origin.source.close sourceState).1, hended.makes, rest, ending, hending, hgives, ?_⟩
  change (log ++ [.released]) ++ [.closed _] = _
  rw [show log = _ from hlog, List.append_nil, List.append_assoc]
  rfl

theorem leads_failing (error : Error) :
    Leads (StreamEnds origin made false) (origin.loggedParts.failing error)
      fun (answer : Except Error β) flags world =>
        answer = .error error ∧ StreamClosed origin made false flags world :=
  (leads_closing origin made false).bind fun _ _ _ hclosed => ⟨rfl, hclosed⟩

def StreamDecoded (row : Row) : Except Error α → StreamFlags → (σ × δ) × List (StreamEvent α) → Prop
  | .error _ => StreamEnds origin made false
  | .ok item => StreamReading origin (made ++ [(row, item)])

theorem leads_decode (row : Row) :
    Leads (StreamRead origin made (.ok (some row)))
      (StateT.lift (origin.loggedParts.decode row)) (StreamDecoded origin made row) := by
  rintro _ ⟨⟨sourceState, decoderState⟩, log⟩ ⟨rfl, ⟨state, hgives, hnext⟩, hmakes, hlog⟩
  have hread := hgives.snoc hnext
  change StreamDecoded origin made row (origin.decoder.decode row decoderState).1 {}
    ((sourceState, (origin.decoder.decode row decoderState).2),
      log ++ [.decoded row (origin.decoder.decode row decoderState).1])
  rw [show log = _ from hlog]
  rcases hdecode : origin.decoder.decode row decoderState with ⟨e | item, decoderState'⟩
  · refine ⟨rfl, ⟨_, hmakes⟩, [row], _, .undecoded row e, ⟨_, hread⟩, ?_⟩
    simp
  · refine ⟨rfl, ?_, hmakes.snoc hdecode, (StreamEvent.transcript_concat made row item).symm⟩
    rwa [List.map_append]

theorem leads_consuming (read : Except Error (Option Row)) :
    Leads (StreamRead origin made read) (origin.loggedParts.consuming read)
      fun answer flags world => (answer = .ok none → flags.exhausted = true) ∧
        StreamGave origin (made.map Prod.snd ++ (StreamAnswer.item answer).item?.toList) flags
          world := by
  match read with
  | .error e =>
    refine (leads_failing origin made e).imp ?_ ?_
    · rintro flags world ⟨rfl, ⟨state, hgives, -⟩, hmakes, hlog⟩
      refine ⟨rfl, ⟨_, hmakes⟩, [], _, .unread e, ⟨state, ?_⟩, ?_⟩
      · rwa [List.append_nil]
      · rwa [List.append_nil]
    · rintro _ flags world ⟨rfl, hclosed⟩
      exact ⟨nofun, made, List.append_nil _, .inr ⟨_, hclosed⟩⟩
  | .ok none =>
    have hexhausted : Leads (StreamRead origin made (.ok none))
        (modify fun flags => { flags with exhausted := true })
        fun _ => StreamEnds origin made true := by
      rintro flags world ⟨rfl, ⟨state, hgives, -⟩, hmakes, hlog⟩
      refine ⟨rfl, ⟨_, hmakes⟩, [], _, .exhausted, ⟨state, ?_⟩, ?_⟩
      · rwa [List.append_nil]
      · rw [List.append_nil]
        exact hlog
    refine hexhausted.bind fun _ => (leads_closing origin made true).bind fun answer => ?_
    rintro flags world hclosed
    refine ⟨fun _ => by rw [hclosed.1], made, ?_, .inr ⟨_, hclosed⟩⟩
    cases answer <;> exact List.append_nil _
  | .ok (some row) =>
    refine (leads_decode origin made row).bind fun decoded => ?_
    cases decoded with
    | error e =>
      refine (leads_failing origin made e).imp (fun _ _ => id) ?_
      rintro _ flags world ⟨rfl, hclosed⟩
      exact ⟨nofun, made, List.append_nil _, .inr ⟨_, hclosed⟩⟩
    | ok item =>
      intro flags world hreading
      exact ⟨nofun, made ++ [(row, item)], by simp [StreamAnswer.item?], .inl hreading⟩

theorem leads_nextItem (items : List α) :
    Leads (StreamGave origin items) origin.loggedParts.nextItem fun answer flags world =>
      (answer = .ok none → flags.exhausted = true) ∧
        StreamGave origin (items ++ (StreamAnswer.item answer).item?.toList) flags world := by
  rintro flags ⟨⟨sourceState, decoderState⟩, log⟩ ⟨made, rfl, hreading | ⟨exhausted, rfl, hended⟩⟩
  · obtain ⟨rfl, hgives, hmakes, hlog⟩ := hreading
    refine leads_consuming origin made (origin.source.next sourceState).1 {}
      (((origin.source.next sourceState).2, decoderState),
        log ++ [.read (origin.source.next sourceState).1])
      ⟨rfl, ⟨sourceState, hgives, rfl⟩, hmakes, congrArg (· ++ _) hlog⟩
  · exact ⟨nofun, made, List.append_nil _, .inr ⟨exhausted, rfl, hended⟩⟩

theorem leads_iterating (items : List α) :
    Leads (StreamGave origin items) origin.loggedParts.iterating fun answer flags world =>
      (answer = none → flags.exhausted = true) ∧
        StreamGave origin (items ++ (StreamAnswer.iteration answer).item?.toList) flags world := by
  have hget : Leads (StreamGave origin items) MonadState.get fun read flags world =>
      read = flags ∧ StreamGave origin items flags world := by
    intro flags world hgave
    exact ⟨rfl, hgave⟩
  refine hget.bind fun ⟨closed, exhausted⟩ => ?_
  cases exhausted with
  | true =>
    rintro _ world ⟨rfl, hgave⟩
    exact ⟨fun _ => rfl, (List.append_nil items).symm ▸ hgave⟩
  | false =>
    refine ((leads_nextItem origin items).imp (fun _ _ => And.right) fun _ _ _ => id).bind
      fun answer => ?_
    match answer with
    | .error e | .ok (some item) =>
      rintro flags world ⟨-, hgave⟩
      exact ⟨nofun, hgave⟩
    | .ok none =>
      rintro flags world ⟨hexhausted, hgave⟩
      exact ⟨fun _ => hexhausted rfl, hgave⟩

theorem leads_closing_of_gave (items : List α) :
    Leads (StreamGave origin items) origin.loggedParts.closing fun _ flags world =>
      ∃ made exhausted, items = made.map Prod.snd ∧
        StreamClosed origin made exhausted flags world := by
  rintro flags world ⟨made, hitems, hreading | ⟨exhausted, rfl, hended⟩⟩
  · obtain ⟨hflags, hgives, hmakes, hlog⟩ := hreading
    have hends : StreamEnds origin made false flags world := by
      refine ⟨hflags, ⟨_, hmakes⟩, [], _, .abandoned, ⟨world.1.1, ?_⟩, ?_⟩
      · rwa [List.append_nil]
      · rwa [List.append_nil, List.append_nil]
    exact ⟨made, false, hitems, leads_closing origin made false flags world hends⟩
  · exact ⟨made, exhausted, hitems, rfl, hended⟩

/-- Whatever is called, the items of the answer follow those given before. -/
theorem leads_call (items : List α) (c : StreamCall) :
    Leads (StreamGave origin items) (origin.loggedParts.call c) fun answer =>
      StreamGave origin (items ++ answer.item?.toList) := by
  cases c with
  | nextItem => exact (leads_nextItem origin items).bind fun _ _ _ => And.right
  | next => exact (leads_iterating origin items).bind fun _ _ _ => And.right
  | close =>
    refine (leads_closing_of_gave origin items).bind ?_
    rintro _ flags world ⟨made, exhausted, hitems, hclosed⟩
    exact ⟨made, (List.append_nil items).trans hitems, .inr ⟨exhausted, hclosed⟩⟩

end

/-! ## The protocol -/

namespace ResultStream

/-- What an open stream finds: the decoding of the row that it reads. -/
def reading (stream : ResultStream σ δ α) : Except Error (Option α) :=
  match stream.source.next stream.sourceState with
  | (.error e, _) => .error e
  | (.ok none, state) => (stream.source.close state).1.map fun _ => none
  | (.ok (some row), _) => (stream.decoder.decode row stream.decoderState).1.map some

def iteration (stream : ResultStream σ δ α) : Option (Except Error α) :=
  match stream.reading with
  | .error e => some (.error e)
  | .ok item => item.map .ok

variable {stream : ResultStream σ δ α}

theorem next_of_open (h : stream.closed = false) : stream.next.1 = stream.reading := by
  obtain ⟨source, decoder, sourceState, decoderState, _, exhausted⟩ := stream
  cases h
  let parts := StreamParts.of source decoder
  change (((parts.consuming (source.next sourceState).1).run ⟨false, exhausted⟩).run
    ((source.next sourceState).2, decoderState)).1.1 = _
  rw [reading]
  dsimp only
  rcases source.next sourceState with ⟨e | _ | row, state⟩
  · rfl
  · rfl
  · change ((StateT.run (match (decoder.decode row decoderState).1 with
      | .error e => parts.failing e
      | .ok item => pure (.ok (some item)) : Streaming (σ × δ) _) ⟨false, exhausted⟩).run
        (state, (decoder.decode row decoderState).2)).1.1 = _
    dsimp only
    cases (decoder.decode row decoderState).1 <;> rfl

theorem iterate_of_open (h : stream.closed = false) (hexhausted : stream.exhausted = false) :
    stream.iterate.1 = stream.iteration := by
  rw [iteration, ← next_of_open h, iterate, next, perform, perform]
  obtain ⟨source, decoder, sourceState, decoderState, _, _⟩ := stream
  cases h
  cases hexhausted
  dsimp only
  generalize StreamParts.of source decoder = parts
  rw [StreamParts.iterating]
  simp only [StateT.run_bind, StateT.run_get, pure_bind, Bool.false_eq_true, if_false]
  rcases (parts.nextItem.run {}).run (sourceState, decoderState) with
    ⟨⟨e | _ | item, flags⟩, world⟩ <;> rfl

end ResultStream

namespace LoggedStream

variable {origin : ResultStream σ δ α}

structure Gave (origin : ResultStream σ δ α) (items : List α) (logged : LoggedStream σ δ α) :
    Prop where
  source_eq : logged.stream.source = origin.source
  decoder_eq : logged.stream.decoder = origin.decoder
  gave : StreamGave origin items logged.flags logged.world

namespace Gave

variable {items : List α} {logged : LoggedStream σ δ α}

theorem loggedParts_eq (hgave : Gave origin items logged) :
    logged.stream.loggedParts = origin.loggedParts := by
  rw [ResultStream.loggedParts, hgave.source_eq, hgave.decoder_eq]

theorem call (hgave : Gave origin items logged) (c : StreamCall) :
    Gave origin (items ++ (logged.call c).1.item?.toList) (logged.call c).2 := by
  have hleads := leads_call origin items c
  rw [← hgave.loggedParts_eq] at hleads
  exact ⟨hgave.source_eq, hgave.decoder_eq, hleads _ _ hgave.gave⟩

theorem calls (hgave : Gave origin items logged) (called : List StreamCall) :
    Gave origin (items ++ (logged.calls called).1.filterMap StreamAnswer.item?)
      (logged.calls called).2 := by
  induction called generalizing items logged with
  | nil => exact (List.append_nil items).symm ▸ hgave
  | cons c rest ih =>
    have hrest := ih (hgave.call c)
    have hitems : (logged.calls (c :: rest)).1.filterMap StreamAnswer.item? =
        (logged.call c).1.item?.toList ++
          ((logged.call c).2.calls rest).1.filterMap StreamAnswer.item? := by
      change ((logged.call c).1 :: _).filterMap _ = _
      rw [List.filterMap_cons]
      cases (logged.call c).1.item? <;> rfl
    rw [hitems, ← List.append_assoc]
    exact hrest

theorem drop (hgave : Gave origin items logged) :
    ∃ made exhausted, items = made.map Prod.snd ∧
      StreamClosed origin made exhausted logged.drop.flags logged.drop.world := by
  have hleads := leads_closing_of_gave origin items
  rw [← hgave.loggedParts_eq] at hleads
  exact hleads _ _ hgave.gave

theorem exhausted_of_next_none (hgave : Gave origin items logged)
    (h : (logged.call .next).1 = .iteration none) :
    (logged.call .next).2.flags.exhausted = true := by
  have hleads := leads_iterating origin items
  rw [← hgave.loggedParts_eq] at hleads
  refine (hleads _ _ hgave.gave).1 ?_
  injection h

end Gave

theorem nextItem_of_closed {logged : LoggedStream σ δ α} (h : logged.flags.closed = true) :
    (logged.call .nextItem).1 = .item (.error (.usage .streamClosed)) := by
  obtain ⟨⟨source, decoder, sourceState, decoderState, _, exhausted⟩, log⟩ := logged
  cases h
  rfl

/-- An open stream reads, and answers with what it finds. -/
theorem answers_of_open {logged : LoggedStream σ δ α} (h : logged.flags = {}) :
    (logged.call .nextItem).1 = .item logged.stream.reading ∧
      (logged.call .next).1 = .iteration logged.stream.iteration := by
  have hclosed : logged.stream.closed = false := congrArg StreamFlags.closed h
  have hexhausted : logged.stream.exhausted = false := congrArg StreamFlags.exhausted h
  constructor
  · calc (logged.call .nextItem).1
        = .item logged.stream.next.1 := congrArg Prod.fst (logged.stream_call .nextItem)
      _ = .item logged.stream.reading := by rw [ResultStream.next_of_open hclosed]
  · calc (logged.call .next).1
        = .iteration logged.stream.iterate.1 := congrArg Prod.fst (logged.stream_call .next)
      _ = .iteration logged.stream.iteration := by
        rw [ResultStream.iterate_of_open hclosed hexhausted]

theorem next_of_closed {logged : LoggedStream σ δ α} (h : logged.flags.closed = true)
    (hexhausted : logged.flags.exhausted = false) :
    (logged.call .next).1 = .iteration (some (.error (.usage .streamClosed))) := by
  obtain ⟨⟨source, decoder, sourceState, decoderState, _, _⟩, log⟩ := logged
  cases h
  cases hexhausted
  rfl

end LoggedStream

section

variable {origin : ResultStream σ δ α} {made : List (Row × α)} {exhausted : Bool} {items : List α}
  {flags : StreamFlags} {world : (σ × δ) × List (StreamEvent α)}

theorem StreamClosed.log_eq (h : StreamClosed origin made exhausted flags world) :
    ∃ work answer, world.2 = work ++ [.released, .closed answer] ∧
      (∀ event ∈ work, event.IsWork) ∧ (.read (.ok none) ∈ work ↔ exhausted = true) := by
  obtain ⟨-, answer, -, rest, ending, hending, -, hlog⟩ := h
  refine ⟨_, answer, hlog, ?_, ?_⟩
  · intro event hevent
    obtain hevent | hevent := List.mem_append.mp hevent
    · exact (StreamEvent.isWork_of_mem_transcript hevent).1
    · exact hending.isWork event hevent
  · rw [List.mem_append, hending.end_mem_iff]
    exact or_iff_right fun hmem => (StreamEvent.isWork_of_mem_transcript hmem).2 rfl

theorem StreamReading.log_isWork (h : StreamReading origin made flags world) :
    ∀ event ∈ world.2, event.IsWork ∧ event ≠ .read (.ok none) := by
  rw [h.log_eq]
  exact fun event => StreamEvent.isWork_of_mem_transcript

theorem StreamGave.end_mem_iff (h : StreamGave origin items flags world) :
    .read (.ok none) ∈ world.2 ↔ flags.exhausted = true := by
  obtain ⟨made, -, hreading | ⟨exhausted, hclosed⟩⟩ := h
  · rw [hreading.flags_eq]
    exact iff_of_false (fun hmem => (hreading.log_isWork _ hmem).2 rfl) nofun
  · obtain ⟨work, answer, hlog, -, hend⟩ := hclosed.log_eq
    rw [hlog, hclosed.1, List.mem_append, hend]
    simp

theorem StreamGave.closed_of_mem (h : StreamGave origin items flags world)
    (hclosed : ∃ event ∈ world.2, event.isClosed = true) : flags.closed = true := by
  obtain ⟨made, -, hreading | ⟨exhausted, hclosed'⟩⟩ := h
  · obtain ⟨event, hmem, hevent⟩ := hclosed
    rw [(hreading.log_isWork event hmem).1.2] at hevent
    cases hevent
  · rw [hclosed'.1]

theorem StreamGave.open_of_forall (h : StreamGave origin items flags world)
    (hopen : ∀ event ∈ world.2, event.isClosed = false) : flags = {} := by
  obtain ⟨made, -, hreading | ⟨exhausted, hclosed⟩⟩ := h
  · exact hreading.flags_eq
  · obtain ⟨work, answer, hlog, -⟩ := hclosed.log_eq
    cases hopen (.closed answer) (by simp [hlog])

/-- The source is closed once, the decoder is released once, and nothing is asked afterwards. -/
theorem StreamClosed.closed_once (h : StreamClosed origin made exhausted flags world) :
    world.2.countP (·.isClosed) = 1 ∧ world.2.countP (·.isReleased) = 1 ∧
      world.2.Pairwise fun earlier later =>
        earlier.isClosed = true → later.isRead = false ∧ later.isReleased = false := by
  obtain ⟨work, answer, hlog, hwork, -⟩ := h.log_eq
  rw [hlog, List.countP_append, List.countP_append, List.pairwise_append]
  refine ⟨?_, ?_, ?_, ?_, ?_⟩
  · rw [List.countP_eq_zero.mpr fun event hevent => by simp [(hwork event hevent).2]]
    rfl
  · rw [List.countP_eq_zero.mpr fun event hevent => by simp [(hwork event hevent).1]]
    rfl
  · refine List.pairwise_of_forall_mem_list fun event hevent _ _ hclosed => ?_
    rw [(hwork event hevent).2] at hclosed
    cases hclosed
  · exact .cons (by simp [StreamEvent.isClosed]) (List.pairwise_singleton _ _)
  · intro event hevent _ _ hclosed
    rw [(hwork event hevent).2] at hclosed
    cases hclosed

theorem StreamGave.countP_isClosed_le (h : StreamGave origin items flags world) :
    world.2.countP (·.isClosed) ≤ 1 := by
  obtain ⟨made, -, hreading | ⟨exhausted, hclosed⟩⟩ := h
  · have hopen : world.2.countP (·.isClosed) = 0 := by
      rw [List.countP_eq_zero]
      intro event hevent
      rw [(hreading.log_isWork event hevent).1.2]
      exact Bool.false_ne_true
    exact hopen ▸ Nat.zero_le 1
  · exact Nat.le_of_eq hclosed.closed_once.1

theorem StreamClosed.rows (h : StreamClosed origin made exhausted flags world) :
    ∃ rest, world.2.filterMap (·.row?) = made.map Prod.fst ++ rest ∧ rest.length ≤ 1 ∧
      (∀ row ∈ rest, ∃ e, .decoded row (.error e) ∈ world.2) ∧
      ∃ state, origin.source.Gives origin.sourceState (made.map Prod.fst ++ rest) state := by
  obtain ⟨-, answer, -, rest, ending, hending, hgives, hlog⟩ := h
  obtain ⟨hlength, hundecoded⟩ := hending.rest_undecoded
  refine ⟨rest, ?_, hlength, fun row hrow => ?_, hgives⟩
  · rw [hlog, List.filterMap_append, List.filterMap_append, StreamEvent.rows_transcript,
      hending.rows_eq]
    exact List.append_nil _
  · obtain ⟨e, he⟩ := hundecoded row hrow
    exact ⟨e, by simp [hlog, he]⟩

end

/-- Whatever is called on a new stream, then dropped: its source is closed at most once before the
drop and once in all, its decoder is released once, and after the source is closed nothing more is
asked of them. The items are the decodings of the rows read, in order, but for a last row whose
decoding failed. While the stream is open it reads a row whenever it is asked for one, and answers
with what the row is decoded to. Once it is closed, reading fails; its iteration fails as well
unless the source has reported its end, and is over only then. -/
theorem LoggedStream.protocol (source : RowSource σ) (decoder : RowDecoder δ α) (start : σ)
    (first : δ) (called : List StreamCall) :
    let fresh : ResultStream σ δ α := ⟨source, decoder, start, first, false, false⟩
    let answers := (calls ⟨fresh, []⟩ called).1
    let used := (calls ⟨fresh, []⟩ called).2
    let log := used.drop.log
    (answers, used.stream) = fresh.calls called ∧ used.drop.stream = used.stream.drop ∧
      used.log.countP (·.isClosed) ≤ 1 ∧ log.countP (·.isClosed) = 1 ∧
      log.countP (·.isReleased) = 1 ∧
      (log.Pairwise fun earlier later =>
        earlier.isClosed = true → later.isRead = false ∧ later.isReleased = false) ∧
      (∃ made rest, log.filterMap (·.row?) = made.map Prod.fst ++ rest ∧
        (∃ state, source.Gives start (made.map Prod.fst ++ rest) state) ∧
        (∃ state, decoder.Makes first made state) ∧
        answers.filterMap (·.item?) = made.map Prod.snd ∧
        rest.length ≤ 1 ∧ ∀ row ∈ rest, ∃ e, .decoded row (.error e) ∈ log) ∧
      ((∀ event ∈ used.log, event.isClosed = false) →
        (used.call .nextItem).1 = .item used.stream.reading ∧
        (used.call .next).1 = .iteration used.stream.iteration) ∧
      ((∃ event ∈ used.log, event.isClosed = true) →
        (used.call .nextItem).1 = .item (.error (.usage .streamClosed))) ∧
      ((used.call .next).1 = .iteration none → .read (.ok none) ∈ (used.call .next).2.log) ∧
      ((∃ event ∈ used.log, event.isClosed = true) → .read (.ok none) ∉ used.log →
        (used.call .next).1 = .iteration (some (.error (.usage .streamClosed)))) := by
  intro fresh answers used log
  have hfresh : Gave fresh [] ⟨fresh, []⟩ :=
    ⟨rfl, rfl, [], rfl, .inl ⟨rfl, .nil, .nil, rfl⟩⟩
  have hgave : Gave fresh (answers.filterMap StreamAnswer.item?) used := hfresh.calls called
  obtain ⟨made, exhausted, hitems, hclosed⟩ := hgave.drop
  obtain ⟨hcloses, hreleases, hpairwise⟩ := hclosed.closed_once
  obtain ⟨rest, hrows, hlength, hundecoded, hgives⟩ := hclosed.rows
  have hmakes : ∃ state, decoder.Makes first made state := by
    obtain ⟨-, _, hended⟩ := hclosed
    exact hended.makes
  refine ⟨stream_calls ⟨fresh, []⟩ called, ?_, hgave.gave.countP_isClosed_le, hcloses, hreleases,
    hpairwise, ⟨made, rest, hrows, hgives, hmakes, hitems, hlength, hundecoded⟩, ?_, ?_, ?_, ?_⟩
  · exact stream_drop used
  · intro hopen
    exact answers_of_open (hgave.gave.open_of_forall hopen)
  · intro hevent
    exact nextItem_of_closed (hgave.gave.closed_of_mem hevent)
  · intro hnone
    exact (hgave.call .next).gave.end_mem_iff.mpr (hgave.exhausted_of_next_none hnone)
  · intro hevent hend
    refine next_of_closed (hgave.gave.closed_of_mem hevent) ?_
    exact eq_false_of_ne_true fun hexhausted => hend (hgave.gave.end_mem_iff.mpr hexhausted)

def RowSource.listed : RowSource (List Row) where
  next
    | [] => (.ok none, [])
    | row :: rest => (.ok (some row), rest)
  close rows := (.ok (), rows)

/-- Both rows are handed out, the stream closes at their end, and its iteration is over. -/
theorem LoggedStream.protocol_two_rows :
    let fresh : ResultStream (List Row) Unit Row :=
      ⟨.listed, .raw, [[.int 1], [.int 2]], (), false, false⟩
    let used := calls ⟨fresh, []⟩ [.nextItem, .next, .nextItem, .next]
    used.1 = [.item (.ok (some [.int 1])), .iteration (some (.ok [.int 2])), .item (.ok none),
      .iteration none] ∧
    used.2.drop.log.filterMap (·.row?) = [[.int 1], [.int 2]] ∧
    used.2.log.countP (·.isClosed) ≤ 1 ∧ used.2.drop.log.countP (·.isClosed) = 1 := by
  intro fresh used
  obtain ⟨-, -, hbefore, hafter, -⟩ := protocol (.listed) (.raw) [[.int 1], [.int 2]] ()
    [.nextItem, .next, .nextItem, .next]
  exact ⟨rfl, rfl, hbefore, hafter⟩

end RelMap
