import Pam.Server.ResponseStream

namespace Pam.Server

open Pam.Foundation List

/-! The byte limits of a response: the loop of `invoke_php_http_local`, which
answers by a response of one piece, an error or a stream, and the driver that
feeds the stream. -/

inductive ServerError where
  | internal
  | timeout
  deriving DecidableEq

def ServerError.body : ServerError → String
  | .internal =>
    "\x7b\"error\":\"Internal Server Error\",\"message\":" ++
      "\"The request failed. Use the request ID to inspect server logs.\"\x7d"
  | .timeout =>
    "\x7b\"error\":\"Gateway Timeout\",\"message\":\"request execution exceeded its timeout\"\x7d"

def ServerError.bodyBytes (error : ServerError) : Nat := error.body.utf8ByteSize

/-- What the transport has of a dispatch. An error may take the place of a
stream: where the queue has no room for its head, after the items `placed`, or
where its status or headers are refused. -/
inductive HttpDispatch (Byte : Type) where
  | starting
  | running (envelope : PhpDispatchEnvelope Byte)
  | responded (body : List Byte)
  | refused (error : ServerError) (placed : List (List Byte))
  | streaming (drive : DriveState Byte) (refusal : Option ServerError)
  deriving DecidableEq

/-- What one turn meets: `wellFormed` says that the status and the headers are
HTTP, `waitFails` that a `Stream` operation cannot watch its descriptors. -/
structure InvokeTurn (Byte : Type) extends DriveTurn Byte where
  wellFormed : Bool
  waitFails : Bool

def headAllowed (config : StreamConfig) (head : PhpResponse Byte) (chunk : List Byte) : Bool :=
  chunk.length ≤ config.maxResponseChunkBytes && head.chunks.all (fun chunk =>
      chunk.length ≤ config.maxResponseChunkBytes) &&
    head.totalBytes + chunk.length ≤ config.maxResponseBytes &&
    head.contentLength.all (fun bytes => bytes ≤ config.maxResponseBytes)

def opensStream (config : StreamConfig) (head : PhpResponse Byte) (chunk : List Byte) : Bool :=
  headAllowed config head chunk &&
    head.pieces.length + 1 ≤ max 1 config.responseStreamQueueCapacity

def placedPieces (config : StreamConfig) (turn : InvokeTurn Byte) :
    PhpDispatchEnvelope Byte → List (List Byte)
  | .suspended (some (.responseChunk (some head) (some chunk))) =>
    if turn.elapsedMicros < config.timeoutMicros && headAllowed config head chunk then
      (head.pieces ++ [chunk]).take (max 1 config.responseStreamQueueCapacity)
    else []
  | _ => []

def InvokeTurn.resumeError (turn : InvokeTurn Byte) : Option ServerError :=
  if turn.reply.isNone then some .internal else none

def operationError (config : StreamConfig) (turn : InvokeTurn Byte) :
    Option (PhpOperation Byte) → Option ServerError
  | none => some .internal
  | some (.timer delayMicros) =>
    if config.timeoutMicros - turn.elapsedMicros ≤ delayMicros then some .timeout
    else turn.resumeError
  | some .native => if turn.waitFails then some .internal else turn.resumeError
  | some (.responseChunk none _) => some .internal
  | some (.responseChunk (some _) none) => some .internal
  | some (.responseChunk (some head) (some chunk)) =>
    if opensStream config head chunk then none else some .internal

def turnError (config : StreamConfig) (turn : InvokeTurn Byte) :
    PhpDispatchEnvelope Byte → Option ServerError
  | .complete none => some .internal
  | .complete (some response) =>
    if response.totalBytes ≤ config.maxResponseBytes && turn.wellFormed then none
    else some .internal
  | .suspended operation =>
    if config.timeoutMicros ≤ turn.elapsedMicros then some .timeout
    else operationError config turn operation

def HttpDispatch.resume : Option (PhpDispatchEnvelope Byte) → HttpDispatch Byte
  | some envelope => .running envelope
  | none => .refused .internal []

def proceed (turn : InvokeTurn Byte) : PhpDispatchEnvelope Byte → HttpDispatch Byte
  | .complete (some response) => .responded (response.body ++ response.chunks.flatten)
  | .suspended (some (.responseChunk (some head) (some chunk))) =>
    .streaming (.opened (head.pieces ++ [chunk])) (if turn.wellFormed then none else some .internal)
  | _ => .resume turn.reply

def invokeStep (config : StreamConfig) (state : HttpDispatch Byte)
    (turn : InvokeTurn Byte) : Option (HttpDispatch Byte) :=
  match state with
  | .starting => some (.resume turn.reply)
  | .running envelope =>
    match turnError config turn envelope with
    | some error => some (.refused error (placedPieces config turn envelope))
    | none => some (proceed turn envelope)
  | .streaming drive refusal =>
    (driveTurn config drive turn.toDriveTurn).map fun next => .streaming next refusal
  | .responded _ => none
  | .refused _ _ => none

def invokeMachine (config : StreamConfig) : Machine (HttpDispatch Byte) (InvokeTurn Byte) where
  start := .starting
  next := invokeStep config

def StreamItem.size : StreamItem Byte → Nat
  | .chunk bytes => bytes.length
  | .failure _ => 0

def itemBytes (items : List (StreamItem Byte)) : Nat := (items.map StreamItem.size).sum

def HttpDispatch.bodyBytes : HttpDispatch Byte → Nat
  | .starting => 0
  | .running _ => 0
  | .responded body => body.length
  | .refused error _ => error.bodyBytes
  | .streaming drive none => itemBytes drive.items
  | .streaming _ (some error) => error.bodyBytes

def HttpDispatch.channel : HttpDispatch Byte → List (StreamItem Byte)
  | .refused _ placed => placed.map .chunk
  | .streaming drive _ => drive.items
  | _ => []

structure WithinLimits (config : StreamConfig) (state : HttpDispatch Byte) : Prop where
  total : state.bodyBytes ≤ config.maxResponseBytes
  items : ∀ item ∈ state.channel, item.size ≤ config.maxResponseChunkBytes

def ServerError.Fits (config : StreamConfig) (error : ServerError) : Prop :=
  error.bodyBytes ≤ config.maxResponseBytes

/-- The server's own error is within the limit where the turn answers it. -/
def ErrorFits (config : StreamConfig) (state : HttpDispatch Byte) (turn : InvokeTurn Byte) : Prop :=
  match state with
  | .starting => turn.reply = none → ServerError.internal.Fits config
  | .running envelope =>
    match turnError config turn envelope, envelope with
    | some error, _ => error.Fits config
    | none, .suspended (some (.responseChunk (some _) (some _))) =>
      turn.wellFormed = false → ServerError.internal.Fits config
    | none, _ => True
  | _ => True

/-- The body of a head that is queued is no longer than a chunk may be. -/
def HeadFits (config : StreamConfig) (state : HttpDispatch Byte) (turn : InvokeTurn Byte) : Prop :=
  match state with
  | .running (.suspended (some (.responseChunk (some head) (some chunk)))) =>
    turn.elapsedMicros < config.timeoutMicros → headAllowed config head chunk = true →
    head.body.length ≤ config.maxResponseChunkBytes
  | _ => True

structure DriveWithin (config : StreamConfig) (state : DriveState Byte) : Prop where
  counted : itemBytes state.items = state.sentBytes
  total : state.sentBytes ≤ config.maxResponseBytes
  items : ∀ item ∈ state.items, item.size ≤ config.maxResponseChunkBytes

theorem itemBytes_map_chunk (pieces : List (List Byte)) :
    itemBytes (pieces.map .chunk) = (pieces.map List.length).sum := by
  simp [itemBytes, StreamItem.size, Function.comp_def]

@[simp] theorem itemBytes_append : itemBytes (items ++ [item]) = itemBytes items + item.size := by
  simp [itemBytes]

section Keeps

/-! What is kept by a queued chunk within the limits and by an error item is
kept by every turn of the driver. -/

variable {config : StreamConfig} (property : List (StreamItem Byte) → Nat → Prop)
  (queue : ∀ {items sent} {chunk : List Byte}, config.allows sent chunk.length = true →
    property items sent → property (items ++ [.chunk chunk]) (sent + chunk.length))
  (failure : ∀ {items sent} message, property items sent →
    property (items ++ [.failure message]) sent)
include queue failure

theorem sendResponseChunk_keeps {next : DriveState Byte}
    (kept : property state.items state.sentBytes)
    (step : sendResponseChunk config state chunk outcome = (next, sent)) :
    property next.items next.sentBytes := by
  cases outcome with
  | timedOut | closed =>
    cases step
    exact kept
  | accepted =>
    simp only [sendResponseChunk] at step
    split at step <;> cases step
    next allowed => exact queue allowed kept
    · exact failure _ kept

theorem sendPieces_keeps (kept : property state.items state.sentBytes) (sends : List SendOutcome) :
    property (sendPieces config state pieces sends).items
      (sendPieces config state pieces sends).sentBytes := by
  induction pieces generalizing state sends with
  | nil => exact kept
  | cons piece pieces induction =>
    unfold sendPieces
    split
    next accepted =>
      exact induction (sendResponseChunk_keeps property queue failure kept accepted) sends.tail
    next refused => exact sendResponseChunk_keeps property queue failure kept refused

theorem driveTurn_keeps {next : DriveState Byte} (kept : property state.items state.sentBytes)
    (step : driveTurn config state turn = some next) : property next.items next.sentBytes := by
  have resumed {state : DriveState Byte} (kept : property state.items state.sentBytes) :
      property (state.resume turn.reply).items (state.resume turn.reply).sentBytes := by
    cases turn.reply with
    | none | some envelope => exact kept
  unfold driveTurn at step
  repeat' split at step
  all_goals cases step
  all_goals first | exact kept | exact resumed kept | skip
  · exact sendPieces_keeps property queue failure
      (by exact kept :
        property ({ state.hand _ with completed := true } : DriveState Byte).items _) _
  next accepted =>
    exact resumed (sendResponseChunk_keeps property queue failure (by exact kept) accepted)
  next refused =>
    have sent := sendResponseChunk_keeps property queue failure (by exact kept) refused
    exact sent

end Keeps

theorem driveWithin_driveTurn {next : DriveState Byte} {turn : DriveTurn Byte}
    (within : DriveWithin config state) (step : driveTurn config state turn = some next) :
    DriveWithin config next := by
  have kept := driveTurn_keeps (fun items sent => itemBytes items = sent ∧
    sent ≤ config.maxResponseBytes ∧ ∀ item ∈ items, item.size ≤ config.maxResponseChunkBytes)
    (fun allowed kept => by
      simp only [StreamConfig.allows, Bool.and_eq_true, decide_eq_true_eq] at allowed
      refine ⟨by simp [kept.1, StreamItem.size], allowed.2, ?_⟩
      simpa [or_imp, forall_and, StreamItem.size, allowed.1] using kept.2.2)
    (fun message kept => by simpa [or_imp, forall_and, StreamItem.size] using kept)
    ⟨within.counted, within.total, within.items⟩ step
  exact ⟨kept.1, kept.2.1, kept.2.2⟩

theorem opensStream_eq (head : PhpResponse Byte) :
    opensStream config head chunk = (headAllowed config head chunk &&
        decide (head.pieces.length + 1 ≤ max 1 config.responseStreamQueueCapacity)) := rfl

theorem pieces_length_sum (response : PhpResponse Byte) :
    (response.pieces.map List.length).sum = response.totalBytes := by
  unfold PhpResponse.pieces PhpResponse.totalBytes
  cases response.body <;> simp

variable {head : PhpResponse Byte}

section

variable (allowed : headAllowed config head chunk = true)
include allowed

theorem queued_size_le (body : head.body.length ≤ config.maxResponseChunkBytes) :
    ∀ piece ∈ head.pieces ++ [chunk], piece.length ≤ config.maxResponseChunkBytes := by
  simp only [headAllowed, Bool.and_eq_true, decide_eq_true_eq, all_eq_true] at allowed
  intro piece member
  simp only [PhpResponse.pieces, mem_append, mem_singleton] at member
  rcases member with (first | buffered) | last
  · split at first
    · cases first
    · rw [mem_singleton.mp first]
      exact body
  · exact allowed.1.1.2 piece buffered
  · rw [last]
    exact allowed.1.1.1

theorem sentBytes_opened_le :
    (DriveState.opened (head.pieces ++ [chunk])).sentBytes ≤ config.maxResponseBytes := by
  simp only [headAllowed, Bool.and_eq_true] at allowed
  simp only [DriveState.opened, map_append, sum_append, pieces_length_sum]
  simpa using allowed.1.2

theorem driveWithin_opened (body : head.body.length ≤ config.maxResponseChunkBytes) :
    DriveWithin config (.opened (head.pieces ++ [chunk])) := by
  refine ⟨itemBytes_map_chunk _, sentBytes_opened_le allowed, ?_⟩
  intro item member
  obtain ⟨piece, queued, rfl⟩ := mem_map.mp member
  exact queued_size_le allowed body piece queued

end

theorem head_body_queued (long : limit < head.body.length) (chunk : List Byte) (room : Nat) :
    head.body ∈ (head.pieces ++ [chunk]).take (max 1 room) := by
  have filled : head.body.isEmpty = false := by
    cases body : head.body with
    | nil => simp [body] at long
    | cons _ _ => rfl
  obtain ⟨more, room⟩ : ∃ more, max 1 room = more + 1 := ⟨max 1 room - 1, by omega⟩
  simp [PhpResponse.pieces, filled, room]

theorem placedPieces_le_iff :
    (∀ piece ∈ placedPieces config turn envelope, piece.length ≤ config.maxResponseChunkBytes) ↔
      HeadFits config (.running envelope) turn := by
  unfold placedPieces HeadFits
  split
  next head chunk =>
    constructor
    · intro small early allowed
      by_contra long
      have queued := head_body_queued (Nat.lt_of_not_le long) chunk
        config.responseStreamQueueCapacity
      simp only [early, allowed] at small
      exact long (small head.body queued)
    · intro body piece member
      split at member
      next open_ =>
        simp only [Bool.and_eq_true, decide_eq_true_eq] at open_
        exact queued_size_le open_.2 (body open_.1 open_.2) piece (mem_of_mem_take member)
      · cases member
  next other =>
  constructor
  · intro _
    split
    next head chunk same =>
      cases same
      exact absurd rfl (other head chunk)
    · trivial
  · intro _ piece member
    cases member

theorem withinLimits_refused_iff : WithinLimits config (.refused error placed) ↔ error.Fits config ∧
        ∀ piece ∈ placed, piece.length ≤ config.maxResponseChunkBytes := by
  constructor
  · intro within
    refine ⟨within.total, ?_⟩
    intro piece member
    exact within.items (.chunk piece) (mem_map_of_mem member)
  · intro fits
    refine ⟨fits.1, ?_⟩
    intro item member
    obtain ⟨piece, queued, rfl⟩ := mem_map.mp member
    exact fits.2 piece queued

theorem withinLimits_resume_iff : WithinLimits config (.resume reply) ↔
      (reply = none → ServerError.internal.Fits config) := by
  cases reply with
  | none =>
    unfold HttpDispatch.resume
    rw [withinLimits_refused_iff]
    simp
  | some envelope =>
    constructor
    · intro _ same
      cases same
    · intro _
      exact ⟨Nat.zero_le _, by simp [HttpDispatch.resume, HttpDispatch.channel]⟩

theorem withinLimits_opened_iff (allowed : headAllowed config head chunk = true) :
    WithinLimits config (.streaming (.opened (head.pieces ++ [chunk]))
        (if wellFormed then none else some .internal)) ↔
      (wellFormed = false → ServerError.internal.Fits config) ∧ ∀ piece ∈ head.pieces ++ [chunk],
          piece.length ≤ config.maxResponseChunkBytes := by
  constructor
  · intro within
    constructor
    · intro malformed
      have bound := within.total
      rw [malformed] at bound
      exact bound
    · intro piece member
      exact within.items (.chunk piece) (mem_map_of_mem member)
  · intro fits
    constructor
    · cases wellFormed with
      | true => exact (itemBytes_map_chunk _).trans_le (sentBytes_opened_le allowed)
      | false => exact fits.1 rfl
    · intro item member
      obtain ⟨piece, queued, rfl⟩ := mem_map.mp member
      exact fits.2 piece queued

variable {turn : InvokeTurn Byte}

theorem placedPieces_of_opens (early : turn.elapsedMicros < config.timeoutMicros)
    (opens : opensStream config head chunk = true) :
    placedPieces config turn (.suspended (some (.responseChunk (some head) (some chunk)))) =
      head.pieces ++ [chunk] := by
  rw [opensStream_eq, Bool.and_eq_true] at opens
  simp only [placedPieces, early, opens.1]
  simpa using opens.2

theorem resumeError_eq_none (resumed : turn.resumeError = none) : turn.reply ≠ none := by
  intro failed
  simp [InvokeTurn.resumeError, failed] at resumed

theorem withinLimits_proceed (quiet : turnError config turn envelope = none)
    (unopened : ∀ head chunk, envelope ≠
      .suspended (some (.responseChunk (some head) (some chunk)))) :
    WithinLimits config (proceed turn envelope) := by
  cases envelope with
  | complete response =>
    cases response with
    | none => cases quiet
    | some response =>
      have small : response.totalBytes ≤ config.maxResponseBytes := by
        by_contra large
        simp [turnError, large] at quiet
      refine ⟨?_, by simp [proceed, HttpDispatch.channel]⟩
      simpa [proceed, HttpDispatch.bodyBytes, PhpResponse.totalBytes] using small
  | suspended operation =>
    simp only [turnError] at quiet
    split at quiet
    · cases quiet
    unfold operationError at quiet
    split at quiet
    · cases quiet
    · split at quiet
      · cases quiet
      · exact withinLimits_resume_iff.mpr fun failed => absurd failed (resumeError_eq_none quiet)
    · split at quiet
      · cases quiet
      · exact withinLimits_resume_iff.mpr fun failed => absurd failed (resumeError_eq_none quiet)
    · cases quiet
    · cases quiet
    · next head chunk => exact absurd rfl (unopened head chunk)

theorem withinLimits_running_iff (step : invokeStep config (.running envelope) turn = some target) :
    WithinLimits config target ↔ ErrorFits config (.running envelope) turn ∧
        HeadFits config (.running envelope) turn := by
  rw [← placedPieces_le_iff]
  unfold invokeStep at step
  cases answer : turnError config turn envelope with
  | some error =>
    simp only [answer] at step
    cases step
    rw [withinLimits_refused_iff]
    simp [ErrorFits, answer]
  | none =>
    simp only [answer] at step
    cases step
    by_cases opened : ∃ head chunk, envelope =
        .suspended (some (.responseChunk (some head) (some chunk)))
    · obtain ⟨head, chunk, rfl⟩ := opened
      have quiet := answer
      simp only [turnError, operationError] at quiet
      split at quiet
      · cases quiet
      next early =>
      split at quiet
      next opens =>
        rw [placedPieces_of_opens (Nat.lt_of_not_le early) opens]
        rw [opensStream_eq, Bool.and_eq_true] at opens
        simp only [ErrorFits, answer]
        exact withinLimits_opened_iff opens.1
      · cases quiet
    · have unopened : ∀ head chunk, envelope ≠
          .suspended (some (.responseChunk (some head) (some chunk))) := by
        intro head chunk same
        exact opened ⟨head, chunk, same⟩
      have within := withinLimits_proceed answer unopened
      have unplaced : placedPieces config turn envelope = [] := by
        unfold placedPieces
        split
        · next head chunk => exact absurd rfl (unopened head chunk)
        · rfl
      have fits : ErrorFits config (.running envelope) turn := by simp [ErrorFits, answer]
      simp [within, unplaced, fits]

structure DispatchWithin (config : StreamConfig) (state : HttpDispatch Byte) : Prop where
  limits : WithinLimits config state
  drive : ∀ drive refusal, state = .streaming drive refusal → DriveWithin config drive

theorem driveWithin_of_running (head : HeadFits config (.running envelope) turn)
    (step : invokeStep config (.running envelope) turn =
      some (.streaming drive refusal)) : DriveWithin config drive := by
  unfold invokeStep at step
  cases answer : turnError config turn envelope with
  | some error => simp [answer] at step
  | none =>
    simp only [answer] at step
    unfold proceed at step
    split at step
    · cases step
    next chunk =>
      cases step
      simp only [turnError, operationError] at answer
      split at answer
      · cases answer
      next early =>
      split at answer
      next opens =>
        rw [opensStream_eq, Bool.and_eq_true] at opens
        exact driveWithin_opened opens.1 (head (Nat.lt_of_not_le early) opens.1)
      · cases answer
    · cases reply : turn.reply with
      | none | some envelope => simp [HttpDispatch.resume, reply] at step

theorem withinLimits_starting_iff (step : invokeStep config .starting turn = some target) :
    WithinLimits config target ↔
      ErrorFits config .starting turn ∧ HeadFits config .starting turn := by
  cases step
  rw [withinLimits_resume_iff]
  exact (and_iff_left trivial).symm

theorem dispatchWithin_streaming (within : DispatchWithin config (.streaming drive refusal))
    (step : invokeStep config (.streaming drive refusal) turn = some target) :
    DispatchWithin config target := by
  obtain ⟨next, driven, rfl⟩ := Option.map_eq_some_iff.mp step
  have kept := driveWithin_driveTurn (within.drive drive refusal rfl) driven
  refine ⟨⟨?_, kept.items⟩, ?_⟩
  · cases refusal with
    | none => exact kept.counted.trans_le kept.total
    | some error => exact within.limits.total
  intro drive refusal same
  cases same
  exact kept

theorem not_streaming_of_starting :
    invokeStep config .starting turn ≠ some (.streaming drive refusal) := by
  cases reply : turn.reply with
  | none | some envelope => simp [invokeStep, HttpDispatch.resume, reply]

theorem withinLimits_step_iff {state : HttpDispatch Byte} (within : DispatchWithin config state)
    (step : invokeStep config state turn = some target) :
    WithinLimits config target ↔ ErrorFits config state turn ∧ HeadFits config state turn := by
  cases state with
  | starting => exact withinLimits_starting_iff step
  | running envelope => exact withinLimits_running_iff step
  | responded body | refused error placed => cases step
  | streaming drive refusal =>
    have kept := dispatchWithin_streaming within step
    exact iff_of_true kept.limits ⟨trivial, trivial⟩

theorem dispatchWithin_step {state : HttpDispatch Byte} (within : DispatchWithin config state)
    (fits : ErrorFits config state turn ∧ HeadFits config state turn)
    (step : invokeStep config state turn = some target) : DispatchWithin config target := by
  have limits := (withinLimits_step_iff within step).mpr fits
  cases state with
  | starting =>
    refine ⟨limits, ?_⟩
    intro drive refusal same
    rw [same] at step
    exact absurd step not_streaming_of_starting
  | running envelope =>
    refine ⟨limits, ?_⟩
    intro drive refusal same
    rw [same] at step
    exact driveWithin_of_running fits.2 step
  | responded body | refused error placed => cases step
  | streaming drive refusal => exact dispatchWithin_streaming within step

theorem dispatchWithin_starting : DispatchWithin config (.starting : HttpDispatch Byte) where
  limits := ⟨Nat.zero_le _, by simp [HttpDispatch.channel]⟩
  drive := by
    intro drive refusal same
    cases same

theorem dispatch_within_limits_iff (config : StreamConfig) (turns : List (InvokeTurn Byte)) :
    (∀ state ∈ (invokeMachine config).visited .starting turns, WithinLimits config state) ↔
      ∀ turn ∈ (invokeMachine config).transitions .starting turns,
        ErrorFits config turn.source turn.label ∧ HeadFits config turn.source turn.label :=
  (invokeMachine config).visited_iff_guarded (DispatchWithin config)
    (fun state turn => ErrorFits config state turn ∧ HeadFits config state turn)
    (WithinLimits config) (fun within => within.limits)
    (fun within fits step => dispatchWithin_step within fits step)
    (fun within unfit step limits => unfit ((withinLimits_step_iff within step).mp limits))
    dispatchWithin_starting turns

def narrowConfig : StreamConfig where
  maxResponseBytes := 1024
  maxResponseChunkBytes := 4
  responseStreamQueueCapacity := 8
  timeoutMicros := 30000000
  timeoutPositive := Nat.succ_pos _

def plainTurn (reply : Option (PhpDispatchEnvelope Bool)) : InvokeTurn Bool where
  elapsedMicros := 0
  sends := []
  reply := reply
  wellFormed := true
  waitFails := false

def bodyThenChunk : List (InvokeTurn Bool) := [plainTurn (some (.suspended (some (.responseChunk
      (some ⟨none, [true, true, true, true, true], []⟩) (some [true]))))), plainTurn none]

theorem long_body_on_channel : ¬ ∀ (config : StreamConfig) (turns : List (InvokeTurn Bool)),
      ∀ state ∈ (invokeMachine config).visited .starting turns, WithinLimits config state := by
  intro within
  have last := within narrowConfig bodyThenChunk
    (.streaming (.opened [[true, true, true, true, true], [true]]) none) (by decide +kernel)
  have small := last.items (.chunk [true, true, true, true, true]) (by decide)
  exact absurd small (by decide)

end Pam.Server
