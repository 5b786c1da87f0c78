import Mathlib.Data.Nat.Find
import Pam.Foundation.Run

namespace Pam.Server

open Pam.Foundation List Nat

/-! The `clients` registry of `server.rs` and the tasks of `websocket_session`
that share it. A sender is named by the number of its session. -/

inductive Frame where
  | close (reason : String)
  | payload (text : String)
  deriving DecidableEq

inductive SessionPhase where
  | registered
  | serving
  | ending
  | disconnected
  | closed
  deriving DecidableEq

structure Session where
  socketId : String
  phase : SessionPhase
  queue : List Frame
  receiving : Bool
  deriving DecidableEq

structure SessionConfig where
  websocketQueueCapacity : Nat
  websocketMaxConnections : Nat
  /-- The keyed check of `verify_resume_token` for the configured secret. -/
  verifyResumeToken : String → String → Bool

structure SessionState where
  clients : String → Option Nat
  nextSocketId : Nat
  sessions : List Session
  /-- `Runtime::$connectedSockets` of the PHP runtime. -/
  connectedSockets : String → Bool

def SessionState.initial : SessionState where
  clients := fun _ => none
  nextSocketId := 1
  sessions := []
  connectedSockets := fun _ => false

/-! Admission: the part of `websocket_upgrade` that decides which session id a
connection gets. -/

def isSafeSessionId (value : String) : Bool :=
  !value.isEmpty && value.utf8ByteSize ≤ 128 && value.toList.all fun character =>
      character.isAlphanum || character == '-' || character == '_' || character == '.'

def requestedSession (config : SessionConfig) :
    Option String → Option String → Except String (Option String)
  | none, none => .ok none
  | some sessionId, some token =>
    if isSafeSessionId sessionId && config.verifyResumeToken sessionId token then
      .ok (some sessionId)
    else .error "WebSocket reconnection requires a valid server-issued resume token"
  | _, _ => .error "WebSocket reconnection requires a valid server-issued resume token"

/-- A task holds its permit of `websocket_slots` until `websocket_session`
returns. -/
def SessionState.connections (state : SessionState) : Nat :=
  state.sessions.countP fun session => session.phase != .closed

def Session.trySend (config : SessionConfig) (frame : Frame) (session : Session) : Session :=
  if session.receiving && session.queue.length < config.websocketQueueCapacity then
    { session with queue := session.queue ++ [frame] }
  else session

def sendTo (config : SessionConfig) (frame : Frame)
    (sessions : List Session) (recipient : Nat) : List Session :=
  sessions.modify recipient (Session.trySend config frame)

inductive OutboundTarget where
  | socket
  | broadcast
  | room

structure WsCommand where
  target : OutboundTarget
  socketIds : List String
  frame : Option Frame

def WsCommand.hasValidRecipients (command : WsCommand) : Bool := match command.target with
  | .socket => command.socketIds.length == 1
  | .broadcast => true
  | .room => true

def WsCommand.recipients (command : WsCommand) (clients : String → Option Nat) : List Nat :=
  command.socketIds.filterMap clients

def applyWebsocketCommand (config : SessionConfig) (state : SessionState)
    (command : WsCommand) : SessionState :=
  if command.hasValidRecipients then
    match command.frame with
    | none => state
    | some frame => { state with
        sessions := (command.recipients state.clients).foldl (sendTo config frame) state.sessions }
  else state

/-- The insertion under the write lock and the notice to the replaced sender,
which is sent before the lock is released. -/
def register (config : SessionConfig) (state : SessionState)
    (requested : Option String) : SessionState :=
  let socketId := requested.getD s!"socket-{state.nextSocketId}"
  let notified := match state.clients socketId with
    | none => state.sessions
    | some previous => sendTo config (.close "session replaced") state.sessions previous
  { state with
    clients := Function.update state.clients socketId (some state.sessions.length)
    nextSocketId := if requested.isNone then state.nextSocketId + 1 else state.nextSocketId
    sessions := notified ++ [{
      socketId := socketId
      phase := .registered
      queue := []
      receiving := true }] }

/-- What becomes of the Connection event: `rejected` also covers an event that
`dispatch_websocket_event` could not hand to PHP. -/
inductive ConnectOutcome where
  | accepted
  | rejected
  | handlerFailed

def phpConnect (outcome : ConnectOutcome) (socketId : String)
    (connectedSockets : String → Bool) : String → Bool :=
  match outcome with
  | .accepted => Function.update connectedSockets socketId true
  | .rejected => connectedSockets
  | .handlerFailed => Function.update connectedSockets socketId false

def phpDisconnect (dispatched : Bool) (socketId : String)
    (connectedSockets : String → Bool) : String → Bool :=
  if dispatched then Function.update connectedSockets socketId false else connectedSockets

def SessionState.setPhase (state : SessionState) (number : Nat)
    (phase : SessionPhase) : SessionState := { state with
    sessions := state.sessions.modify number fun session => { session with phase := phase } }

inductive SessionLabel where
  | upgrade (sessionId resumeToken : Option String)
  | connect (session : Nat) (outcome : ConnectOutcome)
  | stopReading (session : Nat)
  | disconnect (session : Nat) (dispatched : Bool)
  | cleanup (session : Nat)
  | command (command : WsCommand)
  | write (session : Nat)
  | stopWriting (session : Nat)

def SessionState.fromPhase (state : SessionState) (number : Nat)
    (phase : SessionPhase) (continuation : Session → SessionState) : Option SessionState :=
  match state.sessions[number]? with
  | none => none
  | some session => if session.phase = phase then some (continuation session) else none

def sessionNext (config : SessionConfig) (state : SessionState) : SessionLabel → Option SessionState
  | .upgrade sessionId resumeToken =>
    if state.connections < config.websocketMaxConnections then
      match requestedSession config sessionId resumeToken with
      | .error _ => some state
      | .ok requested => some (register config state requested)
    else some state
  | .connect number outcome => state.fromPhase number .registered fun session =>
      { state.setPhase number .serving with
        connectedSockets := phpConnect outcome session.socketId state.connectedSockets }
  | .stopReading number => state.fromPhase number .serving fun _ => state.setPhase number .ending
  | .disconnect number dispatched => state.fromPhase number .ending fun session =>
      { state.setPhase number .disconnected with
        connectedSockets := phpDisconnect dispatched session.socketId state.connectedSockets }
  | .cleanup number =>
    -- The entry is removed by its key, whichever sender it holds.
    state.fromPhase number .disconnected fun session => { state with
        clients := Function.update state.clients session.socketId none
        sessions := state.sessions.modify number fun session =>
          { session with phase := .closed, receiving := false } }
  | .command command => some (applyWebsocketCommand config state command)
  | .write number => some { state with sessions := state.sessions.modify number fun session =>
        { session with queue := session.queue.tail } }
  | .stopWriting number => some { state with
      sessions := state.sessions.modify number fun session => { session with receiving := false } }

def sessionMachine (config : SessionConfig) : Machine SessionState SessionLabel where
  start := .initial
  next := sessionNext config

/-! Open sessions. Sessions are numbered in the order of their registration,
so of two sessions of one id the later one has the greater number. -/

def OpenAs (sessions : List Session) (socketId : String) (number : Nat) : Prop :=
  ∃ session, sessions[number]? = some session ∧
    session.socketId = socketId ∧ session.phase ≠ .closed

def MostRecentOpen (sessions : List Session) (socketId : String) (number : Nat) : Prop :=
  OpenAs sessions socketId number ∧ ∀ later, number < later → ¬ OpenAs sessions socketId later

/-- The registry names the sender of the most recent open session of each id,
and a command addressed to that id reaches it. -/
def RegistersMostRecent (state : SessionState) : Prop :=
  ∀ socketId number, MostRecentOpen state.sessions socketId number →
    state.clients socketId = some number ∧ ∀ command : WsCommand, socketId ∈ command.socketIds →
        number ∈ command.recipients state.clients

theorem OpenAs.lt_length (opened : OpenAs sessions socketId number) : number < sessions.length := by
  obtain ⟨session, found, _, _⟩ := opened
  exact (List.getElem?_eq_some_iff.mp found).1

theorem exists_mostRecentOpen (opened : OpenAs sessions socketId number) :
    ∃ latest, MostRecentOpen sessions socketId latest := by
  classical
  refine ⟨findGreatest (OpenAs sessions socketId) sessions.length,
    findGreatest_spec (le_of_lt opened.lt_length) opened, ?_⟩
  intro later greater laterOpened
  exact findGreatest_is_greatest greater (le_of_lt laterOpened.lt_length) laterOpened

theorem registersMostRecent_iff : RegistersMostRecent state ↔
      ∀ socketId number, MostRecentOpen state.sessions socketId number →
        state.clients socketId = some number := by
  constructor
  · intro registers socketId number latest
    exact (registers socketId number latest).1
  intro registered socketId number latest
  have found := registered socketId number latest
  refine ⟨found, ?_⟩
  intro command addressed
  exact mem_filterMap.mpr ⟨socketId, addressed, found⟩

theorem MostRecentOpen.congr (same : ∀ index, OpenAs sessions' socketId index ↔
      OpenAs sessions socketId index) : MostRecentOpen sessions' socketId number ↔
      MostRecentOpen sessions socketId number := by
  simp [MostRecentOpen, same]

theorem openAs_modify (sameId : ∀ session, (update session).socketId = session.socketId)
    (sameOpen : ∀ session, sessions[number]? = some session →
      ((update session).phase = .closed ↔ session.phase = .closed))
    (socketId : String) (index : Nat) : OpenAs (sessions.modify number update) socketId index ↔
      OpenAs sessions socketId index := by
  simp only [OpenAs, getElem?_modify]
  cases found : sessions[index]? with
  | none => simp
  | some session =>
    by_cases here : number = index
    · subst here
      simp [sameId, sameOpen session found]
    · simp [here]

variable (config : SessionConfig)

theorem openAs_sendTo : OpenAs (sendTo config frame sessions recipient) socketId index ↔
      OpenAs sessions socketId index := by
  have sameId : ∀ session : Session,
      (session.trySend config frame).socketId = session.socketId := by
    intro session
    unfold Session.trySend
    split <;> rfl
  have samePhase : ∀ session : Session, (session.trySend config frame).phase = session.phase := by
    intro session
    unfold Session.trySend
    split <;> rfl
  exact openAs_modify sameId (fun session _ => by rw [samePhase]) socketId index

theorem openAs_foldl_sendTo (recipients : List Nat) (socketId : String) (index : Nat) :
    OpenAs (recipients.foldl (sendTo config frame) sessions) socketId index ↔
      OpenAs sessions socketId index := by
  induction recipients generalizing sessions with
  | nil => rfl
  | cons recipient recipients induction => rw [foldl_cons, induction, openAs_sendTo]

theorem openAs_append_self (opened : session.phase ≠ .closed) :
    OpenAs (sessions ++ [session]) socketId index ↔ OpenAs sessions socketId index ∨
        (index = sessions.length ∧ session.socketId = socketId) := by
  rcases lt_trichotomy index sessions.length with before | rfl | beyond
  · simp [OpenAs, getElem?_append_left before, Nat.ne_of_lt before]
  · simp [OpenAs, opened]
  have outside : sessions[index]? = none := getElem?_eq_none_iff.mpr (le_of_lt beyond)
  have missing : (sessions ++ [session])[index]? = none := by simpa using succ_le_of_lt beyond
  simp [OpenAs, missing, outside, ne_of_gt beyond]

structure SameSessions (state target : SessionState) : Prop where
  clients : target.clients = state.clients
  opened : ∀ socketId index, OpenAs target.sessions socketId index ↔
    OpenAs state.sessions socketId index

theorem SameSessions.refl : SameSessions state state := ⟨rfl, fun _ _ => Iff.rfl⟩

variable {state : SessionState}

theorem fromPhase_eq_some (step : state.fromPhase number phase continuation = some target) :
    ∃ session, state.sessions[number]? = some session ∧
      session.phase = phase ∧ continuation session = target := by
  unfold SessionState.fromPhase at step
  split at step
  · cases step
  split at step
  · exact ⟨_, ‹_›, ‹_›, Option.some.inj step⟩
  · cases step

theorem openAs_setPhase (found : state.sessions[number]? = some session)
    (opened : session.phase ≠ .closed) (stays : phase ≠ .closed) (socketId : String) (index : Nat) :
    OpenAs (state.setPhase number phase).sessions socketId index ↔
      OpenAs state.sessions socketId index := by
  refine openAs_modify ?_ ?_ socketId index
  · intro other
    rfl
  intro other otherFound
  rw [found] at otherFound
  cases otherFound
  simp [stays, opened]

theorem sameSessions_applyWebsocketCommand :
    SameSessions state (applyWebsocketCommand config state command) := by
  unfold applyWebsocketCommand
  split
  · split
    · exact .refl
    · exact ⟨rfl, openAs_foldl_sendTo config _⟩
  · exact .refl

theorem openAs_register : OpenAs (register config state requested).sessions socketId index ↔
      OpenAs state.sessions socketId index ∨ (index = state.sessions.length ∧
          requested.getD s!"socket-{state.nextSocketId}" = socketId) := by
  unfold register
  rw [openAs_append_self (by simp)]
  split
  · rfl
  · rw [openAs_sendTo]
    simp [sendTo]

variable {config : SessionConfig}

theorem sessionNext_cases {state target : SessionState} {label : SessionLabel}
    (step : sessionNext config state label = some target) :
    SameSessions state target ∨ (∃ sessionId resumeToken requested,
        label = .upgrade sessionId resumeToken ∧ target = register config state requested) ∨
      ∃ number session, label = .cleanup number ∧ state.sessions[number]? = some session ∧
        session.phase = .disconnected ∧ target = { state with
          clients := Function.update state.clients session.socketId none
          sessions := state.sessions.modify number fun session =>
            { session with phase := .closed, receiving := false } } := by
  cases label with
  | upgrade sessionId resumeToken =>
    simp only [sessionNext] at step
    split at step
    · split at step
      · cases step
        exact .inl (.refl)
      · cases step
        exact .inr (.inl ⟨_, _, _, rfl, rfl⟩)
    · cases step
      exact .inl (.refl)
  | connect number outcome | stopReading number
  | disconnect number dispatched =>
    obtain ⟨session, found, phase, rfl⟩ := fromPhase_eq_some step
    exact .inl ⟨rfl, openAs_setPhase found (by simp [phase]) (by simp)⟩
  | cleanup number =>
    obtain ⟨session, found, phase, rfl⟩ := fromPhase_eq_some step
    exact .inr (.inr ⟨number, session, rfl, found, phase, rfl⟩)
  | command command =>
    cases step
    exact .inl (sameSessions_applyWebsocketCommand config)
  | write number | stopWriting number =>
    cases step
    refine .inl ⟨rfl, openAs_modify ?_ ?_⟩
    · intro session
      rfl
    · intro session found
      rfl

/-- A session may remove its key only while no other open session was
registered under it. -/
def OnlyOpenSession (state : SessionState) : SessionLabel → Prop
  | .cleanup number => ∀ session, state.sessions[number]? = some session →
      ∀ other, OpenAs state.sessions session.socketId other → other = number
  | _ => True

theorem openAs_cleanup : OpenAs (sessions.modify number fun session =>
        { session with phase := .closed, receiving := false }) socketId index ↔
      OpenAs sessions socketId index ∧ index ≠ number := by
  simp only [OpenAs, getElem?_modify]
  by_cases here : number = index
  · subst here
    cases sessions[number]? <;> simp
  · have away : index ≠ number := fun same => here same.symm
    cases sessions[index]? <;> simp [here, away]

theorem registersMostRecent_same (same : SameSessions state target) :
    RegistersMostRecent target ↔ RegistersMostRecent state := by
  rw [registersMostRecent_iff, registersMostRecent_iff, same.clients]
  simp [MostRecentOpen.congr (same.opened _)]

theorem registersMostRecent_register (registers : RegistersMostRecent state) :
    RegistersMostRecent (register config state requested) := by
  rw [registersMostRecent_iff] at registers ⊢
  intro socketId number latest
  obtain ⟨opened, noLater⟩ := latest
  by_cases here : requested.getD s!"socket-{state.nextSocketId}" = socketId
  · -- The new session has the greatest number of all, so it is the latest.
    have isLatest : number = state.sessions.length := by
      rcases (openAs_register config).mp opened with earlier | ⟨same, _⟩
      · exact absurd ((openAs_register config).mpr (.inr ⟨rfl, here⟩))
          (noLater state.sessions.length earlier.lt_length)
      · exact same
    subst here
    simp [register, isLatest]
  · have before : MostRecentOpen state.sessions socketId number := by
      refine (MostRecentOpen.congr ?_).mp ⟨opened, noLater⟩
      intro index
      rw [openAs_register]
      simp only [here, and_false, or_false]
    have elsewhere : socketId ≠ requested.getD s!"socket-{state.nextSocketId}" :=
      fun same => here same.symm
    simp only [register, Function.update_of_ne elsewhere]
    exact registers socketId number before

theorem registersMostRecent_initial : RegistersMostRecent SessionState.initial := by
  intro socketId number latest
  exact absurd latest.1.lt_length (by simp [SessionState.initial])

theorem registersMostRecent_step (registers : RegistersMostRecent state)
    (guarded : OnlyOpenSession state label) (step : sessionNext config state label = some target) :
    RegistersMostRecent target := by
  rcases sessionNext_cases step with same | ⟨sessionId, resumeToken, requested, rfl, rfl⟩ |
    ⟨number, session, rfl, found, phase, rfl⟩
  · exact (registersMostRecent_same same).mpr registers
  · exact registersMostRecent_register registers
  rw [registersMostRecent_iff] at registers ⊢
  intro socketId latest isLatest
  obtain ⟨opened, noLater⟩ := isLatest
  rw [openAs_cleanup] at opened
  have elsewhere : socketId ≠ session.socketId := by
    rintro rfl
    exact opened.2 (guarded session found latest opened.1)
  have before : MostRecentOpen state.sessions socketId latest := by
    refine ⟨opened.1, ?_⟩
    intro later greater laterOpened
    refine noLater later greater ?_
    rw [openAs_cleanup]
    refine ⟨laterOpened, ?_⟩
    rintro rfl
    obtain ⟨other, otherFound, sameId, _⟩ := laterOpened
    rw [found] at otherFound
    cases otherFound
    exact elsewhere sameId.symm
  simp only [Function.update_of_ne elsewhere]
  exact registers socketId latest before

theorem not_registersMostRecent_step (unguarded : ¬ OnlyOpenSession state label)
    (step : sessionNext config state label = some target) : ¬ RegistersMostRecent target := by
  cases label with
  | cleanup number =>
    obtain ⟨session, found, phase, rfl⟩ := fromPhase_eq_some step
    simp only [OnlyOpenSession, not_forall] at unguarded
    obtain ⟨owner, ownerFound, other, opened, different⟩ := unguarded
    rw [found] at ownerFound
    cases ownerFound
    intro registers
    obtain ⟨latest, isLatest⟩ := exists_mostRecentOpen (openAs_cleanup.mpr ⟨opened, different⟩)
    have removed := registers session.socketId latest isLatest
    simp at removed
  | _ => exact absurd trivial unguarded

theorem registersMostRecent_visited_iff (config : SessionConfig) (labels : List SessionLabel) :
    (∀ state ∈ (sessionMachine config).visited .initial labels, RegistersMostRecent state) ↔
      ∀ transition ∈ (sessionMachine config).transitions .initial labels,
        OnlyOpenSession transition.source transition.label :=
  (sessionMachine config).visited_iff_guarded RegistersMostRecent
    OnlyOpenSession RegistersMostRecent (fun registers => registers) registersMostRecent_step
    (fun _ unguarded step => not_registersMostRecent_step unguarded step)
    registersMostRecent_initial labels

def resumingConfig : SessionConfig where
  websocketQueueCapacity := 8
  websocketMaxConnections := 8
  verifyResumeToken := fun sessionId token => token == s!"token-{sessionId}"

/-- The first connection is resumed under its id and then ends: its cleanup
takes the sender of the resumed session. -/
def resumedThenCleanedUp : List SessionLabel := [.upgrade none none, .connect 0 .accepted,
    .upgrade (some "socket-1") (some "token-socket-1"), .connect 1 .accepted,
    .stopReading 0, .disconnect 0 true, .cleanup 0]

theorem resumed_session_unregistered : ¬ ∀ (config : SessionConfig) (labels : List SessionLabel),
      ∀ state ∈ (sessionMachine config).visited .initial labels, RegistersMostRecent state := by
  intro always
  have registers := always resumingConfig resumedThenCleanedUp _ (Machine.finish_mem_visited _ _ _)
  have opened : OpenAs ((sessionMachine resumingConfig).finish .initial
      resumedThenCleanedUp).sessions "socket-1" 1 :=
    ⟨⟨"socket-1", .serving, [], true⟩, by decide, rfl, by decide⟩
  obtain ⟨latest, isLatest⟩ := exists_mostRecentOpen opened
  have found := (registers "socket-1" latest isLatest).1
  cases found

end Pam.Server
