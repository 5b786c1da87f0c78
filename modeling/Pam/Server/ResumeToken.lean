import Pam.Foundation.Codec
import Pam.Server.SessionRegistry

namespace Pam.Server

open Pam.Foundation List Function Nat

/-! Resume tokens over any number of workers, and lives of workers, that share
one secret. -/

def resumeMessage (sessionId : String) (expires : Nat) : List Char :=
  "pam.websocket.resume.v1\x00".toList ++ (sessionId.toList ++ ':' :: Nat.toDigits 10 expires)

structure ResumeConfig where
  websocketQueueCapacity : Nat
  websocketMaxConnections : Nat
  websocketResumeSecret : Option String
  websocketResumeTtlSeconds : Nat
  /-- HMAC-SHA256, by key and message. -/
  hmac : String → List Char → List UInt8

def resumeSignature (config : ResumeConfig) (secret sessionId : String)
    (expires : Nat) : List UInt8 := config.hmac secret (resumeMessage sessionId expires)

def createResumeToken (config : ResumeConfig) (secret sessionId : String) (now : Nat) : String :=
  let expires := now / 1000 + config.websocketResumeTtlSeconds
  String.ofList (Nat.toDigits 10 expires ++
    '.' :: encodeHex (resumeSignature config secret sessionId expires))

def resumeTokenParts (token : String) : Option (Nat × List UInt8) := do
  let (expires, signature) ← splitOnce '.' token.toList
  return (← parseUnsigned (2 ^ 64) expires, ← decodeHex signature)

def verifyResumeToken (config : ResumeConfig) (secret : String) (now : Nat)
    (sessionId token : String) : Bool := (resumeTokenParts token).any fun (expires, signature) =>
    now / 1000 ≤ expires && signature == resumeSignature config secret sessionId expires

def ResumeConfig.sessions (config : ResumeConfig) (now : Nat) : SessionConfig where
  websocketQueueCapacity := config.websocketQueueCapacity
  websocketMaxConnections := config.websocketMaxConnections
  verifyResumeToken := fun sessionId token => config.websocketResumeSecret.any fun secret =>
      verifyResumeToken config secret now sessionId token

/-- One life of a worker. `owners` is not in the source: the client of the last
session registered under each id. -/
structure WorkerLife where
  sessions : SessionState
  owners : String → Option Nat

structure IssuedToken where
  sessionId : String
  expires : Nat
  client : Nat

/-- Clients are numbered by their first connection; `allocated` holds the id
each was given then. -/
structure ResumeState where
  now : Nat
  lives : List (Option WorkerLife)
  allocated : List String
  issued : List IssuedToken

def ResumeState.initial : ResumeState where
  now := 0
  lives := []
  allocated := []
  issued := []

/-- A step of a worker names the client that makes the connection; it matters
only to a reconnection. -/
inductive ResumeLabel where
  | tick (millis : Nat)
  | spawn
  | exit (life : Nat)
  | session (life : Nat) (label : SessionLabel) (client : Nat)

def admitted (config : SessionConfig) (state : SessionState)
    (sessionId resumeToken : Option String) : Option (Option String) :=
  if state.connections < config.websocketMaxConnections then
    (requestedSession config sessionId resumeToken).toOption
  else none

def SessionState.freshId (state : SessionState) : String := s!"socket-{state.nextSocketId}"

def ResumeState.registered (config : ResumeConfig) (state : ResumeState)
    (life : Nat) (worker : WorkerLife) (target : SessionState)
    (sessionId : String) (client : Nat) : ResumeState := { state with
    lives := state.lives.set life (some {
      sessions := target
      owners := Function.update worker.owners sessionId (some client) })
    issued := if config.websocketResumeSecret.isSome then
        state.issued ++ [{
          sessionId := sessionId
          expires := state.now / 1000 + config.websocketResumeTtlSeconds
          client := client }]
      else state.issued }

def ResumeState.afterStep (config : ResumeConfig) (state : ResumeState)
    (life : Nat) (worker : WorkerLife) (target : SessionState)
    (client : Nat) : SessionLabel → ResumeState
  | .upgrade sessionId resumeToken =>
    match admitted (config.sessions state.now) worker.sessions sessionId resumeToken with
    | none => { state with lives := state.lives.set life (some { worker with sessions := target }) }
    | some (some requested) => state.registered config life worker target requested client
    | some none =>
      let fresh := worker.sessions.freshId
      { state.registered config life worker target fresh state.allocated.length with
        allocated := state.allocated ++ [fresh] }
  | _ => { state with lives := state.lives.set life (some { worker with sessions := target }) }

def ResumeState.live (state : ResumeState) (life : Nat) : Option WorkerLife :=
  state.lives[life]?.join

def resumeNext (config : ResumeConfig) (state : ResumeState) : ResumeLabel → Option ResumeState
  | .tick millis => some { state with now := state.now + millis }
  | .spawn => some { state with lives := state.lives ++ [some ⟨.initial, fun _ => none⟩] }
  | .exit life => some { state with lives := state.lives.set life none }
  | .session life label client => do
      let worker ← state.live life
      let target ← sessionNext (config.sessions state.now) worker.sessions label
      return state.afterStep config life worker target client label

def resumeMachine (config : ResumeConfig) : Machine ResumeState ResumeLabel where
  start := .initial
  next := resumeNext config

def reconnection (config : ResumeConfig) (state : ResumeState) :
    ResumeLabel → Option (WorkerLife × String × String × Nat)
  | .session life (.upgrade (some sessionId) (some token)) client => do
      let worker ← state.live life
      let _ ← admitted (config.sessions state.now) worker.sessions (some sessionId) (some token)
      return (worker, sessionId, token, client)
  | _ => none

/-- The token stands for one issued to the client for that id, and the session
it replaces is the client's own. -/
def TakesOwnSession (config : ResumeConfig) (state : ResumeState) (label : ResumeLabel) : Prop :=
  ∀ worker sessionId token client,
    reconnection config state label = some (worker, sessionId, token, client) →
      (∃ issue ∈ state.issued, issue.client = client ∧ issue.sessionId = sessionId ∧
        (resumeTokenParts token).map Prod.fst = some issue.expires) ∧
      ((worker.sessions.clients sessionId).isSome = true → worker.owners sessionId = some client)

/-- HMAC is unforgeable: an admitted signature was sent to the client. -/
def Unforged (config : ResumeConfig) (state : ResumeState) (label : ResumeLabel) : Prop :=
  ∀ reconnect ∈ reconnection config state label,
    ∃ issue ∈ state.issued, issue.client = reconnect.2.2.2 ∧
      ∃ secret ∈ config.websocketResumeSecret, (resumeTokenParts reconnect.2.2.1).map Prod.snd =
          some (resumeSignature config secret issue.sessionId issue.expires)

/-- The id with which a client reconnects was given to no other client, by any
worker or life of a worker. -/
def ResumesOwnId (config : ResumeConfig) (state : ResumeState) (label : ResumeLabel) : Prop :=
  ∀ reconnect ∈ reconnection config state label, ∀ other < state.allocated.length,
    state.allocated[other]? = some reconnect.2.1 → other = reconnect.2.2.2

theorem resumeMessage_inj (firstText : ':' ∉ first.toList) (secondText : ':' ∉ second.toList)
    (same : resumeMessage first expires = resumeMessage second other) :
    first = second ∧ expires = other := by
  obtain ⟨ids, digits⟩ := append_cons_inj firstText secondText (append_cancel_left same)
  have numbers := congrArg (ofDigitChars 10 · 0) digits
  simp only [ofDigitChars_ten_toDigits] at numbers
  exact ⟨String.toList_inj.mp ids, numbers⟩

theorem colon_notMem_of_isSafeSessionId
    (safe : isSafeSessionId sessionId = true) : ':' ∉ sessionId.toList := by
  simp only [isSafeSessionId, Bool.and_eq_true, all_eq_true] at safe
  intro member
  exact absurd (safe.2 ':' member) (by decide)

theorem colon_notMem_freshId (state : SessionState) : ':' ∉ state.freshId.toList := by
  have digits : ':' ∉ toDigits 10 state.nextSocketId := by
    intro member
    exact absurd (isDigit_of_mem_toDigits (by omega) (by omega) member) (by decide)
  have stem : ':' ∉ (toString "socket-").toList := by decide
  simp [SessionState.freshId, digits, stem]

theorem admitted_reconnection {state : SessionState}
    (accepted : admitted (config.sessions now) state (some sessionId)
      (some token) = some requested) :
    requested = some sessionId ∧ isSafeSessionId sessionId = true ∧
      ∃ secret, config.websocketResumeSecret = some secret ∧
        verifyResumeToken config secret now sessionId token = true := by
  simp only [admitted, requestedSession] at accepted
  split at accepted
  · split at accepted
    next valid =>
      simp only [ResumeConfig.sessions, Bool.and_eq_true, Option.any_eq_true] at valid
      exact ⟨(Option.some.inj accepted).symm, valid.1, valid.2⟩
    · cases accepted
  · cases accepted

theorem parts_of_verifyResumeToken
    (verified : verifyResumeToken config secret now sessionId token = true) :
    ∃ expires, resumeTokenParts token =
      some (expires, resumeSignature config secret sessionId expires) := by
  simp only [verifyResumeToken, Option.any_eq_true, Bool.and_eq_true, beq_iff_eq] at verified
  obtain ⟨⟨expires, signature⟩, parts, _, signed⟩ := verified
  dsimp only at signed
  rw [signed] at parts
  exact ⟨expires, parts⟩

theorem reconnection_eq_some (reconnects : reconnection config state label =
      some (worker, sessionId, token, client)) :
    ∃ life, label = .session life (.upgrade (some sessionId) (some token)) client ∧
      state.live life = some worker ∧
      ∃ requested, admitted (config.sessions state.now) worker.sessions
        (some sessionId) (some token) = some requested := by
  unfold reconnection at reconnects
  split at reconnects
  next life _ _ _ =>
    simp only [Option.bind_eq_bind, Option.bind_eq_some_iff] at reconnects
    obtain ⟨_, live, requested, accepted, same⟩ := reconnects
    cases same
    exact ⟨life, rfl, live, requested, accepted⟩
  · cases reconnects

theorem splitOnce_append (outside : separator ∉ before) (after : List Char) :
    splitOnce separator (before ++ separator :: after) = some (before, after) := by
  have different : ∀ character ∈ before, (character != separator) = true := by
    intro character member
    rw [bne_iff_ne]
    rintro rfl
    exact outside member
  simp [splitOnce, dropWhile_append_of_pos different, takeWhile_append_of_pos different]

theorem resumeTokenParts_createResumeToken
    (fits : now / 1000 + config.websocketResumeTtlSeconds < 2 ^ 64) :
    resumeTokenParts (createResumeToken config secret sessionId now) =
      some (now / 1000 + config.websocketResumeTtlSeconds, resumeSignature config secret sessionId
          (now / 1000 + config.websocketResumeTtlSeconds)) := by
  have outside : '.' ∉ toDigits 10 (now / 1000 + config.websocketResumeTtlSeconds) := by
    intro member
    exact absurd (isDigit_of_mem_toDigits (by omega) (by omega) member) (by decide)
  simp only [resumeTokenParts, createResumeToken, String.toList_ofList,
    splitOnce_append outside, Option.bind_eq_bind, Option.bind_some,
    parseUnsigned_toDigits fits, decodeHex_encodeHex]
  rfl

/-- A token resumes its own session, for as long as it was made for. -/
theorem token_verified_iff (injective : ∀ secret, Injective (config.hmac secret))
    (fits : now / 1000 + config.websocketResumeTtlSeconds < 2 ^ 64) :
    verifyResumeToken config secret later claimed
        (createResumeToken config secret sessionId now) = true ↔
      later / 1000 ≤ now / 1000 + config.websocketResumeTtlSeconds ∧ claimed = sessionId := by
  rw [verifyResumeToken, resumeTokenParts_createResumeToken fits]
  simp only [Option.any_some, Bool.and_eq_true, decide_eq_true_eq, beq_iff_eq, resumeSignature,
    (injective secret).eq_iff]
  refine and_congr_right fun _ => ⟨fun same => ?_, fun same => same ▸ rfl⟩
  exact (String.toList_inj.mp (append_cancel_right (append_cancel_left same))).symm

structure OwnsSessions (allocated : List String) (worker : WorkerLife) : Prop where
  owned : ∀ sessionId client, worker.owners sessionId = some client →
    allocated[client]? = some sessionId
  present : ∀ sessionId, (worker.sessions.clients sessionId).isSome = true →
    (worker.owners sessionId).isSome = true

structure BoundSessions (state : ResumeState) : Prop where
  text : ∀ sessionId ∈ state.allocated, ':' ∉ sessionId.toList
  issued : ∀ issue ∈ state.issued, state.allocated[issue.client]? = some issue.sessionId
  workers : ∀ life worker, state.live life = some worker → OwnsSessions state.allocated worker

theorem BoundSessions.reconnection (kept : BoundSessions state)
    (injective : ∀ secret, Function.Injective (config.hmac secret))
    (unforged : Unforged config state label)
    (reconnects : reconnection config state label = some (worker, sessionId, token, client)) :
    state.allocated[client]? = some sessionId ∧
      ∃ issue ∈ state.issued, issue.client = client ∧ issue.sessionId = sessionId ∧
        (resumeTokenParts token).map Prod.fst = some issue.expires := by
  obtain ⟨life, rfl, live, requested, accepted⟩ := reconnection_eq_some reconnects
  obtain ⟨_, safe, secret, hasSecret, verified⟩ := admitted_reconnection accepted
  obtain ⟨expires, parts⟩ := parts_of_verifyResumeToken verified
  obtain ⟨issue, member, rfl, _, sameSecret, signature⟩ := unforged _ reconnects
  rw [hasSecret, Option.mem_some] at sameSecret
  subst sameSecret
  simp only [parts, Option.map_some, Option.some.injEq] at signature
  have allocated := kept.issued issue member
  have text := kept.text issue.sessionId (mem_of_getElem? allocated)
  obtain ⟨sameId, sameExpiry⟩ := resumeMessage_inj
    (colon_notMem_of_isSafeSessionId safe) text (injective secret signature)
  refine ⟨by rw [allocated, sameId], issue, member, rfl, sameId.symm, ?_⟩
  rw [parts, sameExpiry]
  rfl

theorem OwnsSessions.append (kept : OwnsSessions allocated worker) (fresh : String) :
    OwnsSessions (allocated ++ [fresh]) worker where
  owned := by
    intro sessionId client owns
    have found := kept.owned sessionId client owns
    rwa [List.getElem?_append_left (List.getElem?_eq_some_iff.mp found).1]
  present := kept.present

theorem sessionNext_upgrade (config : SessionConfig) (state : SessionState)
    (sessionId resumeToken : Option String) :
    sessionNext config state (.upgrade sessionId resumeToken) =
      some ((admitted config state sessionId resumeToken).elim state (register config state)) := by
  simp only [sessionNext, admitted]
  split
  · cases requestedSession config sessionId resumeToken <;> rfl
  · rfl

theorem OwnsSessions.step {config : SessionConfig}
    {label : SessionLabel} (kept : OwnsSessions allocated worker)
    (step : sessionNext config worker.sessions label = some target)
    (unregistered : ∀ sessionId resumeToken, label = .upgrade sessionId resumeToken →
        admitted config worker.sessions sessionId resumeToken = none) :
    OwnsSessions allocated { worker with sessions := target } where
  owned := kept.owned
  present := by
    intro sessionId entry
    apply kept.present
    rcases sessionNext_cases step with same | ⟨requestedId, resumeToken, requested, rfl, rfl⟩ |
      ⟨number, session, rfl, _, _, rfl⟩
    · rwa [same.clients] at entry
    · rw [sessionNext_upgrade, unregistered _ _ rfl] at step
      rwa [← Option.some.inj step] at entry
    by_cases here : sessionId = session.socketId
    · subst here
      simp at entry
    · simpa [update_of_ne here] using entry

theorem OwnsSessions.register (kept : OwnsSessions allocated worker)
    (config : SessionConfig) (own : allocated[client]? =
      some (requested.getD worker.sessions.freshId)) : OwnsSessions allocated {
      sessions := Pam.Server.register config worker.sessions requested
      owners := update worker.owners (requested.getD worker.sessions.freshId) (some client) } where
  owned := by
    intro sessionId owner owns
    dsimp only at owns
    by_cases here : sessionId = requested.getD worker.sessions.freshId
    · subst here
      rw [update_self, Option.some.injEq] at owns
      rw [← owns, own]
    · rw [update_of_ne here] at owns
      exact kept.owned sessionId owner owns
  present := by
    intro sessionId entry
    by_cases here : sessionId = requested.getD worker.sessions.freshId
    · subst here
      simp
    simp only [update_of_ne here]
    apply kept.present
    have same : (Pam.Server.register config worker.sessions
        requested).clients sessionId = worker.sessions.clients sessionId := update_of_ne here _ _
    rwa [same] at entry

theorem live_set {lives : List (Option WorkerLife)} {life other : Nat}
    (live : (lives.set life value)[other]?.join = some worker) :
    value = some worker ∨ lives[other]?.join = some worker := by
  rw [getElem?_set] at live
  split at live
  · split at live
    · exact .inl live
    · cases live
  · exact .inr live

section

variable (kept : BoundSessions state)
include kept

theorem BoundSessions.setLife (life : Nat) (owns : OwnsSessions state.allocated worker) :
    BoundSessions { state with lives := state.lives.set life (some worker) } where
  text := kept.text
  issued := kept.issued
  workers := by
    intro other found live
    rcases live_set live with same | before
    · cases same
      exact owns
    · exact kept.workers other found before

theorem BoundSessions.allocate (text : ':' ∉ fresh.toList) :
    BoundSessions { state with allocated := state.allocated ++ [fresh] } where
  text := by
    intro sessionId member
    rcases List.mem_append.mp member with before | isFresh
    · exact kept.text sessionId before
    · rw [List.mem_singleton.mp isFresh]
      exact text
  issued := by
    intro issue member
    have found := kept.issued issue member
    rwa [List.getElem?_append_left (List.getElem?_eq_some_iff.mp found).1]
  workers := fun life worker live => (kept.workers life worker live).append fresh

theorem BoundSessions.registered
    (owns : OwnsSessions state.allocated worker) (requested : Option String)
    (own : state.allocated[client]? = some (requested.getD worker.sessions.freshId)) :
    BoundSessions (state.registered config life worker
      (register (config.sessions state.now) worker.sessions requested)
      (requested.getD worker.sessions.freshId) client) := by
  have moved := kept.setLife life (owns.register (config.sessions state.now) own)
  refine ⟨moved.text, ?_, moved.workers⟩
  intro issue member
  simp only [ResumeState.registered] at member
  split at member
  · rcases mem_append.mp member with before | new
    · exact kept.issued issue before
    · rw [mem_singleton.mp new]
      exact own
  · exact kept.issued issue member

end

theorem requestedSession_eq_ok {config : SessionConfig} {sessionId resumeToken : Option String}
    (accepted : requestedSession config sessionId resumeToken = .ok requested) :
    (sessionId = none ∧ resumeToken = none ∧ requested = none) ∨
      ∃ id token, sessionId = some id ∧ resumeToken = some token ∧ requested = some id := by
  cases sessionId with
  | none =>
    cases resumeToken with
    | none =>
      cases accepted
      exact .inl ⟨rfl, rfl, rfl⟩
    | some token => cases accepted
  | some id =>
    cases resumeToken with
    | none => cases accepted
    | some token =>
      simp only [requestedSession] at accepted
      split at accepted <;> cases accepted
      exact .inr ⟨id, token, rfl, rfl, rfl⟩

theorem admitted_eq_some {config : SessionConfig} {state : SessionState}
    {sessionId resumeToken : Option String}
    (accepted : admitted config state sessionId resumeToken = some requested) :
    (sessionId = none ∧ resumeToken = none ∧ requested = none) ∨
      ∃ id token, sessionId = some id ∧ resumeToken = some token ∧ requested = some id := by
  simp only [admitted] at accepted
  split at accepted
  · cases asked : requestedSession config sessionId resumeToken with
    | error message =>
      rw [asked] at accepted
      cases accepted
    | ok answer =>
      rw [asked] at accepted
      cases accepted
      exact requestedSession_eq_ok asked
  · cases accepted

section

variable (kept : BoundSessions state)
include kept

theorem boundSessions_session
    (injective : ∀ secret, Function.Injective (config.hmac secret)) {life : Nat}
    {label : SessionLabel} (unforged : Unforged config state (.session life label client))
    (live : state.live life = some worker) {target : SessionState}
    (step : sessionNext (config.sessions state.now) worker.sessions label = some target) :
    BoundSessions (state.afterStep config life worker target client label) := by
  have owns := kept.workers life worker live
  cases label with
  | upgrade sessionId resumeToken =>
    simp only [ResumeState.afterStep]
    have next := sessionNext_upgrade (config.sessions state.now)
      worker.sessions sessionId resumeToken
    cases accepted : admitted (config.sessions state.now) worker.sessions sessionId resumeToken with
    | none =>
      refine kept.setLife life (owns.step step ?_)
      rintro _ _ ⟨⟩
      exact accepted
    | some requested =>
      rw [accepted, step] at next
      cases Option.some.inj next
      rcases admitted_eq_some accepted with ⟨rfl, rfl, rfl⟩ | ⟨id, token, rfl, rfl, rfl⟩
      · have more := kept.allocate (colon_notMem_freshId worker.sessions)
        exact more.registered (owns.append _) none getElem?_concat_length
      · have reconnects : reconnection config state
            (.session life (.upgrade (some id) (some token)) client) =
              some (worker, id, token, client) := by
          simp only [reconnection, live, accepted, Option.bind_eq_bind, Option.bind_some]
          rfl
        exact kept.registered owns (some id) (kept.reconnection injective unforged reconnects).1
  | _ => exact kept.setLife life (owns.step step (by rintro _ _ ⟨⟩))

section

variable (injective : ∀ secret, Function.Injective (config.hmac secret))
  (unforged : Unforged config state label)
include injective unforged

theorem boundSessions_step (step : resumeNext config state label = some target) :
    BoundSessions target := by
  cases label with
  | tick millis =>
    cases step
    exact ⟨kept.text, kept.issued, kept.workers⟩
  | spawn =>
    cases step
    refine ⟨kept.text, kept.issued, ?_⟩
    intro life worker live
    simp only [ResumeState.live, getElem?_append] at live
    split at live
    · exact kept.workers life worker live
    rw [getElem?_singleton] at live
    split at live <;> cases live
    exact ⟨by rintro _ _ ⟨⟩, by rintro _ ⟨⟩⟩
  | exit life =>
    cases step
    refine ⟨kept.text, kept.issued, ?_⟩
    intro other worker live
    rcases live_set live with exited | before
    · cases exited
    · exact kept.workers other worker before
  | session life label client =>
    simp only [resumeNext, Option.bind_eq_bind, Option.bind_eq_some_iff] at step
    obtain ⟨worker, live, next, stepped, same⟩ := step
    cases same
    exact boundSessions_session kept injective unforged live stepped

theorem takesOwnSession_of_boundSessions (own : ResumesOwnId config state label) :
    TakesOwnSession config state label := by
  intro worker sessionId token client reconnects
  refine ⟨(kept.reconnection injective unforged reconnects).2, ?_⟩
  intro entry
  obtain ⟨life, _, live, _⟩ := reconnection_eq_some reconnects
  have owns := kept.workers life worker live
  obtain ⟨owner, isOwner⟩ := Option.isSome_iff_exists.mp (owns.present sessionId entry)
  have ownerAllocated := owns.owned sessionId owner isOwner
  rw [isOwner, own _ reconnects owner (List.getElem?_eq_some_iff.mp ownerAllocated).1
    ownerAllocated]

end

end

theorem boundSessions_initial : BoundSessions ResumeState.initial where
  text := forall_mem_nil _
  issued := forall_mem_nil _
  workers := by
    intro life worker live
    simp [ResumeState.live, ResumeState.initial] at live

theorem takesOwnSession_transitions (config : ResumeConfig)
    (injective : ∀ secret, Function.Injective (config.hmac secret)) (labels : List ResumeLabel)
    (unforged : ∀ transition ∈ (resumeMachine config).transitions .initial labels,
      Unforged config transition.source transition.label)
    (guarded : ∀ transition ∈ (resumeMachine config).transitions .initial labels,
      ResumesOwnId config transition.source transition.label) :
    ∀ transition ∈ (resumeMachine config).transitions .initial labels,
      TakesOwnSession config transition.source transition.label :=
  (resumeMachine config).transitions_of_guarded BoundSessions (fun state label =>
      Unforged config state label ∧ ResumesOwnId config state label)
    (fun state label _ => TakesOwnSession config state label) (fun kept allowed step =>
      ⟨boundSessions_step kept injective allowed.1 step,
        takesOwnSession_of_boundSessions kept injective allowed.1 allowed.2⟩) boundSessions_initial
    (fun transition member => ⟨unforged transition member, guarded transition member⟩)

def firstSignature : List UInt8 := [0xa9, 0xa4, 0x27, 0x16, 0x8a, 0x09, 0xa9, 0x0f,
    0x25, 0xb5, 0x8e, 0x59, 0xe8, 0xf9, 0xd5, 0x14, 0xf2, 0xcc, 0xc4, 0x32, 0x35, 0xf4, 0x45, 0x9b,
    0xed, 0x38, 0x59, 0x58, 0x36, 0xef, 0xf9, 0xb4]

def secondSignature : List UInt8 := [0xa6, 0xbc, 0xaf, 0x7a, 0x69, 0xb2, 0x9d, 0xb0,
    0x40, 0x29, 0xee, 0x0f, 0x04, 0x8d, 0xe9, 0x31, 0xb3, 0x3e, 0x9f, 0x1c, 0x33, 0x56, 0xc8, 0x60,
    0xb9, 0x44, 0xc4, 0x06, 0x2f, 0x28, 0x77, 0x47]

def sampleSecret : String := "0123456789abcdef0123456789abcdef"

def sampleHmac (secret : String) : List Char → List UInt8 :=
  if secret = sampleSecret then
    tabulatedDigest [(resumeMessage "socket-1" 86400, firstSignature),
      (resumeMessage "socket-2" 86400, secondSignature)]
  else tabulatedDigest []

theorem sampleHmac_injective (secret : String) : Function.Injective (sampleHmac secret) := by
  unfold sampleHmac
  split <;> exact tabulatedDigest_injective (by decide) (by decide)

def sampleResumeConfig : ResumeConfig where
  websocketQueueCapacity := 8
  websocketMaxConnections := 8
  websocketResumeSecret := some sampleSecret
  websocketResumeTtlSeconds := 86400
  hmac := sampleHmac

def firstToken : String := "86400.a9a427168a09a90f25b58e59e8f9d514f2ccc43235f4459bed38595836eff9b4"

def secondToken : String := "86400.a6bcaf7a69b29db04029ee0f048de931b33e9f1c3356c860b944c4062f287747"

/-- Both workers give the id `socket-1`; the client with `socket-2` reconnects to
the second worker and to the next life of the first. -/
def resumedOnEveryWorker : List ResumeLabel :=
  [.spawn, .spawn, .session 0 (.upgrade none none) 0, .session 0 (.upgrade none none) 1,
    .session 1 (.upgrade none none) 2, .session 1 (.upgrade (some "socket-2") (some secondToken)) 1,
    .exit 0, .spawn, .session 2 (.upgrade (some "socket-2") (some secondToken)) 1]

/-- Two workers give their first clients the same id; the first client
reconnects to the second worker. -/
def resumedOnOtherWorker : List ResumeLabel :=
  [.spawn, .spawn, .session 0 (.upgrade none none) 0, .session 1 (.upgrade none none) 0,
    .session 1 (.upgrade (some "socket-1") (some firstToken)) 0]

instance (config : ResumeConfig) (state : ResumeState) (label : ResumeLabel) :
    Decidable (Unforged config state label) := by
  unfold Unforged
  infer_instance

instance (config : ResumeConfig) (state : ResumeState) (label : ResumeLabel) :
    Decidable (ResumesOwnId config state label) := by
  unfold ResumesOwnId
  infer_instance

theorem created_token_verified :
    verifyResumeToken sampleResumeConfig sampleSecret 86400999 "socket-1"
      (createResumeToken sampleResumeConfig sampleSecret "socket-1" 0) = true :=
  (token_verified_iff sampleHmac_injective (by decide)).mpr ⟨by decide, rfl⟩

theorem takesOwnSession_resumedOnEveryWorker :
    ((∀ transition ∈ (resumeMachine sampleResumeConfig).transitions .initial resumedOnEveryWorker,
        Unforged sampleResumeConfig transition.source transition.label) ∧
      ∀ transition ∈ (resumeMachine sampleResumeConfig).transitions .initial resumedOnEveryWorker,
        ResumesOwnId sampleResumeConfig transition.source transition.label) ∧
    ∀ transition ∈ (resumeMachine sampleResumeConfig).transitions .initial resumedOnEveryWorker,
      TakesOwnSession sampleResumeConfig transition.source transition.label := by
  have unforged : ∀ transition ∈ (resumeMachine sampleResumeConfig).transitions .initial
        resumedOnEveryWorker, Unforged sampleResumeConfig transition.source transition.label := by
    decide +kernel
  have fresh : ∀ transition ∈ (resumeMachine sampleResumeConfig).transitions .initial
        resumedOnEveryWorker,
      ResumesOwnId sampleResumeConfig transition.source transition.label := by
    decide +kernel
  exact ⟨⟨unforged, fresh⟩, takesOwnSession_transitions sampleResumeConfig
    sampleHmac_injective resumedOnEveryWorker unforged fresh⟩

theorem token_replaces_other_session :
    (∀ transition ∈ (resumeMachine sampleResumeConfig).transitions .initial resumedOnOtherWorker,
      Unforged sampleResumeConfig transition.source transition.label) ∧
    ¬ ∀ transition ∈ (resumeMachine sampleResumeConfig).transitions .initial resumedOnOtherWorker,
      TakesOwnSession sampleResumeConfig transition.source transition.label := by
  refine ⟨by decide +kernel, ?_⟩
  intro always
  have replaces : ∃ transition ∈ (resumeMachine sampleResumeConfig).transitions .initial
        resumedOnOtherWorker,
      ∃ replaced ∈ reconnection sampleResumeConfig transition.source transition.label,
        (replaced.1.sessions.clients replaced.2.1).isSome = true ∧
          replaced.1.owners replaced.2.1 ≠ some replaced.2.2.2 := by
    decide +kernel
  obtain ⟨transition, member, replaced, reconnects, entry, others⟩ := replaces
  exact others ((always transition member _ _ _ _ reconnects).2 entry)

end Pam.Server
