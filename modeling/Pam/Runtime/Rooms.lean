import Pam.Runtime.Websocket

namespace Pam.Runtime

open Pam.Foundation Pam.Protocol Option

/-! Rooms follow connections: whether the members of every room are connected
all along a run of events. -/

def RoomsFollow (state : SocketRuntime) : Prop :=
  ∀ room, ∀ socketId ∈ state.rooms.members room, socketId ∈ state.connected

def EmitsToConnected (source target : SocketRuntime) : Prop :=
  ∃ queued, target.outbound = source.outbound ++ queued ∧
    ∀ command ∈ queued, command.target = .room → ∀ value ∈ command.socketIds,
        ∃ socketId ∈ source.connected, value = arrayKey socketId

structure KeepsRooms (source : SocketRuntime) (_ : SocketAction)
    (target : SocketRuntime) : Prop where
  follow : RoomsFollow target
  emits : EmitsToConnected source target

/-- An application lets only connected sockets join a room, and the state of a
socket is removed while it is in no room from the first one on whose name is an
integer key. -/
def RoomRule (state : SocketRuntime) : SocketAction → Prop
  | .call (.join socketId room) => room ≠ [] → socketId ∈ state.connected
  | .remove socketId => ∀ room ∈ state.rooms.keys.dropWhile fun room => !isIntegerKey room,
      socketId ∉ state.rooms.members room
  | _ => True

def SocketRuntime.opened (state : SocketRuntime) : SocketRuntime :=
  { state with outbound := [], thrown := none }

def eventTransitions (config : WsConfig) (state : SocketRuntime)
    (event : WsEvent) : List (Transition SocketRuntime SocketAction) :=
  (actionMachine config).transitions state.opened (dispatchActions config state.opened event)

/-- Every action of the event keeps the rooms, and a socket whose disconnection
has been dispatched is in no room. -/
structure RoomsKept (config : WsConfig) (state : SocketRuntime)
    (event : WsEvent) (target : SocketRuntime) : Prop where
  actions : ∀ transition ∈ eventTransitions config state event,
    KeepsRooms transition.source transition.label transition.target
  gone : event.kind = .disconnect → ∀ room, event.socketId ∉ target.rooms.members room

def drainFailure (config : WsConfig) (event : WsEvent) : Option Throwable :=
  (drainAdapter config event.poll.failure event.poll.messages).2

structure EventRule (config : WsConfig) (state : SocketRuntime) (event : WsEvent) : Prop where
  actions : ∀ transition ∈ eventTransitions config state event,
    RoomRule transition.source transition.label
  drained : event.kind = .disconnect → drainFailure config event ≠ none →
    ∀ room, event.socketId ∉ state.rooms.members room

theorem mem_addKey : other ∈ addKey key keys ↔ other = key ∨ other ∈ keys := by
  unfold addKey
  split
  next held =>
    refine ⟨.inr, ?_⟩
    rintro (rfl | member)
    · exact List.contains_iff_mem.mp held
    · exact member
  · rw [List.mem_append, List.mem_singleton, or_comm]

theorem mem_dropKey : other ∈ dropKey key keys ↔ other ∈ keys ∧ other ≠ key := by simp [dropKey]

theorem members_joinRoom : (joinRoom rooms socketId room).members other =
      if other = room then addKey socketId (rooms.members room) else rooms.members other := by
  unfold joinRoom Rooms.members
  rw [Table.lookup_assign]
  split <;> rfl

theorem members_leaveRoom : (leaveRoom rooms socketId room).members other =
      if other = room then dropKey socketId (rooms.members room) else rooms.members other := by
  unfold leaveRoom Rooms.members
  dsimp only
  split
  next emptied =>
    split
    next same =>
      rw [same, AList.lookup_erase, emptied]
      rfl
    · next away => rw [AList.lookup_erase_ne away]
  · rw [Table.lookup_assign]
    split <;> rfl

theorem members_leaveRooms : (leaveRooms socketId rooms names).1.members room =
      if room ∈ names.takeWhile fun name => !isIntegerKey name then
        dropKey socketId (rooms.members room)
      else rooms.members room := by
  induction names generalizing rooms with
  | nil => rfl
  | cons name names induction =>
    rw [leaveRooms, List.takeWhile_cons]
    cases integer : isIntegerKey name with
    | true => simp
    | false =>
      simp only [Bool.false_eq_true, if_false, induction, members_leaveRoom]
      by_cases same : room = name
      · subst same
        simp [dropKey]
      · simp [same]

theorem members_eq_nil_of_not_mem {rooms : Rooms}
    (absent : room ∉ rooms.keys) : rooms.members room = [] := by
  rw [Rooms.members, AList.lookup_eq_none.mpr absent]
  rfl

section Queue

variable {state : SocketRuntime}

@[simp] theorem queue_rooms : (state.queue command).rooms = state.rooms := by
  unfold SocketRuntime.queue
  split <;> rfl

@[simp] theorem queue_connected : (state.queue command).connected = state.connected := by
  unfold SocketRuntime.queue
  split <;> rfl

theorem emits_of_same (same : target.outbound = state.outbound) : EmitsToConnected state target :=
  ⟨[], by simp [same], by simp⟩

theorem emits_queue (reaches : command.target = .room → ∀ value ∈ command.socketIds,
      ∃ socketId ∈ state.connected, value = arrayKey socketId) :
    EmitsToConnected state (state.queue command) := by
  unfold SocketRuntime.queue
  split
  · exact emits_of_same rfl
  refine ⟨[command], rfl, ?_⟩
  intro queued member
  rw [List.mem_singleton.mp member]
  exact reaches

variable (follow : RoomsFollow state)
include follow

theorem keepsRooms_queue (reaches : command.target = .room → ∀ value ∈ command.socketIds,
      ∃ socketId ∈ state.connected, value = arrayKey socketId) :
    KeepsRooms state action (state.queue command) where
  follow := by
    intro room socketId member
    rw [queue_rooms] at member
    rw [queue_connected]
    exact follow room socketId member
  emits := emits_queue reaches

theorem keepsRooms_toSocket {action : SocketAction} (kind : OutboundMessageKind)
    (socketId event : PhpString) (data : PhpValue) :
    KeepsRooms state action (state.toSocket kind socketId event data) :=
  keepsRooms_queue follow (by simp)

theorem keepsRooms_toAll :
    KeepsRooms state action (state.toAll event data) := keepsRooms_queue follow (by simp)

theorem keepsRooms_toRoom : KeepsRooms state action (state.toRoom room event data) := by
  apply keepsRooms_queue follow
  intro _ value member
  obtain ⟨socketId, inRoom, rfl⟩ := List.mem_map.mp member
  exact ⟨socketId, follow room socketId inRoom, rfl⟩

end Queue

variable {state : SocketRuntime}

section

variable (follow : RoomsFollow state)
include follow

theorem keepsRooms_of_same (rooms : target.rooms = state.rooms)
    (connected : target.connected = state.connected) (outbound : target.outbound = state.outbound) :
    KeepsRooms state action target where
  follow := by
    intro room socketId member
    rw [rooms] at member
    rw [connected]
    exact follow room socketId member
  emits := emits_of_same outbound

theorem roomsFollow_join_iff (socketId room : PhpString) :
    RoomsFollow { state with rooms := joinRoom state.rooms socketId room } ↔
      socketId ∈ state.connected := by
  constructor
  · intro joined
    apply joined room
    rw [members_joinRoom, if_pos rfl, mem_addKey]
    exact .inl rfl
  · intro connected other member inRoom
    rw [members_joinRoom] at inRoom
    split at inRoom
    · rcases mem_addKey.mp inRoom with rfl | old
      · exact connected
      · exact follow room member old
    · exact follow other member inRoom

theorem roomsFollow_leave :
    RoomsFollow { state with rooms := leaveRoom state.rooms socketId room } := by
  intro other member inRoom
  rw [members_leaveRoom] at inRoom
  split at inRoom
  · exact follow room member (mem_dropKey.mp inRoom).1
  · exact follow other member inRoom

theorem roomsFollow_accept : RoomsFollow (state.accept socketId) := by
  intro room member inRoom
  exact mem_addKey.mpr (.inr (follow room member inRoom))

end

variable (socketId : PhpString)

theorem removeSocketState_rooms : (state.removeSocketState socketId).rooms =
      (leaveRooms socketId state.rooms state.rooms.keys).1 := by
  unfold SocketRuntime.removeSocketState
  dsimp only
  split <;> rfl

theorem removeSocketState_connected : (state.removeSocketState socketId).connected =
      dropKey socketId state.connected := by
  unfold SocketRuntime.removeSocketState
  dsimp only
  split <;> rfl

theorem removeSocketState_outbound :
    (state.removeSocketState socketId).outbound = state.outbound := by
  unfold SocketRuntime.removeSocketState
  dsimp only
  split <;> rfl

theorem mem_members_removed {socketId member room : PhpString} :
    member ∈ (state.removeSocketState socketId).rooms.members room ↔
      member ∈ state.rooms.members room ∧ (member = socketId →
          room ∈ state.rooms.keys.dropWhile fun name => !isIntegerKey name) := by
  rw [removeSocketState_rooms, members_leaveRooms]
  have parts := List.takeWhile_append_dropWhile
    (p := fun name => !isIntegerKey name) (l := state.rooms.keys)
  split
  next before =>
    rw [mem_dropKey]
    have apart : room ∉ state.rooms.keys.dropWhile fun name => !isIntegerKey name := by
      intro after
      have nodup := state.rooms.nodupKeys
      change state.rooms.keys.Nodup at nodup
      rw [← parts, List.nodup_append] at nodup
      exact nodup.2.2 room before room after rfl
    simp [apart]
  next after =>
  constructor
  · intro inRoom
    refine ⟨inRoom, ?_⟩
    intro _
    by_cases named : room ∈ state.rooms.keys
    · rw [← parts, List.mem_append] at named
      exact named.resolve_left after
    · rw [members_eq_nil_of_not_mem named] at inRoom
      cases inRoom
  · exact And.left

theorem roomsFollow_remove_iff (follow : RoomsFollow state) (socketId : PhpString) :
    RoomsFollow (state.removeSocketState socketId) ↔
      ∀ room ∈ state.rooms.keys.dropWhile fun room => !isIntegerKey room,
        socketId ∉ state.rooms.members room := by
  constructor
  · intro removed room after inRoom
    have connected := removed room socketId (mem_members_removed.mpr ⟨inRoom, fun _ => after⟩)
    rw [removeSocketState_connected, mem_dropKey] at connected
    exact connected.2 rfl
  · intro apart room member inRoom
    obtain ⟨before, kept⟩ := mem_members_removed.mp inRoom
    rw [removeSocketState_connected, mem_dropKey]
    refine ⟨follow room member before, ?_⟩
    intro same
    subst same
    exact apart room (kept rfl) before

theorem keepsRooms_iff (config : WsConfig) (follow : RoomsFollow state) :
    KeepsRooms state action (state.perform config action) ↔ RoomRule state action := by
  cases action with
  | enter kind | fail error => exact iff_of_true (keepsRooms_of_same follow rfl rfl rfl) trivial
  | call call =>
    cases call with
    | on socketId event => exact iff_of_true (keepsRooms_of_same follow rfl rfl rfl) trivial
    | join socketId room =>
      simp only [SocketRuntime.perform, SocketRuntime.call]
      split
      next blank =>
        exact iff_of_true (keepsRooms_of_same follow rfl rfl rfl) (fun named => absurd blank named)
      next named =>
      have joined := roomsFollow_join_iff follow socketId room
      constructor
      · intro keeps _
        exact joined.mp keeps.follow
      · intro rule
        exact ⟨joined.mpr (rule named), emits_of_same rfl⟩
    | leave socketId room => exact iff_of_true ⟨roomsFollow_leave follow, emits_of_same rfl⟩ trivial
    | emit socketId event data | acknowledge socketId messageId data =>
      exact iff_of_true (keepsRooms_toSocket follow _ _ _ _) trivial
    | emitBinary socketId data =>
      exact iff_of_true (keepsRooms_toSocket follow .binary socketId
        (asciiBytes "binary") _) trivial
    | close socketId reason =>
      exact iff_of_true (keepsRooms_toSocket follow .close socketId (asciiBytes "close") _) trivial
    | broadcast event data => exact iff_of_true (keepsRooms_toAll follow) trivial
    | emitToRoom room event data => exact iff_of_true (keepsRooms_toRoom follow) trivial
  | deliver message =>
    cases message with
    | broadcast event data => exact iff_of_true (keepsRooms_toAll follow) trivial
    | room room event data => exact iff_of_true (keepsRooms_toRoom follow) trivial
  | accept socketId => exact iff_of_true ⟨roomsFollow_accept follow, emits_of_same rfl⟩ trivial
  | remove socketId =>
    have removed := roomsFollow_remove_iff follow socketId
    constructor
    · intro keeps
      exact removed.mp keeps.follow
    intro rule
    exact ⟨removed.mpr rule, emits_of_same (removeSocketState_outbound socketId)⟩
  | report socketId =>
    refine iff_of_true ?_ trivial
    simp only [SocketRuntime.perform, SocketRuntime.report]
    split
    · exact keepsRooms_of_same follow rfl rfl rfl
    next error _ =>
    split
    · have caught : RoomsFollow { state with thrown := none } := follow
      have reported : KeepsRooms _ (.report socketId) _ :=
        keepsRooms_toSocket caught .event socketId (asciiBytes "error") (errorData config error)
      exact ⟨reported.follow, reported.emits⟩
    · exact keepsRooms_of_same follow rfl rfl rfl

def SocketAction.leavesRooms : SocketAction → Bool
  | .enter _ => true
  | .deliver _ => true
  | .fail _ => true
  | .report _ => true
  | _ => false

structure SameRooms (state target : SocketRuntime) : Prop where
  rooms : target.rooms = state.rooms
  connected : target.connected = state.connected

theorem sameRooms_queue : SameRooms state (state.queue command) := ⟨queue_rooms, queue_connected⟩

theorem sameRooms_perform (config : WsConfig) (state : SocketRuntime)
    {action : SocketAction} (leaves : action.leavesRooms = true) :
    SameRooms state (state.perform config action) := by
  cases action with
  | enter kind | fail error => exact ⟨rfl, rfl⟩
  | deliver message =>
    cases message with
    | broadcast event data | room room event data => exact sameRooms_queue
  | report socketId =>
    simp only [SocketRuntime.perform, SocketRuntime.report]
    split
    · exact ⟨rfl, rfl⟩
    split
    · exact ⟨queue_rooms, queue_connected⟩
    · exact ⟨rfl, rfl⟩
  | call _ | accept _ | remove _ => cases leaves

theorem sameRooms_foldl (config : WsConfig) (state : SocketRuntime) {actions : List SocketAction}
    (leave : ∀ action ∈ actions, action.leavesRooms = true) :
    SameRooms state (actions.foldl (SocketRuntime.perform config) state) := by
  induction actions generalizing state with
  | nil => exact ⟨rfl, rfl⟩
  | cons action actions induction =>
    have first := sameRooms_perform config state (leave action List.mem_cons_self)
    have rest := induction (state.perform config action)
      (fun other later => leave other (List.mem_cons_of_mem _ later))
    exact ⟨rest.rooms.trans first.rooms, rest.connected.trans first.connected⟩

theorem leavesRooms_deliver (messages : List ForeignMessage) :
    ∀ action ∈ messages.map SocketAction.deliver, action.leavesRooms = true := by
  intro action member
  obtain ⟨message, _, rfl⟩ := List.mem_map.mp member
  rfl

theorem actionMachine_finish (state : SocketRuntime) : (actionMachine config).finish state actions =
      actions.foldl (SocketRuntime.perform config) state := by
  induction actions generalizing state with
  | nil => rfl
  | cons action actions induction => exact induction _

theorem dispatched_eq : dispatched config state event =
      (dispatchActions config state.opened event).foldl
        (SocketRuntime.perform config) state.opened := actionMachine_finish _

theorem actions_keep_iff (follow : RoomsFollow state) :
    (∀ transition ∈ eventTransitions config state event,
        KeepsRooms transition.source transition.label transition.target) ↔
      ∀ transition ∈ eventTransitions config state event,
        RoomRule transition.source transition.label := by
  have opened : RoomsFollow state.opened := follow
  apply (actionMachine config).transitions_iff_guarded RoomsFollow RoomRule KeepsRooms _ _ opened
  · intro source action target follows rule step
    cases step
    have keeps := (keepsRooms_iff config follows).mpr rule
    exact ⟨keeps.follow, keeps⟩
  · intro source action target follows broken step keeps
    cases step
    exact broken ((keepsRooms_iff config follows).mp keeps)

theorem roomsFollow_dispatched (follow : RoomsFollow state)
    (rule : ∀ transition ∈ eventTransitions config state event,
      RoomRule transition.source transition.label) :
    RoomsFollow (dispatched config state event) := by
  have opened : RoomsFollow state.opened := follow
  refine (actionMachine config).visited_of_guarded RoomsFollow RoomRule
    RoomsFollow id ?_ opened rule _ ((actionMachine config).finish_mem_visited
      state.opened (dispatchActions config state.opened event))
  intro source action target follows allowed step
  cases step
  exact ((keepsRooms_iff config follows).mpr allowed).follow

theorem sameRooms_dispatched (failed : drainFailure config event = some error) :
    SameRooms state (dispatched config state event) := by
  have leave : ∀ action ∈ dispatchActions config state.opened event, action.leavesRooms = true := by
    unfold drainFailure at failed
    simp only [dispatchActions, failed, List.mem_append]
    intro action member
    rcases member with (delivered | thrown) | reported
    · exact leavesRooms_deliver _ action delivered
    · rw [List.mem_singleton.mp thrown]
      rfl
    · rw [List.mem_singleton.mp reported]
      rfl
  have same := sameRooms_foldl config state.opened leave
  rw [dispatched_eq]
  exact ⟨same.rooms, same.connected⟩

theorem disconnectActions_split (state : SocketRuntime) (event : WsEvent) :
    ∃ before after, disconnectActions state event = before ++ .remove event.socketId :: after ∧
      ∀ action ∈ after, action.leavesRooms = true := by
  unfold disconnectActions
  split
  · refine ⟨event.run.calls.map .call, _, rfl, ?_⟩
    intro action member
    obtain ⟨error, _, rfl⟩ := map_eq_some_iff.mp (mem_toList.mp member)
    rfl
  · exact ⟨[], [], rfl, by simp⟩

theorem not_connected_dispatched (kind : event.kind = .disconnect)
    (drained : drainFailure config event = none) :
    event.socketId ∉ (dispatched config state event).connected := by
  obtain ⟨before, after, actions, leave⟩ := disconnectActions_split state.opened event
  unfold drainFailure at drained
  rw [dispatched_eq]
  simp only [dispatchActions, drained, branchActions, kind, actions,
    List.foldl_append, List.foldl_cons, List.foldl_nil]
  rw [(sameRooms_perform config _ rfl).connected, (sameRooms_foldl config _ leave).connected]
  change event.socketId ∉ (SocketRuntime.removeSocketState _ event.socketId).connected
  rw [removeSocketState_connected, mem_dropKey]
  exact fun both => both.2 rfl

theorem roomsKept_iff (follow : RoomsFollow state) :
    RoomsKept config state event (dispatched config state event) ↔
      EventRule config state event := by
  constructor
  · intro kept
    refine ⟨(actions_keep_iff follow).mp kept.actions, ?_⟩
    intro kind failed
    obtain ⟨error, thrown⟩ := ne_none_iff_exists'.mp failed
    have same : SameRooms state (dispatched config state event) := sameRooms_dispatched thrown
    have gone := kept.gone kind
    rw [same.rooms] at gone
    exact gone
  · intro rule
    refine ⟨(actions_keep_iff follow).mpr rule.actions, ?_⟩
    intro kind room
    cases drained : drainFailure config event with
    | some error =>
      rw [(sameRooms_dispatched drained).rooms]
      apply rule.drained kind
      rw [drained]
      exact some_ne_none error
    | none =>
      intro inRoom
      exact not_connected_dispatched kind drained
        (roomsFollow_dispatched follow rule.actions room _ inRoom)

theorem roomsFollow_initial : RoomsFollow .initial := by
  intro room socketId member
  cases member

theorem rooms_follow_connections_iff (config : WsConfig) (events : List WsEvent) :
    (∀ transition ∈ (websocketMachine config).transitions .initial events,
        RoomsKept config transition.source transition.label transition.target) ↔
      ∀ transition ∈ (websocketMachine config).transitions .initial events,
        EventRule config transition.source transition.label := by
  apply (websocketMachine config).transitions_iff_guarded RoomsFollow
    (EventRule config) (RoomsKept config) _ _ roomsFollow_initial
  · intro state event target follow rule step
    cases step
    exact ⟨roomsFollow_dispatched follow rule.actions, (roomsKept_iff follow).mpr rule⟩
  · intro state event target follow broken step kept
    cases step
    exact broken ((roomsKept_iff follow).mp kept)

def plainConfig : WsConfig where
  nodeId := asciiBytes "node"
  exposeErrors := false
  jsonDecode := fun _ _ => .ok (.array [])
  base64Decode := some

def plainEvent (kind : InboundEventKind) (calls : List SocketCall) : WsEvent where
  kind := kind
  socketId := asciiBytes "socket-1"
  payload := []
  poll := ⟨[], none⟩
  authenticator := none
  connectionHandler := true
  run := ⟨calls, none⟩

def joinsNumbered : WsEvent :=
  plainEvent .connection [.join (asciiBytes "socket-1") (asciiBytes "42")]

def leavesNumbered : WsEvent := plainEvent .disconnect []

def afterJoining : SocketRuntime := dispatched plainConfig .initial joinsNumbered

theorem numberedRoom_last : ⟨afterJoining, leavesNumbered,
        dispatched plainConfig afterJoining leavesNumbered⟩ ∈
      (websocketMachine plainConfig).transitions .initial [joinsNumbered, leavesNumbered] := by
  exact List.mem_cons_of_mem _ List.mem_cons_self

theorem socket_stays_in_numbered_room : asciiBytes "socket-1" ∈
      (dispatched plainConfig afterJoining leavesNumbered).rooms.members (asciiBytes "42") := by
  decide +kernel

theorem numbered_room_keeps_socket : ¬ ∀ (config : WsConfig) (events : List WsEvent),
      ∀ transition ∈ (websocketMachine config).transitions .initial events,
        RoomsKept config transition.source transition.label transition.target := by
  intro kept
  have last := kept plainConfig _ _ numberedRoom_last
  exact last.gone rfl (asciiBytes "42") socket_stays_in_numbered_room

end Pam.Runtime
