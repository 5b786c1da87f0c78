import Pam.Protocol.Operation
import Pam.Runtime.Rooms

namespace Pam.Runtime

open Pam.Foundation Pam.Protocol List

/-! What becomes of an event when the distributed adapter is drained in the same
`try`. -/

def WsCommand.export (command : WsCommand) : PhpValue :=
  .array [(asciiBytes "target", .integer command.target.code),
    (asciiBytes "kind", .integer command.kind.code),
    (asciiBytes "socketIds", .list command.socketIds), (asciiBytes "event", .string command.event),
    (asciiBytes "data", command.data)]

def jsonEncodeDepth : Nat := 512

/-- The `finally` of `dispatchWs` and what it returns, `none` where it throws:
an exception left the `catch`, or the commands cannot be encoded. -/
def dispatchWs (config : WsConfig) (state : SocketRuntime) (event : WsEvent) : Option Json :=
  let final := dispatched config state event
  match final.thrown with
  | some _ => none
  | none => (jsonEncode (.list (final.outbound.map WsCommand.export))).filter
      fun json => json.depth ≤ jsonEncodeDepth

def OutboundTarget.ofCode : Nat → Option OutboundTarget
  | 1 => some .socket
  | 2 => some .broadcast
  | 3 => some .room
  | _ => none

def OutboundMessageKind.ofCode : Nat → Option OutboundMessageKind
  | 1 => some .event
  | 2 => some .acknowledgement
  | 3 => some .binary
  | 4 => some .close
  | _ => none

structure ServerCommand where
  target : OutboundTarget
  kind : OutboundMessageKind
  socketIds : List PhpString
  event : PhpString
  data : Json

def readTarget (json : Json) : Option OutboundTarget := (readByte json).bind OutboundTarget.ofCode

def readMessageKind (json : Json) : Option OutboundMessageKind :=
  (readByte json).bind OutboundMessageKind.ofCode

def ServerCommand.ofJson (json : Json) : Option ServerCommand := do
  let fields ← json.fields?
  let field := fun name => Json.field? fields (asciiBytes name)
  let target ← Json.required readTarget (field "target")
  let kind ← Json.required readMessageKind (field "kind")
  let socketIds ← Json.required (Json.items? Json.text?) (field "socketIds")
  let event ← Json.required Json.text? (field "event")
  let data ← field "data"
  return { target, kind, socketIds, event, data }

def readCommands (parse : List UInt8 → Option Json) (payload : List UInt8) :
    Option (List ServerCommand) := (parse payload).bind (Json.items? ServerCommand.ofJson)

def enteredKinds (actions : List SocketAction) : List InboundEventKind := actions.filterMap fun
    | .enter kind => some kind
    | _ => none

def deliveries (actions : List SocketAction) : List ForeignMessage := actions.filterMap fun
    | .deliver message => some message
    | _ => none

def wellFormed (config : WsConfig) (message : AdapterMessage) : Option ForeignMessage :=
  match config.jsonDecode 64 message.payload with
  | .ok payload => foreignMessage config message.channel payload
  | .error _ => none

def foreignCommand (state : SocketRuntime) : ForeignMessage → WsCommand
  | .broadcast event data => ⟨.broadcast, .event, state.connected.map arrayKey, event, data⟩
  | .room room event data => ⟨.room, .event, (state.rooms.members room).map arrayKey, event, data⟩

structure Carries (float : UInt64 → Json) (command : WsCommand)
    (received : ServerCommand) : Prop where
  target : received.target = command.target
  kind : received.kind = command.kind
  socketIds : command.socketIds = received.socketIds.map .string
  event : received.event = command.event
  data : (jsonEncode command.data).map (Json.reread float) = some received.data

/-- The event's branch is taken once, every well-formed foreign message is
queued once, and the server reads the commands. -/
structure EventKept (config : WsConfig) (format : JsonFormat serdeDepth)
    (state : SocketRuntime) (event : WsEvent) : Prop where
  processed : enteredKinds (dispatchActions config state.opened event) = [event.kind]
  delivered : deliveries (dispatchActions config state.opened event) =
    event.poll.messages.filterMap (wellFormed config)
  queued : ∃ later, (dispatched config state event).outbound =
    (event.poll.messages.filterMap (wellFormed config)).map (foreignCommand state) ++ later
  returned : ∃ json received, dispatchWs config state event = some json ∧
    readCommands format.parse (format.text json) = some received ∧
    List.Forall₂ (Carries format.float) (dispatched config state event).outbound received

def isTextId : PhpValue → Bool
  | .string bytes => validUtf8 bytes
  | _ => false

def WsCommand.fits (command : WsCommand) : Bool :=
  command.socketIds.all isTextId && validUtf8 command.event &&
    command.data.encodable && command.data.nesting + 2 < serdeDepth

def queuedCommands (config : WsConfig) (state : SocketRuntime) : SocketAction → List WsCommand
  | .call (.emit socketId event data) =>
    if event = [] then [] else [⟨.socket, .event, [.string socketId], event, data⟩]
  | .call (.emitBinary socketId data) =>
    [⟨.socket, .binary, [.string socketId], asciiBytes "binary", .string (encodeBase64 data)⟩]
  | .call (.acknowledge socketId messageId data) =>
    if messageId = [] then []
    else [⟨.socket, .acknowledgement, [.string socketId], messageId, data⟩]
  | .call (.close socketId reason) =>
    [⟨.socket, .close, [.string socketId], asciiBytes "close", SocketRuntime.closeReason reason⟩]
  | .call (.broadcast event data) =>
    if event = [] then [] else [foreignCommand state (.broadcast event data)]
  | .call (.emitToRoom room event data) =>
    if event = [] then [] else [foreignCommand state (.room room event data)]
  | .deliver (.broadcast event data) =>
    if event = [] then [] else [foreignCommand state (.broadcast event data)]
  | .deliver (.room room event data) =>
    if event = [] then [] else [foreignCommand state (.room room event data)]
  | .report socketId =>
    match state.thrown with
    | none => []
    | some error =>
      if error.loggable socketId then
        [⟨.socket, .event, [.string socketId], asciiBytes "error", errorData config error⟩]
      else []
  | _ => []

/-- The command that the action queues can be encoded and read, and the
exception that it reports can be logged. -/
structure ActionFits (config : WsConfig) (state : SocketRuntime)
    (action : SocketAction) : Prop where
  commands : ∀ command ∈ queuedCommands config state action, command.fits = true
  reported : ∀ socketId, action = .report socketId →
    ∀ error ∈ state.thrown, error.loggable socketId = true

structure DrainRule (config : WsConfig) (state : SocketRuntime) (event : WsEvent) : Prop where
  polled : event.poll.failure = none
  decodes : ∀ message ∈ event.poll.messages, (config.jsonDecode 64 message.payload).isOk = true
  fits : ∀ transition ∈ eventTransitions config state event,
    ActionFits config transition.source transition.label

variable (config : WsConfig) (failure : Option Throwable)

theorem drainFailure_eq_none_iff :
    (drainAdapter config failure messages).2 = none ↔ failure = none ∧ ∀ message ∈ messages,
        (config.jsonDecode 64 message.payload).isOk = true := by
  induction messages with
  | nil => simp [drainAdapter]
  | cons message messages induction =>
    rw [drainAdapter]
    cases decoded : config.jsonDecode 64 message.payload with
    | error error => simp [decoded, Except.toBool]
    | ok payload =>
      simp only [forall_mem_cons, decoded, Except.toBool, true_and]
      cases foreignMessage config message.channel payload with
      | none | some foreign => exact induction

theorem drainAdapter_delivered (decodes : ∀ message ∈ messages,
      (config.jsonDecode 64 message.payload).isOk = true) :
    (drainAdapter config failure messages).1 = messages.filterMap (wellFormed config) := by
  induction messages with
  | nil => rfl
  | cons message messages induction =>
    rw [forall_mem_cons] at decodes
    rw [drainAdapter, filterMap_cons, wellFormed]
    cases decoded : config.jsonDecode 64 message.payload with
    | error error => simp [decoded, Except.toBool] at decodes
    | ok payload =>
      have rest := induction decodes.2
      cases foreign : foreignMessage config message.channel payload with
      | none | some message => simp [foreign, rest]

/-! A branch neither enters another one nor delivers nor reports. -/

def SocketAction.inBranch : SocketAction → Bool
  | .enter _ => false
  | .deliver _ => false
  | .report _ => false
  | _ => true

attribute [simp] SocketAction.inBranch

theorem inBranch_run (run : HandlerRun) : ∀ action ∈ run.actions, action.inBranch = true := by
  simp [HandlerRun.actions, or_imp, forall_and]

theorem inBranch_accept (event : WsEvent) :
    ∀ action ∈ acceptActions event, action.inBranch = true := by
  unfold acceptActions
  split
  · cases event.run.failure with
    | none | some error => simp [or_imp, forall_and]
  · simp

theorem inBranch_connect : ∀ action ∈ connectActions config event, action.inBranch = true := by
  have accept := inBranch_accept event
  have authenticate : ∀ action ∈ authenticateActions event, action.inBranch = true := by
    unfold authenticateActions
    split
    · exact accept
    · simp
    next verdict _ =>
      cases verdict with
      | accepts => simpa [or_imp, forall_and] using accept
      | rejects | throws error => simp [or_imp, forall_and]
  unfold connectActions
  split
  · exact authenticate
  split
  · simp
  · exact authenticate
  · simp [invalidArgument]

theorem inBranch_branch (state : SocketRuntime) (event : WsEvent) :
    ∀ action ∈ branchActions config state event, action.inBranch = true := by
  have run := inBranch_run event.run
  unfold branchActions
  split
  · exact inBranch_connect config
  · unfold messageActions
    split
    · simp
    · split
      · simp [invalidArgument]
      split
      · simp
      split
      · exact run
      · simp [invalidArgument]
    · simp [invalidArgument]
  · unfold disconnectActions
    split
    · simp [or_imp, forall_and]
    · simp
  · unfold binaryActions
    split
    · simp
    split
    · exact run
    · simp [invalidArgument]
  · simp

theorem enteredKinds_of_inBranch (branch : ∀ action ∈ actions, action.inBranch = true) :
    enteredKinds actions = [] := by
  rw [enteredKinds, filterMap_eq_nil_iff]
  intro action member
  have inBranch := branch action member
  cases action <;> first | rfl | cases inBranch

theorem deliveries_of_inBranch (branch : ∀ action ∈ actions, action.inBranch = true) :
    deliveries actions = [] := by
  rw [deliveries, filterMap_eq_nil_iff]
  intro action member
  have inBranch := branch action member
  cases action <;> first | rfl | cases inBranch

@[simp] theorem enteredKinds_append :
    enteredKinds (first ++ second) = enteredKinds first ++ enteredKinds second := filterMap_append

@[simp] theorem deliveries_append :
    deliveries (first ++ second) = deliveries first ++ deliveries second := filterMap_append

variable (messages : List ForeignMessage)

theorem enteredKinds_deliver : enteredKinds (messages.map .deliver) = [] := by
  induction messages with
  | nil => rfl
  | cons message messages induction => exact induction

theorem deliveries_deliver : deliveries (messages.map .deliver) = messages := by
  induction messages with
  | nil => rfl
  | cons message messages induction => exact congrArg (message :: ·) induction

section Dispatch

variable {config : WsConfig}

theorem enteredKinds_dispatch : enteredKinds (dispatchActions config state event) =
      if drainFailure config event = none then [event.kind] else [] := by
  have branch := enteredKinds_of_inBranch (inBranch_branch config state event)
  unfold dispatchActions drainFailure
  cases failed : (drainAdapter config event.poll.failure event.poll.messages).2 with
  | none =>
    simp only [failed, enteredKinds_append, enteredKinds_deliver, if_true]
    change event.kind :: enteredKinds _ ++ [] = _
    rw [branch, append_nil]
  | some error =>
    simp only [failed, enteredKinds_append, enteredKinds_deliver]
    rfl

theorem deliveries_dispatch : deliveries (dispatchActions config state event) =
      (drainAdapter config event.poll.failure event.poll.messages).1 := by
  have branch := deliveries_of_inBranch (inBranch_branch config state event)
  unfold dispatchActions
  cases failed : (drainAdapter config event.poll.failure event.poll.messages).2 with
  | none =>
    simp only [failed, deliveries_append, deliveries_deliver]
    change _ ++ deliveries (branchActions config state event) ++ [] = _
    rw [branch, append_nil, append_nil]
  | some error =>
    simp only [failed, deliveries_append, deliveries_deliver]
    exact (append_nil _).trans (append_nil _)

theorem processed_iff : enteredKinds (dispatchActions config state event) = [event.kind] ↔
      event.poll.failure = none ∧ ∀ message ∈ event.poll.messages,
        (config.jsonDecode 64 message.payload).isOk = true := by
  rw [enteredKinds_dispatch, ← drainFailure_eq_none_iff, drainFailure]
  split
  · next drained => simp [drained]
  · next failed => simp [failed]

end Dispatch

section Queued

variable {config : WsConfig} {state : SocketRuntime}

theorem queue_outbound : (state.queue command).outbound =
      state.outbound ++ if command.event = [] then [] else [command] := by
  unfold SocketRuntime.queue
  split
  · exact (append_nil _).symm
  · rfl

theorem perform_outbound : (state.perform config action).outbound =
      state.outbound ++ queuedCommands config state action := by
  have same : state.outbound = state.outbound ++ [] := (append_nil _).symm
  cases action with
  | enter kind | accept socketId | fail error => exact same
  | call call =>
    cases call with
    | on socketId event | leave socketId room => exact same
    | join socketId room =>
      simp only [SocketRuntime.perform, SocketRuntime.call]
      split <;> exact same
    | emit socketId event data | emitBinary socketId data
    | acknowledge socketId messageId data | close socketId reason
    | broadcast event data | emitToRoom room event data => exact queue_outbound
  | deliver message =>
    cases message with
    | broadcast event data | room room event data => exact queue_outbound
  | remove socketId => exact (removeSocketState_outbound socketId).trans same
  | report socketId =>
    cases thrown : state.thrown with
    | none =>
      simp only [SocketRuntime.perform, SocketRuntime.report, queuedCommands, thrown]
      exact same
    | some error =>
      simp only [SocketRuntime.perform, SocketRuntime.report, queuedCommands, thrown]
      split
      · exact queue_outbound
      · exact same

theorem foldl_outbound :
    (actions.foldl (SocketRuntime.perform config) state).outbound = state.outbound ++
        ((actionMachine config).transitions state actions).flatMap fun transition =>
            queuedCommands config transition.source transition.label := by
  induction actions generalizing state with
  | nil => exact (append_nil _).symm
  | cons action actions induction =>
    rw [foldl_cons, induction, perform_outbound, append_assoc]
    rfl

def ForeignMessage.named : ForeignMessage → Bool
  | .broadcast event _ => event ≠ []
  | .room _ event _ => event ≠ []

theorem eventName_ne_nil (named : eventName entries = some event) : event ≠ [] := by
  unfold eventName at named
  split at named
  · split at named
    · cases named
    next filled =>
      cases named
      exact filled
  · cases named

theorem foreignMessage_named (foreign : foreignMessage config channel payload = some message) :
    message.named = true := by
  unfold foreignMessage at foreign
  split at foreign
  · dsimp only at foreign
    split at foreign
    · cases foreign
    split at foreign
    · obtain ⟨event, named, rfl⟩ := Option.map_eq_some_iff.mp foreign
      simpa [ForeignMessage.named] using eventName_ne_nil named
    split at foreign
    · obtain ⟨event, named, rfl⟩ := Option.map_eq_some_iff.mp foreign
      simpa [ForeignMessage.named] using eventName_ne_nil named
    · cases foreign
  · cases foreign

theorem wellFormed_named (formed : wellFormed config message = some foreign) :
    foreign.named = true := by
  unfold wellFormed at formed
  split at formed
  · exact foreignMessage_named formed
  · cases formed

theorem queuedCommands_deliver (named : message.named = true) :
    queuedCommands config state (.deliver message) = [foreignCommand state message] := by
  cases message with
  | broadcast event data | room room event data =>
    have filled : event ≠ [] := by simpa [ForeignMessage.named] using named
    exact if_neg filled

theorem foreignCommand_of_sameRooms (same : SameRooms state target) (message : ForeignMessage) :
    foreignCommand target message = foreignCommand state message := by
  cases message with
  | broadcast event data => simp [foreignCommand, same.connected]
  | room room event data => simp [foreignCommand, same.rooms]

theorem foldl_deliver_outbound {messages : List ForeignMessage}
    (named : ∀ message ∈ messages, message.named = true) :
    ((messages.map .deliver).foldl (SocketRuntime.perform config) state).outbound =
      state.outbound ++ messages.map (foreignCommand state) := by
  induction messages generalizing state with
  | nil => exact (append_nil _).symm
  | cons message messages induction =>
    rw [forall_mem_cons] at named
    have same : SameRooms state (state.perform config (.deliver message)) :=
      sameRooms_perform config state rfl
    rw [map_cons, foldl_cons, induction named.2,
      perform_outbound, queuedCommands_deliver named.1, append_assoc]
    have rest := map_congr_left fun other (_ : other ∈ messages) =>
      foreignCommand_of_sameRooms same other
    rw [rest]
    rfl

end Queued

def commandFields (command : WsCommand) (ids : List Json) (data : Json) : List (PhpString × Json) :=
  [(asciiBytes "target", .integer command.target.code),
    (asciiBytes "kind", .integer command.kind.code), (asciiBytes "socketIds", .array ids),
    (asciiBytes "event", .string command.event), (asciiBytes "data", data)]

theorem jsonEncode_command (command : WsCommand) : jsonEncode command.export =
      (command.socketIds.mapM jsonEncode).bind fun ids =>
        if validUtf8 command.event then
          (jsonEncode command.data).map fun data => .object (commandFields command ids data)
        else none := by
  have keys : ∀ key ∈ ["target", "kind", "socketIds", "event", "data"],
      validUtf8 (asciiBytes key) = true := by decide +kernel
  simp only [forall_mem_cons] at keys
  rw [WsCommand.export]
  simp only [jsonEncodeEntries, jsonEncode, jsonEncode_list, keys]
  cases command.socketIds.mapM jsonEncode with
  | none => rfl
  | some ids =>
    cases validUtf8 command.event with
    | false => rfl
    | true =>
      cases jsonEncode command.data with
      | none | some data => rfl

theorem readTarget_code : readTarget (.integer target.code) = some target := by
  cases target <;> rfl

theorem readMessageKind_code : readMessageKind (.integer kind.code) = some kind := by
  cases kind <;> rfl

theorem ofJson_commandFields : ServerCommand.ofJson (.object (commandFields command ids data)) =
      (ids.mapM Json.text?).map fun socketIds =>
        { target := command.target, kind := command.kind, socketIds
          event := command.event, data } := by
  have read : ServerCommand.ofJson (.object (commandFields command ids data)) =
      (readTarget (.integer command.target.code)).bind fun target =>
        (readMessageKind (.integer command.kind.code)).bind fun kind =>
          (ids.mapM Json.text?).bind fun socketIds =>
            some ⟨target, kind, socketIds, command.event, data⟩ := rfl
  rw [read, readTarget_code, readMessageKind_code]
  cases ids.mapM Json.text? with
  | none | some socketIds => rfl

theorem readIds_iff (values : List PhpValue) : (∃ ids read, values.mapM jsonEncode = some ids ∧
        ids.mapM Json.text? = some read ∧ values = read.map .string) ↔
      values.all isTextId = true := by
  simp only [mapM_eq_some_iff]
  constructor
  · intro ⟨ids, read, encoded, _, same⟩
    subst same
    rw [forall₂_map_left_iff] at encoded
    rw [all_map, all_eq_true]
    have valid : List.Forall₂ (fun bytes json => validUtf8 bytes = true ∧
        jsonEncode (.string bytes) = some json) read ids := by
      refine encoded.imp fun bytes json text => ⟨?_, text⟩
      rw [jsonEncode] at text
      split at text
      · next valid => exact valid
      · cases text
    exact ((forall₂_and_left ..).mp valid).1
  · intro texts
    induction values with
    | nil => exact ⟨[], [], .nil, .nil, rfl⟩
    | cons value values induction =>
      rw [all_cons, Bool.and_eq_true] at texts
      obtain ⟨ids, read, encoded, taken, same⟩ := induction texts.2
      cases value with
      | string bytes =>
        have valid : validUtf8 bytes = true := texts.1
        refine ⟨.string bytes :: ids, bytes :: read, .cons ?_ encoded,
          .cons rfl taken, by rw [same, map_cons]⟩
        rw [jsonEncode, if_pos valid]
      | null | bool _ | integer _ | float _ | array _ => cases texts.1

theorem itemsDepth_text {read : List PhpString}
    (taken : ids.mapM Json.text? = some read) : Json.itemsDepth ids = 0 := by
  rw [mapM_eq_some_iff] at taken
  induction taken with
  | nil => rfl
  | cons first rest induction =>
    rw [Json.itemsDepth, induction]
    unfold Json.text? at first
    split at first
    · rfl
    · cases first

theorem depth_commandFields {read : List PhpString} (taken : ids.mapM Json.text? = some read) :
    (Json.object (commandFields command ids data)).depth + 1 < serdeDepth ↔
      data.depth + 2 < serdeDepth := by
  simp only [Json.depth, commandFields, Json.fieldsDepth, itemsDepth_text taken, serdeDepth]
  omega

theorem array_depth_iff : (Json.array items).depth < serdeDepth ↔
      ∀ item ∈ items, item.depth + 1 < serdeDepth := by
  have least : (Json.array items).depth < serdeDepth ↔ Json.itemsDepth items ≤ 126 := by
    simp only [Json.depth, serdeDepth]
    omega
  rw [least, Json.itemsDepth_le_iff]
  simp only [serdeDepth]
  constructor
  · intro shallow item member
    have bound := shallow item member
    omega
  intro shallow item member
  have bound := shallow item member
  omega

section Reading

variable {float : UInt64 → Json} (number : ∀ bits, (float bits).text? = none)
include number

theorem texts_reread (ids : List Json) :
    (Json.rereadItems float ids).mapM Json.text? = ids.mapM Json.text? := by
  have same : Json.text? ∘ Json.reread float = Json.text? := funext (Json.text?_reread number)
  rw [Json.rereadItems_eq, mapM_map, same]

theorem ofJson_reread : ServerCommand.ofJson
        ((Json.object (commandFields command ids data)).reread float) =
      (ids.mapM Json.text?).map fun socketIds =>
        { target := command.target, kind := command.kind, socketIds
          event := command.event, data := data.reread float } := by
  rw [← texts_reread number ids]
  exact ofJson_commandFields

theorem command_read_iff :
    (∃ json received, jsonEncode command.export = some json ∧ json.depth + 1 < serdeDepth ∧
        ServerCommand.ofJson (json.reread float) = some received ∧
        Carries float command received) ↔ command.fits = true := by
  have readIds := readIds_iff command.socketIds
  have encodes := jsonEncode_isSome command.data
  simp only [WsCommand.fits, Bool.and_eq_true, decide_eq_true_eq, jsonEncode_command]
  constructor
  · intro ⟨json, received, encoded, shallow, read, carries⟩
    obtain ⟨ids, idsEncoded, encoded⟩ := Option.bind_eq_some_iff.mp encoded
    split at encoded
    next eventText =>
      obtain ⟨data, dataEncoded, rfl⟩ := Option.map_eq_some_iff.mp encoded
      rw [ofJson_reread number] at read
      obtain ⟨socketIds, taken, rfl⟩ := Option.map_eq_some_iff.mp read
      rw [depth_commandFields taken, depth_jsonEncode command.data data dataEncoded] at shallow
      rw [dataEncoded] at encodes
      exact ⟨⟨⟨readIds.mp ⟨ids, socketIds, idsEncoded, taken,
        carries.socketIds⟩, eventText⟩, encodes.symm⟩, shallow⟩
    · cases encoded
  · intro ⟨⟨⟨texts, eventText⟩, encodable⟩, shallow⟩
    obtain ⟨ids, socketIds, idsEncoded, taken, same⟩ := readIds.mpr texts
    rw [encodable] at encodes
    obtain ⟨data, dataEncoded⟩ := Option.isSome_iff_exists.mp encodes
    refine ⟨.object (commandFields command ids data),
      ⟨command.target, command.kind, socketIds, command.event, data.reread float⟩, ?_, ?_, ?_, ?_⟩
    · rw [idsEncoded, Option.bind_some, if_pos eventText, dataEncoded]
      rfl
    · rw [depth_commandFields taken, depth_jsonEncode command.data data dataEncoded]
      exact shallow
    · rw [ofJson_reread number, taken]
      rfl
    · exact ⟨rfl, rfl, same, rfl, by rw [dataEncoded, Option.map_some]⟩

theorem items_read_iff : (∃ items received,
        List.Forall₂ (fun command json => jsonEncode command.export = some json) commands items ∧
        (∀ item ∈ items, item.depth + 1 < serdeDepth) ∧ List.Forall₂ (fun json received =>
          ServerCommand.ofJson (json.reread float) = some received) items received ∧
        List.Forall₂ (Carries float) commands received) ↔
      ∀ command ∈ commands, command.fits = true := by
  induction commands with
  | nil => simp
  | cons command commands induction =>
    rw [forall_mem_cons, ← induction, ← command_read_iff number]
    constructor
    · intro ⟨items, received, encoded, shallow, read, carried⟩
      cases encoded with
      | cons encodedFirst encodedRest =>
        cases read with
        | cons readFirst readRest =>
          cases carried with
          | cons carriedFirst carriedRest =>
            rw [forall_mem_cons] at shallow
            exact ⟨⟨_, _, encodedFirst, shallow.1, readFirst,
              carriedFirst⟩, _, _, encodedRest, shallow.2, readRest, carriedRest⟩
    · intro ⟨⟨json, first, encodedFirst, shallowFirst, readFirst,
        carriedFirst⟩, items, received, encoded, shallow, read, carried⟩
      exact ⟨json :: items, first :: received, .cons encodedFirst encoded,
        forall_mem_cons.mpr ⟨shallowFirst, shallow⟩,
        .cons readFirst read, .cons carriedFirst carried⟩

theorem commands_read_iff : (∃ json received,
        jsonEncode (.list (commands.map WsCommand.export)) = some json ∧ json.depth < serdeDepth ∧
        Json.items? ServerCommand.ofJson (json.reread float) = some received ∧
        List.Forall₂ (Carries float) commands received) ↔
      ∀ command ∈ commands, command.fits = true := by
  rw [← items_read_iff number]
  simp only [jsonEncode_list, Option.map_eq_some_iff, mapM_eq_some_iff, forall₂_map_left_iff]
  constructor
  · intro ⟨json, received, ⟨items, encoded, same⟩, shallow, read, carried⟩
    subst same
    rw [Json.reread, Json.rereadItems_eq, Json.items?, mapM_eq_some_iff,
      forall₂_map_left_iff] at read
    exact ⟨items, received, encoded, array_depth_iff.mp shallow, read, carried⟩
  · intro ⟨items, received, encoded, shallow, read, carried⟩
    refine ⟨.array items, received, ⟨items, encoded, rfl⟩,
      array_depth_iff.mpr shallow, ?_, carried⟩
    rw [Json.reread, Json.rereadItems_eq, Json.items?, mapM_eq_some_iff, forall₂_map_left_iff]
    exact read

end Reading

section Event

variable {config : WsConfig} {state : SocketRuntime}

theorem actionMachine_transitions_append (state : SocketRuntime) :
    (actionMachine config).transitions state (first ++ second) =
      (actionMachine config).transitions state first ++ (actionMachine config).transitions
          (first.foldl (SocketRuntime.perform config) state) second := by
  induction first generalizing state with
  | nil => rfl
  | cons action first induction => exact congrArg (_ :: ·) (induction (state.perform config action))

def unreportedActions (config : WsConfig) (state : SocketRuntime)
    (event : WsEvent) : List SocketAction :=
  let drained := drainAdapter config event.poll.failure event.poll.messages
  drained.1.map .deliver ++ match drained.2 with
    | some error => [.fail error]
    | none => .enter event.kind :: branchActions config state event

theorem dispatchActions_eq : dispatchActions config state event =
      unreportedActions config state event ++ [.report event.socketId] := rfl

theorem unreported_no_report (member : action ∈ unreportedActions config state event) :
    action ≠ .report socketId := by
  intro report
  subst report
  rcases mem_append.mp member with delivered | rest
  · obtain ⟨message, _, same⟩ := mem_map.mp delivered
    cases same
  split at rest
  · cases mem_singleton.mp rest
  rcases mem_cons.mp rest with entered | branch
  · cases entered
  · cases inBranch_branch config state event _ branch

def unreported (config : WsConfig) (state : SocketRuntime) (event : WsEvent) : SocketRuntime :=
  (unreportedActions config state.opened event).foldl (SocketRuntime.perform config) state.opened

theorem eventTransitions_eq : eventTransitions config state event =
      (actionMachine config).transitions state.opened
          (unreportedActions config state.opened event) ++
        [⟨unreported config state event, .report event.socketId,
          dispatched config state event⟩] := by
  rw [eventTransitions, dispatchActions_eq, actionMachine_transitions_append,
    dispatched_eq, dispatchActions_eq, foldl_append]
  rfl

theorem report_thrown_iff : (state.report config socketId).thrown = none ↔
      ∀ error ∈ state.thrown, error.loggable socketId = true := by
  unfold SocketRuntime.report
  cases thrown : state.thrown with
  | none => simp [thrown]
  | some error =>
    cases loggable : error.loggable socketId with
    | true =>
      simp only [if_true, Option.mem_def, Option.some.injEq, forall_eq', loggable, iff_true]
      unfold SocketRuntime.toSocket SocketRuntime.queue
      split <;> rfl
    | false => simp [thrown, loggable]

theorem dispatched_thrown_iff : (dispatched config state event).thrown = none ↔
      ∀ error ∈ (unreported config state event).thrown, error.loggable event.socketId = true := by
  rw [dispatched_eq, dispatchActions_eq, foldl_append]
  exact report_thrown_iff

theorem fits_iff : (∀ transition ∈ eventTransitions config state event,
        ActionFits config transition.source transition.label) ↔
      (dispatched config state event).thrown = none ∧
        ∀ command ∈ (dispatched config state event).outbound, command.fits = true := by
  have outbound : (dispatched config state event).outbound =
      (eventTransitions config state event).flatMap fun transition =>
        queuedCommands config transition.source transition.label := by
    rw [dispatched_eq, foldl_outbound]
    rfl
  rw [outbound, dispatched_thrown_iff]
  constructor
  · intro fits
    constructor
    · have last := fits ⟨unreported config state event,
        .report event.socketId, dispatched config state event⟩ (by
          rw [eventTransitions_eq]
          exact mem_append_right _ mem_cons_self)
      exact last.reported event.socketId rfl
    · intro command member
      obtain ⟨transition, passed, queued⟩ := mem_flatMap.mp member
      exact (fits transition passed).commands command queued
  · intro ⟨reported, fit⟩ transition member
    refine ⟨?_, ?_⟩
    · intro command queued
      exact fit command (mem_flatMap.mpr ⟨transition, member, queued⟩)
    intro socketId report
    rw [eventTransitions_eq] at member
    rcases mem_append.mp member with early | last
    · have label := (actionMachine config).label_mem_of_mem_transitions early
      exact absurd report (unreported_no_report label)
    rw [mem_singleton.mp last] at report ⊢
    cases report
    exact reported

theorem dispatchWs_eq_some_iff : dispatchWs config state event = some json ↔
      (dispatched config state event).thrown = none ∧
        jsonEncode (.list ((dispatched config state event).outbound.map
          WsCommand.export)) = some json ∧ json.depth ≤ jsonEncodeDepth := by
  unfold dispatchWs
  dsimp only
  cases thrown : (dispatched config state event).thrown with
  | none => simp [Option.filter_eq_some_iff]
  | some error => simp

theorem returned_iff (format : JsonFormat serdeDepth) :
    (∃ json received, dispatchWs config state event = some json ∧
        readCommands format.parse (format.text json) = some received ∧
        List.Forall₂ (Carries format.float) (dispatched config state event).outbound received) ↔
      ∀ transition ∈ eventTransitions config state event,
        ActionFits config transition.source transition.label := by
  rw [fits_iff, ← commands_read_iff format.text?_float]
  constructor
  · intro ⟨json, received, returned, read, carried⟩
    obtain ⟨quiet, encoded, _⟩ := dispatchWs_eq_some_iff.mp returned
    rw [readCommands, format.parse_text] at read
    split at read
    next shallow => exact ⟨quiet, json, received, encoded, shallow, read, carried⟩
    · cases read
  · intro ⟨quiet, json, received, encoded, shallow, read, carried⟩
    have within : json.depth ≤ jsonEncodeDepth := Nat.le_trans (Nat.le_of_lt shallow) (by decide)
    refine ⟨json, received, dispatchWs_eq_some_iff.mpr ⟨quiet, encoded, within⟩, ?_, carried⟩
    rw [readCommands, format.parse_text, if_pos shallow]
    exact read

theorem dispatched_outbound (decodes : ∀ message ∈ event.poll.messages,
      (config.jsonDecode 64 message.payload).isOk = true) :
    ∃ later, (dispatched config state event).outbound =
      (event.poll.messages.filterMap (wellFormed config)).map (foreignCommand state) ++ later := by
  have named : ∀ message ∈ event.poll.messages.filterMap (wellFormed config),
      message.named = true := by
    intro message member
    obtain ⟨_, _, formed⟩ := mem_filterMap.mp member
    exact wellFormed_named formed
  rw [dispatched_eq, dispatchActions]
  simp only [drainAdapter_delivered config event.poll.failure decodes]
  rw [append_assoc, foldl_append, foldl_outbound, foldl_deliver_outbound named]
  exact ⟨_, rfl⟩

end Event

def newsText : PhpString := asciiBytes "\x7b\"node\":\"there\",\"event\":\"news\",\"data\":1\x7d"

/-- The values of `json_decode` for a complete message, and for the half of one. -/
def twoPayloads : WsConfig where
  nodeId := asciiBytes "here"
  exposeErrors := false
  jsonDecode := fun _ payload =>
    if payload = newsText then
      .ok (.array [(asciiBytes "node", .string (asciiBytes "there")),
        (asciiBytes "event", .string (asciiBytes "news")), (asciiBytes "data", .integer 1)])
    else .error (.named "JsonException" "Syntax error")
  base64Decode := decodeBase64

def oneSocket : SocketRuntime := SocketRuntime.initial.accept (asciiBytes "socket-1")

def disconnectWith (payload : PhpString) : WsEvent where
  kind := .disconnect
  socketId := asciiBytes "socket-1"
  payload := []
  poll := ⟨[⟨asciiBytes "broadcast", payload⟩], none⟩
  authenticator := none
  connectionHandler := true
  run := ⟨[], none⟩

theorem actionFits_of_quiet {config : WsConfig} {state : SocketRuntime} {action : SocketAction}
    (quiet : ((queuedCommands config state action).all WsCommand.fits &&
      state.thrown.isNone) = true) : ActionFits config state action := by
  rw [Bool.and_eq_true, all_eq_true, Option.isNone_iff_eq_none] at quiet
  refine ⟨quiet.1, ?_⟩
  intro _ _ error thrown
  rw [quiet.2] at thrown
  cases thrown

theorem foreign_news_rule : DrainRule twoPayloads oneSocket (disconnectWith newsText) where
  polled := rfl
  decodes := by decide +kernel
  fits := by
    have quiet : (eventTransitions twoPayloads oneSocket
        (disconnectWith newsText)).all (fun transition =>
          (queuedCommands twoPayloads transition.source transition.label).all WsCommand.fits &&
          transition.source.thrown.isNone) = true := by
      decide +kernel
    intro transition member
    exact actionFits_of_quiet (all_eq_true.mp quiet transition member)

end Pam.Runtime
