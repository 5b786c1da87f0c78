import Pam.Runtime.Redis

namespace Pam.Runtime

open Pam.Foundation Pam.Protocol Option

/-! Calls that do not overlap return their own replies. -/

def RedisState.available (state : RedisState) : List ReplyByte := state.buffer ++
    ((state.stream.bind fun stream => state.connections[stream]?).map Connection.pending).getD []

inductive Waits : List Frame → Prop where
  | send : Waits [.send]
  | fill (need : Need) (stack : List Frame) : Waits (.fill need :: stack)

/-- The reader is at `item` inside the arrays `frames` of `reply`, of which the
bytes `after` follow the item. -/
inductive Inside (reply : Resp) : List Frame → Resp → PhpString → Prop where
  | top : Inside reply [] reply []
  | item {frames : List Frame} {before later : List Resp} {item : Resp} {after : PhpString}
      (inside : Inside reply frames (.array (before ++ item :: later)) after) :
      Inside reply (.array later.length (before.map Resp.decode) :: frames) item
        (Resp.encodeAll later ++ after)

theorem Inside.wellFormed {item : Resp} {after : PhpString}
    (inside : Inside reply frames item after) (wellFormed : reply.WellFormed) :
    item.WellFormed := by
  induction inside with
  | top => exact wellFormed
  | item inside induction =>
    cases induction with
    | array _ all => exact all _ (List.mem_append_right _ List.mem_cons_self)

/-- What the reader has still to take of its item. -/
inductive Expects (stream : Nat) : Control → Resp → PhpString → Prop where
  | readValue (item : Resp) : Expects stream .readValue item item.encode
  | serving {need : Need} {item : Resp} {left : PhpString} (partway : Partway need item left) :
      Expects stream (.serving need) item left
  | reading {need : Need} {item : Resp} {left : PhpString} (partway : Partway need item left) :
      Expects stream (.reading stream need) item left
  | returning (item : Resp) : Expects stream (.returning item.decode) item []

/-- The reader is in the middle of `reply`, of which the bytes `left` are
left. -/
def Within (stream : Nat) (control : Control) (frames : List Frame)
    (reply : Resp) (left : PhpString) : Prop := ∃ item bytes after, Inside reply frames item after ∧
    Expects stream control item bytes ∧ left = bytes ++ after

inductive Goes (stream : Nat) (frames : List Frame) (reply : Resp)
    (left : PhpString) : Reading → Prop where
  | needs {need : Need} (within : Within stream (.serving need) frames reply left) :
      Goes stream frames reply left (.needs need)
  | value {value : RedisValue} (within : Within stream (.returning value) frames reply left) :
      Goes stream frames reply left (.value value)
  | items {count : Nat} (within : Within stream .readValue (.array (count - 1) [] :: frames)
        reply left) : Goes stream frames reply left (.items count)
  | threw (exception : RedisException) : Goes stream frames reply left (.threw exception)

theorem Within.take {stream : Nat} {need : Need} {left more buffer data : PhpString} {count : Nat}
    (within : Within stream (.serving need) frames reply left)
    (wellFormed : reply.WellFormed) (starts : buffer <+: left ++ more)
    (taken : need.take buffer = some (data, count)) : ∃ rest, left = buffer.take count ++ rest ∧
      Goes stream frames reply rest (need.accept maxResponseBytes data) := by
  obtain ⟨item, bytes, after, inside, expects, rfl⟩ := within
  cases expects with
  | serving partway =>
    rw [List.append_assoc] at starts
    obtain ⟨rest, rfl, fits⟩ := partway.accept
      (inside.wellFormed wellFormed) starts taken maxResponseBytes
    refine ⟨rest ++ after, List.append_assoc .., ?_⟩
    cases reading : need.accept maxResponseBytes data with
    | needs next =>
      rw [reading] at fits
      exact .needs ⟨item, rest, after, inside, .serving fits, rfl⟩
    | value value =>
      rw [reading] at fits
      obtain ⟨rfl, rfl⟩ := fits
      exact .value ⟨item, [], after, inside, .returning item, rfl⟩
    | items count =>
      rw [reading] at fits
      obtain ⟨items, rfl, rfl, positive, rfl⟩ := fits
      cases items with
      | nil => cases positive
      | cons first later =>
        have entered := @Inside.item _ frames [] later first after inside
        refine .items ⟨first, first.encode, _, entered, .readValue first, ?_⟩
        rw [Resp.encodeAll, List.append_assoc]
    | threw exception => exact .threw exception

theorem Within.item {stream missing : Nat} {value : RedisValue}
    {values : List RedisValue} {left : PhpString}
    (within : Within stream (.returning value) (.array missing values :: frames) reply left) :
    match missing with
    | 0 => Within stream (.returning (.list (values ++ [value]))) frames reply left
    | missing + 1 => Within stream .readValue
        (.array missing (values ++ [value]) :: frames) reply left := by
  obtain ⟨item, bytes, after, inside, expects, rfl⟩ := within
  cases expects
  cases inside with
  | @item _ before later _ after inside =>
    cases later with
    | nil =>
      refine ⟨_, [], after, inside, ?_, rfl⟩
      have decoded : RedisValue.list (before.map Resp.decode ++
          [item.decode]) = (Resp.array (before ++ [item])).decode := by
        rw [Resp.decode, Resp.decodeAll_eq, List.map_append]
        rfl
      rw [decoded]
      exact .returning _
    | cons next later =>
      have moved : Inside reply (.array later.length ((before ++ [item]).map Resp.decode) ::
            frames) next (Resp.encodeAll later ++ after) := by
        apply Inside.item
        rw [List.append_assoc]
        exact inside
      rw [List.map_append] at moved
      refine ⟨next, next.encode, _, moved, .readValue next, ?_⟩
      rw [Resp.encodeAll, List.append_assoc]
      rfl

/-- The frames under the reader: a handshake, after which nothing is left, or
the call, after which its other replies are. -/
inductive Bottom (id stream : Nat) (call : RedisCall)
    (sent : Option (Nat × List PeerReply)) (taken expected : List ReplyByte) :
    List Frame → Resp → PhpString → Prop where
  | authentication {below : List Frame} (reply : Resp) (waits : Waits below) :
      Bottom id stream call sent taken expected (.authentication :: below) reply []
  | selection {below : List Frame} (reply : Resp) (waits : Waits below) :
      Bottom id stream call sent taken expected (.selection :: below) reply []
  | replies {before later : List PeerReply} {reply : PeerReply}
      (answered : sent = some (stream, before ++ reply :: later))
      (count : (before ++ reply :: later).length = call.commands.length)
      (whole : tagReplies stream (some id) (before ++ reply :: later) = taken ++ expected) :
      Bottom id stream call sent taken expected
        [.call later.length (before.map fun reply => reply.val.decode)]
        reply.val (later.flatMap fun reply => reply.val.encode)

theorem Bottom.take {id stream : Nat}
    (bottom : Bottom id stream call sent taken (front ++ expected) stack reply rest) :
    Bottom id stream call sent (taken ++ front) expected stack reply rest := by
  cases bottom with
  | authentication _ waits => exact .authentication _ waits
  | selection _ waits => exact .selection _ waits
  | replies answered count whole => exact .replies answered count (by rw [whole, List.append_assoc])

/-- The states of a call that has the client for itself. -/
inductive Sound (open? : Option Nat) (available : List ReplyByte) (id : Nat)
    (fiber : Fiber) : Prop where
  | connecting (control : fiber.control = .connecting)
      (waits : Waits fiber.stack) (unconnected : open? = none) (drained : available = [])
  | handshake {stream : Nat} (connected : open? = some stream)
      (control : fiber.control = .selecting ∨ fiber.control = .connected ∨
        ∃ remaining what, what ≠ Written.payload ∧ fiber.control = .writing stream remaining what)
      (waits : Waits fiber.stack) (drained : available = [])
  | sends {stream remaining : Nat} (connected : open? = some stream)
      (control : fiber.control = .writing stream remaining .payload) (drained : available = [])
  | reads {stream : Nat} {frames bottom : List Frame} {reply : Resp}
      {left rest : PhpString} {expected : List ReplyByte} (connected : open? = some stream)
      (stack : fiber.stack = frames ++ bottom) (wellFormed : reply.WellFormed)
      (within : Within stream fiber.control frames reply left)
      (bottom : Bottom id stream fiber.call fiber.sent fiber.taken expected bottom reply rest)
      (bytes : expected.map ReplyByte.value = left ++ rest) (starts : available <+: expected)
  | starved {stream : Nat} {need : Need} (connected : open? = some stream)
      (control : fiber.control = .reading stream need) (drained : available = [])

inductive Orderly (state : RedisState) : Prop where
  | idle (none : state.fibers = ∅) (drained : state.available = [])
  | busy {id : Nat} {fiber : Fiber} (one : state.fibers = (∅ : Table Nat Fiber).insert id fiber)
      (sound : Sound state.stream state.available id fiber)

section States

variable {state : RedisState} {id : Nat}

theorem available_of_stream (connected : state.stream = some stream) :
    state.available = state.buffer ++
      ((state.connections[stream]?).map Connection.pending).getD [] := by
  rw [RedisState.available, connected]
  rfl

theorem available_of_no_stream (unconnected : state.stream = none) :
    state.available = state.buffer := by
  rw [RedisState.available, unconnected]
  exact List.append_nil _

theorem close_stream : state.close.stream = none := by
  rw [RedisState.close]
  split
  · assumption
  · rfl

theorem close_available : state.close.available = [] := by
  rw [available_of_no_stream close_stream, RedisState.close]
  split <;> rfl

theorem close_fibers : state.close.fibers = state.fibers := by
  rw [RedisState.close]
  split <;> rfl

theorem available_deliver (connected : state.stream = some stream)
    (drained : state.available = []) :
    (state.deliver stream call replies).available <+: tagReplies stream call replies := by
  rw [available_of_stream connected, List.append_eq_nil_iff] at drained
  simp only [RedisState.available, RedisState.deliver, RedisState.modify, connected, bind_some,
    List.getElem?_modify, drained.1]
  cases found : state.connections[stream]? with
  | none => exact List.nil_prefix
  | some held =>
    have empty : held.pending = [] := by simpa [found] using drained.2
    dsimp only [map_eq_map, map_some]
    rw [if_pos trivial]
    split
    · rw [empty]
      exact List.nil_prefix
    rw [empty]
    exact List.prefix_rfl

theorem available_receive (connected : state.stream = some stream)
    (found : state.connections[stream]? = some held) :
    RedisState.available { state.modify stream fun held =>
        { held with pending := held.pending.drop count } with
      buffer := state.buffer ++ held.pending.take count } = state.available := by
  simp [RedisState.available, RedisState.modify, connected, found]

theorem available_peerCloses (state : RedisState) (connection kept : Nat) :
    (state.modify connection fun held => { held with
        pending := held.pending.take kept
        peerClosed := true }).available <+: state.available := by
  simp only [RedisState.available, RedisState.modify, List.prefix_append_right_inj]
  cases state.stream with
  | none => exact List.prefix_rfl
  | some stream =>
    rw [bind_some, bind_some, List.getElem?_modify]
    cases state.connections[stream]? with
    | none => exact List.prefix_rfl
    | some held =>
      split
      · exact List.take_prefix _ _
      · exact List.prefix_rfl

theorem map_value_tagReplies : (tagReplies connection call replies).map ReplyByte.value =
      replies.flatMap fun reply => reply.val.encode := by
  rw [tagReplies, List.map_map]
  exact List.map_id _

theorem Sound.delivered (connected : state.stream = some stream)
    (drained : state.available = []) {reply : PeerReply} (control : fiber.control = .readValue)
    (under : Bottom id stream fiber.call fiber.sent fiber.taken
      (tagReplies stream call (reply :: later)) fiber.stack reply.val
      (later.flatMap fun reply => reply.val.encode)) :
    Sound (state.deliver stream call (reply :: later)).stream
      (state.deliver stream call (reply :: later)).available id fiber := by
  have within : Within stream fiber.control [] reply.val reply.val.encode := by
    rw [control]
    exact ⟨reply.val, reply.val.encode, [], .top, .readValue _, (List.append_nil _).symm⟩
  exact .reads connected (List.nil_append _).symm reply.property within under
    map_value_tagReplies (available_deliver connected drained)

theorem Within.control_cases {control : Control} {reply : Resp}
    {left : PhpString} (within : Within stream control frames reply left) :
    control.suspended = false ∨ ∃ need, control = .reading stream need ∧
        Within stream (.serving need) frames reply left := by
  obtain ⟨item, bytes, after, inside, expects, whole⟩ := within
  cases expects with
  | readValue | serving partway | returning => exact .inl rfl
  | reading partway => exact .inr ⟨_, rfl, item, bytes, after, inside, .serving partway, whole⟩

theorem Sound.at_control (sound : Sound open? available id fiber) : match fiber.control with
    | .connecting => Waits fiber.stack ∧ open? = none ∧ available = []
    | .writing connection _ what =>
      open? = some connection ∧ available = [] ∧ (what ≠ .payload → Waits fiber.stack)
    | .reading connection need => open? = some connection ∧ (available = [] ∨
        Sound open? available id { fiber with control := .serving need })
    | _ => True := by
  cases sound with
  | connecting control waits unconnected drained =>
    rw [control]
    exact ⟨waits, unconnected, drained⟩
  | handshake connected control waits drained =>
    rcases control with control | control | ⟨_, what, -, control⟩ <;> rw [control]
    · trivial
    · trivial
    · exact ⟨connected, drained, fun _ => waits⟩
  | sends connected control drained =>
    rw [control]
    exact ⟨connected, drained, fun other => absurd rfl other⟩
  | reads connected stack wellFormed within bottom bytes starts =>
    rcases within.control_cases with running | ⟨need, control, within⟩
    · cases control : fiber.control <;> first | trivial | (rw [control] at running; cases running)
    · rw [control]
      exact ⟨connected, .inr (.reads connected stack wellFormed within bottom bytes starts)⟩
  | starved connected control drained =>
    rw [control]
    exact ⟨connected, .inl drained⟩

theorem Sound.shrink (sound : Sound open? available id fiber) (front : fewer <+: available) :
    Sound open? fewer id fiber := by
  have empty : available = [] → fewer = [] := by
    intro drained
    rw [drained] at front
    exact List.prefix_nil.mp front
  cases sound with
  | connecting control waits unconnected drained =>
    exact .connecting control waits unconnected (empty drained)
  | handshake connected control waits drained =>
    exact .handshake connected control waits (empty drained)
  | sends connected control drained => exact .sends connected control (empty drained)
  | reads connected stack wellFormed within bottom bytes starts =>
    exact .reads connected stack wellFormed within bottom bytes (front.trans starts)
  | starved connected control drained => exact .starved connected control (empty drained)

theorem erase_singleton : ((∅ : Table Nat Fiber).insert id fiber).erase id = ∅ := by
  apply AList.ext
  exact List.kerase_cons_eq rfl

theorem insert_of_erase {fibers : Table Nat Fiber} (mine : fibers.erase id = ∅) (fiber : Fiber) :
    fibers.insert id fiber = (∅ : Table Nat Fiber).insert id fiber := by
  apply AList.ext
  have entries : List.kerase id fibers.entries = [] := congrArg AList.entries mine
  change (⟨id, fiber⟩ : (_ : Nat) × Fiber) :: List.kerase id fibers.entries = [⟨id, fiber⟩]
  rw [entries]

def RedisState.Only (state : RedisState) (id : Nat) : Prop := state.fibers.erase id = ∅

variable (mine : state.Only id)
include mine

theorem Orderly.throw : Orderly (state.throw id) := by
  apply Orderly.idle
  · rw [RedisState.throw, RedisState.leave, close_fibers]
    exact mine
  · exact close_available

theorem Orderly.put {next : Fiber} (sound : Sound state.stream state.available id next) :
    Orderly (state.put id next) := .busy (insert_of_erase mine next) sound

theorem Orderly.reconnect (control : next.control = .connecting)
    (waits : Waits next.stack) : Orderly (state.close.put id next) := by
  have mine : state.close.Only id := by
    rw [RedisState.Only, close_fibers]
    exact mine
  apply Orderly.put mine
  exact .connecting control waits close_stream close_available

section

variable (connected : state.stream = some stream)
include connected

theorem Orderly.resume (waits : Waits next.stack) (drained : state.available = [])
    (step : state.resume id next stream = some target) : Orderly target := by
  rw [RedisState.resume] at step
  generalize next.stack = stack at step waits
  cases waits with
  | send =>
    dsimp only at step
    split at step
    · cases step
      exact Orderly.throw mine
    · cases step
      exact Orderly.put mine (.sends connected rfl drained)
  | fill need below =>
    cases step
    exact Orderly.put mine (.starved connected rfl drained)

theorem Orderly.select (waits : Waits fiber.stack) (drained : state.available = []) :
    Orderly (state.select options id fiber) := by
  rw [RedisState.select]
  split
  · exact Orderly.put mine (.handshake connected (.inr (.inl rfl)) waits drained)
  split
  next same _ =>
    cases (connected.symm.trans same)
    exact Orderly.put mine (.handshake connected
      (.inr (.inr ⟨_, .selection, nofun, rfl⟩)) waits drained)
  · exact Orderly.throw mine

theorem Orderly.authenticate (waits : Waits fiber.stack) (drained : state.available = []) :
    Orderly (state.authenticate options id fiber stream) := by
  rw [RedisState.authenticate]
  split
  · exact Orderly.put mine (.handshake connected (.inl rfl) waits drained)
  split
  · exact Orderly.throw mine
  · exact Orderly.put mine (.handshake connected
      (.inr (.inr ⟨_, .authentication, nofun, rfl⟩)) waits drained)

variable {fiber : Fiber} (stack : fiber.stack = frames ++ bottom) (wellFormed : reply.WellFormed)
  (under : Bottom id stream fiber.call fiber.sent fiber.taken expected bottom reply rest)
  (bytes : expected.map ReplyByte.value = left ++ rest) (starts : state.available <+: expected)
include stack wellFormed under bytes starts

theorem Orderly.serve {need : Need} (within : Within stream (.serving need) frames reply left)
    (step : state.serve options id fiber need = some target) : Orderly target := by
  rw [RedisState.serve] at step
  split at step
  · split at step
    · cases step
      exact Orderly.throw mine
    rw [RedisState.connection, connected] at step
    dsimp only at step
    split at step
    · cases step
      apply Orderly.put mine
      obtain ⟨item, front, after, inside, expects, rfl⟩ := within
      cases expects with
      | serving partway =>
        exact .reads connected stack wellFormed
          ⟨item, front, after, inside, .reading partway, rfl⟩ under bytes starts
    · cases step
      exact Orderly.reconnect mine rfl (.fill need _)
  next data count taken =>
  rw [available_of_stream connected] at starts
  generalize held : ((state.connections[stream]?).map
    Connection.pending).getD [] = pending at starts
  obtain ⟨tail, rfl⟩ := starts
  have buffered : state.buffer.map ReplyByte.value <+: left ++ rest := by
    rw [← bytes, List.append_assoc, List.map_append]
    exact List.prefix_append _ _
  obtain ⟨remaining, rfl, goes⟩ := within.take wellFormed buffered taken
  -- The bytes that are taken are in front of what is expected.
  have front : state.buffer ++ pending ++ tail = state.buffer.take count ++
        (state.buffer.drop count ++ pending ++ tail) := by
    simp [← List.append_assoc]
  rw [front] at bytes under
  rw [List.map_append, List.map_take] at bytes
  have bytes := List.append_cancel_left (bytes.trans (List.append_assoc _ _ _))
  have starts : RedisState.available { state with buffer := state.buffer.drop count } <+:
        state.buffer.drop count ++ pending ++ tail := by
    have same : RedisState.available { state with buffer := state.buffer.drop count } =
          state.buffer.drop count ++ pending := by
      rw [← held]
      exact available_of_stream connected
    rw [same]
    exact List.prefix_append _ _
  have mine : RedisState.Only { state with buffer := state.buffer.drop count } id := mine
  generalize need.accept options.maxResponseBytes data = reading at step goes
  cases goes with
  | needs within | value within =>
    cases step
    exact Orderly.put mine (.reads connected stack wellFormed within under.take bytes starts)
  | items within =>
    cases step
    exact Orderly.put mine (.reads connected
      (congrArg (List.cons _) stack) wellFormed within under.take bytes starts)
  | threw exception =>
    cases step
    exact Orderly.throw mine

theorem Orderly.answer {value : RedisValue}
    (within : Within stream (.returning value) frames reply left)
    (step : state.answer id fiber value = some target) : Orderly target := by
  rw [RedisState.answer, stack] at step
  cases frames with
  | nil =>
    obtain ⟨item, front, after, inside, expects, rfl⟩ := within
    cases inside
    cases expects
    -- Nothing of the reply is left.
    have emptied : rest = [] → state.available = [] := by
      intro none
      rw [none] at bytes
      rw [List.map_eq_nil_iff.mp bytes] at starts
      exact List.prefix_nil.mp starts
    cases under with
    | authentication _ waits | selection _ waits =>
      dsimp only [List.nil_append] at step
      split at step <;> cases step
      · exact Orderly.put mine (.handshake connected (by simp) waits (emptied rfl))
      · exact Orderly.throw mine
    | @replies before later reply answered count whole =>
      cases later with
      | nil =>
        cases step
        exact .idle mine (emptied rfl)
      | cons following later =>
        cases step
        have moved : Bottom id stream fiber.call fiber.sent fiber.taken expected [.call later.length
              ((before ++ [reply]).map fun reply => reply.val.decode)] following.val
            (later.flatMap fun reply => reply.val.encode) :=
          .replies (by rw [answered, List.append_assoc]; rfl)
            (by rw [← count, List.append_assoc]; rfl) (by rw [← whole, List.append_assoc]; rfl)
        rw [List.map_append] at moved
        exact Orderly.put mine (.reads connected rfl following.property
          ⟨following.val, following.val.encode, [], .top,
            .readValue _, (List.append_nil _).symm⟩ moved bytes starts)
  | cons frame frames =>
    have nested : ∃ missing values, frame = .array missing values := by
      obtain ⟨_, _, _, inside, -⟩ := within
      cases inside
      exact ⟨_, _, rfl⟩
    obtain ⟨missing, values, rfl⟩ := nested
    have moved := within.item
    cases missing with
    | zero | succ missing =>
      cases step
      exact Orderly.put mine (.reads connected rfl wellFormed moved under bytes starts)

end

theorem Orderly.run (sound : Sound state.stream state.available id fiber)
    (step : state.run options id fiber = some target) : Orderly target := by
  rw [RedisState.run] at step
  cases sound with
  | connecting control | sends connected control | starved connected control =>
    rw [control] at step
    cases step
  | handshake connected control waits drained =>
    rcases control with control | control | ⟨_, _, -, control⟩
    · rw [control] at step
      cases step
      exact Orderly.select mine connected waits drained
    · rw [control, connected] at step
      exact Orderly.resume mine connected waits drained step
    · rw [control] at step
      cases step
  | @reads stream frames bottom reply left rest expected connected stack
      wellFormed within under bytes starts =>
      generalize isControl : fiber.control = control at step within
      obtain ⟨item, front, after, inside, expects, whole⟩ := within
      cases expects with
      | readValue =>
        dsimp only at step
        split at step
        · cases step
          exact Orderly.throw mine
        cases step
        exact Orderly.put mine (.reads connected stack wellFormed
          ⟨item, _, after, inside, .serving (.type item), whole⟩ under bytes starts)
      | serving partway =>
        exact Orderly.serve mine connected stack wellFormed under bytes starts
          ⟨item, front, after, inside, .serving partway, whole⟩ step
      | reading partway => cases step
      | returning =>
        exact Orderly.answer mine connected stack wellFormed under bytes starts
          ⟨item, _, after, inside, .returning item, whole⟩ step

theorem Orderly.connects (control : fiber.control = .connecting)
    (waits : Waits fiber.stack) (unconnected : state.stream = none) (drained : state.available = [])
    (step : state.awake options id fiber (.connects other) = some target) : Orderly target := by
  rw [RedisState.awake, control] at step
  cases step
  rw [available_of_no_stream unconnected] at drained
  have mine : RedisState.Only { state with
      stream := some state.connections.length
      connections := state.connections ++ [Connection.opened] } id := mine
  refine Orderly.authenticate mine rfl waits ?_
  rw [available_of_stream rfl]
  simp [drained, Connection.opened]

theorem Orderly.wrote (connected : state.stream = some stream)
    (drained : state.available = []) {what : Written} (waits : what ≠ .payload → Waits fiber.stack)
    (step : state.wrote id fiber stream replies what = some target) : Orderly target := by
  have mine : ∀ call, (state.deliver stream call replies).Only id := by
    intro call
    exact mine
  cases what with
  | authentication | selection =>
    rw [RedisState.wrote] at step
    split at step <;> cases step
    next single =>
      obtain ⟨reply, rfl⟩ := List.length_eq_one_iff.mp (beq_iff_eq.mp single)
      refine Orderly.put (mine none) (.delivered connected drained rfl ?_)
      constructor
      exact waits nofun
  | payload =>
    cases replies with
    | nil => cases step
    | cons reply later =>
      dsimp only [RedisState.wrote] at step
      split at step
      next counted =>
        cases step
        have under : Bottom id stream fiber.call (some (stream, reply :: later)) []
            (tagReplies stream (some id) (reply :: later)) [.call later.length []] reply.val
            (later.flatMap fun reply => reply.val.encode) :=
          @Bottom.replies _ _ _ _ _ _ [] later reply rfl (beq_iff_eq.mp counted) rfl
        exact Orderly.put (mine _) (.delivered connected drained rfl under)
      · cases step

section

variable (sound : Sound state.stream state.available id fiber)
include sound

theorem Orderly.writes (control : fiber.control = .writing connection remaining what) {other : Nat}
    (step : state.awake options id fiber (.writes other count replies) =
      some target) : Orderly target := by
  have writing := sound.at_control
  rw [control] at writing
  obtain ⟨connected, drained, waits⟩ := writing
  rw [RedisState.awake, control] at step
  dsimp only at step
  split at step
  · cases step
  split at step
  · cases step
    apply Orderly.put mine
    by_cases payload : what = .payload
    · subst payload
      exact .sends connected rfl drained
    · exact .handshake connected (.inr (.inr ⟨_, what, payload, rfl⟩)) (waits payload) drained
  · exact Orderly.wrote mine connected drained waits step

theorem Orderly.receives (control : fiber.control = .reading connection need)
    (step : state.awake options id fiber (.receives other count) =
      some target) : Orderly target := by
  have reading := sound.at_control
  rw [control] at reading
  obtain ⟨connected, goesOn⟩ := reading
  rw [RedisState.awake, control] at step
  dsimp only at step
  split at step
  · cases step
  next held found =>
  split at step
  · cases step
  next enabled =>
  cases step
  simp only [Bool.or_eq_true, not_or, beq_iff_eq, decide_eq_true_eq, Nat.not_lt] at enabled
  obtain ⟨⟨⟨-, positive⟩, -⟩, enough⟩ := enabled
  have mine : RedisState.Only { state.modify connection fun held =>
        { held with pending := held.pending.drop count } with
      buffer := state.buffer ++ held.pending.take count } id := mine
  apply Orderly.put mine
  rw [available_receive connected found]
  rcases goesOn with drained | sound
  · rw [available_of_stream connected, found, List.append_eq_nil_iff] at drained
    have none : held.pending = [] := drained.2
    rw [none] at enough
    exact absurd (Nat.le_zero.mp enough) positive
  · exact sound

theorem Orderly.awake (step : state.awake options id fiber label = some target) :
    Orderly target := by
  cases label with
  | connects other =>
    cases isControl : fiber.control with
    | connecting =>
      have waiting := sound.at_control
      rw [isControl] at waiting
      obtain ⟨waits, unconnected, drained⟩ := waiting
      exact Orderly.connects mine isControl waits unconnected drained step
    | _ =>
      rw [RedisState.awake, isControl] at step
      cases step
  | writes other count replies =>
    cases isControl : fiber.control with
    | writing connection remaining what => exact Orderly.writes mine sound isControl step
    | _ =>
      rw [RedisState.awake, isControl] at step
      cases step
  | receives other count =>
    cases isControl : fiber.control with
    | reading connection need => exact Orderly.receives mine sound isControl step
    | _ =>
      rw [RedisState.awake, isControl] at step
      cases step
  | fails other =>
    rw [RedisState.awake] at step
    split at step
    · cases step
      exact Orderly.throw mine
    · cases step
  | begin call | run other | peerCloses connection kept => cases step

end

omit mine in
theorem Orderly.begin (orderly : Orderly state) (none : state.fibers = ∅)
    {call : RedisCall} {target : RedisState}
    (step : state.begin call = some target) : Orderly target := by
  have drained : state.available = [] := by
    cases orderly with
    | idle none drained => exact drained
    | busy one sound =>
      rw [none] at one
      cases congrArg AList.entries one
  have starts : ∀ {target : RedisState},
      RedisState.connection { state with nextCall := state.nextCall + 1 } state.nextCall
        { call := call, stack := [.send], control := .connected, sent := .none,
          taken := [] } = some target → Orderly target := by
    intro target step
    have mine : RedisState.Only { state with nextCall := state.nextCall + 1 } state.nextCall := by
      rw [none]
      rfl
    rw [RedisState.connection] at step
    split at step
    next connected =>
      split at step
      · exact Orderly.resume mine connected .send drained step
      · cases step
        exact Orderly.reconnect mine rfl .send
    · cases step
      exact Orderly.reconnect mine rfl .send
  cases call with
  | command arguments =>
    dsimp only [RedisState.begin] at step
    split at step
    · cases step
      exact orderly
    · exact starts step
  | pipeline commands =>
    dsimp only [RedisState.begin] at step
    split at step
    · cases step
      exact orderly
    split at step
    · cases step
      exact orderly
    · exact starts step

end States

theorem Orderly.sound (orderly : Orderly state) {id : Nat}
    {fiber : Fiber} (found : state.fibers.lookup id = some fiber) :
    state.Only id ∧ Sound state.stream state.available id fiber := by
  cases orderly with
  | idle none drained =>
    rw [none] at found
    cases found
  | busy one sound =>
    rw [one] at found
    rcases Table.lookup_of_lookup_insert found with ⟨rfl, rfl⟩ | ⟨-, other⟩
    · rw [RedisState.Only, one]
      exact ⟨erase_singleton, sound⟩
    · cases other

theorem Orderly.next {options : RedisOptions}
    {label : RedisLabel} (orderly : Orderly state) (alone : Alone state label)
    (step : state.next options label = some target) : Orderly target := by
  have awakes : ∀ {id label}, (if state.quiet then
        (state.fibers.lookup id).bind fun fiber => state.awake options id fiber label
      else none) = some target → Orderly target := by
    intro id label step
    split at step
    · obtain ⟨fiber, found, step⟩ := bind_eq_some_iff.mp step
      obtain ⟨mine, sound⟩ := orderly.sound found
      exact Orderly.awake mine sound step
    · cases step
  cases label with
  | begin call =>
    rw [RedisState.next] at step
    split at step
    · exact orderly.begin alone step
    · cases step
  | run id =>
    obtain ⟨fiber, found, step⟩ := bind_eq_some_iff.mp step
    obtain ⟨mine, sound⟩ := orderly.sound found
    exact Orderly.run mine sound step
  | connects id | writes id count replies | receives id count | fails id => exact awakes step
  | peerCloses connection kept =>
    cases step
    have fewer := available_peerCloses state connection kept
    cases orderly with
    | idle none drained =>
      rw [drained] at fewer
      exact .idle none (List.prefix_nil.mp fewer)
    | busy one sound => exact .busy one (sound.shrink fewer)

theorem Sound.ownReplies {id : Nat} {fiber : Fiber} (sound : Sound open? available id fiber)
    {values : List RedisValue} (result : fiber.result = some values) :
    fiber.OwnReplies id values := by
  rw [Fiber.result] at result
  split at result
  next responses control isStack =>
    cases result
    cases sound with
    | connecting other | sends connected other | starved connected other =>
      rw [control] at other
      cases other
    | handshake connected other waits drained =>
      rw [control] at other
      rcases other with other | other | ⟨_, _, _, other⟩ <;> cases other
    | @reads stream frames bottom reply left rest expected connected stack
        wellFormed within under bytes starts =>
        rw [control] at within
        rw [isStack] at stack
        obtain ⟨item, front, after, inside, expects, rfl⟩ := within
        cases expects
        cases inside with
        | top =>
          cases under with
          | authentication | selection => cases stack
          | @replies before later reply answered count whole =>
            cases later with
            | cons => cases stack
            | nil =>
              obtain ⟨rfl⟩ : responses = before.map fun reply => reply.val.decode := by
                cases stack
                rfl
              rw [List.map_eq_nil_iff.mp bytes, List.append_nil] at whole
              refine ⟨stream, _, answered, count, whole.symm, ?_⟩
              rw [List.map_append]
              rfl
        | item => cases stack
  · cases result

theorem redis_returns_own (options : RedisOptions) (labels : List RedisLabel)
    (alone : ∀ transition ∈ (redisMachine options).transitions .initial labels,
      Alone transition.source transition.label) :
    ∀ transition ∈ (redisMachine options).transitions .initial labels,
      ReturnsOwn transition.source transition.label :=
  Machine.transitions_of_guarded _ Orderly Alone (fun state label _ => ReturnsOwn state label)
    (fun {state label target} orderly alone step => ⟨orderly.next alone step, by
        intro id fiber values _ found result
        exact (orderly.sound found).2.ownReplies result⟩) (.idle rfl rfl) alone

def plainOptions : RedisOptions where
  password := none
  database := 0
  maxResponseBytes := 16 * 1024 * 1024

def getCall : RedisCall := .command [[71, 69, 84], [107]]

def lineReply (byte : UInt8) (line : 0x0D ≠ byte ∧ 0x0A ≠ byte) : PeerReply :=
  ⟨.simple [byte], .simple ⟨by simpa using line.1, by simpa using line.2⟩⟩

/-- Two calls in turn; the reply to the first one comes in two pieces. -/
def readsInTurn : List RedisLabel := [.begin getCall, .connects 0, .run 0, .run 0,
    .writes 0 20 [lineReply 97 (by decide)], .run 0, .run 0, .receives 0 2, .run 0, .run 0,
    .receives 0 2, .run 0, .run 0, .begin getCall, .writes 1 20 [lineReply 98 (by decide)],
    .run 1, .run 1, .receives 1 4, .run 1, .run 1, .run 1]

theorem getCalls_return_own : (∀ transition ∈ (redisMachine plainOptions).transitions .initial
        readsInTurn, ReturnsOwn transition.source transition.label) ∧
    ((redisMachine plainOptions).transitions .initial readsInTurn).length = 21 := by
  refine ⟨redis_returns_own plainOptions readsInTurn ?_, rfl⟩
  iterate 21 refine List.forall_mem_cons.mpr ⟨by trivial, ?_⟩
  exact List.forall_mem_nil _

/-- Two calls that both wait for their reply; the second one is woken first. -/
def readsMixed : List RedisLabel := [.begin getCall, .connects 0, .run 0, .run 0,
    .writes 0 20 [lineReply 97 (by decide)], .run 0, .run 0,
    .begin getCall, .writes 1 20 [lineReply 98 (by decide)], .run 1, .run 1,
    .receives 1 4, .run 1, .run 1]

theorem overlapping_call_steals_reply : ¬ ∀ (options : RedisOptions) (labels : List RedisLabel),
      ∀ transition ∈ (redisMachine options).transitions .initial labels,
        ReturnsOwn transition.source transition.label := by
  intro all
  -- The second call has read the reply to the first one.
  have followed : ∃ state target fiber connection,
      (redisMachine plainOptions).follow .initial readsMixed = some state ∧
      (redisMachine plainOptions).next state (.run 1) = some target ∧
      state.fibers.lookup 1 = some fiber ∧ fiber.result = some [.string [97]] ∧
      fiber.sent = some (connection, [lineReply 98 (by decide)]) :=
    ⟨_, _, _, _, rfl, rfl, rfl, rfl, rfl⟩
  obtain ⟨state, target, fiber, connection, run, step, found, result, sent⟩ := followed
  have last : ⟨state, .run 1, target⟩ ∈ (redisMachine plainOptions).transitions state [.run 1] := by
    rw [Machine.transitions_step _ step]
    exact List.mem_cons_self
  have own := all plainOptions _ _ (Machine.mem_transitions_of_follow _ run last)
  obtain ⟨_, replies, answered, -, -, values⟩ := own 1 fiber _ rfl found result
  rw [sent, Option.some.injEq, Prod.mk.injEq] at answered
  rw [← answered.2] at values
  cases values

end Pam.Runtime
