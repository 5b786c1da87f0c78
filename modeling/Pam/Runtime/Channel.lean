import Pam.Foundation.Run

namespace Pam.Runtime

open Pam.Foundation List

/-! `Pam\Async\Channel`. A fiber runs alone from one `delay` to the next, so a
turn of a call, up to its delay or its end, is one step. -/

structure Channel (Value : Type) where
  capacity : Nat
  values : List Value
  closed : Bool

inductive ChannelCall (Value : Type) where
  | send (value : Value)
  | receive

inductive Turn (Value : Type) where
  | delayed
  | threw (message : String)
  | sent (value : Value)
  | received (value : Value)
  | returnedNull

variable {Value : Type}

def Channel.send (channel : Channel Value) (value : Value) : Turn Value × Channel Value :=
  if !channel.closed && 0 < channel.capacity && channel.capacity ≤ channel.values.length then
    (.delayed, channel)
  else if channel.closed then (.threw "Cannot send to a closed channel.", channel)
  else (.sent value, { channel with values := channel.values ++ [value] })

def Channel.receive (channel : Channel Value) : Turn Value × Channel Value :=
  match channel.values with
  | [] => if channel.closed then (.returnedNull, channel) else (.delayed, channel)
  | value :: values => (.received value, { channel with values := values })

def ChannelCall.turn (channel : Channel Value) : ChannelCall Value → Turn Value × Channel Value
  | .send value => channel.send value
  | .receive => channel.receive

def Turn.accepts : Turn Value → List Value
  | .sent value => [value]
  | _ => []

def Turn.returns : Turn Value → List Value
  | .received value => [value]
  | _ => []

/-- `waiting` are the calls in a delay. `accepted` and `received`, in their
order, are no state of the source. -/
structure ChannelState (Value : Type) where
  channel : Channel Value
  waiting : List (ChannelCall Value)
  accepted : List Value
  received : List Value

/-- A fiber in a delay may also be thrown out of it. -/
inductive ChannelLabel (Value : Type) where
  | call (call : ChannelCall Value)
  | resume (index : Nat)
  | abandon (index : Nat)
  | close

namespace ChannelState

def opened (capacity : Nat) : ChannelState Value := ⟨⟨capacity, [], false⟩, [], [], []⟩

def go (state : ChannelState Value) (call : ChannelCall Value) : ChannelState Value where
  channel := (call.turn state.channel).2
  waiting := match (call.turn state.channel).1 with
    | .delayed => state.waiting ++ [call]
    | _ => state.waiting
  accepted := state.accepted ++ (call.turn state.channel).1.accepts
  received := state.received ++ (call.turn state.channel).1.returns

def next (state : ChannelState Value) : ChannelLabel Value → Option (ChannelState Value)
  | .call call => some (state.go call)
  | .resume index => state.waiting[index]?.map fun call =>
      { state with waiting := state.waiting.eraseIdx index }.go call
  | .abandon index => some { state with waiting := state.waiting.eraseIdx index }
  | .close => some { state with channel := { state.channel with closed := true } }

def turn (state : ChannelState Value) : ChannelLabel Value → Option (Turn Value)
  | .call call => some (call.turn state.channel).1
  | .resume index => state.waiting[index]?.map fun call => (call.turn state.channel).1
  | _ => none

end ChannelState

def channelMachine (capacity : Nat) : Machine (ChannelState Value) (ChannelLabel Value) where
  start := .opened capacity
  next := ChannelState.next

structure Turns (channel : Channel Value) (turn : Turn Value) (target : Channel Value) : Prop where
  capacity : target.capacity = channel.capacity
  closed : target.closed = channel.closed
  ordered : channel.values ++ turn.accepts = turn.returns ++ target.values
  bounded : 0 < channel.capacity → channel.values.length ≤ channel.capacity →
    target.values.length ≤ channel.capacity
  emptied : turn = .returnedNull → channel.closed = true ∧ channel.values = []

theorem ChannelCall.turns (call : ChannelCall Value) (channel : Channel Value) :
    Turns channel (call.turn channel).1 (call.turn channel).2 := by
  obtain ⟨capacity, values, closed⟩ := channel
  cases call with
  | send value =>
    simp only [turn, Channel.send]
    split
    · exact ⟨rfl, rfl, append_nil _, fun _ => id, nofun⟩
    next room =>
    split
    · exact ⟨rfl, rfl, append_nil _, fun _ => id, nofun⟩
    next opened =>
    refine ⟨rfl, rfl, rfl, ?_, nofun⟩
    intro positive _
    have free : values.length < capacity := by simpa [opened, positive] using room
    rw [length_append]
    exact free
  | receive =>
    cases values with
    | nil =>
      cases closed with
      | true => exact ⟨rfl, rfl, rfl, fun _ => id, fun _ => ⟨rfl, rfl⟩⟩
      | false => exact ⟨rfl, rfl, rfl, fun _ => id, nofun⟩
    | cons value values => exact ⟨rfl, rfl, append_nil _, fun _ => Nat.le_of_succ_le, nofun⟩

structure Fifo (capacity : Nat) (state : ChannelState Value) : Prop where
  configured : state.channel.capacity = capacity
  bounded : state.channel.values.length ≤ capacity
  ordered : state.accepted = state.received ++ state.channel.values

variable {state : ChannelState Value}

theorem Fifo.go (positive : 0 < capacity) (fifo : Fifo capacity state) (call : ChannelCall Value) :
    Fifo capacity (state.go call) := by
  have turns := call.turns state.channel
  refine ⟨turns.capacity.trans fifo.configured, ?_, ?_⟩
  · have bounded := turns.bounded
    rw [fifo.configured] at bounded
    exact bounded positive fifo.bounded
  · dsimp only [ChannelState.go]
    rw [fifo.ordered, append_assoc, turns.ordered, append_assoc]

theorem Fifo.next (positive : 0 < capacity) (fifo : Fifo capacity state)
    (step : state.next label = some target) : Fifo capacity target := by
  cases label with
  | call call =>
    cases step
    exact fifo.go positive call
  | resume index =>
    obtain ⟨call, _, rfl⟩ := Option.map_eq_some_iff.mp step
    have held : Fifo capacity { state with waiting := state.waiting.eraseIdx index } :=
      ⟨fifo.configured, fifo.bounded, fifo.ordered⟩
    exact held.go positive call
  | abandon index | close =>
    cases step
    exact ⟨fifo.configured, fifo.bounded, fifo.ordered⟩

theorem returnedNull_of_turn (turned : state.turn label = some .returnedNull) :
    state.channel.closed = true ∧ state.channel.values = [] := by
  cases label with
  | call call => exact (call.turns state.channel).emptied (Option.some.inj turned)
  | resume index =>
    obtain ⟨call, _, turned⟩ := Option.map_eq_some_iff.mp turned
    exact (call.turns state.channel).emptied turned
  | abandon index | close => cases turned

theorem received_drain (capacity : Nat) : ((channelMachine capacity).finish state
      (replicate state.channel.values.length (.call .receive))).received =
    state.received ++ state.channel.values := by
  obtain ⟨⟨size, values, closed⟩, waiting, accepted, received⟩ := state
  induction values generalizing accepted received with
  | nil => exact (append_nil _).symm
  | cons value values induction =>
    refine (induction _ _).trans ?_
    exact append_assoc received [value] values

theorem channel_fifo (positive : 0 < capacity) (labels : List (ChannelLabel Value)) :
    (∀ state ∈ (channelMachine capacity).visited (.opened capacity) labels,
      state.channel.values.length ≤ capacity ∧ state.received <+: state.accepted ∧
        ((channelMachine capacity).finish state
          (replicate state.channel.values.length (.call .receive))).received = state.accepted) ∧
    ∀ transition ∈ (channelMachine capacity).transitions (.opened capacity) labels,
      transition.source.turn transition.label = some .returnedNull →
        transition.source.channel.closed = true ∧ transition.source.channel.values = [] := by
  refine ⟨?_, fun _ _ => returnedNull_of_turn⟩
  have start : Fifo capacity (.opened capacity : ChannelState Value) := ⟨rfl, Nat.zero_le _, rfl⟩
  refine (channelMachine capacity).visited_of_guarded (Fifo capacity) (fun _ _ => True) _ ?_
    (fun fifo _ => fifo.next positive) start fun _ _ => trivial
  intro state fifo
  refine ⟨fifo.bounded, ⟨_, fifo.ordered.symm⟩, ?_⟩
  rw [received_drain, fifo.ordered]

/-- The second send waits until the first value is received, and its value is
received after the close. -/
def sampleChannel : List (ChannelLabel Nat) :=
  [.call (.send 1), .call (.send 2), .call .receive, .resume 0, .close, .call .receive,
    .call .receive]

theorem channel_fifo_sampleChannel :
    ((channelMachine 1).finish (.opened 1) sampleChannel).received = [1, 2] ∧
    ∀ state ∈ (channelMachine 1).visited (.opened 1) sampleChannel,
      state.channel.values.length ≤ 1 ∧ state.received <+: state.accepted := by
  refine ⟨by decide, fun state visited => ?_⟩
  have fifo := (channel_fifo (by decide) sampleChannel).1 state visited
  exact ⟨fifo.1, fifo.2.1⟩

end Pam.Runtime
