import Gnirehtet.Tcp.LastFin

/-!
# The stream to the device

The device takes a segment that has the number it waits for and drops the others. As long as nothing was
deferred, it has all bytes that were read from the server, in their order, once it has the packets of the
shared buffer.
-/

namespace Gnirehtet.Relay
open Lib Relation

/-- The receiving side of the device: the number it waits for and the bytes it has. -/
structure Receiver where
  next : UInt32
  stream : List UInt8 := []

/-- Only what is in the shared buffer arrives. The payload of a packet starts behind `headers` bytes. -/
def Receiver.receive (headers : Nat) (r : Receiver) : Effect → Receiver
  | .appended packet _ =>
    if packet.tcp.sequenceNumber = r.next then
      { next := r.next + (packet.raw.drop headers).length.toUInt32
        stream := r.stream ++ packet.raw.drop headers }
    else r
  | _ => r

/-- Neither a packet with payload nor bytes of the server. -/
def Effect.IsControl (headers : Nat) (e : Effect) : Prop := ¬ e.IsData headers ∧ e.receivedBytes = []

section Receive
variable {headers : Nat} {r : Receiver}

theorem Receiver.receive_control {e : Effect} (control : e.IsControl headers) : r.receive headers e = r := by
  cases e with
  | appended packet room =>
    have empty : packet.raw.drop headers = [] :=
      List.drop_eq_nil_of_le (Nat.le_of_not_lt fun longer => control.1 ⟨packet, room, rfl, longer⟩)
    rw [receive, empty, List.append_nil]
    simp
  | _ => rfl

theorem Receiver.foldl_control {effects : List Effect} (control : ∀ e ∈ effects, e.IsControl headers) :
    effects.foldl (receive headers) r = r := by
  induction effects with
  | nil => rfl
  | cons e rest ih =>
    rw [List.foldl_cons, receive_control (control e List.mem_cons_self)]
    exact ih fun e member => control e (List.mem_cons_of_mem _ member)

end Receive

namespace TcpConnection

/-- What a call adds to the history when it defers nothing: packets without payload, or the next bytes. -/
inductive Emits (c : TcpConnection) : List Effect → Prop where
  | control (effects : List Effect) (all : ∀ e ∈ effects, e.IsControl c.networkToClient.payloadIndex) : Emits c effects
  | data (packet : IpPacket) (room : Nat) (number : packet.tcp.sequenceNumber = c.tcb.sequenceNumber)
      (established : c.tcb.state = .established) :
      Emits c [.received (packet.raw.drop c.networkToClient.payloadIndex), .appended packet room]

section Emits
variable {c c' : TcpConnection}

theorem HasDeferred.grows (deferred : c.HasDeferred) (grown : c.history <+: c'.history) : c'.HasDeferred := by
  obtain ⟨packet, member⟩ := deferred
  exact ⟨packet, grown.subset member⟩

end Emits

/-! ### The device and the stream -/

/-- The device after the packets that were appended since `c₁`, which is about to send the SYN. -/
def receiver (c₁ c : TcpConnection) : Receiver :=
  (since c₁ c).foldl (Receiver.receive c₁.networkToClient.payloadIndex) { next := c₁.tcb.sequenceNumber + 1 }

/-- The device has all bytes, and waits for the number that the connection uses next. -/
structure Delivers (c₁ c : TcpConnection) : Prop where
  streams : Streams c₁ c
  none : ¬ c.HasDeferred
  received : receiver c₁ c = { next := nextNumber c₁ c, stream := receivedBytes (since c₁ c) }

section Delivers
variable {c₁ c c' : TcpConnection} {event : Event}

theorem Delivers.emits (h : Delivers c₁ c) {effects : List Effect} (history : c'.history = c.history ++ effects)
    (emits : Emits c effects) :
    receiver c₁ c' = { next := nextNumber c₁ c', stream := receivedBytes (since c₁ c') } := by
  have grown := since_append h.streams.grown history
  have next := nextNumber_append h.streams.grown history
  have bytes : receivedBytes (since c₁ c') = receivedBytes (since c₁ c) ++ receivedBytes effects := by
    rw [grown]
    exact List.flatMap_append
  have fold : receiver c₁ c' = effects.foldl (Receiver.receive c₁.networkToClient.payloadIndex)
      { next := nextNumber c₁ c, stream := receivedBytes (since c₁ c) } := by
    rw [receiver, grown, List.foldl_append, ← h.received]
    rfl
  rw [← h.streams.index] at fold
  rw [fold, next, bytes]
  cases emits with
  | control effects all =>
    have nothing : receivedBytes effects = [] := List.flatMap_eq_nil_iff.mpr fun e member => (all e member).2
    rw [Receiver.foldl_control all, nothing, List.append_nil]
    exact congrArg (Receiver.mk · _) (UInt32.add_zero _).symm
  | data packet room number established =>
    have ready : c.tcb.state ≠ .synSent := by
      rw [established]
      exact TcpState.noConfusion
    have unfinished := h.streams.open_unfinished (by rw [established]; rfl)
    have current := unfinished.number h.none
    rw [if_neg ready, UInt32.add_zero] at current
    have inSequence : packet.tcp.sequenceNumber = nextNumber c₁ c := number.trans current
    simp [Receiver.receive, inSequence, receivedBytes, Effect.receivedBytes]

end Delivers

end TcpConnection

namespace Sample

end Sample
end Gnirehtet.Relay
