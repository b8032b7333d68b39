import Gnirehtet.Tcp.Deferral

/-!
# The window of the device

What the receive loop reads goes to the device at once, so a read may ask for no more than the device's
window has room for. The room left is a difference modulo `2^32`, and a window that is over-run by any
amount counts as full.
-/

namespace Gnirehtet.Relay
open Lib

/-- The numbers that the device has not acknowledged yet. -/
def Tcb.inFlight (t : Tcb) : Nat := (t.sequenceNumber - t.theirAcknowledgementNumber).toNat

theorem Tcb.toNat_remainingClientWindow (t : Tcb) :
    t.remainingClientWindow.toNat = t.clientWindow.toNat - t.inFlight := by
  have window := t.clientWindow.toNat_lt
  have seq := t.sequenceNumber.toNat_lt
  have ack := t.theirAcknowledgementNumber.toNat_lt
  have flight : t.inFlight = (2 ^ 32 - t.theirAcknowledgementNumber.toNat + t.sequenceNumber.toNat) % 2 ^ 32 :=
    UInt32.toNat_sub _ _
  have remaining : (t.theirAcknowledgementNumber + t.clientWindow.toUInt32 - t.sequenceNumber).toNat =
      (2 ^ 32 - t.sequenceNumber.toNat + (t.theirAcknowledgementNumber.toNat + t.clientWindow.toNat) % 2 ^ 32) %
        2 ^ 32 := by
    rw [UInt32.toNat_sub, UInt32.toNat_add, UInt16.toNat_toUInt32]
  unfold remainingClientWindow
  split_ifs with zero
  · rw [zero]
    exact (Nat.zero_sub _).symm
  · dsimp only
    split
    · rename_i inside
      rw [UInt32.le_iff_toNat_le, UInt16.toNat_toUInt32, remaining] at inside
      rw [UInt32.toNat_toUInt16, remaining, flight]
      omega
    · rename_i outside
      rw [UInt32.le_iff_toNat_le, UInt16.toNat_toUInt32, remaining] at outside
      rw [flight]
      show 0 = _
      omega

namespace TcpConnection

/-! ### The reads of a poll -/

/-- The reads that `receiveLoop` makes: the connection before each of them, and the answer of the socket. -/
def receiveAttempts : Nat → TcpConnection → List ReadAnswer → List (TcpConnection × ReadAnswer)
  | 0, _, _ => []
  | n + 1, c, reads =>
    if c.packetForClientLength.isSome then []
    else if c.tcb.remainingClientWindow = 0 then []
    else
      let answer := reads.headD (.error .wouldBlock)
      (c, answer) ::
        match c.receiveOne answer with
        | (c, .again) => receiveAttempts n c reads.tail
        | (_, .leave _) => []

/-- The reads of one `process_receive`. -/
def readAttempts (c : TcpConnection) (reads : List ReadAnswer) : List (TcpConnection × ReadAnswer) :=
  receiveAttempts maxPacketsPerPoll c reads

/-- The loop does what the turns of its reads do, one after the other. -/
theorem receiveLoop_attempts (n : Nat) (c : TcpConnection) (reads : List ReadAnswer) (madeProgress : Bool) :
    (receiveLoop n c reads madeProgress).1 =
      (receiveAttempts n c reads).foldl (fun c attempt => (c.receiveOne attempt.2).1) c := by
  induction n generalizing c reads madeProgress with
  | zero => rfl
  | succ n ih =>
    unfold receiveLoop receiveAttempts
    split_ifs
    · rfl
    · rfl
    · dsimp only
      rw [List.foldl_cons]
      rcases c.receiveOne (reads.headD (.error .wouldBlock)) with ⟨c', _ | progress⟩
      · exact ih c' reads.tail true
      · rfl

theorem receiveAttempts_room {n : Nat} {c : TcpConnection} {reads : List ReadAnswer}
    {attempt : TcpConnection × ReadAnswer} (member : attempt ∈ receiveAttempts n c reads) :
    attempt.1.packetForClientLength = none ∧ attempt.1.tcb.remainingClientWindow ≠ 0 := by
  induction n generalizing c reads with
  | zero => cases member
  | succ n ih =>
    unfold receiveAttempts at member
    split_ifs at member with pending empty
    · cases member
    · cases member
    · rcases List.mem_cons.mp member with first | later
      · rw [first]
        exact ⟨by simpa using pending, empty⟩
      · rcases turn : c.receiveOne (reads.headD (.error .wouldBlock)) with ⟨c', _ | progress⟩
        · rw [turn] at later
          exact ih later
        · rw [turn] at later
          cases later

/-! ### What a read sends -/

/-- The segment of a packet ends inside the window: it starts at the next number to send, and as many
numbers are in flight before it. -/
structure EndsWithin (t : Tcb) (payloadLength : Nat) : Prop where
  atMost : payloadLength ≤ min 1460 (t.clientWindow.toNat - t.inFlight)
  ends : (t.sequenceNumber + payloadLength.toUInt32 - t.theirAcknowledgementNumber).toNat ≤ t.clientWindow.toNat

theorem endsWithin {t : Tcb} {n : Nat} (room : t.remainingClientWindow ≠ 0)
    (atMost : n ≤ min t.remainingClientWindow.toNat maxPayloadLength) : EndsWithin t n := by
  have positive : t.remainingClientWindow.toNat ≠ 0 := fun zero => room (UInt16.toNat.inj zero)
  have window := t.clientWindow.toNat_lt
  have seq := t.sequenceNumber.toNat_lt
  have flight : t.inFlight = (2 ^ 32 - t.theirAcknowledgementNumber.toNat + t.sequenceNumber.toNat) % 2 ^ 32 :=
    UInt32.toNat_sub _ _
  have most : maxPayloadLength = 1460 := rfl
  rw [t.toNat_remainingClientWindow] at positive atMost
  refine ⟨by omega, ?_⟩
  rw [UInt32.toNat_sub, UInt32.toNat_add, Nat.toUInt32, UInt32.toNat_ofNat']
  omega

/-- What one read leads to: `effects` is what the turn of the loop adds to the history. -/
structure KeepsWindow (c : TcpConnection) (effects : List Effect) : Prop where
  nonzero : 0 < c.tcb.clientWindow
  inFlight : c.tcb.inFlight < c.tcb.clientWindow.toNat
  received : ∀ bytes, .received bytes ∈ effects → 1 ≤ bytes.length ∧
    ∃ packet, packet.raw.drop c.networkToClient.payloadIndex = bytes ∧
      ((∃ room, .appended packet room ∈ effects) ∨ .deferred packet ∈ effects)
  segments : ∀ e ∈ effects, ∀ packet, e.packet = some packet →
    EndsWithin c.tcb (packet.raw.drop c.networkToClient.payloadIndex).length ∧
      (c.networkToClient.CarriesTcp → packet.tcp.sequenceNumber = c.tcb.sequenceNumber)

/-- A control packet has no payload. -/
theorem sendEmptyPacketToClient_empty (c : TcpConnection) (flags : UInt16) : ∃ e packet,
    (c.sendEmptyPacketToClient flags).history = c.history ++ [e] ∧ e.packet = some packet ∧
      packet.raw.length = c.networkToClient.payloadIndex ∧
      (c.networkToClient.CarriesTcp → packet.tcp.sequenceNumber = c.tcb.sequenceNumber) := by
  have small := c.networkToClient.payloadIndex_lt
  have length : (createEmptyResponsePacket c.networkToClient c.tcb flags c.advertisedWindow).2.raw.length =
      c.networkToClient.payloadIndex := by
    refine Packetizer.length_raw_build _ 0 ?_
    show c.networkToClient.payloadIndex + 0 < 65536
    omega
  have number (carries : c.networkToClient.CarriesTcp) : (createEmptyResponsePacket c.networkToClient c.tcb flags
      c.advertisedWindow).2.tcp.sequenceNumber = c.tcb.sequenceNumber := by
    rw [(tcp_createEmptyResponsePacket carries flags).1]
    rfl
  unfold sendEmptyPacketToClient
  dsimp only
  split
  · exact ⟨_, _, rfl, rfl, length, number⟩
  · exact ⟨_, _, rfl, rfl, length, number⟩

section Turn
variable {c : TcpConnection} (room : c.tcb.remainingClientWindow ≠ 0)
include room

/-- A turn reads only while the window is open and not used up. -/
theorem window_open : 0 < c.tcb.clientWindow ∧ c.tcb.inFlight < c.tcb.clientWindow.toNat := by
  have positive : c.tcb.remainingClientWindow.toNat ≠ 0 := fun zero => room (UInt16.toNat.inj zero)
  rw [c.tcb.toNat_remainingClientWindow] at positive
  constructor
  · apply UInt16.lt_iff_toNat_lt.mpr
    rw [UInt16.toNat_zero]
    omega
  · omega

/-- A turn that sends no data: nothing is received, and what is sent has no payload. -/
theorem control_keepsWindow (p : Packetizer) (index : p.payloadIndex = c.networkToClient.payloadIndex)
    (carries : c.networkToClient.CarriesTcp → p.CarriesTcp) (quiet : List Effect) (ack : UInt32) (flags : UInt16)
    (silent : ∀ e ∈ quiet, e.packet = none ∧ ∀ bytes, e ≠ .received bytes) :
    ∃ effects, (({ c with
        networkToClient := p
        tcb.acknowledgementNumber := ack
        history := c.history ++ quiet } : TcpConnection).sendEmptyPacketToClient flags).history =
      c.history ++ effects ∧ KeepsWindow c effects := by
  obtain ⟨nonzero, inFlight⟩ := window_open room
  obtain ⟨e, packet, history, about, length, number⟩ := ({ c with
    networkToClient := p
    tcb.acknowledgementNumber := ack
    history := c.history ++ quiet } : TcpConnection).sendEmptyPacketToClient_empty flags
  refine ⟨quiet ++ [e], history.trans (List.append_assoc _ _ _), nonzero, inFlight, ?_, ?_⟩
  · intro bytes member
    rcases List.mem_append.mp member with early | last
    · exact absurd rfl ((silent _ early).2 bytes)
    · rw [← List.mem_singleton.mp last] at about
      cases about
  · intro e' member packet' some
    rcases List.mem_append.mp member with early | last
    · cases (silent _ early).1.symm.trans some
    · rw [List.mem_singleton.mp last] at some
      cases about.symm.trans some
      dsimp only at length
      rw [List.length_drop, length, index, Nat.sub_self]
      exact ⟨endsWithin room (Nat.zero_le _), fun has => number (carries has)⟩

/-- A turn with data sends or defers one packet with what was received. -/
theorem segment_keepsWindow {p : Packetizer} {packet : IpPacket} {answer : ReadAnswer}
    (ok : (updateHeaders c.networkToClient c.tcb (flagAck ||| flagPsh) c.advertisedWindow).packetizeRead answer
      (some (min c.tcb.remainingClientWindow.toNat maxPayloadLength)) = .ok (p, some packet))
    (e : Effect) (about : e.packet = some packet) (kept : (∃ room, e = .appended packet room) ∨ e = .deferred packet) :
    KeepsWindow c [Effect.received (packet.raw.drop p.payloadIndex), e] := by
  obtain ⟨nonzero, inFlight⟩ := window_open room
  have small := c.maxPayload_lt
  have reads := Packetizer.packetizeRead_some ok small
  have index : p.payloadIndex = c.networkToClient.payloadIndex := reads.payloadIndex
  have nonempty : 1 ≤ (packet.raw.drop c.networkToClient.payloadIndex).length := reads.some
  have ends : EndsWithin c.tcb (packet.raw.drop c.networkToClient.payloadIndex).length := endsWithin room reads.atMost
  have number (has : c.networkToClient.CarriesTcp) : packet.tcp.sequenceNumber = c.tcb.sequenceNumber := by
    have updated := carriesTcp_updateHeaders has (flagAck ||| flagPsh)
    rw [(packetizeRead_carries updated ok small).2.2 packet rfl, tcp_updateHeaders has]
    rfl
  refine ⟨nonzero, inFlight, ?_, ?_⟩
  · intro bytes member
    rcases List.mem_cons.mp member with first | second
    · cases first
      rw [index]
      refine ⟨nonempty, packet, rfl, ?_⟩
      rcases kept with ⟨n, same⟩ | same
      · exact .inl ⟨n, by rw [same]; exact List.mem_cons_of_mem _ List.mem_cons_self⟩
      · exact .inr (by rw [same]; exact List.mem_cons_of_mem _ List.mem_cons_self)
    · rw [← List.mem_singleton.mp second] at about
      cases about
  · intro e' member packet' some
    rcases List.mem_cons.mp member with first | second
    · rw [first] at some
      cases some
    · rw [List.mem_singleton.mp second] at some
      cases about.symm.trans some
      exact ⟨ends, number⟩

theorem receiveOne_keepsWindow (answer : ReadAnswer) :
    ∃ effects, (c.receiveOne answer).1.history = c.history ++ effects ∧ KeepsWindow c effects := by
  have updated (has : c.networkToClient.CarriesTcp) := carriesTcp_updateHeaders has (flagAck ||| flagPsh)
  have turn := c.receiveOne_turn answer
  generalize c.receiveOne answer = result at turn ⊢
  cases turn with
  | sent p packet buffer ok fits =>
    exact ⟨_, List.append_assoc _ _ _, segment_keepsWindow room ok _ rfl (.inl ⟨_, rfl⟩)⟩
  | deferred p packet e ok full => exact ⟨_, List.append_assoc _ _ _, segment_keepsWindow room ok _ rfl (.inr rfl)⟩
  | ended p ok =>
    exact control_keepsWindow room p ((packetizeRead_payloadIndex ok).trans rfl)
      (fun has => (packetizeRead_carries (updated has) ok c.maxPayload_lt).1) [.eof] _ (flagFin ||| flagAck) (by
        intro e member
        rw [List.mem_singleton.mp member]
        exact ⟨rfl, fun bytes same => by cases same⟩)
  | blocked =>
    obtain ⟨nonzero, inFlight⟩ := window_open room
    refine ⟨[], (List.append_nil _).symm, nonzero, inFlight, ?_, ?_⟩
    · intro bytes member
      cases member
    · intro e member
      cases member
  | failed =>
    obtain ⟨effects, history, keeps⟩ := control_keepsWindow room (updateHeaders c.networkToClient c.tcb
      (flagAck ||| flagPsh) c.advertisedWindow) rfl updated [] c.tcb.acknowledgementNumber flagRst
      (fun e member => by cases member)
    rw [List.append_nil] at history
    exact ⟨effects, history, keeps⟩

end Turn

theorem processReceive_attempts (c : TcpConnection) (reads : List ReadAnswer) : (c.processReceive reads).1 =
    (c.readAttempts reads).foldl (fun c attempt => (c.receiveOne attempt.2).1) c := by
  rw [readAttempts, ← receiveLoop_attempts _ _ _ false]
  rfl

/-- Every read of a `process_receive` is made with room in the device's window and asks for no more, and
without room nothing is read. -/
theorem receive_keeps_window (c : TcpConnection) (reads : List ReadAnswer) :
    (∀ attempt ∈ c.readAttempts reads, ∃ effects,
      (attempt.1.receiveOne attempt.2).1.history = attempt.1.history ++ effects ∧
        KeepsWindow attempt.1 effects) ∧
      (c.processReceive reads).1 = (c.readAttempts reads).foldl (fun c attempt => (c.receiveOne attempt.2).1) c ∧
      (c.tcb.clientWindow.toNat < c.tcb.inFlight ∨ c.tcb.clientWindow = 0 → c.readAttempts reads = []) := by
  refine ⟨?_, processReceive_attempts c reads, ?_⟩
  · intro attempt member
    exact receiveOne_keepsWindow (receiveAttempts_room member).2 attempt.2
  · intro full
    have none : c.tcb.remainingClientWindow = 0 := by
      apply UInt16.toNat.inj
      rw [c.tcb.toNat_remainingClientWindow, UInt16.toNat_zero]
      rcases full with overrun | zero
      · omega
      · rw [zero, UInt16.toNat_zero]
        omega
    rw [readAttempts, maxPacketsPerPoll, receiveAttempts]
    split_ifs
    · rfl
    · rfl

end TcpConnection

end Gnirehtet.Relay
