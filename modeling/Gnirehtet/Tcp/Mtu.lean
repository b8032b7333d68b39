import Gnirehtet.Tcp.ControlPacket
import Gnirehtet.Tcp.StateMachine

/-!
# The size of the packets to the device

`maxPayloadLength` leaves room for two headers of 20 bytes. A packet to the device has the IP header of
the first packet of the connection, which is longer with options and in IPv6.
-/

namespace Gnirehtet.Relay
open Lib Relation

namespace TcpConnection
variable {c : TcpConnection}

/-! ### What one read builds -/

/-- The packets of one turn of the receive loop: data, or the FIN or RST that ends it. -/
def builtPackets (c : TcpConnection) (answer : ReadAnswer) : List IpPacket :=
  ((c.receiveOne answer).1.history.drop c.history.length).filterMap Effect.packet

theorem builtPackets_eq {answer : ReadAnswer} {effects : List Effect}
    (history : (c.receiveOne answer).1.history = c.history ++ effects) :
    c.builtPackets answer = effects.filterMap Effect.packet := by
  rw [builtPackets, history, List.drop_left]

theorem reply_size (c : TcpConnection) (flags : UInt16) : ∃ e packet,
    (c.sendEmptyPacketToClient flags).history = c.history ++ [e] ∧ e.packet = some packet ∧
      packet.length.toNat = c.networkToClient.payloadIndex := by
  have small := c.networkToClient.payloadIndex_lt
  have length : (createEmptyResponsePacket c.networkToClient c.tcb flags c.advertisedWindow).2.length.toNat =
      c.networkToClient.payloadIndex := by
    apply Packetizer.toNat_length_build _ 0
    show c.networkToClient.payloadIndex + 0 < 65536
    omega
  unfold sendEmptyPacketToClient
  dsimp only
  split
  · exact ⟨_, _, rfl, rfl, length⟩
  · exact ⟨_, _, rfl, rfl, length⟩

/-- The size of a packet with data. -/
theorem read_size {p : Packetizer} {packet : IpPacket} {answer : ReadAnswer}
    (ok : c.dataHeaders.packetizeRead answer (some c.maxRead) = .ok (p, some packet)) :
    packet.length.toNat = c.networkToClient.payloadIndex + (packet.raw.drop c.networkToClient.payloadIndex).length ∧
      (packet.raw.drop c.networkToClient.payloadIndex).length ≤ maxPayloadLength := by
  have reads := Packetizer.packetizeRead_some ok c.maxRead_lt
  have most : c.maxRead ≤ maxPayloadLength := Nat.min_le_right _ _
  exact ⟨reads.total.trans reads.length, Nat.le_trans reads.atMost most⟩

theorem builtPackets_size {answer : ReadAnswer} {packet : IpPacket} (built : packet ∈ c.builtPackets answer) :
    ∃ n ≤ maxPayloadLength, packet.length.toNat = c.networkToClient.payloadIndex + n := by
  have control (c' : TcpConnection) (flags : UInt16) (quiet : List Effect)
      (index : c'.networkToClient.payloadIndex = c.networkToClient.payloadIndex)
      (silent : quiet.filterMap Effect.packet = []) (before : c'.history = c.history ++ quiet)
      (after : (c.receiveOne answer).1.history = (c'.sendEmptyPacketToClient flags).history) :
      packet.length.toNat = c.networkToClient.payloadIndex + 0 := by
    obtain ⟨e, reply, history, about, size⟩ := c'.reply_size flags
    rw [before, List.append_assoc] at history
    rw [builtPackets_eq (after.trans history), List.filterMap_append, silent, List.nil_append] at built
    simp only [List.filterMap_cons, about, List.filterMap_nil, List.mem_singleton] at built
    rw [built, size, index]
    rfl
  have turn := c.receiveOne_turn answer
  have eq {effects : List Effect} (history : (c.receiveOne answer).1.history = c.history ++ effects) :
      c.builtPackets answer = effects.filterMap Effect.packet := builtPackets_eq history
  generalize c.receiveOne answer = result at turn eq control
  cases turn with
  | sent p packet' buffer ok fits =>
    rw [eq (List.append_assoc _ _ _)] at built
    obtain ⟨total, most⟩ := read_size ok
    exact ⟨_, most, by rw [List.mem_singleton.mp built]; exact total⟩
  | deferred p packet' e ok full =>
    rw [eq (List.append_assoc _ _ _)] at built
    obtain ⟨total, most⟩ := read_size ok
    exact ⟨_, most, by rw [List.mem_singleton.mp built]; exact total⟩
  | ended p ok =>
    exact ⟨0, Nat.zero_le _, control { c with
      networkToClient := p
      tcb.acknowledgementNumber := c.tcb.acknowledgementNumber + 1
      history := c.history ++ [Effect.eof] } (flagFin ||| flagAck) [.eof]
      ((packetizeRead_payloadIndex ok).trans rfl) rfl rfl rfl⟩
  | blocked =>
    rw [eq (List.append_nil _).symm] at built
    cases built
  | failed =>
    exact ⟨0, Nat.zero_le _, control { c with networkToClient := c.dataHeaders } flagRst [] rfl rfl
      (List.append_nil _).symm rfl⟩

/-! ### The headers of a connection -/

theorem step_payloadIndex (c : TcpConnection) (event : Event) :
    (c.step event).networkToClient.payloadIndex = c.networkToClient.payloadIndex := by
  cases event with
  | packet s random =>
    apply handlePacket_invariant (P := fun c' => c'.networkToClient.payloadIndex = c.networkToClient.payloadIndex)
    · intro c' opens
      cases opens <;> rfl
    · intro a b same act
      have call : Call (.packet s random) a b := .device act
      exact (call_grows call).payloadIndex.trans same
  | poll answers =>
    refine acts_invariant (P := fun c' => c'.networkToClient.payloadIndex = c.networkToClient.payloadIndex) ?_
      (pollSelf_acts c answers) rfl
    intro a b same act
    exact (call_grows (.network act)).payloadIndex.trans same
  | shared buffer => rfl

theorem receiveAttempts_payloadIndex {n : Nat} {reads : List ReadAnswer} {attempt : TcpConnection × ReadAnswer}
    (member : attempt ∈ receiveAttempts n c reads) :
    attempt.1.networkToClient.payloadIndex = c.networkToClient.payloadIndex := by
  induction n generalizing c reads with
  | zero => cases member
  | succ n ih =>
    unfold receiveAttempts at member
    split_ifs at member with pending empty
    · cases member
    · cases member
    · have grows := grows_receiveOne c (reads.headD (.error .wouldBlock))
      rcases List.mem_cons.mp member with first | later
      · rw [first]
      · rcases turn : c.receiveOne (reads.headD (.error .wouldBlock)) with ⟨c', _ | progress⟩
        · rw [turn] at later grows
          exact (ih later).trans grows.payloadIndex
        · rw [turn] at later
          cases later

theorem pollReads_payloadIndex {a : PollAnswers} {attempt : TcpConnection × ReadAnswer}
    (member : attempt ∈ c.pollReads a) :
    attempt.1.networkToClient.payloadIndex = c.networkToClient.payloadIndex := by
  unfold pollReads at member
  split at member
  · cases member
  · split at member
    · rename_i c₂ madeProgress sent
      obtain ⟨⟨c₁, m₁⟩, flush, send⟩ := bind_ok sent
      have send : c₁.pollSend a.send m₁ = .ok (c₂, madeProgress) := send
      have flushed : c.flushPendingPacket = .ok c₁ := by
        cases result : c.flushPendingPacket with
        | ok c' =>
          obtain ⟨_, same⟩ := pollFlush_ok result
          rw [same] at flush
          cases flush
          rfl
        | error e =>
          rw [pollFlush_error result] at flush
          cases flush
      have acts : ReflTransGen (NetworkAct a) c c₂ := by
        have free := flushPendingPacket_free flushed
        rcases pollSend_cases c₁ a m₁ free with same | same
        · rw [send] at same
          rw [show c₂ = c₁ from same]
          exact flush_acts a flushed
        · rw [send] at same
          rw [show c₂ = _ from same]
          exact (flush_acts a flushed).trans (processSend_acts c₁ a free).1
      have kept : c₂.networkToClient.payloadIndex = c.networkToClient.payloadIndex :=
        acts_invariant (P := fun c' => c'.networkToClient.payloadIndex = c.networkToClient.payloadIndex)
          (fun _ _ same act => (call_grows (.network act)).payloadIndex.trans same) acts rfl
      split at member
      · exact (receiveAttempts_payloadIndex member).trans kept
      · cases member
    · cases member

/-- Every packet that a read of a run builds has the headers of the connection and at most the payload that
fits behind two headers of 20 bytes. -/
theorem run_size {event : Event} {events : List Event} {attempt : TcpConnection × ReadAnswer} {packet : IpPacket}
    (member : attempt ∈ (run step c events).stepReads event)
    (built : packet ∈ attempt.1.builtPackets attempt.2) :
    ∃ n ≤ maxPayloadLength, packet.length.toNat = c.networkToClient.payloadIndex + n := by
  have index : (run step c events).networkToClient.payloadIndex = c.networkToClient.payloadIndex :=
    run_always (P := fun c' : TcpConnection => c'.networkToClient.payloadIndex = c.networkToClient.payloadIndex)
      (fun s event same => (step_payloadIndex s event).trans same) rfl events
  cases event with
  | poll a =>
    have before := (pollReads_payloadIndex member).trans index
    rw [← before]
    exact builtPackets_size built
  | packet s random => cases member
  | shared buffer => cases member

/-! ### A full packet -/

/-- A read of an idle Established connection that finds bytes builds one packet with them. -/
theorem builtPackets_data {bytes : List UInt8} (nonempty : bytes ≠ []) (window : c.tcb.remainingClientWindow ≠ 0) :
    ∃ packet ∈ c.builtPackets (.ok bytes),
      packet.length.toNat = c.networkToClient.payloadIndex + (bytes.take c.maxRead).length := by
  obtain ⟨p, packet, ok, payload, _⟩ := c.receiveOne_builds nonempty window
  have size := (read_size ok).1
  rw [payload] at size
  refine ⟨packet, ?_, size⟩
  by_cases room : packet.length.toNat ≤ c.buffer.remaining
  · have sends := receiveOne_sends ok room
    rw [builtPackets_eq (show (c.receiveOne (.ok bytes)).1.history = c.history ++ _ by
      rw [show c.receiveOne (.ok bytes) = _ from sends]; exact List.append_assoc _ _ _)]
    exact List.mem_singleton_self packet
  · have defers := receiveOne_defers ok (Nat.lt_of_not_le room)
    rw [builtPackets_eq (show (c.receiveOne (.ok bytes)).1.history = c.history ++ _ by
      rw [show c.receiveOne (.ok bytes) = _ from defers]; exact List.append_assoc _ _ _)]
    exact List.mem_singleton_self packet

theorem pollReads_idle {a : PollAnswers} {answer : ReadAnswer} {rest : List ReadAnswer} (isOpen : c.closed = false)
    (free : c.packetForClientLength = none) (empty : c.clientToNetwork.isEmpty = true)
    (established : c.tcb.state = .established) (window : c.tcb.remainingClientWindow ≠ 0)
    (reads : a.reads = answer :: rest) : (c, answer) ∈ c.pollReads a := by
  have may : c.mayRead = true := by
    have : 0 < c.tcb.remainingClientWindow := UInt16.pos_iff_ne_zero.mpr window
    simp [mayRead, established, free, this, TcpState.isConnected, TcpState.isClosed]
  have flush : c.pollFlush = .ok (c, false) := by simp [pollFlush, free]
  have send : c.pollSend a.send false = .ok (c, false) := by simp [pollSend, mayWrite, empty]
  rw [pollReads, if_neg (by simp [isOpen]), flush, ok_bind]
  simp only [send, isOpen, may, reads]
  rw [if_pos (by decide), readAttempts, maxPacketsPerPoll, receiveAttempts, if_neg (by simp [free]), if_neg window]
  exact List.mem_cons_self

end TcpConnection

namespace Sample

def fullSegment : List UInt8 := List.replicate maxPayloadLength 0

theorem length_fullSegment : fullSegment.length = maxPayloadLength := List.length_replicate

def download : PollAnswers := { reads := [.ok fullSegment] }

/-- After the handshake a full segment gives the longest packet there is. -/
theorem full_packet {buffer : StreamBuffer} {ipHeader : IpHeader} {transportHeader : TransportHeader}
    {c : TcpConnection} (created : TcpConnection.create buffer ipHeader transportHeader = .ok c) :
    ∃ attempt ∈ (run TcpConnection.step c handshake).stepReads (.poll download),
      ∃ packet ∈ attempt.1.builtPackets attempt.2,
        packet.length.toNat = ipHeader.headerLength.toNat + 20 + maxPayloadLength := by
  obtain ⟨buffer', e, _, reached⟩ := run_handshake buffer c.networkToClient
  rw [← TcpConnection.create_eq created] at reached
  have reference := TcpConnection.create_payloadIndex created
  have index : (established buffer' (afterSynAck buffer c.networkToClient) e).networkToClient.payloadIndex =
      ipHeader.headerLength.toNat + 20 := reference
  generalize afterSynAck buffer c.networkToClient = p at reached index
  have window : (established buffer' p e).tcb.remainingClientWindow ≠ 0 := window_established
  have reads : (established buffer' p e, .ok fullSegment) ∈ (established buffer' p e).pollReads download :=
    TcpConnection.pollReads_idle rfl rfl rfl rfl window rfl
  have nonempty : fullSegment ≠ [] := List.ne_nil_of_length_pos (by rw [length_fullSegment]; decide)
  obtain ⟨packet, built, size⟩ := TcpConnection.builtPackets_data nonempty window
  refine ⟨(established buffer' p e, .ok fullSegment), by rw [reached]; exact reads, packet, built, ?_⟩
  rw [size, index, show (established buffer' p e).maxRead = maxPayloadLength from maxRead_established,
    List.take_of_length_le (Nat.le_of_eq length_fullSegment), length_fullSegment]

def rawIpv6Header : List UInt8 :=
  [0x60, 0, 0, 0, 0, 20, 6, 64, 0xFD, 0, 0, 0, 0, 0, 0, 0, 0, 0, 0, 0, 0, 0, 0, 2, 0x20, 1, 0xD, 0xB8, 0, 0, 0, 0,
    0, 0, 0, 0, 0, 0, 0, 1]

def ipv6Header : IpHeader := .v6 { raw := rawIpv6Header, data := .ofRaw rawIpv6Header }

theorem ipv6_created (buffer : StreamBuffer) : ∃ c, TcpConnection.create buffer ipv6Header tcpHeader = .ok c :=
  (TcpConnection.create_isOk _ _ _).mpr (by decide)

end Sample

namespace TcpConnection

/-- The packets of a connection keep to the MTU in every run exactly when its first packet has an IP header
without options. -/
theorem respects_mtu_iff {buffer : StreamBuffer} {ipHeader : IpHeader} {transportHeader : TransportHeader}
    {c : TcpConnection} (created : create buffer ipHeader transportHeader = .ok c) :
    (∀ events event, ∀ attempt ∈ (run step c events).stepReads event,
      ∀ packet ∈ attempt.1.builtPackets attempt.2, packet.length.toNat ≤ mtu) ↔ ipHeader.headerLength.toNat ≤ 20 := by
  have most : maxPayloadLength = 1460 := rfl
  have bound : mtu = 1500 := rfl
  constructor
  · intro every
    obtain ⟨attempt, member, packet, built, size⟩ := Sample.full_packet created
    have small := every Sample.handshake (.poll Sample.download) attempt member packet built
    omega
  · intro plain events event attempt member packet built
    have index := create_payloadIndex created
    obtain ⟨n, small, size⟩ := run_size member built
    omega

theorem respects_mtu_ipv4 : ∃ c, create (.new 4096) Sample.ipHeader Sample.tcpHeader = .ok c ∧
    ∀ events event, ∀ attempt ∈ (run step c events).stepReads event,
      ∀ packet ∈ attempt.1.builtPackets attempt.2, packet.length.toNat ≤ 1500 := by
  obtain ⟨c, created⟩ := Sample.created (.new 4096)
  exact ⟨c, created, (respects_mtu_iff created).mpr (by decide)⟩

/-- A download over IPv6 is sent in packets of 1520 bytes. -/
theorem ipv6_exceeds_mtu : ∃ c, create (.new 4096) Sample.ipv6Header Sample.tcpHeader = .ok c ∧
    ∃ attempt ∈ (run step c Sample.handshake).stepReads (.poll Sample.download),
      ∃ packet ∈ attempt.1.builtPackets attempt.2, packet.length.toNat = 1520 ∧ mtu < 1520 := by
  obtain ⟨c, created⟩ := Sample.ipv6_created (.new 4096)
  obtain ⟨attempt, member, packet, built, size⟩ := Sample.full_packet created
  exact ⟨c, created, attempt, member, packet, built, size, by decide⟩

end TcpConnection

end Gnirehtet.Relay
