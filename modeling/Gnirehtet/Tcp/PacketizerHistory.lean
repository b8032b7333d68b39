import Gnirehtet.Relay.Reference
import Gnirehtet.Tcp.Header

/-!
# The uses of a packetizer

A connection keeps one packetizer for all its packets. The packet that a call builds answers the
reference packet with the bytes of that call, and what the packetizer was used for before shows in it
only where `updateHeaders` set a field.
-/

namespace Gnirehtet.Relay
open Lib TcpConnection

/-! ### Updating the TCP header -/

namespace TcpHeader
variable {h : TcpHeader} (long : 20 ≤ h.raw.length)
include long

theorem setChecksum_setSequenceNumber (checksum : UInt16) (n : UInt32) :
    (h.setSequenceNumber n).setChecksum checksum = (h.setChecksum checksum).setSequenceNumber n :=
  congrArg (fun raw => TcpHeader.mk raw { h.data with sequenceNumber := n })
    (overwrite_comm (show 4 + 4 ≤ h.raw.length by omega) (show 16 + 2 ≤ h.raw.length by omega)
      (Or.inl (Nat.le_of_ble_eq_true rfl)))

theorem setChecksum_setAcknowledgementNumber (checksum : UInt16) (n : UInt32) :
    (h.setAcknowledgementNumber n).setChecksum checksum = (h.setChecksum checksum).setAcknowledgementNumber n :=
  congrArg (fun raw => TcpHeader.mk raw { h.data with acknowledgementNumber := n })
    (overwrite_comm (show 8 + 4 ≤ h.raw.length by omega) (show 16 + 2 ≤ h.raw.length by omega)
      (Or.inl (Nat.le_of_ble_eq_true rfl)))

theorem setChecksum_setFlags (checksum flags : UInt16) :
    (h.setFlags flags).setChecksum checksum = (h.setChecksum checksum).setFlags flags := by
  have word : u16At (writeU16 h.raw 16 checksum) 12 = u16At h.raw 12 :=
    u16At_writeU16_other (by omega) (by omega)
  simp only [setFlags, setChecksum, word]
  exact congrArg (fun raw => TcpHeader.mk raw { h.data with flags })
    (overwrite_comm (show 12 + 2 ≤ h.raw.length by omega) (show 16 + 2 ≤ h.raw.length by omega)
      (Or.inl (Nat.le_of_ble_eq_true rfl)))

theorem setChecksum_setWindow (checksum window : UInt16) :
    (h.setWindow window).setChecksum checksum = (h.setChecksum checksum).setWindow window :=
  congrArg (fun raw => TcpHeader.mk raw { h.data with window })
    (overwrite_comm (show 14 + 2 ≤ h.raw.length by omega) (show 16 + 2 ≤ h.raw.length by omega)
      (Or.inl (Nat.le_refl 16)))

end TcpHeader

namespace TcpConnection

/-- The fields that are set lie outside the checksum. -/
theorem erased_editHeader (tcb : Tcb) (flags window : UInt16) {h : TransportHeader}
    (long : h.data.minHeaderLength ≤ h.raw.length) :
    (editHeader tcb flags window h).erased = editHeader tcb flags window h.erased := by
  cases h with
  | tcp h =>
    have long : 20 ≤ h.raw.length := long
    simp only [editHeader, TransportHeader.erased, TransportHeader.tcp.injEq]
    rw [TcpHeader.setChecksum_setWindow (by simpa [TcpHeader.setFlags, TcpHeader.setAcknowledgementNumber,
        TcpHeader.setSequenceNumber] using long),
      TcpHeader.setChecksum_setFlags (by simpa [TcpHeader.setAcknowledgementNumber,
        TcpHeader.setSequenceNumber] using long),
      TcpHeader.setChecksum_setAcknowledgementNumber (by simpa [TcpHeader.setSequenceNumber] using long),
      TcpHeader.setChecksum_setSequenceNumber long]
  | udp h => rfl

theorem parses_editHeader (tcb : Tcb) (flags window : UInt16) {h : TransportHeader} (parses : h.Parses) :
    (editHeader tcb flags window h).Parses := by
  cases h with
  | tcp h =>
    have long : 20 ≤ h.raw.length := parses.least
    have read : TcpHeaderData.ofRaw ((((h.setSequenceNumber tcb.sequenceNumber).setAcknowledgementNumber
        tcb.acknowledgementNumber).setFlags flags).setWindow window).raw = { TcpHeaderData.ofRaw h.raw with
          sequenceNumber := tcb.sequenceNumber
          acknowledgementNumber := tcb.acknowledgementNumber
          flags := flags &&& 0x1FF
          window } := by
      rw [TcpHeader.ofRaw_setWindow _ (by simpa [TcpHeader.setFlags, TcpHeader.setAcknowledgementNumber,
          TcpHeader.setSequenceNumber] using long),
        TcpHeader.ofRaw_setFlags _ (by simpa [TcpHeader.setAcknowledgementNumber,
          TcpHeader.setSequenceNumber] using long),
        TcpHeader.ofRaw_setAcknowledgementNumber _ (by simpa [TcpHeader.setSequenceNumber] using long),
        TcpHeader.ofRaw_setSequenceNumber _ long]
    exact parses.tcp_congr (length_raw_editHeader tcb flags window (.tcp h))
      ⟨by rw [read], by rw [read], by rw [read]⟩ ⟨rfl, rfl, rfl⟩
  | udp h => exact parses

end TcpConnection

namespace Packetizer
variable {p q : Packetizer} {ip : IpHeader} {transport : TransportHeader}

/-- Only the transport header is updated. -/
theorem parts_updateHeaders (p : Packetizer) (tcb : Tcb) (flags window : UInt16) :
    (TcpConnection.updateHeaders p tcb flags window).ipHeader = p.ipHeader ∧
      (TcpConnection.updateHeaders p tcb flags window).transportHeader = editHeader tcb flags window p.transportHeader ∧
      (TcpConnection.updateHeaders p tcb flags window).buffer.drop p.payloadIndex = p.buffer.drop p.payloadIndex := by
  have keep (h : TransportHeader) : (editHeader tcb flags window h).headerLength = h.headerLength := by
    cases h <;> rfl
  exact parts_modifyTransport keep (length_raw_editHeader tcb flags window)

theorem SameHeaders.updateHeaders (same : p.SameHeaders q) (parses : p.Parses) (parses' : q.Parses) (tcb : Tcb)
    (flags window : UInt16) :
    (TcpConnection.updateHeaders p tcb flags window).SameHeaders (TcpConnection.updateHeaders q tcb flags window) := by
  obtain ⟨ip, transport, _⟩ := p.parts_updateHeaders tcb flags window
  obtain ⟨ip', transport', _⟩ := q.parts_updateHeaders tcb flags window
  refine ⟨same.transportIndex, same.payloadIndex, ?_, ?_⟩
  · exact (congrArg IpHeader.erased ip).trans (same.ip.trans (congrArg IpHeader.erased ip').symm)
  · refine (congrArg TransportHeader.erased transport).trans (Eq.trans ?_ (congrArg TransportHeader.erased transport').symm)
    rw [erased_editHeader tcb flags window parses.transport.least,
      erased_editHeader tcb flags window parses'.transport.least, same.transport]

theorem Turned.updateHeaders (turned : p.Turned ip transport) (tcb : Tcb) (flags window : UInt16) :
    (TcpConnection.updateHeaders p tcb flags window).Turned ip transport := by
  obtain ⟨ip', transport', _⟩ := p.parts_updateHeaders tcb flags window
  have data : (TcpConnection.updateHeaders p tcb flags window).transportHeaderData =
      (editHeader tcb flags window p.transportHeader).data := rfl
  have kept : (editHeader tcb flags window p.transportHeader).data.sourcePort = p.transportHeaderData.sourcePort ∧
      (editHeader tcb flags window p.transportHeader).data.destinationPort = p.transportHeaderData.destinationPort ∧
      (editHeader tcb flags window p.transportHeader).data.protocol = p.transportHeaderData.protocol := by
    rw [← data_transportHeader p]
    cases p.transportHeader <;> exact ⟨rfl, rfl, rfl⟩
  refine ⟨⟨?_, ?_, ?_⟩, turned.transportIndex, turned.payloadIndex, turned.version, ?_, turned.source,
    turned.destination, ?_, ?_⟩
  · exact (congrArg IpHeader.Parses ip').mpr turned.parses.ip
  · exact (congrArg TransportHeader.Parses transport').mpr (parses_editHeader tcb flags window turned.parses.transport)
  · rw [data, kept.2.2]
    exact turned.parses.protocol
  · rw [data, kept.2.2, turned.protocol]
  · rw [data, kept.1, turned.sourcePort]
  · rw [data, kept.2.1, turned.destinationPort]

/-! ### Calls -/

/-- What the connections do with their packetizer. -/
inductive Call where
  | packetize (answer : ReadAnswer)
  | packetizeRead (answer : ReadAnswer) (maxChunkSize : Option Nat)
  | packetizeEmptyPayload
  | updateHeaders (tcb : Tcb) (flags window : UInt16)

namespace Call

/-- The packetizer after a call, and the packet that it returns. -/
def perform (p : Packetizer) : Call → Checked (Packetizer × Option IpPacket)
  | packetize answer => do
    match ← p.packetize answer with
    | .ok (p, packet) => return (p, some packet)
    | .error _ => return (p, none)
  | packetizeRead answer maxChunkSize =>
    match p.packetizeRead answer maxChunkSize with
    | .ok out => .ok out
    | .error _ => .ok (p, none)
  | packetizeEmptyPayload => .ok (p.packetizeEmptyPayload.1, some p.packetizeEmptyPayload.2)
  | updateHeaders tcb flags window => .ok (TcpConnection.updateHeaders p tcb flags window, none)

def run (p : Packetizer) (calls : List Call) : Checked Packetizer :=
  calls.foldlM (fun p call => do return (← call.perform p).1) p

def updates : Call → Bool
  | updateHeaders .. => true
  | _ => false

/-- The payload of the packet that a call builds behind headers that leave `room` bytes. -/
def payload (room : Nat) : Call → Option (List UInt8)
  | packetize answer => (recv answer none room).toOption
  | packetizeRead answer maxChunkSize => (recv answer maxChunkSize room).toOption.filter (0 < ·.length)
  | packetizeEmptyPayload => some []
  | updateHeaders .. => none

/-- The payload and its headers fit into the length field of a packet. -/
def Fits (p : Packetizer) (call : Call) : Prop :=
  ∀ bytes, call.payload (maxPacketLength - p.payloadIndex) = some bytes → p.payloadIndex + bytes.length ≤ 65535

end Call

/-- The payload is written behind the headers, and the packet is built around it. -/
def write (p : Packetizer) (bytes : List UInt8) : Packetizer × IpPacket :=
  (p.writeBuffer p.payloadIndex bytes).build bytes.length.toUInt16

theorem writeBuffer_nil (p : Packetizer) (i : Nat) : p.writeBuffer i [] = p := by
  cases p
  simp only [writeBuffer, overwrite_nil]

/-- The packetizer after a call that builds nothing. -/
def Call.edit (p : Packetizer) : Call → Packetizer
  | .updateHeaders tcb flags window => TcpConnection.updateHeaders p tcb flags window
  | _ => p

theorem Call.perform_eq {call : Call} (fits : call.Fits p) :
    call.perform p = .ok (match call.payload (maxPacketLength - p.payloadIndex) with
      | some bytes => ((p.write bytes).1, some (p.write bytes).2)
      | none => (call.edit p, none)) := by
  have length := p.layout.buffer_length
  cases call with
  | packetize answer =>
    unfold Fits at fits
    simp only [perform, Packetizer.packetize, payload, length] at fits ⊢
    cases received : recv answer none (maxPacketLength - p.payloadIndex) with
    | error e => rfl
    | ok bytes =>
      rw [received] at fits
      have small := fits bytes rfl
      dsimp only
      rw [if_pos (by omega)]
      rfl
  | packetizeRead answer maxChunkSize =>
    simp only [perform, Packetizer.packetizeRead, payload, length]
    cases received : recv answer maxChunkSize (maxPacketLength - p.payloadIndex) with
    | error e => rfl
    | ok bytes =>
      by_cases some : 0 < bytes.length
      · simp only [some, Except.toOption, Option.filter_some, decide_true, if_true, write]
      · have nothing : bytes = [] := List.length_eq_zero_iff.mp (by omega)
        simp only [nothing, writeBuffer_nil, List.length_nil, Nat.lt_irrefl, Except.toOption, Option.filter_some,
          decide_false, if_false, Bool.false_eq_true, edit]
  | packetizeEmptyPayload =>
    simp only [perform, payload, write, writeBuffer_nil]
    rfl
  | updateHeaders tcb flags window => rfl

/-! ### Runs of calls -/

section Write
variable {bytes : List UInt8} (fits : p.payloadIndex + bytes.length ≤ 65535)
include fits

theorem write_fits : p.payloadIndex + bytes.length ≤ p.buffer.length ∧
    (p.writeBuffer p.payloadIndex bytes).payloadIndex + bytes.length.toUInt16.toNat < 65536 ∧
    (p.writeBuffer p.payloadIndex bytes).builtPayload bytes.length.toUInt16 = bytes := by
  have length := p.layout.buffer_length
  rw [maxPacketLength] at length
  have small : bytes.length.toUInt16.toNat = bytes.length := UInt16.toNat_ofNat_of_lt' (show _ < 65536 by omega)
  have inside : p.payloadIndex + bytes.length ≤ p.buffer.length := by omega
  refine ⟨inside, ?_, ?_⟩
  · rw [small]
    show p.payloadIndex + bytes.length < 65536
    omega
  · rw [builtPayload, small]
    exact (parts_writeBuffer inside).2.2

/-- A packet answers with its own bytes, and the packetizer keeps its headers. -/
theorem Turned.write [Build] (turned : p.Turned ip transport) :
    AnswersReference ip transport bytes (p.write bytes).2 ∧ (p.write bytes).1.Turned ip transport ∧
      (p.write bytes).1.SameHeaders p := by
  obtain ⟨inside, small, same⟩ := write_fits fits
  have written := turned.writeBuffer inside
  have answers := written.answers small
  rw [same] at answers
  obtain ⟨ip', transport', _⟩ := parts_writeBuffer inside
  have kept : (p.writeBuffer p.payloadIndex bytes).SameHeaders p := ⟨rfl, rfl, by rw [ip'], by rw [transport']⟩
  exact ⟨answers, written.build small, (written.parses.sameHeaders_build small).trans kept⟩

/-- The same bytes behind the same headers make the same packet. -/
theorem SameHeaders.write (same : p.SameHeaders q) (turned : p.Turned ip transport) (turned' : q.Turned ip transport) :
    (p.write bytes).2 = (q.write bytes).2 := by
  have fits' : q.payloadIndex + bytes.length ≤ 65535 := by rw [← same.payloadIndex]; exact fits
  obtain ⟨inside, small, payload⟩ := write_fits fits
  obtain ⟨inside', small', payload'⟩ := write_fits fits'
  obtain ⟨ip, transport, _⟩ := parts_writeBuffer inside
  obtain ⟨ip', transport', _⟩ := parts_writeBuffer inside'
  have headers : (p.writeBuffer p.payloadIndex bytes).SameHeaders (q.writeBuffer q.payloadIndex bytes) :=
    ⟨same.transportIndex, same.payloadIndex, by rw [ip, ip', same.ip], by rw [transport, transport', same.transport]⟩
  exact headers.packet_build (turned.writeBuffer inside).parses (turned'.writeBuffer inside').parses small
    (payload.trans payload'.symm)

end Write

namespace Call

theorem fits_congr (same : p.payloadIndex = q.payloadIndex) (call : Call) : call.Fits p ↔ call.Fits q := by
  rw [Fits, Fits, same]

theorem updates_payload {call : Call} (updates : call.updates = true) (room : Nat) : call.payload room = none := by
  cases call with
  | updateHeaders tcb flags window => rfl
  | _ => cases updates

theorem edit_of_not_updates {call : Call} (other : call.updates = false) (p : Packetizer) : call.edit p = p := by
  cases call with
  | updateHeaders tcb flags window => cases other
  | _ => rfl

/-- After any calls the headers are those of the reference packet with the fields that the updates
among the calls have set. -/
theorem run_turned [Build] {calls : List Call} (turned : p.Turned ip transport) (turned' : q.Turned ip transport)
    (same : p.SameHeaders q) (fits : ∀ call ∈ calls, call.Fits p) :
    ∃ p' q', run p calls = .ok p' ∧ run q (calls.filter updates) = .ok q' ∧ p'.Turned ip transport ∧
      q'.Turned ip transport ∧ p'.SameHeaders q' := by
  induction calls generalizing p q with
  | nil => exact ⟨p, q, rfl, rfl, turned, turned', same⟩
  | cons call rest ih =>
    have fit := fits call List.mem_cons_self
    have later {r : Packetizer} (index : r.payloadIndex = p.payloadIndex) : ∀ call ∈ rest, call.Fits r :=
      fun call member => (fits_congr index call).mpr (fits call (List.mem_cons_of_mem _ member))
    have performed := perform_eq fit
    by_cases updates : call.updates = true
    · rw [updates_payload updates] at performed
      cases call with
      | updateHeaders tcb flags window =>
        obtain ⟨p', q', ran, ran', result⟩ := ih (turned.updateHeaders tcb flags window)
          (turned'.updateHeaders tcb flags window)
          (same.updateHeaders turned.parses turned'.parses tcb flags window) (later rfl)
        exact ⟨p', q', ran, ran', result⟩
      | _ => cases updates
    · have other : call.updates = false := Bool.eq_false_iff.mpr updates
      rw [List.filter_cons_of_neg updates]
      cases produced : call.payload (maxPacketLength - p.payloadIndex) with
      | none =>
        rw [produced, edit_of_not_updates other] at performed
        obtain ⟨p', q', ran, result⟩ := ih turned turned' same (later rfl)
        refine ⟨p', q', ?_, result⟩
        rw [run, List.foldlM_cons, performed]
        exact ran
      | some bytes =>
        rw [produced] at performed
        obtain ⟨_, written, kept⟩ := Turned.write (fit bytes produced) turned
        obtain ⟨p', q', ran, result⟩ := ih written turned' (kept.trans same) (later kept.payloadIndex)
        refine ⟨p', q', ?_, result⟩
        rw [run, List.foldlM_cons, performed]
        exact ran

end Call

/-- The packet that a call builds after any calls answers the reference packet with the bytes of that call, and it is
the packet that would be built had only the updates among those calls been made. -/
theorem answers_after_calls [Build] (reference : List UInt8) (packet : IpPacket) (ip : IpHeader)
    (transport : TransportHeader) (parsed : IpPacket.parse reference = .ok (some packet))
    (headers : packet.headers = .ok (ip, some transport)) (ihl : ip.data.minHeaderLength ≤ ip.headerLength.toNat)
    (offset : transport.data.minHeaderLength ≤ transport.headerLength.toNat) :
    ∃ p, new ip transport = .ok p ∧ ∀ calls : List Call, (∀ call ∈ calls, call.Fits p) →
      ∃ p' q, Call.run p calls = .ok p' ∧ Call.run p (calls.filter Call.updates) = .ok q ∧
        ∀ (call : Call) (bytes : List UInt8), call.Fits p →
          call.payload (maxPacketLength - p.payloadIndex) = some bytes →
          ∃ p'' q' built, call.perform p' = .ok (p'', some built) ∧ AnswersReference ip transport bytes built ∧
            call.perform q = .ok (q', some built) := by
  obtain ⟨ipParses, transportParses, protocol⟩ := headers_parse parsed headers ihl offset
  obtain ⟨p, created⟩ := new_total ipParses transportParses
  have turned := new_turned ipParses transportParses protocol created
  refine ⟨p, created, fun calls fits => ?_⟩
  obtain ⟨p', q, ran, ran', after, after', same⟩ := Call.run_turned turned turned (SameHeaders.refl p) fits
  refine ⟨p', q, ran, ran', fun call bytes fit produced => ?_⟩
  have index : p'.payloadIndex = p.payloadIndex := after.payloadIndex.trans turned.payloadIndex.symm
  have index' : q.payloadIndex = p.payloadIndex := after'.payloadIndex.trans turned.payloadIndex.symm
  have small : p'.payloadIndex + bytes.length ≤ 65535 := by rw [index]; exact fit bytes produced
  have performed := Call.perform_eq ((Call.fits_congr index call).mpr fit)
  have performed' := Call.perform_eq ((Call.fits_congr index' call).mpr fit)
  rw [index, produced] at performed
  rw [index', produced] at performed'
  dsimp only at performed'
  rw [← SameHeaders.write small same after after'] at performed'
  exact ⟨_, _, _, performed, (Turned.write small after).1, performed'⟩

/-- A UDP packet over IPv4 with four bytes of payload. -/
def udpReference : List UInt8 :=
  [0x45, 0, 0, 32, 0, 0, 0, 0, 0, 17, 0, 0, 0x12, 0x34, 0x56, 0x78, 0x42, 0x42, 0x42, 0x42,
    0x04, 0xD2, 0x16, 0x2E, 0, 12, 0, 0, 0x11, 0x22, 0x33, 0x44]

def udpReferencePacket : IpPacket where
  raw := udpReference
  ipHeaderData := .v4 (.ofRaw udpReference)
  transportHeaderData := some (.udp { sourcePort := 1234, destinationPort := 5678 })

theorem fits_empty (p : Packetizer) : Call.packetizeEmptyPayload.Fits p := by
  rintro bytes same
  cases same
  have := p.payloadIndex_lt
  simp only [List.length_nil]
  omega

theorem fits_packetize {p : Packetizer} {datagram : List UInt8} (small : p.payloadIndex + datagram.length ≤ 65535) :
    (Call.packetize (.ok datagram)).Fits p := by
  rintro bytes same
  cases same
  have := List.length_take_le' (maxPacketLength - p.payloadIndex) datagram
  omega

/-- Behind a datagram of four bytes and an empty packet, one of two bytes. -/
theorem answers_after_datagrams : let _ : Build := { overflowChecks := true }
    let ip : IpHeader := .v4 { raw := udpReference.take 20, data := .ofRaw udpReference }
    let transport : TransportHeader :=
      .udp { raw := (udpReference.drop 20).take 8, data := { sourcePort := 1234, destinationPort := 5678 } }
    ∃ p p' p'' built, new ip transport = .ok p ∧
      Call.run p [.packetize (.ok [1, 2, 3, 4]), .packetizeEmptyPayload] = .ok p' ∧
      Call.perform p' (.packetize (.ok [7, 8])) = .ok (p'', some built) ∧ AnswersReference ip transport [7, 8] built := by
  intro _ ip transport
  obtain ⟨p, created, builds⟩ := answers_after_calls udpReference udpReferencePacket ip transport rfl rfl (by decide)
    (by decide)
  have index : p.payloadIndex = 28 := new_payloadIndex created
  have fits : ∀ call ∈ [Call.packetize (.ok [1, 2, 3, 4]), .packetizeEmptyPayload], call.Fits p := by
    intro call member
    obtain rfl | rfl := List.mem_pair.mp member
    · exact fits_packetize (by rw [index]; decide)
    · exact fits_empty p
  obtain ⟨p', _, ran, _, answers⟩ := builds _ fits
  obtain ⟨p'', _, built, performed, answer, _⟩ := answers (.packetize (.ok [7, 8])) [7, 8]
    (fits_packetize (by rw [index]; decide)) (by rw [index]; rfl)
  exact ⟨p, p', p'', built, created, ran, performed, answer⟩

end Packetizer

end Gnirehtet.Relay
