import Gnirehtet.Relay.PacketLength
import Gnirehtet.Tcp.PacketizerHistory

/-!
# The UDP checksum

The relay writes 0 as the checksum of every UDP packet to the device. That says "not computed" over
IPv4, and makes the receiver drop the packet over IPv6.
-/

namespace Gnirehtet.Relay
open Lib

/-- A conforming receiver accepts the checksum of a UDP header with its payload. -/
def UdpAcceptable (ip : IpHeaderData) (datagram : List UInt8) : Prop :=
  match ip with
  | .v4 _ => u16At datagram 6 = 0 ∨ fold (wordSum (pseudoHeader 17 datagram.length ip ++ padded datagram)) = 0xFFFF
  | .v6 _ => u16At datagram 6 ≠ 0 ∧ fold (wordSum (pseudoHeader 17 datagram.length ip ++ padded datagram)) = 0xFFFF

theorem udpAcceptable_unset {ip : IpHeaderData} {datagram : List UInt8} (unset : u16At datagram 6 = 0) :
    UdpAcceptable ip datagram ↔ ip.version = 4 := by
  cases ip with
  | v4 d => exact iff_of_true (Or.inl unset) rfl
  | v6 d => exact iff_of_false (fun acceptable => acceptable.1 unset) (by decide : ¬ (6 : UInt8) = 4)

namespace Packetizer
variable {p : Packetizer}

/-- The packetizer of a UDP connection over an IP version. -/
structure CarriesUdp (version : UInt8) (p : Packetizer) : Prop where
  udp : p.transportHeaderData.protocol = .udp
  version : p.ipHeaderData.version = version

section Carries
variable {version : UInt8} (carries : p.CarriesUdp version)
include carries

theorem CarriesUdp.payloadIndex : p.payloadIndex = p.transportIndex + 8 := by
  have udp := carries.udp
  have index := p.layout.payload_index
  cases kind : p.transportHeaderData with
  | tcp d => rw [kind] at udp; cases udp
  | udp d => rw [kind] at index; exact index

theorem CarriesUdp.build {n : UInt16} (fits : p.payloadIndex + n.toNat < 65536) : (p.build n).1.CarriesUdp version := by
  obtain ⟨_, transport, _⟩ := p.parts_build n fits
  have data : (p.build n).1.transportHeaderData = p.transportHeaderData := by
    rw [← data_transportHeader, transport, builtTransportHeader, TransportHeader.data_updateChecksum,
      TransportHeader.data_setPayloadLength, data_transportHeader]
  exact ⟨by rw [data]; exact carries.udp, by rw [version_build]; exact carries.version⟩

/-- Whatever is built, its checksum is 0. -/
theorem CarriesUdp.checksum {n : UInt16} (fits : p.payloadIndex + n.toNat < 65536) :
    u16At ((p.build n).2.raw.drop (p.build n).2.transportIndex) 6 = 0 := by
  obtain ⟨ip, _, _⟩ := p.parts_build n fits
  have eight := carries.payloadIndex
  have udp := carries.udp
  have first := p.length_raw_builtIpHeader n
  have second := p.length_raw_transportHeader
  have index : (p.build n).2.transportIndex = p.transportIndex := by
    rw [p.packet_build n fits, IpPacket.transportIndex, ← ip, data_ipHeader]
    exact (p.build n).1.layout.transport_index.symm
  rw [index, p.raw_build n fits, List.drop_left' first, builtTransportHeader]
  rw [← data_transportHeader] at udp
  cases kind : p.transportHeader with
  | tcp h => rw [kind] at udp; cases udp
  | udp h =>
    rw [kind] at second
    have second : h.raw.length = p.payloadIndex - p.transportIndex := second
    have length : ((h.setPayloadLength n).updateChecksum).raw.length = h.raw.length := by
      rw [UdpHeader.updateChecksum, UdpHeader.setPayloadLength, length_writeU16, length_writeU16]
    show u16At ((h.setPayloadLength n).updateChecksum.raw ++ p.builtPayload n) 6 = 0
    rw [u16At_append_left (by omega), UdpHeader.updateChecksum]
    exact u16At_writeU16 (by rw [UdpHeader.setPayloadLength, length_writeU16]; omega) 0

theorem CarriesUdp.updateHeaders (tcb : Tcb) (flags window : UInt16) :
    (TcpConnection.updateHeaders p tcb flags window).CarriesUdp version := by
  refine ⟨?_, carries.version⟩
  have udp := carries.udp
  rw [← data_transportHeader] at udp
  show (TcpConnection.editHeader tcb flags window p.transportHeader).data.protocol = .udp
  cases kind : p.transportHeader with
  | tcp h => rw [kind] at udp; cases udp
  | udp h => rfl

theorem CarriesUdp.write {bytes : List UInt8} (fits : p.payloadIndex + bytes.length ≤ 65535) :
    (p.write bytes).1.CarriesUdp version ∧
      u16At ((p.write bytes).2.raw.drop (p.write bytes).2.transportIndex) 6 = 0 ∧
      (p.write bytes).2.ipHeaderData.version = version := by
  obtain ⟨_, small, _⟩ := write_fits fits
  have written : (p.writeBuffer p.payloadIndex bytes).CarriesUdp version := ⟨carries.udp, carries.version⟩
  have built := written.build small
  exact ⟨built, written.checksum small, (congrArg IpHeaderData.version (IpPacket.ipHeaderData_computeChecksums _)).trans
    built.version⟩

theorem CarriesUdp.perform {call : Call} (fits : call.Fits p) :
    ∃ p' packet, call.perform p = .ok (p', packet) ∧ p'.CarriesUdp version ∧ p'.payloadIndex = p.payloadIndex ∧
      ∀ built, packet = some built → u16At (built.raw.drop built.transportIndex) 6 = 0 ∧
        built.ipHeaderData.version = version := by
  have performed := Call.perform_eq fits
  cases produced : call.payload (maxPacketLength - p.payloadIndex) with
  | some bytes =>
    rw [produced] at performed
    obtain ⟨written, checksum, kept⟩ := carries.write (fits bytes produced)
    exact ⟨_, _, performed, written, rfl, fun built same => by cases same; exact ⟨checksum, kept⟩⟩
  | none =>
    rw [produced] at performed
    refine ⟨_, _, performed, ?_, ?_, nofun⟩
    · cases call with
      | updateHeaders tcb flags window => exact carries.updateHeaders tcb flags window
      | _ => exact carries
    · cases call <;> rfl

theorem CarriesUdp.run {calls : List Call} (fits : ∀ call ∈ calls, call.Fits p) :
    ∃ p', Call.run p calls = .ok p' ∧ p'.CarriesUdp version ∧ p'.payloadIndex = p.payloadIndex := by
  induction calls generalizing p with
  | nil => exact ⟨p, rfl, carries, rfl⟩
  | cons call rest ih =>
    obtain ⟨p', packet, performed, carries', index, _⟩ := carries.perform (fits call List.mem_cons_self)
    obtain ⟨last, ran, result, index'⟩ := ih carries' fun call member =>
      (Call.fits_congr index call).mpr (fits call (List.mem_cons_of_mem _ member))
    refine ⟨last, ?_, result, index'.trans index⟩
    rw [Call.run, List.foldlM_cons, performed]
    exact ran

end Carries

theorem new_carriesUdp {ip : IpHeader} {h : UdpHeader} (created : new ip (.udp h) = .ok p) :
    p.CarriesUdp ip.data.version := by
  obtain ⟨ipSwap, transportSwap, _⟩ := new_parts created
  have version := (IpHeader.swapped ipSwap).version
  refine ⟨?_, by rw [← data_ipHeader, version]⟩
  obtain ⟨h', _, same⟩ := bind_ok transportSwap
  rw [← data_transportHeader, ← Except.ok.inj same]
  rfl

/-- Whatever the packetizer of a UDP connection was used for, the device accepts the packets that it builds exactly
when the reference packet is one of IPv4. -/
theorem udpAcceptable_iff (ip : IpHeader) (h : UdpHeader) (p : Packetizer) (created : new ip (.udp h) = .ok p)
    (calls : List Call) (fits : ∀ call ∈ calls, call.Fits p) (call : Call) (fit : call.Fits p) :
    ∃ p' p'' packet, Call.run p calls = .ok p' ∧ call.perform p' = .ok (p'', packet) ∧
      ∀ built, packet = some built →
        (UdpAcceptable built.ipHeaderData (built.raw.drop built.transportIndex) ↔ ip.data.version = 4) := by
  obtain ⟨p', ran, carries, index⟩ := (new_carriesUdp created).run fits
  obtain ⟨p'', packet, performed, _, _, checksum⟩ := carries.perform ((Call.fits_congr index call).mpr fit)
  refine ⟨p', p'', packet, ran, performed, fun built same => ?_⟩
  obtain ⟨unset, version⟩ := checksum built same
  rw [udpAcceptable_unset unset, version]

/-- Behind an empty packet, a datagram of two bytes over IPv6. -/
theorem udpAcceptable_ipv6 : ∃ p p' p'' built, new ipv6ReferenceHeader udpReferenceHeader = .ok p ∧
    Call.run p [.packetizeEmptyPayload] = .ok p' ∧
    (Call.packetize (.ok [7, 8])).perform p' = .ok (p'', some built) ∧
    (UdpAcceptable built.ipHeaderData (built.raw.drop built.transportIndex) ↔ ipv6ReferenceHeader.data.version = 4) := by
  obtain ⟨p, created⟩ := ipv6Reference_new
  have index : p.payloadIndex = 48 := new_payloadIndex created
  have fit : (Call.packetize (.ok [7, 8])).Fits p := fits_packetize (by rw [index]; decide)
  have fits : ∀ call ∈ [Call.packetizeEmptyPayload], call.Fits p := by
    intro call member
    rw [List.mem_singleton.mp member]
    exact fits_empty p
  obtain ⟨p', p'', packet, ran, performed, acceptable⟩ := udpAcceptable_iff _ _ p created _ fits _ fit
  obtain ⟨last, ran', _, index'⟩ := (new_carriesUdp created).run fits
  cases ran.symm.trans ran'
  have built := Call.perform_eq ((Call.fits_congr index' _).mpr fit)
  rw [performed, index', index] at built
  cases built
  exact ⟨p, p', _, _, created, ran, performed, acceptable _ rfl⟩

/-- A datagram of three bytes, sent to a device that reaches its server over IPv6. -/
theorem udp_ipv6_refused :
    ∃ p p' built, new ipv6ReferenceHeader udpReferenceHeader = .ok p ∧
      p.packetize (.ok [1, 2, 3]) = .ok (.ok (p', built)) ∧
      ¬ UdpAcceptable built.ipHeaderData (built.raw.drop built.transportIndex) := by
  obtain ⟨p, created⟩ := ipv6Reference_new
  have index : p.payloadIndex = 48 := new_payloadIndex created
  have length := p.layout.buffer_length
  have carries : p.CarriesUdp 6 := new_carriesUdp created
  obtain ⟨_, checksum, version⟩ := carries.write (show p.payloadIndex + [1, 2, 3].length ≤ 65535 by rw [index]; decide)
  have received : recv (.ok [1, 2, 3]) none (p.buffer.length - p.payloadIndex) = .ok [1, 2, 3] := by
    rw [length, index]
    rfl
  refine ⟨p, (p.write [1, 2, 3]).1, (p.write [1, 2, 3]).2, created, ?_, ?_⟩
  · rw [packetize, received]
    dsimp only
    rw [index, if_pos (by decide)]
    rw [write, index]
  · rw [udpAcceptable_unset checksum, version]
    decide

end Packetizer

end Gnirehtet.Relay
