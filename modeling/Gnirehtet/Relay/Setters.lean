import Gnirehtet.Lib.Cache
import Gnirehtet.Relay.Reparse

/-!
# The setters of the headers

Every field of a header is stored twice, in the raw bytes and in the parsed data, and every setter
writes both by hand. Each of the four formats is a cache whose edits are the calls of its setters. An
update of a checksum may panic; it is modelled with its panics.
-/

namespace Gnirehtet.Relay
open Lib

/-! ### IPv4 -/

namespace Ipv4Header

/-- Like `updateChecksum`, with its panics: a header may be shorter than it states. -/
def checkedUpdateChecksum [Build] (h : Ipv4Header) : Checked Ipv4Header := do
  let j := h.data.headerLength.toNat / 2
  let words := List.range 5 ++ (List.range (j - 6)).map (· + 6)
  let sum ← words.foldlM (fun sum i => do addU32 sum (← readU16 h.raw (2 * i)).toUInt32) 0
  let sum ← checkedFoldCarries sum
  return h.setChecksum (~~~sum).toUInt16

inductive Setter where
  | setTotalLength (totalLength : UInt16)
  | setSource (source : UInt32)
  | setDestination (destination : UInt32)
  | swapSourceAndDestination
  | updateChecksum

def perform [Build] : Setter → Ipv4Header → Checked Ipv4Header
  | .setTotalLength totalLength, h => .ok (h.setTotalLength totalLength)
  | .setSource source, h => .ok (h.setSource source)
  | .setDestination destination, h => .ok (h.setDestination destination)
  | .swapSourceAndDestination, h => h.swapSourceAndDestination
  | .updateChecksum, h => h.checkedUpdateChecksum

def named : Setter → Nat → UInt16
  | .setTotalLength _ => wordsIn 2 4
  | .setSource _ => wordsIn 12 16
  | .setDestination _ => wordsIn 16 20
  | .swapSourceAndDestination => wordsIn 12 20
  | .updateChecksum => wordsIn 10 12

/-- Raw bytes with the data that `parse` reads from them. -/
def cache [Build] : Cache where
  State := Ipv4Header
  Edit := Setter
  raw := raw
  Coherent h := Ipv4HeaderData.parse h.raw = .ok h.data
  least := 20
  perform := perform
  named := named
  Plain setter := setter ≠ .updateChecksum

end Ipv4Header

theorem Ipv4HeaderData.ofRaw_setSource {raw : List UInt8} (long : 20 ≤ raw.length) (source : UInt32) :
    ofRaw (writeU32 raw 12 source) = { ofRaw raw with source } := by
  have fits : 12 + 4 ≤ raw.length := by omega
  have byte (i : Nat) (before : i < 12) : byteAt (writeU32 raw 12 source) i = byteAt raw i :=
    byteAt_overwrite_other (by rw [length_beBytes32]; exact fits) (Or.inl before)
  simp only [ofRaw, u32At_writeU32 fits]
  rw [byte 0 (by omega), byte 9 (by omega), u16At_writeU32_other fits (by omega),
    u32At_writeU32_other fits (by omega)]

theorem Ipv4HeaderData.ofRaw_setDestination {raw : List UInt8} (long : 20 ≤ raw.length) (destination : UInt32) :
    ofRaw (writeU32 raw 16 destination) = { ofRaw raw with destination } := by
  have fits : 16 + 4 ≤ raw.length := by omega
  have byte (i : Nat) (before : i < 16) : byteAt (writeU32 raw 16 destination) i = byteAt raw i :=
    byteAt_overwrite_other (by rw [length_beBytes32]; exact fits) (Or.inl before)
  simp only [ofRaw, u32At_writeU32 fits]
  rw [byte 0 (by omega), byte 9 (by omega), u16At_writeU32_other fits (by omega),
    u32At_writeU32_other fits (by omega)]

namespace Ipv4Header
variable {h h' : Ipv4Header}

theorem coherent_iff (long : 20 ≤ h.raw.length) :
    Ipv4HeaderData.parse h.raw = .ok h.data ↔ h.data = .ofRaw h.raw := by
  rw [Ipv4HeaderData.parse_eq, if_pos long, Except.ok.injEq, eq_comm]

theorem checkedUpdateChecksum_ok [Build] (updated : h.checkedUpdateChecksum = .ok h') :
    ∃ checksum, h' = h.setChecksum checksum := by
  obtain ⟨sum, _, updated⟩ := bind_ok updated
  obtain ⟨folded, _, same⟩ := bind_ok updated
  cases same
  exact ⟨_, rfl⟩

theorem swap_ok (swapped : h.swapSourceAndDestination = .ok h') : swapRange h.raw 12 16 4 = .ok h'.raw ∧
    h'.data = { h.data with source := h.data.destination, destination := h.data.source } := by
  obtain ⟨raw, inner, same⟩ := bind_ok swapped
  cases same
  exact ⟨inner, rfl⟩

theorem swap_swap (long : 20 ≤ h.raw.length) :
    ∃ h', h.swapSourceAndDestination = .ok h' ∧ h'.swapSourceAndDestination = .ok h := by
  obtain ⟨raw, swapped⟩ := (swapRange_isOk h.raw 12 16 3).mpr (by omega)
  refine ⟨⟨raw, { h.data with source := h.data.destination, destination := h.data.source }⟩, ?_, ?_⟩
  · rw [swapSourceAndDestination, swapped]
    rfl
  · rw [swapSourceAndDestination, swapRange_swapRange (by omega) swapped]
    rfl

theorem data_perform [Build] {setter : Setter} (long : 20 ≤ h.raw.length) (data : h.data = .ofRaw h.raw)
    (performed : perform setter h = .ok h') : h'.data = .ofRaw h'.raw := by
  cases setter with
  | setTotalLength totalLength =>
    cases performed
    simp [Ipv4Header.setTotalLength, Ipv4HeaderData.ofRaw_setTotalLength long, data]
  | setSource source =>
    cases performed
    simp [Ipv4Header.setSource, Ipv4HeaderData.ofRaw_setSource long, data]
  | setDestination destination =>
    cases performed
    simp [Ipv4Header.setDestination, Ipv4HeaderData.ofRaw_setDestination long, data]
  | swapSourceAndDestination =>
    obtain ⟨inner, data'⟩ := swap_ok performed
    rw [data', data, Ipv4HeaderData.ofRaw_swap inner]
  | updateChecksum =>
    obtain ⟨checksum, rfl⟩ := checkedUpdateChecksum_ok performed
    simp [Ipv4Header.setChecksum, Ipv4HeaderData.ofRaw_setChecksum long, data]

theorem framed_perform [Build] {setter : Setter} (long : 20 ≤ h.raw.length) (performed : perform setter h = .ok h') :
    Framed (named setter) h.raw h'.raw := by
  cases setter with
  | setTotalLength totalLength =>
    cases performed
    exact framed_overwrite rfl rfl rfl (by omega)
  | setSource source =>
    cases performed
    exact framed_overwrite rfl rfl rfl (by omega)
  | setDestination destination =>
    cases performed
    exact framed_overwrite rfl rfl rfl (by omega)
  | swapSourceAndDestination => exact framed_swapRange (swap_ok performed).1 rfl rfl rfl rfl
  | updateChecksum =>
    obtain ⟨checksum, rfl⟩ := checkedUpdateChecksum_ok performed
    exact framed_overwrite rfl rfl rfl (by omega)

theorem sound [Build] : cache.Sound where
  coherent := by
    intro setter h h' long coherent performed
    have long : 20 ≤ h.raw.length := long
    have long' : 20 ≤ h'.raw.length := by
      rw [(framed_perform long performed).length]
      exact long
    exact (coherent_iff long').mpr (data_perform long ((coherent_iff long).mp coherent) performed)
  framed := framed_perform
  returns := by
    intro setter h long plain
    cases setter with
    | updateChecksum => exact absurd rfl plain
    | swapSourceAndDestination =>
      obtain ⟨h', swapped, _⟩ := swap_swap long
      exact ⟨h', swapped⟩
    | _ => exact ⟨_, rfl⟩

end Ipv4Header

/-! ### IPv6 -/

namespace Ipv6HeaderData

theorem ofRaw_setSource {raw : List UInt8} (long : 40 ≤ raw.length) (source : Ipv6Addr) :
    ofRaw (overwrite raw 8 source.1) = { ofRaw raw with source := source.1 } := by
  have length := source.2
  have fits : 8 + source.1.length ≤ raw.length := by omega
  have octets : ((overwrite raw 8 source.1).take 24).drop 8 = source.1 := by
    rw [List.drop_take, show 24 - 8 = source.1.length from length.symm, overwrite_same fits]
  have others : ((overwrite raw 8 source.1).take 40).drop 24 = (raw.take 40).drop 24 := by
    rw [List.drop_take, List.drop_take, drop_overwrite (by omega)]
  simp only [ofRaw, octets, others]
  rw [u16At_overwrite_other fits (by omega), byteAt_overwrite_other fits (by omega),
    byteAt_overwrite_other fits (by omega)]

theorem ofRaw_setDestination {raw : List UInt8} (long : 40 ≤ raw.length) (destination : Ipv6Addr) :
    ofRaw (overwrite raw 24 destination.1) = { ofRaw raw with destination := destination.1 } := by
  have length := destination.2
  have fits : 24 + destination.1.length ≤ raw.length := by omega
  have octets : ((overwrite raw 24 destination.1).take 40).drop 24 = destination.1 := by
    rw [List.drop_take, show 40 - 24 = destination.1.length from length.symm, overwrite_same fits]
  have others : (overwrite raw 24 destination.1).take 24 = raw.take 24 := take_overwrite fits (Nat.le_refl _)
  simp only [ofRaw, octets, others]
  rw [u16At_overwrite_other fits (by omega), byteAt_overwrite_other fits (by omega),
    byteAt_overwrite_other fits (by omega)]

end Ipv6HeaderData

namespace Ipv6Header

inductive Setter where
  | setPayloadLength (payloadLength : UInt16)
  | setSource (source : Ipv6Addr)
  | setDestination (destination : Ipv6Addr)
  | swapSourceAndDestination

def perform : Setter → Ipv6Header → Checked Ipv6Header
  | .setPayloadLength payloadLength, h => .ok (h.setPayloadLength payloadLength)
  | .setSource source, h => .ok (h.setSource source)
  | .setDestination destination, h => .ok (h.setDestination destination)
  | .swapSourceAndDestination, h => h.swapSourceAndDestination

def named : Setter → Nat → UInt16
  | .setPayloadLength _ => wordsIn 4 6
  | .setSource _ => wordsIn 8 24
  | .setDestination _ => wordsIn 24 40
  | .swapSourceAndDestination => wordsIn 8 40

def cache : Cache where
  State := Ipv6Header
  Edit := Setter
  raw := raw
  Coherent h := Ipv6HeaderData.parse h.raw = .ok h.data
  least := 40
  perform := perform
  named := named
  Plain _ := True

variable {h h' : Ipv6Header}

theorem coherent_iff (long : 40 ≤ h.raw.length) :
    Ipv6HeaderData.parse h.raw = .ok h.data ↔ h.data = .ofRaw h.raw := by
  rw [Ipv6HeaderData.parse_eq, if_pos long, Except.ok.injEq, eq_comm]

theorem swap_ok (swapped : h.swapSourceAndDestination = .ok h') : swapRange h.raw 8 24 16 = .ok h'.raw ∧
    h'.data = { h.data with source := h.data.destination, destination := h.data.source } := by
  obtain ⟨raw, inner, same⟩ := bind_ok swapped
  cases same
  exact ⟨inner, rfl⟩

theorem swap_swap (long : 40 ≤ h.raw.length) :
    ∃ h', h.swapSourceAndDestination = .ok h' ∧ h'.swapSourceAndDestination = .ok h := by
  obtain ⟨raw, swapped⟩ := (swapRange_isOk h.raw 8 24 15).mpr (by omega)
  refine ⟨⟨raw, { h.data with source := h.data.destination, destination := h.data.source }⟩, ?_, ?_⟩
  · rw [swapSourceAndDestination, swapped]
    rfl
  · rw [swapSourceAndDestination, swapRange_swapRange (by omega) swapped]
    rfl

theorem data_perform {setter : Setter} (long : 40 ≤ h.raw.length) (data : h.data = .ofRaw h.raw)
    (performed : perform setter h = .ok h') : h'.data = .ofRaw h'.raw := by
  cases setter with
  | setPayloadLength payloadLength =>
    cases performed
    simp [Ipv6Header.setPayloadLength, Ipv6HeaderData.ofRaw_setPayloadLength long, data]
  | setSource source =>
    cases performed
    simp [Ipv6Header.setSource, Ipv6HeaderData.ofRaw_setSource long, data]
  | setDestination destination =>
    cases performed
    simp [Ipv6Header.setDestination, Ipv6HeaderData.ofRaw_setDestination long, data]
  | swapSourceAndDestination =>
    obtain ⟨inner, data'⟩ := swap_ok performed
    rw [data', data, Ipv6HeaderData.ofRaw_swap long inner]

theorem framed_perform {setter : Setter} (long : 40 ≤ h.raw.length) (performed : perform setter h = .ok h') :
    Framed (named setter) h.raw h'.raw := by
  cases setter with
  | setPayloadLength payloadLength =>
    cases performed
    exact framed_overwrite rfl rfl rfl (by omega)
  | setSource source =>
    cases performed
    exact framed_overwrite rfl rfl (by rw [source.2]) (by omega)
  | setDestination destination =>
    cases performed
    exact framed_overwrite rfl rfl (by rw [destination.2]) (by omega)
  | swapSourceAndDestination => exact framed_swapRange (swap_ok performed).1 rfl rfl rfl rfl

theorem sound : cache.Sound where
  coherent := by
    intro setter h h' long coherent performed
    have long : 40 ≤ h.raw.length := long
    have long' : 40 ≤ h'.raw.length := by
      rw [(framed_perform long performed).length]
      exact long
    exact (coherent_iff long').mpr (data_perform long ((coherent_iff long).mp coherent) performed)
  framed := framed_perform
  returns := by
    intro setter h long _
    cases setter with
    | swapSourceAndDestination =>
      obtain ⟨h', swapped, _⟩ := swap_swap long
      exact ⟨h', swapped⟩
    | _ => exact ⟨_, rfl⟩

end Ipv6Header

/-! ### TCP -/

theorem TcpHeaderData.ofRaw_swap {raw out : List UInt8} (swapped : swapRange raw 0 2 2 = .ok out) : ofRaw out =
    { ofRaw raw with sourcePort := (ofRaw raw).destinationPort, destinationPort := (ofRaw raw).sourcePort } := by
  have after (i : Nat) (h : 4 ≤ i) : byteAt out i = byteAt raw i :=
    byteAt_swapRange_after swapped (by omega) (by omega)
  have word (i : Nat) (h : 4 ≤ i) : u16At out i = u16At raw i := by
    rw [u16At, u16At, after i h, after (i + 1) (by omega)]
  simp only [ofRaw, u32At, (u16At_swapPorts swapped).1, (u16At_swapPorts swapped).2]
  rw [word 4 (by omega), word (4 + 2) (by omega), word 8 (by omega), word (8 + 2) (by omega), word 12 (by omega),
    word 14 (by omega)]

namespace TcpHeader

inductive Setter where
  | setSourcePort (sourcePort : UInt16)
  | setDestinationPort (destinationPort : UInt16)
  | swapSourceAndDestination
  | setSequenceNumber (sequenceNumber : UInt32)
  | setAcknowledgementNumber (acknowledgementNumber : UInt32)
  | setFlags (flags : UInt16) (nine : flags.toNat < 512)
  | setWindow (window : UInt16)
  | shrinkOptions
  | updateChecksum (ip : IpHeaderData) (payload : List UInt8)

def perform [Build] : Setter → TcpHeader → Checked TcpHeader
  | .setSourcePort sourcePort, h => .ok (h.setSourcePort sourcePort)
  | .setDestinationPort destinationPort, h => .ok (h.setDestinationPort destinationPort)
  | .swapSourceAndDestination, h => h.swapSourceAndDestination
  | .setSequenceNumber sequenceNumber, h => .ok (h.setSequenceNumber sequenceNumber)
  | .setAcknowledgementNumber acknowledgementNumber, h => .ok (h.setAcknowledgementNumber acknowledgementNumber)
  | .setFlags flags _, h => .ok (h.setFlags flags)
  | .setWindow window, h => .ok (h.setWindow window)
  | .shrinkOptions, h => .ok h.shrinkOptions
  | .updateChecksum ip payload, h => h.checkedUpdateChecksum ip payload

/-- The flags share their word with the data offset and three reserved bits. -/
def named : Setter → Nat → UInt16
  | .setSourcePort _ => wordsIn 0 2
  | .setDestinationPort _ => wordsIn 2 4
  | .swapSourceAndDestination => wordsIn 0 4
  | .setSequenceNumber _ => wordsIn 4 8
  | .setAcknowledgementNumber _ => wordsIn 8 12
  | .setFlags _ _ => bitsAt 12 0x1FF
  | .setWindow _ => wordsIn 14 16
  | .shrinkOptions => bitsAt 12 0xF000
  | .updateChecksum _ _ => wordsIn 16 18

def cache [Build] : Cache where
  State := TcpHeader
  Edit := Setter
  raw := raw
  Coherent h := TcpHeaderData.parse h.raw = .ok h.data
  least := 20
  perform := perform
  named := named
  Plain setter := ∀ ip payload, setter ≠ .updateChecksum ip payload

variable {h h' : TcpHeader}

theorem coherent_iff (long : 20 ≤ h.raw.length) :
    TcpHeaderData.parse h.raw = .ok h.data ↔ h.data = .ofRaw h.raw := by
  rw [TcpHeaderData.parse_eq, if_pos (by omega), Except.ok.injEq, eq_comm]

theorem swap_ok (swapped : h.swapSourceAndDestination = .ok h') : swapRange h.raw 0 2 2 = .ok h'.raw ∧
    h'.data = { h.data with sourcePort := h.data.destinationPort, destinationPort := h.data.sourcePort } := by
  obtain ⟨raw, inner, same⟩ := bind_ok swapped
  cases same
  exact ⟨inner, rfl⟩

theorem swap_swap (long : 20 ≤ h.raw.length) :
    ∃ h', h.swapSourceAndDestination = .ok h' ∧ h'.swapSourceAndDestination = .ok h := by
  obtain ⟨raw, swapped⟩ := (swapRange_isOk h.raw 0 2 1).mpr (by omega)
  refine ⟨⟨raw, { h.data with sourcePort := h.data.destinationPort, destinationPort := h.data.sourcePort }⟩, ?_, ?_⟩
  · rw [swapSourceAndDestination, swapped]
    rfl
  · rw [swapSourceAndDestination, swapRange_swapRange (by omega) swapped]
    rfl

/-- An update that returns has set the checksum twice, first to zero. -/
theorem checkedFinishChecksum_ok [Build] {pseudo : UInt32} {payloadLength : UInt16} {payload : List UInt8}
    (finished : h.checkedFinishChecksum pseudo payloadLength payload = .ok h') :
    ∃ checksum, h' = (h.setChecksum 0).setChecksum checksum := by
  obtain ⟨_, _, finished⟩ := bind_ok finished
  obtain ⟨_, _, finished⟩ := bind_ok finished
  obtain ⟨_, _, finished⟩ := bind_ok finished
  obtain ⟨sum, _, same⟩ := bind_ok finished
  cases same
  exact ⟨_, rfl⟩

theorem checkedUpdateChecksum_ok [Build] {ip : IpHeaderData} {payload : List UInt8}
    (updated : h.checkedUpdateChecksum ip payload = .ok h') :
    ∃ checksum, h' = (h.setChecksum 0).setChecksum checksum := by
  cases ip with
  | v4 ip =>
    obtain ⟨_, _, updated⟩ := bind_ok updated
    obtain ⟨_, _, updated⟩ := bind_ok updated
    obtain ⟨_, _, finished⟩ := bind_ok updated
    exact checkedFinishChecksum_ok finished
  | v6 ip =>
    obtain ⟨_, _, updated⟩ := bind_ok updated
    obtain ⟨_, _, finished⟩ := bind_ok updated
    exact checkedFinishChecksum_ok finished

theorem ofRaw_setChecksum (long : 20 ≤ h.raw.length) (checksum : UInt16) :
    TcpHeaderData.ofRaw (h.setChecksum checksum).raw = .ofRaw h.raw :=
  TcpHeaderData.ofRaw_congr fun _ _ => byteAt_writeU16_other (by omega) (by omega)

theorem nine_bits {flags : UInt16} (nine : flags.toNat < 512) : flags &&& 0x1FF = flags := by
  apply UInt16.toNat.inj
  have low : (flags &&& 0x1FF).toNat = flags.toNat % 512 := Nat.and_two_pow_sub_one_eq_mod flags.toNat 9
  rw [low, Nat.mod_eq_of_lt nine]

theorem keeps_flags (x flags : UInt16) :
    (x &&& 0xFE00 ||| flags &&& 0x1FF) &&& ~~~(0x1FF : UInt16) = x &&& ~~~(0x1FF : UInt16) := by
  rw [show ~~~(0x1FF : UInt16) = 0xFE00 by decide, u16_or_and, UInt16.and_assoc, UInt16.and_assoc, UInt16.and_self,
    show (0x1FF : UInt16) &&& 0xFE00 = 0 by decide, UInt16.and_zero, UInt16.or_zero]

theorem keeps_shrunk (x : UInt16) :
    (x &&& 0x0FFF ||| (5 : UInt8).toUInt16 <<< (12 : UInt16)) &&& ~~~(0xF000 : UInt16) =
      x &&& ~~~(0xF000 : UInt16) := by
  rw [show ~~~(0xF000 : UInt16) = 0x0FFF by decide, u16_or_and, UInt16.and_assoc, UInt16.and_self,
    show (5 : UInt8).toUInt16 <<< (12 : UInt16) &&& 0x0FFF = 0 by decide, UInt16.or_zero]

theorem data_perform [Build] {setter : Setter} (long : 20 ≤ h.raw.length) (data : h.data = .ofRaw h.raw)
    (performed : perform setter h = .ok h') : h'.data = .ofRaw h'.raw := by
  cases setter with
  | setSourcePort sourcePort =>
    cases performed
    rw [ofRaw_setSourcePort h long, ← data]
    rfl
  | setDestinationPort destinationPort =>
    cases performed
    rw [ofRaw_setDestinationPort h long, ← data]
    rfl
  | swapSourceAndDestination =>
    obtain ⟨inner, data'⟩ := swap_ok performed
    rw [data', data, TcpHeaderData.ofRaw_swap inner]
  | setSequenceNumber sequenceNumber =>
    cases performed
    rw [ofRaw_setSequenceNumber h long, ← data]
    rfl
  | setAcknowledgementNumber acknowledgementNumber =>
    cases performed
    rw [ofRaw_setAcknowledgementNumber h long, ← data]
    rfl
  | setFlags flags nine =>
    cases performed
    rw [ofRaw_setFlags h long, ← data, nine_bits nine]
    rfl
  | setWindow window =>
    cases performed
    rw [ofRaw_setWindow h long, ← data]
    rfl
  | shrinkOptions =>
    cases performed
    rw [ofRaw_shrinkOptions h long, ← data]
    rfl
  | updateChecksum ip payload =>
    obtain ⟨checksum, rfl⟩ := checkedUpdateChecksum_ok performed
    have zeroed : 20 ≤ (h.setChecksum 0).raw.length := Nat.le_trans long (Nat.le_of_eq (length_writeU16 ..).symm)
    rw [ofRaw_setChecksum zeroed, ofRaw_setChecksum long, ← data]
    rfl

theorem framed_perform [Build] {setter : Setter} (long : 20 ≤ h.raw.length) (performed : perform setter h = .ok h') :
    Framed (named setter) h.raw h'.raw := by
  cases setter with
  | setSourcePort sourcePort =>
    cases performed
    exact framed_overwrite rfl rfl rfl (by omega)
  | setDestinationPort destinationPort =>
    cases performed
    exact framed_overwrite rfl rfl rfl (by omega)
  | swapSourceAndDestination => exact framed_swapRange (swap_ok performed).1 rfl rfl rfl rfl
  | setSequenceNumber sequenceNumber =>
    cases performed
    exact framed_overwrite rfl rfl rfl (by omega)
  | setAcknowledgementNumber acknowledgementNumber =>
    cases performed
    exact framed_overwrite rfl rfl rfl (by omega)
  | setFlags flags nine =>
    cases performed
    exact framed_bits (by omega) rfl (keeps_flags ..)
  | setWindow window =>
    cases performed
    exact framed_overwrite rfl rfl rfl (by omega)
  | shrinkOptions =>
    cases performed
    exact framed_bits (by omega) rfl (keeps_shrunk _)
  | updateChecksum ip payload =>
    obtain ⟨checksum, rfl⟩ := checkedUpdateChecksum_ok performed
    have again : ((h.setChecksum 0).setChecksum checksum).raw = (h.setChecksum checksum).raw :=
      overwrite_again rfl (by rw [length_beBytes16]; omega)
    rw [again]
    exact framed_overwrite rfl rfl rfl (by omega)

theorem sound [Build] : cache.Sound where
  coherent := by
    intro setter h h' long coherent performed
    have long : 20 ≤ h.raw.length := long
    have long' : 20 ≤ h'.raw.length := by
      rw [(framed_perform long performed).length]
      exact long
    exact (coherent_iff long').mpr (data_perform long ((coherent_iff long).mp coherent) performed)
  framed := framed_perform
  returns := by
    intro setter h long plain
    have long : 20 ≤ h.raw.length := long
    cases setter with
    | updateChecksum ip payload => exact absurd rfl (plain ip payload)
    | swapSourceAndDestination =>
      obtain ⟨h', swapped, _⟩ := swap_swap long
      exact ⟨h', swapped⟩
    | _ => exact ⟨_, rfl⟩

end TcpHeader

/-! ### UDP -/

namespace UdpHeader

/-- Like `setPayloadLength`, with its addition checked. -/
def checkedSetPayloadLength [Build] (h : UdpHeader) (payloadLength : UInt16) : Checked UdpHeader := do
  let totalLength ← addU16 udpHeaderLength.toUInt16 payloadLength
  return { h with raw := writeU16 h.raw 4 totalLength }

inductive Setter where
  | setSourcePort (sourcePort : UInt16)
  | setDestinationPort (destinationPort : UInt16)
  | swapSourceAndDestination
  | setPayloadLength (payloadLength : UInt16)
  | updateChecksum

def perform [Build] : Setter → UdpHeader → Checked UdpHeader
  | .setSourcePort sourcePort, h => .ok (h.setSourcePort sourcePort)
  | .setDestinationPort destinationPort, h => .ok (h.setDestinationPort destinationPort)
  | .swapSourceAndDestination, h => h.swapSourceAndDestination
  | .setPayloadLength payloadLength, h => h.checkedSetPayloadLength payloadLength
  | .updateChecksum, h => .ok h.updateChecksum

def named : Setter → Nat → UInt16
  | .setSourcePort _ => wordsIn 0 2
  | .setDestinationPort _ => wordsIn 2 4
  | .swapSourceAndDestination => wordsIn 0 4
  | .setPayloadLength _ => wordsIn 4 6
  | .updateChecksum => wordsIn 6 8

def cache [Build] : Cache where
  State := UdpHeader
  Edit := Setter
  raw := raw
  Coherent h := UdpHeaderData.parse h.raw = .ok h.data
  least := 8
  perform := perform
  named := named
  Plain setter := ∀ payloadLength, setter = .setPayloadLength payloadLength → payloadLength.toNat < 65528

variable {h h' : UdpHeader}

theorem coherent_iff (long : 8 ≤ h.raw.length) :
    UdpHeaderData.parse h.raw = .ok h.data ↔ h.data = .ofRaw h.raw := by
  rw [UdpHeaderData.parse_eq, if_pos (by omega), Except.ok.injEq, eq_comm]

theorem checkedSetPayloadLength_ok [Build] {payloadLength : UInt16}
    (set : h.checkedSetPayloadLength payloadLength = .ok h') : h' = h.setPayloadLength payloadLength := by
  obtain ⟨totalLength, added, same⟩ := bind_ok set
  cases same
  unfold addU16 at added
  split_ifs at added <;> cases added <;> rfl

theorem swap_ok (swapped : h.swapSourceAndDestination = .ok h') : swapRange h.raw 0 2 2 = .ok h'.raw ∧
    h'.data = { sourcePort := h.data.destinationPort, destinationPort := h.data.sourcePort } := by
  obtain ⟨raw, inner, same⟩ := bind_ok swapped
  cases same
  exact ⟨inner, rfl⟩

theorem swap_swap (long : 8 ≤ h.raw.length) :
    ∃ h', h.swapSourceAndDestination = .ok h' ∧ h'.swapSourceAndDestination = .ok h := by
  obtain ⟨raw, swapped⟩ := (swapRange_isOk h.raw 0 2 1).mpr (by omega)
  refine ⟨⟨raw, { sourcePort := h.data.destinationPort, destinationPort := h.data.sourcePort }⟩, ?_, ?_⟩
  · rw [swapSourceAndDestination, swapped]
    rfl
  · rw [swapSourceAndDestination, swapRange_swapRange (by omega) swapped]
    rfl

/-- The length and the checksum are not kept in the data. -/
theorem ofRaw_behind {i : Nat} (behind : 4 ≤ i) (fits : i + 2 ≤ h.raw.length) (v : UInt16) :
    UdpHeaderData.ofRaw (writeU16 h.raw i v) = .ofRaw h.raw := by
  rw [UdpHeaderData.ofRaw, UdpHeaderData.ofRaw, u16At_writeU16_other fits (by omega),
    u16At_writeU16_other fits (by omega)]

theorem data_perform [Build] {setter : Setter} (long : 8 ≤ h.raw.length) (data : h.data = .ofRaw h.raw)
    (performed : perform setter h = .ok h') : h'.data = .ofRaw h'.raw := by
  cases setter with
  | setSourcePort sourcePort =>
    cases performed
    simp only [setSourcePort, UdpHeaderData.ofRaw, data]
    rw [u16At_writeU16 (by omega), u16At_writeU16_other (by omega) (by omega)]
  | setDestinationPort destinationPort =>
    cases performed
    simp only [setDestinationPort, UdpHeaderData.ofRaw, data]
    rw [u16At_writeU16 (by omega), u16At_writeU16_other (by omega) (by omega)]
  | swapSourceAndDestination =>
    obtain ⟨inner, data'⟩ := swap_ok performed
    rw [data', data, UdpHeaderData.ofRaw, UdpHeaderData.ofRaw, (u16At_swapPorts inner).1, (u16At_swapPorts inner).2]
  | setPayloadLength payloadLength =>
    have same := checkedSetPayloadLength_ok performed
    subst same
    exact data.trans (ofRaw_behind (by omega) (by omega) _).symm
  | updateChecksum =>
    cases performed
    exact data.trans (ofRaw_behind (by omega) (by omega) _).symm

theorem framed_perform [Build] {setter : Setter} (long : 8 ≤ h.raw.length) (performed : perform setter h = .ok h') :
    Framed (named setter) h.raw h'.raw := by
  cases setter with
  | setSourcePort sourcePort =>
    cases performed
    exact framed_overwrite rfl rfl rfl (by omega)
  | setDestinationPort destinationPort =>
    cases performed
    exact framed_overwrite rfl rfl rfl (by omega)
  | swapSourceAndDestination => exact framed_swapRange (swap_ok performed).1 rfl rfl rfl rfl
  | setPayloadLength payloadLength =>
    have same := checkedSetPayloadLength_ok performed
    subst same
    exact framed_overwrite rfl rfl rfl (by omega)
  | updateChecksum =>
    cases performed
    exact framed_overwrite rfl rfl rfl (by omega)

theorem sound [Build] : cache.Sound where
  coherent := by
    intro setter h h' long coherent performed
    have long : 8 ≤ h.raw.length := long
    have long' : 8 ≤ h'.raw.length := by
      rw [(framed_perform long performed).length]
      exact long
    exact (coherent_iff long').mpr (data_perform long ((coherent_iff long).mp coherent) performed)
  framed := framed_perform
  returns := by
    intro setter h long plain
    have long : 8 ≤ h.raw.length := long
    cases setter with
    | setPayloadLength payloadLength =>
      have small := plain payloadLength rfl
      have added := (addU16_ok (a := udpHeaderLength.toUInt16) (b := payloadLength) (by
        rw [show udpHeaderLength.toUInt16.toNat = 8 from rfl]
        omega)).1
      refine ⟨h.setPayloadLength payloadLength, ?_⟩
      show (addU16 udpHeaderLength.toUInt16 payloadLength >>= _) = _
      rw [added]
      rfl
    | swapSourceAndDestination =>
      obtain ⟨h', swapped, _⟩ := swap_swap long
      exact ⟨h', swapped⟩
    | _ => exact ⟨_, rfl⟩

end UdpHeader

/-! ### All four -/

inductive Format where
  | ipv4
  | ipv6
  | tcp
  | udp
  deriving DecidableEq, Repr

namespace Format

section Formats
variable [Build]

def cache : Format → Cache
  | ipv4 => Ipv4Header.cache
  | ipv6 => Ipv6Header.cache
  | tcp => TcpHeader.cache
  | udp => UdpHeader.cache

/-- The call of `swap_source_and_destination`. -/
def swap : (format : Format) → format.cache.Edit
  | ipv4 => Ipv4Header.Setter.swapSourceAndDestination
  | ipv6 => Ipv6Header.Setter.swapSourceAndDestination
  | tcp => TcpHeader.Setter.swapSourceAndDestination
  | udp => UdpHeader.Setter.swapSourceAndDestination

theorem sound (format : Format) : format.cache.Sound := by
  cases format with
  | ipv4 => exact Ipv4Header.sound
  | ipv6 => exact Ipv6Header.sound
  | tcp => exact TcpHeader.sound
  | udp => exact UdpHeader.sound

theorem swap_swap (format : Format) {h : format.cache.State}
    (enough : format.cache.least ≤ (format.cache.raw h).length) :
    ∃ h', format.cache.perform format.swap h = .ok h' ∧ format.cache.perform format.swap h' = .ok h := by
  cases format with
  | ipv4 => exact Ipv4Header.swap_swap enough
  | ipv6 => exact Ipv6Header.swap_swap enough
  | tcp => exact TcpHeader.swap_swap enough
  | udp => exact UdpHeader.swap_swap enough

/-- Every sequence of calls that returns leaves the data of a header equal to what is parsed from its
bytes, and the bits of which no call speaks as they were. -/
theorem setters_coherent (format : Format) {h : format.cache.State}
    (enough : format.cache.least ≤ (format.cache.raw h).length) (parsed : format.cache.Coherent h) :
    (∀ setters h', format.cache.run setters h = .ok h' →
      format.cache.Coherent h' ∧ Framed (format.cache.namedBy setters) (format.cache.raw h) (format.cache.raw h') ∧
        ∀ i, format.cache.namedBy setters (i / 2) = 0 →
          byteAt (format.cache.raw h') i = byteAt (format.cache.raw h) i) ∧
      (∀ setters, (∀ setter ∈ setters, format.cache.Plain setter) → ∃ h', format.cache.run setters h = .ok h') ∧
      format.cache.run [format.swap, format.swap] h = .ok h := by
  refine ⟨?_, ?_, ?_⟩
  · intro setters h' ran
    obtain ⟨coherent, framed⟩ := format.sound.run enough parsed ran
    exact ⟨coherent, framed, fun i free => framed.byteAt_eq free⟩
  · intro setters plain
    exact format.sound.run_returns enough plain
  · obtain ⟨h', swapped, back⟩ := format.swap_swap enough
    rw [Cache.run, List.foldlM_cons, swapped, ok_bind, List.foldlM_cons, back]
    rfl

end Formats

/-- A header with its reserved bits set, a data offset of 6 words and no flags. -/
def reservedHeader : TcpHeader where
  raw := [0x12, 0x34, 0x56, 0x78, 0, 0, 1, 0x11, 0, 0, 2, 0x22, 0x6E, 0, 0, 0, 0, 0x79, 0, 0, 2, 4, 5, 0xB4]
  data := .ofRaw [0x12, 0x34, 0x56, 0x78, 0, 0, 1, 0x11, 0, 0, 2, 0x22, 0x6E, 0, 0, 0]

def acknowledge : List TcpHeader.Setter :=
  [.setFlags 0x112 (by decide), .setWindow 0x1234, .swapSourceAndDestination]

theorem setters_coherent_reserved : let _ : Build := { overflowChecks := true }
    ∃ h' : TcpHeader, tcp.cache.run acknowledge reservedHeader = .ok h' ∧
      h'.raw = [0x56, 0x78, 0x12, 0x34, 0, 0, 1, 0x11, 0, 0, 2, 0x22, 0x6F, 0x12, 0x12, 0x34, 0, 0x79, 0, 0,
        2, 4, 5, 0xB4] ∧
      TcpHeaderData.parse h'.raw = .ok h'.data := by
  intro build
  have edited := setters_coherent tcp (h := reservedHeader) (show 20 ≤ 24 by decide)
    ((TcpHeader.coherent_iff (by decide)).mpr rfl)
  have plain : ∀ setter ∈ acknowledge, ∀ ip payload, setter ≠ TcpHeader.Setter.updateChecksum ip payload := by
    rintro setter member ip payload rfl
    simp [acknowledge] at member
  obtain ⟨h', ran⟩ := edited.2.1 acknowledge plain
  refine ⟨h', ran, ?_, (edited.1 acknowledge h' ran).1⟩
  cases ran
  decide

end Format

end Gnirehtet.Relay
