import Gnirehtet.Relay.IcmpHandler
import Gnirehtet.Relay.Reparse

/-!
# ICMP answers are correct

Both answers are put together from two parts, an IPv4 header and an ICMP message, each of which is
sealed with its own checksum. The functions with `checked` in their names are those of the relay in a
build that may stop at an overflow.
-/

namespace Gnirehtet.Relay.IcmpHandler
open Lib

/-! ### The relay, with its panics -/

def checkedSumWords [Build] : List UInt8 → UInt32 → Checked UInt32
  | high :: low :: rest, sum => do
    let sum ← addU32 sum (high.toUInt32 <<< 8 + low.toUInt32)
    checkedSumWords rest sum
  | [last], sum => addU32 sum (last.toUInt32 <<< 8)
  | [], sum => .ok sum

def checkedChecksum [Build] (data : List UInt8) : Checked UInt16 := do
  let sum ← checkedSumWords data 0
  let sum ← checkedFoldCarries sum
  return ~~~sum.toUInt16

def checkedWriteEchoReply [Build] (request : List UInt8) (ihl totalLength : Nat) : Checked (List UInt8) := do
  let reply ← sliceTo request totalLength
  let reply ← swapRange reply 12 16 4
  let reply ← setByte reply ihl icmpTypeEchoReply
  let reply ← setByte reply (ihl + 2) 0
  let reply ← setByte reply (ihl + 3) 0
  let icmp ← slice reply ihl totalLength
  let icmpSum ← checkedChecksum icmp
  let reply ← copyInto reply (ihl + 2) (beBytes16 icmpSum)
  let reply ← setByte reply 10 0
  let reply ← setByte reply 11 0
  let ip ← sliceTo reply ihl
  let ipSum ← checkedChecksum ip
  copyInto reply 10 (beBytes16 ipSum)

def checkedBuildEchoReply [Build] (request : List UInt8) : Checked (Option (List UInt8)) := do
  if request.length < ipv4HeaderMinLen + icmpHeaderLen then return none
  let first ← index request 0
  if first >>> 4 ≠ 4 then return none
  let ihl := (first &&& 0x0f).toNat * 4
  if ihl < ipv4HeaderMinLen ∨ request.length < ihl + icmpHeaderLen then return none
  let protocol ← index request 9
  let type ← index request ihl
  if protocol ≠ protocolIcmp ∨ type ≠ icmpTypeEchoRequest then return none
  let totalLength ← readU16 request 2
  if request.length < totalLength.toNat ∨ totalLength.toNat < ihl + icmpHeaderLen then return none
  return some (← checkedWriteEchoReply request ihl totalLength.toNat)

def checkedWritePortUnreachable [Build] (v4 : Ipv4HeaderData) (raw : List UInt8) (copyLen : Nat) :
    Checked (List UInt8) := do
  let headerLen := v4.headerLength.toNat
  let totalLen := ipv4HeaderMinLen + (icmpHeaderLen + (headerLen + copyLen))
  let buf := List.replicate totalLen 0
  let buf ← setByte buf 0 0x45
  let buf ← setByte buf 8 64
  let buf ← setByte buf 9 protocolIcmp
  let buf ← copyInto buf 2 (beBytes16 totalLen.toUInt16)
  let buf ← copyInto buf 12 (beBytes32 v4.destination)
  let buf ← copyInto buf 16 (beBytes32 v4.source)
  let ip ← sliceTo buf ipv4HeaderMinLen
  let ipSum ← checkedChecksum ip
  let buf ← copyInto buf 10 (beBytes16 ipSum)
  let buf ← setByte buf 20 3
  let buf ← setByte buf 21 3
  let header ← sliceTo raw headerLen
  let buf ← copyInto buf 28 header
  let payload ← slice raw headerLen (headerLen + copyLen)
  let buf ← copyInto buf (28 + headerLen) payload
  let icmp ← slice buf ipv4HeaderMinLen totalLen
  let icmpSum ← checkedChecksum icmp
  copyInto buf 22 (beBytes16 icmpSum)

def checkedBuildPortUnreachable [Build] (original : IpPacket) : Checked (Option (List UInt8)) :=
  match original.ipHeaderData with
  | .v6 _ => .ok none
  | .v4 v4 =>
    if original.raw.length < v4.headerLength.toNat then .ok none
    else do
      let copyLen := min (original.raw.length - v4.headerLength.toNat) 8
      return some (← checkedWritePortUnreachable v4 original.raw copyLen)

/-! ### The checksum -/

theorem toNat_word (high low : UInt8) :
    (high.toUInt32 <<< 8 + low.toUInt32).toNat = high.toNat * 256 + low.toNat := by
  have := high.toNat_lt
  have := low.toNat_lt
  rw [UInt32.toNat_add, UInt32.toNat_shiftLeft, UInt8.toNat_toUInt32, UInt8.toNat_toUInt32, Nat.shiftLeft_eq]
  simp only [UInt32.reduceToNat, Nat.reduceMod, Nat.reducePow]
  omega

theorem toNat_last (last : UInt8) : (last.toUInt32 <<< 8).toNat = last.toNat * 256 := by
  have := toNat_word last 0
  simpa using this

/-- As long as the sum fits, nothing panics and nothing wraps. -/
theorem sumWords_spec [Build] (bytes : List UInt8) (sum : UInt32) (fits : sum.toNat + wordSum bytes < 2 ^ 32) :
    checkedSumWords bytes sum = .ok (sumWords bytes sum) ∧
      (sumWords bytes sum).toNat = sum.toNat + wordSum bytes := by
  induction bytes, sum using sumWords.induct with
  | case1 high low rest sum ih =>
    rw [wordSum] at fits
    obtain ⟨added, toNat⟩ := addU32_ok (a := sum) (b := high.toUInt32 <<< 8 + low.toUInt32)
      (by rw [toNat_word]; exact Nat.lt_of_le_of_lt (by omega) fits)
    rw [toNat_word] at toNat
    obtain ⟨checked, total⟩ := ih (by rw [toNat]; exact Nat.lt_of_le_of_lt (by omega) fits)
    rw [checkedSumWords, added, ok_bind, checked, sumWords, total, wordSum]
    exact ⟨rfl, by omega⟩
  | case2 last sum =>
    rw [wordSum] at fits
    obtain ⟨added, toNat⟩ := addU32_ok (a := sum) (b := last.toUInt32 <<< 8) (by rw [toNat_last]; omega)
    rw [toNat_last] at toNat
    exact ⟨added, toNat⟩
  | case3 sum => exact ⟨rfl, rfl⟩

/-- The words of a packet are too few to overflow 32 bits. -/
theorem wordSum_lt {bytes : List UInt8} (short : bytes.length ≤ 65535) : wordSum bytes < 2 ^ 32 := by
  have high := highSum_le bytes
  have low := lowSum_le bytes
  rw [wordSum_eq]
  omega

theorem checksum_spec [Build] {data : List UInt8} (short : data.length ≤ 65535) :
    checkedChecksum data = .ok (checksum data) ∧ (checksum data).toNat = 65535 - fold (wordSum data) := by
  have zero : (0 : UInt32).toNat = 0 := rfl
  have small := wordSum_lt short
  obtain ⟨summed, total⟩ := sumWords_spec data 0 (by omega)
  obtain ⟨folds, folded⟩ := foldCarries_spec (sumWords data 0)
  rw [total, zero, Nat.zero_add] at folded
  have bound := fold_lt (wordSum data)
  refine ⟨by rw [checkedChecksum, summed, ok_bind, folds]; rfl, ?_⟩
  rw [checksum, UInt16.toNat_not, UInt32.toNat_toUInt16, folded, UInt16.size]
  omega

/-! ### Sealing -/

/-- The checksum over all of `raw` is stored at `i`. -/
def sealed (raw : List UInt8) (i : Nat) : List UInt8 :=
  writeU16 (writeU16 raw i 0) i (checksum (writeU16 raw i 0))

section Sealed
variable {raw : List UInt8} {i : Nat}

@[simp] theorem length_sealed (raw : List UInt8) (i : Nat) : (sealed raw i).length = raw.length := by
  rw [sealed, length_writeU16, length_writeU16]

/-- The field is cleared byte by byte before the sum is taken. -/
theorem sealed_eq (fits : i + 2 ≤ raw.length) :
    overwrite ((raw.set i 0).set (i + 1) 0) i (beBytes16 (checksum ((raw.set i 0).set (i + 1) 0))) = sealed raw i := by
  rw [set_set_eq_overwrite fits]
  rfl

theorem byteAt_sealed {j : Nat} (fits : i + 2 ≤ raw.length) (apart : j < i ∨ i + 2 ≤ j) :
    byteAt (sealed raw i) j = byteAt raw j := by
  rw [sealed, byteAt_writeU16_other (by rw [length_writeU16]; exact fits) apart, byteAt_writeU16_other fits apart]

theorem u16At_sealed {j : Nat} (fits : i + 2 ≤ raw.length) (apart : j + 2 ≤ i ∨ i + 2 ≤ j) :
    u16At (sealed raw i) j = u16At raw j := by
  rw [u16At, u16At, byteAt_sealed fits (by omega), byteAt_sealed fits (by omega)]

theorem u32At_sealed {j : Nat} (fits : i + 2 ≤ raw.length) (apart : j + 4 ≤ i ∨ i + 2 ≤ j) :
    u32At (sealed raw i) j = u32At raw j := by
  rw [u32At, u32At, u16At_sealed fits (by omega), u16At_sealed fits (by omega)]

/-- A receiver accepts what was sealed. -/
theorem fold_sealed (even : i % 2 = 0) (fits : i + 2 ≤ raw.length) (short : raw.length ≤ 65535) :
    fold (wordSum (sealed raw i)) = 65535 := by
  let _ : Build := { overflowChecks := true }
  have fits' : i + 2 ≤ (writeU16 raw i 0).length := by rw [length_writeU16]; exact fits
  have replaced := wordSum_writeU16 (writeU16 raw i 0) even fits' (checksum (writeU16 raw i 0))
  have short' : (writeU16 raw i 0).length ≤ 65535 := by rw [length_writeU16]; exact short
  obtain ⟨_, value⟩ := checksum_spec short'
  rw [u16At_writeU16 fits, UInt16.toNat_zero, Nat.add_zero, value] at replaced
  rw [sealed, replaced]
  exact fold_complement _

end Sealed

/-! ### No overflow -/

theorem checkedWriteEchoReply_eq [Build] (request : List UInt8) {ihl totalLength : Nat} (header : ihl ≤ 65535)
    (short : totalLength ≤ 65535) :
    checkedWriteEchoReply request ihl totalLength = writeEchoReply request ihl totalLength := by
  refine bind_congr_ok fun _ _ => bind_congr_ok fun _ _ => bind_congr_ok fun _ _ => bind_congr_ok fun _ _ =>
    bind_congr_ok fun _ _ => bind_congr_ok fun icmp sliced => ?_
  have icmpShort : icmp.length ≤ 65535 := by
    rw [(slice_ok sliced).1, List.length_drop, List.length_take]
    omega
  rw [(checksum_spec icmpShort).1, ok_bind]
  refine bind_congr_ok fun _ _ => bind_congr_ok fun _ _ => bind_congr_ok fun _ _ => bind_congr_ok fun ip sliced => ?_
  have ipShort : ip.length ≤ 65535 := by
    rw [(sliceTo_ok sliced).1, List.length_take]
    omega
  rw [(checksum_spec ipShort).1, ok_bind]

theorem checkedBuildEchoReply_eq [Build] (request : List UInt8) :
    checkedBuildEchoReply request = buildEchoReply request := by
  unfold checkedBuildEchoReply buildEchoReply
  refine ite_congr rfl (fun _ => rfl) fun _ => bind_congr_ok fun first _ => ?_
  refine ite_congr rfl (fun _ => rfl) fun _ => ite_congr rfl (fun _ => rfl) fun _ => ?_
  refine bind_congr_ok fun _ _ => bind_congr_ok fun _ _ => ite_congr rfl (fun _ => rfl) fun _ => ?_
  refine bind_congr_ok fun total _ => ite_congr rfl (fun _ => rfl) fun _ => ?_
  have small := total.toNat_lt
  have header := (first &&& 0x0f).toNat_lt
  rw [checkedWriteEchoReply_eq request (by omega) (by omega)]

theorem checkedWritePortUnreachable_eq [Build] (v4 : Ipv4HeaderData) (raw : List UInt8) {copyLen : Nat}
    (few : copyLen ≤ 8) : checkedWritePortUnreachable v4 raw copyLen = writePortUnreachable v4 raw copyLen := by
  have header := v4.headerLength.toNat_lt
  refine bind_congr_ok fun _ _ => bind_congr_ok fun _ _ => bind_congr_ok fun _ _ => bind_congr_ok fun _ _ =>
    bind_congr_ok fun _ _ => bind_congr_ok fun _ _ => bind_congr_ok fun ip sliced => ?_
  have ipShort : ip.length ≤ 65535 := by
    rw [(sliceTo_ok sliced).1, List.length_take, ipv4HeaderMinLen]
    omega
  rw [(checksum_spec ipShort).1, ok_bind]
  refine bind_congr_ok fun _ _ => bind_congr_ok fun _ _ => bind_congr_ok fun _ _ => bind_congr_ok fun _ _ =>
    bind_congr_ok fun _ _ => bind_congr_ok fun _ _ => bind_congr_ok fun _ _ => bind_congr_ok fun icmp sliced => ?_
  have icmpShort : icmp.length ≤ 65535 := by
    rw [(slice_ok sliced).1, List.length_drop, List.length_take, ipv4HeaderMinLen, icmpHeaderLen]
    omega
  rw [(checksum_spec icmpShort).1, ok_bind]

theorem checkedBuildPortUnreachable_eq [Build] (original : IpPacket) :
    checkedBuildPortUnreachable original = buildPortUnreachable original := by
  unfold checkedBuildPortUnreachable buildPortUnreachable
  cases original.ipHeaderData with
  | v6 _ => rfl
  | v4 v4 =>
    refine ite_congr rfl (fun _ => rfl) fun _ => ?_
    dsimp only
    rw [checkedWritePortUnreachable_eq v4 original.raw (by omega)]

/-! ### The echo reply -/

/-- The length of the IPv4 header that the first byte states. -/
def ihlOf (raw : List UInt8) : Nat := (byteAt raw 0 &&& 0x0f).toNat * 4

/-- The bytes start with an IPv4 echo request whose header has at least five words, and whose total length
is there and covers the ICMP header. -/
structure EchoRequest (request : List UInt8) : Prop where
  version : byteAt request 0 >>> 4 = 4
  header : 20 ≤ ihlOf request
  protocol : byteAt request 9 = 1
  type : byteAt request (ihlOf request) = 8
  whole : (u16At request 2).toNat ≤ request.length
  covers : ihlOf request + 8 ≤ (u16At request 2).toNat

/-- The total length of the request, its addresses swapped, type 0, and the other bytes as they were; both
checksums are right. -/
structure EchoReply (request reply : List UInt8) : Prop where
  length : reply.length = (u16At request 2).toNat
  source : u32At reply 12 = u32At request 16
  destination : u32At reply 16 = u32At request 12
  type : byteAt reply (ihlOf request) = 0
  kept : ∀ i < reply.length, ¬ (10 ≤ i ∧ i < 20) → i ≠ ihlOf request →
    ¬ (ihlOf request + 2 ≤ i ∧ i < ihlOf request + 4) → byteAt reply i = byteAt request i
  ipSum : fold (wordSum (reply.take (ihlOf request))) = 65535
  icmpSum : fold (wordSum (reply.drop (ihlOf request))) = 65535

theorem buildEchoReply_cases (request : List UInt8) :
    (¬ EchoRequest request ∧ buildEchoReply request = .ok none) ∨
      (EchoRequest request ∧ buildEchoReply request =
        (do return some (← writeEchoReply request (ihlOf request) (u16At request 2).toNat))) := by
  unfold buildEchoReply
  split
  · rename_i short
    rw [ipv4HeaderMinLen, icmpHeaderLen] at short
    refine Or.inl ⟨fun echo => ?_, rfl⟩
    have header := echo.header
    have whole := echo.whole
    have covers := echo.covers
    omega
  rename_i long
  rw [ipv4HeaderMinLen, icmpHeaderLen] at long
  rw [index, if_pos (by omega), ok_bind]
  split
  · rename_i other
    exact Or.inl ⟨fun echo => other echo.version, rfl⟩
  rename_i four
  dsimp only
  split
  · rename_i short
    rw [ipv4HeaderMinLen, icmpHeaderLen] at short
    refine Or.inl ⟨fun echo => ?_, rfl⟩
    have header := echo.header
    have whole := echo.whole
    have covers := echo.covers
    unfold ihlOf at header covers
    omega
  rename_i header
  obtain ⟨least, inside⟩ := not_or.mp header
  rw [icmpHeaderLen] at inside
  rw [index, if_pos (by omega), ok_bind, index, if_pos (by omega), ok_bind]
  split
  · rename_i other
    refine Or.inl ⟨fun echo => ?_, rfl⟩
    rcases other with other | other
    · exact other echo.protocol
    · exact other echo.type
  rename_i kind
  obtain ⟨protocol, type⟩ := not_or.mp kind
  rw [readU16, if_pos (by omega), ok_bind]
  split
  · rename_i outside
    rw [icmpHeaderLen] at outside
    refine Or.inl ⟨fun echo => ?_, rfl⟩
    have whole := echo.whole
    have covers := echo.covers
    unfold ihlOf at covers
    omega
  rename_i total
  obtain ⟨whole, covers⟩ := not_or.mp total
  exact Or.inr ⟨⟨not_not.mp four, Nat.le_of_not_lt least, not_not.mp protocol, not_not.mp type,
    Nat.le_of_not_lt whole, Nat.le_of_not_lt covers⟩, rfl⟩

/-- The two parts of the reply, each sealed with its checksum. -/
theorem writeEchoReply_parts (request : List UInt8) {ihl totalLength : Nat} (least : 20 ≤ ihl)
    (inside : ihl + 8 ≤ totalLength) (whole : totalLength ≤ request.length) :
    ∃ header message, swapRange (request.take totalLength) 12 16 4 = .ok (header ++ message) ∧
      header.length = ihl ∧ message.length = totalLength - ihl ∧ writeEchoReply request ihl totalLength =
        .ok (sealed header 10 ++ sealed (message.set 0 icmpTypeEchoReply) 2) := by
  have length : (request.take totalLength).length = totalLength := by rw [List.length_take]; omega
  obtain ⟨swapped, swaps⟩ := (swapRange_isOk (request.take totalLength) 12 16 3).mpr (by omega)
  have size := (length_swapRange swaps).trans length
  obtain ⟨header, message, rfl, front, rest⟩ : ∃ header message, swapped = header ++ message ∧
      header.length = ihl ∧ message.length = totalLength - ihl :=
    ⟨swapped.take ihl, swapped.drop ihl, (List.take_append_drop ..).symm, by rw [List.length_take]; omega,
      by rw [List.length_drop]; omega⟩
  refine ⟨header, message, swaps, front, rest, ?_⟩
  rw [writeEchoReply, sliceTo, if_pos whole, ok_bind, swaps, ok_bind,
    setByte_behind (i := 0) _ (by omega) (by omega), ok_bind]
  have typedLength : (message.set 0 icmpTypeEchoReply).length = totalLength - ihl := by rw [List.length_set, rest]
  generalize message.set 0 icmpTypeEchoReply = message at typedLength ⊢
  have first : (message.set 2 0).length = totalLength - ihl := by rw [List.length_set, typedLength]
  have cleared : ((message.set 2 0).set 3 0).length = totalLength - ihl := by rw [List.length_set, first]
  have ipFirst : (header.set 10 0).length = ihl := by rw [List.length_set, front]
  have ipCleared : ((header.set 10 0).set 11 0).length = ihl := by rw [List.length_set, ipFirst]
  -- The checksum of the message, then that of the header.
  rw [setByte_behind (i := 2) _ (by omega) (by omega), ok_bind, setByte_behind (i := 3) _ (by omega) (by omega),
    ok_bind, slice_behind front (by omega), ok_bind,
    copyInto_behind (i := 2) (by omega) (by rw [length_beBytes16]; omega), ok_bind, sealed_eq (by omega),
    setByte_front _ (by omega), ok_bind, setByte_front _ (by omega), ok_bind, sliceTo_front ipCleared, ok_bind,
    copyInto_front (by rw [length_beBytes16]; omega), sealed_eq (by omega)]

theorem EchoRequest.reply {request reply : List UInt8} (echo : EchoRequest request)
    (written : writeEchoReply request (ihlOf request) (u16At request 2).toNat = .ok reply) :
    EchoReply request reply := by
  have least := echo.header
  have covers := echo.covers
  have most := (u16At request 2).toNat_lt
  obtain ⟨header, message, swaps, front, rest, parts⟩ := writeEchoReply_parts request least covers echo.whole
  rw [parts] at written
  cases written
  have addresses := Ipv4HeaderData.ofRaw_swap swaps
  have sealedHeader : (sealed header 10).length = ihlOf request := (length_sealed ..).trans front
  have messageLength : (message.set 0 icmpTypeEchoReply).length = (u16At request 2).toNat - ihlOf request := by
    rw [List.length_set, rest]
  -- The addresses of the reply are those of the swapped packet.
  have address {i : Nat} (low : 12 ≤ i) (high : i + 4 ≤ 20) :
      u32At (sealed header 10 ++ sealed (message.set 0 icmpTypeEchoReply) 2) i = u32At (header ++ message) i := by
    rw [u32At_append_left (by omega), u32At_append_left (by omega), u32At_sealed (by omega) (by omega)]
  have taken {i : Nat} (inside : i + 4 ≤ 20) : u32At (request.take (u16At request 2).toNat) i = u32At request i := by
    simp only [u32At]
    rw [u16At_take (by omega), u16At_take (by omega)]
  constructor
  · rw [List.length_append, sealedHeader, length_sealed, messageLength]
    omega
  · rw [address (by omega) (by omega), ← taken (by omega)]
    exact congrArg Ipv4HeaderData.source addresses
  · rw [address (by omega) (by omega), ← taken (by omega)]
    exact congrArg Ipv4HeaderData.destination addresses
  · rw [← Nat.add_zero (ihlOf request), ← byteAt_drop, List.drop_left' sealedHeader,
      byteAt_sealed (by omega) (by omega), byteAt, List.getD_eq_getElem?_getD, List.getElem?_set_self (by omega)]
    rfl
  · intro i inside outside notType notSum
    rw [List.length_append, sealedHeader, length_sealed, messageLength] at inside
    have kept : byteAt (header ++ message) i = byteAt request i := by
      have swapped : byteAt (header ++ message) i = byteAt (request.take (u16At request 2).toNat) i := by
        by_cases before : i < 10
        · exact byteAt_swapRange_other swaps (by omega) (by omega)
        · exact byteAt_swapRange_after swaps (by omega) (by omega)
      rw [swapped, byteAt_take (by omega)]
    rw [← kept]
    by_cases first : i < ihlOf request
    · rw [byteAt_append_left (by omega), byteAt_append_left (by omega), byteAt_sealed (by omega) (by omega)]
    · obtain ⟨k, rfl⟩ : ∃ k, i = ihlOf request + k := ⟨i - ihlOf request, by omega⟩
      rw [← byteAt_drop, ← byteAt_drop, List.drop_left' sealedHeader, List.drop_left' front,
        byteAt_sealed (by omega) (by omega)]
      apply byteAt_eq_of_getElem?
      exact List.getElem?_set_ne (by omega)
  · rw [List.take_left' sealedHeader]
    exact fold_sealed rfl (by omega) (by omega)
  · rw [List.drop_left' sealedHeader]
    exact fold_sealed rfl (by omega) (by omega)

/-! ### Port unreachable -/

/-- The IPv4 header of the answer before its checksum. -/
def unreachableHeader (v4 : Ipv4HeaderData) (totalLen : Nat) : List UInt8 :=
  [0x45, 0] ++ beBytes16 totalLen.toUInt16 ++ [0, 0, 0, 0, 64, protocolIcmp, 0, 0] ++ beBytes32 v4.destination ++
    beBytes32 v4.source

/-- Its ICMP message: destination unreachable, port unreachable. -/
def unreachableMessage (embedded : List UInt8) : List UInt8 := [3, 3, 0, 0, 0, 0, 0, 0] ++ embedded

theorem length_unreachableHeader (v4 : Ipv4HeaderData) (totalLen : Nat) :
    (unreachableHeader v4 totalLen).length = 20 := rfl

/-- The header is filled in and sealed, whatever stands behind it. -/
theorem unreachableHeader_written (v4 : Ipv4HeaderData) (totalLen : Nat) (rest : List UInt8)
    (next : List UInt8 → Checked (List UInt8)) :
    (do
      let buf ← setByte (List.replicate 20 0 ++ rest) 0 0x45
      let buf ← setByte buf 8 64
      let buf ← setByte buf 9 protocolIcmp
      let buf ← copyInto buf 2 (beBytes16 totalLen.toUInt16)
      let buf ← copyInto buf 12 (beBytes32 v4.destination)
      let buf ← copyInto buf 16 (beBytes32 v4.source)
      let ip ← sliceTo buf ipv4HeaderMinLen
      let buf ← copyInto buf 10 (beBytes16 (checksum ip))
      next buf) = next (sealed (unreachableHeader v4 totalLen) 10 ++ rest) := by
  have filled : overwrite (overwrite (overwrite ((((List.replicate 20 0).set 0 0x45).set 8 64).set 9 protocolIcmp) 2
      (beBytes16 totalLen.toUInt16)) 12 (beBytes32 v4.destination)) 16 (beBytes32 v4.source) =
        unreachableHeader v4 totalLen := rfl
  have summed : overwrite (unreachableHeader v4 totalLen) 10 (beBytes16 (checksum (unreachableHeader v4 totalLen))) =
      sealed (unreachableHeader v4 totalLen) 10 := rfl
  have marked : ((((List.replicate 20 (0 : UInt8)).set 0 0x45).set 8 64).set 9 protocolIcmp).length = 20 := rfl
  have length := length_unreachableHeader v4 totalLen
  rw [setByte_front _ (by decide), ok_bind, setByte_front _ (by decide), ok_bind, setByte_front _ (by decide), ok_bind]
  generalize (((List.replicate 20 0).set 0 0x45).set 8 64).set 9 protocolIcmp = ip at filled marked ⊢
  rw [copyInto_front (by rw [length_beBytes16]; omega), ok_bind,
    copyInto_front (by rw [length_beBytes32, length_overwrite]; omega), ok_bind,
    copyInto_front (by rw [length_beBytes32, length_overwrite, length_overwrite]; omega), ok_bind, filled,
    ipv4HeaderMinLen, sliceTo_front length, ok_bind, copyInto_front (by rw [length_beBytes16]; omega), ok_bind, summed]

/-- The message as it is filled in. -/
theorem unreachableMessage_filled {header payload : List UInt8} {headerLen copyLen : Nat}
    (headerLength : header.length = headerLen) (payloadLength : payload.length = copyLen) :
    overwrite (overwrite (((List.replicate (8 + (headerLen + copyLen)) 0).set 0 3).set 1 3) 8 header)
      (8 + headerLen) payload = unreachableMessage (header ++ payload) := by
  subst headerLength payloadLength
  have typed : ((List.replicate (8 + (header.length + payload.length)) (0 : UInt8)).set 0 3).set 1 3 =
      [3, 3, 0, 0, 0, 0, 0, 0] ++ List.replicate (header.length + payload.length) 0 := by
    rw [← List.replicate_append_replicate]
    rfl
  have first : overwrite ([3, 3, 0, 0, 0, 0, 0, 0] ++ List.replicate (header.length + payload.length) 0) 8 header =
      [3, 3, 0, 0, 0, 0, 0, 0] ++ (header ++ List.replicate payload.length 0) := by
    have fits : 0 + header.length ≤ (List.replicate (header.length + payload.length) (0 : UInt8)).length := by
      rw [List.length_replicate]
      omega
    have behind := overwrite_append_right [3, 3, 0, 0, 0, 0, 0, 0] fits
    rw [overwrite_start (by rw [List.length_replicate]; omega), List.drop_replicate, Nat.add_sub_cancel_left] at behind
    exact behind
  have second : overwrite (header ++ List.replicate payload.length 0) (header.length + 0) payload =
      header ++ payload := by
    rw [overwrite_append_right header (by rw [List.length_replicate]; omega),
      overwrite_start (by rw [List.length_replicate]), List.drop_of_length_le (by rw [List.length_replicate]),
      List.append_nil]
  have fits : header.length + 0 + payload.length ≤ (header ++ List.replicate payload.length (0 : UInt8)).length := by
    rw [List.length_append, List.length_replicate]
    omega
  have last := overwrite_append_right [3, 3, 0, 0, 0, 0, 0, 0] fits
  rw [second] at last
  rw [typed, first]
  exact last

theorem unreachableMessage_sealed (embedded : List UInt8) :
    overwrite (unreachableMessage embedded) 2 (beBytes16 (checksum (unreachableMessage embedded))) =
      sealed (unreachableMessage embedded) 2 := by
  have clear : writeU16 (unreachableMessage embedded) 2 0 = unreachableMessage embedded :=
    overwrite_append_left (by decide) embedded
  rw [sealed, clear]
  rfl

/-- The message is filled in and sealed behind the header. -/
theorem unreachableMessage_written {front raw : List UInt8} {headerLen copyLen : Nat} (twenty : front.length = 20)
    (inside : headerLen + copyLen ≤ raw.length) :
    (do
      let buf ← setByte (front ++ List.replicate (8 + (headerLen + copyLen)) 0) 20 3
      let buf ← setByte buf 21 3
      let header ← sliceTo raw headerLen
      let buf ← copyInto buf 28 header
      let payload ← slice raw headerLen (headerLen + copyLen)
      let buf ← copyInto buf (28 + headerLen) payload
      let icmp ← slice buf ipv4HeaderMinLen (28 + (headerLen + copyLen))
      copyInto buf 22 (beBytes16 (checksum icmp))) =
        .ok (front ++ sealed (unreachableMessage (raw.take headerLen ++ (raw.drop headerLen).take copyLen)) 2) := by
  have header : (raw.take headerLen).length = headerLen := by
    rw [List.length_take]
    omega
  have payload : ((raw.drop headerLen).take copyLen).length = copyLen := by
    rw [List.length_take, List.length_drop]
    omega
  have cut : (raw.take (headerLen + copyLen)).drop headerLen = (raw.drop headerLen).take copyLen := by
    rw [List.drop_take, Nat.add_sub_cancel_left]
  have filled := unreachableMessage_filled header payload
  have size : (List.replicate (8 + (headerLen + copyLen)) (0 : UInt8)).length = 8 + (headerLen + copyLen) :=
    List.length_replicate
  have finished := unreachableMessage_sealed (raw.take headerLen ++ (raw.drop headerLen).take copyLen)
  generalize List.replicate (8 + (headerLen + copyLen)) (0 : UInt8) = rest at filled size ⊢
  have typed : (rest.set 0 3).length = 8 + (headerLen + copyLen) := by rw [List.length_set, size]
  have coded : ((rest.set 0 3).set 1 3).length = 8 + (headerLen + copyLen) := by rw [List.length_set, typed]
  have whole := congrArg List.length filled
  rw [length_overwrite, length_overwrite, coded] at whole
  rw [setByte_behind (i := 0) _ (by omega) (by omega), ok_bind, setByte_behind (i := 1) _ (by omega) (by omega),
    ok_bind, sliceTo, if_pos (by omega), ok_bind, copyInto_behind (i := 8) (by omega) (by omega), ok_bind, slice,
    if_pos (by omega), ok_bind, cut, copyInto_behind (i := 8 + headerLen) (by omega) (by rw [length_overwrite]; omega),
    ok_bind, filled, ipv4HeaderMinLen, slice_behind twenty (by omega), ok_bind,
    copyInto_behind (i := 2) (by omega) (by rw [length_beBytes16]; omega), finished]

/-- The two parts of the answer, each sealed with its checksum. -/
theorem writePortUnreachable_parts (v4 : Ipv4HeaderData) (raw : List UInt8) {copyLen : Nat}
    (inside : v4.headerLength.toNat + copyLen ≤ raw.length) :
    writePortUnreachable v4 raw copyLen = .ok
      (sealed (unreachableHeader v4 (28 + (v4.headerLength.toNat + copyLen))) 10 ++
        sealed (unreachableMessage (raw.take v4.headerLength.toNat ++
          (raw.drop v4.headerLength.toNat).take copyLen)) 2) := by
  have total : ipv4HeaderMinLen + (icmpHeaderLen + (v4.headerLength.toNat + copyLen)) =
      28 + (v4.headerLength.toNat + copyLen) := by
    rw [ipv4HeaderMinLen, icmpHeaderLen]
    omega
  have blank : List.replicate (28 + (v4.headerLength.toNat + copyLen)) (0 : UInt8) =
      List.replicate 20 0 ++ List.replicate (8 + (v4.headerLength.toNat + copyLen)) 0 := by
    rw [List.replicate_append_replicate]
    congr 1
    omega
  have sealedLength : (sealed (unreachableHeader v4 (28 + (v4.headerLength.toNat + copyLen))) 10).length = 20 :=
    length_sealed ..
  unfold writePortUnreachable
  simp only [total]
  rw [blank]
  exact (unreachableHeader_written ..).trans (unreachableMessage_written sealedLength inside)

/-- The packet is as long as it states, its addresses are those of the original packet, swapped, it is of type 3 and
code 3, it embeds the IP header with the first eight bytes behind it, and both checksums are right. -/
structure PortUnreachable (v4 : Ipv4HeaderData) (raw answer : List UInt8) : Prop where
  length : (u16At answer 2).toNat = answer.length
  versionAndIhl : byteAt answer 0 = 0x45
  protocol : byteAt answer 9 = 1
  source : u32At answer 12 = v4.destination
  destination : u32At answer 16 = v4.source
  type : byteAt answer 20 = 3
  code : byteAt answer 21 = 3
  embedded : answer.drop 28 = raw.take v4.headerLength.toNat ++
    (raw.drop v4.headerLength.toNat).take (min 8 (raw.length - v4.headerLength.toNat))
  ipSum : fold (wordSum (answer.take 20)) = 65535
  icmpSum : fold (wordSum (answer.drop 20)) = 65535

theorem drop_sealed {raw : List UInt8} {i n : Nat} (after : i + 2 ≤ n) : (sealed raw i).drop n = raw.drop n := by
  rw [sealed, writeU16, drop_overwrite (by rw [length_beBytes16]; exact after), writeU16,
    drop_overwrite (by rw [length_beBytes16]; exact after)]

theorem portUnreachable_of_parts {v4 : Ipv4HeaderData} {raw embedded : List UInt8} {n : Nat}
    (length : embedded.length = n) (small : n ≤ 65000)
    (same : embedded = raw.take v4.headerLength.toNat ++
      (raw.drop v4.headerLength.toNat).take (min 8 (raw.length - v4.headerLength.toNat))) :
    PortUnreachable v4 raw
      (sealed (unreachableHeader v4 (28 + n)) 10 ++ sealed (unreachableMessage embedded) 2) := by
  have front : (sealed (unreachableHeader v4 (28 + n)) 10).length = 20 :=
    (length_sealed ..).trans (length_unreachableHeader ..)
  have headerLength := length_unreachableHeader v4 (28 + n)
  have messageLength : (unreachableMessage embedded).length = 8 + n := by
    rw [unreachableMessage, List.length_append, length]
    rfl
  have headerByte {i : Nat} (before : i < 10) :
      byteAt (sealed (unreachableHeader v4 (28 + n)) 10 ++ sealed (unreachableMessage embedded) 2) i =
        byteAt (unreachableHeader v4 (28 + n)) i := by
    rw [byteAt_append_left (by omega), byteAt_sealed (by omega) (Or.inl before)]
  have headerWord {i : Nat} (after : 12 ≤ i) (inside : i + 4 ≤ 20) :
      u32At (sealed (unreachableHeader v4 (28 + n)) 10 ++ sealed (unreachableMessage embedded) 2) i =
        u32At (unreachableHeader v4 (28 + n)) i := by
    rw [u32At_append_left (by omega), u32At_sealed (by omega) (Or.inr after)]
  have messageByte {i : Nat} (before : i < 2) :
      byteAt (sealed (unreachableHeader v4 (28 + n)) 10 ++ sealed (unreachableMessage embedded) 2) (20 + i) =
        byteAt (unreachableMessage embedded) i := by
    rw [← byteAt_drop, List.drop_left' front, byteAt_sealed (by omega) (Or.inl before)]
  have behind (answer : List UInt8) : answer.drop 28 = (answer.drop 20).drop 8 := by
    rw [List.drop_drop]
  have written (v : UInt32) : u32At (beBytes32 v) 0 = v :=
    u32At_writeU32 (show 0 + 4 ≤ [(0 : UInt8), 0, 0, 0].length by decide) v
  constructor
  · have field : u16At (unreachableHeader v4 (28 + n)) 2 = (28 + n).toUInt16 :=
      u16At_beBytes16 (28 + n).toUInt16
    rw [u16At_append_left (by omega), u16At_sealed (by omega) (by omega), field, List.length_append, front,
      length_sealed, messageLength]
    exact (UInt16.toNat_ofNat_of_lt' (show 28 + n < 65536 by omega)).trans (by omega)
  · exact headerByte (by omega)
  · exact headerByte (by omega)
  · exact (headerWord (by omega) (by omega)).trans (written v4.destination)
  · exact (headerWord (by omega) (by omega)).trans (written v4.source)
  · exact messageByte (i := 0) (by omega)
  · exact messageByte (i := 1) (by omega)
  · rw [behind, List.drop_left' front, drop_sealed (by omega), ← same]
    rfl
  · rw [List.take_left' front]
    exact fold_sealed rfl (by omega) (by omega)
  · rw [List.drop_left' front]
    exact fold_sealed rfl (by omega) (by omega)

theorem buildPortUnreachable_spec {packet : IpPacket} {v4 : Ipv4HeaderData} (data : packet.ipHeaderData = .v4 v4)
    (header : v4.headerLength.toNat ≤ packet.raw.length) :
    ∃ answer, buildPortUnreachable packet = .ok (some answer) ∧ PortUnreachable v4 packet.raw answer := by
  have byte := v4.headerLength.toNat_lt
  have fits : v4.headerLength.toNat + min (packet.raw.length - v4.headerLength.toNat) 8 ≤ packet.raw.length := by
    omega
  have built : buildPortUnreachable packet = (do return some (← writePortUnreachable v4 packet.raw
      (min (packet.raw.length - v4.headerLength.toNat) 8))) := by
    rw [buildPortUnreachable, data]
    exact if_neg (Nat.not_lt.mpr header)
  rw [built, writePortUnreachable_parts v4 packet.raw fits]
  refine ⟨_, rfl, portUnreachable_of_parts ?_ (by omega) (by rw [Nat.min_comm])⟩
  rw [List.length_append, List.length_take, List.length_take, List.length_drop]
  omega

/-! ### Both answers -/

/-- The call returns, with an echo reply exactly for an echo request. -/
def EchoAnswered [Build] (request : List UInt8) : Prop :=
  ∃ answer, checkedBuildEchoReply request = .ok answer ∧ (answer.isSome ↔ EchoRequest request) ∧
    ∀ reply, answer = some reply → EchoReply request reply

/-- The call returns a port unreachable message when the IPv4 header is inside the packet. -/
def UnreachableAnswered [Build] (packet : IpPacket) : Prop :=
  ∀ v4, packet.ipHeaderData = .v4 v4 → v4.headerLength.toNat ≤ packet.raw.length →
    ∃ answer, checkedBuildPortUnreachable packet = .ok (some answer) ∧ PortUnreachable v4 packet.raw answer

theorem echoAnswered [Build] (request : List UInt8) : EchoAnswered request := by
  rw [EchoAnswered, checkedBuildEchoReply_eq]
  rcases buildEchoReply_cases request with ⟨other, built⟩ | ⟨echo, built⟩
  · rw [built]
    exact ⟨none, rfl, iff_of_false Bool.false_ne_true other, nofun⟩
  · obtain ⟨reply, written⟩ := writeEchoReply_ok request echo.header echo.covers echo.whole
    rw [built, written]
    refine ⟨some reply, rfl, iff_of_true rfl echo, ?_⟩
    rintro _ ⟨⟩
    exact echo.reply written

/-- For any bytes and any packet, in a build that checks for overflows as in one that does not. -/
theorem answers_correct [Build] :
    (∀ request, EchoAnswered request) ∧ ∀ packet, UnreachableAnswered packet := by
  refine ⟨echoAnswered, ?_⟩
  intro packet v4 data header
  rw [checkedBuildPortUnreachable_eq]
  exact buildPortUnreachable_spec data header

/-- An echo request with an odd byte of data. -/
def oddPing : List UInt8 :=
  [0x45, 0, 0, 29, 0, 0, 0, 0, 64, 1, 0, 0, 10, 0, 0, 2, 8, 8, 8, 8, 8, 0, 0, 0, 0x12, 0x34, 0, 1, 0xAB]

theorem answers_correct_ping :
    let _ : Build := { overflowChecks := true }
    ∃ reply, checkedBuildEchoReply oddPing = .ok (some reply) ∧ EchoReply oddPing reply := by
  intro _
  obtain ⟨answer, built, found, spec⟩ := answers_correct.1 oddPing
  have echo : EchoRequest oddPing := by constructor <;> decide
  obtain ⟨reply, rfl⟩ := Option.isSome_iff_exists.mp (found.mpr echo)
  exact ⟨reply, built, spec reply rfl⟩

end Gnirehtet.Relay.IcmpHandler
