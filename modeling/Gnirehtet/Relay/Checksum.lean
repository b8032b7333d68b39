import Gnirehtet.Lib.OnesComplement
import Gnirehtet.Relay.IpPacket

/-!
# The TCP checksum

The relay sums the high-order and the low-order bytes apart and joins them at the end. Against this
stands the definition of the protocols: the folded sum over the words of the pseudo-header, the TCP
header and the padded payload is `0xFFFF`. The functions with `checked` in their names are those of
the relay in a build that may stop at an overflow.
-/

namespace Gnirehtet.Relay
open Lib

/-! ### What a receiver sums -/

/-- The pseudo-header in front of a transport header of `protocol`, for `length` bytes with their
payload. -/
def pseudoHeader (protocol : UInt8) (length : Nat) : IpHeaderData → List UInt8
  | .v4 d => beBytes32 d.source ++ beBytes32 d.destination ++ ([0, protocol] ++ beBytes16 length.toUInt16)
  | .v6 d => d.source ++ d.destination ++ (beBytes32 length.toUInt32 ++ [0, 0, 0, protocol])

/-- The length of the transport header and its payload that the IP header states. -/
def IpHeaderData.transportLength : IpHeaderData → Nat
  | v4 d => d.totalLength.toNat - d.headerLength.toNat
  | v6 d => d.payloadLength.toNat

/-- Both addresses of IPv6 have their 16 octets. -/
def IpHeaderData.Addressed : IpHeaderData → Prop
  | v4 _ => True
  | v6 d => d.source.length = 16 ∧ d.destination.length = 16

/-- The lengths of a TCP header and a payload agree with those that the headers state. -/
structure TcpHeader.Consistent (h : TcpHeader) (ip : IpHeaderData) (payload : List UInt8) : Prop where
  offset : ∃ words, 5 ≤ words ∧ words ≤ 15 ∧ h.data.headerLength.toNat = 4 * words
  raw : h.raw.length = h.data.headerLength.toNat
  stated : ip.transportLength = h.raw.length + payload.length
  addressed : ip.Addressed

/-! ### The relay, with its panics -/

def checkedAddBytes [Build] : List UInt8 → UInt32 → UInt32 → Checked (UInt32 × UInt32)
  | high :: low :: rest, hsum, sum => do
    let hsum ← addU32 hsum high.toUInt32
    let sum ← addU32 sum low.toUInt32
    checkedAddBytes rest hsum sum
  | [last], hsum, sum => do
    let hsum ← addU32 hsum last.toUInt32
    return (hsum, sum)
  | [], hsum, sum => .ok (hsum, sum)

/-- What `addU32` returns is the next sum. -/
def checkedFoldCarries [Build] (sum : UInt32) : Checked UInt32 :=
  if sum &&& ~~~(0xFFFF : UInt32) = 0 then .ok sum
  else do
    let _ ← addU32 (sum &&& (0xFFFF : UInt32)) (sum >>> 16)
    checkedFoldCarries ((sum &&& (0xFFFF : UInt32)) + (sum >>> 16))
termination_by sum.toNat
decreasing_by
  rename_i high
  rw [toNat_fold]
  have : ¬ sum.toNat < 65536 := fun low => high (and_high_eq_zero low)
  omega

namespace TcpHeader

def checkedFinishChecksum [Build] (h : TcpHeader) (pseudo : UInt32) (payloadLength : UInt16)
    (payload : List UInt8) : Checked TcpHeader := do
  let h := h.setChecksum 0
  let (hsum, sum) ← checkedAddBytes (h.raw.take h.data.headerLength.toNat) 0 pseudo
  let (hsum, sum) ← checkedAddBytes (payload.take payloadLength.toNat) hsum sum
  let sum ← addU32 sum (hsum <<< 8)
  let sum ← checkedFoldCarries sum
  return h.setChecksum (~~~sum).toUInt16

/-- The lengths that both versions check, from the length of header and payload. -/
def checkedPayloadLength [Build] (h : TcpHeader) (transportLength : UInt16) (payload : List UInt8) :
    Checked UInt16 := do
  let headerLength := h.data.headerLength
  debugAssert (headerLength.toNat % 2 == 0 && decide (20 ≤ headerLength.toNat))
  let payloadLength ← subU16 transportLength headerLength.toUInt16
  debugAssert (payloadLength.toNat == payload.length)
  return payloadLength

def checkedPseudoSumV4 [Build] (ip : Ipv4HeaderData) (transportLength : UInt16) : Checked UInt32 := do
  let sum ← addU32 6 (ip.source >>> 16)
  let sum ← addU32 sum (ip.source &&& (0xFFFF : UInt32))
  let sum ← addU32 sum (ip.destination >>> 16)
  let sum ← addU32 sum (ip.destination &&& (0xFFFF : UInt32))
  addU32 sum transportLength.toUInt32

def checkedUpdateChecksumV4 [Build] (h : TcpHeader) (ip : Ipv4HeaderData) (payload : List UInt8) :
    Checked TcpHeader := do
  let transportLength ← subU16 ip.totalLength ip.headerLength.toUInt16
  let payloadLength ← h.checkedPayloadLength transportLength payload
  let sum ← checkedPseudoSumV4 ip transportLength
  h.checkedFinishChecksum sum payloadLength payload

def checkedAddWords [Build] (octets : List UInt8) (sum : UInt32) : Checked UInt32 :=
  (List.range 8).foldlM (fun sum i => addU32 sum (u16At octets (2 * i)).toUInt32) sum

def checkedPseudoSumV6 [Build] (ip : Ipv6HeaderData) (transportLength : UInt16) : Checked UInt32 := do
  let sum ← checkedAddWords ip.source 0
  let sum ← checkedAddWords ip.destination sum
  let sum ← addU32 sum transportLength.toUInt32
  addU32 sum 6

def checkedUpdateChecksumV6 [Build] (h : TcpHeader) (ip : Ipv6HeaderData) (payload : List UInt8) :
    Checked TcpHeader := do
  let transportLength := ip.payloadLength
  let payloadLength ← h.checkedPayloadLength transportLength payload
  let sum ← checkedPseudoSumV6 ip transportLength
  h.checkedFinishChecksum sum payloadLength payload

def checkedUpdateChecksum [Build] (h : TcpHeader) (ip : IpHeaderData) (payload : List UInt8) :
    Checked TcpHeader :=
  match ip with
  | .v4 ip => h.checkedUpdateChecksumV4 ip payload
  | .v6 ip => h.checkedUpdateChecksumV6 ip payload

end TcpHeader

/-! ### The two byte sums -/

def highSum : List UInt8 → Nat
  | high :: _ :: rest => high.toNat + highSum rest
  | [last] => last.toNat
  | [] => 0

def lowSum : List UInt8 → Nat
  | _ :: low :: rest => low.toNat + lowSum rest
  | _ => 0

theorem wordSum_eq (bytes : List UInt8) : wordSum bytes = highSum bytes * 256 + lowSum bytes := by
  induction bytes using wordSum.induct with
  | case1 high low rest ih => rw [wordSum, highSum, lowSum, ih]; omega
  | case2 last => simp [wordSum, highSum, lowSum]
  | case3 => rfl

theorem highSum_le (bytes : List UInt8) : highSum bytes * 2 ≤ 255 * (bytes.length + 1) := by
  induction bytes using wordSum.induct with
  | case1 high low rest ih =>
    have := high.toNat_lt
    simp only [highSum, List.length_cons]
    omega
  | case2 last =>
    have := last.toNat_lt
    simp only [highSum, List.length_cons, List.length_nil]
    omega
  | case3 => simp [highSum]

theorem lowSum_le (bytes : List UInt8) : lowSum bytes * 2 ≤ 255 * bytes.length := by
  induction bytes using wordSum.induct with
  | case1 high low rest ih =>
    have := low.toNat_lt
    simp only [lowSum, List.length_cons]
    omega
  | case2 last => simp [lowSum]
  | case3 => simp [lowSum]

/-- As long as both sums fit, nothing panics and nothing wraps. -/
theorem addBytes_spec [Build] (bytes : List UInt8) (hsum sum : UInt32)
    (high : hsum.toNat + highSum bytes < 2 ^ 32) (low : sum.toNat + lowSum bytes < 2 ^ 32) :
    checkedAddBytes bytes hsum sum = .ok (addBytes bytes hsum sum) ∧
      (addBytes bytes hsum sum).1.toNat = hsum.toNat + highSum bytes ∧
      (addBytes bytes hsum sum).2.toNat = sum.toNat + lowSum bytes := by
  induction bytes, hsum, sum using addBytes.induct with
  | case1 h l rest hsum sum ih =>
    rw [highSum] at high
    rw [lowSum] at low
    obtain ⟨addHigh, toNatHigh⟩ := addU32_ok (a := hsum) (b := h.toUInt32) (by
      rw [UInt8.toNat_toUInt32]; omega)
    obtain ⟨addLow, toNatLow⟩ := addU32_ok (a := sum) (b := l.toUInt32) (by
      rw [UInt8.toNat_toUInt32]; omega)
    rw [UInt8.toNat_toUInt32] at toNatHigh toNatLow
    obtain ⟨checked, first, second⟩ := ih (by omega) (by omega)
    rw [checkedAddBytes, addHigh, ok_bind, addLow, ok_bind, checked, addBytes, first, second, highSum, lowSum]
    exact ⟨rfl, by omega, by omega⟩
  | case2 last hsum sum =>
    rw [highSum] at high
    obtain ⟨add, toNat⟩ := addU32_ok (a := hsum) (b := last.toUInt32) (by rw [UInt8.toNat_toUInt32]; omega)
    rw [UInt8.toNat_toUInt32] at toNat
    rw [checkedAddBytes, add, ok_bind, addBytes, toNat, highSum]
    exact ⟨rfl, rfl, rfl⟩
  | case3 hsum sum => exact ⟨rfl, rfl, rfl⟩

theorem toNat_low (sum : UInt32) : (sum &&& (0xFFFF : UInt32)).toNat = sum.toNat % 65536 :=
  Nat.and_two_pow_sub_one_eq_mod sum.toNat 16

theorem toNat_high (sum : UInt32) : (sum >>> 16).toNat = sum.toNat / 65536 :=
  Nat.shiftRight_eq_div_pow sum.toNat 16

theorem lt_of_and_high {sum : UInt32} (h : sum &&& ~~~(0xFFFF : UInt32) = 0) : sum.toNat < 65536 := by
  have parts : sum &&& (0xFFFF : UInt32) ||| sum &&& ~~~(0xFFFF : UInt32) = sum := by
    have distrib : sum &&& ((0xFFFF : UInt32) ||| ~~~0xFFFF) =
        sum &&& (0xFFFF : UInt32) ||| sum &&& ~~~(0xFFFF : UInt32) :=
      UInt32.toBitVec_inj.mp BitVec.and_or_distrib_left
    rw [← distrib, show (0xFFFF : UInt32) ||| ~~~0xFFFF = -1 by decide, UInt32.and_neg_one]
  rw [h, UInt32.or_zero] at parts
  have := toNat_low sum
  rw [parts] at this
  omega

/-- The loop ends with the folded sum, and none of its additions overflows. -/
theorem foldCarries_spec [Build] (sum : UInt32) :
    checkedFoldCarries sum = .ok (foldCarries sum) ∧ (foldCarries sum).toNat = fold sum.toNat := by
  induction sum using foldCarries.induct with
  | case1 sum low =>
    rw [checkedFoldCarries, foldCarries, if_pos low, if_pos low, fold_of_lt (lt_of_and_high low)]
    exact ⟨rfl, rfl⟩
  | case2 sum high ih =>
    have large : ¬ sum.toNat < 65536 := fun small => high (and_high_eq_zero small)
    have bound := sum.toNat_lt
    have added := addU32_ok (a := sum &&& (0xFFFF : UInt32)) (b := sum >>> 16) (by
      rw [toNat_low, toNat_high]; omega)
    rw [checkedFoldCarries, foldCarries, if_neg high, if_neg high, added.1, ok_bind, fold_of_ge large, ← toNat_fold]
    exact ih

theorem toNat_complement {sum : UInt32} (small : sum.toNat < 65536) :
    (~~~sum).toUInt16.toNat = 65535 - sum.toNat := by
  rw [UInt32.toNat_toUInt16, UInt32.toNat_not, UInt32.size]
  omega

/-! ### From the sum over the pseudo-header -/

namespace TcpHeader

theorem u16At_setChecksum {h : TcpHeader} (long : 18 ≤ h.raw.length) (checksum : UInt16) :
    u16At (h.setChecksum checksum).raw 16 = checksum := u16At_writeU16 long checksum

/-- The checksum field counts as a word of the header. -/
theorem wordSum_setChecksum {h : TcpHeader} (long : 18 ≤ h.raw.length) (checksum : UInt16) :
    wordSum ((h.setChecksum 0).setChecksum checksum).raw = wordSum (h.setChecksum 0).raw + checksum.toNat := by
  have zero : u16At (h.setChecksum 0).raw 16 = 0 := u16At_setChecksum long 0
  have replaced := wordSum_writeU16 (h.setChecksum 0).raw (i := 16) rfl
    (by rw [setChecksum, length_writeU16]; exact long) checksum
  rw [zero] at replaced
  exact replaced

variable {h : TcpHeader} {payload : List UInt8}

theorem finishChecksum_spec [Build] {pseudo : UInt32} {payloadLength : UInt16}
    (even : h.data.headerLength.toNat % 2 = 0) (raw : h.raw.length = h.data.headerLength.toNat)
    (long : 18 ≤ h.raw.length) (stated : payloadLength.toNat = payload.length) (small : pseudo.toNat < 2 ^ 21) :
    h.checkedFinishChecksum pseudo payloadLength payload = .ok (h.finishChecksum pseudo payloadLength payload) ∧
      fold (pseudo.toNat + (wordSum (h.finishChecksum pseudo payloadLength payload).raw + wordSum payload)) =
        65535 := by
  have byte := h.data.headerLength.toNat_lt
  have word := payloadLength.toNat_lt
  have header : (h.setChecksum 0).raw.take (h.setChecksum 0).data.headerLength.toNat = (h.setChecksum 0).raw := by
    apply List.take_of_length_le
    rw [setChecksum, length_writeU16, raw]
  have length : (h.setChecksum 0).raw.length = h.data.headerLength.toNat := by
    rw [setChecksum, length_writeU16, raw]
  have whole : payload.take payloadLength.toNat = payload := List.take_of_length_le (Nat.le_of_eq stated.symm)
  -- At most 255 bytes of header and 65535 of payload come to less than 24 bits of high-order sum.
  have headerHigh := highSum_le (h.setChecksum 0).raw
  have headerLow := lowSum_le (h.setChecksum 0).raw
  have payloadHigh := highSum_le payload
  have payloadLow := lowSum_le payload
  rw [length] at headerHigh headerLow
  have zero : (0 : UInt32).toNat = 0 := rfl
  obtain ⟨first, firstHigh, firstLow⟩ := addBytes_spec (h.setChecksum 0).raw 0 pseudo (by omega) (by omega)
  obtain ⟨second, secondHigh, secondLow⟩ := addBytes_spec payload
    (addBytes (h.setChecksum 0).raw 0 pseudo).1 (addBytes (h.setChecksum 0).raw 0 pseudo).2 (by omega) (by omega)
  rw [firstHigh] at secondHigh
  rw [firstLow] at secondLow
  simp only [finishChecksum, checkedFinishChecksum, header, whole, first, second, ok_bind]
  generalize addBytes payload _ _ = sums at secondHigh secondLow
  have shifted : (sums.1 <<< 8).toNat = sums.1.toNat * 256 := by
    rw [UInt32.toNat_shiftLeft, Nat.shiftLeft_eq]
    simp only [UInt32.reduceToNat, Nat.reduceMod, Nat.reducePow]
    omega
  obtain ⟨joined, total⟩ := addU32_ok (a := sums.2) (b := sums.1 <<< 8) (by omega)
  obtain ⟨folds, folded⟩ := foldCarries_spec (sums.2 + sums.1 <<< 8)
  refine ⟨by rw [joined, ok_bind, folds]; rfl, ?_⟩
  have sum : (sums.2 + sums.1 <<< 8).toNat =
      pseudo.toNat + wordSum (h.setChecksum 0).raw + wordSum payload := by
    rw [total, shifted, secondHigh, secondLow, wordSum_eq, wordSum_eq]
    omega
  have bound : (foldCarries (sums.2 + sums.1 <<< 8)).toNat < 65536 := by
    rw [folded]
    exact fold_lt _
  rw [wordSum_setChecksum long, toNat_complement bound, folded, sum]
  rw [show pseudo.toNat + (wordSum (h.setChecksum 0).raw +
      (65535 - fold (pseudo.toNat + wordSum (h.setChecksum 0).raw + wordSum payload)) + wordSum payload) =
      pseudo.toNat + wordSum (h.setChecksum 0).raw + wordSum payload +
      (65535 - fold (pseudo.toNat + wordSum (h.setChecksum 0).raw + wordSum payload)) by omega]
  exact fold_complement _

end TcpHeader

/-! ### The sum over the pseudo-header -/

/-- Words added one after the other, at any indices. -/
theorem addWords_spec [Build] (octets : List UInt8) (indices : List Nat) (sum : UInt32)
    (fits : sum.toNat + (indices.map fun i => (u16At octets (2 * i)).toNat).sum < 2 ^ 32) :
    indices.foldlM (fun sum i => addU32 sum (u16At octets (2 * i)).toUInt32) sum =
        .ok (indices.foldl (fun sum i => sum + (u16At octets (2 * i)).toUInt32) sum) ∧
      (indices.foldl (fun sum i => sum + (u16At octets (2 * i)).toUInt32) sum).toNat =
        sum.toNat + (indices.map fun i => (u16At octets (2 * i)).toNat).sum := by
  induction indices generalizing sum with
  | nil => exact ⟨rfl, rfl⟩
  | cons i rest ih =>
    rw [List.map_cons, List.sum_cons] at fits
    obtain ⟨added, toNat⟩ := addU32_ok (a := sum) (b := (u16At octets (2 * i)).toUInt32) (by
      rw [UInt16.toNat_toUInt32]; omega)
    rw [UInt16.toNat_toUInt32] at toNat
    obtain ⟨folds, total⟩ := ih (sum + (u16At octets (2 * i)).toUInt32) (by rw [toNat]; omega)
    rw [List.foldlM_cons, added, ok_bind, List.foldl_cons, List.map_cons, List.sum_cons]
    exact ⟨folds, by rw [total, toNat]; omega⟩

theorem sum_words_le (octets : List UInt8) (indices : List Nat) :
    (indices.map fun i => (u16At octets (2 * i)).toNat).sum ≤ 65535 * indices.length := by
  induction indices with
  | nil => simp
  | cons i rest ih =>
    have := (u16At octets (2 * i)).toNat_lt
    rw [List.map_cons, List.sum_cons, List.length_cons]
    omega

theorem checkedAddWords_spec [Build] {octets : List UInt8} (sum : UInt32) (sixteen : octets.length = 16)
    (small : sum.toNat < 2 ^ 20) :
    TcpHeader.checkedAddWords octets sum =
        .ok ((List.range 8).foldl (fun sum i => sum + (u16At octets (2 * i)).toUInt32) sum) ∧
      ((List.range 8).foldl (fun sum i => sum + (u16At octets (2 * i)).toUInt32) sum).toNat =
        sum.toNat + wordSum octets ∧ wordSum octets < 2 ^ 19 := by
  have words : wordSum octets = _ := wordSum_eq_sum (n := 8) sixteen
  have le := sum_words_le octets (List.range 8)
  rw [List.length_range] at le
  rw [words]
  obtain ⟨checked, total⟩ := addWords_spec octets (List.range 8) sum (by omega)
  exact ⟨checked, total, by omega⟩

theorem wordSum_pseudoHeader_v4 (protocol : UInt8) (d : Ipv4HeaderData) {length : Nat} (small : length < 65536) :
    wordSum (pseudoHeader protocol length (.v4 d)) =
      d.source.toNat / 65536 + d.source.toNat % 65536 + (d.destination.toNat / 65536 + d.destination.toNat % 65536) +
        (protocol.toNat + length) := by
  have word : length.toUInt16.toNat = length := UInt16.toNat_ofNat_of_lt' small
  rw [pseudoHeader, wordSum_append (by simp), wordSum_append (by simp), wordSum_append (by simp), wordSum_beBytes32,
    wordSum_beBytes32, wordSum_beBytes16, word]
  simp [wordSum]

theorem wordSum_pseudoHeader_v6 (protocol : UInt8) (d : Ipv6HeaderData) {length : Nat} (small : length < 65536)
    (addressed : IpHeaderData.Addressed (.v6 d)) :
    wordSum (pseudoHeader protocol length (.v6 d)) =
      wordSum d.source + wordSum d.destination + (length + protocol.toNat) := by
  obtain ⟨source, destination⟩ := addressed
  have word : length.toUInt32.toNat = length := by
    rw [Nat.toUInt32, UInt32.toNat_ofNat', Nat.mod_eq_of_lt (by omega)]
  rw [pseudoHeader, wordSum_append (by rw [List.length_append, source, destination]), wordSum_append (by rw [source]),
    wordSum_append (by simp), wordSum_beBytes32, word]
  simp [wordSum]
  omega

theorem even_pseudoHeader (protocol : UInt8) (length : Nat) {ip : IpHeaderData} (addressed : ip.Addressed) :
    (pseudoHeader protocol length ip).length % 2 = 0 := by
  cases ip with
  | v4 d => simp [pseudoHeader]
  | v6 d => simp [pseudoHeader, addressed.1, addressed.2]

namespace TcpHeader

def pseudoSumV4 (ip : Ipv4HeaderData) (transportLength : UInt16) : UInt32 :=
  (6 : UInt32) + ip.source >>> 16 + (ip.source &&& (0xFFFF : UInt32)) + ip.destination >>> 16 +
    (ip.destination &&& (0xFFFF : UInt32)) + transportLength.toUInt32

def pseudoSumV6 (ip : Ipv6HeaderData) (transportLength : UInt16) : UInt32 :=
  let words (octets : List UInt8) (sum : UInt32) :=
    (List.range 8).foldl (fun sum i => sum + (u16At octets (2 * i)).toUInt32) sum
  words ip.destination (words ip.source 0) + transportLength.toUInt32 + 6

/-- Nothing overflows, and the sum is that over the pseudo-header. -/
structure PseudoSum (checked : Checked UInt32) (sum : UInt32) (header : List UInt8) : Prop where
  runs : checked = .ok sum
  value : sum.toNat = wordSum header
  small : sum.toNat < 2 ^ 21

theorem pseudoSumV4_spec [Build] (ip : Ipv4HeaderData) (transportLength : UInt16) :
    PseudoSum (checkedPseudoSumV4 ip transportLength) (pseudoSumV4 ip transportLength)
      (pseudoHeader 6 transportLength.toNat (.v4 ip)) := by
  have wide : transportLength.toUInt32.toNat = transportLength.toNat := UInt16.toNat_toUInt32 _
  have total := transportLength.toNat_lt
  have source := ip.source.toNat_lt
  have destination := ip.destination.toNat_lt
  have sourceHigh := toNat_high ip.source
  have sourceLow := toNat_low ip.source
  have destinationHigh := toNat_high ip.destination
  have destinationLow := toNat_low ip.destination
  have six : (6 : UInt32).toNat = 6 := rfl
  have pseudo := wordSum_pseudoHeader_v4 6 ip total
  have protocol : (6 : UInt8).toNat = 6 := rfl
  obtain ⟨add₁, sum₁⟩ := addU32_ok (show (6 : UInt32).toNat + (ip.source >>> 16).toNat < 2 ^ 32 by omega)
  obtain ⟨add₂, sum₂⟩ := addU32_ok
    (show ((6 : UInt32) + ip.source >>> 16).toNat + (ip.source &&& (0xFFFF : UInt32)).toNat < 2 ^ 32 by omega)
  obtain ⟨add₃, sum₃⟩ := addU32_ok (a := (6 : UInt32) + ip.source >>> 16 + (ip.source &&& (0xFFFF : UInt32)))
    (b := ip.destination >>> 16) (by omega)
  obtain ⟨add₄, sum₄⟩ := addU32_ok
    (a := (6 : UInt32) + ip.source >>> 16 + (ip.source &&& (0xFFFF : UInt32)) + ip.destination >>> 16)
    (b := ip.destination &&& (0xFFFF : UInt32)) (by omega)
  obtain ⟨add₅, sum₅⟩ := addU32_ok
    (a := (6 : UInt32) + ip.source >>> 16 + (ip.source &&& (0xFFFF : UInt32)) + ip.destination >>> 16 +
      (ip.destination &&& (0xFFFF : UInt32))) (b := transportLength.toUInt32) (by omega)
  refine ⟨?_, ?_, ?_⟩
  · rw [checkedPseudoSumV4, add₁, ok_bind, add₂, ok_bind, add₃, ok_bind, add₄, ok_bind, add₅]
    rfl
  · rw [pseudoSumV4]; omega
  · rw [pseudoSumV4]; omega

theorem pseudoSumV6_spec [Build] (ip : Ipv6HeaderData) (transportLength : UInt16)
    (addressed : IpHeaderData.Addressed (.v6 ip)) :
    PseudoSum (checkedPseudoSumV6 ip transportLength) (pseudoSumV6 ip transportLength)
      (pseudoHeader 6 transportLength.toNat (.v6 ip)) := by
  have wide : transportLength.toUInt32.toNat = transportLength.toNat := UInt16.toNat_toUInt32 _
  have total := transportLength.toNat_lt
  have zero : (0 : UInt32).toNat = 0 := rfl
  have six : (6 : UInt32).toNat = 6 := rfl
  have pseudo := wordSum_pseudoHeader_v6 6 ip total addressed
  have protocol : (6 : UInt8).toNat = 6 := rfl
  obtain ⟨source, sum₁, small₁⟩ := checkedAddWords_spec 0 addressed.1 (by omega)
  obtain ⟨destination, sum₂, small₂⟩ := checkedAddWords_spec
    ((List.range 8).foldl (fun sum i => sum + (u16At ip.source (2 * i)).toUInt32) 0) addressed.2 (by omega)
  obtain ⟨add₃, sum₃⟩ := addU32_ok (b := transportLength.toUInt32)
    (a := (List.range 8).foldl (fun sum i => sum + (u16At ip.destination (2 * i)).toUInt32)
      ((List.range 8).foldl (fun sum i => sum + (u16At ip.source (2 * i)).toUInt32) 0)) (by omega)
  obtain ⟨add₄, sum₄⟩ := addU32_ok (b := 6)
    (a := (List.range 8).foldl (fun sum i => sum + (u16At ip.destination (2 * i)).toUInt32)
      ((List.range 8).foldl (fun sum i => sum + (u16At ip.source (2 * i)).toUInt32) 0) +
      transportLength.toUInt32) (by omega)
  refine ⟨?_, ?_, ?_⟩
  · rw [checkedPseudoSumV6, source, ok_bind, destination, ok_bind, add₃, ok_bind, add₄]
    rfl
  · unfold pseudoSumV6; dsimp only; omega
  · unfold pseudoSumV6; dsimp only; omega

variable {h : TcpHeader} {ip : IpHeaderData} {payload : List UInt8}

theorem checkedPayloadLength_spec [Build] (payload : List UInt8) {transportLength : UInt16}
    (offset : ∃ words, 5 ≤ words ∧ words ≤ 15 ∧ h.data.headerLength.toNat = 4 * words)
    (stated : transportLength.toNat = h.data.headerLength.toNat + payload.length) :
    h.checkedPayloadLength transportLength payload = .ok (transportLength - h.data.headerLength.toUInt16) ∧
      (transportLength - h.data.headerLength.toUInt16).toNat = payload.length := by
  obtain ⟨words, least, most, header⟩ := offset
  have long : h.data.headerLength.toUInt16.toNat = h.data.headerLength.toNat := UInt8.toNat_toUInt16 _
  obtain ⟨subtracted, rest⟩ := subU16_ok (a := transportLength) (b := h.data.headerLength.toUInt16) (by omega)
  have length : (transportLength - h.data.headerLength.toUInt16).toNat = payload.length := by omega
  have even : (h.data.headerLength.toNat % 2 == 0 && decide (20 ≤ h.data.headerLength.toNat)) = true := by
    simp only [Bool.and_eq_true, beq_iff_eq, decide_eq_true_eq]
    omega
  refine ⟨?_, length⟩
  rw [checkedPayloadLength, debugAssert_ok even, ok_bind, subtracted, ok_bind,
    debugAssert_ok (by rw [length]; exact beq_self_eq_true _), ok_bind]
  rfl

/-- A header that a checksum is written in: no step panics, and a receiver accepts the sum. -/
structure Summed [Build] (h : TcpHeader) (ip : IpHeaderData) (payload : List UInt8) : Prop where
  checked : h.checkedUpdateChecksum ip payload = .ok (h.updateChecksum ip payload)
  folded : fold (wordSum (pseudoHeader 6 (h.raw.length + payload.length) ip) +
    (wordSum (h.updateChecksum ip payload).raw + wordSum payload)) = 65535

theorem summed [Build] (consistent : h.Consistent ip payload) : Summed h ip payload := by
  obtain ⟨offset, raw, stated, addressed⟩ := consistent
  have ⟨words, least, most, four⟩ := offset
  cases ip with
  | v4 d =>
    rw [IpHeaderData.transportLength] at stated
    have headerLength : d.headerLength.toUInt16.toNat = d.headerLength.toNat := UInt8.toNat_toUInt16 _
    obtain ⟨transport, toNat⟩ := subU16_ok (a := d.totalLength) (b := d.headerLength.toUInt16) (by omega)
    have length : (d.totalLength - d.headerLength.toUInt16).toNat = h.raw.length + payload.length := by omega
    obtain ⟨payloadLength, payload_eq⟩ := checkedPayloadLength_spec payload offset (by rw [length, raw])
    obtain ⟨pseudo, sum, small⟩ := pseudoSumV4_spec d (d.totalLength - d.headerLength.toUInt16)
    obtain ⟨finished, folded⟩ := finishChecksum_spec (by omega) raw (by omega) payload_eq small
    rw [sum, length] at folded
    refine ⟨?_, folded⟩
    rw [checkedUpdateChecksum, checkedUpdateChecksumV4, transport, ok_bind, payloadLength, ok_bind, pseudo, ok_bind]
    exact finished
  | v6 d =>
    have length : d.payloadLength.toNat = h.raw.length + payload.length := stated
    obtain ⟨payloadLength, payload_eq⟩ := checkedPayloadLength_spec payload offset (by rw [length, raw])
    obtain ⟨pseudo, sum, small⟩ := pseudoSumV6_spec d d.payloadLength addressed
    obtain ⟨finished, folded⟩ := finishChecksum_spec (by omega) raw (by omega) payload_eq small
    rw [sum, length] at folded
    refine ⟨?_, folded⟩
    rw [checkedUpdateChecksum, checkedUpdateChecksumV6, payloadLength, ok_bind, pseudo, ok_bind]
    exact finished

theorem byteAt_setChecksum_other (long : 18 ≤ h.raw.length) {i : Nat} (first : i ≠ 16) (second : i ≠ 17)
    (checksum : UInt16) : byteAt (h.setChecksum checksum).raw i = byteAt h.raw i :=
  byteAt_writeU16_other long (by omega)

theorem byteAt_updateChecksum_other (long : 18 ≤ h.raw.length) {i : Nat} (first : i ≠ 16) (second : i ≠ 17) :
    byteAt (h.updateChecksum ip payload).raw i = byteAt h.raw i := by
  have finished (pseudo : UInt32) (payloadLength : UInt16) :
      byteAt (h.finishChecksum pseudo payloadLength payload).raw i = byteAt h.raw i := by
    rw [finishChecksum]
    dsimp only
    rw [byteAt_setChecksum_other (by rw [setChecksum, length_writeU16]; exact long) first second,
      byteAt_setChecksum_other long first second]
  cases ip with
  | v4 d => exact finished _ _
  | v6 d => exact finished _ _

/-- Whatever checksum was there before, no addition overflows, the new one completes the sum over
the pseudo-header, the header and the padded payload, and no other byte is written. -/
theorem update_checksum [Build] (h : TcpHeader) (ip : IpHeaderData) (payload : List UInt8)
    (consistent : h.Consistent ip payload) :
    h.checkedUpdateChecksum ip payload = .ok (h.updateChecksum ip payload) ∧
      fold (wordSum (pseudoHeader 6 (h.raw.length + payload.length) ip ++ (h.updateChecksum ip payload).raw ++
        padded payload)) = 0xFFFF ∧
      (h.updateChecksum ip payload).raw.length = h.raw.length ∧
      ∀ i, i ≠ 16 → i ≠ 17 → byteAt (h.updateChecksum ip payload).raw i = byteAt h.raw i := by
  have ⟨words, least, most, four⟩ := consistent.offset
  have raw := consistent.raw
  obtain ⟨checked, folded⟩ := summed consistent
  have length := length_raw_updateChecksum h ip payload
  have even := even_pseudoHeader 6 (h.raw.length + payload.length) consistent.addressed
  refine ⟨checked, ?_, length, fun i first second => byteAt_updateChecksum_other (by omega) first second⟩
  rw [wordSum_append (by rw [List.length_append, length]; omega), wordSum_append even, wordSum_padded,
    Nat.add_assoc]
  exact folded

/-- The header of a TCP packet with a checksum that is not its own. -/
def staleHeader : TcpHeader where
  raw := [0x12, 0x34, 0x56, 0x78, 0, 0, 1, 0x11, 0, 0, 2, 0x22, 0x50, 0, 0, 0, 0, 0x79, 0, 0]
  data := .ofRaw [0x12, 0x34, 0x56, 0x78, 0, 0, 1, 0x11, 0, 0, 2, 0x22, 0x50, 0, 0, 0]

def staleIpHeader : IpHeaderData :=
  .v4 { headerLength := 20, totalLength := 45, protocol := .tcp, source := 0x12345678, destination := 0xA2A24242 }

theorem update_checksum_odd :
    let _ : Build := { overflowChecks := true }
    staleHeader.checkedUpdateChecksum staleIpHeader [0x11, 0x22, 0xEE, 0xFF, 0x88] =
        .ok (staleHeader.updateChecksum staleIpHeader [0x11, 0x22, 0xEE, 0xFF, 0x88]) ∧
      fold (wordSum (pseudoHeader 6 25 staleIpHeader ++
        (staleHeader.updateChecksum staleIpHeader [0x11, 0x22, 0xEE, 0xFF, 0x88]).raw ++
        padded [0x11, 0x22, 0xEE, 0xFF, 0x88])) = 0xFFFF :=
  let _ : Build := { overflowChecks := true }
  have sums := update_checksum staleHeader staleIpHeader [0x11, 0x22, 0xEE, 0xFF, 0x88]
    ⟨⟨5, by decide, by decide, by decide⟩, by decide, by decide, trivial⟩
  ⟨sums.1, sums.2.1⟩

end TcpHeader

end Gnirehtet.Relay
