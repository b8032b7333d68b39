import Gnirehtet.Lib.Decimal

/-!
# Networks of the VPN

A network is written as an address and the length of its prefix. The length is whatever `Integer.parseInt`
takes, and 32 when it is not written. What `InetAddress` makes of a text, and how it prints an address, is
a parameter.
-/

namespace Gnirehtet.App
open Lib

inductive InetAddress where
  | inet4 (address : Vector UInt8 4)
  | inet6 (address : Vector UInt8 16)
  deriving DecidableEq

/-- The length of the address, in bits. -/
def InetAddress.bits : InetAddress → Nat
  | .inet4 _ => 32
  | .inet6 _ => 128

/-- `InetAddress.getByName`, which fails with an `UnknownHostException`, and `getHostAddress`. -/
structure Resolver where
  getByName : String → Option InetAddress
  getHostAddress : InetAddress → String

inductive IllegalArgumentException where
  | unknownHost
  | numberFormat
  deriving DecidableEq

structure InvalidCIDRException where
  cidr : String
  cause : IllegalArgumentException
  deriving DecidableEq

/-- The zeros of the decimal digits of the Basic Multilingual Plane. The other nine follow each. -/
def digitZeros : List Nat :=
  [0x0030, 0x0660, 0x06F0, 0x07C0, 0x0966, 0x09E6, 0x0A66, 0x0AE6, 0x0B66, 0x0BE6, 0x0C66, 0x0CE6, 0x0D66, 0x0DE6,
    0x0E50, 0x0ED0, 0x0F20, 0x1040, 0x1090, 0x17E0, 0x1810, 0x1946, 0x19D0, 0x1A80, 0x1A90, 0x1B50, 0x1BB0, 0x1C40,
    0x1C50, 0xA620, 0xA8D0, 0xA900, 0xA9D0, 0xA9F0, 0xAA50, 0xABF0, 0xFF10]

/-- `Character.digit` with radix 10, for a digit. -/
def characterDigit (c : Char) : Option Nat :=
  (digitZeros.find? fun first => first ≤ c.toNat ∧ c.toNat < first + 10).map (c.toNat - ·)

/-- `Integer.parseInt`, where `none` is a `NumberFormatException`. -/
def parseInt : List Char → Option Int32 := int32Numeral characterDigit

def toInetAddress (r : Resolver) (address : String) : Except IllegalArgumentException InetAddress :=
  match r.getByName address with
  | some found => .ok found
  | none => .error .unknownHost

structure CIDR where
  address : InetAddress
  prefixLength : Int32
  deriving DecidableEq

namespace CIDR

def parse (r : Resolver) (cidr : String) : Except InvalidCIDRException CIDR :=
  let parsed : Except IllegalArgumentException CIDR :=
    match cidr.toList.idxOf? '/' with
    | some slashIndex => do
      let address ← toInetAddress r (String.ofList (cidr.toList.take slashIndex))
      match parseInt (cidr.toList.drop (slashIndex + 1)) with
      | some length => return { address, prefixLength := length }
      | none => .error .numberFormat
    | none => do
      let address ← toInetAddress r cidr
      return { address, prefixLength := 32 }
  match parsed with
  | .ok c => .ok c
  | .error cause => .error { cidr, cause }

protected def toString (r : Resolver) (c : CIDR) : String :=
  r.getHostAddress c.address ++ "/" ++ toString c.prefixLength.toInt

/-! ### What is to be parsed -/

/-- The length of a prefix: a numeral of the digits 0 to 9 that does not exceed the length of the address. -/
def prefixLength? (bits : Nat) (p : List Char) : Option Nat :=
  match numeral asciiDigit p with
  | some n => if n ≤ bits then some n else none
  | none => none

/-- The text behind the slash is taken for a length when it is one, and for nothing else. -/
def Exact (r : Resolver) (literal : String) (address : InetAddress) (p : String) : Prop :=
  match prefixLength? address.bits p.toList with
  | some n => ∃ c, parse r (literal ++ "/" ++ p) = .ok c ∧ c.address = address ∧ c.prefixLength.toInt = n
  | none => ∃ e, parse r (literal ++ "/" ++ p) = .error e

/-- A numeral that is no length: it has a sign, or another digit than 0 to 9, or is too large. -/
inductive Lax (bits : Nat) : List Char → Prop where
  | minus {text : List Char} {n : Nat} : numeral characterDigit text = some n → n ≤ 2 ^ 31 → Lax bits ('-' :: text)
  | plus {text : List Char} {n : Nat} : numeral characterDigit text = some n → n < 2 ^ 31 → Lax bits ('+' :: text)
  | foreign {text : List Char} {n : Nat} : numeral characterDigit text = some n → n < 2 ^ 31 →
    (∃ c ∈ text, c.isDigit = false) → Lax bits text
  | large {text : List Char} {n : Nat} : numeral asciiDigit text = some n → bits < n → n < 2 ^ 31 → Lax bits text

theorem characterDigit_ascii (c : Char) (h : c.isDigit) : characterDigit c = asciiDigit c := by
  have range : 48 ≤ c.toNat ∧ c.toNat < 48 + 10 := by
    simp only [Char.isDigit, Bool.and_eq_true, decide_eq_true_eq] at h
    exact ⟨h.1, Nat.lt_succ_of_le h.2⟩
  rw [characterDigit, asciiDigit, if_pos h, digitZeros, List.find?_cons_of_pos (by simpa using range)]
  rfl

/-- A numeral of the digits 0 to 9 is what it says. -/
theorem parseInt_ascii {text : List Char} {n : Nat} (value : numeral asciiDigit text = some n) (small : n < 2 ^ 31) :
    ∃ length, parseInt text = some length ∧ length.toInt = n := by
  have digits := (numeral_ascii value).2
  rw [← numeral_congr fun c member => characterDigit_ascii c (digits c member)] at value
  exact int32Numeral_some (signedNumeral_of_numeral rfl rfl value) (by omega) (by omega)

theorem prefixLength?_some {bits n : Nat} {text : List Char} (h : prefixLength? bits text = some n) :
    numeral asciiDigit text = some n ∧ n ≤ bits := by
  unfold prefixLength? at h
  split at h
  · rename_i value
    split at h
    · rename_i fits
      cases h
      exact ⟨value, fits⟩
    · cases h
  · cases h

theorem prefixLength?_eq_none {text : List Char} (bits : Nat) (other : ∃ c ∈ text, c.isDigit = false) :
    prefixLength? bits text = none := by
  obtain ⟨c, member, other⟩ := other
  rw [Option.eq_none_iff_forall_ne_some]
  intro n found
  rw [(numeral_ascii (prefixLength?_some found).1).2 c member] at other
  cases other

/-- What is too lax is taken, and is no length. -/
theorem Lax.spec {bits : Nat} {text : List Char} (lax : Lax bits text) :
    (∃ length, parseInt text = some length) ∧ prefixLength? bits text = none := by
  cases lax with
  | @minus digits n value small =>
    have signed : signedNumeral characterDigit ('-' :: digits) = some (-(n : Int)) := by rw [signedNumeral, value]; rfl
    obtain ⟨length, parsed, -⟩ := int32Numeral_some signed (by omega) (by omega)
    exact ⟨⟨length, parsed⟩, prefixLength?_eq_none bits ⟨'-', List.mem_cons_self, rfl⟩⟩
  | @plus digits n value small =>
    have signed : signedNumeral characterDigit ('+' :: digits) = some (n : Int) := by rw [signedNumeral, value]; rfl
    obtain ⟨length, parsed, -⟩ := int32Numeral_some signed (by omega) (by omega)
    exact ⟨⟨length, parsed⟩, prefixLength?_eq_none bits ⟨'+', List.mem_cons_self, rfl⟩⟩
  | foreign value small other =>
    obtain ⟨length, parsed, -⟩ := int32Numeral_some (signedNumeral_of_numeral rfl rfl value) (by omega) (by omega)
    exact ⟨⟨length, parsed⟩, prefixLength?_eq_none bits other⟩
  | large value big small =>
    obtain ⟨length, parsed, -⟩ := parseInt_ascii value small
    refine ⟨⟨length, parsed⟩, ?_⟩
    rw [prefixLength?, value]
    exact if_neg (by omega)

theorem lax_of_parseInt {bits : Nat} {text : List Char} {length : Int32} (parsed : parseInt text = some length)
    (other : prefixLength? bits text = none) : Lax bits text := by
  have low := length.le_toInt
  have high := length.toInt_lt
  rcases signedNumeral_some (int32Numeral_spec parsed) with
    ⟨rest, n, rfl, value, same⟩ | ⟨rest, n, rfl, value, same⟩ | ⟨n, value, same⟩
  · exact .minus value (by omega)
  · exact .plus value (by omega)
  · by_cases foreign : ∃ c ∈ text, c.isDigit = false
    · exact .foreign value (by omega) foreign
    · have digits : ∀ c ∈ text, c.isDigit := by
        intro c member
        by_contra other
        exact foreign ⟨c, member, Bool.eq_false_iff.mpr other⟩
      rw [numeral_congr fun c member => characterDigit_ascii c (digits c member)] at value
      rw [prefixLength?, value] at other
      refine .large value ?_ (by omega)
      by_contra fits
      simp [Nat.le_of_not_lt fits] at other

/-! ### The parser -/

section Parse
variable {r : Resolver} {literal : String} {address : InetAddress}

theorem parse_slash (found : r.getByName literal = some address) (slash : '/' ∉ literal.toList) (p : String) :
    parse r (literal ++ "/" ++ p) =
      match parseInt p.toList with
      | some length => .ok { address, prefixLength := length }
      | none => .error { cidr := literal ++ "/" ++ p, cause := .numberFormat } := by
  have text : (literal ++ "/" ++ p).toList = literal.toList ++ '/' :: p.toList := by simp
  have index : (literal.toList ++ '/' :: p.toList).idxOf? '/' = some literal.toList.length := by
    have inside : literal.toList.findIdx? (· == '/') = none := List.idxOf?_eq_none_iff.mpr slash
    rw [List.idxOf?, List.findIdx?_append, inside, List.findIdx?_cons, if_pos (beq_self_eq_true '/')]
    simp
  have front : String.ofList ((literal.toList ++ '/' :: p.toList).take literal.toList.length) = literal := by
    rw [List.take_left, String.ofList_toList]
  have back : (literal.toList ++ '/' :: p.toList).drop (literal.toList.length + 1) = p.toList := by simp
  unfold parse toInetAddress
  simp only [text, index, front, back, found]
  cases parseInt p.toList <;> rfl

theorem parse_plain (found : r.getByName literal = some address) (slash : '/' ∉ literal.toList) :
    parse r literal = .ok { address, prefixLength := 32 } := by
  unfold parse toInetAddress
  rw [List.idxOf?_eq_none_iff.mpr slash]
  simp only [found]
  rfl

end Parse

/-- The address of a network was found for some text. -/
theorem parse_found {r : Resolver} {cidr : String} {c : CIDR} (h : parse r cidr = .ok c) :
    ∃ text, r.getByName text = some c.address := by
  unfold parse toInetAddress at h
  cases index : cidr.toList.idxOf? '/' with
  | some slashIndex =>
    simp only [index] at h
    cases found : r.getByName (String.ofList (cidr.toList.take slashIndex)) with
    | none =>
      simp only [found] at h
      cases h
    | some address =>
      simp only [found] at h
      cases length : parseInt (cidr.toList.drop (slashIndex + 1)) <;> simp only [length] at h <;> cases h
      exact ⟨_, found⟩
  | none =>
    simp only [index] at h
    cases found : r.getByName cidr <;> simp only [found] at h <;> cases h
    exact ⟨_, found⟩

/-- What is printed for an address that was found is found again, and has no slash. -/
def Resolver.Prints (r : Resolver) : Prop :=
  ∀ text address, r.getByName text = some address →
    r.getByName (r.getHostAddress address) = some address ∧ '/' ∉ (r.getHostAddress address).toList

theorem parse_toString {r : Resolver} (prints : Resolver.Prints r) {cidr : String} {c : CIDR} (h : parse r cidr = .ok c) :
    parse r (c.toString r) = .ok c := by
  obtain ⟨text, found⟩ := parse_found h
  obtain ⟨again, slash⟩ := prints text c.address found
  rw [CIDR.toString, parse_slash again slash, parseInt, int32Numeral_toString characterDigit_ascii]

theorem exact_iff {r : Resolver} {literal : String} {address : InetAddress} (found : r.getByName literal = some address)
    (slash : '/' ∉ literal.toList) (p : String) : Exact r literal address p ↔ ¬ Lax address.bits p.toList := by
  have bits : address.bits ≤ 128 := by cases address <;> simp [InetAddress.bits]
  unfold Exact
  rw [parse_slash found slash]
  split
  · rename_i n length
    obtain ⟨value, fits⟩ := prefixLength?_some length
    obtain ⟨i, parsed, same⟩ := parseInt_ascii value (by omega)
    rw [parsed]
    refine ⟨fun _ lax => ?_, fun _ => ⟨_, rfl, rfl, same⟩⟩
    rw [lax.spec.2] at length
    cases length
  · rename_i none
    cases parsed : parseInt p.toList with
    | none =>
      refine ⟨fun _ lax => ?_, fun _ => ⟨_, rfl⟩⟩
      obtain ⟨i, some⟩ := lax.spec.1
      rw [parsed] at some
      cases some
    | some i =>
      refine ⟨fun ⟨e, failed⟩ => ?_, fun strict => absurd (lax_of_parseInt parsed none) strict⟩
      cases failed

/-- A text behind the slash is taken for a length by the rules exactly when it is not a lax numeral, the
length of the address is the one that is not written exactly for IPv4, and what is printed is parsed. -/
theorem parse_spec {r : Resolver} (prints : Resolver.Prints r) {literal : String} {address : InetAddress}
    (found : r.getByName literal = some address) (slash : '/' ∉ literal.toList) (p : String) :
    (Exact r literal address p ↔ ¬ Lax address.bits p.toList) ∧
    ((∃ c, parse r literal = .ok c ∧ c.address = address ∧ c.prefixLength.toInt = address.bits) ↔
      ∃ bytes, address = .inet4 bytes) ∧
    ∀ cidr c, cidr = literal ++ "/" ++ p ∨ cidr = literal → parse r cidr = .ok c → parse r (c.toString r) = .ok c := by
  refine ⟨exact_iff found slash p, ?_, fun cidr c _ parsed => parse_toString prints parsed⟩
  rw [parse_plain found slash]
  cases address with
  | inet4 bytes => exact ⟨fun _ => ⟨bytes, rfl⟩, fun _ => ⟨_, rfl, rfl, rfl⟩⟩
  | inet6 bytes =>
    constructor
    · rintro ⟨c, parsed, -, length⟩
      cases parsed
      have other : (32 : Int32).toInt ≠ 128 := by decide
      exact absurd length other
    · rintro ⟨other, same⟩
      cases same

def tenNet : InetAddress := .inet4 #v[10, 0, 0, 0]

def loopback6 : InetAddress := .inet6 #v[0, 0, 0, 0, 0, 0, 0, 0, 0, 0, 0, 0, 0, 0, 0, 1]

/-- A resolver of two addresses. -/
def twoAddresses : Resolver where
  getByName text :=
    if text = "10.0.0.0" then some tenNet
    else if text = "::1" ∨ text = "0:0:0:0:0:0:0:1" then some loopback6
    else none
  getHostAddress
    | .inet4 bytes => ".".intercalate (bytes.toList.map fun b => toString b.toNat)
    | .inet6 bytes => ":".intercalate ((List.range 8).map fun i =>
      String.ofList (Nat.toDigits 16 (bytes.toList[2 * i]!.toNat * 256 + bytes.toList[2 * i + 1]!.toNat)))

theorem twoAddresses_prints : Resolver.Prints twoAddresses := by
  have ten : twoAddresses.getHostAddress tenNet = "10.0.0.0" := by decide
  have loopback : twoAddresses.getHostAddress loopback6 = "0:0:0:0:0:0:0:1" := by decide
  intro text address found
  unfold twoAddresses at found
  simp only at found
  split at found
  · cases found
    rw [ten]
    exact ⟨rfl, by decide⟩
  · split at found
    · cases found
      rw [loopback]
      exact ⟨rfl, by decide⟩
    · cases found

theorem parse_tenNet : Exact twoAddresses "10.0.0.0" tenNet "8" :=
  (parse_spec twoAddresses_prints rfl (by decide) "8").1.mpr fun lax => absurd lax.spec.2 (by decide)

/-- A length that is too large is taken, and a single IPv6 host has the length of an IPv4 one. -/
theorem parse_wide : ¬ Exact twoAddresses "10.0.0.0" tenNet "33" ∧
    parse twoAddresses "::1" = .ok { address := loopback6, prefixLength := 32 } := by
  constructor
  · rw [exact_iff rfl (by decide), not_not]
    exact .large (show numeral asciiDigit _ = some 33 from rfl) (by decide) (by decide)
  · exact parse_plain rfl (by decide)

end CIDR

end Gnirehtet.App
