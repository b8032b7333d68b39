import Gnirehtet.Lib.Reads
import Gnirehtet.Relay.Datagram
import Gnirehtet.Relay.IpHeader

/-!
# The SOCKS5 negotiation

With a proxy, a connection first asks the proxy for the destination and takes the stream over when the
proxy agrees. The relay's side of RFC 1928 stands here, and what its section 4 says about requests and
replies, on which an application's data follow directly.
-/

namespace Gnirehtet.Relay
open Lib

inductive SocketAddr where
  | v4 (ip : UInt32) (port : UInt16)
  | v6 (ip : Ipv6Addr) (port : UInt16)
  deriving DecidableEq

namespace SocketAddr

def port : SocketAddr → UInt16
  | v4 _ port => port
  | v6 _ port => port

end SocketAddr

namespace Socks5

/-! ### RFC 1928, section 4 -/

inductive Command where
  | connect
  | bind
  | udpAssociate
  deriving DecidableEq, Repr

inductive Address where
  | ipv4 (ip : UInt32)
  | domain (name : { octets : List UInt8 // octets.length < 256 })
  | ipv6 (ip : Ipv6Addr)
  deriving DecidableEq

/-- The address type and the address behind it. -/
def Address.encode : Address → List UInt8
  | ipv4 ip => 0x01 :: beBytes32 ip
  | domain name => 0x03 :: UInt8.ofNat name.1.length :: name.1
  | ipv6 ip => 0x04 :: ip.1

def decodeCommand (byte : UInt8) : Option Command :=
  if byte = 0x01 then some .connect
  else if byte = 0x02 then some .bind
  else if byte = 0x03 then some .udpAssociate
  else none

def decodeIpv4 (rest : List UInt8) : Option (Address × List UInt8) :=
  if 4 ≤ rest.length then some (.ipv4 (u32At rest 0), rest.drop 4) else none

def decodeDomain : List UInt8 → Option (Address × List UInt8)
  | [] => none
  | len :: rest =>
    if len.toNat ≤ rest.length then
      some (.domain ⟨rest.take len.toNat, Nat.lt_of_le_of_lt (List.length_take_le ..) len.toNat_lt⟩,
        rest.drop len.toNat)
    else none

def decodeIpv6 (rest : List UInt8) : Option (Address × List UInt8) :=
  if long : 16 ≤ rest.length then some (.ipv6 ⟨rest.take 16, List.length_take_of_le long⟩, rest.drop 16) else none

def decodeAddress : List UInt8 → Option (Address × List UInt8)
  | [] => none
  | type :: rest =>
    if type = 0x01 then decodeIpv4 rest
    else if type = 0x03 then decodeDomain rest
    else if type = 0x04 then decodeIpv6 rest
    else none

def decodeRequest : List UInt8 → Option (Command × Address × UInt16)
  | version :: command :: reserved :: rest => do
    if version ≠ 0x05 ∨ reserved ≠ 0x00 then none
    let command ← decodeCommand command
    let (address, rest) ← decodeAddress rest
    if rest.length ≠ 2 then none
    return (command, address, u16At rest 0)
  | _ => none

/-- A server's answer: the method without authentication, then a success with the bound address. -/
def answer (bound : Address) (port : UInt16) : List UInt8 :=
  [0x05, 0x00] ++ ([0x05, 0x00, 0x00] ++ bound.encode ++ beBytes16 port)

def Address.ofSocketAddr : SocketAddr → Address
  | .v4 ip _ => .ipv4 ip
  | .v6 ip _ => .ipv6 ip

/-! ### The stream to the proxy -/

/-- How a stream goes on once all its bytes are read, when it does not end. -/
inductive Hold where
  | silent
  | failed (e : ErrorKind)
  deriving DecidableEq, Repr

/-- Why the negotiation does not go on: an error, or a read for which no byte comes. -/
inductive Stop where
  | waits
  | io (e : ErrorKind)
  | unexpectedEof
  | other (message : String)
  deriving DecidableEq, Repr

structure Socket where
  source : Source Hold UInt8
  sent : List UInt8
  /-- The number of bytes that the peer still takes, where that is limited. -/
  takes : Option Nat
  nonblocking : Bool

abbrev Talk := EStateM Stop Socket

def setNonblocking (nonblocking : Bool) : Talk Unit := fun s => .ok () { s with nonblocking }

def writeAll (bytes : List UInt8) : Talk Unit := fun s =>
  match s.takes with
  | none => .ok () { s with sent := s.sent ++ bytes }
  | some n =>
    if bytes.length ≤ n then .ok () { s with sent := s.sent ++ bytes, takes := some (n - bytes.length) }
    else .error (.io .other) { s with sent := s.sent ++ bytes.take n, takes := some 0 }

def stop (nonblocking : Bool) : Option Hold → Stop
  | none => .unexpectedEof
  | some .silent => if nonblocking then .io .wouldBlock else .waits
  | some (.failed e) => .io e

def readExact (n : Nat) : Talk (List UInt8) := fun s =>
  match s.source.readExact n with
  | .ok (bytes, source) => .ok bytes { s with source }
  | .error e => .error (stop s.nonblocking e) s

/-! ### The relay -/

def buildSocks5ConnectRequest (destination : SocketAddr) : List UInt8 :=
  let portBe := beBytes16 destination.port
  let request := [0x05, 0x01, 0x00]
  let request :=
    match destination with
    | .v4 ip _ => request ++ [0x01] ++ beBytes32 ip
    | .v6 ip _ => request ++ [0x04] ++ ip.1
  request ++ portBe

def greeting : List UInt8 := [0x05, 0x01, 0x00]

def negotiateMethod : Talk Unit := do
  writeAll greeting
  let response ← readExact 2
  if response ≠ [0x05, 0x00] then
    throw (.other s!"SOCKS5 handshake failed: expected [0x05, 0x00], got {response}")

/-- The bytes behind the address type. The length of a domain name is read here, and counted again. -/
def remainingLen (addrType : UInt8) : Talk Nat :=
  if addrType = 0x01 then return 4 + 2
  else if addrType = 0x03 then do
    let lenByte ← readExact 1
    return (byteAt lenByte 0).toNat + 1 + 2
  else if addrType = 0x04 then return 16 + 2
  else throw (.other s!"SOCKS5 unknown address type: {addrType}")

def parseReply : Talk Unit := do
  let reply ← readExact 4
  if byteAt reply 0 ≠ 0x05 ∨ byteAt reply 1 ≠ 0x00 then
    throw (.other s!"SOCKS5 connect failed: reply={reply}")
  else
    let remainingLen ← remainingLen (byteAt reply 3)
    if 0 < remainingLen then
      let _ ← readExact remainingLen

/-- On the stream that is connected to the proxy. -/
def connectViaSocks5 (destination : SocketAddr) : Talk Unit := do
  setNonblocking false
  negotiateMethod
  writeAll (buildSocks5ConnectRequest destination)
  parseReply
  setNonblocking true

/-! ### Requests -/

theorem u32At_beBytes32 (v : UInt32) (rest : List UInt8) : u32At (beBytes32 v ++ rest) 0 = v := by
  rw [u32At_append_left (by rw [length_beBytes32]; omega)]
  have four : 0 + 4 ≤ ([0, 0, 0, 0] : List UInt8).length := by decide
  have written := u32At_writeU32 four v
  rwa [writeU32, overwrite_start (by rw [length_beBytes32]; decide), List.drop_of_length_le (by
    rw [length_beBytes32]; decide), List.append_nil] at written

theorem decodeAddress_encode (address : Address) (rest : List UInt8) :
    decodeAddress (address.encode ++ rest) = some (address, rest) := by
  cases address with
  | ipv4 ip =>
    show decodeIpv4 (beBytes32 ip ++ rest) = _
    rw [decodeIpv4, if_pos (by rw [List.length_append, length_beBytes32]; omega), u32At_beBytes32]
    rfl
  | domain name =>
    have number : (UInt8.ofNat name.1.length).toNat = name.1.length := UInt8.toNat_ofNat_of_lt' name.2
    show decodeDomain (UInt8.ofNat name.1.length :: (name.1 ++ rest)) = _
    simp only [decodeDomain, number, List.length_append, Nat.le_add_right, if_true, List.take_left, List.drop_left]
  | ipv6 ip =>
    show decodeIpv6 (ip.1 ++ rest) = _
    rw [decodeIpv6, dif_pos (by rw [List.length_append, ip.2]; omega)]
    simp only [List.take_left' ip.2, List.drop_left' ip.2]

theorem buildSocks5ConnectRequest_eq (destination : SocketAddr) : buildSocks5ConnectRequest destination =
    [0x05, 0x01, 0x00] ++ ((Address.ofSocketAddr destination).encode ++ beBytes16 destination.port) := by
  cases destination <;> rfl

/-- The request asks for a connection to exactly the destination. -/
theorem decodeRequest_build (destination : SocketAddr) : decodeRequest (buildSocks5ConnectRequest destination) =
    some (.connect, .ofSocketAddr destination, destination.port) := by
  rw [buildSocks5ConnectRequest_eq]
  show (decodeCommand 0x01 >>= fun command => decodeAddress (_ ++ beBytes16 destination.port) >>= _) = _
  rw [decodeAddress_encode]
  show some (Command.connect, _, u16At (beBytes16 destination.port) 0) = _
  rw [u16At_beBytes16]

/-! ### The two replies -/

section Runs
variable {α β : Type} {x : Talk α} {f : α → Talk β} {s s' : Socket}

theorem bind_run {a : α} (ran : x.run s = .ok a s') : (x >>= f).run s = (f a).run s' := by
  rw [EStateM.run] at ran
  show EStateM.bind x f s = _
  rw [EStateM.bind, ran]
  rfl

theorem bind_stop {e : Stop} (stopped : x.run s = .error e s') : (x >>= f).run s = .error e s' := by
  rw [EStateM.run] at stopped
  show EStateM.bind x f s = _
  rw [EStateM.bind, stopped]

theorem writeAll_run (takes : s.takes = none) (bytes : List UInt8) :
    (writeAll bytes).run s = .ok () { s with sent := s.sent ++ bytes } := by
  rw [EStateM.run, writeAll, takes]

theorem readExact_run {front rest : List UInt8} {n : Nat} (content : s.source.content = front ++ rest)
    (length : front.length = n) : ∃ source, (readExact n).run s = .ok front { s with source } ∧
      source.content = rest ∧ source.ending = s.source.ending := by
  obtain ⟨source, read, left, ending⟩ := Source.readExact_append content
  rw [length] at read
  exact ⟨source, by rw [EStateM.run, readExact, read], left, ending⟩

theorem readExact_stop {n : Nat} (short : s.source.content.length < n) :
    (readExact n).run s = .error (stop s.nonblocking s.source.stopped) s := by
  rw [EStateM.run, readExact, Source.readExact_short short]

end Runs

section Method
variable {s : Socket} {rest : List UInt8} (takes : s.takes = none)
include takes

theorem negotiateMethod_run (content : s.source.content = [0x05, 0x00] ++ rest) : ∃ source,
    negotiateMethod.run s = .ok () { s with source, sent := s.sent ++ greeting } ∧ source.content = rest ∧
      source.ending = s.source.ending := by
  have greeted : ({ s with sent := s.sent ++ greeting } : Socket).source.content = [0x05, 0x00] ++ rest := content
  obtain ⟨source, read, left, ending⟩ := readExact_run (n := 2) greeted rfl
  refine ⟨source, ?_, left, ending⟩
  rw [negotiateMethod, bind_run (writeAll_run takes greeting), bind_run read]
  rfl

theorem negotiateMethod_stop {response : List UInt8} (two : response.length = 2) (other : response ≠ [0x05, 0x00])
    (content : s.source.content = response ++ rest) :
    ∃ message s', negotiateMethod.run s = .error (.other message) s' := by
  have greeted : ({ s with sent := s.sent ++ greeting } : Socket).source.content = response ++ rest := content
  obtain ⟨source, read, _⟩ := readExact_run greeted two
  rw [negotiateMethod, bind_run (writeAll_run takes greeting), bind_run read, if_pos other]
  exact ⟨_, _, rfl⟩

end Method

/-- A first part of a reply that is an error. -/
def Refused (reply : List UInt8) : Prop :=
  byteAt reply 0 ≠ 0x05 ∨ byteAt reply 1 ≠ 0x00 ∨ byteAt reply 3 ∉ ([0x01, 0x03, 0x04] : List UInt8)

theorem parseReply_stop {s : Socket} {reply rest : List UInt8} (four : reply.length = 4) (refused : Refused reply)
    (content : s.source.content = reply ++ rest) : ∃ message s', parseReply.run s = .error (.other message) s' := by
  obtain ⟨source, read, _⟩ := readExact_run content four
  rw [parseReply, bind_run read]
  by_cases failed : byteAt reply 0 ≠ 0x05 ∨ byteAt reply 1 ≠ 0x00
  · rw [if_pos failed]
    exact ⟨_, _, rfl⟩
  · have unknown : byteAt reply 3 ∉ ([0x01, 0x03, 0x04] : List UInt8) := by
      rcases refused with version | status | unknown
      · exact absurd (Or.inl version) failed
      · exact absurd (Or.inr status) failed
      · exact unknown
    simp only [List.mem_cons, List.not_mem_nil, or_false, not_or] at unknown
    obtain ⟨noIpv4, noDomain, noIpv6⟩ := unknown
    have stops : (remainingLen (byteAt reply 3)).run { s with source } =
        .error (.other s!"SOCKS5 unknown address type: {byteAt reply 3}") { s with source } := by
      rw [remainingLen, if_neg noIpv4, if_neg noDomain, if_neg noIpv6]
      rfl
    rw [if_neg failed, bind_stop stops]
    exact ⟨_, _, rfl⟩

/-- The reply up to its address type leads to the reading of as many bytes as are counted for the type. -/
theorem parseReply_run {s : Socket} {type : UInt8} {rest : List UInt8}
    (content : s.source.content = [0x05, 0x00, 0x00, type] ++ rest) : ∃ source,
    source.content = rest ∧ source.ending = s.source.ending ∧ parseReply.run s =
      (remainingLen type >>= fun n => if 0 < n then readExact n >>= fun _ => pure () else pure ()).run
        { s with source } := by
  obtain ⟨source, read, left, ending⟩ := readExact_run (n := 4) content rfl
  refine ⟨source, left, ending, ?_⟩
  rw [parseReply, bind_run read, if_neg (by simp [byteAt])]
  rfl

theorem parseReply_exact {s : Socket} {bound : Address} {data : List UInt8}
    (port : UInt16) (numeric : ∀ name, bound ≠ .domain name)
    (content : s.source.content = [0x05, 0x00, 0x00] ++ bound.encode ++ beBytes16 port ++ data) :
    ∃ source, parseReply.run s = .ok () { s with source } ∧ source.content = data ∧
      source.ending = s.source.ending := by
  -- The bytes behind an address type of fixed length.
  have fixed {type : UInt8} {address : List UInt8} {n : Nat}
      (count : ∀ s', (remainingLen type).run s' = .ok (n + 2) s') (length : address.length = n)
      (encoded : bound.encode = type :: address) : ∃ source, parseReply.run s = .ok () { s with source } ∧
        source.content = data ∧ source.ending = s.source.ending := by
    rw [encoded] at content
    have split : s.source.content = [0x05, 0x00, 0x00, type] ++ (address ++ beBytes16 port ++ data) := by
      rw [content]
      simp only [List.cons_append, List.nil_append, List.append_assoc]
    obtain ⟨first, left, ending, run⟩ := parseReply_run split
    have behind : ({ s with source := first } : Socket).source.content = (address ++ beBytes16 port) ++ data := left
    obtain ⟨source, read, kept, ending'⟩ := readExact_run behind (n := n + 2) (by
      rw [List.length_append, length, length_beBytes16])
    refine ⟨source, ?_, kept, ending'.trans ending⟩
    rw [run, bind_run (count _), if_pos (by omega), bind_run read]
    rfl
  cases bound with
  | ipv4 ip => exact fixed (n := 4) (fun s' => rfl) (length_beBytes32 ip) rfl
  | domain name => exact absurd rfl (numeric name)
  | ipv6 ip => exact fixed (n := 16) (fun s' => rfl) ip.2 rfl

/-- After a domain name one byte more is read than the reply has. -/
theorem parseReply_domain {s : Socket} {name : { octets : List UInt8 // octets.length < 256 }} {data : List UInt8}
    (port : UInt16)
    (content : s.source.content = [0x05, 0x00, 0x00] ++ (Address.domain name).encode ++ beBytes16 port ++ data) :
    (data = [] → ∃ source, parseReply.run s = .error (stop s.nonblocking s.source.stopped) { s with source }) ∧
      ∀ first rest, data = first :: rest → ∃ source, parseReply.run s = .ok () { s with source } ∧
        source.content = rest ∧ source.ending = s.source.ending := by
  have split : s.source.content =
      [0x05, 0x00, 0x00, 0x03] ++ ([UInt8.ofNat name.1.length] ++ (name.1 ++ beBytes16 port ++ data)) := by
    rw [content, Address.encode]
    simp only [List.cons_append, List.nil_append, List.append_assoc]
  obtain ⟨counted, left, ending, run⟩ := parseReply_run split
  have number : (UInt8.ofNat name.1.length).toNat = name.1.length := UInt8.toNat_ofNat_of_lt' name.2
  have behind : ({ s with source := counted } : Socket).source.content =
      [UInt8.ofNat name.1.length] ++ (name.1 ++ beBytes16 port ++ data) := left
  obtain ⟨source, read, kept, ending'⟩ := readExact_run (n := 1) behind rfl
  have count : (remainingLen 0x03).run { s with source := counted } =
      .ok (name.1.length + 1 + 2) { s with source } := by
    rw [remainingLen, if_neg (by decide), if_pos rfl, bind_run read]
    show EStateM.Result.ok ((UInt8.ofNat name.1.length).toNat + 1 + 2) _ = _
    rw [number]
  rw [bind_run count, if_pos (by omega)] at run
  have rest : ({ s with source } : Socket).source.content = name.1 ++ beBytes16 port ++ data := kept
  constructor
  · rintro rfl
    have stopped := readExact_stop (n := name.1.length + 1 + 2) (by
      rw [rest]
      simp only [List.length_append, length_beBytes16, List.length_nil]
      omega)
    have same : source.stopped = s.source.stopped := by
      rw [Source.stopped, Source.stopped, ending', ← ending]
    exact ⟨source, by rw [run, bind_stop stopped, same]⟩
  · rintro first later rfl
    have eaten : ({ s with source } : Socket).source.content = (name.1 ++ beBytes16 port ++ [first]) ++ later := by
      rw [rest]
      simp only [List.append_assoc, List.singleton_append]
    obtain ⟨last, read', done, ending''⟩ := readExact_run (n := name.1.length + 1 + 2) eaten (by
      rw [List.length_append, List.length_append, length_beBytes16, List.length_singleton])
    refine ⟨last, ?_, done, ending''.trans (ending'.trans ending)⟩
    rw [run, bind_run read']
    rfl

/-! ### The negotiation -/

/-- The stream after a call, also of one that stopped. -/
def state : EStateM.Result Stop Socket Unit → Socket
  | .ok _ s => s
  | .error _ s => s

section Negotiation
variable {destination : SocketAddr} {s : Socket} (takes : s.takes = none)
include takes

/-- After the greeting the request is sent and the reply is parsed. -/
theorem connectViaSocks5_run {rest : List UInt8} (content : s.source.content = [0x05, 0x00] ++ rest) : ∃ asked : Socket,
    asked.sent = s.sent ++ greeting ++ buildSocks5ConnectRequest destination ∧ asked.source.content = rest ∧
      asked.nonblocking = false ∧ asked.source.ending = s.source.ending ∧
      (connectViaSocks5 destination).run s = (parseReply >>= fun _ => setNonblocking true).run asked := by
  have blocking : ({ s with nonblocking := false } : Socket).source.content = [0x05, 0x00] ++ rest := content
  obtain ⟨source, negotiated, left, ending⟩ :=
    negotiateMethod_run (s := { s with nonblocking := false }) takes blocking
  refine ⟨{ s with
    source
    sent := s.sent ++ greeting ++ buildSocks5ConnectRequest destination
    nonblocking := false }, rfl, left, rfl, ending, ?_⟩
  have start : (setNonblocking false).run s = .ok () { s with nonblocking := false } := rfl
  have request := writeAll_run (s := { s with
    source
    sent := s.sent ++ greeting
    nonblocking := false }) takes (buildSocks5ConnectRequest destination)
  rw [connectViaSocks5, bind_run start, bind_run negotiated, bind_run request]

theorem connectViaSocks5_method {response rest : List UInt8} (two : response.length = 2)
    (other : response ≠ [0x05, 0x00]) (content : s.source.content = response ++ rest) :
    ∃ message s', (connectViaSocks5 destination).run s = .error (.other message) s' := by
  have start : (setNonblocking false).run s = .ok () { s with nonblocking := false } := rfl
  obtain ⟨message, s', stopped⟩ := negotiateMethod_stop (s := { s with nonblocking := false }) takes two other content
  exact ⟨message, s', by rw [connectViaSocks5, bind_run start, bind_stop stopped]⟩

theorem connectViaSocks5_refused {reply rest : List UInt8} (four : reply.length = 4) (refused : Refused reply)
    (content : s.source.content = [0x05, 0x00] ++ (reply ++ rest)) :
    ∃ message s', (connectViaSocks5 destination).run s = .error (.other message) s' := by
  obtain ⟨asked, _, left, _, _, run⟩ := connectViaSocks5_run takes content
  obtain ⟨message, s', stopped⟩ := parseReply_stop four refused left
  exact ⟨message, s', by rw [run, bind_stop stopped]⟩

/-- A well-formed answer is consumed exactly, whatever its division, when its address is numeric. -/
theorem connectViaSocks5_exact_iff {bound : Address} {port : UInt16} {data : List UInt8}
    (content : s.source.content = answer bound port ++ data) :
    (state ((connectViaSocks5 destination).run s)).sent =
        s.sent ++ greeting ++ buildSocks5ConnectRequest destination ∧
      ((∃ s', (connectViaSocks5 destination).run s = .ok () s' ∧ s'.source.content = data) ↔
        ∀ name, bound ≠ .domain name) := by
  have split : s.source.content = [0x05, 0x00] ++ ([0x05, 0x00, 0x00] ++ bound.encode ++ beBytes16 port ++ data) := by
    rw [content, answer]
    simp only [List.append_assoc]
  obtain ⟨asked, sent, left, _, _, run⟩ := connectViaSocks5_run takes split
  by_cases numeric : ∀ name, bound ≠ .domain name
  · obtain ⟨source, parsed, kept, _⟩ := parseReply_exact port numeric left
    rw [bind_run parsed] at run
    exact ⟨by rw [run]; exact sent, iff_of_true ⟨_, run, kept⟩ numeric⟩
  · obtain ⟨name, rfl⟩ : ∃ name, bound = .domain name := by
      by_contra none
      exact numeric fun name same => none ⟨name, same⟩
    obtain ⟨nothing, some⟩ := parseReply_domain port left
    cases data with
    | nil =>
      obtain ⟨source, stopped⟩ := nothing rfl
      rw [bind_stop stopped] at run
      refine ⟨by rw [run]; exact sent, iff_of_false ?_ numeric⟩
      rintro ⟨s', ok, _⟩
      rw [run] at ok
      cases ok
    | cons first rest =>
      obtain ⟨source, parsed, kept, _⟩ := some first rest rfl
      rw [bind_run parsed] at run
      refine ⟨by rw [run]; exact sent, iff_of_false ?_ numeric⟩
      rintro ⟨s', ok, all⟩
      rw [run] at ok
      cases ok
      exact absurd (kept.symm.trans all) (List.cons_ne_self first rest).symm

/-- An answer with a domain name and nothing behind it: the relay waits for one byte more. -/
theorem connectViaSocks5_waits {name : { octets : List UInt8 // octets.length < 256 }} {port : UInt16}
    (content : s.source.content = answer (.domain name) port) (silent : s.source.ending = .error .silent) :
    ∃ s', (connectViaSocks5 destination).run s = .error .waits s' := by
  have split : s.source.content =
      [0x05, 0x00] ++ ([0x05, 0x00, 0x00] ++ (Address.domain name).encode ++ beBytes16 port ++ []) := by
    rw [content, answer, List.append_nil]
  obtain ⟨asked, _, left, blocking, ending, run⟩ := connectViaSocks5_run takes split
  obtain ⟨source, stopped⟩ := (parseReply_domain port left).1 rfl
  rw [bind_stop stopped, Source.stopped, ending, silent, blocking] at run
  exact ⟨_, run⟩

end Negotiation

/-- The request decodes to the destination; a well-formed answer is consumed exactly, whatever its division,
when its address is numeric; another version, status or address type is an error. -/
theorem negotiates_iff (destination : SocketAddr) (s : Socket) (takes : s.takes = none) :
    decodeRequest (buildSocks5ConnectRequest destination) =
      some (.connect, .ofSocketAddr destination, destination.port) ∧
    (∀ bound port data, s.source.content = answer bound port ++ data →
      (state ((connectViaSocks5 destination).run s)).sent =
          s.sent ++ greeting ++ buildSocks5ConnectRequest destination ∧
        ((∃ s', (connectViaSocks5 destination).run s = .ok () s' ∧ s'.source.content = data) ↔
          ∀ name, bound ≠ .domain name)) ∧
    (∀ response rest, response.length = 2 → response ≠ [0x05, 0x00] → s.source.content = response ++ rest →
      ∃ message s', (connectViaSocks5 destination).run s = .error (.other message) s') ∧
    ∀ reply rest, reply.length = 4 → Refused reply → s.source.content = [0x05, 0x00] ++ (reply ++ rest) →
      ∃ message s', (connectViaSocks5 destination).run s = .error (.other message) s' :=
  ⟨decodeRequest_build destination, fun _ _ _ => connectViaSocks5_exact_iff takes,
    fun _ _ => connectViaSocks5_method takes, fun _ _ => connectViaSocks5_refused takes⟩

/-- A stream on which the proxy keeps silent after these pieces. -/
def Socket.ofPieces (pieces : List (List UInt8)) (nonempty : ∀ piece ∈ pieces, piece ≠ []) : Socket where
  source := { pieces, nonempty, ending := .error .silent }
  sent := []
  takes := none
  nonblocking := true

def dns : SocketAddr := .v4 0x08080808 53

def hostName : { octets : List UInt8 // octets.length < 256 } := ⟨[0x68, 0x69], by decide⟩

theorem negotiates_divided : ∃ s', (connectViaSocks5 dns).run (.ofPieces
      [[5], [0, 5, 0], [0, 1, 127, 0, 0], [1, 0x1F, 0x90, 0x48], [0x54, 0x54, 0x50]] (by decide)) = .ok () s' ∧
    s'.source.content = [0x48, 0x54, 0x54, 0x50] :=
  ((negotiates_iff dns _ rfl).2.1 (.ipv4 0x7F000001) 8080 [0x48, 0x54, 0x54, 0x50] rfl).2.mpr
    fun name same => by cases same

/-- Behind a reply with a domain name the first byte of the server is lost, and without one the relay waits. -/
theorem domain_eats_byte :
    (∃ s', (connectViaSocks5 dns).run (.ofPieces [answer (.domain hostName) 80 ++ [0x48, 0x54]] (by decide)) =
        .ok () s' ∧ s'.source.content = [0x54]) ∧
      ∃ s', (connectViaSocks5 dns).run (.ofPieces [answer (.domain hostName) 80] (by decide)) = .error .waits s' := by
  constructor
  · obtain ⟨asked, _, left, _, _, run⟩ := @connectViaSocks5_run dns
      (.ofPieces [answer (.domain hostName) 80 ++ [0x48, 0x54]] (by decide)) rfl _ rfl
    obtain ⟨source, parsed, kept, _⟩ := (parseReply_domain 80 left).2 0x48 [0x54] rfl
    exact ⟨_, by rw [run, bind_run parsed]; rfl, kept⟩
  · exact connectViaSocks5_waits rfl rfl rfl

end Socks5

end Gnirehtet.Relay
