import Gnirehtet.Lib.Loop
import Gnirehtet.Lib.Words
import Gnirehtet.Relay.IpPacketBuffer

/-!
# Tracking the devices of the adb daemon

The daemon answers `OKAY` and then sends packets: four hexadecimal digits of length and a text with
one line for each device. The bytes are collected in a buffer that belongs to the monitor. A session
is what is done with one connection.
-/

namespace Gnirehtet.Adb
open Lib Relay

inductive AdbError where
  /-- What `connect`, `write_all` or `read` answered. -/
  | stream
  /-- "ADB daemon closed the track-devices connexion" -/
  | unexpectedEof
  /-- "Cannot read hexa length as UTF-8" -/
  | lengthNotUtf8
  /-- "Cannot parse hexa length" -/
  | lengthNotHexa
  /-- "Packet size should not be that big" -/
  | packetTooBig (len : Nat)
  /-- "Track-devices string is not valid UTF-8" -/
  | textNotUtf8
  | panic (p : Panic)
  deriving DecidableEq

def AdbError.lift {α : Type} : Checked α → Except AdbError α
  | .ok a => .ok a
  | .error p => .error (.panic p)

/-! ### The stream -/

/-- What reads find after the last byte. -/
inductive Ending where
  | eof
  | error
  deriving DecidableEq

/-- A connection to the daemon. A read finds the bytes of the first chunk. -/
structure TcpStream where
  accepts : Bool
  chunks : List (List UInt8)
  ending : Ending
  nonempty : ∀ chunk ∈ chunks, chunk ≠ []

namespace TcpStream

/-- The bytes that have not been read. -/
def bytes (s : TcpStream) : List UInt8 := s.chunks.flatten

/-- A read into a slice of `room` bytes. -/
def read (s : TcpStream) (room : Nat) : Except AdbError (List UInt8 × TcpStream) :=
  match h : s.chunks with
  | [] =>
    match s.ending with
    | .eof => .ok ([], s)
    | .error => .error .stream
  | chunk :: rest =>
    .ok (chunk.take room,
      { s with
        chunks := if chunk.drop room = [] then rest else chunk.drop room :: rest
        nonempty := by
          have later := s.nonempty
          rw [h] at later
          intro c member
          split at member
          · exact later c (List.mem_cons_of_mem chunk member)
          · rcases List.mem_cons.mp member with rfl | member
            · assumption
            · exact later c (List.mem_cons_of_mem chunk member) })

theorem read_spec {s s' : TcpStream} {room : Nat} {found : List UInt8} (h : s.read room = .ok (found, s')) :
    found ++ s'.bytes = s.bytes ∧ found.length ≤ room ∧ s'.ending = s.ending := by
  unfold read at h
  split at h
  · rename_i empty
    cases ending : s.ending with
    | eof =>
      rw [ending] at h
      cases h
      exact ⟨rfl, Nat.zero_le _, ending⟩
    | error =>
      rw [ending] at h
      cases h
  · rename_i chunk rest chunks
    cases h
    refine ⟨?_, List.length_take_le _ _, rfl⟩
    simp only [bytes, chunks, List.flatten_cons]
    split
    · rename_i whole
      rw [List.take_of_length_le (List.drop_eq_nil_iff.mp whole)]
    · rw [List.flatten_cons, ← List.append_assoc, List.take_append_drop]

/-- While bytes are left, a read with room for some finds some. -/
theorem read_some {s : TcpStream} {room : Nat} (left : s.bytes ≠ []) (enough : 0 < room) :
    ∃ found s', s.read room = .ok (found, s') ∧ found ≠ [] := by
  unfold read
  split
  · rename_i empty
    exact absurd (by rw [bytes, empty]; rfl) left
  · rename_i chunk rest chunks
    refine ⟨_, _, rfl, ?_⟩
    have first : chunk ≠ [] := s.nonempty chunk (by rw [chunks]; exact List.mem_cons_self)
    have := List.length_pos_iff.mpr first
    rw [← List.length_pos_iff, List.length_take]
    omega

/-- A read fails when no bytes are left and the stream does not end well, and only then. -/
theorem read_error_iff (s : TcpStream) (room : Nat) :
    (∃ e, s.read room = .error e) ↔ s.bytes = [] ∧ s.ending = .error := by
  unfold read
  split
  · rename_i empty
    have none : s.bytes = [] := by
      rw [bytes, empty]
      rfl
    cases ending : s.ending <;> simp [none]
  · rename_i chunk rest chunks
    have first : chunk ≠ [] := s.nonempty chunk (by rw [chunks]; exact List.mem_cons_self)
    simp [bytes, chunks, first]

end TcpStream

/-! ### The buffer and the stream of one session -/

def bufferSize : Nat := 65536

structure Connection where
  buf : ByteBuffer
  stream : TcpStream

namespace Connection

/-- The bytes of the buffer and those that follow them. -/
def bytes (c : Connection) : List UInt8 := c.buf.peek ++ c.stream.bytes

/-- The buffer has its size, which no function here changes. -/
def Sized (c : Connection) : Prop := c.buf.buf.length = bufferSize

/-- `self.buf.read_from(stream)` -/
def readFrom (c : Connection) : Except AdbError (Bool × Connection) := do
  let (found, stream) ← c.stream.read c.buf.room
  let read := c.buf.readFrom found
  return (read.2, { buf := read.1, stream })

/-- A read that fails, or that finds nothing, leaves everything as it was. -/
def fillBufferFrom (c : Connection) : Except AdbError Connection :=
  match c.readFrom with
  | .ok (false, _) => .error .unexpectedEof
  | .ok (true, c') => .ok c'
  | .error e => .error e

theorem readFrom_spec {c c' : Connection} {nonempty : Bool} (h : c.readFrom = .ok (nonempty, c')) :
    c'.bytes = c.bytes ∧ (c'.Sized ↔ c.Sized) ∧
      c'.stream.bytes.length + (c'.buf.peek.length - c.buf.peek.length) = c.stream.bytes.length ∧
      (nonempty = true ↔ c.buf.peek.length < c'.buf.peek.length) ∧ c'.stream.ending = c.stream.ending := by
  obtain ⟨⟨found, stream⟩, reads, rest⟩ := bind_ok h
  obtain ⟨rfl, rfl⟩ := Prod.mk.inj (Except.ok.inj rest)
  obtain ⟨bytes, fits, ending⟩ := TcpStream.read_spec reads
  have peek : (c.buf.readFrom found).1.peek = c.buf.peek ++ found := by
    rw [ByteBuffer.peek_readFrom, List.take_of_length_le fits]
  have total := congrArg List.length bytes
  rw [List.length_append] at total
  refine ⟨?_, ?_, ?_, ?_, ?_⟩
  · rw [Connection.bytes, peek, List.append_assoc, bytes, Connection.bytes]
  · simp only [Sized, ByteBuffer.readFrom, length_overwrite]
  · simp only [peek, List.length_append]
    omega
  · have room : (c.buf.readFrom found).2 = true ↔ 0 < found.length := by
      rw [ByteBuffer.readFrom, decide_eq_true_eq, List.length_take]
      simp only [ByteBuffer.room] at fits
      omega
    rw [room, peek, List.length_append]
    omega
  · exact ending

theorem readFrom_error_iff {c : Connection} :
    (∃ e, c.readFrom = .error e) ↔ c.stream.bytes = [] ∧ c.stream.ending = .error := by
  rw [← TcpStream.read_error_iff c.stream c.buf.room, readFrom]
  cases c.stream.read c.buf.room with
  | ok found => simp [ok_bind, pure, Except.pure]
  | error failure => simp

theorem fillBufferFrom_spec {c c' : Connection} (h : c.fillBufferFrom = .ok c') :
    c'.bytes = c.bytes ∧ (c'.Sized ↔ c.Sized) ∧ c'.stream.bytes.length < c.stream.bytes.length := by
  unfold fillBufferFrom at h
  split at h
  · cases h
  · rename_i reads
    cases h
    obtain ⟨bytes, sized, moved, grows, -⟩ := readFrom_spec reads
    have := grows.mp rfl
    exact ⟨bytes, sized, by omega⟩
  · cases h

/-- A buffer with room is filled while bytes are left. -/
theorem fillBufferFrom_some {c : Connection} (left : c.stream.bytes ≠ []) (enough : 0 < c.buf.room) :
    ∃ c', c.fillBufferFrom = .ok c' := by
  obtain ⟨found, stream, reads, some⟩ := TcpStream.read_some left enough
  have fits := (TcpStream.read_spec reads).2.1
  have more : (c.buf.readFrom found).2 = true := (ByteBuffer.readFrom_some ..).mpr ⟨some, enough⟩
  refine ⟨{ buf := (c.buf.readFrom found).1, stream }, ?_⟩
  have whole : c.readFrom = .ok (true, { buf := (c.buf.readFrom found).1, stream }) := by
    rw [readFrom, reads]
    exact congrArg (fun b => Except.ok (b, _)) more
  rw [fillBufferFrom, whole]

end Connection

/-! ### Packets -/

/-- `char::to_digit` with radix 16. -/
def hexDigit (b : UInt8) : Option Nat :=
  if 48 ≤ b ∧ b ≤ 57 then some (b.toNat - 48)
  else if 97 ≤ b ∧ b ≤ 102 then some (b.toNat - 87)
  else if 65 ≤ b ∧ b ≤ 70 then some (b.toNat - 55)
  else none

def hexValue (digits : List Nat) : Nat := digits.foldl (16 * · + ·) 0

/-- `u32::from_str_radix` with radix 16, which takes a sign before the digits. -/
def fromStrRadix16 (src : List UInt8) : Option Nat :=
  let digits := match src with
    | 43 :: rest => rest
    | _ => src
  if digits = [] then none
  else match digits.mapM hexDigit with
    | some ds => if hexValue ds < 2 ^ 32 then some (hexValue ds) else none
    | none => none

def utf8 (s : String) : List UInt8 := s.toByteArray.data.toList

/-- `String::from_utf8` -/
def fromUtf8 (data : List UInt8) : Option String := String.fromUTF8? ⟨data.toArray⟩

theorem fromUtf8_utf8 (s : String) : fromUtf8 (utf8 s) = some s := by
  have bytes : ByteArray.mk (utf8 s).toArray = s.toByteArray := rfl
  rw [fromUtf8, bytes, String.fromUTF8?, dif_pos s.isValidUTF8]
  rfl

def parseLength (data : List UInt8) : Except AdbError Nat :=
  if data.length = 4 then
    match fromUtf8 data with
    | none => .error .lengthNotUtf8
    | some _ =>
      match fromStrRadix16 data with
      | none => .error .lengthNotHexa
      | some len => .ok len
  else .error (.panic .assertion)

/-- The size of the packet at the front of the input, when it is complete. -/
def availablePacketLength (input : List UInt8) : Except AdbError (Option Nat) :=
  if input.length < 4 then .ok none
  else do
    let len ← parseLength (input.take 4)
    if len > bufferSize then .error (.packetTooBig len)
    else return if input.length - 4 ≥ len then some (4 + len) else none

def binaryToString (data : List UInt8) : Except AdbError String :=
  match fromUtf8 data with
  | some content => .ok content
  | none => .error .textNotUtf8

def readPacket (buf : ByteBuffer) : Except AdbError (Option (String × ByteBuffer)) := do
  match ← availablePacketLength buf.peek with
  | some len =>
    let data ← binaryToString ((buf.peek.take len).drop 4)
    let buf ← AdbError.lift (buf.consume len)
    return some (data, buf)
  | none => return none

/-- The bytes are one packet with this text, and fit in the buffer. -/
structure Decodes (frame : List UInt8) (text : String) : Prop where
  long : 4 ≤ frame.length
  length : parseLength (frame.take 4) = .ok (frame.length - 4)
  content : fromUtf8 (frame.drop 4) = some text
  fits : frame.length ≤ bufferSize

/-- The header says where the packet ends, whatever follows it. -/
theorem availablePacketLength_whole {frame rest : List UInt8} (long : 4 ≤ frame.length)
    (length : parseLength (frame.take 4) = .ok (frame.length - 4)) (small : frame.length - 4 ≤ bufferSize) :
    availablePacketLength (frame ++ rest) = .ok (some frame.length) := by
  have enough : frame.length - 4 ≤ (frame ++ rest).length - 4 := by
    rw [List.length_append]
    omega
  rw [availablePacketLength, if_neg (by rw [List.length_append]; omega), List.take_append_of_le_length long, length,
    ok_bind, if_neg (by omega), if_pos enough, show 4 + (frame.length - 4) = frame.length by omega]
  rfl

theorem availablePacketLength_part {frame input : List UInt8}
    (length : parseLength (frame.take 4) = .ok (frame.length - 4)) (small : frame.length - 4 ≤ bufferSize)
    (part : input <+: frame) (short : input.length < frame.length) : availablePacketLength input = .ok none := by
  unfold availablePacketLength
  split
  · rfl
  · have start : input.take 4 = frame.take 4 := by
      rw [List.prefix_iff_eq_take.mp part, List.take_take, Nat.min_eq_left (by omega)]
    rw [start, length, ok_bind, if_neg (by omega), if_neg (by omega)]
    rfl

/-- A packet is read off the front of the buffer when all of it is there. -/
theorem readPacket_whole {frame : List UInt8} {text : String} (h : Decodes frame text) {buf : ByteBuffer}
    {rest : List UInt8} (front : buf.peek = frame ++ rest) :
    ∃ buf', readPacket buf = .ok (some (text, buf')) ∧ buf'.peek = rest ∧ buf'.buf.length = buf.buf.length := by
  have fits := h.fits
  have whole : frame.length ≤ buf.peek.length := by
    rw [front, List.length_append]
    omega
  obtain ⟨buf', consumes, left, size⟩ := ByteBuffer.consume_spec buf whole
  have length : availablePacketLength buf.peek = .ok (some frame.length) := by
    rw [front]
    exact availablePacketLength_whole h.long h.length (by omega)
  refine ⟨buf', ?_, by rw [left, front, List.drop_left], size⟩
  rw [readPacket, length]
  simp only [ok_bind, front, List.take_left', binaryToString, h.content, consumes, AdbError.lift]
  rfl

/-- Nothing is read while a part is missing. -/
theorem readPacket_part {frame : List UInt8} (length : parseLength (frame.take 4) = .ok (frame.length - 4))
    (small : frame.length - 4 ≤ bufferSize) {buf : ByteBuffer} (part : buf.peek <+: frame)
    (short : buf.peek.length < frame.length) : readPacket buf = .ok none := by
  rw [readPacket, availablePacketLength_part length small part short]
  rfl

/-- A complete packet has four bytes of length before it. -/
theorem availablePacketLength_some {input : List UInt8} {len : Nat}
    (h : availablePacketLength input = .ok (some len)) :
    ∃ n, len = 4 + n ∧ parseLength (input.take 4) = .ok n ∧ len ≤ input.length := by
  unfold availablePacketLength at h
  split at h
  · cases h
  · obtain ⟨n, parsed, h⟩ := bind_ok h
    split at h
    · cases h
    · split at h
      · cases h
        exact ⟨n, rfl, parsed, by omega⟩
      · cases h

/-- What is read was a packet at the front of the buffer. -/
theorem readPacket_some {buf buf' : ByteBuffer} {text : String} (h : readPacket buf = .ok (some (text, buf'))) :
    ∃ frame, 4 ≤ frame.length ∧ (buf.buf.length = bufferSize → Decodes frame text) ∧
      buf.peek = frame ++ buf'.peek ∧ buf'.buf.length = buf.buf.length := by
  obtain ⟨answer, available, h⟩ := bind_ok h
  cases answer with
  | none => cases h
  | some len =>
    obtain ⟨data, content, h⟩ := bind_ok h
    obtain ⟨after, consumes, h⟩ := bind_ok h
    cases h
    obtain ⟨n, rfl, parsed, whole⟩ := availablePacketLength_some available
    obtain ⟨b, consumed, left, size⟩ := ByteBuffer.consume_spec buf whole
    rw [consumed] at consumes
    cases consumes
    have room := buf.head_le
    rw [← ByteBuffer.length_peek] at room
    have inside : (buf.peek.take (4 + n)).length = 4 + n := by
      rw [List.length_take]
      omega
    refine ⟨buf.peek.take (4 + n), by omega, fun sized => ⟨by omega, ?_, ?_, by omega⟩, ?_, size⟩
    · rw [List.take_take, Nat.min_eq_left (by omega), parsed, inside]
      congr 1
      omega
    · unfold binaryToString at content
      split at content
      · rename_i found
        cases content
        exact found
      · cases content
    · rw [left, List.take_append_drop]

/-- Without bytes nothing fails and nothing is read. -/
theorem readPacket_nil {buf : ByteBuffer} (empty : buf.peek = []) : readPacket buf = .ok none := by
  rw [readPacket, empty]
  rfl

/-! ### The loops of a session -/

namespace Connection

def okay : List UInt8 := [79, 75, 65, 89]

/-- One turn of the loop of `consume_okay`. That a read finds nothing is not looked at. -/
def okayTurn (c : Connection) : Flow (AdbError × Connection) Connection :=
  if c.buf.peek.length < 4 then
    match c.readFrom with
    | .ok (_, c') => .next c'
    | .error e => .fail (e, c)
  else .stop c

def consumeOkay (fuel : Nat) (c : Connection) : Option (Except (AdbError × Connection) (Bool × Connection)) :=
  match loop okayTurn fuel c with
  | none => none
  | some (.error failure) => some (.error failure)
  | some (.ok c) =>
    let ok := decide (c.buf.peek.take 4 = okay)
    match c.buf.consume 4 with
    | .ok buf => some (.ok (ok, { c with buf }))
    | .error p => some (.error (.panic p, c))

def nextPacket (c : Connection) : Except (AdbError × Connection) (String × Connection) :=
  match readPacket c.buf with
  | .error e => .error (e, c)
  | .ok (some (packet, buf)) => .ok (packet, { c with buf })
  | .ok none =>
    match _ : c.fillBufferFrom with
    | .error e => .error (e, c)
    | .ok c' => c'.nextPacket
termination_by c.stream.bytes.length
decreasing_by exact (fillBufferFrom_spec ‹_›).2.2

theorem nextPacket_read {c : Connection} {text : String} {buf : ByteBuffer}
    (reads : readPacket c.buf = .ok (some (text, buf))) : c.nextPacket = .ok (text, { c with buf }) := by
  rw [nextPacket, reads]

theorem nextPacket_filled {c c' : Connection} (reads : readPacket c.buf = .ok none)
    (fills : c.fillBufferFrom = .ok c') : c.nextPacket = c'.nextPacket := by
  rw [nextPacket, reads]
  dsimp only
  split
  · rename_i stuck
    rw [fills] at stuck
    cases stuck
  · rename_i filled
    rw [fills] at filled
    cases filled
    rfl

theorem nextPacket_stuck {c : Connection} {e : AdbError} (reads : readPacket c.buf = .ok none)
    (stuck : c.fillBufferFrom = .error e) : c.nextPacket = .error (e, c) := by
  rw [nextPacket, reads]
  dsimp only
  split
  · rename_i failed
    rw [stuck] at failed
    cases failed
    rfl
  · rename_i filled
    rw [stuck] at filled
    cases filled

theorem nextPacket_ok {c c' : Connection} {text : String} (h : c.nextPacket = .ok (text, c')) :
    ∃ frame, 4 ≤ frame.length ∧ (c.Sized → Decodes frame text) ∧ c.bytes = frame ++ c'.bytes ∧
      (c'.Sized ↔ c.Sized) := by
  induction c using nextPacket.induct with
  | case1 c e reads =>
    rw [nextPacket, reads] at h
    cases h
  | case2 c packet buf reads =>
    rw [nextPacket_read reads] at h
    cases h
    obtain ⟨frame, long, decodes, front, size⟩ := readPacket_some reads
    refine ⟨frame, long, decodes, ?_, ?_⟩
    · rw [bytes, front, List.append_assoc]
      rfl
    · rw [Sized, size]
      exact Iff.rfl
  | case3 c reads e stuck =>
    rw [nextPacket_stuck reads stuck] at h
    cases h
  | case4 c reads filled fills ih =>
    rw [nextPacket_filled reads fills] at h
    obtain ⟨same, sized, -⟩ := fillBufferFrom_spec fills
    obtain ⟨frame, long, decodes, front, size⟩ := ih h
    exact ⟨frame, long, fun s => decodes (sized.mpr s), by rw [← same, front], size.trans sized⟩

/-- With an empty buffer there is room. -/
theorem room_of_empty {c : Connection} (sized : c.Sized) (empty : c.buf.peek = []) : 0 < c.buf.room := by
  have head := ByteBuffer.length_peek c.buf
  rw [empty, List.length_nil] at head
  rw [ByteBuffer.room, sized, ← head]
  decide

/-- A failure keeps the bytes, and leaves the buffer empty only when there are none. -/
theorem nextPacket_error {c c' : Connection} {e : AdbError} (h : c.nextPacket = .error (e, c')) :
    c'.bytes = c.bytes ∧ (c'.Sized ↔ c.Sized) ∧ (c.Sized → c'.buf.peek = [] → c'.stream.bytes = []) := by
  induction c using nextPacket.induct with
  | case1 c failure reads =>
    rw [nextPacket, reads] at h
    cases h
    refine ⟨rfl, Iff.rfl, fun _ empty => ?_⟩
    rw [readPacket_nil empty] at reads
    cases reads
  | case2 c packet buf reads =>
    rw [nextPacket_read reads] at h
    cases h
  | case3 c reads failure stuck =>
    rw [nextPacket_stuck reads stuck] at h
    cases h
    refine ⟨rfl, Iff.rfl, fun sized empty => ?_⟩
    by_contra left
    obtain ⟨filled, fills⟩ := fillBufferFrom_some left (room_of_empty sized empty)
    rw [fills] at stuck
    cases stuck
  | case4 c reads filled fills ih =>
    rw [nextPacket_filled reads fills] at h
    obtain ⟨same, sized, -⟩ := fillBufferFrom_spec fills
    obtain ⟨kept, size, stuck⟩ := ih h
    exact ⟨kept.trans same, size.trans sized, fun s => stuck (sized.mpr s)⟩

/-- The buffer is filled until the packet is in it or it is full, wherever the reads cut the bytes. -/
theorem nextPacket_fills {c : Connection} {frame rest : List UInt8}
    (length : parseLength (frame.take 4) = .ok (frame.length - 4)) (small : frame.length - 4 ≤ bufferSize)
    (sized : c.Sized) (front : c.bytes = frame ++ rest) :
    ∃ a : Connection, c.nextPacket = a.nextPacket ∧ a.bytes = frame ++ rest ∧ a.Sized ∧
      (frame <+: a.buf.peek ∨ a.buf.room = 0 ∧ a.buf.peek <+: frame ∧ a.buf.peek.length < frame.length) := by
  have inside : frame <+: c.bytes := front ▸ List.prefix_append _ _
  by_cases whole : frame.length ≤ c.buf.peek.length
  · exact ⟨c, rfl, front, sized, .inl (List.prefix_of_prefix_length_le inside (List.prefix_append _ _) whole)⟩
  · have part : c.buf.peek <+: frame :=
      List.prefix_of_prefix_length_le (List.prefix_append c.buf.peek c.stream.bytes) inside (by omega)
    by_cases room : c.buf.room = 0
    · exact ⟨c, rfl, front, sized, .inr ⟨room, part, by omega⟩⟩
    · have reads := readPacket_part length small part (by omega)
      have left : c.stream.bytes ≠ [] := by
        intro none
        rw [bytes, none, List.append_nil] at front
        rw [front, List.length_append] at whole
        omega
      obtain ⟨c', fills⟩ := fillBufferFrom_some left (by omega)
      obtain ⟨same, size, less⟩ := fillBufferFrom_spec fills
      rw [nextPacket_filled reads fills]
      exact nextPacket_fills length small (size.mpr sized) (same.trans front)
termination_by c.stream.bytes.length

/-- A packet whose bytes come next is returned. -/
theorem nextPacket_whole {c : Connection} {frame rest : List UInt8} {text : String} (h : Decodes frame text)
    (sized : c.Sized) (front : c.bytes = frame ++ rest) :
    ∃ c', c.nextPacket = .ok (text, c') ∧ c'.bytes = rest ∧ c'.Sized := by
  have fits := h.fits
  obtain ⟨a, same, front, size, whole | ⟨full, -, short⟩⟩ := nextPacket_fills h.length (by omega) sized front
  · obtain ⟨more, buffered⟩ := whole
    obtain ⟨buf, reads, left, kept⟩ := readPacket_whole h buffered.symm
    refine ⟨_, same.trans (nextPacket_read reads), ?_, by rw [Sized, kept]; exact size⟩
    rw [bytes, ← buffered, List.append_assoc] at front
    rw [bytes, left]
    exact List.append_cancel_left front
  · rw [ByteBuffer.length_peek] at short
    rw [ByteBuffer.room, size] at full
    omega

end Connection

/-! ### Devices -/

/-- `char::is_whitespace`, the characters of the Unicode property `White_Space`. -/
def isWhitespace (c : Char) : Bool :=
  let n := c.toNat
  (9 ≤ n && n ≤ 13) || n = 32 || n = 133 || n = 160 || n = 5760 || (8192 ≤ n && n ≤ 8202) || n = 8232 ||
    n = 8233 || n = 8239 || n = 8287 || n = 12288

/-- The serial of a line whose state is `device`. -/
def deviceSerial (line : List Char) : Option String :=
  match words isWhitespace line with
  | serial :: state :: _ => if String.ofList state = "device" then some (String.ofList serial) else none
  | _ => none

def parseConnectedDevices (packet : String) : List String := (lines packet.toList).filterMap deviceSerial

/-- `output` is what `adb devices -l` printed, when it could be run. -/
def filterUsbOnly (output : Option String) (serials : List String) : List String :=
  match output with
  | none => serials
  | some stdout =>
    let usbSerials := ((lines stdout.toList).filter fun line => ¬ "tcp:".toList <:+: line).filterMap deviceSerial
    serials.filter (· ∈ usbSerials)

structure AdbMonitor where
  buf : ByteBuffer
  connectedDevices : List String
  usbOnly : Bool
  /-- The serials the callback has been called with. -/
  reported : List String
  /-- What the next runs of `adb devices -l` print. -/
  outputs : List (Option String)

namespace AdbMonitor

def new (outputs : List (Option String)) : AdbMonitor where
  buf := .new bufferSize
  connectedDevices := []
  usbOnly := true
  reported := []
  outputs

def setUsbOnly (m : AdbMonitor) (enabled : Bool) : AdbMonitor := { m with usbOnly := enabled }

def handlePacket (m : AdbMonitor) (packet : String) : AdbMonitor :=
  let currentConnectedDevices := parseConnectedDevices packet
  let filteredDevices :=
    if m.usbOnly then filterUsbOnly m.outputs.head?.join currentConnectedDevices else currentConnectedDevices
  { m with
    reported := m.reported ++ filteredDevices.filter (· ∉ m.connectedDevices)
    connectedDevices := filteredDevices
    outputs := if m.usbOnly then m.outputs.tail else m.outputs }

def withBuf (m : AdbMonitor) (buf : ByteBuffer) : AdbMonitor := { m with buf }

@[simp] theorem withBuf_withBuf (m : AdbMonitor) (buf buf' : ByteBuffer) :
    (m.withBuf buf).withBuf buf' = m.withBuf buf' := rfl

theorem handlePacket_withBuf (m : AdbMonitor) (buf : ByteBuffer) (packet : String) :
    (m.withBuf buf).handlePacket packet = (m.handlePacket packet).withBuf buf := rfl

end AdbMonitor

/-! ### A session -/

structure Session where
  monitor : AdbMonitor
  stream : TcpStream
  /-- What `consume_okay` answered. -/
  response : Option Bool
  /-- The packets that have been handled. -/
  handled : List String

namespace Session

def start (m : AdbMonitor) (stream : TcpStream) : Session where
  monitor := m
  stream
  response := none
  handled := []

def connection (s : Session) : Connection where
  buf := s.monitor.buf
  stream := s.stream

def resume (s : Session) (c : Connection) : Session :=
  { s with monitor := s.monitor.withBuf c.buf, stream := c.stream }

@[simp] theorem connection_resume (s : Session) (c : Connection) : (s.resume c).connection = c := rfl

def handlePacket (s : Session) (packet : String) : Session :=
  { s with monitor := s.monitor.handlePacket packet, handled := s.handled ++ [packet] }

@[simp] theorem connection_handlePacket (s : Session) (packet : String) :
    (s.handlePacket packet).connection = s.connection := rfl

/-- The loop of `track_devices_on_stream`, which only a failure leaves. -/
def trackPackets (s : Session) : AdbError × Session :=
  match _ : s.connection.nextPacket with
  | .error (e, c) => (e, s.resume c)
  | .ok (packet, c) => ((s.resume c).handlePacket packet).trackPackets
termination_by s.connection.bytes.length
decreasing_by
  obtain ⟨frame, long, -, front, -⟩ := Connection.nextPacket_ok ‹_›
  rw [connection_handlePacket, connection_resume, front, List.length_append]
  omega

end Session

/-- `none` when `fuel` turns of the loop of `consume_okay` are not enough. -/
def AdbMonitor.trackDevicesOnStream (fuel : Nat) (m : AdbMonitor) (stream : TcpStream) :
    Option (Except AdbError Unit × Session) :=
  let s := Session.start m stream
  if stream.accepts then
    match s.connection.consumeOkay fuel with
    | none => none
    | some (.error (e, c)) => some (.error e, s.resume c)
    | some (.ok (ok, c)) =>
      let s := { s.resume c with response := some ok }
      if ok then
        let (e, s) := s.trackPackets
        some (.error e, s)
      else some (.ok (), s)
  else some (.error .stream, s)

end Gnirehtet.Adb
