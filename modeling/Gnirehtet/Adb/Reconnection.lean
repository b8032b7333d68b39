import Gnirehtet.Adb.Session

/-!
# Reconnecting to the adb daemon

The buffer outlives a session. The next one takes the bytes that are left in it for the response
and the first packets, so it starts clean exactly when the sessions before it have left none.
-/

namespace Gnirehtet.Adb
open Lib Relay

namespace TcpStream

/-- The session on the stream, begun with an empty buffer, takes all the bytes that it reads. -/
def Settled (s : TcpStream) : Prop :=
  s.accepts = false ∨ s.bytes = [] ∨
    (s.bytes.take 4 ≠ Connection.okay ∧ ∃ k, (s.chunks.take k).flatten.length = 4) ∨
    (s.bytes.take 4 = Connection.okay ∧ ∃ texts, Packets (s.bytes.drop 4) texts)

variable {s : TcpStream}

theorem length_of_okay (h : s.bytes.take 4 = Connection.okay) : 4 ≤ s.bytes.length := by
  have := congrArg List.length h
  rw [List.length_take, show Connection.okay.length = 4 from rfl] at this
  omega

/-- The chunks of the stream are all of its bytes. -/
theorem length_flatten_take_chunks (s : TcpStream) (k : Nat) : (s.chunks.take k).flatten.length ≤ s.bytes.length := by
  rw [bytes, ← List.take_append_drop k s.chunks, List.flatten_append, List.length_append, List.take_append_drop]
  omega

theorem settled_short (accepts : s.accepts = true) (short : s.bytes.length < 4) : s.Settled ↔ s.bytes = [] := by
  constructor
  · rintro (refused | none | ⟨-, k, four⟩ | ⟨okay, -⟩)
    · rw [accepts] at refused
      cases refused
    · exact none
    · have := length_flatten_take_chunks s k
      omega
    · have := length_of_okay okay
      omega
  · exact fun none => .inr (.inl none)

theorem settled_denied (accepts : s.accepts = true) (enough : 4 ≤ s.bytes.length)
    (other : s.bytes.take 4 ≠ Connection.okay) : s.Settled ↔ ∃ k, (s.chunks.take k).flatten.length = 4 := by
  constructor
  · rintro (refused | none | ⟨-, four⟩ | ⟨okay, -⟩)
    · rw [accepts] at refused
      cases refused
    · rw [none] at enough
      contradiction
    · exact four
    · exact absurd okay other
  · exact fun four => .inr (.inr (.inl ⟨other, four⟩))

theorem settled_okay (accepts : s.accepts = true) (okay : s.bytes.take 4 = Connection.okay) :
    s.Settled ↔ ∃ texts, Packets (s.bytes.drop 4) texts := by
  constructor
  · rintro (refused | none | ⟨other, -⟩ | ⟨-, packets⟩)
    · rw [accepts] at refused
      cases refused
    · rw [none] at okay
      cases okay
    · exact absurd okay other
    · exact packets
  · exact fun packets => .inr (.inr (.inr ⟨okay, packets⟩))

end TcpStream

namespace Connection

theorem readFrom_chunks {c c' : Connection} {nonempty : Bool} (h : c.readFrom = .ok (nonempty, c')) :
    (c.stream.chunks = [] ∧ c'.stream.chunks = [] ∧ c'.buf.peek = c.buf.peek) ∨
      ∃ chunk rest, c.stream.chunks = chunk :: rest ∧ c'.buf.peek = c.buf.peek ++ chunk.take c.buf.room ∧
        (chunk.length ≤ c.buf.room → c'.stream.chunks = rest) := by
  obtain ⟨⟨found, stream⟩, reads, rest⟩ := bind_ok h
  obtain ⟨rfl, rfl⟩ := Prod.mk.inj (Except.ok.inj rest)
  have peek := ByteBuffer.peek_readFrom c.buf found
  rw [List.take_of_length_le (TcpStream.read_spec reads).2.1] at peek
  unfold TcpStream.read at reads
  split at reads
  · rename_i empty
    cases ending : c.stream.ending with
    | eof =>
      rw [ending] at reads
      cases reads
      exact .inl ⟨empty, empty, by rw [peek, List.append_nil]⟩
    | error =>
      rw [ending] at reads
      cases reads
  · rename_i chunk later chunks
    cases reads
    exact .inr ⟨chunk, later, chunks, peek, fun whole => if_pos (List.drop_eq_nil_iff.mpr whole)⟩

/-- Where the reads of the response have got to in the chunks of the stream. -/
def ReadTo (chunks : List (List UInt8)) (a : Connection) : Prop :=
  (∃ k, a.buf.peek = (chunks.take k).flatten ∧ a.stream.chunks = chunks.drop k ∧
    ∀ i < k, (chunks.take i).flatten.length < 4) ∨
  (4 < a.buf.peek.length ∧ ∀ i, (chunks.take i).flatten.length ≠ 4)

theorem length_flatten_take_le (chunks : List (List UInt8)) {i j : Nat} (le : i ≤ j) :
    (chunks.take i).flatten.length ≤ (chunks.take j).flatten.length := by
  rw [show j = i + (j - i) by omega, List.take_add, List.flatten_append, List.length_append]
  omega

theorem readTo_turn {chunks : List (List UInt8)} {a b : Connection} (sized : a.Sized) (h : ReadTo chunks a)
    (next : a.okayTurn = .next b) : ReadTo chunks b := by
  obtain ⟨short, nonempty, reads⟩ := okayTurn_next next
  rcases h with ⟨k, peek, left, before⟩ | ⟨long, -⟩
  · rcases readFrom_chunks reads with ⟨none, still, same⟩ | ⟨chunk, rest, first, grown, whole⟩
    · exact .inl ⟨k, same.trans peek, by rw [still, ← left, none], before⟩
    · have here : (chunks.take (k + 1)).flatten = a.buf.peek ++ chunk := by
        rw [left] at first
        rw [List.take_add, first, List.flatten_append, peek]
        simp
      by_cases fits : chunk.length ≤ a.buf.room
      · refine .inl ⟨k + 1, ?_, ?_, ?_⟩
        · rw [grown, List.take_of_length_le fits, here]
        · rw [whole fits, ← List.drop_drop, ← left, first]
          rfl
        · intro i le
          rcases Nat.lt_succ_iff_lt_or_eq.mp le with lt | rfl
          · exact before i lt
          · rw [← peek]
            exact short
      · right
        have room : a.buf.room = bufferSize - a.buf.peek.length := by
          rw [ByteBuffer.length_peek, ByteBuffer.room, sized]
        rw [bufferSize] at room
        refine ⟨?_, fun i => ?_⟩
        · rw [grown, List.length_append, List.length_take]
          omega
        · by_cases le : i ≤ k
          · have := length_flatten_take_le chunks le
            rw [← peek] at this
            omega
          · have := length_flatten_take_le chunks (show k + 1 ≤ i by omega)
            rw [here, List.length_append] at this
            omega
  · omega

theorem readTo_visits {c a : Connection} (sized : c.Sized) (empty : c.buf.peek = [])
    (visits : Visits okayTurn c a) : ReadTo c.stream.chunks a := by
  induction visits with
  | start => exact .inl ⟨0, empty, rfl, by simp⟩
  | turn before next ih => exact readTo_turn ((visits_okayTurn before).2.1.mpr sized) ih next

/-- The response leaves nothing behind when a read ended with its fourth byte. -/
theorem consumeOkay_empty_iff {c c' : Connection} {fuel : Nat} {ok : Bool} (sized : c.Sized)
    (empty : c.buf.peek = []) (h : c.consumeOkay fuel = some (.ok (ok, c'))) :
    c'.buf.peek = [] ↔ ∃ k, (c.stream.chunks.take k).flatten.length = 4 := by
  rcases consumeOkay_some h with ⟨a, b, visits, enough, rest, -, -, r⟩ | ⟨a, e, -, -, -, r⟩
  · cases r
    rw [rest, List.drop_eq_nil_iff]
    rcases readTo_visits sized empty visits with ⟨k, peek, -, before⟩ | ⟨long, never⟩
    · rw [peek] at enough ⊢
      constructor
      · exact fun le => ⟨k, by omega⟩
      · rintro ⟨j, four⟩
        have later : k ≤ j := by
          by_contra lt
          have := before j (by omega)
          omega
        rw [← four]
        exact length_flatten_take_le _ later
    · exact iff_of_false (by omega) fun ⟨k, four⟩ => never k four
  · cases r

end Connection

namespace AdbMonitor

/-- A session that begins with an empty buffer leaves it empty when it is settled, and only then. -/
theorem Ended.empty_iff {m : AdbMonitor} {stream : TcpStream} {r : Except AdbError Unit × Session}
    (sized : m.buf.buf.length = bufferSize) (empty : m.buf.peek = []) (ended : m.Ended stream r) :
    r.2.monitor.buf.peek = [] ↔ stream.Settled := by
  have bytes : (Session.start m stream).connection.bytes = stream.bytes := by
    rw [Connection.bytes]
    exact congrArg (· ++ stream.bytes) empty
  rcases ended_cases ended with ⟨refused, same⟩ | ⟨accepts, fuel, e, c, ends, same⟩ |
    ⟨accepts, fuel, ok, c, ends, same⟩
  · rw [same]
    exact iff_of_true empty (.inl refused)
  · obtain ⟨short, -, peek, -⟩ := Connection.consumeOkay_error ends
    rw [bytes] at short peek
    rw [same, TcpStream.settled_short accepts short, ← peek]
    rfl
  · obtain ⟨enough, left, answer, size⟩ := Connection.consumeOkay_ok ends
    rw [bytes] at enough left answer
    cases ok with
    | false =>
      have other : stream.bytes.take 4 ≠ Connection.okay := fun okay => absurd (answer.mpr okay) (by decide)
      rw [same, TcpStream.settled_denied accepts enough other]
      exact Connection.consumeOkay_empty_iff (c := (Session.start m stream).connection) sized empty ends
    | true =>
      obtain ⟨front, rest, texts, buf, later, split, packets, stuck, result, -, clean⟩ :=
        Session.trackPackets_spec (s := { (Session.start m stream).resume c with response := some true })
          (size.mpr sized)
      have whole : stream.bytes.drop 4 = front ++ rest := left.symm.trans split
      rw [same, if_pos rfl, result, TcpStream.settled_okay accepts (answer.mp rfl), whole]
      change buf.peek = [] ↔ _
      rw [clean]
      constructor
      · rintro rfl
        exact ⟨texts, by rw [List.append_nil]; exact packets⟩
      · rintro ⟨texts', packets'⟩
        exact (packets.unique packets' stuck stuck_nil (List.append_nil _).symm).2

/-! ### Histories -/

/-- The monitor after sessions on the streams, one after the other. -/
inductive Sessions : AdbMonitor → List TcpStream → AdbMonitor → Prop where
  | nil (m : AdbMonitor) : Sessions m [] m
  | cons {m m' : AdbMonitor} {stream : TcpStream} {streams : List TcpStream} {r : Except AdbError Unit × Session} :
    m.Ended stream r → Sessions r.2.monitor streams m' → Sessions m (stream :: streams) m'

/-- What is seen of a session does not depend on the buffer and on the devices of the one or the other monitor. -/
def Alike (m m' : AdbMonitor) : Prop :=
  ∀ stream response handled, m.Observes stream response handled ↔ m'.Observes stream response handled

def stream (bytes : List UInt8) : TcpStream where
  accepts := true
  chunks := if bytes = [] then [] else [bytes]
  ending := .eof
  nonempty := by
    intro chunk member
    split at member
    · cases member
    · rwa [List.mem_singleton.mp member]

@[simp] theorem bytes_stream (data : List UInt8) : (stream data).bytes = data := by
  unfold TcpStream.bytes stream
  dsimp only
  split
  · rename_i none
    rw [none]
    rfl
  · simp

/-- The answer of a daemon that refuses. -/
def fail : List UInt8 := [70, 65, 73, 76]

/-- With bytes in front of it, a response is not read as it was sent. -/
theorem no_response_behind {p : List UInt8} (left : p ≠ []) :
    (p ++ Connection.okay).take 4 ≠ Connection.okay ∨ (p ++ fail).take 4 = Connection.okay := by
  match p, left with
  | [a], _ => exact .inl (by simp [Connection.okay])
  | [a, b], _ => exact .inl (by simp [Connection.okay])
  | [a, b, c], _ => exact .inl (by simp [Connection.okay])
  | a :: b :: c :: d :: rest, _ =>
    simp only [List.cons_append, List.take_succ_cons, List.take_zero]
    exact (em ([a, b, c, d] = Connection.okay)).symm

/-- Bytes that are left over are seen in the next session. -/
theorem alike_iff {m fresh : AdbMonitor} (sized : m.buf.buf.length = bufferSize)
    (sized' : fresh.buf.buf.length = bufferSize) (empty : fresh.buf.peek = []) :
    m.Alike fresh ↔ m.buf.peek = [] := by
  constructor
  · intro alike
    by_contra left
    rcases no_response_behind left with other | okay
    · have accepted : fresh.Observes (stream Connection.okay) (some true) [] := by
        rw [observes_iff sized', empty, bytes_stream]
        exact .tracked rfl rfl .nil stuck_nil
      rw [← alike, observes_iff sized, bytes_stream] at accepted
      cases accepted with
      | tracked _ front _ _ => exact other (by rw [front, List.append_assoc]; exact List.take_left' rfl)
    · have denied : fresh.Observes (stream fail) (some false) [] := by
        rw [observes_iff sized', empty, bytes_stream]
        exact .denied rfl (by decide) (by decide)
      rw [← alike, observes_iff sized, bytes_stream] at denied
      cases denied with
      | denied _ _ other => exact other okay
  · intro clean stream response handled
    rw [observes_iff sized, observes_iff sized', clean, empty]

theorem Ended.sized {m : AdbMonitor} {stream : TcpStream} {r : Except AdbError Unit × Session}
    (sized : m.buf.buf.length = bufferSize) (ended : m.Ended stream r) : r.2.monitor.buf.buf.length = bufferSize := by
  obtain ⟨buf, monitor, size⟩ := ended.monitor sized
  rw [monitor]
  exact size

theorem Sessions.sized {m m' : AdbMonitor} {streams : List TcpStream} (history : Sessions m streams m')
    (sized : m.buf.buf.length = bufferSize) : m'.buf.buf.length = bufferSize := by
  induction history with
  | nil m => exact sized
  | cons ended _ ih => exact ih (ended.sized sized)

theorem sessions_empty_iff {m m' : AdbMonitor} {streams : List TcpStream} (sized : m.buf.buf.length = bufferSize)
    (empty : m.buf.peek = []) (history : Sessions m streams m') :
    (∀ before after between, streams = before ++ after → Sessions m before between → between.buf.peek = []) ↔
      ∀ stream ∈ streams, stream.Settled := by
  induction history with
  | nil m =>
    constructor
    · intro _ stream member
      cases member
    · intro _ before after between split earlier
      obtain ⟨rfl, -⟩ := List.append_eq_nil_iff.mp split.symm
      cases earlier
      exact empty
  | @cons m m' stream streams r ended later ih =>
    have sized' := ended.sized sized
    have first := ended.empty_iff sized empty
    constructor
    · intro clean
      have empty' := clean [stream] streams _ rfl (.cons ended (.nil _))
      have rest := (ih sized' empty').mp fun before after between split earlier =>
        clean (stream :: before) after between (congrArg (stream :: ·) split) (.cons ended earlier)
      intro s member
      rcases List.mem_cons.mp member with rfl | member
      · exact first.mp empty'
      · exact rest s member
    · intro settled before after between split earlier
      have empty' := first.mpr (settled stream List.mem_cons_self)
      cases earlier with
      | nil => exact empty
      | cons ended' earlier =>
        obtain ⟨rfl, tail⟩ := List.cons.inj split
        rw [ended'.unique ended] at earlier
        exact (ih sized' empty').mpr (fun s member => settled s (List.mem_cons_of_mem _ member)) _ _ _ tail earlier

/-- The monitor before its first session. -/
def starting (outputs : List (Option String)) (usbOnly : Bool) : AdbMonitor := (AdbMonitor.new outputs).setUsbOnly usbOnly

/-- In every history of sessions, each session and any that could follow it sees no more than its own
bytes exactly when all of them are settled. -/
theorem sessions_alike_iff (outputs : List (Option String)) (usbOnly : Bool) {m : AdbMonitor}
    {streams : List TcpStream} (history : Sessions (starting outputs usbOnly) streams m) :
    (∀ before after between, streams = before ++ after → Sessions (starting outputs usbOnly) before between →
      between.Alike (starting outputs usbOnly)) ↔ ∀ stream ∈ streams, stream.Settled := by
  have sized : (starting outputs usbOnly).buf.buf.length = bufferSize := List.length_replicate
  have empty : (starting outputs usbOnly).buf.peek = [] := rfl
  rw [← sessions_empty_iff sized empty history]
  constructor
  · intro alike before after between split earlier
    exact (alike_iff (earlier.sized sized) sized empty).mp (alike before after between split earlier)
  · intro clean before after between split earlier
    exact (alike_iff (earlier.sized sized) sized empty).mpr (clean before after between split earlier)

theorem sessions_stream {m : AdbMonitor} (sized : m.buf.buf.length = bufferSize) (received : List (List UInt8))
    (enough : ∀ bytes ∈ received, 4 ≤ bytes.length) : ∃ m', Sessions m (received.map stream) m' := by
  induction received generalizing m with
  | nil => exact ⟨m, .nil m⟩
  | cons bytes rest ih =>
    have four := enough bytes List.mem_cons_self
    obtain ⟨r, ended⟩ : ∃ r, m.Ended (stream bytes) r := by
      rw [ended_iff sized, List.length_append, bytes_stream]
      exact .inr (.inl (by omega))
    obtain ⟨m', later⟩ := ih (ended.sized sized) fun b member => enough b (List.mem_cons_of_mem _ member)
    exact ⟨m', .cons ended later⟩

/-- The response, and a packet of two characters. -/
def okayHi : List UInt8 := Connection.okay ++ [48, 48, 48, 50, 104, 105]

/-- Three sessions, one with a packet and one that is refused, leave a clean monitor. -/
theorem sessions_alike_three : ∃ m, Sessions (starting [] false) ([okayHi, fail, Connection.okay].map stream) m ∧
    m.Alike (starting [] false) := by
  have sized : (starting [] false).buf.buf.length = bufferSize := List.length_replicate
  obtain ⟨m, history⟩ := sessions_stream sized [okayHi, fail, Connection.okay] (by decide)
  refine ⟨m, history, (sessions_alike_iff [] false history).mpr ?_ _ [] _ (List.append_nil _).symm history⟩
  intro s member
  simp only [List.map_cons, List.map_nil, List.mem_cons, List.not_mem_nil, or_false] at member
  rcases member with rfl | rfl | rfl
  · rw [TcpStream.settled_okay rfl (by rw [bytes_stream]; rfl), bytes_stream]
    have decodes : Decodes [48, 48, 48, 50, 104, 105] "hi" := ⟨by decide, by decide, by decide, by decide⟩
    have packets : Packets ([48, 48, 48, 50, 104, 105] ++ []) ["hi"] := .cons decodes .nil
    exact ⟨["hi"], packets⟩
  · rw [TcpStream.settled_denied rfl (by rw [bytes_stream]; decide) (by rw [bytes_stream]; decide)]
    exact ⟨1, rfl⟩
  · rw [TcpStream.settled_okay rfl (by rw [bytes_stream]; rfl), bytes_stream]
    exact ⟨[], .nil⟩

/-- A session that is closed in the length of a packet does not. -/
theorem sessions_not_alike : ∃ m, Sessions (starting [] false) [stream (Connection.okay ++ [48, 48])] m ∧
    ¬ m.Alike (starting [] false) := by
  have sized : (starting [] false).buf.buf.length = bufferSize := List.length_replicate
  have empty : (starting [] false).buf.peek = [] := rfl
  obtain ⟨r, ended⟩ : ∃ r, (starting [] false).Ended (stream (Connection.okay ++ [48, 48])) r :=
    (ended_iff sized).mpr (.inr (.inl (by simp [Connection.okay])))
  refine ⟨_, .cons ended (.nil _), ?_⟩
  rw [alike_iff (ended.sized sized) sized empty, ended.empty_iff sized empty,
    TcpStream.settled_okay rfl (by rw [bytes_stream]; rfl), bytes_stream]
  rintro ⟨texts, packets⟩
  generalize short : (Connection.okay ++ [48, 48]).drop 4 = left at packets
  cases packets with
  | nil => cases short
  | cons decodes _ =>
    have length := congrArg List.length short
    have long := decodes.long
    rw [List.length_append] at length
    change 2 = _ at length
    omega

end AdbMonitor

end Gnirehtet.Adb
