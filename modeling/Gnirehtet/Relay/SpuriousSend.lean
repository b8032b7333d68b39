import Gnirehtet.Relay.UdpConnection

/-!
# A send that would block

`write_to` moves the tail past the block before it sends the datagram, and leaves it there when the send
fails. `poll_self` takes an error of kind `WouldBlock` for a spurious event and goes on: the datagram is
not offered again.
-/

namespace Gnirehtet.Relay
open Lib

namespace DatagramBuffer

/-! ### Logical content -/

/-- The datagrams that calls of `write_to` send one after the other until the buffer is empty. -/
inductive Content : DatagramBuffer → List (List UInt8) → Prop where
  | empty {b : DatagramBuffer} (nothing : b.isEmpty = true) : Content b []
  | front {b b' : DatagramBuffer} {datagram : List UInt8} {rest : List (List UInt8)}
      (sent : b.writeTo sendWhole = .ok (b', datagram, .ok ())) (content : Content b' rest) :
      Content b (datagram :: rest)

theorem writeTo_nonempty {b : DatagramBuffer} {send : List UInt8 → Except ErrorKind Nat}
    {r : DatagramBuffer × List UInt8 × Except ErrorKind Unit} (h : b.writeTo send = .ok r) : b.isEmpty = false := by
  unfold writeTo at h
  split at h
  · cases h
  · rename_i stored
    exact Bool.eq_false_iff.mpr stored

theorem Content.unique {b : DatagramBuffer} {queue queue' : List (List UInt8)} (h : Content b queue)
    (h' : Content b queue') : queue = queue' := by
  induction h generalizing queue' with
  | empty nothing =>
    cases h' with
    | empty _ => rfl
    | front sent _ => rw [writeTo_nonempty sent] at nothing; cases nothing
  | front sent content ih =>
    cases h' with
    | empty nothing => rw [writeTo_nonempty sent] at nothing; cases nothing
    | front sent' content' =>
      rw [sent] at sent'
      cases sent'
      rw [ih content']

/-- A buffer that represents a queue has it as content. -/
theorem content_of_represents {b : DatagramBuffer} {queue : List (List UInt8)} (h : Represents b queue) :
    Content b queue := by
  induction queue generalizing b with
  | nil => exact .empty ((isEmpty_iff h).mpr rfl)
  | cons datagram rest ih => exact .front (writeTo_eq h) (ih (release_represents h))

/-- Whatever the destination answers, the buffer moves on as after a datagram that was sent. -/
theorem writeTo_inv {b b' : DatagramBuffer} {send : List UInt8 → Except ErrorKind Nat} {datagram : List UInt8}
    {result : Except ErrorKind Unit} (h : b.writeTo send = .ok (b', datagram, result)) :
    b' = b.release (u16At b.buf b.tail).toNat ∧ datagram.length = (u16At b.buf b.tail).toNat ∧
      b.writeTo sendWhole = .ok (b', datagram, .ok ()) := by
  have stored := writeTo_nonempty h
  unfold writeTo at h ⊢
  rw [stored, if_neg Bool.false_ne_true] at h ⊢
  obtain ⟨length, number, h⟩ := bind_ok h
  obtain ⟨source, sliced, h⟩ := bind_ok h
  have value : length = u16At b.buf b.tail := by
    unfold readU16 at number
    split at number
    · exact (Except.ok.inj number).symm
    · cases number
  have size : source.length = length.toNat := by
    unfold slice at sliced
    split at sliced
    · cases sliced
      rw [List.length_drop, List.length_take]
      omega
    · cases sliced
  have same : b' = b.release length.toNat ∧ datagram = source := by
    dsimp only at h
    split at h <;> cases h <;> exact ⟨rfl, rfl⟩
  obtain ⟨rfl, rfl⟩ := same
  refine ⟨by rw [value], by rw [size, value], ?_⟩
  rw [number, ok_bind, sliced, ok_bind]
  show Except.ok (b.release length.toNat, datagram,
    if datagram.length = length.toNat then Except.ok () else Except.error ErrorKind.other) = _
  rw [if_pos size]

/-! ### Reachable buffers -/

/-- The buffers that calls with any datagrams and any answers lead to. -/
inductive Reachable : DatagramBuffer → Prop where
  | new (capacity : Nat) : Reachable (new capacity)
  | readFrom {b b' : DatagramBuffer} {source : List UInt8} (before : Reachable b)
      (read : b.readFrom source = .ok (some b')) : Reachable b'
  | writeTo {b b' : DatagramBuffer} {send : List UInt8 → Except ErrorKind Nat} {datagram : List UInt8}
      {result : Except ErrorKind Unit} (before : Reachable b)
      (wrote : b.writeTo send = .ok (b', datagram, result)) : Reachable b'

/-- The block at the start of the array ends before the head, unless the head is there itself. -/
def StartsShort (b : DatagramBuffer) : Prop :=
  b.head = 0 ∨ 2 ≤ b.head ∧ 2 + (u16At b.buf 0).toNat < b.circularBufferLength

theorem Reachable.startsShort {b : DatagramBuffer} (reached : Reachable b) : b.StartsShort := by
  induction reached with
  | new capacity => exact Or.inl rfl
  | @readFrom b b' source before read ih =>
    have small : source.length ≤ maxDatagramLength := by
      refine Nat.le_of_not_lt fun long => ?_
      rw [DatagramBuffer.readFrom, if_pos long] at read
      cases read
    have fits := b.block_fits small
    rw [b.readFrom_eq small] at read
    split at read
    · cases read
      by_cases lap : b.circularBufferLength ≤ b.head + 2 + source.length
      · exact Or.inl (if_pos lap)
      · have head : (b.store source).head = b.head + 2 + source.length := if_neg lap
        refine Or.inr ⟨by omega, ?_⟩
        show 2 + (u16At (overwrite b.buf b.head (block source)) 0).toNat < b.circularBufferLength
        rcases ih with start | ⟨inside, short⟩
        · -- The block at the start is the new one.
          have low : (source.length.toUInt16).toNat ≤ source.length := Nat.mod_le ..
          rw [start] at fits ⊢
          have number := @overwrite_start _ b.buf (block source) (by omega)
          rw [number, block, List.append_assoc, u16At_append_left (by simp), u16At_beBytes16]
          omega
        · rw [u16At_overwrite_other fits (Or.inl inside)]
          exact short
    · cases read
  | @writeTo b b' send datagram result before wrote ih =>
    obtain ⟨rfl, _, _⟩ := writeTo_inv wrote
    exact ih

theorem tail_moves {b : DatagramBuffer} (short : b.StartsShort) (stored : b.isEmpty = false) :
    (b.release (u16At b.buf b.tail).toNat).tail ≠ b.tail := by
  have differ : b.head ≠ b.tail := by simpa [isEmpty] using stored
  intro same
  have same : b.wrap (b.tail + 2 + (u16At b.buf b.tail).toNat) = b.tail := same
  unfold wrap at same
  split at same
  · rename_i lap
    rcases short with start | ⟨_, short⟩
    · omega
    · rw [← same] at lap
      omega
  · omega

/-! ### The datagram is lost -/

/-- The content is what it was, and the next `write_to` offers the datagram again. -/
structure OfferedAgain (b b' : DatagramBuffer) (datagram : List UInt8) : Prop where
  content : ∃ queue, Content b queue ∧ Content b' queue
  again : ∃ b'', b'.writeTo sendWhole = .ok (b'', datagram, .ok ())

/-- After a send that would block the tail has left the datagram, the content has lost it, and the poll of
the connection goes on. -/
theorem would_block_loses {b b' : DatagramBuffer} {send : List UInt8 → Except ErrorKind Nat} {datagram : List UInt8}
    (reached : Reachable b) (wrote : b.writeTo send = .ok (b', datagram, .error .wouldBlock)) :
    ¬ OfferedAgain b b' datagram ∧ b'.tail ≠ b.tail ∧
      (∀ queue, Content b queue → ∃ rest, queue = datagram :: rest ∧ Content b' rest) ∧
      ∀ (c : UdpConnection) (a : UdpAnswers), c.clientToNetwork = b → a.send = send →
        c.pollSend a = .ok (.ok ({ c with clientToNetwork := b' }, false)) := by
  have stored := writeTo_nonempty wrote
  obtain ⟨moved, _, sent⟩ := writeTo_inv wrote
  have lost (queue : List (List UInt8)) (content : Content b queue) :
      ∃ rest, queue = datagram :: rest ∧ Content b' rest := by
    cases content with
    | empty nothing => rw [stored] at nothing; cases nothing
    | front sent' content =>
      rw [sent] at sent'
      cases sent'
      exact ⟨_, rfl, content⟩
  refine ⟨?_, moved ▸ tail_moves reached.startsShort stored, lost, ?_⟩
  · rintro ⟨⟨queue, content, content'⟩, _⟩
    obtain ⟨rest, rfl, behind⟩ := lost queue content
    exact absurd (content'.unique behind) (List.cons_ne_self datagram rest)
  · rintro c a rfl rfl
    rw [UdpConnection.pollSend, stored, if_neg Bool.false_ne_true, UdpConnection.write, wrote]
    rfl

def wouldBlock (_ : List UInt8) : Except ErrorKind Nat := .error .wouldBlock

/-- A buffer of nine bytes that holds one datagram of three. -/
def oneDatagram : DatagramBuffer := (new 9).store [1, 2, 3]

theorem oneDatagram_represents : Represents oneDatagram [[1, 2, 3]] :=
  store_represents (represents_new 9) (by decide) rfl (by rintro ⟨_, lap⟩; exact absurd lap (by decide))

theorem oneDatagram_reachable : Reachable oneDatagram :=
  .readFrom (.new 9) ((new 9).readFrom_eq (show [1, 2, 3].length ≤ maxDatagramLength by decide))

theorem would_block_loses_one : ∃ b', oneDatagram.writeTo wouldBlock = .ok (b', [1, 2, 3], .error .wouldBlock) ∧
    ¬ OfferedAgain oneDatagram b' [1, 2, 3] :=
  ⟨_, writeTo_front oneDatagram_represents wouldBlock,
    (would_block_loses oneDatagram_reachable (writeTo_front oneDatagram_represents wouldBlock)).1⟩

/-- The only datagram is gone after a send that would block. -/
theorem blocked_datagram_lost : ∃ b b', Reachable b ∧ Content b [[1, 2, 3]] ∧
    b.writeTo wouldBlock = .ok (b', [1, 2, 3], .error .wouldBlock) ∧ b'.isEmpty = true ∧ Content b' [] := by
  have behind : Represents (oneDatagram.release 3) [] := release_represents oneDatagram_represents
  exact ⟨oneDatagram, oneDatagram.release 3, oneDatagram_reachable, content_of_represents oneDatagram_represents,
    writeTo_front oneDatagram_represents wouldBlock, (isEmpty_iff behind).mpr rfl, content_of_represents behind⟩

end DatagramBuffer

end Gnirehtet.Relay
