import Gnirehtet.Lib.Bytes

/-!
# Sockets and datagrams

What the relay sees of a socket is the answer to each call. A write answers how many bytes the
socket is ready to take, a read answers the bytes that are there; the call itself moves no more than
the slice it was given.
-/

namespace Gnirehtet.Relay

/-- The kinds of `io::Error` that the relay tells apart. -/
inductive ErrorKind where
  | wouldBlock
  | other
  deriving DecidableEq, Repr

abbrev WriteAnswer := Except ErrorKind Nat

/-- No bytes are the end of the stream. -/
abbrev ReadAnswer := Except ErrorKind (List UInt8)

def maxDatagramLength : Nat := 65536

def maxPacketLength : Nat := 65536

/-- The bytes of `source` that the destination takes. -/
def write (answer : WriteAnswer) (source : List UInt8) : Except ErrorKind (List UInt8) :=
  match answer with
  | .ok n => .ok (source.take n)
  | .error e => .error e

/-- The bytes that a read into a slice of `room` bytes returns. -/
def read (answer : ReadAnswer) (room : Nat) : Except ErrorKind (List UInt8) :=
  match answer with
  | .ok bytes => .ok (bytes.take room)
  | .error e => .error e

/-- `ReadAdapter::recv` -/
def recv (answer : ReadAnswer) (maxChunkSize : Option Nat) (room : Nat) : Except ErrorKind (List UInt8) :=
  match maxChunkSize with
  | some size => read answer (min size room)
  | none => read answer room

theorem length_recv_none {answer : ReadAnswer} {room : Nat} {bytes : List UInt8}
    (h : recv answer none room = .ok bytes) : bytes.length ≤ room := by
  unfold recv read at h
  cases answer with
  | ok data => cases h; exact List.length_take_le _ _
  | error e => cases h

theorem length_recv {answer : ReadAnswer} {size room : Nat} {bytes : List UInt8}
    (h : recv answer (some size) room = .ok bytes) : bytes.length ≤ min size room := by
  unfold recv read at h
  cases answer with
  | ok data => cases h; exact List.length_take_le _ _
  | error e => cases h

end Gnirehtet.Relay
