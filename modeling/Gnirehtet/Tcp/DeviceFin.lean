import Gnirehtet.Tcp.Upstream

/-!
# The FIN of the device

The relay acknowledges a FIN of the device only after everything that the device sent before it is
stored, as long as each FIN packet brings a payload that is stored with it.
-/

namespace Gnirehtet.Relay
open Lib

namespace TcpConnection

def ExpectsFin (c : TcpConnection) (s : Segment) : Prop :=
  c.tcb.state ≠ .init ∧ s.header.isSyn = false ∧ s.header.sequenceNumber = c.tcb.acknowledgementNumber ∧
    s.header.isRst = false ∧ s.header.isFin = true

instance (c : TcpConnection) (s : Segment) : Decidable (c.ExpectsFin s) := inferInstanceAs (Decidable (_ ∧ _))

/-- How many payload bytes precede a FIN with the expected number in the sequence space of the device. An
end of stream of the server moved that number past a byte that was never stored. -/
def precedingFin (c : TcpConnection) (s : Segment) : Nat :=
  (storedBytes c.history).length + eofs c.history + s.payload.length

/-- A FIN in SynReceived is acknowledged, whatever its payload. -/
theorem synReceived_fin {c : TcpConnection} {s : Segment} (random : UInt32) (half : c.tcb.state = .synReceived)
    (expects : c.ExpectsFin s) (isAck : s.header.isAck = true) (empty : c.clientToNetwork.isEmpty = true) :
    finsConsumed (c.handlePacket s random).history = finsConsumed c.history + 1 := by
  obtain ⟨begun, noSyn, inSequence, noRst, isFin⟩ := expects
  have established : (c.expectedPacket s).takeAck s = { c.expectedPacket s with tcb.state := .established } := by
    rw [takeAck, if_pos isAck, handleAck]
    exact if_pos half
  rw [handlePacket, if_neg begun, if_neg (by simp [noSyn]), if_neg (fun other => other inSequence), handleExpected,
    if_neg (by simp [noRst]), (checkFinAck_upstream _ _).finsConsumed, established, takeFin, if_pos isFin, handleFin]
  dsimp only
  rw [if_pos (by exact empty), (doHandleFin_upstream _).finsConsumed, finsConsumed_concat]
  rfl

end TcpConnection

/-- A connection with the FINs that the device has sent, each as the number of bytes before it. -/
structure FinWatch where
  connection : TcpConnection
  fins : List Nat

namespace FinWatch

def start (c : TcpConnection) : FinWatch where
  connection := c
  fins := []

def step (w : FinWatch) (event : Event) : FinWatch where
  connection := w.connection.step event
  fins := match event with
    | .packet s _ => if w.connection.ExpectsFin s then w.fins ++ [w.connection.precedingFin s] else w.fins
    | _ => w.fins

def Covered (w : FinWatch) : Prop := ∀ n ∈ w.fins, n ≤ (storedBytes w.connection.history).length

/-- A step that acknowledges a FIN leaves no byte before it unstored. -/
def FinLast (w : FinWatch) (event : Event) : Prop :=
  finsConsumed (w.step event).connection.history ≠ finsConsumed w.connection.history → (w.step event).Covered

/-- A FIN packet has no payload or one that is stored, and no end of stream was read before. -/
def FinFits (w : FinWatch) : Event → Prop
  | .packet s _ => w.connection.ExpectsFin s →
      (s.payload = [] ∨ w.connection.Stores s) ∧ eofs w.connection.history = 0
  | _ => True

theorem length_storedBytes_le (c : TcpConnection) (event : Event) :
    (storedBytes c.history).length ≤ (storedBytes (c.step event).history).length := by
  rw [TcpConnection.step_stored, List.length_append]
  omega

theorem precedingFin_le {w : FinWatch} {s : Segment} {random : UInt32} (fits : w.FinFits (.packet s random))
    (expects : w.connection.ExpectsFin s) :
    w.connection.precedingFin s ≤ (storedBytes (w.connection.step (.packet s random)).history).length := by
  obtain ⟨payload, noEof⟩ := fits expects
  obtain ⟨begun, noSyn, inSequence, noRst, _⟩ := expects
  rw [TcpConnection.precedingFin, noEof, TcpConnection.step_stored, List.length_append]
  rcases payload with empty | stores
  · rw [empty, List.length_nil]
    omega
  · have accepts : w.connection.Accepts s := ⟨begun, noSyn, inSequence, noRst, stores⟩
    simp only [if_pos accepts]
    omega

theorem covered_step {w : FinWatch} {event : Event} (covered : w.Covered) (fits : w.FinFits event) :
    (w.step event).Covered := by
  have grows := length_storedBytes_le w.connection event
  intro n member
  cases event with
  | packet s random =>
    rw [step] at member
    dsimp only at member
    split at member
    · rename_i expects
      rcases List.mem_append.mp member with old | new
      · exact Nat.le_trans (covered n old) grows
      · rw [List.mem_singleton] at new
        rw [new]
        exact precedingFin_le fits expects
    · exact Nat.le_trans (covered n member) grows
  | poll answers => exact Nat.le_trans (covered n member) grows
  | shared buffer => exact covered n member

theorem connection_run (w : FinWatch) (events : List Event) :
    (run step w events).connection = run TcpConnection.step w.connection events := by
  induction events generalizing w with
  | nil => rfl
  | cons event rest ih => exact ih (w.step event)

/-- No FIN of the device is acknowledged ahead of its data when every FIN packet finds its payload stored. -/
theorem fin_not_ahead (c : TcpConnection) {events : List Event} (fits : Along step FinFits (start c) events) :
    Along step FinLast (start c) events := by
  apply Along.of_invariant (P := Covered) _ _ _ fits
  · intro w event covered ok
    exact covered_step covered ok
  · intro w event covered ok _
    exact covered_step covered ok
  · intro n member
    cases member

end FinWatch

namespace Sample
open FinWatch

def lastData : Event := .packet (segment 101 8 (flagFin ||| flagAck) [1, 2]) 0

/-- The same packet in place of the third one of the handshake. -/
def earlyLastData : List Event := handshake.take 2 ++ [lastData]

theorem fin_not_ahead_data : ∃ c₀ : TcpConnection, TcpConnection.create (.new 4096) ipHeader tcpHeader = .ok c₀ ∧
    Along step FinLast (start c₀) (handshake ++ [lastData]) := by
  obtain ⟨c₀, created⟩ := created (.new 4096)
  refine ⟨c₀, created, fin_not_ahead c₀ (along_append.mpr ⟨?_, ?_, trivial⟩)⟩
  · have noFin (s : Segment) (random : UInt32) (w : FinWatch) (fin : s.header.isFin = false) :
        w.FinFits (.packet s random) := by
      rintro ⟨_, _, _, _, isFin⟩
      rw [fin] at isFin
      cases isFin
    exact ⟨noFin _ _ _ rfl, trivial, noFin _ _ _ rfl, trivial⟩
  · intro _
    obtain ⟨buffer, e, reply, reached⟩ := run_handshake (.new 4096) c₀.networkToClient
    rw [← TcpConnection.create_eq created] at reached
    rw [connection_run, start, reached]
    refine ⟨Or.inr ⟨rfl, ?_, by decide, ?_⟩, ?_⟩
    · show establishedTcb.state ≠ .synReceived
      decide
    · rw [show (established _ _ e).clientToNetwork = .new (32 * maxPacketLength) from rfl,
        StreamBuffer.remaining_new]
      decide
    · cases e <;> simp_all [Effect.isReply, established, eofs, Effect.isEof]

theorem run_synAck (buffer : StreamBuffer) (p : Packetizer) :
    run TcpConnection.step (.fresh buffer p) (handshake.take 2) = (synSent buffer p).processConnect :=
  (congrArg (TcpConnection.step · _) (handshake_syn buffer p)).trans (handshake_connect buffer p)

/-- The packet completes the handshake, so its payload is not stored, and its FIN is acknowledged. -/
theorem fin_ahead_of_data : ∃ c₀ : TcpConnection, TcpConnection.create (.new 4096) ipHeader tcpHeader = .ok c₀ ∧
    ¬ Along step FinLast (start c₀) earlyLastData := by
  obtain ⟨c₀, created⟩ := created (.new 4096)
  refine ⟨c₀, created, ?_⟩
  intro along
  have last := (along_concat.mp along).2
  have reached := run_synAck (.new 4096) c₀.networkToClient
  rw [← TcpConnection.create_eq created] at reached
  have connection := connection_run (start c₀) (handshake.take 2)
  rw [start, reached, ← start] at connection
  have same := TcpConnection.sameUpstream_processConnect (synSent (.new 4096) c₀.networkToClient)
  have half : (synSent (.new 4096) c₀.networkToClient).processConnect.tcb.state = .synReceived := by
    simp [TcpConnection.processConnect]
  rw [← connection] at same half
  generalize run step (start c₀) (handshake.take 2) = w at *
  have expects : w.connection.ExpectsFin (segment 101 8 (flagFin ||| flagAck) [1, 2]) :=
    ⟨by rw [half]; decide, rfl, same.acknowledgementNumber.symm, rfl, rfl⟩
  have consumed := TcpConnection.synReceived_fin 0 half expects rfl (by rw [same.clientToNetwork]; rfl)
  have covered := last (by
    show finsConsumed (w.connection.handlePacket _ _).history ≠ _
    omega)
  have nothing : storedBytes w.connection.history = [] := same.storedBytes
  have dropped : storedBytes (w.connection.step lastData).history = [] := by
    rw [lastData, TcpConnection.step_stored, nothing, List.nil_append]
    exact if_neg fun accepts => accepts.2.2.2.2.2.1 half
  have two := covered (w.connection.precedingFin (segment 101 8 (flagFin ||| flagAck) [1, 2])) (by
    show _ ∈ if _ then _ else _
    rw [if_pos expects]
    exact List.mem_append_right _ List.mem_cons_self)
  rw [show (w.step lastData).connection = w.connection.step lastData from rfl, dropped] at two
  exact absurd two (by simp [TcpConnection.precedingFin, segment])

end Sample

end Gnirehtet.Relay
