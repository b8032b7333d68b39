import Mathlib.Logic.Relation

/-!
# Loops with an exit

`loop body n s` unrolls a loop at most `n` times: one turn of the body goes on with a new state,
leaves the loop, or fails. `Ends` says that some number of turns is enough. A measure that every
turn decreases makes a loop end; a set of states that the body never leaves makes it run forever.
-/

namespace Gnirehtet.Lib

universe u v

/-- How one turn of a loop body finishes. -/
inductive Flow (ε : Type u) (σ : Type v) where
  | next (s : σ)
  | stop (s : σ)
  | fail (e : ε)

variable {ε : Type u} {σ : Type v}

/-- At most `n` turns of the loop; `none` when they are not enough. -/
def loop (body : σ → Flow ε σ) : Nat → σ → Option (Except ε σ)
  | 0, _ => none
  | n + 1, s =>
    match body s with
    | .next s' => loop body n s'
    | .stop s' => some (.ok s')
    | .fail e => some (.error e)

/-- The loop leaves, by its exit or by a failure, after finitely many turns. -/
def Ends (body : σ → Flow ε σ) (s : σ) : Prop := ∃ n r, loop body n s = some r

/-- The states at the top of the loop that a run of it from `s` passes through. -/
inductive Visits (body : σ → Flow ε σ) (s : σ) : σ → Prop where
  | start : Visits body s s
  | turn {a b : σ} : Visits body s a → body a = .next b → Visits body s b

variable {body : σ → Flow ε σ}

theorem loop_succ (n : Nat) (s : σ) :
    loop body (n + 1) s =
      match body s with
      | .next s' => loop body n s'
      | .stop s' => some (.ok s')
      | .fail e => some (.error e) := rfl

/-- More turns than enough give the same result. -/
theorem loop_mono {n m : Nat} {s : σ} {r : Except ε σ} (h : loop body n s = some r) (le : n ≤ m) :
    loop body m s = some r := by
  induction n generalizing m s with
  | zero => simp [loop] at h
  | succ n ih =>
    obtain ⟨m, rfl⟩ : ∃ k, m = k + 1 := ⟨m - 1, by omega⟩
    rw [loop_succ] at h ⊢
    cases hb : body s with
    | next s' =>
      rw [hb] at h
      exact ih h (by omega)
    | stop s' => rw [hb] at h; exact h
    | fail e => rw [hb] at h; exact h

theorem loop_unique {n m : Nat} {s : σ} {r r' : Except ε σ} (h : loop body n s = some r)
    (h' : loop body m s = some r') : r = r' := by
  have left := loop_mono h (Nat.le_max_left n m)
  have right := loop_mono h' (Nat.le_max_right n m)
  rw [left] at right
  exact Option.some.inj right

/-- A measure that every turn decreases bounds the number of turns. -/
theorem loop_of_measure {I : σ → Prop} (measure : σ → Nat)
    (decrease : ∀ s s', I s → body s = .next s' → I s' ∧ measure s' < measure s) {n : Nat} {s : σ}
    (start : I s) (enough : measure s < n) : ∃ r, loop body n s = some r := by
  induction n generalizing s with
  | zero => omega
  | succ n ih =>
    rw [loop_succ]
    cases hb : body s with
    | next s' =>
      obtain ⟨keep, less⟩ := decrease s s' start hb
      exact ih keep (by omega)
    | stop s' => exact ⟨_, rfl⟩
    | fail e => exact ⟨_, rfl⟩

theorem ends_of_measure {I : σ → Prop} (measure : σ → Nat)
    (decrease : ∀ s s', I s → body s = .next s' → I s' ∧ measure s' < measure s) {s : σ}
    (start : I s) : Ends body s := by
  obtain ⟨r, h⟩ := loop_of_measure measure decrease start (Nat.lt_succ_self (measure s))
  exact ⟨_, r, h⟩

/-- A set of states that the body never leaves is never left by the loop. -/
theorem not_ends_of_trap {I : σ → Prop} (trap : ∀ s, I s → ∃ s', body s = .next s' ∧ I s') {s : σ}
    (start : I s) : ¬ Ends body s := by
  rintro ⟨n, r, h⟩
  induction n generalizing s with
  | zero => simp [loop] at h
  | succ n ih =>
    obtain ⟨s', hb, keep⟩ := trap s start
    rw [loop_succ, hb] at h
    exact ih keep h

def Flow.leave : Except ε σ → Flow ε σ
  | .ok s => .stop s
  | .error e => .fail e

/-- A loop that ended was at a state that leaves it. -/
theorem visits_of_loop {n : Nat} {s : σ} {r : Except ε σ} (h : loop body n s = some r) :
    ∃ a, Visits body s a ∧ body a = .leave r := by
  suffices ∀ a, Visits body s a → loop body n a = some r → ∃ b, Visits body s b ∧ body b = .leave r from
    this s .start h
  clear h
  induction n with
  | zero => intro a _ h; simp [loop] at h
  | succ n ih =>
    intro a visits h
    rw [loop_succ] at h
    cases hb : body a with
    | next b =>
      rw [hb] at h
      exact ih b (visits.turn hb) h
    | stop b =>
      rw [hb] at h
      cases h
      exact ⟨a, visits, hb⟩
    | fail e =>
      rw [hb] at h
      cases h
      exact ⟨a, visits, hb⟩

theorem loop_of_visits {s a : σ} {r : Except ε σ} (visits : Visits body s a) (left : body a = .leave r) :
    ∃ n, loop body n s = some r := by
  suffices ∀ b, Visits body s b → (∃ n, loop body n b = some r) → ∃ n, loop body n s = some r by
    refine this a visits ⟨1, ?_⟩
    rw [loop_succ, left]
    cases r <;> rfl
  intro b visits
  induction visits with
  | start => exact id
  | turn _ hb ih =>
    rintro ⟨n, h⟩
    exact ih ⟨n + 1, by rw [loop_succ, hb]; exact h⟩

theorem Visits.trans {a b c : σ} (h : Visits body a b) (h' : Visits body b c) : Visits body a c := by
  induction h' with
  | start => exact h
  | turn _ hb ih => exact ih.turn hb

/-- The loop from a state it passes through ends exactly when the whole loop does. -/
theorem Visits.ends {a b : σ} (h : Visits body a b) (ends : Ends body a) : Ends body b := by
  induction h with
  | start => exact ends
  | turn _ hb ih =>
    obtain ⟨n, r, hr⟩ := ih
    cases n with
    | zero => simp [loop] at hr
    | succ n =>
      rw [loop_succ, hb] at hr
      exact ⟨n, r, hr⟩

/-! ### What a loop looks like from outside -/

section Seen
variable {α : Type*} {R : α → α → Prop} {f : σ → α} {s : σ}

theorem Visits.seen (turns : ∀ a b, body a = .next b → R (f a) (f b)) {a : σ} (visits : Visits body s a) :
    Relation.ReflTransGen R (f s) (f a) := by
  induction visits with
  | start => exact .refl
  | turn _ hb ih => exact ih.tail (turns _ _ hb)

theorem visits_of_seen (turns : ∀ a x, R (f a) x → ∃ b, body a = .next b ∧ f b = x) {x : α}
    (seen : Relation.ReflTransGen R (f s) x) : ∃ a, Visits body s a ∧ f a = x := by
  induction seen with
  | refl => exact ⟨s, .start, rfl⟩
  | tail _ step ih =>
    obtain ⟨a, visits, rfl⟩ := ih
    obtain ⟨b, turned, same⟩ := turns a _ step
    exact ⟨b, visits.turn turned, same⟩

end Seen

end Gnirehtet.Lib
