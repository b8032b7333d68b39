import Mathlib.Data.List.Infix
import Mathlib.Logic.Relation

/-!
# Programs that ask their environment

A `Program` makes one call after the other and goes on with the answers. An `Environment` says which
answers may come and what they do to the world. `Meets` is the weakest precondition of a program: it says of
each call where it is allowed and of the result what holds then, whatever is answered. `Reaches` is a run
that may stop anywhere, as when the process is killed.
-/

namespace Gnirehtet.Lib

universe u v w

/-- A program is `cut` where a loop needs more turns than it was given. -/
inductive Program (Call : Type u) (Answer : Call → Type v) (α : Type v) where
  | done (result : α)
  | ask (call : Call) (next : Answer call → Program Call Answer α)
  | cut

variable {Call : Type u} {Answer : Call → Type v} {α β σ : Type v} {World : Type w}

namespace Program

def bind : Program Call Answer α → (α → Program Call Answer β) → Program Call Answer β
  | done a, f => f a
  | ask c next, f => ask c fun r => (next r).bind f
  | cut, _ => cut

instance : Monad (Program Call Answer) where
  pure := done
  bind := bind

/-- At most `n` turns of a loop, which goes on with a state or leaves with a result. -/
def repeated (body : σ → Program Call Answer (σ ⊕ α)) : Nat → σ → Program Call Answer α
  | 0, _ => cut
  | n + 1, s => (body s).bind fun
    | .inl s => repeated body n s
    | .inr a => done a

end Program

/-- A call, as a program. -/
def call {Call : Type u} {Answer : Call → Type v} (c : Call) : Program Call Answer (Answer c) := .ask c .done

/-- The answers that may come, and the world behind a call. -/
structure Environment (Call : Type u) (Answer : Call → Type v) (World : Type w) where
  answers : World → (c : Call) → Answer c → Prop
  after : World → (c : Call) → Answer c → World

/-- What is said about a program: where its calls are allowed, and whether it may be cut. -/
structure Terms (Call : Type u) (World : Type w) where
  allowed : World → Call → Prop
  cut : Prop

variable (env : Environment Call Answer World) (terms : Terms Call World)

/-- Whatever is answered, each call is made where it is allowed, and the result meets `post`. -/
def Meets (post : α → World → Prop) : Program Call Answer α → World → Prop
  | .done a, w => post a w
  | .ask c next, w => terms.allowed w c ∧ ∀ r, env.answers w c r → Meets post (next r) (env.after w c r)
  | .cut, _ => terms.cut

namespace Meets
variable {env terms} {post post' : α → World → Prop} {p : Program Call Answer α} {w : World}

@[simp] theorem done {a : α} : Meets env terms post (.done a) w ↔ post a w := Iff.rfl

@[simp] theorem pure {a : α} : Meets env terms post (Pure.pure a) w ↔ post a w := Iff.rfl

@[simp] theorem ask {c : Call} {next : Answer c → Program Call Answer α} : Meets env terms post (.ask c next) w ↔
    terms.allowed w c ∧ ∀ r, env.answers w c r → Meets env terms post (next r) (env.after w c r) := Iff.rfl

theorem call {c : Call} {post : Answer c → World → Prop} : Meets env terms post (Lib.call c) w ↔
    terms.allowed w c ∧ ∀ r, env.answers w c r → post r (env.after w c r) := Iff.rfl

theorem mono (meets : Meets env terms post p w) (weaker : ∀ a w', post a w' → post' a w') :
    Meets env terms post' p w := by
  induction p generalizing w with
  | done a => exact weaker a w meets
  | ask c next ih => exact ⟨meets.1, fun r answered => ih r (meets.2 r answered)⟩
  | cut => exact meets

/-- What every call keeps holds of the result too. -/
theorem kept (inv : World → Prop) (meets : Meets env terms post p w)
    (step : ∀ w c r, terms.allowed w c → env.answers w c r → inv w → inv (env.after w c r)) (start : inv w) :
    Meets env terms (fun a w' => post a w' ∧ inv w') p w := by
  induction p generalizing w with
  | done a => exact ⟨meets, start⟩
  | ask c next ih =>
    exact ⟨meets.1, fun r answered => ih r (meets.2 r answered) (step w c r meets.1 answered start)⟩
  | cut => exact meets

/-- What holds where calls are restricted holds where they are less so. -/
theorem weaken (terms' : Terms Call World) (meets : Meets env terms post p w)
    (allowed : ∀ w c, terms.allowed w c → terms'.allowed w c) (cut : terms.cut → terms'.cut) :
    Meets env terms' post p w := by
  induction p generalizing w with
  | done a => exact meets
  | ask c next ih => exact ⟨allowed w c meets.1, fun r answered => ih r (meets.2 r answered)⟩
  | cut => exact cut meets

theorem bind_iff {f : α → Program Call Answer β} {post : β → World → Prop} :
    Meets env terms post (p >>= f) w ↔ Meets env terms (fun a w' => Meets env terms post (f a) w') p w := by
  induction p generalizing w with
  | done a => exact Iff.rfl
  | ask c next ih => exact and_congr_right fun _ => forall_congr' fun r => imp_congr_right fun _ => ih r
  | cut => exact Iff.rfl

/-- One part of a program behind another. -/
theorem bind {f : α → Program Call Answer β} {mid : α → World → Prop} {post : β → World → Prop}
    (first : Meets env terms mid p w) (rest : ∀ a w', mid a w' → Meets env terms post (f a) w') :
    Meets env terms post (p >>= f) w :=
  bind_iff.mpr (first.mono rest)

/-- A call in front of a program. -/
theorem call_bind {c : Call} {f : Answer c → Program Call Answer β} {post : β → World → Prop} (allowed : terms.allowed w c)
    (rest : ∀ r, env.answers w c r → Meets env terms post (f r) (env.after w c r)) :
    Meets env terms post (Lib.call c >>= f) w :=
  ⟨allowed, rest⟩

section Loops
variable {body : σ → Program Call Answer (σ ⊕ α)} (inv : σ → World → Prop) {s : σ}

/-- A loop keeps what one turn keeps. -/
theorem repeated (cut : terms.cut)
    (turn : ∀ s w, inv s w → Meets env terms (fun r w' => r.elim (inv · w') (post · w')) (body s) w)
    (n : Nat) (start : inv s w) : Meets env terms post (.repeated body n s) w := by
  induction n generalizing s w with
  | zero => exact cut
  | succ n ih =>
    refine bind_iff.mpr ((turn s w start).mono ?_)
    rintro (s' | a) w' after
    · exact ih after
    · exact after

/-- A measure that every turn decreases bounds the turns of a loop. -/
theorem repeated_measure (measure : σ → World → Nat)
    (turn : ∀ s w, inv s w → Meets env terms
      (fun r w' => r.elim (fun s' => inv s' w' ∧ measure s' w' < measure s w) (post · w')) (body s) w)
    {n : Nat} (start : inv s w) (enough : measure s w < n) : Meets env terms post (.repeated body n s) w := by
  induction n generalizing s w with
  | zero => omega
  | succ n ih =>
    refine bind_iff.mpr ((turn s w start).mono ?_)
    rintro (s' | a) w' after
    · exact ih after.1 (by have := after.2; omega)
    · exact after

end Loops

end Meets

/-! ### Programs whose result does not matter -/

/-- From every world the program makes its calls where they are allowed, and leads where the relation says. -/
def Moves (r : World → World → Prop) (p : Program Call Answer α) : Prop :=
  ∀ w, Meets env terms (fun _ w' => r w w') p w

namespace Moves
variable {env terms} {r : World → World → Prop} {p : Program Call Answer α}

theorem done (refl : ∀ w, r w w) {a : α} : Moves env terms r (.done a : Program Call Answer α) := refl

theorem pure (refl : ∀ w, r w w) {a : α} : Moves env terms r (Pure.pure a : Program Call Answer α) := refl

theorem call {c : Call} (allowed : ∀ w, terms.allowed w c) (moves : ∀ w a, env.answers w c a → r w (env.after w c a)) :
    Moves env terms r (Lib.call c : Program Call Answer (Answer c)) :=
  fun w => ⟨allowed w, moves w⟩

theorem bind (trans : ∀ a b c, r a b → r b c → r a c) {f : α → Program Call Answer β} (first : Moves env terms r p)
    (rest : ∀ a, Moves env terms r (f a)) : Moves env terms r (p >>= f) :=
  fun w => (first w).bind fun a w' moved => (rest a w').mono fun _ w'' later => trans w w' w'' moved later

theorem repeated (cut : terms.cut) (refl : ∀ w, r w w) (trans : ∀ a b c, r a b → r b c → r a c)
    {body : σ → Program Call Answer (σ ⊕ α)} (turn : ∀ s, Moves env terms r (body s)) (n : Nat) (s : σ) :
    Moves env terms r (.repeated body n s) := by
  intro start
  refine Meets.repeated (fun _ w => r start w) cut ?_ n (refl start)
  intro s w moved
  refine (turn s w).mono ?_
  rintro (s' | a) w' later
  · exact trans start w w' moved later
  · exact trans start w w' moved later

end Moves

/-! ### Runs -/

/-- One call is made and answered. -/
inductive Asks : Program Call Answer α × World → Program Call Answer α × World → Prop where
  | ask (c : Call) (next : Answer c → Program Call Answer α) (w : World) (r : Answer c) (answered : env.answers w c r) :
    Asks (.ask c next, w) (next r, env.after w c r)

/-- What may be left of a program, and the world then. -/
def Reaches (p : Program Call Answer α) (w : World) (p' : Program Call Answer α) (w' : World) : Prop :=
  Relation.ReflTransGen (Asks env) (p, w) (p', w')

namespace Reaches
variable {env terms} {post : α → World → Prop} {p p' : Program Call Answer α} {w w' : World}

theorem refl (p : Program Call Answer α) (w : World) : Reaches env p w p w := Relation.ReflTransGen.refl

/-- The precondition holds of what is left. -/
theorem meets (reaches : Reaches env p w p' w') (meets : Meets env terms post p w) : Meets env terms post p' w' := by
  have every (s : Program Call Answer α × World) (run : Relation.ReflTransGen (Asks env) (p, w) s) :
      Meets env terms post s.1 s.2 := by
    induction run with
    | refl => exact meets
    | tail _ step ih =>
      cases step with
      | ask c next w r answered => exact ih.2 r answered
  exact every _ reaches

theorem allowed {c : Call} {next : Answer c → Program Call Answer α} (reaches : Reaches env p w (.ask c next) w')
    (meets : Meets env terms post p w) : terms.allowed w' c :=
  (reaches.meets meets).1

theorem result {a : α} (reaches : Reaches env p w (.done a) w') (meets : Meets env terms post p w) : post a w' :=
  reaches.meets meets

theorem not_cut (reaches : Reaches env p w p' w') (meets : Meets env terms post p w) (never : ¬ terms.cut) :
    p' ≠ .cut := by
  rintro rfl
  exact never (reaches.meets meets)

/-- What every call keeps holds wherever a run stops. -/
theorem keeps (inv : World → Prop) (reaches : Reaches env p w p' w')
    (step : ∀ w c r, terms.allowed w c → env.answers w c r → inv w → inv (env.after w c r))
    (meets : Meets env terms post p w) (start : inv w) : inv w' := by
  have every (s : Program Call Answer α × World) (run : Relation.ReflTransGen (Asks env) (p, w) s) :
      Meets env terms post s.1 s.2 ∧ inv s.2 := by
    induction run with
    | refl => exact ⟨meets, start⟩
    | tail _ last ih =>
      cases last with
      | ask c next w r answered => exact ⟨ih.1.2 r answered, step w c r ih.1.1 answered ih.2⟩
  exact (every _ reaches).2

end Reaches

/-! ### Histories -/

/-- Anything may be answered, and every call is noted, the last one first. -/
def history : Environment Call Answer (List (Sigma Answer)) where
  answers _ _ _ := True
  after past c r := ⟨c, r⟩ :: past

/-- Terms that ask for nothing. -/
def free : Terms Call World where
  allowed _ _ := True
  cut := True

/-- A history is only extended. -/
theorem Meets.grown {terms : Terms Call (List (Sigma Answer))} {post : α → List (Sigma Answer) → Prop}
    {p : Program Call Answer α} {past : List (Sigma Answer)} (meets : Meets history terms post p past) :
    Meets history terms (fun a past' => post a past' ∧ past <:+ past') p past :=
  meets.kept (past <:+ ·) (fun _ _ _ _ _ grown => grown.trans (List.suffix_cons ..)) (List.suffix_refl past)

theorem meets_free {env : Environment Call Answer World} (p : Program Call Answer α) (w : World) :
    Meets env free (fun _ _ => True) p w := by
  induction p generalizing w with
  | done a => trivial
  | ask c next ih => exact ⟨trivial, fun r _ => ih r _⟩
  | cut => trivial

theorem grows (p : Program Call Answer α) : Moves history free (fun past past' => past <:+ past') p :=
  fun past => (meets_free p past).grown.mono fun _ _ grown => grown.2

/-- Every call that was made was allowed by what was noted before it. -/
theorem Reaches.made {env terms} {post : α → World → Prop} {p p' : Program Call Answer α} {w w' : World}
    (past : World → List (Sigma Answer)) (noted : ∀ w c r, past (env.after w c r) = ⟨c, r⟩ :: past w)
    {rule : List (Sigma Answer) → Call → Prop} (allowed : ∀ w c, terms.allowed w c → rule (past w) c)
    (reaches : Reaches env p w p' w') (meets : Meets env terms post p w) (fresh : past w = []) {c : Call}
    {later before : List (Sigma Answer)} {r : Answer c} (made : past w' = later ++ ⟨c, r⟩ :: before) : rule before c := by
  have kept := reaches.keeps
    (fun w => ∀ later before c (r : Answer c), past w = later ++ ⟨c, r⟩ :: before → rule before c) ?_ meets ?_
  · exact kept later before c r made
  · intro w c r inside _ all later before c' r' made
    rw [noted] at made
    cases later with
    | nil =>
      cases made
      exact allowed w c inside
    | cons event later => exact all later before c' r' (List.cons.inj made).2
  · intro later before c r made
    rw [fresh] at made
    cases later <;> cases made

/-! ### Answers that are computed -/

/-- The run with the answers that a function gives, as far as it gives some. -/
def follow (answer : World → (c : Call) → Option (Answer c)) : Program Call Answer α → World → Program Call Answer α × World
  | .done a, w => (.done a, w)
  | .ask c next, w =>
    match answer w c with
    | some r => follow answer (next r) (env.after w c r)
    | none => (.ask c next, w)
  | .cut, w => (.cut, w)

theorem reaches_follow (answer : World → (c : Call) → Option (Answer c))
    (possible : ∀ w c r, answer w c = some r → env.answers w c r) (p : Program Call Answer α) (w : World) :
    Reaches env p w (follow env answer p w).1 (follow env answer p w).2 := by
  induction p generalizing w with
  | done a => exact .refl _ _
  | ask c next ih =>
    unfold follow
    split
    · rename_i r given
      exact .head (.ask c next w r (possible w c r given)) (ih r _)
    · exact .refl _ _
  | cut => exact .refl _ _

end Gnirehtet.Lib
