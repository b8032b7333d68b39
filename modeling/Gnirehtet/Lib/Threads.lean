import Mathlib.Logic.Function.Basic

/-!
# Threads and the lock of a section

Each thread is at one place of its code, and a step moves one thread. `Guards` says that a lock is
held by exactly the thread that is inside the section that it guards; `goto`, `acquire` and `release` are the
steps that keep it.
-/

namespace Gnirehtet.Lib

universe u v
variable {ι : Type u} {π : Type v}

/-- The lock is held by exactly the thread inside the section. -/
def Guards (inside : π → Prop) (lock : Option ι) (pc : ι → π) : Prop := ∀ i, inside (pc i) ↔ lock = some i

namespace Guards
variable {inside : π → Prop} {lock : Option ι} {pc : ι → π} {i j : ι} {place : π}

/-- Mutual exclusion. -/
theorem unique (guards : Guards inside lock pc) (here : inside (pc i)) (there : inside (pc j)) : i = j := by
  have held := (guards i).mp here
  rw [(guards j).mp there] at held
  exact (Option.some.inj held).symm

theorem outside (guards : Guards inside lock pc) (here : inside (pc i)) (other : j ≠ i) : ¬ inside (pc j) :=
  fun there => other (guards.unique there here)

variable [DecidableEq ι]

theorem goto (guards : Guards inside lock pc) (same : inside place ↔ inside (pc i)) :
    Guards inside lock (Function.update pc i place) := by
  intro j
  by_cases here : j = i
  · rw [here, Function.update_self, same]
    exact guards i
  · rw [Function.update_of_ne here]
    exact guards j

theorem acquire (guards : Guards inside none pc) (enters : inside place) :
    Guards inside (some i) (Function.update pc i place) := by
  intro j
  by_cases here : j = i
  · rw [here, Function.update_self]
    exact ⟨fun _ => rfl, fun _ => enters⟩
  · rw [Function.update_of_ne here]
    have free : ¬ inside (pc j) := fun there => nomatch (guards j).mp there
    exact ⟨fun there => absurd there free, fun held => absurd (Option.some.inj held).symm here⟩

theorem release (guards : Guards inside lock pc) (here : inside (pc i)) (leaves : ¬ inside place) :
    Guards inside none (Function.update pc i place) := by
  intro j
  refine ⟨fun there => ?_, fun held => nomatch held⟩
  by_cases own : j = i
  · rw [own, Function.update_self] at there
    exact absurd there leaves
  · rw [Function.update_of_ne own] at there
    exact absurd there (guards.outside here own)

end Guards

/-- What holds at every place holds after a thread moved to a place where it holds. -/
theorem everywhere_goto [DecidableEq ι] (P : π → Prop) {pc : ι → π} {i : ι} {place : π}
    (everywhere : ∀ j, P (pc j)) (there : P place) : ∀ j, P (Function.update pc i place j) := by
  intro j
  by_cases here : j = i
  · rwa [here, Function.update_self]
  · rw [Function.update_of_ne here]
    exact everywhere j

end Gnirehtet.Lib
