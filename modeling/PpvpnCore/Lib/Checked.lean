import Mathlib.Algebra.Order.Ring.Int

/-!
# Checked arithmetic

A computation on signed 64-bit numbers that may be given up, and that halts where
a result does not fit.
-/

namespace Lib

/-- Why there is no value: none was found, or an operation overflowed. -/
inductive Halt where
  | absent | overflow
  deriving DecidableEq

/-- The range of `i64`. -/
abbrev Fits (z : Int) : Prop := -9223372036854775808 ≤ z ∧ z ≤ 9223372036854775807

def checked (z : Int) : Except Halt Int :=
  if Fits z then .ok z else .error .overflow

/-- `?` on an option. -/
def given {α : Type} : Option α → Except Halt α
  | some a => .ok a
  | none => .error .absent

theorem checked_of_fits {z : Int} (fits : Fits z) : checked z = .ok z := if_pos fits

theorem ok_bind {ε α β : Type} (a : α) (f : α → Except ε β) : (Except.ok a >>= f) = f a := rfl

theorem error_bind {ε α β : Type} (e : ε) (f : α → Except ε β) : (Except.error e >>= f) = .error e :=
  rfl

theorem bind_pure_error {ε α β : Type} {x : Except ε α} {f : α → β} {e : ε} :
    (x >>= fun a => pure (f a)) = .error e ↔ x = .error e := by
  cases x with
  | error e' => rw [error_bind, Except.error.injEq, Except.error.injEq]
  | ok a =>
    constructor
    · intro done
      cases done
    · intro done
      cases done

theorem checked_overflow {z : Int} : checked z = .error .overflow ↔ ¬ Fits z := by
  unfold checked
  by_cases fits : Fits z
  · simp [fits]
  · simp [fits]

theorem checked_bind_overflow {α : Type} {z : Int} {f : Int → Except Halt α} :
    (checked z >>= f) = .error .overflow ↔ (Fits z → f z = .error .overflow) := by
  by_cases fits : Fits z
  · rw [checked_of_fits fits, ok_bind]
    exact ⟨fun halts _ => halts, fun halts => halts fits⟩
  · rw [checked_overflow.2 fits, error_bind]
    exact ⟨fun _ fits' => absurd fits' fits, fun _ => rfl⟩

theorem given_ne_overflow {α : Type} {a : Option α} : given a ≠ .error .overflow := by
  cases a <;> exact fun halts => by cases halts

theorem given_bind_overflow {α β : Type} {a : Option α} {f : α → Except Halt β} :
    (given a >>= f) = .error .overflow ↔ ∃ value, a = some value ∧ f value = .error .overflow := by
  cases a with
  | none =>
    constructor
    · intro absent
      cases absent
    · rintro ⟨_, absent, -⟩
      cases absent
  | some a =>
    constructor
    · intro halts
      exact ⟨a, rfl, halts⟩
    · rintro ⟨_, ⟨⟩, halts⟩
      exact halts

end Lib
