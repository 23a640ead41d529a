import Mathlib.Logic.Basic

/-!
# Values on their way

A value is handed on from where it changes to where it is shown, by carriers
that may be any number and in any order. What is handed on carries a stamp, the
number of changes before it.

* `Relayed`: whatever has not arrived yet is due to be picked up or carried.
* `Relayed.changes`, `Relayed.reads`, `Relayed.lands`: the steps; nothing lands
  on what is newer.
* `Relayed.arrived`: with nothing due and nothing carried, what is shown is the
  value.
-/

namespace Lib

variable {α : Type}

/-- A value, and how often it was changed before. -/
structure Stamped (α : Type) where
  value : α
  stamp : Nat
  deriving DecidableEq

def Stamped.change (x : Stamped α) (value : α) : Stamped α := ⟨value, x.stamp + 1⟩

/-- `x` is what `current` was at its stamp, as far as that is known. -/
structure Stamped.Of (current x : Stamped α) : Prop where
  le : x.stamp ≤ current.stamp
  eq : x.stamp = current.stamp → x.value = current.value

theorem Stamped.Of.refl (x : Stamped α) : Stamped.Of x x := ⟨Nat.le_refl _, fun _ => rfl⟩

theorem Stamped.Of.change {current x : Stamped α} (of : Stamped.Of current x) (value : α) :
    Stamped.Of (current.change value) x := by
  have le := of.le
  refine ⟨Nat.le_succ_of_le le, fun same => ?_⟩
  have same : x.stamp = current.stamp + 1 := same
  omega

/-- `landed` has arrived of `current`; if that is not the latest, the latest is
due to be picked up or `carried`. -/
structure Relayed (current landed : Stamped α) (due : Prop) (carried : Stamped α → Prop) : Prop where
  shown : Stamped.Of current landed
  under : ∀ x, carried x → Stamped.Of current x
  comes : landed.stamp < current.stamp → due ∨ carried current

namespace Relayed

variable {current landed x : Stamped α} {due due' : Prop} {carried carried' : Stamped α → Prop}

theorem congr (relayed : Relayed current landed due carried) (dues : due → due')
    (same : ∀ x, carried' x ↔ carried x) : Relayed current landed due' carried' := by
  refine ⟨relayed.shown, fun x here => relayed.under x ((same x).mp here), fun behind => ?_⟩
  rcases relayed.comes behind with waits | comes
  · exact .inl (dues waits)
  · exact .inr ((same current).mpr comes)

/-- The value changes, and whoever changed it hands it on. -/
theorem changes (relayed : Relayed current landed due carried) {value : α}
    (owed : due' ∨ carried' (current.change value))
    (only : ∀ x, carried' x → carried x ∨ x = current.change value) :
    Relayed (current.change value) landed due' carried' := by
  refine ⟨relayed.shown.change value, fun x here => ?_, fun _ => owed⟩
  rcases only x here with before | rfl
  · exact (relayed.under x before).change value
  · exact .refl _

/-- It is picked up. -/
theorem reads (relayed : Relayed current landed due carried) (taken : carried' current)
    (only : ∀ x, carried' x → carried x ∨ x = current) :
    Relayed current landed due' carried' := by
  refine ⟨relayed.shown, fun x here => ?_, fun _ => .inr taken⟩
  rcases only x here with before | rfl
  · exact relayed.under x before
  · exact .refl _

/-- It arrives, on something that is not newer. -/
theorem lands (relayed : Relayed current landed due carried) (here : carried x)
    (newer : landed.stamp ≤ x.stamp) (only : ∀ y, carried' y → carried y)
    (others : ∀ y, carried y → y ≠ x → carried' y) : Relayed current x due carried' := by
  refine ⟨relayed.under x here, fun y there => relayed.under y (only y there), fun behind => ?_⟩
  rcases relayed.comes (Nat.lt_of_le_of_lt newer behind) with waits | comes
  · exact .inl waits
  · refine .inr (others current comes fun same => ?_)
    rw [same] at behind
    exact Nat.lt_irrefl _ behind

/-- Nothing is on its way. -/
theorem arrived (relayed : Relayed current landed due carried) (none_due : ¬due)
    (none_carried : ∀ x, ¬carried x) : landed.stamp = current.stamp ∧ landed.value = current.value := by
  have same : landed.stamp = current.stamp := by
    rcases Nat.lt_or_eq_of_le relayed.shown.le with behind | same
    · rcases relayed.comes behind with waits | comes
      · exact absurd waits none_due
      · exact absurd comes (none_carried _)
    · exact same
  exact ⟨same, relayed.shown.eq same⟩

end Relayed

end Lib
