import PpvpnCore.Lib.Prog

/-!
# The shape of a task

What holds on every path through a task, whatever the world answers and whatever
state each of its sections finds.

* `Flat`: it never touches the lock, and its sections are at certain places.
* `AtMost`: so many of its sections are at counted places.
* `GivesWay`: each time it gets the lock it looks first, and if the state is not
  its own it leaves it alone and ends.
-/

namespace Lib

variable {σ π κ : Type} {ρ : κ → Type} {α β : Type}

def Flat (P : π → Prop) : Prog σ π ρ α → Prop
  | .ret _ => True
  | .sec place _ k => P place ∧ ∀ s, Flat P (k s)
  | .call _ k => ∀ r, Flat P (k r)
  | .lock _ _ | .unlock _ => False

/-- On every path at most `n` sections are at places `counted`. -/
def AtMost (counted : π → Bool) : Nat → Prog σ π ρ α → Prop
  | _, .ret _ => True
  | n, .sec place _ k => if counted place then ∃ m, n = m + 1 ∧ ∀ s, AtMost counted m (k s)
      else ∀ s, AtMost counted n (k s)
  | n, .call _ k => ∀ r, AtMost counted n (k r)
  | n, .lock _ k => ∀ b, AtMost counted n (k b)
  | n, .unlock k => AtMost counted n k

/-- `looking`: the task has just got the lock. A look at `place` finds the state
the task's own if `mine` says so; `same` is what it may change otherwise. -/
def GivesWay (mine : π → σ → Prop) (same : σ → σ → Prop) : Bool → Prog σ π ρ α → Prop
  | looking, .ret _ => looking = false
  | true, .sec place f k =>
    (∀ s, ¬mine place s → same s (f s) ∧ ∃ a, k s = .unlock (.ret a)) ∧
      ∀ s, GivesWay mine same false (k s)
  | false, .sec _ _ k => ∀ s, GivesWay mine same false (k s)
  | looking, .call _ k => looking = false ∧ ∀ r, GivesWay mine same false (k r)
  | _, .lock _ k => ∀ b, GivesWay mine same true (k b)
  | looking, .unlock k => looking = false ∧ GivesWay mine same false k

section

variable {P : π → Prop} {p : Prog σ π ρ α} {f : α → Prog σ π ρ β}

theorem Flat.bind (first : Flat P p) (rest : ∀ a, Flat P (f a)) : Flat P (p.bind f) := by
  induction p with
  | ret a => exact rest a
  | sec place g k ih => exact ⟨first.1, fun s => ih s (first.2 s)⟩
  | call c k ih => exact fun r => ih r (first r)
  | lock timed k ih => exact first.elim
  | unlock k ih => exact first.elim

theorem Flat.forEach {xs : List β} {f : β → Prog σ π ρ Unit} (each : ∀ x, Flat P (f x)) :
    Flat P (Prog.forEach xs f) := by
  induction xs with
  | nil => trivial
  | cons x xs ih => exact (each x).bind fun _ => ih

end

section

variable {counted : π → Bool} {p : Prog σ π ρ α} {f : α → Prog σ π ρ β} {m n : Nat}

theorem AtMost.mono (few : AtMost counted m p) (le : m ≤ n) : AtMost counted n p := by
  induction p generalizing m n with
  | ret a => trivial
  | sec place g k ih =>
    unfold AtMost at few ⊢
    split at few
    next here =>
      obtain ⟨l, rfl, rest⟩ := few
      rw [if_pos here]
      exact ⟨n - 1, by omega, fun s => ih s (rest s) (by omega)⟩
    next here =>
      rw [if_neg here]
      exact fun s => ih s (few s) le
  | call c k ih => exact fun r => ih r (few r) le
  | lock timed k ih => exact fun b => ih b (few b) le
  | unlock k ih =>
    unfold AtMost at few ⊢
    exact ih few le

/-- A part without counted sections, and the rest. -/
theorem AtMost.flat (first : Flat (counted · = false) p) (rest : ∀ a, AtMost counted n (f a)) :
    AtMost counted n (p.bind f) := by
  induction p with
  | ret a => exact rest a
  | sec place g k ih =>
    show AtMost counted n (.sec place g fun s => (k s).bind f)
    unfold AtMost
    rw [if_neg (by rw [first.1]; exact Bool.noConfusion)]
    exact fun s => ih s (first.2 s)
  | call c k ih => exact fun r => ih r (first r)
  | lock timed k ih => exact first.elim
  | unlock k ih => exact first.elim

end

section

variable {mine : π → σ → Prop} {same : σ → σ → Prop} {P : π → Prop} {p : Prog σ π ρ α}
  {f : α → Prog σ π ρ β}

theorem GivesWay.flat (first : Flat P p) (rest : ∀ a, GivesWay mine same false (f a)) :
    GivesWay mine same false (p.bind f) := by
  induction p with
  | ret a => exact rest a
  | sec place g k ih => exact fun s => ih s (first.2 s)
  | call c k ih => exact ⟨rfl, fun r => ih r (first r)⟩
  | lock timed k ih => exact first.elim
  | unlock k ih => exact first.elim

end

end Lib
