import PpvpnCore.Lib.Beside

/-!
# Tasks that only move as their world may

A task whose every step is one the world around it may take anyway is steady.
Whoever has the lock can run a steady task and knows what it knew before, as far
as that lasts; and a steady task needs no lock.

* `Steady.bind`, `Steady.forEach`: steady tasks are made of steady parts.
* `wp_steady`, `Obeys.of_steady`: such a task with the lock, and without.
-/

namespace Lib

variable {σ π κ : Type} {ρ : κ → Type} {α β : Type}

def Steady (E : Env σ ρ) : Prog σ π ρ α → Prop
  | .ret _ => True
  | .sec _ f k => (∀ s, E.good s → E.moves s (f s) ∧ E.good (f s)) ∧ ∀ s, Steady E (k s)
  | .call c k => (∀ s, E.good s → E.allowed c s) ∧ ∀ r s, E.good s → E.answers c r s →
      (E.moves s (E.effect c r s) ∧ E.good (E.effect c r s)) ∧ Steady E (k r)
  | .lock _ _ | .unlock _ => False

section

variable {E : Env σ ρ} {p : Prog σ π ρ α}

theorem Steady.bind {f : α → Prog σ π ρ β} (first : Steady E p) (rest : ∀ a, Steady E (f a)) :
    Steady E (p.bind f) := by
  induction p with
  | ret a => exact rest a
  | sec place g k ih => exact ⟨first.1, fun s => ih s (first.2 s)⟩
  | call c k ih =>
    refine ⟨first.1, fun r s good answer => ?_⟩
    obtain ⟨kept, later⟩ := first.2 r s good answer
    exact ⟨kept, ih r later⟩
  | lock timed k ih => exact first.elim
  | unlock k ih => exact first.elim

theorem Steady.forEach {xs : List β} {f : β → Prog σ π ρ Unit} (each : ∀ x, Steady E (f x)) :
    Steady E (Prog.forEach xs f) := by
  induction xs with
  | nil => trivial
  | cons x xs ih => exact (each x).bind fun _ => ih

theorem wp_steady {Q : α → σ → Prop} {s : σ} (steady : Steady E p)
    (post : ∀ a t, E.moves s t → E.good t → Q a t) : wp E p Q s := by
  induction p generalizing s with
  | ret a => exact post a
  | sec place f k ih =>
    intro t moved good
    obtain ⟨step, good'⟩ := steady.1 t good
    refine ⟨good', ih t (steady.2 t) fun a u later => ?_⟩
    exact post a u (E.trans (E.trans moved step) later)
  | call c k ih =>
    intro t moved good
    refine ⟨steady.1 t good, fun r answer => ?_⟩
    obtain ⟨⟨step, good'⟩, rest⟩ := steady.2 r t good answer
    refine ⟨good', ih r rest fun a u later => ?_⟩
    exact post a u (E.trans (E.trans moved step) later)
  | lock timed k ih => exact steady.elim
  | unlock k ih => exact steady.elim

end

variable {D : Discipline σ π ρ} {p : Prog σ π ρ α}

/-- What the others may do keeps the invariant, so a task that does no more
needs no lock. -/
theorem Obeys.of_steady (keeps : ∀ s t, D.moves s t → D.good t → D.inv s → D.inv t)
    (steady : Steady D.env p) : Obeys D p none := by
  have kept : ∀ {held s t}, D.At held s → D.moves s t ∧ D.good t → D.Keeps held s t :=
    fun here step => ⟨step.2, fun _ => step.1, fun free => keeps _ _ step.1 step.2 (here.2 free)⟩
  induction p with
  | ret a => trivial
  | sec place f k ih =>
    intro held s here _
    exact ⟨kept here (steady.1 s here.1), ih s (steady.2 s)⟩
  | call c k ih =>
    intro held s here
    refine ⟨steady.1 s here.1, fun r answer => ?_⟩
    obtain ⟨step, rest⟩ := steady.2 r s here.1 answer
    exact ⟨kept here step, ih r rest⟩
  | lock timed k ih => exact steady.elim
  | unlock k ih => exact steady.elim

/-- A call without the lock, what is done with its answer being up to it. -/
theorem Obeys.call {c : κ} {k : ρ c → Prog σ π ρ α}
    (keeps : ∀ s t, D.moves s t → D.good t → D.inv s → D.inv t)
    (allowed : ∀ s, D.good s → D.allowed c s)
    (step : ∀ r s, D.good s → D.answers c r s →
      (D.moves s (D.effect c r s) ∧ D.good (D.effect c r s)) ∧ Obeys D (k r) none) :
    Obeys D (.call c k) none := by
  intro held s here
  refine ⟨allowed s here.1, fun r answer => ?_⟩
  obtain ⟨⟨moved, good⟩, rest⟩ := step r s here.1 answer
  exact ⟨⟨good, fun _ => moved, fun free => keeps _ _ moved good (here.2 free)⟩, rest⟩

end Lib
