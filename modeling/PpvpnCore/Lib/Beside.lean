import PpvpnCore.Lib.Lock

/-!
# A history beside the state

A property of runs may speak of what happened before. `Prog.noted` is a task
with a record of what happened beside its state: each section is noted with
what it made of the state, each answer as it is heard. The task itself does not
see the record. Tasks of several kinds may share the state: each names the
places of its sections, and notes them, in its own way.

* `noted_bind`, `noted_withLock`, `noted_tryLock`: a noted task is made of its
  noted parts.
-/

namespace Lib

variable {σ τ π θ κ : Type} {ρ : κ → Type} {α β : Type}

namespace Prog

/-- Every section is noted. -/
def noted (place : π → θ) (note : π → σ → σ → τ → τ) : Prog σ π ρ α → Prog (σ × τ) θ ρ α
  | .ret a => .ret a
  | .sec here f k => .sec (place here) (fun s => (f s.1, note here s.1 (f s.1) s.2)) fun s =>
      (k s.1).noted place note
  | .call c k => .call c fun r => (k r).noted place note
  | .lock timed k => .lock timed fun b => (k b).noted place note
  | .unlock k => .unlock (k.noted place note)

variable {place : π → θ} {note : π → σ → σ → τ → τ}

theorem noted_bind (p : Prog σ π ρ α) (f : α → Prog σ π ρ β) :
    (p.bind f).noted place note = (p.noted place note).bind fun a => (f a).noted place note := by
  induction p with
  | ret a => rfl
  | sec here g k ih => simp only [bind, noted, ih]
  | call c k ih => simp only [bind, noted, ih]
  | lock timed k ih => simp only [bind, noted, ih]
  | unlock k ih => simp only [bind, noted, ih]

theorem noted_withLock (p : Prog σ π ρ α) :
    p.withLock.noted place note = (p.noted place note).withLock := by
  simp only [withLock, noted, noted_bind]

theorem noted_tryLock (p : Prog σ π ρ Unit) :
    p.tryLock.noted place note = (p.noted place note).tryLock := by
  simp only [tryLock, noted, Prog.lock.injEq, true_and]
  funext got
  cases got with
  | true => exact noted_bind p _
  | false => rfl

end Prog

/-- The answer's effect, and the answer noted. -/
def beside (effect : (c : κ) → ρ c → σ → σ) (hear : (c : κ) → ρ c → σ → τ → τ) (c : κ) (r : ρ c)
    (s : σ × τ) : σ × τ :=
  (effect c r s.1, hear c r s.1 s.2)

theorem wp_noted_bind {place : π → θ} {note : π → σ → σ → τ → τ} {E : Env (σ × τ) ρ}
    {p : Prog σ π ρ α} {f : α → Prog σ π ρ β} {Q : β → σ × τ → Prop} {s : σ × τ}
    (spec : wp E (p.noted place note) (fun a => wp E ((f a).noted place note) Q) s) :
    wp E ((p.bind f).noted place note) Q s := by
  rw [Prog.noted_bind]
  exact wp_bind spec

end Lib
