import PpvpnCore.Lib.Prog

/-!
# A task in a wider world

A task may be written for a state that is a part of another, and for a world that
answers only some of the calls of another.

* `Prog.called`: its calls go by the names of the wider world.
* `Prog.focus`: its state is a part of the wider one.
-/

namespace Lib.Prog

variable {σ τ π κ κ' : Type} {ρ : κ → Type} {ρ' : κ' → Type} {α β : Type}

def called (name : κ → κ') (hear : ∀ c, ρ' (name c) → ρ c) : Prog σ π ρ α → Prog σ π ρ' α
  | .ret a => .ret a
  | .sec here f k => .sec here f fun s => (k s).called name hear
  | .call c k => .call (name c) fun r => (k (hear c r)).called name hear
  | .lock timed k => .lock timed fun b => (k b).called name hear
  | .unlock k => .unlock (k.called name hear)

def focus (view : τ → σ) (put : σ → τ → τ) : Prog σ π ρ α → Prog τ π ρ α
  | .ret a => .ret a
  | .sec here f k => .sec here (fun t => put (f (view t)) t) fun t => (k (view t)).focus view put
  | .call c k => .call c fun r => (k r).focus view put
  | .lock timed k => .lock timed fun b => (k b).focus view put
  | .unlock k => .unlock (k.focus view put)

variable {name : κ → κ'} {hear : ∀ c, ρ' (name c) → ρ c} {view : τ → σ} {put : σ → τ → τ}

theorem called_bind (p : Prog σ π ρ α) (f : α → Prog σ π ρ β) :
    (p.bind f).called name hear = (p.called name hear).bind fun a => (f a).called name hear := by
  induction p with
  | ret a => rfl
  | sec place g k ih => simp only [bind, called, ih]
  | call c k ih => simp only [bind, called, ih]
  | lock timed k ih => simp only [bind, called, ih]
  | unlock k ih => simp only [bind, called, ih]

theorem focus_bind (p : Prog σ π ρ α) (f : α → Prog σ π ρ β) :
    (p.bind f).focus view put = (p.focus view put).bind fun a => (f a).focus view put := by
  induction p with
  | ret a => rfl
  | sec place g k ih => simp only [bind, focus, ih]
  | call c k ih => simp only [bind, focus, ih]
  | lock timed k ih => simp only [bind, focus, ih]
  | unlock k ih => simp only [bind, focus, ih]

end Lib.Prog
