import PpvpnCore.Lib.Prog
import Mathlib.Data.List.Basic

/-!
# Tasks side by side

A pool is the tasks of one shared state with one lock. A schedule says which
task takes its next step, and what a call is answered; a call is two steps, the
issue and the answer, and anything may happen in between.

* `Pool.step`, `Pool.play`: the schedule, executed.
* `Reaches`: the pools reached by steps that all meet a condition.
* `Reaches.within`: what every section of every task keeps holds of every pool
  reached.
-/

namespace Lib

variable {σ π κ : Type} {ρ : κ → Type} {α : Type}

/-- A task and whether its call has been issued. -/
structure Running (σ π : Type) {κ : Type} (ρ : κ → Type) (α : Type) where
  prog : Prog σ π ρ α
  issued : Bool := false

structure Pool (σ π : Type) {κ : Type} (ρ : κ → Type) (α : Type) where
  state : σ
  /-- The task that has the lock. -/
  owner : Option Nat := none
  tasks : List (Running σ π ρ α)

inductive Move {κ : Type} (ρ : κ → Type) where
  /-- A section, the issue of a call, or the lock taken or released. -/
  | go (i : Nat)
  | answer (i : Nat) (oracle : (c : κ) → ρ c)
  /-- A timed wait for the lock runs into its limit. -/
  | giveUp (i : Nat)

namespace Pool

def task (p : Pool σ π ρ α) (i : Nat) : Option (Prog σ π ρ α) := (p.tasks[i]?).map (·.prog)

/-- Every task has returned. -/
def done (p : Pool σ π ρ α) : Bool :=
  p.tasks.all fun r => match r.prog with
    | .ret _ => true
    | _ => false

/-- Task `i` goes on as `prog` in `state`. -/
def next (p : Pool σ π ρ α) (i : Nat) (state : σ) (prog : Prog σ π ρ α) : Pool σ π ρ α :=
  { p with state, tasks := p.tasks.set i { prog } }

def step (effect : (c : κ) → ρ c → σ → σ) (p : Pool σ π ρ α) : Move ρ → Option (Pool σ π ρ α)
  | .go i =>
    match p.tasks[i]? with
    | some ⟨.sec _ f k, _⟩ => some (p.next i (f p.state) (k p.state))
    | some ⟨.call c k, false⟩ => some { p with tasks := p.tasks.set i ⟨.call c k, true⟩ }
    | some ⟨.lock _ k, _⟩ =>
      if p.owner = none then some { p.next i p.state (k true) with owner := some i } else none
    | some ⟨.unlock k, _⟩ =>
      if p.owner = some i then some { p.next i p.state k with owner := none } else none
    | _ => none
  | .answer i oracle =>
    match p.tasks[i]? with
    | some ⟨.call c k, true⟩ => some (p.next i (effect c (oracle c) p.state) (k (oracle c)))
    | _ => none
  | .giveUp i =>
    match p.tasks[i]? with
    | some ⟨.lock true k, _⟩ => some (p.next i p.state (k false))
    | _ => none

/-- A schedule executed: a move that cannot be made, or may not, is skipped. -/
def play (effect : (c : κ) → ρ c → σ → σ) (ok : Pool σ π ρ α → Move ρ → Prop)
    [∀ p m, Decidable (ok p m)] (p : Pool σ π ρ α) (moves : List (Move ρ)) : Pool σ π ρ α :=
  moves.foldl (fun p m => if ok p m then (p.step effect m).getD p else p) p

end Pool

/-- The pools reached from `p` by steps that all meet a condition. -/
inductive Reaches (effect : (c : κ) → ρ c → σ → σ)
    (ok : Pool σ π ρ α → Move ρ → Prop) (p : Pool σ π ρ α) : Pool σ π ρ α → Prop
  | refl : Reaches effect ok p p
  | step {q q' : Pool σ π ρ α} {m : Move ρ} (before : Reaches effect ok p q) (meets : ok q m)
      (taken : q.step effect m = some q') : Reaches effect ok p q'

variable {effect : (c : κ) → ρ c → σ → σ} {ok : Pool σ π ρ α → Move ρ → Prop}
  {p q q' : Pool σ π ρ α} {m : Move ρ} {i : Nat}

theorem Reaches.trans (first : Reaches effect ok p q) (then_ : Reaches effect ok q q') :
    Reaches effect ok p q' := by
  induction then_ with
  | refl => exact first
  | step _ meets taken ih => exact ih.step meets taken

theorem Reaches.of_play [∀ p m, Decidable (ok p m)] (p : Pool σ π ρ α) (moves : List (Move ρ)) :
    Reaches effect ok p (p.play effect ok moves) := by
  induction moves generalizing p with
  | nil => exact .refl
  | cons m moves ih =>
    refine Reaches.trans ?_ (ih _)
    dsimp only
    split
    next meets =>
      cases taken : p.step effect m with
      | none => exact .refl
      | some q => exact Reaches.step .refl meets taken
    next => exact .refl

/-! ## One step -/

/-- What a step of a pool may be. -/
inductive Stepped (effect : (c : κ) → ρ c → σ → σ) (p : Pool σ π ρ α) :
    Move ρ → Pool σ π ρ α → Prop
  | sec {i : Nat} {place : π} {f : σ → σ} {k : σ → Prog σ π ρ α}
      (task : p.task i = some (.sec place f k)) :
      Stepped effect p (.go i) (p.next i (f p.state) (k p.state))
  | issue {i : Nat} {c : κ} {k : ρ c → Prog σ π ρ α} (task : p.task i = some (.call c k)) :
      Stepped effect p (.go i) { p with tasks := p.tasks.set i ⟨.call c k, true⟩ }
  | lock {i : Nat} {timed : Bool} {k : Bool → Prog σ π ρ α}
      (task : p.task i = some (.lock timed k)) (free : p.owner = none) :
      Stepped effect p (.go i) { p.next i p.state (k true) with owner := some i }
  | unlock {i : Nat} {k : Prog σ π ρ α} (task : p.task i = some (.unlock k))
      (held : p.owner = some i) :
      Stepped effect p (.go i) { p.next i p.state k with owner := none }
  | answer {i : Nat} {c : κ} {k : ρ c → Prog σ π ρ α} {oracle : (c : κ) → ρ c}
      (task : p.task i = some (.call c k)) :
      Stepped effect p (.answer i oracle) (p.next i (effect c (oracle c) p.state) (k (oracle c)))
  | giveUp {i : Nat} {k : Bool → Prog σ π ρ α} (task : p.task i = some (.lock true k)) :
      Stepped effect p (.giveUp i) (p.next i p.state (k false))

theorem Pool.step_cases (taken : p.step effect m = some q) : Stepped effect p m q := by
  cases m with
  | go i =>
    simp only [Pool.step] at taken
    split at taken
    next here =>
      cases taken
      exact .sec (by rw [Pool.task, here]; rfl)
    next here =>
      cases taken
      exact .issue (by rw [Pool.task, here]; rfl)
    next here =>
      split at taken
      next free =>
        cases taken
        exact .lock (by rw [Pool.task, here]; rfl) free
      next => cases taken
    next here =>
      split at taken
      next held =>
        cases taken
        exact .unlock (by rw [Pool.task, here]; rfl) held
      next => cases taken
    next => cases taken
  | answer i oracle =>
    simp only [Pool.step] at taken
    split at taken
    next here =>
      cases taken
      exact .answer (by rw [Pool.task, here]; rfl)
    next => cases taken
  | giveUp i =>
    simp only [Pool.step] at taken
    split at taken
    next here =>
      cases taken
      exact .giveUp (by rw [Pool.task, here]; rfl)
    next => cases taken

/-- The tasks once task `i` was replaced. -/
theorem Pool.task_set {tasks : List (Running σ π ρ α)} {i j : Nat} {r : Running σ π ρ α}
    {prog : Prog σ π ρ α} (here : ((tasks.set i r)[j]?).map (·.prog) = some prog) :
    (j = i ∧ prog = r.prog) ∨ (j ≠ i ∧ (tasks[j]?).map (·.prog) = some prog) := by
  rw [List.getElem?_set] at here
  split at here
  next eq =>
    split at here
    next =>
      cases here
      exact .inl ⟨eq.symm, rfl⟩
    next => cases here
  next ne => exact .inr ⟨Ne.symm ne, here⟩

theorem Pool.task_next {state : σ} {prog prog' : Prog σ π ρ α} {j : Nat}
    (here : (p.next i state prog).task j = some prog') :
    (j = i ∧ prog' = prog) ∨ (j ≠ i ∧ p.task j = some prog') :=
  Pool.task_set here

/-! ## What every section keeps -/

/-- What every section of every task and every answer keep. -/
theorem Reaches.within {S : π → σ → σ → Prop} {I : σ → Prop}
    (tasks : ∀ i prog, p.task i = some prog → Within S prog) (start : I p.state)
    (sections : ∀ place s t, S place s t → I s → I t)
    (answers : ∀ c r s, I s → I (effect c r s)) (reached : Reaches effect ok p q) :
    I q.state ∧ ∀ i prog, q.task i = some prog → Within S prog := by
  induction reached with
  | refl => exact ⟨start, tasks⟩
  | step _ _ taken ih =>
    obtain ⟨inv, each⟩ := ih
    cases Pool.step_cases taken with
    | sec task =>
      have within := each _ _ task
      refine ⟨sections _ _ _ (within.1 _) inv, fun j prog here => ?_⟩
      rcases Pool.task_next here with ⟨-, rfl⟩ | ⟨-, there⟩
      · exact within.2 _
      · exact each j prog there
    | issue task =>
      refine ⟨inv, fun j prog here => ?_⟩
      rcases Pool.task_set here with ⟨-, rfl⟩ | ⟨-, there⟩
      · exact each _ _ task
      · exact each j prog there
    | lock task free =>
      refine ⟨inv, fun j prog here => ?_⟩
      rcases Pool.task_set here with ⟨-, rfl⟩ | ⟨-, there⟩
      · exact each _ _ task true
      · exact each j prog there
    | unlock task held =>
      have within := each _ _ task
      refine ⟨inv, fun j prog here => ?_⟩
      rcases Pool.task_set here with ⟨-, rfl⟩ | ⟨-, there⟩
      · exact within
      · exact each j prog there
    | answer task =>
      refine ⟨answers _ _ _ inv, fun j prog here => ?_⟩
      rcases Pool.task_next here with ⟨-, rfl⟩ | ⟨-, there⟩
      · exact each _ _ task _
      · exact each j prog there
    | giveUp task =>
      refine ⟨inv, fun j prog here => ?_⟩
      rcases Pool.task_next here with ⟨-, rfl⟩ | ⟨-, there⟩
      · exact each _ _ task false
      · exact each j prog there

end Lib
