import PpvpnCore.Lib.Pool
import Mathlib.Algebra.Group.Basic

/-!
# What tasks still owe

A task may leave the state in need of something it still has to do. `Books` says
what holds of the state together with what all the tasks still owe; each task is
looked at on its own, with what the others owe as an unknown rest.

* `Pays`: a task that owes something ends owing what `Q` says.
* `Pays.bind`: a task pays part by part.
* `Reaches.balanced`: in every pool reached by tasks that end owing nothing,
  the books balance; once all have returned, nothing is owed.
-/

namespace Lib

variable {σ π κ : Type} {ρ : κ → Type} {α β M : Type} [AddCommMonoid M]

/-- The world around the tasks, and what holds of the lock (taken or not), the
state and all that is owed. -/
structure Books (σ : Type) {κ : Type} (ρ : κ → Type) (M : Type) where
  effect : (c : κ) → ρ c → σ → σ
  answers : (c : κ) → ρ c → σ → Prop
  inv : Bool → σ → M → Prop

/-- Owing `d`, the task keeps the books and ends owing what `Q` says. -/
def Pays (B : Books σ ρ M) : Prog σ π ρ α → M → (α → M → Prop) → Prop
  | .ret a, d, Q => Q a d
  | .sec _ f k, d, Q => ∀ held s rest, B.inv held s (d + rest) →
      ∃ d', B.inv held (f s) (d' + rest) ∧ Pays B (k s) d' Q
  | .call c k, d, Q => ∀ held s rest r, B.inv held s (d + rest) → B.answers c r s →
      ∃ d', B.inv held (B.effect c r s) (d' + rest) ∧ Pays B (k r) d' Q
  | .lock timed k, d, Q =>
    (∀ s rest, B.inv false s (d + rest) → ∃ d', B.inv true s (d' + rest) ∧ Pays B (k true) d' Q) ∧
      (timed = true → Pays B (k false) d Q)
  | .unlock k, d, Q => ∀ s rest, B.inv true s (d + rest) →
      ∃ d', B.inv false s (d' + rest) ∧ Pays B k d' Q

/-- All is paid in the end. -/
abbrev Owes (B : Books σ ρ M) (p : Prog σ π ρ α) (d : M) : Prop := Pays B p d fun _ d => d = 0

section

variable {B : Books σ ρ M} {p : Prog σ π ρ α} {d : M}

theorem Pays.mono {Q R : α → M → Prop} (pays : Pays B p d Q) (weaker : ∀ a d, Q a d → R a d) :
    Pays B p d R := by
  induction p generalizing d with
  | ret a => exact weaker a d pays
  | sec place f k ih =>
    intro held s rest inv
    obtain ⟨d', kept, later⟩ := pays held s rest inv
    exact ⟨d', kept, ih s later⟩
  | call c k ih =>
    intro held s rest r inv answer
    obtain ⟨d', kept, later⟩ := pays held s rest r inv answer
    exact ⟨d', kept, ih r later⟩
  | lock timed k ih =>
    refine ⟨fun s rest inv => ?_, fun gives => ih false (pays.2 gives)⟩
    obtain ⟨d', kept, later⟩ := pays.1 s rest inv
    exact ⟨d', kept, ih true later⟩
  | unlock k ih =>
    intro s rest inv
    obtain ⟨d', kept, later⟩ := pays s rest inv
    exact ⟨d', kept, ih later⟩

theorem Pays.bind {f : α → Prog σ π ρ β} {Q : β → M → Prop}
    (pays : Pays B p d fun a d => Pays B (f a) d Q) : Pays B (p.bind f) d Q := by
  induction p generalizing d with
  | ret a => exact pays
  | sec place g k ih =>
    intro held s rest inv
    obtain ⟨d', kept, later⟩ := pays held s rest inv
    exact ⟨d', kept, ih s later⟩
  | call c k ih =>
    intro held s rest r inv answer
    obtain ⟨d', kept, later⟩ := pays held s rest r inv answer
    exact ⟨d', kept, ih r later⟩
  | lock timed k ih =>
    refine ⟨fun s rest inv => ?_, fun gives => ih false (pays.2 gives)⟩
    obtain ⟨d', kept, later⟩ := pays.1 s rest inv
    exact ⟨d', kept, ih true later⟩
  | unlock k ih =>
    intro s rest inv
    obtain ⟨d', kept, later⟩ := pays s rest inv
    exact ⟨d', kept, ih later⟩

end

/-! ## Every schedule -/

/-- What each of the tasks owes, and all of them together; each ends owing what
`Q` says. -/
inductive Ledger (B : Books σ ρ M) (Q : α → M → Prop) : List (Running σ π ρ α) → M → Prop
  | nil : Ledger B Q [] 0
  | cons {r : Running σ π ρ α} {rs : List (Running σ π ρ α)} {d total : M}
      (pays : Pays B r.prog d Q) (others : Ledger B Q rs total) : Ledger B Q (r :: rs) (d + total)

/-- The books hold of all that the tasks of a pool owe. -/
def Books.Balanced (B : Books σ ρ M) (Q : α → M → Prop) (q : Pool σ π ρ α) : Prop :=
  ∃ total, Ledger B Q q.tasks total ∧ B.inv q.owner.isSome q.state total

section

variable {B : Books σ ρ M} {Q : α → M → Prop} {q q' : Pool σ π ρ α} {m : Move ρ}

/-- One task's debt and the rest. -/
theorem Ledger.take {tasks : List (Running σ π ρ α)} {total : M} (ledger : Ledger B Q tasks total)
    {i : Nat} {r : Running σ π ρ α} (here : tasks[i]? = some r) :
    ∃ d rest, Pays B r.prog d Q ∧ total = d + rest ∧
      ∀ r' : Running σ π ρ α, ∀ d', Pays B r'.prog d' Q → Ledger B Q (tasks.set i r') (d' + rest) := by
  induction ledger generalizing i with
  | nil => cases here
  | @cons head tail debt others owes ledger ih =>
    cases i with
    | zero =>
      cases here
      exact ⟨debt, others, owes, rfl, fun r' d' owes' => .cons owes' ledger⟩
    | succ i =>
      obtain ⟨d, rest, owed, sum, again⟩ := ih here
      refine ⟨d, debt + rest, owed, ?_, fun r' d' owes' => ?_⟩
      · rw [sum, add_left_comm]
      · rw [add_left_comm]
        exact .cons owes (again r' d' owes')

theorem Ledger.settled {tasks : List (Running σ π ρ α)} {total : M} (ledger : Ledger B Q tasks total)
    (paid : ∀ a d, Q a d → d = 0) (done : ∀ r ∈ tasks, ∃ a, r.prog = .ret a) : total = 0 := by
  induction ledger with
  | nil => rfl
  | @cons head tail debt others owes ledger ih =>
    obtain ⟨a, ended⟩ := done head List.mem_cons_self
    rw [ended] at owes
    rw [paid a debt owes, ih fun r here => done r (List.mem_cons_of_mem _ here), add_zero]

theorem Pool.here {i : Nat} {prog : Prog σ π ρ α} (task : q.task i = some prog) :
    ∃ r, q.tasks[i]? = some r ∧ r.prog = prog :=
  Option.map_eq_some_iff.mp task

theorem Books.Balanced.step {ok : Pool σ π ρ α → Move ρ → Prop} (balanced : B.Balanced Q q)
    (answers : ∀ {p : Pool σ π ρ α} {i oracle c k}, ok p (.answer i oracle) →
      p.task i = some (.call c k) → B.answers c (oracle c) p.state)
    (meets : ok q m) (taken : q.step B.effect m = some q') : B.Balanced Q q' := by
  obtain ⟨total, ledger, inv⟩ := balanced
  cases Pool.step_cases taken with
  | sec task =>
    obtain ⟨r, here, prog⟩ := Pool.here task
    obtain ⟨d, rest, owes, sum, again⟩ := ledger.take here
    rw [prog] at owes
    rw [sum] at inv
    obtain ⟨d', kept, later⟩ := owes _ _ _ inv
    exact ⟨d' + rest, again ⟨_, false⟩ d' later, kept⟩
  | issue task =>
    obtain ⟨r, here, prog⟩ := Pool.here task
    obtain ⟨d, rest, owes, sum, again⟩ := ledger.take here
    rw [prog] at owes
    rw [sum] at inv
    exact ⟨d + rest, again ⟨_, true⟩ d owes, inv⟩
  | lock task free =>
    obtain ⟨r, here, prog⟩ := Pool.here task
    obtain ⟨d, rest, owes, sum, again⟩ := ledger.take here
    rw [prog] at owes
    rw [sum, free] at inv
    obtain ⟨d', kept, later⟩ := owes.1 _ _ inv
    exact ⟨d' + rest, again ⟨_, false⟩ d' later, kept⟩
  | unlock task held =>
    obtain ⟨r, here, prog⟩ := Pool.here task
    obtain ⟨d, rest, owes, sum, again⟩ := ledger.take here
    rw [prog] at owes
    rw [sum, held] at inv
    obtain ⟨d', kept, later⟩ := owes _ _ inv
    exact ⟨d' + rest, again ⟨_, false⟩ d' later, kept⟩
  | answer task =>
    obtain ⟨r, here, prog⟩ := Pool.here task
    obtain ⟨d, rest, owes, sum, again⟩ := ledger.take here
    rw [prog] at owes
    rw [sum] at inv
    obtain ⟨d', kept, later⟩ := owes _ _ _ _ inv (answers meets task)
    exact ⟨d' + rest, again ⟨_, false⟩ d' later, kept⟩
  | giveUp task =>
    obtain ⟨r, here, prog⟩ := Pool.here task
    obtain ⟨d, rest, owes, sum, again⟩ := ledger.take here
    rw [prog] at owes
    rw [sum] at inv
    exact ⟨d + rest, again ⟨_, false⟩ d (owes.2 rfl), inv⟩

/-- Whatever the schedule. -/
theorem Reaches.balanced {ok : Pool σ π ρ α → Move ρ → Prop} (start : B.Balanced Q q)
    (answers : ∀ {p : Pool σ π ρ α} {i oracle c k}, ok p (.answer i oracle) →
      p.task i = some (.call c k) → B.answers c (oracle c) p.state)
    (reached : Reaches B.effect ok q q') : B.Balanced Q q' := by
  induction reached with
  | refl => exact start
  | step _ meets taken ih => exact ih.step answers meets taken

/-- Once every task has returned, nothing is owed. -/
theorem Books.Balanced.settled (balanced : B.Balanced Q q) (paid : ∀ a d, Q a d → d = 0)
    (done : q.done = true) : B.inv q.owner.isSome q.state 0 := by
  obtain ⟨total, ledger, inv⟩ := balanced
  have ended : ∀ r ∈ q.tasks, ∃ a, r.prog = .ret a := by
    intro r here
    have returned := List.all_eq_true.mp done r here
    split at returned
    next a prog => exact ⟨a, prog⟩
    next => cases returned
  rw [ledger.settled paid ended] at inv
  exact inv

/-- Tasks that start owing nothing. -/
theorem Books.Balanced.of_start (inv : B.inv q.owner.isSome q.state 0)
    (tasks : ∀ r ∈ q.tasks, Pays B r.prog 0 Q) : B.Balanced Q q := by
  refine ⟨0, ?_, inv⟩
  have each : ∀ rs : List (Running σ π ρ α), (∀ r ∈ rs, Pays B r.prog 0 Q) → Ledger B Q rs 0 := by
    intro rs owes
    induction rs with
    | nil => exact .nil
    | cons r rs ih =>
      have ledger := Ledger.cons (owes r List.mem_cons_self)
        (ih fun r' here => owes r' (List.mem_cons_of_mem _ here))
      rwa [add_zero] at ledger
  exact each q.tasks tasks

end

end Lib
