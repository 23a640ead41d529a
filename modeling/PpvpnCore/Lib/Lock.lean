import PpvpnCore.Lib.Pool

/-!
# Tasks that share a lock

What holds while nobody has the lock, whatever the schedule, each task being
looked at on its own.

* `Discipline`: the invariant of the free lock, what the others may do while
  one task has it, what always holds, and what is known of the steps taken.
* `Obeys`: a task keeps to it, without the lock (`none`) or with it, last seen
  in a state (`some s`).
* `Obeys.withLock`: a task in the lock is reasoned about with `wp`.
* `Reaches.obeys`: in every pool reached by tasks that obey, the invariant
  holds while the lock is free.
-/

namespace Lib

variable {σ π κ : Type} {ρ : κ → Type} {α β : Type}

/-- Gives up when another task has the lock. -/
def Prog.tryLock (p : Prog σ π ρ Unit) : Prog σ π ρ Unit :=
  .lock true fun
    | true => p.bind fun _ => .unlock (.ret ())
    | false => .ret ()

structure Discipline (σ π : Type) {κ : Type} (ρ : κ → Type) where
  effect : (c : κ) → ρ c → σ → σ
  /-- What is known of an answer. -/
  answers : (c : κ) → ρ c → σ → Prop
  /-- What is known when a task without the lock enters a section, and whether
  another task has it. -/
  meets : π → Bool → σ → Prop
  /-- What the others do while one task has the lock. -/
  moves : σ → σ → Prop
  refl : ∀ s, moves s s
  trans : ∀ {s t u}, moves s t → moves t u → moves s u
  /-- Holds while the lock is free. -/
  inv : σ → Prop
  /-- Holds always. -/
  good : σ → Prop
  /-- The calls that may be made. -/
  allowed : κ → σ → Prop

namespace Discipline

/-- The world around the task that has the lock. -/
def env (D : Discipline σ π ρ) : Env σ ρ where
  effect := D.effect
  answers := D.answers
  moves := D.moves
  refl := D.refl
  trans := D.trans
  alone := False
  allowed := D.allowed
  good := D.good

/-- What holds when a task without the lock takes a step. -/
def At (D : Discipline σ π ρ) (held : Bool) (s : σ) : Prop :=
  D.good s ∧ (held = false → D.inv s)

/-- What such a step has to keep. -/
def Keeps (D : Discipline σ π ρ) (held : Bool) (s t : σ) : Prop :=
  D.good t ∧ (held = true → D.moves s t) ∧ (held = false → D.inv t)

/-- What the steps of a pool are known to meet. -/
structure Grants (D : Discipline σ π ρ) (ok : Pool σ π ρ α → Move ρ → Prop) : Prop where
  sec : ∀ {p : Pool σ π ρ α} {i place f k}, ok p (.go i) → p.task i = some (.sec place f k) →
    p.owner ≠ some i → D.meets place p.owner.isSome p.state
  answer : ∀ {p : Pool σ π ρ α} {i oracle c k}, ok p (.answer i oracle) →
    p.task i = some (.call c k) → D.answers c (oracle c) p.state

end Discipline

/-- The task keeps to the discipline. -/
def Obeys (D : Discipline σ π ρ) : Prog σ π ρ α → Option σ → Prop
  | .ret _, none => True
  | .ret _, some _ => False
  | .sec place f k, none => ∀ held s, D.At held s → D.meets place held s →
      D.Keeps held s (f s) ∧ Obeys D (k s) none
  | .sec _ f k, some s => ∀ t, D.moves s t → D.good t →
      D.good (f t) ∧ Obeys D (k t) (some (f t))
  | .call c k, none => ∀ held s, D.At held s → D.allowed c s ∧
      ∀ r, D.answers c r s → D.Keeps held s (D.effect c r s) ∧ Obeys D (k r) none
  | .call c k, some s => ∀ t, D.moves s t → D.good t → D.allowed c t ∧
      ∀ r, D.answers c r t → D.good (D.effect c r t) ∧ Obeys D (k r) (some (D.effect c r t))
  | .lock timed k, none => (∀ s, D.good s → D.inv s → Obeys D (k true) (some s)) ∧
      (timed = true → Obeys D (k false) none)
  | .lock _ _, some _ => False
  | .unlock _, none => False
  | .unlock k, some s => ∀ t, D.moves s t → D.good t → D.inv t ∧ Obeys D k none

section

variable {D : Discipline σ π ρ} {p : Prog σ π ρ α}

theorem Obeys.of_moves {s : σ} (obeys : ∀ t, D.moves s t → D.good t → Obeys D p (some t))
    (good : D.good s) : Obeys D p (some s) := by
  cases p with
  | ret a => exact obeys s (D.refl s) good
  | sec place f k => exact fun t moved good => obeys t moved good t (D.refl t) good
  | call c k => exact fun t moved good => obeys t moved good t (D.refl t) good
  | lock timed k => exact obeys s (D.refl s) good
  | unlock k => exact fun t moved good => obeys t moved good t (D.refl t) good

theorem Obeys.bind {f : α → Prog σ π ρ β} {mode : Option σ} (first : Obeys D p mode)
    (rest : ∀ a, Obeys D (f a) none) : Obeys D (p.bind f) mode := by
  induction p generalizing mode with
  | ret a =>
    cases mode with
    | none => exact rest a
    | some s => exact first.elim
  | sec place g k ih =>
    cases mode with
    | none =>
      intro held s here meets
      obtain ⟨keeps, later⟩ := first held s here meets
      exact ⟨keeps, ih s later⟩
    | some s =>
      intro t moved good
      obtain ⟨kept, later⟩ := first t moved good
      exact ⟨kept, ih t later⟩
  | call c k ih =>
    cases mode with
    | none =>
      intro held s here
      obtain ⟨allowed, later⟩ := first held s here
      refine ⟨allowed, fun r answer => ?_⟩
      exact ⟨(later r answer).1, ih r (later r answer).2⟩
    | some s =>
      intro t moved good
      obtain ⟨allowed, later⟩ := first t moved good
      refine ⟨allowed, fun r answer => ?_⟩
      exact ⟨(later r answer).1, ih r (later r answer).2⟩
  | lock timed k ih =>
    cases mode with
    | none => exact ⟨fun s good inv => ih true (first.1 s good inv), fun gives => ih false (first.2 gives)⟩
    | some s => exact first.elim
  | unlock k ih =>
    cases mode with
    | none => exact first.elim
    | some s =>
      intro t moved good
      obtain ⟨inv, later⟩ := first t moved good
      exact ⟨inv, ih later⟩

/-- `?` after a call that may fail. -/
theorem Obeys.bindExcept {ε : Type} {p : ExceptT ε (Prog σ π ρ) α}
    {f : α → ExceptT ε (Prog σ π ρ) β} (first : Obeys D p.run none)
    (rest : ∀ a, Obeys D (f a).run none) : Obeys D (p >>= f).run none :=
  Obeys.bind first fun
    | .ok a => rest a
    | .error _ => trivial

/-- A task that cannot fail in a call that may. -/
theorem Obeys.bindLift {ε : Type} {p : Prog σ π ρ α} {f : α → ExceptT ε (Prog σ π ρ) β}
    (first : Obeys D p none) (rest : ∀ a, Obeys D (f a).run none) :
    Obeys D ((monadLift p : ExceptT ε (Prog σ π ρ) α) >>= f).run none :=
  Obeys.bindExcept (Obeys.bind first fun _ => trivial) rest

/-- A task that never takes the lock, in a task that has it. -/
theorem Obeys.of_wp {f : α → Prog σ π ρ β} {s : σ} (good : D.good s)
    (spec : wp D.env p (fun a t => Obeys D (f a) (some t)) s) : Obeys D (p.bind f) (some s) := by
  induction p generalizing s with
  | ret a => exact Obeys.of_moves spec good
  | sec place g k ih =>
    intro t moved good
    obtain ⟨kept, later⟩ := spec t moved good
    exact ⟨kept, ih t kept later⟩
  | call c k ih =>
    intro t moved good
    obtain ⟨allowed, later⟩ := spec t moved good
    refine ⟨allowed, fun r answer => ?_⟩
    obtain ⟨kept, rest⟩ := later r answer
    exact ⟨kept, ih r kept rest⟩
  | lock timed k ih => exact (spec s (D.refl s) good).1.elim
  | unlock k ih => exact (spec s (D.refl s) good).1.elim

/-- A task in the lock, which is released when it ends. -/
theorem Obeys.released {f : α → β} {s : σ} (good : D.good s)
    (spec : wp D.env p (fun _ t => D.inv t) s) :
    Obeys D (p.bind fun a => .unlock (.ret (f a))) (some s) := by
  apply Obeys.of_wp good
  apply wp_mono (wp_later spec)
  intro a t kept u moved good
  exact ⟨kept u moved good, trivial⟩

theorem Obeys.withLock (spec : ∀ s, D.good s → D.inv s → wp D.env p (fun _ t => D.inv t) s) :
    Obeys D p.withLock none :=
  ⟨fun s good inv => Obeys.released good (spec s good inv), fun timed => by cases timed⟩

theorem Obeys.tryLock {p : Prog σ π ρ Unit}
    (spec : ∀ s, D.good s → D.inv s → wp D.env p (fun _ t => D.inv t) s) :
    Obeys D p.tryLock none :=
  ⟨fun s good inv => Obeys.released good (spec s good inv), fun _ => trivial⟩

/-- A section outside the lock. -/
theorem Obeys.sec {place : π} {f : σ → σ} {k : σ → Prog σ π ρ α}
    (keeps : ∀ held s, D.At held s → D.meets place held s → D.Keeps held s (f s))
    (rest : ∀ s, Obeys D (k s) none) : Obeys D (.sec place f k) none :=
  fun held s here meets => ⟨keeps held s here meets, rest s⟩

end

/-! ## Every schedule -/

/-- What holds of a pool of tasks that obey. -/
structure Discipline.Kept (D : Discipline σ π ρ) (q : Pool σ π ρ α) : Prop where
  good : D.good q.state
  inv : q.owner = none → D.inv q.state
  inside : ∀ i prog, q.task i = some prog → q.owner = some i →
    ∃ s, D.moves s q.state ∧ Obeys D prog (some s)
  outside : ∀ i prog, q.task i = some prog → q.owner ≠ some i → Obeys D prog none

section

variable {D : Discipline σ π ρ} {q q' : Pool σ π ρ α} {i : Nat}

theorem Discipline.Kept.at (kept : D.Kept q) : D.At q.owner.isSome q.state := by
  refine ⟨kept.good, fun free => kept.inv ?_⟩
  cases owner : q.owner with
  | none => rfl
  | some j =>
    rw [owner] at free
    cases free

/-- A call that is about to be made is allowed. -/
theorem Discipline.Kept.allowed (kept : D.Kept q) {c : κ} {k : ρ c → Prog σ π ρ α}
    (task : q.task i = some (.call c k)) : D.allowed c q.state := by
  by_cases mine : q.owner = some i
  · obtain ⟨s, moved, obeys⟩ := kept.inside i _ task mine
    exact (obeys _ moved kept.good).1
  · exact (kept.outside i _ task mine _ _ kept.at).1

/-- The state moves by a step of a task without the lock. -/
theorem Discipline.Kept.outer (kept : D.Kept q) (mine : q.owner ≠ some i) {state : σ}
    {prog : Prog σ π ρ α} (keeps : D.Keeps q.owner.isSome q.state state)
    (obeys : Obeys D prog none) : D.Kept (q.next i state prog) := by
  refine ⟨keeps.1, ?_, ?_, ?_⟩
  · intro free
    exact keeps.2.2 (by rw [show q.owner = none from free]; rfl)
  · intro j prog' here owner
    have owned : q.owner = some j := owner
    rcases Pool.task_next here with ⟨rfl, -⟩ | ⟨-, there⟩
    · exact absurd owned mine
    · obtain ⟨s, moved, inside⟩ := kept.inside j prog' there owned
      exact ⟨s, D.trans moved (keeps.2.1 (by rw [owned]; rfl)), inside⟩
  · intro j prog' here owner
    rcases Pool.task_next here with ⟨rfl, rfl⟩ | ⟨-, there⟩
    · exact obeys
    · exact kept.outside j prog' there owner

/-- The state moves by a step of the task that has the lock. -/
theorem Discipline.Kept.inner (kept : D.Kept q) (mine : q.owner = some i) {state : σ}
    {prog : Prog σ π ρ α} (good : D.good state) (obeys : Obeys D prog (some state)) :
    D.Kept (q.next i state prog) := by
  refine ⟨good, ?_, ?_, ?_⟩
  · intro free
    rw [show q.owner = none from free] at mine
    cases mine
  · intro j prog' here owner
    rcases Pool.task_next here with ⟨rfl, rfl⟩ | ⟨other, -⟩
    · exact ⟨state, D.refl state, obeys⟩
    · have owned : q.owner = some j := owner
      rw [mine] at owned
      cases owned
      exact absurd rfl other
  · intro j prog' here owner
    rcases Pool.task_next here with ⟨rfl, -⟩ | ⟨-, there⟩
    · exact absurd mine owner
    · exact kept.outside j prog' there owner

theorem Discipline.Kept.step {ok : Pool σ π ρ α → Move ρ → Prop} {m : Move ρ} (kept : D.Kept q)
    (grants : D.Grants ok) (meets : ok q m) (taken : q.step D.effect m = some q') : D.Kept q' := by
  cases Pool.step_cases taken with
  | @sec i place f k task =>
    by_cases mine : q.owner = some i
    · obtain ⟨s, moved, obeys⟩ := kept.inside i _ task mine
      obtain ⟨good, later⟩ := obeys _ moved kept.good
      exact kept.inner mine good later
    · obtain ⟨keeps, later⟩ := kept.outside i _ task mine _ _ kept.at (grants.sec meets task mine)
      exact kept.outer mine keeps later
  | @issue i c k task =>
    refine ⟨kept.good, kept.inv, ?_, ?_⟩
    · intro j prog here owner
      rcases Pool.task_set here with ⟨rfl, rfl⟩ | ⟨-, there⟩
      · exact kept.inside j _ task owner
      · exact kept.inside j prog there owner
    · intro j prog here owner
      rcases Pool.task_set here with ⟨rfl, rfl⟩ | ⟨-, there⟩
      · exact kept.outside j _ task owner
      · exact kept.outside j prog there owner
  | @lock i timed k task free =>
    have mine : q.owner ≠ some i := by rw [free]; exact fun h => by cases h
    have obeys := (kept.outside i _ task mine).1 _ kept.good (kept.inv free)
    refine ⟨kept.good, (fun none => by cases none), ?_, ?_⟩
    · intro j prog here owner
      cases owner
      rcases Pool.task_set here with ⟨-, rfl⟩ | ⟨other, -⟩
      · exact ⟨_, D.refl _, obeys⟩
      · exact absurd rfl other
    · intro j prog here owner
      rcases Pool.task_set here with ⟨rfl, -⟩ | ⟨-, there⟩
      · exact absurd rfl owner
      · exact kept.outside j prog there (by rw [free]; exact fun h => by cases h)
  | @unlock i k task held =>
    obtain ⟨s, moved, obeys⟩ := kept.inside i _ task held
    obtain ⟨inv, later⟩ := obeys _ moved kept.good
    refine ⟨kept.good, fun _ => inv, (fun _ _ _ owner => by cases owner), ?_⟩
    intro j prog here _
    rcases Pool.task_set here with ⟨-, rfl⟩ | ⟨other, there⟩
    · exact later
    · refine kept.outside j prog there ?_
      rw [held]
      exact fun same => other (Option.some.inj same).symm
  | @answer i c k oracle task =>
    have answered := grants.answer meets task
    by_cases mine : q.owner = some i
    · obtain ⟨s, moved, obeys⟩ := kept.inside i _ task mine
      obtain ⟨good, later⟩ := (obeys _ moved kept.good).2 _ answered
      exact kept.inner mine good later
    · obtain ⟨keeps, later⟩ := (kept.outside i _ task mine _ _ kept.at).2 _ answered
      exact kept.outer mine keeps later
  | @giveUp i k task =>
    by_cases mine : q.owner = some i
    · obtain ⟨s, moved, obeys⟩ := kept.inside i _ task mine
      exact obeys.elim
    · have obeys := (kept.outside i _ task mine).2 rfl
      refine kept.outer mine ⟨kept.good, fun _ => D.refl _, ?_⟩ obeys
      exact kept.at.2

/-- Tasks that obey keep what the discipline asks, whatever the schedule. -/
theorem Reaches.obeys {ok : Pool σ π ρ α → Move ρ → Prop} (start : D.Kept q)
    (grants : D.Grants ok) (reached : Reaches D.effect ok q q') : D.Kept q' := by
  induction reached with
  | refl => exact start
  | step _ meets taken ih => exact ih.step grants meets taken

/-- A pool whose lock is free. -/
theorem Discipline.Kept.of_free (free : q.owner = none) (good : D.good q.state)
    (inv : D.inv q.state) (tasks : ∀ i prog, q.task i = some prog → Obeys D prog none) :
    D.Kept q where
  good := good
  inv _ := inv
  inside _ _ _ owner := by
    rw [free] at owner
    cases owner
  outside i prog here _ := tasks i prog here

end

end Lib
