import PpvpnCore.Lib.Pool
import Mathlib.Logic.Relation

/-!
# Tasks that keep to the steps of a machine

A machine says which steps a task may take, with the lock and without it, and
what holds while the lock is free. A task is looked at on its own: between its
steps the others take steps of the machine too, and while it has the lock only
those that need none.

* `Rules`: the machine; `Rules.Since`: what the others may have done.
* `Keeps`: every step of a task is one of the machine, and it ends as asked.
* `Reaches.kept`: what every pool of such tasks reaches.
* `Reaches.holds`: an invariant of the machine, with the lock's owner, holds in
  every pool reached.
-/

namespace Lib

variable {σ π κ : Type} {ρ : κ → Type} {α β : Type}

structure Rules (σ : Type) {κ : Type} (ρ : κ → Type) where
  effect : (c : κ) → ρ c → σ → σ
  /-- A step of task `i`, which has the lock or not. -/
  step : (i : Nat) → (mine : Bool) → σ → σ → Prop
  idle : ∀ {i mine s}, step i mine s s
  /-- Holds while the lock is free. -/
  free : σ → Prop
  keeps : ∀ {i s t}, step i false s t → free s → free t
  /-- The calls task `i` may make. -/
  allowed : (i : Nat) → κ → σ → Prop

namespace Rules

/-- A step of another task than `i`; without the lock if `i` has it. -/
def Other (R : Rules σ ρ) (i : Nat) (mine : Bool) (s t : σ) : Prop :=
  ∃ j theirs, j ≠ i ∧ (mine = true → theirs = false) ∧ R.step j theirs s t

/-- What the others may have done since. -/
abbrev Since (R : Rules σ ρ) (i : Nat) (mine : Bool) : σ → σ → Prop :=
  Relation.ReflTransGen (R.Other i mine)

variable {R : Rules σ ρ} {i j : Nat} {mine : Bool} {s t : σ}

theorem Since.free (since : R.Since i true s t) : R.Since i false s t := by
  induction since with
  | refl => exact .refl
  | tail _ last ih =>
    obtain ⟨j, theirs, other, _, step⟩ := last
    exact ih.tail ⟨j, theirs, other, nofun, step⟩

/-- What every step of the others keeps. -/
theorem Since.keep {P : σ → σ → Prop} (refl : ∀ s, P s s)
    (trans : ∀ {s t u}, P s t → P t u → P s u)
    (each : ∀ {j theirs s t}, j ≠ i → (mine = true → theirs = false) → R.step j theirs s t → P s t)
    (since : R.Since i mine s t) : P s t := by
  induction since with
  | refl => exact refl s
  | tail _ last ih =>
    obtain ⟨j, theirs, other, mode, step⟩ := last
    exact trans ih (each other mode step)

end Rules

/-- Every step of task `i` is one of the machine, and it ends as `Q` says, with
the lock or without. -/
def Keeps (R : Rules σ ρ) (i : Nat) : Prog σ π ρ α → (α → Bool → σ → Prop) → Bool → σ → Prop
  | .ret a, Q, mine, s => ∀ t, R.Since i mine s t → Q a mine t
  | .sec _ f k, Q, mine, s => ∀ t, R.Since i mine s t →
      R.step i mine t (f t) ∧ Keeps R i (k t) Q mine (f t)
  | .call c k, Q, mine, s => ∀ t, R.Since i mine s t → R.allowed i c t ∧
      ∀ r, R.step i mine t (R.effect c r t) ∧ Keeps R i (k r) Q mine (R.effect c r t)
  | .lock timed k, Q, mine, s => mine = false ∧
      (∀ t, R.Since i false s t → R.free t → Keeps R i (k true) Q true t) ∧
      (timed = true → Keeps R i (k false) Q false s)
  | .unlock k, Q, mine, s => mine = true ∧
      ∀ t, R.Since i true s t → R.free t ∧ Keeps R i k Q false t

section

variable {R : Rules σ ρ} {i : Nat} {p : Prog σ π ρ α} {Q P : α → Bool → σ → Prop} {mine : Bool}
  {s t : σ}

theorem Keeps.since (keeps : Keeps R i p Q mine s) (since : R.Since i mine s t) :
    Keeps R i p Q mine t := by
  induction p with
  | ret a => exact fun u later => keeps u (since.trans later)
  | sec place f k => exact fun u later => keeps u (since.trans later)
  | call c k => exact fun u later => keeps u (since.trans later)
  | lock timed k ih =>
    obtain ⟨rfl, taken, gaveUp⟩ := keeps
    exact ⟨rfl, fun u later => taken u (since.trans later), fun gives => ih false (gaveUp gives)⟩
  | unlock k =>
    obtain ⟨rfl, released⟩ := keeps
    exact ⟨rfl, fun u later => released u (since.trans later)⟩

theorem Keeps.mono (keeps : Keeps R i p Q mine s) (weaker : ∀ a m t, Q a m t → P a m t) :
    Keeps R i p P mine s := by
  induction p generalizing mine s with
  | ret a => exact fun t since => weaker a mine t (keeps t since)
  | sec place f k ih => exact fun t since => (keeps t since).imp_right (ih t)
  | call c k ih =>
    exact fun t since => (keeps t since).imp_right fun rest r => (rest r).imp_right (ih r)
  | lock timed k ih =>
    exact ⟨keeps.1, fun t since free => ih true (keeps.2.1 t since free),
      fun gives => ih false (keeps.2.2 gives)⟩
  | unlock k ih => exact ⟨keeps.1, fun t since => (keeps.2 t since).imp_right ih⟩

/-- What a task ends with holds whatever the others do. -/
theorem Keeps.later (keeps : Keeps R i p Q mine s) :
    Keeps R i p (fun a m t => ∀ u, R.Since i m t u → Q a m u) mine s := by
  induction p generalizing mine s with
  | ret a => exact fun t since u later => keeps u (since.trans later)
  | sec place f k ih => exact fun t since => (keeps t since).imp_right (ih t)
  | call c k ih =>
    exact fun t since => (keeps t since).imp_right fun rest r => (rest r).imp_right (ih r)
  | lock timed k ih =>
    exact ⟨keeps.1, fun t since free => ih true (keeps.2.1 t since free),
      fun gives => ih false (keeps.2.2 gives)⟩
  | unlock k ih => exact ⟨keeps.1, fun t since => (keeps.2 t since).imp_right ih⟩

theorem Keeps.bind {f : α → Prog σ π ρ β} {Q : β → Bool → σ → Prop}
    (keeps : Keeps R i p (fun a m => Keeps R i (f a) Q m) mine s) :
    Keeps R i (p.bind f) Q mine s := by
  induction p generalizing mine s with
  | ret a => exact keeps s .refl
  | sec place g k ih => exact fun t since => (keeps t since).imp_right (ih t)
  | call c k ih =>
    exact fun t since => (keeps t since).imp_right fun rest r => (rest r).imp_right (ih r)
  | lock timed k ih =>
    exact ⟨keeps.1, fun t since free => ih true (keeps.2.1 t since free),
      fun gives => ih false (keeps.2.2 gives)⟩
  | unlock k ih => exact ⟨keeps.1, fun t since => (keeps.2 t since).imp_right ih⟩

/-- `?` after a call that may fail. -/
theorem Keeps.bindExcept {ε : Type} {p : ExceptT ε (Prog σ π ρ) α}
    {f : α → ExceptT ε (Prog σ π ρ) β} {Q : Except ε β → Bool → σ → Prop}
    (keeps : Keeps R i p.run (fun
      | .ok a, m, t => Keeps R i (f a).run Q m t
      | .error e, m, t => Keeps R i (.ret (.error e) : Prog σ π ρ _) Q m t) mine s) :
    Keeps R i (p >>= f).run Q mine s := by
  refine Keeps.bind (keeps.mono fun a m t post => ?_)
  cases a with
  | ok a => exact post
  | error e => exact post

/-- A task that cannot fail in a call that may. -/
theorem Keeps.bindLift {ε : Type} {p : Prog σ π ρ α} {f : α → ExceptT ε (Prog σ π ρ) β}
    {Q : Except ε β → Bool → σ → Prop} (keeps : Keeps R i p (fun a m => Keeps R i (f a).run Q m) mine s) :
    Keeps R i ((monadLift p : ExceptT ε (Prog σ π ρ) α) >>= f).run Q mine s := by
  refine Keeps.bindExcept (Keeps.bind (keeps.mono fun a m t post => ?_))
  exact fun u since => post.since since

/-! One rule for each way to begin. -/

theorem Keeps.get {place : π} {f : σ → Prog σ π ρ β} {Q : β → Bool → σ → Prop}
    (rest : ∀ t, R.Since i mine s t → Keeps R i (f t) Q mine t) :
    Keeps R i ((Prog.get place).bind f) Q mine s :=
  fun t since => ⟨R.idle, rest t since⟩

theorem Keeps.update {place : π} {g : σ → σ} {f : Unit → Prog σ π ρ β} {Q : β → Bool → σ → Prop}
    (rest : ∀ t, R.Since i mine s t → R.step i mine t (g t) ∧ Keeps R i (f ()) Q mine (g t)) :
    Keeps R i ((Prog.update place g).bind f) Q mine s :=
  rest

theorem Keeps.step {place : π} {g : σ → α × σ} {f : α → Prog σ π ρ β} {Q : β → Bool → σ → Prop}
    (rest : ∀ t, R.Since i mine s t →
      R.step i mine t (g t).2 ∧ Keeps R i (f (g t).1) Q mine (g t).2) :
    Keeps R i ((Prog.step place g).bind f) Q mine s :=
  rest

theorem Keeps.ask {c : κ} {f : ρ c → Prog σ π ρ β} {Q : β → Bool → σ → Prop}
    (rest : ∀ t, R.Since i mine s t → R.allowed i c t ∧
      ∀ r, R.step i mine t (R.effect c r t) ∧ Keeps R i (f r) Q mine (R.effect c r t)) :
    Keeps R i ((Prog.ask c).bind f) Q mine s :=
  rest

theorem Keeps.tryGet {ε : Type} {place : π} {f : σ → ExceptT ε (Prog σ π ρ) β}
    {Q : Except ε β → Bool → σ → Prop}
    (rest : ∀ t, R.Since i mine s t → Keeps R i (f t).run Q mine t) :
    Keeps R i ((liftM (Prog.get place : Prog σ π ρ σ) : ExceptT ε (Prog σ π ρ) σ) >>= f).run Q mine s :=
  fun t since => ⟨R.idle, rest t since⟩

theorem Keeps.tryUpdate {ε : Type} {place : π} {g : σ → σ} {f : Unit → ExceptT ε (Prog σ π ρ) β}
    {Q : Except ε β → Bool → σ → Prop}
    (rest : ∀ t, R.Since i mine s t → R.step i mine t (g t) ∧ Keeps R i (f ()).run Q mine (g t)) :
    Keeps R i ((liftM (Prog.update place g : Prog σ π ρ Unit) : ExceptT ε (Prog σ π ρ) Unit) >>=
      f).run Q mine s :=
  rest

theorem Keeps.tryStep {ε : Type} {place : π} {g : σ → α × σ} {f : α → ExceptT ε (Prog σ π ρ) β}
    {Q : Except ε β → Bool → σ → Prop}
    (rest : ∀ t, R.Since i mine s t →
      R.step i mine t (g t).2 ∧ Keeps R i (f (g t).1).run Q mine (g t).2) :
    Keeps R i ((liftM (Prog.step place g : Prog σ π ρ α) : ExceptT ε (Prog σ π ρ) α) >>=
      f).run Q mine s :=
  rest

theorem Keeps.exceptBind {ε : Type} {x : Except ε α} {f : α → ExceptT ε (Prog σ π ρ) β}
    {Q : Except ε β → Bool → σ → Prop} (ok : ∀ a, x = .ok a → Keeps R i (f a).run Q mine s)
    (error : ∀ e, x = .error e → Keeps R i (.ret (.error e) : Prog σ π ρ _) Q mine s) :
    Keeps R i ((ExceptT.mk (pure x) : ExceptT ε (Prog σ π ρ) α) >>= f).run Q mine s := by
  cases x with
  | ok a => exact ok a rfl
  | error e => exact error e rfl

/-- Under the lock, to the end of the task in it. -/
theorem Keeps.withLock {P : α → σ → Prop}
    (inside : ∀ t, R.Since i false s t → R.free t →
      Keeps R i p (fun a m u => m = true ∧ R.free u ∧ P a u) true t)
    (after : ∀ a t u, P a t → R.Since i false t u → Q a false u) :
    Keeps R i p.withLock Q false s := by
  refine ⟨rfl, fun t since free => Keeps.bind ?_, nofun⟩
  refine (inside t since free).later.mono fun a m u ends => ?_
  obtain ⟨rfl, -, -⟩ := ends u .refl
  exact ⟨rfl, fun v moved => ⟨(ends v moved).2.1, fun x later => after a v x (ends v moved).2.2 later⟩⟩

theorem Keeps.ret {a : α} (post : ∀ t, R.Since i mine s t → Q a mine t) :
    Keeps R i (.ret a : Prog σ π ρ α) Q mine s := post

end

/-! ## Every schedule -/

/-- What holds of a pool of tasks that keep to the machine; a task that ended
did so as `Q` says. -/
structure Rules.Kept (R : Rules σ ρ) (Q : Nat → α → σ → Prop) (q : Pool σ π ρ α) : Prop where
  free : q.owner = none → R.free q.state
  tasks : ∀ i prog, q.task i = some prog → ∃ s, R.Since i (q.owner = some i) s q.state ∧
    Keeps R i prog (fun a m t => m = false ∧ Q i a t) (q.owner = some i) s

section

variable {R : Rules σ ρ} {Q : Nat → α → σ → Prop} {p q q' : Pool σ π ρ α} {i : Nat} {m : Move ρ}
  {ok : Pool σ π ρ α → Move ρ → Prop}

@[simp] theorem Pool.state_next (q : Pool σ π ρ α) (i : Nat) (state : σ) (prog : Prog σ π ρ α) :
    (q.next i state prog).state = state := rfl

/-- What task `i` ended with. -/
def Pool.answered (q : Pool σ π ρ α) (i : Nat) : Option α :=
  match q.task i with
  | some (.ret a) => some a
  | _ => none

theorem Pool.task_of_answered {a : α} (ended : q.answered i = some a) : q.task i = some (.ret a) := by
  unfold Pool.answered at ended
  split at ended
  next here =>
    cases ended
    exact here
  next => cases ended

/-- The task as it stands now. -/
theorem Rules.Kept.task (kept : R.Kept Q q) {prog : Prog σ π ρ α} (here : q.task i = some prog) :
    Keeps R i prog (fun a m t => m = false ∧ Q i a t) (q.owner = some i) q.state := by
  obtain ⟨s, since, keeps⟩ := kept.tasks i prog here
  exact keeps.since since

theorem Rules.Kept.ended (kept : R.Kept Q q) {a : α} (here : q.task i = some (.ret a)) :
    Q i a q.state :=
  (kept.task here _ .refl).2

theorem Rules.Kept.allowed (kept : R.Kept Q q) {c : κ} {k : ρ c → Prog σ π ρ α}
    (here : q.task i = some (.call c k)) : R.allowed i c q.state :=
  (kept.task here _ .refl).1

/-- Task `i` takes a step of the machine. -/
theorem Rules.Kept.next (kept : R.Kept Q q) {state : σ} {prog : Prog σ π ρ α}
    (step : R.step i (q.owner = some i) q.state state)
    (keeps : Keeps R i prog (fun a m t => m = false ∧ Q i a t) (q.owner = some i) state) :
    R.Kept Q (q.next i state prog) := by
  refine ⟨fun free => ?_, fun j prog' here => ?_⟩
  · have none_ : q.owner = none := free
    rw [none_] at step
    exact R.keeps (by simpa using step) (kept.free none_)
  · rcases Pool.task_next here with ⟨rfl, rfl⟩ | ⟨other, there⟩
    · exact ⟨state, .refl, keeps⟩
    · refine ⟨q.state, .single ⟨i, _, other.symm, ?_, step⟩, kept.task there⟩
      intro theirs
      have owner : q.owner = some j := of_decide_eq_true theirs
      rw [owner]
      simp [other]

theorem Rules.Kept.step (kept : R.Kept Q q) (taken : q.step R.effect m = some q') :
    R.Kept Q q' := by
  cases Pool.step_cases taken with
  | @sec i place f k task =>
    obtain ⟨step, later⟩ := kept.task task _ .refl
    exact kept.next step later
  | @issue i c k task =>
    refine ⟨kept.free, fun j prog here => ?_⟩
    rcases Pool.task_set here with ⟨rfl, rfl⟩ | ⟨-, there⟩
    · exact kept.tasks j _ task
    · exact kept.tasks j prog there
  | @lock i timed k task free =>
    have keeps := (kept.task task).2.1 _ .refl (kept.free free)
    refine ⟨nofun, fun j prog here => ?_⟩
    rcases Pool.task_set here with ⟨rfl, rfl⟩ | ⟨other, there⟩
    · exact ⟨_, .refl, by simpa using keeps⟩
    · have still := kept.tasks j prog there
      rw [free] at still
      simpa [Ne.symm other] using still
  | @unlock i k task held =>
    have keeps := kept.task task
    rw [held] at keeps
    obtain ⟨free, later⟩ := keeps.2 _ (by simpa using .refl)
    refine ⟨fun _ => free, fun j prog here => ?_⟩
    rcases Pool.task_set here with ⟨rfl, rfl⟩ | ⟨other, there⟩
    · exact ⟨_, .refl, by simpa using later⟩
    · have still := kept.tasks j prog there
      rw [held] at still
      simpa [Ne.symm other] using still
  | @answer i c k oracle task =>
    obtain ⟨step, later⟩ := (kept.task task _ .refl).2 (oracle c)
    exact kept.next step later
  | @giveUp i k task =>
    obtain ⟨mine, -, gaveUp⟩ := kept.task task
    refine kept.next R.idle ?_
    rw [mine]
    exact gaveUp rfl

/-- What a pool of tasks that keep to the machine reaches. -/
theorem Reaches.kept (start : R.Kept Q p) (reached : Reaches R.effect ok p q) : R.Kept Q q := by
  induction reached with
  | refl => exact start
  | step _ _ taken ih => exact ih.step taken

/-- A pool whose lock is free. -/
theorem Rules.Kept.of_free (free : p.owner = none) (inv : R.free p.state)
    (tasks : ∀ i prog, p.task i = some prog →
      Keeps R i prog (fun a m t => m = false ∧ Q i a t) false p.state) : R.Kept Q p where
  free _ := inv
  tasks i prog here := ⟨p.state, .refl, by simpa [free] using tasks i prog here⟩

/-- The state moves by a step of the machine if it moves. -/
theorem Rules.Kept.stepped (kept : R.Kept Q q) (taken : q.step R.effect m = some q') :
    q'.state = q.state ∨ ∃ i, (m = .go i ∨ ∃ oracle, m = .answer i oracle) ∧ q'.owner = q.owner ∧
      R.step i (q.owner = some i) q.state q'.state := by
  cases Pool.step_cases taken with
  | @sec i place f k task => exact .inr ⟨i, .inl rfl, rfl, (kept.task task _ .refl).1⟩
  | issue task => exact .inl rfl
  | lock task free => exact .inl rfl
  | unlock task held => exact .inl rfl
  | @answer i c k oracle task =>
    exact .inr ⟨i, .inr ⟨oracle, rfl⟩, rfl, ((kept.task task _ .refl).2 (oracle c)).1⟩
  | giveUp task => exact .inl rfl

/-- An invariant of the machine, with the lock's owner. -/
theorem Reaches.holds {J : Option Nat → σ → Prop} (start : R.Kept Q p) (first : J p.owner p.state)
    (step : ∀ {owner : Option Nat} {i s t}, (owner = none → R.free s) →
      R.step i (owner = some i) s t → J owner s → J owner t)
    (lock : ∀ {i s}, R.free s → J none s → J (some i) s)
    (unlock : ∀ {i s}, R.free s → J (some i) s → J none s)
    (reached : Reaches R.effect ok p q) : J q.owner q.state := by
  have both : R.Kept Q q ∧ J q.owner q.state := by
    induction reached with
    | refl => exact ⟨start, first⟩
    | @step q q' m _ _ taken ih =>
      obtain ⟨kept, holds⟩ := ih
      have next := kept.step taken
      refine ⟨next, ?_⟩
      cases Pool.step_cases taken with
      | @sec i place f k task => exact step kept.free (kept.task task _ .refl).1 holds
      | issue task => exact holds
      | @lock i timed k task free =>
        rw [free] at holds
        exact lock (kept.free free) holds
      | @unlock i k task held =>
        rw [held] at holds
        exact unlock (next.free rfl) holds
      | @answer i c k oracle task =>
        exact step kept.free ((kept.task task _ .refl).2 (oracle c)).1 holds
      | giveUp task => exact holds
  exact both.2

end

end Lib
