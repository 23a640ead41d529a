import Mathlib.Logic.Basic

/-!
# Tasks over a shared state

A task is a tree of the steps it may take: one critical section after another,
calls to the world outside with an answer each, and a lock. `Prog` is the tree,
`Runs` what it may do when the rest of the world moves only as an `Env` allows,
`wp` the rule set to reason about it.

* `Prog.sec`: a critical section is one step; its `place` names it.
* `Prog.call`: the answer comes with an effect on the state.
* `Within`: what every section of a task does, whatever the rest does.
* `Env`: the answers a world may give, the moves it may make in between.
* `wp_sound`: what `wp` proves holds of every run.
-/

namespace Lib

/-- A task over states `σ`, whose critical sections are at places `π` and whose
calls `c` are answered in `ρ c`. -/
inductive Prog (σ π : Type) {κ : Type} (ρ : κ → Type) (α : Type) : Type where
  | ret (a : α)
  /-- The state becomes `f` of it; what follows may depend on what it was. -/
  | sec (place : π) (f : σ → σ) (k : σ → Prog σ π ρ α)
  | call (c : κ) (k : ρ c → Prog σ π ρ α)
  /-- Goes on with `true` once it holds the lock, with `false` when it is
  `timed` and gave up. -/
  | lock (timed : Bool) (k : Bool → Prog σ π ρ α)
  | unlock (k : Prog σ π ρ α)

namespace Prog

variable {σ π κ : Type} {ρ : κ → Type} {α β γ : Type}

def bind : Prog σ π ρ α → (α → Prog σ π ρ β) → Prog σ π ρ β
  | .ret a, f => f a
  | .sec place g k, f => .sec place g fun s => (k s).bind f
  | .call c k, f => .call c fun r => (k r).bind f
  | .lock timed k, f => .lock timed fun b => (k b).bind f
  | .unlock k, f => .unlock (k.bind f)

instance : Monad (Prog σ π ρ) where
  pure := .ret
  bind := bind

@[simp] theorem pure_eq (a : α) : (pure a : Prog σ π ρ α) = .ret a := rfl

@[simp] theorem bind_eq (p : Prog σ π ρ α) (f : α → Prog σ π ρ β) : p >>= f = p.bind f := rfl

@[simp] theorem ret_bind (a : α) (f : α → Prog σ π ρ β) : (ret a).bind f = f a := rfl

theorem bind_assoc (p : Prog σ π ρ α) (f : α → Prog σ π ρ β) (g : β → Prog σ π ρ γ) :
    (p.bind f).bind g = p.bind fun a => (f a).bind g := by
  induction p with
  | ret a => rfl
  | sec place h k ih => simp only [bind, ih]
  | call c k ih => simp only [bind, ih]
  | lock timed k ih => simp only [bind, ih]
  | unlock k ih => simp only [bind, ih]

/-- One critical section, which may return something. -/
def step (place : π) (f : σ → α × σ) : Prog σ π ρ α :=
  .sec place (fun s => (f s).2) fun s => .ret (f s).1

def update (place : π) (f : σ → σ) : Prog σ π ρ Unit :=
  .sec place f fun _ => .ret ()

/-- A section that only reads. -/
def get (place : π) : Prog σ π ρ σ :=
  .sec place id .ret

def ask (c : κ) : Prog σ π ρ (ρ c) :=
  .call c .ret

/-- The lock is released when the task in it ends. -/
def withLock (p : Prog σ π ρ α) : Prog σ π ρ α :=
  .lock false fun _ => p.bind fun a => .unlock (.ret a)

def forEach (xs : List β) (f : β → Prog σ π ρ Unit) : Prog σ π ρ Unit :=
  match xs with
  | [] => .ret ()
  | x :: xs => (f x).bind fun _ => forEach xs f

end Prog

/-! ## What the sections of a task do -/

section

variable {σ π κ : Type} {ρ : κ → Type} {α β : Type}

/-- Every section the task may ever enter moves the state as `S` says of its
place. -/
def Within (S : π → σ → σ → Prop) : Prog σ π ρ α → Prop
  | .ret _ => True
  | .sec place f k => (∀ s, S place s (f s)) ∧ ∀ s, Within S (k s)
  | .call _ k => ∀ r, Within S (k r)
  | .lock _ k => ∀ b, Within S (k b)
  | .unlock k => Within S k

variable {S T : π → σ → σ → Prop} {p : Prog σ π ρ α}

theorem Within.mono (within : Within S p) (weaker : ∀ place s t, S place s t → T place s t) :
    Within T p := by
  induction p with
  | ret a => trivial
  | sec place f k ih =>
    exact ⟨fun s => weaker place s _ (within.1 s), fun s => ih s (within.2 s)⟩
  | call c k ih => exact fun r => ih r (within r)
  | lock timed k ih => exact fun b => ih b (within b)
  | unlock k ih => exact ih within

theorem Within.bind {f : α → Prog σ π ρ β} (first : Within S p) (rest : ∀ a, Within S (f a)) :
    Within S (p.bind f) := by
  induction p with
  | ret a => exact rest a
  | sec place g k ih => exact ⟨first.1, fun s => ih s (first.2 s)⟩
  | call c k ih => exact fun r => ih r (first r)
  | lock timed k ih => exact fun b => ih b (first b)
  | unlock k ih => exact ih first

theorem Within.withLock (within : Within S p) : Within S p.withLock :=
  fun _ => within.bind fun _ => trivial

theorem Within.forEach {xs : List β} {f : β → Prog σ π ρ Unit} (each : ∀ x, Within S (f x)) :
    Within S (Prog.forEach xs f) := by
  induction xs with
  | nil => trivial
  | cons x xs ih => exact (each x).bind fun _ => ih

/-- `?` after a call that may fail. -/
theorem Within.bindExcept {ε : Type} {p : ExceptT ε (Prog σ π ρ) α}
    {f : α → ExceptT ε (Prog σ π ρ) β} (first : Within S p.run)
    (rest : ∀ a, Within S (f a).run) : Within S (p >>= f).run :=
  Within.bind first fun
    | .ok a => rest a
    | .error _ => trivial

/-- A task that cannot fail in a call that may. -/
theorem Within.bindLift {ε : Type} {p : Prog σ π ρ α} {f : α → ExceptT ε (Prog σ π ρ) β}
    (first : Within S p) (rest : ∀ a, Within S (f a).run) :
    Within S ((monadLift p : ExceptT ε (Prog σ π ρ) α) >>= f).run :=
  Within.bindExcept (Within.bind first fun _ => trivial) rest

end

/-! ## The world around a task -/

/-- What the world around a task does: the effect of each answer, which answers
it may give, how it may move between the task's steps; and what is asked of the
task: the calls it may make and what must hold after each of its steps. -/
structure Env (σ : Type) {κ : Type} (ρ : κ → Type) where
  effect : (c : κ) → ρ c → σ → σ
  answers : (c : κ) → ρ c → σ → Prop
  moves : σ → σ → Prop
  refl : ∀ s, moves s s
  trans : ∀ {s t u}, moves s t → moves t u → moves s u
  /-- The task has the lock to itself: locking is no step. -/
  alone : Prop
  allowed : κ → σ → Prop
  good : σ → Prop

/-- Nothing else moves and nothing is asked of the task. -/
def Env.still {σ κ : Type} {ρ : κ → Type} (effect : (c : κ) → ρ c → σ → σ)
    (answers : (c : κ) → ρ c → σ → Prop) : Env σ ρ where
  effect
  answers
  moves := Eq
  refl _ := rfl
  trans := Eq.trans
  alone := True
  allowed _ _ := True
  good _ := True

section

variable {σ π κ : Type} {ρ : κ → Type} {α β : Type}

/-- The task may end with a result in a state. -/
inductive Runs (E : Env σ ρ) : Prog σ π ρ α → σ → α → σ → Prop
  | ret {a : α} {s s' : σ} (moved : E.moves s s') : Runs E (.ret a) s a s'
  | sec {place : π} {f : σ → σ} {k : σ → Prog σ π ρ α} {s t s' : σ} {a : α}
      (moved : E.moves s t) (rest : Runs E (k t) (f t) a s') : Runs E (.sec place f k) s a s'
  | call {c : κ} {k : ρ c → Prog σ π ρ α} {s t s' : σ} {a : α} {r : ρ c}
      (moved : E.moves s t) (answer : E.answers c r t)
      (rest : Runs E (k r) (E.effect c r t) a s') : Runs E (.call c k) s a s'
  | lock {timed : Bool} {k : Bool → Prog σ π ρ α} {s t s' : σ} {a : α} (moved : E.moves s t)
      (rest : Runs E (k true) t a s') : Runs E (.lock timed k) s a s'
  | unlock {k : Prog σ π ρ α} {s t s' : σ} {a : α} (moved : E.moves s t)
      (rest : Runs E k t a s') : Runs E (.unlock k) s a s'

/-- Every way on from `s` keeps to what is asked and ends as `Q` says. -/
def wp (E : Env σ ρ) : Prog σ π ρ α → (α → σ → Prop) → σ → Prop
  | .ret a, Q, s => ∀ t, E.moves s t → E.good t → Q a t
  | .sec _ f k, Q, s => ∀ t, E.moves s t → E.good t → E.good (f t) ∧ wp E (k t) Q (f t)
  | .call c k, Q, s => ∀ t, E.moves s t → E.good t → E.allowed c t ∧
      ∀ r, E.answers c r t → E.good (E.effect c r t) ∧ wp E (k r) Q (E.effect c r t)
  | .lock _ k, Q, s => ∀ t, E.moves s t → E.good t → E.alone ∧ wp E (k true) Q t
  | .unlock k, Q, s => ∀ t, E.moves s t → E.good t → E.alone ∧ wp E k Q t

variable {E : Env σ ρ} {p : Prog σ π ρ α} {Q R : α → σ → Prop} {s s' : σ}

theorem wp_sound {a : α} (spec : wp E p Q s) (runs : Runs E p s a s')
    (good : ∀ t, E.good t) : Q a s' := by
  induction runs with
  | ret moved => exact spec _ moved (good _)
  | sec moved _ ih => exact ih (spec _ moved (good _)).2
  | call moved answer _ ih => exact ih ((spec _ moved (good _)).2 _ answer).2
  | lock moved _ ih => exact ih (spec _ moved (good _)).2
  | unlock moved _ ih => exact ih (spec _ moved (good _)).2

theorem wp_mono (spec : wp E p Q s) (weaker : ∀ a t, Q a t → R a t) : wp E p R s := by
  induction p generalizing s with
  | ret a => exact fun t moved good => weaker a t (spec t moved good)
  | sec place f k ih =>
    exact fun t moved good => (spec t moved good).imp_right fun rest => ih t rest
  | call c k ih =>
    exact fun t moved good => (spec t moved good).imp_right fun rest r answer =>
      (rest r answer).imp_right fun later => ih r later
  | lock timed k ih =>
    exact fun t moved good => (spec t moved good).imp_right fun rest => ih true rest
  | unlock k ih => exact fun t moved good => (spec t moved good).imp_right fun rest => ih rest

/-- It is enough to look at the states the world may have moved to. -/
theorem wp_of_moves (spec : ∀ t, E.moves s t → E.good t → wp E p Q t) : wp E p Q s := by
  cases p <;> exact fun t moved good => spec t moved good t (E.refl t) good

theorem wp_moved (spec : wp E p Q s) (moved : E.moves s s') : wp E p Q s' := by
  cases p <;> exact fun t later good => spec t (E.trans moved later) good

/-- What a task ends with holds however long it is left alone. -/
theorem wp_later (spec : wp E p Q s) :
    wp E p (fun a t => ∀ u, E.moves t u → E.good u → Q a u) s := by
  induction p generalizing s with
  | ret a => exact fun t moved _ u later good => spec u (E.trans moved later) good
  | sec place f k ih =>
    exact fun t moved good => (spec t moved good).imp_right fun rest => ih t rest
  | call c k ih =>
    exact fun t moved good => (spec t moved good).imp_right fun rest r answer =>
      (rest r answer).imp_right fun later => ih r later
  | lock timed k ih =>
    exact fun t moved good => (spec t moved good).imp_right fun rest => ih true rest
  | unlock k ih => exact fun t moved good => (spec t moved good).imp_right fun rest => ih rest

/-- A task ends in a good state. -/
theorem wp_good (spec : wp E p Q s) : wp E p (fun a t => E.good t ∧ Q a t) s := by
  induction p generalizing s with
  | ret a => exact fun t moved good => ⟨good, spec t moved good⟩
  | sec place f k ih =>
    exact fun t moved good => (spec t moved good).imp_right fun rest => ih t rest
  | call c k ih =>
    exact fun t moved good => (spec t moved good).imp_right fun rest r answer =>
      (rest r answer).imp_right fun later => ih r later
  | lock timed k ih =>
    exact fun t moved good => (spec t moved good).imp_right fun rest => ih true rest
  | unlock k ih => exact fun t moved good => (spec t moved good).imp_right fun rest => ih rest

theorem wp_bind {f : α → Prog σ π ρ β} {Q : β → σ → Prop}
    (spec : wp E p (fun a => wp E (f a) Q) s) : wp E (p.bind f) Q s := by
  induction p generalizing s with
  | ret a => exact wp_of_moves spec
  | sec place g k ih =>
    exact fun t moved good => (spec t moved good).imp_right fun rest => ih t rest
  | call c k ih =>
    exact fun t moved good => (spec t moved good).imp_right fun rest r answer =>
      (rest r answer).imp_right fun later => ih r later
  | lock timed k ih =>
    exact fun t moved good => (spec t moved good).imp_right fun rest => ih true rest
  | unlock k ih => exact fun t moved good => (spec t moved good).imp_right fun rest => ih rest

/-- What a failed call leaves to the rest: its error. -/
def onOk {ε : Type} (rest : α → σ → Prop) (failed : ε → σ → Prop) : Except ε α → σ → Prop
  | .ok a => rest a
  | .error e => failed e

theorem wp_bindExcept {ε : Type} {p : ExceptT ε (Prog σ π ρ) α}
    {f : α → ExceptT ε (Prog σ π ρ) β} {Q : Except ε β → σ → Prop}
    (spec : wp E p.run
      (onOk (fun a => wp E (f a).run Q) fun e => wp E (.ret (.error e) : Prog σ π ρ _) Q) s) :
    wp E (p >>= f).run Q s := by
  refine wp_bind (wp_mono spec fun a t post => ?_)
  cases a with
  | ok a => exact post
  | error e => exact post

theorem wp_bindLift {ε : Type} {p : Prog σ π ρ α} {f : α → ExceptT ε (Prog σ π ρ) β}
    {Q : Except ε β → σ → Prop} (spec : wp E p (fun a => wp E (f a).run Q) s) :
    wp E ((monadLift p : ExceptT ε (Prog σ π ρ) α) >>= f).run Q s := by
  refine wp_bindExcept (wp_bind (wp_mono spec fun a t post => ?_))
  exact fun u moved _ => wp_moved post moved

end

/-! ## A task alone -/

section

variable {σ π κ : Type} {ρ : κ → Type} {α β : Type}
variable {effect : (c : κ) → ρ c → σ → σ} {answers : (c : κ) → ρ c → σ → Prop}
variable {Q : α → σ → Prop} {s : σ}

theorem wp_still_ret {a : α} (post : Q a s) :
    wp (Env.still effect answers) (.ret a : Prog σ π ρ α) Q s := by
  rintro _ rfl _
  exact post

theorem wp_still_sec {place : π} {f : σ → σ} {k : σ → Prog σ π ρ α}
    (rest : wp (Env.still effect answers) (k s) Q (f s)) :
    wp (Env.still effect answers) (.sec place f k) Q s := by
  rintro _ rfl _
  exact ⟨trivial, rest⟩

theorem wp_still_call {c : κ} {k : ρ c → Prog σ π ρ α}
    (rest : ∀ r, answers c r s → wp (Env.still effect answers) (k r) Q (effect c r s)) :
    wp (Env.still effect answers) (.call c k) Q s := by
  rintro _ rfl _
  exact ⟨trivial, fun r answer => ⟨trivial, rest r answer⟩⟩

theorem wp_still_withLock {p : Prog σ π ρ α} (spec : wp (Env.still effect answers) p Q s) :
    wp (Env.still effect answers) p.withLock Q s := by
  rintro _ rfl _
  refine ⟨trivial, wp_bind (wp_mono spec fun a t post => ?_)⟩
  rintro _ rfl _
  exact ⟨trivial, wp_still_ret post⟩

/-- A task of which nothing is to be known. -/
theorem wp_still_any {p : Prog σ π ρ α} :
    wp (Env.still effect answers) p (fun _ _ => True) s := by
  induction p generalizing s with
  | ret a => exact wp_still_ret trivial
  | sec place f k ih => exact wp_still_sec (ih s)
  | call c k ih => exact wp_still_call fun r _ => ih r
  | lock timed k ih =>
    rintro _ rfl _
    exact ⟨trivial, ih true⟩
  | unlock k ih =>
    rintro _ rfl _
    exact ⟨trivial, ih⟩

/-- What every section and every answer keep of the state they find. -/
theorem wp_still_within {S : π → σ → σ → Prop} {I : σ → Prop} {p : Prog σ π ρ α}
    (within : Within S p) (sections : ∀ place s t, S place s t → I s → I t)
    (calls : ∀ c r s, I s → I (effect c r s)) (start : I s) :
    wp (Env.still effect answers) p (fun _ => I) s := by
  induction p generalizing s with
  | ret a => exact wp_still_ret start
  | sec place f k ih =>
    exact wp_still_sec (ih s (within.2 s) (sections _ _ _ (within.1 s) start))
  | call c k ih => exact wp_still_call fun r _ => ih r (within r) (calls c r s start)
  | lock timed k ih =>
    rintro _ rfl _
    exact ⟨trivial, ih true (within true) start⟩
  | unlock k ih =>
    rintro _ rfl _
    exact ⟨trivial, ih within start⟩

/-- What every section and every answer keep. -/
theorem Runs.within {S : π → σ → σ → Prop} {I : σ → Prop} {p : Prog σ π ρ α} {a : α} {s' : σ}
    (runs : Runs (Env.still effect answers) p s a s') (within : Within S p)
    (sections : ∀ place s t, S place s t → I s → I t)
    (calls : ∀ c r s, I s → I (effect c r s)) (start : I s) : I s' := by
  induction runs with
  | ret moved =>
    cases moved
    exact start
  | sec moved _ ih =>
    cases moved
    exact ih (within.2 _) (sections _ _ _ (within.1 _) start)
  | call moved _ _ ih =>
    cases moved
    exact ih (within _) (calls _ _ _ start)
  | lock moved _ ih =>
    cases moved
    exact ih (within true) start
  | unlock moved _ ih =>
    cases moved
    exact ih within start

/-- The run of a task alone, its `n`th call answered by `oracle n`. -/
def exec (effect : (c : κ) → ρ c → σ → σ) (oracle : Nat → (c : κ) → ρ c) :
    Prog σ π ρ α → Nat → σ → α × Nat × σ
  | .ret a, n, s => (a, n, s)
  | .sec _ f k, n, s => exec effect oracle (k s) n (f s)
  | .call c k, n, s => exec effect oracle (k (oracle n c)) (n + 1) (effect c (oracle n c) s)
  | .lock _ k, n, s => exec effect oracle (k true) n s
  | .unlock k, n, s => exec effect oracle k n s

theorem exec_runs {oracle : Nat → (c : κ) → ρ c} (admitted : ∀ n c s, answers c (oracle n c) s)
    (p : Prog σ π ρ α) (n : Nat) (s : σ) :
    Runs (Env.still effect answers) p s (exec effect oracle p n s).1
      (exec effect oracle p n s).2.2 := by
  induction p generalizing n s with
  | ret a => exact .ret rfl
  | sec place f k ih => exact .sec rfl (ih s n (f s))
  | call c k ih => exact .call rfl (admitted n c s) (ih _ _ _)
  | lock timed k ih => exact .lock rfl (ih true n s)
  | unlock k ih => exact .unlock rfl (ih n s)

end

end Lib
