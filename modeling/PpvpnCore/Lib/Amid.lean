import PpvpnCore.Lib.Prog

/-!
# Tasks amid a world

A task knows its own state; the answers it hears come from a world that has a
state too. `Prog.amid` is the task with the world beside it: an answer may say
more than the task hears of it.

* `wp_amid_bind`, `wp_amid_bindExcept`, `wp_amid_bindLift`: the task is reasoned
  about as it is written.
* `Steps`: how far a task may have come; `wp_steps`: what is asked of every step
  holds wherever it stands.
* `Prog.follow`: a run that can be executed, cut off where the answers end.
* `Prog.answerBy`: the result of a task whose every call is answered.
-/

namespace Lib

variable {σ τ π κ : Type} {ρ θ : κ → Type} {α β : Type}

namespace Prog

variable {hear : (c : κ) → θ c → ρ c}

/-- The world's state is beside the task's, and its answers are heard. -/
def amid (hear : (c : κ) → θ c → ρ c) : Prog σ π ρ α → Prog (σ × τ) π θ α
  | .ret a => .ret a
  | .sec place f k => .sec place (fun s => (f s.1, s.2)) fun s => (k s.1).amid hear
  | .call c k => .call c fun r => (k (hear c r)).amid hear
  | .lock timed k => .lock timed fun b => (k b).amid hear
  | .unlock k => .unlock (k.amid hear)

theorem amid_bind (p : Prog σ π ρ α) (f : α → Prog σ π ρ β) :
    ((p.bind f).amid hear : Prog (σ × τ) π θ β) = (p.amid hear).bind fun a => (f a).amid hear := by
  induction p with
  | ret a => rfl
  | sec place g k ih => simp only [bind, amid, ih]
  | call c k ih => simp only [bind, amid, ih]
  | lock timed k ih => simp only [bind, amid, ih]
  | unlock k ih => simp only [bind, amid, ih]

end Prog

/-! ## Rules -/

section

variable {hear : (c : κ) → θ c → ρ c} {E : Env (σ × τ) θ} {s : σ × τ}

theorem wp_amid_bind {p : Prog σ π ρ α} {f : α → Prog σ π ρ β} {Q : β → σ × τ → Prop}
    (spec : wp E (p.amid hear) (fun a => wp E ((f a).amid hear) Q) s) :
    wp E ((p.bind f).amid hear) Q s := by
  rw [Prog.amid_bind]
  exact wp_bind spec

theorem wp_amid_bindExcept {ε : Type} {p : ExceptT ε (Prog σ π ρ) α}
    {f : α → ExceptT ε (Prog σ π ρ) β} {Q : Except ε β → σ × τ → Prop}
    (spec : wp E (p.run.amid hear) (onOk (fun a => wp E ((f a).run.amid hear) Q)
      fun e => wp E (.ret (.error e) : Prog (σ × τ) π θ _) Q) s) :
    wp E ((p >>= f).run.amid hear) Q s := by
  refine wp_amid_bind (wp_mono spec fun a t post => ?_)
  cases a with
  | ok a => exact post
  | error e => exact post

theorem wp_amid_bindLift {ε : Type} {p : Prog σ π ρ α} {f : α → ExceptT ε (Prog σ π ρ) β}
    {Q : Except ε β → σ × τ → Prop}
    (spec : wp E (p.amid hear) (fun a => wp E ((f a).run.amid hear) Q) s) :
    wp E (((monadLift p : ExceptT ε (Prog σ π ρ) α) >>= f).run.amid hear) Q s := by
  refine wp_amid_bindExcept (wp_amid_bind (wp_mono spec fun a t post => ?_))
  exact fun u moved _ => wp_moved post moved

theorem wp_amid_withLock {p : Prog σ π ρ α} {Q : α → σ × τ → Prop} (alone : E.alone)
    (spec : wp E (p.amid hear) Q s) : wp E (p.withLock.amid hear) Q s := by
  intro t moved _
  refine ⟨alone, wp_amid_bind (wp_mono (wp_later (wp_moved spec moved)) fun a u post => ?_)⟩
  intro v later _
  exact ⟨alone, fun w last good => post w (E.trans later last) good⟩

theorem wp_amid_forEach {xs : List β} {f : β → Prog σ π ρ Unit}
    (each : ∀ x ∈ xs, ∀ s, wp E ((f x).amid hear) (fun _ _ => True) s) (s : σ × τ) :
    wp E ((Prog.forEach xs f).amid hear) (fun _ _ => True) s := by
  induction xs generalizing s with
  | nil => exact fun _ _ _ => trivial
  | cons x xs ih =>
    refine wp_amid_bind (wp_mono (each x List.mem_cons_self s) fun _ t _ => ?_)
    exact ih (fun y member => each y (List.mem_cons_of_mem _ member)) t

end

/-! ## How far a task may have come -/

/-- The task stands at another point, in another state. -/
inductive Steps (E : Env σ ρ) (p : Prog σ π ρ α) (s : σ) : Prog σ π ρ α → σ → Prop
  | refl : Steps E p s p s
  | sec {place : π} {f : σ → σ} {k : σ → Prog σ π ρ α} {t u : σ}
      (before : Steps E p s (.sec place f k) t) (moved : E.moves t u) : Steps E p s (k u) (f u)
  | call {c : κ} {k : ρ c → Prog σ π ρ α} {t u : σ} {r : ρ c} (before : Steps E p s (.call c k) t)
      (moved : E.moves t u) (answer : E.answers c r u) : Steps E p s (k r) (E.effect c r u)
  | lock {timed : Bool} {k : Bool → Prog σ π ρ α} {t u : σ}
      (before : Steps E p s (.lock timed k) t) (moved : E.moves t u) : Steps E p s (k true) u
  | unlock {k : Prog σ π ρ α} {t u : σ} (before : Steps E p s (.unlock k) t)
      (moved : E.moves t u) : Steps E p s k u

section

variable {E : Env σ ρ} {p q : Prog σ π ρ α} {Q : α → σ → Prop} {s t : σ}

/-- What is asked of every step holds wherever the task stands. -/
theorem wp_steps (steps : Steps E p s q t) (spec : wp E p Q s) (start : E.good s)
    (keep : ∀ t u, E.moves t u → E.good t → E.good u) : E.good t ∧ wp E q Q t := by
  induction steps with
  | refl => exact ⟨start, spec⟩
  | sec _ moved ih => exact ih.2 _ moved (keep _ _ moved ih.1)
  | call _ moved answer ih => exact (ih.2 _ moved (keep _ _ moved ih.1)).2 _ answer
  | lock _ moved ih =>
    have good := keep _ _ moved ih.1
    exact ⟨good, (ih.2 _ moved good).2⟩
  | unlock _ moved ih =>
    have good := keep _ _ moved ih.1
    exact ⟨good, (ih.2 _ moved good).2⟩

theorem Steps.trans {r : Prog σ π ρ α} {u : σ} (first : Steps E p s q t) (then_ : Steps E q t r u) :
    Steps E p s r u := by
  induction then_ with
  | refl => exact first
  | sec _ moved ih => exact ih.sec moved
  | call _ moved answer ih => exact ih.call moved answer
  | lock _ moved ih => exact ih.lock moved
  | unlock _ moved ih => exact ih.unlock moved

/-- A run with one answer after another; it ends where an answer is missing, or
may not be given. -/
def Prog.follow (effect : (c : κ) → ρ c → σ → σ) (answers : (c : κ) → ρ c → σ → Prop)
    [∀ c r s, Decidable (answers c r s)] :
    Prog σ π ρ α → List (σ → (c : κ) → ρ c) → σ → Prog σ π ρ α × σ
  | .ret a, _, s => (.ret a, s)
  | .sec _ f k, oracles, s => (k s).follow effect answers oracles (f s)
  | .call c k, [], s => (.call c k, s)
  | .call c k, oracle :: oracles, s =>
    if answers c (oracle s c) s then
      (k (oracle s c)).follow effect answers oracles (effect c (oracle s c) s)
    else (.call c k, s)
  | .lock _ k, oracles, s => (k true).follow effect answers oracles s
  | .unlock k, oracles, s => k.follow effect answers oracles s

theorem Steps.of_follow [∀ c r s, Decidable (E.answers c r s)] (p : Prog σ π ρ α)
    (oracles : List (σ → (c : κ) → ρ c)) (s : σ) :
    Steps E p s (p.follow E.effect E.answers oracles s).1
      (p.follow E.effect E.answers oracles s).2 := by
  induction p generalizing oracles s with
  | ret a => exact .refl
  | sec place f k ih => exact (Steps.refl.sec (E.refl s)).trans (ih s oracles (f s))
  | call c k ih =>
    cases oracles with
    | nil => exact .refl
    | cons oracle oracles =>
      rw [Prog.follow]
      split
      next answer => exact (Steps.refl.call (E.refl s) answer).trans (ih _ oracles _)
      next => exact .refl
  | lock timed k ih => exact (Steps.refl.lock (E.refl s)).trans (ih true oracles s)
  | unlock k ih => exact (Steps.refl.unlock (E.refl s)).trans (ih oracles s)

/-! ## A task that is answered -/

/-- The result of a task, each call answered as the state asks for. -/
def Prog.answerBy (effect : (c : κ) → ρ c → σ → σ) (oracle : σ → (c : κ) → ρ c) :
    Prog σ π ρ α → σ → α × σ
  | .ret a, s => (a, s)
  | .sec _ f k, s => (k s).answerBy effect oracle (f s)
  | .call c k, s => (k (oracle s c)).answerBy effect oracle (effect c (oracle s c) s)
  | .lock _ k, s => (k true).answerBy effect oracle s
  | .unlock k, s => k.answerBy effect oracle s

theorem wp_answerBy {oracle : σ → (c : κ) → ρ c} (spec : wp E p Q s) (start : E.good s)
    (answers : ∀ s c, E.answers c (oracle s c) s) :
    Q (p.answerBy E.effect oracle s).1 (p.answerBy E.effect oracle s).2 := by
  induction p generalizing s with
  | ret a => exact spec s (E.refl s) start
  | sec place f k ih =>
    obtain ⟨good, rest⟩ := spec s (E.refl s) start
    exact ih s rest good
  | call c k ih =>
    obtain ⟨good, rest⟩ := (spec s (E.refl s) start).2 (oracle s c) (answers s c)
    exact ih _ rest good
  | lock timed k ih => exact ih true (spec s (E.refl s) start).2 start
  | unlock k ih => exact ih (spec s (E.refl s) start).2 start

end

end Lib
