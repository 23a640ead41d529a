import PpvpnCore.Lib.Prog

/-!
# A task that may die

`Came` is where a task may have come to, at whatever step it is left off: what
`wp` asks of every state holds there too. `follow` executes a task along given
answers and leaves it off when they run out.
-/

namespace Lib

variable {σ π κ : Type} {ρ : κ → Type} {α : Type}

/-- The task may have come from the first state to the second. -/
inductive Came (E : Env σ ρ) : Prog σ π ρ α → σ → σ → Prop
  | here {p : Prog σ π ρ α} {s t : σ} (moved : E.moves s t) : Came E p s t
  | sec {place : π} {f : σ → σ} {k : σ → Prog σ π ρ α} {s t s' : σ}
      (moved : E.moves s t) (rest : Came E (k t) (f t) s') : Came E (.sec place f k) s s'
  | call {c : κ} {k : ρ c → Prog σ π ρ α} {s t s' : σ} {r : ρ c}
      (moved : E.moves s t) (answer : E.answers c r t)
      (rest : Came E (k r) (E.effect c r t) s') : Came E (.call c k) s s'
  | lock {timed : Bool} {k : Bool → Prog σ π ρ α} {s t s' : σ} (moved : E.moves s t)
      (rest : Came E (k true) t s') : Came E (.lock timed k) s s'
  | unlock {k : Prog σ π ρ α} {s t s' : σ} (moved : E.moves s t)
      (rest : Came E k t s') : Came E (.unlock k) s s'

variable {E : Env σ ρ} {p : Prog σ π ρ α} {Q : α → σ → Prop} {s s' : σ}

/-- What is asked of every state, wherever the task is left off. -/
theorem wp_came (keeps : ∀ s t, E.moves s t → E.good s → E.good t) (spec : wp E p Q s)
    (good : E.good s) (came : Came E p s s') : E.good s' := by
  induction came with
  | here moved => exact keeps _ _ moved good
  | sec moved _ ih =>
    have step := spec _ moved (keeps _ _ moved good)
    exact ih step.2 step.1
  | call moved answer _ ih =>
    have step := (spec _ moved (keeps _ _ moved good)).2 _ answer
    exact ih step.2 step.1
  | lock moved _ ih =>
    have held := keeps _ _ moved good
    exact ih (spec _ moved held).2 held
  | unlock moved _ ih =>
    have held := keeps _ _ moved good
    exact ih (spec _ moved held).2 held

/-- A task that ends ends as it is specified. -/
theorem wp_runs {a : α} (keeps : ∀ s t, E.moves s t → E.good s → E.good t) (spec : wp E p Q s)
    (good : E.good s) (runs : Runs E p s a s') : Q a s' := by
  induction runs with
  | ret moved => exact spec _ moved (keeps _ _ moved good)
  | sec moved _ ih =>
    have step := spec _ moved (keeps _ _ moved good)
    exact ih step.2 step.1
  | call moved answer _ ih =>
    have step := (spec _ moved (keeps _ _ moved good)).2 _ answer
    exact ih step.2 step.1
  | lock moved _ ih =>
    have held := keeps _ _ moved good
    exact ih (spec _ moved held).2 held
  | unlock moved _ ih =>
    have held := keeps _ _ moved good
    exact ih (spec _ moved held).2 held

/-! ## Execution -/

/-- What the world does at a call: it moves, then answers. -/
structure Turn (σ : Type) {κ : Type} (ρ : κ → Type) where
  move : σ → σ
  answer : (c : κ) → ρ c

/-- The task along the given turns; left off when they run out, nowhere when an
answer may not be given. -/
def follow (effect : (c : κ) → ρ c → σ → σ) (ok : (c : κ) → ρ c → σ → Bool) :
    Prog σ π ρ α → List (Turn σ ρ) → σ → Option σ
  | .ret _, _, s => some s
  | .sec _ f k, turns, s => follow effect ok (k s) turns (f s)
  | .call _ _, [], s => some s
  | .call c k, turn :: turns, s =>
    if ok c (turn.answer c) (turn.move s) then
      follow effect ok (k (turn.answer c)) turns (effect c (turn.answer c) (turn.move s))
    else none
  | .lock _ k, turns, s => follow effect ok (k true) turns s
  | .unlock k, turns, s => follow effect ok k turns s

theorem Came.of_follow {ok : (c : κ) → ρ c → σ → Bool} {turns : List (Turn σ ρ)}
    (sound : ∀ c r s, ok c r s = true → E.answers c r s)
    (moves : ∀ turn ∈ turns, ∀ s, E.moves s (turn.move s))
    (followed : follow E.effect ok p turns s = some s') : Came E p s s' := by
  induction p generalizing turns s with
  | ret a =>
    cases followed
    exact .here (E.refl _)
  | sec place f k ih => exact .sec (E.refl s) (ih s moves followed)
  | call c k ih =>
    cases turns with
    | nil =>
      cases followed
      exact .here (E.refl _)
    | cons turn turns =>
      simp only [follow] at followed
      split at followed
      next may =>
        exact .call (moves turn List.mem_cons_self s) (sound _ _ _ may)
          (ih _ (fun other mem => moves other (List.mem_cons_of_mem _ mem)) followed)
      next => cases followed
  | lock timed k ih => exact .lock (E.refl s) (ih true moves followed)
  | unlock k ih => exact .unlock (E.refl s) (ih moves followed)

end Lib
