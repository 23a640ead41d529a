import PpvpnCore.Lib.Pool

/-!
# Tasks that cannot tell states apart

A task is blind to the difference between related states when it goes on alike
in both. Two pools that run side by side in related states, with the same blind
tasks in both, never come to differ in these tasks.

* `Blind`: the task goes on alike in related states.
* `Beside`: two runs side by side, in related states at every moment.
* `Beside.same`: the blind tasks are at the same point in both.
-/

namespace Lib

variable {σ π κ : Type} {ρ : κ → Type} {α β : Type}

def Blind (E : σ → σ → Prop) : Prog σ π ρ α → Prop
  | .ret _ => True
  | .sec _ _ k => (∀ s t, E s t → k s = k t) ∧ ∀ s, Blind E (k s)
  | .call _ k => ∀ r, Blind E (k r)
  | .lock _ k => ∀ b, Blind E (k b)
  | .unlock k => Blind E k

section

variable {E : σ → σ → Prop} {p : Prog σ π ρ α}

theorem Blind.bind {f : α → Prog σ π ρ β} (first : Blind E p) (rest : ∀ a, Blind E (f a)) :
    Blind E (p.bind f) := by
  induction p with
  | ret a => exact rest a
  | sec place g k ih =>
    refine ⟨fun s t alike => ?_, fun s => ih s (first.2 s)⟩
    exact congrArg (·.bind f) (first.1 s t alike)
  | call c k ih => exact fun r => ih r (first r)
  | lock timed k ih => exact fun b => ih b (first b)
  | unlock k ih => exact ih first

theorem Blind.bindExcept {ε : Type} {p : ExceptT ε (Prog σ π ρ) α}
    {f : α → ExceptT ε (Prog σ π ρ) β} (first : Blind E p.run) (rest : ∀ a, Blind E (f a).run) :
    Blind E (p >>= f).run :=
  Blind.bind first fun
    | .ok a => rest a
    | .error _ => trivial

theorem Blind.bindLift {ε : Type} {p : Prog σ π ρ α} {f : α → ExceptT ε (Prog σ π ρ) β}
    (first : Blind E p) (rest : ∀ a, Blind E (f a).run) :
    Blind E ((monadLift p : ExceptT ε (Prog σ π ρ) α) >>= f).run :=
  Blind.bindExcept (Blind.bind first fun _ => trivial) rest

theorem Blind.exceptBind {ε : Type} {x : Except ε α} {f : α → ExceptT ε (Prog σ π ρ) β}
    (rest : ∀ a, Blind E (f a).run) :
    Blind E ((ExceptT.mk (pure x) : ExceptT ε (Prog σ π ρ) α) >>= f).run := by
  cases x with
  | ok a => exact rest a
  | error e => trivial

theorem Blind.withLock (inside : Blind E p) : Blind E p.withLock :=
  fun _ => inside.bind fun _ => trivial

theorem Blind.update {place : π} {g : σ → σ} : Blind E (Prog.update place g : Prog σ π ρ Unit) :=
  ⟨fun _ _ _ => rfl, fun _ => trivial⟩

theorem Blind.ask {c : κ} : Blind E (Prog.ask c : Prog σ π ρ (ρ c)) := fun _ => trivial

theorem Blind.step {place : π} {g : σ → α × σ} (same : ∀ s t, E s t → (g s).1 = (g t).1) :
    Blind E (Prog.step place g : Prog σ π ρ α) :=
  ⟨fun s t alike => congrArg Prog.ret (same s t alike), fun _ => trivial⟩

theorem Blind.get {place : π} {f : σ → Prog σ π ρ β} (same : ∀ s t, E s t → f s = f t)
    (rest : ∀ s, Blind E (f s)) : Blind E ((Prog.get place).bind f) :=
  ⟨same, rest⟩

theorem Blind.tryGet {ε : Type} {place : π} {f : σ → ExceptT ε (Prog σ π ρ) β}
    (same : ∀ s t, E s t → f s = f t) (rest : ∀ s, Blind E (f s).run) :
    Blind E ((liftM (Prog.get place : Prog σ π ρ σ) : ExceptT ε (Prog σ π ρ) σ) >>= f).run :=
  ⟨same, rest⟩

end

/-! ## Two runs -/

def Move.task : Move ρ → Nat
  | .go i | .answer i _ | .giveUp i => i

/-- Two runs side by side, in related states at every moment. The tasks `them`
move in both at once and alike; the others as they like. -/
inductive Beside (effect : (c : κ) → ρ c → σ → σ) (E : σ → σ → Prop) (them : Nat → Prop)
    (p₀ p₀' : Pool σ π ρ α) : Pool σ π ρ α → Pool σ π ρ α → Prop
  | start (alike : E p₀.state p₀'.state) : Beside effect E them p₀ p₀' p₀ p₀'
  | both {p p' q q' : Pool σ π ρ α} {m m' : Move ρ} (before : Beside effect E them p₀ p₀' p p')
      (first : p.step effect m = some q) (second : p'.step effect m' = some q')
      (same : them m.task ∨ them m'.task → m = m') (alike : E q.state q'.state) :
      Beside effect E them p₀ p₀' q q'
  | left {p p' q : Pool σ π ρ α} {m : Move ρ} (before : Beside effect E them p₀ p₀' p p')
      (first : p.step effect m = some q) (other : ¬ them m.task) (alike : E q.state p'.state) :
      Beside effect E them p₀ p₀' q p'
  | right {p p' q' : Pool σ π ρ α} {m : Move ρ} (before : Beside effect E them p₀ p₀' p p')
      (second : p'.step effect m = some q') (other : ¬ them m.task) (alike : E p.state q'.state) :
      Beside effect E them p₀ p₀' p q'

section

variable {effect : (c : κ) → ρ c → σ → σ} {E : σ → σ → Prop} {them : Nat → Prop}
  {p₀ p₀' p p' q q' : Pool σ π ρ α} {m : Move ρ} {i : Nat}

/-- The task once it made its move in `s`. -/
def Prog.after (prog : Prog σ π ρ α) (m : Move ρ) (s : σ) : Prog σ π ρ α :=
  match prog, m with
  | .sec _ _ k, .go _ => k s
  | .call _ k, .answer _ oracle => k (oracle _)
  | .lock _ k, .go _ => k true
  | .lock _ k, .giveUp _ => k false
  | .unlock k, .go _ => k
  | prog, _ => prog

theorem Blind.after {prog : Prog σ π ρ α} {s t : σ} (blind : Blind E prog) (alike : E s t) :
    prog.after m s = prog.after m t ∧ Blind E (prog.after m s) := by
  cases prog <;> cases m <;> first
    | exact ⟨blind.1 s t alike, blind.2 s⟩
    | exact ⟨rfl, blind⟩
    | exact ⟨rfl, blind _⟩

theorem Pool.task_set_self {tasks : List (Running σ π ρ α)} {r : Running σ π ρ α}
    {prog : Prog σ π ρ α} (here : (tasks[i]?).map (·.prog) = some prog) :
    ((tasks.set i r)[i]?).map (·.prog) = some r.prog := by
  obtain ⟨running, found, -⟩ := Option.map_eq_some_iff.mp here
  rw [List.getElem?_set_self (List.getElem?_eq_some_iff.mp found).1]
  rfl

theorem Pool.task_set_other {tasks : List (Running σ π ρ α)} {j : Nat} {r : Running σ π ρ α}
    (other : j ≠ i) : ((tasks.set j r)[i]?).map (·.prog) = (tasks[i]?).map (·.prog) := by
  rw [List.getElem?_set_ne other]

/-- A step is one of its own task. -/
theorem Pool.step_tasks (taken : p.step effect m = some q) :
    (∃ prog, p.task m.task = some prog ∧ q.task m.task = some (prog.after m p.state)) ∧
      ∀ i, m.task ≠ i → q.task i = p.task i := by
  cases Pool.step_cases taken with
  | sec task => exact ⟨⟨_, task, Pool.task_set_self task⟩, fun _ other => Pool.task_set_other other⟩
  | issue task => exact ⟨⟨_, task, Pool.task_set_self task⟩, fun _ other => Pool.task_set_other other⟩
  | lock task free =>
    exact ⟨⟨_, task, Pool.task_set_self task⟩, fun _ other => Pool.task_set_other other⟩
  | unlock task held =>
    exact ⟨⟨_, task, Pool.task_set_self task⟩, fun _ other => Pool.task_set_other other⟩
  | answer task => exact ⟨⟨_, task, Pool.task_set_self task⟩, fun _ other => Pool.task_set_other other⟩
  | giveUp task => exact ⟨⟨_, task, Pool.task_set_self task⟩, fun _ other => Pool.task_set_other other⟩

theorem Beside.alike (beside : Beside effect E them p₀ p₀' p p') : E p.state p'.state := by
  cases beside <;> assumption

/-- The tasks `them`, blind and the same in both pools at first, stay the same. -/
theorem Beside.same (tasks : ∀ i, them i → p₀.task i = p₀'.task i)
    (blind : ∀ i prog, them i → p₀.task i = some prog → Blind E prog)
    (beside : Beside effect E them p₀ p₀' p p') :
    ∀ i, them i → p.task i = p'.task i ∧ ∀ prog, p.task i = some prog → Blind E prog := by
  induction beside with
  | start _ => exact fun i theirs => ⟨tasks i theirs, fun prog => blind i prog theirs⟩
  | @both p p' q q' m m' before first second same _ ih =>
    intro i theirs
    obtain ⟨⟨prog, here, now⟩, others⟩ := Pool.step_tasks first
    obtain ⟨⟨prog', here', now'⟩, others'⟩ := Pool.step_tasks second
    obtain ⟨equal, blinds⟩ := ih i theirs
    by_cases mine : m.task = i
    · have eq := same (.inl (mine ▸ theirs))
      subst eq mine
      rw [here, here'] at equal
      cases equal
      obtain ⟨goes, rest⟩ := (blinds prog here).after (m := m) before.alike
      refine ⟨by rw [now, now', goes], fun next found => ?_⟩
      rw [now] at found
      cases found
      exact rest
    · have mine' : m'.task ≠ i := by
        intro eq
        exact mine ((congrArg Move.task (same (.inr (eq ▸ theirs)))).trans eq)
      rw [others i mine, others' i mine']
      exact ⟨equal, blinds⟩
  | @left p p' q m before first other _ ih =>
    intro i theirs
    have mine : m.task ≠ i := fun eq => other (eq ▸ theirs)
    rw [(Pool.step_tasks first).2 i mine]
    exact ih i theirs
  | @right p p' q' m before second other _ ih =>
    intro i theirs
    have mine : m.task ≠ i := fun eq => other (eq ▸ theirs)
    rw [(Pool.step_tasks second).2 i mine]
    exact ih i theirs

/-- Two schedules of the same length executed side by side, as long as every pair
of states passes a check. -/
def playBoth (effect : (c : κ) → ρ c → σ → σ) (check : σ → σ → Bool) :
    List (Move ρ) → Pool σ π ρ α → Pool σ π ρ α → Option (Pool σ π ρ α × Pool σ π ρ α)
  | [], p, p' => some (p, p')
  | m :: moves, p, p' =>
    match p.step effect m, p'.step effect m with
    | some q, some q' => if check q.state q'.state then playBoth effect check moves q q' else none
    | none, none => playBoth effect check moves p p'
    | _, _ => none

theorem Beside.of_play {check : σ → σ → Bool} (sound : ∀ s t, check s t = true → E s t)
    (moves : List (Move ρ)) (before : Beside effect E them p₀ p₀' p p')
    (played : playBoth effect check moves p p' = some (q, q')) : Beside effect E them p₀ p₀' q q' := by
  induction moves generalizing p p' with
  | nil =>
    cases played
    exact before
  | cons m moves ih =>
    rw [playBoth] at played
    split at played
    next first second =>
      split at played
      next passes => exact ih (.both before first second (fun _ => rfl) (sound _ _ passes)) played
      next => cases played
    next => exact ih before played
    next => cases played

end

end Lib
