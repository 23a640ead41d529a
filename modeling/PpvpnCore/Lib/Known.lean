import Mathlib.Algebra.Order.Group.Multiset
import PpvpnCore.Lib.Debts

/-!
# What each task knows

Tasks over a shared state, each under a name of its own. A task may know
something of the state, as long as the steps of the others leave it true.

* `Known`: what holds of the state whoever moves, and what a task may know.
* `Does`: a task that knows something ends knowing what `Q` says; looked at
  alone.
* `Asks`: a condition on the answers, `Reaches.known`: whatever the schedule.
-/

namespace Lib

variable {σ π κ ι T : Type} {ρ : κ → Type} {α β : Type}

structure Known (σ : Type) {κ : Type} (ρ : κ → Type) (ι T : Type) where
  effect : (c : κ) → ρ c → σ → σ
  answers : (c : κ) → ρ c → σ → Prop
  inv : σ → Prop
  knows : ι → T → σ → Prop

/-- All that is known, by whom. -/
def Known.books (K : Known σ ρ ι T) : Books σ ρ (Multiset (ι × T)) where
  effect := K.effect
  answers := K.answers
  inv _ s all := K.inv s ∧ (all.map Prod.fst).Nodup ∧ ∀ own ∈ all, K.knows own.1 own.2 s

/-- The task `i`, that knows `x`, goes through `p` and ends as `Q` says. -/
def Does (K : Known σ ρ ι T) (i : ι) (p : Prog σ π ρ α) (Q : α → T → Prop) (x : T) : Prop :=
  Pays K.books p {(i, x)} fun a all => ∃ y, all = {(i, y)} ∧ Q a y

/-- A step of the task `i`, that knows `y` afterwards. -/
structure Known.Moves (K : Known σ ρ ι T) (i : ι) (y : T) (s t : σ) : Prop where
  inv : K.inv t
  mine : K.knows i y t
  others : ∀ j, j ≠ i → ∀ u, K.knows j u s → K.knows j u t

variable {K : Known σ ρ ι T} {i : ι} {x y : T} {s t : σ} {held held' : Bool}
  {rest : Multiset (ι × T)} {Q R : α → T → Prop}

theorem Known.knows_here (kept : K.books.inv held s ({(i, x)} + rest)) : K.knows i x s :=
  kept.2.2 (i, x) (Multiset.mem_add.mpr (.inl (Multiset.mem_singleton_self _)))

theorem Known.Moves.kept (moves : K.Moves i y s t) (kept : K.books.inv held s ({(i, x)} + rest)) :
    K.books.inv held' t ({(i, y)} + rest) := by
  obtain ⟨-, distinct, each⟩ := kept
  rw [Multiset.singleton_add, Multiset.map_cons, Multiset.nodup_cons] at distinct
  refine ⟨moves.inv, ?_, ?_⟩
  · rw [Multiset.singleton_add, Multiset.map_cons, Multiset.nodup_cons]
    exact distinct
  · intro own mem
    rcases Multiset.mem_add.mp mem with new | old
    · rw [Multiset.mem_singleton.mp new]
      exact moves.mine
    · have other : own.1 ≠ i := by
        intro same
        exact distinct.1 (Multiset.mem_map.mpr ⟨own, old, same⟩)
      exact moves.others own.1 other own.2 (each own (Multiset.mem_add.mpr (.inr old)))

theorem Known.Moves.refl (inv : K.inv s) (mine : K.knows i y s) : K.Moves i y s s :=
  ⟨inv, mine, fun _ _ _ knows => knows⟩

/-! ## One task -/

theorem does_pure {a : α} (post : Q a x) : Does K i (.ret a : Prog σ π ρ α) Q x := ⟨x, rfl, post⟩

theorem does_bind {p : Prog σ π ρ α} {k : α → Prog σ π ρ β} {Q : β → T → Prop}
    (spec : Does K i p (fun a y => Does K i (k a) Q y) x) : Does K i (p.bind k) Q x := by
  refine Pays.bind (spec.mono ?_)
  rintro a all ⟨y, rfl, later⟩
  exact later

theorem Does.mono {p : Prog σ π ρ α} (spec : Does K i p Q x) (weaker : ∀ a y, Q a y → R a y) :
    Does K i p R x := by
  refine Pays.mono spec ?_
  rintro a all ⟨y, rfl, post⟩
  exact ⟨y, rfl, weaker a y post⟩

theorem does_sec {place : π} {f : σ → σ} {k : σ → Prog σ π ρ α}
    (step : ∀ s, K.inv s → K.knows i x s → ∃ y, K.Moves i y s (f s) ∧ Does K i (k s) Q y) :
    Does K i (.sec place f k) Q x := by
  intro held s rest kept
  obtain ⟨y, moves, later⟩ := step s kept.1 (Known.knows_here kept)
  exact ⟨_, moves.kept kept, later⟩

theorem does_call {c : κ} {k : ρ c → Prog σ π ρ α}
    (step : ∀ s r, K.inv s → K.knows i x s → K.answers c r s →
      ∃ y, K.Moves i y s (K.effect c r s) ∧ Does K i (k r) Q y) :
    Does K i (.call c k) Q x := by
  intro held s rest r kept answer
  obtain ⟨y, moves, later⟩ := step s r kept.1 (Known.knows_here kept) answer
  exact ⟨_, moves.kept kept, later⟩

theorem does_ask {c : κ} {k : ρ c → Prog σ π ρ α}
    (step : ∀ s r, K.inv s → K.knows i x s → K.answers c r s →
      ∃ y, K.Moves i y s (K.effect c r s) ∧ Does K i (k r) Q y) :
    Does K i ((Prog.ask c).bind k) Q x :=
  does_call step

theorem does_get {place : π} {k : σ → Prog σ π ρ α}
    (step : ∀ s, K.inv s → K.knows i x s → ∃ y, K.knows i y s ∧ Does K i (k s) Q y) :
    Does K i ((Prog.get place).bind k) Q x := by
  refine does_sec fun s inv knows => ?_
  obtain ⟨y, knows', later⟩ := step s inv knows
  exact ⟨y, .refl inv knows', later⟩

/-! ## Every schedule -/

/-- What is asked of the answer to the call that a move answers. -/
def Asks (ok : (c : κ) → ρ c → σ → Prop) (p : Pool σ π ρ α) : Move ρ → Prop
  | .answer i oracle => match p.task i with
    | some (.call c _) => ok c (oracle c) p.state
    | _ => True
  | .go _ | .giveUp _ => True

instance Asks.decidable {ok : (c : κ) → ρ c → σ → Prop} [∀ c r s, Decidable (ok c r s)]
    (p : Pool σ π ρ α) : (m : Move ρ) → Decidable (Asks ok p m)
  | .go _ | .giveUp _ => isTrue trivial
  | .answer i oracle => match task : p.task i with
    | some (.call c _) => decidable_of_iff (ok c (oracle c) p.state) (by rw [Asks, task])
    | none => isTrue (by rw [Asks, task]; trivial)
    | some (.ret _) => isTrue (by rw [Asks, task]; trivial)
    | some (.sec _ _ _) => isTrue (by rw [Asks, task]; trivial)
    | some (.lock _ _) => isTrue (by rw [Asks, task]; trivial)
    | some (.unlock _) => isTrue (by rw [Asks, task]; trivial)

/-- An answer is of the type that its call says. -/
abbrev decideAt {β : Type} (P : β → Prop) [inst : ∀ b, Decidable (P b)] (b : β) : Decidable (P b) :=
  inst b

/-- A task, its name and what it knows at first. -/
structure Entry (σ π : Type) {κ : Type} (ρ : κ → Type) (ι T α : Type) where
  name : ι
  knows : T
  prog : Prog σ π ρ α

variable {entries : List (Entry σ π ρ ι T α)} {q q' : Pool σ π ρ α}

theorem Known.ledger (each : ∀ e ∈ entries, Does K e.name e.prog (fun _ _ => True) e.knows) :
    ∃ all : Multiset (ι × T), all = entries.map (fun e => (e.name, e.knows)) ∧
      Ledger K.books (fun _ _ => True) (entries.map fun e => { prog := e.prog }) all := by
  induction entries with
  | nil => exact ⟨0, rfl, .nil⟩
  | cons e entries ih =>
    obtain ⟨all, same, ledger⟩ := ih fun e' mem => each e' (List.mem_cons_of_mem _ mem)
    refine ⟨{(e.name, e.knows)} + all, ?_, ?_⟩
    · rw [same, Multiset.singleton_add, List.map_cons, Multiset.cons_coe]
    · have first := each e List.mem_cons_self
      exact .cons (Pays.mono first fun _ _ _ => trivial) ledger

theorem Known.balanced (each : ∀ e ∈ entries, Does K e.name e.prog (fun _ _ => True) e.knows)
    (distinct : (entries.map (·.name)).Nodup) (inv : K.inv q.state)
    (knows : ∀ e ∈ entries, K.knows e.name e.knows q.state)
    (tasks : q.tasks = entries.map fun e => { prog := e.prog }) :
    K.books.Balanced (fun _ _ => True) q := by
  obtain ⟨all, rfl, ledger⟩ := Known.ledger each
  refine ⟨_, tasks ▸ ledger, inv, ?_, ?_⟩
  · rw [Multiset.map_coe, List.map_map, Multiset.coe_nodup]
    exact distinct
  · intro own mem
    obtain ⟨e, here, rfl⟩ := List.mem_map.mp (Multiset.mem_coe.mp mem)
    exact knows e here

/-- In every pool reached by tasks under different names. -/
theorem Reaches.known
    (each : ∀ e ∈ entries, Does K e.name e.prog (fun _ _ => True) e.knows)
    (distinct : (entries.map (·.name)).Nodup) (inv : K.inv q.state)
    (knows : ∀ e ∈ entries, K.knows e.name e.knows q.state)
    (tasks : q.tasks = entries.map fun e => { prog := e.prog })
    (reached : Reaches K.effect (Asks K.answers) q q') : K.inv q'.state := by
  have balanced : K.books.Balanced (fun _ _ => True) q' := by
    refine Reaches.balanced (B := K.books) (Known.balanced each distinct inv knows tasks) ?_ reached
    intro p i oracle c k asks task
    rw [Asks, task] at asks
    exact asks
  obtain ⟨_, _, kept⟩ := balanced
  exact kept.1

end Lib
