import PpvpnCore.Desktop.Loops

/-!
# An attempt, from its first step to its last

What a connect of enhanced mode leaves, whatever the loops do meanwhile: a
generation that is on and minded, or a failure with its reason.

* `shift`: what a transition of the current generation makes of a scene.
* `inside_stopLoops`, `inside_startLoops`: no loop of ours runs; all three do.
* `Trying`, `Failed`, `inside_connect`: an attempt.
-/

namespace PpvpnCore.Desktop.Enhanced

open Lib
open Client (SessionRef)

variable {α β : Type} {s : Scene} {g : UInt64}

/-- What a task with the operation lock ends with. -/
abbrev Inside (task : Task α) (Q : α → Scene → Prop) (s : Scene) : Prop :=
  wp discipline.env (watch task) Q s

/-! ## Rules -/

theorem inside_done {a : α} {Q : α → Scene → Prop} (post : ∀ t, Others s t → Good t → Q a t) :
    Inside (pure a) Q s :=
  post

theorem inside_bind {task : Task α} {k : α → Task β} {Q : β → Scene → Prop}
    (spec : Inside task (fun a => Inside (k a) Q) s) : Inside (task >>= k) Q s :=
  wp_noted_bind spec

theorem inside_mono {task : Task α} {Q R : α → Scene → Prop} (spec : Inside task Q s)
    (weaker : ∀ a t, Q a t → R a t) : Inside task R s :=
  wp_mono spec weaker

theorem inside_besides {task : Task α} {Q : α → Scene → Prop} (besides : Besides task)
    (post : ∀ a t, Others s t → Good t → Q a t) : Inside task Q s :=
  wp_steady besides post

theorem inside_step {place : Place} {f : State → α × State} {Q : α → Scene → Prop}
    (step : ∀ t, Others s t → Good t → Good (After place t (f t.1).2) ∧
      ∀ u, Others (After place t (f t.1).2) u → Good u → Q (f t.1).1 u) :
    Inside (Prog.step place f) Q s :=
  step

theorem inside_update {place : Place} {f : State → State} {Q : Unit → Scene → Prop}
    (step : ∀ t, Others s t → Good t → Good (After place t (f t.1)) ∧
      ∀ u, Others (After place t (f t.1)) u → Good u → Q () u) :
    Inside (Prog.update place f) Q s :=
  step

theorem inside_read {Q : State → Scene → Prop}
    (post : ∀ t, Others s t → Good t → ∀ u, Others t u → Good u → Q t.1 u) :
    Inside read Q s :=
  fun t others good => ⟨good, fun u later good' => post t others good u later good'⟩

theorem inside_ask {c : Call} {Q : Answer c → Scene → Prop}
    (post : ∀ r t, Others s t → answers c r t → Good t → Good (beside effect hear c r t) ∧
      ∀ u, Others (beside effect hear c r t) u → Good u → Q r u) : Inside (ask c) Q s :=
  fun t others good => ⟨trivial, fun r answer => post r t others answer good⟩

/-! ## Transitions -/

/-- The machine in another phase of its generation. -/
def Machine.moved (m : Machine) (phase : ConnectionPhase) (reason : Option ClientErrorInfo)
    (retryable : Bool) : Machine :=
  { m with
    phase, reason, retryable
    competitors := if phase = .error ∨ phase = .contended then m.competitors else [] }

/-- The machine of a scene becomes `m`, in a section that is allowed to. -/
def become (m : Machine) (s : Scene) : Scene :=
  ({ s.1 with data := { s.1.data with machine := m } }, s.2.noteMachine (machineOf s) m)

@[simp] theorem machineOf_become (m : Machine) (s : Scene) : machineOf (become m s) = m := rfl

/-- A machine that leaves `Off` does so in an operation that turns the mode on. -/
def Opens (s : Scene) : Prop :=
  (s.2.off = false ∧ s.2.quiet = false ∧ s.1.uninstalling = false) ∨ (machineOf s).phase ≠ .off

theorem Around.opens {t : Scene} (around : Around s t) (opens : Opens s) : Opens t := by
  rcases opens with ⟨off, quiet, idle⟩ | awake
  · refine .inl ⟨?_, around.quiet.trans quiet, around.uninstalling.trans idle⟩
    cases here : t.2.off with
    | false => rfl
    | true =>
      rcases around.off here with h | h | h
      · rw [off] at h
        cases h
      · rw [idle] at h
        cases h
      · rw [quiet] at h
        cases h
  · refine .inr ?_
    rcases around.phase with same | contended
    · rw [same]
      exact awake
    · rw [contended]
      exact fun h => by cases h

theorem Good.not_off (good : Good s) (opens : Opens s) (late : s.2.late = false)
    (relaunched : s.2.relaunched = false) : s.2.off = false := by
  rcases opens with ⟨off, -, -⟩ | awake
  · exact off
  · cases here : s.2.off with
    | false => rfl
    | true => exact absurd (good.off late relaunched here) awake

/-- The machine changes to one that is not off. -/
theorem Good.become (good : Good s) (opens : Opens s) {m : Machine} (awake : m.phase ≠ .off) :
    Good (become m s) where
  calm _ phase := absurd phase awake
  off late relaunched isOff := by
    have := good.not_off opens late relaunched
    rw [show s.2.off = true from isOff] at this
    cases this
  kept := good.kept
  ended := good.ended
  verdicts := good.verdicts
  budget := good.budget

/-- A section that may change the machine of the task's generation. -/
theorem inside_machine {by_ : Option UInt64} {f : State → α × State} {Q : α → Scene → Prop}
    (own : by_ = none ∨ by_ = some (machineOf s).generation)
    (step : ∀ t, Others s t → Good t → ∃ a m,
      f t.1 = (a, { t.1 with data := { t.1.data with machine := m } }) ∧ Good (become m t) ∧
        ∀ u, Others (become m t) u → Good u → Q a u) : Inside (Prog.step (.machine by_) f) Q s := by
  refine inside_step fun t others good => ?_
  obtain ⟨a, m, made, good', post⟩ := step t others good
  have spared : (by_.any fun g => trespasses g (machineOf t) m) = false := by
    rcases own with none_ | some_
    · rw [none_]
      rfl
    · rw [some_, ← others.generation]
      simp [trespasses]
  have eq : After (.machine by_) t (f t.1).2 = become m t := by
    rw [made]
    show ((_, { t.2.noteMachine (machineOf t) m with
      trespassed := t.2.trespassed || by_.any fun g => trespasses g (machineOf t) m }) : Scene) = _
    rw [spared, Bool.or_false]
    rfl
  rw [eq, made]
  exact ⟨good', post⟩

theorem transition_eq (m : Machine) (phase : ConnectionPhase) (reason : Option ClientErrorInfo)
    (retryable : Bool) : m.transition m.generation phase reason retryable =
      m.moved phase reason retryable := by
  rw [Machine.transition, if_neg (not_not.mpr rfl), Machine.moved]

/-- A transition of the current generation. -/
theorem inside_transition {by_ : Option UInt64} {phase : ConnectionPhase}
    {reason : Option ClientErrorInfo} {retryable : Bool} {Q : Bool → Scene → Prop}
    (own : by_ = none ∨ by_ = some g) (current : (machineOf s).generation = g)
    (good : ∀ t, Others s t → Good t → Good (become ((machineOf t).moved phase reason retryable) t))
    (post : ∀ t, Others s t → Good t →
      ∀ u, Others (become ((machineOf t).moved phase reason retryable) t) u → Good u → Q true u) :
    Inside (transition by_ g phase reason retryable) Q s := by
  subst current
  refine inside_bind (inside_machine own fun t others here => ?_)
  refine ⟨true, (machineOf t).moved phase reason retryable, ?_, good t others here, ?_⟩
  · rw [← others.generation, decide_eq_true rfl, transition_eq]
  intro u later _
  refine inside_bind (inside_besides besides_emit fun _ v last _ => ?_)
  exact inside_done fun w end_ good' => post t others here w ((later.trans last).trans end_) good'

/-! ## Stopping the loops -/

/-- Only loops are stopped, and their handles forgotten. -/
structure Trims (s t : Scene) : Prop where
  machine : machineOf t = machineOf s
  profile : t.1.data.profile = s.1.data.profile
  routing : t.1.data.routingReconnects = s.1.data.routingReconnects
  uninstalling : t.1.uninstalling = s.1.uninstalling
  alive : ∀ l, t.1.alive l = true → s.1.alive l = true
  verdicts : ∀ l, (t.1.table l).verdict = some .fallback → (s.1.table l).verdict = some .fallback
  past : t.2 = s.2

theorem Trims.around {t : Scene} (trims : Trims s t) : Around s t where
  machine := .inl trims.machine
  settled _ _ := trims.machine
  profile here := by rw [trims.profile]; exact here
  uninstalling := trims.uninstalling
  alive := trims.alive
  off := by rw [trims.past]; exact .inl
  quiet := by rw [trims.past]
  heard := by rw [trims.past]; exact fun _ => .inl
  now := by rw [trims.past]
  late := by rw [trims.past]; exact id
  early := by rw [trims.past]; exact id
  crossed := by rw [trims.past]
  exhausted := by rw [trims.past]
  relaunched := by rw [trims.past]

theorem Trims.good {t : Scene} (trims : Trims s t) (good : Good s) : Good t := by
  refine ⟨?_, ?_, ?_, ?_, fun l here => good.verdicts l (trims.verdicts l here), ?_⟩
  · rw [trims.past, trims.machine]
    exact fun relaunched phase => trims.around.stopped (good.calm relaunched phase)
  · rw [trims.past, trims.machine]
    exact good.off
  · rw [trims.past]
    exact good.kept
  · rw [trims.past]
    exact good.ended
  · rw [trims.past, trims.routing]
    exact good.budget

theorem abort_alive (status : LoopStatus) : status.abort.alive = false := by
  cases status <;> rfl

theorem abort_verdict (status : LoopStatus) : status.abort.verdict = none := by
  cases status <;> rfl

theorem State.abort_alive (s : State) (l l' : Loop) :
    (s.abort l).alive l' = if l' = l then false else s.alive l' := by
  rw [State.alive, State.abort, State.put_table]
  split
  next => exact Enhanced.abort_alive _
  next => rfl

theorem Trims.abort (s : Scene) (l : Loop) : Trims s (s.1.abort l, s.2) where
  machine := rfl
  profile := rfl
  routing := rfl
  uninstalling := rfl
  alive l' here := by
    rw [State.abort_alive] at here
    split at here
    next => cases here
    next => exact here
  verdicts l' here := by
    rw [State.abort, State.put_table] at here
    split at here
    next =>
      rw [abort_verdict] at here
      cases here
    next => exact here
  past := rfl

/-- No loop of ours runs, nor is one to be started for what runs. -/
structure Stopped (s : Scene) : Prop where
  alive : ∀ l, s.1.alive l = false
  none_ : s.1.data.loopsGeneration = none

theorem Stopped.others {t : Scene} (stopped : Stopped s) (others : Others s t) : Stopped t :=
  ⟨others.stopped stopped.alive, others.loopsGeneration.trans stopped.none_⟩

theorem inside_aborts {ls : List Loop} {Q : Unit → Scene → Prop}
    (listed : ∀ l, s.1.alive l = true → l ∈ ls) (none_ : s.1.data.loopsGeneration = none)
    (post : ∀ t, Around s t → Stopped t → Good t → Q () t) :
    Inside (Prog.forEach ls fun l => Prog.update .plain fun s => s.abort l) Q s := by
  induction ls generalizing s with
  | nil =>
    refine inside_done fun t others good => post t others.toAround (.others ⟨?_, none_⟩ others) good
    intro l
    cases here : s.1.alive l with
    | false => rfl
    | true => exact absurd (listed l here) List.not_mem_nil
  | cons l ls ih =>
    refine inside_bind (inside_update fun t others good => ?_)
    refine ⟨(Trims.abort t l).good good, fun u later _ => ih ?_ ?_ ?_⟩
    · intro l' here
      have aborted := later.alive l' here
      rw [State.abort_alive] at aborted
      split at aborted
      next => cases aborted
      next other =>
        rcases List.mem_cons.mp (listed l' (others.alive l' aborted)) with same | rest
        · exact absurd same other
        · exact rest
    · exact later.loopsGeneration.trans (others.loopsGeneration.trans none_)
    · intro v around stopped good'
      exact post v ((others.toAround.trans (Trims.abort t l).around).trans
        (later.toAround.trans around)) stopped good'

theorem inside_stopLoops {Q : Unit → Scene → Prop}
    (listed : ∀ l, s.1.alive l = true → l ∈ s.1.data.loops)
    (post : ∀ t, Around s t → Stopped t → Good t → Q () t) : Inside stopLoops Q s := by
  refine inside_bind (inside_step fun t others good => ?_)
  have trims : Trims t (After .plain t { t.1 with data := { t.1.data with
      loopsGeneration := none, loops := [] } }) := ⟨rfl, rfl, rfl, rfl, fun _ => id, fun _ => id, rfl⟩
  refine ⟨trims.good good, fun u later _ => inside_aborts ?_ later.loopsGeneration ?_⟩
  · intro l here
    rw [others.loops]
    exact listed l (others.alive l (later.alive l here))
  · intro v around stopped good'
    exact post v ((others.toAround.trans trims.around).trans (later.toAround.trans around)) stopped
      good'

/-! ## Starting the loops -/

/-- The generation's loops may be started. -/
structure Startable (g : UInt64) (s : Scene) : Prop where
  generation : (machineOf s).generation = g
  awake : (machineOf s).phase ≠ .off
  lit : Live s ∨ (machineOf s).phase = .contended
  idle : s.1.uninstalling = false
  listed : ∀ l, s.1.alive l = true → l ∈ s.1.data.loops
  stopped : s.1.data.loopsGeneration = none → ∀ l, s.1.alive l = false
  fresh : s.2.Careful → Stopped s ∧ g ∉ s.2.heard
  session : s.2.Careful → (machineOf s).session.isSome = true

/-- Its loops run. -/
structure Started (g : UInt64) (s : Scene) : Prop where
  generation : (machineOf s).generation = g
  awake : (machineOf s).phase ≠ .off
  lit : Live s ∨ (machineOf s).phase = .contended
  idle : s.1.uninstalling = false
  listed : ∀ l, s.1.alive l = true → l ∈ s.1.data.loops
  stopped : s.1.data.loopsGeneration = none → ∀ l, s.1.alive l = false
  guarded : Guarded s

theorem Around.awake {t : Scene} (around : Around s t) (awake : (machineOf s).phase ≠ .off) :
    (machineOf t).phase ≠ .off := by
  rcases around.phase with same | contended
  · rw [same]
    exact awake
  · rw [contended]
    exact fun h => by cases h

theorem Around.lit {t : Scene} (around : Around s t)
    (lit : Live s ∨ (machineOf s).phase = .contended) :
    Live t ∨ (machineOf t).phase = .contended := by
  rcases around.phase with same | contended
  · unfold Live at lit ⊢
    rw [same]
    exact lit
  · exact .inr contended

theorem Started.others {t : Scene} (started : Started g s) (others : Others s t) : Started g t where
  generation := others.generation.trans started.generation
  awake := others.awake started.awake
  lit := others.lit started.lit
  idle := others.uninstalling.trans started.idle
  listed l here := by
    rw [others.loops]
    exact started.listed l (others.alive l here)
  stopped none_ := others.stopped (started.stopped (others.loopsGeneration.symm.trans none_))
  guarded := others.guarded started.guarded

/-- The loops of the generation are being spawned: `new` were. -/
structure Spawning (g : UInt64) (new : List Loop) (s : Scene) : Prop where
  generation : (machineOf s).generation = g
  awake : (machineOf s).phase ≠ .off
  lit : Live s ∨ (machineOf s).phase = .contended
  idle : s.1.uninstalling = false
  claimed : s.1.data.loopsGeneration = some g
  listed : ∀ l, s.1.alive l = true → l ∈ s.1.data.loops ∨ l ∈ new
  few : s.2.Careful → ∀ l, s.1.alive l = true → l ∈ new

theorem Spawning.others {new : List Loop} {t : Scene} (spawning : Spawning g new s)
    (others : Others s t) : Spawning g new t where
  generation := others.generation.trans spawning.generation
  awake := others.awake spawning.awake
  lit := others.lit spawning.lit
  idle := others.uninstalling.trans spawning.idle
  claimed := others.loopsGeneration.trans spawning.claimed
  listed l here := by
    rw [others.loops]
    exact spawning.listed l (others.alive l here)
  few careful l here := spawning.few (others.careful careful) l (others.alive l here)

theorem Around.unheard {t : Scene} (around : Around s t) (stopped : ∀ l, s.1.alive l = false)
    (unheard : g ∉ s.2.heard) : g ∉ t.2.heard := by
  intro here
  rcases around.heard g here with before | ⟨l, alive, -⟩
  · exact unheard before
  · rw [stopped l] at alive
    cases alive

theorem Around.sessionOf {t : Scene} (around : Around s t) :
    (machineOf t).session = (machineOf s).session := by
  rw [Machine.session, Machine.session, around.session, around.generation]

/-- A loop of the kind is spawned. -/
abbrev withLoop (kind : LoopKind) (session : SessionRef) (s : Scene) : Scene :=
  ({ s.1.put ⟨s.1.nextTask, kind, session⟩ (.asleep none) with nextTask := s.1.nextTask + 1 }, s.2)

theorem withLoop_put (kind : LoopKind) (session : SessionRef) (s : Scene) :
    Put s.1 (withLoop kind session s).1 ⟨s.1.nextTask, kind, session⟩ (.asleep none) :=
  ⟨rfl, fun _ => .inl, fun _ => id⟩

theorem Good.spawns (good : Good s) (awake : (machineOf s).phase ≠ .off) (kind : LoopKind)
    (session : SessionRef) : Good (withLoop kind session s) where
  calm _ phase := absurd phase awake
  off := good.off
  kept := good.kept
  ended := good.ended
  verdicts l here := by
    rw [(withLoop_put kind session s).table, State.put_table] at here
    split at here
    next => cases here
    next => exact good.verdicts l here
  budget := good.budget

theorem Spawning.spawns {new : List Loop} (spawning : Spawning g new s) (kind : LoopKind)
    (session : SessionRef) :
    Spawning g (new ++ [⟨s.1.nextTask, kind, session⟩]) (withLoop kind session s) where
  generation := spawning.generation
  awake := spawning.awake
  lit := spawning.lit
  idle := spawning.idle
  claimed := spawning.claimed
  listed l here := by
    rw [(withLoop_put kind session s).alive] at here
    split at here
    next same => exact .inr (List.mem_append_right _ (List.mem_singleton.mpr same))
    next => exact (spawning.listed l here).imp_right (List.mem_append_left _)
  few careful l here := by
    rw [(withLoop_put kind session s).alive] at here
    split at here
    next same => exact List.mem_append_right _ (List.mem_singleton.mpr same)
    next => exact List.mem_append_left _ (spawning.few careful l here)

/-- Who minds the generation goes on when a loop is spawned. -/
theorem Guarded.spawns (guarded : Guarded s) (kind : LoopKind) (session : SessionRef)
    (fresh : s.2.Careful → kind = .watch →
      (s.1.table ⟨s.1.nextTask, kind, session⟩).verdict.isSome = false) :
    Guarded (withLoop kind session s) := by
  intro careful live
  have minded := guarded careful live
  refine ⟨(withLoop_put kind session s).cared minded.cared fun _ _ _ => .inl rfl, fun here => ?_⟩
  refine (withLoop_put kind session s).heeded (minded.heeded here) fun watch _ verdict => ?_
  rw [fresh careful watch] at verdict
  cases verdict

/-- A generation nothing of which was heard is minded once its lease loop is
spawned. -/
theorem Spawning.guarded (spawning : Spawning g [] s) (unheard : s.2.Careful → g ∉ s.2.heard)
    (session : SessionRef) (current : session.generation = g) :
    Guarded (withLoop .lease session s) := by
  intro careful _
  refine ⟨.inl ⟨⟨s.1.nextTask, .lease, session⟩, rfl, ?_, ?_⟩, fun here => ?_⟩
  · rw [current]
    exact spawning.generation.symm
  · rw [(withLoop_put .lease session s).alive, if_pos rfl]
    rfl
  · refine absurd here ?_
    rw [show (machineOf (withLoop .lease session s)).generation = g from spawning.generation]
    exact unheard careful

theorem Spawning.no_watch {new : List Loop} (spawning : Spawning g new s)
    (others : ∀ l ∈ new, l.kind ≠ .watch) (session : SessionRef) (careful : s.2.Careful) :
    (s.1.table ⟨s.1.nextTask, .watch, session⟩).verdict.isSome = false := by
  cases here : (s.1.table ⟨s.1.nextTask, .watch, session⟩).verdict.isSome with
  | false => rfl
  | true => exact absurd rfl (others _ (spawning.few careful _ (alive_of_verdict here)))

theorem inside_spawns {session : SessionRef} {Q : Unit → Scene → Prop}
    (spawning : Spawning g [] s) (unheard : s.2.Careful → g ∉ s.2.heard)
    (current : session.generation = g) (post : ∀ t, Started g t → Good t → Q () t) :
    Inside (do
      let lease ← spawnLoop .lease session
      let health ← spawnLoop .health session
      let watch ← spawnLoop .watch session
      withData .plain fun data => { data with loops := data.loops ++ [lease, health, watch] }) Q s := by
  refine inside_bind (inside_step fun t others good => ?_)
  have first := spawning.others others
  have unheard' : t.2.Careful → g ∉ t.2.heard := fun careful =>
    others.toAround.unheard (fun l => by
      cases here : s.1.alive l with
      | false => rfl
      | true => exact absurd (spawning.few (others.careful careful) l here) List.not_mem_nil)
      (unheard (others.careful careful))
  refine ⟨good.spawns first.awake .lease session, fun u later _ => ?_⟩
  have second := (first.spawns .lease session).others later
  have guarded := later.guarded (first.guarded unheard' session current)
  refine inside_bind (inside_step fun v others' good' => ?_)
  have second' := second.others others'
  refine ⟨good'.spawns second'.awake .health session, fun w later' _ => ?_⟩
  have third := (second'.spawns .health session).others later'
  have guarded' := later'.guarded ((others'.guarded guarded).spawns .health session
    fun _ here => by cases here)
  refine inside_bind (inside_step fun x others'' good'' => ?_)
  have third' := third.others others''
  refine ⟨good''.spawns third'.awake .watch session, fun y later'' _ => ?_⟩
  have last := (third'.spawns .watch session).others later''
  have guarded'' := later''.guarded ((others''.guarded guarded').spawns .watch session
    fun careful _ => third'.no_watch (by simp) session careful)
  refine inside_update fun z final good''' => ?_
  have last' := last.others final
  have trims : ∀ loops, Trims z ({ z.1 with data := { z.1.data with loops } }, z.2) :=
    fun _ => ⟨rfl, rfl, rfl, rfl, fun _ => id, fun _ => id, rfl⟩
  refine ⟨(trims _).good good''', fun end_ ends good'''' => post end_ (Started.others ?_ ends) good''''⟩
  exact {
    generation := last'.generation
    awake := last'.awake
    lit := last'.lit
    idle := last'.idle
    listed := fun l here => by
      rcases last'.listed l here with before | new
      · exact List.mem_append_left _ before
      · exact List.mem_append_right _ (by simpa using new)
    stopped := fun none_ => by
      have := last'.claimed.symm.trans none_
      cases this
    guarded := fun careful live => by
      obtain ⟨cared, heeded⟩ := final.guarded guarded'' careful live
      exact ⟨cared, heeded⟩ }

theorem inside_startLoops {Q : Unit → Scene → Prop} (startable : Startable g s)
    (post : ∀ t, Started g t → Good t → Q () t) : Inside (startLoops g) Q s := by
  refine inside_bind (inside_step fun t others good => ?_)
  by_cases already : t.1.data.loopsGeneration = some g
  · rw [if_pos already]
    refine ⟨good, fun u later _ => inside_done fun v last good' => ?_⟩
    refine post v (Started.others ?_ ((others.trans later).trans last)) good'
    exact {
      startable with
      guarded := fun careful _ => by
        have none_ := (startable.fresh careful).1.none_
        rw [← others.loopsGeneration, already] at none_
        cases none_ }
  · rw [if_neg already]
    have trims : Trims t (After .plain t { t.1 with data := { t.1.data with
        loopsGeneration := some g
        loops := t.1.data.loops.filter fun l => t.1.table l ≠ .gone } }) :=
      ⟨rfl, rfl, rfl, rfl, fun _ => id, fun _ => id, rfl⟩
    have around := others.toAround.trans trims.around
    have spawning : Spawning g [] (After .plain t { t.1 with data := { t.1.data with
        loopsGeneration := some g
        loops := t.1.data.loops.filter fun l => t.1.table l ≠ .gone } }) := {
      generation := others.generation.trans startable.generation
      awake := others.awake startable.awake
      lit := others.lit startable.lit
      idle := others.uninstalling.trans startable.idle
      claimed := rfl
      listed := fun l here => by
        refine .inl (List.mem_filter.mpr ⟨?_, ?_⟩)
        · rw [others.loops]
          exact startable.listed l (others.alive l here)
        · refine decide_eq_true fun gone => ?_
          have alive : t.1.alive l = true := here
          rw [State.alive, gone] at alive
          cases alive
      few := fun careful l here => by
        have stopped := (startable.fresh (others.careful careful)).1.alive l
        have alive := others.alive l here
        rw [stopped] at alive
        cases alive }
    refine ⟨trims.good good, fun u later _ => inside_bind (inside_read fun v others' good' w later' _ => ?_)⟩
    have around' := ((around.trans later.toAround).trans others'.toAround).trans later'.toAround
    have spawning' := ((spawning.others later).others others').others later'
    have session : v.1.data.machine.session = (machineOf s).session :=
      ((around.trans later.toAround).trans others'.toAround).sessionOf
    rw [session]
    cases found : (machineOf s).session with
    | none =>
      refine inside_done fun x last good'' => post x (Started.others ?_ last) good''
      exact {
        generation := spawning'.generation
        awake := spawning'.awake
        lit := spawning'.lit
        idle := spawning'.idle
        listed := fun l here => (spawning'.listed l here).resolve_right List.not_mem_nil
        stopped := fun none_ => by
          have := spawning'.claimed.symm.trans none_
          cases this
        guarded := fun careful _ => by
          have some_ := startable.session (around'.careful careful)
          rw [found] at some_
          cases some_ }
    | some session =>
      refine inside_spawns spawning' (fun careful => ?_) ?_ post
      · obtain ⟨stopped, unheard⟩ := startable.fresh (around'.careful careful)
        exact around'.unheard stopped.alive unheard
      · have current : session.generation = (machineOf s).generation := by
          rw [Machine.session] at found
          split at found
          next =>
            split at found
            next => cases found; rfl
            next => cases found
          next => cases found
        exact current.trans startable.generation

/-! ## An attempt -/

/-- The attempt of generation `g` is under way, and none of its loops runs. -/
structure Trying (g : UInt64) (s : Scene) : Prop where
  generation : (machineOf s).generation = g
  awake : (machineOf s).phase ≠ .off
  unlit : (machineOf s).phase ≠ .on
  idle : s.1.uninstalling = false
  stopped : Stopped s
  session : (machineOf s).session.isSome = true
  profile : s.1.data.profile.isSome = true
  unheard : g ∉ s.2.heard

theorem Around.unlit {t : Scene} (around : Around s t) (unlit : (machineOf s).phase ≠ .on) :
    (machineOf t).phase ≠ .on := by
  rcases around.phase with same | contended
  · rw [same]
    exact unlit
  · rw [contended]
    exact fun h => by cases h

theorem Trying.others {t : Scene} (trying : Trying g s) (others : Others s t) : Trying g t where
  generation := others.generation.trans trying.generation
  awake := others.awake trying.awake
  unlit := others.unlit trying.unlit
  idle := others.uninstalling.trans trying.idle
  stopped := trying.stopped.others others
  session := by
    rw [others.sessionOf]
    exact trying.session
  profile := others.profile trying.profile
  unheard := others.unheard trying.stopped.alive trying.unheard

/-- Another phase of the same attempt. -/
theorem Trying.become {m : Machine} (trying : Trying g s)
    (generation : m.generation = g) (sessionId : m.sessionId = (machineOf s).sessionId)
    (awake : m.phase ≠ .off) (unlit : m.phase ≠ .on) : Trying g (become m s) where
  generation := generation
  awake := awake
  unlit := unlit
  idle := trying.idle
  stopped := ⟨trying.stopped.alive, trying.stopped.none_⟩
  session := by
    have same : m.session = (machineOf s).session := by
      rw [Machine.session, Machine.session, sessionId, generation, trying.generation]
    rw [machineOf_become, same]
    exact trying.session
  profile := trying.profile
  unheard := by
    have same : m.generation = (machineOf s).generation := generation.trans trying.generation.symm
    show g ∉ (s.2.noteMachine (machineOf s) m).heard
    rw [Past.noteMachine, if_pos same]
    exact trying.unheard

/-- What a task in an attempt does lasts. -/
def Keeps (I : Scene → Prop) (task : Task α) : Prop :=
  ∀ s, I s → Inside task (fun _ t => I t) s

theorem keeps_besides {I : Scene → Prop} {task : Task α}
    (stable : ∀ s t, Others s t → I s → I t) (besides : Besides task) : Keeps I task :=
  fun s here => inside_besides besides fun _ t others _ => stable s t others here

theorem keeps_bind {I : Scene → Prop} {task : Task α} {k : α → Task β} (first : Keeps I task)
    (rest : ∀ a, Keeps I (k a)) : Keeps I (task >>= k) :=
  fun s here => inside_bind (inside_mono (first s here) fun a t => rest a t)

variable {by_ : Option UInt64} {phase : ConnectionPhase} {reason : Option ClientErrorInfo}
  {retryable : Bool}

theorem trying_besides {task : Task α} (besides : Besides task) : Keeps (Trying g) task :=
  keeps_besides (fun _ _ others trying => trying.others others) besides

/-- A transition in an attempt, and what the machine is like then. -/
theorem inside_shift {Q : Bool → Scene → Prop} (trying : Trying g s)
    (own : by_ = none ∨ by_ = some g) (awake : phase ≠ .off) (unlit : phase ≠ .on)
    (post : ∀ t u, Others s t → Others (become ((machineOf t).moved phase reason retryable) t) u →
      Trying g u → Q true u) : Inside (transition by_ g phase reason retryable) Q s := by
  refine inside_transition own trying.generation ?_ ?_
  · intro t others good
    exact good.become (others.opens (.inr trying.awake)) awake
  · intro t others good u later _
    refine post t u others later (Trying.others ?_ later)
    exact (trying.others others).become (others.generation.trans trying.generation) rfl awake unlit

theorem trying_transition (own : by_ = none ∨ by_ = some g) (awake : phase ≠ .off)
    (unlit : phase ≠ .on) : Keeps (Trying g) (transition by_ g phase reason retryable) :=
  fun _ trying => inside_shift trying own awake unlit fun _ _ _ _ here => here

theorem besides_install : Besides install := by
  refine besides_bind (besides_calm fun _ _ => rfl) fun installed => ?_
  cases (installed : Except PlatformError Unit) with
  | ok =>
    exact besides_bind (besides_calm fun _ _ => rfl) fun _ => besides_bind besides_refreshInstalled
      fun _ => besides_done
  | error e =>
    cases e with
    | cancelled => exact besides_done
    | failed message => exact besides_done

theorem besides_waitForService : Besides waitForService := besides_calm fun _ _ => rfl

theorem trying_replaceStaleService (expected : Option String) (own : by_ = none ∨ by_ = some g) :
    Keeps (Trying g) (replaceStaleService expected by_ g) := by
  refine keeps_bind (trying_besides besides_read) fun s => ?_
  split
  next => exact trying_besides besides_done
  next =>
    refine keeps_bind (trying_besides (besides_calm fun _ _ => rfl)) fun answer => ?_
    split
    next => exact trying_besides besides_done
    next =>
      refine keeps_bind (trying_besides ?_) fun _ => ?_
      · exact besides_update fun s _ => .of_data rfl rfl rfl rfl rfl
      refine keeps_bind (trying_transition own (fun h => by cases h) fun h => by cases h) fun _ => ?_
      refine keeps_bind (trying_besides besides_install) fun installed => ?_
      refine keeps_bind (trying_transition own (fun h => by cases h) fun h => by cases h) fun _ => ?_
      refine keeps_bind (trying_besides besides_waitForService) fun answering => ?_
      refine trying_besides ?_
      cases installed with
      | error info =>
        cases answering with
        | error info => exact besides_done
        | ok => exact besides_done
      | ok =>
        cases answering with
        | error info => exact besides_done
        | ok =>
          refine besides_bind (besides_calm fun _ _ => rfl) fun version => ?_
          refine besides_ite (fun _ => besides_done) fun _ => ?_
          refine besides_bind ?_ fun _ => besides_done
          exact besides_update fun s _ => .of_data rfl rfl rfl rfl rfl

theorem trying_installThenWait (own : by_ = none ∨ by_ = some g) :
    Keeps (Trying g) (installThenWait by_ g) := by
  refine keeps_bind (trying_transition own (fun h => by cases h) fun h => by cases h) fun _ => ?_
  refine keeps_bind (trying_besides besides_install) fun installed => ?_
  cases installed with
  | error info => exact trying_besides besides_done
  | ok =>
    refine keeps_bind (trying_transition own (fun h => by cases h) fun h => by cases h) fun _ => ?_
    exact trying_besides besides_waitForService

theorem trying_ensureService (expected : Option String) (own : by_ = none ∨ by_ = some g)
    (allowInstall : Bool) : Keeps (Trying g) (ensureService expected by_ g allowInstall) := by
  have installs : Keeps (Trying g) (installThenWait by_ g) := trying_installThenWait own
  refine keeps_bind (trying_besides besides_refreshInstalled) fun installed => ?_
  split
  next =>
    refine keeps_bind (trying_besides (besides_calm fun _ _ => rfl)) fun answer => ?_
    cases (answer : Option (Except ServiceError (Option String))) with
    | none =>
      dsimp only
      split
      next => exact trying_besides besides_done
      next => exact installs
    | some answer =>
      cases answer with
      | ok build =>
        dsimp only
        split
        next => exact trying_replaceStaleService expected own
        next => exact trying_besides besides_done
      | error error =>
        have other : Keeps (Trying g) (if !allowInstall then pure (.error error.info)
            else installThenWait by_ g) := by
          split
          next => exact trying_besides besides_done
          next => exact installs
        cases error with
        | rejected detail => exact trying_besides besides_done
        | protocol detail => exact trying_besides besides_done
        | unavailable detail => exact other
        | failed detail => exact other
  next =>
    split
    next => exact trying_besides besides_done
    next => exact installs

/-! ### A failed attempt -/

/-- An attempt that another is to follow: the service or the path was why. -/
structure Again (s : Scene) : Prop where
  phase : (machineOf s).phase = .reconnecting
  alone : (machineOf s).competitors = []
  reason : ∃ r, (machineOf s).reason = some r ∧ (isServiceDown r = true ∨ isPathCause r = true)

/-- The attempt of generation `g` failed; `retrying` says whether it may leave
the machine reconnecting. -/
structure Failed (g : UInt64) (retrying : Bool) (s : Scene) : Prop extends Trying g s where
  left : (machineOf s).phase = .error ∨ (machineOf s).phase = .contended ∨
    (retrying = true ∧ Again s)

theorem Failed.others {retrying : Bool} {t : Scene} (failed : Failed g retrying s)
    (others : Others s t) : Failed g retrying t where
  toTrying := failed.toTrying.others others
  left := by
    rcases others.machine with same | ⟨contended, -⟩
    · rcases failed.left with error | contended | ⟨may, again⟩
      · exact .inl (by rw [same]; exact error)
      · exact .inr (.inl (by rw [same]; exact contended))
      · refine .inr (.inr ⟨may, ?_, ?_, ?_⟩)
        · rw [same]
          exact again.phase
        · rw [same]
          exact again.alone
        · rw [same]
          exact again.reason
    · exact .inr (.inl contended)

theorem failed_besides {retrying : Bool} {task : Task α} (besides : Besides task) :
    Keeps (Failed g retrying) task :=
  keeps_besides (fun _ _ others failed => failed.others others) besides

/-- A transition that ends an attempt. -/
theorem inside_fails (retrying : Bool) {info : ClientErrorInfo} {Q : Bool → Scene → Prop}
    (trying : Trying g s) (own : by_ = none ∨ by_ = some g)
    (ends : phase = .error ∨ phase = .contended ∨ (phase = .reconnecting ∧ retrying = true ∧
      (isServiceDown info = true ∨ isPathCause info = true)))
    (post : ∀ u, Failed g retrying u → Q true u) :
    Inside (transition by_ g phase (some info) retryable) Q s := by
  have awake : phase ≠ .off := by
    rcases ends with rfl | rfl | ⟨rfl, -⟩ <;> exact fun h => by cases h
  have unlit : phase ≠ .on := by
    rcases ends with rfl | rfl | ⟨rfl, -⟩ <;> exact fun h => by cases h
  refine inside_shift trying own awake unlit fun t u others later here => post u ?_
  refine Failed.others ⟨?_, ?_⟩ later
  · exact (trying.others others).become (others.generation.trans trying.generation) rfl awake unlit
  · rcases ends with error | contended | ⟨again, may, why⟩
    · exact .inl error
    · exact .inr (.inl contended)
    · refine .inr (.inr ⟨may, again, ?_, info, rfl, why⟩)
      show (if phase = .error ∨ phase = .contended then _ else _) = _
      rw [if_neg (by rw [again]; simp)]

/-- How an attempt ends that got as far as a generation of its own. -/
def Settled (g : UInt64) (retrying : Bool) (result : Except ClientErrorInfo Unit) (s : Scene) : Prop :=
  match result with
  | .ok () => Free s ∧ ((machineOf s).phase = .on ∨ (machineOf s).phase = .contended)
  | .error _ => Failed g retrying s

theorem Settled.others {retrying : Bool} {result : Except ClientErrorInfo Unit} {t : Scene}
    (settled : Settled g retrying result s) (others : Others s t) : Settled g retrying result t := by
  cases result with
  | ok =>
    obtain ⟨free, phase⟩ := settled
    refine ⟨others.free free, ?_⟩
    rcases others.phase with same | contended
    · rw [same]
      exact phase
    · exact .inr contended
  | error info => exact Failed.others settled others

theorem inside_connectFailed {retrying : Bool} {session : SessionRef} (trying : Trying g s)
    (current : session.generation = g) (own : by_ = none ∨ by_ = some g) (info : ClientErrorInfo) :
    Inside (connectFailed by_ session retrying info retryable) (Settled g retrying) s := by
  refine inside_bind (inside_besides (besides_calm fun _ _ => rfl) fun _ t others _ => ?_)
  subst current
  refine inside_bind (inside_fails retrying (trying.others others) own ?_ fun u failed => ?_)
  · split
    next => exact .inr (.inl rfl)
    next =>
      split
      next why =>
        simp only [Bool.and_eq_true, Bool.or_eq_true] at why
        exact .inr (.inr ⟨rfl, why⟩)
      next => exact .inl rfl
  · exact inside_done fun v later _ => failed.others later

theorem besides_firstHealth (session : SessionRef) (revision : String) :
    Besides (firstHealth session revision) := by
  refine besides_bind (besides_calm fun _ _ => rfl) fun healthy => ?_
  cases (healthy : Except ClientErrorInfo Unit) with
  | ok => exact besides_done
  | error info =>
    refine besides_bind besides_read fun s => besides_ite (fun _ => ?_) fun _ => besides_done
    refine besides_bind (besides_calm fun _ _ => rfl) fun _ => ?_
    exact besides_bind (besides_calm fun _ _ => rfl) fun _ => besides_done

/-- The generation is on. -/
theorem inside_on (started : Started g s) (own : by_ = none ∨ by_ = some g) :
    Inside (transition by_ g .on reason retryable)
      (fun _ t => Free t ∧ ((machineOf t).phase = .on ∨ (machineOf t).phase = .contended)) s := by
  refine inside_transition own started.generation ?_ ?_
  · exact fun t others good =>
      good.become (others.opens (.inr started.awake)) fun here => by cases here
  intro t others _ u later _
  have started' := started.others others
  refine ⟨later.free ?_, ?_⟩
  · refine ⟨started'.idle, started'.listed, started'.stopped, (fun here => by cases here), ?_⟩
    intro careful _
    have before : t.2.Careful := by
      refine ⟨careful.early, ?_, careful.exhausted, careful.relaunched⟩
      exact (Bool.or_eq_false_iff.mp careful.crossed).1
    have uncontended : (machineOf t).phase ≠ .contended := by
      intro contended
      have crossed := careful.crossed
      simp only [become, Past.noteMachine, contended, Machine.moved] at crossed
      simp at crossed
    have live : Live t := started'.lit.resolve_right uncontended
    obtain ⟨cared, heeded⟩ := started'.guarded before live
    refine ⟨cared, fun here => heeded ?_⟩
    have same : (become ((machineOf t).moved .on reason retryable) t).2.heard = t.2.heard :=
      if_pos rfl
    rwa [same] at here
  · rcases later.phase with same | contended
    · exact .inl same
    · exact .inr contended

theorem inside_verify {profile : Profile} {retrying : Bool} {session : SessionRef}
    (trying : Trying g s) (lit : Live s ∨ (machineOf s).phase = .contended)
    (current : session.generation = g) (own : by_ = none ∨ by_ = some g) :
    Inside (verify by_ profile session retrying) (Settled g retrying) s := by
  refine inside_bind (inside_besides (besides_calm fun _ _ => rfl) fun answer t others _ => ?_)
  have trying' := trying.others others
  cases (answer : Except ServiceError ServiceStatus) with
  | error error => exact inside_connectFailed trying' current own _
  | ok status =>
    dsimp only
    split
    next => exact inside_connectFailed trying' current own _
    next =>
      refine inside_bind (inside_besides (besides_firstHealth session profile.revision)
        fun healthy u later _ => ?_)
      have trying'' := trying'.others later
      cases healthy with
      | error info => exact inside_connectFailed trying'' current own _
      | ok =>
        refine inside_bind (inside_besides (besides_update fun s _ =>
          .of_data rfl rfl rfl rfl rfl) fun _ v last _ => ?_)
        have last' := (others.trans later).trans last
        have ready := trying.others last'
        subst current
        refine inside_bind (inside_startLoops ?_ fun w started _ => ?_)
        · exact {
            generation := ready.generation
            awake := ready.awake
            lit := last'.lit lit
            idle := ready.idle
            listed := fun l here => by
              rw [ready.stopped.alive l] at here
              cases here
            stopped := fun _ => ready.stopped.alive
            fresh := fun _ => ⟨ready.stopped, ready.unheard⟩
            session := fun _ => ready.session }
        · refine inside_bind (inside_mono (inside_on started own) fun _ x on => ?_)
          have settled : Settled session.generation retrying (.ok ()) x := on
          exact inside_done fun y end_ _ => settled.others end_

theorem inside_bringUp {profile : Profile} {takeOver retrying : Bool} {session : SessionRef}
    (trying : Trying g s) (current : session.generation = g) (own : by_ = none ∨ by_ = some g) :
    Inside (bringUp by_ profile session takeOver retrying) (Settled g retrying) s := by
  subst current
  refine inside_bind (inside_shift trying own (fun h => by cases h) (fun h => by cases h)
    fun t u _ later here => ?_)
  have lit : Live u ∨ (machineOf u).phase = .contended := later.lit (.inl (.inr rfl))
  refine inside_bind (inside_besides (besides_calm fun _ _ => rfl) fun connected v last _ => ?_)
  cases (connected : Except ServiceError Unit) with
  | error error => exact inside_connectFailed (here.others last) rfl own _
  | ok => exact inside_verify (here.others last) (last.lit lit) rfl own

theorem inside_preflightConflict {retrying : Bool} (trying : Trying g s)
    (own : by_ = none ∨ by_ = some g) (competitors : List String) :
    Inside (preflightConflict by_ g competitors) (Settled g retrying) s := by
  obtain rfl := trying.generation
  refine inside_bind (inside_machine own fun t others good => ?_)
  have trying' := trying.others others
  refine ⟨true, { (machineOf t).moved .error (some ⟨.networkPathContended,
    "PREFLIGHT_CONFLICT: " ++ ", ".intercalate competitors⟩) true with competitors }, ?_,
    good.become (.inr trying'.awake) (fun here => by cases here), fun u later _ => ?_⟩
  · simp only [← others.generation, transition_eq, decide_true, if_true]
  have failed : Failed (machineOf s).generation retrying u := by
    refine Failed.others ⟨?_, .inl rfl⟩ later
    exact trying'.become trying'.generation rfl (fun here => by cases here) fun here => by cases here
  refine inside_bind (inside_besides besides_emit fun _ v last _ => ?_)
  exact inside_done fun w end_ _ => failed.others (last.trans end_)

theorem Failed.undesired {retrying : Bool} (failed : Failed g retrying s) :
    Failed g retrying (become { machineOf s with desiredOn := false } s) := by
  refine ⟨failed.toTrying.become failed.generation rfl failed.awake failed.unlit, ?_⟩
  rcases failed.left with error | contended | ⟨may, why⟩
  · exact .inl error
  · exact .inr (.inl contended)
  · exact .inr (.inr ⟨may, ⟨why.phase, why.alone, why.reason⟩⟩)

theorem inside_serviceMissing {retrying : Bool} (trying : Trying g s)
    (own : by_ = none ∨ by_ = some g) (info : ClientErrorInfo) :
    Inside (serviceMissing by_ g retrying info) (Settled g retrying) s := by
  refine inside_bind (inside_fails retrying trying own ?_ fun t failed => ?_)
  · split
    next why =>
      rw [Bool.and_eq_true] at why
      exact .inr (.inr ⟨rfl, why.1, .inl why.2⟩)
    next => exact .inl rfl
  have ends : ∀ u, Failed g retrying u →
      Inside (pure (.error info) : Task (Except ClientErrorInfo Unit)) (Settled g retrying) u :=
    fun u failed => inside_done fun v others _ => failed.others others
  split
  next =>
    obtain rfl := failed.generation
    refine inside_bind (inside_machine own fun u others good => ?_)
    have failed' := failed.others others
    refine ⟨some (Persisted.of { machineOf u with desiredOn := false }),
      { machineOf u with desiredOn := false }, ?_,
      good.become (.inr failed'.awake) failed'.awake, fun v later _ => ?_⟩
    · rw [if_pos others.generation]
    · refine inside_bind (inside_besides (besides_persist _) fun _ w last _ => ends w ?_)
      exact failed'.undesired.others (later.trans last)
  next => exact ends t failed

theorem inside_attempt (expected : Option String) {profile : Profile} {session : SessionRef}
    {persisted : Persisted} {allowInstall takeOver retrying : Bool} (trying : Trying g s)
    (current : session.generation = g) (own : by_ = none ∨ by_ = some g) :
    Inside (attempt expected by_ profile session persisted allowInstall takeOver retrying)
      (Settled g retrying) s := by
  subst current
  refine inside_bind (inside_besides (besides_persist _) fun _ t others _ => ?_)
  refine inside_bind (inside_besides besides_emit fun _ u later _ => ?_)
  refine inside_bind (inside_besides (besides_calm fun _ _ => rfl) fun conflict v last _ => ?_)
  have trying' := trying.others ((others.trans later).trans last)
  cases (conflict : Option (List String)) with
  | some competitors => exact inside_preflightConflict trying' own competitors
  | none =>
    refine inside_bind (inside_mono (trying_ensureService expected own allowInstall v trying')
      fun ensured w trying'' => ?_)
    cases ensured with
    | error info => exact inside_serviceMissing trying'' own info
    | ok => exact inside_bringUp trying'' rfl own

/-! ### The whole of it -/

/-- A machine that does not change but for loops that report takeovers. -/
structure Resting (s : Scene) : Prop where
  free : Free s
  awake : (machineOf s).phase ≠ .off
  unlit : (machineOf s).phase ≠ .on
  profile : s.1.data.profile.isSome = true

theorem Trying.resting (trying : Trying g s) : Resting s where
  free := {
    idle := trying.idle
    listed := fun l here => by
      rw [trying.stopped.alive l] at here
      cases here
    stopped := fun _ => trying.stopped.alive
    profile := fun _ => trying.profile
    sound := fun _ on => absurd on trying.unlit }
  awake := trying.awake
  unlit := trying.unlit
  profile := trying.profile

theorem Resting.others {t : Scene} (resting : Resting s) (others : Others s t) : Resting t where
  free := others.free resting.free
  awake := others.awake resting.awake
  unlit := others.unlit resting.unlit
  profile := others.profile resting.profile

/-- How a connect ends that found the scene as `s`. -/
structure Connected (retrying : Bool) (s : Scene) (result : Except ClientErrorInfo Unit) (t : Scene) :
    Prop where
  free : Free t
  on : result = .ok () → (machineOf t).phase = .on ∨ (machineOf t).phase = .contended
  failed : result ≠ .ok () → Resting s →
    Resting t ∧ (t.2.exhausted = false → ∃ g, Failed g retrying t)

theorem Connected.others {retrying : Bool} {result : Except ClientErrorInfo Unit} {t u : Scene}
    (connected : Connected retrying s result t) (others : Others t u) :
    Connected retrying s result u where
  free := others.free connected.free
  on ok := by
    rcases others.phase with same | contended
    · rw [same]
      exact connected.on ok
    · exact .inr contended
  failed error resting := by
    obtain ⟨resting', failed⟩ := connected.failed error resting
    refine ⟨resting'.others others, fun here => ?_⟩
    obtain ⟨g, failed⟩ := failed (others.exhausted.symm.trans here)
    exact ⟨g, failed.others others⟩

theorem Settled.connected {retrying : Bool} {result : Except ClientErrorInfo Unit} {t : Scene}
    (settled : Settled g retrying result t) : Connected retrying s result t := by
  cases result with
  | ok => exact ⟨settled.1, fun _ => settled.2, fun error => absurd rfl error⟩
  | error info =>
    have failed : Failed g retrying t := settled
    exact ⟨failed.toTrying.resting.free, (fun ok => by cases ok),
      fun _ _ => ⟨failed.toTrying.resting, fun _ => ⟨g, failed⟩⟩⟩

/-- The generation after the current one. -/
theorem next_generation {g g' : UInt64} (next : Machine.nextGeneration g = some g') :
    g' ≠ g ∧ 0 < g' := by
  unfold Machine.nextGeneration at next
  split at next
  next small =>
    cases next
    have toNat : (g + 1).toNat = g.toNat + 1 := by
      rw [UInt64.toNat_add]
      exact Nat.mod_eq_of_lt small
    refine ⟨fun same => ?_, UInt64.lt_iff_toNat_lt.mpr ?_⟩
    · rw [same] at toNat
      omega
    · rw [toNat]
      exact Nat.succ_pos _
  next => cases next

/-- The machine before the attempt, its loops stopped. -/
structure Begins (s : Scene) : Prop where
  opens : Opens s
  idle : s.1.uninstalling = false
  stopped : Stopped s
  profile : s.1.data.profile.isSome = true
  spent : Machine.nextGeneration (machineOf s).generation = none → s.2.exhausted = true

theorem Begins.others {t : Scene} (begins : Begins s) (others : Others s t) : Begins t where
  opens := others.opens begins.opens
  idle := others.uninstalling.trans begins.idle
  stopped := begins.stopped.others others
  profile := others.profile begins.profile
  spent none_ := by
    rw [others.generation] at none_
    exact others.exhausted.trans (begins.spent none_)

/-- There is no next generation: nothing changed but for the loops. -/
structure Spent (s t : Scene) : Prop where
  idle : t.1.uninstalling = false
  stopped : Stopped t
  profile : t.1.data.profile.isSome = true
  exhausted : t.2.exhausted = true
  phase : (machineOf t).phase = (machineOf s).phase ∨ (machineOf t).phase = .contended

theorem Spent.others {t u : Scene} (spent : Spent s t) (others : Others t u) : Spent s u where
  idle := others.uninstalling.trans spent.idle
  stopped := spent.stopped.others others
  profile := others.profile spent.profile
  exhausted := others.exhausted.trans spent.exhausted
  phase := by
    rcases others.phase with same | contended
    · rw [same]
      exact spent.phase
    · exact .inr contended

theorem Spent.connected {retrying : Bool} {info : ClientErrorInfo} {t : Scene}
    (spent : Spent s t) : Connected retrying s (.error info) t := by
  have free : Free t := {
    idle := spent.idle
    listed := fun l here => by
      rw [spent.stopped.alive l] at here
      cases here
    stopped := fun _ => spent.stopped.alive
    profile := fun _ => spent.profile
    sound := fun careful => by
      have := careful.exhausted
      rw [spent.exhausted] at this
      cases this }
  refine ⟨free, (fun ok => by cases ok), fun _ resting => ⟨⟨free, ?_, ?_, spent.profile⟩, ?_⟩⟩
  · rcases spent.phase with same | contended
    · rw [same]
      exact resting.awake
    · rw [contended]
      exact fun here => by cases here
  · rcases spent.phase with same | contended
    · rw [same]
      exact resting.unlit
    · rw [contended]
      exact fun here => by cases here
  · intro here
    rw [spent.exhausted] at here
    cases here

/-- A fresh session, and the next generation. -/
theorem Begins.trying (begins : Begins s) {m : Machine} {revision sessionId : String}
    {session : SessionRef} (named : sessionId ≠ "")
    (begun : (machineOf s).beginConnect revision sessionId = .ok (session, m)) :
    Trying session.generation (become m s) ∧ m.phase = .preparing := by
  unfold Machine.beginConnect at begun
  split at begun
  next => cases begun
  next g next_ =>
    cases begun
    obtain ⟨fresh, positive⟩ := next_generation next_
    refine ⟨⟨rfl, (fun h => by cases h), (fun h => by cases h), begins.idle,
      ⟨begins.stopped.alive, begins.stopped.none_⟩, ?_, begins.profile, ?_⟩, rfl⟩
    · simp [machineOf, become, Machine.session, named, positive]
    · show g ∉ (s.2.noteMachine (machineOf s) _).heard
      rw [Past.noteMachine, if_neg fresh]
      simp

theorem Good.unchanged (good : Good s) : Good (Enhanced.become (machineOf s) s) :=
  ⟨good.calm, good.off, good.kept, good.ended, good.verdicts, good.budget⟩

theorem inside_connectAs (expected : Option String) {profile : Profile} {sessionId : String}
    {allowInstall takeOver retrying : Bool} {before : Scene} (begins : Begins s)
    (phase : (machineOf s).phase = (machineOf before).phase ∨ (machineOf s).phase = .contended)
    (named : sessionId ≠ "") (own : by_ = none ∨ by_ = some (machineOf s).generation) :
    Inside (connectAs expected by_ profile sessionId allowInstall takeOver retrying)
      (Connected retrying before) s := by
  refine inside_bind (inside_machine own fun t others good => ?_)
  have begins' := begins.others others
  cases begun : (machineOf t).beginConnect profile.revision sessionId with
  | error info =>
    refine ⟨.error info, machineOf t, rfl, good.unchanged, fun u later _ => ?_⟩
    have spent : Spent before (become (machineOf t) t) := {
      idle := begins'.idle
      stopped := ⟨begins'.stopped.alive, begins'.stopped.none_⟩
      profile := begins'.profile
      exhausted := begins'.spent (by
        unfold Machine.beginConnect at begun
        split at begun
        next none_ => exact none_
        next => cases begun)
      phase := by
        rcases others.phase with same | contended
        · rw [machineOf_become, same]
          exact phase
        · exact .inr contended }
    exact inside_done fun v last _ => (spent.others (later.trans last)).connected
  | ok next_ =>
    obtain ⟨session, m⟩ := next_
    obtain ⟨trying, preparing⟩ := begins'.trying named begun
    refine ⟨.ok (session, Persisted.of m), m, rfl, ?_, fun u later _ => ?_⟩
    · exact good.become begins'.opens (by rw [preparing]; exact fun here => by cases here)
    refine inside_mono (inside_attempt expected (trying.others later) rfl ?_)
      fun result v settled => settled.connected
    cases by_ with
    | none => exact .inl rfl
    | some g => exact .inr rfl

/-- One connection attempt. -/
theorem inside_connect (expected : Option String) (allowInstall takeOver retrying : Bool)
    (free : Free s) (opens : Opens s) (own : by_ = none ∨ by_ = some (machineOf s).generation) :
    Inside (connect expected by_ allowInstall takeOver retrying) (Connected retrying s) s := by
  refine inside_bind (inside_step fun t others good => ?_)
  have free' := others.free free
  have good' : Good (After .attempt t t.1) := by
    refine ⟨good.calm, good.off, good.kept, fun here => ?_, good.verdicts, good.budget⟩
    exact good.ended (Bool.or_eq_false_iff.mp here).1
  refine ⟨good', fun u later _ => ?_⟩
  cases profile : t.1.data.profile with
  | none =>
    have same : After .attempt t t.1 = t := by
      simp [After, note, profile]
    rw [same] at later
    refine inside_done fun v last _ => ?_
    have others' := (others.trans later).trans last
    refine ⟨others'.free free, (fun ok => by cases ok), fun _ resting => ?_⟩
    have some_ := others.profile resting.profile
    rw [profile] at some_
    cases some_
  | some found =>
    have listed : ∀ l, u.1.alive l = true → l ∈ u.1.data.loops := by
      intro l here
      rw [later.loops]
      exact free'.listed l (later.alive l here)
    refine inside_bind (inside_stopLoops listed fun v around stopped _ => ?_)
    refine inside_bind (inside_ask fun sessionId w others' named good'' => ⟨good'', fun x last _ => ?_⟩)
    have around' : Around (After .attempt t t.1) x :=
      later.toAround.trans (around.trans (others'.toAround.trans last.toAround))
    have generation : (machineOf x).generation = (machineOf s).generation :=
      around'.generation.trans others.generation
    refine inside_connectAs expected ?_ ?_ named ?_
    · exact {
        opens := around'.opens (others.opens opens)
        idle := around'.uninstalling.trans free'.idle
        stopped := (stopped.others others').others last
        profile := around'.profile (by rw [profile]; rfl)
        spent := fun none_ => by
          rw [around'.exhausted]
          have before := around'.generation.symm ▸ none_
          simp only [note, profile, Option.isSome_some, Bool.true_and]
          rw [before]
          simp }
    · rcases around'.phase with same | contended
      · rw [same]
        exact others.phase
      · exact .inr contended
    · rw [generation]
      exact own

end PpvpnCore.Desktop.Enhanced
