import PpvpnCore.Service.Walk

/-!
# A stopped service

What `StopDataPlane` leaves.

* `stopped_stays_stopped`: a stopped service starts nothing.
-/

namespace PpvpnCore.Service

open Lib

variable {host : Host} {ops : List Op} {q : Pool World Unit Answer Reply}

/-- What every step keeps of a stopped service that no `Connect` outlived. -/
def StaysStopped (w : World) : Prop :=
  w.stopped = true → w.stopping = true ∧ (w.late = false →
    w.waiting = [] ∧ w.starting = none ∧ w.state = none ∧ w.AllDown)

theorem StaysStopped.same {s t : World} (stays : StaysStopped s) (stopped : t.stopped = s.stopped)
    (stopping : s.stopping = true → t.stopping = true) (late : t.late = s.late)
    (waiting : t.waiting = s.waiting) (starting : t.starting = s.starting)
    (state : s.state = none → t.state = none) (fixed : SameFixed s t) : StaysStopped t := by
  intro done
  obtain ⟨stops, rest⟩ := stays (stopped ▸ done)
  refine ⟨stopping stops, fun early => ?_⟩
  obtain ⟨nobody, none_, empty, down⟩ := rest (late ▸ early)
  refine ⟨waiting.trans nobody, starting.trans none_, state empty, fun key x found made => ?_⟩
  obtain ⟨y, found', eq⟩ := (fixed.at_iff (P := fun f => f = x.fixed)).mp ⟨x, found, rfl⟩
  have same : y.downs = x.downs := congrArg Fixed.downs eq
  rw [← same]
  exact down key y found' ((congrArg Fixed.made eq).trans made)

/-- A step that a service stopped in time cannot take. -/
theorem StaysStopped.never {s t : World} (stays : StaysStopped s) (stopped : t.stopped = s.stopped)
    (stopping : t.stopping = s.stopping) (late : t.late = s.late)
    (never : s.waiting = [] → s.starting = none → s.state = none → s.AllDown → False) :
    StaysStopped t := by
  intro done
  obtain ⟨stops, rest⟩ := stays (stopped ▸ done)
  refine ⟨stopping ▸ stops, fun early => ?_⟩
  obtain ⟨nobody, none_, empty, down⟩ := rest (late ▸ early)
  exact (never nobody none_ empty down).elim

theorem Step.staysStopped {ops : Nat → Op} {i : Nat} {mine : Bool} {s t : World}
    (sweeps : ∀ i, ops i ≠ .sweep) (step : Step ops i mine s t) (stays : StaysStopped s) :
    StaysStopped t := by
  cases step with
  | idle => exact stays
  | tick | closeAll | drop | api | land | missed | exit | begin =>
    exact stays.same rfl id rfl rfl rfl id fun _ => rfl
  | fail key reason op =>
    exact stays.same rfl id rfl rfl rfl id fun k => World.map_setInstance (fun _ => by rfl) s key k
  | stopping op => exact stays.same rfl (fun _ => rfl) rfl rfl rfl id fun _ => rfl
  | update flight applied own here alone owner =>
    exact stays.same rfl id rfl rfl rfl id
      fun k => World.map_setInstance (fun _ => by rfl) s flight.key k
  | letIn open_ =>
    intro done
    have stops := (stays done).1
    rw [open_] at stops
    cases stops
  | enter free waits =>
    refine stays.never rfl rfl rfl fun nobody _ _ _ => ?_
    rw [nobody] at waits
    cases waits
  | leave own =>
    refine stays.never rfl rfl rfl fun _ none_ _ _ => ?_
    rw [none_] at own
    cases own
  | asked empty down starts =>
    refine stays.never rfl rfl rfl fun _ none_ _ _ => ?_
    rw [none_] at starts
    exact starts.elim nofun (sweeps i)
  | launched key own empty down starts =>
    refine stays.never rfl rfl rfl fun _ none_ _ _ => ?_
    rw [none_] at starts
    exact starts.elim nofun (sweeps i)
  | stored key body revision own empty starts apart revised =>
    refine stays.never rfl rfl rfl fun _ none_ _ _ => ?_
    rw [none_] at starts
    cases starts
  | brought key applied starts own apart owner =>
    refine stays.never rfl rfl rfl fun _ none_ _ _ => ?_
    rw [none_] at starts
    cases starts
  | stopped reason core here may =>
    rw [s.stopCore_of here]
    exact stays.same rfl id rfl rfl rfl (fun _ => rfl) fun _ => rfl
  | shut key own empty =>
    refine stays.never rfl rfl rfl fun _ _ _ down => ?_
    obtain ⟨x, found, made, downs⟩ := own
    have gone := down key x found made
    omega
  | renew core here own =>
    exact stays.same rfl id rfl rfl rfl (fun empty => by simp [World.renew, World.setCore, empty])
      fun _ => rfl
  | record body revision core flight here own mine_ flies same alone revised =>
    exact stays.same rfl id rfl rfl rfl (fun empty => by simp [World.record, World.setCore, empty])
      fun _ => rfl
  | register session core here own same =>
    obtain ⟨hub, log, eq⟩ := s.register_frame session
    rw [eq]
    exact stays.same rfl id rfl rfl rfl id fun _ => rfl
  | stoppedForGood empty down starts stopping =>
    refine fun _ => ⟨stopping, fun early => ⟨?_, starts, empty, down⟩⟩
    have nobody : s.waiting = [] := by simpa using (Bool.or_eq_false_iff.mp early).2
    exact nobody

/-- Once the service was stopped nothing runs and nothing is created, unless a
`Connect` let in before it began to stop still waited for the lock when the
instance was stopped. -/
theorem stopped_stays_stopped (served : Served host ops q) (sweeps : .sweep ∉ ops) {i : Nat}
    {reply : Reply} (stops : ops[i]? = some .stopDataPlane) (returned : q.task i = some (.ret reply))
    (early : q.state.late = false) :
    q.state.state = none ∧ q.state.AllDown ∧
      ∀ j key k, q.task j ≠ some (.call (.launch key) k) := by
  have noSweep : ∀ j, opAt ops j ≠ .sweep := by
    intro j eq
    rw [opAt, List.getD_eq_getElem?_getD] at eq
    cases found : ops[j]? with
    | none => simp [found] at eq
    | some op =>
      rw [found, Option.getD_some] at eq
      exact sweeps (eq ▸ List.mem_of_getElem? found)
  have stays : StaysStopped q.state := served.invariant (by simp [StaysStopped]) (Step.staysStopped noSweep)
  have op : opAt ops i = .stopDataPlane := by
    rw [opAt, List.getD_eq_getElem?_getD, stops]
    rfl
  have done := (served.kept.ended returned).stopped op
  obtain ⟨-, none_, empty, down⟩ := (stays done).2 early
  refine ⟨empty, down, fun j key k here => ?_⟩
  obtain ⟨-, -, -, starts⟩ := served.kept.allowed here
  rw [none_] at starts
  exact starts.elim (by simp) (noSweep j)

/-- The current session is stopped, and a later `Connect` refused. -/
theorem stopped_stays_stopped_refused :
    let q := samplePlay [sampleConnect "a" false, .stopDataPlane, sampleConnect "a" false]
      (sampleTurn 0 20 ++ sampleTurn 1 20 ++ sampleTurn 2 20)
    q.state.instances.map (fun x => (x.made, x.downs)) = [(true, 1)] ∧ q.state.state = none ∧
      q.state.AllDown ∧ ∀ j key k, q.task j ≠ some (.call (.launch key) k) := by
  let ops := [sampleConnect "a" false, .stopDataPlane, sampleConnect "a" false]
  let moves := sampleTurn 0 20 ++ sampleTurn 1 20 ++ sampleTurn 2 20
  have ends : ((samplePlay ops moves).answered 1).isSome = true := by decide +kernel
  obtain ⟨reply, ends⟩ := Option.isSome_iff_exists.mp ends
  refine ⟨by decide +kernel, stopped_stays_stopped (samplePlay_served ops moves) ?_ (i := 1) rfl
    (Pool.task_of_answered ends) (by decide +kernel)⟩
  simp [ops, sampleConnect]

/-- A `Connect` is let in, the service stopped, and the `Connect` goes on. -/
theorem connect_after_stopped :
    ¬ ∀ (ops : List Op) (q : Pool World Unit Answer Reply), Served sampleHost ops q → .sweep ∉ ops →
      ∀ (i : Nat) (reply : Reply), ops[i]? = some .stopDataPlane → q.task i = some (.ret reply) →
        q.state.state = none := by
  intro all
  let ops := [sampleConnect "a" false, .stopDataPlane]
  let moves := sampleTurn 0 1 ++ sampleTurn 1 20 ++ sampleTurn 0 20
  have ends : ((samplePlay ops moves).answered 1).isSome = true := by decide +kernel
  have runs : (samplePlay ops moves).state.state.isSome = true := by decide +kernel
  obtain ⟨reply, ends⟩ := Option.isSome_iff_exists.mp ends
  have gone := all ops _ (samplePlay_served ops moves) (by simp [ops, sampleConnect]) 1 reply rfl
    (Pool.task_of_answered ends)
  rw [gone] at runs
  cases runs

end PpvpnCore.Service
