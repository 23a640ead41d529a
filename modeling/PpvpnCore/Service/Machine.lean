import PpvpnCore.Service.Core

/-!
# The service as a machine

What a task of the service may do in one step, and when. `Step` gathers every
change any task makes to the world, each with what is known when it is made;
`machine` is the machine of these steps. What the results need of the service
is read off `Step`; that the tasks keep to it is said once, in `Walk`.

* `Clean`: what holds while nobody has the lock.
* `Held`: what the others leave to the task that has the lock.
* `Later`: what they leave to a task without it.
-/

namespace PpvpnCore.Service

open Lib

/-- The caller of a request. -/
def Op.user : Op → Option String
  | .connect user _ | .updateProfile user _ | .renewLease user _ | .disconnect user _
  | .coreApi user _ | .watch user _ | .getStatus user => user
  | _ => none

/-- Whether the task may stop the instance. -/
def Op.mayStop (op : Op) (w : World) (core : RunningCore) : Prop :=
  op = .stopDataPlane ∨ w.live core = false ∨ core.ownerUser = op.user

namespace World

/-- The instance `key` as it stands. -/
def At (w : World) (key : Nat) (P : Instance → Prop) : Prop :=
  ∃ instance_, w.instances[key]? = some instance_ ∧ P instance_

/-- Every instance there ever was is gone. -/
def AllDown (w : World) : Prop :=
  ∀ (key : Nat) (instance_ : Instance), w.instances[key]? = some instance_ →
    instance_.made = true → instance_.downs = 1

def runs (w : World) (key : Nat) : Option Applied := (w.instances[key]?).bind (·.runs)

/-- Something happened that the recorded profile does not follow. -/
def raced (w : World) : Bool := w.overlapped || w.missed || w.bypassed

/-- The instance runs what is recorded of it. -/
def Matches (w : World) (core : RunningCore) : Prop := w.runs core.key = some core.applied

end World

/-- The revision is the profile's own. -/
def Revised (profile : Value) (revision : String) : Prop :=
  ∃ schema, checkProfile profile = .ok (revision, schema)

/-- One step of task `i`, with the lock or without. -/
inductive Step (ops : Nat → Op) (i : Nat) : Bool → World → World → Prop
  | idle {mine : Bool} {w : World} : Step ops i mine w w
  | tick {mine : Bool} {w : World} (now epoch : Nat) (op : ops i = .tick now epoch) :
      Step ops i mine w (w.tick now epoch)
  | fail {mine : Bool} {w : World} (key : Nat) (reason : String) (op : ops i = .fail key reason) :
      Step ops i mine w (w.fail key reason)
  | stopping {mine : Bool} {w : World} (op : ops i = .stopDataPlane) :
      Step ops i mine w { w with stopping := true }
  | closeAll {mine : Bool} {w : World} (op : ops i = .stopDataPlane) : Step ops i mine w w.closeAll
  | drop {mine : Bool} {w : World} (id : Nat) :
      Step ops i mine w { w with hub := w.hub.drop id, log := w.log ++ [.dropped id] }
  | api {mine : Bool} {w : World} (path : String) :
      Step ops i mine w { w with bypassed := w.bypassed || path = applyPath }
  /-- An update's `apply-profile` took effect. -/
  | update {mine : Bool} {w : World} (flight : Flight) (applied : Applied)
      (own : flight.task = i) (here : flight ∈ w.flights)
      (alone : w.overlapped = false → w.flights = [flight])
      (owner : w.At flight.key (·.owner = (ops i).user)) :
      Step ops i mine w (w.setInstance flight.key ({ · with runs := some applied }))
  | land {mine : Bool} {w : World}
      (right : w.raced = false → ∀ core, w.state = some core →
        (∃ flight ∈ w.flights, flight.task = i ∧ flight.id = core.id) → w.Matches core) :
      Step ops i mine w (w.landed i)
  | letIn {w : World} (open_ : w.stopping = false) :
      Step ops i false w { w with waiting := w.waiting ++ [i] }
  | missed {w : World} : Step ops i true w { w with missed := true }
  | exit {w : World} : Step ops i true w { w with exited := true }
  | enter {w : World} (free : w.starting = none) (waits : i ∈ w.waiting) :
      Step ops i true w (w.enter i)
  | leave {w : World} (own : w.starting = some i) : Step ops i true w w.leave
  | asked {w : World} (empty : w.state = none) (down : w.AllDown)
      (starts : w.starting = some i ∨ ops i = .sweep) :
      Step ops i true w (w.asked i (ops i).user).2
  | launched {w : World} (key : Nat)
      (own : w.At key fun instance_ => instance_.task = i ∧ instance_.made = false ∧
        instance_.downs = 0)
      (empty : w.state = none) (down : w.AllDown) (starts : w.starting = some i ∨ ops i = .sweep) :
      Step ops i true w (w.setInstance key ({ · with made := true }))
  | stored {w : World} (key : Nat) (body : ConnectPayload) (revision : String)
      (own : w.At key fun instance_ => instance_.task = i ∧ instance_.made = true ∧
        instance_.downs = 0 ∧ instance_.owner = (ops i).user)
      (empty : w.state = none) (starts : w.starting = some i)
      (apart : ∀ flight ∈ w.flights, flight.key ≠ key) (revised : Revised body.profile revision) :
      Step ops i true w (w.store key body revision (ops i).user)
  /-- The first profile of a new instance took effect. -/
  | brought {w : World} (key : Nat) (applied : Applied) (starts : w.starting = some i)
      (own : w.At key (·.task = i)) (apart : ∀ flight ∈ w.flights, flight.key ≠ key)
      (owner : w.At key (·.owner = (ops i).user)) :
      Step ops i true w (w.setInstance key ({ · with runs := some applied }))
  | stopped {w : World} (reason : String) (core : RunningCore) (here : w.state = some core)
      (may : (ops i).mayStop w core) : Step ops i true w (w.stopCore reason).2
  | shut {w : World} (key : Nat)
      (own : w.At key fun instance_ => instance_.made = true ∧ instance_.downs = 0)
      (empty : w.state = none) :
      Step ops i true w (w.setInstance key fun instance_ =>
        { instance_ with downs := instance_.downs + 1 })
  | renew {w : World} (core : RunningCore) (here : w.state = some core)
      (own : sameUser core.ownerUser (ops i).user = true) : Step ops i true w w.renew
  | record {w : World} (body : UpdateProfilePayload) (revision : String) (core : RunningCore)
      (flight : Flight) (here : w.state = some core)
      (own : sameUser core.ownerUser (ops i).user = true) (mine : flight.task = i)
      (flies : flight ∈ w.flights) (same : flight.id = core.id)
      (alone : w.overlapped = false → w.flights = [flight])
      (revised : Revised body.profile revision) : Step ops i true w (w.record body revision)
  | register {w : World} (session : SessionRef) (core : RunningCore) (here : w.state = some core)
      (own : sameUser core.ownerUser (ops i).user = true) (same : core.session = session) :
      Step ops i true w (w.register session).2
  | begin {w : World} (core : RunningCore) (here : w.state = some core)
      (own : sameUser core.ownerUser (ops i).user = true) :
      Step ops i true w { w with
        flights := w.flights ++ [⟨i, core.id, core.key⟩]
        overlapped := w.overlapped || !w.flights.isEmpty }
  | stoppedForGood {w : World} (empty : w.state = none) (down : w.AllDown)
      (starts : w.starting = none) (stopping : w.stopping = true) :
      Step ops i true w w.stoppedForGood

/-- Nothing is left of the instances but the current one. -/
structure Sound (w : World) : Prop where
  down : ∀ key, w.At key (·.made = true) →
    (∃ core, w.state = some core ∧ core.key = key) ∨ w.At key (·.downs = 1)
  current : ∀ core, w.state = some core → core.id = w.launched ∧
    (w.At core.key fun instance_ => instance_.made = true ∧ instance_.downs = 0 ∧
      instance_.owner = core.ownerUser) ∧
    Revised core.profile core.profileRevision
  flights : ∀ flight ∈ w.flights, flight.key < w.instances.length ∧ flight.id ≤ w.launched ∧
    ∀ core, w.state = some core → (core.key = flight.key ↔ core.id = flight.id)

/-- And the current one runs what is recorded. -/
structure Tidy (w : World) : Prop extends Sound w where
  right : w.raced = false → ∀ core, w.state = some core →
    (∀ flight ∈ w.flights, flight.id ≠ core.id) → w.Matches core

/-- What holds while nobody has the lock. -/
structure Clean (w : World) : Prop extends Tidy w where
  starting : w.starting = none

/-! ## While a task has the lock -/

/-- What only the lock's owner changes of an instance. -/
structure Fixed where
  task : Nat
  owner : Option String
  made : Bool
  downs : Nat

def Instance.fixed (instance_ : Instance) : Fixed :=
  ⟨instance_.task, instance_.owner, instance_.made, instance_.downs⟩

def SameFixed (s t : World) : Prop :=
  ∀ key : Nat, (t.instances[key]?).map Instance.fixed = (s.instances[key]?).map Instance.fixed

theorem SameFixed.at_iff {s t : World} (same : SameFixed s t) {key : Nat} {P : Fixed → Prop} :
    (t.At key fun x => P x.fixed) ↔ s.At key fun x => P x.fixed := by
  have same := same key
  simp only [World.At]
  cases at_ : t.instances[key]? with
  | none =>
    cases at_' : s.instances[key]? with
    | none => simp
    | some x => simp [at_, at_'] at same
  | some y =>
    cases at_' : s.instances[key]? with
    | none => simp [at_, at_'] at same
    | some x =>
      simp only [at_, at_', Option.map_some, Option.some.injEq] at same
      simp [same]

/-- What the others leave to the task that has the lock. -/
structure Held (s t : World) : Prop where
  state : t.state = s.state
  launched : t.launched = s.launched
  starting : t.starting = s.starting
  overlapped : t.overlapped = s.overlapped
  instances : SameFixed s t
  dead : ∀ core, s.live core = false → t.live core = false
  flights : t.flights ⊆ s.flights
  runs : ∀ key, (∀ flight ∈ s.flights, flight.key ≠ key) → t.runs key = s.runs key
  raced : t.raced = false → s.raced = false
  stopping : s.stopping = true → t.stopping = true

theorem World.get_setInstance (w : World) (key : Nat) (f : Instance → Instance) (k : Nat) :
    (w.setInstance key f).instances[k]? = (w.instances[k]?).map fun x => if k = key then f x else x := by
  rw [World.setInstance, List.getElem?_modify]
  simp only [eq_comm, Option.map_eq_map]

/-- What the change of an instance leaves of every instance. -/
theorem World.map_setInstance {β : Type} {g : Instance → β} {f : Instance → Instance}
    (same : ∀ x, g (f x) = g x) (w : World) (key k : Nat) :
    ((w.setInstance key f).instances[k]?).map g = (w.instances[k]?).map g := by
  rw [w.get_setInstance, Option.map_map]
  congr 1
  funext x
  simp only [Function.comp_apply]
  split
  · exact same x
  · rfl

theorem World.bind_setInstance {β : Type} {g : Instance → Option β} {f : Instance → Instance}
    (same : ∀ x, g (f x) = g x) (w : World) (key k : Nat) :
    ((w.setInstance key f).instances[k]?).bind g = (w.instances[k]?).bind g := by
  have join : ∀ o : Option Instance, o.bind g = (o.map g).join := by
    intro o
    cases o <;> rfl
  rw [join, join, World.map_setInstance same]

theorem World.runs_setInstance (w : World) {key k : Nat} {f : Instance → Instance} (ne : k ≠ key) :
    (w.setInstance key f).runs k = w.runs k := by
  rw [World.runs, World.get_setInstance]
  simp [World.runs, ne]

/-- An instance fails: nothing is alive that was not. -/
theorem World.fail_dead (w : World) (key : Nat) (reason : String) (core : RunningCore)
    (dead : w.live core = false) : (w.fail key reason).live core = false := by
  have fatal : (w.fatal core.key).isNone = false →
      ((w.fail key reason).fatal core.key).isNone = false := by
    intro some_
    rw [World.fatal] at some_ ⊢
    rw [World.fail, World.get_setInstance]
    cases found : w.instances[core.key]? with
    | none => simp [found] at some_
    | some instance_ =>
      simp only [found, Option.bind_some, Option.map_some] at some_ ⊢
      split
      · cases instance_.fatal <;> simp at some_ ⊢
      · exact some_
  rw [World.live, Bool.and_eq_false_iff] at dead ⊢
  exact dead.imp id fatal

theorem Held.refl (s : World) : Held s s where
  state := rfl
  launched := rfl
  starting := rfl
  overlapped := rfl
  instances _ := rfl
  dead _ := id
  flights := List.Subset.refl _
  runs _ _ := rfl
  raced := id
  stopping := id

theorem Held.trans {s t u : World} (first : Held s t) (second : Held t u) : Held s u where
  state := second.state.trans first.state
  launched := second.launched.trans first.launched
  starting := second.starting.trans first.starting
  overlapped := second.overlapped.trans first.overlapped
  instances key := (second.instances key).trans (first.instances key)
  dead core dead := second.dead core (first.dead core dead)
  flights := List.Subset.trans second.flights first.flights
  runs key apart :=
    (second.runs key fun flight mem => apart flight (first.flights mem)).trans (first.runs key apart)
  raced h := first.raced (second.raced h)
  stopping h := second.stopping (first.stopping h)

theorem World.landed_flights (w : World) (i : Nat) : (w.landed i).flights ⊆ w.flights :=
  List.filter_subset_self _

/-- What a step without the lock leaves. -/
theorem Step.held {ops : Nat → Op} {i : Nat} {s t : World} (step : Step ops i false s t) :
    Held s t := by
  cases step with
  | idle => exact .refl s
  | tick now epoch op =>
    refine { Held.refl s with dead := fun core dead => ?_ }
    rw [World.live, Bool.and_eq_false_iff] at dead ⊢
    refine dead.imp (fun expired => ?_) id
    rw [decide_eq_false_iff_not, Nat.not_lt] at expired ⊢
    exact Nat.le_trans expired (Nat.le_max_left _ _)
  | fail key reason op =>
    exact { Held.refl s with
      instances := fun k => World.map_setInstance (fun _ => by rfl) s key k
      dead := fun core => s.fail_dead key reason core
      runs := fun k _ => World.bind_setInstance (fun _ => by rfl) s key k }
  | stopping op => exact { Held.refl s with stopping := fun _ => rfl }
  | closeAll op => exact { Held.refl s with }
  | drop id => exact { Held.refl s with }
  | api path =>
    refine { Held.refl s with raced := fun h => ?_ }
    simp only [World.raced, Bool.or_eq_false_iff] at h ⊢
    exact ⟨h.1, h.2.1⟩
  | update flight applied own here alone owner =>
    refine { Held.refl s with
      instances := fun k => World.map_setInstance (fun _ => by rfl) s flight.key k
      dead := fun core dead => ?_
      runs := fun k apart => s.runs_setInstance (Ne.symm (apart flight here)) }
    have same : (s.setInstance flight.key ({ · with runs := some applied })).fatal core.key =
        s.fatal core.key := World.bind_setInstance (fun _ => by rfl) s flight.key core.key
    rw [World.live, same]
    exact dead
  | land right => exact { Held.refl s with flights := s.landed_flights i }
  | letIn open_ => exact { Held.refl s with }

/-! ## Without the lock -/

/-- The same core: another instance never has its id. -/
structure SameCore (old core : RunningCore) : Prop where
  id : old.id = core.id
  key : old.key = core.key
  session : old.session = core.session
  owner : old.ownerUser = core.ownerUser

/-- What the others leave to task `i`, which need not have the lock. -/
structure Later (i : Nat) (s t : World) : Prop where
  launched : s.launched ≤ t.launched
  core : ∀ core, t.state = some core → core.id ≤ s.launched →
    ∃ old, s.state = some old ∧ SameCore old core
  instances : ∀ (key : Nat) (x : Instance), s.instances[key]? = some x →
    ∃ y, t.instances[key]? = some y ∧ y.task = x.task ∧ y.owner = x.owner
  own : ∀ core, t.state = some core → t.At core.key (·.task = i) →
    ∃ old, s.state = some old ∧ old.key = core.key ∧ s.At core.key (·.task = i)
  waiting : i ∈ s.waiting → i ∈ t.waiting
  flights : ∀ flight ∈ s.flights, flight.task = i → flight ∈ t.flights
  /-- As long as no two updates are in flight, the only one is alone. -/
  overlapped : t.overlapped = false → s.overlapped = false
  alone : t.overlapped = false → ∀ flight, flight.task = i → s.flights = [flight] →
    t.flights = [flight] ∧ t.runs flight.key = s.runs flight.key ∧
      (flight.id ≤ s.launched → ∀ core, t.state = some core → core.id = flight.id →
        ∃ old, s.state = some old ∧ old.id = flight.id ∧ old.applied = core.applied)
  raced : t.raced = false → s.raced = false
  stopping : s.stopping = true → t.stopping = true
  stopped : s.stopped = true → t.stopped = true

theorem Later.refl (i : Nat) (s : World) : Later i s s where
  launched := Nat.le_refl _
  core core here _ := ⟨core, here, rfl, rfl, rfl, rfl⟩
  instances _ x here := ⟨x, here, rfl, rfl⟩
  own core here at_ := ⟨core, here, rfl, at_⟩
  waiting := id
  flights _ mem _ := mem
  overlapped := id
  alone _ _ _ one := ⟨one, rfl, fun _ core here same => ⟨core, here, same, rfl⟩⟩
  raced := id
  stopping := id
  stopped := id

theorem Later.trans {i : Nat} {s t u : World} (first : Later i s t) (second : Later i t u) :
    Later i s u where
  launched := Nat.le_trans first.launched second.launched
  core core here le := by
    obtain ⟨mid, there, same⟩ := second.core core here (Nat.le_trans le first.launched)
    obtain ⟨old, at_, same'⟩ := first.core mid there (same.id ▸ le)
    exact ⟨old, at_, same'.id.trans same.id, same'.key.trans same.key,
      same'.session.trans same.session, same'.owner.trans same.owner⟩
  instances key x here := by
    obtain ⟨y, there, task, owner⟩ := first.instances key x here
    obtain ⟨z, at_, task', owner'⟩ := second.instances key y there
    exact ⟨z, at_, task'.trans task, owner'.trans owner⟩
  own core here at_ := by
    obtain ⟨mid, there, key, still⟩ := second.own core here at_
    obtain ⟨old, at_', key', still'⟩ := first.own mid there (key ▸ still)
    exact ⟨old, at_', key'.trans key, key ▸ still'⟩
  waiting h := second.waiting (first.waiting h)
  flights flight mem own := second.flights flight (first.flights flight mem own) own
  overlapped h := first.overlapped (second.overlapped h)
  alone h flight own one := by
    obtain ⟨one', runs, recorded⟩ := first.alone (second.overlapped h) flight own one
    obtain ⟨one'', runs', recorded'⟩ := second.alone h flight own one'
    refine ⟨one'', runs'.trans runs, fun le core here same => ?_⟩
    obtain ⟨mid, there, same', eq⟩ := recorded' (Nat.le_trans le first.launched) core here same
    obtain ⟨old, at_, same'', eq'⟩ := recorded le mid there same'
    exact ⟨old, at_, same'', eq'.trans eq⟩
  raced h := first.raced (second.raced h)
  stopping h := second.stopping (first.stopping h)
  stopped h := second.stopped (first.stopped h)

theorem World.At.setInstance {w : World} {key k : Nat} {f : Instance → Instance}
    {P : Instance → Prop} (same : ∀ x, P (f x) ↔ P x) :
    (w.setInstance key f).At k P ↔ w.At k P := by
  rw [World.At, w.get_setInstance, World.At]
  cases w.instances[k]? with
  | none => simp
  | some x =>
    simp only [Option.map_some, Option.some.injEq, exists_eq_left']
    split
    · exact same x
    · exact Iff.rfl

/-- An instance changes, but not whose it is. -/
theorem Later.setInstance {i key : Nat} {s : World} {f : Instance → Instance}
    (same : ∀ x, (f x).task = x.task ∧ (f x).owner = x.owner)
    (runs : ∀ flight, flight.task = i → s.overlapped = false → s.flights = [flight] →
      (s.setInstance key f).runs flight.key = s.runs flight.key) :
    Later i s (s.setInstance key f) := by
  refine { Later.refl i s with
    instances := fun k x here => ?_
    own := fun core here at_ => ⟨core, here, rfl, ?_⟩
    alone := fun open_ flight own one => ?_ }
  · refine ⟨if k = key then f x else x, by rw [s.get_setInstance, here]; rfl, ?_⟩
    split
    · exact same x
    · exact ⟨rfl, rfl⟩
  · rwa [World.At.setInstance fun x => by rw [(same x).1]] at at_
  · exact ⟨one, runs flight own open_ one, fun _ core here same => ⟨core, here, same, rfl⟩⟩

/-- The core changes, but not which it is. -/
theorem Later.setCore {i : Nat} {s : World} {f : RunningCore → RunningCore}
    (same : ∀ core, SameCore core (f core))
    (applied : ∀ flight, flight.task = i → s.overlapped = false → s.flights = [flight] →
      ∀ core, core.applied = (f core).applied) :
    Later i s (s.setCore f) := by
  have from_ : ∀ core, (s.setCore f).state = some core → ∃ old, s.state = some old ∧ f old = core := by
    intro core here
    simpa [World.setCore] using here
  refine { Later.refl i s with
    core := fun core here _ => ?_
    own := fun core here at_ => ?_
    alone := fun open_ flight own one => ⟨one, rfl, fun _ core here eq => ?_⟩ }
  · obtain ⟨old, there, rfl⟩ := from_ core here
    exact ⟨old, there, same old⟩
  · obtain ⟨old, there, rfl⟩ := from_ core here
    exact ⟨old, there, (same old).key, at_⟩
  · obtain ⟨old, there, rfl⟩ := from_ core here
    exact ⟨old, there, (same old).id.trans eq, applied flight own open_ one old⟩

/-- Another's flight is not the only one of task `i`. -/
theorem alone_apart {i : Nat} {flights : List Flight} {flight other : Flight}
    (theirs : other.task ≠ i) (alone : flights = [other]) (own : flight.task = i)
    (one : flights = [flight]) : False := by
  rw [alone] at one
  cases one
  exact theirs own

theorem World.get_asked (w : World) (task : Nat) (owner : Option String) {key : Nat} {x : Instance}
    (here : w.instances[key]? = some x) : (w.asked task owner).2.instances[key]? = some x := by
  rw [World.asked, List.getElem?_append_left (List.getElem?_eq_some_iff.mp here).1]
  exact here

/-- An instance of afterwards was there before, or is the one asked for. -/
theorem World.asked_cases {w : World} {task : Nat} {owner : Option String} {key : Nat} {x : Instance}
    (here : (w.asked task owner).2.instances[key]? = some x) :
    w.instances[key]? = some x ∨ key = w.instances.length ∧ x = { task, owner } := by
  rw [World.asked] at here
  rcases Nat.lt_or_ge key w.instances.length with inside | outside
  · rw [List.getElem?_append_left inside] at here
    exact .inl here
  · rw [List.getElem?_append_right outside] at here
    obtain ⟨first, rfl⟩ := List.getElem?_eq_some_iff.mp here
    have zero : key - w.instances.length = 0 := by simpa using first
    refine .inr ⟨by omega, by simp⟩

theorem World.runs_asked (w : World) (task : Nat) (owner : Option String) (key : Nat) :
    (w.asked task owner).2.runs key = w.runs key := by
  rw [World.runs, World.asked, World.runs]
  rcases Nat.lt_or_ge key w.instances.length with inside | outside
  · rw [List.getElem?_append_left inside]
  · rw [List.getElem?_append_right outside, List.getElem?_eq_none outside]
    cases key - w.instances.length <;> rfl

theorem World.stopCore_of (w : World) {reason : String} {core : RunningCore}
    (here : w.state = some core) : (w.stopCore reason).2 = { w with
      state := none
      hub := w.hub.coreStopped core.session reason
      log := w.log ++ [.stopped core.key core.session reason] } := by
  simp [World.stopCore, here]

/-- A registration touches the watchers alone. -/
theorem World.register_frame (w : World) (session : SessionRef) :
    ∃ hub log, (w.register session).2 = { w with hub, log } := by
  unfold World.register
  split <;> exact ⟨_, _, rfl⟩

/-- What a step of another task leaves to task `i`. -/
theorem Step.later {ops : Nat → Op} {i j : Nat} {mine : Bool} {s t : World} (other : j ≠ i)
    (step : Step ops j mine s t) : Later i s t := by
  cases step with
  | idle => exact .refl i s
  | tick now epoch op => exact { Later.refl i s with }
  | fail key reason op =>
    exact Later.setInstance (fun _ => ⟨rfl, rfl⟩)
      fun flight _ _ _ => World.bind_setInstance (fun _ => by rfl) s key flight.key
  | stopping op => exact { Later.refl i s with stopping := fun _ => rfl }
  | closeAll op => exact { Later.refl i s with }
  | drop id => exact { Later.refl i s with }
  | api path =>
    refine { Later.refl i s with raced := fun h => ?_ }
    simp only [World.raced, Bool.or_eq_false_iff] at h ⊢
    exact ⟨h.1, h.2.1⟩
  | update flight applied own here alone owner =>
    refine Later.setInstance (fun _ => ⟨rfl, rfl⟩) fun mine_ its open_ one => ?_
    exact (alone_apart (own ▸ other) (alone open_) its one).elim
  | land right =>
    have keeps : ∀ flight ∈ s.flights, flight.task = i → flight ∈ (s.landed j).flights := by
      intro flight mem own
      exact List.mem_filter.mpr ⟨mem, by simpa [own] using other.symm⟩
    refine { Later.refl i s with
      flights := keeps
      alone := fun open_ flight own one => ⟨?_, rfl, fun _ core here same => ⟨core, here, same, rfl⟩⟩ }
    rw [World.landed, one]
    simp [own, other.symm]
  | letIn open_ =>
    exact { Later.refl i s with waiting := fun mem => List.mem_append_left _ mem }
  | missed =>
    refine { Later.refl i s with raced := fun h => ?_ }
    simp [World.raced] at h
  | exit => exact { Later.refl i s with }
  | enter free waits =>
    exact { Later.refl i s with
      waiting := fun mem => List.mem_filter.mpr ⟨mem, by simpa using other.symm⟩ }
  | leave own => exact { Later.refl i s with }
  | asked empty down starts =>
    have gone : (s.asked j (ops j).user).2.state = none := empty
    refine { Later.refl i s with
      instances := fun key x here => ⟨x, s.get_asked j _ here, rfl, rfl⟩
      own := fun core here _ => ?_
      alone := fun open_ flight own one => ⟨one, ?_, fun _ core here _ => ?_⟩ }
    · rw [gone] at here
      cases here
    · exact s.runs_asked j _ flight.key
    · rw [gone] at here
      cases here
  | launched key own empty down starts =>
    exact Later.setInstance (fun _ => ⟨rfl, rfl⟩)
      fun flight _ _ _ => World.bind_setInstance (fun _ => by rfl) s key flight.key
  | stored key body revision own empty starts apart revised =>
    refine { Later.refl i s with
      launched := Nat.le_succ _
      core := fun core here le => ?_
      own := fun core here at_ => ?_
      alone := fun open_ flight mine_ one => ⟨one, rfl, fun le core here same => ?_⟩ }
    · cases here
      exact (Nat.not_succ_le_self _ le).elim
    · cases here
      obtain ⟨x, found, task, -⟩ := own
      obtain ⟨y, found', task'⟩ := at_
      rw [World.store, found] at found'
      cases found'
      exact (other (task.symm.trans task')).elim
    · cases here
      rw [← same] at le
      exact (Nat.not_succ_le_self _ le).elim
  | brought key applied starts own apart owner =>
    refine Later.setInstance (fun _ => ⟨rfl, rfl⟩) fun flight _ _ one => ?_
    exact s.runs_setInstance (apart flight (by simp [one]))
  | stopped reason core here may =>
    rw [s.stopCore_of here]
    exact { Later.refl i s with
      core := nofun
      own := nofun
      alone := fun _ _ _ one => ⟨one, rfl, nofun⟩ }
  | shut key own empty =>
    exact Later.setInstance (fun _ => ⟨rfl, rfl⟩)
      fun flight _ _ _ => World.bind_setInstance (fun _ => by rfl) s key flight.key
  | renew core here own =>
    exact Later.setCore (fun _ => ⟨rfl, rfl, rfl, rfl⟩) fun _ _ _ _ _ => rfl
  | record body revision core flight here own mine_ flies same alone revised =>
    refine Later.setCore (fun _ => ⟨rfl, rfl, rfl, rfl⟩) fun flight' its open_ one => ?_
    exact (alone_apart (mine_ ▸ other) (alone open_) its one).elim
  | register session core here own same =>
    obtain ⟨hub, log, eq⟩ := s.register_frame session
    rw [eq]
    exact { Later.refl i s with }
  | begin core here own =>
    refine { Later.refl i s with
      flights := fun flight mem _ => List.mem_append_left _ mem
      overlapped := fun h => (Bool.or_eq_false_iff.mp h).1
      alone := fun h flight _ one => ?_
      raced := fun h => ?_ }
    · have empty := (Bool.or_eq_false_iff.mp h).2
      rw [one] at empty
      cases empty
    · simp only [World.raced, Bool.or_eq_false_iff] at h ⊢
      exact ⟨⟨h.1.1.1, h.1.2⟩, h.2⟩
  | stoppedForGood empty down starts stopping => exact { Later.refl i s with stopped := fun _ => rfl }

/-! ## What is told of a step -/

/-- What a step does to the slot, the watchers and the history of both. -/
inductive Told (s t : World) : Prop
  | quiet (hub : t.hub = s.hub) (log : t.log = s.log) (launched : t.launched = s.launched)
      (slot : t.state.map (fun core => (core.key, core.session)) =
        s.state.map fun core => (core.key, core.session))
  | closed (hub : t.hub = s.hub.closeAll) (log : t.log = s.log ++ [.closed])
      (launched : t.launched = s.launched) (state : t.state = s.state)
  | dropped (id : Nat) (hub : t.hub = s.hub.drop id) (log : t.log = s.log ++ [.dropped id])
      (launched : t.launched = s.launched) (state : t.state = s.state)
  | stopped (core : RunningCore) (reason : String) (here : s.state = some core)
      (hub : t.hub = s.hub.coreStopped core.session reason)
      (log : t.log = s.log ++ [.stopped core.key core.session reason])
      (launched : t.launched = s.launched) (empty : t.state = none)
  | registered (core : RunningCore) (here : s.state = some core) (open_ : s.hub.closed = false)
      (hub : t.hub = { s.hub with
        nextId := s.hub.nextId + 1
        watchers := s.hub.watchers ++ [⟨s.hub.nextId + 1, core.session⟩] })
      (log : t.log = s.log ++ [.registered (s.hub.nextId + 1) core.session core.key])
      (launched : t.launched = s.launched) (state : t.state = s.state)
  | started (core : RunningCore) (empty : s.state = none) (here : t.state = some core)
      (hub : t.hub = s.hub) (log : t.log = s.log ++ [.started (s.launched + 1) core.key core.session])
      (launched : t.launched = s.launched + 1)

theorem World.slot_setCore (w : World) {f : RunningCore → RunningCore}
    (same : ∀ core, SameCore core (f core)) :
    (w.setCore f).state.map (fun core => (core.key, core.session)) =
      w.state.map fun core => (core.key, core.session) := by
  cases here : w.state with
  | none => simp [World.setCore, here]
  | some core => simp [World.setCore, here, (same core).key, (same core).session]

/-- A registration, when it is not refused. -/
theorem World.register_told {w : World} {core : RunningCore} (here : w.state = some core) :
    Told w (w.register core.session).2 := by
  unfold World.register Hub.register
  cases open_ : w.hub.closed with
  | true => exact .quiet rfl rfl rfl rfl
  | false =>
    by_cases full : maxWatchers ≤ w.hub.watchers.length
    · simp only [Bool.false_eq_true, if_false, if_pos full]
      exact .quiet rfl rfl rfl rfl
    · simp only [Bool.false_eq_true, if_false, if_neg full]
      refine .registered core here open_ ?_ ?_ rfl rfl
      · simp [open_]
      · simp [here]

theorem Step.told {ops : Nat → Op} {i : Nat} {mine : Bool} {s t : World}
    (step : Step ops i mine s t) : Told s t := by
  cases step with
  | idle | tick | fail | stopping | api | update | land | letIn | missed | exit | enter | leave
  | asked | launched | brought | shut | begin | stoppedForGood => exact .quiet rfl rfl rfl rfl
  | closeAll op => exact .closed rfl rfl rfl rfl
  | drop id => exact .dropped id rfl rfl rfl rfl
  | stored key body revision own empty starts apart revised => exact .started _ empty rfl rfl rfl rfl
  | stopped reason core here may =>
    rw [s.stopCore_of here]
    exact .stopped core reason here rfl rfl rfl rfl
  | renew core here own =>
    exact .quiet rfl rfl rfl (s.slot_setCore fun _ => ⟨rfl, rfl, rfl, rfl⟩)
  | record body revision core flight here own mine_ flies same alone revised =>
    exact .quiet rfl rfl rfl (s.slot_setCore fun _ => ⟨rfl, rfl, rfl, rfl⟩)
  | register session core here own same =>
    subst same
    exact World.register_told here

/-! ## The machine -/

theorem Held.at_iff {s t : World} (held : Held s t) {key : Nat} {P : Fixed → Prop} :
    (t.At key fun x => P x.fixed) ↔ s.At key fun x => P x.fixed :=
  held.instances.at_iff

theorem Held.length {s t : World} (held : Held s t) {key : Nat} (inside : key < s.instances.length) :
    key < t.instances.length := by
  have same := held.instances key
  rw [List.getElem?_eq_getElem inside] at same
  by_contra outside
  rw [List.getElem?_eq_none (by omega)] at same
  cases same

theorem Held.sound {s t : World} (held : Held s t) (sound : Sound s) : Sound t where
  down key made := by
    have before := (held.at_iff (P := fun x => x.made = true)).mp made
    rcases sound.down key before with ⟨core, here, eq⟩ | gone
    · exact .inl ⟨core, held.state.trans here, eq⟩
    · exact .inr ((held.at_iff (P := fun x => x.downs = 1)).mpr gone)
  current core here := by
    obtain ⟨id, at_, revised⟩ := sound.current core (held.state ▸ here)
    exact ⟨id.trans held.launched.symm, (held.at_iff (P := fun x =>
      x.made = true ∧ x.downs = 0 ∧ x.owner = core.ownerUser)).mpr at_, revised⟩
  flights flight mem := by
    obtain ⟨inside, le, same⟩ := sound.flights flight (held.flights mem)
    rw [held.launched, held.state]
    exact ⟨held.length inside, le, same⟩

theorem Step.tidy {ops : Nat → Op} {i : Nat} {s t : World} (step : Step ops i false s t)
    (tidy : Tidy s) : Tidy t := by
  refine { step.held.sound tidy.toSound with right := fun open_ core here apart => ?_ }
  have before : s.raced = false := step.held.raced open_
  cases step with
  | idle => exact tidy.right before core here apart
  | tick now epoch op => exact tidy.right before core here apart
  | fail key reason op =>
    have same := tidy.right before core here apart
    rw [World.Matches, World.runs] at same ⊢
    rw [World.fail, World.bind_setInstance (fun _ => by rfl)]
    exact same
  | stopping op => exact tidy.right before core here apart
  | closeAll op => exact tidy.right before core here apart
  | drop id => exact tidy.right before core here apart
  | api path => exact tidy.right before core here apart
  | update flight applied own there alone owner =>
    have ne : core.key ≠ flight.key := fun eq =>
      apart flight there (((tidy.flights flight there).2.2 core here).mp eq).symm
    rw [World.Matches, s.runs_setInstance ne]
    exact tidy.right before core here apart
  | land right =>
    by_cases mine : ∃ flight ∈ s.flights, flight.task = i ∧ flight.id = core.id
    · exact right before core here mine
    · refine tidy.right before core here fun flight mem eq => ?_
      by_cases own : flight.task = i
      · exact mine ⟨flight, mem, own, eq⟩
      · exact apart flight (List.mem_filter.mpr ⟨mem, by simpa using own⟩) eq
  | letIn open' => exact tidy.right before core here apart

theorem Step.clean {ops : Nat → Op} {i : Nat} {s t : World} (step : Step ops i false s t)
    (clean : Clean s) : Clean t :=
  { step.tidy clean.toTidy with starting := step.held.starting.trans clean.starting }

/-- The calls task `i` may make: nothing runs while an instance is created or
shut down, and an instance is called for the user it was created for. -/
def Call.allowed (ops : Nat → Op) (i : Nat) : Call → World → Prop
  | .launch key, w => w.state = none ∧ w.AllDown ∧
      (w.At key fun x => x.task = i ∧ x.made = false ∧ x.downs = 0) ∧
      (w.starting = some i ∨ ops i = .sweep)
  | .shutdown key, w => w.state = none ∧ w.At key fun x => x.made = true ∧ x.downs = 0
  | .api key _ _, w => w.At key (·.owner = (ops i).user)
  | .apply key _, w => w.At key (·.owner = (ops i).user)

/-- The service's tasks as a machine. -/
def machine (ops : Nat → Op) : Rules World Answer where
  effect := World.perform
  step := Step ops
  idle := .idle
  free := Clean
  keeps := Step.clean
  allowed := Call.allowed ops

section

variable {ops : Nat → Op} {i : Nat} {s t : World}

theorem Since.held (since : (machine ops).Since i true s t) : Held s t := by
  refine since.keep Held.refl Held.trans fun _ mode step => ?_
  rw [mode rfl] at step
  exact step.held

theorem Since.tidy (since : (machine ops).Since i true s t) : Tidy s → Tidy t := by
  refine since.keep (P := fun s t => Tidy s → Tidy t) (fun _ => id)
    (fun first second tidy => second (first tidy)) ?_
  intro j theirs s t _ mode step tidy
  rw [mode rfl] at step
  exact step.tidy tidy

theorem Since.later {mine : Bool} (since : (machine ops).Since i mine s t) : Later i s t :=
  since.keep (Later.refl i) Later.trans fun other _ step => Step.later other step

end

end PpvpnCore.Service
