import PpvpnCore.Lib.Steady
import PpvpnCore.Desktop.Recover

/-!
# What runs of enhanced mode keep

The history of a run of enhanced mode, and what holds of it at every moment
(`Good`), while the operation lock is free (`Free`), and of what goes on beside
the task that has the lock (`Others`).

* `Past`: what a run did so far. Its last fields are the steps after which the
  results about runs promise nothing.
* `Minded`: the lease loop of the current generation or a recovery minds it.
* `discipline`: the parts put together.
-/

namespace PpvpnCore.Desktop.Enhanced

open Lib
open Client (SessionRef)

/-! ## History -/

structure Past where
  /-- A disable has returned `Ok` and nothing that turns the mode on has begun
  since. -/
  off : Bool := false
  /-- The mode was turned off, or found off by a disconnect, and so on. -/
  quiet : Bool := false
  /-- A background task changed the machine of a later generation. -/
  trespassed : Bool := false
  /-- The generations whose watch ended with a verdict. -/
  heard : List UInt64 := []
  /-- A recovery returned in a phase that is not an outcome. -/
  hung : Bool := false
  /-- When reconnects for TUN routing were granted since the user last asked for
  the mode, and the clock. -/
  grants : List Nat := []
  now : Nat := 0
  /-- An aborted loop reported its generation taken over. -/
  late : Bool := false
  /-- A loop looked at its generation before it was on. -/
  early : Bool := false
  /-- `On` was written over a takeover. -/
  crossed : Bool := false
  /-- An attempt found no next generation. -/
  exhausted : Bool := false
  /-- A restore found loops running. -/
  relaunched : Bool := false

/-- The phases before a generation is on. -/
def ConnectionPhase.starting (phase : ConnectionPhase) : Bool :=
  phase = .preparing || phase = .waitingPermission || phase = .connecting

def ConnectionPhase.outcome (phase : ConnectionPhase) : Bool :=
  phase = .on || phase = .error || phase = .contended

/-- What a background task of `generation` does to the machine of a later one. -/
def trespasses (generation : UInt64) (m m' : Machine) : Bool :=
  generation < m.generation && decide (m' ≠ m)

def Past.noteMachine (past : Past) (m m' : Machine) : Past :=
  { past with
    quiet := past.quiet || m'.phase = .off
    heard := if m'.generation = m.generation then past.heard
      else past.heard.filter (· ≠ m'.generation)
    crossed := past.crossed ||
      (m'.generation = m.generation && m.phase = .contended && m'.phase = .on) }

/-- A section at `place` made `t` of `s`. -/
def note (place : Place) (s t : State) (past : Past) : Past :=
  let m := s.data.machine
  let m' := t.data.machine
  match place with
  | .plain | .finds _ | .resumes _ => past
  | .begins user =>
    { past with
      off := false
      quiet := false
      heard := if user then past.heard else []
      grants := if user then [] else past.grants
      relaunched := past.relaunched || (!user && s.data.loopsGeneration.isSome) }
  | .machine by_ =>
    { past.noteMachine m m' with
      trespassed := past.trespassed || by_.any fun generation => trespasses generation m m' }
  | .attempt =>
    { past with
      exhausted := past.exhausted ||
        (s.data.profile.isSome && (Machine.nextGeneration m.generation).isNone) }
  | .looks generation =>
    { past with early := past.early || (m.generation = generation && m.phase.starting) }
  | .lost l =>
    { past with
      trespassed := past.trespassed || trespasses l.session.generation m m'
      late := past.late || (!s.alive l && m.generation = l.session.generation) }
  | .idle => { past with off := past.off || (m.phase = .off && (s.uninstalling || past.quiet)) }
  | .disabled => { past with off := true }
  | .recovered => { past with hung := past.hung || !m.phase.outcome }
  | .claims now =>
    { past with
      grants := if (s.data.routingReconnects.claim now).1 then past.grants ++ [now]
        else past.grants }

def hear : (c : Call) → Answer c → State → Past → Past
  | .watch l, r, _, past =>
    match (r : Option WatchEnd) with
    | some end_ =>
      if watchVerdict end_ = .fallback then past
      else { past with heard := l.session.generation :: past.heard }
    | none => past
  | .clock, now, _, past => { past with now := (now : Nat) }
  | _, _, _, past => past

/-- A state and what led to it. -/
abbrev Scene := State × Past

abbrev machineOf (s : Scene) : Machine := s.1.data.machine

def watch {α : Type} (task : Task α) : Prog Scene Place Answer α := task.noted id note

/-- What an answer may be: a task taken up is there, a loop hears something if
it was not aborted, a fresh session id is not empty, the clock does not run
back. -/
def answers : (c : Call) → Answer c → Scene → Prop
  | .take, job, s =>
    match (job : Job) with
    | .loop l verdict => s.1.table l = .asleep verdict
    | .recover generation cause => (generation, cause) ∈ s.1.spawned
  | .renewLease l, r, s =>
    (r : Option (Except ServiceError ServiceStatus)).isSome = s.1.alive l
  | .watch l, r, s =>
    match (r : Option WatchEnd) with
    | some _ => s.1.table l = .busy none
    | none => s.1.alive l = false
  | .checkHealth l _, r, s => (r : Option (Except ClientErrorInfo Unit)).isSome = s.1.alive l
  | .excused l _, r, s => (r : Option Bool).isSome = s.1.alive l
  | .newSessionId, id_, _ => (id_ : String) ≠ ""
  | .clock, now, s => s.2.now ≤ (now : Nat)
  | _, _, _ => True

/-! ## Who minds a generation -/

/-- A recovery of the generation was spawned and has not got the lock yet. -/
def Pending (generation : UInt64) (s : State) : Prop :=
  ∃ cause, (generation, cause) ∈ s.spawned ∨ (generation, cause) ∈ s.waiting

/-- The lease loop of the generation runs. -/
def Renewed (generation : UInt64) (s : State) : Prop :=
  ∃ l, l.kind = .lease ∧ l.session.generation = generation ∧ s.alive l = true

/-- A loop that runs has a verdict. -/
def LoopStatus.verdict : LoopStatus → Option WatchVerdict
  | .asleep verdict | .busy verdict => verdict
  | .gone | .aborted => none

/-- The watch loop of the generation has a verdict to act on. -/
def Told (generation : UInt64) (s : State) : Prop :=
  ∃ l, l.kind = .watch ∧ l.session.generation = generation ∧ (s.table l).verdict.isSome = true

def Cared (generation : UInt64) (s : State) : Prop :=
  Renewed generation s ∨ Pending generation s

def Heeded (generation : UInt64) (s : State) : Prop :=
  Told generation s ∨ Pending generation s

/-- The machine's generation is kept alive, and what its watch found is going to
be acted on. -/
structure Minded (s : Scene) : Prop where
  cared : Cared (machineOf s).generation s.1
  heeded : (machineOf s).generation ∈ s.2.heard → Heeded (machineOf s).generation s.1

/-- None of the steps was taken that lose a generation's loops. -/
structure Past.Careful (past : Past) : Prop where
  early : past.early = false
  crossed : past.crossed = false
  exhausted : past.exhausted = false
  relaunched : past.relaunched = false

/-! ## The reconnect budget -/

/-- No window has more grants than the budget. -/
def Spread (grants : List Nat) : Prop :=
  ∀ t, grants.countP (fun at_ => t ≤ at_ && at_ < t + tunRoutingWindow) ≤ tunRoutingReconnects

/-- What the budget has forgotten is out of every window to come. -/
structure Budget (left grants : List Nat) (now : Nat) : Prop where
  parts : ∃ dropped, grants = dropped ++ left ∧ ∀ at_ ∈ dropped, at_ + tunRoutingWindow ≤ now
  few : left.length ≤ tunRoutingReconnects
  spread : Spread grants

theorem Budget.fresh (now : Nat) : Budget [] [] now where
  parts := ⟨[], rfl, fun _ here => absurd here List.not_mem_nil⟩
  few := Nat.zero_le _
  spread _ := Nat.zero_le _

theorem Budget.later {left grants : List Nat} {now now' : Nat} (budget : Budget left grants now)
    (later : now ≤ now') : Budget left grants now' where
  parts := by
    obtain ⟨dropped, eq, old⟩ := budget.parts
    exact ⟨dropped, eq, fun at_ here => (old at_ here).trans later⟩
  few := budget.few
  spread := budget.spread

/-- A grant more, of a window that has room for it. -/
theorem Spread.granted {dropped left : List Nat} {now : Nat} (spread : Spread (dropped ++ left))
    (old : ∀ at_ ∈ dropped, at_ + tunRoutingWindow ≤ now)
    (room : left.length < tunRoutingReconnects) : Spread (dropped ++ left ++ [now]) := by
  intro t
  rw [List.countP_append, List.countP_singleton]
  split
  next within =>
    simp only [Bool.and_eq_true, decide_eq_true_eq] at within
    have gone : dropped.countP (fun at_ => t ≤ at_ && at_ < t + tunRoutingWindow) = 0 := by
      refine List.countP_eq_zero.mpr fun at_ here => ?_
      have := old at_ here
      simp only [Bool.and_eq_true, decide_eq_true_eq]
      omega
    have kept := List.countP_le_length
      (p := fun at_ => decide (t ≤ at_) && decide (at_ < t + tunRoutingWindow)) (l := left)
    rw [List.countP_append, gone]
    omega
  next => exact spread t

/-- What a claim at `now` does to the budget. -/
theorem Budget.claim {left grants : List Nat} {now : Nat} (budget : Budget left grants now) :
    Budget ((RoutingReconnects.mk left).claim now).2.at_
      (if ((RoutingReconnects.mk left).claim now).1 then grants ++ [now] else grants) now := by
  obtain ⟨dropped, eq, old⟩ := budget.parts
  let past : Nat → Bool := fun at_ => tunRoutingWindow ≤ now - at_
  have parts : left = left.takeWhile past ++ left.dropWhile past := List.takeWhile_append_dropWhile.symm
  have taken : ∀ at_ ∈ left.takeWhile past, at_ + tunRoutingWindow ≤ now := by
    intro at_ here
    have passed : past at_ = true := List.mem_takeWhile_imp here
    have := of_decide_eq_true passed
    have : 0 < tunRoutingWindow := by decide
    omega
  have olds : ∀ at_ ∈ dropped ++ left.takeWhile past, at_ + tunRoutingWindow ≤ now := by
    intro at_ here
    exact (List.mem_append.mp here).elim (old at_) (taken at_)
  have all : grants = (dropped ++ left.takeWhile past) ++ left.dropWhile past := by
    rw [List.append_assoc, ← parts]
    exact eq
  have shorter : (left.dropWhile past).length ≤ left.length :=
    (List.dropWhile_sublist past).length_le
  have spread : Spread ((dropped ++ left.takeWhile past) ++ left.dropWhile past) :=
    all ▸ budget.spread
  by_cases full : tunRoutingReconnects ≤ (left.dropWhile past).length
  · have claim : (RoutingReconnects.mk left).claim now = (false, ⟨left.dropWhile past⟩) := if_pos full
    rw [claim]
    exact ⟨⟨_, all, olds⟩, shorter.trans budget.few, budget.spread⟩
  · have claim : (RoutingReconnects.mk left).claim now =
        (true, ⟨left.dropWhile past ++ [now]⟩) := if_neg full
    rw [claim]
    refine ⟨⟨dropped ++ left.takeWhile past, ?_, olds⟩, ?_, ?_⟩
    · rw [if_pos rfl, all, List.append_assoc]
    · rw [List.length_append, List.length_singleton]
      omega
    · rw [if_pos rfl, all]
      exact spread.granted olds (not_le.mp full)

/-! ## Every moment -/

structure Good (s : Scene) : Prop where
  calm : s.2.relaunched = false → (machineOf s).phase = .off → ∀ l, s.1.alive l = false
  off : s.2.late = false → s.2.relaunched = false → s.2.off = true → (machineOf s).phase = .off
  kept : s.2.trespassed = false
  ended : s.2.exhausted = false → s.2.hung = false
  verdicts : ∀ l, (s.1.table l).verdict ≠ some .fallback
  budget : Budget s.1.data.routingReconnects.at_ s.2.grants s.2.now

/-- What the sections of a task leave alone that do not change the machine. -/
structure Around (s t : Scene) : Prop where
  machine : machineOf t = machineOf s ∨ ((machineOf t).phase = .contended ∧
    (machineOf t).generation = (machineOf s).generation ∧
    (machineOf t).sessionId = (machineOf s).sessionId)
  settled : t.2.late = false → (∀ l, s.1.alive l = false) → machineOf t = machineOf s
  profile : s.1.data.profile.isSome = true → t.1.data.profile.isSome = true
  uninstalling : t.1.uninstalling = s.1.uninstalling
  alive : ∀ l, t.1.alive l = true → s.1.alive l = true
  off : t.2.off = true → s.2.off = true ∨ s.1.uninstalling = true ∨ s.2.quiet = true
  quiet : t.2.quiet = s.2.quiet
  heard : ∀ g ∈ t.2.heard, g ∈ s.2.heard ∨ ∃ l, s.1.alive l = true ∧ l.session.generation = g
  now : t.2.now = s.2.now
  late : t.2.late = false → s.2.late = false
  early : t.2.early = false → s.2.early = false
  crossed : t.2.crossed = s.2.crossed
  exhausted : t.2.exhausted = s.2.exhausted
  relaunched : t.2.relaunched = s.2.relaunched

/-- What goes on beside the task that has the lock. -/
structure Others (s t : Scene) : Prop extends Around s t where
  loops : t.1.data.loops = s.1.data.loops
  loopsGeneration : t.1.data.loopsGeneration = s.1.data.loopsGeneration
  minded : t.2.early = false → (machineOf t).phase = .on ∨ (machineOf t).phase.starting = true →
    (Cared (machineOf s).generation s.1 → Cared (machineOf s).generation t.1) ∧
      (((machineOf s).generation ∈ s.2.heard → Heeded (machineOf s).generation s.1) →
        (machineOf s).generation ∈ t.2.heard → Heeded (machineOf s).generation t.1)

/-- The phase says that the generation is on, or will be. -/
def Live (s : Scene) : Prop :=
  (machineOf s).phase = .on ∨ (machineOf s).phase.starting = true

def Guarded (s : Scene) : Prop := s.2.Careful → Live s → Minded s

/-- While nobody has the lock. -/
structure Free (s : Scene) : Prop where
  idle : s.1.uninstalling = false
  listed : ∀ l, s.1.alive l = true → l ∈ s.1.data.loops
  stopped : s.1.data.loopsGeneration = none → ∀ l, s.1.alive l = false
  profile : (machineOf s).phase = .reconnecting → s.1.data.profile.isSome = true
  sound : s.2.Careful → (machineOf s).phase = .on → Minded s

theorem Around.refl (s : Scene) : Around s s where
  machine := .inl rfl
  settled _ _ := rfl
  profile := id
  uninstalling := rfl
  alive _ := id
  off := .inl
  quiet := rfl
  heard _ := .inl
  now := rfl
  late := id
  early := id
  crossed := rfl
  exhausted := rfl
  relaunched := rfl

theorem Around.trans {s t u : Scene} (first : Around s t) (rest : Around t u) : Around s u where
  machine := by
    rcases rest.machine with same | ⟨phase, generation, session⟩
    · rw [same]
      exact first.machine
    · rcases first.machine with same | ⟨-, generation', session'⟩
      · exact .inr ⟨phase, by rw [generation, same], by rw [session, same]⟩
      · exact .inr ⟨phase, generation.trans generation', session.trans session'⟩
  settled late none_ := by
    have still : ∀ l, t.1.alive l = false := by
      intro l
      cases here : t.1.alive l with
      | false => rfl
      | true => exact absurd (first.alive l here) (by rw [none_ l]; exact Bool.noConfusion)
    exact (rest.settled late still).trans (first.settled (rest.late late) none_)
  profile here := rest.profile (first.profile here)
  uninstalling := rest.uninstalling.trans first.uninstalling
  alive l here := first.alive l (rest.alive l here)
  off here := by
    rcases rest.off here with off | uninstalling | quiet
    · exact first.off off
    · exact .inr (.inl (by rw [← first.uninstalling]; exact uninstalling))
    · exact .inr (.inr (by rw [← first.quiet]; exact quiet))
  quiet := rest.quiet.trans first.quiet
  heard g here := by
    rcases rest.heard g here with before | ⟨l, alive, generation⟩
    · exact first.heard g before
    · exact .inr ⟨l, first.alive l alive, generation⟩
  now := rest.now.trans first.now
  late here := first.late (rest.late here)
  early here := first.early (rest.early here)
  crossed := rest.crossed.trans first.crossed
  exhausted := rest.exhausted.trans first.exhausted
  relaunched := rest.relaunched.trans first.relaunched

theorem Around.generation {s t : Scene} (around : Around s t) :
    (machineOf t).generation = (machineOf s).generation := by
  rcases around.machine with same | ⟨-, generation, -⟩
  · rw [same]
  · exact generation

theorem Around.session {s t : Scene} (around : Around s t) :
    (machineOf t).sessionId = (machineOf s).sessionId := by
  rcases around.machine with same | ⟨-, -, session⟩
  · rw [same]
  · exact session

/-- A phase is left only for `Contended`. -/
theorem Around.phase {s t : Scene} (around : Around s t) :
    (machineOf t).phase = (machineOf s).phase ∨ (machineOf t).phase = .contended := by
  rcases around.machine with same | ⟨phase, -, -⟩
  · exact .inl (by rw [same])
  · exact .inr phase

theorem Around.stopped {s t : Scene} (around : Around s t) (stopped : ∀ l, s.1.alive l = false)
    (l : Loop) : t.1.alive l = false := by
  cases here : t.1.alive l with
  | false => rfl
  | true => exact absurd (around.alive l here) (by rw [stopped l]; exact Bool.noConfusion)

theorem Around.careful {s t : Scene} (around : Around s t) (careful : t.2.Careful) :
    s.2.Careful where
  early := around.early careful.early
  crossed := around.crossed.symm.trans careful.crossed
  exhausted := around.exhausted.symm.trans careful.exhausted
  relaunched := around.relaunched.symm.trans careful.relaunched

theorem Others.refl (s : Scene) : Others s s where
  toAround := .refl s
  loops := rfl
  loopsGeneration := rfl
  minded _ _ := ⟨id, id⟩

theorem Live.not_contended {s : Scene} (live : Live s) : (machineOf s).phase ≠ .contended := by
  intro phase
  rcases live with on | starting
  · rw [phase] at on
    cases on
  · rw [phase] at starting
    cases starting

theorem Around.live {s t : Scene} (around : Around s t) (live : Live t) :
    machineOf t = machineOf s ∧ Live s := by
  rcases around.machine with same | ⟨phase, -, -⟩
  · refine ⟨same, ?_⟩
    unfold Live at live ⊢
    rwa [same] at live
  · exact absurd phase live.not_contended

theorem Others.trans {s t u : Scene} (first : Others s t) (rest : Others t u) : Others s u where
  toAround := first.toAround.trans rest.toAround
  loops := rest.loops.trans first.loops
  loopsGeneration := rest.loopsGeneration.trans first.loopsGeneration
  minded early live := by
    have live' := (rest.toAround.live live).2
    obtain ⟨cared, heeded⟩ := first.minded (rest.early early) live'
    obtain ⟨cared', heeded'⟩ := rest.minded early live
    rw [first.generation] at cared' heeded'
    exact ⟨fun here => cared' (cared here), fun here => heeded' (heeded here)⟩

/-- Who minds the generation still does. -/
theorem Others.guarded {s t : Scene} (others : Others s t) (guarded : Guarded s) : Guarded t := by
  intro careful live
  obtain ⟨same, live'⟩ := others.toAround.live live
  obtain ⟨cared, heeded⟩ := guarded (others.careful careful) live'
  obtain ⟨cares, heeds⟩ := others.minded careful.early live
  refine ⟨?_, ?_⟩
  · rw [others.generation]
    exact cares cared
  · rw [others.generation]
    exact heeds heeded

theorem Others.free {s t : Scene} (others : Others s t) (free : Free s) : Free t where
  idle := others.uninstalling.trans free.idle
  listed l alive := by
    rw [others.loops]
    exact free.listed l (others.alive l alive)
  stopped none_ := others.stopped (free.stopped (others.loopsGeneration.symm.trans none_))
  profile phase := by
    rcases others.machine with same | ⟨contended, -⟩
    · rw [same] at phase
      exact others.profile (free.profile phase)
    · rw [contended] at phase
      cases phase
  sound careful on := by
    obtain ⟨same, -⟩ := others.toAround.live (.inl on)
    have on' : (machineOf s).phase = .on := by rw [← same]; exact on
    exact others.guarded (fun careful _ => free.sound careful on') careful (.inl on)

def discipline : Discipline Scene Place Answer where
  effect := beside effect hear
  answers := answers
  meets _ _ _ := True
  moves := Others
  refl := .refl
  trans := .trans
  inv := Free
  good := Good
  allowed _ _ := True

/-! ## Steps that leave the machine alone -/

@[simp] theorem State.put_data (s : State) (l : Loop) (status : LoopStatus) :
    (s.put l status).data = s.data := rfl

theorem State.put_table (s : State) (l l' : Loop) (status : LoopStatus) :
    (s.put l status).table l' = if l' = l then status else s.table l' := rfl

/-- The loops of `t` are those of `s`, but for `l`, which is at `status`. -/
structure Put (s t : State) (l : Loop) (status : LoopStatus) : Prop where
  table : t.table = (s.put l status).table
  spawned : ∀ r ∈ s.spawned, r ∈ t.spawned ∨ r ∈ t.waiting
  waiting : ∀ r ∈ s.waiting, r ∈ t.waiting

theorem Put.of_put (s : State) (l : Loop) (status : LoopStatus) : Put s (s.put l status) l status :=
  ⟨rfl, fun _ => .inl, fun _ => id⟩

section

variable {s : Scene} {u : State} {l : Loop} {status : LoopStatus} {g : UInt64}

theorem Put.pending (put : Put s.1 u l status) (pending : Pending g s.1) : Pending g u := by
  obtain ⟨cause, spawned | waiting⟩ := pending
  · exact ⟨cause, put.spawned _ spawned⟩
  · exact ⟨cause, .inr (put.waiting _ waiting)⟩

theorem Put.alive (put : Put s.1 u l status) (l' : Loop) :
    u.alive l' = if l' = l then status.alive else s.1.alive l' := by
  rw [State.alive, put.table, State.put_table]
  split <;> rfl

theorem Put.cared (put : Put s.1 u l status) (cared : Cared g s.1)
    (keeps : l.kind = .lease → l.session.generation = g → s.1.alive l = true →
      status.alive = true ∨ Pending g u) : Cared g u := by
  rcases cared with ⟨l', kind, generation, alive⟩ | pending
  · by_cases same : l' = l
    · subst same
      rcases keeps kind generation alive with still | pending
      · exact .inl ⟨l', kind, generation, by rw [put.alive, if_pos rfl]; exact still⟩
      · exact .inr pending
    · exact .inl ⟨l', kind, generation, by rw [put.alive, if_neg same]; exact alive⟩
  · exact .inr (put.pending pending)

theorem Put.heeded (put : Put s.1 u l status) (heeded : Heeded g s.1)
    (keeps : l.kind = .watch → l.session.generation = g → (s.1.table l).verdict.isSome = true →
      status.verdict.isSome = true ∨ Pending g u) : Heeded g u := by
  rcases heeded with ⟨l', kind, generation, verdict⟩ | pending
  · by_cases same : l' = l
    · subst same
      rcases keeps kind generation verdict with still | pending
      · refine .inl ⟨l', kind, generation, ?_⟩
        rw [put.table, State.put_table, if_pos rfl]
        exact still
      · exact .inr pending
    · refine .inl ⟨l', kind, generation, ?_⟩
      rw [put.table, State.put_table, if_neg same]
      exact verdict
  · exact .inr (put.pending pending)

end

/-- A step that neither changes the machine nor stops a loop that minds it. -/
structure Slip (s t : Scene) : Prop where
  machine : machineOf t = machineOf s
  profile : t.1.data.profile = s.1.data.profile
  routing : t.1.data.routingReconnects = s.1.data.routingReconnects
  loops : t.1.data.loops = s.1.data.loops
  loopsGeneration : t.1.data.loopsGeneration = s.1.data.loopsGeneration
  uninstalling : t.1.uninstalling = s.1.uninstalling
  alive : ∀ l, t.1.alive l = true → s.1.alive l = true
  verdicts : ∀ l, (t.1.table l).verdict = some .fallback → (s.1.table l).verdict = some .fallback
  heard : ∀ g ∈ t.2.heard, g ∈ s.2.heard ∨ ∃ l, s.1.alive l = true ∧ l.session.generation = g
  early : t.2.early = false → s.2.early = false
  past : ∃ heard early off, t.2 = { s.2 with heard, early, off }
  off : t.2.off = true → s.2.off = true ∨
    ((s.1.uninstalling = true ∨ s.2.quiet = true) ∧ (machineOf s).phase = .off)
  cared : t.2.early = false → Live s → Cared (machineOf s).generation s.1 →
    Cared (machineOf s).generation t.1
  heeded : t.2.early = false → Live s →
    ((machineOf s).generation ∈ s.2.heard → Heeded (machineOf s).generation s.1) →
    (machineOf s).generation ∈ t.2.heard → Heeded (machineOf s).generation t.1

theorem Slip.others {s t : Scene} (slip : Slip s t) : Others s t := by
  obtain ⟨heard, early, off, past⟩ := slip.past
  have live : Live t → Live s := by
    intro live
    unfold Live at live ⊢
    rwa [slip.machine] at live
  exact {
    machine := .inl slip.machine
    settled := fun _ _ => slip.machine
    profile := fun here => by rw [slip.profile]; exact here
    uninstalling := slip.uninstalling
    alive := slip.alive
    off := fun here => (slip.off here).imp_right (·.1)
    quiet := by rw [past]
    heard := slip.heard
    now := by rw [past]
    late := fun here => by rw [past] at here; exact here
    early := slip.early
    crossed := by rw [past]
    exhausted := by rw [past]
    relaunched := by rw [past]
    loops := slip.loops
    loopsGeneration := slip.loopsGeneration
    minded := fun early_ here => ⟨slip.cared early_ (live here), slip.heeded early_ (live here)⟩ }

theorem Slip.good {s t : Scene} (slip : Slip s t) (good : Good s) : Good t := by
  obtain ⟨heard, early, off, past⟩ := slip.past
  refine ⟨?_, ?_, ?_, ?_, fun l here => good.verdicts l (slip.verdicts l here), ?_⟩
  · intro relaunched phase
    refine slip.others.stopped (good.calm ?_ ?_)
    · rw [past] at relaunched
      exact relaunched
    · rw [← slip.machine]
      exact phase
  · intro late relaunched isOff
    rw [slip.machine]
    rcases slip.off isOff with before | ⟨-, phase⟩
    · rw [past] at late relaunched
      exact good.off late relaunched before
    · exact phase
  · rw [past]
    exact good.kept
  · rw [past]
    exact good.ended
  · rw [slip.routing, past]
    exact good.budget

/-- A step that only the data no result depends on can tell. -/
theorem Slip.of_data {s : Scene} {data : Data} (machine : data.machine = s.1.data.machine)
    (profile : data.profile = s.1.data.profile)
    (routing : data.routingReconnects = s.1.data.routingReconnects)
    (loops : data.loops = s.1.data.loops)
    (loopsGeneration : data.loopsGeneration = s.1.data.loopsGeneration) :
    Slip s ({ s.1 with data }, s.2) where
  machine := machine
  profile := profile
  routing := routing
  loops := loops
  loopsGeneration := loopsGeneration
  uninstalling := rfl
  alive _ := id
  verdicts _ := id
  heard _ := .inl
  early := id
  past := ⟨_, _, _, rfl⟩
  off := .inl
  cared _ _ := id
  heeded _ _ := id

theorem Slip.refl (s : Scene) : Slip s s := .of_data rfl rfl rfl rfl rfl

/-- A step of a loop. -/
theorem Slip.of_put {s : Scene} {u : State} {l : Loop} {status : LoopStatus}
    (heard : List UInt64) (early : Bool) (put : Put s.1 u l status) (data : u.data = s.1.data)
    (uninstalling : u.uninstalling = s.1.uninstalling)
    (alive : status.alive = true → s.1.alive l = true) (verdict : status.verdict ≠ some .fallback)
    (hears : ∀ g ∈ heard, g ∈ s.2.heard ∨
      (g = l.session.generation ∧ l.kind = .watch ∧ s.1.alive l = true ∧
        status.verdict.isSome = true))
    (soon : early = false → s.2.early = false)
    (cares : early = false → Live s → l.kind = .lease →
      l.session.generation = (machineOf s).generation → s.1.alive l = true →
      status.alive = true ∨ Pending (machineOf s).generation u)
    (heeds : early = false → Live s → l.kind = .watch →
      l.session.generation = (machineOf s).generation → (s.1.table l).verdict.isSome = true →
      status.verdict.isSome = true ∨ Pending (machineOf s).generation u) :
    Slip s (u, { s.2 with heard, early }) where
  machine := by rw [machineOf, data]
  profile := by rw [data]
  routing := by rw [data]
  loops := by rw [data]
  loopsGeneration := by rw [data]
  uninstalling := uninstalling
  alive l' here := by
    rw [put.alive] at here
    split at here
    next same =>
      rw [same]
      exact alive here
    next => exact here
  verdicts l' here := by
    rw [put.table, State.put_table] at here
    split at here
    next => exact absurd here verdict
    next => exact here
  heard g here := by
    rcases hears g here with before | ⟨same, -, alive, -⟩
    · exact .inl before
    · exact .inr ⟨l, alive, same.symm⟩
  early := soon
  past := ⟨_, _, _, rfl⟩
  off := .inl
  cared early_ live cared := put.cared cared fun kind generation alive =>
    cares early_ live kind generation alive
  heeded early_ live heeded here := by
    rcases hears _ here with before | ⟨generation, kind, -, verdict⟩
    · exact put.heeded (heeded before) fun kind generation verdict =>
        heeds early_ live kind generation verdict
    · refine .inl ⟨l, kind, generation.symm, ?_⟩
      rw [put.table, State.put_table, if_pos rfl]
      exact verdict

end PpvpnCore.Desktop.Enhanced
