import PpvpnCore.Desktop.Attempts

/-!
# What the user asks for keeps to it

Each operation of enhanced mode, from the operation lock taken to its release:
it finds the scene `Free`, and leaves it so.

* `inside_disconnectCurrent`: off, or an error with the session kept.
* `inside_pushProfile`: a finished update leaves the generation on.
* `obeys_recover`: a recovery, over all its attempts and pauses.
* `obeys_op`: every task of a process.
-/

namespace PpvpnCore.Desktop.Enhanced

open Lib
open Client (SessionRef)

variable {α β : Type} {s t : Scene} {g : UInt64}

/-! ## Disconnecting -/

/-- A machine may be off when no loop of ours runs. -/
theorem Good.down {m : Machine} (good : Good s) (off : m.phase = .off)
    (stopped : s.2.relaunched = false → ∀ l, s.1.alive l = false) :
    Good (Enhanced.become m s) where
  calm relaunched _ := stopped relaunched
  off _ _ _ := off
  kept := good.kept
  ended := good.ended
  verdicts := good.verdicts
  budget := good.budget

/-- The mode was turned off, or could not be. -/
structure Down (s t : Scene) : Prop where
  stopped : Stopped t
  uninstalling : t.1.uninstalling = s.1.uninstalling
  phase : (machineOf t).phase = .off ∨ (machineOf t).phase = .error ∨
    (machineOf t).phase = .contended

theorem Down.others {u : Scene} (down : Down s t) (others : Others t u) : Down s u where
  stopped := down.stopped.others others
  uninstalling := others.uninstalling.trans down.uninstalling
  phase := by
    rcases others.phase with same | contended
    · rw [same]
      exact down.phase
    · exact .inr (.inr contended)

theorem Down.free (down : Down s t) (idle : s.1.uninstalling = false) : Free t where
  idle := down.uninstalling.trans idle
  listed l here := by
    rw [down.stopped.alive l] at here
    cases here
  stopped _ := down.stopped.alive
  profile phase := by
    rcases down.phase with h | h | h <;> exact absurd (h.symm.trans phase) fun here => by cases here
  sound _ phase := by
    rcases down.phase with h | h | h <;> exact absurd (h.symm.trans phase) fun here => by cases here

/-- Down, and off unless an aborted loop came late. -/
structure Offed (s t : Scene) : Prop extends Down s t where
  off : t.2.late = false → (machineOf t).phase = .off

theorem Offed.others {u : Scene} (offed : Offed s t) (others : Others t u) : Offed s u where
  toDown := offed.toDown.others others
  off late := by
    rw [others.settled late offed.stopped.alive]
    exact offed.off (others.late late)

theorem inside_finish (current : (machineOf s).generation = g) (stopped : Stopped s) :
    Inside (finish g) (fun _ t => Offed s t) s := by
  subst current
  refine inside_bind (inside_machine (.inl rfl) fun t others good => ?_)
  have finished : (machineOf t).finishDisconnect (machineOf s).generation =
      { generation := (machineOf s).generation } := by
    rw [Machine.finishDisconnect, if_neg (not_not.mpr others.generation)]
  refine ⟨some (Persisted.of { generation := (machineOf s).generation }),
    { generation := (machineOf s).generation }, ?_, ?_, fun u later _ => ?_⟩
  · dsimp only
    rw [if_pos others.generation, finished]
  · exact good.down rfl fun _ => others.stopped stopped.alive
  have offed : Offed s (become { generation := (machineOf s).generation } t) :=
    ⟨⟨⟨others.stopped stopped.alive, others.loopsGeneration.trans stopped.none_⟩,
      others.uninstalling, .inl rfl⟩, fun _ => rfl⟩
  refine inside_bind (inside_besides (besides_persist _) fun _ v last _ => ?_)
  exact inside_besides besides_emit fun _ w end_ _ => offed.others (later.trans (last.trans end_))

theorem inside_unconfirmed {info : ClientErrorInfo} (current : (machineOf s).generation = g)
    (awake : (machineOf s).phase ≠ .off) (stopped : Stopped s) :
    Inside (unconfirmed g info) (fun r t => r = .error info ∧ Down s t) s := by
  subst current
  refine inside_bind (inside_machine (.inl rfl) fun t others good => ?_)
  have moved : ∀ m : Machine, m.generation = (machineOf s).generation →
      m.transition (machineOf s).generation .error (some info) true =
        m.moved .error (some info) true := by
    intro m same
    rw [← same, transition_eq]
  let m : Machine := ({ machineOf t with desiredOn := false } : Machine).moved .error (some info) true
  refine ⟨some (Persisted.of m), m, ?_, ?_, fun u later _ => ?_⟩
  · dsimp only
    rw [if_pos others.generation, moved { t.1.data.machine with desiredOn := false } others.generation]
  · exact good.become (.inr (others.awake awake)) fun here => by cases here
  have down : Down s (become m t) :=
    ⟨⟨others.stopped stopped.alive, others.loopsGeneration.trans stopped.none_⟩,
      others.uninstalling, .inr (.inl rfl)⟩
  refine inside_bind (inside_besides (besides_persist _) fun _ v last _ => ?_)
  refine inside_bind (inside_besides besides_emit fun _ w end_ _ => ?_)
  exact inside_done fun x done _ =>
    ⟨rfl, down.others (later.trans (last.trans (end_.trans done)))⟩

theorem besides_confirmStopped (session : SessionRef) (error : ServiceError) (polls : Nat) :
    Besides (confirmStopped session error polls) := by
  induction polls with
  | zero => exact besides_done
  | succ polls ih =>
    refine besides_bind (besides_calm fun _ _ => rfl) fun answer => ?_
    cases (answer : Option (Except ServiceError ServiceStatus)) with
    | none => exact ih
    | some answer =>
      cases answer with
      | ok status => exact besides_ite (fun _ => besides_done) fun _ => ih
      | error failure => exact besides_ite (fun _ => besides_done) fun _ => ih

theorem besides_confirm (session : SessionRef) (error : ServiceError) :
    Besides (confirm session error) := by
  refine besides_ite (fun _ => besides_done) fun _ => ?_
  refine besides_bind (besides_calm fun _ _ => rfl) fun polls => ?_
  exact besides_confirmStopped session error _

theorem besides_stopSession (session : SessionRef) : Besides (stopSession session) := by
  refine besides_bind (besides_calm fun _ _ => rfl) fun stopped => ?_
  cases (stopped : Except ServiceError Unit) with
  | ok => exact besides_done
  | error error =>
    cases error with
    | failed detail => exact besides_done
    | unavailable detail => exact besides_confirm session _
    | rejected detail => exact besides_confirm session _
    | protocol detail => exact besides_confirm session _

/-- The mode is off, or the disconnect was not confirmed. -/
def Disconnected (s : Scene) (result : Except ClientErrorInfo Unit) (t : Scene) : Prop :=
  Down s t ∧ (result = .ok () → t.2.late = false → (machineOf t).phase = .off)

theorem Offed.disconnected {result : Except ClientErrorInfo Unit} (offed : Offed s t) :
    Disconnected s result t :=
  ⟨offed.toDown, fun _ => offed.off⟩

theorem Down.from {r : Scene} (down : Down s t) (same : s.1.uninstalling = r.1.uninstalling) :
    Down r t :=
  ⟨down.stopped, down.uninstalling.trans same, down.phase⟩

theorem inside_disconnectCurrent {confirm : Bool}
    (listed : ∀ l, s.1.alive l = true → l ∈ s.1.data.loops) :
    Inside (disconnectCurrent confirm) (Disconnected s) s := by
  refine inside_bind (inside_stopLoops listed fun t around stopped _ => ?_)
  refine inside_bind (inside_read fun u others _ v later _ => ?_)
  have stopped' := (stopped.others others).others later
  have idle : v.1.uninstalling = s.1.uninstalling :=
    later.uninstalling.trans (others.uninstalling.trans around.uninstalling)
  -- Ends with the machine off, from any scene of this generation.
  have finishes : ∀ w, (machineOf w).generation = (machineOf u).generation → Stopped w →
      w.1.uninstalling = s.1.uninstalling →
      Inside (do finish (machineOf u).generation; pure (.ok ())) (Disconnected s) w := by
    intro w current stopped same
    refine inside_bind (inside_mono (inside_finish current stopped) fun _ x offed => ?_)
    refine inside_done fun y last _ => ?_
    obtain ⟨down, off⟩ := offed.others last
    exact ⟨down.from same, fun _ => off⟩
  dsimp only
  split
  next => exact finishes v later.generation stopped' idle
  next awake =>
    refine inside_bind (inside_transition (.inl rfl) later.generation ?_ ?_)
    · exact fun w others' good => good.become (.inr ((later.trans others').awake awake))
        fun here => by cases here
    intro w others' _ x last _
    have stopped'' : Stopped x := ⟨last.stopped (others'.stopped stopped'.alive),
      last.loopsGeneration.trans (others'.loopsGeneration.trans stopped'.none_)⟩
    have current : (machineOf x).generation = (machineOf u).generation :=
      last.generation.trans ((others'.generation).trans later.generation)
    have awake' : (machineOf x).phase ≠ .off := last.awake fun here => by cases here
    have idle' : x.1.uninstalling = s.1.uninstalling :=
      last.uninstalling.trans (others'.uninstalling.trans idle)
    have releases : Inside (do
        releaseSession (machineOf u)
        finish (machineOf u).generation
        pure (.ok ())) (Disconnected s) x := by
      refine inside_bind (inside_besides (besides_releaseSession _) fun _ y end_ _ => ?_)
      exact finishes y (end_.generation.trans current) (stopped''.others end_)
        (end_.uninstalling.trans idle')
    cases (machineOf u).session with
    | none => exact releases
    | some session =>
      cases confirm with
      | false => exact releases
      | true =>
        refine inside_bind (inside_besides (besides_stopSession session) fun stopped y end_ _ => ?_)
        cases stopped with
        | ok =>
          exact finishes y (end_.generation.trans current) (stopped''.others end_)
            (end_.uninstalling.trans idle')
        | error info =>
          refine inside_mono (inside_unconfirmed (end_.generation.trans current)
            (end_.awake awake') (stopped''.others end_)) fun r z ends => ?_
          obtain ⟨failed, down⟩ := ends
          refine ⟨down.from (end_.uninstalling.trans idle'), fun ok => ?_⟩
          rw [failed] at ok
          cases ok

/-! ## Operations -/

/-- An operation that takes the lock leaves what it found. -/
theorem obeys_withLock {task : Task Unit}
    (spec : ∀ s, Good s → Free s → Inside task (fun _ t => Free t) s) :
    Obeys discipline (watch (Prog.withLock task)) none := by
  rw [watch, Prog.noted_withLock]
  exact Obeys.withLock spec

theorem inside_quietly {task : Task α} (spec : Inside task (fun _ t => Free t) s) :
    Inside (quietly task) (fun _ t => Free t) s := by
  refine wp_noted_bind (inside_mono spec fun _ t free => ?_)
  exact inside_done fun u others _ => others.free free

theorem inside_free {task : Task α} (besides : Besides task) (free : Free s) :
    Inside task (fun _ t => Free t) s :=
  inside_besides besides fun _ _ others _ => others.free free

theorem inside_disable (free : Free s) : Inside disable (fun _ t => Free t) s := by
  refine inside_bind (inside_mono (inside_disconnectCurrent free.listed) fun result t ends => ?_)
  obtain ⟨down, off⟩ := ends
  have free' := down.free free.idle
  cases result with
  | error info => exact inside_done fun u others _ => others.free free'
  | ok =>
    refine inside_bind (inside_update fun u others good => ⟨?_, fun v later _ => ?_⟩)
    · refine ⟨good.calm, fun late _ _ => ?_, good.kept, good.ended, good.verdicts, good.budget⟩
      show (machineOf u).phase = .off
      rw [others.settled late down.stopped.alive]
      exact off rfl (others.late late)
    · refine inside_done fun w last _ => (later.trans last).free ?_
      obtain ⟨idle, listed, stopped, profile, sound⟩ := others.free free'
      refine ⟨idle, listed, stopped, profile, fun careful on => ?_⟩
      obtain ⟨cared, heeded⟩ := sound
        ⟨careful.early, careful.crossed, careful.exhausted, careful.relaunched⟩ on
      exact ⟨cared, heeded⟩

/-- An operation that may turn the mode on has begun. -/
theorem inside_begins {Q : Machine → Scene → Prop} (free : Free s)
    (post : ∀ t, Others s t → ∀ u, Free u → Opens u →
      (machineOf u).generation = (machineOf t).generation → Q (machineOf t) u) :
    Inside begins Q s := by
  refine inside_step fun t others good => ?_
  obtain ⟨idle, listed, stopped, profile, sound⟩ := others.free free
  refine ⟨⟨?_, ?_, good.kept, good.ended, good.verdicts, Budget.fresh _⟩, fun u later _ => ?_⟩
  · intro relaunched
    exact good.calm (Bool.or_eq_false_iff.mp relaunched).1
  · intro _ _ off
    cases off
  · refine post t others u (later.free ⟨idle, listed, stopped, profile, ?_⟩)
      (later.opens (.inl ⟨rfl, rfl, idle⟩)) later.generation
    intro careful on
    obtain ⟨cared, heeded⟩ := sound ⟨careful.early, careful.crossed, careful.exhausted,
      (Bool.or_eq_false_iff.mp careful.relaunched).1⟩ on
    exact ⟨cared, heeded⟩

theorem inside_connects {expected : Option String} {machine : Machine} {takeOver : Bool}
    (free : Free s) (opens : Opens s) :
    Inside (do releaseSession machine; connect expected none true takeOver false)
      (fun _ t => Free t) s := by
  refine inside_bind (inside_besides (besides_releaseSession machine) fun _ t others _ => ?_)
  exact inside_mono (inside_connect expected true takeOver false (others.free free)
    (others.opens opens) (.inl rfl)) fun _ u connected => connected.free

theorem inside_enable (expected : Option String) (free : Free s) :
    Inside (enable expected) (fun _ t => Free t) s := by
  refine inside_bind (inside_begins free fun t _ u free opens _ => ?_)
  split
  next => exact inside_free besides_done free
  next => exact inside_connects free opens

theorem inside_takeOver (expected : Option String) (free : Free s) :
    Inside (takeOver expected) (fun _ t => Free t) s := by
  refine inside_bind (inside_begins free fun t _ u free opens _ => ?_)
  split
  next => exact inside_free besides_done free
  next =>
    exact inside_mono (inside_connect expected true true false free opens (.inl rfl))
      fun _ u connected => connected.free

theorem inside_retry (expected : Option String) (free : Free s) :
    Inside (retry expected) (fun _ t => Free t) s := by
  refine inside_bind (inside_begins free fun t _ u free opens _ => ?_)
  refine inside_bind (inside_besides (besides_calm fun _ _ => rfl) fun _ v others _ => ?_)
  have free' := others.free free
  split
  next =>
    exact inside_mono (inside_disconnectCurrent free'.listed)
      fun _ w ends => ends.1.free free'.idle
  next => exact inside_connects free' (others.opens opens)

theorem inside_shutdown (free : Free s) : Inside shutdown (fun _ t => Free t) s := by
  refine inside_bind (inside_mono (inside_disconnectCurrent free.listed) fun _ t ends => ?_)
  have listed : ∀ l, t.1.alive l = true → l ∈ t.1.data.loops := by
    intro l here
    rw [ends.1.stopped.alive l] at here
    cases here
  refine inside_stopLoops listed fun u around stopped _ => Down.free (s := s) ?_ free.idle
  refine ⟨stopped, around.uninstalling.trans ends.1.uninstalling, ?_⟩
  rcases around.phase with same | contended
  · rw [same]
    exact ends.1.phase
  · exact .inr (.inr contended)

theorem besides_installMissing : Besides installMissing := by
  refine besides_bind besides_install fun installed => ?_
  cases installed with
  | error info => exact besides_done
  | ok => exact besides_waitForService

theorem besides_installService : Besides installService := by
  refine besides_bind besides_refreshInstalled fun installed => ?_
  refine besides_ite (fun _ => besides_bind (besides_calm fun _ _ => rfl) fun answer => ?_)
    fun _ => besides_installMissing
  cases (answer : Option (Except ServiceError (Option String))) with
  | none => exact besides_installMissing
  | some answer =>
    cases answer with
    | ok => exact besides_done
    | error => exact besides_installMissing

/-- Only whether an uninstall is under way changes. -/
theorem Good.uninstalling (good : Good s) (uninstalling : Bool) :
    Good ({ s.1 with uninstalling }, s.2) :=
  ⟨good.calm, good.off, good.kept, good.ended, good.verdicts, good.budget⟩

theorem inside_uninstallService (free : Free s) :
    Inside uninstallService (fun _ t => Free t) s := by
  refine inside_bind (inside_update fun t others good => ⟨good.uninstalling true, fun u later _ => ?_⟩)
  have listed : ∀ l, u.1.alive l = true → l ∈ u.1.data.loops := by
    intro l here
    rw [later.loops]
    exact (others.free free).listed l (later.alive l here)
  refine inside_bind (inside_mono (inside_disconnectCurrent listed) fun _ v ends => ?_)
  refine inside_bind (inside_besides (besides_calm fun _ _ => rfl) fun removed w others' _ => ?_)
  refine inside_bind (inside_besides (besides_calm fun _ _ => rfl) fun _ x later' _ => ?_)
  refine inside_bind (inside_besides besides_refreshInstalled fun _ y last _ => ?_)
  have down := ((ends.1.others others').others later').others last
  refine inside_bind (inside_update fun z final good' => ⟨good'.uninstalling false, fun a next_ _ => ?_⟩)
  have down' := down.others final
  have free' : Free (After .plain z { z.1 with uninstalling := false }) := {
    idle := rfl
    listed := fun l here => by
      have alive := down'.stopped.alive l
      rw [show z.1.alive l = true from here] at alive
      cases alive
    stopped := fun _ => down'.stopped.alive
    profile := fun phase => by
      rcases down'.phase with h | h | h <;>
        exact absurd (h.symm.trans phase) fun here => by cases here
    sound := fun _ phase => by
      rcases down'.phase with h | h | h <;>
        exact absurd (h.symm.trans phase) fun here => by cases here }
  have ends : ∀ r : Except ClientErrorInfo Unit, Inside (pure r : Task _) (fun _ t => Free t) a :=
    fun r => inside_done fun b end_ _ => (next_.trans end_).free free'
  cases (removed : Except PlatformError Unit) with
  | ok => exact ends _
  | error e =>
    cases e with
    | cancelled => exact ends _
    | failed message => exact ends _

/-! ### Profile updates -/

/-- The machine's phase and generation stay. -/
theorem Free.become {m : Machine} (free : Free s) (phase : m.phase = (machineOf s).phase)
    (generation : m.generation = (machineOf s).generation) : Free (Enhanced.become m s) where
  idle := free.idle
  listed := free.listed
  stopped := free.stopped
  profile here := free.profile (phase.symm.trans here)
  sound careful on := by
    have before : s.2.Careful :=
      ⟨careful.early, (Bool.or_eq_false_iff.mp careful.crossed).1, careful.exhausted,
        careful.relaunched⟩
    obtain ⟨cared, heeded⟩ := free.sound before (phase.symm.trans on)
    have heard : (Enhanced.become m s).2.heard = s.2.heard := if_pos generation
    refine ⟨?_, ?_⟩
    · rw [machineOf_become, generation]
      exact cared
    · rw [machineOf_become, generation, heard]
      exact heeded

/-- A phase that promises nothing about the loops. -/
theorem Free.rests {m : Machine} (free : Free s) (on : m.phase ≠ .on)
    (profile : m.phase = .reconnecting → s.1.data.profile.isSome = true) :
    Free (Enhanced.become m s) where
  idle := free.idle
  listed := free.listed
  stopped := free.stopped
  profile := profile
  sound _ here := absurd here on

/-- The loops of a generation that is on. -/
theorem Free.started (free : Free s) (current : (machineOf s).generation = g)
    (on : (machineOf s).phase = .on ∨ (machineOf s).phase = .contended) : Started g s where
  generation := current
  awake := by
    rcases on with h | h <;> exact fun here => by rw [h] at here; cases here
  lit := on.imp_left .inl
  idle := free.idle
  listed := free.listed
  stopped := free.stopped
  guarded careful live := free.sound careful (on.resolve_right live.not_contended)

theorem inside_pushProfile {machine : Machine} {profile : Profile} (free : Free s)
    (current : (machineOf s).generation = machine.generation)
    (on : (machineOf s).phase = .on ∨ (machineOf s).phase = .contended) :
    Inside (pushProfile machine profile) (fun _ t => Free t) s := by
  have lasts : ∀ {t u : Scene}, Others t u →
      ((machineOf t).phase = .on ∨ (machineOf t).phase = .contended) →
      (machineOf u).phase = .on ∨ (machineOf u).phase = .contended := by
    intro t u others on
    rcases others.phase with same | contended
    · rw [same]
      exact on
    · exact .inr contended
  have leaves : ∀ (r : Except ClientErrorInfo Unit) t, Free t →
      Inside (pure r : Task _) (fun _ t => Free t) t := fun r t free => inside_free besides_done free
  unfold pushProfile
  cases machine.session with
  | none => exact leaves _ _ free
  | some session =>
    refine inside_bind (inside_besides (besides_update fun s _ =>
      .of_data rfl rfl rfl rfl rfl) fun _ t others _ => ?_)
    refine inside_bind (inside_besides (besides_calm fun _ _ => rfl) fun updated u later _ => ?_)
    have others' := others.trans later
    have free' := others'.free free
    have current' := others'.generation.trans current
    have on' := lasts others' on
    cases (updated : Except ServiceError Unit) with
    | ok =>
      refine inside_bind (inside_machine (.inl rfl) fun v last good => ?_)
      refine ⟨some (Persisted.of { machineOf v with revision := some profile.revision }),
        { machineOf v with revision := some profile.revision }, ?_, ?_, fun w end_ _ => ?_⟩
      · rw [if_pos (last.generation.trans current')]
      · have awake := (free'.started current' on').awake
        exact good.become (.inr (last.awake awake)) (last.awake awake)
      have free'' := end_.free ((last.free free').become rfl rfl)
      have before := lasts last on'
      have on'' := lasts end_ before
      have current'' := end_.generation.trans (last.generation.trans current')
      refine inside_bind (inside_besides (besides_persist _) fun _ x next_ _ => ?_)
      refine inside_bind (inside_mono (inside_on ((next_.free free'').started
        (next_.generation.trans current'') (lasts next_ on'')) (.inl rfl)) fun _ y done => ?_)
      exact leaves _ _ done.1
    | error error =>
      dsimp only
      split
      next =>
        refine inside_bind (inside_mono (inside_on (free'.started current' on') (.inl rfl))
          fun _ y done => ?_)
        exact leaves _ _ done.1
      next =>
        refine inside_bind (inside_transition (.inl rfl) current' ?_ ?_)
        · exact fun v last good => good.become
            (.inr (last.awake (free'.started current' on').awake)) fun here => by cases here
        · intro v last _ w end_ _
          refine leaves _ _ (end_.free ((last.free free').rests (fun here => by cases here) ?_))
          exact fun here => by cases here

theorem inside_setProfile {profile : Profile} (free : Free s) :
    Inside (setProfile profile) (fun _ t => Free t) s := by
  refine inside_bind (inside_step fun t others good => ?_)
  have held : Others t (After .plain t
      { t.1 with data := { t.1.data with profile := some profile } }) :=
    { Others.refl t with profile := fun _ => rfl }
  refine ⟨⟨good.calm, good.off, good.kept, good.ended, good.verdicts, good.budget⟩,
    fun u later _ => ?_⟩
  have free' := (held.trans later).free (others.free free)
  dsimp only
  split
  next => exact inside_free besides_done free'
  next on =>
    rw [not_or, not_not] at on
    refine inside_pushProfile free' later.generation ?_
    rcases later.phase with same | contended
    · exact .inl (same.trans on.1)
    · exact .inr contended

theorem inside_reapply (free : Free s) : Inside reapply (fun _ t => Free t) s := by
  refine inside_bind (inside_read fun t others _ u later _ => ?_)
  have free' := (others.trans later).free free
  cases t.1.data.profile with
  | none => exact inside_free besides_done free'
  | some profile =>
    dsimp only
    split
    next => exact inside_free besides_done free'
    next on =>
      rw [not_not] at on
      refine inside_pushProfile free' later.generation ?_
      rcases later.phase with same | contended
      · exact .inl (same.trans on)
      · exact .inr contended

/-! ### At launch -/

/-- The machine of the last launch, before the service was asked. -/
structure Restored (g : UInt64) (s : Scene) : Prop where
  generation : (machineOf s).generation = g
  opens : Opens s
  idle : s.1.uninstalling = false
  listed : ∀ l, s.1.alive l = true → l ∈ s.1.data.loops
  stopped : s.1.data.loopsGeneration = none → ∀ l, s.1.alive l = false
  fresh : s.2.relaunched = false → Stopped s ∧ g ∉ s.2.heard

theorem Restored.others (restored : Restored g s) (others : Others s t) : Restored g t where
  generation := others.generation.trans restored.generation
  opens := others.opens restored.opens
  idle := others.uninstalling.trans restored.idle
  listed l here := by
    rw [others.loops]
    exact restored.listed l (others.alive l here)
  stopped none_ := others.stopped (restored.stopped (others.loopsGeneration.symm.trans none_))
  fresh here := by
    obtain ⟨stopped, unheard⟩ := restored.fresh (others.relaunched.symm.trans here)
    exact ⟨stopped.others others, others.unheard stopped.alive unheard⟩

theorem Restored.become {m : Machine} (restored : Restored g s) (generation : m.generation = g)
    (awake : m.phase ≠ .off) : Restored g (become m s) where
  generation := generation
  opens := .inr awake
  idle := restored.idle
  listed := restored.listed
  stopped := restored.stopped
  fresh here := by
    obtain ⟨stopped, unheard⟩ := restored.fresh here
    refine ⟨⟨stopped.alive, stopped.none_⟩, ?_⟩
    have heard : (Enhanced.become m s).2.heard = s.2.heard :=
      if_pos (generation.trans restored.generation.symm)
    rw [heard]
    exact unheard

theorem Restored.free (restored : Restored g s)
    (phase : (machineOf s).phase ≠ .on ∧ (machineOf s).phase ≠ .reconnecting) : Free s where
  idle := restored.idle
  listed := restored.listed
  stopped := restored.stopped
  profile here := absurd here phase.2
  sound _ here := absurd here phase.1

theorem Started.free (started : Started g s) : Free s where
  idle := started.idle
  listed := started.listed
  stopped := started.stopped
  profile here := by
    rcases started.lit with (on | starting) | contended
    · rw [here] at on
      cases on
    · rw [here] at starting
      cases starting
    · rw [here] at contended
      cases contended
  sound careful on := started.guarded careful (.inl on)

/-- A failure, or someone else's connection. -/
theorem inside_restoredAs {phase : ConnectionPhase} {reason : Option ClientErrorInfo}
    {retryable : Bool} (restored : Restored g s) (ends : phase = .error ∨ phase = .contended) :
    Inside (do let _ ← transition none g phase reason retryable; pure ())
      (fun _ t => Free t) s := by
  refine inside_bind (inside_transition (.inl rfl) restored.generation ?_ ?_)
  · intro t others good
    refine good.become (others.opens restored.opens) ?_
    rcases ends with rfl | rfl <;> exact fun here => by cases here
  intro t others _ u later _
  have restored' := (restored.others others).become
    (m := (machineOf t).moved phase reason retryable)
    (others.generation.trans restored.generation)
    (by rcases ends with rfl | rfl <;> exact fun here => by cases here)
  refine inside_free besides_done (later.free (restored'.free ⟨?_, ?_⟩))
  · rcases ends with rfl | rfl <;> exact fun here => by cases here
  · rcases ends with rfl | rfl <;> exact fun here => by cases here

theorem inside_resumed {session : Option SessionRef} (restored : Restored g s)
    (awake : (machineOf s).phase ≠ .off ∧ (machineOf s).phase ≠ .on ∧
      (machineOf s).phase ≠ .reconnecting)
    (named : session = (machineOf s).session) :
    Inside (resumed g session) (fun _ t => Free t) s := by
  refine inside_bind (inside_besides (besides_calm fun _ _ => rfl) fun answer t others _ => ?_)
  have restored' := restored.others others
  have still : (machineOf t).phase ≠ .off ∧ (machineOf t).phase ≠ .on ∧
      (machineOf t).phase ≠ .reconnecting := by
    rcases others.phase with same | contended
    · rw [same]
      exact awake
    · rw [contended]
      exact ⟨(fun h => by cases h), (fun h => by cases h), fun h => by cases h⟩
  cases (answer : Except ServiceError ServiceStatus) with
  | error error => exact inside_restoredAs restored' (.inl rfl)
  | ok status =>
    dsimp only
    split
    next runs =>
      have some_ : (machineOf t).session.isSome = true := by
        rw [others.sessionOf, ← named]
        cases session with
        | none => cases runs
        | some session => rfl
      refine inside_bind (inside_transition (.inl rfl) restored'.generation ?_ ?_)
      · exact fun u later good =>
          good.become (later.opens restored'.opens) fun here => by cases here
      intro u later _ v last _
      have on := ((restored'.others later).become (m := (machineOf u).moved .on none false)
        (later.generation.trans restored'.generation) (fun here => by cases here)).others last
      have lit : Live v ∨ (machineOf v).phase = .contended := last.lit (.inl (.inl rfl))
      refine inside_startLoops ?_ fun w started _ => started.free
      exact {
        generation := on.generation
        awake := last.awake fun here => by cases here
        lit := lit
        idle := on.idle
        listed := on.listed
        stopped := on.stopped
        fresh := fun careful => on.fresh careful.relaunched
        session := fun _ => by
          rw [last.sessionOf]
          have same : (machineOf u).session = (machineOf t).session := later.sessionOf
          rw [← same] at some_
          exact some_ }
    next =>
      split
      next => exact inside_restoredAs restored' (.inr rfl)
      next =>
        split
        next => exact inside_restoredAs restored' (.inr rfl)
        next =>
          refine inside_bind (inside_machine (.inl rfl) fun u later good => ?_)
          have awake' := later.awake still.1
          refine ⟨_, { machineOf u with desiredOn := false, sessionId := none }, rfl,
            good.become (.inr awake') awake', fun v last _ => ?_⟩
          have undesired := ((restored'.others later).become
            (m := { machineOf u with desiredOn := false, sessionId := none })
            (later.generation.trans restored'.generation) awake').others last
          refine inside_bind (inside_transition (.inl rfl) undesired.generation ?_ ?_)
          · exact fun w end_ good' => good'.down rfl fun here =>
              ((undesired.others end_).fresh here).1.alive
          intro w end_ _ x done _
          have last' := undesired.others end_
          refine inside_free (besides_persist _) (done.free ?_)
          exact {
            idle := last'.idle
            listed := last'.listed
            stopped := last'.stopped
            profile := fun here => by cases here
            sound := fun _ here => by cases here }

theorem inside_restore (free : Free s) : Inside restore (fun _ t => Free t) s := by
  refine inside_bind (inside_besides besides_refreshInstalled fun _ t others _ => ?_)
  refine inside_bind (inside_besides (besides_calm fun _ _ => rfl) fun loaded u later _ => ?_)
  have free' := (others.trans later).free free
  cases (loaded : Option Persisted) with
  | none => exact inside_free besides_emit free'
  | some persisted =>
    refine inside_bind (inside_step fun v last good => ?_)
    obtain ⟨idle, listed, stopped, -, -⟩ := last.free free'
    have alone : (v.2.relaunched || v.1.data.loopsGeneration.isSome) = false →
        Stopped v := by
      intro here
      have none_ : v.1.data.loopsGeneration = none := by
        simpa using (Bool.or_eq_false_iff.mp here).2
      exact ⟨stopped none_, none_⟩
    refine ⟨⟨?_, ?_, good.kept, good.ended, good.verdicts, good.budget⟩, fun w end_ _ => ?_⟩
    · intro here _
      exact (alone (by simpa [note] using here)).alive
    · intro _ _ off
      cases off
    have restored : Restored persisted.generation w := by
      refine Restored.others ?_ end_
      refine ⟨rfl, .inl ⟨rfl, rfl, idle⟩, idle, listed, stopped, fun here => ?_⟩
      obtain ⟨alive, none_⟩ := alone (by simpa [note] using here)
      exact ⟨⟨alive, none_⟩, List.not_mem_nil⟩
    have phase : (machineOf w).phase = (if persisted.desired then .preparing else .off) ∨
        (machineOf w).phase = .contended := end_.phase
    have quiet : (machineOf w).phase ≠ .on ∧ (machineOf w).phase ≠ .reconnecting := by
      rcases phase with h | h
      · rw [h]
        split <;> exact ⟨(fun h => by cases h), fun h => by cases h⟩
      · rw [h]
        exact ⟨(fun h => by cases h), fun h => by cases h⟩
    split
    next => exact inside_free besides_emit (restored.free quiet)
    next desired =>
      refine inside_resumed restored ⟨?_, quiet⟩ end_.sessionOf.symm
      have desired' : persisted.desired = true := by simpa using desired
      rw [desired', if_pos rfl] at phase
      rcases phase with h | h <;> exact fun here => by rw [h] at here; cases here

/-! ## Recovery -/

theorem obeys_bind {task : Task α} {k : α → Task Unit} (good : Good s)
    (spec : Inside task (fun a t => Good t → Obeys discipline (watch (k a)) (some t)) s) :
    Obeys discipline (watch (task >>= k)) (some s) := by
  show Obeys discipline (Prog.noted id note (task.bind k)) (some s)
  rw [Prog.noted_bind]
  exact Obeys.of_wp good (wp_mono (wp_good spec) fun _ _ h => h.2 h.1)

/-- A reconnect is asked of the budget; nothing else changes. -/
theorem keeps_claim {I : Scene → Prop} (stable : ∀ s t, Others s t → I s → I t)
    (blind : ∀ (s : Scene) routingReconnects grants now, I s →
      I ({ s.1 with data := { s.1.data with routingReconnects } }, { s.2 with grants, now })) :
    Keeps I claimRoutingReconnect := by
  intro s here
  refine inside_bind (inside_ask fun now t others answer good => ?_)
  have heard : Good (beside effect hear .clock now t) :=
    ⟨good.calm, good.off, good.kept, good.ended, good.verdicts, good.budget.later answer⟩
  refine ⟨heard, fun u later _ => ?_⟩
  refine inside_step fun v last good' => ?_
  have clock : v.2.now = now := (later.trans last).now
  have known : I (beside effect hear .clock now t) :=
    blind t t.1.data.routingReconnects t.2.grants now (stable _ _ others here)
  have known' : I v := stable _ _ (later.trans last) known
  have claimed := good'.budget
  rw [clock] at claimed
  refine ⟨⟨good'.calm, good'.off, good'.kept, good'.ended, good'.verdicts, ?_⟩, fun w end_ _ => ?_⟩
  · show Budget _ _ v.2.now
    rw [clock]
    exact claimed.claim
  · exact stable _ _ end_ (blind v _ _ v.2.now known')

/-- The recovery of generation `g` has the lock; the machine is not off. -/
structure Recovering (g : UInt64) (s : Scene) : Prop where
  generation : (machineOf s).generation = g
  awake : (machineOf s).phase ≠ .off
  idle : s.1.uninstalling = false
  listed : ∀ l, s.1.alive l = true → l ∈ s.1.data.loops
  stopped : s.1.data.loopsGeneration = none → ∀ l, s.1.alive l = false
  profile : (machineOf s).phase = .reconnecting → s.1.data.profile.isSome = true

theorem Recovering.others (recovering : Recovering g s) (others : Others s t) : Recovering g t where
  generation := others.generation.trans recovering.generation
  awake := others.awake recovering.awake
  idle := others.uninstalling.trans recovering.idle
  listed l here := by
    rw [others.loops]
    exact recovering.listed l (others.alive l here)
  stopped none_ := others.stopped (recovering.stopped (others.loopsGeneration.symm.trans none_))
  profile phase := by
    rcases others.phase with same | contended
    · exact others.profile (recovering.profile (same.symm.trans phase))
    · exact absurd (contended.symm.trans phase) fun here => by cases here

theorem Recovering.claimed (recovering : Recovering g s) (routingReconnects : RoutingReconnects)
    (grants : List Nat) (now : Nat) :
    Recovering g ({ s.1 with data := { s.1.data with routingReconnects } },
      { s.2 with grants, now }) :=
  ⟨recovering.generation, recovering.awake, recovering.idle, recovering.listed, recovering.stopped,
    recovering.profile⟩

theorem Recovering.become {m : Machine} (recovering : Recovering g s) (generation : m.generation = g)
    (awake : m.phase ≠ .off)
    (profile : m.phase = .reconnecting → s.1.data.profile.isSome = true) :
    Recovering g (become m s) :=
  ⟨generation, awake, recovering.idle, recovering.listed, recovering.stopped, profile⟩

/-- Nothing is promised about a generation that is not on. -/
theorem Recovering.free (recovering : Recovering g s) (unlit : (machineOf s).phase ≠ .on) : Free s :=
  ⟨recovering.idle, recovering.listed, recovering.stopped, recovering.profile,
    fun _ on => absurd on unlit⟩

theorem Resting.recovering (resting : Resting s) : Recovering (machineOf s).generation s :=
  ⟨rfl, resting.awake, resting.free.idle, resting.free.listed, resting.free.stopped,
    fun _ => resting.profile⟩

theorem Recovering.resting (recovering : Recovering g s) (unlit : (machineOf s).phase ≠ .on)
    (profile : s.1.data.profile.isSome = true) : Resting s :=
  ⟨recovering.free unlit, recovering.awake, unlit, profile⟩

theorem outcome_others (others : Others s t) (outcome : (machineOf s).phase.outcome = true) :
    (machineOf t).phase.outcome = true := by
  rcases others.phase with same | contended
  · rw [same]
    exact outcome
  · rw [contended]
    rfl

/-- A recovery may end. -/
structure Over (s : Scene) : Prop where
  free : Free s
  outcome : s.2.exhausted = false → (machineOf s).phase.outcome = true

theorem Over.others (closed : Over s) (others : Others s t) : Over t :=
  ⟨others.free closed.free, fun here =>
    outcome_others others (closed.outcome (others.exhausted.symm.trans here))⟩

theorem obeys_recovered (closed : Over s) : Obeys discipline (watch recovered) (some s) := by
  intro t others good
  have closed' := closed.others others
  refine ⟨?_, fun u later _ => ⟨later.free ?_, trivial⟩⟩
  · refine ⟨good.calm, good.off, good.kept, fun here => ?_, good.verdicts, good.budget⟩
    show (t.2.hung || !(machineOf t).phase.outcome) = false
    rw [good.ended here, closed'.outcome here]
    rfl
  · obtain ⟨idle, listed, stopped, profile, sound⟩ := closed'.free
    refine ⟨idle, listed, stopped, profile, fun careful on => ?_⟩
    obtain ⟨cared, heeded⟩ := sound
      ⟨careful.early, careful.crossed, careful.exhausted, careful.relaunched⟩ on
    exact ⟨cared, heeded⟩

variable {phase : ConnectionPhase} {reason : Option ClientErrorInfo} {retryable : Bool}

/-- A transition of the recovery's own generation. -/
theorem inside_moves {Q : Bool → Scene → Prop} (recovering : Recovering g s) (awake : phase ≠ .off)
    (profile : phase = .reconnecting → s.1.data.profile.isSome = true)
    (post : ∀ u, Recovering g u → ((machineOf u).phase = phase ∨ (machineOf u).phase = .contended) →
      (s.1.data.profile.isSome = true → u.1.data.profile.isSome = true) →
      u.2.exhausted = s.2.exhausted → Good u → Q true u) :
    Inside (transition (some g) g phase reason retryable) Q s := by
  refine inside_transition (.inr rfl) recovering.generation ?_ ?_
  · exact fun t others good => good.become (.inr (others.awake recovering.awake)) awake
  intro t others _ u later good
  refine post u ?_ later.phase ?_ ?_ good
  · refine Recovering.others ?_ later
    exact (recovering.others others).become (others.generation.trans recovering.generation) awake
      fun here => others.profile (profile here)
  · exact fun here => later.profile (others.profile here)
  · exact later.exhausted.trans others.exhausted

/-- A transition after which a recovery ends. -/
theorem inside_ends (recovering : Recovering g s) (ends : phase = .error ∨ phase = .contended) :
    Inside (transition (some g) g phase reason retryable) (fun _ t => Over t) s := by
  refine inside_moves recovering ?_ ?_ fun u ended phase_ _ _ _ => ?_
  · rcases ends with rfl | rfl <;> exact fun here => by cases here
  · rcases ends with rfl | rfl <;> exact fun here => by cases here
  have outcome : (machineOf u).phase = .error ∨ (machineOf u).phase = .contended := by
    rcases phase_ with same | contended
    · rw [same]
      exact ends
    · exact .inr contended
  refine ⟨ended.free ?_, fun _ => ?_⟩
  · rcases outcome with h | h <;> exact fun here => by rw [h] at here; cases here
  · rcases outcome with h | h <;> rw [h] <;> rfl

theorem inside_routingTakenOver (recovering : Recovering g s) :
    Inside (routingTakenOver g) (fun _ t => Over t) s := by
  refine inside_bind (inside_mono (inside_ends recovering (.inr rfl)) fun _ t closed => ?_)
  exact inside_done fun u others _ => closed.others others

/-- A task after which the recovery ends. -/
theorem obeys_over {task : Task α} (good : Good s) (spec : Inside task (fun _ t => Over t) s) :
    Obeys discipline (watch (do let _ ← task; recovered)) (some s) :=
  obeys_bind good (inside_mono spec fun _ _ closed _ => obeys_recovered closed)

/-! ### From one attempt to the next -/

/-- What a recovery knows of the machine it read in `r`. -/
structure Knows (r s : Scene) : Prop where
  recovering : Recovering (machineOf r).generation s
  unlit : (machineOf s).phase ≠ .on
  profile : s.1.data.profile.isSome = true
  exhausted : s.2.exhausted = r.2.exhausted
  phase : (machineOf s).phase = (machineOf r).phase ∨ (machineOf s).phase = .contended

theorem Knows.others {r : Scene} (knows : Knows r s) (others : Others s t) : Knows r t where
  recovering := knows.recovering.others others
  unlit := others.unlit knows.unlit
  profile := others.profile knows.profile
  exhausted := others.exhausted.trans knows.exhausted
  phase := by
    rcases others.phase with same | contended
    · rw [same]
      exact knows.phase
    · exact .inr contended

/-- The recovery goes on with another attempt. -/
def GoesOn (again : UInt64 → Task Unit) : Prop :=
  ∀ g s, Good s → Recovering g s → (machineOf s).phase ≠ .on →
    Obeys discipline (watch (again g)) (some s)

/-- A failed attempt another does not follow is an outcome. -/
theorem Knows.over {r : Scene} {retrying : Bool} (knows : Knows r s)
    (failed : r.2.exhausted = false → (∃ g, Failed g retrying r) ∧ ¬(retrying = true ∧ Again r)) :
    Over s := by
  refine ⟨knows.recovering.free knows.unlit, fun here => ?_⟩
  obtain ⟨⟨g, failed⟩, final⟩ := failed (knows.exhausted.symm.trans here)
  rcases knows.phase with same | contended
  · rw [same]
    rcases failed.left with h | h | again
    · rw [h]
      rfl
    · rw [h]
      rfl
    · exact absurd again final
  · rw [contended]
    rfl

theorem obeys_follow {again : UInt64 → Task Unit} {attempt : Nat} {r : Scene}
    (goes : GoesOn again) (good : Good s) (knows : Knows r s)
    (failed : r.2.exhausted = false → ∃ g, Failed g (serviceBackoff attempt).isSome r) :
    Obeys discipline (watch (follow again attempt (machineOf r))) (some s) := by
  have ends : ¬((serviceBackoff attempt).isSome = true ∧ Again r) →
      Obeys discipline (watch recovered) (some s) :=
    fun final => obeys_recovered (knows.over fun here => ⟨failed here, final⟩)
  unfold follow
  cases reason : (machineOf r).reason with
  | none =>
    refine ends fun h => ?_
    obtain ⟨why, some_, -⟩ := h.2.reason
    rw [reason] at some_
    cases some_
  | some why =>
    dsimp only
    split
    next => exact goes _ s good knows.recovering knows.unlit
    next up =>
      split
      next path =>
        refine obeys_bind good (inside_moves knows.recovering (fun here => by cases here)
          (fun _ => knows.profile) fun u recovering phase _ _ good' _ => ?_)
        refine goes _ u good' recovering ?_
        rcases phase with h | h <;> exact fun here => by rw [h] at here; cases here
      next noPath =>
        split
        next => exact obeys_over good (inside_ends knows.recovering (.inr rfl))
        next =>
          refine ends fun h => ?_
          obtain ⟨may, again⟩ := h
          obtain ⟨why', some_, cause⟩ := again.reason
          cases reason.symm.trans some_
          rcases cause with down | path
          · exact up (by simp [again.phase, down])
          · exact noPath (by simp [path, again.alone, may])

theorem obeys_afterAttempt {again : UInt64 → Task Unit} {attempt : Nat} (goes : GoesOn again)
    (good : Good s) (resting : Resting s)
    (failed : s.2.exhausted = false → ∃ g, Failed g (serviceBackoff attempt).isSome s) :
    Obeys discipline (watch (afterAttempt again attempt)) (some s) := by
  refine obeys_bind good (inside_read fun r others _ t later _ good => ?_)
  have resting' := resting.others others
  have failed' : r.2.exhausted = false → ∃ g, Failed g (serviceBackoff attempt).isSome r := by
    intro here
    obtain ⟨g, failed⟩ := failed (others.exhausted.symm.trans here)
    exact ⟨g, failed.others others⟩
  have knows : Knows r t := by
    refine Knows.others ⟨resting'.recovering, resting'.unlit, resting'.profile, rfl, .inl rfl⟩ later
  have decided : ∀ (granted : Bool) u, Good u → Knows r u →
      Obeys discipline (watch (followIf again attempt (machineOf r) granted)) (some u) := by
    intro granted u good knows
    cases granted with
    | false => exact obeys_over good (inside_routingTakenOver knows.recovering)
    | true => exact obeys_follow goes good knows failed'
  dsimp only
  split
  next =>
    refine obeys_bind good (inside_mono (keeps_claim (fun _ _ others knows => Knows.others knows others)
      ?_ t knows) fun granted u knows good => decided granted u good knows)
    intro u routingReconnects grants now knows
    exact ⟨knows.recovering.claimed _ _ _, knows.unlit, knows.profile, knows.exhausted, knows.phase⟩
  next =>
    exact obeys_bind good (inside_done fun u others _ good => decided true u good (knows.others others))

theorem obeys_reconnect (expected : Option String) {again : UInt64 → Task Unit} {attempt : Nat}
    (goes : GoesOn again) (good : Good s) (resting : Resting s)
    (current : (machineOf s).generation = g) :
    Obeys discipline (watch (reconnect expected again attempt g)) (some s) := by
  subst current
  refine obeys_bind good (inside_mono (inside_connect expected false false _ resting.free
    (.inr resting.awake) (.inr rfl)) fun result t connected good' => ?_)
  cases result with
  | ok =>
    refine obeys_recovered ⟨connected.free, fun _ => ?_⟩
    rcases connected.on rfl with h | h <;> rw [h] <;> rfl
  | error info =>
    obtain ⟨resting', failed⟩ := connected.failed (fun ok => by cases ok) resting
    exact obeys_afterAttempt goes good' resting' failed

/-- A pause is spent without the lock; whoever took over keeps the machine. -/
theorem goesOn_pauseThenReconnect (expected : Option String) (left : Nat) :
    GoesOn (pauseThenReconnect expected left) := by
  induction left with
  | zero =>
    intro g s good recovering _
    refine obeys_bind good (inside_read fun t others _ u later _ good' => ?_)
    exact obeys_over good' (inside_ends ((recovering.others others).others later) (.inl rfl))
  | succ left ih =>
    intro g s good recovering unlit
    refine fun t moved _ => ⟨(recovering.others moved).free (moved.unlit unlit), ?_⟩
    refine Obeys.call (fun _ _ moved _ inv => moved.free inv) (fun _ _ => trivial)
      fun r u good _ => ⟨⟨Others.refl u, good⟩, ?_⟩
    refine ⟨fun v good free => ?_, fun timed => by cases timed⟩
    intro w others good'
    refine ⟨good', ?_⟩
    have free' : Free w := others.free free
    show Obeys discipline (watch (if (machineOf w).Is g .reconnecting then
      reconnect expected (pauseThenReconnect expected left)
        (serviceBackoffAttempts - (left + 1) + 1) g else .unlock (.ret ()))) (some w)
    split
    next still =>
      refine obeys_reconnect expected ih good' ⟨free', ?_, ?_, free'.profile still.2⟩ still.1
      · rw [still.2]
        exact fun here => by cases here
      · rw [still.2]
        exact fun here => by cases here
    next => exact fun x later _ => ⟨later.free free', trivial⟩

/-! ### The whole of it -/

theorem Recovering.halted (recovering : Recovering g s) (around : Around s t)
    (stopped : Stopped t) : Recovering g t where
  generation := around.generation.trans recovering.generation
  awake := around.awake recovering.awake
  idle := around.uninstalling.trans recovering.idle
  listed l here := by
    rw [stopped.alive l] at here
    cases here
  stopped _ := stopped.alive
  profile phase := by
    rcases around.phase with same | contended
    · exact around.profile (recovering.profile (same.symm.trans phase))
    · exact absurd (contended.symm.trans phase) fun here => by cases here

theorem obeys_giveUp {machine : Machine} {cause : ClientErrorInfo} (good : Good s)
    (recovering : Recovering g s) :
    Obeys discipline (watch (giveUp machine g cause)) (some s) := by
  refine obeys_bind good (inside_stopLoops recovering.listed fun t around stopped _ good => ?_)
  refine obeys_bind good (inside_besides (besides_releaseSession machine) fun _ u others _ good => ?_)
  have recovering' := (recovering.halted around stopped).others others
  split
  next => exact obeys_over good (inside_ends recovering' (.inr rfl))
  next => exact obeys_over good (inside_ends recovering' (.inl rfl))

/-- The reconnect of a recovery that found its generation on. -/
theorem obeys_reconnects (expected : Option String) {cause : ClientErrorInfo} (found : Found)
    (granted : Bool) (good : Good s) (recovering : Recovering g s)
    (profile : s.1.data.profile.isSome = true) :
    Obeys discipline (watch (reconnects expected g cause found granted)) (some s) := by
  cases granted with
  | false =>
    refine obeys_bind good (inside_stopLoops recovering.listed fun t around stopped _ good => ?_)
    refine obeys_bind good (inside_besides (besides_releaseSession _) fun _ u others _ good => ?_)
    exact obeys_over good (inside_routingTakenOver ((recovering.halted around stopped).others others))
  | true =>
    refine obeys_bind good (inside_moves recovering (fun here => by cases here) (fun _ => profile)
      fun t recovering' phase held _ _ good => ?_)
    have unlit : (machineOf t).phase ≠ .on := by
      rcases phase with h | h <;> exact fun here => by rw [h] at here; cases here
    refine obeys_bind good (inside_besides (besides_releaseSession _) fun _ u others _ good => ?_)
    have later := recovering'.others others
    have goes := goesOn_pauseThenReconnect expected serviceBackoffAttempts
    split
    next => exact goes g u good later (others.unlit unlit)
    next =>
      exact obeys_reconnect expected goes good
        (later.resting (others.unlit unlit) (others.profile (held profile))) later.generation

/-- Another generation's recoveries stay pending. -/
theorem Pending.erase {g' : UInt64} {cause : ClientErrorInfo} {u : State}
    (pending : Pending g' u) (other : g' ≠ g) :
    Pending g' { u with waiting := u.waiting.erase (g, cause) } := by
  obtain ⟨why, spawned | waiting⟩ := pending
  · exact ⟨why, .inl spawned⟩
  · refine ⟨why, .inr ((List.mem_erase_of_ne fun same => other ?_).mpr waiting)⟩
    exact (Prod.mk.inj same).1

theorem Free.erase {cause : ClientErrorInfo} (free : Free s)
    (off : ¬(machineOf s).Is g .on) :
    Free ({ s.1 with waiting := s.1.waiting.erase (g, cause) }, s.2) where
  idle := free.idle
  listed := free.listed
  stopped := free.stopped
  profile := free.profile
  sound careful on := by
    have other : (machineOf s).generation ≠ g := fun same => off ⟨same, on⟩
    obtain ⟨cared, heeded⟩ := free.sound careful on
    refine ⟨cared.imp_right fun pending => pending.erase other, fun here => ?_⟩
    exact (heeded here).imp_right fun pending => pending.erase other

theorem obeys_recover (expected : Option String) (generation : UInt64) (cause : ClientErrorInfo) :
    Obeys discipline (watch (recover expected generation cause)) none := by
  refine ⟨fun s good free => ?_, fun timed => by cases timed⟩
  refine obeys_bind good (inside_step fun t others good => ?_)
  have free' := others.free free
  by_cases on : (machineOf t).Is generation .on
  · rw [if_pos on]
    refine ⟨⟨good.calm, good.off, good.kept, good.ended, good.verdicts, good.budget⟩,
      fun u later _ good => ?_⟩
    have recovering : Recovering generation u := by
      refine Recovering.others ?_ later
      refine ⟨on.1, ?_, free'.idle, free'.listed, free'.stopped, free'.profile⟩
      intro here
      exact absurd (on.2.symm.trans here) fun here => by cases here
    dsimp only [recoverFound]
    split
    next => exact obeys_giveUp good recovering
    next has =>
      have profile : u.1.data.profile.isSome = true := later.profile (Option.isSome_iff_ne_none.mpr (by simpa using has))
      split
      next =>
        refine obeys_bind good (inside_mono (keeps_claim
          (I := fun v => Recovering generation v ∧ v.1.data.profile.isSome = true)
          (fun _ _ others known => ⟨known.1.others others, others.profile known.2⟩)
          (fun _ _ _ _ known => ⟨known.1.claimed _ _ _, known.2⟩) u ⟨recovering, profile⟩)
          fun granted v known good => obeys_reconnects expected _ granted good known.1 known.2)
      next =>
        exact obeys_bind good (inside_done fun v others _ good => obeys_reconnects expected _ true
          good (recovering.others others) (others.profile profile))
  · rw [if_neg on]
    refine ⟨⟨good.calm, good.off, good.kept, good.ended, good.verdicts, good.budget⟩,
      fun u later _ _ => ?_⟩
    exact fun v last _ => ⟨(later.trans last).free (free'.erase on), trivial⟩

/-! ## A process -/

theorem Slip.taken {job : Job} (good : Good s) (answer : answers .take job s) :
    Slip s (beside effect hear .take job s) := by
  cases job with
  | loop l verdict =>
    have here : s.1.table l = .asleep verdict := answer
    refine .of_put s.2.heard s.2.early (.of_put s.1 l _) rfl rfl ?_ ?_ (fun _ => .inl) id ?_ ?_
    · exact fun _ => by rw [State.alive, here]; rfl
    · exact good.no_fallback (l := l) (by rw [here]; rfl)
    · exact fun _ _ _ _ _ => .inl rfl
    · intro _ _ _ _ told
      rw [here] at told
      exact .inl told
  | recover generation cause =>
    have pending : ∀ {g}, Pending g s.1 → Pending g (s.1.taken (.recover generation cause)) := by
      intro g pending
      obtain ⟨why, spawned | waiting⟩ := pending
      · by_cases same : (g, why) = (generation, cause)
        · exact ⟨why, .inr (by rw [same]; exact List.mem_cons_self)⟩
        · exact ⟨why, .inl ((List.mem_erase_of_ne same).mpr spawned)⟩
      · exact ⟨why, .inr (List.mem_cons_of_mem _ waiting)⟩
    exact {
      Slip.refl s with
      past := ⟨_, _, _, rfl⟩
      off := .inl
      heard := fun _ => .inl
      early := id
      cared := fun _ _ cared => cared.imp_right pending
      heeded := fun _ _ heeded here => (heeded here).imp_right pending }

theorem obeys_job (expected : Option String) {job : Job} (good : Good s)
    (answer : answers .take job s) : Obeys discipline (watch (job.run expected)) none := by
  cases job with
  | recover generation cause => exact obeys_recover expected generation cause
  | loop l verdict =>
    have here : s.1.table l = .asleep verdict := answer
    have means : verdict ≠ some .fallback := good.no_fallback (l := l) (by rw [here]; rfl)
    show Obeys discipline (watch (runLoop expected l verdict)) none
    unfold runLoop
    cases kind : l.kind with
    | lease =>
      exact obeys_of_besides (besides_leaseLoop expected (by rw [kind]; exact fun h => by cases h))
    | health => exact obeys_healthLoop kind
    | watch => exact obeys_of_besides (besides_watchLoop kind means)

/-- The flag an uninstall sets is read before the phase. -/
theorem obeys_disableOp : Obeys discipline (watch disableOp) none := by
  have waits : Obeys discipline (watch (Prog.withLock (quietly disable))) none :=
    obeys_withLock fun s _ free => inside_quietly (inside_disable free)
  have idles : ∀ s : Scene, Slip s (After .idle s s.1) := by
    intro s
    refine {
      Slip.refl s with
      past := ⟨s.2.heard, s.2.early, _, rfl⟩
      off := fun here => ?_
      heard := fun _ => .inl
      early := id
      cared := fun _ _ => id
      heeded := fun _ _ => id }
    rcases Bool.or_eq_true_iff.mp here with before | now
    · exact .inl before
    · simp only [Bool.and_eq_true, Bool.or_eq_true, decide_eq_true_eq] at now
      exact .inr ⟨now.2, now.1⟩
  refine Obeys.sec (fun held s here _ => ?_) fun s => ?_
  · exact ⟨here.1, fun _ => Others.refl s, fun free => here.2 free⟩
  show Obeys discipline (watch (if s.1.uninstalling then _ else _)) none
  split
  next =>
    refine Obeys.sec (fun held t here _ => ?_) fun t => ?_
    · refine ⟨(idles t).good here.1, fun _ => (idles t).others, fun free => ?_⟩
      exact (idles t).others.free (here.2 free)
    · show Obeys discipline (watch (if t.1.data.machine.phase = .off then _ else _)) none
      split
      next => exact trivial
      next => exact waits
  next => exact waits

/-- Every task of a process keeps to it. -/
theorem obeys_op (expected : Option String) (op : Op) :
    Obeys discipline (watch (op.task expected)) none := by
  cases op with
  | restore => exact obeys_withLock fun s _ free => inside_restore free
  | enable => exact obeys_withLock fun s _ free => inside_quietly (inside_enable expected free)
  | disable => exact obeys_disableOp
  | retry => exact obeys_withLock fun s _ free => inside_quietly (inside_retry expected free)
  | takeOver => exact obeys_withLock fun s _ free => inside_quietly (inside_takeOver expected free)
  | reapply => exact obeys_withLock fun s _ free => inside_quietly (inside_reapply free)
  | shutdown => exact obeys_withLock fun s _ free => inside_shutdown free
  | setProfile profile => exact obeys_withLock fun s _ free => inside_quietly (inside_setProfile free)
  | installService =>
    exact obeys_withLock fun s _ free => inside_quietly (inside_free besides_installService free)
  | uninstallService =>
    exact obeys_withLock fun s _ free => inside_quietly (inside_uninstallService free)
  | refreshServiceInstalled =>
    exact obeys_of_besides (besides_bind besides_refreshInstalled fun _ => besides_done)
  | worker =>
    refine Obeys.call (fun _ _ moved _ inv => moved.free inv) (fun _ _ => trivial)
      fun job s good answer => ⟨?_, obeys_job expected good answer⟩
    exact ⟨(Slip.taken good answer).others, (Slip.taken good answer).good good⟩

end PpvpnCore.Desktop.Enhanced
