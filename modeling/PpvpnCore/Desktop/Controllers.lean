import PpvpnCore.Desktop.Recover
import PpvpnCore.Desktop.Modes

/-!
# The controllers, each alone

What the two controllers may answer to a call that is one step: a run of the
call with nothing in between ends as `Modes.answers` says.
-/

namespace PpvpnCore.Desktop.Modes

open Lib
open App

/-! ## Compatible mode -/

section

variable {V : Type} {s s' : Desktop.State V}

abbrev compatAlone (V : Type) : Env (Desktop.State V) (Desktop.Answer (V := V)) :=
  Env.still Desktop.effect fun _ _ _ => True

theorem wp_switchOff (W : Writer V) :
    wp (compatAlone V) (Desktop.switchOff W) (fun _ t => t.data.state.phase = .off) s :=
  wp_bind (wp_mono wp_still_any fun _ _ _ => wp_still_sec (wp_still_sec (wp_still_ret rfl)))

theorem wp_read :
    wp (compatAlone V) (Desktop.read (V := V)) (fun found t => found = s ∧ t = s) s :=
  wp_still_sec (wp_still_ret ⟨rfl, rfl⟩)

theorem wp_hasBackup : wp (compatAlone V) (Desktop.hasBackup (V := V)) (fun _ t => t = s) s :=
  wp_still_sec (wp_still_ret rfl)

theorem wp_disconnect (W : Writer V) :
    wp (compatAlone V) (Desktop.disconnect W) (fun _ t => t.data.state.phase = .off) s := by
  refine wp_bind (wp_mono wp_read fun found t same => ?_)
  rw [same.1, same.2]
  refine wp_bind (wp_mono wp_hasBackup fun kept t same => ?_)
  rw [same]
  split
  next off =>
    refine wp_still_ret ?_
    simpa using (Bool.and_eq_true_iff.mp off).1
  next =>
    split
    next => exact wp_still_sec (wp_switchOff W)
    next => exact wp_switchOff W

/-- Compatible mode is not on once it was told to go off. -/
theorem compat_disconnect_answers (W : Writer V) {result : Except Desktop.ClientErrorInfo Unit}
    (runs : Runs (compatAlone V) (Desktop.disconnect W) s result s') (leaves : Bool)
    (scene : Scene) :
    answers (.compat .disconnect leaves) (result, some s'.data.state) scene := by
  have off : s'.data.state.phase = .off := by
    have ends := wp_sound (wp_disconnect W) runs fun _ => trivial
    exact ends
  show ConnectionPhase.ofCompat s'.data.state.phase ≠ .on
  rw [off]
  exact fun on => by cases on

end

/-! ## Enhanced mode -/

section

variable {s s' : Enhanced.State}

abbrev enhancedAlone : Env Enhanced.State Enhanced.Answer :=
  Env.still Enhanced.effect fun _ _ _ => True

/-- No section changes the machine. -/
abbrev Calm {α : Type} (task : Enhanced.Task α) : Prop :=
  Within (fun _ (s t : Enhanced.State) => t.data.machine = s.data.machine) task

theorem effect_machine (c : Enhanced.Call) (r : Enhanced.Answer c) (s : Enhanced.State) :
    (Enhanced.effect c r s).data.machine = s.data.machine := by
  cases c with
  | take =>
    cases (r : Enhanced.Job) with
    | loop l verdict => rfl
    | recover generation cause => rfl
  | renewLease l =>
    cases (r : Option (Except Enhanced.ServiceError Enhanced.ServiceStatus)) <;> rfl
  | watch l =>
    show (s.watched l r).data.machine = _
    unfold Enhanced.State.watched
    split
    next => rfl
    next =>
      split
      next => split <;> rfl
      next => rfl
  | checkHealth l revision => cases (r : Option (Except Enhanced.ClientErrorInfo Unit)) <;> rfl
  | excused l error => cases (r : Option Bool) <;> rfl
  | _ => rfl

/-- A calm task in front leaves the machine as it is. -/
theorem wp_calm {α β : Type} {task : Enhanced.Task α} {k : α → Enhanced.Task β}
    {Q : β → Enhanced.State → Prop} (calm : Calm task)
    (rest : ∀ a t, t.data.machine = s.data.machine → wp enhancedAlone (k a) Q t) :
    wp enhancedAlone (task.bind k) Q s := by
  refine wp_bind (wp_mono (wp_still_within (I := fun t => t.data.machine = s.data.machine) calm
    (fun _ _ _ same eq => same.trans eq) (fun c r t eq => (effect_machine c r t).trans eq) rfl) ?_)
  exact rest

theorem wp_calm_last {α : Type} {task : Enhanced.Task α} {Q : Enhanced.State → Prop}
    (calm : Calm task) (post : ∀ t, t.data.machine = s.data.machine → Q t) :
    wp enhancedAlone task (fun _ => Q) s :=
  wp_mono (wp_still_within (I := fun t => t.data.machine = s.data.machine) calm
    (fun _ _ _ same eq => same.trans eq) (fun c r t eq => (effect_machine c r t).trans eq) rfl)
    fun _ => post

theorem calm_stopLoops : Calm Enhanced.stopLoops :=
  ⟨fun _ => rfl, fun _ => Within.forEach fun _ => ⟨fun _ => rfl, fun _ => trivial⟩⟩

theorem calm_emit : Calm Enhanced.emit :=
  ⟨fun _ => rfl, fun _ _ => trivial⟩

theorem calm_persist (persisted : Enhanced.Persisted) : Calm (Enhanced.persist persisted) := by
  intro written
  cases (written : Except Enhanced.ClientErrorInfo Unit) with
  | ok => trivial
  | error info => exact fun _ => trivial

theorem calm_confirmStopped (session : Client.SessionRef) (error : Enhanced.ServiceError)
    (polls : Nat) : Calm (Enhanced.confirmStopped session error polls) := by
  induction polls with
  | zero => trivial
  | succ polls ih =>
    intro answer
    cases (answer : Option (Except Enhanced.ServiceError Enhanced.ServiceStatus)) with
    | none => exact ih
    | some answer =>
      cases answer with
      | ok status => 
        show Within _ (if _ then _ else _)
        split
        next => trivial
        next => exact ih
      | error failure =>
        show Within _ (if _ then _ else _)
        split
        next => trivial
        next => exact ih

theorem calm_stopSession (session : Client.SessionRef) : Calm (Enhanced.stopSession session) := by
  intro stopped
  cases (stopped : Except Enhanced.ServiceError Unit) with
  | ok => trivial
  | error error =>
    have confirmed : Calm (Enhanced.confirm session error) := by
      unfold Enhanced.confirm
      split
      next => trivial
      next => exact fun polls => calm_confirmStopped session error _
    cases error with
    | failed detail => trivial
    | unavailable detail => exact confirmed
    | rejected detail => exact confirmed
    | protocol detail => exact confirmed

theorem calm_releaseSession (machine : Enhanced.Machine) :
    Calm (Enhanced.releaseSession machine) := by
  unfold Enhanced.releaseSession
  split
  next => trivial
  next =>
    cases machine.session with
    | none => trivial
    | some session => exact fun _ => trivial

theorem wp_finish {generation : UInt64} (own : s.data.machine.generation = generation) :
    wp enhancedAlone (Enhanced.finish generation) (fun _ t => t.data.machine.phase = .off) s := by
  refine wp_still_sec ?_
  have off : (s.data.machine.finishDisconnect generation).phase = .off := by
    rw [Enhanced.Machine.finishDisconnect, if_neg (not_not_intro own)]
  dsimp only [Prog.ret_bind]
  rw [if_pos own]
  exact wp_calm (calm_persist _) fun _ t same => wp_calm_last calm_emit fun u same' => by
    rw [same', same]
    exact off

theorem transition_phase {machine : Enhanced.Machine} {generation : UInt64}
    {phase : ConnectionPhase} {reason : Option Enhanced.ClientErrorInfo} {retryable : Bool}
    (own : machine.generation = generation) :
    (machine.transition generation phase reason retryable).phase = phase := by
  rw [Enhanced.Machine.transition, if_neg (not_not_intro own)]

theorem transition_generation {machine : Enhanced.Machine} {generation : UInt64}
    {phase : ConnectionPhase} {reason : Option Enhanced.ClientErrorInfo} {retryable : Bool} :
    (machine.transition generation phase reason retryable).generation = machine.generation := by
  unfold Enhanced.Machine.transition
  split <;> rfl

theorem wp_transition {α : Type} {by_ : Option UInt64} {generation : UInt64}
    {phase : ConnectionPhase} {reason : Option Enhanced.ClientErrorInfo} {retryable : Bool}
    {k : Bool → Enhanced.Task α} {Q : α → Enhanced.State → Prop}
    (rest : ∀ applied t, t.data.machine = s.data.machine.transition generation phase reason retryable →
      wp enhancedAlone (k applied) Q t) :
    wp enhancedAlone ((Enhanced.transition by_ generation phase reason retryable).bind k) Q s := by
  refine wp_still_sec ?_
  dsimp only [Prog.ret_bind]
  split
  next =>
    have told : Calm (do Enhanced.emit; pure true) := calm_emit.bind fun _ => trivial
    exact wp_calm told rest
  next => exact rest false _ rfl

theorem wp_unconfirmed {generation : UInt64} {info : Enhanced.ClientErrorInfo}
    (own : s.data.machine.generation = generation) :
    wp enhancedAlone (Enhanced.unconfirmed generation info)
      (fun _ t => t.data.machine.phase ≠ .on) s := by
  refine wp_still_sec ?_
  have phase : ({ s.data.machine with desiredOn := false }.transition generation .error
      (some info) true).phase = .error := transition_phase own
  dsimp only [Prog.ret_bind]
  rw [if_pos own]
  refine wp_calm (calm_persist _) fun _ t same => wp_calm calm_emit fun _ u same' => ?_
  refine wp_still_ret ?_
  rw [same', same, phase]
  exact fun on => by cases on

theorem wp_disconnectCurrent :
    wp enhancedAlone (Enhanced.disconnectCurrent true)
      (fun _ t => t.data.machine.phase ≠ .on) s := by
  refine wp_calm calm_stopLoops fun _ t _ => wp_still_sec ?_
  dsimp only [Prog.ret_bind]
  have finishes : ∀ u : Enhanced.State, u.data.machine.generation = t.data.machine.generation →
      wp enhancedAlone (do Enhanced.finish t.data.machine.generation; pure (.ok ()))
        (fun (_ : Except Enhanced.ClientErrorInfo Unit) v => v.data.machine.phase ≠ .on) u := by
    intro u own
    refine wp_bind (wp_mono (wp_finish own) fun _ v off => wp_still_ret ?_)
    rw [off]
    exact fun on => by cases on
  split
  next => exact finishes t rfl
  next =>
    refine wp_transition fun _ u moved => ?_
    have own : u.data.machine.generation = t.data.machine.generation := by
      rw [moved]
      exact transition_generation
    cases t.data.machine.session with
    | none =>
      refine wp_calm (calm_releaseSession _) fun _ v same => ?_
      exact finishes v (by rw [same]; exact own)
    | some session =>
      refine wp_calm (calm_stopSession session) fun stopped v same => ?_
      cases stopped with
      | ok => exact finishes v (by rw [same]; exact own)
      | error info => exact wp_unconfirmed (by rw [same]; exact own)

theorem wp_disable :
    wp enhancedAlone Enhanced.disable (fun _ t => t.data.machine.phase ≠ .on) s := by
  refine wp_bind (wp_mono wp_disconnectCurrent fun result t off => ?_)
  cases result with
  | ok => exact wp_still_sec (wp_still_ret off)
  | error info => exact wp_still_ret off

theorem wp_disableOp :
    wp enhancedAlone Enhanced.disableOp (fun _ t => t.data.machine.phase ≠ .on) s := by
  have disables : ∀ t, wp enhancedAlone (Prog.withLock (Enhanced.quietly Enhanced.disable))
      (fun _ u => u.data.machine.phase ≠ .on) t := fun t =>
    wp_still_withLock (wp_bind (wp_mono wp_disable fun _ _ off => wp_still_ret off))
  refine wp_still_sec ?_
  dsimp only [Prog.ret_bind]
  split
  next =>
    refine wp_still_sec ?_
    dsimp only [Prog.ret_bind]
    split
    next off =>
      refine wp_still_ret fun on => ?_
      have same := off.symm.trans on
      cases same
    next => exact disables s
  next => exact disables s

/-- Enhanced mode is not on once it was told to go off, -/
theorem enhanced_disable_answers (runs : Runs enhancedAlone Enhanced.disableOp s () s')
    (leaves : Bool) (result : Except Enhanced.ClientErrorInfo Unit) (scene : Scene) :
    answers (.enhanced .disable leaves) (result, some (Enhanced.stateOf s'.data)) scene := by
  have off := wp_sound wp_disableOp runs fun _ => trivial
  exact off

/-- and a profile alone does not turn it on. -/
theorem enhanced_setProfile_answers {profile : Enhanced.Profile}
    {result : Except Enhanced.ClientErrorInfo Unit}
    (runs : Runs enhancedAlone (Enhanced.setProfile profile) s result s') (leaves : Bool)
    {scene : Scene} (same : scene.1.parts.enhanced = Enhanced.stateOf s.data) :
    answers (.enhanced (.setProfile profile) leaves) (result, some (Enhanced.stateOf s'.data))
      scene := by
  intro before
  have off : s.data.machine.phase ≠ .on := fun on =>
    before ((congrArg Enhanced.EnhancedState.phase same).trans on)
  have spec : wp enhancedAlone (Enhanced.setProfile profile)
      (fun _ t => t.data.machine.phase ≠ .on) s := by
    refine wp_still_sec ?_
    dsimp only [Prog.ret_bind]
    rw [if_pos (.inl off)]
    exact wp_still_ret off
  have ends := wp_sound spec runs fun _ => trivial
  exact ends

end

end PpvpnCore.Desktop.Modes
