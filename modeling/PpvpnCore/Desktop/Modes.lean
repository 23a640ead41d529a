import PpvpnCore.Lib.Steady
import PpvpnCore.Desktop.Snapshot

/-!
# The two connection modes

What the user asks of the connection (`desktop/src/connection.rs`): connect,
disconnect and retry in the mode that is selected, and a change of the mode. A
call of a controller is one step, with all it told its sink.

* `connectNow`, `disconnectNow`, `retryNow`, `changeMode`: the operations.
* `Past`: whether a switch has left its mode behind, and whether a mode was
  turned on that was not selected, or was left.
* `modes_exclusive`: without such a step only the selected mode is on.
-/

namespace PpvpnCore.Desktop.Modes

open Lib
open App

structure State where
  snapshot : ClientSnapshot := {}
  parts : ConnectionParts := {}

namespace State

def mode (s : State) : ConnectionMode := s.snapshot.connectionMode

def phase (s : State) (mode : ConnectionMode) : ConnectionPhase := s.parts.phase mode

/-- `on_enhanced_state` and `on_compat_state`. -/
def onEnhancedState (s : State) (state : EnhancedState) : State :=
  let parts := s.parts.heardEnhanced state
  { snapshot := (s.snapshot.noteEnhanced state).connected parts, parts }

def onCompatState (s : State) (state : CompatState) : State :=
  let parts := { s.parts with compat := state }
  { snapshot := (s.snapshot.noteCompat state).connected parts, parts }

end State

/-! ## Calls -/

inductive EnhancedOp where
  | enable | disable | retry
  | setProfile (profile : Enhanced.Profile)

inductive CompatOp where
  | connect | disconnect

/-- `leaves`: a change of the mode disconnects the mode it leaves. -/
inductive Call where
  /-- Whether a session is signed in. -/
  | currentSession
  | currentProfile
  | saveMode (mode : ConnectionMode)
  | enhanced (op : EnhancedOp) (leaves : Bool)
  | compat (op : CompatOp) (leaves : Bool)

/-- A controller's answer comes with the state its sink was last given, if it
was given any. -/
def Answer : Call → Type
  | .currentSession => Bool
  | .currentProfile => Option Enhanced.Profile
  | .saveMode _ => Except String Unit
  | .enhanced _ _ => Except Enhanced.ClientErrorInfo Unit × Option EnhancedState
  | .compat _ _ => Except Desktop.ClientErrorInfo Unit × Option CompatState

def effect : (c : Call) → Answer c → State → State
  | .enhanced _ _, r, s => match (r : _ × Option EnhancedState).2 with
    | some state => s.onEnhancedState state
    | none => s
  | .compat _ _, r, s => match (r : _ × Option CompatState).2 with
    | some state => s.onCompatState state
    | none => s
  | _, _, s => s

/-! ## The operations -/

inductive Place where
  | plain
  /-- A change of the mode reads what is selected and shown; and publishes its
  mode. -/
  | looks (mode : ConnectionMode)
  | publishes
  deriving DecidableEq

abbrev Task (α : Type) := Prog State Place Answer α

def ask (c : Call) : Task (Answer c) := Prog.ask c

def enhancedCall (op : EnhancedOp) (leaves : Bool) : Task (Except ClientError Unit) := do
  let answer : Except Enhanced.ClientErrorInfo Unit × Option EnhancedState ←
    ask (.enhanced op leaves)
  match answer.1 with
  | .ok () => pure (.ok ())
  | .error info => pure (.error (.failed (.ofEnhanced info)))

def compatCall (op : CompatOp) (leaves : Bool) : Task (Except ClientError Unit) := do
  let answer : Except Desktop.ClientErrorInfo Unit × Option CompatState ← ask (.compat op leaves)
  match answer.1 with
  | .ok () => pure (.ok ())
  | .error info => pure (.error (.failed (.ofCompat info)))

/-- Hands the latest profile to enhanced mode before a user action that needs
it. -/
def primeEnhanced : Task (Except ClientError Unit) := do
  let current : Option Enhanced.Profile ← ask .currentProfile
  match current with
  | some profile => enhancedCall (.setProfile profile) false
  | none => pure (.ok ())

def connectionMode : Task ConnectionMode :=
  Prog.step .plain fun s => (s.mode, s)

/-- Turns the connection on in the selected mode, making sure the other mode is
off. -/
def connectNow : Task (Except ClientError Unit) := do
  let signedIn : Bool ← ask .currentSession
  if !signedIn then pure (.error .notSignedIn)
  else do
    let mode ← connectionMode
    match mode with
    | .enhanced => do
      -- a failure is only logged
      let _ ← compatCall .disconnect false
      let primed ← primeEnhanced
      match primed with
      | .error error => pure (.error error)
      | .ok () => enhancedCall .enable false
    | .compatible => do
      let disabled ← enhancedCall .disable false
      match disabled with
      | .error error => pure (.error error)
      | .ok () => compatCall .connect false

/-- Turns both modes off; the first failure is returned. -/
def disconnectNow (leaves : Bool) : Task (Except ClientError Unit) := do
  let enhanced ← enhancedCall .disable leaves
  let compat ← compatCall .disconnect leaves
  match enhanced with
  | .ok () => pure compat
  | .error error => pure (.error error)

def retryNow : Task (Except ClientError Unit) := do
  let signedIn : Bool ← ask .currentSession
  if !signedIn then pure (.error .notSignedIn)
  else do
    let mode ← connectionMode
    match mode with
    | .enhanced => do
      let primed ← primeEnhanced
      match primed with
      | .error error => pure (.error error)
      | .ok () => enhancedCall .retry false
    | .compatible => do
      let disconnected ← compatCall .disconnect false
      match disconnected with
      | .error error => pure (.error error)
      | .ok () => compatCall .connect false

/-- `publish_connection`, with the new mode: the parts are copied first. -/
def publishMode (mode : ConnectionMode) : Task Unit := do
  let parts ← Prog.step .plain fun s => (s.parts, s)
  Prog.update .publishes fun s =>
    { s with snapshot := { s.snapshot with connectionMode := mode }.connected parts }

/-- What follows once the mode was persisted. -/
def switchTo (mode : ConnectionMode) (reconnect : Bool) : Task (Except ClientError Unit) := do
  if reconnect then do
    let _ ← disconnectNow true
    publishMode mode
    let signedIn : Bool ← ask .currentSession
    if signedIn then connectNow else pure (.ok ())
  else do
    publishMode mode
    pure (.ok ())

def saveThenSwitch (mode : ConnectionMode) (reconnect : Bool) :
    Task (Except ClientError Unit) := do
  let saved : Except String Unit ← ask (.saveMode mode)
  match saved with
  | .error detail => pure (.error (.failed ⟨.localStorageFailed, detail⟩))
  | .ok () => switchTo mode reconnect

/-- Persists `mode`; when the connection is not off, disconnects and connects
again in the new mode. -/
def changeMode (mode : ConnectionMode) : Task (Except ClientError Unit) := do
  let (current, phase) ← Prog.step (.looks mode) fun s =>
    ((s.mode, s.snapshot.connection.phase), s)
  if current = mode then pure (.ok ()) else saveThenSwitch mode (phase ≠ .off)

inductive Op where
  | connectNow | disconnectNow | retryNow | disconnectAll
  | changeMode (mode : ConnectionMode)

def quietly {α : Type} (task : Task α) : Task Unit := task.bind fun _ => .ret ()

/-- Only a change of the mode holds `mode_switch`. -/
def Op.task : Op → Task Unit
  | .connectNow => quietly Modes.connectNow
  | .disconnectNow | .disconnectAll => quietly (Modes.disconnectNow false)
  | .retryNow => quietly Modes.retryNow
  | .changeMode mode => Prog.withLock (quietly (Modes.changeMode mode))

/-! ## History -/

structure Past where
  /-- A change of the mode found its mode off or has disconnected it, and has
  not published the new one. -/
  leaving : Bool := false
  /-- A mode was turned on that was not selected, or that was being left. -/
  astray : Bool := false

def note (place : Place) (s _ : State) (past : Past) : Past :=
  match place with
  | .plain => past
  | .looks mode =>
    { past with
      leaving := past.leaving || (s.mode ≠ mode && s.snapshot.connection.phase = .off) }
  | .publishes => { past with leaving := false }

/-- `mode` is on after a call in `t` that may turn it on. -/
def Past.turns (past : Past) (mode : ConnectionMode) (t : State) : Past :=
  { past with
    astray := past.astray || (t.phase mode = .on && !(t.mode = mode && !past.leaving)) }

/-- `mode` was disconnected for a change of the mode. -/
def Past.left (past : Past) (mode : ConnectionMode) (leaves : Bool) (s : State) : Past :=
  { past with leaving := past.leaving || (leaves && s.mode = mode) }

def hear : (c : Call) → Answer c → State → Past → Past
  | .saveMode _, r, _, past => match (r : Except String Unit) with
    | .ok () => past
    | .error _ => { past with leaving := false }
  | .enhanced .disable leaves, _, s, past => past.left .enhanced leaves s
  | .enhanced .enable leaves, r, s, past =>
    past.turns .enhanced (effect (.enhanced .enable leaves) r s)
  | .enhanced .retry leaves, r, s, past =>
    past.turns .enhanced (effect (.enhanced .retry leaves) r s)
  | .compat .disconnect leaves, _, s, past => past.left .compatible leaves s
  | .compat .connect leaves, r, s, past =>
    past.turns .compatible (effect (.compat .connect leaves) r s)
  | _, _, _, past => past

abbrev Scene := State × Past

def watch {α : Type} (task : Task α) : Prog Scene Place Answer α := task.noted id note

/-- What a controller may answer: a mode that was told to go off is not on
afterwards, and a profile turns nothing on. -/
def answers : (c : Call) → Answer c → Scene → Prop
  | .enhanced .disable leaves, r, s =>
    (effect (.enhanced .disable leaves) r s.1).phase .enhanced ≠ .on
  | .enhanced (.setProfile profile) leaves, r, s => s.1.phase .enhanced ≠ .on →
    (effect (.enhanced (.setProfile profile) leaves) r s.1).phase .enhanced ≠ .on
  | .compat .disconnect leaves, r, s =>
    (effect (.compat .disconnect leaves) r s.1).phase .compatible ≠ .on
  | _, _, _ => True

/-! ## What always holds -/

structure Good (s : Scene) : Prop where
  /-- Only the selected mode is on, -/
  only : s.2.astray = false → ∀ mode, s.1.phase mode = .on → mode = s.1.mode
  /-- not even that one while it is being left, -/
  left : s.2.astray = false → s.2.leaving = true → s.1.phase s.1.mode ≠ .on
  /-- nor when it is shown off. -/
  shown : s.2.astray = false → s.1.snapshot.connection.phase = .off → s.1.phase s.1.mode ≠ .on

/-- What the others do while a change of the mode has its lock. -/
structure Others (s t : Scene) : Prop where
  mode : t.1.mode = s.1.mode
  leaving : t.2.leaving = s.2.leaving
  calm : t.2.astray = false → s.2.astray = false

theorem Others.refl (s : Scene) : Others s s := ⟨rfl, rfl, id⟩

theorem Others.trans {s t u : Scene} (first : Others s t) (then_ : Others t u) : Others s u :=
  ⟨then_.mode.trans first.mode, then_.leaving.trans first.leaving, first.calm ∘ then_.calm⟩

def discipline : Discipline Scene Place Answer where
  effect := beside effect hear
  answers := answers
  meets _ _ _ := True
  moves := Others
  refl := .refl
  trans := .trans
  inv s := s.2.leaving = false
  good := Good
  allowed _ _ := True

/-- A call about `mode` that left the other mode alone. -/
structure Called (mode : ConnectionMode) (s t : State) : Prop where
  same : t.mode = s.mode
  other : ∀ m, m ≠ mode → t.phase m = s.phase m
  shown : t = s ∨ t.snapshot.connection.phase = t.phase t.mode

theorem called_enhanced (op : EnhancedOp) (leaves : Bool) (r : Answer (.enhanced op leaves))
    (s : State) : Called .enhanced s (effect (.enhanced op leaves) r s) := by
  obtain ⟨result, told⟩ := r
  cases told with
  | none => exact ⟨rfl, fun _ _ => rfl, .inl rfl⟩
  | some state =>
    have mode : (s.onEnhancedState state).mode = s.mode := noteEnhanced_mode state s.snapshot
    refine ⟨mode, fun m other => ?_, .inr ?_⟩
    · cases m with
      | enhanced => exact absurd rfl other
      | compatible => rfl
    · exact (connected_phase _ _).trans rfl

theorem called_compat (op : CompatOp) (leaves : Bool) (r : Answer (.compat op leaves))
    (s : State) : Called .compatible s (effect (.compat op leaves) r s) := by
  obtain ⟨result, told⟩ := r
  cases told with
  | none => exact ⟨rfl, fun _ _ => rfl, .inl rfl⟩
  | some state =>
    have mode : (s.onCompatState state).mode = s.mode := noteCompat_mode state s.snapshot
    refine ⟨mode, fun m other => ?_, .inr ?_⟩
    · cases m with
      | enhanced => rfl
      | compatible => exact absurd rfl other
    · exact (connected_phase _ _).trans rfl

/-- A call keeps what holds if it turns its mode on only while that mode is
selected and not left. -/
theorem Good.called {s : Scene} {t : State} {past : Past} {mode : ConnectionMode} (good : Good s)
    (called : Called mode s.1 t) (calm : past.astray = false → s.2.astray = false)
    (left : past.leaving = true → s.2.leaving = true ∨ (s.1.mode = mode ∧ t.phase mode ≠ .on))
    (turned : past.astray = false → t.phase mode = .on →
      mode = s.1.mode ∧ past.leaving = false) : Good (t, past) := by
  refine ⟨fun still m on => ?_, fun still leaving on => ?_, fun still off on => ?_⟩
  · show m = t.mode
    rw [called.same]
    by_cases own : m = mode
    · rw [own] at on ⊢
      exact (turned still on).1
    · exact good.only (calm still) m (by rw [← called.other m own]; exact on)
  · have on : t.phase s.1.mode = .on := by rw [← called.same]; exact on
    by_cases own : s.1.mode = mode
    · rw [own] at on
      have gone := (turned still on).2
      rw [show past.leaving = true from leaving] at gone
      cases gone
    · rcases left leaving with before | ⟨same, -⟩
      · rw [called.other _ own] at on
        exact good.left (calm still) before on
      · exact own same
  · rcases called.shown with same | shown
    · have on : s.1.phase s.1.mode = .on := by rw [← same]; exact on
      exact good.shown (calm still) (by rw [← same]; exact off) on
    · have off : t.phase t.mode = .off := by rw [← shown]; exact off
      rw [show t.phase t.mode = .on from on] at off
      cases off

theorem Past.turned_astray {past : Past} {mode : ConnectionMode} {t : State}
    (still : (past.turns mode t).astray = false) :
    past.astray = false ∧ (t.phase mode = .on → t.mode = mode ∧ past.leaving = false) := by
  obtain ⟨calm, turned⟩ := Bool.or_eq_false_iff.mp still
  refine ⟨calm, fun on => ?_⟩
  rw [on] at turned
  simpa using turned

section

variable {s : Scene} {t : State} {mode : ConnectionMode}

/-- A call that may turn its mode on. -/
theorem Good.turns (good : Good s) (called : Called mode s.1 t) :
    Others s (t, s.2.turns mode t) ∧ Good (t, s.2.turns mode t) := by
  have calm : (s.2.turns mode t).astray = false → s.2.astray = false :=
    fun still => (Past.turned_astray still).1
  refine ⟨⟨called.same, rfl, calm⟩, good.called called calm .inl fun still on => ?_⟩
  obtain ⟨selected, stays⟩ := (Past.turned_astray still).2 on
  exact ⟨selected.symm.trans called.same, stays⟩

/-- A call after which its mode is on only if it was before. -/
theorem Good.calls (good : Good s) (called : Called mode s.1 t)
    (on : t.phase mode = .on → s.1.phase mode = .on) : Others s (t, s.2) ∧ Good (t, s.2) := by
  refine ⟨⟨called.same, rfl, id⟩, good.called called id .inl fun still now => ?_⟩
  have selected := good.only still mode (on now)
  refine ⟨selected, Bool.eq_false_iff.mpr fun leaving => ?_⟩
  exact good.left still leaving (by rw [← selected]; exact on now)

/-- A call that turns its mode off, for a change of the mode. -/
theorem Good.leaves (good : Good s) (called : Called mode s.1 t) (off : t.phase mode ≠ .on) :
    Good (t, s.2.left mode true s.1) := by
  refine good.called called id (fun leaving => ?_) fun _ on => absurd on off
  rcases Bool.or_eq_true_iff.mp leaving with before | now
  · exact .inl before
  · exact .inr ⟨by simpa using now, off⟩

theorem Past.left_false (past : Past) (mode : ConnectionMode) (s : State) :
    past.left mode false s = past := by
  simp [Past.left]

end

/-! ## Calls and operations that are no change of the mode -/

theorem steady_enhanced (op : EnhancedOp) :
    Steady discipline.env (watch (enhancedCall op false)) := by
  refine ⟨fun _ _ => trivial, fun r s good answer => ⟨?_, ?_⟩⟩
  · have called := called_enhanced op false r s.1
    cases op with
    | enable => exact good.turns called
    | retry => exact good.turns called
    | disable =>
      have same := Past.left_false s.2 .enhanced s.1
      have kept := good.calls called fun on => absurd on answer
      rw [← same] at kept
      exact kept
    | setProfile profile =>
      exact good.calls called fun on => Classical.byContradiction fun off => answer off on
  · obtain ⟨result, told⟩ := r
    cases result with
    | ok => trivial
    | error info => trivial

theorem steady_compat (op : CompatOp) : Steady discipline.env (watch (compatCall op false)) := by
  refine ⟨fun _ _ => trivial, fun r s good answer => ⟨?_, ?_⟩⟩
  · have called := called_compat op false r s.1
    cases op with
    | connect => exact good.turns called
    | disconnect =>
      have same := Past.left_false s.2 .compatible s.1
      have kept := good.calls called fun on => absurd on answer
      rw [← same] at kept
      exact kept
  · obtain ⟨result, told⟩ := r
    cases result with
    | ok => trivial
    | error info => trivial

section

variable {α β : Type}

theorem steady_bind {task : Task α} {k : α → Task β} (first : Steady discipline.env (watch task))
    (rest : ∀ a, Steady discipline.env (watch (k a))) :
    Steady discipline.env (watch (task >>= k)) := by
  have noted : watch (task >>= k) = (watch task).bind fun a => watch (k a) :=
    Prog.noted_bind task k
  rw [noted]
  exact first.bind rest

theorem steady_done {a : α} : Steady discipline.env (watch (pure a : Task α)) := trivial

/-- A section that only reads. -/
theorem steady_reads {f : State → α} :
    Steady discipline.env (watch (Prog.step .plain fun s => (f s, s))) :=
  ⟨fun s good => ⟨.refl s, good⟩, fun _ => trivial⟩

theorem Good.refuses {s : Scene} (good : Good s) : Others s s ∧ Good s := ⟨.refl s, good⟩

theorem steady_currentSession : Steady discipline.env (watch (ask .currentSession)) :=
  ⟨fun _ _ => trivial, fun _ _ good _ => ⟨good.refuses, trivial⟩⟩

end

theorem steady_primeEnhanced : Steady discipline.env (watch primeEnhanced) := by
  refine steady_bind ⟨fun _ _ => trivial, fun _ _ good _ => ⟨good.refuses, trivial⟩⟩ ?_
  intro current
  cases (current : Option Enhanced.Profile) with
  | none => exact steady_done
  | some profile => exact steady_enhanced _

theorem steady_connectNow : Steady discipline.env (watch connectNow) := by
  refine steady_bind steady_currentSession fun signedIn => ?_
  cases (signedIn : Bool) with
  | false => exact steady_done
  | true =>
    refine steady_bind steady_reads fun mode => ?_
    cases mode with
    | enhanced =>
      refine steady_bind (steady_compat _) fun _ => steady_bind steady_primeEnhanced fun primed => ?_
      cases primed with
      | ok => exact steady_enhanced _
      | error error => exact steady_done
    | compatible =>
      refine steady_bind (steady_enhanced _) fun disabled => ?_
      cases disabled with
      | ok => exact steady_compat _
      | error error => exact steady_done

theorem steady_disconnectNow : Steady discipline.env (watch (disconnectNow false)) := by
  refine steady_bind (steady_enhanced _) fun enhanced => steady_bind (steady_compat _) fun _ => ?_
  cases enhanced with
  | ok => exact steady_done
  | error error => exact steady_done

theorem steady_retryNow : Steady discipline.env (watch retryNow) := by
  refine steady_bind steady_currentSession fun signedIn => ?_
  cases (signedIn : Bool) with
  | false => exact steady_done
  | true =>
    refine steady_bind steady_reads fun mode => ?_
    cases mode with
    | enhanced =>
      refine steady_bind steady_primeEnhanced fun primed => ?_
      cases primed with
      | ok => exact steady_enhanced _
      | error error => exact steady_done
    | compatible =>
      refine steady_bind (steady_compat _) fun disconnected => ?_
      cases disconnected with
      | ok => exact steady_compat _
      | error error => exact steady_done

/-! ## A change of the mode -/

/-- `mode` is selected, and left if `gone` says so. -/
structure Left (mode : ConnectionMode) (gone : Prop) (s : Scene) : Prop where
  selected : s.1.mode = mode
  leaving : gone → s.2.leaving = true

/-- The lock may be given back. -/
def Back (s : Scene) : Prop := s.2.leaving = false

theorem Back.others {s t : Scene} (back : Back s) (others : Others s t) : Back t :=
  others.leaving.trans back

section

variable {α β : Type} {s : Scene} {mode : ConnectionMode} {gone : Prop}

theorem Left.others {t : Scene} (left : Left mode gone s) (others : Others s t) :
    Left mode gone t :=
  ⟨others.mode.trans left.selected, fun already => others.leaving.trans (left.leaving already)⟩

theorem inside_bind {task : Task α} {k : α → Task β} {Q : β → Scene → Prop}
    (spec : wp discipline.env (watch task) (fun a => wp discipline.env (watch (k a)) Q) s) :
    wp discipline.env (watch (task >>= k)) Q s :=
  wp_noted_bind spec

theorem inside_done {a : α} {Q : α → Scene → Prop} (post : ∀ t, Others s t → Q a t) :
    wp discipline.env (watch (pure a : Task α)) Q s :=
  fun t moved _ => post t moved

/-- What is not about the change itself leaves it where it is. -/
theorem inside_steady {task : Task α} {Q : Scene → Prop} (lasts : ∀ t, Others s t → Q t)
    (steady : Steady discipline.env (watch task)) :
    wp discipline.env (watch task) (fun _ => Q) s :=
  wp_steady steady fun _ t moved _ => lasts t moved

theorem inside_leaveEnhanced (left : Left mode gone s) :
    wp discipline.env (watch (enhancedCall .disable true))
      (fun _ => Left mode (gone ∨ mode = .enhanced)) s := by
  intro t moved good
  refine ⟨trivial, fun r answer => ?_⟩
  have called := called_enhanced .disable true r t.1
  have left : Left mode gone t := left.others moved
  have now : Left mode (gone ∨ mode = .enhanced)
      (beside effect hear (.enhanced .disable true) r t) := by
    refine ⟨called.same.trans left.selected, fun leaves => Bool.or_eq_true_iff.mpr ?_⟩
    rcases leaves with already | own
    · exact .inl (left.leaving already)
    · exact .inr (by simp [left.selected, own])
  refine ⟨good.leaves called answer, ?_⟩
  obtain ⟨result, told⟩ := r
  cases result with
  | ok => exact inside_done fun _ => now.others
  | error info => exact inside_done fun _ => now.others

theorem inside_leaveCompat (left : Left mode gone s) :
    wp discipline.env (watch (compatCall .disconnect true))
      (fun _ => Left mode (gone ∨ mode = .compatible)) s := by
  intro t moved good
  refine ⟨trivial, fun r answer => ?_⟩
  have called := called_compat .disconnect true r t.1
  have left : Left mode gone t := left.others moved
  have now : Left mode (gone ∨ mode = .compatible)
      (beside effect hear (.compat .disconnect true) r t) := by
    refine ⟨called.same.trans left.selected, fun leaves => Bool.or_eq_true_iff.mpr ?_⟩
    rcases leaves with already | own
    · exact .inl (left.leaving already)
    · exact .inr (by simp [left.selected, own])
  refine ⟨good.leaves called answer, ?_⟩
  obtain ⟨result, told⟩ := r
  cases result with
  | ok => exact inside_done fun _ => now.others
  | error info => exact inside_done fun _ => now.others

/-- Both modes are disconnected, the selected one among them. -/
theorem inside_disconnectNow (selected : s.1.mode = mode) :
    wp discipline.env (watch (disconnectNow true)) (fun _ => Left mode True) s := by
  have left : Left mode False s := ⟨selected, False.elim⟩
  refine inside_bind (wp_mono (inside_leaveEnhanced left) fun enhanced t left => ?_)
  refine inside_bind (wp_mono (inside_leaveCompat left) fun compat u left => ?_)
  have gone : Left mode True u := by
    refine ⟨left.selected, fun _ => left.leaving ?_⟩
    cases mode with
    | enhanced => exact .inl (.inr rfl)
    | compatible => exact .inr rfl
  cases enhanced with
  | ok => exact inside_done fun _ => gone.others
  | error error => exact inside_done fun _ => gone.others

/-- The mode that was left is not on, nor is any other. -/
theorem inside_publishMode (left : Left mode True s) (next : ConnectionMode) :
    wp discipline.env (watch (publishMode next)) (fun _ => Back) s := by
  intro t moved good
  refine ⟨good, fun u later good => ?_⟩
  have left : Left mode True u := (left.others moved).others later
  have off : u.2.astray = false → ∀ m, u.1.phase m ≠ .on := by
    intro still m on
    have selected := good.only still m on
    exact good.left still (left.leaving trivial) (by rw [← selected]; exact on)
  refine ⟨⟨?_, ?_, ?_⟩, fun v after _ => ?_⟩
  · exact fun still m on => absurd on (off still m)
  · exact fun still _ => off still _
  · exact fun still _ => off still _
  · exact after.leaving

theorem inside_switchTo (next : ConnectionMode) {reconnect : Bool}
    (left : Left mode (reconnect = false) s) :
    wp discipline.env (watch (switchTo next reconnect)) (fun _ => Back) s := by
  cases reconnect with
  | true =>
    refine inside_bind (wp_mono (inside_disconnectNow left.selected) fun _ t left => ?_)
    refine inside_bind (wp_mono (inside_publishMode left next) fun _ u back => ?_)
    refine inside_bind (wp_mono (inside_steady (fun _ => back.others) steady_currentSession) ?_)
    intro signedIn v back
    cases (signedIn : Bool) with
    | true => exact inside_steady (fun _ => back.others) steady_connectNow
    | false => exact inside_done fun _ => back.others
  | false =>
    have left : Left mode True s := ⟨left.selected, fun _ => left.leaving rfl⟩
    refine inside_bind (wp_mono (inside_publishMode left next) fun _ u back => ?_)
    exact inside_done fun _ => back.others

/-- A mode that is shown off is left at once. -/
theorem Good.looked (good : Good s) (next : ConnectionMode) :
    Good (s.1, note (.looks next) s.1 s.1 s.2) := by
  refine ⟨good.only, fun still leaving => ?_, good.shown⟩
  rcases Bool.or_eq_true_iff.mp leaving with before | off
  · exact good.left still before
  · exact good.shown still (by simpa using (Bool.and_eq_true_iff.mp off).2)

theorem Good.notLeaving (good : Good s) : Good (s.1, { s.2 with leaving := false }) :=
  ⟨good.only, (fun _ leaving => by cases leaving), good.shown⟩

/-- A mode that could not be persisted is not left. -/
def Saved (mode : ConnectionMode) (gone : Prop) : Except String Unit → Scene → Prop
  | .ok () => Left mode gone
  | .error _ => Back

theorem inside_saveMode (next : ConnectionMode) (left : Left mode gone s) :
    wp discipline.env (watch (ask (.saveMode next))) (Saved mode gone) s := by
  intro t moved good
  refine ⟨trivial, fun saved _ => ?_⟩
  cases (saved : Except String Unit) with
  | error detail => exact ⟨good.notLeaving, fun u later _ => later.leaving⟩
  | ok => exact ⟨good, fun u later _ => (left.others moved).others later⟩

theorem inside_saveThenSwitch (next : ConnectionMode) {reconnect : Bool}
    (left : Left mode (reconnect = false) s) :
    wp discipline.env (watch (saveThenSwitch next reconnect)) (fun _ => Back) s := by
  refine inside_bind (wp_mono (inside_saveMode next left) fun saved t post => ?_)
  cases (saved : Except String Unit) with
  | error detail => exact inside_done fun _ => Back.others post
  | ok => exact inside_switchTo next post

/-- What a change of the mode reads: unless the mode is selected already, what
is off is left with it. -/
theorem inside_looks (next : ConnectionMode) (free : Back s) :
    wp discipline.env
      (watch (Prog.step (.looks next) fun s => ((s.mode, s.snapshot.connection.phase), s)))
      (fun seen t => (seen.1 = next → Back t) ∧ (seen.1 ≠ next → Left seen.1 (seen.2 = .off) t))
      s := by
  intro t moved good
  have leaving : (note (.looks next) t.1 t.1 t.2).leaving =
      (decide (t.1.mode ≠ next) && decide (t.1.snapshot.connection.phase = .off)) := by
    show (t.2.leaving || _) = _
    rw [show t.2.leaving = false from free.others moved, Bool.false_or]
  refine ⟨good.looked next, fun u later _ => ⟨fun same => ?_, fun other => ⟨later.mode, ?_⟩⟩⟩
  · refine later.leaving.trans (leaving.trans ?_)
    rw [decide_eq_false (not_not_intro same), Bool.false_and]
  · intro off
    refine later.leaving.trans (leaving.trans ?_)
    rw [decide_eq_true other, decide_eq_true off, Bool.true_and]

theorem inside_changeMode (next : ConnectionMode) (free : Back s) :
    wp discipline.env (watch (changeMode next)) (fun _ => Back) s := by
  refine inside_bind (wp_mono (inside_looks next free) fun seen t post => ?_)
  dsimp only
  split
  next same => exact inside_done fun _ => (post.1 same).others
  next other =>
    have left := post.2 other
    refine inside_saveThenSwitch next ⟨left.selected, fun off => left.leaving ?_⟩
    simpa using off

end

/-! ## Runs -/

theorem obeys_op (op : Op) : Obeys discipline (watch op.task) none := by
  have keeps : ∀ s t : Scene, Others s t → Good t → Back s → Back t :=
    fun s t others _ back => back.others others
  have steady : ∀ {α : Type} {task : Task α}, Steady discipline.env (watch task) →
      Obeys discipline (watch (quietly task)) none :=
    fun steady => Obeys.of_steady keeps (steady_bind steady fun _ => steady_done)
  cases op with
  | connectNow => exact steady steady_connectNow
  | disconnectNow => exact steady steady_disconnectNow
  | disconnectAll => exact steady steady_disconnectNow
  | retryNow => exact steady steady_retryNow
  | changeMode mode =>
    have noted : watch (Op.changeMode mode).task =
        (watch (quietly (Modes.changeMode mode))).withLock := Prog.noted_withLock _
    rw [noted]
    refine Obeys.withLock fun s _ free => inside_bind ?_
    exact wp_mono (inside_changeMode mode free) fun _ t back => inside_done fun _ => back.others

abbrev Process := Pool Scene Place Answer Unit

/-- Off, with `mode` selected, and asked for `ops`. -/
def start (mode : ConnectionMode) (ops : List Op) : Process :=
  { state := ({ snapshot := { connectionMode := mode } }, {})
    tasks := ops.map fun op => { prog := watch op.task } }

def Fair (p : Process) : Move Answer → Prop
  | .answer i oracle => match p.task i with
    | some (.call c _) => answers c (oracle c) p.state
    | _ => True
  | .go _ | .giveUp _ => True

/-- A process that any run reaches. -/
abbrev Reached (mode : ConnectionMode) (ops : List Op) (p : Process) : Prop :=
  Reaches (beside effect hear) Fair (start mode ops) p

theorem fair_grants : discipline.Grants Fair where
  sec _ _ _ := trivial
  answer := by
    intro p i oracle c k fair task
    rw [Fair, task] at fair
    exact fair

theorem start_kept (mode : ConnectionMode) (ops : List Op) : discipline.Kept (start mode ops) := by
  have off : ∀ m, (start mode ops).state.1.phase m ≠ .on := by
    intro m
    cases m with
    | enhanced => exact fun on => by cases on
    | compatible => exact fun on => by cases on
  refine Discipline.Kept.of_free rfl ⟨?_, ?_, ?_⟩ rfl ?_
  · exact fun _ m on => absurd on (off m)
  · exact fun _ leaving => by cases leaving
  · exact fun _ _ => off _
  · intro i prog here
    simp only [start, Pool.task, List.getElem?_map, Option.map_map] at here
    obtain ⟨op, -, rfl⟩ := Option.map_eq_some_iff.mp here
    exact obeys_op op

variable {selected : ConnectionMode} {ops : List Op} {p : Process}

instance answers.decidable (s : Scene) : (c : Call) → (r : Answer c) → Decidable (answers c r s)
  | .enhanced .disable leaves, r =>
    @instDecidableNot _ (decEq ((effect (.enhanced .disable leaves) r s.1).phase .enhanced) .on)
  | .enhanced (.setProfile profile) leaves, r =>
    @instDecidableForall _ _ (@instDecidableNot _ (decEq (s.1.phase .enhanced) .on))
      (@instDecidableNot _
        (decEq ((effect (.enhanced (.setProfile profile) leaves) r s.1).phase .enhanced) .on))
  | .compat .disconnect leaves, r =>
    @instDecidableNot _ (decEq ((effect (.compat .disconnect leaves) r s.1).phase .compatible) .on)
  | .currentSession, _ | .currentProfile, _ | .saveMode _, _ | .enhanced .enable _, _
  | .enhanced .retry _, _ | .compat .connect _, _ => isTrue trivial

instance Fair.decidable (p : Process) : (m : Move Answer) → Decidable (Fair p m)
  | .go _ | .giveUp _ => isTrue trivial
  | .answer i oracle => match task : p.task i with
    | some (.call c _) => decidable_of_iff (answers c (oracle c) p.state) (by rw [Fair, task])
    | none => isTrue (by rw [Fair, task]; trivial)
    | some (.ret _) => isTrue (by rw [Fair, task]; trivial)
    | some (.sec _ _ _) => isTrue (by rw [Fair, task]; trivial)
    | some (.lock _ _) => isTrue (by rw [Fair, task]; trivial)
    | some (.unlock _) => isTrue (by rw [Fair, task]; trivial)

/-- A session without a profile yet, and controllers that do what they are
asked. -/
def obliging : (c : Call) → Answer c
  | .currentSession => true
  | .currentProfile => (none : Option Enhanced.Profile)
  | .saveMode _ => (.ok () : Except String Unit)
  | .enhanced op _ =>
    let ok : Except Enhanced.ClientErrorInfo Unit := .ok ()
    match op with
    | .enable | .retry => (ok, some { Enhanced.stateOf {} with phase := .on })
    | .disable => (ok, some (Enhanced.stateOf {}))
    | .setProfile _ => (ok, none)
  | .compat op _ =>
    let ok : Except Desktop.ClientErrorInfo Unit := .ok ()
    match op with
    | .connect => (ok, some { phase := .on })
    | .disconnect => (ok, some {})

/-- Task `i` takes `n` steps. -/
def steps (i n : Nat) : List (Move Answer) :=
  (List.replicate n [.go i, .answer i obliging]).flatten

/-- A connect has read the mode when it is changed, and another connect follows
in the new mode. -/
def crossedRun : Process :=
  (start .enhanced [.connectNow, .changeMode .compatible, .connectNow]).play (beside effect hear)
    Fair (steps 0 3 ++ steps 1 8 ++ steps 2 3 ++ steps 0 4 ++ steps 2 4)

end PpvpnCore.Desktop.Modes
