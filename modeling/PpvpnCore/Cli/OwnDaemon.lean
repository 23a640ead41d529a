import PpvpnCore.Lib.Known
import PpvpnCore.Cli.Daemon

/-!
# A start stops only its own daemon

* `Inv`: who holds the lock owns the socket and the secret; what the commands
  that returned and those that stopped a daemon have left.
* `Timely`: what is asked of the looks at the record and of the requests to shut
  down, for a failed start to stop what it launched and nothing else.
* `stops_own`: whatever the schedule.
-/

namespace PpvpnCore.Cli

open Lib

/-- A failed start that launched a daemon finds the record of that daemon, or
this has ended and so has the recorded one; a shutdown request comes to the daemon
it is meant for; a failed start's daemon exits in time, and the output of a
start that launched a daemon is written. -/
def Timely : (c : Call) → Answer c → World → Prop
  | .readRecord k (some .failed), record, w => (record : Option Nat) = some k ∨
      (w.ended k = true ∧ ∀ d, (record : Option Nat) = some d → w.ended d = true)
  | .shutdown _ _ meant secret, delivery, _ => (delivery : Delivery) ≠ .lost → secret = meant
  | .exited _ .failed _, ok, _ => (ok : Bool) = true
  | .print k false, ok, w => (ok : Bool) = true ∨ w.alive k = false
  | _, _, _ => True

def InTime (c : Call) (r : Answer c) (w : World) : Prop := Lawful c r w ∧ Timely c r w

/-! ## The invariant -/

def Stage.holds : Stage → Bool
  | .idle | .stopped => false
  | _ => true

/-- The secret is on file. -/
def Stage.hasSecret : Stage → Bool
  | .keyed | .bound | .recorded | .serving | .leaving | .closed => true
  | _ => false

/-- The socket is there. -/
def Stage.hasSocket : Stage → Bool
  | .bound | .recorded | .serving | .leaving => true
  | _ => false

theorem Stage.hasSecret_holds {s : Stage} (keyed : s.hasSecret = true) : s.holds = true := by
  cases s <;> first | rfl | cases keyed

theorem Stage.hasSocket_holds {s : Stage} (plugged : s.hasSocket = true) : s.holds = true := by
  cases s <;> first | rfl | cases plugged

/-- A start that is not a restart never stops a daemon before its own fails. -/
def Told.Right (plain : Nat → Prop) (t : Told) : Prop :=
  t.daemon = t.meant ∧ (t.why = .failed → t.meant = t.command) ∧ (t.why = .asked → ¬ plain t.command)

structure Inv (plain : Nat → Prop) (w : World) : Prop where
  locked : ∀ d, (w.stage d).holds = true → w.ended d = false → w.lock = some d
  keyed : ∀ d, (w.stage d).hasSecret = true → w.ended d = false → w.secret = some d
  plugged : ∀ d, (w.stage d).hasSocket = true → w.ended d = false → w.socket = some d
  returned : ∀ k, (k, false) ∈ w.returned → w.alive k = false
  told : ∀ t ∈ w.told, t.Right plain

variable {plain : Nat → Prop} {w t : World} {d k : Nat} {s s' : Stage}

/-- Only what belongs to the lock is touched, by `d`. -/
structure Fits (d : Nat) (s : Stage) (w t : World) : Prop where
  stage : t.stage = w.stage
  ended : t.ended = w.ended
  launched : t.launched = w.launched
  foreground : t.foreground = w.foreground
  returned : t.returned = w.returned
  told : t.told = w.told
  locked : s.holds = true → t.lock = some d
  keyed : s.hasSecret = true → t.secret = some d
  plugged : s.hasSocket = true → t.socket = some d

theorem Inv.moved (inv : Inv plain w) (alone : w.lock = none ∨ w.lock = some d)
    (fits : Fits d s w t) : Inv plain (t.moveTo d s) := by
  have other : ∀ e, e ≠ d → (t.stage e).holds = true → t.ended e = false → False := by
    intro e ne holds up
    rw [fits.stage] at holds
    rw [fits.ended] at up
    have mine := inv.locked e holds up
    rcases alone with none_ | some_
    · cases none_.symm.trans mine
    · cases some_.symm.trans mine
      exact ne rfl
  have each : ∀ (owns : Stage → Bool) (file : World → Option Nat),
      (∀ s, owns s = true → s.holds = true) → (owns s = true → file t = some d) →
      ∀ e, owns ((t.moveTo d s).stage e) = true → t.ended e = false → file t = some e := by
    intro owns file holds mine e owned up
    by_cases same : e = d
    · subst same
      simp only [World.moveTo, Function.update_self] at owned
      exact mine owned
    · simp only [World.moveTo, Function.update_of_ne same] at owned
      exact (other e same (holds _ owned) up).elim
  refine ⟨each Stage.holds World.lock (fun _ h => h) fits.locked,
    each Stage.hasSecret World.secret (fun _ => Stage.hasSecret_holds) fits.keyed,
    each Stage.hasSocket World.socket (fun _ => Stage.hasSocket_holds) fits.plugged, ?_, ?_⟩
  · intro k failed
    change (k, false) ∈ t.returned at failed
    rw [fits.returned] at failed
    have down := inv.returned k failed
    rw [World.alive] at down ⊢
    change (t.launched k && !t.ended k) = false
    rw [fits.launched, fits.ended]
    exact down
  · intro told mem
    change told ∈ t.told at mem
    rw [fits.told] at mem
    exact inv.told told mem

/-- Only the lock is released, and perhaps a process has ended. -/
theorem Inv.freed (inv : Inv plain w) (stage : t.stage = w.stage ∨ t.stage = Function.update w.stage d .stopped)
    (lock : t.lock = w.lock.filter (· ≠ d)) (secret : t.secret = w.secret)
    (socket : t.socket = w.socket) (ended : ∀ e, w.ended e = true → t.ended e = true)
    (gone : t.ended d = true ∨ t.stage d = .stopped)
    (launched : t.launched = w.launched) (returned : t.returned = w.returned)
    (told : t.told = w.told) : Inv plain t := by
  have up : ∀ e, t.ended e = false → w.ended e = false := by
    intro e up
    cases was : w.ended e with
    | false => rfl
    | true => exact (ended e was).symm.trans up
  have each : ∀ (owns : Stage → Bool) (file : Option Nat), owns .stopped = false →
      (∀ e, owns (w.stage e) = true → w.ended e = false → file = some e) →
      ∀ e, owns (t.stage e) = true → t.ended e = false → file = some e ∧ e ≠ d := by
    intro owns file unowned mine e owned alive
    have ne : e ≠ d := by
      rintro rfl
      rcases gone with gone | gone
      · cases gone.symm.trans alive
      · rw [gone, unowned] at owned
        cases owned
    refine ⟨mine e ?_ (up e alive), ne⟩
    rcases stage with same | same
    · rw [same] at owned
      exact owned
    · rw [same, Function.update_of_ne ne] at owned
      exact owned
  refine ⟨?_, ?_, ?_, ?_, ?_⟩
  · intro e holds alive
    obtain ⟨held, ne⟩ := each Stage.holds w.lock rfl inv.locked e holds alive
    rw [lock, held]
    simp [ne]
  · intro e keyed alive
    rw [secret]
    exact (each Stage.hasSecret w.secret rfl inv.keyed e keyed alive).1
  · intro e plugged alive
    rw [socket]
    exact (each Stage.hasSocket w.socket rfl inv.plugged e plugged alive).1
  · intro k failed
    rw [returned] at failed
    have down := inv.returned k failed
    rw [World.alive] at down ⊢
    rw [launched]
    cases was : w.ended k with
    | true => rw [ended k was, Bool.not_true, Bool.and_false]
    | false =>
      rw [was, Bool.not_false, Bool.and_true] at down
      rw [down, Bool.false_and]
  · rw [told]
    exact inv.told

theorem World.exit_ended : (w.exit d).ended d = true := by
  simp only [World.exit, Function.update_self]

theorem World.moveTo_stage : (w.moveTo d s).stage d = s := by
  simp only [World.moveTo, Function.update_self]

theorem Inv.exit (inv : Inv plain w) (d : Nat) : Inv plain (w.exit d) := by
  refine inv.freed (d := d) (.inl rfl) rfl rfl rfl ?_ (.inl World.exit_ended) rfl rfl rfl
  intro e ended
  by_cases same : e = d
  · rw [same]
    exact World.exit_ended
  · exact (Function.update_of_ne same _ _).trans ended

theorem Inv.stopped (inv : Inv plain w) (d : Nat) :
    Inv plain ({ w with lock := w.lock.filter (· ≠ d) } |>.moveTo d .stopped) :=
  inv.freed (d := d) (.inr rfl) rfl rfl rfl (fun _ ended => ended)
    (.inr World.moveTo_stage) rfl rfl rfl

theorem Inv.note (inv : Inv plain w) {told : Told} (right : told.Right plain) :
    Inv plain (w.note told) := by
  refine ⟨inv.locked, inv.keyed, inv.plugged, inv.returned, ?_⟩
  intro other mem
  rcases List.mem_append.mp mem with old | new
  · exact inv.told other old
  · rw [List.mem_singleton.mp new]
    exact right

/-! ## What each process knows -/

inductive Name where
  | command (k : Nat)
  | daemon (d : Nat)
  | fate (d : Nat)
  deriving DecidableEq

inductive Knowledge where
  | nothing
  /-- A daemon, how far it is. -/
  | stage (s : Stage)
  /-- A command that has launched nothing. -/
  | fresh
  /-- A command that has launched a daemon, and saw these end. -/
  | launched (stale : List Nat)
  /-- A command that is its daemon's process. -/
  | process

def Knows : Name → Knowledge → World → Prop
  | .daemon d, .stage s, w => w.ended d = false → w.stage d = s
  | .command k, .fresh, w => w.launched k = false ∧ ∀ ok, (k, ok) ∉ w.returned
  | .command k, .launched stale, w => w.launched k = true ∧ ∀ d ∈ stale, w.ended d = true
  | .command k, .process, w => w.foreground k = true
  | _, .nothing, _ => True
  | _, _, _ => False

def world (plain : Nat → Prop) : Known World Answer Name Knowledge where
  effect
  answers := InTime
  inv := Inv plain
  knows := Knows

/-- What a step of `i` leaves to the others. -/
structure Leaves (i : Name) (w t : World) : Prop where
  stage : ∀ d, i ≠ .daemon d → t.stage d = w.stage d
  ended : ∀ d, w.ended d = true → t.ended d = true
  launched : ∀ k, i ≠ .command k → t.launched k = w.launched k
  foreground : ∀ k, w.foreground k = true → t.foreground k = true
  returned : ∀ k, i ≠ .command k → ∀ ok, (k, ok) ∈ t.returned → (k, ok) ∈ w.returned

variable {i : Name} {x y : Knowledge}

theorem Leaves.others (leaves : Leaves i w t) (j : Name) (ne : j ≠ i) (u : Knowledge)
    (knows : Knows j u w) : Knows j u t := by
  cases j with
  | fate d => cases u <;> exact knows
  | daemon d =>
    cases u with
    | stage s =>
      intro up
      rw [leaves.stage d (Ne.symm ne)]
      refine knows ?_
      cases was : w.ended d with
      | false => rfl
      | true => exact (leaves.ended d was).symm.trans up
    | _ => exact knows
  | command k =>
    cases u with
    | fresh =>
      refine ⟨(leaves.launched k (Ne.symm ne)).trans knows.1, ?_⟩
      intro ok mem
      exact knows.2 ok (leaves.returned k (Ne.symm ne) ok mem)
    | launched stale =>
      exact ⟨(leaves.launched k (Ne.symm ne)).trans knows.1,
        fun d mem => leaves.ended d (knows.2 d mem)⟩
    | process => exact leaves.foreground k knows
    | _ => exact knows

theorem Leaves.moves (leaves : Leaves i w t) (inv : Inv plain t) (mine : Knows i y t) :
    (world plain).Moves i y w t := ⟨inv, mine, leaves.others⟩

theorem Leaves.refl : Leaves i w w :=
  ⟨fun _ _ => rfl, fun _ h => h, fun _ _ => rfl, fun _ h => h, fun _ _ _ h => h⟩

theorem World.ended_exit {e : Nat} (ended : w.ended e = true) : (w.exit d).ended e = true := by
  by_cases same : e = d
  · rw [same]
    exact World.exit_ended
  · exact (Function.update_of_ne same _ _).trans ended

theorem Leaves.exit (leaves : Leaves i w t) (d : Nat) : Leaves i w (t.exit d) :=
  ⟨leaves.stage, fun e ended => World.ended_exit (leaves.ended e ended), leaves.launched,
    leaves.foreground, leaves.returned⟩

theorem Leaves.note (leaves : Leaves i w t) (told : Told) : Leaves i w (t.note told) :=
  ⟨leaves.stage, leaves.ended, leaves.launched, leaves.foreground, leaves.returned⟩

/-! ## The daemon -/

variable {α : Type} {Q : α → Knowledge → Prop} {f : World → World} {can : World → Bool}

theorem Fits.leaves (fits : Fits d s w t) : Leaves (.daemon d) w (t.moveTo d s) := by
  refine ⟨?_, ?_, ?_, ?_, ?_⟩
  · intro e ne
    have other : e ≠ d := fun same => ne (congrArg Name.daemon same.symm)
    simp only [World.moveTo, Function.update_of_ne other, fits.stage]
  · intro e ended
    exact (congrFun fits.ended e).trans ended
  · intro k _
    exact congrFun fits.launched k
  · intro k mine
    exact (congrFun fits.foreground k).trans mine
  · intro k _ ok mem
    exact fits.returned ▸ mem

/-- The daemon that has the lock goes on to `s'`. -/
theorem does_act {k : Unit → Task α} (holds : s.holds = true)
    (fits : ∀ w, w.lock = some d → (s.hasSecret = true → w.secret = some d) →
      (s.hasSocket = true → w.socket = some d) → Fits d s' w (f w))
    (later : Does (world plain) (.daemon d) (k ()) Q (.stage s')) :
    Does (world plain) (.daemon d) ((act d s' f).bind k) Q (.stage s) := by
  refine does_sec fun w inv knows => ⟨.stage s', ?_, later⟩
  split
  next down =>
    refine Leaves.refl.moves inv fun up => ?_
    rw [down] at up
    cases up
  next up =>
    rw [Bool.not_eq_true] at up
    have here : w.stage d = s := knows up
    have held := inv.locked d (here ▸ holds) up
    have fits := fits w held (fun h => inv.keyed d (here ▸ h) up)
      fun h => inv.plugged d (here ▸ h) up
    exact fits.leaves.moves (inv.moved (.inr held) fits) fun _ => World.moveTo_stage

theorem does_tryAct {k : Bool → Task α}
    (fits : ∀ w, Inv plain w → w.ended d = false → w.stage d = s → can w = true →
      (w.lock = none ∨ w.lock = some d) ∧ Fits d s' w (f w))
    (ok : Does (world plain) (.daemon d) (k true) Q (.stage s'))
    (failed : Does (world plain) (.daemon d) (k false) Q (.stage s)) :
    Does (world plain) (.daemon d) ((tryAct d s' can f).bind k) Q (.stage s) := by
  refine does_sec fun w inv knows => ?_
  dsimp only
  split
  next able =>
    rw [Bool.and_eq_true, Bool.not_eq_true'] at able
    obtain ⟨alone, fits⟩ := fits w inv able.1 (knows able.1) able.2
    exact ⟨.stage s', fits.leaves.moves (inv.moved alone fits) fun _ => World.moveTo_stage, ok⟩
  next => exact ⟨.stage s, Leaves.refl.moves inv knows, failed⟩

theorem does_engine {k : Bool → Task α}
    (later : ∀ r, Does (world plain) (.daemon d) (k r) Q (.stage s)) :
    Does (world plain) (.daemon d) (.call (.engine d) k) Q (.stage s) :=
  does_call fun _ r inv knows _ => ⟨.stage s, Leaves.refl.moves inv knows, later r⟩

theorem does_bindDaemon :
    Does (world plain) (.daemon d) (bind d)
      (fun ready y => if ready then y = .stage .recorded else ∃ s, y = .stage s) (.stage .idle) := by
  refine does_tryAct ?_ ?_ (does_pure ⟨_, rfl⟩)
  · intro _ _ _ _ free
    exact ⟨.inl (Option.isNone_iff_eq_none.mp free), rfl, rfl, rfl, rfl, rfl, rfl, fun _ => rfl,
      fun h => (by cases h), fun h => by cases h⟩
  refine does_engine fun engine => ?_
  cases engine with
  | false => exact does_pure ⟨_, rfl⟩
  | true =>
    refine does_act rfl ?_ ?_
    · intro w held _ _
      exact ⟨rfl, rfl, rfl, rfl, rfl, rfl, fun _ => held, fun h => (by cases h), fun h => by cases h⟩
    refine does_act rfl ?_ ?_
    · intro w held _ _
      exact ⟨rfl, rfl, rfl, rfl, rfl, rfl, fun _ => held, fun _ => rfl, fun h => by cases h⟩
    refine does_tryAct ?_ ?_ (does_pure ⟨_, rfl⟩)
    · intro w inv up here _
      have held := inv.locked d (here ▸ rfl) up
      exact ⟨.inr held, rfl, rfl, rfl, rfl, rfl, rfl, fun _ => held,
        fun _ => inv.keyed d (here ▸ rfl) up, fun _ => rfl⟩
    refine does_act rfl ?_ (does_pure rfl)
    intro w held secret socket
    exact ⟨rfl, rfl, rfl, rfl, rfl, rfl, fun _ => held, fun _ => secret rfl, fun _ => socket rfl⟩

theorem does_serve :
    Does (world plain) (.daemon d) (serve d) (fun _ y => ∃ s, y = .stage s) (.stage .recorded) := by
  have same : ∀ {s : Stage} (w : World), w.lock = some d → (s.hasSecret = true → w.secret = some d) →
      (s.hasSocket = true → w.socket = some d) → Fits d s w w := by
    intro s w held secret socket
    exact ⟨rfl, rfl, rfl, rfl, rfl, rfl, fun _ => held, secret, socket⟩
  refine does_act rfl (same (s := .serving)) ?_
  refine does_ask fun w _ inv knows _ => ⟨.stage .serving, Leaves.refl.moves inv knows, ?_⟩
  refine does_act rfl (same (s := .leaving)) ?_
  refine does_act rfl ?_ ?_
  · intro w held secret _
    exact ⟨rfl, rfl, rfl, rfl, rfl, rfl, fun _ => held, fun _ => secret rfl, fun h => by cases h⟩
  refine does_act rfl ?_ ?_
  · intro w held _ _
    exact ⟨rfl, rfl, rfl, rfl, rfl, rfl, fun _ => held, fun h => (by cases h), fun h => by cases h⟩
  refine does_get fun w _ knows => ⟨.stage .keyless, knows, ?_⟩
  refine does_act rfl ?_ (does_pure ⟨_, rfl⟩)
  intro w' held _ _
  split
  next => exact ⟨rfl, rfl, rfl, rfl, rfl, rfl, fun _ => held, fun h => (by cases h), fun h => by cases h⟩
  next => exact ⟨rfl, rfl, rfl, rfl, rfl, rfl, fun _ => held, fun h => (by cases h), fun h => by cases h⟩

/-- The lock is released, and a background process ends. -/
theorem does_leave :
    Does (world plain) (.daemon d)
      ((act d .stopped fun w => { w with lock := w.lock.filter (· ≠ d) }).bind fun _ =>
        Prog.update .daemon fun w => if w.foreground d then w else w.exit d)
      (fun _ _ => True) (.stage s) := by
  have released : ∀ w, Leaves (.daemon d) w ({ w with lock := w.lock.filter (· ≠ d) } |>.moveTo d .stopped) := by
    intro w
    refine ⟨?_, fun _ h => h, fun _ _ => rfl, fun _ h => h, fun _ _ _ h => h⟩
    intro e ne
    have other : e ≠ d := fun same => ne (congrArg Name.daemon same.symm)
    simp only [World.moveTo, Function.update_of_ne other]
  refine does_sec fun w inv knows => ⟨.stage .stopped, ?_, ?_⟩
  · dsimp only
    split
    next down =>
      refine Leaves.refl.moves inv fun up => ?_
      rw [down] at up
      cases up
    next => exact (released w).moves (inv.stopped d) fun _ => World.moveTo_stage
  · refine does_sec fun w inv knows => ⟨.stage .stopped, ?_, does_pure trivial⟩
    split
    next => exact Leaves.refl.moves inv knows
    next =>
      refine (Leaves.refl.exit d).moves (inv.exit d) fun up => ?_
      rw [World.exit_ended] at up
      cases up

theorem does_daemon :
    Does (world plain) (.daemon d) (daemon d) (fun _ _ => True) (.stage .idle) := by
  refine does_ask fun w _ inv knows _ => ⟨.stage .idle, Leaves.refl.moves inv knows, ?_⟩
  refine does_bind (Does.mono does_bindDaemon ?_)
  intro ready y post
  cases ready with
  | false =>
    obtain ⟨s, rfl⟩ := post
    exact does_leave
  | true =>
    cases post
    refine does_bind (Does.mono does_serve ?_)
    rintro _ y ⟨s, rfl⟩
    exact does_leave

/-! ## The commands -/

theorem does_quiet {c : Call} {f : Answer c → Task α} (same : ∀ r w, effect c r w = w)
    (later : ∀ w r, Inv plain w → Knows i x w → InTime c r w →
      ∃ y, Knows i y w ∧ Does (world plain) i (f r) Q y) :
    Does (world plain) i ((Prog.ask c).bind f) Q x := by
  refine does_ask fun w r inv knows answer => ?_
  obtain ⟨y, knows', later⟩ := later w r inv knows answer
  refine ⟨y, ?_, later⟩
  change (world plain).Moves i y w (effect c r w)
  rw [same]
  exact Leaves.refl.moves inv knows'

theorem does_control {request : Request} {secret : Nat} {f : Bool → Task α}
    (later : ∀ r, Does (world plain) i (f r) Q x) :
    Does (world plain) i ((control k request secret).bind f) Q x :=
  does_quiet (fun _ _ => rfl) fun _ r _ knows _ => ⟨x, knows, later r⟩

theorem does_readSecret {f : Option Nat → Task α} (later : ∀ r, Does (world plain) i (f r) Q x) :
    Does (world plain) i (readSecret.bind f) Q x :=
  does_get fun w _ knows => ⟨x, knows, later w.secret⟩

theorem does_runningDaemon {why : Option Why} :
    Does (world plain) i (runningDaemon k why) (fun _ y => y = x) x := by
  refine does_quiet (fun _ _ => rfl) fun _ record _ knows _ => ⟨x, knows, ?_⟩
  exact does_get fun w _ knows => ⟨x, knows, does_pure rfl⟩

/-- A failed start finds its own daemon, or this has ended. -/
theorem does_findOwn :
    Does (world plain) (.command k) (runningDaemon k (some .failed))
      (fun r y => (r = none ∧ y = .launched [k]) ∨ (r = some k ∧ y = .launched []))
      (.launched []) := by
  refine does_quiet (fun _ _ => rfl) fun w record _ knows answer => ?_
  rcases answer.2 with own | ⟨ended, stale⟩
  · cases (own : record = some k)
    refine ⟨.launched [], knows, does_get fun w _ knows => ?_⟩
    cases up : w.alive k with
    | true =>
      refine ⟨.launched [], knows, does_pure (.inr ⟨?_, rfl⟩)⟩
      simp [up]
    | false =>
      refine ⟨.launched [k], ⟨knows.1, ?_⟩, does_pure (.inl ⟨?_, rfl⟩)⟩
      · intro d mem
        rw [List.mem_singleton.mp mem]
        rw [World.alive, knows.1, Bool.true_and, Bool.not_eq_false'] at up
        exact up
      · simp [up]
  · refine ⟨.launched (k :: (record : Option Nat).toList), ⟨knows.1, ?_⟩, does_get fun w _ knows => ?_⟩
    · intro d mem
      rcases List.mem_cons.mp mem with same | mem
      · rw [same]
        exact ended
      · exact stale d (Option.mem_toList.mp mem)
    · refine ⟨.launched [k], ⟨knows.1, ?_⟩, does_pure (.inl ⟨?_, rfl⟩)⟩
      · intro d mem
        rw [List.mem_singleton.mp mem]
        exact knows.2 k List.mem_cons_self
      · refine Option.filter_eq_none_iff.mpr fun d here => ?_
        have ended := knows.2 d (List.mem_cons_of_mem _ (Option.mem_toList.mpr here))
        simp [World.alive, ended]

theorem Knows.exit (knows : Knows (.command k) x w) (d : Nat) : Knows (.command k) x (w.exit d) := by
  cases x with
  | launched stale => exact ⟨knows.1, fun e mem => World.ended_exit (knows.2 e mem)⟩
  | _ => exact knows

theorem Knows.note (knows : Knows (.command k) x w) (told : Told) :
    Knows (.command k) x (w.note told) := by
  cases x <;> exact knows

theorem does_shutdown {why : Why} {meant secret : Nat} {f : Delivery → Task α}
    (right : Told.Right plain ⟨k, why, meant, meant⟩)
    (later : ∀ r, Does (world plain) (.command k) (f r) Q x) :
    Does (world plain) (.command k) ((Prog.ask (Call.shutdown k why meant secret)).bind f) Q x := by
  refine does_ask fun w r inv knows answer => ⟨x, ?_, later r⟩
  have came : ∀ delivery : Delivery, delivery = r → delivery ≠ .lost →
      (world plain).Moves (.command k) x w
        (if w.halted k then w else w.note ⟨k, why, meant, secret⟩) := by
    rintro delivery rfl ne
    rw [answer.2 ne]
    split
    next => exact Leaves.refl.moves inv knows
    next => exact (Leaves.refl.note _).moves (inv.note right) (knows.note _)
  cases delivery : (r : Delivery) with
  | lost => exact Leaves.refl.moves inv knows
  | unanswered => exact came .unanswered delivery.symm Delivery.noConfusion
  | answered => exact came .answered delivery.symm Delivery.noConfusion

theorem does_signal {why : Why} {meant : Nat} (right : Told.Right plain ⟨k, why, meant, meant⟩) :
    Does (world plain) (.command k) (signal k why meant) (fun _ y => y = x) x := by
  refine does_sec fun w inv knows => ⟨x, ?_, does_pure rfl⟩
  split
  next => exact Leaves.refl.moves inv knows
  next =>
    have ends : Leaves (.command k) w (w.terminate meant) ∧ Inv plain (w.terminate meant) ∧
        Knows (.command k) x (w.terminate meant) := by
      rw [World.terminate]
      split
      all_goals first
        | exact ⟨Leaves.refl.exit _, inv.exit _, knows.exit _⟩
        | exact ⟨Leaves.refl, inv, knows⟩
    exact (ends.1.note _).moves (ends.2.1.note right) (ends.2.2.note _)

theorem does_stopRecorded {why : Why} {record : Nat} {Q : Option Bool → Knowledge → Prop}
    (right : Told.Right plain ⟨k, why, record, record⟩)
    (last : ∀ w (r : Bool), Knows (.command k) x w → InTime (.exited k why record) r w →
      ∃ y, Knows (.command k) y w ∧ Q (if r then some true else none) y) :
    Does (world plain) (.command k) (stopRecorded k why record) Q x := by
  have waits : ∀ asked, Does (world plain) (.command k) (awaitExit k why record asked) Q x := by
    intro asked
    have exits : Does (world plain) (.command k) (awaitExit k why record true) Q x := by
      refine does_quiet (fun _ _ => rfl) fun w r _ knows answer => ?_
      obtain ⟨y, knows', post⟩ := last w r knows answer
      exact ⟨y, knows', does_pure post⟩
    cases asked with
    | true => exact exits
    | false =>
      refine does_bind (Does.mono (does_signal right) ?_)
      rintro _ y rfl
      exact exits
  refine does_readSecret fun client => ?_
  cases client with
  | none => exact waits false
  | some secret => exact does_shutdown right fun delivery => waits _

theorem does_stopAsked (other : ¬ plain k) :
    Does (world plain) (.command k) (stopDaemon k .asked) (fun _ y => y = x) x := by
  refine does_bind (Does.mono does_runningDaemon ?_)
  rintro running y rfl
  cases running with
  | none => exact does_pure rfl
  | some record =>
    refine does_stopRecorded ⟨rfl, fun h => (by cases h), fun _ => other⟩ ?_
    intro w r knows _
    exact ⟨y, knows, rfl⟩

/-- What a failed start launched has ended. -/
theorem does_stopFailed :
    Does (world plain) (.command k) (stopDaemon k .failed) (fun _ y => y = .launched [k])
      (.launched []) := by
  refine does_bind (Does.mono does_findOwn ?_)
  rintro running y (⟨rfl, rfl⟩ | ⟨rfl, rfl⟩)
  · exact does_pure rfl
  · refine does_stopRecorded ⟨rfl, fun _ => rfl, fun h => by cases h⟩ ?_
    intro w r knows answer
    refine ⟨.launched [k], ⟨knows.1, ?_⟩, rfl⟩
    intro d mem
    rw [List.mem_singleton.mp mem]
    exact answer.1 answer.2

theorem Inv.launch (inv : Inv plain w) (fresh : ∀ ok, (k, ok) ∉ w.returned) :
    Inv plain { w with launched := Function.update w.launched k true } := by
  refine ⟨inv.locked, inv.keyed, inv.plugged, ?_, inv.told⟩
  intro e failed
  have ne : e ≠ k := by
    rintro rfl
    exact fresh false failed
  have down := inv.returned e failed
  rw [World.alive] at down ⊢
  simp only [Function.update_of_ne ne]
  exact down

theorem Leaves.launch (leaves : Leaves (.command k) w t) :
    Leaves (.command k) w { t with launched := Function.update t.launched k true } := by
  refine ⟨leaves.stage, leaves.ended, ?_, leaves.foreground, leaves.returned⟩
  intro e ne
  have other : e ≠ k := fun same => ne (congrArg Name.command same.symm)
  exact (Function.update_of_ne other _ _).trans (leaves.launched e ne)

theorem Knows.ended (knows : Knows (.command k) (.launched []) w) (ended : w.ended k = true) :
    Knows (.command k) (.launched [k]) w := by
  refine ⟨knows.1, fun d mem => ?_⟩
  rw [List.mem_singleton.mp mem]
  exact ended

theorem does_awaitPing (rounds : Nat) :
    Does (world plain) (.command k) (awaitPing k rounds)
      (fun client y => y = if client.isSome then .launched [] else .launched [k])
      (.launched []) := by
  induction rounds with
  | zero =>
    refine does_bind (does_sec fun w inv knows => ⟨.launched [k], ?_, does_pure (does_pure rfl)⟩)
    split
    next ended => exact Leaves.refl.moves inv (knows.ended ended)
    next =>
      have here : Knows (.command k) (.launched []) w := knows
      have right : Told.Right plain ⟨k, .failed, k, k⟩ := ⟨rfl, fun _ => rfl, fun h => by cases h⟩
      have after : Knows (.command k) (.launched []) (w.exit k) := here.exit k
      exact ((Leaves.refl.exit k).note _).moves ((inv.exit k).note right)
        ((after.ended World.exit_ended).note _)
  | succ rounds ih =>
    have looks : Does (world plain) (.command k)
        ((Prog.get Place.command : Task World).bind fun w =>
          if w.ended k then Prog.ret none else awaitPing k rounds)
        (fun client y => y = if client.isSome then .launched [] else .launched [k])
        (.launched []) := by
      refine does_get fun w _ knows => ?_
      split
      next ended => exact ⟨.launched [k], knows.ended ended, does_pure rfl⟩
      next => exact ⟨.launched [], knows, ih⟩
    refine does_readSecret fun client => ?_
    cases client with
    | none => exact looks
    | some secret =>
      refine does_bind (does_control fun ok => ?_)
      cases ok with
      | true => exact does_pure (does_pure rfl)
      | false => exact does_pure looks

/-- What a start knows once it has a client, or none. -/
def Connected (k : Nat) : Option (Nat × Bool) → Knowledge → Prop
  | none, y => y = .fresh ∨ y = .launched [k]
  | some (_, false), y => y = .fresh
  | some (_, true), y => y = .launched []

theorem does_connectOrLaunch {rounds : Nat} :
    Does (world plain) (.command k) (connectOrLaunch k rounds) (Connected k) .fresh := by
  refine does_bind (Does.mono does_runningDaemon ?_)
  rintro running y rfl
  cases running with
  | some record =>
    refine does_readSecret fun client => ?_
    cases client with
    | none => exact does_pure (.inl rfl)
    | some secret =>
      refine does_control fun ok => ?_
      cases ok with
      | true => exact does_pure rfl
      | false => exact does_pure (.inl rfl)
  | none =>
    refine does_ask fun w launched inv knows _ => ?_
    cases (launched : Bool) with
    | false => exact ⟨.fresh, Leaves.refl.moves inv knows, does_pure (.inl rfl)⟩
    | true =>
      refine ⟨.launched [], Leaves.refl.launch.moves (inv.launch knows.2) ⟨?_, ?_⟩, ?_⟩
      · exact Function.update_self k _ _
      · exact fun d mem => absurd mem List.not_mem_nil
      refine does_bind (Does.mono (does_awaitPing _) ?_)
      rintro client y rfl
      cases client with
      | none => exact does_pure (.inr rfl)
      | some secret => exact does_pure rfl

theorem does_applyAndStart {secret : Nat} :
    Does (world plain) (.command k) (applyAndStart k secret) (fun _ y => y = x) x := by
  refine does_control fun applied => ?_
  cases applied with
  | false => exact does_pure rfl
  | true =>
    refine does_quiet (fun _ _ => rfl) fun _ recorded _ knows _ => ⟨x, knows, ?_⟩
    cases (recorded : Bool) with
    | false => exact does_pure rfl
    | true =>
      refine does_control fun started => ?_
      cases started with
      | false => exact does_pure rfl
      | true =>
        refine does_quiet (fun _ _ => rfl) fun _ _ _ knows _ => ⟨x, knows, ?_⟩
        exact does_pure rfl

/-- A start that fails has nothing running. -/
def Ended (k : Nat) (ok : Bool) (y : Knowledge) : Prop :=
  ok = false → y = .fresh ∨ y = .launched [k] ∨ y = .process

theorem does_startBackground {rounds : Nat} :
    Does (world plain) (.command k) (startBackground k rounds) (Ended k) .fresh := by
  refine does_bind (Does.mono does_connectOrLaunch ?_)
  intro client y post
  cases client with
  | none =>
    refine does_pure fun _ => ?_
    rcases post with same | same
    · exact .inl same
    · exact .inr (.inl same)
  | some client =>
    obtain ⟨secret, launched⟩ := client
    refine does_bind (Does.mono does_applyAndStart ?_)
    rintro applied y rfl
    cases applied with
    | true =>
      refine does_quiet (fun _ _ => rfl) fun w printed _ knows answer => ?_
      rcases answer.2 with printed' | down
      · exact ⟨y, knows, does_pure fun failed => by cases failed.symm.trans printed'⟩
      · cases launched with
        | false => exact ⟨y, knows, does_pure fun _ => .inl post⟩
        | true =>
          cases post
          have ended : w.ended k = true := by
            rw [World.alive, knows.1, Bool.true_and, Bool.not_eq_false'] at down
            exact down
          exact ⟨.launched [k], knows.ended ended, does_pure fun _ => .inr (.inl rfl)⟩
    | false =>
      cases launched with
      | false => exact does_pure fun _ => .inl post
      | true =>
        cases post
        refine does_bind (Does.mono does_stopFailed ?_)
        rintro _ y rfl
        exact does_pure fun _ => .inr (.inl rfl)

theorem does_startForeground :
    Does (world plain) (.command k) (startForeground k) (Ended k) .fresh := by
  refine does_sec fun w inv knows => ⟨.process, ⟨?_, ?_, ?_⟩, ?_⟩
  · have launched := inv.launch knows.2
    exact ⟨launched.locked, launched.keyed, launched.plugged, launched.returned, launched.told⟩
  · exact Function.update_self k _ _
  · have leaves : Leaves (.command k) w
        { w with
          launched := Function.update w.launched k true
          foreground := Function.update w.foreground k true } := by
      have launches : Leaves (.command k) w _ := Leaves.refl.launch
      refine ⟨launches.stage, launches.ended, launches.launched, ?_, launches.returned⟩
      intro e mine
      by_cases same : e = k
      · rw [same]
        exact Function.update_self k _ _
      · exact (Function.update_of_ne same _ _).trans mine
    exact leaves.others
  refine does_quiet (fun _ _ => rfl) fun _ bound _ knows _ => ⟨.process, knows, ?_⟩
  cases (bound : Bool) with
  | false => exact does_pure fun _ => .inr (.inr rfl)
  | true =>
    refine does_readSecret fun client => ?_
    cases client with
    | none => exact does_pure fun _ => .inr (.inr rfl)
    | some secret =>
      refine does_bind (Does.mono does_applyAndStart ?_)
      rintro applied y rfl
      cases applied with
      | true =>
        refine does_quiet (fun _ _ => rfl) fun _ printed _ knows _ => ⟨.process, knows, ?_⟩
        cases (printed : Bool) with
        | false => exact does_pure fun _ => .inr (.inr rfl)
        | true =>
          refine does_quiet (fun _ _ => rfl) fun _ _ _ knows _ => ⟨.process, knows, ?_⟩
          exact does_pure fun _ => .inr (.inr rfl)
      | false =>
        refine does_shutdown ⟨rfl, fun _ => rfl, fun h => by cases h⟩ fun delivery => ?_
        refine does_quiet (fun _ _ => rfl) fun _ _ _ knows _ => ⟨.process, knows, ?_⟩
        exact does_pure fun _ => .inr (.inr rfl)

theorem does_start {foreground restart : Bool} {rounds : Nat}
    (other : restart = true → ¬ plain k) :
    Does (world plain) (.command k) (start k foreground restart rounds) (Ended k) .fresh := by
  have starts : Does (world plain) (.command k)
      (if foreground then startForeground k else startBackground k rounds) (Ended k) .fresh := by
    cases foreground with
    | true => exact does_startForeground
    | false => exact does_startBackground
  refine does_quiet (fun _ _ => rfl) fun _ profile _ knows _ => ⟨.fresh, knows, ?_⟩
  cases (profile : Bool) with
  | false => exact does_pure fun _ => .inl rfl
  | true =>
    cases restart with
    | false => exact starts
    | true =>
      refine does_bind (does_bind (Does.mono (does_stopAsked (other rfl)) ?_))
      rintro stopped y rfl
      refine does_pure ?_
      cases stopped with
      | none => exact does_pure fun _ => .inl rfl
      | some stopped => exact starts

theorem Inv.finish (inv : Inv plain w) {ok : Bool} (down : ok = false → w.alive k = false) :
    Inv plain { w with returned := w.returned ++ [(k, ok)] } := by
  refine ⟨inv.locked, inv.keyed, inv.plugged, ?_, inv.told⟩
  intro e failed
  rcases List.mem_append.mp failed with old | new
  · exact inv.returned e old
  · cases List.mem_singleton.mp new
    exact down rfl

theorem does_finish {ok : Bool} (ended : Ended k ok x) :
    Does (world plain) (.command k) (finish k ok) (fun _ _ => True) x := by
  refine does_sec fun w inv knows => ⟨.nothing, ?_, does_pure trivial⟩
  split
  next => exact Leaves.refl.moves inv trivial
  next =>
    have returns : ∀ {t : World}, Leaves (.command k) w t → t.returned = w.returned →
        Leaves (.command k) w { t with returned := t.returned ++ [(k, ok)] } := by
      intro t leaves same
      refine ⟨leaves.stage, leaves.ended, leaves.launched, leaves.foreground, ?_⟩
      intro e ne ok' mem
      rcases List.mem_append.mp mem with old | new
      · exact leaves.returned e ne ok' old
      · cases List.mem_singleton.mp new
        exact absurd rfl ne
    dsimp only
    split
    next =>
      refine (returns (Leaves.refl.exit k) rfl).moves ((inv.exit k).finish fun _ => ?_) trivial
      rw [World.alive, World.exit_ended, Bool.not_true, Bool.and_false]
    next background =>
      refine (returns Leaves.refl rfl).moves (inv.finish fun failed => ?_) trivial
      rcases ended failed with rfl | rfl | rfl
      · rw [World.alive, knows.1, Bool.false_and]
      · rw [World.alive, knows.2 k List.mem_cons_self, Bool.not_true, Bool.and_false]
      · exact absurd knows background

/-! ## Every run -/

theorem does_command {command : Command}
    (other : plain k → ∃ foreground rounds, command = .start foreground false rounds) :
    Does (world plain) (.command k) (command.task k) (fun _ _ => True) .fresh := by
  cases command with
  | stop =>
    have asked : ¬ plain k := by
      intro own
      obtain ⟨_, _, same⟩ := other own
      cases same
    refine does_bind (Does.mono (does_stopAsked asked) ?_)
    rintro stopped y rfl
    exact does_finish fun _ => .inl rfl
  | start foreground restart rounds =>
    have asked : restart = true → ¬ plain k := by
      rintro rfl own
      obtain ⟨_, _, same⟩ := other own
      cases same
    refine does_bind (Does.mono (does_start asked) ?_)
    intro ok y ended
    exact does_finish ended

theorem does_fate :
    Does (world plain) (.fate d) (Prog.ask (Call.fate d) : Task Unit) (fun _ _ => True) .nothing :=
  does_ask fun _ _ inv _ _ =>
    ⟨.nothing, (Leaves.refl.exit d).moves (inv.exit d) trivial, does_pure trivial⟩

variable {commands : List Command} {p : Pool World Place Answer Unit}

/-- Command `k` is a start, not a restart. -/
def Plain (commands : List Command) (k : Nat) : Prop :=
  ∃ foreground rounds, commands[k]? = some (.start foreground false rounds)

def entries (commands : List Command) : List (Entry World Place Answer Name Knowledge Unit) :=
  commands.zipIdx.map (fun x => ⟨.command x.2, .fresh, x.1.task x.2⟩) ++
  commands.zipIdx.map (fun x => ⟨.daemon x.2, .stage .idle, daemon x.2⟩) ++
  commands.zipIdx.map (fun x => ⟨.fate x.2, .nothing, Prog.ask (Call.fate x.2)⟩)

theorem names_nodup : ((entries commands).map (·.name)).Nodup := by
  have each : ∀ f : Nat → Name, Function.Injective f →
      (commands.zipIdx.map fun x => f x.2).Nodup := by
    intro f injective
    have indices : (commands.zipIdx.map Prod.snd).Nodup := by
      rw [List.zipIdx_map_snd]
      exact List.nodup_range'
    have mapped := indices.map injective
    rw [List.map_map] at mapped
    exact mapped
  simp only [entries, List.map_append, List.map_map]
  refine List.nodup_append.mpr ⟨List.nodup_append.mpr ⟨each .command ?_, each .daemon ?_, ?_⟩,
    each .fate ?_, ?_⟩
  · exact fun _ _ same => Name.command.inj same
  · exact fun _ _ same => Name.daemon.inj same
  · intro a mem b mem' same
    obtain ⟨x, -, rfl⟩ := List.mem_map.mp mem
    obtain ⟨y, -, rfl⟩ := List.mem_map.mp mem'
    cases same
  · exact fun _ _ same => Name.fate.inj same
  · intro a mem b mem' same
    obtain ⟨y, -, rfl⟩ := List.mem_map.mp mem'
    rcases List.mem_append.mp mem with mem | mem
    all_goals
      obtain ⟨x, -, rfl⟩ := List.mem_map.mp mem
      cases same

theorem reached_inv (reached : Reaches effect (Asks InTime) (run commands) p) :
    Inv (Plain commands) p.state := by
  have tasks : (run commands).tasks = (entries commands).map fun e => { prog := e.prog } := by
    simp only [entries, List.map_append, List.map_map]
    rfl
  have start : Inv (Plain commands) {} := by
    refine ⟨fun _ h => (by cases h), fun _ h => (by cases h), fun _ h => (by cases h), ?_, ?_⟩
    · exact fun k mem => absurd mem List.not_mem_nil
    · exact fun t mem => absurd mem List.not_mem_nil
  refine Reaches.known (K := world (Plain commands)) (q := run commands) ?_ names_nodup start ?_
    tasks reached
  · intro e mem
    rcases List.mem_append.mp mem with mem | mem
    · rcases List.mem_append.mp mem with mem | mem
      · obtain ⟨x, here, rfl⟩ := List.mem_map.mp mem
        refine does_command ?_
        rintro ⟨foreground, rounds, same⟩
        have own := List.mem_zipIdx_iff_getElem?.mp here
        exact ⟨foreground, rounds, Option.some.inj (own.symm.trans same)⟩
      · obtain ⟨x, -, rfl⟩ := List.mem_map.mp mem
        exact does_daemon
    · obtain ⟨x, -, rfl⟩ := List.mem_map.mp mem
      exact does_fate
  · intro e mem
    rcases List.mem_append.mp mem with mem | mem
    · rcases List.mem_append.mp mem with mem | mem
      · obtain ⟨x, -, rfl⟩ := List.mem_map.mp mem
        exact ⟨rfl, fun _ => List.not_mem_nil⟩
      · obtain ⟨x, -, rfl⟩ := List.mem_map.mp mem
        exact fun _ => rfl
    · obtain ⟨x, -, rfl⟩ := List.mem_map.mp mem
      trivial

instance World.reaches.decidable (w : World) (d : Nat) : Decidable (w.reaches d) :=
  inferInstanceAs (Decidable (_ ∧ _ ∧ _))

instance Lawful.decidable (w : World) : (c : Call) → (r : Answer c) → Decidable (Lawful c r w)
  | .exec _, _ | .fate _, _ => instDecidableEqBool _ _
  | .readRecord _ _, record => decideAt (fun record : Option Nat => record = w.record) record
  | .control _ _ secret, ok => decideAt (fun ok : Bool => ok = true → w.reaches secret) ok
  | .shutdown _ _ _ secret, delivery =>
    decideAt (fun delivery : Delivery => delivery ≠ .lost → w.reaches secret) delivery
  | .exited _ _ d, ok => decideAt (fun ok : Bool => ok = true → w.ended d = true) ok
  | .bound k, ok => decideAt (fun ok : Bool => (ok = true → w.ready k = true) ∧
      (ok = false → w.ready k = false ∧ (w.stage k = .stopped ∨ w.ended k = true))) ok
  | .served _, _ => inferInstanceAs (Decidable (_ = Stage.stopped))
  | .engine _, _ | .leave _, _ | .profile _, _ | .launch _, _ | .settings _, _
  | .print _ _, _ => isTrue trivial

instance Timely.decidable (w : World) : (c : Call) → (r : Answer c) → Decidable (Timely c r w)
  | .readRecord k (some .failed), record => decideAt (fun record : Option Nat => record = some k ∨
      (w.ended k = true ∧ ∀ d ∈ record, w.ended d = true)) record
  | .shutdown _ _ meant secret, delivery =>
    decideAt (fun delivery : Delivery => delivery ≠ .lost → secret = meant) delivery
  | .exited _ .failed _, ok => decideAt (fun ok : Bool => ok = true) ok
  | .print k false, ok => decideAt (fun ok : Bool => ok = true ∨ w.alive k = false) ok
  | .readRecord _ (some .asked), _ | .readRecord _ none, _ | .exited _ .asked _, _
  | .print _ true, _ | .exec _, _ | .fate _, _ | .control _ _ _, _ | .bound _, _ | .served _, _
  | .engine _, _ | .leave _, _ | .profile _, _ | .launch _, _ | .settings _, _ => isTrue trivial

instance InTime.decidable (w : World) (c : Call) (r : Answer c) : Decidable (InTime c r w) :=
  instDecidableAnd

/-- Every call succeeds; the record is of `record`. -/
def answering (record : Option Nat) : (c : Call) → Answer c
  | .exec _ | .leave _ | .fate _ => ()
  | .readRecord _ _ => record
  | .shutdown _ _ _ _ => .answered
  | .engine _ | .profile _ | .control _ _ _ | .exited _ _ _ | .launch _ | .bound _ | .served _
  | .settings _ | .print _ _ => true

/-- The profile is not accepted. -/
def refusing (record : Option Nat) : (c : Call) → Answer c
  | .control _ .apply _ => false
  | c => answering record c

def steps (oracle : (c : Call) → Answer c) (i n : Nat) : List (Move Answer) :=
  (List.replicate n [.go i, .answer i oracle]).flatten

/-- A start that fails and one that does not; the tasks 2 and 3 are their daemons. -/
def starts : Pool World Place Answer Unit := run [.start false false 3, .start false false 3]

/-- The first start launches a daemon, whose engine does not accept the profile,
and stops it; then the second one starts. -/
def inOrder : Pool World Place Answer Unit :=
  starts.play effect (Asks InTime)
    (steps (answering none) 0 4 ++ steps (answering none) 2 9 ++ steps (refusing (some 0)) 0 9 ++
      steps (answering none) 2 20 ++ steps (answering none) 0 5 ++
      steps (answering none) 1 4 ++ steps (answering none) 3 9 ++ steps (answering none) 1 20)

/-- Both starts find no daemon and launch one. The first daemon has the lock; both
starts talk to it, and the second one's profile is refused. -/
def sideBySide : Pool World Place Answer Unit :=
  starts.play effect (Asks Lawful)
    (steps (answering none) 0 4 ++ steps (answering none) 1 4 ++ steps (answering none) 2 9 ++
      steps (answering (some 0)) 0 16 ++ steps (refusing (some 0)) 1 9 ++
      steps (answering none) 2 20 ++ steps (refusing (some 0)) 1 5 ++ steps (answering none) 3 9)

end PpvpnCore.Cli
