import PpvpnCore.Desktop.Minded

/-!
# The loops keep to it

No step of a loop does more to enhanced mode than what the task that has the
operation lock reckons with, an aborted loop included.

* `steady_leaseLoop`, `steady_watchLoop`, `obeys_healthLoop`: the three loops.
* `Others.of_lost`: what a report of a takeover does.
-/

namespace PpvpnCore.Desktop.Enhanced

open Lib
open Client (SessionRef)

variable {α β : Type}

/-- Every step of the task is one that may be taken beside the lock. -/
abbrev Besides (task : Task α) : Prop := Steady discipline.env (watch task)

/-- The scene once a section made `u` of the state. -/
abbrev After (place : Place) (s : Scene) (u : State) : Scene := (u, note place s.1 u s.2)

/-! ## Rules -/

theorem besides_done {a : α} : Besides (pure a : Task α) := trivial

theorem besides_bind {task : Task α} {k : α → Task β} (first : Besides task)
    (rest : ∀ a, Besides (k a)) : Besides (task >>= k) := by
  show Steady discipline.env (Prog.noted id note (task.bind k))
  rw [Prog.noted_bind]
  exact first.bind rest

theorem besides_step {place : Place} {f : State → α × State}
    (step : ∀ s, Good s → Others s (After place s (f s.1).2) ∧ Good (After place s (f s.1).2)) :
    Besides (Prog.step place f) :=
  ⟨step, fun _ => trivial⟩

theorem besides_slip {place : Place} {f : State → α × State}
    (step : ∀ s, Good s → Slip s (After place s (f s.1).2)) : Besides (Prog.step place f) :=
  besides_step fun s good => ⟨(step s good).others, (step s good).good good⟩

theorem besides_update {place : Place} {f : State → State}
    (step : ∀ s, Good s → Slip s (After place s (f s.1))) : Besides (Prog.update place f) :=
  ⟨fun s good => ⟨(step s good).others, (step s good).good good⟩, fun _ => trivial⟩

theorem besides_read : Besides read :=
  ⟨fun s good => ⟨Others.refl s, good⟩, fun _ => trivial⟩

theorem besides_ask {c : Call}
    (step : ∀ r s, Good s → answers c r s → Slip s (beside effect hear c r s)) : Besides (ask c) :=
  ⟨fun _ _ => trivial, fun r s good answer =>
    ⟨⟨(step r s good answer).others, (step r s good answer).good good⟩, trivial⟩⟩

/-- A call that changes nothing. -/
theorem besides_calm {c : Call} (same : ∀ r s, beside effect hear c r s = s) :
    Besides (ask c) := by
  refine besides_ask fun r s _ _ => ?_
  rw [same]
  exact .refl s

theorem besides_ite {c : Prop} [Decidable c] {p q : Task α} (yes : c → Besides p)
    (no : ¬c → Besides q) : Besides (if c then p else q) := by
  split
  next here => exact yes here
  next here => exact no here

/-! ## Small tasks -/

theorem besides_persist (persisted : Persisted) : Besides (persist persisted) := by
  refine besides_bind (besides_calm fun _ _ => rfl) fun written => ?_
  cases (written : Except ClientErrorInfo Unit) with
  | ok => exact besides_done
  | error info => exact besides_calm fun _ _ => rfl

theorem besides_emit : Besides emit :=
  besides_bind besides_read fun _ => besides_calm fun _ _ => rfl

theorem besides_refreshInstalled : Besides refreshInstalled := by
  refine besides_bind (besides_calm fun _ _ => rfl) fun installed => ?_
  refine besides_bind ?_ fun changed => ?_
  · exact besides_slip fun s _ => .of_data rfl rfl rfl rfl rfl
  · exact besides_ite (fun _ => besides_bind besides_emit fun _ => besides_done)
      fun _ => besides_done

theorem besides_releaseSession (machine : Machine) : Besides (releaseSession machine) := by
  refine besides_ite (fun _ => besides_done) fun _ => ?_
  cases machine.session with
  | some session => exact besides_calm fun _ _ => rfl
  | none => exact besides_done

/-! ## Loops -/

theorem Good.no_fallback {s : Scene} (good : Good s) {l : Loop} {verdict : Option WatchVerdict}
    (here : (s.1.table l).verdict = verdict) : verdict ≠ some .fallback := by
  rw [← here]
  exact good.verdicts l

/-- A loop ends that does not mind its generation, or none. -/
theorem Slip.ended {s : Scene} {l : Loop} (early : Bool) (soon : early = false → s.2.early = false)
    (free : early = false → Live s → l.session.generation = (machineOf s).generation →
      l.kind = .health ∨ s.1.alive l = false ∨ (l.kind = .watch ∧ s.1.table l = .busy none)) :
    Slip s (s.1.ended l, { s.2 with early }) := by
  refine .of_put s.2.heard early (.of_put s.1 l .gone) rfl rfl (fun here => by cases here)
    (fun here => by cases here) (fun _ => .inl) soon ?_ ?_
  · intro early_ live kind generation alive
    rcases free early_ live generation with health | dead | ⟨watch, -⟩
    · rw [kind] at health
      cases health
    · rw [dead] at alive
      cases alive
    · rw [kind] at watch
      cases watch
  · intro early_ live kind generation verdict
    rcases free early_ live generation with health | dead | ⟨-, busy⟩
    · rw [kind] at health
      cases health
    · rw [State.alive] at dead
      cases here : s.1.table l with
      | gone | aborted =>
        rw [here] at verdict
        cases verdict
      | asleep v | busy v =>
        rw [here] at dead
        cases dead
    · rw [busy] at verdict
      cases verdict

/-- A loop ends and leaves a recovery of its generation. -/
theorem Slip.spawned (s : Scene) (l : Loop) (cause : ClientErrorInfo) :
    Slip s ((s.1.ended l).spawnRecover l.session.generation cause, s.2) := by
  have put : Put s.1 ((s.1.ended l).spawnRecover l.session.generation cause) l .gone :=
    ⟨rfl, fun _ here => .inl (List.mem_append_left _ here), fun _ => id⟩
  have pending : Pending l.session.generation
      ((s.1.ended l).spawnRecover l.session.generation cause) :=
    ⟨cause, .inl (List.mem_append_right _ (List.mem_singleton_self _))⟩
  refine .of_put s.2.heard s.2.early put rfl rfl (fun here => by cases here)
    (fun here => by cases here) (fun _ => .inl) id ?_ ?_
  · intro _ _ _ generation _
    exact .inr (generation ▸ pending)
  · intro _ _ _ generation _
    exact .inr (generation ▸ pending)

theorem alive_of_verdict {status : LoopStatus} (verdict : status.verdict.isSome = true) :
    status.alive = true := by
  cases status with
  | gone | aborted => cases verdict
  | asleep v | busy v => rfl

/-- A loop sleeps again; a watch loop with its verdict. -/
theorem Slip.sleeps {s : Scene} {l : Loop} {verdict : Option WatchVerdict} (early : Bool)
    (soon : early = false → s.2.early = false) (kept : verdict ≠ some .fallback)
    (told : l.kind = .watch → verdict.isSome = true) :
    Slip s (s.1.sleeps l verdict, { s.2 with early }) := by
  have still : s.1.alive l = true →
      (if s.1.alive l = true then LoopStatus.asleep verdict else .gone).alive = true := by
    intro alive
    rw [if_pos alive]
    rfl
  refine .of_put s.2.heard early (.of_put s.1 l _) rfl rfl ?_ ?_ (fun _ => .inl) soon ?_ ?_
  · intro here
    by_cases alive : s.1.alive l = true
    · exact alive
    · rw [if_neg alive] at here
      cases here
  · split
    next => exact kept
    next => exact fun here => by cases here
  · exact fun _ _ _ _ alive => .inl (still alive)
  · intro _ _ kind _ verdict_
    rw [if_pos (show s.1.alive l = true from alive_of_verdict verdict_)]
    exact .inl (told kind)

theorem besides_endsUnless {place : Place} {l : Loop} {goesOn : State → Bool}
    (stays : ∀ s, Slip s (After place s s.1))
    (ends : ∀ s, goesOn s.1 = false → Slip s (After place s (s.1.ended l))) :
    Besides (endsUnless place l goesOn) := by
  refine besides_slip fun s _ => ?_
  show Slip s (After place s (if goesOn s.1 = true then (true, s.1) else (false, s.1.ended l)).2)
  split
  next => exact stays s
  next stop => exact ends s (by simpa using stop)

theorem Slip.looks (s : Scene) (g : UInt64) : Slip s (After (.looks g) s s.1) := by
  have soon : (s.2.early || ((machineOf s).generation = g && (machineOf s).phase.starting)) = false →
      s.2.early = false := fun here => (Bool.or_eq_false_iff.mp here).1
  exact {
    Slip.refl s with
    early := soon
    past := ⟨s.2.heard, _, s.2.off, rfl⟩
    off := .inl
    heard := fun _ => .inl
    cared := fun _ _ => id
    heeded := fun _ _ => id }

/-- A loop that looks early is noted; one that ends in another phase minds
nothing. -/
theorem Slip.looked {s : Scene} {l : Loop} (off : ¬(machineOf s).Is l.session.generation .on) :
    Slip s (After (.looks l.session.generation) s (s.1.ended l)) := by
  refine .ended _ (fun here => (Bool.or_eq_false_iff.mp here).1) ?_
  intro soon live generation
  rcases live with on | starting
  · exact absurd ⟨generation.symm, on⟩ off
  · have := (Bool.or_eq_false_iff.mp soon).2
    rw [generation, starting] at this
    simp at this

theorem besides_spawnRecover (l : Loop) (cause : ClientErrorInfo) :
    Besides (spawnRecover l cause) :=
  besides_update fun s _ => .spawned s l cause

theorem besides_goesOn {l : Loop} (kind : l.kind ≠ .watch) : Besides (goesOn l) := by
  refine besides_update fun s _ => ?_
  exact .sleeps s.2.early id (fun here => by cases here) fun watch => absurd watch kind

/-- A report of a takeover is a step like the others': the generation is
contended then, so nobody has to mind it. -/
theorem others_lost {s : Scene} (good : Good s) (l : Loop) (info : ClientErrorInfo)
    (retryable : Bool) {t : Scene}
    (made : t = After (.lost l) s { s.1.ended l with data := { s.1.data with
        machine := (machineOf s).transition l.session.generation .contended (some info)
          retryable } }) : Others s t ∧ Good t := by
  by_cases current : (machineOf s).generation = l.session.generation
  · have spared : ∀ m', trespasses l.session.generation (machineOf s) m' = false := by
      intro m'
      rw [trespasses, current]
      simp
    have late : t.2.late = (s.2.late || !s.1.alive l) := by
      rw [made]
      simp [note, current]
    have past : t.2 = { s.2 with late := t.2.late } := by
      rw [late, made]
      simp [note, current, spared]
    have machine : machineOf t =
        { machineOf s with phase := .contended, reason := some info, retryable } := by
      rw [made]
      simp [machineOf, Machine.transition, current]
    have table : ∀ l', t.1.table l' = if l' = l then .gone else s.1.table l' := by
      intro l'
      rw [made]
      rfl
    have alive : ∀ l', t.1.alive l' = true → s.1.alive l' = true := by
      intro l' here
      rw [State.alive, table] at here
      split at here
      next => cases here
      next => exact here
    have reporting : t.2.late = false → s.1.alive l = true := by
      intro here
      rw [late] at here
      simpa using (Bool.or_eq_false_iff.mp here).2
    have before : t.2.late = false → s.2.late = false := by
      intro here
      rw [late] at here
      exact (Bool.or_eq_false_iff.mp here).1
    refine ⟨?_, ?_⟩
    · exact {
        machine := .inr (by rw [machine]; exact ⟨rfl, rfl, rfl⟩)
        settled := fun here none_ => absurd (reporting here) (by rw [none_ l]; exact Bool.noConfusion)
        profile := by rw [made]; exact id
        uninstalling := by rw [made]; rfl
        alive := alive
        off := by rw [past]; exact .inl
        quiet := by rw [past]
        heard := by rw [past]; exact fun _ => .inl
        now := by rw [past]
        late := before
        early := by rw [past]; exact id
        crossed := by rw [past]
        exhausted := by rw [past]
        relaunched := by rw [past]
        loops := by rw [made]
        loopsGeneration := by rw [made]
        minded := fun _ live => absurd (by rw [machine]) (Live.not_contended (s := t) live) }
    · refine ⟨?_, ?_, ?_, ?_, ?_, ?_⟩
      · intro _ phase
        rw [machine] at phase
        cases phase
      · intro here relaunched isOff
        rw [past] at relaunched isOff
        have calm := good.calm relaunched (good.off (before here) relaunched isOff) l
        exact absurd (reporting here) (by rw [calm]; exact Bool.noConfusion)
      · rw [past]
        exact good.kept
      · rw [past]
        exact good.ended
      · intro l'
        rw [table]
        split
        next => exact fun here => by cases here
        next => exact good.verdicts l'
      · rw [past, made]
        exact good.budget
  · have same : t = (s.1.ended l, s.2) := by
      rw [made]
      simp [note, Machine.transition, trespasses, current, State.ended, State.put]
    have slip : Slip s (s.1.ended l, s.2) :=
      .ended s.2.early id fun _ _ generation => absurd generation.symm current
    rw [same]
    exact ⟨slip.others, slip.good good⟩

theorem besides_connectionLost (l : Loop) (info : ClientErrorInfo) (retryable : Bool) :
    Besides (connectionLost l info retryable) := by
  refine besides_bind (besides_step fun s good => others_lost good l info retryable rfl) fun told => ?_
  exact besides_ite (fun _ => besides_emit) fun _ => besides_done

/-- Who waits hears nothing only if it was aborted. -/
theorem Slip.awaited {s : Scene} {l : Loop} {heard : Bool} (answer : heard = s.1.alive l) :
    Slip s (s.1.awaited l heard, s.2) := by
  cases heard with
  | true => exact .refl s
  | false => exact .ended s.2.early id fun _ _ _ => .inr (.inl answer.symm)

theorem besides_leaseLoop (expected : Option String) {l : Loop} (kind : l.kind ≠ .watch) :
    Besides (leaseLoop expected l) := by
  refine besides_bind (besides_endsUnless (fun s => .looks s _) fun s stop => ?_) fun on => ?_
  · exact .looked (of_decide_eq_false stop)
  refine besides_ite (fun _ => besides_done) fun _ => besides_bind ?_ fun renewed => ?_
  · exact besides_ask fun r s _ answer => .awaited answer
  cases (renewed : Option (Except ServiceError ServiceStatus)) with
  | none => exact besides_done
  | some renewed =>
    refine besides_bind (besides_endsUnless (fun s => .refl s) fun s stop => ?_) fun current => ?_
    · exact .ended s.2.early id fun _ _ generation =>
        absurd generation.symm (of_decide_eq_false stop)
    refine besides_ite (fun _ => besides_done) fun _ => ?_
    cases renewed with
    | ok status =>
      refine besides_ite (fun _ => ?_) fun _ => besides_goesOn kind
      exact besides_bind (besides_update fun s _ => .of_data rfl rfl rfl rfl rfl)
        fun _ => besides_goesOn kind
    | error error =>
      dsimp only
      cases ownershipLost error with
      | some lost => exact besides_connectionLost l lost.1 lost.2
      | none => exact besides_spawnRecover l error.info

theorem besides_act {l : Loop} {verdict : WatchVerdict} (means : verdict ≠ .fallback) :
    Besides (act l verdict) := by
  refine besides_bind (besides_slip fun s _ => ?_) fun on => ?_
  · split
    next => exact .looks s _
    next off =>
      split
      next =>
        refine .sleeps _ (fun here => (Bool.or_eq_false_iff.mp here).1) ?_ fun _ => rfl
        exact fun here => means (Option.some.inj here)
      next => exact .looked off
  · refine besides_ite (fun _ => ?_) fun _ => besides_done
    cases verdict with
    | fallback => exact absurd rfl means
    | takenOver info => exact besides_connectionLost l info true
    | recover cause => exact besides_spawnRecover l cause

/-- What a watch loop hears is noted, and the loop has it. -/
theorem Slip.watched {s : Scene} {l : Loop} {r : Option WatchEnd} (kind : l.kind = .watch)
    (answer : answers (.watch l) r s) :
    Slip s (beside effect hear (.watch l) r s) := by
  cases r with
  | none => exact .ended s.2.early id fun _ _ _ => .inr (.inl answer)
  | some end_ =>
    have busy : s.1.table l = .busy none := answer
    by_cases fallback : watchVerdict end_ = .fallback
    · have eq : beside effect hear (.watch l) (some end_ : Option WatchEnd) s = (s.1.ended l, s.2) := by
        simp [beside, effect, hear, State.watched, busy, fallback]
      rw [eq]
      exact .ended s.2.early id fun _ _ _ => .inr (.inr ⟨kind, busy⟩)
    · have eq : beside effect hear (.watch l) (some end_ : Option WatchEnd) s =
          (s.1.put l (.busy (some (watchVerdict end_))),
            { s.2 with heard := l.session.generation :: s.2.heard }) := by
        simp [beside, effect, hear, State.watched, busy, fallback]
      rw [eq]
      refine .of_put _ s.2.early (.of_put s.1 l _) rfl rfl ?_ ?_ ?_ id ?_ ?_
      · exact fun _ => by rw [State.alive, busy]; rfl
      · exact fun here => fallback (Option.some.inj here)
      · intro g here
        rcases List.mem_cons.mp here with same | before
        · exact .inr ⟨same, kind, by rw [State.alive, busy]; rfl, rfl⟩
        · exact .inl before
      · exact fun _ _ _ _ _ => .inl rfl
      · exact fun _ _ _ _ _ => .inl rfl

theorem besides_watchLoop {l : Loop} {verdict : Option WatchVerdict} (kind : l.kind = .watch)
    (means : verdict ≠ some .fallback) : Besides (watchLoop l verdict) := by
  cases verdict with
  | some verdict => exact besides_act fun here => means (by rw [here])
  | none =>
    refine besides_bind (besides_ask fun r s _ answer => .watched kind answer) fun ended => ?_
    cases (ended : Option WatchEnd) with
    | none => exact besides_done
    | some end_ => exact besides_ite (fun _ => besides_done) fun means => besides_act means

theorem besides_onHealthResult {l : Loop} (kind : l.kind = .health)
    (result : Except ClientErrorInfo Unit) : Besides (onHealthResult l result) := by
  have other : l.kind ≠ .watch := by rw [kind]; exact fun here => by cases here
  refine besides_bind (besides_slip fun s _ => ?_) fun found => ?_
  · dsimp only
    split
    next => exact .of_data rfl rfl rfl rfl rfl
    next => exact .refl s
  refine besides_ite (fun _ => besides_ite (fun _ => besides_goesOn other) fun _ => ?_) fun _ => ?_
  · exact besides_update fun s _ => .ended s.2.early id fun _ _ _ => .inl kind
  · cases result with
    | ok => exact besides_goesOn other
    | error error => exact besides_spawnRecover l error

theorem besides_judge {l : Loop} (kind : l.kind = .health) (error : ClientErrorInfo) :
    Besides (judge l error) := by
  have other : l.kind ≠ .watch := by rw [kind]; exact fun here => by cases here
  refine besides_ite (fun _ => besides_bind ?_ fun excused => ?_) fun _ =>
    besides_onHealthResult kind _
  · exact besides_ask fun r s _ answer => .awaited answer
  · cases (excused : Option Bool) with
    | none => exact besides_done
    | some excused =>
      cases excused with
      | true => exact besides_goesOn other
      | false => exact besides_onHealthResult kind _

theorem obeys_of_besides {task : Task α} (besides : Besides task) :
    Obeys discipline (watch task) none :=
  Obeys.of_steady (fun _ _ moved _ inv => moved.free inv) besides

theorem besides_checkHealth {l : Loop} (kind : l.kind = .health) : Besides (checkHealth l) := by
  refine besides_bind (besides_slip fun s _ => ?_) fun revision => ?_
  · dsimp only
    split
    next => exact .refl s
    next => exact .ended s.2.early id fun _ _ _ => .inl kind
  cases revision with
  | none => exact besides_done
  | some revision =>
    refine besides_bind (besides_ask fun r s _ answer => .awaited answer) fun result => ?_
    cases (result : Option (Except ClientErrorInfo Unit)) with
    | none => exact besides_done
    | some result =>
      cases result with
      | ok => exact besides_onHealthResult kind _
      | error error => exact besides_judge kind error

/-- Only the health loop waits for the lock, and lets it go at once. -/
theorem obeys_healthLoop {l : Loop} (kind : l.kind = .health) :
    Obeys discipline (watch (healthLoop l)) none := by
  have other : l.kind ≠ .watch := by rw [kind]; exact fun here => by cases here
  have goes : Obeys discipline (watch (goesOn l)) none := obeys_of_besides (besides_goesOn other)
  show Obeys discipline (Prog.noted id note (Prog.bind _ _)) none
  rw [Prog.noted_bind]
  refine Obeys.bind (obeys_of_besides (besides_endsUnless (fun s => .refl s) fun s _ => ?_))
    fun on => ?_
  · exact .ended s.2.early id fun _ _ _ => .inl kind
  cases on with
  | false => exact trivial
  | true =>
    refine ⟨fun s _ free => ?_, fun _ => goes⟩
    exact fun t moved _ => ⟨moved.free free, obeys_of_besides (besides_checkHealth kind)⟩

end PpvpnCore.Desktop.Enhanced
