import PpvpnCore.Desktop.Compat

/-!
Compatible mode gives the OS proxy back.

* `Lives`: one launch after another over the same settings; a process may end
  between any two writes.
* `Kept`: without a backup the settings are the original ones, and a backup
  holds them.
* `given_back`: it is kept in every run in which the settings are recognised
  whenever a restore looks at them.
* `given_up`: half-written settings are taken for another program's.
-/

namespace PpvpnCore.Desktop

open Lib

variable {V α : Type} {W : Writer V} {original : V} {told : State V → Prop}

/-! ## Runs -/

/-- The settings point at the endpoint of the backup, or are the saved ones. -/
def Writer.Recognised (W : Writer V) (s : State V) : Prop :=
  ∀ backup endpoint, s.file = some (.backup backup) → backup.endpoint = some endpoint →
    W.owns s.os endpoint = true ∨ s.os = backup.saved

/-- Any answer, but that something is known of the state when the proxies are
told. -/
def Answers (told : State V → Prop) : (c : Call V) → Answer c → State V → Prop
  | .currentProxies, r, s => match (r : Except String Unit) with
    | .ok () => told s
    | .error _ => True
  | _, _, _ => True

def Meets (told : State V → Prop) (p : Process V) :
    Move (Answer (V := V)) → Prop
  | .answer i oracle => match p.task i with
    | some (.call c _) => Answers told c (oracle c) p.state
    | _ => True
  | _ => True

/-- One launch after another, from settings that compatible mode has never
touched. A process may end at any time. -/
inductive Lives (W : Writer V) (told : State V → Prop) (original : V) :
    Process V → Prop
  | first (ops : List Op) : Lives W told original (launch W { os := original } ops)
  | step {p q : Process V} {m : Move (Answer (V := V))}
      (before : Lives W told original p) (meets : Meets told p m)
      (taken : p.step effect m = some q) : Lives W told original q
  | relaunch {p : Process V} (before : Lives W told original p)
      (ops : List Op) : Lives W told original (launch W p.state ops)

/-! ## What is kept -/

structure Kept (original : V) (s : State V) : Prop where
  without : s.file = none → s.os = original
  backup : ∀ file, s.file = some file → ∃ backup, file = .backup backup ∧ backup.saved = original

/-- While on, a backup notes the endpoint in memory. -/
def Noted (s : State V) : Prop :=
  s.data.state.phase = .on → ∃ endpoint, s.data.endpoint = some endpoint ∧
    ∀ backup, s.file = some (.backup backup) → backup.endpoint = some endpoint

theorem Kept.congr {s t : State V} (kept : Kept original s) (os : t.os = s.os)
    (file : t.file = s.file) : Kept original t where
  without none_ := os.trans (kept.without (file.symm.trans none_))
  backup f here := kept.backup f (file.symm.trans here)

/-- With the backup of the original settings, those may be any. -/
theorem Kept.of_backup {s : State V} {backup : Backup V} (file : s.file = some (.backup backup))
    (saved : backup.saved = original) : Kept original s where
  without none_ := by cases file.symm.trans none_
  backup f here := by
    cases file.symm.trans here
    exact ⟨backup, rfl, saved⟩

theorem Kept.of_original {s : State V} (file : s.file = none) (os : s.os = original) :
    Kept original s where
  without _ := os
  backup _ here := by cases file.symm.trans here

/-- One operation at a time, which alone touches the state. -/
def discipline (told : State V → Prop) (original : V) :
    Discipline (State V) Unit (Answer (V := V)) where
  effect := effect
  answers := Answers told
  meets _ _ _ := True
  moves := Eq
  refl _ := rfl
  trans := Eq.trans
  inv := Noted
  good := Kept original
  allowed _ _ := True

section

variable {β : Type} {s : State V} {Q : α → State V → Prop}

theorem wp_ret {a : α} (post : Q a s) :
    wp (discipline told original).env (pure a : Task V α) Q s := by
  rintro _ rfl _
  exact post

/-- What is kept may be used at every step. -/
theorem wp_kept {p : Task V α}
    (spec : Kept original s → wp (discipline told original).env p Q s) :
    wp (discipline told original).env p Q s := by
  apply wp_of_moves
  rintro _ rfl kept
  exact spec kept

theorem wp_read {k : State V → Task V α} (rest : wp (discipline told original).env (k s) Q s) :
    wp (discipline told original).env (read >>= k) Q s := by
  rintro _ rfl kept
  exact ⟨kept, rest⟩

theorem wp_ask {c : Call V} {k : Answer c → Task V α}
    (rest : ∀ r, Answers told c r s → Kept original (effect c r s) ∧
      wp (discipline told original).env (k r) Q (effect c r s)) :
    wp (discipline told original).env (ask c >>= k) Q s := by
  rintro _ rfl _
  exact ⟨trivial, rest⟩

/-- A call to the standard core, or one that only looks. -/
theorem wp_ask_same {c : Call V} {k : Answer c → Task V α} (same : ∀ r, effect c r s = s)
    (rest : ∀ r, Answers told c r s → wp (discipline told original).env (k r) Q s) :
    wp (discipline told original).env (ask c >>= k) Q s := by
  apply wp_kept
  intro kept
  refine wp_ask fun r answer => ?_
  rw [same r]
  exact ⟨kept, rest r answer⟩

/-- A section that changes the memory of the controller only. -/
theorem wp_update {f : State V → State V} {k : Unit → Task V α} (os : (f s).os = s.os)
    (file : (f s).file = s.file) (rest : wp (discipline told original).env (k ()) Q (f s)) :
    wp (discipline told original).env (Prog.update () f >>= k) Q s := by
  rintro _ rfl kept
  exact ⟨kept.congr os file, rest⟩

theorem wp_update_last {f : State V → State V} {Q : Unit → State V → Prop} (os : (f s).os = s.os)
    (file : (f s).file = s.file) (post : Q () (f s)) :
    wp (discipline told original).env (Prog.update () f) Q s := by
  rintro _ rfl kept
  exact ⟨kept.congr os file, wp_ret post⟩

/-! ## The OS settings and their backup -/

/-- While there is a backup a writer may do what it likes. -/
theorem wp_os {o : Os V} {backup : Backup V} {Q : Except String Unit → State V → Prop}
    (file : s.file = some (.backup backup)) (saved : backup.saved = original)
    (post : ∀ result v, o.Ends s.os result v → Q result { s with os := v }) :
    wp (discipline told original).env o.task Q s := by
  induction o generalizing s with
  | done result => exact wp_ret (post result s.os .done)
  | write f k ih =>
    rintro _ rfl _
    refine ⟨trivial, fun r _ => ⟨?_, ?_⟩⟩
    · cases (r : Except String Unit) with
      | ok => exact Kept.of_backup file saved
      | error e => exact Kept.of_backup file saved
    · cases (r : Except String Unit) with
      | ok => exact ih (.ok ()) file fun result v ends => post result v (.wrote ends)
      | error e => exact ih (.error e) file fun result v ends => post result v (.failed ends)

theorem wp_saveBackup {backup : Backup V} {Q : Except String Unit → State V → Prop}
    (saved : backup.saved = original)
    (error : ∀ e t, t.data = s.data → Q (.error e) t)
    (ok : ∀ t, t.os = s.os → t.file = some (.backup backup) → t.data = s.data → Q (.ok ()) t) :
    wp (discipline told original).env (saveBackup backup) Q s := by
  refine wp_ask_same (fun _ => rfl) fun dir _ => ?_
  cases (dir : Except String Unit) with
  | error e => exact wp_ret (error _ _ rfl)
  | ok =>
    apply wp_kept
    intro kept
    refine wp_ask fun written _ => ?_
    cases (written : Except String Unit) with
    | error e => exact ⟨kept.congr rfl rfl, wp_ret (error _ _ rfl)⟩
    | ok =>
      refine ⟨kept.congr rfl rfl, wp_ask fun renamed _ => ?_⟩
      cases (renamed : Except String Unit) with
      | error e => exact ⟨kept.congr rfl rfl, wp_ret (error _ _ rfl)⟩
      | ok => exact ⟨Kept.of_backup rfl saved, wp_ret (ok _ rfl rfl rfl)⟩

theorem wp_applyWriter {endpoint : Endpoint} {previous : Option Endpoint} {backup : Backup V}
    {Q : Except String (Option Endpoint) → State V → Prop}
    (file : s.file = some (.backup backup)) (saved : backup.saved = original)
    (error : ∀ e t, t.data = s.data → Q (.error e) t)
    (ok : ∀ t, t.file = s.file → t.data = s.data → Q (.ok previous) t) :
    wp (discipline told original).env (applyWriter W endpoint previous) Q s := by
  refine Lib.wp_bind (wp_os file saved fun result v _ => ?_)
  cases result with
  | error e => exact wp_ret (error _ _ rfl)
  | ok => exact wp_ret (ok _ rfl rfl)

/-- The endpoint is noted in the backup. -/
def Notes (endpoint : Endpoint) (s : State V) : Prop :=
  ∃ backup, s.file = some (.backup backup) ∧ backup.endpoint = some endpoint

theorem Notes.only {endpoint : Endpoint} (notes : Notes endpoint s) :
    ∀ backup, s.file = some (.backup backup) → backup.endpoint = some endpoint := by
  obtain ⟨backup, file, noted⟩ := notes
  intro other here
  cases file.symm.trans here
  exact noted

theorem wp_saveThenApply {endpoint : Endpoint} {previous : Option Endpoint} {backup : Backup V}
    {Q : Except String (Option Endpoint) → State V → Prop} (saved : backup.saved = original)
    (noted : backup.endpoint = some endpoint) (error : ∀ e t, t.data = s.data → Q (.error e) t)
    (ok : ∀ t, t.data = s.data → Notes endpoint t → Q (.ok previous) t) :
    wp (discipline told original).env (saveThenApply W endpoint backup previous) Q s := by
  refine Lib.wp_bind (wp_saveBackup saved ?_ ?_)
  · exact fun e t data => wp_ret (error e t data)
  · intro t _ file data
    refine wp_applyWriter file saved (fun e u later => error e u (later.trans data)) ?_
    intro u file' later
    exact ok u (later.trans data) ⟨backup, file'.trans file, noted⟩

theorem wp_applyOs {endpoint : Endpoint}
    {Q : Except ClientErrorInfo (Option Endpoint) → State V → Prop}
    (error : ∀ info t, t.data = s.data → Q (.error info) t)
    (ok : ∀ previous t, t.data = s.data → Notes endpoint t → Q (.ok previous) t) :
    wp (discipline told original).env (applyOs W endpoint) Q s := by
  apply wp_kept
  intro kept
  refine Lib.wp_bind (wp_read ?_)
  split
  next backup here =>
    obtain ⟨b, eq, saved⟩ := kept.backup _ here
    cases eq
    refine wp_saveThenApply saved rfl ?_ ?_
    · exact fun e t data => wp_ret (error _ t data)
    · exact fun t data notes => wp_ret (ok _ t data notes)
  next here =>
    obtain ⟨b, eq, -⟩ := kept.backup _ here
    cases eq
  next none_ =>
    refine wp_ask_same (fun _ => rfl) fun taken _ => ?_
    cases (taken : Except String Unit) with
    | error e => exact wp_ret (wp_ret (error _ s rfl))
    | ok =>
      refine wp_read (wp_saveThenApply (kept.without none_) rfl ?_ ?_)
      · exact fun e t data => wp_ret (error _ t data)
      · exact fun t data notes => wp_ret (ok _ t data notes)

/-- The memory is as it was, and so is the backup unless it is gone. -/
def Same (s t : State V) : Prop := t.data = s.data ∧ (t.file = none ∨ t.file = s.file)

theorem Noted.same {t : State V} (noted : Noted s) (same : Same s t) : Noted t := by
  obtain ⟨data, file⟩ := same
  intro on
  rw [data] at on ⊢
  obtain ⟨endpoint, here, notes⟩ := noted on
  refine ⟨endpoint, here, fun backup there => ?_⟩
  rcases file with gone | kept
  · cases gone.symm.trans there
  · exact notes backup (kept.symm.trans there)

theorem wp_removeFile {k : Answer (Call.removeFile (V := V)) → Task V α} (os : s.os = original)
    (rest : ∀ r t, Same s t → wp (discipline told original).env (k r) Q t) :
    wp (discipline told original).env (ask .removeFile >>= k) Q s := by
  apply wp_kept
  intro kept
  refine wp_ask fun removed _ => ?_
  cases (removed : Except String Unit) with
  | error e => exact ⟨kept, rest _ s ⟨rfl, .inr rfl⟩⟩
  | ok => exact ⟨Kept.of_original rfl os, rest _ _ ⟨rfl, .inl rfl⟩⟩

theorem wp_removeBackup {Q : Except String Unit → State V → Prop} (os : s.os = original)
    (post : ∀ r t, Same s t → Q r t) :
    wp (discipline told original).env removeBackup Q s :=
  wp_removeFile os fun _ t same => wp_ret (post _ t same)

/-- Settings that are recognised are replaced only if they are the saved ones. -/
theorem wp_replaced {backup : Backup V} {Q : Bool → State V → Prop}
    (file : s.file = some (.backup backup)) (gone : s.os = backup.saved → Q true s)
    (ours : Q false s) :
    wp (discipline W.Recognised original).env (replaced W backup) Q s := by
  rw [replaced]
  split
  next => exact wp_ret ours
  next endpoint noted =>
    refine wp_ask_same (fun _ => rfl) fun answer recognised => ?_
    cases (answer : Except String Unit) with
    | error e => exact wp_ret ours
    | ok =>
      refine wp_read (wp_ret ?_)
      rcases recognised backup endpoint file noted with owns | same
      · rw [owns]
        exact ours
      · cases W.owns s.os endpoint with
        | true => exact ours
        | false => exact gone same

theorem wp_restoreOs {Q : Except ClientErrorInfo Unit → State V → Prop}
    (post : ∀ r t, Same s t → Q r t) :
    wp (discipline W.Recognised original).env (restoreOs W) Q s := by
  have done : ∀ (r : Except String Unit) (t : State V), Same s t →
      wp (discipline W.Recognised original).env
        (pure (r.mapError osFailure) : Task V _) Q t :=
    fun r t same => wp_ret (post _ t same)
  apply wp_kept
  intro kept
  refine Lib.wp_bind (wp_read ?_)
  split
  next => exact wp_ret (done _ s ⟨rfl, .inr rfl⟩)
  next here =>
    obtain ⟨b, eq, -⟩ := kept.backup _ here
    cases eq
  next backup here =>
    obtain ⟨b, eq, saved⟩ := kept.backup _ here
    cases eq
    refine Lib.wp_bind (wp_replaced here ?_ ?_)
    · exact fun same => wp_removeBackup (same.trans saved) done
    · refine Lib.wp_bind (wp_os here saved fun result v ends => ?_)
      cases result with
      | error e => exact wp_ret (done _ _ ⟨rfl, .inr rfl⟩)
      | ok => exact wp_removeBackup ((W.restored ends).trans saved) done

/-! ## The operations -/

theorem wp_disableEndpoint {Q : Unit → State V → Prop} (post : Q () s) :
    wp (discipline told original).env disableEndpoint Q s := by
  refine wp_ask_same (fun _ => rfl) fun ready _ => ?_
  split
  next => exact wp_ask_same (fun _ => rfl) fun _ _ => wp_ret post
  next => exact wp_ret post

theorem wp_tearDown {Q : Except ClientErrorInfo Unit → State V → Prop} (post : ∀ r t, Q r t) :
    wp (discipline W.Recognised original).env (tearDown W) Q s := by
  refine Lib.wp_bind (wp_restoreOs fun r t _ => ?_)
  exact Lib.wp_bind (wp_disableEndpoint (wp_ret (post r t)))

theorem wp_ownerOf {proxy : Option Endpoint} {Q : Option String → State V → Prop}
    (post : ∀ owner, Q owner s) : wp (discipline told original).env (ownerOf proxy) Q s := by
  rw [ownerOf.eq_def]
  split
  next =>
    split
    next => exact wp_ask_same (fun _ => rfl) fun _ _ => wp_ret (post _)
    next => exact wp_ret (post _)
  next => exact wp_ret (post _)

theorem wp_foreignBefore {endpoint : Endpoint} {previous : Option Endpoint}
    {Q : Option ForeignProxy → State V → Prop} (post : ∀ foreign, Q foreign s) :
    wp (discipline told original).env (foreignBefore endpoint previous) Q s := by
  rw [foreignBefore.eq_def]
  split
  next =>
    split
    next => exact wp_ret (post _)
    next => exact Lib.wp_bind (wp_ownerOf fun owner => wp_ret (post _))
  next => exact wp_ret (post _)

theorem wp_bringUp
    {Q : Except (ClientErrorInfo × Bool) (Endpoint × Option ForeignProxy) → State V → Prop}
    (error : ∀ e t, t.data = s.data → Q (.error e) t)
    (ok : ∀ endpoint foreign t, Notes endpoint t → Q (.ok (endpoint, foreign)) t) :
    wp (discipline told original).env (bringUp W) Q s := by
  refine wp_ask_same (fun _ => rfl) fun ready _ => ?_
  split
  next => exact wp_ret (error _ s rfl)
  next =>
    refine wp_ask_same (fun _ => rfl) fun status _ => ?_
    cases (status : Except CoreCallError SystemProxyStatus) with
    | error e => exact wp_ret (error _ s rfl)
    | ok status =>
      dsimp only
      split
      next => exact wp_ret (error _ s rfl)
      next =>
        split
        next => exact wp_ret (error _ s rfl)
        next endpoint _ =>
          refine Lib.wp_bind (wp_applyOs ?_ ?_)
          · exact fun info t data => wp_ret (error _ t data)
          · intro previous t _ notes
            exact Lib.wp_bind (wp_foreignBefore fun foreign => wp_ret (ok endpoint foreign t notes))

theorem noted_of_phase (off : s.data.state.phase ≠ .on) : Noted s := fun on => absurd on off

theorem wp_connect (noted : Noted s) {Q : Except ClientErrorInfo Unit → State V → Prop}
    (post : ∀ r t, Noted t → Q r t) :
    wp (discipline W.Recognised original).env (connect W) Q s := by
  apply wp_read
  split
  next => exact wp_ret (post _ s noted)
  next =>
    refine wp_update rfl rfl (wp_update rfl rfl (Lib.wp_bind (wp_bringUp ?_ ?_)))
    · rintro ⟨info, retryable⟩ t -
      refine Lib.wp_bind (wp_tearDown fun r u => wp_update rfl rfl (wp_ret ?_))
      exact post _ _ (noted_of_phase nofun)
    · intro endpoint foreign t notes
      refine wp_update rfl rfl (wp_update rfl rfl (wp_ret (post _ _ fun _ => ?_)))
      exact ⟨endpoint, rfl, notes.only⟩

theorem wp_switchOff {Q : Except ClientErrorInfo Unit → State V → Prop}
    (post : ∀ r t, Noted t → Q r t) :
    wp (discipline W.Recognised original).env (switchOff W) Q s := by
  refine Lib.wp_bind (wp_tearDown fun r t => ?_)
  exact wp_update rfl rfl (wp_update rfl rfl (wp_ret (post r _ (noted_of_phase nofun))))

theorem wp_disconnect (noted : Noted s) {Q : Except ClientErrorInfo Unit → State V → Prop}
    (post : ∀ r t, Noted t → Q r t) :
    wp (discipline W.Recognised original).env (disconnect W) Q s := by
  refine wp_read (Lib.wp_bind (wp_read (wp_ret ?_)))
  split
  next => exact wp_ret (post _ s noted)
  next =>
    split
    next => exact wp_update rfl rfl (wp_switchOff post)
    next => exact wp_switchOff post

theorem wp_restoreLeftovers (noted : Noted s) {Q : Unit → State V → Prop}
    (post : ∀ t, Noted t → Q () t) :
    wp (discipline W.Recognised original).env (restoreLeftovers W) Q s := by
  refine Lib.wp_bind (wp_read (wp_ret ?_))
  split
  next => exact Lib.wp_bind (wp_restoreOs fun r t same => wp_ret (post t (noted.same same)))
  next => exact wp_ret (post s noted)

/-- Settings that are recognised and not ours are the original ones. -/
theorem original_of_recognised {endpoint : Endpoint} (kept : Kept original s)
    (recognised : W.Recognised s)
    (notes : ∀ backup, s.file = some (.backup backup) → backup.endpoint = some endpoint)
    (foreign : ¬W.owns s.os endpoint = true) : s.os = original := by
  cases file : s.file with
  | none => exact kept.without file
  | some f =>
    obtain ⟨backup, rfl, saved⟩ := kept.backup f file
    rcases recognised backup endpoint file (notes backup file) with owns | same
    · exact absurd owns foreign
    · exact same.trans saved

theorem wp_checkOwnership {endpoint : Endpoint} {Q : Unit → State V → Prop} (noted : Noted s)
    (notes : ∀ backup, s.file = some (.backup backup) → backup.endpoint = some endpoint)
    (post : ∀ t, Noted t → Q () t) :
    wp (discipline W.Recognised original).env (checkOwnership W endpoint) Q s := by
  apply wp_kept
  intro kept
  refine wp_ask_same (fun _ => rfl) fun answer recognised => ?_
  cases (answer : Except String Unit) with
  | error e => exact wp_ret (post s noted)
  | ok =>
    apply wp_read
    split
    next => exact wp_ret (post s noted)
    next foreign =>
      have os : s.os = original := original_of_recognised kept recognised notes foreign
      refine Lib.wp_bind (wp_ownerOf fun owner => wp_removeFile os fun _ t _ => ?_)
      refine Lib.wp_bind (wp_disableEndpoint (wp_update rfl rfl (wp_update_last rfl rfl ?_)))
      exact post _ (noted_of_phase nofun)

theorem wp_currentEndpoint {Q : Option Endpoint → State V → Prop} (post : ∀ endpoint, Q endpoint s) :
    wp (discipline told original).env currentEndpoint Q s := by
  refine wp_ask_same (fun _ => rfl) fun status _ => ?_
  split
  next => exact wp_ret (post _)
  next => exact wp_ask_same (fun _ => rfl) fun _ _ => wp_ret (post _)

theorem wp_reconcile (noted : Noted s) {Q : Unit → State V → Prop}
    (post : ∀ t, Noted t → Q () t) :
    wp (discipline W.Recognised original).env (reconcile W) Q s := by
  apply wp_read
  split
  next => exact wp_ret (post s noted)
  next on =>
    refine wp_ask_same (fun _ => rfl) fun ready _ => ?_
    split
    next => exact wp_ret (post s noted)
    next =>
      refine Lib.wp_bind (wp_currentEndpoint fun current => ?_)
      cases current with
      | none => exact wp_ret (post s noted)
      | some current =>
        apply wp_read
        split
        next same =>
          obtain ⟨endpoint, here, notes⟩ := noted (not_not.mp on)
          cases here.symm.trans same
          exact wp_checkOwnership noted notes post
        next =>
          refine Lib.wp_bind (wp_applyOs ?_ ?_)
          · exact fun info t _ => wp_update_last rfl rfl (post _ (noted_of_phase nofun))
          · intro previous t _ notes
            exact wp_update_last rfl rfl (post _ fun _ => ⟨current, rfl, notes.only⟩)

end

/-! ## Every run -/

theorem Op.obeys (W : Writer V) (op : Op) :
    Obeys (discipline W.Recognised original) (op.task W) none := by
  cases op with
  | connect =>
    exact Obeys.withLock fun s _ noted =>
      Lib.wp_bind (wp_connect noted fun r t noted => wp_ret noted)
  | disconnect =>
    exact Obeys.withLock fun s _ noted =>
      Lib.wp_bind (wp_disconnect noted fun r t noted => wp_ret noted)
  | restoreLeftovers =>
    exact Obeys.withLock fun s _ noted => wp_restoreLeftovers noted fun t noted => noted
  | reconcile => exact Obeys.tryLock fun s _ noted => wp_reconcile noted fun t noted => noted

theorem meets_grants : (discipline told original).Grants (Meets told (V := V)) where
  sec _ _ _ := trivial
  answer meets task := by
    rw [Meets, task] at meets
    exact meets

theorem launch_kept {s : State V} (kept : Kept original s) (ops : List Op) :
    (discipline W.Recognised original).Kept (launch W s ops) := by
  apply Discipline.Kept.of_free
  · rfl
  · exact kept.congr rfl rfl
  · exact noted_of_phase nofun
  · intro i prog here
    simp only [launch, Pool.task, List.getElem?_map, Option.map_map] at here
    obtain ⟨op, -, rfl⟩ := Option.map_eq_some_iff.mp here
    exact op.obeys W

/-- In every run in which the settings are recognised whenever they are looked
at: without a backup the settings are the original ones, and a backup holds
them. -/
theorem given_back {p : Process V}
    (lives : Lives W W.Recognised original p) :
    (p.state.file = none → p.state.os = original) ∧
    ∀ file, p.state.file = some file → ∃ backup, file = .backup backup ∧ backup.saved = original := by
  have kept : (discipline W.Recognised original).Kept p := by
    induction lives with
    | first ops => exact launch_kept (s := { os := original }) (Kept.of_original rfl rfl) ops
    | step _ meets taken ih => exact ih.step meets_grants meets taken
    | relaunch _ ops ih => exact launch_kept ih.good ops
  exact ⟨kept.good.without, kept.good.backup⟩

/-! ## Runs that can be executed -/

instance Recognised.decidable [DecidableEq V] (s : State V) : Decidable (W.Recognised s) :=
  match file : s.file with
  | none => isTrue fun _ _ here => by cases file.symm.trans here
  | some .unreadable => isTrue fun _ _ here => by cases file.symm.trans here
  | some (.backup backup) => match noted : backup.endpoint with
    | none => isTrue fun b _ here there => by
        cases file.symm.trans here
        cases noted.symm.trans there
    | some endpoint => decidable_of_iff (W.owns s.os endpoint = true ∨ s.os = backup.saved)
        ⟨fun known b e here there => by
          cases file.symm.trans here
          cases noted.symm.trans there
          exact known, fun known => known backup endpoint file noted⟩

instance Answers.decidable [∀ s, Decidable (told s)] :
    (c : Call V) → (r : Answer c) → (s : State V) → Decidable (Answers told c r s)
  | .currentProxies, r, s => match (r : Except String Unit) with
    | .ok () => inferInstanceAs (Decidable (told s))
    | .error _ => isTrue trivial
  | .transport, _, _ | .readyTransport, _, _ | .setSystemProxy _, _, _ | .getStatus, _, _
  | .snapshot, _, _ | .write _, _, _ | .createDir, _, _ | .writeTmp _, _, _ | .rename, _, _
  | .removeFile, _, _ | .lookupListener _, _, _ => isTrue trivial

instance Meets.decidable [∀ s, Decidable (told s)]
    (p : Process V) :
    (m : Move (Answer (V := V))) → Decidable (Meets told p m)
  | .answer i oracle => match task : p.task i with
    | some (.call c _) => decidable_of_iff (Answers told c (oracle c) p.state) (by rw [Meets, task])
    | none => isTrue (by rw [Meets, task]; trivial)
    | some (.ret _) => isTrue (by rw [Meets, task]; trivial)
    | some (.sec _ _ _) => isTrue (by rw [Meets, task]; trivial)
    | some (.lock _ _) => isTrue (by rw [Meets, task]; trivial)
    | some (.unlock _) => isTrue (by rw [Meets, task]; trivial)
  | .go _ | .giveUp _ => isTrue trivial

theorem Lives.reaches {p q : Process V}
    (lives : Lives W told original p) (reached : Reaches effect (Meets told) p q) :
    Lives W told original q := by
  induction reached with
  | refl => exact lives
  | step _ meets taken ih => exact ih.step meets taken

/-- The user's own proxy. -/
def ownProxy : WinInet := ⟨1, some [("proxy.example", 8080)], some "<local>"⟩

/-- The standard core listens; the OS answers a write with `write`. -/
def sampleAnswers (write : Except String Unit) : (c : Call WinInet) → Answer c
  | .transport | .readyTransport => (true : Bool)
  | .setSystemProxy _ =>
    (.ok ⟨true, true, true, none, some 7891⟩ : Except CoreCallError SystemProxyStatus)
  | .getStatus => (.ok none : Except CoreCallError (Option SystemProxyStatus))
  | .write _ => write
  | .snapshot | .currentProxies | .createDir | .writeTmp _ | .rename | .removeFile =>
    (.ok () : Except String Unit)
  | .lookupListener _ => (none : Option String)

/-- The only task takes `n` steps. -/
def turns (n : Nat) (write : Except String Unit) : List (Move (Answer (V := WinInet))) :=
  (List.replicate n [.go 0, .answer 0 (sampleAnswers write)]).flatten

/-- Connected; then the process is killed. -/
def connectedRun : Process WinInet :=
  (launch wininet { os := ownProxy } [.connect]).play effect (Meets wininet.Recognised)
    (turns 40 (.ok ()))

/-- The next launch restores what was left. -/
def restoredRun : Process WinInet :=
  (launch wininet connectedRun.state [.restoreLeftovers]).play effect (Meets wininet.Recognised)
    (turns 40 (.ok ()))

theorem given_back_restored :
    connectedRun.state.os = ⟨1, some [("127.0.0.1", 7891)], some WinInet.overrideList⟩ ∧
    restoredRun.state.file.isNone = true ∧ restoredRun.state.os = ownProxy := by
  have lives : Lives wininet wininet.Recognised ownProxy restoredRun :=
    (((Lives.first _).reaches (Reaches.of_play _ _)).relaunch _).reaches (Reaches.of_play _ _)
  have gone : restoredRun.state.file.isNone = true := by decide +kernel
  exact ⟨by decide +kernel, gone, (given_back lives).1 (Option.isNone_iff_eq_none.mp gone)⟩

/-- The settings are switched off to be rewritten, and the next write fails. -/
def givenUpRun : Process WinInet :=
  (launch wininet { os := ownProxy } [.connect]).play effect (Meets fun _ => True)
    (turns 13 (.ok ()) ++ turns 1 (.error "reg: access denied") ++ turns 20 (.ok ()))

/-- The proxy is off, and there is no backup to switch it on from. -/
theorem given_up : Lives wininet (fun _ => True) ownProxy givenUpRun ∧
    givenUpRun.state.file.isNone = true ∧ givenUpRun.state.data.state.phase = .error ∧
    givenUpRun.state.os = { ownProxy with proxyEnable := 0 } ∧ givenUpRun.state.os ≠ ownProxy := by
  have lives : Lives wininet (fun _ => True) ownProxy givenUpRun :=
    (Lives.first _).reaches (Reaches.of_play _ _)
  refine ⟨lives, ?_, ?_, ?_, ?_⟩
  · decide +kernel
  · decide +kernel
  · decide +kernel
  · decide +kernel

end PpvpnCore.Desktop
