import PpvpnCore.Account.Auth

/-!
What the operations on the saved credentials may do to them.

`View` is the store and the records of a run, without the cache and the login
flow; `Change` says, once for every operation, what one step of it does to the
view and what the operation knows by then. A property of views that every
change keeps holds in every run: `Steady.lives`.

The backend issues a credential for a session; the terms of a run say what else
is known of the answers in it.
-/

namespace PpvpnCore.Account

open Lib

/-! ## Views -/

structure View where
  slots : Slot → Option String
  outcomes : List Outcome
  begun : List String
  failed : List String

/-- The stored blob. -/
def State.saved (s : State) : CredentialBlob := s.store.getD {}

def State.view (s : State) : View := ⟨s.saved.slot, s.outcomes, s.begun, s.failed⟩

/-- The cache is what the store holds. -/
def State.Coherent (s : State) : Prop := ∀ blob, s.cache = some blob → blob.slot = s.saved.slot

def View.set (v : View) (slot : Slot) (value : Option String) : View :=
  { v with slots := fun x => if x = slot then value else v.slots x }

def View.record (v : View) (outcome : Outcome) : View :=
  { v with outcomes := v.outcomes ++ [outcome] }

@[simp] theorem View.set_slot (v : View) (slot : Slot) (value : Option String) :
    (v.set slot value).slots slot = value := if_pos rfl

theorem View.set_other {slot other : Slot} (v : View) (value : Option String) (ne : other ≠ slot) :
    (v.set slot value).slots other = v.slots other := if_neg ne

theorem CredentialBlob.set_slots (blob : CredentialBlob) (slot : Slot) (value : Option String) :
    (blob.set slot value).slot = fun x => if x = slot then value else blob.slot x := by
  funext x
  cases slot <;> cases x <;> rfl

theorem CredentialBlob.persisted_slots (blob : CredentialBlob) :
    (blob.persisted.getD {}).slot = blob.slot := by
  rw [CredentialBlob.persisted]
  split
  next empty =>
    simp only [CredentialBlob.isEmpty, Bool.and_eq_true, Option.isNone_iff_eq_none] at empty
    funext x
    cases x
    · exact empty.1.1.symm
    · exact empty.1.2.symm
    · exact empty.2.symm
  next => rfl

/-! ## The terms of a run -/

/-- What is known of the answers of a run: whether the store may fail, what
holds when an activation is answered, when a login begins one, and when it
returns from one (with whether its generation is still the current one). -/
structure Terms where
  faulty : Prop
  activate : View → String → Prop
  begin : View → String → Prop
  returned : View → String → Bool → Prop

/-- The answers: each credential belongs to the session of the one it was issued
for, and the terms hold. -/
def Answers {ι : Type} (session : String → ι) (T : Terms) : (c : Call) → Answer c → State → Prop
  | .load, r, _ | .persist _, r, _ | .clear, r, _ => match (r : Except StoreFailure Unit) with
    | .ok () => True
    | .error _ => T.faulty
  | .activate pending _, r, s => match (r : Except ApiError Tokens) with
    | .ok tokens => session tokens.refresh = session pending ∧ T.activate s.view pending
    | .error _ => True
  | .refresh current, r, _ => match (r : Except ApiError String) with
    | .ok value => session value = session current
    | .error _ => True
  | .commit prepared, r, _ => match (r : Except ApiError Tokens) with
    | .ok tokens => session tokens.refresh = session prepared
    | .error _ => True
  | .begin pending, _, s => T.begin s.view pending
  | .returned generation pending _, _, s => T.returned s.view pending (s.generation = generation)
  | _, _, _ => True

/-! ## What one step does -/

variable {ι : Type} {session : String → ι} {P : View → Prop} {T : Terms}

/-- A login begins its activation. -/
def View.begins (v : View) (pending : String) : View := { v with begun := v.begun ++ [pending] }

/-- The credential to activate: a login has just begun, or it was saved. -/
def Known (P : View → Prop) (T : Terms) (pending : String) (v : View) : Prop :=
  (∃ before, P before ∧ T.begin before pending ∧ v = before.begins pending) ∨
  v.slots .pendingActivation = some pending

/-- What a failed activation leaves: no slot has gained anything, or a request
of it has failed. -/
def Left (T : Terms) (before : View) (pending : String) (v : View) : Prop :=
  v.begun = before.begun ∧ (T.faulty ∨ pending ∈ v.failed ∨
    ∀ slot c, v.slots slot = some c → before.slots slot = some c)

/-- What one step of an operation does to the view. `P` is what is known of
every view, also of an earlier one the operation has seen. -/
inductive Change (session : String → ι) (P : View → Prop) (T : Terms) : View → View → Prop
  | begin {v : View} {pending : String} (terms : T.begin v pending) :
      Change session P T v (v.begins pending)
  /-- The credential to activate is saved. -/
  | hold {v : View} {pending : String} (known : Known P T pending v) :
      Change session P T v (v.set .pendingActivation (some pending))
  /-- A request of an activation fails. -/
  | fail {v : View} (pending : String) :
      Change session P T v { v with failed := v.failed ++ [pending] }
  /-- An activation was answered. -/
  | activate {v : View} {pending value : String}
      (held : v.slots .pendingActivation = some pending) (same : session value = session pending)
      (terms : T.activate v pending) : Change session P T v (v.set .active (some value))
  /-- A refresh was prepared. -/
  | prepare {v : View} {current value : String} (active : v.slots .active = some current)
      (same : session value = session current) :
      Change session P T v (v.set .pendingRefresh (some value))
  /-- A refresh was committed. -/
  | commit {v : View} {current prepared value : String} (active : v.slots .active = some current)
      (saved : v.slots .pendingRefresh = some prepared)
      (same : session value = session prepared) :
      Change session P T v (v.set .active (some value))
  | drop {v : View} (slot : Slot) : Change session P T v (v.set slot none)
  | clear {v : View} : Change session P T v { v with slots := fun _ => none }
  /-- A login signs in. -/
  | signIn {v : View} (generation : Nat) (pending : String) (signedIn : SignedIn) :
      Change session P T v (v.record (.activated generation pending (.ok signedIn) true))
  /-- A login's activation fails. -/
  | giveUp {v before : View} {generation : Nat} {pending : String} {error : AuthError}
      {current : Bool} (began : P before) (fresh : T.begin before pending)
      (left : Left T (before.begins pending) pending v) (terms : T.returned v pending current) :
      Change session P T v (v.record (.activated generation pending (.error error) current))
  /-- A refresh has succeeded. -/
  | refreshed {v before : View} {current prepared value : String} (known : P before)
      (active : before.slots .active = some current)
      (saved : before.slots .pendingRefresh = some prepared)
      (same : session value = session prepared) :
      Change session P T v (v.record (.refreshed current value))
  /-- A restore has signed in. -/
  | restored {v before : View} {slot : Slot} {credential : String} (known : P before)
      (saved : before.slots slot = some credential)
      (since : ∀ g p r c, Outcome.activated g p r c ∈ v.outcomes →
        Outcome.activated g p r c ∈ before.outcomes) :
      Change session P T v (v.record (.restored credential))

/-- Every change keeps the property. -/
def Steady (session : String → ι) (P : View → Prop) (T : Terms) : Prop :=
  ∀ v v', P v → Change session P T v v' → P v'

/-! ## The discipline of the lock -/

/-- While one task has the lock, the others touch the login flow only. -/
def discipline (session : String → ι) (P : View → Prop) (T : Terms) :
    Discipline State Place Answer where
  effect := effect
  answers := Answers session T
  meets _ _ _ := True
  moves s t := t.view = s.view ∧ t.cache = s.cache
  refl _ := ⟨rfl, rfl⟩
  trans first then_ := ⟨then_.1.trans first.1, then_.2.trans first.2⟩
  inv _ := True
  good s := s.Coherent ∧ P s.view
  allowed _ _ := True

section

variable {α : Type} {s : State} {Q : Except AuthError α → State → Prop}

/-- A call of an operation that goes on as `f` says. -/
theorem wp_ask {c : Call} {f : Answer c → Action α}
    (spec : ∀ t, t.view = s.view → t.Coherent → P t.view → ∀ r, Answers session T c r t →
      ((effect c r t).Coherent ∧ P (effect c r t).view) ∧
        wp (discipline session P T).env (f r).run Q (effect c r t)) :
    wp (discipline session P T).env (ask c >>= f).run Q s := by
  apply wp_bindLift
  intro t moved good
  refine ⟨trivial, fun r answer => ?_⟩
  obtain ⟨kept, rest⟩ := spec t moved.1 good.1 good.2 r answer
  exact ⟨kept, fun u moved _ => wp_moved rest moved⟩

/-- A call that says nothing about the saved credentials. -/
theorem wp_ask_same {c : Call} {f : Answer c → Action α} (same : ∀ r t, effect c r t = t)
    (spec : ∀ t, t.view = s.view → P t.view → ∀ r, Answers session T c r t →
      wp (discipline session P T).env (f r).run Q t) :
    wp (discipline session P T).env (ask c >>= f).run Q s := by
  refine wp_ask fun t view coherent known r answer => ?_
  rw [same]
  exact ⟨⟨coherent, known⟩, spec t view known r answer⟩

theorem wp_read {f : State → Action α}
    (spec : ∀ t, t.view = s.view → t.Coherent → wp (discipline session P T).env (f t).run Q t) :
    wp (discipline session P T).env (read >>= f).run Q s := by
  apply wp_bindLift
  intro t moved good
  exact ⟨good, fun u later _ => wp_moved (spec t moved.1 good.1) later⟩

/-- A section of the login flow that only reads. -/
theorem wp_generationIsCurrent {generation : Nat} {f : Bool → Action α}
    (spec : ∀ current t, t.view = s.view → wp (discipline session P T).env (f current).run Q t) :
    wp (discipline session P T).env (generationIsCurrent generation >>= f).run Q s := by
  apply wp_bindLift
  intro t moved good
  exact ⟨good, fun u later _ => wp_moved (spec _ t moved.1) later⟩

theorem wp_pure {a : α} (post : ∀ t, t.view = s.view → Q (.ok a) t) :
    wp (discipline session P T).env (pure a : Action α).run Q s :=
  fun t moved _ => post t moved.1

theorem wp_error {e : AuthError} (post : ∀ t, t.view = s.view → Q (.error e) t) :
    wp (discipline session P T).env (.ret (.error e) : Task (Except AuthError α)) Q s :=
  fun t moved _ => post t moved.1

theorem wp_stored {α : Type} {r : Except StoreFailure α} {Q : Except AuthError α → State → Prop}
    (ok : ∀ a t, r = .ok a → t.view = s.view → Q (.ok a) t)
    (failed : ∀ e t, r = .error e → t.view = s.view → Q (.error (.store e)) t) :
    wp (discipline session P T).env (stored r).run Q s := by
  cases r with
  | ok a => exact wp_pure fun t view => ok a t rfl view
  | error e => exact wp_error fun t view => failed e t rfl view

/-- What an operation does when a step of it fails: it returns the error. -/
theorem wp_bind {β : Type} {p : Action β} {f : β → Action α}
    (spec : wp (discipline session P T).env p.run
      (onOk (fun b => wp (discipline session P T).env (f b).run Q) fun e t =>
        ∀ u, u.view = t.view → Q (.error e) u) s) :
    wp (discipline session P T).env (p >>= f).run Q s := by
  refine wp_bindExcept (wp_mono spec fun a t post => ?_)
  cases a with
  | ok b => exact post
  | error e => exact wp_error post

end

/-! ## The slots -/

section

variable {s : State}

theorem load_coherent (coherent : s.Coherent) (r : Answer .load) :
    (effect .load r s).Coherent ∧ (effect .load r s).view = s.view := by
  cases r with
  | ok _ =>
    refine ⟨?_, rfl⟩
    rintro blob ⟨⟩
    rfl
  | error _ => exact ⟨coherent, rfl⟩

theorem wp_loaded {Q : Except AuthError CredentialBlob → State → Prop}
    (ok : ∀ blob t, t.view = s.view → blob.slot = s.view.slots → Q (.ok blob) t)
    (failed : T.faulty → ∀ e t, t.view = s.view → Q (.error (.store e)) t) :
    wp (discipline session P T).env loaded.run Q s := by
  refine wp_read fun t view coherent => ?_
  cases cached : t.cache with
  | some blob =>
    have slots : blob.slot = s.view.slots := by rw [← view]; exact coherent blob cached
    exact wp_pure fun u same => ok blob u (same.trans view) slots
  | none =>
    refine wp_ask fun u same coherent known r answer => ?_
    obtain ⟨kept, loadView⟩ := load_coherent coherent r
    refine ⟨⟨kept, by rw [loadView]; exact known⟩, ?_⟩
    have seen : (effect .load r u).view = s.view := loadView.trans (same.trans view)
    refine wp_bind (wp_stored (fun _ w _ here => ?_) fun e w failing here => ?_)
    · refine wp_read fun x there coherent => wp_pure fun y last => ?_
      have view : x.view = s.view := there.trans (here.trans seen)
      refine ok _ y (last.trans view) ?_
      rw [← view]
      cases cached : x.cache with
      | some blob => exact coherent blob cached
      | none => rfl
    · intro x last
      subst failing
      exact failed answer e x (last.trans (here.trans seen))

theorem wp_get {slot : Slot} {Q : Except AuthError (Option String) → State → Prop}
    (ok : ∀ t, t.view = s.view → Q (.ok (s.view.slots slot)) t)
    (failed : T.faulty → ∀ e t, t.view = s.view → Q (.error (.store e)) t) :
    wp (discipline session P T).env (get slot).run Q s := by
  apply wp_bind
  apply wp_loaded
  · intro blob t view slots
    refine wp_pure fun u same => ?_
    rw [slots]
    exact ok u (same.trans view)
  · intro faulty e t view u same
    exact failed faulty e u (same.trans view)

/-- A blob is persisted. -/
theorem wp_persist {next : CredentialBlob} {v : View} {Q : Except AuthError Unit → State → Prop}
    (steady : Steady session P T) (slots : v = { s.view with slots := next.slot })
    (change : P s.view → Change session P T s.view v) (ok : ∀ t, t.view = v → Q (.ok ()) t)
    (failed : T.faulty → ∀ e t, t.view = s.view → Q (.error (.store e)) t) :
    wp (discipline session P T).env (ask (.persist next) >>= stored).run Q s := by
  refine wp_ask fun t view coherent known r answer => ?_
  cases r with
  | ok done =>
    have persisted : (effect (.persist next) (.ok done) t).view = v := by
      rw [slots, ← view]
      simp only [effect, State.view, State.saved, CredentialBlob.persisted_slots]
    refine ⟨⟨?_, ?_⟩, ?_⟩
    · rintro blob ⟨⟩
      exact (CredentialBlob.persisted_slots _).symm
    · rw [persisted]
      rw [view] at known
      exact steady _ _ known (change known)
    · exact wp_pure fun u same => ok u (same.trans persisted)
  | error e =>
    exact ⟨⟨coherent, known⟩, wp_error fun u same => failed answer e u (same.trans view)⟩

theorem wp_set {slot : Slot} {value : String} {Q : Except AuthError Unit → State → Prop}
    (steady : Steady session P T)
    (change : ¬maxRefreshTokenLen < value.utf8ByteSize → P s.view →
      Change session P T s.view (s.view.set slot (some value)))
    (ok : ∀ t, t.view = s.view.set slot (some value) → Q (.ok ()) t)
    (failed : ∀ e t, T.faulty → t.view = s.view → Q (.error (.store e)) t)
    (long : ∀ reason t, maxRefreshTokenLen < value.utf8ByteSize → t.view = s.view →
      Q (.error (.untrusted reason)) t) :
    wp (discipline session P T).env (set slot value).run Q s := by
  rw [set]
  split
  next exceeds => exact wp_error fun t view => long _ t exceeds view
  next fits =>
    apply wp_bind
    apply wp_loaded
    · intro blob t view slots
      refine wp_persist steady ?_ ?_ ok ?_
      · rw [CredentialBlob.set_slots, slots, view]
        rfl
      · rw [view]
        exact change fits
      · exact fun faulty e u same => failed e u faulty (same.trans view)
    · intro faulty e t view u same
      exact failed e u faulty (same.trans view)

/-- A slot without a value is left alone. -/
theorem View.set_none {v : View} {slot : Slot} (empty : v.slots slot = none) :
    v.set slot none = v := by
  have slots : (v.set slot none).slots = v.slots := by
    funext x
    by_cases eq : x = slot
    · rw [eq, View.set_slot, empty]
    · exact View.set_other v none eq
  cases v
  simpa only [View.set, View.mk.injEq, and_true] using slots

theorem wp_delete {slot : Slot} {Q : Except AuthError Unit → State → Prop}
    (steady : Steady session P T) (ok : ∀ t, t.view = s.view.set slot none → Q (.ok ()) t)
    (failed : T.faulty → ∀ e t, t.view = s.view → Q (.error (.store e)) t) :
    wp (discipline session P T).env (delete slot).run Q s := by
  apply wp_bind
  apply wp_loaded
  · intro blob t view slots
    dsimp only [onOk]
    split
    next empty =>
      rw [Option.isNone_iff_eq_none, slots] at empty
      refine wp_pure fun u same => ok u ?_
      rw [View.set_none empty, same, view]
    next =>
      refine wp_persist steady ?_ (fun _ => .drop slot) ?_ ?_
      · rw [CredentialBlob.set_slots, slots, view]
        rfl
      · rw [view]
        exact ok
      · exact fun faulty e u same => failed faulty e u (same.trans view)
  · intro faulty e t view u same
    exact failed faulty e u (same.trans view)

/-- The slot keeps a value unless it is the expected one. -/
def View.without (v : View) (slot : Slot) (expected : String) : View :=
  if v.slots slot = some expected then v.set slot none else v

theorem wp_deleteIf {slot : Slot} {expected : String} {Q : Except AuthError Unit → State → Prop}
    (steady : Steady session P T)
    (ok : ∀ t, t.view = s.view.without slot expected → Q (.ok ()) t)
    (failed : T.faulty → ∀ e t, t.view = s.view → Q (.error (.store e)) t) :
    wp (discipline session P T).env (deleteIf slot expected).run Q s := by
  apply wp_bind
  apply wp_get
  · intro t view
    dsimp only [onOk]
    split
    next holds =>
      refine wp_delete steady (fun u same => ok u ?_) fun faulty e u same => ?_
      · rw [same, view, View.without, if_pos holds]
      · exact failed faulty e u (same.trans view)
    next not =>
      refine wp_pure fun u same => ok u ?_
      rw [same, view, View.without, if_neg not]
  · intro faulty e t view u same
    exact failed faulty e u (same.trans view)

theorem View.without_slots {v : View} {slot x : Slot} {expected c : String} :
    (v.without slot expected).slots x = some c ↔
      v.slots x = some c ∧ ¬(x = slot ∧ c = expected) := by
  rw [View.without]
  by_cases eq : x = slot
  · subst eq
    split
    next holds =>
      rw [View.set_slot, holds, Option.some.injEq]
      refine ⟨nofun, ?_⟩
      rintro ⟨same, other⟩
      exact absurd ⟨rfl, same.symm⟩ other
    next not =>
      refine ⟨fun here => ⟨here, ?_⟩, And.left⟩
      rintro ⟨-, same⟩
      exact not (same ▸ here)
  · have other : ¬(x = slot ∧ c = expected) := fun both => eq both.1
    split
    next => rw [View.set_other v none eq, and_iff_left other]
    next => rw [and_iff_left other]

@[simp] theorem View.without_begun (v : View) (slot : Slot) (expected : String) :
    (v.without slot expected).begun = v.begun := by
  rw [View.without]
  split <;> rfl

@[simp] theorem View.without_outcomes (v : View) (slot : Slot) (expected : String) :
    (v.without slot expected).outcomes = v.outcomes := by
  rw [View.without]
  split <;> rfl

theorem wp_clear {Q : Except AuthError Unit → State → Prop} (steady : Steady session P T)
    (ok : ∀ t, t.view = { s.view with slots := fun _ => none } → Q (.ok ()) t)
    (failed : T.faulty → ∀ e t, t.view = s.view → Q (.error (.store e)) t) :
    wp (discipline session P T).env clear.run Q s := by
  apply wp_bind
  apply wp_loaded
  · intro blob t view _
    refine wp_ask fun u same coherent known r answer => ?_
    cases r with
    | ok done =>
      have cleared : (effect .clear (.ok done) u).view = { u.view with slots := fun _ => none } := by
        simp only [effect, State.view, State.saved, View.mk.injEq, and_true]
        funext x
        cases x <;> rfl
      refine ⟨⟨?_, ?_⟩, wp_pure fun w here => ok w ?_⟩
      · rintro blob ⟨⟩
        rfl
      · rw [cleared]
        exact steady _ _ known .clear
      · rw [here, cleared, same, view]
    | error e =>
      refine ⟨⟨coherent, known⟩, wp_error fun w here => ?_⟩
      exact failed answer e w (here.trans (same.trans view))
  · intro faulty e t view u same
    exact failed faulty e u (same.trans view)

/-- An outcome is recorded. -/
theorem wp_record {outcome : Outcome} {Q : Except AuthError Unit → State → Prop}
    (steady : Steady session P T)
    (change : P s.view → Change session P T s.view (s.view.record outcome))
    (ok : ∀ t, t.view = s.view.record outcome → Q (.ok ()) t) :
    wp (discipline session P T).env (record outcome).run Q s := by
  refine Lib.wp_bind fun t moved good => ?_
  have known : P s.view := by rw [← moved.1]; exact good.2
  have recorded : State.view { t with outcomes := t.outcomes ++ [outcome] } =
      s.view.record outcome := by
    rw [← moved.1]
    rfl
  refine ⟨⟨good.1, ?_⟩, fun u later _ => fun w last _ => ?_⟩
  · rw [recorded]
    exact steady _ _ known (change known)
  · exact ok w (last.1.trans (later.1.trans recorded))

/-! ## Activation -/

/-- What a cancelled activation leaves in the store. -/
def View.cleaned (v : View) (pending : String) : Option String → View
  | some refresh => (v.without .active refresh).without .pendingActivation pending
  | none => v.without .pendingActivation pending

theorem wp_cleanupCancelledActivation {pending : String} {active : Option String}
    {Q : Except AuthError Unit → State → Prop} (steady : Steady session P T)
    (ok : ∀ t, t.view = s.view.cleaned pending active → Q (.ok ()) t)
    (failed : T.faulty → ∀ e t, t.view.begun = s.view.begun → Q (.error (.store e)) t) :
    wp (discipline session P T).env (cleanupCancelledActivation pending active).run Q s := by
  cases active with
  | none =>
    refine wp_deleteIf steady ok fun faulty e t view => ?_
    exact failed faulty e t (by rw [view])
  | some refresh =>
    refine wp_ask_same (fun _ _ => rfl) fun t view _ r _ => ?_
    apply wp_bind
    refine wp_deleteIf steady (fun u here => ?_) fun faulty e u here w same => ?_
    · refine wp_deleteIf steady (fun w there => ok w ?_) fun faulty e w there => ?_
      · rw [there, here, view]
        rfl
      · exact failed faulty e w (by rw [there, here, view, View.without_begun])
    · exact failed faulty e w (by rw [same, here, view])

theorem wp_cancelledActivation {α : Type} {pending : String} {active : Option String}
    {error : AuthError} {before : View} {Q : Except AuthError α → State → Prop}
    (steady : Steady session P T) (begun : s.view.begun = before.begun)
    (gained : ∀ slot c, s.view.slots slot = some c → before.slots slot = some c ∨
      slot = .pendingActivation ∧ c = pending ∨ slot = .active ∧ some c = active)
    (post : ∀ e t, Left T before pending t.view → Q (.error e) t) :
    wp (discipline session P T).env (cancelledActivation pending active error : Action α).run Q s := by
  apply wp_bind
  refine wp_cleanupCancelledActivation steady (fun t view => ?_) fun faulty e t same u here => ?_
  · refine wp_error fun u same => post _ u ?_
    rw [same, view]
    cases active with
    | none =>
      refine ⟨by rw [View.cleaned, View.without_begun, begun], .inr (.inr fun slot c here => ?_)⟩
      obtain ⟨there, other⟩ := View.without_slots.mp here
      rcases gained slot c there with old | mine | ⟨-, none⟩
      · exact old
      · exact absurd mine other
      · cases none
    | some refresh =>
      refine ⟨by rw [View.cleaned, View.without_begun, View.without_begun, begun], ?_⟩
      refine .inr (.inr fun slot c here => ?_)
      obtain ⟨there, other⟩ := View.without_slots.mp here
      obtain ⟨there, another⟩ := View.without_slots.mp there
      rcases gained slot c there with old | mine | ⟨slot, mine⟩
      · exact old
      · exact absurd mine other
      · exact absurd ⟨slot, Option.some.inj mine⟩ another
  · exact post _ u ⟨by rw [here, same, begun], .inl faulty⟩

theorem wp_expectGeneration {α : Type} {expected : Option Nat} {f : Bool → Action α}
    {Q : Except AuthError α → State → Prop}
    (spec : ∀ current t, t.view = s.view → wp (discipline session P T).env (f current).run Q t) :
    wp (discipline session P T).env (expectGeneration expected >>= f).run Q s := by
  cases expected with
  | none => exact wp_bind (wp_pure (Q := onOk _ _) fun t view => spec true t view)
  | some generation => exact wp_generationIsCurrent spec

theorem wp_finalCheck {expected : Option Nat} {pending : String} {signedIn : SignedIn}
    {Q : Except AuthError Bool → State → Prop} (steady : Steady session P T)
    (current : ∀ t, (expected = none → t.view.outcomes = s.view.outcomes) → Q (.ok true) t)
    (cancelled : ∀ t, t.view = s.view → Q (.ok false) t) :
    wp (discipline session P T).env (finalCheck expected pending signedIn).run Q s := by
  cases expected with
  | none => exact wp_pure fun t view => current t fun _ => by rw [view]
  | some generation =>
    refine Lib.wp_bind fun t moved good => ?_
    dsimp only
    split
    next =>
      refine ⟨⟨good.1, steady _ _ good.2 (.signIn generation pending signedIn)⟩, ?_⟩
      exact fun u _ _ w _ _ => current w nofun
    next => exact ⟨good, fun u here _ w there _ => cancelled w (there.1.trans (here.1.trans moved.1))⟩

/-- A request of an activation fails. -/
theorem fail_view {c : Call} {r : Answer c} {t : State} {pending : String}
    (steady : Steady session P T) (coherent : t.Coherent) (known : P t.view)
    (failing : effect c r t = { t with failed := t.failed ++ [pending] }) :
    ((effect c r t).Coherent ∧ P (effect c r t).view) ∧
      (effect c r t).view.begun = t.view.begun ∧ pending ∈ (effect c r t).view.failed := by
  rw [failing]
  refine ⟨⟨coherent, steady _ _ known (.fail pending)⟩, rfl, ?_⟩
  exact List.mem_append_right _ List.mem_cons_self

theorem wp_activeSaved {pending refresh access : String} {expected : Option Nat} {before : View}
    {Q : Except AuthError SignedIn → State → Prop} (steady : Steady session P T)
    (begun : s.view.begun = before.begun) (outcomes : s.view.outcomes = before.outcomes)
    (gained : ∀ slot c, s.view.slots slot = some c → before.slots slot = some c ∨
      slot = .pendingActivation ∧ c = pending ∨ slot = .active ∧ some c = some refresh)
    (ok : ∀ signedIn t, (expected = none → t.view.outcomes = before.outcomes) → Q (.ok signedIn) t)
    (post : ∀ e t, Left T before pending t.view → Q (.error e) t) :
    wp (discipline session P T).env (activeSaved pending expected refresh access).run Q s := by
  refine wp_expectGeneration fun current t view => ?_
  cases current with
  | false => exact wp_cancelledActivation steady (by rw [view, begun]) (by rwa [view]) post
  | true =>
    apply wp_bind
    refine wp_delete steady (fun u deleted => ?_) fun faulty e u here w there => ?_
    · have gained' : ∀ slot c, u.view.slots slot = some c → before.slots slot = some c ∨
          slot = .pendingActivation ∧ c = pending ∨ slot = .active ∧ some c = some refresh := by
        intro slot c here
        rw [deleted, view] at here
        by_cases eq : slot = .pendingActivation
        · rw [eq, View.set_slot] at here
          cases here
        · rw [View.set_other _ _ eq] at here
          exact gained slot c here
      have begun' : u.view.begun = before.begun := by
        rw [deleted, view]
        exact begun
      have outcomes' : u.view.outcomes = before.outcomes := by
        rw [deleted, view]
        exact outcomes
      refine wp_ask fun w here coherent known r _ => ?_
      cases r with
      | error e =>
        obtain ⟨kept, same, failing⟩ := fail_view (c := .account access pending) (r := .error e)
          steady coherent known rfl
        refine ⟨kept, wp_error fun x there => post _ x ⟨?_, .inr (.inl ?_)⟩⟩
        · rw [there, same, here, begun']
        · rw [there]
          exact failing
      | ok account =>
        refine ⟨⟨coherent, known⟩, wp_bind (wp_finalCheck steady ?_ ?_)⟩
        · intro x unchanged
          refine wp_pure fun y there => ok _ y fun none => ?_
          rw [there, unchanged none]
          exact (congrArg View.outcomes here).trans outcomes'
        · intro x there
          have seen : x.view = u.view := there.trans here
          exact wp_cancelledActivation steady (by rw [seen, begun']) (by rwa [seen]) post
    · exact post _ w ⟨by rw [there, here, view, begun], .inl faulty⟩

theorem wp_activated {pending : String} {expected : Option Nat} {tokens : Tokens} {before : View}
    {Q : Except AuthError SignedIn → State → Prop} (steady : Steady session P T)
    (begun : s.view.begun = before.begun)
    (outcomes : s.view.outcomes = before.outcomes)
    (held : s.view.slots .pendingActivation = some pending)
    (gained : ∀ slot c, s.view.slots slot = some c → before.slots slot = some c ∨
      slot = .pendingActivation ∧ c = pending)
    (same : session tokens.refresh = session pending)
    (fits : ¬maxRefreshTokenLen < tokens.refresh.utf8ByteSize → T.activate s.view pending)
    (long : maxRefreshTokenLen < tokens.refresh.utf8ByteSize → pending ∈ s.view.failed)
    (ok : ∀ signedIn t, (expected = none → t.view.outcomes = before.outcomes) → Q (.ok signedIn) t)
    (post : ∀ e t, Left T before pending t.view → Q (.error e) t) :
    wp (discipline session P T).env (activated pending expected tokens).run Q s := by
  have unchanged : ∀ slot c, s.view.slots slot = some c → before.slots slot = some c ∨
      slot = .pendingActivation ∧ c = pending ∨ slot = .active ∧ some c = some tokens.refresh :=
    fun slot c here => (gained slot c here).imp_right .inl
  refine wp_expectGeneration fun current t view => ?_
  cases current with
  | false =>
    refine wp_cancelledActivation steady ?_ ?_ post
    · rw [view, begun]
    · rw [view]
      exact unchanged
  | true =>
    cases access : tokens.access with
    | error reason =>
      refine wp_cancelledActivation steady ?_ ?_ post
      · rw [view, begun]
      · rw [view]
        exact unchanged
    | ok access =>
      -- The credential of the session is saved, or cannot be.
      apply wp_bind
      refine wp_set steady ?_ ?_ ?_ ?_
      · rw [view]
        exact fun short _ => .activate held same (fits short)
      · intro u stored
        rw [view] at stored
        refine wp_activeSaved steady ?_ ?_ ?_ ok post
        · rw [stored]
          exact begun
        · rw [stored]
          exact outcomes
        · intro slot c here
          rw [stored] at here
          by_cases eq : slot = .active
          · rw [eq, View.set_slot] at here
            exact .inr (.inr ⟨eq, here.symm⟩)
          · rw [View.set_other _ _ eq] at here
            exact unchanged slot c here
      · intro e u faulty here w there
        exact post _ w ⟨by rw [there, here, view, begun], .inl faulty⟩
      · intro reason u exceeds here w there
        refine post _ w ⟨by rw [there, here, view, begun], .inr (.inl ?_)⟩
        rw [there, here, view]
        exact long exceeds

theorem wp_activate {pending : String} {expected : Option Nat}
    {Q : Except AuthError SignedIn → State → Prop} (steady : Steady session P T)
    (known : Known P T pending s.view)
    (ok : ∀ signedIn t, (expected = none → t.view.outcomes = s.view.outcomes) → Q (.ok signedIn) t)
    (post : ∀ e t, Left T s.view pending t.view → Q (.error e) t) :
    wp (discipline session P T).env (activate pending expected).run Q s := by
  apply wp_bind
  refine wp_set steady (fun _ _ => .hold known) (fun t stored => ?_) ?_ ?_
  · have gained : ∀ slot c, t.view.slots slot = some c → s.view.slots slot = some c ∨
        slot = .pendingActivation ∧ c = pending := by
      intro slot c here
      rw [stored] at here
      by_cases eq : slot = .pendingActivation
      · rw [eq, View.set_slot] at here
        exact .inr ⟨eq, (Option.some.inj here).symm⟩
      · rw [View.set_other _ _ eq] at here
        exact .inl here
    have begun : t.view.begun = s.view.begun := by rw [stored]; rfl
    have outcomes : t.view.outcomes = s.view.outcomes := by rw [stored]; rfl
    have held : t.view.slots .pendingActivation = some pending := by rw [stored, View.set_slot]
    refine wp_expectGeneration fun current u view => ?_
    cases current with
    | false =>
      refine wp_cancelledActivation steady (by rw [view, begun]) (fun slot c here => ?_) post
      rw [view] at here
      exact (gained slot c here).imp_right .inl
    | true =>
      apply wp_bind
      refine wp_get (fun w here => ?_) fun faulty e w here x there => ?_
      · refine wp_ask fun x there coherent P' r answer => ?_
        have seen : x.view = t.view := there.trans (here.trans view)
        cases r with
        | error e =>
          obtain ⟨kept, same, failing⟩ := fail_view (c := .activate pending _) (r := .error e)
            steady coherent P' rfl
          refine ⟨kept, wp_error fun y last => post _ y ⟨?_, .inr (.inl ?_)⟩⟩
          · rw [last, same, seen, begun]
          · rw [last]
            exact failing
        | ok tokens =>
          by_cases long : maxRefreshTokenLen < tokens.refresh.utf8ByteSize
          · have failing (replaced : Option String) : effect (.activate pending replaced)
                (.ok tokens) x = { x with failed := x.failed ++ [pending] } := if_pos long
            obtain ⟨kept, same, marked⟩ := fail_view steady coherent P' (failing _)
            refine ⟨kept, wp_activated steady ?_ ?_ ?_ ?_ answer.1 (absurd long)
              (fun _ => marked) ok post⟩
            · rw [same, seen, begun]
            · rw [failing]
              exact (congrArg View.outcomes seen).trans outcomes
            · rw [failing]
              exact (congrArg (View.slots · .pendingActivation) seen).trans held
            · rw [failing]
              intro slot c have_
              apply gained
              rw [← seen]
              exact have_
          · have same (replaced : Option String) : effect (.activate pending replaced)
                (.ok tokens) x = x := if_neg long
            rw [same]
            refine ⟨⟨coherent, P'⟩, wp_activated steady ?_ ?_ ?_ ?_ answer.1
              (fun _ => answer.2) (fun exceeds => absurd exceeds long) ok post⟩
            · rw [seen, begun]
            · rw [seen, outcomes]
            · rw [seen, held]
            · rw [seen]
              exact gained
      · exact post _ x ⟨by rw [there, here, view, begun], .inl faulty⟩
  · intro e t faulty view u same
    exact post _ u ⟨by rw [same, view], .inl faulty⟩
  · intro reason t _ view u same
    refine post _ u ⟨by rw [same, view], .inr (.inr ?_)⟩
    rw [same, view]
    exact fun _ _ => id

/-! ## Refresh, restore, logout -/

/-- The commit of a prepared credential. -/
theorem wp_committed {current prepared : String} {before : View}
    {Q : Except AuthError String → State → Prop} (steady : Steady session P T)
    (active : s.view.slots .active = some current)
    (saved : s.view.slots .pendingRefresh = some prepared)
    (outcomes : s.view.outcomes = before.outcomes)
    (ok : ∀ access t, (∀ g p r c, Outcome.activated g p r c ∈ t.view.outcomes →
      Outcome.activated g p r c ∈ before.outcomes) → Q (.ok access) t)
    (failed : ∀ e t, Q (.error e) t) :
    wp (discipline session P T).env (committed current prepared).run Q s := by
  refine wp_ask_same (fun _ _ => rfl) fun t view known r answer => ?_
  cases r with
  | error e => exact wp_error fun u _ => failed _ u
  | ok tokens =>
    have same : session tokens.refresh = session prepared := answer
    rw [← view] at active saved
    dsimp only
    cases access : tokens.access with
    | error reason => exact wp_error fun u _ => failed _ u
    | ok access =>
      apply wp_bind
      refine wp_set steady (fun _ _ => .commit active saved same) (fun u here => ?_)
        (fun _ _ _ _ w _ => failed _ w) fun _ _ _ _ w _ => failed _ w
      apply wp_bind
      refine wp_delete steady (fun w there => ?_) fun _ _ _ _ x _ => failed _ x
      apply wp_bind
      refine wp_record steady (fun _ => .refreshed known active saved same) fun x recorded => ?_
      refine wp_pure fun y last => ok _ y fun g p r c member => ?_
      rw [last, recorded, there, here, view] at member
      rcases List.mem_append.mp member with old | new
      · exact outcomes ▸ old
      · rcases List.mem_singleton.mp new with ⟨⟩

theorem wp_refresh {Q : Except AuthError String → State → Prop} (steady : Steady session P T)
    (ok : ∀ access t, (∀ g p r c, Outcome.activated g p r c ∈ t.view.outcomes →
      Outcome.activated g p r c ∈ s.view.outcomes) → Q (.ok access) t)
    (failed : ∀ e t, Q (.error e) t) :
    wp (discipline session P T).env refresh.run Q s := by
  apply wp_bind
  refine wp_get (fun t view => ?_) fun _ _ _ _ u _ => failed _ u
  dsimp only [onOk]
  cases active : s.view.slots .active with
  | none => exact wp_error fun u _ => failed _ u
  | some current =>
    rw [← view] at active
    apply wp_bind
    refine wp_get (fun u here => ?_) fun _ _ _ _ w _ => failed _ w
    rw [← here] at active
    dsimp only [onOk]
    cases saved : t.view.slots .pendingRefresh with
    | some prepared =>
      refine wp_committed steady active ?_ ?_ ok failed
      · rw [here, saved]
      · rw [here, view]
    | none =>
      refine wp_ask_same (fun _ _ => rfl) fun w there _ r answer => ?_
      cases r with
      | error e => exact wp_error fun x _ => failed _ x
      | ok value =>
        rw [← there] at active
        apply wp_bind
        refine wp_set steady (fun _ _ => .prepare active answer) (fun x stored => ?_)
          (fun _ _ _ _ y _ => failed _ y) fun _ _ _ _ y _ => failed _ y
        refine wp_committed steady ?_ ?_ ?_ ok failed
        · rw [stored, View.set_other _ _ (by decide), active]
        · rw [stored, View.set_slot]
        · rw [stored, ← view, ← here, ← there]
          rfl

theorem wp_orClear {α : Type} {action : Action α} {Q : Except AuthError α → State → Prop}
    (steady : Steady session P T) (spec : wp (discipline session P T).env action.run Q s)
    (failed : ∀ e t, Q (.error e) t) :
    wp (discipline session P T).env (orClear action).run Q s := by
  refine Lib.wp_bind (wp_mono (wp_later spec) fun result t later => ?_)
  cases result with
  | ok a => exact fun u moved good => later u moved good
  | error e =>
    dsimp only
    split
    next =>
      refine Lib.wp_bind (wp_clear steady ?_ ?_)
      · exact fun u _ w _ _ => failed _ w
      · exact fun _ _ u _ w _ _ => failed _ w
    next => exact fun u _ _ => failed _ u

theorem wp_restoreActive {Q : Except AuthError (Option SignedIn) → State → Prop}
    (steady : Steady session P T) (post : ∀ r t, Q r t) :
    wp (discipline session P T).env restoreActive.run Q s := by
  apply wp_bind
  refine wp_get (fun t view => ?_) fun _ _ _ _ u _ => post _ u
  dsimp only [onOk]
  cases active : s.view.slots .active with
  | none => exact wp_pure fun u _ => post _ u
  | some credential =>
    refine wp_of_moves fun u moved good => ?_
    have here : u.view.slots .active = some credential := by
      rw [moved.1, view]
      exact active
    apply wp_bind
    refine wp_orClear steady (wp_refresh steady ?_ ?_) ?_
    · intro access w since
      apply wp_bind
      refine wp_record steady (fun _ => .restored good.2 here since) fun x _ => ?_
      exact wp_pure fun y _ => post _ y
    · exact fun _ _ w _ => post _ w
    · exact fun _ _ w _ => post _ w

theorem wp_restore {Q : Except AuthError (Option SignedIn) → State → Prop}
    (steady : Steady session P T) (post : ∀ r t, Q r t) :
    wp (discipline session P T).env restore.run Q s := by
  apply wp_bind
  refine wp_get (fun t view => ?_) fun _ _ _ _ u _ => post _ u
  dsimp only [onOk]
  cases held : s.view.slots .pendingActivation with
  | none => exact wp_restoreActive steady post
  | some pending =>
    apply wp_bind
    refine wp_get (fun u here => ?_) fun _ _ _ _ w _ => post _ w
    dsimp only [onOk]
    split
    next =>
      apply wp_bind
      refine wp_delete steady (fun w _ => ?_) fun _ _ _ _ w _ => post _ w
      exact wp_restoreActive steady post
    next =>
      refine wp_of_moves fun w moved good => ?_
      have there : w.view.slots .pendingActivation = some pending := by
        rw [moved.1, here, view]
        exact held
      apply wp_bind
      refine wp_orClear steady (wp_activate steady (.inr there) ?_ ?_) ?_
      · intro signedIn x outcomes
        apply wp_bind
        refine wp_record steady (fun _ => .restored good.2 there ?_) fun y _ => ?_
        · rw [outcomes rfl]
          exact fun _ _ _ _ => id
        · exact wp_pure fun z _ => post _ z
      · exact fun _ _ _ y _ => post _ y
      · exact fun _ _ y _ => post _ y

theorem wp_logout {Q : Except AuthError Unit → State → Prop}
    (steady : Steady session P T) (post : ∀ r t, Q r t) :
    wp (discipline session P T).env logout.run Q s := by
  apply wp_bindLift
  intro t moved good
  refine ⟨good, fun u _ _ => ?_⟩
  apply wp_bindLift
  have cleared (w : State) : wp (discipline session P T).env clear.run Q w :=
    wp_clear steady (fun x _ => post _ x) fun _ _ x _ => post _ x
  refine wp_get (fun w _ => ?_) fun _ _ w _ => cleared w
  cases u.view.slots .active with
  | some refresh => exact wp_ask_same (fun _ _ => rfl) fun x _ _ _ _ => cleared x
  | none => exact cleared w

end

end PpvpnCore.Account
