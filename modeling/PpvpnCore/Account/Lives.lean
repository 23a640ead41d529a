import PpvpnCore.Account.Saved

/-!
Every run of one process after another over the same store.

* `Steady.lives`: a property of views that every change keeps holds in every
  state of every run.
* `slots_together`: a stored refresh belongs to the active session.
* `cancelled_login_leaves_nothing`: a login that was cancelled before its
  activation returned has failed, and nothing of it is stored.
-/

namespace PpvpnCore.Account

open Lib

variable {ι : Type} {session : String → ι} {P : View → Prop} {T : Terms}

/-! ## Logins -/

section

variable {α : Type}

theorem keeps_of_view {held : Bool} {s t : State} (here : (discipline session P T).At held s)
    (view : t.view = s.view) (cache : t.cache = s.cache) :
    (discipline session P T).Keeps held s t := by
  obtain ⟨⟨coherent, known⟩, -⟩ := here
  refine ⟨⟨?_, ?_⟩, fun _ => ⟨view, cache⟩, fun _ => trivial⟩
  · intro blob cached
    rw [cache] at cached
    exact (coherent blob cached).trans (congrArg View.slots view).symm
  · rw [view]
    exact known

/-- A section that leaves the saved credentials alone. -/
theorem obeys_step {place : Place} {f : State → α × State}
    (aside : ∀ s, (f s).2.view = s.view ∧ (f s).2.cache = s.cache) :
    Obeys (discipline session P T) (Prog.step place f : Task α) none :=
  Obeys.sec (fun _ s here _ => keeps_of_view here (aside s).1 (aside s).2) fun _ => trivial

theorem obeys_update {place : Place} {f : State → State}
    (aside : ∀ s, (f s).view = s.view ∧ (f s).cache = s.cache) :
    Obeys (discipline session P T) (Prog.update place f : Task Unit) none :=
  Obeys.sec (fun _ s here _ => keeps_of_view here (aside s).1 (aside s).2) fun _ => trivial

theorem obeys_ask {c : Call} (same : ∀ r s, effect c r s = s) :
    Obeys (discipline session P T) (Prog.ask c : Task (Answer c)) none := by
  intro held s here
  refine ⟨trivial, fun r _ => ⟨keeps_of_view here ?_ ?_, trivial⟩⟩
  · exact congrArg State.view (same r s)
  · exact congrArg State.cache (same r s)

theorem obeys_read {f : State → Action α}
    (rest : ∀ s, Obeys (discipline session P T) (f s).run none) :
    Obeys (discipline session P T) (read >>= f).run none :=
  Obeys.bindLift (Obeys.sec (fun _ _ here _ => keeps_of_view here rfl rfl) fun _ => trivial) rest

theorem start_obeys : Obeys (discipline session P T) start.run none := by
  apply Obeys.bindLift
  · exact obeys_step fun _ => ⟨rfl, rfl⟩
  intro generation
  apply Obeys.bindLift
  · exact obeys_ask fun _ _ => rfl
  intro created
  cases created with
  | error e => trivial
  | ok deviceCode =>
    apply Obeys.bindLift
    · refine obeys_step fun s => ?_
      split <;> exact ⟨rfl, rfl⟩
    intro current
    cases current <;> trivial

theorem finish_obeys {generation : Nat} {f : Unit → Action α}
    (rest : Obeys (discipline session P T) (f ()).run none) :
    Obeys (discipline session P T) (finish generation >>= f).run none := by
  apply Obeys.bindLift
  · refine obeys_update fun s => ?_
    split <;> exact ⟨rfl, rfl⟩
  exact fun _ => rest

theorem generationIsCurrent_obeys {generation : Nat} {f : Bool → Action α}
    (rest : ∀ current, Obeys (discipline session P T) (f current).run none) :
    Obeys (discipline session P T) (generationIsCurrent generation >>= f).run none :=
  Obeys.bindLift (obeys_step fun _ => ⟨rfl, rfl⟩) rest

theorem polled_obeys (generation : Nat) (response : Except ApiError DeviceToken) :
    Obeys (discipline session P T) (polled generation response).run none := by
  cases response with
  | error e =>
    rw [polled]
    split
    next => trivial
    next => exact finish_obeys trivial
  | ok response =>
    rw [polled]
    split
    next => trivial
    next =>
      apply finish_obeys
      split
      next => trivial
      next =>
        split
        next => trivial
        next =>
          split
          next =>
            split
            next =>
              split <;> trivial
            next => trivial
          next => trivial

theorem pollUntilDone_obeys (generation rounds : Nat) :
    Obeys (discipline session P T) (pollUntilDone generation rounds).run none := by
  induction rounds with
  | zero => trivial
  | succ rounds ih =>
    refine obeys_read fun s => ?_
    split
    next => trivial
    next =>
      split
      next => trivial
      next =>
        apply Obeys.bindLift
        · exact obeys_ask fun _ _ => rfl
        intro expired
        refine generationIsCurrent_obeys fun current => ?_
        split
        next => trivial
        next =>
          split
          next => exact finish_obeys trivial
          next =>
            apply Obeys.bindLift
            · exact obeys_ask fun _ _ => rfl
            intro response
            refine generationIsCurrent_obeys fun current => ?_
            split
            next => trivial
            next =>
              apply Obeys.bindExcept (polled_obeys generation response)
              intro decided
              cases decided with
              | none => exact ih
              | some credential => trivial

/-- The part of a login that has the lock. -/
theorem wp_loggedIn {s : State} {generation : Nat} {pending : String} {Q : Unit → State → Prop}
    (steady : Steady session P T) (post : ∀ t, Q () t) :
    wp (discipline session P T).env (loggedIn generation pending) Q s := by
  refine Lib.wp_bind (s := s) fun t _ good => ⟨trivial, fun r fresh => ?_⟩
  have kept : P (t.view.begins pending) := steady _ _ good.2 (.begin fresh)
  refine ⟨⟨good.1, kept⟩, fun u moved _ => ?_⟩
  have view : u.view = t.view.begins pending := moved.1
  refine Lib.wp_bind (wp_activate steady (.inl ⟨t.view, good.2, fresh, view⟩) ?_ ?_)
  · exact fun signedIn u _ w _ _ => post w
  · intro e w left x moved good'
    refine ⟨trivial, fun r terms => ?_⟩
    have left' : Left T (t.view.begins pending) pending x.view := by
      rw [moved.1, ← view]
      exact left
    refine ⟨⟨good'.1, ?_⟩, fun y _ _ => post y⟩
    exact steady _ _ good'.2 (.giveUp good.2 fresh left' terms)

theorem login_obeys (steady : Steady session P T) (rounds : Nat) :
    Obeys (discipline session P T) (login rounds) none := by
  apply Obeys.bind start_obeys
  rintro (e | generation)
  · trivial
  apply Obeys.bind (pollUntilDone_obeys generation rounds)
  rintro (e | _ | pending)
  · trivial
  · trivial
  · exact Obeys.withLock fun s _ _ => wp_loggedIn steady fun _ => trivial

theorem Op.obeys (steady : Steady session P T) (op : Op) :
    Obeys (discipline session P T) op.task none := by
  cases op with
  | login rounds => exact login_obeys steady rounds
  | cancel => exact obeys_update fun _ => ⟨rfl, rfl⟩
  | refresh =>
    refine Obeys.withLock fun s _ _ => Lib.wp_bind (wp_refresh steady ?_ ?_)
    · exact fun _ _ _ _ _ _ => trivial
    · exact fun _ _ _ _ _ => trivial
  | refreshOrClear =>
    refine Obeys.withLock fun s _ _ => Lib.wp_bind (wp_orClear steady (wp_refresh steady ?_ ?_) ?_)
    · exact fun _ _ _ _ _ _ => trivial
    · exact fun _ _ _ _ _ => trivial
    · exact fun _ _ _ _ _ => trivial
  | restore =>
    exact Obeys.withLock fun s _ _ => Lib.wp_bind (wp_restore steady fun _ _ _ _ _ => trivial)
  | logout =>
    exact Obeys.withLock fun s _ _ => Lib.wp_bind (wp_logout steady fun _ _ _ _ _ => trivial)

end

/-! ## Processes -/

/-- A process starts: of the last one only the store is left, and what the run
has recorded. -/
def State.reborn (s : State) : State :=
  { store := s.store, outcomes := s.outcomes, begun := s.begun, failed := s.failed }

/-- A process and what it is asked. -/
def process (s : State) (ops : List Op) : Pool State Place Answer Unit :=
  { state := s.reborn, tasks := ops.map fun op => { prog := op.task } }

/-- An answer is as the terms of the run say. -/
def Meets (session : String → ι) (T : Terms) (p : Pool State Place Answer Unit) :
    Move Answer → Prop
  | .answer i oracle => match p.task i with
    | some (.call c _) => Answers session T c (oracle c) p.state
    | _ => True
  | _ => True

/-- The states of one process after another. A process may end at any time. -/
inductive Lives (session : String → ι) (T : Terms) : Pool State Place Answer Unit → Prop
  | first (ops : List Op) : Lives session T (process {} ops)
  | step {p q : Pool State Place Answer Unit} {m : Move Answer} (before : Lives session T p)
      (meets : Meets session T p m) (taken : p.step effect m = some q) : Lives session T q
  | restart {p : Pool State Place Answer Unit} (before : Lives session T p) (ops : List Op) :
      Lives session T (process p.state ops)

theorem meets_grants : (discipline session P T).Grants (Meets session T) where
  sec _ _ _ := trivial
  answer meets task := by
    rw [Meets, task] at meets
    exact meets

theorem process_kept (steady : Steady session P T) {s : State} (known : P s.view) (ops : List Op) :
    (discipline session P T).Kept (process s ops) := by
  apply Discipline.Kept.of_free
  · rfl
  · exact ⟨nofun, known⟩
  · trivial
  · intro i prog here
    simp only [process, Pool.task, List.getElem?_map, Option.map_map] at here
    obtain ⟨op, -, rfl⟩ := Option.map_eq_some_iff.mp here
    exact op.obeys steady

/-- What every change keeps holds in every state of every run. -/
theorem Steady.lives (steady : Steady session P T) (start : P (State.view {}))
    {p : Pool State Place Answer Unit} (lives : Lives session T p) : P p.state.view := by
  have kept : (discipline session P T).Kept p := by
    induction lives with
    | first ops => exact process_kept steady start ops
    | step _ meets taken ih => exact ih.step meets_grants meets taken
    | restart _ ops ih => exact process_kept steady ih.good.2 ops
  exact kept.good.2

/-! ## Runs that can be executed -/

theorem Lives.reaches {p q : Pool State Place Answer Unit} (lives : Lives session T p)
    (reached : Reaches effect (Meets session T) p q) : Lives session T q := by
  induction reached with
  | refl => exact lives
  | step _ meets taken ih => exact ih.step meets taken

/-- The terms can be checked. -/
class Terms.Checks (T : Terms) where
  faulty : Decidable T.faulty
  activate : ∀ v pending, Decidable (T.activate v pending)
  begin : ∀ v pending, Decidable (T.begin v pending)
  returned : ∀ v pending current, Decidable (T.returned v pending current)

instance Answers.decidable [DecidableEq ι] [checks : T.Checks] :
    (c : Call) → (r : Answer c) → (s : State) → Decidable (Answers session T c r s)
  | .load, r, _ | .persist _, r, _ | .clear, r, _ => match (r : Except StoreFailure Unit) with
    | .ok () => isTrue trivial
    | .error _ => checks.faulty
  | .activate pending _, r, s => match (r : Except ApiError Tokens) with
    | .ok _ => haveI := checks.activate s.view pending; instDecidableAnd
    | .error _ => isTrue trivial
  | .refresh current, r, _ => match (r : Except ApiError String) with
    | .ok value => decEq (session value) (session current)
    | .error _ => isTrue trivial
  | .commit prepared, r, _ => match (r : Except ApiError Tokens) with
    | .ok tokens => decEq (session tokens.refresh) (session prepared)
    | .error _ => isTrue trivial
  | .begin pending, _, s => checks.begin s.view pending
  | .returned generation pending _, _, s => checks.returned s.view pending (s.generation = generation)
  | .deviceCode, _, _ | .wait, _, _ | .deviceToken _, _, _ | .revoke _, _, _ | .account _ _, _, _ =>
    isTrue trivial

instance Meets.decidable [DecidableEq ι] [T.Checks] (p : Pool State Place Answer Unit) :
    (m : Move Answer) → Decidable (Meets session T p m)
  | .answer i oracle => match task : p.task i with
    | some (.call c _) =>
      decidable_of_iff (Answers session T c (oracle c) p.state) (by rw [Meets, task])
    | none => isTrue (by rw [Meets, task]; trivial)
    | some (.ret _) => isTrue (by rw [Meets, task]; trivial)
    | some (.sec _ _ _) => isTrue (by rw [Meets, task]; trivial)
    | some (.lock _ _) => isTrue (by rw [Meets, task]; trivial)
    | some (.unlock _) => isTrue (by rw [Meets, task]; trivial)
  | .go _ | .giveUp _ => isTrue trivial

/-- The credentials of one session start with an `a`, all others are of another. -/
def sampleSession (credential : String) : Bool := credential.front = 'a'

def credentialA : String := "a---------1---------2---------3---------4"

def credentialB : String := "b---------1---------2---------3---------4"

/-- A backend that authorizes `credential` and answers every request. -/
def sampleAnswers (credential : String) : (c : Call) → Answer c
  | .load | .persist _ | .clear => (.ok () : Except StoreFailure Unit)
  | .deviceCode => (.ok "code" : Except AuthError String)
  | .wait => (false : Bool)
  | .deviceToken _ => (.ok ⟨"authorized", some credential⟩ : Except ApiError DeviceToken)
  | .activate pending _ => (.ok ⟨.ok "access", pending ++ "+"⟩ : Except ApiError Tokens)
  | .commit prepared => (.ok ⟨.ok "access", prepared ++ "+"⟩ : Except ApiError Tokens)
  | .revoke _ => (.ok () : Except ApiError Unit)
  | .account _ _ => (.ok "account" : Except ApiError String)
  | .refresh current => (.ok (current ++ "?") : Except ApiError String)
  | .begin _ | .returned _ _ _ => ()

/-- The answer of the commit is lost. -/
def commitLost : (c : Call) → Answer c
  | .commit _ => (.error (.transport "timeout") : Except ApiError Tokens)
  | c => sampleAnswers credentialA c

/-- Task `i` takes `n` steps, each call answered by `oracle`. -/
def turns (n i : Nat) (oracle : (c : Call) → Answer c) : List (Move Answer) :=
  (List.replicate n [.go i, .answer i oracle]).flatten

/-! ## One session at a time -/

/-- The store may fail any call. No activation is answered while the refresh of
another session is half finished. -/
def Terms.finished (session : String → ι) : Terms where
  faulty := True
  activate v pending :=
    ∀ prepared, v.slots .pendingRefresh = some prepared → session prepared = session pending
  begin _ _ := True
  returned _ _ _ := True

/-- A prepared refresh is of the active session, and no refresh leaves it. -/
structure Together (session : String → ι) (v : View) : Prop where
  slots : ∀ active prepared, v.slots .active = some active →
    v.slots .pendingRefresh = some prepared → session active = session prepared
  refreshes : ∀ before after, Outcome.refreshed before after ∈ v.outcomes →
    session after = session before

theorem Together.set_active {v : View} {value : String} (together : Together session v)
    (same : ∀ prepared, v.slots .pendingRefresh = some prepared →
      session value = session prepared) : Together session (v.set .active (some value)) where
  slots active prepared here there := by
    rw [View.set_slot] at here
    cases here
    rw [View.set_other _ _ (by decide)] at there
    exact same prepared there
  refreshes := together.refreshes

theorem Together.drop {v v' : View} (together : Together session v)
    (outcomes : v'.outcomes = v.outcomes)
    (fewer : ∀ slot c, slot ≠ .pendingActivation → v'.slots slot = some c →
      v.slots slot = some c) : Together session v' where
  slots active prepared here there :=
    together.slots active prepared (fewer _ _ (by decide) here) (fewer _ _ (by decide) there)
  refreshes before after member := together.refreshes before after (outcomes ▸ member)

theorem Together.record {v : View} {outcome : Outcome} (together : Together session v)
    (refreshed : ∀ before after, outcome = .refreshed before after →
      session after = session before) : Together session (v.record outcome) where
  slots := together.slots
  refreshes before after member := by
    rcases List.mem_append.mp member with old | new
    · exact together.refreshes before after old
    · exact refreshed before after (List.mem_singleton.mp new).symm

theorem together_steady : Steady session (Together session) (Terms.finished session) := by
  intro v v' together change
  cases change with
  | begin _ => exact ⟨together.slots, together.refreshes⟩
  | hold _ =>
    refine together.drop rfl fun slot c other here => ?_
    rwa [View.set_other _ _ other] at here
  | fail _ => exact ⟨together.slots, together.refreshes⟩
  | activate _ same terms =>
    exact together.set_active fun prepared here => same.trans (terms prepared here).symm
  | prepare active same =>
    refine ⟨fun a prepared here there => ?_, together.refreshes⟩
    rw [View.set_other _ _ (by decide), active] at here
    rw [View.set_slot] at there
    cases here
    cases there
    exact same.symm
  | commit _ saved same =>
    refine together.set_active fun prepared here => ?_
    rw [saved] at here
    cases here
    exact same
  | drop slot =>
    refine together.drop rfl fun x c _ here => ?_
    by_cases eq : x = slot
    · rw [eq, View.set_slot] at here
      cases here
    · rwa [View.set_other _ _ eq] at here
  | clear => exact together.drop rfl fun _ _ _ here => by cases here
  | signIn _ _ _ => exact together.record nofun
  | giveUp _ _ _ _ => exact together.record nofun
  | refreshed known active saved same =>
    refine together.record fun before after eq => ?_
    cases eq
    exact same.trans (known.slots _ _ active saved).symm
  | restored _ _ _ => exact together.record nofun

/-- The stored slots stay of one session, and every refresh that succeeds is of
the session it found. -/
theorem slots_together {p : Pool State Place Answer Unit}
    (lives : Lives session (Terms.finished session) p) :
    (∀ active prepared, p.state.saved.activeRefresh = some active →
      p.state.saved.pendingRefresh = some prepared → session active = session prepared) ∧
    ∀ before after, Outcome.refreshed before after ∈ p.state.outcomes →
      session after = session before := by
  have together : Together session p.state.view := by
    refine together_steady.lives ⟨?_, ?_⟩ lives
    · exact fun _ _ here => by cases here
    · exact fun _ _ member => by cases member
  exact ⟨together.slots, together.refreshes⟩

instance [DecidableEq ι] : (Terms.finished session).Checks where
  faulty := isTrue trivial
  activate v pending := match saved : v.slots .pendingRefresh with
    | none => isTrue fun _ here => by cases saved.symm.trans here
    | some prepared => decidable_of_iff (session prepared = session pending)
        ⟨fun same _ here => Option.some.inj (saved.symm.trans here) ▸ same,
          fun same => same prepared saved⟩
  begin _ _ := isTrue trivial
  returned _ _ _ := isTrue trivial

/-- A login, a refresh whose commit is lost, another refresh. -/
def resumedRun : Pool State Place Answer Unit :=
  (process {} [.login 1, .refresh, .refresh]).play effect
    (Meets sampleSession (Terms.finished sampleSession))
    (turns 60 0 (sampleAnswers credentialA) ++ turns 20 1 commitLost ++
      turns 30 2 (sampleAnswers credentialA))

theorem slots_together_resumed :
    Outcome.refreshed (credentialA ++ "+") (credentialA ++ "+?+") ∈ resumedRun.state.outcomes ∧
    ∀ before after, Outcome.refreshed before after ∈ resumedRun.state.outcomes →
      sampleSession after = sampleSession before := by
  have lives : Lives sampleSession (Terms.finished sampleSession) resumedRun :=
    (Lives.first _).reaches (Reaches.of_play _ _)
  exact ⟨by decide +kernel, (slots_together lives).2⟩

/-- Nothing but the sessions is known of the answers. -/
def Terms.any : Terms where
  faulty := True
  activate _ _ := True
  begin _ _ := True
  returned _ _ _ := True

instance : Terms.any.Checks where
  faulty := isTrue trivial
  activate _ _ := isTrue trivial
  begin _ _ := isTrue trivial
  returned _ _ _ := isTrue trivial

/-- A login, a refresh whose commit is lost, a login of another session. -/
def staleRun : Pool State Place Answer Unit :=
  (process {} [.login 1, .refresh, .login 1, .refresh]).play effect (Meets sampleSession Terms.any)
    (turns 60 0 (sampleAnswers credentialA) ++ turns 20 1 commitLost ++
      turns 60 2 (sampleAnswers credentialB))

/-- The next refresh commits the credential of the first session. -/
def swappedRun : Pool State Place Answer Unit :=
  staleRun.play effect (Meets sampleSession Terms.any) (turns 30 3 (sampleAnswers credentialB))

/-- The active credential and the prepared one are of two sessions, and the
refresh that succeeds next leaves the session it found. -/
theorem slots_apart : Lives sampleSession Terms.any staleRun ∧
    staleRun.state.saved.activeRefresh = some (credentialB ++ "+") ∧
    staleRun.state.saved.pendingRefresh = some (credentialA ++ "+?") ∧
    sampleSession (credentialB ++ "+") ≠ sampleSession (credentialA ++ "+?") ∧
    Lives sampleSession Terms.any swappedRun ∧
    Outcome.refreshed (credentialB ++ "+") (credentialA ++ "+?+") ∈ swappedRun.state.outcomes := by
  have stale : Lives sampleSession Terms.any staleRun :=
    (Lives.first _).reaches (Reaches.of_play _ _)
  refine ⟨stale, ?_, ?_, ?_, stale.reaches (Reaches.of_play _ _), ?_⟩
  · decide +kernel
  · decide +kernel
  · decide +kernel
  · decide +kernel

/-! ## Cancelled logins -/

/-- The store works, and each login is of a session of its own. When a request
of its activation has failed, or the credential of its session cannot be stored,
a login is current until the activation returns. -/
def Terms.undisturbed (session : String → ι) : Terms where
  faulty := False
  activate _ _ := True
  begin v pending := ∀ earlier ∈ v.begun, session earlier ≠ session pending
  returned v pending current := pending ∈ v.failed → current = true

/-- Nothing of a cancelled login is stored or restored. -/
structure Forgotten (session : String → ι) (v : View) : Prop where
  begun : ∀ slot c, v.slots slot = some c → ∃ b ∈ v.begun, session b = session c
  slots : ∀ slot c, v.slots slot = some c →
    ∀ g p r, Outcome.activated g p r false ∈ v.outcomes → session c ≠ session p
  cancelled : ∀ g p r, Outcome.activated g p r false ∈ v.outcomes →
    p ∈ v.begun ∧ ∃ e, r = .error e
  restores : v.outcomes.Pairwise fun earlier later =>
    ∀ g p r c, earlier = .activated g p r false → later = .restored c → session c ≠ session p

/-- A slot gets a credential of a session that is stored already. -/
theorem Forgotten.set {v : View} {slot other : Slot} {value c : String}
    (forgotten : Forgotten session v) (stored : v.slots other = some c)
    (same : session value = session c) : Forgotten session (v.set slot (some value)) where
  begun x d here := by
    by_cases eq : x = slot
    · rw [eq, View.set_slot] at here
      cases here
      rw [same]
      exact forgotten.begun other c stored
    · rw [View.set_other _ _ eq] at here
      exact forgotten.begun x d here
  slots x d here := by
    by_cases eq : x = slot
    · rw [eq, View.set_slot] at here
      cases here
      rw [same]
      exact forgotten.slots other c stored
    · rw [View.set_other _ _ eq] at here
      exact forgotten.slots x d here
  cancelled := forgotten.cancelled
  restores := forgotten.restores

theorem Forgotten.drop {v v' : View} (forgotten : Forgotten session v)
    (outcomes : v'.outcomes = v.outcomes) (begun : v'.begun = v.begun)
    (fewer : ∀ slot c, v'.slots slot = some c → v.slots slot = some c) :
    Forgotten session v' where
  begun slot c here := begun ▸ forgotten.begun slot c (fewer slot c here)
  slots slot c here g p r member :=
    forgotten.slots slot c (fewer slot c here) g p r (outcomes ▸ member)
  cancelled g p r member := begun ▸ forgotten.cancelled g p r (outcomes ▸ member)
  restores := outcomes ▸ forgotten.restores

/-- An outcome that is no cancelled login. -/
theorem Forgotten.record {v : View} {outcome : Outcome} (forgotten : Forgotten session v)
    (kept : ∀ g p r, outcome ≠ .activated g p r false)
    (restored : ∀ c, outcome = .restored c → ∀ g p r,
      Outcome.activated g p r false ∈ v.outcomes → session c ≠ session p) :
    Forgotten session (v.record outcome) := by
  have old {g : Nat} {p : String} {r : Except AuthError SignedIn}
      (member : Outcome.activated g p r false ∈ (v.record outcome).outcomes) :
      Outcome.activated g p r false ∈ v.outcomes := by
    rcases List.mem_append.mp member with old | new
    · exact old
    · exact absurd (List.mem_singleton.mp new).symm (kept g p r)
  refine ⟨forgotten.begun, ?_, ?_, ?_⟩
  · exact fun slot c here g p r member => forgotten.slots slot c here g p r (old member)
  · exact fun g p r member => forgotten.cancelled g p r (old member)
  · refine List.pairwise_append.mpr ⟨forgotten.restores, List.pairwise_singleton _ _, ?_⟩
    rintro o member o' member' g p r c rfl rfl
    exact restored c (List.mem_singleton.mp member').symm g p r member

theorem Forgotten.cancel {v before : View} {generation : Nat} {pending : String}
    {error : AuthError} (forgotten : Forgotten session v) (began : Forgotten session before)
    (fresh : ∀ earlier ∈ before.begun, session earlier ≠ session pending)
    (begun : pending ∈ v.begun)
    (left : ∀ slot c, v.slots slot = some c → before.slots slot = some c) :
    Forgotten session (v.record (.activated generation pending (.error error) false)) := by
  refine ⟨forgotten.begun, ?_, ?_, ?_⟩
  · intro slot c here g p r member
    rcases List.mem_append.mp member with old | new
    · exact forgotten.slots slot c here g p r old
    · cases List.mem_singleton.mp new
      obtain ⟨b, member, same⟩ := began.begun slot c (left slot c here)
      rw [← same]
      exact fresh b member
  · intro g p r member
    rcases List.mem_append.mp member with old | new
    · exact forgotten.cancelled g p r old
    · cases List.mem_singleton.mp new
      exact ⟨begun, error, rfl⟩
  · refine List.pairwise_append.mpr ⟨forgotten.restores, List.pairwise_singleton _ _, ?_⟩
    rintro o - o' member' g p r c rfl rfl
    cases List.mem_singleton.mp member'

theorem forgotten_steady : Steady session (Forgotten session) (Terms.undisturbed session) := by
  intro v v' forgotten change
  cases change with
  | begin _ =>
    refine ⟨fun slot c here => ?_, forgotten.slots, fun g p r member => ?_, forgotten.restores⟩
    · obtain ⟨b, member, same⟩ := forgotten.begun slot c here
      exact ⟨b, List.mem_append_left _ member, same⟩
    · exact (forgotten.cancelled g p r member).imp_left (List.mem_append_left _)
  | @hold pending known =>
    rcases known with ⟨before, began, fresh, rfl⟩ | held
    · refine ⟨fun slot c here => ?_, fun slot c here => ?_, forgotten.cancelled,
        forgotten.restores⟩
      · by_cases eq : slot = .pendingActivation
        · rw [eq, View.set_slot] at here
          cases here
          exact ⟨pending, List.mem_append_right _ List.mem_cons_self, rfl⟩
        · rw [View.set_other _ _ eq] at here
          exact forgotten.begun slot c here
      · by_cases eq : slot = .pendingActivation
        · rw [eq, View.set_slot] at here
          cases here
          intro g p r member
          exact (fresh p (began.cancelled g p r member).1).symm
        · rw [View.set_other _ _ eq] at here
          exact forgotten.slots slot c here
    · exact forgotten.set held rfl
  | fail _ => exact forgotten.drop rfl rfl fun _ _ => id
  | activate held same _ => exact forgotten.set held same
  | prepare active same => exact forgotten.set active same
  | commit _ saved same => exact forgotten.set saved same
  | drop slot =>
    refine forgotten.drop rfl rfl fun x c here => ?_
    by_cases eq : x = slot
    · rw [eq, View.set_slot] at here
      cases here
    · rwa [View.set_other _ _ eq] at here
  | clear => exact forgotten.drop rfl rfl fun _ _ here => by cases here
  | signIn _ _ _ => exact forgotten.record nofun nofun
  | @giveUp before _ pending _ current began fresh left terms =>
    cases current with
    | true => exact forgotten.record nofun nofun
    | false =>
      obtain ⟨begun, faulty | failed | fewer⟩ := left
      · exact faulty.elim
      · cases terms failed
      · refine forgotten.cancel began fresh ?_ fewer
        rw [begun]
        exact List.mem_append_right _ List.mem_cons_self
  | refreshed _ _ _ _ => exact forgotten.record nofun nofun
  | @restored before slot credential known saved since =>
    refine forgotten.record nofun fun c eq g p r member => ?_
    cases eq
    exact known.slots slot credential saved g p r (since g p r false member)

/-- A login that was cancelled or superseded before its activation returned has
failed; from then on nothing of its session is stored, and no restore signs in
with it. -/
theorem cancelled_login_leaves_nothing {p : Pool State Place Answer Unit}
    (lives : Lives session (Terms.undisturbed session) p) :
    (∀ g pending result, Outcome.activated g pending result false ∈ p.state.outcomes →
      (∃ e, result = .error e) ∧
      ∀ slot c, p.state.saved.slot slot = some c → session c ≠ session pending) ∧
    p.state.outcomes.Pairwise fun earlier later => ∀ g pending result c,
      earlier = .activated g pending result false → later = .restored c →
        session c ≠ session pending := by
  have forgotten : Forgotten session p.state.view := by
    refine forgotten_steady.lives ⟨?_, ?_, ?_, List.Pairwise.nil⟩ lives
    · rintro (_ | _ | _) c ⟨⟩
    · exact fun _ _ _ _ _ _ member => by cases member
    · exact fun _ _ _ member => by cases member
  refine ⟨fun g pending result member => ?_, forgotten.restores⟩
  refine ⟨(forgotten.cancelled g pending result member).2, fun slot c here => ?_⟩
  exact forgotten.slots slot c here g pending result member

instance [DecidableEq ι] : (Terms.undisturbed session).Checks where
  faulty := isFalse id
  activate _ _ := isTrue trivial
  begin v pending := inferInstanceAs (Decidable (∀ earlier ∈ v.begun, session earlier ≠ session pending))
  returned v pending current := inferInstanceAs (Decidable (pending ∈ v.failed → current = true))

/-- A login that is cancelled while its activation is asked for. -/
def cancelDuring (oracle : (c : Call) → Answer c) : List (Move Answer) :=
  turns 17 0 (sampleAnswers credentialA) ++ [.go 0, .go 1] ++ turns 30 0 oracle

/-- The activation is answered all the same. -/
def cancelledRun : Pool State Place Answer Unit :=
  (process {} [.login 1, .cancel]).play effect
    (Meets sampleSession (Terms.undisturbed sampleSession)) (cancelDuring (sampleAnswers credentialA))

theorem cancelled_login_leaves_nothing_sample :
    Outcome.activated 1 credentialA (.error .cancelled) false ∈ cancelledRun.state.outcomes ∧
    ∀ slot c, cancelledRun.state.saved.slot slot = some c →
      sampleSession c ≠ sampleSession credentialA := by
  have lives : Lives sampleSession (Terms.undisturbed sampleSession) cancelledRun :=
    (Lives.first _).reaches (Reaches.of_play _ _)
  have cancelled :
      Outcome.activated 1 credentialA (.error .cancelled) false ∈ cancelledRun.state.outcomes := by
    decide +kernel
  exact ⟨cancelled, ((cancelled_login_leaves_nothing lives).1 1 credentialA _ cancelled).2⟩

/-- The store works, and each login is of a session of its own. -/
def Terms.working (session : String → ι) : Terms :=
  { Terms.undisturbed session with returned := fun _ _ _ => True }

instance [DecidableEq ι] : (Terms.working session).Checks where
  faulty := isFalse id
  activate _ _ := isTrue trivial
  begin v pending := inferInstanceAs (Decidable (∀ earlier ∈ v.begun, session earlier ≠ session pending))
  returned _ _ _ := isTrue trivial

/-- The answer of the activation is lost. -/
def activateLost : (c : Call) → Answer c
  | .activate _ _ => (.error (.transport "timeout") : Except ApiError Tokens)
  | c => sampleAnswers credentialA c

def lostRun : Pool State Place Answer Unit :=
  (process {} [.login 1, .cancel]).play effect
    (Meets sampleSession (Terms.working sampleSession)) (cancelDuring activateLost)

/-- The next process restores what is stored. -/
def revivedRun : Pool State Place Answer Unit :=
  (process lostRun.state [.restore]).play effect
    (Meets sampleSession (Terms.working sampleSession)) (turns 30 0 (sampleAnswers credentialA))

/-- The login is cancelled and its activation fails; its credential is stored
when it has, and the next process signs in with it. -/
theorem cancelled_login_revived : Lives sampleSession (Terms.working sampleSession) lostRun ∧
    Outcome.activated 1 credentialA (.error (.api (.transport "timeout"))) false ∈
      lostRun.state.outcomes ∧
    lostRun.state.saved.pendingActivation = some credentialA ∧
    Lives sampleSession (Terms.working sampleSession) revivedRun ∧
    Outcome.restored credentialA ∈ revivedRun.state.outcomes ∧
    revivedRun.state.saved.activeRefresh = some (credentialA ++ "+") := by
  have lost : Lives sampleSession (Terms.working sampleSession) lostRun :=
    (Lives.first _).reaches (Reaches.of_play _ _)
  have revived : Lives sampleSession (Terms.working sampleSession) revivedRun :=
    (lost.restart _).reaches (Reaches.of_play _ _)
  refine ⟨lost, ?_, ?_, revived, ?_, ?_⟩
  · decide +kernel
  · decide +kernel
  · decide +kernel
  · decide +kernel

end PpvpnCore.Account
