import PpvpnCore.Account.Lives
import PpvpnCore.Account.Rotation

/-!
An interrupted rotation never loses the login.

* `Ends`: an operation keeps what the slots and the backend know of each other,
  and ends as asked; one lemma for each function.
* `Turns`: one sign-in, then refreshes and restores, over any number of
  processes.
* `login_kept`: from wherever a careful run stands, a restore that is answered
  signs in.
* `login_lost`: a refresh that is finished while the pending credential is still
  saved costs the login.
-/

namespace PpvpnCore.Account

open Lib

/-- The answers of a run, with faults or without, careful or not. -/
def rotation (faulty careful : Prop) (pending : String) : Env (State × World) Reply where
  effect c r s := (effect c r.heard s.1, s.2.after c r)
  answers c r s := Hears faulty pending s.2 c r ∧ (careful → Careful s.1 c r)
  moves := Eq
  refl _ := rfl
  trans := Eq.trans
  alone := True
  allowed _ _ := True
  good s := s.1.Coherent ∧ Safe pending s.1.saved.slot s.2

/-- Every way on keeps the login recoverable and ends as `Q` says. -/
abbrev Ends {α : Type} (faulty careful : Prop) (pending : String) (p : Action α)
    (Q : Except AuthError α → State × World → Prop) (s : State × World) : Prop :=
  wp (rotation faulty careful pending) (p.run.amid hear) Q s

/-- What the slots hold, the generation and the backend. -/
structure At (blob : CredentialBlob) (generation : Nat) (w : World) (s : State × World) : Prop where
  slots : s.1.saved.slot = blob.slot
  generation : s.1.generation = generation
  world : s.2 = w

section

variable {faulty careful : Prop} {pending : String} {α β : Type} {s : State × World}
  {Q : Except AuthError α → State × World → Prop} {blob : CredentialBlob} {g : Nat} {w : World}

/-! ## Rules -/

theorem ends_pure {a : α} (post : Q (.ok a) s) : Ends faulty careful pending (pure a) Q s := by
  rintro _ rfl _
  exact post

theorem ends_throw {e : AuthError} (post : Q (.error e) s) :
    Ends faulty careful pending (throw e : Action α) Q s := by
  rintro _ rfl _
  exact post

/-- What is known of every state. -/
theorem ends_good {p : Action α}
    (spec : s.1.Coherent → Safe pending s.1.saved.slot s.2 → Ends faulty careful pending p Q s) :
    Ends faulty careful pending p Q s := by
  apply wp_of_moves
  rintro _ rfl good
  exact spec good.1 good.2

theorem ends_bind {p : Action β} {f : β → Action α}
    (spec : Ends faulty careful pending p
      (onOk (fun b => Ends faulty careful pending (f b) Q) fun e t => Q (.error e) t) s) :
    Ends faulty careful pending (p >>= f) Q s := by
  refine wp_amid_bindExcept (wp_mono spec fun a t post => ?_)
  cases a with
  | ok b => exact post
  | error e => exact ends_throw (α := α) post

theorem ends_ask {c : Call} {f : Answer c → Action α}
    (spec : ∀ r : Reply c, Hears faulty pending s.2 c r → (careful → Careful s.1 c r) →
      ((effect c r.heard s.1).Coherent ∧
        Safe pending (effect c r.heard s.1).saved.slot (s.2.after c r)) ∧
      Ends faulty careful pending (f r.heard) Q (effect c r.heard s.1, s.2.after c r)) :
    Ends faulty careful pending (ask c >>= f) Q s := by
  apply wp_amid_bindLift
  rintro _ rfl _
  refine ⟨trivial, fun r answer => ?_⟩
  obtain ⟨good, rest⟩ := spec r answer.1 answer.2
  refine ⟨good, ?_⟩
  rintro _ rfl _
  exact rest

theorem ends_read {f : State → Action α} (spec : Ends faulty careful pending (f s.1) Q s) :
    Ends faulty careful pending (read >>= f) Q s := by
  apply wp_amid_bindLift
  rintro _ rfl good
  refine ⟨good, ?_⟩
  rintro _ rfl _
  exact spec

/-- A section that leaves the saved credentials alone. -/
theorem ends_step {place : Place} {h : State → α × State}
    (aside : (h s.1).2.store = s.1.store ∧ (h s.1).2.cache = s.1.cache)
    (post : Q (.ok (h s.1).1) ((h s.1).2, s.2)) :
    Ends faulty careful pending (monadLift (Prog.step place h : Task α) : Action α) Q s := by
  rintro _ rfl ⟨coherent, safe⟩
  have saved : (h s.1).2.saved = s.1.saved := by
    rw [State.saved, State.saved, aside.1]
  refine ⟨⟨fun blob cached => ?_, ?_⟩, ?_⟩
  · change blob.slot = (h s.1).2.saved.slot
    rw [saved]
    exact coherent blob (aside.2.symm.trans cached)
  · change Safe pending (h s.1).2.saved.slot s.2
    rw [saved]
    exact safe
  · rintro _ rfl _
    exact post

theorem ends_record {outcome : Outcome} {Q : Except AuthError Unit → State × World → Prop}
    (post : Q (.ok ()) ({ s.1 with outcomes := s.1.outcomes ++ [outcome] }, s.2)) :
    Ends faulty careful pending (record outcome) Q s :=
  ends_step (h := fun s => ((), { s with outcomes := s.outcomes ++ [outcome] })) ⟨rfl, rfl⟩ post

/-! ## The slots -/

theorem At.safe (here : At blob g w s) (safe : Safe pending s.1.saved.slot s.2) :
    Safe pending blob.slot w := by
  rw [← here.slots, ← here.world]
  exact safe

theorem ends_loaded {Q : Except AuthError CredentialBlob → State × World → Prop}
    (here : At blob g w s)
    (ok : ∀ b t, b.slot = blob.slot → At blob g w t → Q (.ok b) t)
    (failed : faulty → ∀ e t, At blob g w t → Q (.error (.store e)) t) :
    Ends faulty careful pending loaded Q s := by
  refine ends_good fun coherent safe => ends_read ?_
  cases cached : s.1.cache with
  | some b => exact ends_pure (ok b s ((coherent b cached).trans here.slots) here)
  | none =>
    refine ends_ask fun r answer _ => ?_
    obtain ⟨heard, acted⟩ := r
    cases (heard : Except StoreFailure Unit) with
    | error e =>
      refine ⟨⟨coherent, safe⟩, ends_bind (ends_throw (failed answer e _ ?_))⟩
      exact ⟨here.slots, here.generation, here.world⟩
    | ok =>
      refine ⟨⟨?_, safe⟩, ends_bind (ends_pure (ends_read (ends_pure (ok _ _ here.slots ?_))))⟩
      · rintro b ⟨⟩
        rfl
      · exact ⟨here.slots, here.generation, here.world⟩

theorem ends_get {slot : Slot} {Q : Except AuthError (Option String) → State × World → Prop}
    (here : At blob g w s) (ok : ∀ t, At blob g w t → Q (.ok (blob.slot slot)) t)
    (failed : faulty → ∀ e t, At blob g w t → Q (.error (.store e)) t) :
    Ends faulty careful pending (get slot) Q s := by
  refine ends_bind (ends_loaded here (fun b t slots here => ?_) failed)
  apply ends_pure
  rw [slots]
  exact ok t here

/-- A blob is persisted. -/
theorem ends_persist {next after : CredentialBlob} {v : World}
    {Q : Except AuthError Unit → State × World → Prop} (here : At blob g w s)
    (slots : next.slot = after.slot)
    (world : v = { w with held := w.held || after.pendingActivation.isSome })
    (safe : (careful → blob.pendingActivation.isSome = true → blob.pendingRefresh.isSome = true →
      after.pendingRefresh.isSome = true) → Safe pending after.slot v)
    (ok : ∀ t, At after g v t → Q (.ok ()) t)
    (failed : faulty → ∀ e t, At blob g w t → Q (.error (.store e)) t) :
    Ends faulty careful pending (ask (.persist next) >>= stored) Q s := by
  have pendings : next.pendingActivation = after.pendingActivation :=
    congrFun slots .pendingActivation
  have refreshes : next.pendingRefresh = after.pendingRefresh := congrFun slots .pendingRefresh
  have nowPending : s.1.saved.pendingActivation = blob.pendingActivation :=
    congrFun here.slots .pendingActivation
  have nowRefresh : s.1.saved.pendingRefresh = blob.pendingRefresh :=
    congrFun here.slots .pendingRefresh
  refine ends_good fun coherent known => ends_ask fun r answer care => ?_
  obtain ⟨heard, acted⟩ := r
  cases (heard : Except StoreFailure Unit) with
  | error e =>
    refine ⟨⟨coherent, known⟩, ends_throw (failed answer e _ ?_)⟩
    exact ⟨here.slots, here.generation, here.world⟩
  | ok =>
    have stands : At after g v (effect (.persist next) (.ok ()) s.1,
        s.2.after (.persist next) ⟨.ok (), acted⟩) := by
      refine ⟨?_, here.generation, ?_⟩
      · exact (CredentialBlob.persisted_slots next).trans slots
      · rw [world, ← here.world, ← pendings]
        rfl
    refine ⟨⟨?_, ?_⟩, ends_pure (ok _ stands)⟩
    · rintro b ⟨⟩
      exact (CredentialBlob.persisted_slots next).symm
    · rw [show (effect (.persist next) (.ok ()) s.1).saved.slot = _ from stands.slots,
        show s.2.after (.persist next) ⟨.ok (), acted⟩ = _ from stands.world]
      refine safe fun given => ?_
      have cautious := care given
      simp only [Careful, nowPending, nowRefresh, refreshes] at cautious
      exact cautious

/-- Something is saved only once the pending credential has been. -/
theorem Safe.held_of_saved {slots : Slot → Option String} (safe : Safe pending slots w) :
    (w.held || (slots .pendingActivation).isSome) = w.held := by
  cases held : w.held with
  | true => rfl
  | false => rw [(safe.empty held).1]; rfl

theorem ends_set {slot : Slot} {value : String} {v : World}
    {Q : Except AuthError Unit → State × World → Prop} (here : At blob g w s)
    (fits : Storable value)
    (world : v = { w with held := w.held || (blob.set slot (some value)).pendingActivation.isSome })
    (safe : Safe pending (blob.set slot (some value)).slot v)
    (ok : ∀ t, At (blob.set slot (some value)) g v t → Q (.ok ()) t)
    (failed : faulty → ∀ e t, At blob g w t → Q (.error (.store e)) t) :
    Ends faulty careful pending (set slot value) Q s := by
  rw [set, if_neg (Nat.not_lt.mpr fits)]
  refine ends_bind (ends_loaded here (fun b t slots here => ?_) failed)
  refine ends_persist here ?_ world (fun _ => safe) ok failed
  rw [CredentialBlob.set_update, CredentialBlob.set_update, slots]

theorem ends_delete {slot : Slot} {Q : Except AuthError Unit → State × World → Prop}
    (here : At blob g w s)
    (safe : (careful → blob.pendingActivation.isSome = true → blob.pendingRefresh.isSome = true →
      (blob.set slot none).pendingRefresh.isSome = true) → Safe pending (blob.set slot none).slot w)
    (ok : ∀ t, At (blob.set slot none) g w t → Q (.ok ()) t)
    (failed : faulty → ∀ e t, At blob g w t → Q (.error (.store e)) t) :
    Ends faulty careful pending (delete slot) Q s := by
  refine ends_good fun _ known => ?_
  have kept : (w.held || (blob.set slot none).pendingActivation.isSome) = w.held := by
    have before := (here.safe known).held_of_saved
    cases slot with
    | active => exact before
    | pendingActivation => exact Bool.or_false _
    | pendingRefresh => exact before
  refine ends_bind (ends_loaded here (fun b t slots here => ?_) failed)
  dsimp only [onOk]
  split
  next empty =>
    rw [Option.isNone_iff_eq_none, slots] at empty
    refine ends_pure (ok t ⟨?_, here.generation, here.world⟩)
    rw [here.slots, CredentialBlob.set_update, Function.update_eq_self_iff.mpr empty.symm]
  next =>
    refine ends_persist here ?_ ?_ safe ok failed
    · rw [CredentialBlob.set_update, CredentialBlob.set_update, slots]
    · rw [kept]

/-! ## The operations -/

/-- The generation is the login's, or none is expected. -/
theorem ends_expectGeneration {expected : Option Nat} {Q : Except AuthError Bool → State × World → Prop}
    (here : At blob g w s) (current : ∀ x, expected = some x → x = g) (post : Q (.ok true) s) :
    Ends faulty careful pending (expectGeneration expected) Q s := by
  cases expected with
  | none => exact ends_pure post
  | some x =>
    cases current x rfl
    refine ends_step ⟨rfl, rfl⟩ ?_
    rw [decide_eq_true here.generation]
    exact post

/-- A request leaves what is stored alone. -/
theorem wp_request {c : Call} {k : Answer c → Task α} {Q : α → State × World → Prop}
    (here : At blob g w s)
    (aside : ∀ r s, (effect c r s).store = s.store ∧ (effect c r s).cache = s.cache ∧
      (effect c r s).generation = s.generation)
    (spec : Safe pending blob.slot w → ∀ r : Reply c, Hears faulty pending w c r →
      Safe pending blob.slot (w.after c r) ∧ ∀ t, At blob g (w.after c r) t →
        wp (rotation faulty careful pending) ((k r.heard).amid hear) Q t) :
    wp (rotation faulty careful pending) ((Prog.call c k : Task α).amid hear) Q s := by
  rintro _ rfl ⟨coherent, known⟩
  refine ⟨trivial, fun r answer => ?_⟩
  obtain ⟨store, cache, generation⟩ := aside r.heard s.1
  have saved : (effect c r.heard s.1).saved = s.1.saved := by
    rw [State.saved, State.saved, store]
  have slots : (effect c r.heard s.1).saved.slot = blob.slot := by rw [saved, here.slots]
  obtain ⟨safe, rest⟩ := spec (here.safe known) r (here.world ▸ answer.1)
  rw [← here.world] at safe rest
  refine ⟨⟨?_, ?_⟩, rest _ ⟨slots, generation.trans here.generation, rfl⟩⟩
  · change (effect c r.heard s.1).Coherent
    rw [State.Coherent, saved, cache]
    exact coherent
  · change Safe pending (effect c r.heard s.1).saved.slot (s.2.after c r)
    rw [slots]
    exact safe

theorem ends_request {c : Call} {f : Answer c → Action α} (here : At blob g w s)
    (aside : ∀ r s, (effect c r s).store = s.store ∧ (effect c r s).cache = s.cache ∧
      (effect c r s).generation = s.generation)
    (spec : Safe pending blob.slot w → ∀ r : Reply c, Hears faulty pending w c r →
      Safe pending blob.slot (w.after c r) ∧
      ∀ t, At blob g (w.after c r) t → Ends faulty careful pending (f r.heard) Q t) :
    Ends faulty careful pending (ask c >>= f) Q s :=
  wp_request here aside spec

theorem minted_of_mint {tokens : Tokens} {access : String} (w : World)
    (trusted : tokens.access = .ok access) : access ∈ (w.mint tokens).minted := by
  rw [World.mint, trusted]
  exact List.mem_cons_self

theorem minted_of_activate {tokens : Tokens} {access : String}
    (trusted : tokens.access = .ok access) : access ∈ (w.activate tokens).minted := by
  rw [World.activate]
  split <;> exact minted_of_mint _ trusted

theorem minted_of_commit {tokens : Tokens} {access q : String}
    (trusted : tokens.access = .ok access) : access ∈ (w.commit q tokens).minted := by
  rw [World.commit]
  split <;> exact minted_of_mint _ trusted

theorem World.activate_held {tokens : Tokens} : (w.activate tokens).held = w.held := by
  rw [World.activate]
  split <;> rw [World.mint] <;> split <;> rfl

theorem World.commit_held (tokens : Tokens) (q : String) :
    (w.commit q tokens).held = w.held := by
  rw [World.commit]
  split <;> rw [World.mint] <;> split <;> rfl

theorem World.held_or (held : w.held = true) (b : Bool) : w = { w with held := w.held || b } := by
  rw [held]
  exact congrArg (fun b => { w with held := b }) held

/-- The activation once the session's credential is saved. -/
theorem ends_activeSaved {expected : Option Nat} {refresh access : String}
    {Q : Except AuthError SignedIn → State × World → Prop} (here : At blob g w s)
    (known : Recoverable pending (some refresh) (some pending) blob.pendingRefresh w)
    (active : blob.activeRefresh = some refresh) (held : w.held = true)
    (current : ∀ x, expected = some x → x = g) (minted : access ∈ w.minted)
    (failed : faulty → ∀ e t, e.isTerminal = false → Q (.error e) t)
    (ok : ∀ signedIn t, signedIn.access ∈ t.2.minted → Q (.ok signedIn) t) :
    Ends faulty careful pending (activeSaved pending expected refresh access) Q s := by
  refine ends_bind (ends_expectGeneration here current ?_)
  refine ends_bind (ends_delete here (fun _ => ?_) (fun t here => ?_) fun fault e t _ => ?_)
  · refine Recoverable.safe ?_ held
    have settled := known.settle
    rw [← active] at settled
    exact settled
  · refine ends_request here ?_ fun safe r answer => ⟨safe, fun t here => ?_⟩
    · intro r s
      cases (r : Except ApiError String) <;> exact ⟨rfl, rfl, rfl⟩
    · obtain ⟨heard, acted⟩ := r
      cases (heard : Except ApiError String) with
      | error e => exact ends_throw (failed answer.1 _ t answer.2)
      | ok account =>
        have signed : access ∈ t.2.minted := by
          rw [here.world]
          exact minted
        cases expected with
        | none => exact ends_bind (ends_pure (ends_pure (ok _ t signed)))
        | some x =>
          cases current x rfl
          refine ends_bind (ends_step ?_ ?_)
          · split <;> exact ⟨rfl, rfl⟩
          · rw [if_pos here.generation]
            exact ends_pure (ok _ _ signed)
  · exact failed fault _ t rfl

/-- The activation once the backend has answered. -/
theorem ends_activated {expected : Option Nat} {tokens : Tokens}
    {Q : Except AuthError SignedIn → State × World → Prop} (here : At blob g w s)
    (known : Recoverable pending blob.activeRefresh (some pending) blob.pendingRefresh w)
    (saved : blob.pendingActivation = some pending) (held : w.held = true)
    (returned : w.activated = some tokens.refresh) (trusted : usable tokens = true)
    (minted : ∀ access, tokens.access = .ok access → access ∈ w.minted)
    (current : ∀ x, expected = some x → x = g)
    (failed : faulty → ∀ e t, e.isTerminal = false → Q (.error e) t)
    (ok : ∀ signedIn t, signedIn.access ∈ t.2.minted → Q (.ok signedIn) t) :
    Ends faulty careful pending (activated pending expected tokens) Q s := by
  refine ends_bind (ends_expectGeneration here current ?_)
  obtain ⟨answer, refresh⟩ := tokens
  cases answer with
  | error e => cases trusted
  | ok access =>
    have safe := known.save returned
    refine ends_bind (ends_set here (known.storable _ returned) (World.held_or held _) ?_
      (fun t here => ?_) fun fault e t _ => failed fault _ t rfl)
    · refine Recoverable.safe ?_ held
      rw [← saved] at safe
      exact safe
    · exact ends_activeSaved here safe rfl held current (minted access rfl) failed ok

/-- What the backend served, it serves. -/
theorem Answered.serves {γ : Type} {serves : Except ApiError γ → Prop}
    {heard r : Except ApiError γ} {acted : Option (Except ApiError γ)}
    (answered : Answered faulty serves heard acted) (here : served heard acted = some r) :
    serves r := by
  rw [Answered] at answered
  rw [served] at here
  split at here
  next gone =>
    rw [if_pos gone] at answered
    exact answered.2 r here
  next came =>
    rw [if_neg came] at answered
    cases here
    exact answered

/-- An error is the backend's, or the answer is lost. -/
theorem Answered.error {γ : Type} {serves : Except ApiError γ → Prop} {e : ApiError}
    {acted : Option (Except ApiError γ)} (answered : Answered faulty serves (.error e) acted) :
    serves (.error e) ∨ faulty ∧ (AuthError.api e).isTerminal = false := by
  rw [Answered] at answered
  split at answered
  next gone => exact .inr ⟨answered.1, (Bool.not_eq_true' _).mp gone⟩
  next => exact .inl answered

theorem Safe.after_activate {redirected : Option String} {r : Reply (.activate pending redirected)}
    (known : Recoverable pending blob.activeRefresh blob.pendingActivation blob.pendingRefresh w)
    (held : w.held = true) (answer : Hears faulty pending w (.activate pending redirected) r) :
    Safe pending blob.slot (w.after (.activate pending redirected) r) := by
  obtain ⟨heard, acted⟩ := r
  rw [World.after]
  split
  next tokens here =>
    have serves := Answered.serves answer here
    exact (known.activate serves.2.1).safe (World.activate_held.trans held)
  next => exact known.safe held

theorem ends_activate {expected : Option Nat}
    {Q : Except AuthError SignedIn → State × World → Prop} (here : At blob g w s)
    (start : w.held = false ∨ blob.pendingActivation = some pending)
    (fits : Storable pending) (current : ∀ x, expected = some x → x = g)
    (failed : faulty → ∀ e t, e.isTerminal = false → Q (.error e) t)
    (ok : ∀ signedIn t, signedIn.access ∈ t.2.minted → Q (.ok signedIn) t) :
    Ends faulty careful pending (activate pending expected) Q s := by
  refine ends_good fun _ known => ?_
  have safe := here.safe known
  have saved : Recoverable pending blob.activeRefresh (some pending) blob.pendingRefresh
      { w with held := true } := by
    cases held : w.held with
    | false =>
      obtain ⟨none_, activated, current⟩ := safe.empty held
      have inactive : blob.activeRefresh = none := none_ .active
      have unprepared : blob.pendingRefresh = none := none_ .pendingRefresh
      rw [inactive, unprepared]
      exact Recoverable.hold fits activated current
    | true =>
      rcases start with before | already
      · exact absurd (held.symm.trans before) (by decide)
      · have same : { w with held := true } = w := congrArg (fun b => { w with held := b }) held.symm
        rw [same, ← already]
        exact safe.recoverable held
  refine ends_bind (ends_set (v := { w with held := true }) here fits ?_ (saved.safe rfl)
    (fun t here => ?_) fun fault e t _ => failed fault _ t rfl)
  · rw [show (blob.set .pendingActivation (some pending)).pendingActivation.isSome = true from rfl,
      Bool.or_true]
  refine ends_bind (ends_expectGeneration here current ?_)
  refine ends_bind (ends_get here (fun t here => ?_) fun fault e t _ => failed fault _ t rfl)
  refine ends_request here ?_ fun _ r answer => ⟨Safe.after_activate saved rfl answer, fun t here => ?_⟩
  · intro r s
    cases (r : Except ApiError Tokens) with
    | error e => exact ⟨rfl, rfl, rfl⟩
    | ok tokens =>
      simp only [effect]
      split <;> exact ⟨rfl, rfl, rfl⟩
  obtain ⟨heard, acted⟩ := r
  cases (heard : Except ApiError Tokens) with
  | error e =>
    rcases Answered.error answer with rejected | ⟨fault, mild⟩
    · exact absurd rfl rejected
    · exact ends_throw (failed fault _ t mild)
  | ok tokens =>
    have serves := Answered.serves (r := .ok tokens) answer rfl
    refine ends_activated here (saved.activate serves.2.1) rfl World.activate_held
      (World.activate_activated serves.2.1) serves.2.2 ?_ current failed ok
    exact fun access trusted => minted_of_activate trusted

/-- A prepared credential is deleted only once the pending one is. -/
theorem settled_of_care {after : CredentialBlob} {q : String}
    (care : careful ∨ blob.pendingActivation = none) (saved : blob.pendingRefresh = some q)
    (gone : after.pendingRefresh = none)
    (cautious : careful → blob.pendingActivation.isSome = true →
      blob.pendingRefresh.isSome = true → after.pendingRefresh.isSome = true) :
    blob.pendingActivation = none := by
  rcases care with given | none_
  · cases held : blob.pendingActivation with
    | none => rfl
    | some p =>
      have left := cautious given (by rw [held]; rfl) (by rw [saved]; rfl)
      rw [gone] at left
      cases left
  · exact none_

/-- The commit of a saved credential. -/
theorem ends_committed {c q : String} {Q : Except AuthError String → State × World → Prop}
    (here : At blob g w s) (active : blob.activeRefresh = some c)
    (saved : blob.pendingRefresh = some q) (held : w.held = true)
    (care : careful ∨ blob.pendingActivation = none)
    (failed : faulty → ∀ e t, e.isTerminal = false → Q (.error e) t)
    (ok : ∀ access t, access ∈ t.2.minted → Q (.ok access) t) :
    Ends faulty careful pending (committed c q) Q s := by
  refine ends_request here (fun _ _ => ⟨rfl, rfl, rfl⟩) fun safe r answer => ?_
  have known : Recoverable pending (some c) blob.pendingActivation (some q) w := by
    rw [← active, ← saved]
    exact safe.recoverable held
  obtain ⟨heard, acted⟩ := r
  refine ⟨?_, fun t here => ?_⟩
  · rw [World.after]
    split
    next tokens came =>
      have serves := Answered.serves answer came
      have next := known.commit serves.2.1
      rw [← active, ← saved] at next
      exact next.safe ((World.commit_held _ _).trans held)
    next => exact safe
  · cases (heard : Except ApiError Tokens) with
    | error e =>
      rcases Answered.error answer with rejected | ⟨fault, mild⟩
      · rcases known.committable q rfl with ⟨r, found, -⟩ | ⟨-, prepared⟩
        · cases rejected.2.symm.trans found
        · exact absurd prepared rejected.1
      · exact ends_throw (failed fault _ t mild)
    | ok tokens =>
      have serves := Answered.serves (r := .ok tokens) answer rfl
      obtain ⟨storable, current, -⟩ := World.commit_current (known.committable q rfl) serves.2.1
      have held' := (World.commit_held tokens q).trans held
      obtain ⟨token, refresh⟩ := tokens
      cases token with
      | error reason =>
        rcases serves.2.2 with trusted | fault
        · cases trusted
        · exact ends_throw (failed fault _ t rfl)
      | ok access =>
        have renewed := (known.commit serves.2.1).renew refresh
        refine ends_bind (ends_set here storable (World.held_or held' _) ?_ (fun t here => ?_)
          fun fault e t _ => failed fault _ t rfl)
        · rw [← saved] at renewed
          exact renewed.safe held'
        refine ends_bind (ends_delete here (fun cautious => ?_) (fun t here => ?_)
          fun fault e t _ => failed fault _ t rfl)
        · have settled : blob.pendingActivation = none :=
            settled_of_care care saved rfl cautious
          rw [settled] at renewed
          refine Recoverable.safe ?_ held'
          change Recoverable pending (some refresh) blob.pendingActivation none _
          rw [settled]
          exact renewed.finish current
        · refine ends_bind (ends_record (ends_pure (ok access _ ?_)))
          rw [here.world]
          exact minted_of_commit rfl

theorem ends_refresh {Q : Except AuthError String → State × World → Prop}
    (here : At blob g w s) (care : careful ∨ blob.pendingActivation = none)
    (absent : blob.activeRefresh = none → ∀ t, At blob g w t → Q (.error .noCredential) t)
    (failed : faulty → ∀ e t, e.isTerminal = false → Q (.error e) t)
    (ok : ∀ access t, access ∈ t.2.minted → Q (.ok access) t) :
    Ends faulty careful pending refresh Q s := by
  refine ends_bind (ends_get here (fun t here => ?_) fun fault e t _ => failed fault _ t rfl)
  cases active : blob.slot .active with
  | none => exact ends_throw (absent active t here)
  | some c =>
    refine ends_good fun _ known => ?_
    have held : w.held = true := by
      by_contra not
      have none_ := ((here.safe known).empty (Bool.not_eq_true _ ▸ not)).1 .active
      cases active.symm.trans none_
    refine ends_bind (ends_get here (fun t here => ?_) fun fault e t _ => failed fault _ t rfl)
    cases saved : blob.slot .pendingRefresh with
    | some q => exact ends_committed here active saved held care failed ok
    | none =>
      refine ends_request here (fun _ _ => ⟨rfl, rfl, rfl⟩) fun safe r answer => ?_
      have known : Recoverable pending (some c) blob.pendingActivation none w := by
        have whole := safe.recoverable held
        rw [active, saved] at whole
        exact whole
      obtain ⟨heard, acted⟩ := r
      refine ⟨?_, fun t here => ?_⟩
      · rw [World.after]
        split
        next value came =>
          have next := known.prepare value
          refine Recoverable.safe ?_ held
          rw [active, saved]
          exact next
        next => exact safe
      · cases (heard : Except ApiError String) with
        | error e =>
          rcases Answered.error answer with rejected | ⟨fault, mild⟩
          · exact absurd (known.accepted c rfl rfl) rejected
          · exact ends_throw (failed fault _ t mild)
        | ok value =>
          have serves := Answered.serves (r := .ok value) answer rfl
          have kept := (known.prepare value).keep (w.prepare_committable value)
          refine ends_bind (ends_set here serves.2 (World.held_or (w := w.prepare value) held _) ?_
            (fun t here => ?_) fun fault e t _ => failed fault _ t rfl)
          · rw [← active] at kept
            exact kept.safe held
          · exact ends_committed here active rfl held care failed ok

theorem ends_clear {Q : Except AuthError Unit → State × World → Prop} (here : At blob g w s)
    (safe : (careful → blob.pendingActivation.isSome = false) → Safe pending (fun _ => none) w)
    (ok : ∀ t, Q (.ok ()) t) (failed : faulty → ∀ e t, Q (.error (.store e)) t) :
    Ends faulty careful pending clear Q s := by
  refine ends_bind (ends_loaded here (fun b t _ here => ?_) fun fault e t _ => failed fault e t)
  refine ends_good fun coherent known => ends_ask fun r answer care => ?_
  obtain ⟨heard, acted⟩ := r
  cases (heard : Except StoreFailure Unit) with
  | error e => exact ⟨⟨coherent, known⟩, ends_throw (failed answer e _)⟩
  | ok =>
    have empty : (effect .clear (.ok ()) t.1).saved.slot = fun _ => none := by
      funext x
      cases x <;> rfl
    refine ⟨⟨?_, ?_⟩, ends_pure (ok _)⟩
    · rintro b ⟨⟩
      rfl
    · rw [show (effect .clear (.ok ()) t.1).saved.slot = _ from empty,
        show t.2.after .clear ⟨.ok (), acted⟩ = w from here.world]
      refine safe fun given => ?_
      have cautious := care given
      rw [← show t.1.saved.pendingActivation = blob.pendingActivation from
        congrFun here.slots .pendingActivation]
      exact cautious

/-- What a terminal rejection does, if there is one. -/
theorem ends_orClear {p : Action α} {R : Except AuthError α → State × World → Prop}
    (spec : Ends faulty careful pending p R s) (ok : ∀ a t, R (.ok a) t → Q (.ok a) t)
    (error : ∀ e t, R (.error e) t → (e.isTerminal = false ∧ Q (.error e) t) ∨
      (e.isTerminal = true ∧ Ends faulty careful pending clear
        (fun | .ok () => Q (.error e) | .error f => Q (.error f)) t)) :
    Ends faulty careful pending (orClear p) Q s := by
  refine wp_amid_bind (wp_mono spec fun result t post => ?_)
  cases result with
  | ok a => exact ends_pure (ok a t post)
  | error e =>
    rcases error e t post with ⟨mild, kept⟩ | ⟨terminal, cleared⟩
    · dsimp only
      rw [mild]
      exact ends_throw kept
    · dsimp only
      rw [terminal]
      refine wp_amid_bind (wp_mono cleared fun result u post => ?_)
      cases result with
      | ok => exact ends_throw post
      | error f => exact ends_throw post

/-- What gave an access token, or failed by a fault and may be tried again. -/
def Gave {α : Type} (faulty : Prop) (access : α → String) : Except AuthError α → State × World → Prop
  | .ok given, t => access given ∈ t.2.minted
  | .error e, _ => faulty ∧ e.isTerminal = false

theorem ends_restoreActive {Q : Except AuthError (Option SignedIn) → State × World → Prop}
    (here : At blob g w s) (settled : blob.pendingActivation = none)
    (failed : faulty → ∀ e t, Q (.error e) t)
    (ok : ∀ signedIn t, signedIn.access ∈ t.2.minted → Q (.ok (some signedIn)) t)
    (none_ : w.held = false → ∀ t, Q (.ok none) t) :
    Ends faulty careful pending restoreActive Q s := by
  refine ends_bind (ends_get here (fun t here => ?_) fun fault e t _ => failed fault _ t)
  cases active : blob.slot .active with
  | none =>
    refine ends_good fun _ known => ends_pure (none_ ?_ t)
    by_contra held
    have saved := ((here.safe known).recoverable (Bool.not_eq_false _ ▸ held)).first active
    cases settled.symm.trans saved.1
  | some credential =>
    refine ends_bind (ends_orClear
      (R := Gave faulty id)
      (ends_refresh here (.inr settled) ?_ ?_ ?_) ?_ ?_)
    · exact fun inactive => by cases active.symm.trans inactive
    · exact fun fault e t mild => ⟨fault, mild⟩
    · exact fun access t minted => minted
    · exact fun access t minted => ends_bind (ends_record (ends_pure (ok _ _ minted)))
    · exact fun e t post => .inl ⟨post.2, failed post.1 e t⟩

/-- A restore signs in, unless there is a fault or nothing has been saved. -/
theorem ends_restore {Q : Except AuthError (Option SignedIn) → State × World → Prop}
    (here : At blob g w s) (failed : faulty → ∀ e t, Q (.error e) t)
    (ok : ∀ signedIn t, signedIn.access ∈ t.2.minted → Q (.ok (some signedIn)) t)
    (none_ : w.held = false → ∀ t, Q (.ok none) t) :
    Ends faulty careful pending restore Q s := by
  refine ends_bind (ends_get here (fun t here => ?_) fun fault e t _ => failed fault _ t)
  cases saved : blob.slot .pendingActivation with
  | none => exact ends_restoreActive here saved failed ok none_
  | some p =>
    refine ends_good fun _ known => ?_
    have held : w.held = true := by
      by_contra not
      cases saved.symm.trans (((here.safe known).empty (Bool.not_eq_true _ ▸ not)).1 _)
    have recoverable := (here.safe known).recoverable held
    cases recoverable.pendingOnly p saved
    refine ends_bind (ends_get here (fun t here => ?_) fun fault e t _ => failed fault _ t)
    dsimp only [onOk]
    split
    next same =>
      refine ends_bind (ends_delete here (fun _ => ?_) (fun t here => ?_)
        fun fault e t _ => failed fault _ t)
      · rw [same] at recoverable
        have settled := recoverable.settle
        rw [← same] at settled
        exact settled.safe held
      · exact ends_restoreActive here rfl failed ok none_
    next =>
      refine ends_bind (ends_orClear
        (R := Gave faulty SignedIn.access)
        (ends_activate here (.inr saved) recoverable.fits (by simp) ?_ ?_) ?_ ?_)
      · exact fun fault e t mild => ⟨fault, mild⟩
      · exact fun signedIn t minted => minted
      · exact fun signedIn t minted => ends_bind (ends_record (ends_pure (ok _ _ minted)))
      · exact fun e t post => .inl ⟨post.2, failed post.1 e t⟩

/-! ## The login -/

theorem ends_start {Q : Except AuthError Nat → State × World → Prop} (here : At blob g w s)
    (ok : ∀ t, At blob (g + 1) w t → Q (.ok (g + 1)) t) (failed : ∀ e t, Q (.error e) t) :
    Ends faulty careful pending start Q s := by
  refine ends_bind (ends_step ⟨rfl, rfl⟩ ?_)
  have begun : At blob (g + 1) w
      ({ s.1 with generation := s.1.generation + 1, pending := none }, s.2) :=
    ⟨here.slots, congrArg (· + 1) here.generation, here.world⟩
  rw [here.generation] at begun ⊢
  refine ends_request begun (fun _ _ => ⟨rfl, rfl, rfl⟩) fun safe r _ => ⟨safe, fun t here => ?_⟩
  cases (r.heard : Except AuthError String) with
  | error e => exact ends_throw (failed e t)
  | ok deviceCode =>
    refine ends_bind (ends_step ?_ ?_)
    · split <;> exact ⟨rfl, rfl⟩
    · rw [if_pos here.generation]
      exact ends_pure (ok _ ⟨here.slots, here.generation, here.world⟩)

theorem ends_finish {generation : Nat} {Q : Except AuthError Unit → State × World → Prop}
    (here : At blob g w s) (post : ∀ t, At blob g w t → Q (.ok ()) t) :
    Ends faulty careful pending (finish generation) Q s := by
  refine ends_step (h := fun s : State =>
    ((), if s.generation = generation then { s with pending := none } else s)) ?_ ?_
  · dsimp only
    split <;> exact ⟨rfl, rfl⟩
  · apply post
    dsimp only
    split
    next => exact ⟨here.slots, here.generation, here.world⟩
    next => exact here

theorem ends_polled {generation : Nat} {response : Except ApiError DeviceToken}
    {Q : Except AuthError (Option String) → State × World → Prop} (here : At blob g w s)
    (told : ∀ r, response = .ok r → ∀ value, r.refreshToken = some value → value = pending)
    (ok : ∀ r t, At blob g w t → (∀ value, r = some value → value = pending) → Q (.ok r) t)
    (failed : ∀ e t, Q (.error e) t) :
    Ends faulty careful pending (polled generation response) Q s := by
  cases response with
  | error e =>
    rw [polled]
    split
    next => exact ends_pure (ok none s here (by simp))
    next => exact ends_bind (ends_finish here fun t here => ends_throw (failed _ t))
  | ok response =>
    rw [polled]
    split
    next => exact ends_pure (ok none s here (by simp))
    next =>
      refine ends_bind (ends_finish here fun t here => ?_)
      dsimp only [onOk]
      split
      next => exact ends_throw (failed _ t)
      next =>
        split
        next => exact ends_throw (failed _ t)
        next =>
          split
          next =>
            split
            next value known =>
              split
              next =>
                refine ends_pure (ok _ t here ?_)
                rintro v ⟨⟩
                exact told response rfl value known
              next => exact ends_throw (failed _ t)
            next => exact ends_throw (failed _ t)
          next => exact ends_throw (failed _ t)

theorem ends_pollUntilDone {generation rounds : Nat}
    {Q : Except AuthError (Option String) → State × World → Prop} (here : At blob g w s)
    (ok : ∀ r t, At blob g w t → (∀ value, r = some value → value = pending) → Q (.ok r) t)
    (failed : ∀ e t, Q (.error e) t) :
    Ends faulty careful pending (pollUntilDone generation rounds) Q s := by
  induction rounds generalizing s with
  | zero => exact ends_pure (ok none s here (by simp))
  | succ rounds ih =>
    apply ends_read
    split
    next => exact ends_throw (failed _ s)
    next =>
      split
      next => exact ends_throw (failed _ s)
      next =>
        refine ends_request here (fun _ _ => ⟨rfl, rfl, rfl⟩) fun safe r _ =>
          ⟨safe, fun t here => ?_⟩
        refine ends_bind (ends_step ⟨rfl, rfl⟩ ?_)
        dsimp only [onOk]
        split
        next => exact ends_throw (failed _ _)
        next =>
          split
          next => exact ends_bind (ends_finish here fun t here => ends_throw (failed _ t))
          next =>
            refine ends_request here (fun _ _ => ⟨rfl, rfl, rfl⟩) fun safe r told =>
              ⟨safe, fun t here => ?_⟩
            refine ends_bind (ends_step ⟨rfl, rfl⟩ ?_)
            dsimp only [onOk]
            split
            next => exact ends_throw (failed _ _)
            next =>
              refine ends_bind (ends_polled here ?_ (fun decided t here known => ?_) failed)
              · obtain ⟨heard, acted⟩ := r
                rintro response rfl
                exact told
              · cases decided with
                | none => exact ih here
                | some credential => exact ends_pure (ok _ t here known)

theorem At.self (s : State × World) : At s.1.saved s.1.generation s.2 s := ⟨rfl, rfl, rfl⟩

/-- The activation of a login whose generation is the current one. -/
theorem loggedIn_ends (here : At blob g w s) (fresh : w.held = false) :
    wp (rotation True careful pending) ((loggedIn g pending).amid hear) (fun _ _ => True) s := by
  refine wp_request here (fun _ _ => ⟨rfl, rfl, rfl⟩) fun safe r _ => ⟨safe, fun t here => ?_⟩
  have returned : ∀ e t, wp (rotation True careful pending)
      ((Prog.ask (Call.returned g pending (.error e)) : Task Unit).amid hear) (fun _ _ => True) t :=
    fun e t => wp_request (At.self t) (fun _ _ => ⟨rfl, rfl, rfl⟩) fun safe r _ =>
      ⟨safe, fun _ _ _ _ _ => trivial⟩
  change wp _ (((activate pending (some g)).run.bind _).amid hear) _ t
  apply wp_amid_bind
  by_cases fits : Storable pending
  · refine ends_activate here (.inl fresh) fits ?_ ?_ ?_
    · rintro x ⟨⟩
      rfl
    · exact fun _ e t _ => returned e t
    · exact fun _ _ _ _ _ _ => trivial
  · apply ends_bind
    rw [set, if_pos (Nat.lt_of_not_le fits)]
    exact ends_throw (returned _ t)

theorem login_ends (rounds : Nat) (here : At blob g w s) (fresh : w.held = false) :
    wp (rotation True careful pending) ((login rounds).amid hear) (fun _ _ => True) s := by
  refine wp_amid_bind (ends_start here (fun t here => ?_) fun e t => ?_)
  · refine wp_amid_bind (ends_pollUntilDone here (fun decided t here known => ?_) fun e t => ?_)
    · cases decided with
      | none => exact fun _ _ _ => trivial
      | some credential =>
        cases known credential rfl
        exact wp_amid_withLock trivial (loggedIn_ends here fresh)
    · exact fun _ _ _ => trivial
  · exact fun _ _ _ => trivial

end

/-! ## Runs -/

/-- What follows a sign-in. -/
inductive FollowUp where
  | refresh | refreshOrClear | restore
  deriving DecidableEq, Repr

def FollowUp.op : FollowUp → Op
  | .refresh => .refresh
  | .refreshOrClear => .refreshOrClear
  | .restore => .restore

/-- One operation after another. -/
def followUps (ops : List FollowUp) : Task Unit := Prog.forEach ops fun op => op.op.task

/-- Where a run may stand: one sign-in, then refreshes and restores; a process
may end at any step and another one follow. -/
inductive Turns (careful : Prop) (pending : String) :
    Prog (State × World) Place Reply Unit → State × World → Prop
  | first (rounds : Nat) (ops : List FollowUp) :
      Turns careful pending (((login rounds).bind fun _ => followUps ops).amid hear) ({}, {})
  | steps {p q : Prog (State × World) Place Reply Unit} {s t : State × World}
      (before : Turns careful pending p s) (onward : Steps (rotation True careful pending) p s q t) :
      Turns careful pending q t
  | restart {p : Prog (State × World) Place Reply Unit} {s : State × World}
      (before : Turns careful pending p s) (ops : List FollowUp) :
      Turns careful pending ((followUps ops).amid hear) (s.1.reborn, s.2)

section

variable {careful : Prop} {pending : String}

/-- Nothing is cleared that was ever saved. -/
theorem Safe.cleared {slots : Slot → Option String} {w : World} (safe : Safe pending slots w)
    (inactive : slots .active = none) (settled : (slots .pendingActivation).isSome = false) :
    Safe pending (fun _ => none) w := by
  cases held : w.held with
  | true =>
    rw [((safe.recoverable held).first inactive).1] at settled
    cases settled
  | false =>
    rw [Safe, held]
    exact ⟨fun _ => rfl, (safe.empty held).2⟩

/-- A careful run: every operation keeps the login recoverable. -/
theorem followUp_ends (op : FollowUp) (s : State × World) :
    wp (rotation True True pending) (op.op.task.amid hear) (fun _ _ => True) s := by
  cases op with
  | refresh =>
    refine wp_amid_withLock trivial (wp_amid_bind (ends_refresh (At.self s) (.inl trivial) ?_ ?_ ?_))
    · exact fun _ _ _ _ _ _ => trivial
    · exact fun _ _ _ _ _ _ _ => trivial
    · exact fun _ _ _ _ _ _ => trivial
  | refreshOrClear =>
    refine wp_amid_withLock trivial (wp_amid_bind (ends_orClear
      (R := fun r t => ∀ e, r = .error e → e.isTerminal = false ∨ t.1.saved.activeRefresh = none)
      (ends_refresh (At.self s) (.inl trivial) ?_ ?_ ?_) ?_ ?_))
    · intro absent t here e _
      exact .inr ((congrFun here.slots .active).trans absent)
    · rintro _ e t mild _ ⟨⟩
      exact .inl mild
    · exact fun _ _ _ _ other => by cases other
    · exact fun _ _ _ _ _ _ => trivial
    · intro e t known
      rcases terminal : e.isTerminal with _ | _
      · exact .inl ⟨rfl, fun _ _ _ => trivial⟩
      · have absent := (known e rfl).resolve_left (by rw [terminal]; decide)
        refine .inr ⟨rfl, ends_good fun _ safe => ends_clear (At.self t) ?_ ?_ ?_⟩
        · exact fun cautious => safe.cleared absent (cautious trivial)
        · exact fun _ _ _ _ => trivial
        · exact fun _ _ _ _ _ _ => trivial
  | restore =>
    refine wp_amid_withLock trivial (wp_amid_bind (ends_restore (At.self s) ?_ ?_ ?_))
    · exact fun _ _ _ _ _ _ => trivial
    · exact fun _ _ _ _ _ _ => trivial
    · exact fun _ _ _ _ _ => trivial

theorem turns_good {p : Prog (State × World) Place Reply Unit} {s : State × World}
    (turns : Turns True pending p s) : (rotation True True pending).good s ∧
      wp (rotation True True pending) p (fun _ _ => True) s := by
  have follow (ops : List FollowUp) (s : State × World) :
      wp (rotation True True pending) ((followUps ops).amid hear) (fun _ _ => True) s :=
    wp_amid_forEach (fun op _ s => followUp_ends op s) s
  induction turns with
  | first rounds ops =>
    refine ⟨⟨nofun, ?_⟩, wp_amid_bind (wp_mono (login_ends rounds (At.self _) rfl) ?_)⟩
    · exact ⟨fun slot => by cases slot <;> rfl, rfl, rfl⟩
    · exact fun _ t _ => follow ops t
  | steps _ onward ih =>
    refine wp_steps onward ih.2 ih.1 ?_
    rintro t _ rfl good
    exact good
  | restart _ ops ih => exact ⟨⟨nofun, ih.1.2⟩, follow ops _⟩

/-- Where a careful run stands once the pending credential has been saved, the
restore of a new process signs in with an access token of the session, when the
store and the backend answer. -/
theorem login_kept {p : Prog (State × World) Place Reply Unit} {s : State × World}
    (turns : Turns True pending p s) (held : s.2.held = true)
    {oracle : State × World → (c : Call) → Reply c}
    (works : ∀ s c, Hears False pending s.2 c (oracle s c)) :
    ∃ signedIn, ((restore.run.amid hear).answerBy (rotation False False pending).effect oracle
        (s.1.reborn, s.2)).1 = .ok (some signedIn) ∧
      signedIn.access ∈ ((restore.run.amid hear).answerBy (rotation False False pending).effect
        oracle (s.1.reborn, s.2)).2.2.minted := by
  have spec : Ends False False pending restore (fun r t => ∃ signedIn, r = .ok (some signedIn) ∧
      signedIn.access ∈ t.2.minted) (s.1.reborn, s.2) := by
    refine ends_restore (At.self _) False.elim ?_ ?_
    · exact fun signedIn t minted => ⟨signedIn, rfl, minted⟩
    · exact fun fresh => by cases held.symm.trans fresh
  exact wp_answerBy spec ⟨nofun, (turns_good turns).1.2⟩ fun s c => ⟨works s c, False.elim⟩

end

/-! ## Runs that can be executed -/

instance Repeats.decidable : (before : Option String) → (now : String) → Decidable (Repeats before now)
  | some credential, now => decEq now credential
  | none, now => inferInstanceAs (Decidable (Storable now))

instance Answered.decidable {α : Type} {faulty : Prop} [Decidable faulty]
    {serves : Except ApiError α → Prop} [∀ r, Decidable (serves r)] (heard : Except ApiError α)
    (acted : Option (Except ApiError α)) : Decidable (Answered faulty serves heard acted) :=
  haveI : Decidable (∀ r, acted = some r → serves r) := match acted with
    | none => isTrue nofun
    | some r => decidable_of_iff (serves r) ⟨fun here _ eq => Option.some.inj eq ▸ here,
        fun all => all r rfl⟩
  inferInstanceAs (Decidable (if lost heard then faulty ∧ ∀ r, acted = some r → serves r
    else serves heard))

instance ServesActivate.decidable {pending : String} {w : World} {asked : String} :
    (r : Except ApiError Tokens) → Decidable (ServesActivate pending w asked r)
  | .ok _ => instDecidableAnd
  | .error _ => instDecidableNot

instance ServesRefresh.decidable {w : World} {asked : String} :
    (r : Except ApiError String) → Decidable (ServesRefresh w asked r)
  | .ok _ => instDecidableAnd
  | .error _ => instDecidableNot

instance ServesCommit.decidable {faulty : Prop} [Decidable faulty] {w : World} {asked : String} :
    (r : Except ApiError Tokens) → Decidable (ServesCommit faulty w asked r)
  | .ok _ => instDecidableAnd
  | .error _ => instDecidableAnd

instance Hears.decidable {faulty : Prop} [known : Decidable faulty] {pending : String} {w : World} :
    (c : Call) → (r : Reply c) → Decidable (Hears faulty pending w c r)
  | .load, ⟨heard, _⟩ | .persist _, ⟨heard, _⟩ | .clear, ⟨heard, _⟩ =>
    match (heard : Except StoreFailure Unit) with
    | .ok () => isTrue trivial
    | .error _ => known
  | .deviceToken _, ⟨heard, _⟩ => match (heard : Except ApiError DeviceToken) with
    | .ok ⟨_, none⟩ => isTrue fun _ here => by cases here
    | .ok ⟨_, some value⟩ => decidable_of_iff (value = pending)
        ⟨fun same _ here => Option.some.inj here ▸ same, fun same => same value rfl⟩
    | .error _ => isTrue trivial
  | .activate _ _, ⟨heard, acted⟩ => Answered.decidable heard acted
  | .account _ _, ⟨heard, _⟩ => match (heard : Except ApiError String) with
    | .ok _ => isTrue trivial
    | .error _ => instDecidableAnd
  | .refresh _, ⟨heard, acted⟩ => Answered.decidable heard acted
  | .commit _, ⟨heard, acted⟩ => Answered.decidable heard acted
  | .deviceCode, _ | .wait, _ | .revoke _, _ | .begin _, _ | .returned _ _ _, _ => isTrue trivial

instance Careful.decidable {s : State} : (c : Call) → (r : Reply c) → Decidable (Careful s c r)
  | .persist next, ⟨heard, _⟩ => match (heard : Except StoreFailure Unit) with
    | .ok () => inferInstanceAs (Decidable (s.saved.pendingActivation.isSome = true →
        s.saved.pendingRefresh.isSome = true → next.pendingRefresh.isSome = true))
    | .error _ => isTrue trivial
  | .clear, ⟨heard, _⟩ => match (heard : Except StoreFailure Unit) with
    | .ok () => inferInstanceAs (Decidable (s.saved.pendingActivation.isSome = false))
    | .error _ => isTrue trivial
  | .load, _ | .deviceCode, _ | .wait, _ | .deviceToken _, _ | .activate _ _, _ | .revoke _, _
  | .account _ _, _ | .refresh _, _ | .commit _, _ | .begin _, _ | .returned _ _ _, _ => isTrue trivial

instance rotation.decidable {faulty careful : Prop} [Decidable faulty] [Decidable careful]
    {pending : String} (c : Call) (r : Reply c) (s : State × World) :
    Decidable ((rotation faulty careful pending).answers c r s) :=
  inferInstanceAs (Decidable (Hears faulty pending s.2 c r ∧ (careful → Careful s.1 c r)))

/-- How a backend that works answers. -/
def answerActivate (pending : String) (w : World) (asked : String) : Except ApiError Tokens :=
  if asked = pending then .ok ⟨.ok "access", w.activated.getD "first"⟩
  else .error (.status 401 none)

def answerRefresh (w : World) (asked : String) : Except ApiError String :=
  if w.current = some asked then .ok "prepared" else .error (.status 401 none)

def answerCommit (w : World) (asked : String) : Except ApiError Tokens :=
  match w.committed.lookup asked with
  | some refresh => .ok ⟨.ok "access", refresh⟩
  | none =>
    if asked ∈ w.prepared then .ok ⟨.ok "access", "renewed"⟩ else .error (.status 401 none)

/-- A store and a backend that work. -/
def works (pending : String) (s : State × World) : (c : Call) → Reply c
  | .load | .persist _ | .clear => ⟨(.ok () : Except StoreFailure Unit), none⟩
  | .deviceCode => ⟨(.ok "code" : Except AuthError String), none⟩
  | .wait => ⟨(false : Bool), none⟩
  | .deviceToken _ => ⟨(.ok ⟨"authorized", some pending⟩ : Except ApiError DeviceToken), none⟩
  | .activate asked _ => ⟨answerActivate pending s.2 asked, none⟩
  | .revoke _ => ⟨(.ok () : Except ApiError Unit), none⟩
  | .account _ _ => ⟨(.ok "account" : Except ApiError String), none⟩
  | .refresh asked => ⟨answerRefresh s.2 asked, none⟩
  | .commit asked => ⟨answerCommit s.2 asked, none⟩
  | .begin _ | .returned _ _ _ => ⟨(), none⟩

section

variable {γ : Type} {faulty : Prop} {serves : Except ApiError γ → Prop}
  {acted : Option (Except ApiError γ)}

theorem Answered.of_ok {a : γ} (here : serves (.ok a)) : Answered faulty serves (.ok a) acted := here

theorem Answered.of_terminal {e : ApiError} (terminal : e.isTerminalCredential = true)
    (here : serves (.error e)) : Answered faulty serves (.error e) acted := by
  rw [Answered, lost, terminal]
  exact here

end

theorem works_hears (pending : String) (s : State × World) (c : Call) :
    Hears False pending s.2 c (works pending s c) := by
  cases c with
  | load => trivial
  | persist next => trivial
  | clear => trivial
  | deviceCode => trivial
  | wait => trivial
  | deviceToken code =>
    rintro value ⟨⟩
    rfl
  | activate asked replaced =>
    change Answered False _ (answerActivate pending s.2 asked) none
    rw [answerActivate]
    split
    next same =>
      refine Answered.of_ok ⟨same, ?_, rfl⟩
      cases s.2.activated with
      | none => exact Nat.le_of_ble_eq_true rfl
      | some refresh => rfl
    next other => exact Answered.of_terminal rfl other
  | revoke refresh => trivial
  | account access pending => trivial
  | refresh asked =>
    change Answered False _ (answerRefresh s.2 asked) none
    rw [answerRefresh]
    split
    next current => exact Answered.of_ok ⟨current, Nat.le_of_ble_eq_true rfl⟩
    next other => exact Answered.of_terminal rfl other
  | commit asked =>
    change Answered False _ (answerCommit s.2 asked) none
    rw [answerCommit]
    split
    next refresh found =>
      refine Answered.of_ok ⟨.inr (by rw [found]; rfl), ?_, .inl rfl⟩
      rw [found]
      rfl
    next absent =>
      split
      next prepared =>
        refine Answered.of_ok ⟨.inl prepared, ?_, .inl rfl⟩
        rw [absent]
        exact Nat.le_of_ble_eq_true rfl
      next unprepared => exact Answered.of_terminal rfl ⟨unprepared, absent⟩
  | begin pending => trivial
  | returned generation pending result => trivial

/-- The commit is made and its answer lost. -/
def commitUnheard (s : State × World) : (c : Call) → Reply c
  | .commit asked =>
    ⟨(.error (.transport "timeout") : Except ApiError Tokens), some (works credentialA s (.commit asked)).heard⟩
  | c => works credentialA s c

/-- The store fails. -/
def unstored (s : State × World) : (c : Call) → Reply c
  | .persist _ => ⟨(.error ⟨false, "disk full"⟩ : Except StoreFailure Unit), none⟩
  | c => works credentialA s c

/-- A login and what follows it. -/
def signIn (ops : List FollowUp) : Prog (State × World) Place Reply Unit :=
  ((login 1).bind fun _ => followUps ops).amid hear

/-- A login, then a refresh whose commit is not heard; then the process ends. -/
def unheardRun : Prog (State × World) Place Reply Unit × (State × World) :=
  (signIn [.refresh]).follow (rotation True True credentialA).effect
    (rotation True True credentialA).answers
    (List.replicate 12 (works credentialA) ++ [commitUnheard]) ({}, {})

theorem login_kept_unheard : unheardRun.2.1.saved.activeRefresh = some "first" ∧
    unheardRun.2.2.current = some "renewed" ∧
    ∃ signedIn, ((restore.run.amid hear).answerBy (rotation False False credentialA).effect
        (works credentialA) (unheardRun.2.1.reborn, unheardRun.2.2)).1 = .ok (some signedIn) ∧
      signedIn.access ∈ ((restore.run.amid hear).answerBy (rotation False False credentialA).effect
        (works credentialA) (unheardRun.2.1.reborn, unheardRun.2.2)).2.2.minted := by
  have turns : Turns True credentialA unheardRun.1 unheardRun.2 :=
    (Turns.first 1 [.refresh]).steps (Steps.of_follow _ _ _)
  refine ⟨by decide +kernel, by decide +kernel, ?_⟩
  exact login_kept turns (by decide +kernel) (works_hears credentialA)

/-- The login's last delete fails; a refresh; a restore. -/
def rotatedRun : Prog (State × World) Place Reply Unit × (State × World) :=
  (signIn [.refresh, .restore]).follow (rotation True False credentialA).effect
    (rotation True False credentialA).answers
    (List.replicate 8 (works credentialA) ++ [unstored] ++ List.replicate 11 (works credentialA))
    ({}, {})

/-- The restore has put the credential of the activation back, which is accepted
no more: the next one is rejected, and clears what is stored. -/
theorem login_lost : Turns False credentialA rotatedRun.1 rotatedRun.2 ∧
    rotatedRun.2.2.held = true ∧
    Outcome.restored credentialA ∈ rotatedRun.2.1.outcomes ∧
    rotatedRun.2.1.saved.activeRefresh = some "first" ∧
    rotatedRun.2.2.current = some "renewed" ∧
    (∀ s c, Hears False credentialA s.2 c (works credentialA s c)) ∧
    ((restore.run.amid hear).answerBy (rotation False False credentialA).effect
      (works credentialA) (rotatedRun.2.1.reborn, rotatedRun.2.2)).1 =
        .error (.api (.status 401 none)) ∧
    ((restore.run.amid hear).answerBy (rotation False False credentialA).effect
      (works credentialA) (rotatedRun.2.1.reborn, rotatedRun.2.2)).2.1.saved.isEmpty = true := by
  refine ⟨(Turns.first 1 [.refresh, .restore]).steps (Steps.of_follow _ _ _), ?_, ?_, ?_, ?_,
    works_hears credentialA, ?_, ?_⟩
  · decide +kernel
  · decide +kernel
  · decide +kernel
  · decide +kernel
  · decide +kernel
  · decide +kernel

end PpvpnCore.Account
