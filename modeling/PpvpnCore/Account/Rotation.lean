import PpvpnCore.Account.Saved
import PpvpnCore.Lib.Amid
import Mathlib.Logic.Function.Basic

/-!
The session of a login, as the backend knows it, and what is stored of it.

The backend activates the pending credential and commits a prepared one as often
as it is asked, with the same result, and accepts a credential for refresh until
one prepared from it has been committed. A store call may fail, an answer may be
lost after the backend has acted, and a process may end at any step.

* `World`: the backend's side of the session; `Hears`: the answers.
* `Careful`: no refresh is finished, and nothing is cleared, while the pending
  credential is still saved.
* `Recoverable`: what the slots and the backend know of each other; one lemma
  for each way a slot or the backend changes.
-/

namespace PpvpnCore.Account

open Lib

/-! ## The backend -/

structure World where
  /-- What the activation of the pending credential returned. -/
  activated : Option String := none
  /-- The credential that is accepted for refresh. -/
  current : Option String := none
  /-- Prepared from it, and not committed. -/
  prepared : List String := []
  /-- Committed, with what the commit returned. -/
  committed : List (String × String) := []
  /-- The access tokens issued for the session. -/
  minted : List String := []
  /-- Whether the pending credential has been saved. -/
  held : Bool := false
  deriving DecidableEq

namespace World

def mint (w : World) (tokens : Tokens) : World :=
  match tokens.access with
  | .ok access => { w with minted := access :: w.minted }
  | .error _ => w

def activate (w : World) (tokens : Tokens) : World :=
  match w.activated with
  | some _ => w.mint tokens
  | none =>
    { w with
      activated := some tokens.refresh
      current := some tokens.refresh
      prepared := [] }.mint tokens

def prepare (w : World) (value : String) : World :=
  { w with
    prepared := value :: w.prepared
    committed := w.committed.filter (·.1 ≠ value) }

def commit (w : World) (prepared : String) (tokens : Tokens) : World :=
  match w.committed.lookup prepared with
  | some _ => w.mint tokens
  | none =>
    { w with
      current := some tokens.refresh
      prepared := []
      committed := (prepared, tokens.refresh) :: w.committed }.mint tokens

end World

/-- What the client hears, and what the backend has done if the answer is lost. -/
structure Reply (c : Call) where
  heard : Answer c
  acted : Option (Answer c) := none

def hear (c : Call) (r : Reply c) : Answer c := r.heard

/-- An answer that says nothing about what the backend did. -/
def lost {α : Type} : Except ApiError α → Bool
  | .error e => !e.isTerminalCredential
  | .ok _ => false

/-- What the backend answered, if the request came through. -/
def served {α : Type} (heard : Except ApiError α) (acted : Option (Except ApiError α)) :
    Option (Except ApiError α) :=
  if lost heard then acted else some heard

def World.after (w : World) : (c : Call) → Reply c → World
  | .persist next, r => match (r.heard : Except StoreFailure Unit) with
    | .ok () => { w with held := w.held || next.pendingActivation.isSome }
    | .error _ => w
  | .activate _ _, ⟨heard, acted⟩ =>
    match served (α := Tokens) heard acted with
    | some (.ok tokens) => w.activate tokens
    | _ => w
  | .refresh _, ⟨heard, acted⟩ =>
    match served (α := String) heard acted with
    | some (.ok value) => w.prepare value
    | _ => w
  | .commit prepared, ⟨heard, acted⟩ =>
    match served (α := Tokens) heard acted with
    | some (.ok tokens) => w.commit prepared tokens
    | _ => w
  | _, _ => w

/-- The store takes it. -/
def Storable (credential : String) : Prop := credential.utf8ByteSize ≤ maxRefreshTokenLen

instance (credential : String) : Decidable (Storable credential) :=
  inferInstanceAs (Decidable (_ ≤ _))

/-- The credential is returned already, or it is a new one. -/
def Repeats (before : Option String) (now : String) : Prop :=
  match before with
  | some credential => now = credential
  | none => Storable now

def usable (tokens : Tokens) : Bool := tokens.access.isOk

/-- How the backend answers an activation. -/
def ServesActivate (pending : String) (w : World) (asked : String) : Except ApiError Tokens → Prop
  | .ok tokens => asked = pending ∧ Repeats w.activated tokens.refresh ∧ usable tokens = true
  | .error _ => asked ≠ pending

def ServesRefresh (w : World) (asked : String) : Except ApiError String → Prop
  | .ok value => w.current = some asked ∧ Storable value
  | .error _ => w.current ≠ some asked

/-- A faulty backend may send an access token that is not trusted. -/
def ServesCommit (faulty : Prop) (w : World) (asked : String) : Except ApiError Tokens → Prop
  | .ok tokens => (asked ∈ w.prepared ∨ (w.committed.lookup asked).isSome = true) ∧
      Repeats (w.committed.lookup asked) tokens.refresh ∧ (usable tokens = true ∨ faulty)
  | .error _ => asked ∉ w.prepared ∧ w.committed.lookup asked = none

/-- The answer is the backend's, or it is lost. -/
def Answered {α : Type} (faulty : Prop) (serves : Except ApiError α → Prop)
    (heard : Except ApiError α) (acted : Option (Except ApiError α)) : Prop :=
  if lost heard then faulty ∧ ∀ r, acted = some r → serves r else serves heard

/-- The answers of a run: with faults or without. -/
def Hears (faulty : Prop) (pending : String) (w : World) : (c : Call) → Reply c → Prop
  | .load, r | .persist _, r | .clear, r => match (r.heard : Except StoreFailure Unit) with
    | .ok () => True
    | .error _ => faulty
  | .deviceToken _, r => match (r.heard : Except ApiError DeviceToken) with
    | .ok response => ∀ value, response.refreshToken = some value → value = pending
    | .error _ => True
  | .activate asked _, ⟨heard, acted⟩ =>
    Answered (α := Tokens) faulty (ServesActivate pending w asked) heard acted
  | .account _ _, r => match (r.heard : Except ApiError String) with
    | .ok _ => True
    | .error e => faulty ∧ e.isTerminalCredential = false
  | .refresh asked, ⟨heard, acted⟩ =>
    Answered (α := String) faulty (ServesRefresh w asked) heard acted
  | .commit asked, ⟨heard, acted⟩ =>
    Answered (α := Tokens) faulty (ServesCommit faulty w asked) heard acted
  | _, _ => True

/-- While the pending credential is saved, no prepared credential is deleted and
nothing is cleared. -/
def Careful (s : State) : (c : Call) → Reply c → Prop
  | .persist next, r => match (r.heard : Except StoreFailure Unit) with
    | .ok () => s.saved.pendingActivation.isSome = true → s.saved.pendingRefresh.isSome = true →
        next.pendingRefresh.isSome = true
    | .error _ => True
  | .clear, r => match (r.heard : Except StoreFailure Unit) with
    | .ok () => s.saved.pendingActivation.isSome = false
    | .error _ => True
  | _, _ => True

/-! ## What is stored of the session -/

/-- The commit of `q` can be asked for. -/
def World.Committable (w : World) (q : String) : Prop :=
  (∃ r, w.committed.lookup q = some r ∧ w.current = some r ∧ Storable r) ∨
  (w.committed.lookup q = none ∧ q ∈ w.prepared)

/-- What the slots (active, pending activation, pending refresh) and the backend
know of each other, once the pending credential has been saved. -/
structure Recoverable (pending : String) (active held refresh : Option String) (w : World) :
    Prop where
  fits : Storable pending
  pendingOnly : ∀ p, held = some p → p = pending
  /-- Before the activation is saved, the pending credential is. -/
  first : active = none → held = some pending ∧ refresh = none
  activated : active ≠ none → w.activated ≠ none
  storable : ∀ r, w.activated = some r → Storable r
  /-- With no refresh under way the active credential is accepted. -/
  accepted : ∀ c, active = some c → refresh = none → w.current = some c
  /-- While the pending credential is saved, no refresh has been finished. -/
  unrotated : held ≠ none → refresh = none → w.current = w.activated
  committable : ∀ q, refresh = some q → w.Committable q

/-- Nothing is stored and nothing is known yet, or the login can be resumed. -/
def Safe (pending : String) (slots : Slot → Option String) (w : World) : Prop :=
  if w.held then
    Recoverable pending (slots .active) (slots .pendingActivation) (slots .pendingRefresh) w
  else (∀ slot, slots slot = none) ∧ w.activated = none ∧ w.current = none

section

variable {pending value : String} {active held refresh : Option String} {w : World} {tokens : Tokens}

theorem CredentialBlob.set_update (blob : CredentialBlob) (slot : Slot) (value : Option String) :
    (blob.set slot value).slot = Function.update blob.slot slot value := by
  funext x
  cases slot <;> cases x <;> rfl

theorem Safe.recoverable {slots : Slot → Option String} (safe : Safe pending slots w)
    (held : w.held = true) :
    Recoverable pending (slots .active) (slots .pendingActivation) (slots .pendingRefresh) w := by
  rw [Safe, if_pos held] at safe
  exact safe

theorem Recoverable.safe {slots : Slot → Option String}
    (here : Recoverable pending (slots .active) (slots .pendingActivation) (slots .pendingRefresh) w)
    (held : w.held = true) : Safe pending slots w := by
  rw [Safe, if_pos held]
  exact here

theorem Safe.empty {slots : Slot → Option String} (safe : Safe pending slots w)
    (held : w.held = false) :
    (∀ slot, slots slot = none) ∧ w.activated = none ∧ w.current = none := by
  rw [Safe, held] at safe
  exact safe

/-- Minting says nothing about the credentials. -/
theorem Recoverable.mint (here : Recoverable pending active held refresh w) :
    Recoverable pending active held refresh (w.mint tokens) := by
  rw [World.mint]
  split
  next =>
    exact ⟨here.fits, here.pendingOnly, here.first, here.activated, here.storable, here.accepted,
      here.unrotated, here.committable⟩
  next => exact here

/-- The pending credential is saved for the first time. -/
theorem Recoverable.hold (fits : Storable pending) (activated : w.activated = none)
    (current : w.current = none) :
    Recoverable pending none (some pending) none { w with held := true } where
  fits := fits
  pendingOnly _ here := (Option.some.inj here).symm
  first _ := ⟨rfl, rfl⟩
  activated some_ := absurd rfl some_
  storable _ here := by cases activated.symm.trans here
  accepted _ here := by cases here
  unrotated _ _ := current.trans activated.symm
  committable _ here := by cases here

/-- The backend activates the pending credential. -/
theorem Recoverable.activate (here : Recoverable pending active held refresh w)
    (repeats : Repeats w.activated tokens.refresh) :
    Recoverable pending active held refresh (w.activate tokens) := by
  rw [World.activate]
  split
  next => exact here.mint
  next none_ =>
    have inactive : active = none := by
      by_contra some_
      exact here.activated some_ none_
    subst inactive
    obtain ⟨rfl, rfl⟩ := here.first rfl
    rw [none_] at repeats
    apply Recoverable.mint
    constructor
    · exact here.fits
    · exact here.pendingOnly
    · exact here.first
    · exact fun some_ => absurd rfl some_
    · rintro r ⟨⟩
      exact repeats
    · exact fun c saved => by cases saved
    · exact fun _ _ => rfl
    · exact fun q saved => by cases saved

theorem World.activate_activated (repeats : Repeats w.activated tokens.refresh) :
    (w.activate tokens).activated = some tokens.refresh := by
  rw [World.activate]
  split
  next r known =>
    rw [known] at repeats
    cases repeats
    rw [World.mint]
    split <;> exact known
  next =>
    rw [World.mint]
    split <;> rfl

/-- What the activation returned is saved. -/
theorem Recoverable.save (here : Recoverable pending active (some pending) refresh w)
    (activated : w.activated = some value) :
    Recoverable pending (some value) (some pending) refresh w where
  fits := here.fits
  pendingOnly := here.pendingOnly
  first none_ := by cases none_
  activated _ none_ := by cases activated.symm.trans none_
  storable := here.storable
  accepted c saved none_ := by
    cases saved
    exact (here.unrotated (by simp) none_).trans activated
  unrotated := here.unrotated
  committable := here.committable

/-- The pending credential is deleted. -/
theorem Recoverable.settle (here : Recoverable pending (some value) held refresh w) :
    Recoverable pending (some value) none refresh w where
  fits := here.fits
  pendingOnly _ saved := by cases saved
  first none_ := by cases none_
  activated := here.activated
  storable := here.storable
  accepted := here.accepted
  unrotated some_ := absurd rfl some_
  committable := here.committable

/-- The backend prepares a refresh. -/
theorem Recoverable.prepare (here : Recoverable pending active held none w) (value : String) :
    Recoverable pending active held none (w.prepare value) where
  fits := here.fits
  pendingOnly := here.pendingOnly
  first := here.first
  activated := here.activated
  storable := here.storable
  accepted := here.accepted
  unrotated := here.unrotated
  committable _ saved := by cases saved

theorem World.prepare_committable (w : World) (value : String) :
    (w.prepare value).Committable value := by
  refine .inr ⟨?_, List.mem_cons_self⟩
  simp only [World.prepare, List.lookup_eq_none_iff, List.mem_filter, ne_eq, decide_not,
    Bool.not_eq_eq_eq_not, Bool.not_true, decide_eq_false_iff_not, bne_iff_ne]
  rintro pair ⟨-, other⟩
  exact Ne.symm other

/-- The prepared credential is saved. -/
theorem Recoverable.keep {c q : String} (here : Recoverable pending (some c) held refresh w)
    (committable : w.Committable q) : Recoverable pending (some c) held (some q) w where
  fits := here.fits
  pendingOnly := here.pendingOnly
  first none_ := by cases none_
  activated := here.activated
  storable := here.storable
  accepted _ _ none_ := by cases none_
  unrotated _ none_ := by cases none_
  committable _ saved := by
    cases saved
    exact committable

/-- What a commit returns is the credential that is accepted. -/
theorem World.commit_current {q : String} (committable : w.Committable q)
    (repeats : Repeats (w.committed.lookup q) tokens.refresh) :
    Storable tokens.refresh ∧ (w.commit q tokens).current = some tokens.refresh ∧
      (w.commit q tokens).committed.lookup q = some tokens.refresh := by
  have mint (v : World) : (v.mint tokens).current = v.current ∧
      (v.mint tokens).committed = v.committed := by
    rw [World.mint]
    split <;> exact ⟨rfl, rfl⟩
  rw [World.commit]
  rcases committable with ⟨r, found, current, storable⟩ | ⟨absent, -⟩
  · rw [found] at repeats ⊢
    cases repeats
    exact ⟨storable, (mint w).1.trans current, by rw [(mint w).2, found]⟩
  · rw [absent] at repeats ⊢
    refine ⟨repeats, (mint _).1, ?_⟩
    rw [(mint _).2]
    exact List.lookup_cons_self

/-- The backend commits the saved credential. -/
theorem Recoverable.commit {q : String} (here : Recoverable pending active held (some q) w)
    (repeats : Repeats (w.committed.lookup q) tokens.refresh) :
    Recoverable pending active held (some q) (w.commit q tokens) := by
  obtain ⟨storable, current, found⟩ := World.commit_current (here.committable q rfl) repeats
  have activated : (w.commit q tokens).activated = w.activated := by
    rw [World.commit]
    split <;> rw [World.mint] <;> split <;> rfl
  constructor
  · exact here.fits
  · exact here.pendingOnly
  · exact here.first
  · rw [activated]
    exact here.activated
  · rw [activated]
    exact here.storable
  · exact fun c _ none_ => by cases none_
  · exact fun _ none_ => by cases none_
  · intro q' saved
    cases saved
    exact .inl ⟨_, found, current, storable⟩

/-- What the commit returned is saved. -/
theorem Recoverable.renew {q c : String} (here : Recoverable pending (some c) held (some q) w)
    (value : String) :
    Recoverable pending (some value) held (some q) w where
  fits := here.fits
  pendingOnly := here.pendingOnly
  first none_ := by cases none_
  activated _ := here.activated (by simp)
  storable := here.storable
  accepted _ _ none_ := by cases none_
  unrotated _ none_ := by cases none_
  committable := here.committable

/-- The prepared credential is deleted. -/
theorem Recoverable.finish {c : String} (here : Recoverable pending (some c) none refresh w)
    (current : w.current = some c) : Recoverable pending (some c) none none w where
  fits := here.fits
  pendingOnly := here.pendingOnly
  first none_ := by cases none_
  activated := here.activated
  storable := here.storable
  accepted _ saved _ := by
    cases saved
    exact current
  unrotated some_ := absurd rfl some_
  committable _ saved := by cases saved

end

end PpvpnCore.Account
