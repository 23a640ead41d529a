import PpvpnCore.Lib.Lock

/-!
Browser device login and credential persistence (`account/src/auth.rs`).

The saved credentials are one blob of three slots, cached in memory and written
through to the host's store. What the store and the backend answer is the
world's to say. Times, log lines, user codes and the checks of the backend's
page are left out; an access token comes with what its validation makes of it.

Nothing but the caller sees a result: the `begin` of a login's activation and
its return are calls to it, so that a run records them (`Outcome`).
-/

namespace PpvpnCore.Account

open Lib

/-! ## Errors and answers -/

inductive ApiError where
  | transport (message : String)
  | status (http : Nat) (code : Option String)
  | decode (message : String)
  | config (message : String)
  deriving DecidableEq, Repr

namespace ApiError

/-- The problem code of a suspended team. -/
def problemTeamDisabled : String := "403012"

def isTeamDisabled : ApiError → Bool
  | .status 403 (some code) => code = problemTeamDisabled
  | _ => false

/-- The saved login can never work again. A disabled team is not a dead login. -/
def isTerminalCredential (e : ApiError) : Bool :=
  !e.isTeamDisabled && match e with
    | .status http _ => http = 401 || http = 403
    | _ => false

def isTransient : ApiError → Bool
  | .transport _ => true
  | .status http _ => http = 429 || (500 ≤ http && http < 600)
  | .decode _ | .config _ => false

end ApiError

/-- A failed call of the host's store. -/
structure StoreFailure where
  locked : Bool
  message : String
  deriving DecidableEq, Repr

inductive AuthError where
  | api (error : ApiError)
  | store (error : StoreFailure)
  /-- The login was cancelled or superseded (generation changed). -/
  | cancelled
  | denied
  | expired
  /-- The backend answered with something we refuse to trust. -/
  | untrusted (reason : String)
  /-- No saved login to refresh. -/
  | noCredential
  deriving DecidableEq, Repr

def AuthError.isTerminal : AuthError → Bool
  | .api e => e.isTerminalCredential
  | .noCredential => true
  | _ => false

/-- What activation and commit answer: the access token, or why it is not
trusted, and the refresh credential. -/
structure Tokens where
  access : Except String String
  refresh : String

structure DeviceToken where
  status : String
  refreshToken : Option String

/-- A completed sign-in. -/
structure SignedIn where
  access : String
  account : Option String
  deriving DecidableEq

/-! ## The blob -/

def maxRefreshTokenLen : Nat := 512

def minRefreshTokenLen : Nat := 40

/-- Everything persisted. An all-empty blob is never saved; the store entry is
deleted instead. -/
structure CredentialBlob where
  version : Nat := 1
  /-- Refresh credential of the active device session. -/
  activeRefresh : Option String := none
  /-- Refresh credential of a successful poll, saved before it is activated. -/
  pendingActivation : Option String := none
  /-- Prepared credential of a refresh, saved before it is committed. -/
  pendingRefresh : Option String := none
  deriving DecidableEq, Repr

inductive Slot where
  | active | pendingActivation | pendingRefresh
  deriving DecidableEq, Repr

namespace CredentialBlob

def isEmpty (blob : CredentialBlob) : Bool :=
  blob.activeRefresh.isNone && blob.pendingActivation.isNone && blob.pendingRefresh.isNone

def slot (blob : CredentialBlob) : Slot → Option String
  | .active => blob.activeRefresh
  | .pendingActivation => blob.pendingActivation
  | .pendingRefresh => blob.pendingRefresh

def set (blob : CredentialBlob) (slot : Slot) (value : Option String) : CredentialBlob :=
  match slot with
  | .active => { blob with activeRefresh := value }
  | .pendingActivation => { blob with pendingActivation := value }
  | .pendingRefresh => { blob with pendingRefresh := value }

/-- What the store holds once the blob is persisted. -/
def persisted (blob : CredentialBlob) : Option CredentialBlob :=
  if blob.isEmpty then none else some blob

end CredentialBlob

/-! ## The state and the world's answers -/

/-- What a run records. -/
inductive Outcome where
  /-- A login's activation returned; `current` says whether its generation was
  still the current one. -/
  | activated (generation : Nat) (pending : String) (result : Except AuthError SignedIn)
      (current : Bool)
  /-- A refresh succeeded: the active credential before and after. -/
  | refreshed (before after : String)
  /-- A restore signed in with a saved credential. -/
  | restored (credential : String)
  deriving DecidableEq

structure State where
  /-- The current login generation; bumped by every `start` and `cancel`. -/
  generation : Nat := 0
  /-- The device code of the login under way. -/
  pending : Option String := none
  cache : Option CredentialBlob := none
  store : Option CredentialBlob := none
  outcomes : List Outcome := []
  /-- The credentials whose activation a login has begun. -/
  begun : List String := []
  /-- The credentials whose activation a request failed, or whose session's
  credential is too long to be stored. -/
  failed : List String := []

inductive Call where
  | load
  | persist (next : CredentialBlob)
  | clear
  | deviceCode
  /-- The poller sleeps; whether the code expired meanwhile. -/
  | wait
  | deviceToken (deviceCode : String)
  | activate (pending : String) (replaced : Option String)
  | revoke (refresh : String)
  /-- The account, for the activation of `pending`. -/
  | account (access pending : String)
  | refresh (current : String)
  | commit (prepared : String)
  | begin (pending : String)
  | returned (generation : Nat) (pending : String) (result : Except AuthError SignedIn)

def Answer : Call → Type
  | .load | .persist _ | .clear => Except StoreFailure Unit
  | .deviceCode => Except AuthError String
  | .wait => Bool
  | .deviceToken _ => Except ApiError DeviceToken
  | .activate _ _ | .commit _ => Except ApiError Tokens
  | .revoke _ => Except ApiError Unit
  | .account _ _ | .refresh _ => Except ApiError String
  | .begin _ | .returned _ _ _ => Unit

/-- A store call that succeeds is done; the cache goes with it. -/
def effect : (c : Call) → Answer c → State → State
  | .load, r, s => match (r : Except StoreFailure Unit) with
    | .ok () => { s with cache := some (s.store.getD {}) }
    | .error _ => s
  | .persist next, r, s => match (r : Except StoreFailure Unit) with
    | .ok () => { s with store := next.persisted, cache := some next }
    | .error _ => s
  | .clear, r, s => match (r : Except StoreFailure Unit) with
    | .ok () => { s with store := none, cache := some {} }
    | .error _ => s
  | .activate pending _, r, s => match (r : Except ApiError Tokens) with
    | .ok tokens =>
      if maxRefreshTokenLen < tokens.refresh.utf8ByteSize then
        { s with failed := s.failed ++ [pending] }
      else s
    | .error _ => { s with failed := s.failed ++ [pending] }
  | .account _ pending, r, s => match (r : Except ApiError String) with
    | .ok _ => s
    | .error _ => { s with failed := s.failed ++ [pending] }
  | .begin pending, _, s => { s with begun := s.begun ++ [pending] }
  | .returned generation pending result, _, s =>
    { s with outcomes := s.outcomes ++ [.activated generation pending result (s.generation = generation)] }
  | _, _, s => s

inductive Place where
  | flow | credentials

abbrev Task := Prog State Place Answer

abbrev Action := ExceptT AuthError Task

def read : Action State := monadLift (Prog.get Place.credentials : Task State)

def ask (c : Call) : Action (Answer c) := monadLift (Prog.ask c : Task (Answer c))

def record (outcome : Outcome) : Action Unit :=
  monadLift (Prog.update Place.credentials
    (fun s : State => { s with outcomes := s.outcomes ++ [outcome] }) : Task Unit)

/-! ## The saved credentials -/

def stored {α : Type} : Except StoreFailure α → Action α
  | .ok a => pure a
  | .error e => throw (.store e)

/-- The blob is read once per process. -/
def loaded : Action CredentialBlob := do
  let s ← read
  match s.cache with
  | some blob => pure blob
  | none => do
    let r ← ask .load
    stored r
    let s ← read
    pure (s.cache.getD (s.store.getD {}))

def get (slot : Slot) : Action (Option String) := do
  let blob ← loaded
  pure (blob.slot slot)

def set (slot : Slot) (value : String) : Action Unit :=
  if maxRefreshTokenLen < value.utf8ByteSize then
    throw (.untrusted "credential exceeds the storable size")
  else do
    let blob ← loaded
    let r ← ask (.persist (blob.set slot (some value)))
    stored r

def delete (slot : Slot) : Action Unit := do
  let blob ← loaded
  if (blob.slot slot).isNone then pure ()
  else do
    let r ← ask (.persist (blob.set slot none))
    stored r

/-- Delete `slot` only while it still holds `expected`. -/
def deleteIf (slot : Slot) (expected : String) : Action Unit := do
  let value ← get slot
  if value = some expected then delete slot else pure ()

/-- Remove every slot and the platform entry. -/
def clear : Action Unit := do
  let _ ← loaded
  let r ← ask .clear
  stored r

/-! ## The login flow -/

/-- Invalidate any running login; its poller exits and a late activation is
revoked. -/
def cancel : Task Unit :=
  Prog.update .flow fun s => { s with generation := s.generation + 1, pending := none }

/-- Request a device code and remember it for the poller. -/
def start : Action Nat := do
  let generation ← (monadLift (Prog.step Place.flow fun s : State =>
    (s.generation + 1, { s with generation := s.generation + 1, pending := none }) : Task Nat) : Action Nat)
  let created ← ask .deviceCode
  match (created : Except AuthError String) with
  | .error e => throw e
  | .ok deviceCode => do
    let current ← (monadLift (Prog.step Place.flow fun s : State =>
      if s.generation = generation then (true, { s with pending := some deviceCode })
      else (false, s) : Task Bool) : Action Bool)
    if current then pure generation else throw .cancelled

/-- The login is over, one way or the other. -/
def finish (generation : Nat) : Action Unit :=
  monadLift (Prog.update Place.flow fun s : State =>
    if s.generation = generation then { s with pending := none } else s : Task Unit)

def generationIsCurrent (generation : Nat) : Action Bool :=
  monadLift (Prog.step Place.flow fun s : State => (decide (s.generation = generation), s) : Task Bool)

/-- What the poller does with an answer: go on, or return. -/
def polled (generation : Nat) : Except ApiError DeviceToken → Action (Option String)
  | .error e =>
    if e.isTransient then pure none
    else do
      finish generation
      throw (.api e)
  | .ok response =>
    if response.status = "authorization_pending" ∨ response.status = "slow_down" then pure none
    else do
      finish generation
      if response.status = "access_denied" then throw .denied
      else if response.status = "expired_token" then throw .expired
      else if response.status = "authorized" then
        match response.refreshToken with
        | some value =>
          if minRefreshTokenLen ≤ value.utf8ByteSize then pure (some value)
          else throw (.untrusted "authorization omitted the credential")
        | none => throw (.untrusted "authorization omitted the credential")
      else throw (.untrusted "unknown device authorization status")

/-- Poll until the user decides, the code expires or `generation` is cancelled;
`none` after `fuel` rounds without a decision. -/
def pollUntilDone (generation : Nat) : (fuel : Nat) → Action (Option String)
  | 0 => pure none
  | fuel + 1 => do
    let s ← read
    match s.pending with
    | none => throw .cancelled
    | some deviceCode =>
      if s.generation ≠ generation then throw .cancelled
      else do
        let expired : Bool ← ask .wait
        let current ← generationIsCurrent generation
        if !current then throw .cancelled
        else if expired then do
          finish generation
          throw .expired
        else do
          let response ← ask (.deviceToken deviceCode)
          let current ← generationIsCurrent generation
          if !current then throw .cancelled
          else do
            let decided ← polled generation response
            match decided with
            | some credential => pure (some credential)
            | none => pollUntilDone generation fuel

/-! ## Activation, refresh, restore, logout -/

def expectGeneration : Option Nat → Action Bool
  | none => pure true
  | some generation => generationIsCurrent generation

def cleanupCancelledActivation (pending : String) (active : Option String) : Action Unit := do
  match active with
  | some refresh => do
    let _ ← ask (.revoke refresh)
    deleteIf .active refresh
    deleteIf .pendingActivation pending
  | none => deleteIf .pendingActivation pending

/-- The last check of an activation is its return: a login that is still
current is signed in, in one step. -/
def finalCheck (expected : Option Nat) (pending : String) (signedIn : SignedIn) : Action Bool :=
  match expected with
  | none => pure true
  | some generation =>
    monadLift (Prog.step Place.credentials fun s : State =>
      if s.generation = generation then
        (true, { s with outcomes := s.outcomes ++ [.activated generation pending (.ok signedIn) true] })
      else (false, s) : Task Bool)

def cancelledActivation {α : Type} (pending : String) (active : Option String) (error : AuthError) :
    Action α := do
  cleanupCancelledActivation pending active
  throw error

/-- The activation once the session's credential is saved. -/
def activeSaved (pending : String) (expected : Option Nat) (refresh access : String) :
    Action SignedIn := do
  let current ← expectGeneration expected
  if !current then cancelledActivation pending (some refresh) .cancelled
  else do
    delete .pendingActivation
    let account ← ask (.account access pending)
    match (account : Except ApiError String) with
    | .error e => throw (.api e)
    | .ok account => do
      let signedIn : SignedIn := ⟨access, some account⟩
      let current ← finalCheck expected pending signedIn
      if !current then cancelledActivation pending (some refresh) .cancelled
      else pure signedIn

/-- The activation once the backend has answered. -/
def activated (pending : String) (expected : Option Nat) (tokens : Tokens) : Action SignedIn := do
  let current ← expectGeneration expected
  if !current then cancelledActivation pending (some tokens.refresh) .cancelled
  else
    match tokens.access with
    | .error reason => cancelledActivation pending (some tokens.refresh) (.untrusted reason)
    | .ok access => do
      set .active tokens.refresh
      activeSaved pending expected tokens.refresh access

/-- Exchange a pending credential for an active session; in the lock. -/
def activate (pending : String) (expected : Option Nat) : Action SignedIn := do
  set .pendingActivation pending
  let current ← expectGeneration expected
  if !current then cancelledActivation pending none .cancelled
  else do
    let active ← get .active
    let tokens ← ask (.activate pending (active.filter (· ≠ pending)))
    match (tokens : Except ApiError Tokens) with
    | .error e => throw (.api e)
    | .ok tokens => activated pending expected tokens

/-- The commit of a prepared credential. -/
def committed (current prepared : String) : Action String := do
  let tokens ← ask (.commit prepared)
  match (tokens : Except ApiError Tokens) with
  | .error e => throw (.api e)
  | .ok tokens =>
    match tokens.access with
    | .error reason => throw (.untrusted reason)
    | .ok access => do
      set .active tokens.refresh
      delete .pendingRefresh
      record (.refreshed current tokens.refresh)
      pure access

/-- Rotate the active refresh credential and mint a new access token; in the
lock. -/
def refresh : Action String := do
  let active ← get .active
  match active with
  | none => throw .noCredential
  | some current => do
    let saved ← get .pendingRefresh
    match saved with
    | some prepared => committed current prepared
    | none => do
      let response ← ask (.refresh current)
      match (response : Except ApiError String) with
      | .error e => throw (.api e)
      | .ok prepared => do
        set .pendingRefresh prepared
        committed current prepared

/-- What a terminal rejection does: every saved credential is cleared. -/
def orClear {α : Type} (action : Action α) : Action α := ExceptT.mk do
  let result ← action.run
  match result with
  | .ok a => pure (.ok a)
  | .error e =>
    if e.isTerminal then do
      let cleared ← clear.run
      match cleared with
      | .error failed => pure (.error failed)
      | .ok () => pure (.error e)
    else pure (.error e)

def refreshOrClear : Action String := orClear refresh

/-- Refresh the active session; `none` means signed out. -/
def restoreActive : Action (Option SignedIn) := do
  let active ← get .active
  match active with
  | none => pure none
  | some credential => do
    let access ← refreshOrClear
    record (.restored credential)
    pure (some ⟨access, none⟩)

/-- Resume whatever the saved credentials allow: finish an interrupted
activation, or refresh the active session. -/
def restore : Action (Option SignedIn) := do
  let pending ← get .pendingActivation
  match pending with
  | none => restoreActive
  | some pending => do
    let active ← get .active
    if active = some pending then do
      delete .pendingActivation
      restoreActive
    else do
      let signedIn ← orClear (activate pending none)
      record (.restored pending)
      pure (some signedIn)

/-- Cancel any login, revoke the active session (best effort) and clear the
saved credentials. -/
def logout : Action Unit := do
  (monadLift cancel : Action Unit)
  let active ← (monadLift (get .active).run : Action (Except AuthError (Option String)))
  match active with
  | .ok (some refresh) => do
    let _ ← ask (.revoke refresh)
    clear
  | _ => clear

/-! ## The tasks of a process -/

/-- The part of a login that has the lock. -/
def loggedIn (generation : Nat) (pending : String) : Task Unit := do
  let _ ← (Prog.ask (Call.begin pending) : Task Unit)
  let result ← (activate pending (some generation)).run
  match result with
  | .ok _ => pure ()
  | .error e => Prog.ask (Call.returned generation pending (.error e))

/-- A login, from the device code to its activation in the lock. -/
def login (rounds : Nat) : Task Unit := do
  let started ← start.run
  match started with
  | .error _ => pure ()
  | .ok generation => do
    let decided ← (pollUntilDone generation rounds).run
    match decided with
    | .ok (some pending) => Prog.withLock (loggedIn generation pending)
    | _ => pure ()

/-- What a process may be asked. -/
inductive Op where
  | login (rounds : Nat)
  | cancel
  | refresh
  | refreshOrClear
  | restore
  | logout

def Op.task : Op → Task Unit
  | .login rounds => Account.login rounds
  | .cancel => Account.cancel
  | .refresh => Prog.withLock (Account.refresh.run.bind fun _ => pure ())
  | .refreshOrClear => Prog.withLock (Account.refreshOrClear.run.bind fun _ => pure ())
  | .restore => Prog.withLock (Account.restore.run.bind fun _ => pure ())
  | .logout => Prog.withLock (Account.logout.run.bind fun _ => pure ())

end PpvpnCore.Account
