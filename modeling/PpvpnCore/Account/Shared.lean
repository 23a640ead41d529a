import Mathlib.Logic.Function.Basic
import PpvpnCore.Lib.Focus
import PpvpnCore.Lib.Pool
import PpvpnCore.Account.Auth

/-!
# Commands that share a login

Each command of the CLI (`cli/src/account.rs`, `commands.rs`) is a process with
an `Auth` of its own, over the one secret store and the one backend. The lock of
`Auth` is within a process, and a command's tasks do not contend for it: it is
left out here.
-/

namespace PpvpnCore.Account

open Lib

def ApiError.isUnauthorized : ApiError → Bool
  | .status http _ => http = 401
  | _ => false

namespace Shared

/-! ## The backend -/

structure Backend where
  /-- The credential that is accepted for refresh. -/
  current : String
  /-- Prepared from it. -/
  prepared : List String := []
  /-- Committed last, with what the commit returned. -/
  newest : Option (String × String) := none
  deriving DecidableEq, Repr

def Backend.prepare (b : Backend) (value : String) : Backend :=
  { b with
    prepared := value :: b.prepared
    newest := b.newest.filter (·.1 ≠ value) }

def Backend.commit (b : Backend) (asked : String) (tokens : Tokens) : Backend :=
  if asked ∈ b.prepared then
    { current := tokens.refresh, prepared := [], newest := some (asked, tokens.refresh) }
  else b

/-- What the client hears, and what the backend has done if the answer is lost. -/
structure Reply (c : Account.Call) where
  heard : Account.Answer c
  acted : Option (Account.Answer c) := none

/-- An answer that says nothing about what the backend did. -/
def unheard {α : Type} : Except ApiError α → Bool
  | .error e => !e.isTerminalCredential
  | .ok _ => false

/-- What the backend answered, if the request came through. -/
def done {α : Type} (heard : Except ApiError α) (acted : Option (Except ApiError α)) :
    Option (Except ApiError α) :=
  if unheard heard then acted else some heard

def Backend.after (b : Backend) : (c : Account.Call) → Reply c → Backend
  | .refresh _, ⟨heard, acted⟩ =>
    match done (α := String) heard acted with
    | some (.ok value) => b.prepare value
    | _ => b
  | .commit asked, ⟨heard, acted⟩ =>
    match done (α := Tokens) heard acted with
    | some (.ok tokens) => b.commit asked tokens
    | _ => b
  | _, _ => b

def Storable (credential : String) : Prop := credential.utf8ByteSize ≤ maxRefreshTokenLen

instance (credential : String) : Decidable (Storable credential) :=
  inferInstanceAs (Decidable (_ ≤ _))

/-- A credential is accepted for refresh until one prepared from it has been
committed, and refused for good afterwards. -/
def ServesRefresh (b : Backend) (asked : String) : Except ApiError String → Prop
  | .ok value => asked = b.current ∧ Storable value
  | .error _ => asked ≠ b.current

/-- What was prepared from the current credential can be committed, what was
committed last can be committed again; of others nothing is said. -/
def ServesCommit (b : Backend) (asked : String) : Except ApiError Tokens → Prop
  | .ok tokens => (asked ∈ b.prepared → Storable tokens.refresh) ∧
      (asked ∉ b.prepared → ∀ last, b.newest = some last → last.1 = asked → tokens.refresh = last.2)
  | .error _ => asked ∉ b.prepared ∧ ∀ last, b.newest = some last → last.1 ≠ asked

/-- The answer is the backend's, or it is lost. -/
def Served {α : Type} (serves : Except ApiError α → Prop) (heard : Except ApiError α)
    (acted : Option (Except ApiError α)) : Prop :=
  ∀ r, done heard acted = some r → serves r

/-! ## The processes -/

deriving instance DecidableEq for State

/-- A process: the state of its `Auth`, and what it went through. -/
structure Process where
  auth : State := {}
  /-- It has read the store. -/
  opened : Bool := false
  /-- The writes of the store, when it last read or wrote it. -/
  seen : Nat := 0
  /-- Prepared for it and not saved yet. -/
  granted : Option String := none
  /-- What its last commit returned. -/
  renewed : Option String := none
  /-- A store call failed, an answer was lost or its token is not trusted. -/
  faulted : Bool := false
  deriving DecidableEq

structure Host where
  store : Option CredentialBlob
  backend : Backend
  process : Nat → Process := fun _ => {}
  /-- How often the store was written. -/
  writes : Nat := 0
  /-- A command has cleared the store. -/
  cleared : Bool := false

namespace Host

/-- What the `Auth` of a process works on. -/
def view (i : Nat) (h : Host) : State := { (h.process i).auth with store := h.store }

def setProcess (h : Host) (i : Nat) (p : Process) : Host :=
  { h with process := Function.update h.process i p }

/-- The store is nobody's own. -/
def put (i : Nat) (s : State) (h : Host) : Host :=
  h.setProcess i { h.process i with auth := { s with store := (h.process i).auth.store } }

end Host

/-- The saved login of a completed sign-in, or of one that was interrupted once
its session was saved. -/
def Login (blob : CredentialBlob) : Prop :=
  blob.activeRefresh.isSome = true ∧
    (blob.pendingActivation = none ∨ blob.pendingActivation = blob.activeRefresh)

instance (blob : CredentialBlob) : Decidable (Login blob) :=
  inferInstanceAs (Decidable (_ ∧ _))

/-- What a process goes through with an answer; the store has been written
`writes` times by then. -/
def Process.hears (p : Process) (writes : Nat) : (c : Account.Call) → Reply c → Process
  | .load, r => match (r.heard : Except StoreFailure Unit) with
    | .ok () => { p with opened := true, seen := writes, granted := none, renewed := none }
    | .error _ => { p with faulted := true }
  | .persist _, r => match (r.heard : Except StoreFailure Unit) with
    | .ok () => { p with opened := true, seen := writes, granted := none }
    | .error _ => { p with faulted := true }
  | .clear, r => match (r.heard : Except StoreFailure Unit) with
    | .ok () => { p with opened := true, seen := writes }
    | .error _ => { p with faulted := true }
  | .refresh _, r => match (r.heard : Except ApiError String) with
    | .ok value => { p with granted := some value, renewed := none }
    | .error e => { p with faulted := p.faulted || !e.isTerminalCredential }
  | .commit _, r => match (r.heard : Except ApiError Tokens) with
    | .ok tokens =>
      { p with renewed := some tokens.refresh, faulted := p.faulted || !tokens.access.isOk }
    | .error e => { p with faulted := p.faulted || !e.isTerminalCredential }
  | _, _ => p

/-- Whether an answer means that the store was written. -/
def wrote : (c : Account.Call) → Reply c → Bool
  | .persist _, r | .clear, r => match (r.heard : Except StoreFailure Unit) with
    | .ok () => true
    | .error _ => false
  | _, _ => false

/-- Whether an answer means that the store was cleared. -/
def emptied : (c : Account.Call) → Reply c → Bool
  | .clear, r => wrote .clear r
  | _, _ => false

inductive Call where
  | auth (process : Nat) (c : Account.Call)
  /-- The profile, for an access token. -/
  | profile (access : String)

def Answer : Call → Type
  | .auth _ c => Reply c
  | .profile _ => Except ApiError String

def effect : (c : Call) → Answer c → Host → Host
  | .auth i c, r, h =>
    let s := Account.effect c r.heard (h.view i)
    let writes := if wrote c r then h.writes + 1 else h.writes
    { store := s.store
      backend := h.backend.after c r
      process := Function.update h.process i
        { (h.process i).hears writes c r with
          auth := { s with store := (h.process i).auth.store } }
      writes
      cleared := h.cleared || emptied c r }
  | .profile _, _, h => h

abbrev Task := Prog Host Place Answer

/-- A part of a command, as process `i` runs it. -/
def own {α : Type} (i : Nat) (p : Account.Task α) : Task α :=
  (p.focus (Host.view i) (Host.put i)).called (Call.auth i) fun _ r => r.heard

/-! ## The commands -/

/-- A fresh access token for the saved login. -/
def accessToken : Action String := do
  let signedIn ← restore
  match signedIn with
  | some signedIn => pure signedIn.access
  | none => throw .noCredential

/-- Downloads the proxy profile; once more when the token is refused. -/
def downloadProfile (i : Nat) : Task (Except AuthError String) := do
  let token ← own i accessToken.run
  match token with
  | .error e => pure (.error e)
  | .ok token => do
    let profile : Except ApiError String ← Prog.ask (Call.profile token)
    match profile with
    | .ok raw => pure (.ok raw)
    | .error e =>
      if e.isUnauthorized then do
        let token ← own i refreshOrClear.run
        match token with
        | .error e => pure (.error e)
        | .ok token => do
          let profile : Except ApiError String ← Prog.ask (Call.profile token)
          match profile with
          | .ok raw => pure (.ok raw)
          | .error e => pure (.error (.api e))
      else pure (.error (.api e))

/-- `account` needs a token; `start`, `restart` and `mode` may need the profile. -/
inductive Command where
  | account | profile
  deriving DecidableEq, Repr

def Command.task (i : Nat) : Command → Task Unit
  | .account => (own i accessToken.run).bind fun _ => pure ()
  | .profile => (downloadProfile i).bind fun _ => pure ()

/-- The commands are run side by side, each in a process of its own. -/
def start (store : Option CredentialBlob) (backend : Backend) (commands : List Command) :
    Pool Host Place Answer Unit where
  state := { store, backend }
  tasks := commands.zipIdx.map fun x => { prog := x.1.task x.2 }

end Shared

end PpvpnCore.Account
