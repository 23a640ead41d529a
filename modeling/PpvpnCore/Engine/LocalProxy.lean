import PpvpnCore.Translate.Translate

/-!
# The local proxy's device state

One loopback port and one password serve every node; the port of the system
proxy listener is kept beside them. Memory is authoritative and every change is
written through. Which ports are free is the machine's to say, port by port and
probe by probe, and so is whether the file is written.
-/

namespace PpvpnCore

/-- Tried after the persisted and the configured port. -/
def preferredPort : UInt16 := 7890

/-- The first choice of the system proxy listener. -/
def systemProxyPreferredPort : UInt16 := 7891

structure DiskState where
  version : UInt32
  userPrefix : String
  password : String
  port : UInt16
  systemProxyPort : UInt16
  deriving DecidableEq, Repr

structure LocalProxyState where
  listen : String
  preferredPort : UInt16
  systemPreferredPort : UInt16
  state : DiskState
  /-- What the state file holds. -/
  file : DiskState
  deriving DecidableEq, Repr

/-! ## Choosing a port -/

/-- An I/O error: whether permission was denied, and its text. -/
structure IoError where
  permissionDenied : Bool
  text : String
  deriving DecidableEq, Repr

def ioError (what : String) (e : IoError) : Error :=
  .new (if e.permissionDenied then .permissionDenied else .coreOperationFailed) false
    ("local proxy: " ++ what ++ ": " ++ e.text)

/-- What the machine answers while one port is chosen: to the probe of the
`i`th candidate, and to a bind of port 0. -/
structure PortProbe where
  free : (i : Nat) → UInt16 → Bool
  assigned : Except String UInt16

/-- What it answers to one call: the first choice, the one made when that was
the other listener's port, and the write of the state file. -/
structure PortAnswers where
  first : PortProbe
  second : PortProbe
  write : Except IoError Unit

def choosePortFrom (probe : PortProbe) (listen : String) : (i : Nat) → List UInt16 →
    Except Error UInt16
  | _, [] =>
    match probe.assigned with
    | .ok port => .ok port
    | .error e => .error (.new .coreOperationFailed true
        ("local proxy: no free port on " ++ listen ++ ": " ++ e))
  | i, port :: candidates =>
    if port ≠ 0 ∧ probe.free i port = true then .ok port
    else choosePortFrom probe listen (i + 1) candidates

/-- The first free port among `candidates` (zeros skipped), else one the kernel
assigns. -/
def choosePort (probe : PortProbe) (listen : String) (candidates : List UInt16) :
    Except Error UInt16 :=
  choosePortFrom probe listen 0 candidates

namespace LocalProxyState

def save (s : LocalProxyState) (answers : PortAnswers) : Except Error Unit × LocalProxyState :=
  match answers.write with
  | .ok () => (.ok (), { s with file := s.state })
  | .error e => (.error (ioError "write the state" e), s)

def chooseLocalPort (s : LocalProxyState) (answers : PortAnswers) : Except Error UInt16 := do
  let system := s.state.systemProxyPort
  let candidates := s.state.port ::
    if s.preferredPort ≠ 0 then [s.preferredPort, PpvpnCore.preferredPort] else []
  -- Never the system proxy listener's port.
  let port ← choosePort answers.first s.listen (candidates.filter (· ≠ system))
  if port = system then choosePort answers.second s.listen [] else return port

/-- Before the listener opens again: keeps the port when it is still free,
otherwise picks one and persists it. The port it moved to, if it did. The port
in memory moves even when the write fails. -/
def reconcilePort (s : LocalProxyState) (answers : PortAnswers) :
    Except Error (Option UInt16) × LocalProxyState :=
  match s.chooseLocalPort answers with
  | .error e => (.error e, s)
  | .ok port =>
    if port = s.state.port then (.ok none, s)
    else
      let s := { s with state.port := port }
      match s.save answers with
      | (.error e, s) => (.error e, s)
      | (.ok (), s) => (.ok (some port), s)

/-- The candidates of the system proxy listener: never the shared port. -/
def systemCandidates (s : LocalProxyState) : List UInt16 :=
  let avoid := s.state.port
  let persisted := s.state.systemProxyPort
  [if persisted = avoid then 0 else persisted,
    if s.systemPreferredPort = avoid then 0 else s.systemPreferredPort]

/-- The port of the system proxy listener: the persisted one when it is free,
else the preferred one, else any, never the shared port. Without `probe` (the
listener already runs on it) the persisted port is kept unchecked. -/
def systemProxyPort (s : LocalProxyState) (probe : Bool) (answers : PortAnswers) :
    Except Error UInt16 × LocalProxyState :=
  let avoid := s.state.port
  let persisted := s.state.systemProxyPort
  let chosen : Except Error UInt16 :=
    if persisted = 0 ∨ persisted = avoid ∨ probe = true then do
      let port ← choosePort answers.first s.listen s.systemCandidates
      if port = avoid then choosePort answers.second s.listen [] else return port
    else return persisted
  match chosen with
  | .error e => (.error e, s)
  | .ok port =>
    if port = persisted then (.ok port, s)
    else
      let s := { s with state.systemProxyPort := port }
      match s.save answers with
      | (.error e, s) => (.error e, s)
      | (.ok (), s) => (.ok port, s)

/-- What the translation needs for the `mixed` inbound and its users. -/
def translateOptions (s : LocalProxyState) : LocalProxy :=
  ⟨s.listen, s.state.port, s.state.userPrefix, s.state.password⟩

/-- The system proxy's port is chosen without moving the shared one. -/
theorem systemProxyPort_port (s : LocalProxyState) (probe : Bool) (answers : PortAnswers) :
    (s.systemProxyPort probe answers).2.state.port = s.state.port := by
  unfold systemProxyPort save
  dsimp only
  split
  · rfl
  · split
    · rfl
    · split
      · rename_i eq
        split at eq <;> cases eq
        rfl
      · rename_i eq
        split at eq <;> cases eq
        rfl

end LocalProxyState

/-- A Standard instance's listeners: the shared local proxy's state and the
system proxy listener's toggle. -/
structure Proxies where
  state : LocalProxyState
  /-- The host turned the system proxy listener on. -/
  systemProxy : Bool := false
  /-- Its port, chosen when it was turned on and again at each start. -/
  systemPort : UInt16 := 0
  /-- The shared listener could not be opened: this run goes without it. -/
  unavailable : Bool := false
  deriving DecidableEq, Repr

end PpvpnCore
