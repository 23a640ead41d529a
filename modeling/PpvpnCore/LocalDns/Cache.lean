import PpvpnCore.Profile.Addr

/-!
The default interface's resolvers, read again on network changes
(`localdns/cache.rs`, `localdns/servers.rs`).

`resolve` is called from many threads. It reads the default interface, takes
the lock, looks at what it holds and either answers or discovers under the
lock; `invalidate` does not wait for it. So a call is three steps here, `call`,
`enter` and `finish`, with anything in between. Log lines are left out.
-/

namespace PpvpnCore.LocalDns

/-- The default interface: what direct sockets are bound to. -/
structure Interface where
  index : Nat
  name : String
  deriving DecidableEq, Repr

/-- A resolver address: an IP, the zone it was written with and a port. -/
structure Server where
  ip : IpAddr
  zone : Option String
  port : UInt16
  deriving DecidableEq, Repr

/-! ## Which resolvers are usable -/

/-- The high bits of an address that say what kind of address it is. -/
def high (bits : Nat) (addr : BitVec 128) : Nat := addr.toNat / 2 ^ (128 - bits)

def isUnspecified : IpAddr → Bool
  | .v4 addr => addr = 0
  | .v6 addr => addr = 0

def isLoopback : IpAddr → Bool
  | .v4 addr => addr.toNat / 2 ^ 24 = 127
  | .v6 addr => addr = 1

def isMulticast : IpAddr → Bool
  | .v4 addr => addr.toNat / 2 ^ 28 = 14
  | .v6 addr => high 8 addr = 0xff

def isLinkLocalV6 (addr : BitVec 128) : Bool := high 10 addr = 0xfe80 / 2 ^ 6

/-- The deprecated defaults Windows lists on adapters without IPv6 DNS of their
own. -/
def isSiteLocalV6 (addr : BitVec 128) : Bool := high 10 addr = 0xfec0 / 2 ^ 6

/-- The zone a resolver is kept with; `none` leaves it out. A link-local one is
kept only on `iface`. -/
def keptZone (iface : Interface) (server : Server) : IpAddr → Option (Option String)
  | .v4 _ => some none
  | .v6 addr =>
    if isSiteLocalV6 addr then none
    else if isLinkLocalV6 addr then
      match server.zone with
      | none => some (some (toString iface.index))
      | some zone =>
        if zone = iface.name ∨ zone = toString iface.index then some (some zone) else none
    else some none

def usableServer (iface : Interface) (exclude : List Prefix) (server : Server) : Option Server :=
  let ip := server.ip.unmap
  if isUnspecified ip ∨ isLoopback ip ∨ isMulticast ip ∨ exclude.any (·.contains ip) then none
  else (keptZone iface server ip).map fun zone =>
    ⟨ip, zone, if server.port = 0 then 53 else server.port⟩

/-- Keeps the usable resolvers read for `iface`, each once. -/
def usable (servers : List Server) (iface : Interface) (exclude : List Prefix) : List Server :=
  servers.foldl (fun out server =>
    match usableServer iface exclude server with
    | none => out
    | some server => if server ∈ out then out else out ++ [server]) []

/-! ## The cache -/

/-- What one read of the system's resolvers found. -/
structure Discovered where
  servers : List Server
  source : String
  error : Option String
  deriving DecidableEq, Repr

/-- Why dns-local has no resolver to ask. -/
inductive LocalDnsError where
  | noInterface
  | noServers («interface» source : String)
  | read («interface» source cause : String)
  deriving DecidableEq, Repr

/-- The shortest time between two reads on the same interface, in nanoseconds. -/
def retryInterval : Nat := 1000000000

/-- The age after which the next query reads again even without a change. -/
def softRefresh : Nat := 60000000000

structure State where
  read : Bool := false
  readGen : Nat := 0
  ifIndex : Nat := 0
  stale : Bool := false
  servers : List Server := []
  error : Option LocalDnsError := none
  readAt : Nat := 0
  triedAt : Nat := 0

abbrev Resolved := Except LocalDnsError (Interface × List Server)

/-- What was read is of this interface, and nothing was invalidated since. -/
def State.same (st : State) (iface : Interface) (gen : Nat) : Bool :=
  st.read && st.readGen == gen && st.ifIndex == iface.index

/-- `resolve` up to the discovery: its answer from what is held, or `none` when
it discovers. -/
def State.held (st : State) (iface : Interface) (now gen : Nat) : Option Resolved :=
  if st.same iface gen ∧ st.servers ≠ [] ∧ st.stale = false ∧ now - st.readAt < softRefresh then
    some (.ok (iface, st.servers))
  else if st.same iface gen ∧ now - st.triedAt < retryInterval then
    some (match st.error with
      | none => if st.servers ≠ [] then .ok (iface, st.servers) else .error (.noServers iface.name "")
      | some e => .error e)
  else none

/-- Whether a discovery is given up for the servers read before on the same
interface. -/
def State.keeps (st : State) (iface : Interface) (gen : Nat) (found : Discovered) : Bool :=
  found.error.isSome && st.same iface gen && st.servers ≠ []

/-- `resolve` from the discovery on. -/
def State.discovered (exclude : List Prefix) (st : State) (iface : Interface) (now gen : Nat)
    (found : Discovered) : Resolved × State :=
  if st.keeps iface gen found then (.ok (iface, st.servers), st)
  else
    let servers := usable found.servers iface exclude
    let error := match found.error with
      | some cause => some (.read iface.name found.source cause)
      | none => if servers = [] then some (.noServers iface.name found.source) else none
    (match error with
      | some e => .error e
      | none => .ok (iface, servers),
     { st with
       read := true, readGen := gen, ifIndex := iface.index, stale := false,
       servers, error, readAt := now })

/-! ## Runs -/

/-- A call that waits for the lock: the interface it read, and how many
invalidations had preceded it. -/
structure Caller where
  iface : Interface
  since : Nat

/-- The call that discovers, with the lock. -/
structure Reading where
  caller : Caller
  now : Nat
  gen : Nat

/-- A discovery that was made, and whether what was held before was kept. -/
structure Discovery where
  iface : Interface
  gen : Nat
  start : Nat
  found : Discovered
  kept : Bool

inductive Happening where
  | failed
  | tried (discovery : Discovery)

/-- A call that returned: how many invalidations had preceded it, and its result. -/
structure Answered where
  since : Nat
  result : Resolved

structure Watch where
  «interface» : Option Interface := none
  clock : Nat := 0
  generation : Nat := 0
  state : State := {}
  waiting : List Caller := []
  reading : Option Reading := none
  history : List Happening := []
  answers : List Answered := []

namespace Watch

def changeInterface (w : Watch) (iface : Option Interface) : Watch := { w with interface := iface }

def advance (w : Watch) (elapsed : Nat) : Watch := { w with clock := w.clock + elapsed }

/-- Makes the next query read again. Does not wait for a read in progress. -/
def invalidate (w : Watch) : Watch := { w with generation := w.generation + 1 }

/-- Marks the servers suspect after every one of them failed. -/
def failed (w : Watch) : Watch :=
  { w with state := { w.state with stale := true }, history := w.history ++ [.failed] }

/-- `resolve` before the lock. -/
def call (w : Watch) : Watch :=
  match w.interface with
  | none => { w with answers := w.answers ++ [⟨w.generation, .error .noInterface⟩] }
  | some iface => { w with waiting := w.waiting ++ [⟨iface, w.generation⟩] }

/-- A waiting call, once it has the lock. -/
def enter (w : Watch) (before : List Caller) (caller : Caller) (after : List Caller) : Watch :=
  match w.state.held caller.iface w.clock w.generation with
  | some result =>
    { w with waiting := before ++ after, answers := w.answers ++ [⟨caller.since, result⟩] }
  | none =>
    { w with
      waiting := before ++ after
      reading := some ⟨caller, w.clock, w.generation⟩
      state := { w.state with triedAt := w.clock } }

/-- The discovery is answered. -/
def finish (exclude : List Prefix) (w : Watch) (r : Reading) (found : Discovered) : Watch :=
  let (result, state) := w.state.discovered exclude r.caller.iface r.now r.gen found
  { w with
    state
    reading := none
    history := w.history ++
      [.tried ⟨r.caller.iface, r.gen, r.now, found, w.state.keeps r.caller.iface r.gen found⟩]
    answers := w.answers ++ [⟨r.caller.since, result⟩] }

end Watch

/-- Every interleaving of calls, interface changes and time. A failed discovery
carries no servers. -/
inductive Reached (exclude : List Prefix) : Watch → Prop
  | new (start : Nat) : Reached exclude { clock := start }
  | changeInterface {w : Watch} (iface : Option Interface) (reached : Reached exclude w) :
      Reached exclude (w.changeInterface iface)
  | advance {w : Watch} (elapsed : Nat) (reached : Reached exclude w) :
      Reached exclude (w.advance elapsed)
  | invalidate {w : Watch} (reached : Reached exclude w) : Reached exclude w.invalidate
  | failed {w : Watch} (reached : Reached exclude w) (free : w.reading = none) :
      Reached exclude w.failed
  | call {w : Watch} (reached : Reached exclude w) : Reached exclude w.call
  | enter {w : Watch} {before after : List Caller} {caller : Caller} (reached : Reached exclude w)
      (free : w.reading = none) (waits : w.waiting = before ++ caller :: after) :
      Reached exclude (w.enter before caller after)
  | finish {w : Watch} {r : Reading} {found : Discovered} (reached : Reached exclude w)
      (reads : w.reading = some r) (carries : found.error.isSome → found.servers = []) :
      Reached exclude (w.finish exclude r found)

/-! ## What a run has discovered -/

def tries (history : List Happening) : List Discovery :=
  history.filterMap fun
    | .failed => none
    | .tried d => some d

/-- The discovery whose servers are held, and whether they were marked failed
since. -/
def note (held : Option (Discovery × Bool)) : Happening → Option (Discovery × Bool)
  | .failed => held.map fun (d, _) => (d, true)
  | .tried d => if d.kept then held else some (d, false)

def holding (history : List Happening) : Option (Discovery × Bool) := history.foldl note none

end PpvpnCore.LocalDns
