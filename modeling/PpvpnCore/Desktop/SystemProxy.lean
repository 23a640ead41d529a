import PpvpnCore.Profile.Addr

/-!
OS system-proxy settings for compatible mode (`desktop/src/sysproxy.rs`).

A writer is any store of settings: it applies and restores by one write after
another, any of which may fail, and tells the proxies the settings point at.
`wininet` is the writer of one platform; its server value is kept as the
proxies it names.
-/

namespace PpvpnCore.Desktop

open Lib

/-- Host and port. -/
abbrev Endpoint := String × UInt16

def eqIgnoreAsciiCase (a b : String) : Bool :=
  toAsciiLowercase a.toList = toAsciiLowercase b.toList

def isLoopback : IpAddr → Bool
  | .v4 addr => addr >>> 24 = 127
  | .v6 addr => addr = 1

/-- Whether `host` is this machine. -/
def isLoopbackHost (host : String) : Bool :=
  eqIgnoreAsciiCase host "localhost" || (IpAddr.parse host.toList).any isLoopback

/-- Any loopback host matches any other. -/
def pointsAt (proxies : List Endpoint) (endpoint : Endpoint) : Bool :=
  proxies.any fun proxy =>
    proxy.2 == endpoint.2 &&
      (eqIgnoreAsciiCase proxy.1 endpoint.1 || (isLoopbackHost proxy.1 && isLoopbackHost endpoint.1))

theorem pointsAt_singleton (endpoint : Endpoint) : pointsAt [endpoint] endpoint = true := by
  simp [pointsAt, eqIgnoreAsciiCase]

/-! ## Writers -/

/-- What a writer does to the settings: one write after another, each of which
may fail. -/
inductive Os (V : Type) : Type where
  | done (result : Except String Unit)
  | write (f : V → V) (k : Except String Unit → Os V)

/-- How it may end, and with which settings. -/
inductive Os.Ends {V : Type} : Os V → V → Except String Unit → V → Prop
  | done {v : V} {result : Except String Unit} : Ends (.done result) v result v
  | wrote {f : V → V} {k : Except String Unit → Os V} {v v' : V} {result : Except String Unit}
      (rest : Ends (k (.ok ())) (f v) result v') : Ends (.write f k) v result v'
  | failed {f : V → V} {k : Except String Unit → Os V} {v v' : V} {result : Except String Unit}
      {error : String} (rest : Ends (k (.error error)) v result v') : Ends (.write f k) v result v'

theorem Os.Ends.written {V : Type} {f : V → V} {k : Except String Unit → Os V} {v v' : V}
    {result : Except String Unit} (ends : (Os.write f k).Ends v result v') :
    ∃ answer, (k answer).Ends (match answer with | .ok () => f v | .error _ => v) result v' := by
  cases ends with
  | wrote rest => exact ⟨.ok (), rest⟩
  | @failed _ _ _ _ _ error rest => exact ⟨.error error, rest⟩

/-- Applies and restores settings `V`. -/
structure Writer (V : Type) where
  apply : Endpoint → Os V
  restore : V → Os V
  /-- Every proxy the settings point at; none when the OS proxy is off. -/
  activeProxies : V → List Endpoint
  applied : ∀ {endpoint v v'}, (apply endpoint).Ends v (.ok ()) v' →
    pointsAt (activeProxies v') endpoint = true
  restored : ∀ {saved v v'}, (restore saved).Ends v (.ok ()) v' → v' = saved

/-- The settings point at the endpoint. -/
def Writer.owns {V : Type} (W : Writer V) (v : V) (endpoint : Endpoint) : Bool :=
  pointsAt (W.activeProxies v) endpoint

/-! ## WinINet -/

/-- The values under `Internet Settings`; an absent `ProxyEnable` is 0. -/
structure WinInet where
  proxyEnable : UInt32 := 0
  proxyServer : Option (List Endpoint) := none
  proxyOverride : Option String := none
  deriving DecidableEq, Repr

namespace WinInet

inductive Step where
  | enable (value : UInt32)
  /-- Set, or deleted. -/
  | server (value : Option (List Endpoint))
  | bypass (value : Option String)
  | notify

def exec : Step → WinInet → WinInet
  | .enable value, v => { v with proxyEnable := value }
  | .server value, v => { v with proxyServer := value }
  | .bypass value, v => { v with proxyOverride := value }
  | .notify, v => v

/-- Loopback, `.local`, the private ranges as wildcards, and plain host names. -/
def overrideList : String :=
  ";".intercalate
    (["localhost", "127.*", "[::1]", "*.local", "10.*", "192.168.*"] ++
      (List.range 16).map (fun n => "172." ++ toString (n + 16) ++ ".*") ++ ["<local>"])

/-- The first error of some steps. -/
def firstError : List (Except String Unit) → Except String Unit
  | [] => .ok ()
  | .error e :: _ => .error e
  | .ok () :: rest => firstError rest

/-- Notifies either way. -/
def notified (results : List (Except String Unit)) : Os WinInet :=
  .write (exec .notify) fun last => .done (firstError (results ++ [last]))

/-- The steps up to the first failure. -/
def inOrder : List Step → Os WinInet
  | [] => notified []
  | step :: steps => .write (exec step) fun
    | .ok () => inOrder steps
    | .error e => notified [.error e]

/-- Off before the server and the bypass list change, on once both are ours. -/
def apply (endpoint : Endpoint) : Os WinInet :=
  inOrder [.enable 0, .server (some [endpoint]), .bypass (some overrideList), .enable 1]

/-- Every step is tried; the proxy is left off when the server or the bypass
list could not be put back. -/
def restore (saved : WinInet) : Os WinInet :=
  .write (exec (.enable 0)) fun off =>
  .write (exec (.server saved.proxyServer)) fun server =>
  .write (exec (.bypass saved.proxyOverride)) fun bypass =>
  match server, bypass with
  | .ok (), .ok () =>
    .write (exec (.enable saved.proxyEnable)) fun on => notified [off, server, bypass, on]
  | _, _ => notified [off, server, bypass]

def activeProxies (v : WinInet) : List Endpoint :=
  if v.proxyEnable = 0 then [] else v.proxyServer.getD []

theorem firstError_ok {results : List (Except String Unit)} (ok : firstError results = .ok ()) :
    ∀ r ∈ results, r = .ok () := by
  induction results with
  | nil => exact nofun
  | cons first rest ih =>
    cases first with
    | error e => cases ok
    | ok =>
      intro r member
      rcases List.mem_cons.mp member with rfl | member
      · rfl
      · exact ih ok r member

theorem notified_ok {results : List (Except String Unit)} {v v' : WinInet}
    (ends : (notified results).Ends v (.ok ()) v') : v' = v ∧ ∀ r ∈ results, r = .ok () := by
  obtain ⟨last, rest⟩ := ends.written
  cases last with
  | ok =>
    generalize result : firstError (results ++ [.ok ()]) = r at rest
    cases rest
    exact ⟨rfl, fun r member => firstError_ok result r (List.mem_append_left _ member)⟩
  | error e =>
    generalize result : firstError (results ++ [.error e]) = r at rest
    cases rest
    exact ⟨rfl, fun r member => firstError_ok result r (List.mem_append_left _ member)⟩

/-- Steps that all succeed are all done. -/
theorem inOrder_ok {steps : List Step} {v v' : WinInet} (ends : (inOrder steps).Ends v (.ok ()) v') :
    v' = steps.foldl (fun v step => exec step v) v := by
  induction steps generalizing v with
  | nil => exact (notified_ok ends).1
  | cons step steps ih =>
    obtain ⟨result, rest⟩ := ends.written
    cases result with
    | ok => exact ih rest
    | error e => cases (notified_ok rest).2 _ List.mem_cons_self

theorem restore_ok {saved v v' : WinInet} (ends : (restore saved).Ends v (.ok ()) v') :
    v' = saved := by
  obtain ⟨off, ends⟩ := ends.written
  obtain ⟨server, ends⟩ := ends.written
  obtain ⟨bypass, ends⟩ := ends.written
  cases server with
  | error e =>
    have failed := (notified_ok ends).2 (.error e) (by simp)
    cases failed
  | ok =>
    cases bypass with
    | error e =>
      have failed := (notified_ok ends).2 (.error e) (by simp)
      cases failed
    | ok =>
      obtain ⟨on, ends⟩ := ends.written
      obtain ⟨rfl, all⟩ := notified_ok ends
      rw [all on (by simp)]
      cases off <;> rfl

end WinInet

def wininet : Writer WinInet where
  apply := WinInet.apply
  restore := WinInet.restore
  activeProxies := WinInet.activeProxies
  applied ends := by
    rw [WinInet.inOrder_ok ends]
    exact pointsAt_singleton _
  restored := WinInet.restore_ok

end PpvpnCore.Desktop
