import PpvpnCore.Lib.Rules
import PpvpnCore.Service.Protocol
import Mathlib.Data.List.Nodup

/-!
# Letting requests in

The envelope checks of the IPC server (`service/src/ipc.rs`): freshness, replay,
the auth session bound to the client's process, the signature and the stopping
state. Requests are checked side by side, one task each; the clock is read by
`is_fresh` and again, under the replay window's lock, for `record_once`.

* `ReplayWindow.recordOnce`: the replay check.
* `admitRequest`: all the checks of one request.
* `passed_once`: no request passes freshness and replay twice.
-/

namespace PpvpnCore.Service

open Lib

/-! ## The checks -/

def Request.isFresh (req : Request) (now : Nat) : Bool :=
  req.timestamp.toNat ≤ now && now - req.timestamp.toNat ≤ messageExpirySeconds.toNat

/-- The ids seen, each with its request's timestamp. -/
abbrev ReplayWindow := List (String × Nat)

namespace ReplayWindow

/-- What the window still remembers. -/
def retained (window : ReplayWindow) (now : Nat) : ReplayWindow :=
  window.filter fun entry => now - entry.2 ≤ messageExpirySeconds.toNat

def recordOnce (window : ReplayWindow) (id : String) (timestamp now : Nat) : Bool × ReplayWindow :=
  if (window.retained now).any (·.1 = id) then (false, window.retained now)
  else (true, window.retained now ++ [(id, timestamp)])

end ReplayWindow

structure AuthSession where
  key : List UInt8
  clientPid : UInt32
  expiresAt : Nat
  deriving DecidableEq, Repr

/-- Where a request stands after the envelope checks. -/
inductive Admission where
  /-- A fresh, never-seen handshake. -/
  | handshake
  | authorized (session : AuthSession)
  /-- Refused with this error; the answer is signed once there is a key. -/
  | refused (error : String) (signed : Bool)
  deriving DecidableEq, Repr

def requestExpired : String := "request expired"
def requestReplayed : String := "request replayed"

/-- The request passed the freshness and replay checks. -/
def Admission.passed : Admission → Bool
  | .refused error _ => error ≠ requestExpired && error ≠ requestReplayed
  | _ => true

/-- Commands refused while stopping: `Connect` (including a takeover),
`UpdateProfile`, and the calls that keep a session alive, use its core or watch
it. -/
def refusedWhileStopping : Command → Bool
  | .connect | .updateProfile | .renewLease | .coreApi | .watch => true
  | _ => false

/-! ## The door -/

structure Door where
  now : Nat := 0
  window : ReplayWindow := []
  sessions : List (String × AuthSession) := []
  /-- History: the requests that passed, with their tasks. -/
  passed : List (Nat × String × Nat) := []
  /-- A request was recorded when it had expired. -/
  tardy : Bool := false

namespace Door

/-- The clock is read once more, and the request recorded. -/
def record (door : Door) (i : Nat) (req : Request) : Bool × Door :=
  match door.window.recordOnce req.id req.timestamp.toNat door.now with
  | (once, window) =>
    (once, { door with
      window
      passed := if once then door.passed ++ [(i, req.id, req.timestamp.toNat)] else door.passed
      tardy := door.tardy || req.timestamp.toNat + messageExpirySeconds.toNat < door.now })

/-- The auth session behind a token, if it is the client's. -/
def session (door : Door) (token : String) (clientPid : UInt32) : Option AuthSession × Door :=
  let sessions := door.sessions.filter fun entry => door.now < entry.2.expiresAt
  (((sessions.find? (·.1 = token)).map (·.2)).filter (·.clientPid = clientPid), { door with sessions })

end Door

/-- Nothing is called. -/
def NoAnswer : Empty → Type := Empty.elim

abbrev DoorTask := Prog Door Unit NoAnswer

/-- Freshness, replay, the PID-bound auth session, the signature, and the stopping
state. `verify` is the signature check with a session's key. -/
def admitRequest (verify : Request → List UInt8 → Bool) (i : Nat) (req : Request) (clientPid : UInt32)
    (stopping : Bool) : DoorTask Admission := do
  let door ← Prog.get ()
  if !req.isFresh door.now then return .refused requestExpired false
  if !(← Prog.step () (·.record i req)) then return .refused requestReplayed false
  if req.command = .handshake then return .handshake
  match ← Prog.step () (·.session (req.authToken.getD "") clientPid) with
  | none => return .refused "AUTH_SESSION_INVALID" false
  | some auth =>
    if !verify req auth.key then return .refused "signature verification failed" true
    else if stopping && refusedWhileStopping req.command then
      return .refused "SERVICE_STOPPING" true
    else return .authorized auth

/-- What happens at the door: a request is checked, a handshake is granted a
session, time goes by. -/
inductive DoorOp where
  | request (req : Request) (clientPid : UInt32) (stopping : Bool)
  | grant (token : String) (auth : AuthSession)
  | tick (now : Nat)

def DoorOp.task (verify : Request → List UInt8 → Bool) (i : Nat) : DoorOp → DoorTask (Option Admission)
  | .request req clientPid stopping => do
    return some (← admitRequest verify i req clientPid stopping)
  | .grant token auth => do
    Prog.update () fun door => { door with sessions := (token, auth) :: door.sessions }
    return none
  | .tick now => do
    Prog.update () fun door => { door with now := max door.now now }
    return none

def openDoor (verify : Request → List UInt8 → Bool) (ops : List DoorOp) :
    Pool Door Unit NoAnswer (Option Admission) :=
  { state := {}, tasks := ops.mapIdx fun i op => { prog := op.task verify i } }

/-! ## Every schedule -/

/-- One step at the door. -/
inductive DoorStep (ops : List DoorOp) (i : Nat) : Door → Door → Prop
  | idle {door : Door} : DoorStep ops i door door
  | other {door : Door} (now : Nat) (sessions : List (String × AuthSession)) (later : door.now ≤ now) :
      DoorStep ops i door { door with now, sessions }
  | record {door : Door} (req : Request) (clientPid : UInt32) (stopping : Bool)
      (op : ops[i]? = some (.request req clientPid stopping)) :
      DoorStep ops i door (door.record i req).2

/-- What a task ended with is in the history. -/
def Logged (ops : List DoorOp) (i : Nat) (answer : Option Admission) (door : Door) : Prop :=
  ∀ admission req clientPid stopping, answer = some admission → admission.passed = true →
    ops[i]? = some (.request req clientPid stopping) → (i, req.id, req.timestamp.toNat) ∈ door.passed

def doorway (ops : List DoorOp) : Rules Door NoAnswer where
  effect c := nomatch c
  step i _ := DoorStep ops i
  idle := .idle
  free _ := True
  keeps _ _ := trivial
  allowed _ _ _ := True

section

variable {ops : List DoorOp} {i : Nat} {door door' : Door}

theorem DoorStep.passed (step : DoorStep ops i door door') {entry : Nat × String × Nat}
    (mem : entry ∈ door.passed) : entry ∈ door'.passed := by
  cases step with
  | idle => exact mem
  | other now sessions later => exact mem
  | record req clientPid stopping op =>
    simp only [Door.record]
    split
    · exact List.mem_append_left _ mem
    · exact mem

theorem doorway_passed {mine : Bool} (since : (doorway ops).Since i mine door door')
    {entry : Nat × String × Nat} (mem : entry ∈ door.passed) : entry ∈ door'.passed :=
  since.keep (P := fun s t => entry ∈ s.passed → entry ∈ t.passed) (fun _ => id)
    (fun first second mem => second (first mem)) (fun _ _ step => DoorStep.passed step) mem

/-- A request that passes is in the history from then on. -/
theorem keeps_admitted {verify : Request → List UInt8 → Bool} {req : Request} {clientPid : UInt32}
    {stopping : Bool} (op : ops[i]? = some (.request req clientPid stopping)) :
    Keeps (doorway ops) i (admitRequest verify i req clientPid stopping)
      (fun admission m door => m = false ∧ Logged ops i (some admission) door) false door := by
  have refused : ∀ {error : String} {signed : Bool} {door : Door},
      Admission.passed (.refused error signed) = false →
      Logged ops i (some (.refused error signed)) door := by
    intro error signed door fails admission _ _ _ eq passes
    cases eq
    rw [fails] at passes
    cases passes
  have logged : ∀ {admission : Admission} {door : Door},
      (i, req.id, req.timestamp.toNat) ∈ door.passed → Logged ops i (some admission) door := by
    intro admission door mem _ req' clientPid' stopping' _ _ op'
    rw [op] at op'
    cases op'
    exact mem
  have ends : ∀ {admission : Admission} {door : Door},
      (i, req.id, req.timestamp.toNat) ∈ door.passed → Keeps (doorway ops) i
        (.ret admission : DoorTask Admission)
        (fun admission m door => m = false ∧ Logged ops i (some admission) door) false door :=
    fun mem t since => ⟨rfl, logged (doorway_passed since mem)⟩
  refine Keeps.get fun t since => ?_
  split
  · exact fun u later => ⟨rfl, refused rfl⟩
  refine Keeps.step fun u later => ⟨.record req clientPid stopping op, ?_⟩
  cases once : (u.record i req).1 with
  | false => exact fun v last => ⟨rfl, refused rfl⟩
  | true =>
    have mem : (i, req.id, req.timestamp.toNat) ∈ (u.record i req).2.passed := by
      have once : (u.window.recordOnce req.id req.timestamp.toNat u.now).1 = true := once
      simp [Door.record, once]
    rw [if_neg (by simp)]
    split
    · exact ends mem
    refine Keeps.step fun v last => ?_
    have mem := doorway_passed last mem
    refine ⟨.other v.now _ (Nat.le_refl _), ?_⟩
    have mem : (i, req.id, req.timestamp.toNat) ∈
        (v.session (req.authToken.getD "") clientPid).2.passed := mem
    split
    · exact ends mem
    · split
      · exact ends mem
      · split <;> exact ends mem

/-- While no request was recorded late: whatever passed is still remembered, or
is fresh no more; and nothing passed twice. -/
def PassedOnce (door : Door) : Prop :=
  door.tardy = false → (door.passed.map (·.2)).Nodup ∧ ∀ entry ∈ door.passed,
    entry.2 ∈ door.window ∨ entry.2.2 + messageExpirySeconds.toNat < door.now

theorem ReplayWindow.mem_retained {window : ReplayWindow} {now : Nat} {entry : String × Nat}
    (mem : entry ∈ window) :
    entry ∈ window.retained now ∨ entry.2 + messageExpirySeconds.toNat < now := by
  by_cases young : now - entry.2 ≤ messageExpirySeconds.toNat
  · exact .inl (List.mem_filter.mpr ⟨mem, by simpa using young⟩)
  · exact .inr (by omega)

theorem DoorStep.passedOnce (step : DoorStep ops i door door') (once : PassedOnce door) :
    PassedOnce door' := by
  cases step with
  | idle => exact once
  | other now sessions later =>
    intro prompt
    obtain ⟨nodup, kept⟩ := once prompt
    refine ⟨nodup, fun entry mem => ?_⟩
    rcases kept entry mem with there | old
    · exact .inl there
    · exact .inr (Nat.lt_of_lt_of_le old later)
  | record req clientPid stopping op =>
    intro prompt
    obtain ⟨before, young⟩ := Bool.or_eq_false_iff.mp prompt
    obtain ⟨nodup, kept⟩ := once before
    have young : ¬ req.timestamp.toNat + messageExpirySeconds.toNat < door.now := by simpa using young
    -- What passed before is retained now, or fresh no more.
    have still : ∀ entry ∈ door.passed, entry.2 ∈ door.window.retained door.now ∨
        entry.2.2 + messageExpirySeconds.toNat < door.now := by
      intro entry mem
      rcases kept entry mem with there | old
      · exact ReplayWindow.mem_retained there
      · exact .inr old
    by_cases known : (door.window.retained door.now).any (·.1 = req.id) = true
    · have eq : (door.record i req).2 = { door with
          window := door.window.retained door.now
          tardy := door.tardy || req.timestamp.toNat + messageExpirySeconds.toNat < door.now } := by
        simp [Door.record, ReplayWindow.recordOnce, known]
      rw [eq]
      exact ⟨nodup, still⟩
    · have eq : (door.record i req).2 = { door with
          window := door.window.retained door.now ++ [(req.id, req.timestamp.toNat)]
          passed := door.passed ++ [(i, req.id, req.timestamp.toNat)]
          tardy := door.tardy || req.timestamp.toNat + messageExpirySeconds.toNat < door.now } := by
        simp [Door.record, ReplayWindow.recordOnce, known]
      rw [eq]
      have new : (req.id, req.timestamp.toNat) ∉ door.passed.map (·.2) := by
        intro mem
        obtain ⟨entry, there, same⟩ := List.mem_map.mp mem
        rcases still entry there with retained | old
        · rw [same] at retained
          exact known (List.any_eq_true.mpr ⟨_, retained, by simp⟩)
        · rw [same] at old
          exact young old
      constructor
      · rw [List.map_append, List.nodup_append]
        refine ⟨nodup, by simp, fun a mem b single eq => ?_⟩
        have last : b = (req.id, req.timestamp.toNat) := by simpa using single
        rw [eq, last] at mem
        exact new mem
      · intro entry mem
        rcases List.mem_append.mp mem with there | last
        · exact (still entry there).imp_left (List.mem_append_left _)
        · cases List.mem_singleton.mp last
          exact .inl (by simp)

variable {verify : Request → List UInt8 → Bool} {q : Pool Door Unit NoAnswer (Option Admission)}

/-- The states of the door, whatever the order of the requests' steps. -/
abbrev Opened (verify : Request → List UInt8 → Bool) (ops : List DoorOp) :
    Pool Door Unit NoAnswer (Option Admission) → Prop :=
  Reaches (fun c => nomatch c) (fun _ _ => True) (openDoor verify ops)

theorem openDoor_kept : (doorway ops).Kept (Logged ops) (openDoor verify ops) := by
  refine .of_free rfl trivial fun i prog here => ?_
  obtain ⟨running, found, rfl⟩ := Option.map_eq_some_iff.mp here
  simp only [openDoor, List.getElem?_mapIdx, Option.map_eq_some_iff] at found
  obtain ⟨op, found, rfl⟩ := found
  have nothing : ∀ door : Door, Logged ops i none door := fun _ _ _ _ _ eq => by cases eq
  cases op with
  | request req clientPid stopping =>
    refine Keeps.bind ((keeps_admitted found).mono fun admission m door ended => ?_)
    obtain ⟨rfl, logged⟩ := ended
    intro door' since
    refine ⟨rfl, fun admission' req' clientPid' stopping' eq passes op' => ?_⟩
    exact doorway_passed since (logged admission' req' clientPid' stopping' eq passes op')
  | grant token auth =>
    exact Keeps.update fun t _ => ⟨.other t.now _ (Nat.le_refl _), fun u _ => ⟨rfl, nothing u⟩⟩
  | tick now =>
    exact Keeps.update fun t _ => ⟨.other _ t.sessions (Nat.le_max_left _ _), fun u _ => ⟨rfl, nothing u⟩⟩

/-- Of all requests with the same id and timestamp at most one passes the freshness
and replay checks, as long as none was recorded, after it was found fresh, by a
reading of the clock at which it had expired. -/
theorem passed_once (opened : Opened verify ops q) (prompt : q.state.tardy = false) {i j : Nat}
    {one two : Request} {pid pid' : UInt32} {stopping stopping' : Bool} {first second : Admission}
    (op : ops[i]? = some (.request one pid stopping))
    (op' : ops[j]? = some (.request two pid' stopping')) (sameId : one.id = two.id)
    (sameTime : one.timestamp = two.timestamp) (ended : q.task i = some (.ret (some first)))
    (ended' : q.task j = some (.ret (some second))) (passes : first.passed = true)
    (passes' : second.passed = true) : i = j := by
  have kept : (doorway ops).Kept (Logged ops) q :=
    Reaches.kept (R := doorway ops) openDoor_kept opened
  have once : PassedOnce q.state := Reaches.holds (R := doorway ops) (J := fun _ => PassedOnce)
    openDoor_kept (fun _ => ⟨List.nodup_nil, nofun⟩) (fun _ step => DoorStep.passedOnce step)
    (fun _ => id) (fun _ => id) opened
  have mem := kept.ended ended first one pid stopping rfl passes op
  have mem' := kept.ended ended' second two pid' stopping' rfl passes' op'
  rw [← sameId, ← sameTime] at mem'
  have same := List.inj_on_of_nodup_map (once prompt).1 mem mem' rfl
  exact (Prod.mk.inj same).1

def sampleRequest : Request where
  id := "6f1c"
  timestamp := 100
  command := .handshake
  payload := .null
  signature := ""

/-- The request comes twice; the clock stands at `at_` when the second is checked,
and at `after` when it is recorded. -/
def sampleTwice (at_ after : Nat) : List DoorOp × List (Move NoAnswer) :=
  ([.tick 100, .request sampleRequest 7 false, .tick at_, .request sampleRequest 7 false, .tick after],
    [.go 0, .go 1, .go 1, .go 2, .go 3, .go 4, .go 3])

def sampleDoor (at_ after : Nat) : Pool Door Unit NoAnswer (Option Admission) :=
  (openDoor (fun _ _ => true) (sampleTwice at_ after).1).play (fun c => nomatch c) (fun _ _ => True)
    (sampleTwice at_ after).2

theorem sampleDoor_opened (at_ after : Nat) :
    Opened (fun _ _ => true) (sampleTwice at_ after).1 (sampleDoor at_ after) :=
  Reaches.of_play _ _

/-- Both are checked within the time: the first passes, so the second does not. -/
theorem passed_once_twice :
    (sampleDoor 101 102).answered 1 = some (some .handshake) ∧
      ∀ second, (sampleDoor 101 102).task 3 = some (.ret (some second)) → second.passed = false := by
  have first : (sampleDoor 101 102).answered 1 = some (some .handshake) := by decide +kernel
  refine ⟨first, fun second ended => ?_⟩
  cases passes : second.passed with
  | false => rfl
  | true =>
    have same := passed_once (sampleDoor_opened 101 102) (by decide +kernel) (i := 1) (j := 3) rfl rfl
      rfl rfl (Pool.task_of_answered first) ended rfl passes
    cases same

/-- The second is found fresh in the last second and recorded in the next one. -/
theorem passed_twice :
    ¬ ∀ (ops : List DoorOp) (q : Pool Door Unit NoAnswer (Option Admission)),
      Opened (fun _ _ => true) ops q → ∀ (i j : Nat) (one two : Request) (pid pid' : UInt32)
      (stopping stopping' : Bool) (first second : Admission),
      ops[i]? = some (.request one pid stopping) → ops[j]? = some (.request two pid' stopping') →
      one.id = two.id → one.timestamp = two.timestamp → q.task i = some (.ret (some first)) →
      q.task j = some (.ret (some second)) → first.passed = true → second.passed = true → i = j := by
  intro all
  have first : (sampleDoor 130 131).answered 1 = some (some .handshake) := by decide +kernel
  have second : (sampleDoor 130 131).answered 3 = some (some .handshake) := by decide +kernel
  have same := all _ _ (sampleDoor_opened 130 131) 1 3 _ _ _ _ _ _ _ _ rfl rfl rfl rfl
    (Pool.task_of_answered first) (Pool.task_of_answered second) rfl rfl
  cases same

end

end PpvpnCore.Service
