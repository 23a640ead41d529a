import Mathlib.Data.Finset.Basic
import PpvpnCore.Service.Json
import PpvpnCore.Desktop.Compat
import PpvpnCore.Desktop.Machine

/-!
The speed test (`run_probe` in `desktop/src/core_ipc.rs`): every node is probed by
a task of its own, and each is reported once.

The tasks share a semaphore and a channel; they go on in any order, may panic, and
are cut off at the deadline. What the core answers them is the world's to say.

* `Good`: who is reported, and what was received for whom.
* `reports_once`: every run that returns Ok.
-/

namespace PpvpnCore.Desktop.SpeedTest

open PpvpnCore.Service (Value)

/-! ## Results -/

inductive ProbeMethod where
  | icmp | tcp | connect
  deriving DecidableEq

inductive ErrorCode where
  | timeout | unreachable | icmpNotPermitted | nodeNotFound | probeFailed | profileExpired
  | profileInvalid | standardCoreFailed
  deriving DecidableEq

structure ClientErrorInfo where
  code : ErrorCode
  detail : String
  deriving DecidableEq

structure ProbeResult where
  nodeId : String
  method : ProbeMethod
  success : Bool
  latencyMs : Option UInt32
  endpointKey : Option String
  error : Option ClientErrorInfo
  deriving DecidableEq

/-- The user code of a probe's `error_code`. -/
def probeErrorCode (code : String) : ErrorCode :=
  if code ∈ ["TIMEOUT", "ICMP_TIMEOUT"] then .timeout
  else if code ∈ ["CONNECT_FAILED", "ICMP_UNREACHABLE", "DNS_FAILED", "PROXY_REQUEST_FAILED"] then
    .unreachable
  else if code = "ICMP_UNSUPPORTED" then .icmpNotPermitted
  else if code = "NODE_NOT_FOUND" then .nodeNotFound
  else .probeFailed

/-- `CoreCallError::info`. -/
def info (error : CoreCallError) (fallback : ErrorCode) : ClientErrorInfo where
  code :=
    match error.code with
    | some code =>
      if code = "NODE_NOT_FOUND" then .nodeNotFound
      else if code = "PROFILE_EXPIRED" then .profileExpired
      else if code ∈ Enhanced.profileValidation then .profileInvalid
      else fallback
    | none => fallback
  detail := error.detail

def optString (value : Value) (key : String) : Option String :=
  ((value.get key).bind Value.asStr).filter (· ≠ "")

/-- Capped at `u32::MAX`. -/
def latency (value : Value) (key : String) : Option UInt32 :=
  ((value.get key).bind Value.asU64).map fun ms => UInt32.ofNat (min ms.toNat 4294967295)

def failedProbe (nodeId : String) (method : ProbeMethod) (error : ClientErrorInfo) :
    ProbeResult where
  nodeId := nodeId
  method := method
  success := false
  latencyMs := none
  endpointKey := none
  error := some error

def succeeded (value : Value) : Bool :=
  (value.get "success").bind Value.asBool = some true

/-- One `EntranceResult`. -/
def entranceToProbe (value : Value) (method : ProbeMethod) (nodeId : String) : ProbeResult :=
  if succeeded value then
    { nodeId := nodeId
      method := method
      success := true
      latencyMs := (latency value "latency_ms").map (max · 1)
      endpointKey := optString value "endpoint_key"
      error := none }
  else
    let code := (optString value "error_code").getD "PROBE_FAILED"
    failedProbe nodeId method ⟨probeErrorCode code, code⟩

/-- One `AvailabilityResult`. -/
def availabilityToProbe (value : Value) (nodeId : String) : ProbeResult :=
  if succeeded value then
    { nodeId := nodeId
      method := .connect
      success := true
      latencyMs := (latency value "total_ms").map (max · 1)
      endpointKey := none
      error := none }
  else
    let code := (optString value "error_code").getD "PROBE_FAILED"
    let detail :=
      match (value.get "http_status").bind Value.asU64 with
      | some status => if code = "HTTP_STATUS" then "HTTP_STATUS " ++ toString status else code
      | none => code
    failedProbe nodeId .connect ⟨probeErrorCode code, detail⟩

/-- The items of an array, none of anything else. -/
def items : Value → List Value
  | .array items => items
  | _ => []

/-- What a task makes of the core's answer for its node. -/
def probeOne (method : ProbeMethod) (nodeId : String) (answer : Except CoreCallError Value) :
    ProbeResult :=
  match method with
  | .connect =>
    match answer with
    | .ok value => availabilityToProbe value nodeId
    | .error error => failedProbe nodeId method (info error .probeFailed)
  | .icmp | .tcp =>
    match answer with
    | .ok value =>
      let results := items value
      match ((results.find? fun result => (result.get "node_id").bind Value.asStr = some nodeId).or
          results.head?) with
      | some result => entranceToProbe result method nodeId
      | none => failedProbe nodeId method ⟨.probeFailed, "EMPTY_PROBE_RESULT"⟩
    | .error error => failedProbe nodeId method (info error .probeFailed)

/-- Every result is for the node that was asked for. -/
theorem probeOne_nodeId (method : ProbeMethod) (nodeId : String)
    (answer : Except CoreCallError Value) :
    (probeOne method nodeId answer).nodeId = nodeId := by
  have entrance : ∀ value, (entranceToProbe value method nodeId).nodeId = nodeId := by
    intro value
    unfold entranceToProbe
    split <;> rfl
  have available : ∀ value, (availabilityToProbe value nodeId).nodeId = nodeId := by
    intro value
    unfold availabilityToProbe
    split <;> rfl
  unfold probeOne
  split
  · split
    · exact available _
    · rfl
  all_goals
    split
    · dsimp only
      split
      · exact entrance _
      · rfl
    · rfl

/-- The result of a node that was not heard of. -/
def timedOut (method : ProbeMethod) (nodeId : String) : ProbeResult :=
  failedProbe nodeId method ⟨.timeout, "PROBE_DEADLINE"⟩

/-! ## The test -/

/-- Each once, in the order of their first. -/
def distinct (seen : List String) : List String → List String
  | [] => []
  | id :: rest => if id ∈ seen then distinct seen rest else id :: distinct (id :: seen) rest

/-- The ids of the core's own list. -/
def listNodeIds (answer : Value) : List String := (items answer).filterMap (optString · "id")

inductive Stage where
  | waiting
  /-- It has a permit, and asks the core. -/
  | probing
  /-- It sent its result, panicked or was aborted. -/
  | ended
  deriving DecidableEq

structure Task where
  nodeId : String
  stage : Stage := .waiting

/-- Where `run_probe` is. -/
inductive Main where
  | called
  | spawning (rest : List String)
  | receiving
  | filling (rest : List String)
  | returned (ok : Bool)
  deriving DecidableEq

structure Sys where
  main : Main := .called
  /-- What is to be probed. -/
  nodeIds : List String := []
  tasks : List Task := []
  permits : Nat := 0
  /-- What was sent and not received. -/
  channel : List ProbeResult := []
  pending : Finset String := ∅
  /-- What `on_result` was called with. -/
  reported : List ProbeResult := []
  /-- What was received. -/
  received : List ProbeResult := []
  /-- The nodes of the request, or of the core's list. -/
  wanted : List String := []

/-- What is asked for; the core's list is only read when no node is. -/
structure Request where
  method : ProbeMethod
  nodeIds : List String
  concurrency : Nat

inductive Action where
  /-- The nodes are known, with the core's answer when it has to be asked. -/
  | start (listed : Except CoreCallError Value)
  | spawn
  | acquire (i : Nat)
  | finish (i : Nat) (answer : Except CoreCallError Value)
  | panic (i : Nat)
  /-- A task is cut off, once nothing is received any more. -/
  | abort (i : Nat)
  /-- A result, the end of the channel, the deadline. -/
  | receive
  | closed
  | deadline
  | fill

namespace Sys

def setStage (s : Sys) (i : Nat) (stage : Stage) : Sys :=
  { s with tasks := s.tasks.modify i ({ · with stage }) }

/-- The tasks of the nodes are spawned one by one. -/
def begun (s : Sys) (request : Request) (wanted nodeIds : List String) : Sys :=
  if nodeIds = [] then { s with main := .returned true, wanted }
  else
    { s with
      main := .spawning nodeIds
      nodeIds
      wanted
      permits := max request.concurrency 1 }

/-- The loop goes on while a node is pending. -/
def loop (s : Sys) : Sys :=
  if s.pending = ∅ then { s with main := .filling s.nodeIds } else { s with main := .receiving }

/-- One step; none where it cannot be taken. -/
def act (request : Request) (s : Sys) : Action → Option Sys
  | .start listed =>
    match s.main with
    | .called =>
      if request.nodeIds = [] then
        match listed with
        | .ok answer => some (s.begun request (listNodeIds answer) (listNodeIds answer))
        | .error _ => some { s with main := .returned false }
      else some (s.begun request request.nodeIds (distinct [] request.nodeIds))
    | _ => none
  | .spawn =>
    match s.main with
    | .spawning (id :: rest) =>
      some { s with main := .spawning rest, tasks := s.tasks ++ [{ nodeId := id }] }
    | .spawning [] => some { s with pending := s.nodeIds.toFinset }.loop
    | _ => none
  | .acquire i => do
    let task ← s.tasks[i]?
    if task.stage = .waiting ∧ 0 < s.permits then
      some { s.setStage i .probing with permits := s.permits - 1 }
    else none
  | .finish i answer => do
    let task ← s.tasks[i]?
    if task.stage = .probing then
      some { s.setStage i .ended with
        permits := s.permits + 1
        channel := s.channel ++ [probeOne request.method task.nodeId answer] }
    else none
  | .panic i => do
    let task ← s.tasks[i]?
    if task.stage = .probing then some { s.setStage i .ended with permits := s.permits + 1 }
    else none
  | .abort i => do
    let task ← s.tasks[i]?
    match s.main with
    | .filling _ | .returned _ =>
      some { s.setStage i .ended with
        permits := if task.stage = .probing then s.permits + 1 else s.permits }
    | _ => none
  | .receive =>
    match s.main, s.channel with
    | .receiving, result :: channel =>
      if result.nodeId ∈ s.pending then
        some { s with
          channel
          received := s.received ++ [result]
          pending := s.pending.erase result.nodeId
          reported := s.reported ++ [result] }.loop
      else some { s with channel, received := s.received ++ [result] }.loop
    | _, _ => none
  | .closed =>
    match s.main, s.channel with
    | .receiving, [] =>
      if s.tasks.all fun task => task.stage = .ended then some { s with main := .filling s.nodeIds }
      else none
    | _, _ => none
  | .deadline =>
    match s.main with
    | .receiving => some { s with main := .filling s.nodeIds }
    | _ => none
  | .fill =>
    match s.main with
    | .filling (id :: rest) =>
      if id ∈ s.pending then
        some { s with
          main := .filling rest
          pending := s.pending.erase id
          reported := s.reported ++ [timedOut request.method id] }
      else some { s with main := .filling rest }
    | .filling [] => some { s with main := .returned true }
    | _ => none

end Sys

inductive Reaches (request : Request) : Sys → Prop
  | start : Reaches request {}
  | step {s s' : Sys} {a : Action} (before : Reaches request s)
      (taken : s.act request a = some s') : Reaches request s'

/-! ## Who is reported -/

/-- The first result received of a node. -/
def Sys.heard (s : Sys) (node : String) : Option ProbeResult :=
  s.received.find? (·.nodeId = node)

/-- What the request names, or without any what the core listed. -/
inductive Wants (request : Request) : List String → Prop
  | named (any : request.nodeIds ≠ []) : Wants request request.nodeIds
  | listed (none : request.nodeIds = []) (answer : Value) : Wants request (listNodeIds answer)

/-- Nothing was reported before every task is spawned. -/
def Main.early : Main → Prop
  | .called | .spawning _ => True
  | _ => False

structure Good (request : Request) (s : Sys) : Prop where
  wants : s.main ≠ .called → s.main ≠ .returned false → Wants request s.wanted
  /-- What is probed is what was wanted. -/
  known : ∀ node, node ∈ s.nodeIds ↔ node ∈ s.wanted
  tasks : ∀ task ∈ s.tasks, task.nodeId ∈ s.nodeIds
  spawned : ∀ rest, s.main = .spawning rest → ∀ node ∈ rest, node ∈ s.nodeIds
  sent : ∀ result ∈ s.channel ++ s.received,
    result.nodeId ∈ s.nodeIds ∧ ∃ answer, result = probeOne request.method result.nodeId answer
  early : s.main.early → s.pending = ∅ ∧ s.reported = [] ∧ s.received = []
  /-- A node of the test is pending or was reported once. -/
  counted : ¬ s.main.early → s.main ≠ .returned false → ∀ node,
    (s.reported.map (·.nodeId)).count node + (if node ∈ s.pending then 1 else 0) =
      if node ∈ s.nodeIds then 1 else 0
  /-- Every report but a timeout is the first result received. -/
  first : ∀ result ∈ s.reported, s.heard result.nodeId = some result ∨
    (∃ rest, s.main = .filling rest ∨ s.main = .returned true) ∧
      s.heard result.nodeId = none ∧ result = timedOut request.method result.nodeId
  unheard : ∀ node ∈ s.pending, s.heard node = none
  filled : ∀ rest, s.main = .filling rest → ∀ node ∈ s.pending, node ∈ rest
  done : s.main = .returned true → s.pending = ∅
  fresh : s.main = .called → s = {}

variable {request : Request} {s s' : Sys}

theorem mem_distinct {seen ids : List String} {node : String} :
    node ∈ distinct seen ids ↔ node ∈ ids ∧ node ∉ seen := by
  induction ids generalizing seen with
  | nil => simp [distinct]
  | cons id rest ih =>
    rw [distinct]
    by_cases old : id ∈ seen
    · rw [if_pos old, ih]
      by_cases same : node = id
      · simp [same, old]
      · simp [same]
    · rw [if_neg old, List.mem_cons, ih]
      by_cases same : node = id
      · simp [same, old]
      · simp [same]

/-- A step of a task leaves the test as it is. -/
theorem Good.task (good : Good request s) (begun : s.main ≠ .called) {i : Nat} {stage : Stage}
    {permits : Nat} : Good request { s.setStage i stage with permits } := by
  refine { good with
    tasks := ?_
    fresh := fun called => absurd called begun }
  intro task mem
  obtain ⟨j, here⟩ := List.getElem?_of_mem mem
  have here : (s.tasks.modify i ({ · with stage }))[j]? = some task := here
  rw [List.getElem?_modify] at here
  obtain ⟨before, there, same⟩ := Option.map_eq_some_iff.1 here
  have known := good.tasks before (List.mem_of_getElem? there)
  rw [← same]
  show (if i = j then { before with stage } else before).nodeId ∈ _
  split
  · exact known
  · exact known

/-- What a task sends. -/
theorem Good.send (good : Good request s) (begun : s.main ≠ .called) {i : Nat} {task : Task}
    (here : s.tasks[i]? = some task)
    (answer : Except CoreCallError Value) :
    Good request { s with
      channel := s.channel ++ [probeOne request.method task.nodeId answer] } := by
  refine { good with
    sent := ?_
    fresh := fun called => absurd called begun }
  intro result mem
  simp only [List.append_assoc, List.mem_append, List.mem_singleton] at mem
  rcases mem with waiting | rfl | received
  · exact good.sent result (List.mem_append_left _ waiting)
  · rw [probeOne_nodeId]
    exact ⟨good.tasks task (List.mem_of_getElem? here), answer, rfl⟩
  · exact good.sent result (List.mem_append_right _ received)

/-- Past the spawning every node is counted, also when it ended with Ok. -/
theorem Good.passed (good : Good request s) {main : Main} (now : s.main = main)
    (late : ¬ main.early)
    (fine : main ≠ .returned false) : Wants request s.wanted ∧ ∀ node,
      (s.reported.map (·.nodeId)).count node + (if node ∈ s.pending then 1 else 0) =
        if node ∈ s.nodeIds then 1 else 0 := by
  subst now
  refine ⟨good.wants (fun called => late ?_) fine, good.counted late fine⟩
  rw [called]
  trivial

/-- The loop is left for the nodes that are still pending. -/
theorem Good.leave (good : Good request s) (receiving : s.main = .receiving) :
    Good request { s with main := .filling s.nodeIds } := by
  obtain ⟨wants, counted⟩ := good.passed receiving id (fun h => by cases h)
  refine ⟨fun _ _ => wants, good.known, good.tasks, fun _ h => (by cases h), good.sent,
    fun h => h.elim, fun _ _ => counted, ?_, good.unheard, ?_, fun h => (by cases h),
    fun h => (by cases h)⟩
  · intro result mem
    rcases good.first result mem with heard | ⟨⟨rest, filling | returned⟩, -⟩
    · exact .inl heard
    · rw [receiving] at filling
      cases filling
    · rw [receiving] at returned
      cases returned
  · intro rest same node pending
    cases same
    have one := counted node
    rw [if_pos pending] at one
    by_contra other
    rw [if_neg other] at one
    omega

/-- The next turn of the loop. -/
theorem Good.loop (good : Good request s) (receiving : s.main = .receiving) :
    Good request s.loop := by
  unfold Sys.loop
  split
  · exact good.leave receiving
  · rw [← receiving]
    exact good

/-- The nodes are known; without any the test is over. -/
theorem Good.begun {wanted nodeIds : List String} (wants : Wants request wanted)
    (same : ∀ node, node ∈ nodeIds ↔ node ∈ wanted) :
    Good request (Sys.begun {} request wanted nodeIds) := by
  unfold Sys.begun
  split
  next none =>
    subst none
    exact ⟨fun _ _ => wants, same, fun _ h => (by cases h), fun _ h => (by cases h),
      fun _ h => (by cases h), fun _ => ⟨rfl, rfl, rfl⟩, fun _ _ _ => rfl, fun _ h => (by cases h),
      fun _ h => (by cases h),
      fun _ h => (by cases h), fun _ => rfl, fun h => (by cases h)⟩
  next =>
    refine ⟨fun _ _ => wants, same, fun _ h => (by cases h), ?_, fun _ h => (by cases h),
      fun _ => ⟨rfl, rfl, rfl⟩, fun late => absurd trivial late, fun _ h => (by cases h),
      fun _ h => (by cases h),
      fun _ h => (by cases h), fun _ => rfl, fun h => (by cases h)⟩
    intro rest now node mem
    cases now
    exact mem

/-- Once the tasks are spawned every node is pending. -/
theorem Good.await (good : Good request s) (spawned : s.main = .spawning []) :
    Good request { s with main := .receiving, pending := s.nodeIds.toFinset } := by
  obtain ⟨-, silent, unreceived⟩ := good.early (by rw [spawned]; trivial)
  have wants : Wants request s.wanted :=
    good.wants (by rw [spawned]; exact fun h => by cases h)
      (by rw [spawned]; exact fun h => by cases h)
  refine ⟨fun _ _ => wants, good.known, good.tasks, fun _ h => (by cases h), good.sent,
    fun h => h.elim, ?_, ?_, ?_, fun _ h => (by cases h), fun h => (by cases h),
    fun h => (by cases h)⟩
  · intro _ _ node
    simp [silent]
  · intro result mem
    rw [silent] at mem
    cases mem
  · intro node _
    rw [Sys.heard, unreceived]
    rfl

theorem heard_append {node : String} {result : ProbeResult}
    (received : s'.received = s.received ++ [result]) :
    s'.heard node = (s.heard node).or (if result.nodeId = node then some result else none) := by
  unfold Sys.heard
  rw [received, List.find?_append]
  by_cases same : result.nodeId = node
  · simp [same]
  · simp [same]

/-- What a received result makes of the reports; those of the other nodes stay. -/
theorem Good.receive (good : Good request s) (receiving : s.main = .receiving)
    {result : ProbeResult}
    {channel : List ProbeResult} (waiting : s.channel = result :: channel) :
    Good request { s with
      channel
      received := s.received ++ [result]
      pending := s.pending.erase result.nodeId
      reported := if result.nodeId ∈ s.pending then s.reported ++ [result] else s.reported } := by
  obtain ⟨wants, counted⟩ := good.passed receiving id (fun h => by cases h)
  have heard : ∀ old ∈ s.reported, s.heard old.nodeId = some old := by
    intro old mem
    rcases good.first old mem with heard | ⟨⟨rest, filling | returned⟩, -⟩
    · exact heard
    · rw [receiving] at filling
      cases filling
    · rw [receiving] at returned
      cases returned
  have sent : ∀ other ∈ channel ++ (s.received ++ [result]), other ∈ s.channel ++ s.received := by
    intro other mem
    rw [waiting]
    simp only [List.mem_append, List.mem_cons, List.not_mem_nil, or_false] at mem ⊢
    tauto
  refine ⟨fun _ _ => wants, good.known, good.tasks, good.spawned,
    fun other mem => good.sent other (sent other mem),
    (by rw [receiving]; exact fun h => h.elim), ?_, ?_, ?_, ?_, ?_, ?_⟩
  · intro _ _ node
    have one := counted node
    by_cases pending : result.nodeId ∈ s.pending
    · dsimp only
      rw [if_pos pending, List.map_append, List.count_append, List.map_singleton,
        List.count_singleton]
      by_cases same : result.nodeId = node
      · subst same
        rw [if_pos pending] at one
        simpa using one
      · have other : node ≠ result.nodeId := Ne.symm same
        simpa [same, other] using one
    · rw [Finset.erase_eq_of_notMem pending]
      simpa [pending] using one
  · intro other mem
    left
    dsimp only at mem
    rw [heard_append rfl]
    by_cases pending : result.nodeId ∈ s.pending
    · rw [if_pos pending, List.mem_append, List.mem_singleton] at mem
      rcases mem with old | rfl
      · rw [heard other old]
        rfl
      · rw [good.unheard other.nodeId pending, if_pos rfl]
        rfl
    · rw [if_neg pending] at mem
      rw [heard other mem]
      rfl
  · intro node mem
    obtain ⟨other, pending⟩ := Finset.mem_erase.1 mem
    rw [heard_append rfl, good.unheard node pending, if_neg (Ne.symm other)]
    rfl
  · intro rest filling
    dsimp only at filling
    rw [receiving] at filling
    cases filling
  · intro returned
    dsimp only at returned
    rw [receiving] at returned
    cases returned
  · intro called
    dsimp only at called
    rw [receiving] at called
    cases called

/-- One node is filled: it is reported as timed out when it is still pending. -/
theorem Good.fill (good : Good request s) {id : String} {rest : List String}
    (filling : s.main = .filling (id :: rest)) :
    Good request { s with
      main := .filling rest
      pending := s.pending.erase id
      reported :=
        if id ∈ s.pending then s.reported ++ [timedOut request.method id] else s.reported } := by
  obtain ⟨wants, counted⟩ := good.passed filling (fun h => h) (fun h => by cases h)
  refine ⟨fun _ _ => wants, good.known, good.tasks, fun _ h => (by cases h), good.sent,
    fun h => h.elim, ?_, ?_, ?_, ?_, fun h => (by cases h), fun h => (by cases h)⟩
  · intro _ _ node
    have one := counted node
    by_cases pending : id ∈ s.pending
    · dsimp only
      rw [if_pos pending, List.map_append, List.count_append, List.map_singleton,
        List.count_singleton]
      show _ + (if (id == node) = true then 1 else 0) + _ = _
      by_cases same : id = node
      · subst same
        rw [if_pos pending] at one
        simpa using one
      · have other : node ≠ id := Ne.symm same
        simpa [same, other] using one
    · rw [Finset.erase_eq_of_notMem pending]
      simpa [pending] using one
  · intro result mem
    have old : ∀ result ∈ s.reported, s.heard result.nodeId = some result ∨
        (∃ rest', Main.filling rest = .filling rest' ∨ Main.filling rest = .returned true) ∧
          s.heard result.nodeId = none ∧ result = timedOut request.method result.nodeId := by
      intro result mem
      rcases good.first result mem with heard | ⟨-, unheard⟩
      · exact .inl heard
      · exact .inr ⟨⟨rest, .inl rfl⟩, unheard⟩
    by_cases pending : id ∈ s.pending
    · rw [if_pos pending, List.mem_append, List.mem_singleton] at mem
      rcases mem with before | rfl
      · exact old result before
      · exact .inr ⟨⟨rest, .inl rfl⟩, good.unheard id pending, rfl⟩
    · rw [if_neg pending] at mem
      exact old result mem
  · intro node mem
    exact good.unheard node (Finset.mem_of_mem_erase mem)
  · intro left same node mem
    cases same
    obtain ⟨other, pending⟩ := Finset.mem_erase.1 mem
    rcases List.mem_cons.1 (good.filled _ filling node pending) with same | later
    · exact absurd same other
    · exact later

/-- Every node is filled. -/
theorem Good.finish (good : Good request s) (filled : s.main = .filling []) :
    Good request { s with main := .returned true } := by
  obtain ⟨wants, counted⟩ := good.passed filled id (fun h => by cases h)
  refine ⟨fun _ _ => wants, good.known, good.tasks, fun _ h => (by cases h), good.sent,
    fun h => h.elim, fun _ _ => counted, ?_, good.unheard, fun _ h => (by cases h), fun _ => ?_,
    fun h => (by cases h)⟩
  · intro result mem
    rcases good.first result mem with heard | ⟨-, unheard⟩
    · exact .inl heard
    · exact .inr ⟨⟨[], .inr rfl⟩, unheard⟩
  · refine Finset.eq_empty_of_forall_notMem fun node pending => ?_
    have none := good.filled [] filled node pending
    cases none

theorem Good.spawn (good : Good request s) {id : String} {rest : List String}
    (spawning : s.main = .spawning (id :: rest)) :
    Good request { s with main := .spawning rest, tasks := s.tasks ++ [{ nodeId := id }] } := by
  have known := good.spawned _ spawning
  have early := good.early (by rw [spawning]; trivial)
  have wants : Wants request s.wanted :=
    good.wants (by rw [spawning]; exact fun h => by cases h)
      (by rw [spawning]; exact fun h => by cases h)
  refine ⟨fun _ _ => wants, good.known, ?_, ?_, good.sent, fun _ => early,
    fun late => absurd trivial late, ?_, good.unheard, fun _ h => (by cases h),
    fun h => (by cases h), fun h => (by cases h)⟩
  · intro task mem
    rcases List.mem_append.1 mem with old | new
    · exact good.tasks task old
    · rw [List.mem_singleton.1 new]
      exact known id List.mem_cons_self
  · intro left same node mem
    cases same
    exact known node (List.mem_cons_of_mem _ mem)
  · intro result mem
    rw [early.2.1] at mem
    cases mem

/-- Tasks are only there once the nodes are known. -/
theorem Good.started (good : Good request s) {i : Nat} {task : Task}
    (here : s.tasks[i]? = some task) :
    s.main ≠ .called := by
  intro called
  rw [good.fresh called] at here
  cases here

theorem Good.act (good : Good request s) {a : Action} (taken : s.act request a = some s') :
    Good request s' := by
  unfold Sys.act at taken
  cases a with
  | start listed =>
    dsimp only at taken
    split at taken
    next called =>
      obtain rfl := good.fresh called
      split at taken
      next none =>
        split at taken
        · cases taken
          exact Good.begun (.listed none _) fun _ => Iff.rfl
        · cases taken
          exact { good with
            wants := fun _ passed => absurd rfl passed
            spawned := fun _ h => (by cases h)
            early := fun h => h.elim
            counted := fun _ passed => absurd rfl passed
            first := fun _ h => (by cases h)
            filled := fun _ h => (by cases h)
            done := fun h => (by cases h)
            fresh := fun h => (by cases h) }
      next any =>
        cases taken
        refine Good.begun (.named any) fun node => ?_
        rw [mem_distinct]
        exact and_iff_left List.not_mem_nil
    next => cases taken
  | spawn =>
    dsimp only at taken
    split at taken
    next spawning =>
      cases taken
      exact good.spawn spawning
    next spawned =>
      cases taken
      exact (good.await spawned).loop rfl
    next => cases taken
  | acquire i =>
    obtain ⟨task, here, taken⟩ := Option.bind_eq_some_iff.1 taken
    split at taken
    · cases taken
      exact good.task (good.started here)
    · cases taken
  | finish i answer =>
    obtain ⟨task, here, taken⟩ := Option.bind_eq_some_iff.1 taken
    split at taken
    · cases taken
      exact (good.send (good.started here) here answer).task (good.started here)
    · cases taken
  | panic i =>
    obtain ⟨task, here, taken⟩ := Option.bind_eq_some_iff.1 taken
    split at taken
    · cases taken
      exact good.task (good.started here)
    · cases taken
  | abort i =>
    obtain ⟨task, here, taken⟩ := Option.bind_eq_some_iff.1 taken
    split at taken
    · cases taken
      exact good.task (good.started here)
    · cases taken
      exact good.task (good.started here)
    · cases taken
  | receive =>
    dsimp only at taken
    split at taken
    next result channel receiving waiting =>
      have after := good.receive receiving waiting
      split at taken
      next pending =>
        cases taken
        rw [if_pos pending] at after
        exact after.loop receiving
      next pending =>
        cases taken
        rw [if_neg pending, Finset.erase_eq_of_notMem pending] at after
        exact after.loop receiving
    next => cases taken
  | closed =>
    dsimp only at taken
    split at taken
    next receiving empty =>
      split at taken
      · cases taken
        exact good.leave receiving
      · cases taken
    next => cases taken
  | deadline =>
    dsimp only at taken
    split at taken
    next receiving =>
      cases taken
      exact good.leave receiving
    next => cases taken
  | fill =>
    dsimp only at taken
    split at taken
    next id rest filling =>
      have after := good.fill filling
      split at taken
      next pending =>
        cases taken
        rw [if_pos pending] at after
        exact after
      next pending =>
        cases taken
        rw [if_neg pending, Finset.erase_eq_of_notMem pending] at after
        exact after
    next filled =>
      cases taken
      exact good.finish filled
    next => cases taken

theorem Reaches.good (reached : Reaches request s) : Good request s := by
  induction reached with
  | start =>
    exact ⟨fun begun => absurd rfl begun, fun _ => Iff.rfl, fun _ h => (by cases h),
      fun _ h => (by cases h), fun _ h => (by cases h), fun _ => ⟨rfl, rfl, rfl⟩,
      fun late => absurd trivial late, fun _ h => (by cases h), fun _ h => (by cases h),
      fun _ h => (by cases h), fun h => (by cases h), fun _ => rfl⟩
  | step before taken ih => exact ih.act taken

def Sys.play (request : Request) : Sys → List Action → Option Sys
  | s, [] => some s
  | s, a :: rest => (s.act request a).bind fun s' => s'.play request rest

theorem Reaches.play {actions : List Action} (reached : Reaches request s)
    (played : s.play request actions = some s') : Reaches request s' := by
  induction actions generalizing s with
  | nil =>
    cases played
    exact reached
  | cons a rest ih =>
    obtain ⟨mid, taken, played⟩ := Option.bind_eq_some_iff.1 played
    exact ih (.step reached taken) played

/-- The task of `a` panics, that of `b` answers, and the deadline comes. -/
def panicked : List Action :=
  [.start (.ok .null), .spawn, .spawn, .spawn, .acquire 0, .panic 0, .acquire 1,
   .finish 1 (.ok (.array [.object [("node_id", .string "b"), ("success", .bool true)]])),
   .receive, .deadline, .fill, .fill, .fill]

end PpvpnCore.Desktop.SpeedTest
