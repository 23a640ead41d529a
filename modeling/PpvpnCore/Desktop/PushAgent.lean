import Mathlib.Data.List.Sort
import PpvpnCore.Lib.Beside
import PpvpnCore.Lib.Lives

/-!
# The push agent

What `desktop/src/push_agent.rs` and `push_shown.rs` do in the process that
shows pushes while the app is closed: a tick reads the agent file, offers again
what could not be shown, acknowledges what was, and pulls. Memory is passed
along; the files, the server and the system are reached by steps of their own.
-/

namespace PpvpnCore.Desktop.PushAgent

open Lib

/-- The crates that read the texts of a push. -/
class PushText where
  /-- A link against the site root, of an API base. -/
  absoluteLink : String → String → Option String
  /-- Seconds since the epoch. -/
  parseRfc3339 : String → Option Nat

inductive MessageSeverity where
  | critical | important | normal | unspecified
  deriving DecidableEq, Repr

inductive MessageCategory where
  | subscriptionExpiring | subscriptionExpired | billing | order | route | announcement | other
  deriving DecidableEq, Repr

def severity (value : String) : MessageSeverity :=
  if value = "critical" then .critical
  else if value = "important" then .important
  else if value = "normal" then .normal
  else .unspecified

/-- From the backend message type and event key; the first match wins. -/
def category (kind eventKey : String) : MessageCategory :=
  if "subscription.expire_reminder".toList.isPrefixOf eventKey.toList then .subscriptionExpiring
  else if eventKey ∈ ["subscription.expired", "subscription.suspended", "subscription.past_due"] then
    .subscriptionExpired
  else if kind ∈ ["invoice", "wallet"] ∨ eventKey = "proxy.auto_renew_failed" then .billing
  else if kind = "order" then .order
  else if kind = "proxy" then .route
  else if kind ∈ ["broadcast", "campaign", "marketing"] then .announcement
  else if "broadcast:".toList.isPrefixOf eventKey.toList then .announcement
  else .other

structure PushItem where
  id : Nat
  messageId : Option Nat := none
  title : String := ""
  body : String := ""
  deepLink : String := ""
  severity : String := ""
  eventKey : String := ""
  createdAt : String := ""
  deriving DecidableEq, Repr

structure PullResponse where
  items : List PushItem := []
  cursor : Nat := 0
  deriving DecidableEq, Repr

structure PushMessage where
  id : Nat
  messageId : Option Nat
  title : String
  body : String
  severity : MessageSeverity
  category : MessageCategory
  eventKey : String
  deepLink : Option String
  createdAt : String
  deriving DecidableEq, Repr

/-- The event key's first segment stands in for the message type. -/
def toPushMessage [PushText] (item : PushItem) (apiBase : String) : PushMessage where
  id := item.id
  messageId := item.messageId
  title := item.title
  body := item.body
  severity := PushAgent.severity item.severity
  category := category (String.ofList (item.eventKey.toList.takeWhile (· ≠ '.'))) item.eventKey
  eventKey := item.eventKey
  deepLink := PushText.absoluteLink apiBase item.deepLink
  createdAt := item.createdAt

/-! ## Files -/

/-- `push-agent.json`. -/
structure AgentFile where
  apiBase : String
  deviceId : Nat
  pushToken : String
  installationId : String
  deriving DecidableEq, Repr

/-- `push-agent-cursor.json`. -/
structure CursorFile where
  deviceId : Nat
  cursor : Nat
  deriving DecidableEq, Repr

/-- An entry of `push-agent-shown.json`. -/
structure Entry where
  message : PushMessage
  shownAt : Nat
  deriving DecidableEq, Repr

/-- The files, none or empty where missing or unreadable, and the clocks. -/
structure Disk where
  agent : Option AgentFile := none
  cursor : Option CursorFile := none
  shown : List Entry := []
  /-- Seconds since the epoch. -/
  now : Nat := 0
  instant : Nat := 0
  deriving DecidableEq, Repr

def maxEntries : Nat := 50
def ttlSecs : Nat := 7 * 24 * 60 * 60
def ackBatch : Nat := 100
def pendingTtlSecs : Nat := 24 * 60 * 60
def idleRecheck : Nat := 10
def pendingRetry : Nat := 5 * 60
def rateLimitedWait : Nat := 60
def backoffMin : Nat := 1
def backoffMax : Nat := 60

def live (entry : Entry) (now : Nat) : Bool := now - entry.shownAt < ttlSecs

/-- The entries once `message` was shown: one of its id replaced, the old and
all but the newest dropped. -/
def recordAt (entries : List Entry) (message : PushMessage) (now : Nat) : List Entry :=
  let entries := (entries.filter (live · now)).filter (·.message.id ≠ message.id) ++ [⟨message, now⟩]
  entries.drop (entries.length - maxEntries)

def loadCursor (file : Option CursorFile) (deviceId : Nat) : Nat :=
  ((file.filter fun file => file.deviceId = deviceId).map (·.cursor)).getD 0

/-- Nothing at or below it is still waiting to be shown or acknowledged. -/
def safeCursor (open_ : List Nat) (ackedMax start : Nat) : Nat :=
  match open_.min? with
  | some lowest => lowest - 1
  | none => max ackedMax start

/-- When the server-side TTL ends: from `created_at`, else first seen. -/
def expiresAt [PushText] (createdAt : String) (now : Nat) : Nat :=
  min ((PushText.parseRfc3339 createdAt).getD now + pendingTtlSecs) 0xffffffffffffffff

/-! ## Memory -/

structure Pending where
  message : PushMessage
  expiresAt : Nat
  deriving DecidableEq, Repr

/-- In memory for one agent file. -/
structure Session where
  file : AgentFile
  /-- Where the next pull starts: past everything received. -/
  cursor : Nat
  /-- The persisted cursor, as loaded. -/
  startCursor : Nat
  ackedMax : Nat := 0
  /-- Shown, not yet acknowledged, in order. -/
  unacked : List Nat := []
  /-- Not shown yet. -/
  pending : List Pending := []
  nextRetry : Nat
  revoked : Bool := false
  deriving DecidableEq, Repr

def insertId (ids : List Nat) (id : Nat) : List Nat :=
  if id ∈ ids then ids else ids.orderedInsert (· ≤ ·) id

inductive PushAgentState where
  | idle (reason : String) | running | revoked
  deriving DecidableEq, Repr

structure Engine where
  state : Option PushAgentState := none
  session : Option Session := none
  backoff : Nat := backoffMin
  deriving DecidableEq, Repr

/-! ## Steps -/

inductive Place where
  | readAgent | loadCursor | clock | instant | readShown
  deriving DecidableEq, Repr

/-- How a pull ends: with an answer, or abandoned for `retry_pending` or
`stop`. A base that no request can be made of is `other`. -/
inductive Pulled where
  | ok (response : PullResponse)
  | unauthorized | rateLimited | unprocessable | other
  | retry | stop
  deriving DecidableEq, Repr

inductive Acked where
  | success | unauthorized | failed
  deriving DecidableEq, Repr

/-- How a wait ends, and whether the agent was stopped by then. -/
inductive Woken where
  | elapsed (stopped : Bool) | retry (stopped : Bool) | stop
  deriving DecidableEq, Repr

inductive Call where
  | stopped
  | onState (state : PushAgentState)
  /-- For the session of `file`. -/
  | onPush (file : AgentFile) (message : PushMessage)
  | writeShown (entries : List Entry)
  | writeCursor (file : CursorFile)
  | pull (file : AgentFile) (after : Nat)
  | ack (file : AgentFile) (ids : List Nat)
  | wait (secs : Nat)
  deriving DecidableEq, Repr

def Answer : Call → Type
  | .stopped => Bool
  | .onState _ => Unit
  | .onPush _ _ => Bool
  | .writeShown _ => Bool
  | .writeCursor _ => Bool
  | .pull _ _ => Pulled
  | .ack _ _ => Acked
  | .wait _ => Woken

abbrev Task := Prog Disk Place Answer

def effect : (c : Call) → Answer c → Disk → Disk
  | .writeShown entries, true, s => { s with shown := entries }
  | .writeCursor file, true, s => { s with cursor := some file }
  | _, _, s => s

def ask (c : Call) : Task (Answer c) := .call c .ret

/-! ## Offers -/

/-- `true` when shown; then it is recorded, best effort. -/
def offer (file : AgentFile) (message : PushMessage) : Task Bool := do
  let shown : Bool ← ask (.onPush file message)
  if shown then do
    let s ← Prog.get .readShown
    let _ ← ask (.writeShown (recordAt s.shown message s.now))
    pure true
  else pure false

variable [PushText]

def deliverItem (item : PushItem) (session : Session) : Task Session :=
  let message := toPushMessage item session.file.apiBase
  if item.id ∈ session.unacked ∨ item.id ∈ session.pending.map (·.message.id) then pure session
  else do
    let shown ← offer session.file message
    let session := { session with cursor := max session.cursor item.id }
    if shown then pure { session with unacked := insertId session.unacked item.id }
    else do
      let s ← Prog.get .clock
      pure { session with
        pending := session.pending ++ [⟨message, expiresAt item.createdAt s.now⟩] }

def deliverItems : List PushItem → Session → Task Session
  | [], session => pure session
  | item :: items, session => do
    let session ← deliverItem item session
    deliverItems items session

def deliver (response : PullResponse) (session : Session) : Task Session := do
  let session ← deliverItems response.items session
  pure { session with cursor := max session.cursor response.cursor }

omit [PushText] in
/-- Best effort. -/
def persistCursor (session : Session) : Task Unit := do
  let cursor := safeCursor (session.pending.map (·.message.id) ++ session.unacked) session.ackedMax
    session.startCursor
  let _ ← ask (.writeCursor ⟨session.file.deviceId, cursor⟩)
  pure ()

omit [PushText] in
/-- What is still not shown, and the ids of what was; the expired are dropped. -/
def retryEach (now : Nat) (file : AgentFile) : List Pending → Task (List Pending × List Nat)
  | [] => pure ([], [])
  | entry :: rest =>
    if entry.expiresAt ≤ now then retryEach now file rest
    else do
      let shown ← offer file entry.message
      let (still, ids) ← retryEach now file rest
      pure (if shown then (still, entry.message.id :: ids) else (entry :: still, ids))

omit [PushText] in
/-- Offers pending messages again when due. -/
def retryDue (session : Session) : Task Session := do
  let s ← Prog.get .instant
  if session.pending = [] ∨ s.instant < session.nextRetry then pure session
  else do
    let s ← Prog.get .instant
    let session := { session with nextRetry := s.instant + pendingRetry }
    let s ← Prog.get .clock
    let (still, shown) ← retryEach s.now session.file session.pending
    let session := { session with
      unacked := shown.foldl insertId session.unacked
      pending := still }
    -- Dropped messages no longer hold the cursor back.
    persistCursor session
    pure session

omit [PushText] in
/-- A batch was acknowledged. -/
def Session.acked (session : Session) (ids : List Nat) : Session :=
  { session with
    unacked := session.unacked.filter (· ∉ ids)
    ackedMax := ids.foldl max session.ackedMax }

omit [PushText] in
/-- At most `n` batches; the cursor is persisted after each. -/
def flushBatches : (n : Nat) → Session → Task Session
  | 0, session => pure session
  | n + 1, session =>
    if session.unacked = [] then pure session
    else do
      let ids := session.unacked.take ackBatch
      let sent : Acked ← ask (.ack session.file ids)
      match sent with
      | .success => do
        let session := session.acked ids
        persistCursor session
        flushBatches n session
      | .unauthorized => pure { session with revoked := true }
      | .failed => pure session

omit [PushText] in
/-- Each batch has one id at least. -/
def flushAcks (session : Session) : Task Session :=
  flushBatches session.unacked.length session

/-! ## A tick -/

omit [PushText] in
def setState (state : PushAgentState) (engine : Engine) : Task Engine :=
  if engine.state = some state then pure engine
  else do
    let _ ← ask (.onState state)
    pure { engine with state := some state }

omit [PushText] in
def forceRetry (engine : Engine) : Task Engine := do
  let s ← Prog.get .instant
  pure { engine with session := engine.session.map ({ · with nextRetry := s.instant }) }

omit [PushText] in
/-- Whether the agent was stopped. -/
def wait (secs : Nat) (engine : Engine) : Task (Engine × Bool) := do
  let woken : Woken ← ask (.wait secs)
  match woken with
  | .elapsed stopped => pure (engine, stopped)
  | .stop => pure (engine, true)
  | .retry stopped => do
    let engine ← forceRetry engine
    pure (engine, stopped)

omit [PushText] in
def nextBackoff (engine : Engine) : Engine :=
  { engine with backoff := min (engine.backoff * 2) backoffMax }

omit [PushText] in
/-- The session of `file`: the engine's own, or a new one from the persisted
cursor. -/
def openSession (file : AgentFile) (engine : Engine) : Task (Session × Engine) :=
  match engine.session.filter (·.file = file) with
  | some session => pure (session, engine)
  | none => do
    let s ← Prog.get .loadCursor
    let start := loadCursor s.cursor file.deviceId
    let s ← Prog.get .instant
    let session : Session :=
      { file, cursor := start, startCursor := start, nextRetry := s.instant + pendingRetry }
    pure (session, { engine with session := some session, backoff := backoffMin })

/-- What comes of a pull. -/
def pulled (session : Session) (engine : Engine) : Pulled → Task (Engine × Bool)
  | .stop => pure (engine, true)
  -- This poll is abandoned, to retry now.
  | .retry => do
    let engine ← forceRetry engine
    pure (engine, false)
  | .ok response => do
    let session ← deliver response session
    let session ← flushAcks session
    pure ({ engine with session := some session, backoff := backoffMin }, false)
  | .unauthorized => do
    let engine ← setState .revoked { engine with session := some { session with revoked := true } }
    pure (engine, false)
  | .rateLimited => wait rateLimitedWait engine
  | .unprocessable | .other => wait engine.backoff (nextBackoff engine)

/-- One round; `true` when stopped. -/
def tick (engine : Engine) : Task (Engine × Bool) := do
  let s ← Prog.get .readAgent
  match s.agent with
  | none => do
    let engine ← setState (.idle "not registered (no push-agent.json)") { engine with session := none }
    wait idleRecheck engine
  | some file => do
    let (session, engine) ← openSession file engine
    if session.revoked then do
      let engine ← setState .revoked engine
      wait idleRecheck engine
    else do
      let engine ← setState .running engine
      let session ← retryDue session
      let session ← flushAcks session
      let engine := { engine with session := some session }
      let answer : Pulled ← ask (.pull session.file session.cursor)
      pulled session engine answer

/-- At most `n` rounds, until stopped. -/
def run : (n : Nat) → Engine → Task Engine
  | 0, engine => pure engine
  | n + 1, engine => do
    let stopped : Bool ← ask .stopped
    if stopped then pure engine
    else do
      let (engine, stopped) ← tick engine
      if stopped then pure engine else run n engine

end PpvpnCore.Desktop.PushAgent
