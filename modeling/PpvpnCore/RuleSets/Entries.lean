import PpvpnCore.RuleSets.Pinned
import PpvpnCore.RuleSets.Srs

/-!
The profile's rule sets and their local copies (`rulesets/mod.rs`): what an
apply prepares and what one download makes of an entry. The digest and the
zlib inflation are parameters, the state directory's files and the downloads'
outcomes are any.
-/

namespace PpvpnCore.RuleSets

open Lib
open Srs (Bytes)

/-! ## Entries -/

/-- Nanoseconds since the epoch. -/
abbrev Time := Int

inductive SetState where
  | ready
  | stale
  | unavailable
  deriving DecidableEq, Repr

structure LocalCopy where
  path : String
  sha256 : String
  mirrorDns : Bool
  deriving DecidableEq, Repr

structure Entry where
  set : RuleSet
  state : SetState := .unavailable
  updatedAt : Option Time := none
  err : String := ""
  copy : Option LocalCopy := none
  failures : Nat := 0
  due : Option Time := none
  deriving DecidableEq, Repr

structure Snapshot where
  pinned : List (List Char)
  entries : List Entry
  deriving DecidableEq, Repr

structure RuleSetFile where
  path : String
  mirrorDns : Bool
  deriving DecidableEq, Repr

def hostNotPinned : String := "RULE_SET_HOST_NOT_PINNED"
def sha256Mismatch : String := "RULE_SET_SHA256_MISMATCH"
def invalid : String := "RULE_SET_INVALID"
def storageFailed : String := "RULE_SET_STORAGE_FAILED"
def storageUnavailable : String := "RULE_SET_STORAGE_UNAVAILABLE"

def maxSize : Nat := 32 * 2 ^ 20

/-- The verified local copy of every set that has one, by id. -/
def Snapshot.files (s : Snapshot) : List (String × RuleSetFile) :=
  (s.entries.filter (·.state ≠ .unavailable)).filterMap fun e =>
    e.copy.map fun copy => (e.set.id, { path := copy.path, mirrorDns := copy.mirrorDns })

/-- Nothing can change before the next apply. -/
def Entry.stuck (e : Entry) : Bool := e.err = hostNotPinned ∨ e.err = storageUnavailable

structure Options where
  dir : Option String
  retryMin : Nat
  retryMax : Nat
  sha256Hex : Bytes → String
  inflate : Bytes → Except String Bytes
  /-- `DateTime::<Utc>::MAX_UTC`. -/
  maxUtc : Time

/-- The profile's digest in lowercase hex. -/
def sha256HexOf (set : RuleSet) : String := String.ofList (toAsciiLowercase set.sha256.toList)

section

variable (o : Options)

/-- The file of a rule set inside the directory. -/
def path (id : String) : Option String := do
  let dir ← o.dir
  if '/' ∈ id.toList then none else some (dir ++ "/" ++ id ++ ".srs")

/-- A cached file: what is in it and when it was written, where that can be told. -/
structure Cached where
  data : Bytes
  modified : Option Time

/-- Loads and inspects the cached copy of `id`; with its modification time. -/
def readLocal (files : String → Option Cached) (id : String) : Option (LocalCopy × Option Time) := do
  let path ← path o id
  let file ← files path
  if maxSize < file.data.length then none
  else
    let mirrorDns ← (Srs.inspect o.inflate file.data).toOption
    some ({ path, sha256 := o.sha256Hex file.data, mirrorDns }, file.modified)

/-! ## Downloads -/

inductive Fetched where
  /-- The body, and whether it could be written where the copy goes. -/
  | body (data : Bytes) (written : Bool)
  | notModified
  | failed (code : String)

/-- Verifies `body` against `want` and replaces the local copy. -/
def install (e : Entry) (body : Bytes) (written : Bool) (want : String) : Except String LocalCopy :=
  if o.sha256Hex body ≠ want then .error sha256Mismatch
  else
    match Srs.inspect o.inflate body with
    | .error _ => .error invalid
    | .ok mirrorDns =>
      match path o e.set.id with
      | none => .error storageFailed
      | some path =>
        if written then .ok { path, sha256 := want, mirrorDns } else .error storageFailed

def Entry.fetched (e : Entry) (now : Time) : Entry :=
  { e with state := .ready, err := "", failures := 0, updatedAt := some now }

def Entry.refused (e : Entry) (code : String) : Entry :=
  { e with err := code, failures := e.failures + 1 }

/-- What a download makes of the entry. -/
def fetchInto (e : Entry) (fetched : Fetched) (now : Time) : Entry :=
  let want := sha256HexOf e.set
  match fetched with
  | .notModified =>
    if e.copy.map LocalCopy.sha256 = some want then e.fetched now else e.refused sha256Mismatch
  | .body data written =>
    match install o e data written want with
    | .ok copy => { e with copy := some copy }.fetched now
    | .error code => e.refused code
  | .failed code => e.refused code

/-! ## Dues -/

def after (now : Time) (d : Nat) : Time := if now + d ≤ o.maxUtc then now + d else o.maxUtc

/-- Doubled so many times, or until it is `retryMax` or more. -/
def backoffFrom : (failures : Nat) → (backoff : Nat) → Nat
  | 0, backoff => backoff
  | failures + 1, backoff =>
    if o.retryMax ≤ backoff then backoff else backoffFrom failures (backoff * 2)

def interval (e : Entry) : Nat := e.set.updateInterval * 10 ^ 9

def nextDue (e : Entry) (now : Time) : Time :=
  if e.state = .ready ∨ e.stuck then after o now (interval e)
  else
    after o now (min (min (backoffFrom o (e.failures - 1) o.retryMin) o.retryMax) (interval e))

/-! ## Applies -/

/-- A profile's set before any download, and whether to download it. -/
def prepareEntry (pinned : List (List Char)) (previous : List Entry) (files : String → Option Cached)
    (now : Time) (set : RuleSet) : Entry × Bool :=
  let before := (previous.reverse.find? (·.set.id = set.id)).filter (·.set = set)
  let e : Entry :=
    { set := set, err := (before.map Entry.err).getD "", failures := (before.map Entry.failures).getD 0 }
  if o.dir = none then ({ e with err := storageUnavailable }, false)
  else
    let found := readLocal o files set.id
    let e := { e with copy := found.map Prod.fst }
    if e.copy.map LocalCopy.sha256 = some (sha256HexOf set) then
      (e.fetched ((found.bind Prod.snd).getD now), false)
    else
      let e := if e.copy.isSome ∧ hostPinned pinned set then { e with state := .stale } else e
      if !hostPinned pinned set then ({ e with err := hostNotPinned }, false) else (e, true)

/-- Resolves every set; `download` has the outcome of each set's download, when
there are any. -/
def prepare (pinned : List (List Char)) (previous : List Entry) (files : String → Option Cached)
    (download : Option (Nat → Fetched)) (now fetchedAt : Time) (sets : List RuleSet) : Snapshot :=
  let entries := sets.map (prepareEntry o pinned previous files now)
  let entries := entries.zipIdx.map fun e =>
    match download with
    | some outcome => if e.1.2 then fetchInto o e.1.1 (outcome e.2) fetchedAt else e.1.1
    | none => e.1.1
  { pinned, entries := entries.map fun e => { e with due := some (nextDue o e now) } }

end

/-! ## What the states mean -/

/-- What the entry's state says of its local copy. -/
def Entry.Means (pinned : List (List Char)) (e : Entry) : Prop :=
  match e.state with
  | .ready => ∃ copy, e.copy = some copy ∧ copy.sha256 = sha256HexOf e.set
  | .stale => ∃ copy, e.copy = some copy ∧ copy.sha256 ≠ sha256HexOf e.set ∧
      hostPinned pinned e.set = true
  | .unavailable => e.copy = none ∨ hostPinned pinned e.set = false

def Snapshot.Sound (s : Snapshot) : Prop := ∀ e ∈ s.entries, e.Means s.pinned

variable {o : Options} {pinned : List (List Char)}

theorem Entry.Means.of_ready {e : Entry} {copy : LocalCopy} (state : e.state = .ready)
    (has : e.copy = some copy) (same : copy.sha256 = sha256HexOf e.set) : e.Means pinned := by
  rw [Entry.Means, state]
  exact ⟨copy, has, same⟩

/-- Only the state, the set and the copy count. -/
theorem Entry.Means.of_same {e e' : Entry} (means : e.Means pinned) (state : e'.state = e.state)
    (set : e'.set = e.set) (copy : e'.copy = e.copy) : e'.Means pinned := by
  rw [Entry.Means] at means ⊢
  rw [state, set, copy]
  exact means

theorem install_ok {e : Entry} {data : Bytes} {written : Bool} {want : String} {copy : LocalCopy}
    (installed : install o e data written want = .ok copy) : copy.sha256 = want := by
  rw [install] at installed
  split at installed
  · cases installed
  · cases inspected : Srs.inspect o.inflate data with
    | error message =>
      rw [inspected] at installed
      cases installed
    | ok mirrorDns =>
      rw [inspected] at installed
      cases file : path o e.set.id with
      | none =>
        simp only [file] at installed
        cases installed
      | some path =>
        simp only [file] at installed
        split at installed
        · cases installed
          rfl
        · cases installed

/-- A download makes the entry ready with a copy of the profile's digest, or
changes only the error. -/
theorem fetchInto_cases (e : Entry) (fetched : Fetched) (now : Time) :
    (∃ copy, (fetchInto o e fetched now).copy = some copy ∧ copy.sha256 = sha256HexOf e.set ∧
      (fetchInto o e fetched now).state = .ready) ∨
    ∃ code, fetchInto o e fetched now = e.refused code := by
  cases fetched with
  | failed code => exact .inr ⟨code, rfl⟩
  | notModified =>
    rw [fetchInto]
    by_cases same : e.copy.map LocalCopy.sha256 = some (sha256HexOf e.set)
    · simp only [if_pos same]
      obtain ⟨copy, has, digest⟩ := Option.map_eq_some_iff.1 same
      exact .inl ⟨copy, has, digest, rfl⟩
    · simp only [if_neg same]
      exact .inr ⟨_, rfl⟩
  | body data written =>
    rw [fetchInto]
    cases installed : install o e data written (sha256HexOf e.set) with
    | error code =>
      dsimp only
      exact .inr ⟨code, rfl⟩
    | ok copy =>
      dsimp only
      exact .inl ⟨copy, rfl, install_ok installed, rfl⟩

theorem fetchInto_set (e : Entry) (fetched : Fetched) (now : Time) :
    (fetchInto o e fetched now).set = e.set := by
  cases fetched with
  | failed code => rfl
  | notModified =>
    rw [fetchInto]
    split <;> rfl
  | body data written =>
    rw [fetchInto]
    cases install o e data written (sha256HexOf e.set) <;> rfl

theorem fetchInto_means {e : Entry} (means : e.Means pinned) (fetched : Fetched) (now : Time) :
    (fetchInto o e fetched now).Means pinned := by
  rcases fetchInto_cases (o := o) e fetched now with ⟨copy, has, same, state⟩ | ⟨code, refused⟩
  · exact .of_ready state has (by rw [same, fetchInto_set])
  · rw [refused]
    exact means.of_same rfl rfl rfl

theorem fetchInto_ready {e : Entry} (ready : e.state = .ready) (fetched : Fetched) (now : Time) :
    (fetchInto o e fetched now).state = .ready := by
  rcases fetchInto_cases (o := o) e fetched now with ⟨_, -, -, state⟩ | ⟨code, refused⟩
  · exact state
  · rw [refused]
    exact ready

variable (o pinned) in
theorem prepareEntry_means (previous : List Entry) (files : String → Option Cached) (now : Time)
    (set : RuleSet) : (prepareEntry o pinned previous files now set).1.Means pinned := by
  rw [prepareEntry]
  dsimp only
  split
  · exact .inl rfl
  · split
    next same =>
      obtain ⟨copy, has, digest⟩ := Option.map_eq_some_iff.1 same
      exact .of_ready rfl has digest
    next other =>
      cases host : hostPinned pinned set with
      | false => simp [Entry.Means, host]
      | true =>
        cases found : readLocal o files set.id with
        | none => simp [Entry.Means]
        | some copy =>
          rw [found] at other
          refine ⟨copy.1, rfl, ?_, host⟩
          intro same
          exact other (congrArg some same)

/-- Whatever was cached, carried over or downloaded. -/
theorem prepare_sound (previous : List Entry) (files : String → Option Cached)
    (download : Option (Nat → Fetched)) (now fetchedAt : Time) (sets : List RuleSet) :
    (prepare o pinned previous files download now fetchedAt sets).Sound := by
  intro e mem
  obtain ⟨e', mem', rfl⟩ := List.mem_map.1 mem
  obtain ⟨indexed, listed, rfl⟩ := List.mem_map.1 mem'
  obtain ⟨set, -, made⟩ := List.mem_map.1 (List.fst_mem_of_mem_zipIdx listed)
  have first := prepareEntry_means o pinned previous files now set
  rw [made] at first
  refine Entry.Means.of_same ?_ rfl rfl rfl
  cases download with
  | none => exact first
  | some outcome =>
    dsimp only
    split
    · exact fetchInto_means first _ _
    · exact first

theorem Entry.Means.some_copy {e : Entry} (means : e.Means pinned) (state : e.state ≠ .unavailable) :
    ∃ copy, e.copy = some copy := by
  rw [Entry.Means] at means
  cases is : e.state with
  | ready =>
    rw [is] at means
    exact ⟨_, means.choose_spec.1⟩
  | stale =>
    rw [is] at means
    exact ⟨_, means.choose_spec.1⟩
  | unavailable => exact absurd is state

theorem in_use_iff (e : Entry) : e.state ≠ .unavailable ↔ e.state = .ready ∨ e.state = .stale := by
  cases e.state <;> simp

/-- The files are those of the ready and stale sets, each one's copy. -/
def Snapshot.FilesExact (s : Snapshot) : Prop :=
  s.files.map Prod.fst =
      (s.entries.filter fun e => e.state = .ready ∨ e.state = .stale).map (·.set.id) ∧
    ∀ f ∈ s.files, ∃ e ∈ s.entries, (e.state = .ready ∨ e.state = .stale) ∧ e.set.id = f.1 ∧
      e.copy.map (fun copy => RuleSetFile.mk copy.path copy.mirrorDns) = some f.2

theorem files_exact {s : Snapshot} (sound : s.Sound) : s.FilesExact := by
  constructor
  · have part : ∀ entries : List Entry, (∀ e ∈ entries, e.Means s.pinned) →
        (Snapshot.files { s with entries }).map Prod.fst =
          (entries.filter fun e => e.state = .ready ∨ e.state = .stale).map (·.set.id) := by
      intro entries means
      induction entries with
      | nil => rfl
      | cons e entries ih =>
        have rest := ih fun e mem => means e (List.mem_cons_of_mem _ mem)
        rw [Snapshot.files] at rest ⊢
        dsimp only at rest ⊢
        by_cases state : e.state = .unavailable
        · have out : ¬ (e.state = .ready ∨ e.state = .stale) := fun used => (in_use_iff e).2 used state
          rw [List.filter_cons_of_neg (by simpa using state), List.filter_cons_of_neg (by simpa using out)]
          exact rest
        · obtain ⟨copy, has⟩ := (means e List.mem_cons_self).some_copy state
          have used := (in_use_iff e).1 state
          rw [List.filter_cons_of_pos (by simpa using state), List.filter_cons_of_pos (by simpa using used),
            List.filterMap_cons, has]
          exact congrArg _ rest
    exact part s.entries sound
  · intro f mem
    obtain ⟨e, listed, made⟩ := List.mem_filterMap.1 mem
    obtain ⟨there, state⟩ := List.mem_filter.1 listed
    obtain ⟨copy, has, rfl⟩ := Option.map_eq_some_iff.1 made
    exact ⟨e, there, (in_use_iff e).1 (by simpa using state), rfl, by rw [has]; rfl⟩

end PpvpnCore.RuleSets
