import PpvpnCore.RuleSets.Rounds

/-!
The rule sets' files (`install`, `read_local` and `prune` in `rulesets/mod.rs`):
whether what a snapshot calls ready is what lies in the state directory, while
applies prepare, are activated or given up, sets are refreshed and files of
earlier profiles removed. Every file access is a step of its own.
-/

namespace PpvpnCore.RuleSets

open Lib
open Srs (Bytes)

/-! ## The directory and the operations under way -/

/-- A `prepare` under way, or its snapshot before it is activated. -/
structure Prep where
  pinned : List (List Char)
  previous : List Entry
  todo : List RuleSet
  /-- The sets read so far, and whether each is still to be downloaded. -/
  entries : List (Entry × Bool) := []
  download : Bool

/-- A `refresh` under way. -/
structure Flight where
  generation : Nat
  index : Nat
  pinned : List (List Char)
  entry : Entry
  fetched : Bool := false

structure Store where
  disk : String → Option Bytes := fun _ => none
  generation : Nat := 0
  current : Option Snapshot := none
  preps : List Prep := []
  flights : List Flight := []
  /-- The removals under way, each with the ids it keeps. -/
  prunes : List (List String) := []

inductive FileStep where
  | prepare (sets : List RuleSet) (allowedHosts : List String) (download : Bool)
  | read (k : Nat) (modified : Option Time) (now : Time)
  | fetch (k i : Nat) (fetched : Fetched) (now : Time)
  | activate (k : Nat) (now : Time)
  | abandon (k : Nat)
  | remove (j : Nat) (id : String)
  | pruned (j : Nat)
  | refresh (i : Nat)
  | write (j : Nat) (fetched : Fetched) (now : Time)
  | settle (j : Nat) (now : Time)

variable (o : Options)

/-- What a download puts on the disk: where, and what. -/
def installs (e : Entry) (fetched : Fetched) : Option (String × Bytes) :=
  match fetched with
  | .body data written =>
    (install o e data written (sha256HexOf e.set)).toOption.map fun copy => (copy.path, data)
  | _ => none

/-- The file the step replaces, or removes. -/
def Store.change (s : Store) : FileStep → Option (String × Option Bytes)
  | .fetch k i fetched _ =>
    ((s.preps[k]?.bind fun p => p.entries[i]?).bind fun e => installs o e.1 fetched).map fun file =>
      (file.1, some file.2)
  | .write j fetched _ =>
    (s.flights[j]?.bind fun f => installs o f.entry fetched).map fun file => (file.1, some file.2)
  | .remove _ id => (path o id).map fun path => (path, none)
  | _ => none

def put (disk : String → Option Bytes) (change : Option (String × Option Bytes)) :
    String → Option Bytes := fun path =>
  match change with
  | some (file, content) => if path = file then content else disk path
  | none => disk path

/-- The file of the set that is read next. -/
def cached (disk : String → Option Bytes) (modified : Option Time) : String → Option Cached := fun path =>
  (disk path).map fun data => { data, modified }

def Store.step (s : Store) (a : FileStep) : Option Store :=
  let s' := { s with disk := put s.disk (s.change o a) }
  match a with
  | .prepare sets allowedHosts download =>
    some { s' with preps := s.preps ++ [{
      pinned := pinnedOf allowedHosts
      previous := (s.current.map Snapshot.entries).getD []
      todo := sets
      download := download }] }
  | .read k modified now => do
    let p ← s.preps[k]?
    let set ← p.todo.head?
    let entry := prepareEntry o p.pinned p.previous (cached s.disk modified) now set
    some { s' with preps := s.preps.set k { p with
      todo := p.todo.tail
      entries := p.entries ++ [entry] } }
  | .fetch k i fetched now => do
    let p ← s.preps[k]?
    let e ← p.entries[i]?
    if p.todo = [] ∧ p.download ∧ e.2 then
      some { s' with preps := s.preps.set k { p with
        entries := p.entries.set i (fetchInto o e.1 fetched now, false) } }
    else none
  | .activate k now => do
    let p ← s.preps[k]?
    if p.todo = [] ∧ (p.download → p.entries.all fun e => !e.2) then
      some { s' with
        generation := s.generation + 1
        current := some {
          pinned := p.pinned
          entries := p.entries.map fun e => { e.1 with due := some (nextDue o e.1 now) } }
        preps := s.preps.eraseIdx k
        prunes := s.prunes ++ [p.entries.map fun e => e.1.set.id] }
    else none
  | .abandon k => some { s' with preps := s.preps.eraseIdx k }
  | .remove j id => do
    let keep ← s.prunes[j]?
    if id ∈ keep then none else some s'
  | .pruned j => some { s' with prunes := s.prunes.eraseIdx j }
  | .refresh i => do
    let current ← s.current
    let e ← current.entries[i]?
    if s.flights.any fun f => f.generation = s.generation ∧ f.index = i then none
    else
      some { s' with flights := s.flights ++ [{
        generation := s.generation
        index := i
        pinned := current.pinned
        entry := e }] }
  | .write j fetched now => do
    let f ← s.flights[j]?
    if o.dir ≠ none ∧ hostPinned f.pinned f.entry.set ∧ f.fetched = false then
      some { s' with flights := s.flights.set j { f with
        entry := fetchInto o f.entry fetched now
        fetched := true } }
    else none
  | .settle j now => do
    let f ← s.flights[j]?
    if o.dir ≠ none ∧ hostPinned f.pinned f.entry.set ∧ f.fetched = false then none
    else if s.generation = f.generation then
      some { s' with
        current := s.current.map fun c => { c with
          entries := c.entries.set f.index { f.entry with due := some (nextDue o f.entry now) } }
        flights := s.flights.eraseIdx j }
    else some { s' with flights := s.flights.eraseIdx j }

/-! ## What is counted on -/

/-- An entry of the current snapshot, of one being prepared or not yet
activated, or of a refresh of the current sets. -/
def Store.Counted (s : Store) (pinned : List (List Char)) (e : Entry) : Prop :=
  (∃ c, s.current = some c ∧ pinned = c.pinned ∧ e ∈ c.entries) ∨
    (∃ p ∈ s.preps, pinned = p.pinned ∧ ∃ fetch, (e, fetch) ∈ p.entries) ∨
      ∃ f ∈ s.flights, f.generation = s.generation ∧ pinned = f.pinned ∧ e = f.entry

/-- The set's file is the version its profile declares. -/
def Backed (disk : String → Option Bytes) (e : Entry) : Prop :=
  e.state = .ready → ∃ copy data, e.copy = some copy ∧ disk copy.path = some data ∧
    o.sha256Hex data = sha256HexOf e.set

/-- No file that a ready entry counts on is removed, or replaced by another version. -/
def Store.Spares (s : Store) (a : FileStep) : Prop :=
  ∀ path content, s.change o a = some (path, content) → ∀ pinned e, s.Counted pinned e →
    e.state = .ready → (e.copy.map LocalCopy.path = some path) →
      ∃ data, content = some data ∧ o.sha256Hex data = sha256HexOf e.set

/-- Runs of steps that spare the files counted on. -/
inductive Spared : Store → Prop where
  | start : Spared {}
  | step {s s' : Store} {a : FileStep} (run : Spared s) (spares : s.Spares o a)
    (stepped : s.step o a = some s') : Spared s'

structure Store.Good (s : Store) : Prop where
  means : ∀ pinned e, s.Counted pinned e → e.Means pinned
  backed : ∀ pinned e, s.Counted pinned e → Backed o s.disk e
  flagged : ∀ p ∈ s.preps, ∀ e, (e, true) ∈ p.entries → hostPinned p.pinned e.set = true
  flights : ∀ f ∈ s.flights, f.generation ≤ s.generation ∧
    (f.generation = s.generation → ∃ c, s.current = some c ∧ c.pinned = f.pinned)

variable {o}

theorem Backed.of_same {disk : String → Option Bytes} {e e' : Entry} (backed : Backed o disk e)
    (state : e'.state = e.state) (set : e'.set = e.set) (copy : e'.copy = e.copy) :
    Backed o disk e' := by
  rw [Backed, state, set, copy]
  exact backed

theorem install_path {e : Entry} {data : Bytes} {written : Bool} {want : String} {copy : LocalCopy}
    (installed : install o e data written want = .ok copy) : o.sha256Hex data = want := by
  rw [install] at installed
  split at installed
  · cases installed
  next same => exact not_not.1 same

/-- A file that is spared is still what it was counted on for. -/
theorem Store.Good.spared {s : Store} (good : s.Good o) {a : FileStep} (spares : s.Spares o a)
    {pinned : List (List Char)} {e : Entry} (counted : s.Counted pinned e) :
    Backed o (put s.disk (s.change o a)) e := by
  intro ready
  obtain ⟨copy, data, has, there, digest⟩ := good.backed pinned e counted ready
  cases change : s.change o a with
  | none => exact ⟨copy, data, has, there, digest⟩
  | some file =>
    by_cases this : copy.path = file.1
    · obtain ⟨data', is, digest'⟩ := spares file.1 file.2 change pinned e counted ready (by rw [has, ← this]; rfl)
      refine ⟨copy, data', has, ?_, digest'⟩
      rw [put]
      rw [if_pos this, is]
    · refine ⟨copy, data, has, ?_, digest⟩
      rw [put]
      rw [if_neg this]
      exact there

/-- A download leaves a ready entry with its file. -/
theorem fetchInto_backed {pinned : List (List Char)} {e : Entry} {disk : String → Option Bytes}
    (means : e.Means pinned) (host : hostPinned pinned e.set = true) (fetched : Fetched) (now : Time)
    (backed : Backed o (put disk ((installs o e fetched).map fun file => (file.1, some file.2))) e) :
    Backed o (put disk ((installs o e fetched).map fun file => (file.1, some file.2)))
      (fetchInto o e fetched now) := by
  cases fetched with
  | failed code => exact backed.of_same rfl rfl rfl
  | notModified =>
    rw [fetchInto]
    by_cases same : e.copy.map LocalCopy.sha256 = some (sha256HexOf e.set)
    · rw [if_pos same]
      -- with that digest the entry was ready before
      obtain ⟨copy, has, digest⟩ := Option.map_eq_some_iff.1 same
      have ready : e.state = .ready := by
        rw [Entry.Means] at means
        cases is : e.state with
        | ready => rfl
        | stale =>
          rw [is] at means
          obtain ⟨copy', has', other, -⟩ := means
          rw [has] at has'
          cases has'
          exact absurd digest other
        | unavailable =>
          rw [is] at means
          rcases means with none | unpinned
          · rw [has] at none
            cases none
          · rw [host] at unpinned
            cases unpinned
      exact backed.of_same ready.symm rfl rfl
    · rw [if_neg same]
      exact backed.of_same rfl rfl rfl
  | body data written =>
    cases installed : install o e data written (sha256HexOf e.set) with
    | error code =>
      rw [fetchInto]
      rw [installed]
      exact backed.of_same rfl rfl rfl
    | ok copy =>
      have file : installs o e (.body data written) = some (copy.path, data) := by
        rw [installs, installed]
        rfl
      rw [file, fetchInto]
      rw [installed]
      intro _
      refine ⟨copy, data, rfl, ?_, install_path installed⟩
      rw [Option.map_some, put]
      exact if_pos rfl

theorem readLocal_some {files : String → Option Cached} {id : String} {copy : LocalCopy}
    {modified : Option Time} (found : readLocal o files id = some (copy, modified)) :
    ∃ file, files copy.path = some file ∧ copy.sha256 = o.sha256Hex file.data := by
  obtain ⟨path, -, found⟩ := Option.bind_eq_some_iff.1 found
  obtain ⟨file, there, found⟩ := Option.bind_eq_some_iff.1 found
  split at found
  · cases found
  · obtain ⟨mirrorDns, -, found⟩ := Option.bind_eq_some_iff.1 found
    cases found
    exact ⟨file, there, rfl⟩

/-- A set is read as ready only where its file is. -/
theorem prepareEntry_backed (pinned : List (List Char)) (previous : List Entry)
    (disk : String → Option Bytes) (modified : Option Time) (now : Time) (set : RuleSet) :
    Backed o disk (prepareEntry o pinned previous (cached disk modified) now set).1 := by
  rw [prepareEntry]
  dsimp only
  split
  · intro ready
    cases ready
  · cases found : readLocal o (cached disk modified) set.id with
    | none =>
      rw [if_neg (by simp)]
      intro ready
      revert ready
      cases hostPinned pinned set <;> simp
    | some both =>
      split
      next same =>
        intro _
        obtain ⟨file, there, digest⟩ := readLocal_some found
        obtain ⟨data, at1, rfl⟩ := Option.map_eq_some_iff.1 there
        have equal : both.1.sha256 = sha256HexOf set := Option.some.inj same
        exact ⟨both.1, data, rfl, at1, digest.symm.trans equal⟩
      · intro ready
        revert ready
        cases hostPinned pinned set <;> simp

theorem prepareEntry_flag {pinned : List (List Char)} {previous : List Entry}
    {files : String → Option Cached} {now : Time} {set : RuleSet}
    (flag : (prepareEntry o pinned previous files now set).2 = true) : hostPinned pinned set = true := by
  rw [prepareEntry] at flag
  dsimp only at flag
  split at flag
  · cases flag
  · split at flag
    · cases flag
    · cases host : hostPinned pinned set with
      | true => rfl
      | false =>
        rw [host] at flag
        simp at flag

theorem prepareEntry_set (pinned : List (List Char)) (previous : List Entry)
    (files : String → Option Cached) (now : Time) (set : RuleSet) :
    (prepareEntry o pinned previous files now set).1.set = set := by
  rw [prepareEntry]
  dsimp only
  split
  · rfl
  · split
    · rfl
    · cases hostPinned pinned set <;> simp
      split <;> rfl

/-- What is counted on after a step was counted on before, or is made good by it. -/
theorem Store.Good.next {s s' : Store} {a : FileStep} (good : s.Good o) (spares : s.Spares o a)
    (disk : s'.disk = put s.disk (s.change o a))
    (origin : ∀ pinned e, s'.Counted pinned e →
      (∃ e0, s.Counted pinned e0 ∧ e.state = e0.state ∧ e.set = e0.set ∧ e.copy = e0.copy) ∨
        (e.Means pinned ∧ Backed o s'.disk e))
    (flagged : ∀ p ∈ s'.preps, ∀ e, (e, true) ∈ p.entries → hostPinned p.pinned e.set = true)
    (flights : ∀ f ∈ s'.flights, f.generation ≤ s'.generation ∧
      (f.generation = s'.generation → ∃ c, s'.current = some c ∧ c.pinned = f.pinned)) :
    s'.Good o where
  means pinned e counted := by
    rcases origin pinned e counted with ⟨e0, before, state, set, copy⟩ | ⟨means, -⟩
    · exact (good.means pinned e0 before).of_same state set copy
    · exact means
  backed pinned e counted := by
    rcases origin pinned e counted with ⟨e0, before, state, set, copy⟩ | ⟨-, backed⟩
    · rw [disk]
      exact (good.spared spares before).of_same state set copy
    · exact backed
  flagged := flagged
  flights := flights

theorem Store.Good.step {s s' : Store} {a : FileStep} (good : s.Good o) (spares : s.Spares o a)
    (stepped : s.step o a = some s') : s'.Good o := by
  cases a with
  | prepare sets allowedHosts download =>
    cases stepped
    refine good.next spares rfl ?_ ?_ good.flights
    · rintro pinned e (current | ⟨p, mem, same, fetch, there⟩ | flight)
      · exact .inl ⟨e, .inl current, rfl, rfl, rfl⟩
      · rcases List.mem_append.1 mem with mem | mem
        · exact .inl ⟨e, .inr (.inl ⟨p, mem, same, fetch, there⟩), rfl, rfl, rfl⟩
        · rw [List.mem_singleton.1 mem] at there
          cases there
      · exact .inl ⟨e, .inr (.inr flight), rfl, rfl, rfl⟩
    · intro p mem e there
      rcases List.mem_append.1 mem with mem | mem
      · exact good.flagged p mem e there
      · rw [List.mem_singleton.1 mem] at there
        cases there
  | read k modified now =>
    obtain ⟨p, at1, stepped⟩ := Option.bind_eq_some_iff.1 stepped
    obtain ⟨set, -, stepped⟩ := Option.bind_eq_some_iff.1 stepped
    cases stepped
    have old := List.mem_of_getElem? at1
    refine good.next spares rfl ?_ ?_ good.flights
    · rintro pinned e (current | ⟨q, mem, same, fetch, there⟩ | flight)
      · exact .inl ⟨e, .inl current, rfl, rfl, rfl⟩
      · rcases List.mem_or_eq_of_mem_set mem with mem | rfl
        · exact .inl ⟨e, .inr (.inl ⟨q, mem, same, fetch, there⟩), rfl, rfl, rfl⟩
        · rcases List.mem_append.1 there with there | there
          · exact .inl ⟨e, .inr (.inl ⟨p, old, same, fetch, there⟩), rfl, rfl, rfl⟩
          · have made := congrArg Prod.fst (List.mem_singleton.1 there)
            dsimp only at made same
            right
            rw [made, same]
            exact ⟨prepareEntry_means o p.pinned _ _ _ _, prepareEntry_backed _ _ _ _ _ _⟩
      · exact .inl ⟨e, .inr (.inr flight), rfl, rfl, rfl⟩
    · intro q mem e there
      rcases List.mem_or_eq_of_mem_set mem with mem | rfl
      · exact good.flagged q mem e there
      · rcases List.mem_append.1 there with there | there
        · exact good.flagged p old e there
        · have made := List.mem_singleton.1 there
          have entry := congrArg Prod.fst made
          have flag := congrArg Prod.snd made
          dsimp only at entry flag ⊢
          rw [entry, prepareEntry_set]
          exact prepareEntry_flag flag.symm
  | fetch k i fetched now =>
    obtain ⟨p, at1, stepped⟩ := Option.bind_eq_some_iff.1 stepped
    obtain ⟨⟨e0, flag⟩, at2, stepped⟩ := Option.bind_eq_some_iff.1 stepped
    split at stepped
    next allowed =>
      cases stepped
      obtain rfl : flag = true := allowed.2.2
      have old := List.mem_of_getElem? at1
      have entry := List.mem_of_getElem? at2
      have before : s.Counted p.pinned e0 := .inr (.inl ⟨p, old, rfl, true, entry⟩)
      have file : s.change o (.fetch k i fetched now) =
          (installs o e0 fetched).map fun file => (file.1, some file.2) := by
        rw [Store.change, at1, Option.bind_some, at2, Option.bind_some]
      refine good.next spares rfl ?_ ?_ good.flights
      · rintro pinned e (current | ⟨q, mem, same, fetch, there⟩ | flight)
        · exact .inl ⟨e, .inl current, rfl, rfl, rfl⟩
        · rcases List.mem_or_eq_of_mem_set mem with mem | rfl
          · exact .inl ⟨e, .inr (.inl ⟨q, mem, same, fetch, there⟩), rfl, rfl, rfl⟩
          · rcases List.mem_or_eq_of_mem_set there with there | made
            · exact .inl ⟨e, .inr (.inl ⟨p, old, same, fetch, there⟩), rfl, rfl, rfl⟩
            · cases made
              dsimp only at same
              have kept := good.spared spares before
              right
              rw [same]
              refine ⟨fetchInto_means (good.means _ _ before) _ _, ?_⟩
              show Backed o (put s.disk (s.change o (.fetch k i fetched now))) _
              rw [file] at kept ⊢
              exact fetchInto_backed (good.means _ _ before) (good.flagged p old e0 entry) _ _ kept
        · exact .inl ⟨e, .inr (.inr flight), rfl, rfl, rfl⟩
      · intro q mem e there
        rcases List.mem_or_eq_of_mem_set mem with mem | rfl
        · exact good.flagged q mem e there
        · rcases List.mem_or_eq_of_mem_set there with there | made
          · exact good.flagged p old e there
          · cases made
    · cases stepped
  | activate k now =>
    obtain ⟨p, at1, stepped⟩ := Option.bind_eq_some_iff.1 stepped
    split at stepped
    · cases stepped
      have old := List.mem_of_getElem? at1
      have past : ∀ f ∈ s.flights, f.generation ≠ s.generation + 1 := by
        intro f mem same
        have below := (good.flights f mem).1
        omega
      refine good.next spares rfl ?_ ?_ ?_
      · rintro pinned e (⟨c, is, rfl, mem⟩ | ⟨q, mem, same, fetch, there⟩ | ⟨f, mem, generation, same⟩)
        · cases is
          obtain ⟨⟨e0, fetch⟩, there, rfl⟩ := List.mem_map.1 mem
          exact .inl ⟨e0, .inr (.inl ⟨p, old, rfl, fetch, there⟩), rfl, rfl, rfl⟩
        · exact .inl ⟨e, .inr (.inl ⟨q, List.mem_of_mem_eraseIdx mem, same, fetch, there⟩), rfl, rfl, rfl⟩
        · exact absurd generation (past f mem)
      · intro q mem
        exact good.flagged q (List.mem_of_mem_eraseIdx mem)
      · intro f mem
        exact ⟨Nat.le_succ_of_le (good.flights f mem).1, fun same => absurd same (past f mem)⟩
    · cases stepped
  | abandon k =>
    cases stepped
    refine good.next spares rfl ?_ ?_ good.flights
    · rintro pinned e (current | ⟨q, mem, same, fetch, there⟩ | flight)
      · exact .inl ⟨e, .inl current, rfl, rfl, rfl⟩
      · exact .inl ⟨e, .inr (.inl ⟨q, List.mem_of_mem_eraseIdx mem, same, fetch, there⟩), rfl, rfl, rfl⟩
      · exact .inl ⟨e, .inr (.inr flight), rfl, rfl, rfl⟩
    · intro q mem
      exact good.flagged q (List.mem_of_mem_eraseIdx mem)
  | remove j id =>
    obtain ⟨keep, -, stepped⟩ := Option.bind_eq_some_iff.1 stepped
    split at stepped
    · cases stepped
    · cases stepped
      exact good.next spares rfl (fun _ e counted => .inl ⟨e, counted, rfl, rfl, rfl⟩) good.flagged good.flights
  | pruned j =>
    cases stepped
    exact good.next spares rfl (fun _ e counted => .inl ⟨e, counted, rfl, rfl, rfl⟩) good.flagged good.flights
  | refresh i =>
    obtain ⟨c, is, stepped⟩ := Option.bind_eq_some_iff.1 stepped
    obtain ⟨e0, at1, stepped⟩ := Option.bind_eq_some_iff.1 stepped
    split at stepped
    · cases stepped
    · cases stepped
      refine good.next spares rfl ?_ good.flagged ?_
      · rintro pinned e (current | prep | ⟨f, mem, generation, same, rfl⟩)
        · exact .inl ⟨e, .inl current, rfl, rfl, rfl⟩
        · exact .inl ⟨e, .inr (.inl prep), rfl, rfl, rfl⟩
        · rcases List.mem_append.1 mem with mem | mem
          · exact .inl ⟨_, .inr (.inr ⟨f, mem, generation, same, rfl⟩), rfl, rfl, rfl⟩
          · rw [List.mem_singleton.1 mem] at same ⊢
            exact .inl ⟨e0, .inl ⟨c, is, same, List.mem_of_getElem? at1⟩, rfl, rfl, rfl⟩
      · intro f mem
        rcases List.mem_append.1 mem with mem | mem
        · exact good.flights f mem
        · rw [List.mem_singleton.1 mem]
          exact ⟨le_refl _, fun _ => ⟨c, is, rfl⟩⟩
  | write j fetched now =>
    obtain ⟨f, at1, stepped⟩ := Option.bind_eq_some_iff.1 stepped
    split at stepped
    next allowed =>
      cases stepped
      have old := List.mem_of_getElem? at1
      have file : s.change o (.write j fetched now) =
          (installs o f.entry fetched).map fun file => (file.1, some file.2) := by
        rw [Store.change, at1, Option.bind_some]
      refine good.next spares rfl ?_ good.flagged ?_
      · rintro pinned e (current | prep | ⟨g, mem, generation, same, rfl⟩)
        · exact .inl ⟨e, .inl current, rfl, rfl, rfl⟩
        · exact .inl ⟨e, .inr (.inl prep), rfl, rfl, rfl⟩
        · rcases List.mem_or_eq_of_mem_set mem with mem | rfl
          · exact .inl ⟨_, .inr (.inr ⟨g, mem, generation, same, rfl⟩), rfl, rfl, rfl⟩
          · dsimp only at generation same ⊢
            have before : s.Counted f.pinned f.entry := .inr (.inr ⟨f, old, generation, rfl, rfl⟩)
            have kept := good.spared spares before
            right
            rw [same]
            refine ⟨fetchInto_means (good.means _ _ before) _ _, ?_⟩
            show Backed o (put s.disk (s.change o (.write j fetched now))) _
            rw [file] at kept ⊢
            exact fetchInto_backed (good.means _ _ before) allowed.2.1 _ _ kept
      · intro g mem
        rcases List.mem_or_eq_of_mem_set mem with mem | rfl
        · exact good.flights g mem
        · exact good.flights f old
    · cases stepped
  | settle j now =>
    obtain ⟨f, at1, stepped⟩ := Option.bind_eq_some_iff.1 stepped
    have old := List.mem_of_getElem? at1
    split at stepped
    · cases stepped
    · split at stepped
      next generation =>
        cases stepped
        obtain ⟨c, is, pinned'⟩ := (good.flights f old).2 generation.symm
        refine good.next spares rfl ?_ good.flagged ?_
        · rintro pinned e (⟨c', is', rfl, mem⟩ | prep | ⟨g, mem, same, pins, rfl⟩)
          · obtain ⟨c0, is0, rfl⟩ := Option.map_eq_some_iff.1 is'
            rw [is] at is0
            cases is0
            rcases List.mem_or_eq_of_mem_set mem with mem | rfl
            · exact .inl ⟨e, .inl ⟨c, is, rfl, mem⟩, rfl, rfl, rfl⟩
            · exact .inl ⟨f.entry, .inr (.inr ⟨f, old, generation.symm, pinned', rfl⟩), rfl, rfl, rfl⟩
          · exact .inl ⟨e, .inr (.inl prep), rfl, rfl, rfl⟩
          · exact .inl ⟨_, .inr (.inr ⟨g, List.mem_of_mem_eraseIdx mem, same, pins, rfl⟩), rfl, rfl, rfl⟩
        · intro g mem
          obtain ⟨below, pins⟩ := good.flights g (List.mem_of_mem_eraseIdx mem)
          refine ⟨below, ?_⟩
          intro same
          obtain ⟨c', is', pinned⟩ := pins same
          rw [is] at is'
          cases is'
          exact ⟨_, congrArg (Option.map _) is, pinned⟩
      · cases stepped
        refine good.next spares rfl ?_ good.flagged ?_
        · rintro pinned e (current | prep | ⟨g, mem, same, pins, rfl⟩)
          · exact .inl ⟨e, .inl current, rfl, rfl, rfl⟩
          · exact .inl ⟨e, .inr (.inl prep), rfl, rfl, rfl⟩
          · exact .inl ⟨_, .inr (.inr ⟨g, List.mem_of_mem_eraseIdx mem, same, pins, rfl⟩), rfl, rfl, rfl⟩
        · intro g mem
          exact good.flights g (List.mem_of_mem_eraseIdx mem)

theorem Spared.good {s : Store} (run : Spared o s) : s.Good o := by
  induction run with
  | start =>
    refine ⟨?_, ?_, ?_, ?_⟩
    · rintro pinned e (⟨c, is, -⟩ | ⟨p, mem, -⟩ | ⟨f, mem, -⟩)
      · cases is
      · cases mem
      · cases mem
    · rintro pinned e (⟨c, is, -⟩ | ⟨p, mem, -⟩ | ⟨f, mem, -⟩)
      · cases is
      · cases mem
      · cases mem
    · intro p mem
      cases mem
    · intro f mem
      cases mem
  | step run spares stepped ih => exact ih.step spares stepped

variable (o) in
/-- The step changes no file, or none of the sets is ready. -/
def Store.quiet (s : Store) (a : FileStep) : Bool :=
  (s.change o a).isNone ||
    ((s.current.all fun c => c.entries.all fun e => e.state ≠ .ready) &&
      (s.preps.all fun p => p.entries.all fun e => e.1.state ≠ .ready) &&
      s.flights.all fun f => f.entry.state ≠ .ready)

end PpvpnCore.RuleSets
