import Mathlib.Logic.Relation
import PpvpnCore.RuleSets.Entries

/-!
Applies and the refresh task (`Manager` and `run` in `rulesets/mod.rs`): what
the entries mean in every state, and when a rebuild is asked for. An apply
prepares a snapshot while others run, and the refreshes of a round run
concurrently; a task that was stopped may still take turns, none of which does
anything. The status hook and the removal of files are left out.
-/

namespace PpvpnCore.RuleSets

open Lib
open Srs (Bytes)

/-! ## The refresh task -/

def refreshConcurrency : Nat := 4

structure Round where
  pinned : List (List Char)
  waiting : List Nat
  /-- The entries as the downloads in flight found them. -/
  flying : List (Nat × Entry)
  /-- Of each refreshed set, whether to rebuild and whether it recovered. -/
  results : List (Nat × Bool × Bool)
  /-- What was due, and all the entries then. -/
  due : List Nat
  before : List Entry

inductive Phase where
  | top
  | round (r : Round)
  | asleep (next : Time)
  | returned

structure Task where
  generation : Nat
  rebuildPending : Bool := false
  phase : Phase := .top
  /-- The entries before and after each round since it last slept. -/
  rounds : List (List Entry × List Entry) := []

structure Shared where
  generation : Nat := 0
  current : Option Snapshot := none

def Shared.of (s : Shared) (generation : Nat) : Option Snapshot :=
  if s.generation = generation then s.current else none

def Entry.isDue (e : Entry) (now : Time) : Bool := e.due.all (· ≤ now)

def Snapshot.due (s : Snapshot) (now : Time) : List Nat :=
  (s.entries.zipIdx.filter fun e => e.1.isDue now).map Prod.snd

/-- When the first of the others is due. -/
def Snapshot.next (s : Snapshot) (now : Time) : Option Time :=
  ((s.entries.filterMap Entry.due).filter (now < ·)).min?

/-- The entry appeared, disappeared or changed how it must be rendered. -/
def needsRebuild (before after : Entry) : Bool :=
  (before.state = .unavailable) ≠ (after.state = .unavailable) ∨
    (before.copy.bind fun a => after.copy.map fun b => a.mirrorDns != b.mirrorDns) = some true

/-- The top of the loop; whether it asks for a rebuild. -/
def look (shared : Shared) (t : Task) (now : Time) : Option (Task × Bool) :=
  match t.phase with
  | .top =>
    match shared.of t.generation with
    | none => some ({ t with phase := .returned }, false)
    | some current =>
      if current.due now = [] then
        some ({ t with
          rebuildPending := false
          rounds := []
          phase := (current.next now).elim .returned .asleep }, t.rebuildPending)
      else
        some ({ t with phase := .round {
          pinned := current.pinned
          waiting := current.due now
          flying := []
          results := []
          due := current.due now
          before := current.entries } }, false)
  | _ => none

def wake (t : Task) : Option Task :=
  match t.phase with
  | .asleep _ => some { t with phase := .top }
  | _ => none

/-- The refresh of entry `i` begins. -/
def start (shared : Shared) (t : Task) (i : Nat) : Option Task :=
  match t.phase with
  | .round r =>
    if i ∈ r.waiting ∧ r.flying.length < refreshConcurrency then
      match (shared.of t.generation).bind fun s => s.entries[i]? with
      | some e =>
        some { t with phase := .round { r with
          waiting := r.waiting.erase i
          flying := r.flying ++ [(i, e)] } }
      | none =>
        some { t with phase := .round { r with
          waiting := r.waiting.erase i
          results := r.results ++ [(i, false, false)] } }
    else none
  | _ => none

variable (o : Options)

/-- The entry after its refresh. -/
def refreshed (pinned : List (List Char)) (e : Entry) (fetched : Fetched) (fetchedAt now : Time) :
    Entry :=
  let candidate :=
    if o.dir ≠ none ∧ hostPinned pinned e.set then fetchInto o e fetched fetchedAt else e
  { candidate with due := some (nextDue o candidate now) }

/-- The refresh of entry `i` ends. -/
def finish (shared : Shared) (t : Task) (i : Nat) (fetched : Fetched) (fetchedAt now : Time) :
    Option (Shared × Task) :=
  match t.phase with
  | .round r =>
    match r.flying.find? (·.1 = i) with
    | none => none
    | some flight =>
      let r := { r with flying := r.flying.erase flight }
      match (shared.of t.generation).bind fun s => s.entries[i]? with
      | none =>
        some (shared, { t with phase := .round { r with results := r.results ++ [(i, false, false)] } })
      | some before =>
        let e := refreshed o r.pinned flight.2 fetched fetchedAt now
        let recovered : Bool := before.state ≠ .ready ∧ e.state = .ready
        some ({ shared with current := shared.current.map fun s => { s with entries := s.entries.set i e } },
          { t with phase := .round { r with
            results := r.results ++ [(i, needsRebuild before e, recovered)] } })
  | _ => none

/-- A set that is waiting for a retry need not wait any longer. -/
def Entry.retried (e : Entry) (now : Time) : Entry :=
  if e.state ≠ .ready ∧ ¬ e.stuck ∧ e.due.any (now < ·) then { e with due := some now } else e

/-- All the refreshes of the round have ended. -/
def collect (shared : Shared) (t : Task) (now : Time) : Option (Shared × Task) :=
  match t.phase with
  | .round r =>
    if r.waiting = [] ∧ r.flying = [] then
      let t := { t with
        rebuildPending := t.rebuildPending || r.results.any (·.2.1)
        rounds := t.rounds ++ [(r.before, ((shared.of t.generation).map Snapshot.entries).getD r.before)] }
      if r.results.any (·.2.2) then
        if shared.generation ≠ t.generation then some (shared, { t with phase := .returned })
        else
          some ({ shared with current := shared.current.map fun s =>
            { s with entries := s.entries.map (·.retried now) } }, { t with phase := .top })
      else some (shared, { t with phase := .top })
    else none
  | _ => none

/-! ## Applies and refreshes -/

/-- An apply's sets, before they are resolved. -/
structure Preparing where
  sets : List RuleSet
  pinned : List (List Char)
  previous : List Entry

structure Sys where
  shared : Shared := {}
  preparing : List Preparing := []
  prepared : List Snapshot := []
  tasks : List Task := []
  /-- How often a rebuild was asked for. -/
  asked : Nat := 0

inductive Action where
  | prepareStart (sets : List RuleSet) (allowedHosts : List String)
  | prepareEnd (k : Nat) (files : String → Option Cached) (download : Option (Nat → Fetched))
    (now fetchedAt : Time)
  | activate (k : Nat)
  | close
  | look (k : Nat) (now : Time)
  | wake (k : Nat)
  | start (k i : Nat)
  | finish (k i : Nat) (fetched : Fetched) (fetchedAt now : Time)
  | collect (k : Nat) (now : Time)

def Shared.activate (shared : Shared) (s : Snapshot) : Shared :=
  { generation := shared.generation + 1, current := some s }

def act (s : Sys) : Action → Option Sys
  | .prepareStart sets allowedHosts =>
    some { s with preparing := s.preparing ++ [{
      sets := sets
      pinned := pinnedOf allowedHosts
      previous := (s.shared.current.map Snapshot.entries).getD [] }] }
  | .prepareEnd k files download now fetchedAt => do
    let p ← s.preparing[k]?
    let snapshot := prepare o p.pinned p.previous files download now fetchedAt p.sets
    some { s with preparing := s.preparing.eraseIdx k, prepared := s.prepared ++ [snapshot] }
  | .activate k => do
    let snapshot ← s.prepared[k]?
    let shared := s.shared.activate snapshot
    some { s with
      prepared := s.prepared.eraseIdx k
      shared := shared
      tasks :=
        if snapshot.entries = [] then s.tasks
        else s.tasks ++ [{ generation := shared.generation }] }
  | .close => some { s with shared := { s.shared with generation := s.shared.generation + 1 } }
  | .look k now => do
    let t ← s.tasks[k]?
    let (t, asks) ← look s.shared t now
    some { s with tasks := s.tasks.set k t, asked := s.asked + asks.toNat }
  | .wake k => do
    let t ← s.tasks[k]?
    let t ← wake t
    some { s with tasks := s.tasks.set k t }
  | .start k i => do
    let t ← s.tasks[k]?
    let t ← start s.shared t i
    some { s with tasks := s.tasks.set k t }
  | .finish k i fetched fetchedAt now => do
    let t ← s.tasks[k]?
    let (shared, t) ← finish o s.shared t i fetched fetchedAt now
    some { s with shared := shared, tasks := s.tasks.set k t }
  | .collect k now => do
    let t ← s.tasks[k]?
    let (shared, t) ← collect s.shared t now
    some { s with shared := shared, tasks := s.tasks.set k t }

def Step (s s' : Sys) : Prop := ∃ a, act o s a = some s'

/-- What a run of applies and refreshes comes to. -/
def Reaches : Sys → Sys → Prop := Relation.ReflTransGen (Step o)

/-! ## What a turn does -/

/-- A set started or stopped being unavailable, or changed whether it is mirrored. -/
def Entry.Differs (a b : Entry) : Prop :=
  (a.state = .unavailable ↔ b.state ≠ .unavailable) ∨
    ∃ x y, a.copy = some x ∧ b.copy = some y ∧ x.mirrorDns ≠ y.mirrorDns

def Changed (before after : List Entry) : Prop :=
  ∃ (i : Nat) (a b : Entry), before[i]? = some a ∧ after[i]? = some b ∧ a.Differs b

theorem needsRebuild_iff (a b : Entry) : needsRebuild a b = true ↔ a.Differs b := by
  rw [needsRebuild, decide_eq_true_iff, Entry.Differs]
  apply or_congr
  · by_cases one : a.state = .unavailable <;> by_cases other : b.state = .unavailable <;> simp [one, other]
  · cases a.copy with
    | none => simp
    | some x =>
      cases b.copy with
      | none => simp
      | some y => simp

theorem Shared.of_eq {shared : Shared} {generation : Nat} {s : Snapshot}
    (mine : shared.of generation = some s) :
    shared.generation = generation ∧ shared.current = some s := by
  rw [Shared.of] at mine
  split at mine
  next same => exact ⟨same, mine⟩
  · cases mine

theorem look_cases {shared : Shared} {t t' : Task} {now : Time} {asks : Bool}
    (turn : look shared t now = some (t', asks)) :
    t.phase = .top ∧
      ((shared.of t.generation = none ∧ t' = { t with phase := .returned } ∧ asks = false) ∨
        ∃ s, shared.of t.generation = some s ∧
          ((s.due now = [] ∧ asks = t.rebuildPending ∧ t' = { t with
              rebuildPending := false
              rounds := []
              phase := (s.next now).elim .returned .asleep }) ∨
            (s.due now ≠ [] ∧ asks = false ∧ t' = { t with phase := .round {
              pinned := s.pinned
              waiting := s.due now
              flying := []
              results := []
              due := s.due now
              before := s.entries } }))) := by
  rw [look] at turn
  cases phase : t.phase with
  | top =>
    simp only [phase] at turn
    refine ⟨rfl, ?_⟩
    cases mine : shared.of t.generation with
    | none =>
      simp only [mine] at turn
      cases turn
      exact .inl ⟨rfl, rfl, rfl⟩
    | some s =>
      simp only [mine] at turn
      right
      refine ⟨s, rfl, ?_⟩
      split at turn
      next none =>
        cases turn
        exact .inl ⟨none, rfl, rfl⟩
      next some =>
        cases turn
        exact .inr ⟨some, rfl, rfl⟩
  | round | asleep | returned =>
    simp only [phase] at turn
    cases turn

theorem wake_cases {t t' : Task} (turn : wake t = some t') :
    ∃ next, t.phase = .asleep next ∧ t' = { t with phase := .top } := by
  rw [wake] at turn
  cases phase : t.phase with
  | asleep next =>
    simp only [phase] at turn
    cases turn
    exact ⟨next, rfl, rfl⟩
  | top | round | returned =>
    simp only [phase] at turn
    cases turn

theorem start_cases {shared : Shared} {t t' : Task} {i : Nat} (turn : start shared t i = some t') :
    ∃ r, t.phase = .round r ∧ i ∈ r.waiting ∧
      ((∃ e, (shared.of t.generation).bind (fun s => s.entries[i]?) = some e ∧
          t' = { t with phase := .round { r with
            waiting := r.waiting.erase i
            flying := r.flying ++ [(i, e)] } }) ∨
        ((shared.of t.generation).bind (fun s => s.entries[i]?) = none ∧
          t' = { t with phase := .round { r with
            waiting := r.waiting.erase i
            results := r.results ++ [(i, false, false)] } })) := by
  rw [start] at turn
  cases phase : t.phase with
  | round r =>
    simp only [phase] at turn
    split at turn
    next allowed =>
      refine ⟨r, rfl, allowed.1, ?_⟩
      cases found : (shared.of t.generation).bind fun s => s.entries[i]? with
      | none =>
        simp only [found] at turn
        cases turn
        exact .inr ⟨rfl, rfl⟩
      | some e =>
        simp only [found] at turn
        cases turn
        exact .inl ⟨e, rfl, rfl⟩
    · cases turn
  | top | asleep | returned =>
    simp only [phase] at turn
    cases turn

theorem finish_cases {shared shared' : Shared} {t t' : Task} {i : Nat} {fetched : Fetched}
    {fetchedAt now : Time} (turn : finish o shared t i fetched fetchedAt now = some (shared', t')) :
    ∃ r e, t.phase = .round r ∧ (i, e) ∈ r.flying ∧
      (((shared.of t.generation).bind (fun s => s.entries[i]?) = none ∧ shared' = shared ∧
          t' = { t with phase := .round { r with
            flying := r.flying.erase (i, e)
            results := r.results ++ [(i, false, false)] } }) ∨
        ∃ s before, shared.of t.generation = some s ∧ s.entries[i]? = some before ∧
          shared' = { shared with current := some { s with
            entries := s.entries.set i (refreshed o r.pinned e fetched fetchedAt now) } } ∧
          t' = { t with phase := .round { r with
            flying := r.flying.erase (i, e)
            results := r.results ++ [(i, needsRebuild before (refreshed o r.pinned e fetched fetchedAt now),
              decide (before.state ≠ .ready ∧
                (refreshed o r.pinned e fetched fetchedAt now).state = .ready))] } }) := by
  rw [finish] at turn
  cases phase : t.phase with
  | round r =>
    simp only [phase] at turn
    cases flight : r.flying.find? (·.1 = i) with
    | none =>
      simp only [flight] at turn
      cases turn
    | some found =>
      simp only [flight] at turn
      have mem := List.mem_of_find?_eq_some flight
      have index : found.1 = i := by simpa using List.find?_some flight
      obtain ⟨j, e⟩ := found
      obtain rfl : j = i := index
      refine ⟨r, e, rfl, mem, ?_⟩
      cases mine : shared.of t.generation with
      | none =>
        simp only [mine] at turn
        cases turn
        exact .inl ⟨rfl, rfl, rfl⟩
      | some s =>
        simp only [mine] at turn
        cases there : s.entries[j]? with
        | none =>
          simp only [Option.bind_some, there] at turn
          cases turn
          exact .inl ⟨by simp [there], rfl, rfl⟩
        | some before =>
          simp only [Option.bind_some, there] at turn
          cases turn
          refine .inr ⟨s, before, rfl, there, ?_, rfl⟩
          rw [(Shared.of_eq mine).2]
          rfl
  | top | asleep | returned =>
    simp only [phase] at turn
    cases turn

theorem collect_cases {shared shared' : Shared} {t t' : Task} {now : Time}
    (turn : collect shared t now = some (shared', t')) :
    ∃ r, t.phase = .round r ∧ r.waiting = [] ∧ r.flying = [] ∧
      t'.generation = t.generation ∧
      t'.rebuildPending = (t.rebuildPending || r.results.any (·.2.1)) ∧
      t'.rounds = t.rounds ++
        [(r.before, ((shared.of t.generation).map Snapshot.entries).getD r.before)] ∧
      ((r.results.any (·.2.2) = false ∧ shared' = shared ∧ t'.phase = .top) ∨
        (shared.generation ≠ t.generation ∧ shared' = shared ∧ t'.phase = .returned) ∨
        (r.results.any (·.2.2) = true ∧ shared.generation = t.generation ∧ t'.phase = .top ∧
          shared' = { shared with current := shared.current.map fun s =>
            { s with entries := s.entries.map (·.retried now) } })) := by
  rw [collect] at turn
  cases phase : t.phase with
  | round r =>
    simp only [phase] at turn
    split at turn
    next all =>
      refine ⟨r, rfl, all.1, all.2, ?_⟩
      split at turn
      next recovered =>
        split at turn
        next moved =>
          cases turn
          exact ⟨rfl, rfl, rfl, .inr (.inl ⟨moved, rfl, rfl⟩)⟩
        next same =>
          cases turn
          exact ⟨rfl, rfl, rfl, .inr (.inr ⟨recovered, not_not.1 same, rfl, rfl⟩)⟩
      next none =>
        cases turn
        exact ⟨rfl, rfl, rfl, .inl ⟨Bool.eq_false_iff.2 none, rfl, rfl⟩⟩
    · cases turn
  | top | asleep | returned =>
    simp only [phase] at turn
    cases turn

/-! ## A round and the current snapshot -/

/-- Each due set is waiting, in flight or refreshed; only the refreshed ones
differ from what they were. -/
structure Live (s : Snapshot) (r : Round) : Prop where
  pinned : r.pinned = s.pinned
  each : (r.waiting ++ (r.flying.map Prod.fst ++ r.results.map Prod.fst)).Perm r.due
  once : r.due.Nodup
  inside : ∀ i ∈ r.due, i < s.entries.length
  flying : ∀ f ∈ r.flying, s.entries[f.1]? = some f.2
  untouched : ∀ i, i ∉ r.results.map Prod.fst → s.entries[i]? = r.before[i]?
  results : ∀ x ∈ r.results, ∃ a b, r.before[x.1]? = some a ∧ s.entries[x.1]? = some b ∧
    (x.2.1 = true ↔ a.Differs b) ∧ (x.2.2 = true ↔ a.state ≠ .ready ∧ b.state = .ready)

theorem mem_due {s : Snapshot} {now : Time} {i : Nat} :
    i ∈ s.due now ↔ ∃ e, s.entries[i]? = some e ∧ e.isDue now = true := by
  rw [Snapshot.due, List.mem_map]
  constructor
  · rintro ⟨⟨e, j⟩, mem, rfl⟩
    obtain ⟨there, due⟩ := List.mem_filter.1 mem
    exact ⟨e, List.mem_zipIdx_iff_getElem?.1 there, due⟩
  · rintro ⟨e, there, due⟩
    exact ⟨(e, i), List.mem_filter.2 ⟨List.mem_zipIdx_iff_getElem?.2 there, due⟩, rfl⟩

theorem nodup_due (s : Snapshot) (now : Time) : (s.due now).Nodup := by
  have all : (s.entries.zipIdx.map Prod.snd).Nodup := by
    rw [List.zipIdx_map_snd]
    exact List.nodup_range' 
  exact all.sublist (List.filter_sublist.map Prod.snd)

theorem Live.begin (s : Snapshot) (now : Time) :
    Live s {
      pinned := s.pinned
      waiting := s.due now
      flying := []
      results := []
      due := s.due now
      before := s.entries } where
  pinned := rfl
  each := by simp
  once := nodup_due s now
  inside i mem := by
    obtain ⟨e, there, -⟩ := mem_due.1 mem
    exact (List.getElem?_eq_some_iff.1 there).1
  flying _ mem := by cases mem
  untouched _ _ := rfl
  results _ mem := by cases mem

variable {s : Snapshot} {r : Round} {i : Nat} {e : Entry}

theorem Live.start (live : Live s r) (waits : i ∈ r.waiting) (there : s.entries[i]? = some e) :
    Live s { r with waiting := r.waiting.erase i, flying := r.flying ++ [(i, e)] } where
  pinned := live.pinned
  each := by
    refine List.Perm.trans ?_ live.each
    have moved := List.perm_cons_erase waits
    rw [List.map_append, List.map_singleton, List.append_assoc]
    refine List.Perm.trans ?_ (moved.append_right _).symm
    rw [List.singleton_append]
    refine (List.Perm.append_left _ List.perm_middle).trans ?_
    exact List.perm_middle
  once := live.once
  inside := live.inside
  flying f mem := by
    rcases List.mem_append.1 mem with mem | mem
    · exact live.flying f mem
    · rw [List.mem_singleton.1 mem]
      exact there
  untouched := live.untouched
  results := live.results

/-- A set in flight is not refreshed yet. -/
theorem Live.flying_not (live : Live s r) (mem : (i, e) ∈ r.flying) : i ∉ r.results.map Prod.fst := by
  have distinct := (live.each.nodup_iff).2 live.once
  rw [List.nodup_append', List.nodup_append'] at distinct
  exact fun other => distinct.2.1.2.2 (List.mem_map_of_mem mem) other

/-- No other download of the set is in flight. -/
theorem Live.flying_once (live : Live s r) (mem : (i, e) ∈ r.flying) {f : Nat × Entry}
    (other : f ∈ r.flying.erase (i, e)) : f.1 ≠ i := by
  have distinct := (live.each.nodup_iff).2 live.once
  rw [List.nodup_append', List.nodup_append'] at distinct
  have perm := (List.perm_cons_erase mem).map Prod.fst
  have single := perm.nodup_iff.1 distinct.2.1.1
  rw [List.map_cons, List.nodup_cons] at single
  rintro rfl
  exact single.1 (List.mem_map.2 ⟨f, other, rfl⟩)

theorem Live.finish (live : Live s r) (mem : (i, e) ∈ r.flying) (e' : Entry) :
    Live { s with entries := s.entries.set i e' } { r with
      flying := r.flying.erase (i, e)
      results := r.results ++ [(i, needsRebuild e e', decide (e.state ≠ .ready ∧ e'.state = .ready))] } where
  pinned := live.pinned
  each := by
    refine List.Perm.trans ?_ live.each
    apply List.Perm.append_left
    have moved := (List.perm_cons_erase mem).map Prod.fst
    rw [List.map_append, List.map_singleton]
    refine List.Perm.trans ?_ (moved.append_right _).symm
    rw [← List.append_assoc]
    exact List.perm_append_singleton _ _
  once := live.once
  inside j due := by
    rw [List.length_set]
    exact live.inside j due
  flying f other := by
    rw [List.getElem?_set_ne (live.flying_once mem other).symm]
    exact live.flying f (List.mem_of_mem_erase other)
  untouched j out := by
    rw [List.map_append, List.mem_append, not_or] at out
    have differ : i ≠ j := fun same => out.2 (List.mem_singleton.2 same.symm)
    rw [List.getElem?_set_ne differ]
    exact live.untouched j out.1
  results x listed := by
    rcases List.mem_append.1 listed with earlier | now
    · obtain ⟨a, b, was, is, rebuild, recovered⟩ := live.results x earlier
      have differ : i ≠ x.1 := by
        rintro rfl
        exact live.flying_not mem (List.mem_map_of_mem earlier)
      exact ⟨a, b, was, by rw [List.getElem?_set_ne differ]; exact is, rebuild, recovered⟩
    · rw [List.mem_singleton.1 now]
      have found := live.flying _ mem
      have inside := (List.getElem?_eq_some_iff.1 found).1
      refine ⟨e, e', ?_, List.getElem?_set_self inside, needsRebuild_iff e e', decide_eq_true_iff⟩
      rw [← live.untouched i (live.flying_not mem)]
      exact found

theorem Entry.differs_self (e : Entry) : ¬ e.Differs e := by
  rintro (state | ⟨x, y, one, other, differ⟩)
  · by_cases is : e.state = .unavailable
    · exact state.1 is is
    · exact is (state.2 is)
  · rw [one] at other
    cases other
    exact differ rfl

/-- The results tell of a change that leaving a set alone is not. -/
theorem Live.told (live : Live s r) {flag : Nat × Bool × Bool → Bool} (change : Entry → Entry → Prop)
    (self : ∀ e, ¬ change e e)
    (tells : ∀ x ∈ r.results, ∀ a b, r.before[x.1]? = some a → s.entries[x.1]? = some b →
      (flag x = true ↔ change a b)) :
    r.results.any flag = true ↔
      ∃ (i : Nat) (a b : Entry), r.before[i]? = some a ∧ s.entries[i]? = some b ∧ change a b := by
  rw [List.any_eq_true]
  constructor
  · rintro ⟨x, mem, told⟩
    obtain ⟨a, b, was, is, -⟩ := live.results x mem
    exact ⟨x.1, a, b, was, is, (tells x mem a b was is).1 told⟩
  · rintro ⟨j, a, b, was, is, changed⟩
    by_cases refreshed : j ∈ r.results.map Prod.fst
    · obtain ⟨x, mem, rfl⟩ := List.mem_map.1 refreshed
      exact ⟨x, mem, (tells x mem a b was is).2 changed⟩
    · rw [live.untouched j refreshed, was] at is
      cases is
      exact absurd changed (self a)

/-- At the end of the round its results tell whether anything changed. -/
theorem Live.changed (live : Live s r) :
    r.results.any (·.2.1) = true ↔ Changed r.before s.entries := by
  refine live.told Entry.Differs Entry.differs_self ?_
  intro x mem a b was is
  obtain ⟨a', b', was', is', same, -⟩ := live.results x mem
  rw [was] at was'
  rw [is] at is'
  cases was'
  cases is'
  exact same

/-! ## Every state -/

/-- The task of the current generation knows what its rounds changed. -/
def Task.Good (shared : Shared) (t : Task) : Prop :=
  ∀ s, shared.of t.generation = some s →
    (∀ r, t.phase = .round r → Live s r) ∧
      (t.rebuildPending = true ↔ ∃ p ∈ t.rounds, Changed p.1 p.2)

structure Sys.Good (s : Sys) : Prop where
  prepared : ∀ snapshot ∈ s.prepared, snapshot.Sound
  current : ∀ snapshot, s.shared.current = some snapshot → snapshot.Sound
  tasks : ∀ (k : Nat) (t : Task), s.tasks[k]? = some t → t.generation ≤ s.shared.generation ∧ t.Good s.shared
  distinct : ∀ (j k : Nat) (t u : Task), s.tasks[j]? = some t → s.tasks[k]? = some u →
    t.generation = u.generation → j = k

/-- A turn of one task: the shared state is changed by the current generation's only. -/
theorem Sys.Good.turn {s : Sys} (good : s.Good) {k : Nat} {t t' : Task} (there : s.tasks[k]? = some t)
    (generation : t'.generation = t.generation) {shared : Shared}
    (same : shared.generation = s.shared.generation)
    (mine : shared = s.shared ∨ s.shared.generation = t.generation) (fine : t'.Good shared)
    (sound : ∀ snapshot, shared.current = some snapshot → snapshot.Sound) (asked : Nat) :
    Sys.Good { s with shared := shared, tasks := s.tasks.set k t', asked := asked } where
  prepared := good.prepared
  current := sound
  tasks j u at1 := by
    by_cases this : k = j
    · subst this
      have inside := (List.getElem?_eq_some_iff.1 there).1
      rw [List.getElem?_set_self inside] at at1
      cases at1
      refine ⟨?_, fine⟩
      rw [generation, same]
      exact (good.tasks k t there).1
    · rw [List.getElem?_set_ne this] at at1
      obtain ⟨below, still⟩ := good.tasks j u at1
      refine ⟨by rw [same]; exact below, ?_⟩
      rcases mine with rfl | own
      · exact still
      · -- another task is not of the current generation
        intro snapshot found
        have equal := (Shared.of_eq found).1
        rw [same, own] at equal
        exact absurd (good.distinct k j t u there at1 equal) this
  distinct j l u v one other equal := by
    have inside := (List.getElem?_eq_some_iff.1 there).1
    have origin : ∀ (j : Nat) (u : Task), (s.tasks.set k t')[j]? = some u →
        ∃ w, s.tasks[j]? = some w ∧ w.generation = u.generation := by
      intro j u at1
      by_cases this : k = j
      · subst this
        rw [List.getElem?_set_self inside] at at1
        cases at1
        exact ⟨t, there, generation.symm⟩
      · rw [List.getElem?_set_ne this] at at1
        exact ⟨u, at1, rfl⟩
    obtain ⟨w, first, here⟩ := origin j u one
    obtain ⟨w', second, there'⟩ := origin l v other
    exact good.distinct j l w w' first second (by rw [here, there', equal])

theorem Snapshot.Sound.set {snapshot : Snapshot} (sound : snapshot.Sound) {i : Nat} {e : Entry}
    (means : e.Means snapshot.pinned) :
    Snapshot.Sound { snapshot with entries := snapshot.entries.set i e } := by
  intro f mem
  rcases List.mem_or_eq_of_mem_set mem with mem | rfl
  · exact sound f mem
  · exact means

theorem refreshed_means {pinned : List (List Char)} (means : e.Means pinned) (held : List (List Char))
    (fetched : Fetched) (fetchedAt now : Time) : (refreshed o held e fetched fetchedAt now).Means pinned := by
  rw [refreshed]
  split
  · exact (fetchInto_means means fetched fetchedAt).of_same rfl rfl rfl
  · exact means.of_same rfl rfl rfl

theorem Entry.retried_same (e : Entry) (now : Time) :
    (e.retried now).state = e.state ∧ (e.retried now).set = e.set ∧ (e.retried now).copy = e.copy := by
  rw [Entry.retried]
  split <;> exact ⟨rfl, rfl, rfl⟩

theorem Snapshot.Sound.retried {snapshot : Snapshot} (sound : snapshot.Sound) (now : Time) :
    Snapshot.Sound { snapshot with entries := snapshot.entries.map (·.retried now) } := by
  intro f mem
  obtain ⟨e, there, rfl⟩ := List.mem_map.1 mem
  obtain ⟨state, set, copy⟩ := e.retried_same now
  exact (sound e there).of_same state set copy

/-- A task of an earlier generation finds nothing of its own. -/
theorem Task.Good.stale {shared : Shared} {t : Task} (before : t.generation < shared.generation) :
    t.Good shared := by
  intro snapshot own
  have same := (Shared.of_eq own).1
  omega

theorem Task.Good.fresh {shared : Shared} {t : Task} (top : t.phase = .top)
    (pending : t.rebuildPending = false) (rounds : t.rounds = []) : t.Good shared := by
  intro snapshot own
  refine ⟨?_, by simp [pending, rounds]⟩
  intro r phase
  rw [top] at phase
  cases phase

theorem spawned {tasks : List Task} {fresh t : Task} {none : Prop} [Decidable none] {j : Nat}
    (at1 : (if none then tasks else tasks ++ [fresh])[j]? = some t) :
    tasks[j]? = some t ∨ (t = fresh ∧ j = tasks.length) := by
  split at at1
  · exact .inl at1
  · rcases Nat.lt_or_ge j tasks.length with inside | past
    · rw [List.getElem?_append_left inside] at at1
      exact .inl at1
    · rw [List.getElem?_append_right past, List.getElem?_singleton] at at1
      split at at1
      next zero =>
        cases at1
        exact .inr ⟨rfl, by omega⟩
      · cases at1

/-- Whatever the tasks do, in whatever order. -/
theorem Sys.Good.step {s s' : Sys} (good : s.Good) (step : Step o s s') : s'.Good := by
  obtain ⟨a, acted⟩ := step
  cases a with
  | prepareStart sets allowedHosts =>
    cases acted
    exact ⟨good.prepared, good.current, good.tasks, good.distinct⟩
  | prepareEnd k files download now fetchedAt =>
    obtain ⟨p, -, acted⟩ := Option.bind_eq_some_iff.1 acted
    cases acted
    refine ⟨?_, good.current, good.tasks, good.distinct⟩
    intro snapshot mem
    rcases List.mem_append.1 mem with mem | mem
    · exact good.prepared snapshot mem
    · rw [List.mem_singleton.1 mem]
      exact prepare_sound _ _ _ _ _ _
  | activate k =>
    obtain ⟨snapshot, there, acted⟩ := Option.bind_eq_some_iff.1 acted
    cases acted
    have sound := good.prepared snapshot (List.mem_of_getElem? there)
    refine ⟨fun _ mem => good.prepared _ (List.mem_of_mem_eraseIdx mem), ?_, ?_, ?_⟩
    · intro other current
      cases current
      exact sound
    · intro j t at1
      rcases spawned at1 with earlier | ⟨rfl, -⟩
      · have below := (good.tasks j t earlier).1
        exact ⟨Nat.le_succ_of_le below, .stale (by show _ < _; exact Nat.lt_succ_of_le below)⟩
      · exact ⟨le_refl _, .fresh rfl rfl rfl⟩
    · intro j l t u one other same
      rcases spawned one with one | ⟨rfl, rfl⟩
      · rcases spawned other with other | ⟨rfl, rfl⟩
        · exact good.distinct j l t u one other same
        · have below := (good.tasks j t one).1
          change t.generation = s.shared.generation + 1 at same
          omega
      · rcases spawned other with other | ⟨rfl, rfl⟩
        · have below := (good.tasks l u other).1
          change s.shared.generation + 1 = u.generation at same
          omega
        · rfl
  | close =>
    cases acted
    refine ⟨good.prepared, good.current, ?_, good.distinct⟩
    intro j t at1
    have below := (good.tasks j t at1).1
    exact ⟨Nat.le_succ_of_le below, .stale (Nat.lt_succ_of_le below)⟩
  | look k now =>
    obtain ⟨t, there, acted⟩ := Option.bind_eq_some_iff.1 acted
    obtain ⟨⟨t', asks⟩, turn, acted⟩ := Option.bind_eq_some_iff.1 acted
    cases acted
    obtain ⟨top, cases'⟩ := look_cases turn
    have mine := (good.tasks k t there).2
    rcases cases' with ⟨none, rfl, -⟩ | ⟨snapshot, own, ⟨-, -, rfl⟩ | ⟨-, -, rfl⟩⟩
    · refine good.turn there ?_ rfl (.inl rfl) ?_ good.current _
      · rfl
      intro snapshot own
      rw [none] at own
      cases own
    · refine good.turn there ?_ rfl (.inl rfl) ?_ good.current _
      · rfl
      intro other own'
      refine ⟨?_, by simp⟩
      intro r phase
      cases next : snapshot.next now with
      | none =>
        simp only [next, Option.elim_none] at phase
        cases phase
      | some at1 =>
        simp only [next, Option.elim_some] at phase
        cases phase
    · refine good.turn there ?_ rfl (.inl rfl) ?_ good.current _
      · rfl
      intro other own'
      rw [own] at own'
      cases own'
      refine ⟨?_, (mine snapshot own).2⟩
      intro r phase
      cases phase
      exact Live.begin snapshot now
  | wake k =>
    obtain ⟨t, there, acted⟩ := Option.bind_eq_some_iff.1 acted
    obtain ⟨t', turn, acted⟩ := Option.bind_eq_some_iff.1 acted
    cases acted
    obtain ⟨next, asleep, rfl⟩ := wake_cases turn
    refine good.turn there ?_ rfl (.inl rfl) ?_ good.current _
    · rfl
    intro snapshot own
    refine ⟨?_, ((good.tasks k t there).2 snapshot own).2⟩
    intro r phase
    cases phase
  | start k i =>
    obtain ⟨t, there, acted⟩ := Option.bind_eq_some_iff.1 acted
    obtain ⟨t', turn, acted⟩ := Option.bind_eq_some_iff.1 acted
    cases acted
    obtain ⟨r, phase, waits, cases'⟩ := start_cases turn
    have mine := (good.tasks k t there).2
    rcases cases' with ⟨e, found, rfl⟩ | ⟨none, rfl⟩
    · refine good.turn there ?_ rfl (.inl rfl) ?_ good.current _
      · rfl
      intro snapshot own
      obtain ⟨live, pending⟩ := mine snapshot own
      refine ⟨?_, pending⟩
      intro r' phase'
      cases phase'
      change (s.shared.of t.generation).bind _ = _ at found
      rw [own] at found
      exact (live r phase).start waits found
    · refine good.turn there ?_ rfl (.inl rfl) ?_ good.current _
      · rfl
      intro snapshot own
      obtain ⟨live, pending⟩ := mine snapshot own
      -- a waiting set is one of the snapshot
      have inside := (live r phase).inside i ((live r phase).each.subset (List.mem_append_left _ waits))
      change (s.shared.of t.generation).bind _ = _ at none
      rw [own] at none
      exact absurd (List.getElem?_eq_none_iff.1 none) (by omega)
  | finish k i fetched fetchedAt now =>
    obtain ⟨t, there, acted⟩ := Option.bind_eq_some_iff.1 acted
    obtain ⟨⟨shared, t'⟩, turn, acted⟩ := Option.bind_eq_some_iff.1 acted
    cases acted
    obtain ⟨r, e, phase, flies, cases'⟩ := finish_cases o turn
    have mine := (good.tasks k t there).2
    rcases cases' with ⟨none, rfl, rfl⟩ | ⟨snapshot, before, own, found, rfl, rfl⟩
    · refine good.turn there ?_ rfl (.inl rfl) ?_ good.current _
      · rfl
      intro snapshot own
      have found := ((mine snapshot own).1 r phase).flying _ flies
      change (s.shared.of t.generation).bind _ = _ at none
      rw [own] at none
      rw [Option.bind_some, found] at none
      cases none
    · obtain ⟨live, pending⟩ := mine snapshot own
      have same := (live r phase).flying _ flies
      rw [found] at same
      cases same
      obtain ⟨generation, current⟩ := Shared.of_eq own
      refine good.turn there ?_ ?_ (.inr generation) ?_ ?_ _
      · rfl
      · rfl
      · intro snapshot' own'
        rw [Shared.of, if_pos generation] at own'
        cases own'
        refine ⟨?_, pending⟩
        intro r' phase'
        cases phase'
        exact (live r phase).finish flies _
      · intro snapshot' current'
        cases current'
        have sound := good.current snapshot current
        exact sound.set (refreshed_means o (sound _ (List.mem_of_getElem? found)) _ _ _ _)
  | collect k now =>
    obtain ⟨t, there, acted⟩ := Option.bind_eq_some_iff.1 acted
    obtain ⟨⟨shared, t'⟩, turn, acted⟩ := Option.bind_eq_some_iff.1 acted
    cases acted
    obtain ⟨r, phase, waits, flies, generation, pending', rounds', cases'⟩ := collect_cases turn
    have mine := (good.tasks k t there).2
    have knows : ∀ snapshot, s.shared.of t.generation = some snapshot →
        (t'.rebuildPending = true ↔ ∃ p ∈ t'.rounds, Changed p.1 p.2) := by
      intro snapshot own
      obtain ⟨live, pending⟩ := mine snapshot own
      rw [pending', rounds', own, Bool.or_eq_true, pending, (live r phase).changed]
      simp only [List.mem_append, List.mem_singleton, or_and_right, exists_or, exists_eq_left]
      rfl
    rcases cases' with ⟨-, rfl, top⟩ | ⟨moved, rfl, out⟩ | ⟨-, same, top, rfl⟩
    · refine good.turn there generation rfl (.inl rfl) ?_ good.current _
      intro snapshot own
      rw [generation] at own
      refine ⟨?_, knows snapshot own⟩
      intro r' phase'
      rw [top] at phase'
      cases phase'
    · refine good.turn there generation rfl (.inl rfl) ?_ good.current _
      intro snapshot own
      rw [generation] at own
      exact absurd (Shared.of_eq own).1 moved
    · refine good.turn there generation ?_ (.inr same) ?_ ?_ _
      · rfl
      · intro snapshot own
        rw [generation, Shared.of, if_pos same] at own
        obtain ⟨earlier, current, -⟩ := Option.map_eq_some_iff.1 own
        refine ⟨?_, knows earlier (by rw [Shared.of, if_pos same, current])⟩
        intro r' phase'
        rw [top] at phase'
        cases phase'
      · intro snapshot current
        obtain ⟨earlier, was, rfl⟩ := Option.map_eq_some_iff.1 current
        exact (good.current earlier was).retried now

theorem good_start : Sys.Good {} where
  prepared _ mem := by cases mem
  current _ current := by cases current
  tasks _ _ at1 := by simp at at1
  distinct _ _ _ _ one := by simp at one

theorem Reaches.good {s s' : Sys} (reached : Reaches o s s') (good : s.Good) : s'.Good := by
  induction reached with
  | refl => exact good
  | tail _ step ih => exact ih.step o step

/-! ## Ready is not lost -/

def Shared.entry (shared : Shared) (i : Nat) : Option Entry := shared.current.bind fun s => s.entries[i]?

/-- Who changes the shared state. -/
theorem shared_cases {s s' : Sys} (step : Step o s s') :
    s'.shared = s.shared ∨ s'.shared.generation = s.shared.generation + 1 ∨
      (∃ (k : Nat) (t t' : Task) (i : Nat) (fetched : Fetched) (fetchedAt now : Time),
        s.tasks[k]? = some t ∧
        finish o s.shared t i fetched fetchedAt now = some (s'.shared, t')) ∨
      ∃ (k : Nat) (t t' : Task) (now : Time), s.tasks[k]? = some t ∧
        collect s.shared t now = some (s'.shared, t') := by
  obtain ⟨a, acted⟩ := step
  cases a with
  | prepareStart | close =>
    cases acted
    simp
  | prepareEnd k =>
    obtain ⟨p, -, acted⟩ := Option.bind_eq_some_iff.1 acted
    cases acted
    exact .inl rfl
  | activate k =>
    obtain ⟨snapshot, -, acted⟩ := Option.bind_eq_some_iff.1 acted
    cases acted
    exact .inr (.inl rfl)
  | look k | wake k | start k =>
    obtain ⟨t, -, acted⟩ := Option.bind_eq_some_iff.1 acted
    obtain ⟨_, -, acted⟩ := Option.bind_eq_some_iff.1 acted
    cases acted
    exact .inl rfl
  | finish k i fetched fetchedAt now =>
    obtain ⟨t, there, acted⟩ := Option.bind_eq_some_iff.1 acted
    obtain ⟨⟨shared, t'⟩, turn, acted⟩ := Option.bind_eq_some_iff.1 acted
    cases acted
    exact .inr (.inr (.inl ⟨k, t, t', i, fetched, fetchedAt, now, there, turn⟩))
  | collect k now =>
    obtain ⟨t, there, acted⟩ := Option.bind_eq_some_iff.1 acted
    obtain ⟨⟨shared, t'⟩, turn, acted⟩ := Option.bind_eq_some_iff.1 acted
    cases acted
    exact .inr (.inr (.inr ⟨k, t, t', now, there, turn⟩))

/-- In one generation entries change only by their own refresh, and by becoming due. -/
theorem ready_step {s s' : Sys} (good : s.Good) (step : Step o s s')
    (same : s'.shared.generation = s.shared.generation) {i : Nat} {e : Entry}
    (found : s.shared.entry i = some e) (ready : e.state = .ready) :
    ∃ e', s'.shared.entry i = some e' ∧ e'.set = e.set ∧ e'.state = .ready := by
  rcases shared_cases o step with kept | moved | ⟨k, t, t', j, fetched, fetchedAt, now, there, turn⟩ |
    ⟨k, t, t', now, there, turn⟩
  · exact ⟨e, by rw [kept, found], rfl, ready⟩
  · omega
  · obtain ⟨r, flown, phase, flies, cases'⟩ := finish_cases o turn
    rcases cases' with ⟨-, kept, -⟩ | ⟨snapshot, before, own, was, made, -⟩
    · exact ⟨e, by rw [kept, found], rfl, ready⟩
    · have current := (Shared.of_eq own).2
      rw [Shared.entry, current, Option.bind_some] at found
      rw [made]
      by_cases this : j = i
      · subst this
        -- the download began from the entry that is there
        have copied := (((good.tasks k t there).2 snapshot own).1 r phase).flying _ flies
        rw [found] at copied
        cases copied
        have inside := (List.getElem?_eq_some_iff.1 found).1
        refine ⟨_, List.getElem?_set_self inside, ?_, ?_⟩
        · rw [refreshed]
          split
          · exact fetchInto_set _ _ _
          · rfl
        · rw [refreshed]
          split
          · exact fetchInto_ready ready _ _
          · exact ready
      · refine ⟨e, ?_, rfl, ready⟩
        show (snapshot.entries.set j _)[i]? = some e
        rw [List.getElem?_set_ne this]
        exact found
  · obtain ⟨r, -, -, -, -, -, -, cases'⟩ := collect_cases turn
    rcases cases' with ⟨-, kept, -⟩ | ⟨-, kept, -⟩ | ⟨-, -, -, made⟩
    · exact ⟨e, by rw [kept, found], rfl, ready⟩
    · exact ⟨e, by rw [kept, found], rfl, ready⟩
    · obtain ⟨snapshot, current, at1⟩ := Option.bind_eq_some_iff.1 found
      obtain ⟨state, set, -⟩ := e.retried_same now
      refine ⟨e.retried now, ?_, set, state.trans ready⟩
      simp only [made, Shared.entry, current, Option.map_some, Option.bind_some, List.getElem?_map, at1]

theorem generation_step {s s' : Sys} (step : Step o s s') :
    s.shared.generation ≤ s'.shared.generation := by
  rcases shared_cases o step with kept | moved | ⟨k, t, t', j, fetched, fetchedAt, now, there, turn⟩ |
    ⟨k, t, t', now, there, turn⟩
  · rw [kept]
  · omega
  · obtain ⟨r, flown, -, -, ⟨-, kept, -⟩ | ⟨snapshot, before, -, -, made, -⟩⟩ := finish_cases o turn
    · rw [kept]
    · rw [made]
  · obtain ⟨r, -, -, -, -, -, -, ⟨-, kept, -⟩ | ⟨-, kept, -⟩ | ⟨-, -, -, made⟩⟩ := collect_cases turn
    · rw [kept]
    · rw [kept]
    · rw [made]

theorem Reaches.generation {s s' : Sys} (reached : Reaches o s s') :
    s.shared.generation ≤ s'.shared.generation := by
  induction reached with
  | refl => exact le_refl _
  | tail _ step ih => exact ih.trans (generation_step o step)

theorem Reaches.ready {s s' : Sys} (reached : Reaches o s s') (good : s.Good)
    (same : s'.shared.generation = s.shared.generation) {i : Nat} {e : Entry}
    (found : s.shared.entry i = some e) (ready : e.state = .ready) :
    ∃ e', s'.shared.entry i = some e' ∧ e'.set = e.set ∧ e'.state = .ready := by
  induction reached with
  | refl => exact ⟨e, found, rfl, ready⟩
  | @tail mid s' reached step ih =>
    have before := Reaches.generation o reached
    have now := generation_step o step
    obtain ⟨e', found', set', ready'⟩ := ih (by omega)
    obtain ⟨e'', found'', set'', ready''⟩ :=
      ready_step o (Reaches.good o reached good) step (by omega) found' ready'
    exact ⟨e'', found'', set''.trans set', ready''⟩

/-! ## Rebuilds -/

/-- The action is the current task's finding nothing due, after rounds of which
one changed which sets are available or mirrored. -/
def Settles (s : Sys) (a : Action) : Prop :=
  ∃ (k : Nat) (now : Time) (t : Task) (snapshot : Snapshot), a = .look k now ∧ s.tasks[k]? = some t ∧
    t.phase = .top ∧ s.shared.of t.generation = some snapshot ∧ snapshot.due now = [] ∧
    ∃ p ∈ t.rounds, Changed p.1 p.2

theorem asked_step {s s' : Sys} (good : s.Good) {a : Action} (acted : act o s a = some s') :
    (Settles s a ∧ s'.asked = s.asked + 1) ∨ (¬ Settles s a ∧ s'.asked = s.asked) := by
  cases a with
  | look k now =>
    obtain ⟨t, there, acted⟩ := Option.bind_eq_some_iff.1 acted
    obtain ⟨⟨t', asks⟩, turn, acted⟩ := Option.bind_eq_some_iff.1 acted
    cases acted
    obtain ⟨top, cases'⟩ := look_cases turn
    rcases cases' with ⟨none, -, rfl⟩ | ⟨snapshot, own, ⟨nothing, rfl, -⟩ | ⟨some, rfl, -⟩⟩
    · refine .inr ⟨?_, rfl⟩
      rintro ⟨_, _, u, snapshot, same, at1, -, own, -⟩
      cases same
      rw [there] at at1
      cases at1
      rw [none] at own
      cases own
    · have knows := ((good.tasks k t there).2 snapshot own).2
      cases pending : t.rebuildPending with
      | true => exact .inl ⟨⟨k, now, t, snapshot, rfl, there, top, own, nothing, knows.1 pending⟩, rfl⟩
      | false =>
        refine .inr ⟨?_, rfl⟩
        rintro ⟨_, _, u, snapshot, same, at1, -, -, -, changed⟩
        cases same
        rw [there] at at1
        cases at1
        rw [knows.2 changed] at pending
        cases pending
    · refine .inr ⟨?_, rfl⟩
      rintro ⟨_, _, u, snapshot', same, at1, -, own', nothing, -⟩
      cases same
      rw [there] at at1
      cases at1
      rw [own] at own'
      cases own'
      exact some nothing
  | prepareStart | close =>
    cases acted
    refine .inr ⟨?_, rfl⟩
    rintro ⟨_, _, _, _, same, -⟩
    cases same
  | prepareEnd k | activate k =>
    obtain ⟨_, -, acted⟩ := Option.bind_eq_some_iff.1 acted
    cases acted
    refine .inr ⟨?_, rfl⟩
    rintro ⟨_, _, _, _, same, -⟩
    cases same
  | wake k | start k | finish k | collect k =>
    obtain ⟨t, -, acted⟩ := Option.bind_eq_some_iff.1 acted
    obtain ⟨_, -, acted⟩ := Option.bind_eq_some_iff.1 acted
    cases acted
    refine .inr ⟨?_, rfl⟩
    rintro ⟨_, _, _, _, same, -⟩
    cases same

/-- What the states mean, what the files are, that ready stays ready while
nothing else is activated, and when a rebuild is asked for. -/
theorem entries_keep_meaning {s : Sys} (reached : Reaches o {} s) :
    (∀ snapshot, snapshot ∈ s.prepared ∨ s.shared.current = some snapshot →
      snapshot.Sound ∧ snapshot.FilesExact) ∧
    (∀ s', Reaches o s s' → s'.shared.generation = s.shared.generation → ∀ i e,
      s.shared.entry i = some e → e.state = .ready →
        ∃ e', s'.shared.entry i = some e' ∧ e'.set = e.set ∧ e'.state = .ready) ∧
    ∀ a s', act o s a = some s' →
      (Settles s a ∧ s'.asked = s.asked + 1) ∨ (¬ Settles s a ∧ s'.asked = s.asked) := by
  have good := Reaches.good o reached good_start
  refine ⟨?_, ?_, ?_⟩
  · rintro snapshot (mem | current)
    · exact ⟨good.prepared snapshot mem, files_exact (good.prepared snapshot mem)⟩
    · exact ⟨good.current snapshot current, files_exact (good.current snapshot current)⟩
  · intro s' later same i e found ready
    exact Reaches.ready o later good same found ready
  · intro a s' acted
    exact asked_step o good acted

/-- A rebuild asked for after each round that changed something, and after no other. -/
def AskedAfterEachRound : Prop :=
  ∀ s, Reaches o {} s → ∀ (k : Nat) (now now' : Time) (s1 s2 : Sys), act o s (.collect k now) = some s1 →
    act o s1 (.look k now') = some s2 → ∀ (t : Task) (r : Round) (snapshot : Snapshot),
      s.tasks[k]? = some t → t.phase = .round r → s.shared.of t.generation = some snapshot →
        (s2.asked = s1.asked + 1 ↔ Changed r.before snapshot.entries)

/-! ## Two sets -/

/-- The actions one after another. -/
def play : Sys → List Action → Option Sys
  | s, [] => some s
  | s, a :: actions => (act o s a).bind fun s => play s actions

theorem reaches_play {actions : List Action} {s s' : Sys} (played : play o s actions = some s') :
    Reaches o s s' := by
  induction actions generalizing s with
  | nil =>
    cases played
    exact .refl
  | cons a actions ih =>
    obtain ⟨mid, acted, rest⟩ := Option.bind_eq_some_iff.1 played
    exact .head ⟨a, acted⟩ (ih rest)

/-- An empty rule list, stored. -/
def emptySet : Bytes := [83, 82, 83, 1, 120, 1, 1, 1, 0, 254, 255, 0, 0, 1, 0, 1]

def emptyDigest : String := "97159d37dbabddbf0bc8c325e899ea1ee1a688c18bafda5021668a55c1fb9011"

def sample : Options where
  dir := some "/var/lib/ppvpn/rule-sets"
  retryMin := 5 * 10 ^ 9
  retryMax := 900 * 10 ^ 9
  sha256Hex data := if data = emptySet then emptyDigest else ""
  inflate compressed := if compressed = emptySet.drop 4 then .ok [0] else .error "inflate: Failed"
  maxUtc := 8210266876799999999999

def sampleSet (id : String) : RuleSet where
  id := id
  url := "https://rules.example/" ++ id
  sha256 := emptyDigest
  updateIntervalSeconds := 0

/-- The first set is had in the first round; the second, retried at once, is not. -/
def recovery : List Action :=
  [.prepareStart [sampleSet "one", sampleSet "two"] ["rules.example"],
    .prepareEnd 0 (fun _ => none) none 0 0, .activate 0, .look 0 (10 ^ 10), .start 0 0, .start 0 1,
    .finish 0 0 (.body emptySet true) (10 ^ 10) (10 ^ 10),
    .finish 0 1 (.failed "RULE_SET_DOWNLOAD_FAILED") (10 ^ 10) (10 ^ 10), .collect 0 (10 ^ 10),
    .look 0 (10 ^ 10), .start 0 1, .finish 0 1 (.failed "RULE_SET_DOWNLOAD_FAILED") (10 ^ 10) (10 ^ 10)]

def Phase.round? : Phase → Option Round
  | .round r => some r
  | _ => none

/-- Whether the round to be collected changed nothing and a rebuild is asked for after it. -/
def quietAsk (s : Sys) : Bool :=
  (act sample s (.collect 0 (10 ^ 10))).any fun s1 =>
    (act sample s1 (.look 0 (10 ^ 10))).any fun s2 =>
      s2.asked = s1.asked + 1 && s.tasks[0]?.any fun t =>
        t.phase.round?.any fun r =>
          (s.shared.of t.generation).any fun snapshot =>
            (r.before.zip snapshot.entries).all fun p => !needsRebuild p.1 p.2

theorem recovery_asks : (play sample {} recovery).any quietAsk = true := by decide +kernel

theorem meaning_after_recovery :
    ∃ s, play sample {} recovery = some s ∧ ∀ snapshot,
      snapshot ∈ s.prepared ∨ s.shared.current = some snapshot → snapshot.Sound ∧ snapshot.FilesExact := by
  obtain ⟨s, played, -⟩ := (Option.any_eq_true _ _).1 recovery_asks
  exact ⟨s, played, (entries_keep_meaning sample (reaches_play sample played)).1⟩

/-- The rebuild for the first round is asked for after the second, which changed nothing. -/
theorem asked_after_quiet_round : ¬ AskedAfterEachRound sample := by
  intro each
  obtain ⟨s, played, quiet⟩ := (Option.any_eq_true _ _).1 recovery_asks
  obtain ⟨s1, collected, quiet⟩ := (Option.any_eq_true _ _).1 quiet
  obtain ⟨s2, looked, quiet⟩ := (Option.any_eq_true _ _).1 quiet
  rw [Bool.and_eq_true, decide_eq_true_iff] at quiet
  obtain ⟨asked, quiet⟩ := quiet
  obtain ⟨t, there, quiet⟩ := (Option.any_eq_true _ _).1 quiet
  obtain ⟨r, phase, quiet⟩ := (Option.any_eq_true _ _).1 quiet
  obtain ⟨snapshot, own, same⟩ := (Option.any_eq_true _ _).1 quiet
  have round : t.phase = .round r := by
    cases is : t.phase with
    | round r' =>
      rw [is] at phase
      cases phase
      rfl
    | top | asleep | returned =>
      rw [is] at phase
      cases phase
  obtain ⟨i, a, b, was, is, differs⟩ := (each s (reaches_play sample played) 0 _ _ s1 s2 collected looked t r
    snapshot there round own).1 asked
  have pair : (a, b) ∈ r.before.zip snapshot.entries :=
    List.mem_of_getElem? (by rw [List.getElem?_zip_eq_some]; exact ⟨was, is⟩)
  have unchanged := List.all_eq_true.1 same (a, b) pair
  rw [(needsRebuild_iff a b).2 differs] at unchanged
  cases unchanged

end PpvpnCore.RuleSets
