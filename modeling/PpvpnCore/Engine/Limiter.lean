import Mathlib.Algebra.BigOperators.Group.List.Basic
import Mathlib.Data.List.Induction
import Mathlib.Data.Nat.ModEq
import PpvpnCore.Lib.Table

/-!
# The failures that are logged

`engine/outbound_log.rs`: a direct outbound's failures to one destination are
logged at most once per window, the others only counted. Instants are
nanoseconds, `duration_since` stops at zero, and the counts are the source's
`u64`, which wrap.

* `Limiter.allow`: one call, `Allows`: what it can do.
* `limiter_exact`: the table is bounded, a window has one line, and nothing is
  counted twice or lost.
-/

namespace PpvpnCore.OutboundLog

open Lib

/-- The destinations remembered; past it, those older than the window go. -/
def limiterSize : Nat := 1024

structure Entry where
  logged : Nat
  suppressed : UInt64
  deriving DecidableEq, Repr

/-- Per key, the first failure in a window is logged, the next ones only
counted. -/
structure Limiter where
  window : Nat
  seen : Table String Entry

namespace Limiter

def new (window : Nat) : Limiter := ⟨window, .empty⟩

/-- The entry is still in its window. -/
def fresh (l : Limiter) (now : Nat) (e : Entry) : Bool := now - e.logged < l.window

/-- A batch of several logs one line; the rest count as suppressed on the
next. -/
def saturatingPred (count : UInt64) : UInt64 := if count = 0 then 0 else count - 1

/-- The failures for `key` that the table still holds. -/
def heldBy (seen : Table String Entry) (key : String) : UInt64 :=
  ((seen.get key).map Entry.suppressed).getD 0

def remember (l : Limiter) (seen : Table String Entry) (key : String) (now : Nat)
    (count : UInt64) : Option UInt64 × Limiter :=
  (some (heldBy seen key), { l with seen := seen.set key ⟨now, saturatingPred count⟩ })

/-- Whether `count` failures for `key` at `now` are logged and, if so, how many
were suppressed since the last line. -/
def allow (l : Limiter) (key : String) (now : Nat) (count : UInt64) : Option UInt64 × Limiter :=
  match l.seen.get key with
  | some entry =>
    if l.fresh now entry then
      (none, { l with seen := l.seen.set key { entry with suppressed := entry.suppressed + count } })
    else l.remember l.seen key now count
  | none =>
    if limiterSize ≤ l.seen.size then
      -- Those past the window would be logged anyway: forgotten.
      let seen := l.seen.retain (l.fresh now)
      if limiterSize ≤ seen.size then (some 0, { l with seen := seen })
      else l.remember seen key now count
    else l.remember l.seen key now count

end Limiter

/-- One batch of failures. -/
structure Call where
  key : String
  now : Nat
  count : UInt64
  deriving DecidableEq, Repr

def Limiter.answer (l : Limiter) (c : Call) : Option UInt64 := (l.allow c.key c.now c.count).1

/-- A run of calls: the limiter, and the lines with what each reports as
suppressed. -/
structure Run where
  limiter : Limiter
  lines : List (String × UInt64)

def Run.call (r : Run) (c : Call) : Run where
  limiter := (r.limiter.allow c.key c.now c.count).2
  lines := r.lines ++ ((r.limiter.answer c).map fun n => (c.key, n)).toList

def run (window : Nat) (calls : List Call) : Run := calls.foldl Run.call ⟨.new window, []⟩

theorem Run.call_limiter {r : Run} {c : Call} :
    (r.call c).limiter = (r.limiter.allow c.key c.now c.count).2 := rfl

theorem run_append {window : Nat} {calls : List Call} {c : Call} :
    run window (calls ++ [c]) = (run window calls).call c := by
  rw [run, List.foldl_append]
  rfl

/-! ## What is counted -/

/-- The failures for `key`. -/
def failures (calls : List Call) (key : String) : Nat :=
  ((calls.filter fun c => c.key = key).map fun c => c.count.toNat).sum

/-- The failures that lines for `key` tell of: one each, and those they report
as suppressed. -/
def told (lines : List (String × UInt64)) (key : String) : Nat :=
  let own := lines.filter fun line => line.1 = key
  own.length + (own.map fun line => line.2.toNat).sum

def Limiter.held (l : Limiter) (key : String) : Nat := (heldBy l.seen key).toNat

/-- How many keys the calls are for. -/
def distinctKeys (calls : List Call) : Nat := (calls.map Call.key).dedup.length

/-- A call for `key` finds the table full of keys still in their window. -/
def Limiter.Full (l : Limiter) (key : String) (now : Nat) : Prop :=
  l.seen.get key = none ∧ limiterSize ≤ l.seen.size ∧
    ∀ other entry, l.seen.get other = some entry → l.fresh now entry = true

/-! ## One call -/

/-- What a call can do. -/
inductive Limiter.Allows (l : Limiter) (key : String) (now : Nat) (count : UInt64) :
    Option UInt64 × Limiter → Prop
  | suppressed {entry : Entry} (held : l.seen.get key = some entry)
      (fresh : l.fresh now entry = true) :
    Allows l key now count
      (none, { l with seen := l.seen.set key ⟨entry.logged, entry.suppressed + count⟩ })
  | full (full : l.Full key now) :
    Allows l key now count (some 0, { l with seen := l.seen.retain (l.fresh now) })
  | replaced {entry : Entry} (held : l.seen.get key = some entry)
      (old : l.fresh now entry = false) : Allows l key now count (l.remember l.seen key now count)
  | added (new : l.seen.get key = none) (room : l.seen.size < limiterSize) :
    Allows l key now count (l.remember l.seen key now count)
  | cleared (new : l.seen.get key = none) (crowded : limiterSize ≤ l.seen.size)
      (room : (l.seen.retain (l.fresh now)).size < limiterSize) :
    Allows l key now count (l.remember (l.seen.retain (l.fresh now)) key now count)

variable {l : Limiter} {key other : String} {now : Nat} {count : UInt64}

theorem Limiter.allow_cases (bounded : l.seen.size ≤ limiterSize) (key : String) (now : Nat)
    (count : UInt64) : l.Allows key now count (l.allow key now count) := by
  cases held : l.seen.get key with
  | some entry =>
    cases fresh : l.fresh now entry with
    | true =>
      rw [allow, held]
      dsimp only
      rw [if_pos fresh]
      exact .suppressed held fresh
    | false =>
      rw [allow, held]
      dsimp only
      rw [if_neg (by simp [fresh])]
      exact .replaced held fresh
  | none =>
    rw [allow, held]
    dsimp only
    split
    next crowded =>
      split
      next still =>
        refine .full ⟨held, crowded, fun other entry mem => ?_⟩
        exact Table.retained (bounded.trans still) mem
      next room => exact .cleared held crowded (Nat.lt_of_not_le room)
    next room => exact .added held (Nat.lt_of_not_le room)

theorem Limiter.allow_window (bounded : l.seen.size ≤ limiterSize) :
    (l.allow key now count).2.window = l.window := by
  have does := allow_cases bounded key now count
  generalize l.allow key now count = r at does ⊢
  cases does <;> rfl

theorem Limiter.allow_size (bounded : l.seen.size ≤ limiterSize) :
    (l.allow key now count).2.seen.size ≤ limiterSize := by
  have does := allow_cases bounded key now count
  generalize l.allow key now count = r at does ⊢
  cases does with
  | suppressed held _ => exact (Table.size_set_of_some held).trans bounded
  | full _ => exact Table.size_retain.trans bounded
  | replaced held _ => exact (Table.size_set_of_some held).trans bounded
  | added new room =>
    refine (Table.size_set_of_none new).le.trans ?_
    omega
  | cleared new _ room =>
    have gone : (l.seen.retain (l.fresh now)).get key = none := by
      rw [Table.get_retain, new]
      rfl
    refine (Table.size_set_of_none gone).le.trans ?_
    omega

theorem Limiter.cleared_none (new : l.seen.get key = none) :
    (l.seen.retain (l.fresh now)).get key = none := by
  rw [Table.get_retain, new]
  rfl

/-! ## One line a window -/

/-- A line for `key` at `since` is remembered. -/
def Limiter.Remembers (l : Limiter) (key : String) (since : Nat) : Prop :=
  ∃ entry, l.seen.get key = some entry ∧ since ≤ entry.logged

variable {since : Nat}

theorem Limiter.fresh_of_remembered {entry : Entry} (later : since ≤ entry.logged)
    (soon : now - since < l.window) : l.fresh now entry = true := by
  refine decide_eq_true ?_
  omega

theorem Limiter.Remembers.kept (known : l.Remembers other since) (soon : now - since < l.window) :
    ∃ entry, (l.seen.retain (l.fresh now)).get other = some entry ∧ since ≤ entry.logged := by
  obtain ⟨entry, held, later⟩ := known
  refine ⟨entry, ?_, later⟩
  rw [Table.get_retain, held]
  exact Option.filter_eq_some_iff.mpr ⟨rfl, fresh_of_remembered later soon⟩

theorem Limiter.remembers_set {seen : Table String Entry} {entry : Entry}
    (known : ∃ entry, seen.get other = some entry ∧ since ≤ entry.logged)
    (later : other = key → since ≤ entry.logged) :
    ∃ entry', (seen.set key entry).get other = some entry' ∧ since ≤ entry'.logged := by
  by_cases same : other = key
  · exact ⟨entry, same ▸ Table.get_set_self, later same⟩
  · obtain ⟨entry', held, since'⟩ := known
    exact ⟨entry', (Table.get_set_of_ne same).trans held, since'⟩

theorem Limiter.Remembers.allow (bounded : l.seen.size ≤ limiterSize)
    (known : l.Remembers other since) (soon : now - since < l.window) (later : since ≤ now) :
    (l.allow key now count).2.Remembers other since := by
  have does := allow_cases bounded key now count
  generalize l.allow key now count = r at does ⊢
  cases does with
  | suppressed held _ =>
    refine remembers_set known fun same => ?_
    obtain ⟨entry, held', logged⟩ := known
    cases held.symm.trans (same ▸ held')
    exact logged
  | full _ => exact known.kept soon
  | replaced _ _ => exact remembers_set known fun _ => later
  | added _ _ => exact remembers_set known fun _ => later
  | cleared _ _ _ => exact remembers_set (known.kept soon) fun _ => later

/-- A line is remembered, unless the table was full. -/
theorem Limiter.remembers_of_logged (bounded : l.seen.size ≤ limiterSize)
    (logged : (l.allow key now count).1.isSome = true) (room : ¬ l.Full key now) :
    (l.allow key now count).2.Remembers key now := by
  have does := allow_cases bounded key now count
  generalize l.allow key now count = r at does logged ⊢
  cases does with
  | suppressed _ _ => cases logged
  | full full => exact absurd full room
  | replaced _ _ => exact ⟨_, Table.get_set_self, Nat.le_refl _⟩
  | added _ _ => exact ⟨_, Table.get_set_self, Nat.le_refl _⟩
  | cleared _ _ _ => exact ⟨_, Table.get_set_self, Nat.le_refl _⟩

/-- A key with a line in its window has none. -/
theorem Limiter.suppressed_of_remembered (known : l.Remembers key since)
    (soon : now - since < l.window) : (l.allow key now count).1 = none := by
  obtain ⟨entry, held, later⟩ := known
  rw [allow, held]
  dsimp only
  rw [if_pos (fresh_of_remembered later soon)]

/-! ## Nothing counted twice or lost -/

/-- All failures are told of or held, up to what the counters lose. -/
def Limiter.Accounts (l : Limiter) (lines : List (String × UInt64)) (key : String) (failed : Nat) : Prop :=
  ∃ wraps, failed = told lines key + l.held key + 2 ^ 64 * wraps

theorem saturatingPred_toNat (some_ : 1 ≤ count) :
    1 + (Limiter.saturatingPred count).toNat = count.toNat := by
  have pos : 1 ≤ count.toNat := by simpa using UInt64.le_iff_toNat_le.mp some_
  have nonzero : count ≠ 0 := by
    rintro rfl
    exact absurd pos (by decide)
  rw [Limiter.saturatingPred, if_neg nonzero, UInt64.toNat_sub_of_le _ _ some_]
  exact Nat.add_sub_cancel' pos

theorem told_append {lines : List (String × UInt64)} {n : UInt64} :
    told (lines ++ [(key, n)]) other = told lines other + if key = other then 1 + n.toNat else 0 := by
  rw [told, List.filter_append, List.map_append, List.sum_append, List.length_append]
  by_cases same : key = other
  · simp [same, told]
    omega
  · simp [same, told]

theorem failures_append {calls : List Call} {c : Call} :
    failures (calls ++ [c]) key =
      failures calls key + if c.key = key then c.count.toNat else 0 := by
  rw [failures, List.filter_append, List.map_append, List.sum_append]
  by_cases same : c.key = key <;> simp [same, failures]

theorem heldBy_set {seen : Table String Entry} {entry : Entry} :
    Limiter.heldBy (seen.set key entry) other =
      if key = other then entry.suppressed else Limiter.heldBy seen other := by
  by_cases same : key = other
  · rw [if_pos same, ← same, Limiter.heldBy, Table.get_set_self]
    rfl
  · rw [if_neg same, Limiter.heldBy, Table.get_set_of_ne (Ne.symm same)]
    rfl

/-- A line tells of what was held and of one of its own batch. -/
theorem Limiter.Accounts.remember {lines : List (String × UInt64)} {failed : Nat}
    (accounts : l.Accounts lines other failed) (some_ : 1 ≤ count) :
    (l.remember l.seen key now count).2.Accounts (lines ++ [(key, heldBy l.seen key)]) other
      (failed + if key = other then count.toNat else 0) := by
  obtain ⟨wraps, same⟩ := accounts
  refine ⟨wraps, ?_⟩
  have batch := saturatingPred_toNat some_
  rw [told_append, Limiter.held, Limiter.remember, heldBy_set]
  rw [Limiter.held] at same
  by_cases mine : key = other
  · subst mine
    simp only [if_true]
    omega
  · simp only [if_neg mine]
    omega

theorem Limiter.Accounts.suppress {lines : List (String × UInt64)} {failed : Nat} {entry : Entry}
    (accounts : l.Accounts lines other failed) (held : l.seen.get key = some entry) :
    Limiter.Accounts
      { l with seen := l.seen.set key ⟨entry.logged, entry.suppressed + count⟩ } lines other
      (failed + if key = other then count.toNat else 0) := by
  obtain ⟨wraps, same⟩ := accounts
  rw [Limiter.held] at same
  by_cases mine : key = other
  · subst mine
    have before : heldBy l.seen key = entry.suppressed := by
      rw [heldBy, held]
      rfl
    have sum := UInt64.toNat_add entry.suppressed count
    refine ⟨wraps + (entry.suppressed.toNat + count.toNat) / 2 ^ 64, ?_⟩
    rw [Limiter.held, heldBy_set, if_pos rfl, if_pos rfl]
    rw [before] at same
    dsimp only
    omega
  · refine ⟨wraps, ?_⟩
    rw [Limiter.held, heldBy_set, if_neg mine, if_neg mine]
    omega

theorem Run.call_accounts {r : Run} {c : Call} {failed : Nat}
    (room : r.limiter.seen.size < limiterSize) (some_ : 1 ≤ c.count)
    (accounts : r.limiter.Accounts r.lines key failed) :
    (r.call c).limiter.Accounts (r.call c).lines key
      (failed + if c.key = key then c.count.toNat else 0) := by
  have does := Limiter.allow_cases room.le c.key c.now c.count
  rw [Run.call, Limiter.answer]
  generalize r.limiter.allow c.key c.now c.count = answered at does ⊢
  cases does with
  | suppressed held _ =>
    rw [Option.map_none, Option.toList_none, List.append_nil]
    exact accounts.suppress held
  | full full => exact absurd room (Nat.not_lt_of_le full.2.1)
  | replaced _ _ => exact accounts.remember some_
  | added _ _ => exact accounts.remember some_
  | cleared _ crowded _ => exact absurd room (Nat.not_lt_of_le crowded)

/-! ## Every run -/

theorem Limiter.allow_named {keys : List String}
    (bounded : l.seen.size ≤ limiterSize) (named : ∀ k e, l.seen.get k = some e → k ∈ keys) :
    ∀ k e, (l.allow key now count).2.seen.get k = some e → k ∈ keys ++ [key] := by
  have does := allow_cases bounded key now count
  have set_ : ∀ (seen : Table String Entry) entry,
      (∀ k e, seen.get k = some e → k ∈ keys) →
      ∀ k e, (seen.set key entry).get k = some e → k ∈ keys ++ [key] := by
    intro seen entry old k e here
    by_cases mine : k = key
    · exact List.mem_append_right _ (List.mem_singleton.mpr mine)
    · exact List.mem_append_left _ (old k e ((Table.get_set_of_ne mine).symm.trans here))
  have fewer : ∀ k e, (l.seen.retain (l.fresh now)).get k = some e → k ∈ keys := by
    intro k e here
    rw [Table.get_retain] at here
    exact named k e (Option.eq_some_of_filter_eq_some here)
  generalize l.allow key now count = r at does ⊢
  cases does with
  | suppressed _ _ => exact set_ _ _ named
  | full _ => exact fun k e here => List.mem_append_left _ (fewer k e here)
  | replaced _ _ => exact set_ _ _ named
  | added _ _ => exact set_ _ _ named
  | cleared _ _ _ => exact set_ _ _ fewer

variable {window : Nat} {calls : List Call}

theorem run_size : (run window calls).limiter.seen.size ≤ limiterSize := by
  induction calls using List.reverseRecOn with
  | nil => exact Nat.zero_le _
  | append_singleton calls c ih =>
    rw [run_append]
    exact Limiter.allow_size ih

theorem run_window : (run window calls).limiter.window = window := by
  induction calls using List.reverseRecOn with
  | nil => rfl
  | append_singleton calls c ih =>
    rw [run_append]
    exact (Limiter.allow_window run_size).trans ih

theorem run_named : ∀ k e, (run window calls).limiter.seen.get k = some e → k ∈ calls.map Call.key := by
  induction calls using List.reverseRecOn with
  | nil => exact fun k e here => by cases here
  | append_singleton calls c ih =>
    rw [run_append, List.map_append]
    exact Limiter.allow_named run_size ih

theorem distinctKeys_append {c : Call} : distinctKeys calls ≤ distinctKeys (calls ++ [c]) := by
  rw [distinctKeys, distinctKeys, List.map_append]
  refine (List.subperm_of_subset (List.nodup_dedup _) fun k mem => ?_).length_le
  exact List.mem_dedup.mpr (List.mem_append_left _ (List.mem_dedup.mp mem))

theorem run_accounts (counts : ∀ c ∈ calls, 1 ≤ c.count) (few : distinctKeys calls < limiterSize)
    (window : Nat) (key : String) :
    (run window calls).limiter.Accounts (run window calls).lines key (failures calls key) := by
  induction calls using List.reverseRecOn with
  | nil => exact ⟨0, rfl⟩
  | append_singleton calls c ih =>
    have fewer : distinctKeys calls < limiterSize := Nat.lt_of_le_of_lt distinctKeys_append few
    have before := ih (fun c mem => counts c (List.mem_append_left _ mem)) fewer
    have room : (run window calls).limiter.seen.size < limiterSize :=
      Nat.lt_of_le_of_lt (Table.size_le run_named) fewer
    rw [run_append, failures_append]
    exact Run.call_accounts room (counts c (by simp)) before

/-- A remembered line stays, as long as its window lasts. -/
theorem run_remembers {between : List Call} {now : Nat}
    (known : (run window calls).limiter.Remembers key since)
    (times : ∀ c ∈ between, since ≤ c.now ∧ c.now ≤ now) (soon : now - since < window) :
    (run window (calls ++ between)).limiter.Remembers key since := by
  induction between using List.reverseRecOn with
  | nil => rwa [List.append_nil]
  | append_singleton between c ih =>
    have earlier := ih fun c mem => times c (List.mem_append_left _ mem)
    obtain ⟨after, before⟩ := times c (by simp)
    rw [← List.append_assoc, run_append]
    refine Limiter.Remembers.allow run_size earlier ?_ after
    rw [run_window]
    omega

/-- The limiter is bounded, a key has no two lines within its window unless the
table was full, and the failures of a key are all told of or held. -/
theorem limiter_exact (ordered : calls.Pairwise fun c d => c.now ≤ d.now)
    (counts : ∀ c ∈ calls, 1 ≤ c.count) :
    (run window calls).limiter.seen.size ≤ limiterSize ∧
    (∀ before c between d rest, calls = before ++ c :: (between ++ d :: rest) → c.key = d.key →
      d.now - c.now < window →
      ((run window before).limiter.answer c).isSome = true →
      ((run window (before ++ c :: between)).limiter.answer d).isSome = true →
      (run window before).limiter.Full c.key c.now) ∧
    (distinctKeys calls < limiterSize → ∀ key,
      failures calls key ≡ told (run window calls).lines key + (run window calls).limiter.held key
        [MOD 2 ^ 64] ∧
      (failures calls key < 2 ^ 64 → failures calls key =
        told (run window calls).lines key + (run window calls).limiter.held key)) := by
  refine ⟨run_size, ?_, ?_⟩
  · intro before c between d rest parts same soon logged again
    by_contra room
    subst parts
    have later := List.pairwise_cons.mp (List.pairwise_append.mp ordered).2.1
    have earlier := (List.pairwise_append.mp later.2).2.2
    have known := Limiter.remembers_of_logged run_size logged room
    rw [← Run.call_limiter, ← run_append] at known
    have still : (run window (before ++ [c] ++ between)).limiter.Remembers c.key c.now := by
      refine run_remembers known (fun e mem => ⟨?_, ?_⟩) soon
      · exact later.1 e (List.mem_append_left _ mem)
      · exact earlier e mem d List.mem_cons_self
    rw [List.append_assoc, List.singleton_append, same] at still
    rw [Limiter.answer, Limiter.suppressed_of_remembered still (by rwa [run_window])] at again
    cases again
  · intro few key
    obtain ⟨wraps, sum⟩ := run_accounts counts few window key
    constructor
    · rw [sum]
      exact Nat.add_mul_mod_self_left _ _ _
    · intro small
      omega

/-- A batch of five, one in its window and one after it. -/
def sampleCalls : List Call := [⟨"a:1", 0, 5⟩, ⟨"a:1", 3, 1⟩, ⟨"a:1", 10, 1⟩]

theorem limiter_exact_sample :
    (run 10 sampleCalls).lines = [("a:1", 0), ("a:1", 5)] ∧
    failures sampleCalls "a:1" =
      told (run 10 sampleCalls).lines "a:1" + (run 10 sampleCalls).limiter.held "a:1" :=
  ⟨by decide +kernel,
    ((limiter_exact (by decide +kernel) (by decide +kernel)).2.2 (by decide +kernel) "a:1").2
      (by decide +kernel)⟩

/-- Two batches whose suppressed failures no longer fit the counter. -/
def wrappingCalls : List Call := [⟨"a:1", 0, 18446744073709551615⟩, ⟨"a:1", 0, 2⟩]

theorem limiter_wraps :
    wrappingCalls.Pairwise (fun c d => c.now ≤ d.now) ∧ (∀ c ∈ wrappingCalls, 1 ≤ c.count) ∧
    distinctKeys wrappingCalls < limiterSize ∧
    failures wrappingCalls "a:1" ≠
      told (run 10 wrappingCalls).lines "a:1" + (run 10 wrappingCalls).limiter.held "a:1" := by
  decide +kernel

end PpvpnCore.OutboundLog
