import PpvpnCore.RuleSets.Refresh

/-!
How often the refresh task goes round before it sleeps: a recovery makes other
sets due at once, so the loop may begin again without a pause, but not more
often than sets can recover.
-/

namespace PpvpnCore.RuleSets

open Lib

variable {o : Options} {now : Time}

/-! ## Dues -/

theorem updateInterval_pos (set : RuleSet) : 0 < set.updateInterval := by
  rw [RuleSet.updateInterval]
  split <;> omega

theorem backoffFrom_pos {backoff : Nat} (some : 0 < backoff) (failures : Nat) :
    0 < backoffFrom o failures backoff := by
  induction failures generalizing backoff with
  | zero => exact some
  | succ failures ih =>
    rw [backoffFrom]
    split
    · exact some
    · exact ih (by omega)

theorem after_later {d : Nat} (some : 0 < d) (before : now < o.maxUtc) : now < after o now d := by
  have positive : (0 : Int) < d := Int.natCast_pos.2 some
  rw [after]
  split
  · exact Int.lt_add_of_pos_right now positive
  · exact before

/-- Every backoff and interval is positive. -/
theorem nextDue_later (e : Entry) (min : 0 < o.retryMin) (max : 0 < o.retryMax)
    (before : now < o.maxUtc) : now < nextDue o e now := by
  have interval : 0 < interval e := Nat.mul_pos (updateInterval_pos e.set) (by decide)
  rw [nextDue]
  split
  · exact after_later interval before
  · have backoff := backoffFrom_pos (o := o) min (e.failures - 1)
    exact after_later (lt_min (lt_min backoff max) interval) before

theorem refreshed_not_due (pinned : List (List Char)) (e : Entry) (fetched : Fetched) (fetchedAt : Time)
    (min : 0 < o.retryMin) (max : 0 < o.retryMax) (before : now < o.maxUtc) :
    (refreshed o pinned e fetched fetchedAt now).isDue now = false := by
  rw [Entry.isDue, refreshed, Option.all_some, decide_eq_false_iff_not, Int.not_le]
  exact nextDue_later _ min max before

theorem refreshed_ready {e : Entry} (ready : e.state = .ready) (pinned : List (List Char))
    (fetched : Fetched) (fetchedAt : Time) :
    (refreshed o pinned e fetched fetchedAt now).state = .ready := by
  rw [refreshed]
  split
  · exact fetchInto_ready ready _ _
  · exact ready

/-! ## Rounds -/

def Snapshot.notReady (s : Snapshot) : Nat := s.entries.countP fun e => e.state ≠ .ready

/-- The clock an action of the task reads. -/
def Action.clock : Action → Option Time
  | .prepareEnd _ _ _ now _ | .look _ now | .finish _ _ _ _ now | .collect _ now => some now
  | _ => none

/-- The action was the task's beginning of a round. -/
def beginsRound (k : Nat) (a : Action) (s : Sys) : Bool :=
  match a with
  | .look j _ => j = k && s.tasks[k]?.any fun t => t.phase.round?.isSome
  | _ => false

variable (o) in
/-- How many rounds the task begins. -/
def begun (k : Nat) : Sys → List Action → Nat
  | _, [] => 0
  | s, a :: actions =>
    (act o s a).elim 0 fun s => (beginsRound k a s).toNat + begun k s actions

/-- A set that was not ready is. -/
def Recovered (before after : List Entry) : Prop :=
  ∃ (i : Nat) (a b : Entry), before[i]? = some a ∧ after[i]? = some b ∧ a.state ≠ .ready ∧ b.state = .ready

/-- A round at one time: those refreshed are due later, and each that recovered
is one less to recover. -/
structure Turning (now : Time) (limit : Nat) (s : Snapshot) (r : Round) : Prop where
  live : Live s r
  dueWas : ∀ i, i ∈ r.due ↔ ∃ e, r.before[i]? = some e ∧ e.isDue now = true
  later : ∀ i e, i ∉ r.waiting → i ∉ r.flying.map Prod.fst → s.entries[i]? = some e → e.isDue now = false
  fewer : s.notReady + r.results.countP (·.2.2) ≤ limit

variable {n k generation c limit i : Nat} {s : Snapshot} {r : Round} {e : Entry}

theorem Turning.begin (s : Snapshot) (now : Time) :
    Turning now s.notReady s {
      pinned := s.pinned
      waiting := s.due now
      flying := []
      results := []
      due := s.due now
      before := s.entries } where
  live := .begin s now
  dueWas _ := mem_due
  later i e waits _ found := by
    by_contra due
    exact waits (mem_due.2 ⟨e, found, by simpa using due⟩)
  fewer := by simp

theorem Turning.start (turning : Turning now limit s r) (waits : i ∈ r.waiting)
    (found : s.entries[i]? = some e) :
    Turning now limit s { r with waiting := r.waiting.erase i, flying := r.flying ++ [(i, e)] } where
  live := turning.live.start waits found
  dueWas := turning.dueWas
  later j e' waits' flies := by
    rw [List.map_append, List.mem_append, not_or] at flies
    have differ : j ≠ i := fun same => flies.2 (List.mem_singleton.2 same)
    apply turning.later j e' ?_ flies.1
    intro before
    exact waits' ((List.mem_erase_of_ne differ).2 before)
  fewer := turning.fewer

/-- A ready set stays so; one that was not counts as recovered when it is. -/
theorem fewer_set (found : s.entries[i]? = some e) {e' : Entry}
    (kept : e.state = .ready → e'.state = .ready) :
    Snapshot.notReady { s with entries := s.entries.set i e' } +
      (decide (e.state ≠ .ready ∧ e'.state = .ready)).toNat = s.notReady := by
  obtain ⟨inside, rfl⟩ := List.getElem?_eq_some_iff.1 found
  rw [Snapshot.notReady, Snapshot.notReady, List.countP_set inside]
  by_cases was : s.entries[i].state = .ready
  · have is := kept was
    simp [was, is]
  · have counted : 0 < s.entries.countP fun e => !decide (e.state = .ready) :=
      List.countP_pos_iff.2 ⟨_, List.getElem_mem inside, by simpa using was⟩
    by_cases is : e'.state = .ready
    · simp [was, is]
      omega
    · simp [was, is]
      omega

theorem Turning.finish (turning : Turning now limit s r) (flies : (i, e) ∈ r.flying) {e' : Entry}
    (kept : e.state = .ready → e'.state = .ready) (later : e'.isDue now = false) :
    Turning now limit { s with entries := s.entries.set i e' } { r with
      flying := r.flying.erase (i, e)
      results := r.results ++ [(i, needsRebuild e e', decide (e.state ≠ .ready ∧ e'.state = .ready))] } where
  live := turning.live.finish flies e'
  dueWas := turning.dueWas
  later j f waits gone found := by
    by_cases same : j = i
    · subst same
      have inside := (List.getElem?_eq_some_iff.1 (turning.live.flying _ flies)).1
      rw [List.getElem?_set_self inside] at found
      cases found
      exact later
    · rw [List.getElem?_set_ne (Ne.symm same)] at found
      apply turning.later j f waits ?_ found
      intro there
      obtain ⟨flight, mem, rfl⟩ := List.mem_map.1 there
      apply gone
      refine List.mem_map.2 ⟨flight, (List.mem_erase_of_ne ?_).2 mem, rfl⟩
      rintro rfl
      exact same rfl
  fewer := by
    have before := turning.fewer
    have one := fewer_set (turning.live.flying _ flies) kept
    rw [List.countP_append, List.countP_singleton]
    cases recovered : decide (e.state ≠ .ready ∧ e'.state = .ready) with
    | true =>
      rw [recovered] at one
      simp only [Bool.toNat_true, if_true] at one ⊢
      omega
    | false =>
      rw [recovered] at one
      simp only [Bool.toNat_false] at one ⊢
      simp
      omega

/-- When the round is over nothing is due. -/
theorem Turning.none_due (turning : Turning now limit s r) (waits : r.waiting = [])
    (flies : r.flying = []) : s.due now = [] := by
  rw [List.eq_nil_iff_forall_not_mem]
  intro i mem
  obtain ⟨e, found, due⟩ := mem_due.1 mem
  rw [turning.later i e (by simp [waits]) (by simp [flies]) found] at due
  cases due

theorem notReady_retried (s : Snapshot) (now : Time) :
    Snapshot.notReady { s with entries := s.entries.map (·.retried now) } = s.notReady := by
  rw [Snapshot.notReady, Snapshot.notReady, List.countP_map]
  apply List.countP_congr
  intro e _
  simp [(e.retried_same now).1]

/-- After so many rounds of at most `n + 1`. -/
def Paced (now : Time) (n c : Nat) (s : Snapshot) : Phase → Prop
  | .top => c + s.notReady ≤ n ∨ s.due now = []
  | .round r => ∃ limit, c + limit ≤ n + 1 ∧ Turning now limit s r
  | _ => True

/-- The task of the generation, alone with its snapshot. -/
structure Pace (now : Time) (n k generation c : Nat) (s : Sys) : Prop where
  bound : c ≤ n + 1
  below : generation ≤ s.shared.generation
  alone : ∀ (j : Nat) (u : Task), s.tasks[j]? = some u → u.generation = generation → j = k
  task : ∃ t, s.tasks[k]? = some t ∧ t.generation = generation ∧
    (s.shared.generation = generation → ∃ snapshot, s.shared.current = some snapshot ∧
      Paced now n c snapshot t.phase)

theorem Pace.own {s : Sys} (pace : Pace now n k generation c s) {t t' : Task} {shared : Shared}
    {c' asked : Nat} (there : s.tasks[k]? = some t) (same : t'.generation = t.generation)
    (kept : shared.generation = s.shared.generation) (bound : c' ≤ n + 1)
    (paced : shared.generation = generation → ∃ snapshot, shared.current = some snapshot ∧
      Paced now n c' snapshot t'.phase) :
    Pace now n k generation c' { s with shared := shared, tasks := s.tasks.set k t', asked := asked } where
  bound := bound
  below := by
    rw [kept]
    exact pace.below
  alone j u at1 own := by
    by_contra differ
    rw [List.getElem?_set_ne (Ne.symm differ)] at at1
    exact differ (pace.alone j u at1 own)
  task := by
    obtain ⟨t0, there0, own, -⟩ := pace.task
    rw [there] at there0
    cases there0
    have inside := (List.getElem?_eq_some_iff.1 there).1
    exact ⟨t', List.getElem?_set_self inside, same.trans own, paced⟩

/-- The turns of tasks of other generations do not touch the snapshot. -/
theorem Pace.other {s : Sys} (pace : Pace now n k generation c s) {j : Nat} {t t' : Task}
    {shared : Shared} {asked : Nat} (differ : j ≠ k) (there : s.tasks[j]? = some t)
    (same : t'.generation = t.generation)
    (kept : shared = s.shared ∨
      (shared.generation = s.shared.generation ∧ s.shared.generation = t.generation)) :
    Pace now n k generation c { s with shared := shared, tasks := s.tasks.set j t', asked := asked } where
  bound := pace.bound
  below := by
    rcases kept with rfl | ⟨kept, -⟩
    · exact pace.below
    · rw [kept]
      exact pace.below
  alone l u at1 own := by
    by_cases this : j = l
    · subst this
      have inside := (List.getElem?_eq_some_iff.1 there).1
      rw [List.getElem?_set_self inside] at at1
      cases at1
      exact pace.alone j t there (same.symm.trans own)
    · rw [List.getElem?_set_ne this] at at1
      exact pace.alone l u at1 own
  task := by
    obtain ⟨t0, there0, own, paced⟩ := pace.task
    refine ⟨t0, by rw [List.getElem?_set_ne differ]; exact there0, own, ?_⟩
    rcases kept with rfl | ⟨kept, other⟩
    · exact paced
    · intro current
      rw [kept, other] at current
      exact absurd (pace.alone j t there current) differ

/-- Nothing of the tasks changes; a new generation only ends the task's. -/
theorem Pace.grown {s s' : Sys} (pace : Pace now n k generation c s)
    (kept : s'.shared = s.shared ∨ s'.shared.generation = s.shared.generation + 1)
    (tasks : ∀ (j : Nat) (u : Task), s'.tasks[j]? = some u →
      s.tasks[j]? = some u ∨ u.generation = s.shared.generation + 1)
    (still : ∀ (j : Nat) (u : Task), s.tasks[j]? = some u → s'.tasks[j]? = some u) :
    Pace now n k generation c s' where
  bound := pace.bound
  below := by
    have below := pace.below
    rcases kept with kept | kept
    · rwa [kept]
    · omega
  alone j u at1 own := by
    have below := pace.below
    rcases tasks j u at1 with earlier | fresh
    · exact pace.alone j u earlier own
    · omega
  task := by
    have below := pace.below
    obtain ⟨t0, there0, own, paced⟩ := pace.task
    refine ⟨t0, still k t0 there0, own, ?_⟩
    rcases kept with kept | kept
    · rw [kept]
      exact paced
    · intro current
      omega

/-- The task at the top of the loop. -/
theorem Pace.look {s : Sys} (pace : Pace now n k generation c s) {t t' : Task} {asks : Bool}
    (there : s.tasks[k]? = some t) (turn : look s.shared t now = some (t', asks)) (asked : Nat) :
    Pace now n k generation (c + (t'.phase.round?.isSome).toNat)
      { s with tasks := s.tasks.set k t', asked := asked } := by
  have bound := pace.bound
  obtain ⟨t0, there0, own, paced⟩ := pace.task
  rw [there] at there0
  cases there0
  obtain ⟨top, cases'⟩ := look_cases turn
  rcases cases' with ⟨-, rfl, -⟩ | ⟨snapshot, mine, ⟨-, -, rfl⟩ | ⟨due, -, rfl⟩⟩
  · refine pace.own there ?_ ?_ bound ?_
    · rfl
    · rfl
    · intro current
      obtain ⟨snapshot, found, -⟩ := paced current
      exact ⟨snapshot, found, trivial⟩
  · have asleep : ((snapshot.next now).elim Phase.returned Phase.asleep).round? = none := by
      cases snapshot.next now <;> rfl
    have still : Paced now n c snapshot ((snapshot.next now).elim .returned .asleep) := by
      cases snapshot.next now <;> exact trivial
    simp only [asleep, Option.isSome_none, Bool.toNat_false, Nat.add_zero]
    refine pace.own there ?_ ?_ bound ?_
    · rfl
    · rfl
    · intro current
      exact ⟨snapshot, (Shared.of_eq mine).2, still⟩
  · obtain ⟨current, found⟩ := Shared.of_eq mine
    obtain ⟨snapshot', found', room⟩ := paced (current.trans own)
    rw [found] at found'
    cases found'
    rw [top] at room
    -- something is due, so there was a recovery for each round so far
    have room : c + snapshot.notReady ≤ n := room.resolve_right due
    refine pace.own there ?_ ?_ (by simp [Phase.round?]; omega) ?_
    · rfl
    · rfl
    · intro _
      refine ⟨snapshot, found, snapshot.notReady, ?_, .begin snapshot now⟩
      simp [Phase.round?]
      omega

theorem Pace.start {s : Sys} (pace : Pace now n k generation c s) {t t' : Task}
    (there : s.tasks[k]? = some t) (turn : start s.shared t i = some t') :
    Pace now n k generation c { s with tasks := s.tasks.set k t' } := by
  obtain ⟨t0, there0, own, paced⟩ := pace.task
  rw [there] at there0
  cases there0
  obtain ⟨r, phase, waits, cases'⟩ := start_cases turn
  rcases cases' with ⟨e, found, rfl⟩ | ⟨none, rfl⟩
  · refine pace.own there ?_ ?_ pace.bound ?_
    · rfl
    · rfl
    · intro current
      obtain ⟨snapshot, is, room⟩ := paced current
      rw [phase] at room
      obtain ⟨limit, room, turning⟩ := room
      rw [Shared.of, if_pos (current.trans own.symm), is, Option.bind_some] at found
      exact ⟨snapshot, is, limit, room, turning.start waits found⟩
  · refine pace.own there ?_ ?_ pace.bound ?_
    · rfl
    · rfl
    · intro current
      obtain ⟨snapshot, is, room⟩ := paced current
      rw [phase] at room
      obtain ⟨limit, room, turning⟩ := room
      rw [Shared.of, if_pos (current.trans own.symm), is, Option.bind_some] at none
      have inside := turning.live.inside i (turning.live.each.subset (List.mem_append_left _ waits))
      exact absurd (List.getElem?_eq_none_iff.1 none) (by omega)

theorem Pace.finish {s : Sys} (pace : Pace now n k generation c s) {t t' : Task} {shared : Shared}
    {fetched : Fetched} {fetchedAt : Time} (min : 0 < o.retryMin) (max : 0 < o.retryMax)
    (before : now < o.maxUtc) (there : s.tasks[k]? = some t)
    (turn : finish o s.shared t i fetched fetchedAt now = some (shared, t')) :
    Pace now n k generation c { s with shared := shared, tasks := s.tasks.set k t' } := by
  obtain ⟨t0, there0, own, paced⟩ := pace.task
  rw [there] at there0
  cases there0
  obtain ⟨r, e, phase, flies, cases'⟩ := finish_cases o turn
  rcases cases' with ⟨none, rfl, rfl⟩ | ⟨snapshot, was, mine, found, rfl, rfl⟩
  · refine pace.own there ?_ ?_ pace.bound ?_
    · rfl
    · rfl
    · intro current
      obtain ⟨snapshot, is, room⟩ := paced current
      rw [phase] at room
      obtain ⟨limit, room, turning⟩ := room
      rw [Shared.of, if_pos (current.trans own.symm), is, Option.bind_some,
        turning.live.flying _ flies] at none
      cases none
  · refine pace.own there ?_ ?_ pace.bound ?_
    · rfl
    · rfl
    · intro current
      obtain ⟨snapshot', is, room⟩ := paced current
      rw [(Shared.of_eq mine).2] at is
      cases is
      rw [phase] at room
      obtain ⟨limit, room, turning⟩ := room
      have same := turning.live.flying _ flies
      rw [found] at same
      cases same
      refine ⟨_, rfl, limit, room, turning.finish flies ?_ ?_⟩
      · intro ready
        exact refreshed_ready ready _ _ _
      · exact refreshed_not_due _ _ _ _ min max before

theorem Pace.collect {s : Sys} (pace : Pace now n k generation c s) {t t' : Task} {shared : Shared}
    (there : s.tasks[k]? = some t) (turn : collect s.shared t now = some (shared, t')) :
    Pace now n k generation c { s with shared := shared, tasks := s.tasks.set k t' } := by
  obtain ⟨t0, there0, own, paced⟩ := pace.task
  rw [there] at there0
  cases there0
  obtain ⟨r, phase, waits, flies, same, -, -, cases'⟩ := collect_cases turn
  rcases cases' with ⟨-, rfl, top⟩ | ⟨moved, rfl, out⟩ | ⟨recovered, -, top, rfl⟩
  · refine pace.own there same ?_ pace.bound ?_
    · rfl
    · intro current
      obtain ⟨snapshot, is, room⟩ := paced current
      rw [phase] at room
      obtain ⟨limit, room, turning⟩ := room
      refine ⟨snapshot, is, ?_⟩
      rw [top]
      exact .inr (turning.none_due waits flies)
  · refine pace.own there same ?_ pace.bound ?_
    · rfl
    · intro current
      exact absurd (current.trans own.symm) moved
  · refine pace.own there same ?_ pace.bound ?_
    · rfl
    · intro current
      obtain ⟨snapshot, is, room⟩ := paced current
      rw [phase] at room
      obtain ⟨limit, room, turning⟩ := room
      refine ⟨_, congrArg (Option.map _) is, ?_⟩
      rw [top]
      left
      have some : 0 < r.results.countP (·.2.2) := List.countP_pos_iff.2 (List.any_eq_true.1 recovered)
      have fewer := turning.fewer
      rw [notReady_retried]
      omega

theorem Pace.step {s s' : Sys} (pace : Pace now n k generation c s) {a : Action}
    (min : 0 < o.retryMin) (max : 0 < o.retryMax) (before : now < o.maxUtc)
    (acted : act o s a = some s') (awake : a ≠ .wake k)
    (clock : ∀ now', a.clock = some now' → now' = now) :
    Pace now n k generation (c + (beginsRound k a s').toNat) s' := by
  cases a with
  | prepareStart sets allowedHosts =>
    cases acted
    exact pace.grown (.inl rfl) (fun _ _ => .inl) fun _ _ => id
  | prepareEnd j =>
    obtain ⟨p, -, acted⟩ := Option.bind_eq_some_iff.1 acted
    cases acted
    exact pace.grown (.inl rfl) (fun _ _ => .inl) fun _ _ => id
  | activate j =>
    obtain ⟨snapshot, -, acted⟩ := Option.bind_eq_some_iff.1 acted
    cases acted
    refine pace.grown (.inr rfl) ?_ ?_
    · intro l u at1
      rcases spawned at1 with earlier | ⟨rfl, -⟩
      · exact .inl earlier
      · exact .inr rfl
    · intro l u at1
      dsimp only
      split
      · exact at1
      · rw [List.getElem?_append_left (List.getElem?_eq_some_iff.1 at1).1]
        exact at1
  | close =>
    cases acted
    exact pace.grown (.inr rfl) (fun _ _ => .inl) fun _ _ => id
  | look j now' =>
    obtain rfl := clock now' rfl
    obtain ⟨t, there, acted⟩ := Option.bind_eq_some_iff.1 acted
    obtain ⟨⟨t', asks⟩, turn, acted⟩ := Option.bind_eq_some_iff.1 acted
    cases acted
    by_cases this : j = k
    · subst this
      have inside := (List.getElem?_eq_some_iff.1 there).1
      have begins : beginsRound j (.look j now')
          { s with tasks := s.tasks.set j t', asked := s.asked + asks.toNat } = t'.phase.round?.isSome := by
        simp [beginsRound, inside]
      rw [begins]
      exact pace.look there turn _
    · have none : beginsRound k (.look j now')
          { s with tasks := s.tasks.set j t', asked := s.asked + asks.toNat } = false := by
        simp [beginsRound, this]
      rw [none]
      refine pace.other this there ?_ (.inl rfl)
      obtain ⟨-, ⟨-, rfl, -⟩ | ⟨snapshot, -, ⟨-, -, rfl⟩ | ⟨-, -, rfl⟩⟩⟩ := look_cases turn <;> rfl
  | wake j =>
    obtain ⟨t, there, acted⟩ := Option.bind_eq_some_iff.1 acted
    obtain ⟨t', turn, acted⟩ := Option.bind_eq_some_iff.1 acted
    cases acted
    have this : j ≠ k := by
      rintro rfl
      exact awake rfl
    refine pace.other this there ?_ (.inl rfl)
    obtain ⟨next, -, rfl⟩ := wake_cases turn
    rfl
  | start j i =>
    obtain ⟨t, there, acted⟩ := Option.bind_eq_some_iff.1 acted
    obtain ⟨t', turn, acted⟩ := Option.bind_eq_some_iff.1 acted
    cases acted
    by_cases this : j = k
    · subst this
      exact pace.start there turn
    · refine pace.other this there ?_ (.inl rfl)
      obtain ⟨r, -, -, ⟨e, -, rfl⟩ | ⟨-, rfl⟩⟩ := start_cases turn <;> rfl
  | finish j i fetched fetchedAt now' =>
    obtain rfl := clock now' rfl
    obtain ⟨t, there, acted⟩ := Option.bind_eq_some_iff.1 acted
    obtain ⟨⟨shared, t'⟩, turn, acted⟩ := Option.bind_eq_some_iff.1 acted
    cases acted
    by_cases this : j = k
    · subst this
      exact pace.finish min max before there turn
    · obtain ⟨r, e, -, -, ⟨-, rfl, rfl⟩ | ⟨snapshot, was, mine, -, rfl, rfl⟩⟩ := finish_cases o turn
      · refine pace.other this there ?_ (.inl rfl)
        rfl
      · refine pace.other this there ?_ (.inr ⟨?_, (Shared.of_eq mine).1⟩)
        · rfl
        · rfl
  | collect j now' =>
    obtain rfl := clock now' rfl
    obtain ⟨t, there, acted⟩ := Option.bind_eq_some_iff.1 acted
    obtain ⟨⟨shared, t'⟩, turn, acted⟩ := Option.bind_eq_some_iff.1 acted
    cases acted
    by_cases this : j = k
    · subst this
      exact pace.collect there turn
    · obtain ⟨r, -, -, -, same, -, -, cases'⟩ := collect_cases turn
      rcases cases' with ⟨-, rfl, -⟩ | ⟨-, rfl, -⟩ | ⟨-, own, -, rfl⟩
      · exact pace.other this there same (.inl rfl)
      · exact pace.other this there same (.inl rfl)
      · refine pace.other this there same (.inr ⟨?_, own⟩)
        rfl

theorem Pace.run {s s' : Sys} {actions : List Action} (pace : Pace now n k generation c s)
    (min : 0 < o.retryMin) (max : 0 < o.retryMax) (before : now < o.maxUtc)
    (played : play o s actions = some s') (awake : .wake k ∉ actions)
    (clock : ∀ a ∈ actions, ∀ now', a.clock = some now' → now' = now) :
    Pace now n k generation (c + begun o k s actions) s' := by
  induction actions generalizing s c with
  | nil =>
    cases played
    exact pace
  | cons a actions ih =>
    obtain ⟨mid, acted, rest⟩ := Option.bind_eq_some_iff.1 played
    rw [List.mem_cons, not_or] at awake
    have next := pace.step min max before acted (Ne.symm awake.1) (clock a List.mem_cons_self)
    have last := ih next rest awake.2 fun b mem => clock b (List.mem_cons_of_mem _ mem)
    rw [begun, acted, Option.elim_some, ← Nat.add_assoc]
    exact last

/-! ## The loop ends -/

theorem Live.recovered (live : Live s r) :
    r.results.any (·.2.2) = true ↔ Recovered r.before s.entries := by
  refine live.told (fun a b => a.state ≠ .ready ∧ b.state = .ready) ?_ ?_
  · rintro e ⟨not, ready⟩
    exact not ready
  · intro x mem a b was is
    obtain ⟨a', b', was', is', -, same⟩ := live.results x mem
    rw [was] at was'
    rw [is] at is'
    cases was'
    cases is'
    exact same

theorem retried_stuck (e : Entry) (now : Time) : (e.retried now).stuck = e.stuck := by
  rw [Entry.retried]
  split <;> rfl

/-- A set that is neither ready nor stuck need not wait. -/
theorem retried_due (ready : e.state ≠ .ready) (free : e.stuck = false) (now : Time) :
    (e.retried now).isDue now = true := by
  rw [Entry.retried]
  by_cases waits : e.due.any (now < ·) = true
  · rw [if_pos ⟨ready, by simp [free], waits⟩]
    simp [Entry.isDue]
  · rw [if_neg fun both => waits both.2.2, Entry.isDue]
    cases due : e.due with
    | none => rfl
    | some at1 =>
      rw [due] at waits
      simpa using waits

variable (o now) in
/-- The task begins one round more at most than there are sets not ready, before it sleeps. -/
def BoundedRounds : Prop :=
  ∀ (k : Nat) (s s' : Sys) (t : Task) (snapshot : Snapshot) (actions : List Action),
    s.tasks[k]? = some t → t.phase = .top → s.shared.of t.generation = some snapshot →
    (∀ (j : Nat) (u : Task), s.tasks[j]? = some u → u.generation = t.generation → j = k) →
    play o s actions = some s' → .wake k ∉ actions →
    (∀ a ∈ actions, ∀ now', a.clock = some now' → now' = now) →
      begun o k s actions ≤ snapshot.notReady + 1

variable (o now) in
/-- A round refreshes each due set once, and where a set recovered in it every
set neither ready nor stuck is due after it. -/
def RoundsWhole : Prop :=
  ∀ (k : Nat) (s s' s'' : Sys) (t : Task) (snapshot : Snapshot) (actions : List Action),
    s.tasks[k]? = some t → t.phase = .top → s.shared.of t.generation = some snapshot →
    (∀ (j : Nat) (u : Task), s.tasks[j]? = some u → u.generation = t.generation → j = k) →
    play o s actions = some s' → .wake k ∉ actions →
    (∀ a ∈ actions, ∀ now', a.clock = some now' → now' = now) →
    act o s' (.collect k now) = some s'' → s'.shared.generation = t.generation →
      ∃ (u : Task) (r : Round) (before after : Snapshot), s'.tasks[k]? = some u ∧ u.phase = .round r ∧
        s'.shared.current = some before ∧ s''.shared.current = some after ∧
        (r.results.map Prod.fst).Nodup ∧
        (∀ i, i ∈ r.results.map Prod.fst ↔ ∃ e, r.before[i]? = some e ∧ e.isDue now = true) ∧
        (Recovered r.before before.entries →
          ∀ e ∈ after.entries, e.state ≠ .ready → e.stuck = false → e.isDue now = true)

variable (now) in
theorem pace_start {s : Sys} {t : Task} {snapshot : Snapshot} (there : s.tasks[k]? = some t)
    (top : t.phase = .top) (own : s.shared.of t.generation = some snapshot)
    (alone : ∀ (j : Nat) (u : Task), s.tasks[j]? = some u → u.generation = t.generation → j = k) :
    Pace now snapshot.notReady k t.generation 0 s where
  bound := Nat.zero_le _
  below := le_of_eq (Shared.of_eq own).1.symm
  alone := alone
  task := by
    refine ⟨t, there, rfl, ?_⟩
    intro _
    refine ⟨snapshot, (Shared.of_eq own).2, ?_⟩
    rw [top]
    left
    omega

/-- Whatever the downloads come to and whatever else happens meanwhile. -/
theorem rounds_bounded (min : 0 < o.retryMin) (max : 0 < o.retryMax) (before : now < o.maxUtc) :
    BoundedRounds o now ∧ RoundsWhole o now := by
  constructor
  · intro k s s' t snapshot actions there top own alone played awake clock
    have pace := (pace_start now there top own alone).run min max before played awake clock
    have bound := pace.bound
    omega
  · intro k s s' s'' t snapshot actions there top own alone played awake clock acted current
    have pace := (pace_start now there top own alone).run min max before played awake clock
    obtain ⟨u, there', generation, paced⟩ := pace.task
    obtain ⟨snapshot', is, room⟩ := paced current
    obtain ⟨u', at1, acted⟩ := Option.bind_eq_some_iff.1 acted
    rw [there'] at at1
    cases at1
    obtain ⟨⟨shared, t'⟩, turn, acted⟩ := Option.bind_eq_some_iff.1 acted
    cases acted
    obtain ⟨r, phase, waits, flies, -, -, -, cases'⟩ := collect_cases turn
    rw [phase] at room
    obtain ⟨limit, -, turning⟩ := room
    have each := turning.live.each
    rw [waits, flies, List.map_nil, List.nil_append, List.nil_append] at each
    have once := each.nodup_iff.2 turning.live.once
    have whole : ∀ i, i ∈ r.results.map Prod.fst ↔ ∃ e, r.before[i]? = some e ∧ e.isDue now = true := by
      intro i
      rw [each.mem_iff]
      exact turning.dueWas i
    rcases cases' with ⟨none, rfl, -⟩ | ⟨moved, -, -⟩ | ⟨-, -, -, rfl⟩
    · refine ⟨u, r, snapshot', snapshot', there', phase, is, is, once, whole, ?_⟩
      intro recovered
      rw [turning.live.recovered.2 recovered] at none
      cases none
    · exact absurd (current.trans generation.symm) moved
    · refine ⟨u, r, snapshot', _, there', phase, is, congrArg (Option.map _) is, once, whole, ?_⟩
      intro _ f mem ready free
      obtain ⟨e, -, rfl⟩ := List.mem_map.1 mem
      rw [(e.retried_same now).1] at ready
      rw [retried_stuck] at free
      exact retried_due ready free now

theorem rounds_bounded_sample : BoundedRounds sample (10 ^ 10) ∧ RoundsWhole sample (10 ^ 10) :=
  rounds_bounded (by decide) (by decide) (by decide)

/-! ## Without a backoff -/

/-- One set that is never had. -/
def spinning (now : Time) : List Action :=
  [.look 0 now, .start 0 0, .finish 0 0 (.failed "RULE_SET_DOWNLOAD_FAILED") now now, .collect 0 now]

def applied (now : Time) : List Action :=
  [.prepareStart [sampleSet "one"] ["rules.example"], .prepareEnd 0 (fun _ => none) none now now, .activate 0]

def Phase.isTop : Phase → Bool
  | .top => true
  | _ => false

/-- Whether three rounds begin at once, with one set to be had. -/
def spins (o : Options) (now : Time) : Bool :=
  (play o {} (applied now)).any fun s =>
    (play o s (spinning now ++ spinning now ++ spinning now)).isSome &&
      begun o 0 s (spinning now ++ spinning now ++ spinning now) = 3 &&
      s.tasks.length = 1 &&
      s.tasks[0]?.any fun t =>
        t.phase.isTop && (s.shared.of t.generation).any fun snapshot => snapshot.notReady = 1

theorem not_bounded (spinsOn : spins o now = true) : ¬ BoundedRounds o now := by
  intro bounded
  obtain ⟨s, played, spinsOn⟩ := (Option.any_eq_true _ _).1 spinsOn
  rw [Bool.and_eq_true, Bool.and_eq_true, Bool.and_eq_true, decide_eq_true_iff, decide_eq_true_iff] at spinsOn
  obtain ⟨⟨⟨plays, three⟩, single⟩, task⟩ := spinsOn
  obtain ⟨s', played'⟩ := Option.isSome_iff_exists.1 plays
  obtain ⟨t, there, task⟩ := (Option.any_eq_true _ _).1 task
  rw [Bool.and_eq_true] at task
  obtain ⟨first, task⟩ := task
  obtain ⟨snapshot, own, one⟩ := (Option.any_eq_true _ _).1 task
  have top : t.phase = .top := by
    cases is : t.phase with
    | top => rfl
    | round | asleep | returned =>
      rw [is] at first
      cases first
  have alone : ∀ (j : Nat) (u : Task), s.tasks[j]? = some u → u.generation = t.generation → j = 0 := by
    intro j u at1 _
    have inside := (List.getElem?_eq_some_iff.1 at1).1
    omega
  have fewer := bounded 0 s s' t snapshot _ there top own alone played' (by simp [spinning]) (by
    intro a mem now' reads
    simp only [spinning, List.mem_append, List.mem_cons, List.not_mem_nil, or_false] at mem
    rcases mem with ((rfl | rfl | rfl | rfl) | rfl | rfl | rfl | rfl) | rfl | rfl | rfl | rfl <;>
      cases reads <;> rfl)
  have one := of_decide_eq_true one
  omega

/-- With no longest backoff, and at the end of the clock, it begins without end. -/
theorem spins_without_backoff :
    (0 < sample.retryMin ∧ ¬ BoundedRounds { sample with retryMax := 0 } (10 ^ 10)) ∧
      (0 < sample.retryMin ∧ 0 < sample.retryMax ∧ ¬ BoundedRounds sample sample.maxUtc) := by
  refine ⟨⟨by decide, not_bounded ?_⟩, by decide, by decide, not_bounded ?_⟩
  · decide +kernel
  · decide +kernel

end PpvpnCore.RuleSets
