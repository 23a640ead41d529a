import Mathlib.Data.List.Perm.Subperm
import PpvpnCore.TunRules.Model

/-!
The guard (`tunrules/guard.rs`): a check compares the snapshot with what is
listed and puts back what is missing. What the kernel answers is an argument of
a check: each listing may fail, each add may fail, and an add of an entry
already present is refused (`EEXIST`). When a check runs (deletions heard, the
periodic tick) and what it logs are left out, as is the switch with which tests
turn the putting back off.
-/

namespace PpvpnCore.TunRules

/-- What the guard reports: the latest verdict. -/
inductive TunRoutingStatus where
  | ok
  | restoring (missing : List String)
  | restored (missing : List String)
  | unguarded (error : String)
  | broken (missing : List String) (error : String)
  deriving DecidableEq, Repr

/-- The rules the kernel holds, and the routes of the scope's table through the
TUN. -/
structure Kernel where
  rules : List Rule
  routes : List Route

/-- What the kernel answers to one check: to the two listings, rules first,
before and after the putting back, and to the adds, by their number. -/
structure Answers where
  rules : Except String Unit := .ok ()
  routes : Except String Unit := .ok ()
  addRoute : Nat → Option String := fun _ => none
  addRule : Nat → Option String := fun _ => none
  rulesAfter : Except String Unit := .ok ()
  routesAfter : Except String Unit := .ok ()

structure Worker where
  rules : List Rule
  routes : List Route
  broken : Bool := false

/-- The snapshot right after sail started the TUN. -/
def Worker.new (scope : Scope) (kernel : Kernel) : Except String Worker :=
  let owned := (scope.owned kernel.rules).1
  if owned = [] then
    .error ("no routing rules of " ++ scope.interface ++ " at priorities " ++
      toString scope.ruleStart ++ "-" ++ toString scope.ruleEnd)
  else .ok { rules := owned, routes := kernel.routes }

namespace Worker

def missing (worker : Worker) (kernel : Kernel) : List Rule × List Route :=
  (TunRules.missing worker.rules kernel.rules, TunRules.missing worker.routes kernel.routes)

/-- `missing` with the listings it makes. -/
def findMissing (worker : Worker) (kernel : Kernel) (rules routes : Except String Unit) :
    Except String (List Rule × List Route) :=
  match rules, routes with
  | .error e, _ => .error e
  | .ok (), .error e => .error e
  | .ok (), .ok () => .ok (worker.missing kernel)

/-- Adds entries one by one, past failures; the first failure is kept. An entry
that came back meanwhile (`EEXIST`) is none. -/
def addAll {α : Type} [DecidableEq α] (describe : α → String → String)
    (fails : Nat → Option String) : (i : Nat) → List α → (held : List α) → (first : Option String) →
      List α × Option String
  | _, [], held, first => (held, first)
  | i, entry :: entries, held, first =>
    match fails i with
    | some e => addAll describe fails (i + 1) entries held (first.or (some (describe entry e)))
    | none =>
      addAll describe fails (i + 1) entries (if entry ∈ held then held else held ++ [entry]) first

/-- Routes first (the rules point at their table), then rules. -/
def restore (kernel : Kernel) (answers : Answers) (rules : List Rule) (routes : List Route) :
    Kernel × Option String :=
  let (routes, first) := addAll (fun r e => "route " ++ text r ++ ": " ++ e) answers.addRoute 0
    (routeRestoreOrder routes) kernel.routes none
  let (rules, first) := addAll (fun r e => "rule " ++ text r ++ ": " ++ e) answers.addRule 0
    (restoreOrder rules) kernel.rules first
  (⟨rules, routes⟩, first)

end Worker

/-- The worker, the kernel and the status last sent. -/
structure Guarded where
  worker : Worker
  kernel : Kernel
  status : TunRoutingStatus := .ok

namespace Guarded

def setBroken (g : Guarded) (missing : List String) (error : String) : Guarded :=
  if g.worker.broken then g
  else { g with worker.broken := true, status := .broken missing error }

def check (g : Guarded) (answers : Answers) : Guarded :=
  match g.worker.findMissing g.kernel answers.rules answers.routes with
  | .error _ => g
  | .ok (rules, routes) =>
    if rules = [] ∧ routes = [] then
      if g.worker.broken then { g with worker.broken := false, status := .restored [] } else g
    else
      let missingNames := names rules routes
      let g := if g.worker.broken then g else { g with status := .restoring missingNames }
      let (kernel, added) := Worker.restore g.kernel answers rules routes
      let g := { g with kernel }
      match g.worker.findMissing kernel answers.rulesAfter answers.routesAfter with
      | .ok (stillRules, stillRoutes) =>
        if stillRules = [] ∧ stillRoutes = [] then
          { g with worker.broken := false, status := .restored missingNames }
        else
          g.setBroken (names stillRules stillRoutes) (added.getD "still missing after restoring")
      | .error e => g.setBroken missingNames e

end Guarded

/-! ## Runs -/

/-- What happens: others change the kernel in any way, or a check runs. -/
inductive GuardEvent where
  | others (kernel : Kernel)
  | check (answers : Answers)

structure GuardCheck where
  before : Guarded
  answers : Answers

def GuardCheck.after (c : GuardCheck) : Guarded := c.before.check c.answers

/-- The checks of a run. -/
def Guarded.checks (g : Guarded) : List GuardEvent → List GuardCheck
  | [] => []
  | .others kernel :: events => { g with kernel }.checks events
  | .check answers :: events => ⟨g, answers⟩ :: (g.check answers).checks events

/-! ## What is missing, counted -/

section

variable {α : Type} [Display α]

theorem missingFrom_count (count : String → Nat) (want : List α) (s : String) :
    ((missingFrom count want).map text).count s = (want.map text).count s - count s := by
  induction want generalizing count with
  | nil => simp [missingFrom]
  | cons item want ih =>
    unfold missingFrom
    split
    · rename_i covered
      rw [ih, List.map_cons, List.count_cons]
      unfold takeOne
      by_cases same : s = text item
      · subst same
        rw [if_pos rfl, if_pos (by simp)]
        omega
      · have other : ¬ (text item == s) = true := by simpa using fun h => same h.symm
        rw [if_neg same, if_neg other]
        rfl
    · rename_i uncovered
      rw [List.map_cons, List.map_cons, List.count_cons, List.count_cons, ih]
      by_cases same : s = text item
      · subst same
        rw [if_pos (by simp)]
        omega
      · have other : ¬ (text item == s) = true := by simpa using fun h => same h.symm
        rw [if_neg other]
        rfl

theorem missing_count (want listed : List α) (s : String) :
    ((missing want listed).map text).count s =
      (want.map text).count s - (listed.map text).count s :=
  missingFrom_count _ want s

theorem missing_eq_nil_iff {want listed : List α} :
    missing want listed = [] ↔ ∀ s, (want.map text).count s ≤ (listed.map text).count s := by
  constructor
  · intro none s
    have count := missing_count want listed s
    rw [none, List.map_nil, List.count_nil] at count
    omega
  · intro covered
    cases found : missing want listed with
    | nil => rfl
    | cons item rest =>
      have count := missing_count want listed (text item)
      rw [found, List.map_cons, List.count_cons_self] at count
      have enough := covered (text item)
      omega

theorem missingFrom_sublist (count : String → Nat) (want : List α) :
    (missingFrom count want).Sublist want := by
  induction want generalizing count with
  | nil => exact .slnil
  | cons item want ih =>
    unfold missingFrom
    split
    · exact (ih _).cons item
    · exact (ih _).cons_cons item

/-- Only entries of the snapshot are missing. -/
theorem missing_sublist (want listed : List α) : (missing want listed).Sublist want :=
  missingFrom_sublist _ want

/-- What was short of one entry of its form is there once that is put back. -/
theorem missing_restored {want listed after : List α}
    (single : ∀ s, (want.map text).count s ≤ 1 ∨ (want.map text).count s ≤ (listed.map text).count s)
    (kept : ∃ extra, after = listed ++ extra) (present : ∀ entry ∈ missing want listed, entry ∈ after) :
    missing want after = [] := by
  rw [missing_eq_nil_iff]
  intro s
  obtain ⟨extra, rfl⟩ := kept
  have count : (listed.map text).count s ≤ ((listed ++ extra).map text).count s := by
    rw [List.map_append, List.count_append]
    exact Nat.le_add_right _ _
  by_cases short : (want.map text).count s ≤ (listed.map text).count s
  · exact Nat.le_trans short count
  · have one : (want.map text).count s ≤ 1 := (single s).resolve_right short
    have deficit := missing_count want listed s
    have among : s ∈ (missing want listed).map text := by
      apply List.count_pos_iff.1
      omega
    obtain ⟨entry, mem, rfl⟩ := List.mem_map.1 among
    have back : 0 < ((listed ++ extra).map text).count (text entry) :=
      List.count_pos_iff.2 (List.mem_map.2 ⟨entry, present entry mem, rfl⟩)
    omega

end

/-! ## Putting back -/

section

variable {α : Type} [DecidableEq α] {describe : α → String → String} {fails : Nat → Option String}

/-- Entries are only added, each at most once, and none but those given. -/
theorem Worker.addAll_added (i : Nat) (entries held : List α) (first : Option String) :
    ∃ extra, (Worker.addAll describe fails i entries held first).1 = held ++ extra ∧
      extra.Sublist entries := by
  induction entries generalizing i held first with
  | nil => exact ⟨[], (List.append_nil _).symm, .slnil⟩
  | cons entry entries ih =>
    unfold Worker.addAll
    split
    · obtain ⟨extra, added, among⟩ := ih (i + 1) held (first.or (some (describe entry _)))
      exact ⟨extra, added, among.cons entry⟩
    · split
      · obtain ⟨extra, added, among⟩ := ih (i + 1) held first
        exact ⟨extra, added, among.cons entry⟩
      · obtain ⟨extra, added, among⟩ := ih (i + 1) (held ++ [entry]) first
        refine ⟨entry :: extra, ?_, among.cons_cons entry⟩
        rw [added, List.append_assoc]
        rfl

/-- When no add fails, every entry is there. -/
theorem Worker.addAll_present (i : Nat) (entries held : List α) (first : Option String)
    (works : ∀ j, j < entries.length → fails (i + j) = none) :
    ∀ entry ∈ entries, entry ∈ (Worker.addAll describe fails i entries held first).1 := by
  induction entries generalizing i held first with
  | nil => exact fun _ mem => by cases mem
  | cons entry entries ih =>
    have here : fails i = none := works 0 (Nat.succ_pos _)
    have rest : ∀ j, j < entries.length → fails (i + 1 + j) = none := by
      intro j bound
      rw [Nat.add_assoc, Nat.add_comm 1 j]
      exact works (j + 1) (Nat.succ_lt_succ bound)
    intro wanted mem
    unfold Worker.addAll
    rw [here]
    dsimp only
    rcases List.mem_cons.1 mem with rfl | later
    · obtain ⟨extra, added, -⟩ := Worker.addAll_added (i + 1)
        entries (if wanted ∈ held then held else held ++ [wanted]) first
      rw [added]
      apply List.mem_append_left
      split
      · assumption
      · exact List.mem_append_right _ (List.mem_singleton_self _)
    · exact ih (i + 1) _ first rest wanted later

end

/-! ## One check -/

/-- The listings of a check succeed, and every add it makes succeeds or is
refused because the entry is there. -/
structure GuardCheck.Clean (c : GuardCheck) : Prop where
  rules : c.answers.rules = .ok ()
  routes : c.answers.routes = .ok ()
  addRoute : ∀ i, i < (c.before.worker.missing c.before.kernel).2.length → c.answers.addRoute i = none
  addRule : ∀ i, i < (c.before.worker.missing c.before.kernel).1.length → c.answers.addRule i = none
  rulesAfter : c.answers.rulesAfter = .ok ()
  routesAfter : c.answers.routesAfter = .ok ()

/-- What a check guarantees. -/
structure GuardCheck.Guards (c : GuardCheck) : Prop where
  /-- Entries are only added: of the snapshot, and missing from the listing. -/
  added : ∃ rules routes,
    c.after.kernel.rules = c.before.kernel.rules ++ rules ∧
    c.after.kernel.routes = c.before.kernel.routes ++ routes ∧
    rules.Subperm (c.before.worker.missing c.before.kernel).1 ∧
    routes.Subperm (c.before.worker.missing c.before.kernel).2 ∧
    (∀ r ∈ rules, r ∈ c.before.worker.rules) ∧ ∀ r ∈ routes, r ∈ c.before.worker.routes
  /-- Nothing of the snapshot is missing after a check that nothing hindered. -/
  restored : c.Clean → c.after.worker.missing c.after.kernel = ([], []) ∧
    ∀ missing error, c.after.status ≠ .broken missing error
  settled : ∀ missing, c.after.status ≠ .restoring missing
  flag : (∃ missing error, c.after.status = .broken missing error) ↔ c.after.worker.broken = true
  /-- A check that finds everything in place after `broken`. -/
  again : c.answers.rules = .ok () → c.answers.routes = .ok () →
    c.before.worker.missing c.before.kernel = ([], []) →
    (∃ missing error, c.before.status = .broken missing error) → c.after.status = .restored []

/-- No entry that the snapshot holds more than once is short in the kernel. -/
structure GuardCheck.Single (c : GuardCheck) : Prop where
  rules : ∀ s, (c.before.worker.rules.map text).count s ≤ 1 ∨
    (c.before.worker.rules.map text).count s ≤ (c.before.kernel.rules.map text).count s
  routes : ∀ s, (c.before.worker.routes.map text).count s ≤ 1 ∨
    (c.before.worker.routes.map text).count s ≤ (c.before.kernel.routes.map text).count s

/-- What holds of the status between checks. -/
structure Guarded.Steady (g : Guarded) : Prop where
  settled : ∀ missing, g.status ≠ .restoring missing
  flag : (∃ missing error, g.status = .broken missing error) ↔ g.worker.broken = true

/-- A status that was never broken. -/
theorem Guarded.Steady.restored {worker : Worker} {kernel : Kernel} {missing : List String}
    (unbroken : worker.broken = false) : Guarded.Steady ⟨worker, kernel, .restored missing⟩ where
  settled _ same := by cases same
  flag := by
    constructor
    · rintro ⟨_, _, same⟩
      cases same
    · intro broken
      rw [unbroken] at broken
      cases broken

/-- Whatever was sent while it was restored, a check that gives up is broken. -/
theorem Guarded.setBroken_steady {g : Guarded} {missing : List String} {error : String}
    (flag : g.worker.broken = true → ∃ missing error, g.status = .broken missing error) :
    (g.setBroken missing error).Steady := by
  unfold Guarded.setBroken
  cases broken : g.worker.broken with
  | true =>
    obtain ⟨m, e, status⟩ := flag broken
    constructor
    · intro other
      simp [status]
    · simp [status, broken]
  | false =>
    constructor
    · intro other
      simp
    · simp

theorem Guarded.setBroken_parts (g : Guarded) (missing : List String) (error : String) :
    (g.setBroken missing error).kernel = g.kernel ∧
      (g.setBroken missing error).worker.rules = g.worker.rules ∧
      (g.setBroken missing error).worker.routes = g.worker.routes := by
  unfold Guarded.setBroken
  split
  · exact ⟨rfl, rfl, rfl⟩
  · exact ⟨rfl, rfl, rfl⟩

theorem Worker.findMissing_ok {worker : Worker} {kernel : Kernel} {rules routes : Except String Unit}
    {found : List Rule × List Route} (ok : worker.findMissing kernel rules routes = .ok found) :
    rules = .ok () ∧ routes = .ok () ∧ found = worker.missing kernel := by
  unfold Worker.findMissing at ok
  split at ok
  · cases ok
  · cases ok
  · cases ok
    exact ⟨rfl, rfl, rfl⟩

/-- The kernel once what is missing was put back, as far as that went. -/
def Guarded.putBack (g : Guarded) (answers : Answers) : Kernel :=
  (Worker.restore g.kernel answers (g.worker.missing g.kernel).1 (g.worker.missing g.kernel).2).1

/-- What a check does, case by case. -/
inductive Guarded.Checked (g : Guarded) (answers : Answers) : Guarded → Prop
  | unlisted (failed : ¬ (answers.rules = .ok () ∧ answers.routes = .ok ())) : Checked g answers g
  | inPlace (none : g.worker.missing g.kernel = ([], [])) (unbroken : g.worker.broken = false) :
      Checked g answers g
  | again (none : g.worker.missing g.kernel = ([], [])) (broken : g.worker.broken = true) :
      Checked g answers { g with worker.broken := false, status := .restored [] }
  | restored (short : g.worker.missing g.kernel ≠ ([], []))
      (back : g.worker.missing (g.putBack answers) = ([], [])) (missing : List String) :
      Checked g answers ⟨{ g.worker with broken := false }, g.putBack answers, .restored missing⟩
  | gaveUp (short : g.worker.missing g.kernel ≠ ([], []))
      (still : answers.rulesAfter = .ok () → answers.routesAfter = .ok () →
        g.worker.missing (g.putBack answers) ≠ ([], []))
      (status : TunRoutingStatus) (kept : g.worker.broken = true → status = g.status)
      (missing : List String) (error : String) :
      Checked g answers (Guarded.setBroken ⟨g.worker, g.putBack answers, status⟩ missing error)

theorem Guarded.check_checked (g : Guarded) (answers : Answers) :
    g.Checked answers (g.check answers) := by
  unfold Guarded.check
  split
  · rename_i e failed
    apply Checked.unlisted
    rintro ⟨rules, routes⟩
    rw [rules, routes] at failed
    cases failed
  · rename_i rules routes listed
    obtain ⟨-, -, found⟩ := Worker.findMissing_ok listed
    by_cases none : rules = [] ∧ routes = []
    · have nothing : g.worker.missing g.kernel = ([], []) := by
        rw [← found, none.1, none.2]
      rw [if_pos none]
      cases broken : g.worker.broken with
      | true => exact .again nothing broken
      | false => exact .inPlace nothing broken
    · have short : g.worker.missing g.kernel ≠ ([], []) := by
        rw [← found]
        intro same
        cases same
        exact none ⟨rfl, rfl⟩
      rw [if_neg none]
      dsimp only
      generalize told : (if g.worker.broken then g else
        { g with status := .restoring (names rules routes) }) = sent
      have same : sent.worker = g.worker ∧ sent.kernel = g.kernel ∧
          (g.worker.broken = true → sent.status = g.status) := by
        subst told
        cases g.worker.broken
        · exact ⟨rfl, rfl, fun broken => by cases broken⟩
        · exact ⟨rfl, rfl, fun _ => rfl⟩
      obtain ⟨worker, kernel, kept⟩ := same
      have put : (Worker.restore sent.kernel answers rules routes).1 = g.putBack answers := by
        rw [Guarded.putBack, ← found, kernel]
      rw [worker, put]
      cases after : g.worker.findMissing (g.putBack answers) answers.rulesAfter answers.routesAfter with
      | error e =>
        have failed : answers.rulesAfter = .ok () → answers.routesAfter = .ok () →
            g.worker.missing (g.putBack answers) ≠ ([], []) := by
          intro rules routes
          rw [rules, routes] at after
          cases after
        exact .gaveUp short failed sent.status kept _ _
      | ok still =>
        obtain ⟨-, -, found'⟩ := Worker.findMissing_ok after
        dsimp only
        by_cases back : still.1 = [] ∧ still.2 = []
        · rw [if_pos back]
          apply Checked.restored short
          rw [← found']
          exact Prod.ext back.1 back.2
        · rw [if_neg back]
          apply Checked.gaveUp short _ sent.status kept
          intro _ _ gone
          rw [← found'] at gone
          rw [gone] at back
          exact back ⟨rfl, rfl⟩

theorem GuardCheck.after_checked (c : GuardCheck) : c.before.Checked c.answers c.after :=
  c.before.check_checked c.answers

/-- Putting back adds entries that are missing, and none else. -/
theorem Guarded.putBack_added (g : Guarded) (answers : Answers) :
    ∃ rules routes, (g.putBack answers).rules = g.kernel.rules ++ rules ∧
      (g.putBack answers).routes = g.kernel.routes ++ routes ∧
      rules.Subperm (g.worker.missing g.kernel).1 ∧
      routes.Subperm (g.worker.missing g.kernel).2 := by
  unfold Guarded.putBack Worker.restore
  dsimp only
  obtain ⟨routes, addedRoutes, amongRoutes⟩ := Worker.addAll_added 0
    (routeRestoreOrder (g.worker.missing g.kernel).2) g.kernel.routes none
  obtain ⟨rules, addedRules, amongRules⟩ := Worker.addAll_added 0
    (restoreOrder (g.worker.missing g.kernel).1) g.kernel.rules _
  refine ⟨rules, routes, addedRules, addedRoutes, ?_, ?_⟩
  · exact amongRules.subperm.trans (List.mergeSort_perm _ _).subperm
  · exact amongRoutes.subperm.trans (List.mergeSort_perm _ _).subperm

/-- When no add fails and no form is short of more than one entry, nothing is
missing after the putting back. -/
theorem GuardCheck.putBack_missing {c : GuardCheck} (clean : c.Clean) (single : c.Single) :
    c.before.worker.missing (c.before.putBack c.answers) = ([], []) := by
  obtain ⟨rules, routes, addedRules, addedRoutes, -, -⟩ := c.before.putBack_added c.answers
  have presentRules : ∀ r ∈ (c.before.worker.missing c.before.kernel).1,
      r ∈ (c.before.putBack c.answers).rules := by
    intro r mem
    apply Worker.addAll_present
    · intro j bound
      rw [Nat.zero_add]
      apply clean.addRule j
      rwa [restoreOrder, List.length_mergeSort] at bound
    · exact (List.mergeSort_perm _ _).mem_iff.2 mem
  have presentRoutes : ∀ r ∈ (c.before.worker.missing c.before.kernel).2,
      r ∈ (c.before.putBack c.answers).routes := by
    intro r mem
    apply Worker.addAll_present
    · intro j bound
      rw [Nat.zero_add]
      apply clean.addRoute j
      rwa [routeRestoreOrder, List.length_mergeSort] at bound
    · exact (List.mergeSort_perm _ _).mem_iff.2 mem
  have noRules := missing_restored single.rules ⟨rules, addedRules⟩ presentRules
  have noRoutes := missing_restored single.routes ⟨routes, addedRoutes⟩ presentRoutes
  exact Prod.ext noRules noRoutes

theorem GuardCheck.added (c : GuardCheck) :
    ∃ rules routes,
      c.after.kernel.rules = c.before.kernel.rules ++ rules ∧
      c.after.kernel.routes = c.before.kernel.routes ++ routes ∧
      rules.Subperm (c.before.worker.missing c.before.kernel).1 ∧
      routes.Subperm (c.before.worker.missing c.before.kernel).2 ∧
      (∀ r ∈ rules, r ∈ c.before.worker.rules) ∧ ∀ r ∈ routes, r ∈ c.before.worker.routes := by
  have parts : ∃ rules routes,
      c.after.kernel.rules = c.before.kernel.rules ++ rules ∧
      c.after.kernel.routes = c.before.kernel.routes ++ routes ∧
      rules.Subperm (c.before.worker.missing c.before.kernel).1 ∧
      routes.Subperm (c.before.worker.missing c.before.kernel).2 := by
    have unchanged (g : Guarded) (same : g.kernel = c.before.kernel) : ∃ rules routes,
        g.kernel.rules = c.before.kernel.rules ++ rules ∧
        g.kernel.routes = c.before.kernel.routes ++ routes ∧
        rules.Subperm (c.before.worker.missing c.before.kernel).1 ∧
        routes.Subperm (c.before.worker.missing c.before.kernel).2 := by
      rw [same]
      exact ⟨[], [], (List.append_nil _).symm, (List.append_nil _).symm, List.nil_subperm,
        List.nil_subperm⟩
    have put (g : Guarded) (same : g.kernel = c.before.putBack c.answers) : ∃ rules routes,
        g.kernel.rules = c.before.kernel.rules ++ rules ∧
        g.kernel.routes = c.before.kernel.routes ++ routes ∧
        rules.Subperm (c.before.worker.missing c.before.kernel).1 ∧
        routes.Subperm (c.before.worker.missing c.before.kernel).2 := by
      rw [same]
      exact c.before.putBack_added c.answers
    have checked := c.after_checked
    generalize c.after = after at checked ⊢
    cases checked with
    | unlisted failed => exact unchanged _ rfl
    | inPlace none unbroken => exact unchanged _ rfl
    | again none broken => exact unchanged _ rfl
    | restored short back missing => exact put _ rfl
    | gaveUp short still status kept missing error =>
      exact put _ (Guarded.setBroken_parts _ _ _).1
  obtain ⟨rules, routes, addedRules, addedRoutes, amongRules, amongRoutes⟩ := parts
  refine ⟨rules, routes, addedRules, addedRoutes, amongRules, amongRoutes, ?_, ?_⟩
  · intro r mem
    exact (missing_sublist _ _).subset (amongRules.subset mem)
  · intro r mem
    exact (missing_sublist _ _).subset (amongRoutes.subset mem)

theorem GuardCheck.after_steady {c : GuardCheck} (steady : c.before.Steady) : c.after.Steady := by
  have checked := c.after_checked
  generalize c.after = after at checked ⊢
  cases checked with
  | unlisted failed => exact steady
  | inPlace none unbroken => exact steady
  | again none broken => exact .restored rfl
  | restored short back missing => exact .restored rfl
  | gaveUp short still status kept missing error =>
    apply Guarded.setBroken_steady
    intro broken
    rw [kept broken]
    exact steady.flag.2 broken

theorem GuardCheck.guards {c : GuardCheck} (steady : c.before.Steady) (single : c.Single) :
    c.Guards where
  added := c.added
  settled := (GuardCheck.after_steady steady).settled
  flag := (GuardCheck.after_steady steady).flag
  restored clean := by
    have back := GuardCheck.putBack_missing clean single
    have checked := c.after_checked
    generalize c.after = after at checked ⊢
    cases checked with
    | unlisted failed => exact absurd ⟨clean.rules, clean.routes⟩ failed
    | inPlace none unbroken =>
      refine ⟨none, ?_⟩
      intro missing error status
      have broken := steady.flag.1 ⟨missing, error, status⟩
      rw [unbroken] at broken
      cases broken
    | again none broken =>
      refine ⟨none, ?_⟩
      intro missing error status
      cases status
    | restored short back' names =>
      refine ⟨back', ?_⟩
      intro missing error status
      cases status
    | gaveUp short still status kept names error =>
      exact absurd back (still clean.rulesAfter clean.routesAfter)
  again rules routes none broken := by
    have flag := steady.flag.1 broken
    have checked := c.after_checked
    generalize c.after = after at checked ⊢
    cases checked with
    | unlisted failed => exact absurd ⟨rules, routes⟩ failed
    | inPlace none unbroken =>
      rw [unbroken] at flag
      cases flag
    | again none broken => rfl
    | restored short back names => exact absurd none short
    | gaveUp short still status kept names error => exact absurd none short

/-! ## Every run -/

theorem Guarded.checks_guard {g : Guarded} (steady : g.Steady) (events : List GuardEvent)
    (single : ∀ c ∈ g.checks events, c.Single) : ∀ c ∈ g.checks events, c.Guards := by
  induction events generalizing g with
  | nil => exact fun _ mem => by cases mem
  | cons event events ih =>
    cases event with
    | others kernel =>
      have moved : Guarded.Steady { g with kernel } := ⟨steady.settled, steady.flag⟩
      exact ih moved single
    | check answers =>
      intro c mem
      have first : (⟨g, answers⟩ : GuardCheck).Single := single _ List.mem_cons_self
      rcases List.mem_cons.1 mem with rfl | later
      · exact GuardCheck.guards steady first
      · have after : (g.check answers).Steady := GuardCheck.after_steady (c := ⟨g, answers⟩) steady
        exact ih after (fun c mem => single c (List.mem_cons_of_mem _ mem)) c later

/-- From any snapshot, through any run of checks and changes by others: as long
as no entry that the snapshot holds more than once goes missing, every check
restores exactly the snapshot and never gets stuck. -/
theorem guard_restores (scope : Scope) (kernel : Kernel) (worker : Worker)
    (made : Worker.new scope kernel = .ok worker) (events : List GuardEvent)
    (single : ∀ c ∈ Guarded.checks ⟨worker, kernel, .ok⟩ events, c.Single) :
    ∀ c ∈ Guarded.checks ⟨worker, kernel, .ok⟩ events, c.Guards := by
  have unbroken : worker.broken = false := by
    unfold Worker.new at made
    dsimp only at made
    split at made
    · cases made
    · cases made
      rfl
  apply Guarded.checks_guard _ events single
  constructor
  · intro missing same
    cases same
  · constructor
    · rintro ⟨_, _, same⟩
      cases same
    · intro broken
      rw [unbroken] at broken
      cases broken

/-! ## Two equal rules -/

def sampleScope : Scope := ⟨"ppvpn0", 2022, 9000, 9010⟩

def sampleRule : Rule := { family := .v4, priority := 9001, action := .table 2022 }

/-- Everything of one rule is dropped and put back. -/
theorem guard_restores_sample :
    Worker.new sampleScope ⟨[sampleRule], []⟩ = .ok { rules := [sampleRule], routes := [] } ∧
      ∀ c ∈ Guarded.checks ⟨{ rules := [sampleRule], routes := [] }, ⟨[sampleRule], []⟩, .ok⟩
        [.others ⟨[], []⟩, .check {}], c.Guards := by
  have made : Worker.new sampleScope ⟨[sampleRule], []⟩ =
      .ok { rules := [sampleRule], routes := [] } := by rfl
  refine ⟨made, guard_restores _ _ _ made _ ?_⟩
  intro c mem
  rw [List.mem_singleton.1 mem]
  constructor
  · intro s
    exact .inl List.count_le_length
  · intro s
    exact .inl (Nat.zero_le _)

/-- The snapshot holds one rule twice; one of the two is deleted. The add is
refused, since the other is there, and the check ends broken. -/
theorem guard_stuck :
    Worker.new sampleScope ⟨[sampleRule, sampleRule], []⟩ =
        .ok { rules := [sampleRule, sampleRule], routes := [] } ∧
      ¬ ∀ c ∈ Guarded.checks
          ⟨{ rules := [sampleRule, sampleRule], routes := [] }, ⟨[sampleRule, sampleRule], []⟩, .ok⟩
          [.others ⟨[sampleRule], []⟩, .check {}], c.Guards := by
  refine ⟨rfl, ?_⟩
  intro guards
  have guarded := guards _ (List.mem_singleton_self _)
  have clean : GuardCheck.Clean ⟨⟨{ rules := [sampleRule, sampleRule], routes := [] },
      ⟨[sampleRule], []⟩, .ok⟩, {}⟩ :=
    ⟨rfl, rfl, fun _ _ => rfl, fun _ _ => rfl, rfl, rfl⟩
  have restored := (guarded.restored clean).1
  revert restored
  decide +kernel

end PpvpnCore.TunRules
