import PpvpnCore.Lib.Archive

/-!
The service's log files (`service/src/logfile.rs`): an append-only file with a size
cap, rolled over to numbered ones.

A file is the writes it holds, oldest first; number 0 is the current one. A rename,
an opening or a removal may fail, and then leaves the files as they were. Sizes
are natural numbers.

* `Good`: what is kept, and what the open file's size is.
* `keeps_newest`: every run that meets `Sys.Sound`.
-/

namespace PpvpnCore.LogFile

open Lib

/-- The writes of each file. -/
abbrev Files := Archive (List UInt8)

/-- What fails; a rename by the number of the file it moves. -/
structure Faults where
  remove : Bool := false
  rename : Nat → Bool := fun _ => false
  /-- The opening of the current file. -/
  create : Bool := false

/-- A log that was opened, with its cap and count elsewhere. -/
structure RotatingLog where
  /-- The current file is open. -/
  file : Bool
  size : Nat
  deriving DecidableEq

def length (file : Option (List (List UInt8))) : Nat := (file.getD []).flatten.length

/-- `open_append`: the file is created when it is missing. -/
def openAppend (files : Files) : Files := files.fill 0 ((files 0).getD [])

/-- `RotatingLog::open`. -/
def RotatingLog.opened (files : Files) : RotatingLog := ⟨true, length (files 0)⟩

/-- Moves the files from number `i` down to 1 on by one. -/
def shift (faults : Faults) : Nat → Files → Bool × Files
  | 0, files => (true, files)
  | i + 1, files =>
    match files (i + 1) with
    | none => shift faults i files
    | some _ =>
      if faults.rename (i + 1) then (false, files) else shift faults i (files.move (i + 1))

/-- The last steps of a roll-over, and what a write does with a closed file. -/
def reopen (faults : Faults) (log : RotatingLog) (files : Files) : Bool × RotatingLog × Files :=
  if faults.create then (false, log, files) else (true, ⟨true, 0⟩, openAppend files)

def rotate (keep : Nat) (faults : Faults) (log : RotatingLog) (files : Files) :
    Bool × RotatingLog × Files :=
  let log := { log with file := false }
  if 1 < keep then
    let files := if faults.remove then files else files.clear (keep - 1)
    match shift faults (keep - 2) files with
    | (false, files) => (false, log, files)
    | (true, files) =>
      -- a missing file cannot be renamed
      if faults.rename 0 || (files 0).isNone then (false, log, files)
      else reopen faults log (files.move 0)
  else reopen faults log (if faults.remove then files else files.clear 0)

def append (bytes : List UInt8) (log : RotatingLog) (files : Files) : RotatingLog × Files :=
  ({ log with size := log.size + bytes.length }, files.fill 0 ((files 0).getD [] ++ [bytes]))

/-- The bytes would not fit. -/
def RotatingLog.full (log : RotatingLog) (cap : Nat) (bytes : List UInt8) : Bool :=
  0 < log.size && cap < log.size + bytes.length

/-- Rolls over when the bytes would not fit, and opens a closed file. -/
def prepare (cap keep : Nat) (faults : Faults) (bytes : List UInt8) (log : RotatingLog)
    (files : Files) : Bool × RotatingLog × Files :=
  match if log.full cap bytes then rotate keep faults log files else (true, log, files) with
  | (false, log, files) => (false, log, files)
  | (true, log, files) => if log.file then (true, log, files) else reopen faults log files

/-- Whether the bytes were written. -/
def write (cap keep : Nat) (faults : Faults) (bytes : List UInt8) (log : RotatingLog)
    (files : Files) : Bool × RotatingLog × Files :=
  match prepare cap keep faults bytes log files with
  | (false, log, files) => (false, log, files)
  | (true, log, files) => (true, append bytes log files)

/-! ## Runs -/

structure Sys where
  files : Files
  /-- None before an opening succeeded. -/
  log : Option RotatingLog
  /-- The writes that returned Ok. -/
  written : List (List UInt8)

inductive Action where
  | reopen (fails : Bool)
  | write (faults : Faults) (bytes : List UInt8)

def Sys.act (cap keep : Nat) (s : Sys) : Action → Option Sys
  | .reopen fails =>
    if fails then some { s with log := none }
    else some { s with files := openAppend s.files, log := some (.opened s.files) }
  | .write faults bytes =>
    match s.log with
    | none => none
    | some log =>
      match write cap keep faults bytes log s.files with
      | (ok, log, files) =>
        some { files, log := some log, written := if ok then s.written ++ [bytes] else s.written }

/-- Every step meets a condition. -/
inductive Reaches (cap keep : Nat) (meets : Sys → Action → Prop) (start : Files) : Sys → Prop
  | start : Reaches cap keep meets start ⟨start, none, []⟩
  | step {s s' : Sys} {a : Action} (before : Reaches cap keep meets start s) (met : meets s a)
      (taken : s.act cap keep a = some s') : Reaches cap keep meets start s'

def Blank (file : Option (List (List UInt8))) : Prop := length file = 0

/-- A roll-over finds the current file where it is renamed, and removes it where it
is the only one; a closed file that is opened without a roll-over is empty. -/
structure Meets (cap keep : Nat) (faults : Faults) (bytes : List UInt8) (log : RotatingLog)
    (files : Files) : Prop where
  full : log.full cap bytes = true → 1 < keep → (files 0).isSome
  only : log.full cap bytes = true → keep = 1 → faults.remove → faults.create ∨ Blank (files 0)
  closed : log.full cap bytes = false → log.file = false → Blank (files 0)

def Sys.Sound (cap keep : Nat) (s : Sys) : Action → Prop
  | .reopen _ => True
  | .write faults bytes => ∀ log, s.log = some log → Meets cap keep faults bytes log s.files

/-! ## One write -/

variable {cap keep : Nat} {faults : Faults} {log log' : RotatingLog} {files files' : Files}
  {bytes : List UInt8} {ok : Bool}

/-- Numbers 1 and 2 onwards; the current file stays where it is. -/
theorem shift_sheds {i : Nat} (below : i + 1 < keep) (free : files (i + 1) = none ∨ i + 2 = keep)
    (shifted : shift faults i files = (ok, files')) :
    Archive.Sheds keep files files' ∧ files' 0 = files 0 ∧
      (ok = true → files' 1 = none ∨ keep = 2) := by
  induction i generalizing files with
  | zero =>
    cases shifted
    exact ⟨.refl keep _, rfl, fun _ => free.imp id Eq.symm⟩
  | succ i ih =>
    rw [shift] at shifted
    split at shifted
    next none => exact ih (by omega) (.inl none) shifted
    next here =>
      split at shifted
      · cases shifted
        exact ⟨.refl keep _, rfl, fun ok => by cases ok⟩
      · obtain ⟨sheds, first, last⟩ := ih (by omega) (.inl (Archive.move_self ..)) shifted
        refine ⟨(Archive.Sheds.move below free).trans sheds, ?_, last⟩
        rw [first, Archive.move_other (by omega) (by omega)]

theorem shift_ok {i : Nat} : (shift {} i files).1 = true := by
  induction i generalizing files with
  | zero => rfl
  | succ i ih =>
    rw [shift]
    split
    · exact ih
    · exact ih

/-- The current file is open and as long as the log says. -/
def Current (log : RotatingLog) (files : Files) : Prop :=
  log.file = true → ∃ file, files 0 = some file ∧ log.size = file.flatten.length

theorem reopen_spec (one : 1 ≤ keep) (blank : faults.create ∨ Blank (files 0))
    (done : reopen faults log files = (ok, log', files')) :
    Archive.Sheds keep files files' ∧ (ok = true → log' = ⟨true, 0⟩ ∧ Current log' files') ∧
      (ok = false → log' = log) := by
  unfold reopen at done
  split at done
  · cases done
    exact ⟨.refl keep _, fun yes => (by cases yes), fun _ => rfl⟩
  next opens =>
    cases done
    refine ⟨.create one, fun _ => ⟨rfl, fun _ => ⟨(files 0).getD [], ?_, ?_⟩⟩,
      fun no => (by cases no)⟩
    · exact Function.update_self 0 _ files
    · exact (blank.resolve_left opens).symm

/-- What a roll-over leaves, when it meets the condition on it. -/
theorem rotate_spec (one : 1 ≤ keep)
    (empties : 1 < keep ∨ (faults.remove → faults.create ∨ Blank (files 0)))
    (done : rotate keep faults log files = (ok, log', files')) :
    Archive.Sheds keep files files' ∧ (ok = true → log' = ⟨true, 0⟩ ∧ Current log' files') ∧
      (ok = false → log'.file = false) := by
  unfold rotate at done
  dsimp only at done
  split at done
  next many =>
    have cleared : Archive.Sheds keep files
        (if faults.remove then files else files.clear (keep - 1)) := by
      split
      · exact .refl keep _
      · have last := Archive.Sheds.clear_last (d := files) (n := keep - 1)
        rw [Nat.sub_add_cancel one] at last
        exact last
    split at done
    next moved stopped =>
      cases done
      have below : keep - 2 + 1 < keep := by omega
      obtain ⟨sheds, -⟩ := shift_sheds below (.inr (by omega)) stopped
      exact ⟨cleared.trans sheds, fun yes => (by cases yes), fun _ => rfl⟩
    next moved shifted =>
      have below : keep - 2 + 1 < keep := by omega
      obtain ⟨sheds, -, last⟩ := shift_sheds below (.inr (by omega)) shifted
      have here := cleared.trans sheds
      split at done
      · cases done
        exact ⟨here, fun yes => (by cases yes), fun _ => rfl⟩
      · have away : Archive.Sheds keep moved (moved.move 0) :=
          .move (by omega) ((last rfl).imp id Eq.symm)
        have blank : Blank (moved.move 0 0) := by
          rw [Archive.move_self]
          rfl
        obtain ⟨opened, fine, failed⟩ := reopen_spec one (.inr blank) done
        exact ⟨(here.trans away).trans opened, fine, fun no => by rw [failed no]⟩
  next few =>
    have single : keep = 1 := by omega
    subst single
    have removes := empties.resolve_left (by omega)
    split at done
    next kept =>
      obtain ⟨opened, fine, failed⟩ := reopen_spec one (removes kept) done
      exact ⟨opened, fine, fun no => by rw [failed no]⟩
    next =>
      have blank : Blank (files.clear 0 0) := by
        rw [Archive.clear, Function.update_self]
        rfl
      obtain ⟨opened, fine, failed⟩ := reopen_spec one (.inr blank) done
      exact ⟨Archive.Sheds.clear_last.trans opened, fine, fun no => by rw [failed no]⟩

/-- Before the bytes are appended. -/
theorem prepare_spec (one : 1 ≤ keep) (meets : Meets cap keep faults bytes log files)
    (current : Current log files)
    (done : prepare cap keep faults bytes log files = (ok, log', files')) :
    Archive.Sheds keep files files' ∧
      (ok = true → log'.file = true ∧ Current log' files' ∧ log'.full cap bytes = false) ∧
      (ok = false → log'.file = false) := by
  unfold prepare at done
  by_cases full : log.full cap bytes = true
  · have empties : 1 < keep ∨ (faults.remove → faults.create ∨ Blank (files 0)) := by
      by_cases many : 1 < keep
      · exact .inl many
      · exact .inr (meets.only full (by omega))
    rw [if_pos full] at done
    split at done
    next rolled =>
      cases done
      obtain ⟨sheds, -, failed⟩ := rotate_spec one empties rolled
      exact ⟨sheds, fun yes => (by cases yes), failed⟩
    next rolled =>
      obtain ⟨sheds, fine, -⟩ := rotate_spec one empties rolled
      obtain ⟨rfl, now⟩ := fine rfl
      cases done
      exact ⟨sheds, fun _ => ⟨rfl, now, rfl⟩, fun no => by cases no⟩
  · rw [if_neg full] at done
    have fits : log.full cap bytes = false := by simpa using full
    dsimp only at done
    split at done
    next opened =>
      cases done
      exact ⟨.refl keep _, fun _ => ⟨opened, current, fits⟩, fun no => by cases no⟩
    next closed =>
      have closed : log.file = false := by simpa using closed
      obtain ⟨sheds, fine, failed⟩ := reopen_spec one (.inr (meets.closed fits closed)) done
      refine ⟨sheds, fun yes => ?_, fun no => by rw [failed no, closed]⟩
      obtain ⟨rfl, now⟩ := fine yes
      exact ⟨rfl, now, rfl⟩

/-- No longer than the cap, or a single write. -/
def Fair (cap : Nat) (file : List (List UInt8)) : Prop :=
  file.flatten.length ≤ cap ∨ ∃ one ∈ file, file.flatten = one

/-- What fits is appended to the newest file. -/
theorem append_spec (one : 1 ≤ keep) (opened : log.file = true) (current : Current log files)
    (fits : log.full cap bytes = false) (done : append bytes log files = (log', files')) :
    Archive.kept files' keep = Archive.kept files keep ++ [bytes] ∧
      (∀ i file, files' i = some file → Fair cap file ∨ files i = some file) ∧
      ((∀ i, keep ≤ i → files i = none) → ∀ i, keep ≤ i → files' i = none) ∧
      Current log' files' := by
  obtain ⟨file, here, size⟩ := current opened
  have now : files.fill 0 ((files 0).getD [] ++ [bytes]) = files' := congrArg Prod.snd done
  have log_eq : { log with size := log.size + bytes.length } = log' := congrArg Prod.fst done
  rw [here, Option.getD_some] at now
  have total : (file ++ [bytes]).flatten.length = log.size + bytes.length := by
    rw [List.flatten_append, List.length_append, ← size]
    simp
  have newest : files' 0 = some (file ++ [bytes]) := by
    rw [← now, Archive.fill, Function.update_self]
  have other : ∀ i, i ≠ 0 → files' i = files i := by
    intro i later
    rw [← now, Archive.fill, Function.update_of_ne later]
  refine ⟨?_, ?_, ?_, ?_⟩
  · rw [← now]
    exact Archive.kept_append one here
  · intro i content there
    by_cases first : i = 0
    · rw [first, newest] at there
      cases there
      left
      simp only [RotatingLog.full, Bool.and_eq_false_iff, decide_eq_false_iff_not] at fits
      rcases fits with empty | small
      · have none : file.flatten = [] := List.eq_nil_of_length_eq_zero (by omega)
        refine .inr ⟨bytes, List.mem_append_right _ List.mem_cons_self, ?_⟩
        rw [List.flatten_append, none]
        simp
      · exact .inl (by omega)
    · rw [other i first] at there
      exact .inr there
  · intro within i beyond
    rw [other i (by omega)]
    exact within i beyond
  · intro _
    rw [← log_eq]
    exact ⟨_, newest, total.symm⟩

/-- Without faults a roll-over that finds the current file opens it anew. -/
theorem rotate_ok (there : 1 < keep → (files 0).isSome) :
    rotate keep {} log files = (true, ⟨true, 0⟩, (rotate keep {} log files).2.2) := by
  unfold rotate
  dsimp only
  by_cases many : 1 < keep
  · rw [if_pos many]
    split
    next moved stopped =>
      have shifted : (shift {} (keep - 2) (files.clear (keep - 1))).1 = true := shift_ok
      rw [if_neg Bool.false_ne_true] at stopped
      rw [stopped] at shifted
      cases shifted
    next moved shifted =>
      have below : keep - 2 + 1 < keep := by omega
      obtain ⟨-, same, -⟩ := shift_sheds below (.inr (by omega)) shifted
      rw [if_neg Bool.false_ne_true, Archive.clear, Function.update_of_ne (by omega)] at same
      have found : (moved 0).isNone = false := by
        rw [same, Option.isNone_eq_false_iff]
        exact there many
      rw [found]
      rfl
  · rw [if_neg many]
    rfl

theorem write_ok (there : log.full cap bytes = true → 1 < keep → (files 0).isSome) :
    (write cap keep {} bytes log files).1 = true := by
  have ready : (prepare cap keep {} bytes log files).1 = true := by
    unfold prepare
    by_cases full : log.full cap bytes = true
    · rw [if_pos full, rotate_ok (there full)]
      rfl
    · rw [if_neg full]
      dsimp only
      split
      · rfl
      · rfl
  unfold write
  split
  next unready =>
    rw [unready] at ready
    exact ready
  next => rfl

/-! ## Every run -/

variable {start : Files} {s s' : Sys}

structure Good (cap keep : Nat) (start : Files) (s : Sys) : Prop where
  suffix : Archive.kept s.files keep <:+ Archive.kept start keep ++ s.written
  fair : ∀ i file, s.files i = some file → Fair cap file ∨ ∃ j, start j = some file
  within : ∀ i, keep ≤ i → s.files i = none
  current : ∀ log, s.log = some log → Current log s.files

/-- Nothing but the oldest is gone. -/
theorem Good.sheds (good : Good cap keep start s) (sheds : Archive.Sheds keep s.files files)
    {log : Option RotatingLog} (current : ∀ log', log = some log' → Current log' files) :
    Good cap keep start { s with files, log } := by
  refine ⟨sheds.suffix.trans good.suffix, fun i file here => ?_, sheds.within good.within, current⟩
  rcases sheds.same i file here with rfl | ⟨j, here⟩
  · exact .inl (.inl (Nat.zero_le _))
  · exact good.fair j file here

theorem Good.act {a : Action} (good : Good cap keep start s) (one : 1 ≤ keep)
    (sound : s.Sound cap keep a) (taken : s.act cap keep a = some s') :
    Good cap keep start s' := by
  cases a with
  | reopen fails =>
    rw [Sys.act] at taken
    split at taken
    · cases taken
      exact { good with current := fun _ none => by cases none }
    · cases taken
      refine good.sheds (.create one) fun log opened => ?_
      cases opened
      exact fun _ => ⟨_, Function.update_self 0 _ s.files, rfl⟩
  | write faults bytes =>
    rw [Sys.act] at taken
    split at taken
    next => cases taken
    next log here =>
      have meets := sound log here
      have current := good.current log here
      unfold write at taken
      split at taken
      next ok log' files' done =>
        split at done
        next unready =>
          cases done
          cases taken
          obtain ⟨sheds, -, failed⟩ := prepare_spec one meets current unready
          refine good.sheds sheds fun log'' same => ?_
          cases same
          exact fun opened => by rw [failed rfl] at opened; cases opened
        next log₁ files₁ ready =>
          obtain ⟨sheds, fine, -⟩ := prepare_spec one meets current ready
          obtain ⟨opened, now, fits⟩ := fine rfl
          have before : Good cap keep start { s with files := files₁, log := none } :=
            good.sheds sheds fun _ none => by cases none
          obtain ⟨kept, fair, within, current'⟩ := append_spec one opened now fits
            (rfl : append bytes log₁ files₁ = (_, _))
          cases done
          cases taken
          refine ⟨?_, fun i file here => ?_, within before.within, fun log'' same => ?_⟩
          · obtain ⟨gone, whole⟩ := before.suffix
            refine ⟨gone, ?_⟩
            dsimp only at whole ⊢
            rw [kept, if_pos rfl, ← List.append_assoc, whole, List.append_assoc]
          · rcases fair i file here with fair | old
            · exact .inl fair
            · exact before.fair i file old
          · cases same
            exact current'

theorem Reaches.good (reached : Reaches cap keep (Sys.Sound cap keep) start s) (one : 1 ≤ keep)
    (within : ∀ i, keep ≤ i → start i = none) : Good cap keep start s := by
  induction reached with
  | start =>
    refine ⟨?_, fun i file here => .inr ⟨i, here⟩, within, fun _ none => by cases none⟩
    dsimp only
    rw [List.append_nil]
  | step before met taken ih => exact ih.act one met taken

/-- What is kept of a log, and what a write does that meets no fault. -/
structure Keeps (cap keep : Nat) (start : Files) (s : Sys) : Prop where
  /-- Only the oldest is lost. -/
  newest : Archive.kept s.files keep <:+ Archive.kept start keep ++ s.written
  /-- A longer file was one before. -/
  short : ∀ i file, s.files i = some file → Fair cap file ∨ ∃ j, start j = some file
  few : ∀ i, keep ≤ i → s.files i = none

/-- In every run whose writes meet the condition the log keeps the newest writes, in
files of the cap, and a write without faults that meets it too returns Ok. -/
theorem keeps_newest (one : 1 ≤ keep) (within : ∀ i, keep ≤ i → start i = none)
    (reached : Reaches cap keep (Sys.Sound cap keep) start s) :
    Keeps cap keep start s ∧ ∀ log bytes, s.log = some log → s.Sound cap keep (.write {} bytes) →
      (write cap keep {} bytes log s.files).1 = true := by
  have good := reached.good one within
  refine ⟨⟨good.suffix, good.fair, good.within⟩, fun log bytes here sound => ?_⟩
  exact write_ok (sound log here).full

/-! ## Two runs -/

def Sys.sound (cap keep : Nat) (s : Sys) : Action → Bool
  | .reopen _ => true
  | .write faults bytes => s.log.all fun log =>
    if log.full cap bytes then
      if 1 < keep then (s.files 0).isSome
      else !faults.remove || faults.create || length (s.files 0) == 0
    else log.file || length (s.files 0) == 0

theorem Sys.sound_met {a : Action} (sound : s.sound cap keep a = true) : s.Sound cap keep a := by
  cases a with
  | reopen fails => trivial
  | write faults bytes =>
    intro log here
    rw [Sys.sound, here, Option.all_some] at sound
    split at sound
    next full =>
      have apart : log.full cap bytes ≠ false := by rw [full]; decide
      split at sound
      next many => exact ⟨fun _ _ => sound, fun _ few => by omega, fun fits => absurd fits apart⟩
      next few =>
        refine ⟨fun _ many => absurd many few, fun _ _ removes => ?_, fun fits => absurd fits apart⟩
        rw [removes, Bool.not_true, Bool.false_or, Bool.or_eq_true, beq_iff_eq] at sound
        exact sound
    next fits =>
      refine ⟨fun full => absurd full fits, fun full => absurd full fits, fun _ closed => ?_⟩
      rw [closed, Bool.false_or, beq_iff_eq] at sound
      exact sound

def Sys.play (cap keep : Nat) (check : Sys → Action → Bool) : Sys → List Action → Option Sys
  | s, [] => some s
  | s, a :: rest =>
    if check s a then (s.act cap keep a).bind fun s' => s'.play cap keep check rest else none

theorem Reaches.play {meets : Sys → Action → Prop} {check : Sys → Action → Bool}
    (met : ∀ s a, check s a = true → meets s a) {actions : List Action}
    (reached : Reaches cap keep meets start s) (played : s.play cap keep check actions = some s') :
    Reaches cap keep meets start s' := by
  induction actions generalizing s with
  | nil =>
    cases played
    exact reached
  | cons a rest ih =>
    rw [Sys.play] at played
    split at played
    next checked =>
      obtain ⟨mid, taken, played⟩ := Option.bind_eq_some_iff.1 played
      exact ih (.step reached (met s a checked) taken) played
    next => cases played

/-- The renaming of the current file fails once. -/
def renamedLater : List Action :=
  [.reopen false, .write {} [1], .write { rename := (· == 0) } [2], .write {} [2], .write {} [3]]

theorem keeps_newest_renamed_later : ∃ s, Keeps 1 2 (fun _ => none) s ∧
    Archive.kept s.files 2 = [[2], [3]] ∧ s.written = [[1], [2], [3]] := by
  have checked : ((Sys.play 1 2 (Sys.sound 1 2) ⟨fun _ => none, none, []⟩ renamedLater).any fun s =>
      decide (Archive.kept s.files 2 = [[2], [3]]) && decide (s.written = [[1], [2],
      [3]])) = true := by
    decide +kernel
  obtain ⟨s, played, here⟩ := (Option.any_eq_true _ _).1 checked
  rw [Bool.and_eq_true, decide_eq_true_eq, decide_eq_true_eq] at here
  have reached : Reaches 1 2 (Sys.Sound 1 2) (fun _ => none) s :=
    Reaches.play (fun s a => Sys.sound_met) .start played
  exact ⟨s, (keeps_newest (by decide) (fun _ _ => rfl) reached).1, here⟩

/-- That every log keeps its newest writes and recovers. -/
def AlwaysRecovers (cap keep : Nat) : Prop :=
  ∀ start s, (∀ i, keep ≤ i → start i = none) → Reaches cap keep (fun _ _ => True) start s →
    Keeps cap keep start s ∧ ∀ log bytes, s.log = some log →
      (write cap keep {} bytes log s.files).1 = true

/-- The file is renamed and cannot be opened; or it cannot be renamed, and a shorter
write opens it again. -/
def movedAway : List Action := [.reopen false, .write {} [1], .write { create := true } [2]]

def openedAgain : List Action :=
  [.reopen false, .write {} [1, 2, 3], .write { rename := fun _ => true } [4, 5], .write {} [6],
   .write {} [7, 8]]

/-- After the one no write succeeds; in the other a file is longer than the cap. -/
theorem stuck_and_long : ¬ AlwaysRecovers 1 2 ∧ ¬ AlwaysRecovers 4 2 := by
  constructor
  · intro always
    have checked : ((Sys.play 1 2 (fun _ _ => true) ⟨fun _ => none, none,
      []⟩ movedAway).any fun s =>
        s.log.any fun log => !(write 1 2 {} [3] log s.files).1) = true := by decide +kernel
    obtain ⟨s, played, here⟩ := (Option.any_eq_true _ _).1 checked
    obtain ⟨log, opened, fails⟩ := (Option.any_eq_true _ _).1 here
    have reached : Reaches 1 2 (fun _ _ => True) (fun _ => none) s :=
      Reaches.play (fun _ _ _ => trivial) .start played
    have succeeds := (always _ s (fun _ _ => rfl) reached).2 log [3] opened
    rw [succeeds] at fails
    cases fails
  · intro always
    have checked : ((Sys.play 4 2 (fun _ _ => true) ⟨fun _ => none, none,
      []⟩ openedAgain).any fun s =>
        decide (s.files 0 = some [[1, 2, 3], [6], [7, 8]])) = true := by decide +kernel
    obtain ⟨s, played, here⟩ := (Option.any_eq_true _ _).1 checked
    have here := of_decide_eq_true here
    have reached : Reaches 4 2 (fun _ _ => True) (fun _ => none) s :=
      Reaches.play (fun _ _ _ => trivial) .start played
    rcases (always _ s (fun _ _ => rfl) reached).1.short 0 _ here with (short | ⟨one, mem,
    whole⟩) | old
    · revert short
      decide
    · simp only [List.mem_cons, List.not_mem_nil, or_false] at mem
      rcases mem with rfl | rfl | rfl
      · revert whole
        decide
      · revert whole
        decide
      · revert whole
        decide
    · obtain ⟨j, none⟩ := old
      cases none

end PpvpnCore.LogFile
