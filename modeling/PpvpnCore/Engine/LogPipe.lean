import Mathlib.Algebra.BigOperators.Group.Multiset.Basic
import Mathlib.Algebra.Order.Group.Multiset
import Mathlib.Algebra.Ring.Nat
import PpvpnCore.Lib.Debts

/-!
# Every log line is queued or counted

`engine/logs.rs`: `Pipe::push` from any number of threads, with each atomic
operation and each `try_send` a step of its own, the reader of the queue and
the runtime's own drop counter as further tasks. Counters are `Nat`; a summary
line is kept as the number in it.

* `Debt`: what a `push` under way still has to do; `Inv`: the accounts with it.
* `lines_accounted`: whatever the schedule.
-/

namespace PpvpnCore.LogPipe

open Lib

/-- A line of the queue. -/
inductive Line where
  | line (text : String)
  /-- `log lines dropped`, with their number. -/
  | summary (dropped : Nat)
  deriving DecidableEq, Repr

structure Pipe where
  /-- What the reader has not taken yet. -/
  queue : List Line := []
  /-- The reader is gone. -/
  closed : Bool := false
  dropped : Nat := 0
  /-- Of `dropped()`, how many the warn lines have told of. -/
  reported : Nat := 0
  /-- The runtime's `dropped_log_lines`. -/
  runtime : Nat := 0
  /-- All that was ever queued. -/
  queued : List Line := []
  /-- The calls of `push`, and those that have not returned. -/
  pushed : Nat := 0
  underWay : Nat := 0
  deriving DecidableEq, Repr

/-- Where a task takes a step. -/
inductive Place where
  | called | loadReported | loadRuntime | loadDropped | compareExchange | trySend | fetchSub
  | fetchAdd | returned | reader | runtime

abbrev Task (α : Type) := Prog Pipe Place (fun _ : Empty => Unit) α

/-! ## The source -/

/-- Lines dropped so far, the runtime's included. -/
def dropped : Task Nat := do
  let runtime ← Prog.step .loadRuntime fun s => (s.runtime, s)
  let own ← Prog.step .loadDropped fun s => (s.dropped, s)
  pure (own + runtime)

/-- Into a queue of `capacity` lines. -/
def trySend (capacity : Nat) (line : Line) : Task Bool :=
  Prog.step .trySend fun s =>
    if s.closed = true ∨ capacity ≤ s.queue.length then (false, s)
    else (true, { s with queue := s.queue ++ [line], queued := s.queued ++ [line] })

/-- `reported.compare_exchange`. -/
def advance (reported unreported : Nat) : Task Bool :=
  Prog.step .compareExchange fun s =>
    if s.reported = reported then (true, { s with reported := reported + unreported })
    else (false, s)

def countDropped : Task Unit :=
  Prog.update .fetchAdd fun s => { s with dropped := s.dropped + 1 }

def takeBack (unreported : Nat) : Task Unit :=
  Prog.update .fetchSub fun s => { s with reported := s.reported - unreported }

def sendLine (capacity : Nat) (line : String) : Task Unit := do
  let fits ← trySend capacity (.line line)
  if fits then pure () else countDropped

/-- `push` once it has a queue. -/
def pushInto (capacity : Nat) (line : String) : Task Unit := do
  let reported ← Prog.step .loadReported fun s => (s.reported, s)
  let all ← dropped
  let unreported := all - reported
  let ahead ← if 0 < unreported then advance reported unreported else pure false
  if ahead then
    let fits ← trySend capacity (.summary unreported)
    if fits then sendLine capacity line
    else
      takeBack unreported
      countDropped
  else sendLine capacity line

/-- Queues `line` without waiting: dropped and counted when it does not fit. -/
def push (tx : Option Nat) (line : String) : Task Unit :=
  match tx with
  | none => pure ()
  | some capacity => do
    Prog.update .called fun s => { s with pushed := s.pushed + 1, underWay := s.underWay + 1 }
    pushInto capacity line
    Prog.update .returned fun s => { s with underWay := s.underWay - 1 }

/-- What goes on around a pipe. -/
inductive Op where
  | push (line : String)
  /-- The reader takes a line, when there is one. -/
  | recv
  | close
  | runtimeDrops (lines : Nat)
  deriving DecidableEq, Repr

def Op.task (capacity : Nat) : Op → Task Unit
  | .push line => LogPipe.push (some capacity) line
  | .recv => Prog.update .reader fun s => { s with queue := s.queue.tail }
  | .close => Prog.update .reader fun s => { s with queue := [], closed := true }
  | .runtimeDrops lines => Prog.update .runtime fun s => { s with runtime := s.runtime + lines }

/-- A new pipe, whose runtime has dropped some lines before. -/
def start (capacity runtime : Nat) (ops : List Op) :
    Pool Pipe Place (fun _ : Empty => Unit) Unit where
  state := { runtime := runtime }
  tasks := ops.map fun op => { prog := op.task capacity }

def effect (_ : Empty) (_ : Unit) (s : Pipe) : Pipe := s

/-! ## The accounts -/

def Line.told : Line → Nat
  | .line _ => 0
  | .summary dropped => dropped

def Line.isLine : Line → Bool
  | .line _ => true
  | .summary _ => false

/-- The lines pushed among those queued. -/
def linesIn (queued : List Line) : Nat := (queued.filter Line.isLine).length

/-- The drops that the summary lines among those queued tell of. -/
def toldBy (queued : List Line) : Nat := (queued.map Line.told).sum

theorem linesIn_append {queued : List Line} {l : Line} :
    linesIn (queued ++ [l]) = linesIn queued + linesIn [l] := by
  rw [linesIn, List.filter_append, List.length_append]
  rfl

theorem toldBy_append {queued : List Line} {l : Line} :
    toldBy (queued ++ [l]) = toldBy queued + l.told := by
  rw [toldBy, List.map_append, List.sum_append]
  rfl

/-- What a `push` under way still owes. -/
inductive Debt where
  /-- Its line. It has read these counts of lines dropped, and taken `ahead` as
  reported whose summary is not queued. -/
  | line (runtime dropped ahead : Nat)
  /-- Its return. -/
  | settled
  deriving DecidableEq

def Debt.lines : Debt → Nat
  | line _ _ _ => 1
  | settled => 0

def Debt.ahead : Debt → Nat
  | line _ _ ahead => ahead
  | settled => 0

/-- What `f` counts of the debts. -/
def owed (f : Debt → Nat) (total : Multiset Debt) : Nat := (total.map f).sum

theorem owed_add {f : Debt → Nat} {own rest : Multiset Debt} :
    owed f (own + rest) = owed f own + owed f rest := by
  rw [owed, Multiset.map_add, Multiset.sum_add]
  rfl

structure Inv (s : Pipe) (total : Multiset Debt) : Prop where
  calls : s.underWay = total.card
  lines : s.pushed = linesIn s.queued + s.dropped + owed Debt.lines total
  ahead : s.reported = toldBy s.queued + owed Debt.ahead total
  bound : s.reported ≤ s.dropped + s.runtime
  /-- What was read has only grown since. -/
  read : ∀ runtime dropped ahead, Debt.line runtime dropped ahead ∈ total →
    runtime ≤ s.runtime ∧ dropped ≤ s.dropped

def books : Books Pipe (fun _ : Empty => Unit) (Multiset Debt) where
  effect := effect
  answers _ _ _ := True
  inv _ s total := Inv s total

/-! ## One step -/

section

variable {s t : Pipe} {own own' rest : Multiset Debt} {r d n : Nat} {text : String}

/-- A step that changes the accounts and its task's debts alike. -/
theorem Inv.step (inv : Inv s (own + rest))
    (calls : t.underWay + own.card = s.underWay + own'.card)
    (lines : t.pushed + (linesIn s.queued + s.dropped) + owed Debt.lines own =
      s.pushed + (linesIn t.queued + t.dropped) + owed Debt.lines own')
    (ahead : t.reported + toldBy s.queued + owed Debt.ahead own =
      s.reported + toldBy t.queued + owed Debt.ahead own')
    (bound : t.reported ≤ t.dropped + t.runtime)
    (grows : s.runtime ≤ t.runtime ∧ s.dropped ≤ t.dropped)
    (read : ∀ r d n, Debt.line r d n ∈ own' → r ≤ t.runtime ∧ d ≤ t.dropped) :
    Inv t (own' + rest) where
  calls := by
    have before := inv.calls
    rw [Multiset.card_add] at before ⊢
    omega
  lines := by
    have before := inv.lines
    rw [owed_add] at before ⊢
    omega
  ahead := by
    have before := inv.ahead
    rw [owed_add] at before ⊢
    omega
  bound := bound
  read := by
    intro r d n mem
    rcases Multiset.mem_add.mp mem with mine | other
    · exact read r d n mine
    · have before := inv.read r d n (Multiset.mem_add.mpr (.inr other))
      exact ⟨before.1.trans grows.1, before.2.trans grows.2⟩

theorem read_line (mine : r ≤ s.runtime ∧ d ≤ s.dropped) :
    ∀ r' d' n', Debt.line r' d' n' ∈ ({.line r d n} : Multiset Debt) →
      r' ≤ s.runtime ∧ d' ≤ s.dropped := by
  intro r' d' n' mem
  cases Multiset.mem_singleton.mp mem
  exact mine

theorem read_settled {P : Nat → Nat → Prop} :
    ∀ r' d' n', Debt.line r' d' n' ∈ ({.settled} : Multiset Debt) → P r' d' := by
  intro r' d' n' mem
  cases Multiset.mem_singleton.mp mem

theorem Inv.mine (inv : Inv s ({.line r d n} + rest)) : r ≤ s.runtime ∧ d ≤ s.dropped :=
  inv.read r d n (Multiset.mem_add.mpr (.inl (Multiset.mem_singleton_self _)))

theorem Inv.called (inv : Inv s (0 + rest)) :
    Inv { s with pushed := s.pushed + 1, underWay := s.underWay + 1 } ({.line 0 0 0} + rest) := by
  refine inv.step rfl ?_ rfl inv.bound ⟨le_rfl, le_rfl⟩ ?_
  · change s.pushed + 1 + (linesIn s.queued + s.dropped) + 0 = s.pushed + (linesIn s.queued + s.dropped) + 1
    omega
  · exact read_line ⟨Nat.zero_le _, Nat.zero_le _⟩

/-- Another count was read. -/
theorem Inv.reread {r' d' : Nat} (inv : Inv s ({.line r d n} + rest))
    (read : r' ≤ s.runtime ∧ d' ≤ s.dropped) : Inv s ({.line r' d' n} + rest) :=
  inv.step rfl rfl rfl inv.bound ⟨le_rfl, le_rfl⟩ (read_line read)

/-- The drops read are taken as reported. -/
theorem Inv.advance (inv : Inv s ({.line r d 0} + rest)) (ahead : 0 < d + r - s.reported) :
    Inv { s with reported := s.reported + (d + r - s.reported) }
      ({.line r d (d + r - s.reported)} + rest) := by
  have mine := inv.mine
  refine inv.step rfl rfl ?_ ?_ ⟨le_rfl, le_rfl⟩ (read_line mine)
  · change s.reported + (d + r - s.reported) + toldBy s.queued + 0 =
      s.reported + toldBy s.queued + (d + r - s.reported)
    omega
  · change s.reported + (d + r - s.reported) ≤ s.dropped + s.runtime
    omega

/-- The summary is queued. -/
theorem Inv.summarise (inv : Inv s ({.line r d n} + rest)) :
    Inv { s with queue := s.queue ++ [.summary n], queued := s.queued ++ [.summary n] }
      ({.line r d 0} + rest) := by
  refine inv.step rfl ?_ ?_ inv.bound ⟨le_rfl, le_rfl⟩ (read_line inv.mine)
  · rw [linesIn_append]
    rfl
  · rw [toldBy_append]
    change s.reported + toldBy s.queued + n = s.reported + (toldBy s.queued + n) + 0
    omega

/-- The summary did not fit: its drops are not reported after all. -/
theorem Inv.takeBack (inv : Inv s ({.line r d n} + rest)) :
    Inv { s with reported := s.reported - n } ({.line r d 0} + rest) := by
  have ahead : s.reported = toldBy s.queued + (n + owed Debt.ahead rest) := by
    rw [inv.ahead, owed_add]
    rfl
  have bound := inv.bound
  refine inv.step rfl rfl ?_ ?_ ⟨le_rfl, le_rfl⟩ (read_line inv.mine)
  · change s.reported - n + toldBy s.queued + n = s.reported + toldBy s.queued + 0
    omega
  · change s.reported - n ≤ s.dropped + s.runtime
    omega

theorem Inv.queueLine (inv : Inv s ({.line r d 0} + rest)) :
    Inv { s with queue := s.queue ++ [.line text], queued := s.queued ++ [.line text] }
      ({.settled} + rest) := by
  refine inv.step rfl ?_ ?_ inv.bound ⟨le_rfl, le_rfl⟩ read_settled
  · rw [linesIn_append]
    change s.pushed + (linesIn s.queued + s.dropped) + 1 =
      s.pushed + (linesIn s.queued + 1 + s.dropped) + 0
    omega
  · rw [toldBy_append]
    rfl

theorem Inv.countDropped (inv : Inv s ({.line r d 0} + rest)) :
    Inv { s with dropped := s.dropped + 1 } ({.settled} + rest) := by
  have bound := inv.bound
  refine inv.step rfl ?_ rfl ?_ ⟨le_rfl, Nat.le_succ _⟩ read_settled
  · change s.pushed + (linesIn s.queued + s.dropped) + 1 = s.pushed + (linesIn s.queued + (s.dropped + 1)) + 0
    omega
  · change s.reported ≤ s.dropped + 1 + s.runtime
    omega

theorem Inv.returned (inv : Inv s ({.settled} + rest)) :
    Inv { s with underWay := s.underWay - 1 } (0 + rest) := by
  have calls : s.underWay = 1 + rest.card := by
    rw [inv.calls, Multiset.card_add]
    rfl
  refine inv.step ?_ rfl rfl inv.bound ⟨le_rfl, le_rfl⟩ fun r d n mem => ?_
  · change s.underWay - 1 + 1 = s.underWay + 0
    omega
  · exact absurd mem (Multiset.notMem_zero _)

end

/-! ## The tasks -/

section

variable {α β : Type} {Q : α → Multiset Debt → Prop} {own : Multiset Debt}

/-- A section that answers something. -/
theorem pays_step {place : Place} {f : Pipe → β × Pipe} {k : β → Task α}
    (keeps : ∀ s rest, Inv s (own + rest) →
      ∃ own', Inv (f s).2 (own' + rest) ∧ Pays books (k (f s).1) own' Q) :
    Pays books ((Prog.step place f).bind k) own Q :=
  fun _ s rest inv => keeps s rest inv

theorem pays_update {place : Place} {f : Pipe → Pipe} {k : Unit → Task α}
    (keeps : ∀ s rest, Inv s (own + rest) → ∃ own', Inv (f s) (own' + rest) ∧ Pays books (k ()) own' Q) :
    Pays books ((Prog.update place f).bind k) own Q :=
  fun _ s rest inv => keeps s rest inv

variable {capacity r d n : Nat} {line : String} {k : Unit → Task α}

theorem pays_trySend {entry : Line} {own' : Multiset Debt} {k : Bool → Task α}
    (queues : ∀ s rest, Inv s (own + rest) →
      Inv { s with queue := s.queue ++ [entry], queued := s.queued ++ [entry] } (own' + rest))
    (fits : Pays books (k true) own' Q) (full : Pays books (k false) own Q) :
    Pays books ((trySend capacity entry).bind k) own Q := by
  refine pays_step fun s rest inv => ?_
  split
  next => exact ⟨own, inv, full⟩
  next => exact ⟨own', queues s rest inv, fits⟩

theorem pays_countDropped (later : Pays books (k ()) {.settled} Q) :
    Pays books (countDropped.bind k) {.line r d 0} Q :=
  pays_update fun _ _ inv => ⟨_, inv.countDropped, later⟩

theorem pays_sendLine (later : Pays books (k ()) {.settled} Q) :
    Pays books ((sendLine capacity line).bind k) {.line r d 0} Q := by
  rw [sendLine, Prog.bind_eq, Prog.bind_assoc]
  refine pays_trySend (fun s rest inv => inv.queueLine) later ?_
  exact pays_countDropped later

theorem pays_pushInto (later : Pays books (k ()) {.settled} Q) :
    Pays books ((pushInto capacity line).bind k) {.line 0 0 0} Q := by
  rw [pushInto, Prog.bind_eq, Prog.bind_assoc]
  refine pays_step fun s rest inv => ⟨_, inv, ?_⟩
  generalize s.reported = reported
  rw [Prog.bind_eq, Prog.bind_assoc, dropped, Prog.bind_eq, Prog.bind_assoc]
  refine pays_step fun s rest inv => ⟨{.line s.runtime 0 0}, inv.reread ⟨le_rfl, Nat.zero_le _⟩, ?_⟩
  generalize s.runtime = r
  rw [Prog.bind_eq, Prog.bind_assoc]
  refine pays_step fun s rest inv =>
    ⟨{.line r s.dropped 0}, inv.reread ⟨inv.mine.1, le_rfl⟩, ?_⟩
  generalize s.dropped = d
  dsimp only [Prog.pure_eq, Prog.ret_bind]
  split
  next ahead =>
    rw [Prog.bind_eq, Prog.bind_assoc]
    refine pays_step fun s rest inv => ?_
    split
    next same =>
      subst same
      refine ⟨_, inv.advance ahead, ?_⟩
      rw [if_pos rfl, Prog.bind_eq, Prog.bind_assoc]
      refine pays_trySend (fun s rest inv => inv.summarise) (pays_sendLine later) ?_
      rw [if_neg Bool.false_ne_true, Prog.bind_eq, Prog.bind_assoc]
      refine pays_update fun s rest inv => ⟨_, inv.takeBack, ?_⟩
      exact pays_countDropped later
    next => exact ⟨_, inv, pays_sendLine later⟩
  next => exact pays_sendLine later

theorem pays_push : Owes books (push (some capacity) line) 0 := by
  refine pays_update fun s rest inv => ⟨_, inv.called, ?_⟩
  exact pays_pushInto fun _ s rest inv => ⟨0, inv.returned, rfl⟩

theorem pays_task (op : Op) : Owes books (op.task capacity) 0 := by
  cases op with
  | push line => exact pays_push
  | recv => exact fun _ s rest inv => ⟨0, ⟨inv.calls, inv.lines, inv.ahead, inv.bound, inv.read⟩, rfl⟩
  | close => exact fun _ s rest inv => ⟨0, ⟨inv.calls, inv.lines, inv.ahead, inv.bound, inv.read⟩, rfl⟩
  | runtimeDrops lines =>
    intro _ s rest inv
    refine ⟨0, ?_, rfl⟩
    refine inv.step rfl rfl rfl ?_ ⟨Nat.le_add_right _ _, le_rfl⟩ fun r d n mem => ?_
    · exact inv.bound.trans (Nat.add_le_add_left (Nat.le_add_right _ _) _)
    · exact absurd mem (Multiset.notMem_zero _)

end

/-! ## Every schedule -/

variable {capacity runtime : Nat} {ops : List Op} {p : Pool Pipe Place (fun _ : Empty => Unit) Unit}

theorem start_balanced : books.Balanced (fun _ d => d = 0) (start capacity runtime ops) := by
  refine Books.Balanced.of_start ⟨rfl, rfl, rfl, Nat.zero_le _, fun r d n mem => ?_⟩ fun task mem => ?_
  · exact absurd mem (Multiset.notMem_zero _)
  · obtain ⟨op, -, rfl⟩ := List.mem_map.mp mem
    exact pays_task op

/-- A pushed line is queued or counted, once; the summaries queued tell of what
is reported; and no more is reported than was dropped. -/
theorem lines_accounted
    (reached : Reaches effect (fun _ _ => True) (start capacity runtime ops) p) :
    p.state.reported ≤ p.state.dropped + p.state.runtime ∧
    (p.state.underWay = 0 →
      p.state.pushed = linesIn p.state.queued + p.state.dropped ∧
      toldBy p.state.queued = p.state.reported) := by
  have balanced : books.Balanced (fun _ d => d = 0) p :=
    Reaches.balanced start_balanced (fun _ _ => trivial) reached
  obtain ⟨total, -, inv⟩ := balanced
  refine ⟨inv.bound, fun idle => ?_⟩
  have none_ : total = 0 := Multiset.card_eq_zero.mp (inv.calls.symm.trans idle)
  subst none_
  exact ⟨inv.lines, inv.ahead.symm⟩

/-- A queue of one line: the second is dropped, and told of before the third. -/
def sampleOps : List Op := [.push "a", .push "b", .recv, .push "c"]

def sampleMoves : List (Move fun _ : Empty => Unit) :=
  (List.replicate 6 (.go 0) ++ List.replicate 7 (.go 1)) ++ .go 2 :: List.replicate 10 (.go 3)

theorem lines_accounted_sample :
    let p := (start 1 0 sampleOps).play effect (fun _ _ => True) sampleMoves
    p.state.queued = [.line "a", .summary 1] ∧ p.state.pushed = 3 ∧
      p.state.pushed = linesIn p.state.queued + p.state.dropped ∧
      toldBy p.state.queued = p.state.reported := by
  have idle := (lines_accounted (Reaches.of_play (start 1 0 sampleOps) sampleMoves)).2
    (by decide +kernel)
  exact ⟨by decide +kernel, by decide +kernel, idle⟩

end PpvpnCore.LogPipe
