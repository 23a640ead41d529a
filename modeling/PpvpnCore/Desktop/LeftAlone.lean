import PpvpnCore.Desktop.Compat
import PpvpnCore.Lib.Beside

/-!
Compatible mode leaves another program's proxy alone.

* `Past`: what happened so far, beside the state of the mode.
* `Party`: a call of the mode, or another program that changes the settings.
* `Good`: what holds at every step; `left_alone`: of every run in which the
  core does not come back on another port while the proxy is another program's.
* `rewritten`: a tick that finds the endpoint moved does not look whose the
  settings are.
-/

namespace PpvpnCore.Desktop

open Lib

/-- The settings do not point at an endpoint. -/
def Writer.elsewhere {V : Type} (W : Writer V) (v : V) (endpoint : Option Endpoint) : Bool :=
  endpoint.all fun endpoint => !W.owns v endpoint

/-- The endpoint of the backup. -/
def State.notes {V : Type} (s : State V) : Option Endpoint :=
  match s.file with
  | some (.backup backup) => backup.endpoint
  | _ => none

namespace LeftAlone

/-! ## What happened so far -/

/-- Whether the settings have been read and the step they decide is to come. -/
inductive Look where
  | none | told | decided
  deriving DecidableEq, Repr

structure Past where
  /-- While on, another program pointed the OS proxy elsewhere; until the user
  connects again. -/
  taken : Bool := false
  /-- The settings were written though they were taken. -/
  wrote : Bool := false
  /-- A tick saw that they are taken; until the mode is used again. -/
  seen : Bool := false
  look : Look := .none
  /-- Where the standard core was last said to listen. -/
  core : Option Endpoint := none
  deriving DecidableEq, Repr

section

variable {V α : Type}

/-- A section of the mode. -/
def Past.note (tick : Bool) (_ t : State V) (h : Past) : Past :=
  { h with
    look := if h.look = .told then .decided else .none
    seen := (h.seen || (tick && h.look = .told && h.taken)) &&
      (t.data.state.phase = .on || t.data.state.phase = .error)
    taken := h.taken && t.data.state.phase ≠ .connecting }

/-- The settings have been changed by another program. -/
def Past.changed (W : Writer V) (_ t : State V) (h : Past) : Past :=
  { h with
    taken := h.taken || (t.data.state.phase = .on && W.elsewhere t.os t.data.endpoint) }

def Past.hear : (c : Call V) → Answer c → State V → Past → Past
  | .write _, _, _, h => { h with wrote := h.wrote || h.taken }
  | .currentProxies, r, _, h => match (r : Except String Unit) with
    | .ok () => { h with look := .told }
    | .error _ => { h with look := .none }
  | .getStatus, r, _, h =>
    let status : Except CoreCallError (Option SystemProxyStatus) := r
    { h with look := .none, core := (status.toOption.join.bind (·.endpoint)).or h.core }
  | .setSystemProxy true, r, _, h =>
    let status : Except CoreCallError SystemProxyStatus := r
    { h with look := .none, core := (status.toOption.bind (·.endpoint)).or h.core }
  | _, _, _, h => { h with look := .none }

/-! ## Who takes part -/

inductive Place (V : Type) where
  | app
  | program (v : V)

abbrev Watched (V α : Type) := Prog (State V × Past) (Place V) (Answer (V := V)) α

def watch (tick : Bool) (p : Task V α) : Watched V α :=
  p.noted (fun _ => .app) fun _ => Past.note tick

inductive Party (V : Type) where
  | app (op : Op)
  /-- Another program sets the settings. -/
  | program (v : V)

def Party.task (W : Writer V) : Party V → Watched V Unit
  | .app op => watch (op = .reconcile) (op.task W)
  | .program v => (Prog.update () fun s : State V => { s with os := v }).noted
      (fun _ => .program v) fun _ => Past.changed W

abbrev Scene (V : Type) := Pool (State V × Past) (Place V) (Answer (V := V)) Unit

def begin (W : Writer V) (s : State V) (h : Past) (parties : List (Party V)) : Scene V :=
  { state := (s.relaunched, h), tasks := parties.map fun party => { prog := party.task W } }

/-! ## Runs -/

/-- While on: the core was said to listen elsewhere than memory has it. -/
def Moving (s : State V × Past) : Prop :=
  s.1.data.state.phase = .on ∧ s.1.data.endpoint.isSome = true ∧ s.2.core.isSome = true ∧
    s.1.data.endpoint ≠ s.2.core

/-- When another program may change the settings: a check of them and the write
it decides are one step. In a `careful` run none does while a tick rewrites
them, and taken settings are not pointed back at the endpoint of the mode. -/
def Changes (W : Writer V) (careful : Prop) (v : V) (held : Bool) (s : State V × Past) : Prop :=
  (held = true → s.2.look = .none) ∧
  (careful → ¬Moving s ∧ (s.2.taken = true →
    W.elsewhere v s.1.data.endpoint = true ∧ W.elsewhere v s.1.notes = true))

/-- A tick is not told of another endpoint while the settings are taken. -/
def Unmoved (told : Option Endpoint) (s : State V × Past) : Prop :=
  s.1.data.state.phase = .on → s.2.taken = true → told.isSome = true →
    s.1.data.endpoint.isSome = true → s.1.data.endpoint = told

/-- The settings can be read. In a `careful` run the core stays where it is
while they are taken, and a tick can delete the backup. -/
def Heard (careful : Prop) : (c : Call V) → Answer c → State V × Past → Prop
  | .currentProxies, r, _ => (r : Except String Unit) = .ok ()
  | .getStatus, r, s =>
    let status : Except CoreCallError (Option SystemProxyStatus) := r
    careful → Unmoved (status.toOption.join.bind (·.endpoint)) s
  | .setSystemProxy true, r, s =>
    let status : Except CoreCallError SystemProxyStatus := r
    careful → Unmoved (status.toOption.bind (·.endpoint)) s
  | .removeFile, r, s => careful → s.1.data.state.phase = .on → (r : Except String Unit) = .ok ()
  | _, _, _ => True

def Fair (W : Writer V) (careful : Prop) (p : Scene V) : Move (Answer (V := V)) → Prop
  | .go i => match p.task i with
    | some (.sec (.program v) _ _) => Changes W careful v p.owner.isSome p.state
    | _ => True
  | .answer i oracle => match p.task i with
    | some (.call c _) => Heard careful c (oracle c) p.state
    | _ => True
  | .giveUp _ => True

/-- Of the last launch the settings, the files and whose the settings are is
left. -/
def Past.relaunched (h : Past) : Past := { taken := h.taken, wrote := h.wrote }

/-- One launch after another, from any settings and files. -/
inductive Plays (W : Writer V) (careful : Prop) : Scene V → Prop
  | first (s : State V) (parties : List (Party V)) : Plays W careful (begin W s {} parties)
  | step {p q : Scene V} {m : Move (Answer (V := V))} (before : Plays W careful p)
      (fair : Fair W careful p m) (taken : p.step (beside effect Past.hear) m = some q) :
      Plays W careful q
  | relaunch {p : Scene V} (before : Plays W careful p) (parties : List (Party V)) :
      Plays W careful (begin W p.state.1 p.state.2.relaunched parties)

end

/-! ## What is kept -/

section

variable {V α : Type} {W : Writer V} {s t u : State V × Past}

/-- Neither the endpoint in memory nor that of the backup is where the settings
point. -/
structure Away (W : Writer V) (s : State V) : Prop where
  memory : W.elsewhere s.os s.data.endpoint = true
  backup : ∀ backup, s.file = some (.backup backup) →
    backup.endpoint.isSome = true ∧ W.elsewhere s.os backup.endpoint = true

structure Good (W : Writer V) (s : State V × Past) : Prop where
  kept : s.2.wrote = false
  away : s.2.taken = true → Away W s.1
  moving : Moving s → s.2.taken = false
  connecting : s.1.data.state.phase = .connecting → s.2.taken = false
  seen : s.2.seen = true → s.1.data.state.phase = .on ∨ s.1.data.state.phase = .error
  noted : s.1.data.state.phase = .on → ¬Moving s → ∀ backup, s.1.file = some (.backup backup) →
    backup.endpoint.isSome = true ∧ backup.endpoint = s.1.data.endpoint

def takenOver : ClientErrorInfo := ⟨.networkPathContended, "SYSTEM_PROXY_TAKEN_OVER"⟩

/-- What a tick that saw the change leaves behind. -/
structure Ended (s : State V) : Prop where
  phase : s.data.state.phase = .error
  reason : s.data.state.reason = some takenOver
  file : s.file = none

/-- While no operation is in progress. -/
structure Free (s : State V × Past) : Prop where
  still : ¬Moving s
  on : s.1.data.state.phase = .on → s.1.data.endpoint.isSome = true
  seen : s.2.seen = true → Ended s.1
  look : s.2.look ≠ .told

/-- What other programs do while an operation is in progress. -/
structure Others (s t : State V × Past) : Prop where
  data : t.1.data = s.1.data
  file : t.1.file = s.1.file
  tmp : t.1.tmp = s.1.tmp
  wrote : t.2.wrote = s.2.wrote
  seen : t.2.seen = s.2.seen
  look : t.2.look = s.2.look
  core : t.2.core = s.2.core
  taken : s.2.taken = true → t.2.taken = true
  off : s.1.data.state.phase ≠ .on → t.2.taken = s.2.taken
  blocked : s.2.look ≠ .none ∨ Moving s → t = s

theorem Moving.congr (data : t.1.data = s.1.data) (core : t.2.core = s.2.core) :
    Moving t ↔ Moving s := by
  simp only [Moving, data, core]

theorem Others.refl (s : State V × Past) : Others s s :=
  ⟨rfl, rfl, rfl, rfl, rfl, rfl, rfl, id, fun _ => rfl, fun _ => rfl⟩

theorem Others.trans (first : Others s t) (rest : Others t u) : Others s u where
  data := rest.data.trans first.data
  file := rest.file.trans first.file
  tmp := rest.tmp.trans first.tmp
  wrote := rest.wrote.trans first.wrote
  seen := rest.seen.trans first.seen
  look := rest.look.trans first.look
  core := rest.core.trans first.core
  taken here := rest.taken (first.taken here)
  off here := (rest.off (by rw [first.data]; exact here)).trans (first.off here)
  blocked here := by
    have same := first.blocked here
    subst same
    exact rest.blocked here

/-- One operation at a time; other programs change the settings meanwhile. -/
def leaves (W : Writer V) : Discipline (State V × Past) (Place V) (Answer (V := V)) where
  effect := beside effect Past.hear
  answers := Heard True
  meets place held s := match place with
    | .program v => Changes W True v held s
    | .app => True
  moves := Others
  refl := Others.refl
  trans := Others.trans
  inv := Free
  good := Good W
  allowed _ _ := True

/-! ## Other programs -/

theorem Changes.away {v : V} {held : Bool} (changes : Changes W True v held s) (good : Good W s)
    (taken : (s.2.changed W s.1 { s.1 with os := v }).taken = true) :
    Away W { s.1 with os := v } := by
  obtain ⟨still, elsewhere⟩ := changes.2 trivial
  cases before : s.2.taken with
  | true =>
    obtain ⟨memory, backup⟩ := elsewhere before
    refine ⟨memory, fun b file => ⟨((good.away before).backup b file).1, ?_⟩⟩
    rw [State.notes, show s.1.file = _ from file] at backup
    exact backup
  | false =>
    simp only [Past.changed, before, Bool.false_or, Bool.and_eq_true, decide_eq_true_eq] at taken
    obtain ⟨on, memory⟩ := taken
    refine ⟨memory, fun b file => ?_⟩
    obtain ⟨some, same⟩ := good.noted on still b file
    exact ⟨some, by rw [same]; exact memory⟩

theorem Changes.good {v : V} {held : Bool} (changes : Changes W True v held s) (good : Good W s) :
    Good W ({ s.1 with os := v }, s.2.changed W s.1 { s.1 with os := v }) where
  kept := good.kept
  away := changes.away good
  moving moving := absurd moving (changes.2 trivial).1
  connecting here := by
    have phase : s.1.data.state.phase = .connecting := here
    simp [Past.changed, phase, good.connecting phase]
  seen := good.seen
  noted on _ := good.noted on (changes.2 trivial).1

theorem program_obeys (v : V) : Obeys (leaves W) (Party.task W (.program v)) none := by
  refine Obeys.sec (fun held s here changes => ?_) fun _ => trivial
  have good := Changes.good (W := W) changes here.1
  refine ⟨good, fun held => ?_, fun free => ?_⟩
  · refine ⟨rfl, rfl, rfl, rfl, rfl, rfl, rfl, fun taken => ?_, fun off => ?_, fun blocked => ?_⟩
    · simp [Past.changed, taken]
    · simp [Past.changed, off]
    · rcases blocked with looking | moving
      · exact absurd (changes.1 held) looking
      · exact absurd moving (changes.2 trivial).1
  · have inv := here.2 free
    exact ⟨inv.still, inv.on, fun seen => ⟨(inv.seen seen).1, (inv.seen seen).2, (inv.seen seen).3⟩,
      inv.look⟩

/-! ## One step of the mode -/

/-- Nothing but what other programs do, and how the settings are looked at. -/
structure Near (s t : State V × Past) : Prop where
  data : t.1.data = s.1.data
  file : t.1.file = s.1.file
  tmp : t.1.tmp = s.1.tmp
  seen : t.2.seen = s.2.seen
  core : t.2.core = s.2.core
  off : s.1.data.state.phase ≠ .on → t.2.taken = s.2.taken
  moving : Moving s → t.2.taken = s.2.taken
  look : s.2.look ≠ .told → t.2.look ≠ .told

theorem Near.refl (s : State V × Past) : Near s s :=
  ⟨rfl, rfl, rfl, rfl, rfl, fun _ => rfl, fun _ => rfl, id⟩

theorem Near.trans (first : Near s t) (rest : Near t u) : Near s u where
  data := rest.data.trans first.data
  file := rest.file.trans first.file
  tmp := rest.tmp.trans first.tmp
  seen := rest.seen.trans first.seen
  core := rest.core.trans first.core
  off here := (rest.off (by rw [first.data]; exact here)).trans (first.off here)
  moving here := (rest.moving ((Moving.congr first.data first.core).mpr here)).trans
    (first.moving here)
  look here := rest.look (first.look here)

theorem Others.near (others : Others s t) : Near s t where
  data := others.data
  file := others.file
  tmp := others.tmp
  seen := others.seen
  core := others.core
  off := others.off
  moving here := by rw [others.blocked (.inr here)]
  look here := by rw [others.look]; exact here

/-- Only how the settings are looked at differs. -/
theorem Good.looks (good : Good W s) (look : Look) : Good W (s.1, { s.2 with look }) where
  kept := good.kept
  away := good.away
  moving := good.moving
  connecting := good.connecting
  seen := good.seen
  noted := good.noted

theorem Near.looks (near : Near s t) {look : Look} (calm : look ≠ .told) :
    Near s (t.1, { t.2 with look }) :=
  near.trans ⟨rfl, rfl, rfl, rfl, rfl, fun _ => rfl, fun _ => rfl, fun _ => calm⟩

/-- A section that only reads. -/
theorem Good.note_eq (good : Good W s) (tick : Bool) :
    s.2.note tick s.1 s.1 = { s.2 with
      look := if s.2.look = .told then .decided else .none
      seen := s.2.seen || (tick && s.2.look = .told && s.2.taken &&
        (s.1.data.state.phase = .on || s.1.data.state.phase = .error)) } := by
  have taken : (s.2.taken && decide (s.1.data.state.phase ≠ .connecting)) = s.2.taken := by
    cases here : s.2.taken with
    | false => rfl
    | true => simpa using fun phase => by rw [good.connecting phase] at here; cases here
  simp only [Past.note, taken]
  cases here : s.2.seen with
  | false => simp only [Bool.false_or]
  | true => simpa using good.seen here

theorem Good.note_read (good : Good W s) (calm : s.2.look ≠ .told) (tick : Bool) :
    s.2.note tick s.1 s.1 = { s.2 with look := .none } := by
  simp [good.note_eq, calm]

theorem Good.note_told (good : Good W s) (told : s.2.look = .told) :
    s.2.note false s.1 s.1 = { s.2 with look := .decided } := by
  simp [good.note_eq, told]

variable {tick : Bool} {Q : α → State V × Past → Prop}

theorem wp_done {a : α} (post : ∀ t, Near s t → Good W t → Q a t) :
    wp (leaves W).env (watch tick (pure a)) Q s :=
  fun t others good => post t others.near good

theorem wp_look {k : State V → Task V α} (calm : s.2.look ≠ .told)
    (rest : ∀ t, Near s t → Good W t → wp (leaves W).env (watch tick (k t.1)) Q t) :
    wp (leaves W).env (watch tick (read >>= k)) Q s := by
  intro t others good
  have note := good.note_read (others.near.look calm) tick
  have rest' := rest _ (others.near.looks (by simp : Look.none ≠ .told)) (good.looks .none)
  rw [← note] at rest'
  exact ⟨by have g := good.looks .none; rw [← note] at g; exact g, rest'⟩

theorem wp_section {f : State V → State V} {k : Unit → Task V α}
    (rest : ∀ t, Near s t → Good W t → Good W (f t.1, t.2.note tick t.1 (f t.1)) ∧
      wp (leaves W).env (watch tick (k ())) Q (f t.1, t.2.note tick t.1 (f t.1))) :
    wp (leaves W).env (watch tick (Prog.update () f >>= k)) Q s :=
  fun t others good => rest t others.near good

/-- A call that changes nothing but where the settings were looked at. -/
theorem wp_calm {c : Call V} {k : Answer c → Task V α} (same : ∀ r s, effect c r s = s)
    (hears : ∀ r s h, Past.hear c r s h = { h with look := .none })
    (rest : ∀ r t, Near s t → Good W t → wp (leaves W).env (watch tick (k r)) Q t) :
    wp (leaves W).env (watch tick (ask c >>= k)) Q s := by
  intro t others good
  refine ⟨trivial, fun r _ => ?_⟩
  have eq : (leaves W).env.effect c r t = (t.1, { t.2 with look := .none }) := by
    show (effect c r t.1, Past.hear c r t.1 t.2) = _
    rw [same, hears]
  rw [eq]
  exact ⟨good.looks .none, rest r _ (others.near.looks (by simp)) (good.looks .none)⟩

theorem wp_act {c : Call V} {k : Answer c → Task V α}
    (rest : ∀ t, Near s t → Good W t → ∀ r, Heard True c r t →
      Good W (beside effect Past.hear c r t) ∧
        wp (leaves W).env (watch tick (k r)) Q (beside effect Past.hear c r t)) :
    wp (leaves W).env (watch tick (ask c >>= k)) Q s :=
  fun t others good => ⟨trivial, rest t others.near good⟩

/-! ## The OS settings and their backup -/

/-- The settings are not taken, nor will they be. -/
structure Ours (s : State V × Past) : Prop where
  taken : s.2.taken = false
  lasts : s.1.data.state.phase ≠ .on ∨ Moving s ∨ s.2.look ≠ .none

theorem Ours.others (ours : Ours s) (others : Others s t) : t.2.taken = false := by
  obtain off | moving | looking := ours.lasts
  · exact (others.off off).trans ours.taken
  · rw [others.blocked (.inr moving)]; exact ours.taken
  · rw [others.blocked (.inl looking)]; exact ours.taken

/-- The settings changed, and are not taken. -/
theorem Good.written (good : Good W s) (untaken : s.2.taken = false) (os : V) :
    Good W ({ s.1 with os }, s.2) where
  kept := good.kept
  away taken := by
    have here : s.2.taken = true := taken
    rw [untaken] at here
    cases here
  moving := good.moving
  connecting := good.connecting
  seen := good.seen
  noted := good.noted

theorem wp_write {f : V → V} {k : Except String Unit → Task V α} (ours : Ours s)
    (rest : ∀ r t, Near s t → Ours t → wp (leaves W).env (watch tick (k r)) Q t) :
    wp (leaves W).env (watch tick (ask (.write f) >>= k)) Q s := by
  intro t others good
  have untaken := ours.others others
  have hears : ({ t.2 with wrote := t.2.wrote || t.2.taken } : Past) = t.2 := by
    rw [untaken, Bool.or_false]
  have near : ∀ os, Near s ({ t.1 with os }, t.2) := fun os =>
    others.near.trans ⟨rfl, rfl, rfl, rfl, rfl, fun _ => rfl, fun _ => rfl, id⟩
  have still : ∀ os, Ours ({ t.1 with os }, t.2) := by
    refine fun os => ⟨untaken, ?_⟩
    obtain off | moving | looking := ours.lasts
    · exact .inl (by rw [others.data]; exact off)
    · exact .inr (.inl ((Moving.congr others.data others.core).mpr moving))
    · exact .inr (.inr (by rw [others.look]; exact looking))
  refine ⟨trivial, fun r _ => ?_⟩
  show Good W (effect (.write f) r t.1, _) ∧ wp _ (watch tick (k r)) Q (effect (.write f) r t.1, _)
  rw [show Past.hear (.write f) r t.1 t.2 = t.2 from hears]
  cases (r : Except String Unit) with
  | ok => exact ⟨good.written untaken _, rest _ _ (near _) (still _)⟩
  | error e => exact ⟨good, rest _ _ (near t.1.os) (still t.1.os)⟩

theorem wp_os {o : Os V} {Q : Except String Unit → State V × Past → Prop} (ours : Ours s)
    (post : ∀ result t, Near s t → Good W t → Q result t) :
    wp (leaves W).env (watch tick o.task) Q s := by
  induction o generalizing s with
  | done result => exact wp_done fun t near good => post result t near good
  | write f k ih =>
    refine wp_write ours fun r t near ours' => ih r ours' fun result u later => ?_
    exact post result u (near.trans later)

/-- Settings that are not taken, whoever looks at them. -/
structure Apart (s : State V × Past) : Prop where
  taken : s.2.taken = false
  lasts : s.1.data.state.phase ≠ .on ∨ Moving s

theorem Apart.ours (apart : Apart s) : Ours s := ⟨apart.taken, apart.lasts.imp_right .inl⟩

/-- The mode did what it does to the settings and the backup. -/
structure Acted (s t : State V × Past) : Prop where
  data : t.1.data = s.1.data
  seen : t.2.seen = s.2.seen
  core : t.2.core = s.2.core
  look : s.2.look ≠ .told → t.2.look ≠ .told

theorem Near.acted (near : Near s t) : Acted s t := ⟨near.data, near.seen, near.core, near.look⟩

theorem Acted.trans (first : Acted s t) (rest : Acted t u) : Acted s u :=
  ⟨rest.data.trans first.data, rest.seen.trans first.seen, rest.core.trans first.core,
    fun calm => rest.look (first.look calm)⟩

theorem Apart.acted (apart : Apart s) (acted : Acted s t) (taken : t.2.taken = false) : Apart t :=
  ⟨taken, apart.lasts.imp (fun off => by rw [acted.data]; exact off)
    (Moving.congr acted.data acted.core).mpr⟩

theorem Apart.near (apart : Apart s) (near : Near s t) : Apart t :=
  apart.acted near.acted <| apart.lasts.elim (fun off => (near.off off).trans apart.taken)
    fun moving => (near.moving moving).trans apart.taken

/-- The backup notes the endpoint. -/
def Noting (endpoint : Endpoint) (s : State V) : Prop :=
  ∀ backup, s.file = some (.backup backup) → backup.endpoint = some endpoint

theorem Good.renamed (good : Good W s) (apart : Apart s) (file tmp : Option (File V)) :
    Good W ({ s.1 with file, tmp }, s.2) where
  kept := good.kept
  away taken := by
    have here : s.2.taken = true := taken
    rw [apart.taken] at here
    cases here
  moving := good.moving
  connecting := good.connecting
  seen := good.seen
  noted on still := apart.lasts.elim (fun off => absurd on off) fun moving => absurd moving still

theorem Acted.filed (s : State V × Past) (file tmp : Option (File V)) :
    Acted s ({ s.1 with file, tmp }, { s.2 with look := .none }) :=
  ⟨rfl, rfl, rfl, fun _ => by simp⟩

theorem wp_saveBackup {backup : Backup V} {Q : Except String Unit → State V × Past → Prop}
    (apart : Apart s) (error : ∀ e t, Acted s t → Apart t → Q (.error e) t)
    (ok : ∀ t, Acted s t → Apart t → t.1.file = some (.backup backup) → Q (.ok ()) t) :
    wp (leaves W).env (watch tick (saveBackup backup)) Q s := by
  have failed : ∀ (e : String) t, Acted s t → Apart t →
      wp (leaves W).env (watch tick (pure (.error e) : Task V (Except String Unit))) Q t :=
    fun e t acted apart => wp_done fun u later _ =>
      error e u (acted.trans later.acted) (apart.near later)
  have filed : ∀ (t : State V × Past) file tmp, Acted s t → Apart t →
      Acted s ({ t.1 with file, tmp }, { t.2 with look := .none }) ∧
        Apart ({ t.1 with file, tmp }, { t.2 with look := .none }) :=
    fun t file tmp acted apart => ⟨acted.trans (.filed t file tmp),
      apart.acted (.filed t file tmp) apart.taken⟩
  refine wp_calm (fun _ _ => rfl) (fun _ _ _ => rfl) fun dir t near _ => ?_
  cases (dir : Except String Unit) with
  | error e => exact failed e t near.acted (apart.near near)
  | ok =>
    refine wp_act fun u later good written _ => ?_
    have acted := (near.trans later).acted
    have apart' := apart.near (near.trans later)
    cases (written : Except String Unit) with
    | error e =>
      obtain ⟨acted', apart''⟩ := filed u u.1.file (some .unreadable) acted apart'
      exact ⟨(good.renamed apart' _ _).looks .none, failed _ _ acted' apart''⟩
    | ok =>
      obtain ⟨acted', apart''⟩ := filed u u.1.file (some (.backup backup)) acted apart'
      refine ⟨(good.renamed apart' _ _).looks .none, wp_act fun v last good renamed _ => ?_⟩
      have acted := acted'.trans last.acted
      have apart := apart''.near last
      cases (renamed : Except String Unit) with
      | error e =>
        obtain ⟨acted', apart'⟩ := filed v v.1.file v.1.tmp acted apart
        exact ⟨good.looks .none, failed _ _ acted' apart'⟩
      | ok =>
        obtain ⟨acted', apart'⟩ := filed v (some (.backup backup)) none acted apart
        have effects : beside effect Past.hear (.rename) (.ok () : Except String Unit) v =
            ({ v.1 with file := some (.backup backup), tmp := none }, { v.2 with look := .none }) := by
          simp only [beside, effect, last.tmp, Past.hear]
        rw [effects]
        refine ⟨(good.renamed apart _ _).looks .none, wp_done fun w near _ => ?_⟩
        exact ok w (acted'.trans near.acted) (apart'.near near) near.file

theorem wp_applyWriter {endpoint : Endpoint} {previous : Option Endpoint}
    {Q : Except String (Option Endpoint) → State V × Past → Prop} (apart : Apart s)
    (post : ∀ r t, Near s t → Q r t) :
    wp (leaves W).env (watch tick (applyWriter W endpoint previous)) Q s := by
  refine wp_noted_bind (wp_os apart.ours fun result t near _ => ?_)
  cases result with
  | error e => exact wp_done fun u later _ => post _ u (near.trans later)
  | ok => exact wp_done fun u later _ => post _ u (near.trans later)

theorem wp_saveThenApply {endpoint : Endpoint} {previous : Option Endpoint} {backup : Backup V}
    {Q : Except String (Option Endpoint) → State V × Past → Prop} (apart : Apart s)
    (noted : backup.endpoint = some endpoint) (error : ∀ e t, Acted s t → Apart t → Q (.error e) t)
    (ok : ∀ r t, Acted s t → Apart t → Noting endpoint t.1 → Q r t) :
    wp (leaves W).env (watch tick (saveThenApply W endpoint backup previous)) Q s := by
  refine wp_noted_bind (wp_saveBackup apart ?_ ?_)
  · intro e t acted apart
    exact wp_done fun u near _ => error e u (acted.trans near.acted) (apart.near near)
  · intro t acted apart file
    refine wp_applyWriter apart fun r u near => ok r u (acted.trans near.acted) (apart.near near) ?_
    intro other here
    cases (near.file.symm.trans here).symm.trans file
    exact noted

theorem wp_applyOs {endpoint : Endpoint}
    {Q : Except ClientErrorInfo (Option Endpoint) → State V × Past → Prop} (apart : Apart s)
    (calm : s.2.look ≠ .told) (error : ∀ info t, Acted s t → Apart t → Q (.error info) t)
    (ok : ∀ previous t, Acted s t → Apart t → Noting endpoint t.1 → Q (.ok previous) t) :
    wp (leaves W).env (watch tick (applyOs W endpoint)) Q s := by
  have failed : ∀ (e : String) t, Acted s t → Apart t →
      wp (leaves W).env (watch tick (pure ((.error e : Except String _).mapError osFailure) :
        Task V (Except ClientErrorInfo (Option Endpoint)))) Q t :=
    fun e t acted apart => wp_done fun u near _ =>
      error _ u (acted.trans near.acted) (apart.near near)
  have done : ∀ (r : Except String (Option Endpoint)) t, Acted s t → Apart t →
      Noting endpoint t.1 → wp (leaves W).env (watch tick (pure (r.mapError osFailure) :
        Task V (Except ClientErrorInfo (Option Endpoint)))) Q t := by
    intro r t acted apart notes
    refine wp_done fun u near _ => ?_
    have notes' : Noting endpoint u.1 := fun backup here => notes backup (near.file.symm.trans here)
    cases r with
    | error e => exact error _ u (acted.trans near.acted) (apart.near near)
    | ok previous => exact ok previous u (acted.trans near.acted) (apart.near near) notes'
  refine wp_noted_bind (wp_look calm fun t near good => ?_)
  have apart' := apart.near near
  split
  next backup here =>
    refine wp_saveThenApply apart' rfl ?_ ?_
    · exact fun e u acted apart => failed e u (near.acted.trans acted) apart
    · exact fun r u acted apart notes => done r u (near.acted.trans acted) apart notes
  next here =>
    refine wp_applyWriter apart' fun r u later => ?_
    refine done r u (near.trans later).acted (apart'.near later) fun backup there => ?_
    cases (later.file.symm.trans there).symm.trans here
  next none_ =>
    refine wp_calm (fun _ _ => rfl) (fun _ _ _ => rfl) fun taken u later _ => ?_
    have calm' : u.2.look ≠ .told := later.look (near.look calm)
    cases (taken : Except String Unit) with
    | error e =>
      refine wp_done fun v last _ => failed e v ((near.trans later).trans last).acted ?_
      exact apart.near ((near.trans later).trans last)
    | ok =>
      refine wp_look calm' fun v last _ => ?_
      have near' := (near.trans later).trans last
      refine wp_saveThenApply (apart.near near') rfl ?_ ?_
      · exact fun e w acted apart => failed e w (near'.acted.trans acted) apart
      · exact fun r w acted apart notes => done r w (near'.acted.trans acted) apart notes

theorem Good.note (good : Good W s) (tick : Bool) : Good W (s.1, s.2.note tick s.1 s.1) where
  kept := good.kept
  away taken := good.away (by
    simp only [Past.note, Bool.and_eq_true] at taken
    exact taken.1)
  moving here := by simp [Past.note, good.moving here]
  connecting here := by simp [Past.note, good.connecting here]
  seen here := by
    simp only [Past.note, Bool.and_eq_true, Bool.or_eq_true, decide_eq_true_eq] at here
    exact here.2
  noted := good.noted

/-- The read that ends a check: nothing happens between it and the decision. -/
theorem wp_told {k : State V → Task V α} (told : s.2.look = .told)
    (rest : Good W s → wp (leaves W).env (watch tick (k s.1)) Q (s.1, s.2.note tick s.1 s.1)) :
    wp (leaves W).env (watch tick (read >>= k)) Q s := by
  intro t others good
  obtain rfl : t = s := others.blocked (.inl (by rw [told]; simp))
  exact ⟨good.note tick, rest good⟩

/-- Settings a backup is put back from are not taken. -/
theorem wp_replaced {backup : Backup V} {Q : Bool → State V × Past → Prop} (still : ¬Moving s)
    (file : s.1.file = some (.backup backup)) (gone : ∀ t, Near s t → Q true t)
    (ours : ∀ t, Near s t → Ours t → Q false t) :
    wp (leaves W).env (watch false (replaced W backup)) Q s := by
  rw [replaced]
  split
  next legacy =>
    refine wp_done fun t near good => ours t near ⟨?_, .inl fun on => ?_⟩
    · cases taken : t.2.taken with
      | false => rfl
      | true =>
        have noted := ((good.away taken).backup backup (near.file.trans file)).1
        rw [legacy] at noted
        cases noted
    · have still' : ¬Moving t := fun moving => still ((Moving.congr near.data near.core).mp moving)
      have noted := (good.noted on still' backup (near.file.trans file)).1
      rw [legacy] at noted
      cases noted
  next endpoint noted =>
    refine wp_act fun t near start answer told => ?_
    cases (show answer = Except.ok () from told)
    refine ⟨start.looks .told, wp_told rfl fun good => ?_⟩
    rw [Good.note_told (s := beside effect Past.hear .currentProxies _ t) good rfl]
    have near' : Near s (t.1, { t.2 with look := .decided }) := near.looks (by simp)
    intro u others _
    obtain rfl := others.blocked (.inl (by simp))
    show Q (!W.owns t.1.os endpoint) (t.1, { t.2 with look := .decided })
    cases owns : W.owns t.1.os endpoint with
    | false => exact gone _ near'
    | true =>
      refine ours _ near' ⟨?_, .inr (.inr (by simp))⟩
      cases taken : t.2.taken with
      | false => rfl
      | true =>
        have away := ((start.away taken).backup backup (near.file.trans file)).2
        simp [noted, Writer.elsewhere, owns] at away

/-- The memory is as it was, and so is the backup unless it is gone. -/
structure Restored (s t : State V × Past) : Prop where
  acted : Acted s t
  file : t.1.file = none ∨ t.1.file = s.1.file

theorem Near.restored (near : Near s t) : Restored s t := ⟨near.acted, .inr near.file⟩

theorem Restored.trans (first : Restored s t) (rest : Restored t u) : Restored s u where
  acted := first.acted.trans rest.acted
  file := rest.file.elim .inl fun same => first.file.imp same.trans same.trans

theorem Good.removed (good : Good W s) : Good W ({ s.1 with file := none }, s.2) where
  kept := good.kept
  away taken := ⟨(good.away taken).memory, fun _ here => by cases here⟩
  moving := good.moving
  connecting := good.connecting
  seen := good.seen
  noted _ _ _ here := by cases here

/-- The backup is deleted, unless that fails. -/
theorem wp_removeFile {k : Answer (Call.removeFile (V := V)) → Task V α}
    (rest : ∀ r t, Restored s t → (s.1.data.state.phase = .on → t.1.file = none) →
      wp (leaves W).env (watch tick (k r)) Q t) :
    wp (leaves W).env (watch tick (ask .removeFile >>= k)) Q s := by
  refine wp_act fun t near good removed answer => ?_
  cases here : (removed : Except String Unit) with
  | error e =>
    refine ⟨good.looks .none, rest _ _ (near.looks (by simp : Look.none ≠ .told)).restored ?_⟩
    intro on
    have failed : removed = Except.ok () := answer trivial (by rw [near.data]; exact on)
    cases failed.symm.trans here
  | ok =>
    have removed' : Restored t ({ t.1 with file := none }, { t.2 with look := .none }) :=
      ⟨⟨rfl, rfl, rfl, fun _ => by simp⟩, .inl rfl⟩
    exact ⟨good.removed.looks .none, rest _ _ (near.restored.trans removed') fun _ => rfl⟩

theorem wp_removeBackup {Q : Except String Unit → State V × Past → Prop}
    (post : ∀ r t, Restored s t → Q r t) :
    wp (leaves W).env (watch tick removeBackup) Q s :=
  wp_removeFile fun _ _ restored _ => wp_done fun u near _ =>
    post _ u (restored.trans near.restored)

theorem wp_restoreOs {Q : Except ClientErrorInfo Unit → State V × Past → Prop} (still : ¬Moving s)
    (calm : s.2.look ≠ .told) (post : ∀ r t, Restored s t → Q r t) :
    wp (leaves W).env (watch false (restoreOs W)) Q s := by
  have done : ∀ (r : Except String Unit) t, Restored s t →
      wp (leaves W).env (watch false (pure (r.mapError osFailure) : Task V _)) Q t :=
    fun r t restored => wp_done fun u near _ => post _ u (restored.trans near.restored)
  refine wp_noted_bind (wp_look calm fun t near _ => ?_)
  have still' : ¬Moving t := fun moving => still ((Moving.congr near.data near.core).mp moving)
  split
  next => exact wp_done fun u later _ => done _ u (near.trans later).restored
  next => exact wp_removeBackup fun r u restored => done r u (near.restored.trans restored)
  next backup here =>
    refine wp_noted_bind (wp_replaced still' here ?_ ?_)
    · exact fun u later => wp_removeBackup fun r v restored =>
        done r v ((near.trans later).restored.trans restored)
    · intro u later ours
      refine wp_noted_bind (wp_os ours fun result v last _ => ?_)
      have near' := (near.trans later).trans last
      cases result with
      | error e => exact wp_done fun w near _ => done _ w (near'.trans near).restored
      | ok => exact wp_removeBackup fun r w restored => done r w (near'.restored.trans restored)

/-! ## The operations -/

theorem Free.near (free : Free s) (near : Near s t) : Free t where
  still moving := free.still ((Moving.congr near.data near.core).mp moving)
  on here := by
    rw [near.data] at here ⊢
    exact free.on here
  seen here := by
    have ended := free.seen (near.seen.symm.trans here)
    exact ⟨by rw [near.data]; exact ended.phase, by rw [near.data]; exact ended.reason,
      near.file.trans ended.file⟩
  look := near.look free.look

/-- A section that neither turns the mode on nor notes another endpoint. -/
theorem Good.section {f : State V → State V} (good : Good W s) (os : (f s.1).os = s.1.os)
    (file : (f s.1).file = s.1.file)
    (endpoint : (f s.1).data.endpoint = s.1.data.endpoint ∨ (f s.1).data.endpoint = none)
    (on : (f s.1).data.state.phase = .on → s.1.data.state.phase = .on ∧
      ((f s.1).data.endpoint = s.1.data.endpoint ∨ s.1.file = none)) :
    Good W (f s.1, s.2.note tick s.1 (f s.1)) where
  kept := good.kept
  away taken := by
    simp only [Past.note, Bool.and_eq_true] at taken
    obtain ⟨memory, backup⟩ := good.away taken.1
    refine ⟨?_, fun b here => ?_⟩
    · rw [os]
      rcases endpoint with same | gone
      · rw [same]; exact memory
      · rw [gone]; rfl
    · rw [os]
      exact backup b (file.symm.trans here)
  moving here := by
    obtain ⟨phase, some, core, differs⟩ := here
    rcases endpoint with same | gone
    · have moving : Moving s := ⟨(on phase).1, by rw [← same]; exact some, core, by
        rw [← same]; exact differs⟩
      simp [Past.note, good.moving moving]
    · rw [gone] at some
      cases some
  connecting here := by
    have phase : (f s.1).data.state.phase = .connecting := here
    simp [Past.note, phase]
  seen here := by
    simp only [Past.note, Bool.and_eq_true, Bool.or_eq_true, decide_eq_true_eq] at here
    exact here.2
  noted phase still backup here := by
    obtain ⟨before, same | none_⟩ := on phase
    · have still' : ¬Moving s := fun moving => still
        ⟨phase, by rw [same]; exact moving.2.1, moving.2.2.1, by rw [same]; exact moving.2.2.2⟩
      rw [same]
      exact good.noted before still' backup (file.symm.trans here)
    · cases none_.symm.trans (file.symm.trans here)

theorem wp_disableEndpoint {Q : Unit → State V × Past → Prop} (post : ∀ t, Near s t → Q () t) :
    wp (leaves W).env (watch tick disableEndpoint) Q s := by
  refine wp_calm (fun _ _ => rfl) (fun _ _ _ => rfl) fun ready t near _ => ?_
  split
  next =>
    refine wp_calm (fun _ _ => rfl) (fun _ _ _ => rfl) fun _ u later _ => ?_
    exact wp_done fun v last _ => post v ((near.trans later).trans last)
  next => exact wp_done fun u later _ => post u (near.trans later)

theorem wp_tearDown {Q : Except ClientErrorInfo Unit → State V × Past → Prop} (still : ¬Moving s)
    (calm : s.2.look ≠ .told) (post : ∀ r t, Restored s t → Q r t) :
    wp (leaves W).env (watch false (tearDown W)) Q s := by
  refine wp_noted_bind (wp_restoreOs still calm fun r t restored => ?_)
  refine wp_noted_bind (wp_disableEndpoint fun u near => wp_done fun v later _ => ?_)
  exact post r v (restored.trans (near.trans later).restored)

theorem wp_ownerOf {proxy : Option Endpoint} {Q : Option String → State V × Past → Prop}
    (post : ∀ owner t, Near s t → Q owner t) :
    wp (leaves W).env (watch tick (ownerOf proxy)) Q s := by
  rw [ownerOf.eq_def]
  split
  next =>
    split
    next =>
      refine wp_calm (fun _ _ => rfl) (fun _ _ _ => rfl) fun _ t near _ => ?_
      exact wp_done fun u later _ => post _ u (near.trans later)
    next => exact wp_done fun t near _ => post _ t near
  next => exact wp_done fun t near _ => post _ t near

theorem wp_foreignBefore {endpoint : Endpoint} {previous : Option Endpoint}
    {Q : Option ForeignProxy → State V × Past → Prop} (post : ∀ foreign t, Near s t → Q foreign t) :
    wp (leaves W).env (watch tick (foreignBefore endpoint previous)) Q s := by
  rw [foreignBefore.eq_def]
  split
  next =>
    split
    next => exact wp_done fun t near _ => post _ t near
    next =>
      refine wp_noted_bind (wp_ownerOf fun owner t near => wp_done fun u later _ => ?_)
      exact post _ u (near.trans later)
  next => exact wp_done fun t near _ => post _ t near

/-- The core is said to listen at `told`, or nowhere. -/
theorem Good.heard {told : Option Endpoint} (good : Good W s) (still : ¬Moving s)
    (unmoved : Unmoved told s) :
    Good W (s.1, { s.2 with look := .none, core := told.or s.2.core }) where
  kept := good.kept
  away := good.away
  moving here := by
    obtain ⟨on, some, core, differs⟩ := here
    cases told with
    | none => exact absurd ⟨on, some, core, differs⟩ still
    | some new =>
      cases taken : s.2.taken with
      | false => rfl
      | true => exact absurd (unmoved on taken rfl some) differs
  connecting := good.connecting
  seen := good.seen
  noted on _ := good.noted on still

/-- The endpoint of the core may have been asked for. -/
structure Asked (s t : State V × Past) : Prop where
  data : t.1.data = s.1.data
  file : t.1.file = s.1.file
  seen : t.2.seen = s.2.seen
  look : t.2.look ≠ .told

theorem wp_setSystemProxy {k : Except CoreCallError SystemProxyStatus → Task V α} (still : ¬Moving s)
    (rest : ∀ (r : Except CoreCallError SystemProxyStatus) t, Near s t → Good W t →
      wp (leaves W).env (watch tick (k r)) Q
        (t.1, { t.2 with look := .none, core := (r.toOption.bind (·.endpoint)).or t.2.core })) :
    wp (leaves W).env (watch tick (ask (.setSystemProxy true) >>= k)) Q s := by
  refine wp_act fun t near good r unmoved => ?_
  have still' : ¬Moving t := fun moving => still ((Moving.congr near.data near.core).mp moving)
  exact ⟨good.heard still' (unmoved trivial), rest r t near good⟩

/-- The settings were written while the mode is being turned on. -/
structure Tried (s t : State V × Past) : Prop where
  data : t.1.data = s.1.data
  seen : t.2.seen = s.2.seen
  look : t.2.look ≠ .told

theorem wp_bringUp {Q : Except (ClientErrorInfo × Bool) (Endpoint × Option ForeignProxy) →
      State V × Past → Prop} (off : s.1.data.state.phase ≠ .on) (untaken : s.2.taken = false)
    (calm : s.2.look ≠ .told) (error : ∀ e t, Tried s t → Q (.error e) t)
    (ok : ∀ endpoint foreign t, Tried s t → t.2.taken = false → t.2.core = some endpoint →
      Noting endpoint t.1 → Q (.ok (endpoint, foreign)) t) :
    wp (leaves W).env (watch false (bringUp W)) Q s := by
  have failed : ∀ e t, Tried s t → wp (leaves W).env (watch false
      (pure (.error e) : Task V (Except (ClientErrorInfo × Bool) (Endpoint × Option ForeignProxy))))
      Q t := fun e t tried => wp_done fun u near _ =>
    error e u ⟨near.data.trans tried.data, near.seen.trans tried.seen, near.look tried.look⟩
  refine wp_calm (fun _ _ => rfl) (fun _ _ _ => rfl) fun ready t near _ => ?_
  have tried : Tried s t := ⟨near.data, near.seen, near.look calm⟩
  split
  next => exact failed _ t tried
  next =>
    have still : ¬Moving t := fun moving => off (by rw [← near.data]; exact moving.1)
    refine wp_setSystemProxy still fun status u later _ => ?_
    have near' := near.trans later
    have tried' : Tried s (u.1, { u.2 with
        look := .none, core := (status.toOption.bind (·.endpoint)).or u.2.core }) :=
      ⟨near'.data, near'.seen, by simp⟩
    cases status with
    | error e => exact failed _ _ tried'
    | ok status =>
      dsimp only
      split
      next => exact failed _ _ tried'
      next =>
        split
        next => exact failed _ _ tried'
        next endpoint here =>
          have core : ((Except.ok status : Except CoreCallError _).toOption.bind
              (·.endpoint)).or u.2.core = some endpoint := by
            simp [Except.toOption, here]
          have off' : u.1.data.state.phase ≠ .on := by rw [near'.data]; exact off
          have untaken' : u.2.taken = false := (near'.off off).trans untaken
          refine wp_noted_bind (wp_applyOs ⟨untaken', .inl off'⟩ (by simp) ?_ ?_)
          · intro info v acted _
            exact failed _ v ⟨acted.data.trans near'.data, acted.seen.trans near'.seen,
              acted.look (by simp)⟩
          · intro previous v acted apart notes
            refine wp_noted_bind (wp_foreignBefore fun foreign w last => wp_done fun x end_ _ => ?_)
            have near'' := last.trans end_
            refine ok endpoint foreign x ?_ ?_ ?_ ?_
            · exact ⟨near''.data.trans (acted.data.trans near'.data),
                near''.seen.trans (acted.seen.trans near'.seen), near''.look (acted.look (by simp))⟩
            · exact (apart.near near'').taken
            · exact near''.core.trans (acted.core.trans core)
            · exact fun backup there => notes backup (near''.file.symm.trans there)

/-- The mode is turned on. -/
theorem Good.turnedOn {f : State V → State V} {endpoint : Endpoint} (good : Good W s)
    (untaken : s.2.taken = false) (file : (f s.1).file = s.1.file) (notes : Noting endpoint s.1)
    (here : (f s.1).data.endpoint = some endpoint) (core : s.2.core = some endpoint)
    (on : (f s.1).data.state.phase = .on) : Good W (f s.1, s.2.note tick s.1 (f s.1)) where
  kept := good.kept
  away taken := by simp [Past.note, untaken] at taken
  moving moving := absurd (here.trans core.symm) moving.2.2.2
  connecting phase := by
    cases on.symm.trans phase
  seen _ := .inl on
  noted _ _ backup there := by
    have noted := notes backup (file.symm.trans there)
    exact ⟨by rw [noted]; rfl, noted.trans here.symm⟩

/-- The mode is not on, and the settings are not taken. -/
theorem Good.untaken {f : State V → State V} (good : Good W s) (untaken : s.2.taken = false)
    (off : (f s.1).data.state.phase ≠ .on) : Good W (f s.1, s.2.note tick s.1 (f s.1)) where
  kept := good.kept
  away taken := by simp [Past.note, untaken] at taken
  moving moving := absurd moving.1 off
  connecting _ := by simp [Past.note, untaken]
  seen here := by
    simp only [Past.note, Bool.and_eq_true, Bool.or_eq_true, decide_eq_true_eq] at here
    exact here.2
  noted on := absurd on off

theorem note_core (tick : Bool) (a b : State V) (h : Past) : (h.note tick a b).core = h.core := rfl

theorem note_look {a b : State V} {h : Past} (calm : h.look ≠ .told) :
    (h.note tick a b).look ≠ .told := by
  simp [Past.note, calm]

/-- A call of the mode is no tick. -/
theorem note_seen {a b : State V} {h : Past} (unseen : h.seen = false ∨
    (b.data.state.phase ≠ .on ∧ b.data.state.phase ≠ .error)) : (h.note false a b).seen = false := by
  rcases unseen with here | ⟨on, error⟩
  · simp [Past.note, here]
  · simp [Past.note, on, error]

theorem note_unseen {a b : State V} {h : Past} (calm : h.look ≠ .told) (unseen : h.seen = false) :
    (h.note tick a b).seen = false := by
  simp [Past.note, calm, unseen]

theorem note_taken {a b : State V} {h : Past} (untaken : h.taken = false) :
    (h.note tick a b).taken = false := by
  simp [Past.note, untaken]

/-- The mode is neither on nor was a change seen. -/
theorem Free.of_off (off : s.1.data.state.phase ≠ .on) (unseen : s.2.seen = false)
    (calm : s.2.look ≠ .told) : Free s where
  still moving := off moving.1
  on here := absurd here off
  seen here := by cases unseen.symm.trans here
  look := calm

/-- A section that neither turns the mode on nor notes another endpoint. -/
theorem wp_quiet {f : State V → State V} {k : Unit → Task V α} (os : ∀ s, (f s).os = s.os)
    (file : ∀ s, (f s).file = s.file)
    (endpoint : ∀ s, (f s).data.endpoint = s.data.endpoint ∨ (f s).data.endpoint = none)
    (on : ∀ t, Near s t → (f t.1).data.state.phase = .on → t.1.data.state.phase = .on ∧
      ((f t.1).data.endpoint = t.1.data.endpoint ∨ t.1.file = none))
    (rest : ∀ t, Near s t → Good W t →
      wp (leaves W).env (watch tick (k ())) Q (f t.1, t.2.note tick t.1 (f t.1))) :
    wp (leaves W).env (watch tick (Prog.update () f >>= k)) Q s :=
  wp_section fun t near good =>
    ⟨good.section (os t.1) (file t.1) (endpoint t.1) (on t near), rest t near good⟩

theorem wp_quiet_last {f : State V → State V} {Q : Unit → State V × Past → Prop}
    (os : ∀ s, (f s).os = s.os) (file : ∀ s, (f s).file = s.file)
    (endpoint : ∀ s, (f s).data.endpoint = s.data.endpoint ∨ (f s).data.endpoint = none)
    (on : ∀ t, Near s t → (f t.1).data.state.phase = .on → t.1.data.state.phase = .on ∧
      ((f t.1).data.endpoint = t.1.data.endpoint ∨ t.1.file = none))
    (post : ∀ t u, Near s t → Near (f t.1, t.2.note tick t.1 (f t.1)) u → Q () u) :
    wp (leaves W).env (watch tick (Prog.update () f)) Q s :=
  fun t others good => ⟨good.section (os t.1) (file t.1) (endpoint t.1) (on t others.near),
    wp_done fun u near _ => post t u others.near near⟩

theorem wp_connect {Q : Except ClientErrorInfo Unit → State V × Past → Prop} (free : Free s)
    (post : ∀ r t, Free t → Q r t) :
    wp (leaves W).env (watch false (connect W)) Q s := by
  refine wp_look free.look fun t near _ => ?_
  have free' := free.near near
  split
  next => exact wp_done fun u later _ => post _ u (free'.near later)
  next off =>
    refine wp_quiet (fun _ => rfl) (fun _ => rfl) (fun _ => .inl rfl)
      (fun u later on => absurd (by rw [← later.data]; exact on) off) fun u later _ => ?_
    have looked : (Past.note false u.1 u.1 u.2).look ≠ .told := note_look (later.look free'.look)
    refine wp_quiet (fun _ => rfl) (fun _ => rfl) (fun _ => .inl rfl)
      (fun _ _ on => by cases on) fun v last _ => ?_
    refine wp_noted_bind (wp_bringUp (fun on => by cases on) (by simp [Past.note, Data.shows])
      (note_look (a := v.1) (last.look looked)) ?_ ?_)
    · rintro ⟨info, retryable⟩ w tried
      have off : w.1.data.state.phase ≠ .on := by rw [tried.data]; exact fun on => by cases on
      have unseen : w.2.seen = false := by
        rw [tried.seen]
        exact note_seen (a := v.1) (.inr ⟨(fun on => by cases on), (fun error => by cases error)⟩)
      refine wp_noted_bind (wp_tearDown (fun moving => off moving.1) tried.look fun r x restored => ?_)
      refine wp_quiet (fun _ => rfl) (fun _ => rfl) (fun _ => .inl rfl)
        (fun _ _ on => by cases on) fun y later _ => wp_done fun z near _ => post _ z (Free.near ?_ near)
      refine Free.of_off (fun on => by cases on) (note_seen (a := y.1) (.inl ?_))
        (note_look (a := y.1) (later.look (restored.acted.look tried.look)))
      exact later.seen.trans (restored.acted.seen.trans unseen)
    · intro endpoint foreign w tried untaken core notes
      have off : w.1.data.state.phase ≠ .on := by rw [tried.data]; exact fun on => by cases on
      have unseen : w.2.seen = false := by
        rw [tried.seen]
        exact note_seen (a := v.1) (.inr ⟨(fun on => by cases on), (fun error => by cases error)⟩)
      refine wp_section fun x near good => ?_
      have off' : x.1.data.state.phase ≠ .on := by rw [near.data]; exact off
      have untaken' : x.2.taken = false := (near.off off).trans untaken
      refine ⟨good.untaken (f := fun s => { s with data := { s.data with
        endpoint := some endpoint, foreign := foreign.or s.data.foreign } }) untaken' off', ?_⟩
      refine wp_section fun y later good => ?_
      have untaken'' := (later.off off').trans (note_taken (a := x.1) untaken')
      have core' : y.2.core = some endpoint := later.core.trans (near.core.trans core)
      have here : y.1.data.endpoint = some endpoint := by rw [later.data]
      have notes' : Noting endpoint y.1 := fun backup there =>
        notes backup ((later.file.trans near.file).symm.trans there)
      refine ⟨good.turnedOn (f := fun s => { s with
        data := { s.data with state := s.data.shows .on none false }
        shown := if s.data.state ≠ s.data.shows .on none false then
          s.shown ++ [s.data.shows .on none false] else s.shown }) untaken'' rfl notes' here core' rfl, ?_⟩
      refine wp_done fun z last _ => post _ z (Free.near ⟨?_, ?_, ?_, ?_⟩ last)
      · exact fun moving => absurd (here.trans core'.symm) moving.2.2.2
      · exact fun _ => by rw [show _ = some endpoint from here]; rfl
      · intro seen
        have gone : y.2.seen = false :=
          later.seen.trans (note_seen (a := x.1) (.inl (near.seen.trans unseen)))
        exact absurd seen (by rw [note_seen (a := y.1) (.inl gone)]; simp)
      · exact note_look (a := y.1) (later.look (note_look (a := x.1) (near.look tried.look)))

theorem wp_switchOff {Q : Except ClientErrorInfo Unit → State V × Past → Prop}
    (off : s.1.data.state.phase ≠ .on) (calm : s.2.look ≠ .told) (post : ∀ r t, Free t → Q r t) :
    wp (leaves W).env (watch false (switchOff W)) Q s := by
  refine wp_noted_bind (wp_tearDown (fun moving => off moving.1) calm fun r t restored => ?_)
  have off' : t.1.data.state.phase ≠ .on := by rw [restored.acted.data]; exact off
  refine wp_quiet (fun _ => rfl) (fun _ => rfl) (fun _ => .inr rfl)
    (fun u near on => absurd (by rw [← near.data]; exact on) off') fun u near _ => ?_
  refine wp_quiet (fun _ => rfl) (fun _ => rfl) (fun _ => .inl rfl)
    (fun _ _ on => by cases on) fun v later _ => wp_done fun w last _ => post _ w (Free.near ?_ last)
  refine Free.of_off (fun on => by cases on)
    (note_seen (a := v.1) (.inr ⟨(fun on => by cases on), (fun error => by cases error)⟩)) ?_
  exact note_look (a := v.1) (later.look (note_look (a := u.1) (near.look (restored.acted.look calm))))

theorem wp_disconnect {Q : Except ClientErrorInfo Unit → State V × Past → Prop} (free : Free s)
    (post : ∀ r t, Free t → Q r t) :
    wp (leaves W).env (watch false (disconnect W)) Q s := by
  refine wp_look free.look fun t near _ => wp_noted_bind ?_
  refine wp_look (near.look free.look) fun u later _ => wp_done fun v last _ => ?_
  have near' := near.trans (later.trans last)
  have free' := free.near near'
  split
  next => exact wp_done fun w end_ _ => post _ w (free'.near end_)
  next =>
    split
    next =>
      refine wp_quiet (fun _ => rfl) (fun _ => rfl) (fun _ => .inl rfl)
        (fun _ _ on => by cases on) fun w end_ _ => ?_
      refine wp_switchOff (fun on => by cases on) ?_ post
      exact note_look (a := w.1) (end_.look free'.look)
    next off =>
      have off' : v.1.data.state.phase = .off := by
        rw [(later.trans last).data]
        exact not_not.mp off
      exact wp_switchOff (by rw [off']; simp) free'.look post

theorem Free.restored (free : Free s) (restored : Restored s t) : Free t where
  still moving := free.still ((Moving.congr restored.acted.data restored.acted.core).mp moving)
  on here := by
    rw [restored.acted.data] at here ⊢
    exact free.on here
  seen here := by
    have ended := free.seen (restored.acted.seen.symm.trans here)
    exact ⟨by rw [restored.acted.data]; exact ended.phase,
      by rw [restored.acted.data]; exact ended.reason,
      restored.file.elim id fun same => same.trans ended.file⟩
  look := restored.acted.look free.look

theorem wp_restoreLeftovers {Q : Unit → State V × Past → Prop} (free : Free s)
    (post : ∀ t, Free t → Q () t) :
    wp (leaves W).env (watch false (restoreLeftovers W)) Q s := by
  refine wp_noted_bind (wp_look free.look fun t near _ => wp_done fun u later _ => ?_)
  have free' := free.near (near.trans later)
  split
  next =>
    refine wp_noted_bind (wp_restoreOs free'.still free'.look fun r v restored => ?_)
    exact wp_done fun w last _ => post w ((free'.restored restored).near last)
  next => exact wp_done fun v last _ => post v (free'.near last)

/-! ## A tick -/

/-- A tick that finds the settings elsewhere ends the mode; one that finds them
where they were has seen nothing. -/
theorem wp_checkOwnership {endpoint : Endpoint} {Q : Unit → State V × Past → Prop} (free : Free s)
    (on : s.1.data.state.phase = .on) (here : s.1.data.endpoint = some endpoint)
    (post : ∀ t, Free t → Q () t) :
    wp (leaves W).env (watch true (checkOwnership W endpoint)) Q s := by
  refine wp_act fun t near start answer told => ?_
  cases (show answer = Except.ok () from told)
  have free' := free.near near
  have on' : t.1.data.state.phase = .on := by rw [near.data]; exact on
  have unseen : t.2.seen = false := by
    cases seen : t.2.seen with
    | false => rfl
    | true => cases on'.symm.trans (free'.seen seen).phase
  refine ⟨start.looks .told, wp_told rfl fun good => ?_⟩
  have noted : Past.note true t.1 t.1 { t.2 with look := .told } =
      { t.2 with look := .decided, seen := t.2.taken } := by
    have := Good.note_eq (s := (t.1, { t.2 with look := .told })) good true
    simpa [unseen, on'] using this
  show wp _ (watch true (if W.owns t.1.os endpoint then _ else _)) Q
    (t.1, Past.note true t.1 t.1 { t.2 with look := .told })
  rw [noted]
  split
  next owns =>
    have after : Free (t.1, { t.2 with look := .decided, seen := t.2.taken }) := by
      refine ⟨free'.still, free'.on, fun seen => ?_, by simp⟩
      have away := (start.away seen).memory
      rw [near.data, here] at away
      simp [Writer.elsewhere, owns] at away
    exact wp_done fun u last _ => post u (after.near last)
  next =>
    refine wp_noted_bind (wp_ownerOf fun owner u later => ?_)
    have on'' : u.1.data.state.phase = .on := by rw [later.data]; exact on'
    refine wp_removeFile fun _ v restored gone => ?_
    refine wp_noted_bind (wp_disableEndpoint fun w last => ?_)
    have gone' : w.1.file = none := last.file.trans (gone on'')
    refine wp_quiet (fun _ => rfl) (fun _ => rfl) (fun _ => .inr rfl) ?_ fun x end_ _ => ?_
    · intro x end_ on
      exact ⟨on, .inr (end_.file.trans gone')⟩
    · refine wp_quiet_last (fun _ => rfl) (fun _ => rfl) (fun _ => .inl rfl)
        (fun _ _ on => by cases on) fun y z later' last' => post z (Free.near ?_ last')
      have calm := last.look (restored.acted.look (later.look (by simp)))
      refine ⟨(fun moving => by cases moving.1), (fun on => by cases on), fun _ => ⟨rfl, rfl, ?_⟩, ?_⟩
      · exact later'.file.trans (end_.file.trans gone')
      · exact note_look (a := y.1) (later'.look (note_look (a := x.1) (end_.look calm)))

theorem wp_currentEndpoint {Q : Option Endpoint → State V × Past → Prop} (free : Free s)
    (none_ : ∀ t, Free t → Q none t)
    (some_ : ∀ endpoint t, Asked s t → t.2.core = some endpoint → Q (some endpoint) t) :
    wp (leaves W).env (watch tick currentEndpoint) Q s := by
  refine wp_act fun t near good status unmoved => ?_
  have free' := free.near near
  refine ⟨good.heard free'.still (unmoved trivial), ?_⟩
  split
  next endpoint here =>
    refine wp_done fun u later _ => some_ endpoint u ?_ (later.core.trans ?_)
    · exact ⟨later.data.trans near.data, later.file.trans near.file, later.seen.trans near.seen,
        later.look (by simp [beside, Past.hear])⟩
    · simp [beside, Past.hear, here]
  next nowhere =>
    have core : beside effect Past.hear .getStatus status t = (t.1, { t.2 with look := .none }) := by
      simp [beside, Past.hear, effect, nowhere]
    rw [core]
    have calm : Free (t.1, { t.2 with look := .none }) := ⟨free'.still, free'.on, free'.seen, by simp⟩
    refine wp_setSystemProxy free'.still fun r u later _ => ?_
    have free'' := calm.near later
    cases told : r.toOption.bind (·.endpoint) with
    | none =>
      have quiet : Free (u.1, { u.2 with look := .none, core := (none : Option Endpoint).or u.2.core }) :=
        ⟨free''.still, free''.on, free''.seen, by simp⟩
      refine wp_done fun v last _ => ?_
      exact none_ v (quiet.near last)
    | some endpoint =>
      refine wp_done fun v last _ => some_ endpoint v ?_ last.core
      exact ⟨last.data.trans (later.data.trans near.data), last.file.trans (later.file.trans near.file),
        last.seen.trans (later.seen.trans near.seen), last.look (by simp)⟩

theorem wp_reconcile {Q : Unit → State V × Past → Prop} (free : Free s) (post : ∀ t, Free t → Q () t) :
    wp (leaves W).env (watch true (reconcile W)) Q s := by
  refine wp_look free.look fun t near _ => ?_
  have free' := free.near near
  split
  next => exact wp_done fun u later _ => post u (free'.near later)
  next on =>
    have on : t.1.data.state.phase = .on := not_not.mp on
    have unseen : t.2.seen = false := by
      cases seen : t.2.seen with
      | false => rfl
      | true => cases on.symm.trans (free'.seen seen).phase
    refine wp_calm (fun _ _ => rfl) (fun _ _ _ => rfl) fun ready u later _ => ?_
    have free'' := free'.near later
    split
    next => exact wp_done fun v last _ => post v (free''.near last)
    next =>
      refine wp_noted_bind (wp_currentEndpoint free'' ?_ ?_)
      · exact fun v free => wp_done fun w last _ => post w (free.near last)
      · intro current v asked core
        refine wp_look asked.look fun w last good => ?_
        have data : w.1.data = t.1.data := last.data.trans (asked.data.trans later.data)
        have on' : w.1.data.state.phase = .on := by rw [data]; exact on
        have unseen' : w.2.seen = false :=
          last.seen.trans (asked.seen.trans (later.seen.trans unseen))
        have core' : w.2.core = some current := last.core.trans core
        have calm := last.look asked.look
        split
        next same =>
          refine wp_checkOwnership ⟨?_, ?_, ?_, calm⟩ on' same post
          · exact fun moving => moving.2.2.2 (same.trans core'.symm)
          · exact fun _ => by rw [same]; rfl
          · exact fun seen => by cases unseen'.symm.trans seen
        next moved =>
          have moving : Moving w := by
            refine ⟨on', ?_, by rw [core']; rfl, by rw [core']; exact moved⟩
            rw [data]
            exact free'.on on
          refine wp_noted_bind (wp_applyOs ⟨good.moving moving, .inr moving⟩ calm ?_ ?_)
          · intro info x acted _
            refine wp_quiet_last (fun _ => rfl) (fun _ => rfl) (fun _ => .inl rfl)
              (fun _ _ on => by cases on) fun y z end_ last' => post z (Free.near ?_ last')
            refine Free.of_off (fun on => by cases on) ?_ (note_look (a := y.1) (end_.look (acted.look calm)))
            exact note_unseen (a := y.1) (end_.look (acted.look calm))
              (end_.seen.trans (acted.seen.trans unseen'))
          · intro previous x acted apart notes y others good
            have near' := others.near
            have notes' : Noting current y.1 := fun backup there =>
              notes backup (near'.file.symm.trans there)
            have core'' : y.2.core = some current := near'.core.trans (acted.core.trans core')
            have on'' : y.1.data.state.phase = .on := by rw [near'.data, acted.data]; exact on'
            have calm' := near'.look (acted.look calm)
            refine ⟨good.turnedOn (f := fun s => { s with
              data := { s.data with endpoint := some current } }) (apart.near near').taken rfl notes'
              rfl core'' on'', wp_done fun z last' _ => post z (Free.near ⟨?_, ?_, ?_, ?_⟩ last')⟩
            · exact fun moving => moving.2.2.2 core''.symm
            · exact fun _ => rfl
            · intro seen
              have gone : y.2.seen = false := near'.seen.trans (acted.seen.trans unseen')
              exact absurd seen (by rw [note_unseen (a := y.1) calm' gone]; simp)
            · exact note_look (a := y.1) calm'

/-! ## Every run -/

theorem Party.obeys (party : Party V) : Obeys (leaves W) (party.task W) none := by
  cases party with
  | program v => exact program_obeys v
  | app op =>
    cases op with
    | connect =>
      rw [Party.task, watch, Op.task, Prog.noted_withLock]
      exact Obeys.withLock fun s _ free => wp_noted_bind (wp_connect free fun r t free =>
        wp_done fun u near _ => free.near near)
    | disconnect =>
      rw [Party.task, watch, Op.task, Prog.noted_withLock]
      exact Obeys.withLock fun s _ free => wp_noted_bind (wp_disconnect free fun r t free =>
        wp_done fun u near _ => free.near near)
    | restoreLeftovers =>
      rw [Party.task, watch, Op.task, Prog.noted_withLock]
      exact Obeys.withLock fun s _ free => wp_restoreLeftovers free fun t free => free
    | reconcile =>
      rw [Party.task, watch, Op.task, Prog.noted_tryLock]
      exact Obeys.tryLock fun s _ free => wp_reconcile free fun t free => free

theorem fair_grants : (leaves W).Grants (Fair W True) where
  sec := by
    intro p i place f k fair task _
    cases place with
    | app => trivial
    | program v =>
      rw [Fair, task] at fair
      exact fair
  answer := by
    intro p i oracle c k fair task
    rw [Fair, task] at fair
    exact fair

theorem begin_kept {s : State V} {h : Past} (unwritten : h.wrote = false)
    (away : h.taken = true → ∀ backup, s.file = some (.backup backup) →
      backup.endpoint.isSome = true ∧ W.elsewhere s.os backup.endpoint = true)
    (parties : List (Party V)) : (leaves W).Kept (begin W s h.relaunched parties) := by
  refine Discipline.Kept.of_free rfl ?_ ?_ ?_
  · refine ⟨unwritten, fun taken => ⟨rfl, away taken⟩, ?_, ?_, ?_, ?_⟩
    · exact fun moving => by cases moving.1
    · exact fun connecting => by cases connecting
    · exact fun seen => by cases seen
    · exact fun on => by cases on
  · exact Free.of_off (fun on => by cases on) rfl (by simp [begin, Past.relaunched])
  · intro i prog here
    simp only [begin, Pool.task, List.getElem?_map, Option.map_map] at here
    obtain ⟨party, -, rfl⟩ := Option.map_eq_some_iff.mp here
    exact party.obeys

/-- In every careful run: settings another program took are not written until
the user connects again, and a tick that saw it has ended the mode, the backup
being gone. -/
theorem left_alone {p : Scene V} (plays : Plays W True p) :
    p.state.2.wrote = false ∧
    (p.owner = none → p.state.2.seen = true → Ended p.state.1) := by
  have kept : (leaves W).Kept p := by
    induction plays with
    | first s parties => exact begin_kept (h := {}) rfl (fun taken => by cases taken) parties
    | step _ fair taken ih => exact ih.step fair_grants fair taken
    | relaunch _ parties ih =>
      exact begin_kept ih.good.kept (fun taken => (ih.good.away taken).backup) parties
  exact ⟨kept.good.kept, fun free seen => (kept.inv free).seen seen⟩

/-! ## Runs that can be executed -/

instance (s : State V × Past) : Decidable (Moving s) := by
  unfold Moving
  infer_instance

instance (careful : Prop) [Decidable careful] (v : V) (held : Bool) :
    Decidable (Changes W careful v held s) := by
  unfold Changes
  infer_instance

instance (told : Option Endpoint) : Decidable (Unmoved told s) := by
  unfold Unmoved
  infer_instance

instance heardOk.decidable (r : Except String Unit) : Decidable (r = .ok ()) :=
  match r with
  | .ok () => isTrue rfl
  | .error _ => isFalse (fun h => by cases h)

instance Heard.decidable (careful : Prop) [Decidable careful] :
    (c : Call V) → (r : Answer c) → Decidable (Heard careful c r s)
  | .currentProxies, r => heardOk.decidable r
  | .getStatus, r =>
    let status : Except CoreCallError (Option SystemProxyStatus) := r
    decidable_of_iff (careful → Unmoved (status.toOption.join.bind (·.endpoint)) s) Iff.rfl
  | .setSystemProxy true, r =>
    let status : Except CoreCallError SystemProxyStatus := r
    decidable_of_iff (careful → Unmoved (status.toOption.bind (·.endpoint)) s) Iff.rfl
  | .removeFile, r =>
    have _ok : Decidable ((r : Except String Unit) = .ok ()) := heardOk.decidable r
    decidable_of_iff (careful → s.1.data.state.phase = .on → (r : Except String Unit) = .ok ()) Iff.rfl
  | .setSystemProxy false, _ | .transport, _ | .readyTransport, _ | .snapshot, _ | .write _, _
  | .createDir, _ | .writeTmp _, _ | .rename, _ | .lookupListener _, _ => isTrue trivial

instance Fair.decidable (careful : Prop) [Decidable careful] (p : Scene V) :
    (m : Move (Answer (V := V))) → Decidable (Fair W careful p m)
  | .go i => match task : p.task i with
    | some (.sec (.program v) _ _) =>
      decidable_of_iff (Changes W careful v p.owner.isSome p.state) (by rw [Fair, task])
    | some (.sec .app _ _) => isTrue (by rw [Fair, task]; trivial)
    | none => isTrue (by rw [Fair, task]; trivial)
    | some (.ret _) => isTrue (by rw [Fair, task]; trivial)
    | some (.call _ _) => isTrue (by rw [Fair, task]; trivial)
    | some (.lock _ _) => isTrue (by rw [Fair, task]; trivial)
    | some (.unlock _) => isTrue (by rw [Fair, task]; trivial)
  | .answer i oracle => match task : p.task i with
    | some (.call c _) => decidable_of_iff (Heard careful c (oracle c) p.state) (by rw [Fair, task])
    | none => isTrue (by rw [Fair, task]; trivial)
    | some (.ret _) => isTrue (by rw [Fair, task]; trivial)
    | some (.sec _ _ _) => isTrue (by rw [Fair, task]; trivial)
    | some (.lock _ _) => isTrue (by rw [Fair, task]; trivial)
    | some (.unlock _) => isTrue (by rw [Fair, task]; trivial)
  | .giveUp _ => isTrue trivial

theorem Plays.reaches {careful : Prop} {p q : Scene V} (plays : Plays W careful p)
    (reached : Reaches (beside effect Past.hear) (Fair W careful) p q) : Plays W careful q := by
  induction reached with
  | refl => exact plays
  | step _ fair taken ih => exact ih.step fair taken

end

/-- The user's settings, and those of another program. -/
def userProxy : WinInet := ⟨0, none, some "<local>"⟩
def otherProxy : WinInet := ⟨1, some [("127.0.0.1", 10808)], none⟩

/-- Everything succeeds; the standard core listens on `port`. -/
def listening (port : UInt16) : (c : Call WinInet) → Answer c
  | .transport | .readyTransport => (true : Bool)
  | .setSystemProxy _ =>
    (.ok ⟨true, true, true, none, some port⟩ : Except CoreCallError SystemProxyStatus)
  | .getStatus =>
    (.ok (some ⟨true, true, true, none, some port⟩) :
      Except CoreCallError (Option SystemProxyStatus))
  | .write _ | .snapshot | .currentProxies | .createDir | .writeTmp _ | .rename | .removeFile =>
    (.ok () : Except String Unit)
  | .lookupListener _ => (some "other" : Option String)

/-- Task `i` takes `n` steps. -/
def steps (i n : Nat) (port : UInt16) : List (Move (Answer (V := WinInet))) :=
  (List.replicate n [.go i, .answer i (listening port)]).flatten

/-- Connected at one port; another program takes the proxy; a tick is told of
`port`. -/
def takenRun (careful : Prop) [Decidable careful] (port : UInt16) : Scene WinInet :=
  (begin wininet { os := userProxy } {} [.app .connect, .program otherProxy, .app .reconcile]).play
    (beside effect Past.hear) (Fair wininet careful)
    (steps 0 30 7891 ++ [.go 1] ++ steps 2 30 port)

theorem left_alone_taken :
    (takenRun True 7891).state.2.taken = true ∧ (takenRun True 7891).state.2.wrote = false ∧
    Ended (takenRun True 7891).state.1 ∧ (takenRun True 7891).state.1.os = otherProxy := by
  have plays : Plays wininet True (takenRun True 7891) :=
    (Plays.first _ _).reaches (Reaches.of_play _ _)
  obtain ⟨unwritten, ended⟩ := left_alone plays
  exact ⟨by decide +kernel, unwritten, ended (by decide +kernel) (by decide +kernel),
    by decide +kernel⟩

/-- The core is back on another port: the tick writes its endpoint over the
other program's settings and stays on. -/
theorem rewritten : Plays wininet False (takenRun False 7892) ∧
    (takenRun False 7892).state.2.wrote = true ∧
    (takenRun False 7892).state.1.data.state.phase = .on ∧
    (takenRun False 7892).state.1.os =
      ⟨1, some [("127.0.0.1", 7892)], some WinInet.overrideList⟩ := by
  refine ⟨(Plays.first _ _).reaches (Reaches.of_play _ _), ?_, ?_, ?_⟩
  · decide +kernel
  · decide +kernel
  · decide +kernel

end LeftAlone

end PpvpnCore.Desktop
