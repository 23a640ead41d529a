import PpvpnCore.Lib.Amid
import PpvpnCore.Lib.Known
import PpvpnCore.Account.Shared

/-!
# A login that outlives its commands

Commands that use the saved login side by side never clear it, and leave it so
that the next command signs in, as long as none of them asks the backend or
writes the store once another has written the store since it read it.

* `Fresh`: what is asked of each request and each write.
* `Inv`: what holds of the store, the backend and what each process knows.
* `login_outlives`: whatever the schedule.
-/

namespace PpvpnCore.Account.Shared

open Lib

/-! ## What is asked of a run -/

/-- Nobody else has written the store since the process read it. -/
def Fresh (h : Host) (i : Nat) : Prop :=
  (h.process i).opened = false ∨ (h.process i).seen = h.writes

/-- What the backend answers. -/
def Backs : (c : Call) → Answer c → Host → Prop
  | .auth _ (.refresh asked), ⟨heard, acted⟩, h =>
    Served (α := String) (ServesRefresh h.backend asked) heard acted
  | .auth _ (.commit asked), ⟨heard, acted⟩, h =>
    Served (α := Tokens) (ServesCommit h.backend asked) heard acted
  | _, _, _ => True

/-- Requests and writes are made in time. -/
def Timely : Call → Host → Prop
  | .auth i (.refresh _), h | .auth i (.commit _), h | .auth i (.persist _), h
  | .auth i .clear, h => Fresh h i
  | _, _ => True

def InTime (c : Call) (r : Answer c) (h : Host) : Prop := Backs c r h ∧ Timely c h

/-! ## The invariant -/

/-- The commit of `q` can be asked for. -/
def Backend.Committable (b : Backend) (q : String) : Prop :=
  q ∈ b.prepared ∨ (b.newest = some (q, b.current) ∧ Storable b.current)

/-- What is saved can be resumed. -/
structure Resumable (blob : CredentialBlob) (b : Backend) : Prop where
  login : Login blob
  accepted : blob.pendingRefresh = none → blob.activeRefresh = some b.current
  committable : ∀ q, blob.pendingRefresh = some q → b.Committable q

/-- What a process that is not behind knows. -/
structure Process.Knows (p : Process) (h : Host) : Prop where
  cached : ∀ blob, p.auth.cache = some blob → h.store = some blob
  granted : ∀ q, p.granted = some q → q ∈ h.backend.prepared ∧ Storable q ∧
    ∃ blob, p.auth.cache = some blob ∧ blob.pendingRefresh = none
  renewed : ∀ c, p.renewed = some c → c = h.backend.current ∧ Storable c ∧
    ∀ blob q, h.store = some blob → blob.pendingRefresh = some q → h.backend.newest = some (q, c)

structure Inv (h : Host) : Prop where
  saved : ∃ blob, h.store = some blob ∧ Resumable blob h.backend
  apart : ∀ last, h.backend.newest = some last → last.1 ∉ h.backend.prepared
  cleared : h.cleared = false
  login : ∀ i blob, (h.process i).auth.cache = some blob → (h.process i).opened = true ∧ Login blob
  seen : ∀ i, (h.process i).seen ≤ h.writes
  knows : ∀ i, (h.process i).seen = h.writes → (h.process i).Knows h

variable {h : Host} {i : Nat} {b : Backend} {q value : String} {blob next : CredentialBlob}
  {tokens : Tokens}

/-- Only what process `i` has changes. -/
theorem Inv.setProcess (inv : Inv h) {p : Process}
    (login : ∀ blob, p.auth.cache = some blob → p.opened = true ∧ Login blob)
    (seen : p.seen ≤ h.writes) (knows : p.seen = h.writes → p.Knows h) :
    Inv (h.setProcess i p) := by
  refine ⟨inv.saved, inv.apart, inv.cleared, ?_, ?_, ?_⟩
  · intro j blob cached
    by_cases same : j = i
    · subst same
      simp only [Host.setProcess, Function.update_self] at cached ⊢
      exact login blob cached
    · simp only [Host.setProcess, Function.update_of_ne same] at cached ⊢
      exact inv.login j blob cached
  · intro j
    by_cases same : j = i
    · subst same
      simp only [Host.setProcess, Function.update_self]
      exact seen
    · simp only [Host.setProcess, Function.update_of_ne same]
      exact inv.seen j
  · intro j current
    by_cases same : j = i
    · subst same
      simp only [Host.setProcess, Function.update_self] at current ⊢
      have own := knows current
      exact ⟨own.cached, own.granted, own.renewed⟩
    · simp only [Host.setProcess, Function.update_of_ne same] at current ⊢
      have other := inv.knows j current
      exact ⟨other.cached, other.granted, other.renewed⟩

/-- The backend prepares a credential from the one that is saved. -/
theorem Inv.prepare (inv : Inv h) (saved : h.store = some blob)
    (idle : blob.pendingRefresh = none) :
    Inv { h with backend := h.backend.prepare value } := by
  obtain ⟨stored, here, resumable⟩ := inv.saved
  cases saved.symm.trans here
  refine ⟨⟨blob, here, resumable.login, resumable.accepted, ?_⟩, ?_, inv.cleared, inv.login,
    inv.seen, ?_⟩
  · intro q pending
    rw [idle] at pending
    cases pending
  · intro last newest mem
    simp only [Backend.prepare, Option.filter_eq_some_iff, decide_eq_true_eq] at newest
    rcases List.mem_cons.mp mem with same | old
    · exact newest.2 same
    · exact inv.apart last newest.1 old
  · intro j current
    have knows := inv.knows j current
    refine ⟨knows.cached, ?_, ?_⟩
    · intro q granted
      obtain ⟨prepared, fits, cached⟩ := knows.granted q granted
      exact ⟨List.mem_cons_of_mem _ prepared, fits, cached⟩
    · intro c renewed
      obtain ⟨accepted, fits, -⟩ := knows.renewed c renewed
      refine ⟨accepted, fits, ?_⟩
      intro stored q same pending
      cases saved.symm.trans same
      rw [idle] at pending
      cases pending

/-- What a commit of the saved credential leaves. -/
theorem Backend.commit_newest (committable : b.Committable q)
    (serves : ServesCommit b q (.ok tokens)) :
    (b.commit q tokens).current = tokens.refresh ∧ Storable tokens.refresh ∧
      (b.commit q tokens).newest = some (q, tokens.refresh) := by
  rw [Backend.commit]
  split
  next prepared => exact ⟨rfl, serves.1 prepared, rfl⟩
  next not =>
    rcases committable with prepared | ⟨newest, fits⟩
    · exact absurd prepared not
    · have same : tokens.refresh = b.current := serves.2 not _ newest rfl
      rw [same]
      exact ⟨rfl, fits, newest⟩

theorem Inv.commit (inv : Inv h) (saved : h.store = some blob)
    (pending : blob.pendingRefresh = some q) (serves : ServesCommit h.backend q (.ok tokens)) :
    Inv { h with backend := h.backend.commit q tokens } := by
  obtain ⟨stored, here, resumable⟩ := inv.saved
  cases saved.symm.trans here
  obtain ⟨current, fits, newest⟩ :=
    Backend.commit_newest (resumable.committable q pending) serves
  refine ⟨⟨blob, here, resumable.login, ?_, ?_⟩, ?_, inv.cleared, inv.login, inv.seen, ?_⟩
  · intro idle
    rw [idle] at pending
    cases pending
  · intro q' same
    cases pending.symm.trans same
    refine .inr ⟨?_, ?_⟩
    · rw [current]
      exact newest
    · rw [current]
      exact fits
  · intro last known
    cases newest.symm.trans known
    rw [Backend.commit]
    split
    next => exact List.not_mem_nil
    next not => exact not
  · intro j behind
    have knows := inv.knows j behind
    refine ⟨knows.cached, ?_, ?_⟩
    · intro q' granted
      obtain ⟨-, -, own, cached, idle⟩ := knows.granted q' granted
      cases (knows.cached own cached).symm.trans saved
      rw [idle] at pending
      cases pending
    · intro c renewed
      obtain ⟨accepted, storable, again⟩ := knows.renewed c renewed
      have known := again blob q saved pending
      have spent := inv.apart _ known
      have same : h.backend.commit q tokens = h.backend := by
        rw [Backend.commit, if_neg spent]
      rw [same]
      exact ⟨accepted, storable, again⟩

/-- Process `i`, that is not behind, saves a blob; everyone else is behind. -/
theorem Inv.persist (inv : Inv h) {p : Process} (fits : Resumable next h.backend)
    (cache : p.auth.cache = some next) (opened : p.opened = true) (seen : p.seen = h.writes + 1)
    (granted : p.granted = none)
    (renewed : ∀ c, p.renewed = some c → c = h.backend.current ∧ Storable c ∧
      ∀ q, next.pendingRefresh = some q → h.backend.newest = some (q, c)) :
    Inv { h with
      store := some next
      writes := h.writes + 1
      process := Function.update h.process i p } := by
  refine ⟨⟨next, rfl, fits⟩, inv.apart, inv.cleared, ?_, ?_, ?_⟩
  · intro j blob cached
    by_cases same : j = i
    · subst same
      simp only [Function.update_self] at cached ⊢
      cases cache.symm.trans cached
      exact ⟨opened, fits.login⟩
    · simp only [Function.update_of_ne same] at cached ⊢
      exact inv.login j blob cached
  · intro j
    by_cases same : j = i
    · subst same
      simp only [Function.update_self]
      omega
    · simp only [Function.update_of_ne same]
      have before := inv.seen j
      omega
  · intro j current
    by_cases same : j = i
    · subst same
      simp only [Function.update_self] at current ⊢
      refine ⟨fun blob cached => cached ▸ cache.symm, ?_, ?_⟩
      · intro q given
        rw [granted] at given
        cases given
      · intro c known
        obtain ⟨accepted, storable, again⟩ := renewed c known
        refine ⟨accepted, storable, ?_⟩
        rintro blob q ⟨⟩ pending
        exact again q pending
    · simp only [Function.update_of_ne same] at current
      have before := inv.seen j
      omega

/-! ## One process among others -/

/-- Each process is looked at on its own, and knows itself. -/
def world : Lib.Known Host Answer Nat Process where
  effect
  answers := InTime
  inv := Inv
  knows i y h := h.process i = y

variable {α β : Type} {x y : Process} {Q R : α → Process → Prop}

/-- A section of the process itself. -/
theorem does_own {place : Place} {f : Host → Host} {k : Host → Task α}
    (own : ∀ h, h.process i = x → ∃ y, f h = h.setProcess i y ∧ (Inv h → Inv (f h) ∧
      Does world i (k h) Q y)) : Does world i (.sec place f k) Q x := by
  refine does_sec fun h inv mine => ?_
  obtain ⟨y, same, later⟩ := own h mine
  obtain ⟨inv', later⟩ := later inv
  refine ⟨y, ⟨inv', ?_, ?_⟩, later⟩
  · rw [same]
    exact Function.update_self i _ _
  · intro j ne u knows
    rw [same]
    exact (Function.update_of_ne ne _ _).trans knows

theorem does_auth {c : Account.Call} {k : Reply c → Task α}
    (rest : ∀ h r, Inv h → h.process i = x → InTime (.auth i c) r h →
      Inv (effect (.auth i c) r h) ∧
        Does world i (k r) Q ((effect (.auth i c) r h).process i)) :
    Does world i (.call (.auth i c) k) Q x := by
  refine does_call fun h r inv mine served => ?_
  obtain ⟨inv', later⟩ := rest h r inv mine served
  refine ⟨_, ⟨inv', rfl, ?_⟩, later⟩
  intro j ne u knows
  exact (Function.update_of_ne ne _ _).trans knows

/-! ## What a process runs -/

/-- A part of a command, run by process `i`. -/
abbrev Runs (i : Nat) (p : Account.Task α) (Q : α → Process → Prop) (x : Process) : Prop :=
  Does world i (own i p) Q x

theorem own_bind (p : Account.Task α) (f : α → Account.Task β) :
    own i (p.bind f) = (own i p).bind fun a => own i (f a) := by
  simp only [own, Prog.focus_bind, Prog.called_bind]

theorem runs_bind {p : Account.Task α} {f : α → Account.Task β} {Q : β → Process → Prop}
    (spec : Runs i p (fun a y => Runs i (f a) Q y) x) : Runs i (p.bind f) Q x := by
  rw [Runs, own_bind]
  exact does_bind spec

/-- `?`. -/
theorem runs_then {p : Action α} {f : α → Action β} {Q : Except AuthError β → Process → Prop}
    (spec : Runs i p.run (fun
      | .ok a, y => Runs i (f a).run Q y
      | .error e, y => Q (.error e) y) x) : Runs i (p >>= f).run Q x := by
  refine runs_bind (Does.mono spec ?_)
  intro result y post
  cases result with
  | ok a => exact post
  | error e => exact does_pure post

theorem runs_read {f : State → Action β} {Q : Except AuthError β → Process → Prop}
    (later : ∀ h, Inv h → h.process i = x → Runs i (f (h.view i)).run Q x) :
    Runs i (read >>= f).run Q x := by
  refine does_own fun h mine => ⟨x, ?_, fun inv => ?_⟩
  · rw [← mine]
    rfl
  · have same : Host.put i (h.view i) h = h := by
      have eta : Function.update h.process i (h.process i) = h.process :=
        Function.update_eq_self i h.process
      rw [Host.put, Host.setProcess]
      change { h with process := Function.update h.process i (h.process i) } = h
      rw [eta]
    refine ⟨?_, later h inv mine⟩
    change Inv (Host.put i (h.view i) h)
    rw [same]
    exact inv

theorem runs_ask {c : Account.Call} {f : Account.Answer c → Action β}
    {Q : Except AuthError β → Process → Prop}
    (later : ∀ h r, Inv h → h.process i = x → InTime (.auth i c) r h →
      Inv (effect (.auth i c) r h) ∧
        Runs i (f r.heard).run Q ((effect (.auth i c) r h).process i)) :
    Runs i (ask c >>= f).run Q x :=
  does_auth later

theorem runs_pure {a : α} {Q : Except AuthError α → Process → Prop} (post : Q (.ok a) x) :
    Runs i (pure a : Action α).run Q x := does_pure post

theorem runs_throw {e : AuthError} {Q : Except AuthError α → Process → Prop}
    (post : Q (.error e) x) : Runs i (throw e : Action α).run Q x := does_pure post

theorem runs_stored {r : Except StoreFailure Unit} {Q : Except AuthError Unit → Process → Prop}
    (ok : r = .ok () → Q (.ok ()) x) (failed : ∀ e, r = .error e → Q (.error (.store e)) x) :
    Runs i (stored r).run Q x := by
  cases r with
  | ok => exact runs_pure (ok rfl)
  | error e => exact runs_throw (failed e rfl)

/-- The outcome is recorded. -/
theorem runs_record {outcome : Outcome} {Q : Except AuthError Unit → Process → Prop}
    (post : ∀ y, y.auth.cache = x.auth.cache → y.faulted = x.faulted → Q (.ok ()) y) :
    Runs i (record outcome).run Q x := by
  refine does_own fun h mine => ⟨_, rfl, fun inv => ⟨?_, ?_⟩⟩
  · refine inv.setProcess (inv.login i) (inv.seen i) fun current => ?_
    have knows := inv.knows i current
    exact ⟨knows.cached, knows.granted, knows.renewed⟩
  · subst mine
    exact does_pure (post _ rfl rfl)

/-! ## Answers -/

/-- An answer that does not write the store. -/
theorem effect_unwritten {c : Account.Call} {r : Reply c} (quiet : wrote c r = false)
    (same : (Account.effect c r.heard (h.view i)).store = h.store) :
    effect (.auth i c) r h =
      { h.setProcess i { (h.process i).hears h.writes c r with
          auth := { Account.effect c r.heard (h.view i) with
            store := (h.process i).auth.store } } with
        backend := h.backend.after c r } := by
  have kept : emptied c r = false := by
    cases c with
    | clear => exact quiet
    | _ => rfl
  simp only [effect, quiet, kept, same, Bool.or_false]
  rfl

theorem done_terminal {e : ApiError} {acted : Option (Except ApiError α)}
    (terminal : e.isTerminalCredential = true) : done (.error e) acted = some (.error e) := by
  rw [done, unheard, terminal]
  rfl

/-- A process that has read the store and is not behind. -/
theorem Inv.current (inv : Inv h) (mine : h.process i = x) (fresh : Fresh h i)
    (cached : x.auth.cache = some blob) :
    x.seen = h.writes ∧ h.store = some blob ∧ Resumable blob h.backend ∧ x.Knows h := by
  subst mine
  have seen : (h.process i).seen = h.writes := by
    rcases fresh with closed | seen
    · rw [(inv.login i blob cached).1] at closed
      cases closed
    · exact seen
  have knows := inv.knows i seen
  have here := knows.cached blob cached
  obtain ⟨saved, found, resumable⟩ := inv.saved
  cases here.symm.trans found
  exact ⟨seen, here, resumable, knows⟩

theorem runs_load {f : Except StoreFailure Unit → Action β}
    {Q : Except AuthError β → Process → Prop}
    (ok : ∀ blob y, y.auth.cache = some blob → Login blob → y.faulted = x.faulted →
      Runs i (f (.ok ())).run Q y)
    (failed : ∀ e y, y.faulted = true → Runs i (f (.error e)).run Q y)
    (empty : x.auth.cache = none) : Runs i (ask .load >>= f).run Q x := by
  refine runs_ask fun h r inv mine _ => ?_
  subst mine
  obtain ⟨heard, acted⟩ := r
  cases (heard : Except StoreFailure Unit) with
  | error e =>
    rw [effect_unwritten rfl rfl]
    refine ⟨?_, ?_⟩
    · refine inv.setProcess (inv.login i) (inv.seen i) fun current => ?_
      have knows := inv.knows i current
      exact ⟨knows.cached, knows.granted, knows.renewed⟩
    · simp only [Host.setProcess, Function.update_self]
      exact failed e _ rfl
  | ok =>
    rw [effect_unwritten rfl rfl]
    obtain ⟨saved, found, resumable⟩ := inv.saved
    have loaded : (h.view i).store.getD {} = saved := by
      change h.store.getD {} = saved
      rw [found]
      rfl
    refine ⟨?_, ?_⟩
    · refine inv.setProcess ?_ (Nat.le_refl _) fun _ => ⟨?_, ?_, ?_⟩
      · rintro blob ⟨⟩
        rw [loaded]
        exact ⟨rfl, resumable.login⟩
      · rintro blob ⟨⟩
        rw [loaded]
        exact found
      · exact fun q granted => by cases granted
      · exact fun c renewed => by cases renewed
    · simp only [Host.setProcess, Function.update_self]
      exact ok saved _ (congrArg some loaded) resumable.login rfl

theorem runs_refreshAsk {current : String} {f : Except ApiError String → Action β}
    {Q : Except AuthError β → Process → Prop} (cached : x.auth.cache = some blob)
    (active : blob.activeRefresh = some current) (idle : blob.pendingRefresh = none)
    (ok : ∀ value y, y.auth.cache = some blob → y.granted = some value → y.renewed = none →
      Storable value → y.faulted = x.faulted → Runs i (f (.ok value)).run Q y)
    (failed : ∀ e y, e.isTerminalCredential = false → y.faulted = true →
      Runs i (f (.error e)).run Q y) : Runs i (ask (.refresh current) >>= f).run Q x := by
  refine runs_ask fun h r inv mine served => ?_
  obtain ⟨heard, acted⟩ := r
  obtain ⟨serves, fresh⟩ := served
  obtain ⟨seen, store, resumable, knows⟩ := inv.current mine fresh cached
  have accepted : current = h.backend.current :=
    Option.some.inj (active.symm.trans (resumable.accepted idle))
  have after : Inv { h with backend := h.backend.after (.refresh current) ⟨heard, acted⟩ } := by
    simp only [Backend.after]
    split
    next value _ => exact inv.prepare store idle
    next => exact inv
  subst mine
  rw [effect_unwritten rfl rfl]
  cases (heard : Except ApiError String) with
  | error e =>
    refine ⟨?_, ?_⟩
    · refine after.setProcess (inv.login i) (inv.seen i) fun current => ?_
      have knows := after.knows i current
      exact ⟨knows.cached, knows.granted, knows.renewed⟩
    · simp only [Host.setProcess, Function.update_self]
      have mild : e.isTerminalCredential = false := by
        by_contra terminal
        rw [Bool.not_eq_false] at terminal
        exact serves (.error e) (done_terminal terminal) accepted
      refine failed e _ mild ?_
      simp only [Process.hears, mild, Bool.not_false, Bool.or_true]
  | ok value =>
    have given : ServesRefresh h.backend current (.ok value) := serves (.ok value) rfl
    refine ⟨?_, ?_⟩
    · refine after.setProcess (inv.login i) (inv.seen i) fun now => ?_
      have knows := after.knows i now
      refine ⟨knows.cached, ?_, fun c renewed => by cases renewed⟩
      rintro q ⟨⟩
      exact ⟨List.mem_cons_self, given.2, blob, cached, idle⟩
    · simp only [Host.setProcess, Function.update_self]
      exact ok value _ cached rfl rfl given.2 rfl

theorem runs_commitAsk {f : Except ApiError Tokens → Action β}
    {Q : Except AuthError β → Process → Prop} (cached : x.auth.cache = some blob)
    (pending : blob.pendingRefresh = some q)
    (ok : ∀ tokens y, y.auth.cache = some blob → y.renewed = some tokens.refresh →
      Storable tokens.refresh → y.faulted = (x.faulted || !tokens.access.isOk) →
      Runs i (f (.ok tokens)).run Q y)
    (failed : ∀ e y, e.isTerminalCredential = false → y.faulted = true →
      Runs i (f (.error e)).run Q y) : Runs i (ask (.commit q) >>= f).run Q x := by
  refine runs_ask fun h r inv mine served => ?_
  obtain ⟨heard, acted⟩ := r
  obtain ⟨serves, fresh⟩ := served
  obtain ⟨seen, store, resumable, knows⟩ := inv.current mine fresh cached
  have committable := resumable.committable q pending
  have after : Inv { h with backend := h.backend.after (.commit q) ⟨heard, acted⟩ } := by
    simp only [Backend.after]
    split
    next tokens came => exact inv.commit store pending (serves _ came)
    next => exact inv
  subst mine
  rw [effect_unwritten rfl rfl]
  cases (heard : Except ApiError Tokens) with
  | error e =>
    refine ⟨?_, ?_⟩
    · refine after.setProcess (inv.login i) (inv.seen i) fun current => ?_
      have knows := after.knows i current
      exact ⟨knows.cached, knows.granted, knows.renewed⟩
    · simp only [Host.setProcess, Function.update_self]
      have mild : e.isTerminalCredential = false := by
        by_contra terminal
        rw [Bool.not_eq_false] at terminal
        have refused : ServesCommit h.backend q (.error e) :=
          serves (.error e) (done_terminal terminal)
        rcases committable with prepared | ⟨newest, -⟩
        · exact refused.1 prepared
        · exact refused.2 _ newest rfl
      refine failed e _ mild ?_
      simp only [Process.hears, mild, Bool.not_false, Bool.or_true]
  | ok tokens =>
    have given : ServesCommit h.backend q (.ok tokens) := serves (.ok tokens) rfl
    obtain ⟨current, fits, newest⟩ := Backend.commit_newest committable given
    refine ⟨?_, ?_⟩
    · refine after.setProcess (inv.login i) (inv.seen i) fun now => ?_
      have knows := after.knows i now
      refine ⟨knows.cached, knows.granted, ?_⟩
      rintro c ⟨⟩
      refine ⟨current.symm, fits, ?_⟩
      intro stored q' same other
      cases store.symm.trans same
      cases pending.symm.trans other
      exact newest
    · simp only [Host.setProcess, Function.update_self]
      exact ok tokens _ cached rfl fits rfl

theorem runs_persist {f : Except StoreFailure Unit → Action β}
    {Q : Except AuthError β → Process → Prop} (cached : x.auth.cache = some blob)
    (fits : ∀ h, Resumable blob h.backend → x.Knows h → Resumable next h.backend)
    (old : ∀ c, x.renewed = some c → ∀ q, next.pendingRefresh = some q →
      blob.pendingRefresh = some q)
    (ok : ∀ y, y.auth.cache = some next → y.renewed = x.renewed → y.faulted = x.faulted →
      Runs i (f (.ok ())).run Q y)
    (failed : ∀ e y, y.faulted = true → Runs i (f (.error e)).run Q y) :
    Runs i (ask (.persist next) >>= f).run Q x := by
  refine runs_ask fun h r inv mine served => ?_
  obtain ⟨seen, store, resumable, knows⟩ := inv.current mine served.2 cached
  subst mine
  obtain ⟨heard, acted⟩ := r
  cases (heard : Except StoreFailure Unit) with
  | error e =>
    rw [effect_unwritten rfl rfl]
    refine ⟨?_, ?_⟩
    · refine inv.setProcess (inv.login i) (inv.seen i) fun current => ?_
      exact ⟨knows.cached, knows.granted, knows.renewed⟩
    · simp only [Host.setProcess, Function.update_self]
      exact failed e _ rfl
  | ok =>
    have good := fits h resumable knows
    have full : next.persisted = some next := by
      have some_ := good.login.1
      rw [CredentialBlob.persisted, if_neg]
      intro empty
      simp only [CredentialBlob.isEmpty, Bool.and_eq_true] at empty
      rw [Option.isNone_iff_eq_none.mp empty.1.1] at some_
      cases some_
    have same : effect (.auth i (.persist next)) ⟨.ok (), acted⟩ h =
        { h with
          store := some next
          writes := h.writes + 1
          process := Function.update h.process i
            { (h.process i).hears (h.writes + 1) (.persist next) ⟨.ok (), acted⟩ with
              auth := { (h.process i).auth with cache := some next } } } := by
      simp only [effect, wrote, emptied, Account.effect, full, Bool.or_false, if_true]
      rfl
    rw [same]
    refine ⟨?_, ?_⟩
    · refine inv.persist good rfl rfl rfl rfl ?_
      intro c renewed
      obtain ⟨accepted, storable, again⟩ := knows.renewed c renewed
      exact ⟨accepted, storable, fun q pending => again blob q store (old c renewed q pending)⟩
    · simp only [Function.update_self]
      exact ok _ rfl rfl rfl

/-! ## The saved login -/

/-- The process has read a login that no activation was left of. -/
def Holds (x : Process) : Prop :=
  ∃ blob, x.auth.cache = some blob ∧ Login blob ∧ blob.pendingActivation = none

/-- How a part of a command ends: as `good` says, or by a fault. -/
def Ends (x : Process) (good : α → Process → Prop) : Except AuthError α → Process → Prop
  | .ok a, y => y.faulted = x.faulted ∧ good a y
  | .error e, y => e.isTerminal = false ∧ y.faulted = true

variable {good : α → Process → Prop}

/-- A part of a command ends as it would have from before. -/
theorem Runs.ends {p : Account.Task (Except AuthError α)} (spec : Runs i p (Ends y good) y)
    (same : y.faulted = x.faulted) : Runs i p (Ends x good) y := by
  refine Does.mono spec ?_
  intro result z post
  cases result with
  | ok a => exact ⟨post.1.trans same, post.2⟩
  | error e => exact post

theorem runs_loaded {Q : Except AuthError CredentialBlob → Process → Prop}
    (cached : x.auth.cache = some blob) (post : Login blob → Q (.ok blob) x) :
    Runs i loaded.run Q x := by
  refine runs_read fun h inv mine => ?_
  have here : (h.view i).cache = some blob := by
    rw [Host.view, mine]
    exact cached
  rw [here]
  refine runs_pure (post ?_)
  subst mine
  exact (inv.login i blob cached).2

/-- The store is read. -/
theorem runs_opened {Q : Except AuthError CredentialBlob → Process → Prop}
    (empty : x.auth.cache = none)
    (ok : ∀ blob y, y.auth.cache = some blob → Login blob → y.faulted = x.faulted →
      Q (.ok blob) y)
    (failed : ∀ e y, y.faulted = true → Q (.error (.store e)) y) : Runs i loaded.run Q x := by
  refine runs_read fun h inv mine => ?_
  have here : (h.view i).cache = none := by
    rw [Host.view, mine]
    exact empty
  rw [here]
  refine runs_load ?_ ?_ empty
  · intro blob y cached login same
    refine runs_then (runs_stored (fun _ => ?_) fun e failed => by cases failed)
    refine runs_read fun h inv mine => runs_pure ?_
    have here : (h.view i).cache = some blob := by
      rw [Host.view, mine]
      exact cached
    rw [here]
    exact ok blob y cached login same
  · intro e y fault
    refine runs_then (runs_stored (fun ok => by cases ok) fun e' _ => ?_)
    exact failed e' y fault

theorem runs_get {slot : Slot} {Q : Except AuthError (Option String) → Process → Prop}
    (cached : x.auth.cache = some blob) (post : Login blob → Q (.ok (blob.slot slot)) x) :
    Runs i (get slot).run Q x :=
  runs_then (runs_loaded cached fun login => runs_pure (post login))

/-- A blob is persisted, and nothing follows. -/
theorem runs_saved {Q : Except AuthError Unit → Process → Prop} (cached : x.auth.cache = some blob)
    (fits : ∀ h, Resumable blob h.backend → x.Knows h → Resumable next h.backend)
    (old : ∀ c, x.renewed = some c → ∀ q, next.pendingRefresh = some q →
      blob.pendingRefresh = some q)
    (ok : ∀ y, y.auth.cache = some next → y.renewed = x.renewed → y.faulted = x.faulted →
      Q (.ok ()) y)
    (failed : ∀ e y, y.faulted = true → Q (.error (.store e)) y) :
    Runs i (ask (.persist next) >>= fun r => stored r).run Q x := by
  refine runs_persist cached fits old ?_ ?_
  · intro y now same fault
    exact runs_stored (fun _ => ok y now same fault) fun e failed => by cases failed
  · intro e y fault
    exact runs_stored (fun ok => by cases ok) fun e' _ => failed e' y fault

theorem runs_set (slot : Slot) {Q : Except AuthError Unit → Process → Prop}
    (cached : x.auth.cache = some blob) (storable : Storable value)
    (fits : ∀ h, Resumable blob h.backend → x.Knows h →
      Resumable (blob.set slot (some value)) h.backend)
    (old : ∀ c, x.renewed = some c → ∀ q, (blob.set slot (some value)).pendingRefresh = some q →
      blob.pendingRefresh = some q)
    (ok : ∀ y, y.auth.cache = some (blob.set slot (some value)) → y.renewed = x.renewed →
      y.faulted = x.faulted → Q (.ok ()) y)
    (failed : ∀ e y, y.faulted = true → Q (.error (.store e)) y) :
    Runs i (set slot value).run Q x := by
  rw [set, if_neg (Nat.not_lt.mpr storable)]
  exact runs_then (runs_loaded cached fun _ => runs_saved cached fits old ok failed)

theorem runs_delete (slot : Slot) {Q : Except AuthError Unit → Process → Prop}
    (cached : x.auth.cache = some blob) (some_ : (blob.slot slot).isNone = false)
    (fits : ∀ h, Resumable blob h.backend → x.Knows h → Resumable (blob.set slot none) h.backend)
    (old : ∀ c, x.renewed = some c → ∀ q, (blob.set slot none).pendingRefresh = some q →
      blob.pendingRefresh = some q)
    (ok : ∀ y, y.auth.cache = some (blob.set slot none) → y.renewed = x.renewed →
      y.faulted = x.faulted → Q (.ok ()) y)
    (failed : ∀ e y, y.faulted = true → Q (.error (.store e)) y) :
    Runs i (delete slot).run Q x := by
  refine runs_then (runs_loaded cached fun _ => ?_)
  dsimp only
  rw [if_neg (by rw [some_]; exact Bool.false_ne_true)]
  exact runs_saved cached fits old ok failed

/-! ## A refresh -/

theorem runs_committed {current : String} (cached : x.auth.cache = some blob)
    (settled : blob.pendingActivation = none) (pending : blob.pendingRefresh = some q) :
    Runs i (committed current q).run (Ends x fun _ y => Holds y) x := by
  refine runs_commitAsk cached pending ?_ ?_
  · intro tokens y cached renewed fits same
    obtain ⟨token, refresh⟩ := tokens
    cases token with
    | error reason =>
      refine runs_throw ⟨rfl, ?_⟩
      rw [same]
      exact Bool.or_true _
    | ok access =>
      have same : y.faulted = x.faulted := same.trans (Bool.or_false _)
      refine runs_then (runs_set .active cached fits ?_ ?_ ?_ ?_)
      · intro h resumable knows
        refine ⟨⟨rfl, .inl settled⟩, ?_, resumable.committable⟩
        intro idle
        cases pending.symm.trans idle
      · exact fun c _ q same => same
      · intro z cached' renewed' same'
        refine runs_then (runs_delete .pendingRefresh cached' ?_ ?_ ?_ ?_ ?_)
        · change blob.pendingRefresh.isNone = false
          rw [pending]
          rfl
        · intro h resumable knows
          refine ⟨⟨rfl, .inl settled⟩, fun _ => ?_, fun q none_ => by cases none_⟩
          rw [← (knows.renewed refresh (renewed'.trans renewed)).1]
          rfl
        · exact fun c _ q none_ => by cases none_
        · intro w cached'' renewed'' same''
          refine runs_then (runs_record fun v last kept => runs_pure ?_)
          refine ⟨kept.trans (same''.trans (same'.trans same)), _, last.trans cached'', ?_⟩
          exact ⟨⟨rfl, .inl settled⟩, settled⟩
        · exact fun e w fault => ⟨rfl, fault⟩
      · exact fun e z fault => ⟨rfl, fault⟩
  · intro e y mild fault
    exact runs_throw ⟨mild, fault⟩

theorem runs_refresh (holds : Holds x) :
    Runs i refresh.run (Ends x fun _ y => Holds y) x := by
  obtain ⟨blob, cached, login, settled⟩ := holds
  refine runs_then (runs_get cached fun _ => ?_)
  cases active : blob.slot .active with
  | none =>
    have some_ := login.1
    rw [show blob.activeRefresh = none from active] at some_
    cases some_
  | some current =>
    refine runs_then (runs_get cached fun _ => ?_)
    cases pending : blob.slot .pendingRefresh with
    | some q => exact runs_committed cached settled pending
    | none =>
      refine runs_refreshAsk cached active pending ?_ ?_
      · intro value y cached granted fresh fits same
        refine runs_then (runs_set .pendingRefresh cached fits ?_ ?_ ?_ ?_)
        · intro h resumable knows
          refine ⟨⟨login.1, .inl settled⟩, (fun idle => by cases idle), ?_⟩
          rintro q ⟨⟩
          exact .inl (knows.granted value granted).1
        · intro c renewed
          rw [fresh] at renewed
          cases renewed
        · intro z cached' _ same'
          exact (runs_committed cached' settled rfl).ends (same'.trans same)
        · exact fun e z fault => ⟨rfl, fault⟩
      · intro e y mild fault
        exact runs_throw ⟨mild, fault⟩

/-- Nothing is cleared. -/
theorem runs_orClear {action : Action α} (spec : Runs i action.run (Ends x good) x) :
    Runs i (orClear action).run (Ends x good) x := by
  refine runs_bind (Does.mono spec ?_)
  intro result y post
  cases result with
  | ok a => exact does_pure post
  | error e =>
    have mild : e.isTerminal = false := post.1
    simp only [mild]
    exact does_pure post

theorem runs_restoreActive (holds : Holds x) :
    Runs i restoreActive.run (Ends x fun signedIn y => signedIn.isSome = true ∧ Holds y) x := by
  have here := holds
  obtain ⟨blob, cached, login, settled⟩ := holds
  refine runs_then (runs_get cached fun _ => ?_)
  cases active : blob.slot .active with
  | none =>
    have some_ := login.1
    rw [show blob.activeRefresh = none from active] at some_
    cases some_
  | some credential =>
    refine runs_then (Does.mono (runs_orClear (runs_refresh here)) ?_)
    intro result y post
    cases result with
    | error e => exact post
    | ok access =>
      obtain ⟨same, blob, cached, login, settled⟩ := post
      refine runs_then (runs_record fun z last same' => runs_pure ?_)
      exact ⟨same'.trans same, rfl, blob, last.trans cached, login, settled⟩

/-- A restore signs in, or there is a fault. -/
theorem runs_restore (empty : x.auth.cache = none) :
    Runs i restore.run (Ends x fun signedIn y => signedIn.isSome = true ∧ Holds y) x := by
  refine runs_then (runs_then (runs_opened empty ?_ ?_))
  · intro blob y cached login same
    refine runs_pure ?_
    cases held : blob.slot .pendingActivation with
    | none => exact (runs_restoreActive ⟨blob, cached, login, held⟩).ends same
    | some pending =>
      have active : blob.slot .active = some pending := by
        rcases login.2 with none_ | held'
        · cases none_.symm.trans held
        · exact held'.symm.trans held
      refine runs_then (runs_get cached fun _ => ?_)
      dsimp only
      rw [if_pos active]
      refine runs_then (runs_delete .pendingActivation cached ?_ ?_ ?_ ?_ ?_)
      · rw [held]
        rfl
      · intro h resumable knows
        exact ⟨⟨login.1, .inl rfl⟩, resumable.accepted, resumable.committable⟩
      · exact fun c _ q same => same
      · intro z cached' _ same'
        refine (runs_restoreActive ⟨_, cached', ⟨login.1, .inl rfl⟩, rfl⟩).ends ?_
        exact same'.trans same
      · exact fun e z fault => ⟨rfl, fault⟩
  · exact fun e y fault => ⟨rfl, fault⟩

/-! ## Every run -/

theorem runs_accessToken (empty : x.auth.cache = none) :
    Runs i accessToken.run (Ends x fun _ y => Holds y) x := by
  refine runs_then (Does.mono (runs_restore empty) ?_)
  intro result y post
  cases result with
  | error e => exact post
  | ok signedIn =>
    obtain ⟨same, some_, holds⟩ := post
    cases signedIn with
    | none => cases some_
    | some signedIn => exact runs_pure ⟨same, holds⟩

theorem does_profile {access : String} {k : Except ApiError String → Task α}
    (later : ∀ r, Does world i (k r) Q x) : Does world i (.call (.profile access) k) Q x :=
  fun _ _ _ r kept _ => ⟨_, kept, later r⟩

theorem does_downloadProfile : Does world i (downloadProfile i) (fun _ _ => True) {} := by
  refine does_bind (Does.mono (runs_accessToken rfl) ?_)
  intro token y post
  cases token with
  | error e => exact does_pure trivial
  | ok token =>
    refine does_profile fun profile => ?_
    cases profile with
    | ok raw => exact does_pure trivial
    | error e =>
      change Does world i (ite (e.isUnauthorized = true) _ _) _ y
      by_cases refused : e.isUnauthorized = true
      · rw [if_pos refused]
        refine does_bind (Does.mono (runs_orClear (runs_refresh post.2)) ?_)
        intro token z _
        cases token with
        | error e => exact does_pure trivial
        | ok token =>
          refine does_profile fun profile => ?_
          cases profile <;> exact does_pure trivial
      · rw [if_neg refused]
        exact does_pure trivial

theorem does_command (command : Command) : Does world i (command.task i) (fun _ _ => True) {} := by
  cases command with
  | account => exact does_bind (Does.mono (runs_accessToken rfl) fun _ _ _ => does_pure trivial)
  | profile => exact does_bind (Does.mono does_downloadProfile fun _ _ _ => does_pure trivial)

/-- A saved login that the backend knows. -/
structure Usable (store : Option CredentialBlob) (backend : Backend) : Prop where
  saved : ∃ blob, store = some blob ∧ Resumable blob backend
  apart : ∀ last, backend.newest = some last → last.1 ∉ backend.prepared

variable {store : Option CredentialBlob} {backend : Backend} {commands : List Command}
  {p : Pool Host Place Answer Unit}

theorem Usable.inv (usable : Usable store backend) : Inv { store, backend } := by
  refine ⟨usable.saved, usable.apart, rfl, ?_, fun _ => Nat.le_refl _, ?_⟩
  · intro i blob cached
    cases cached
  · intro i _
    refine ⟨?_, ?_, ?_⟩
    · exact fun blob cached => by cases cached
    · exact fun q granted => by cases granted
    · exact fun c renewed => by cases renewed

theorem reached_inv (usable : Usable store backend)
    (reached : Reaches effect (Asks InTime) (start store backend commands) p) : Inv p.state := by
  have entries : (start store backend commands).tasks =
      (commands.zipIdx.map fun x => (⟨x.2, {}, x.1.task x.2⟩ :
        Entry Host Place Answer Nat Process Unit)).map fun e => { prog := e.prog } := by
    rw [List.map_map]
    rfl
  refine Reaches.known (K := world) (q := start store backend commands) ?_ ?_ usable.inv ?_
    entries reached
  · intro e mem
    obtain ⟨x, -, rfl⟩ := List.mem_map.mp mem
    exact does_command x.1
  · rw [List.map_map]
    change (commands.zipIdx.map Prod.snd).Nodup
    rw [List.zipIdx_map_snd]
    exact List.nodup_range'
  · intro e mem
    obtain ⟨x, -, rfl⟩ := List.mem_map.mp mem
    rfl

/-! ## A new process -/

/-- No store call fails, no answer is lost, every token is trusted. -/
def Faultless : (c : Call) → Answer c → Prop
  | .auth _ .load, r => r.heard = .ok ()
  | .auth _ (.persist _), r => r.heard = .ok ()
  | .auth _ .clear, r => r.heard = .ok ()
  | .auth _ (.refresh _), r => unheard (α := String) r.heard = false
  | .auth _ (.commit _), r => unheard (α := Tokens) r.heard = false ∧
      ∀ tokens, r.heard = .ok tokens → tokens.access.isOk = true
  | _, _ => True

/-- A process alone is never behind, and has no fault. -/
theorem alone_call {c : Account.Call} {r : Reply c} (fresh : Fresh h i)
    (sound : (h.process i).faulted = false) (faultless : Faultless (.auth i c) r) :
    Fresh (effect (.auth i c) r h) i ∧
      ((effect (.auth i c) r h).process i).faulted = false := by
  obtain ⟨heard, acted⟩ := r
  simp only [Fresh, effect, Function.update_self]
  cases c with
  | load | persist | clear =>
    cases (faultless : heard = .ok ())
    exact ⟨.inr rfl, sound⟩
  | refresh asked =>
    cases (heard : Except ApiError String) with
    | ok value => exact ⟨fresh, sound⟩
    | error e =>
      refine ⟨fresh, ?_⟩
      have told : (!e.isTerminalCredential) = false := faultless
      simp only [Process.hears, sound, told, Bool.or_self]
  | commit asked =>
    cases (heard : Except ApiError Tokens) with
    | ok tokens =>
      refine ⟨fresh, ?_⟩
      have trusted : tokens.access.isOk = true := faultless.2 tokens rfl
      simp only [Process.hears, sound, trusted, Bool.not_true, Bool.or_self]
    | error e =>
      refine ⟨fresh, ?_⟩
      have told : (!e.isTerminalCredential) = false := faultless.1
      simp only [Process.hears, sound, told, Bool.or_self]
  | _ => exact ⟨fresh, sound⟩

theorem Fresh.timely {c : Account.Call} (fresh : Fresh h i) : Timely (.auth i c) h := by
  cases c with
  | refresh | commit | persist | clear => exact fresh
  | _ => trivial

theorem alone_section {s : State} (fresh : Fresh h i) (sound : (h.process i).faulted = false) :
    Fresh (h.put i s) i ∧ ((h.put i s).process i).faulted = false := by
  simp only [Fresh, Host.put, Host.setProcess, Function.update_self]
  exact ⟨fresh, sound⟩

/-- What a process that runs alone ends with. -/
theorem runs_alone {p : Account.Task α} {oracle : Host → (c : Call) → Answer c}
    {Q : α → Multiset (Nat × Process) → Prop} {owed : Multiset (Nat × Process)}
    (backs : ∀ h c, Backs c (oracle h c) h) (faultless : ∀ h c, Faultless c (oracle h c))
    (pays : Pays world.books (own i p) owed Q) (kept : ∀ held, world.books.inv held h owed)
    (fresh : Fresh h i) (sound : (h.process i).faulted = false) :
    ∃ owed, Q ((own i p).answerBy effect oracle h).1 owed ∧
      world.books.inv false ((own i p).answerBy effect oracle h).2 owed ∧
      (((own i p).answerBy effect oracle h).2.process i).faulted = false := by
  induction p generalizing h owed with
  | ret a => exact ⟨owed, pays, kept false, sound⟩
  | sec place f k ih =>
    have here := kept false
    rw [← add_zero owed] at here
    obtain ⟨owed', kept', later⟩ := pays false h 0 here
    rw [add_zero] at kept'
    obtain ⟨fresh', sound'⟩ := alone_section (s := f (h.view i)) fresh sound
    exact ih (h.view i) later (fun _ => kept') fresh' sound'
  | call c k ih =>
    have here := kept false
    rw [← add_zero owed] at here
    obtain ⟨owed', kept', later⟩ := pays false h 0 (oracle h (.auth i c)) here
      ⟨backs h (.auth i c), fresh.timely⟩
    rw [add_zero] at kept'
    obtain ⟨fresh', sound'⟩ := alone_call fresh sound (faultless h (.auth i c))
    exact ih _ later (fun _ => kept') fresh' sound'
  | lock timed k ih =>
    have here := kept false
    rw [← add_zero owed] at here
    obtain ⟨owed', kept', later⟩ := pays.1 h 0 here
    rw [add_zero] at kept'
    exact ih true later (fun _ => kept') fresh sound
  | unlock k ih =>
    have here := kept true
    rw [← add_zero owed] at here
    obtain ⟨owed', kept', later⟩ := pays h 0 here
    rw [add_zero] at kept'
    exact ih later (fun _ => kept') fresh sound

/-- No command clears the saved login, and whenever the others stop, the restore
of a new process signs in. -/
theorem login_outlives (usable : Usable store backend)
    (reached : Reaches effect (Asks InTime) (start store backend commands) p) :
    p.state.cleared = false ∧
    ∀ i, p.state.process i = {} → ∀ oracle : Host → (c : Call) → Answer c,
      (∀ h c, Backs c (oracle h c) h) → (∀ h c, Faultless c (oracle h c)) →
      ∃ signedIn, ((own i restore.run).answerBy effect oracle p.state).1 = .ok (some signedIn) := by
  have inv := reached_inv usable reached
  refine ⟨inv.cleared, ?_⟩
  intro i new oracle backs faultless
  have runs : Runs i restore.run _ {} := runs_restore rfl
  obtain ⟨owed, ⟨y, rfl, ends⟩, ⟨-, -, each⟩, sound⟩ := runs_alone backs faultless runs
    (fun _ => ⟨inv, Multiset.nodup_singleton _, fun own mem => by
      rw [Multiset.mem_singleton.mp mem]
      exact new⟩)
    (.inl (by rw [new])) (by rw [new])
  have mine := each (i, y) (Multiset.mem_singleton_self _)
  cases result : ((own i restore.run).answerBy effect oracle p.state).1 with
  | error e =>
    rw [result] at ends
    rw [mine, ends.2] at sound
    cases sound
  | ok signedIn =>
    rw [result] at ends
    obtain ⟨signedIn, rfl⟩ := Option.isSome_iff_exists.mp ends.2.1
    exact ⟨signedIn, rfl⟩

/-! ## Runs that can be executed -/

instance ServesRefresh.decidable (asked : String) : DecidablePred (ServesRefresh b asked)
  | .ok _ => instDecidableAnd
  | .error _ => instDecidableNot

instance ServesCommit.decidable (asked : String) : DecidablePred (ServesCommit b asked)
  | .ok tokens => inferInstanceAs (Decidable ((asked ∈ b.prepared → Storable tokens.refresh) ∧
      (asked ∉ b.prepared → ∀ last ∈ b.newest, last.1 = asked → tokens.refresh = last.2)))
  | .error _ => inferInstanceAs (Decidable (asked ∉ b.prepared ∧ ∀ last ∈ b.newest, last.1 ≠ asked))

instance Served.decidable (serves : Except ApiError α → Prop) [DecidablePred serves]
    (heard : Except ApiError α) (acted : Option (Except ApiError α)) :
    Decidable (Served serves heard acted) :=
  inferInstanceAs (Decidable (∀ r ∈ done heard acted, serves r))

instance Backs.decidable (h : Host) : (c : Call) → (r : Answer c) → Decidable (Backs c r h)
  | .auth _ (.refresh asked), r =>
    Served.decidable (ServesRefresh h.backend asked) r.heard r.acted
  | .auth _ (.commit asked), r =>
    Served.decidable (ServesCommit h.backend asked) r.heard r.acted
  | .auth _ .load, _ | .auth _ (.persist _), _ | .auth _ .clear, _ | .auth _ .deviceCode, _
  | .auth _ .wait, _ | .auth _ (.deviceToken _), _ | .auth _ (.activate _ _), _
  | .auth _ (.revoke _), _ | .auth _ (.account _ _), _ | .auth _ (.begin _), _
  | .auth _ (.returned _ _ _), _ | .profile _, _ => isTrue trivial

instance Fresh.decidable (h : Host) (i : Nat) : Decidable (Fresh h i) := instDecidableOr

instance Timely.decidable (h : Host) : (c : Call) → Decidable (Timely c h)
  | .auth _ (.refresh _) | .auth _ (.commit _) | .auth _ (.persist _) | .auth _ .clear =>
    Fresh.decidable h _
  | .auth _ .load | .auth _ .deviceCode | .auth _ .wait | .auth _ (.deviceToken _)
  | .auth _ (.activate _ _) | .auth _ (.revoke _) | .auth _ (.account _ _) | .auth _ (.begin _)
  | .auth _ (.returned _ _ _) | .profile _ => isTrue trivial

instance InTime.decidable (h : Host) (c : Call) (r : Answer c) : Decidable (InTime c r h) :=
  instDecidableAnd

/-- The store answers, the backend prepares "b" and commits "c". -/
def answering : (c : Call) → Answer c
  | .auth _ c => ⟨match c with
    | .load | .persist _ | .clear => .ok ()
    | .deviceCode => .ok "d"
    | .wait => false
    | .deviceToken _ => .ok ⟨"authorized", none⟩
    | .activate _ _ | .commit _ => .ok ⟨.ok "t", "c"⟩
    | .revoke _ => .ok ()
    | .account _ _ => .ok "n"
    | .refresh _ => .ok "b"
    | .begin _ | .returned _ _ _ => (), none⟩
  | .profile _ => .ok "p"

/-- The same, but the credential is refused. -/
def refusing : (c : Call) → Answer c
  | .auth _ (.refresh _) => ⟨(.error (.status 401 none) : Except ApiError String), none⟩
  | c => answering c

def steps (oracle : (c : Call) → Answer c) (i n : Nat) : List (Move Answer) :=
  (List.replicate n [.go i, .answer i oracle]).flatten

/-- The backend that knows "a", and a device signed in with it. -/
def signedIn (commands : List Command) : Pool Host Place Answer Unit :=
  start (some { activeRefresh := some "a" }) { current := "a" } commands

/-- One command after the other. -/
def inOrder : Pool Host Place Answer Unit :=
  (signedIn [.account, .profile]).play effect (Asks InTime)
    (steps answering 0 30 ++ steps answering 1 30)

def Backend.refreshed (b : Backend) (asked : String) : Except ApiError String :=
  if asked = b.current then .ok "e" else .error (.status 401 none)

def Backend.committed (b : Backend) (asked : String) : Except ApiError Tokens :=
  if asked ∈ b.prepared then .ok ⟨.ok "t", "f"⟩
  else match b.newest with
    | some last => if last.1 = asked then .ok ⟨.ok "t", last.2⟩ else .error (.status 401 none)
    | none => .error (.status 401 none)

theorem Backend.refreshed_serves (asked : String) : ServesRefresh b asked (b.refreshed asked) := by
  rw [Backend.refreshed]
  split
  next same => exact ⟨same, by decide⟩
  next other => exact other

theorem Backend.committed_serves (asked : String) : ServesCommit b asked (b.committed asked) := by
  rw [Backend.committed]
  split
  next prepared =>
    exact ⟨fun _ => (by decide : Storable "f"), fun not => absurd prepared not⟩
  next not =>
    split
    next last newest =>
      split
      next same =>
        refine ⟨fun prepared => absurd prepared not, ?_⟩
        intro _ last' newest' _
        cases newest.symm.trans newest'
        rfl
      next other =>
        refine ⟨not, ?_⟩
        intro last' newest'
        cases newest.symm.trans newest'
        exact other
    next newest =>
      refine ⟨not, ?_⟩
      intro last newest'
      cases newest.symm.trans newest'

theorem Backend.refreshed_told (asked : String) : unheard (b.refreshed asked) = false := by
  rw [Backend.refreshed]
  split <;> rfl

theorem Backend.committed_told (asked : String) : unheard (b.committed asked) = false ∧
    ∀ tokens, b.committed asked = .ok tokens → tokens.access.isOk = true := by
  have all : b.committed asked = .error (.status 401 none) ∨
      ∃ c, b.committed asked = .ok ⟨.ok "t", c⟩ := by
    rw [Backend.committed]
    split
    next => exact .inr ⟨_, rfl⟩
    next =>
      split
      next =>
        split
        next => exact .inr ⟨_, rfl⟩
        next => exact .inl rfl
      next => exact .inl rfl
  rcases all with refused | ⟨c, told⟩
  · rw [refused]
    exact ⟨rfl, fun tokens told => by cases told⟩
  · rw [told]
    refine ⟨rfl, ?_⟩
    rintro tokens ⟨⟩
    rfl

theorem served {serves : Except ApiError α → Prop} {heard : Except ApiError α}
    (kept : serves heard) : Served serves heard none := by
  intro r answered
  rw [done] at answered
  split at answered
  next => cases answered
  next =>
    cases answered
    exact kept

/-- Every answer is the backend's word, and none is lost. -/
def told (h : Host) : (c : Call) → Answer c
  | .auth _ (.refresh asked) => ⟨h.backend.refreshed asked, none⟩
  | .auth _ (.commit asked) => ⟨h.backend.committed asked, none⟩
  | c => answering c

theorem told_backs (h : Host) (c : Call) : Backs c (told h c) h := by
  cases c with
  | profile access => trivial
  | auth i c =>
    cases c with
    | refresh asked => exact served (h.backend.refreshed_serves asked)
    | commit asked => exact served (h.backend.committed_serves asked)
    | _ => trivial

theorem told_faultless (h : Host) (c : Call) : Faultless c (told h c) := by
  cases c with
  | profile access => trivial
  | auth i c =>
    cases c with
    | refresh asked => exact h.backend.refreshed_told asked
    | commit asked => exact h.backend.committed_told asked
    | load | persist | clear => exact (rfl : Except.ok () = _)
    | _ => trivial

theorem login_outlives_in_order : inOrder.done = true ∧ inOrder.state.cleared = false ∧
    ∃ signedIn, ((own 2 restore.run).answerBy effect told inOrder.state).1 = .ok (some signedIn) := by
  have usable : Usable (some { activeRefresh := some "a" }) { current := "a" } := by
    refine ⟨⟨_, rfl, ⟨rfl, .inl rfl⟩, fun _ => rfl, ?_⟩, ?_⟩
    · rintro q ⟨⟩
    · rintro last ⟨⟩
  have reached : Reaches effect (Asks InTime) (signedIn [.account, .profile]) inOrder :=
    Reaches.of_play _ _
  have outlives := login_outlives usable reached
  have new : inOrder.state.process 2 = {} := by decide +kernel
  exact ⟨by decide +kernel, outlives.1, outlives.2 2 new told told_backs told_faultless⟩

/-- Both commands load the credential, the first rotates it, the second presents
the old one. -/
def sideBySide : Pool Host Place Answer Unit :=
  (signedIn [.account, .profile]).play effect (Asks Backs)
    (steps answering 1 5 ++ steps answering 0 30 ++ steps refusing 1 30)

/-- The backend does what is asked of it; the store is cleared, and a new process
is not signed in. -/
theorem logged_out :
    Reaches effect (Asks Backs) (signedIn [.account, .profile]) sideBySide ∧
    sideBySide.done = true ∧ sideBySide.state.cleared = true ∧ sideBySide.state.store = none ∧
    ((own 2 restore.run).answerBy effect told sideBySide.state).1 = .ok none := by
  refine ⟨Reaches.of_play _ _, ?_⟩
  decide +kernel

end PpvpnCore.Account.Shared
