import Mathlib.Data.List.Chain
import PpvpnCore.LocalDns.Cache

/-!
dns-local answers from the current network: what a run of the cache returns
comes from a discovery on the interface asked about that no invalidation has
overtaken, and discoveries are neither made too often nor put off.
-/

namespace PpvpnCore.LocalDns

/-! ## The history -/

theorem tries_append (history : List Happening) (h : Happening) :
    tries (history ++ [h]) = tries history ++ tries [h] := List.filterMap_append

theorem holding_append (history : List Happening) (h : Happening) :
    holding (history ++ [h]) = note (holding history) h := by
  unfold holding
  rw [List.foldl_append]
  rfl

theorem holding_mem {history : List Happening} {d : Discovery} {marked : Bool}
    (held : holding history = some (d, marked)) : d ∈ tries history := by
  induction history using List.reverseRecOn generalizing d marked with
  | nil => cases held
  | append_singleton history h ih =>
    rw [holding_append] at held
    rw [tries_append]
    cases h with
    | failed =>
      obtain ⟨⟨d', marked'⟩, before, same⟩ := Option.map_eq_some_iff.1 held
      cases same
      exact List.mem_append_left _ (ih before)
    | tried t =>
      simp only [note] at held
      split at held
      · exact List.mem_append_left _ (ih held)
      · cases held
        exact List.mem_append_right _ (List.mem_singleton_self _)

/-! ## One look -/

theorem State.same_iff {st : State} {iface : Interface} {gen : Nat} :
    st.same iface gen = true ↔ st.read = true ∧ st.readGen = gen ∧ st.ifIndex = iface.index := by
  simp [State.same, and_assoc]

theorem State.held_ok {st : State} {iface iface' : Interface} {now gen : Nat} {servers : List Server}
    (held : st.held iface now gen = some (.ok (iface', servers))) :
    iface' = iface ∧ servers = st.servers ∧ st.servers ≠ [] ∧ st.same iface gen = true := by
  unfold State.held at held
  split at held
  · rename_i fresh
    cases held
    exact ⟨rfl, rfl, fresh.2.1, fresh.1⟩
  · split at held
    · rename_i soon
      split at held
      · split at held
        · rename_i some
          cases held
          exact ⟨rfl, rfl, some, soon.1⟩
        · cases held
      · cases held
    · cases held

theorem State.held_none_iff {st : State} {iface : Interface} {now gen : Nat} :
    st.held iface now gen = none ↔
      (st.same iface gen = true →
        (st.servers ≠ [] → st.stale = false → softRefresh ≤ now - st.readAt) ∧
        retryInterval ≤ now - st.triedAt) := by
  unfold State.held
  split
  · rename_i fresh
    simp only [reduceCtorEq, false_iff]
    intro late
    have old := (late fresh.1).1 fresh.2.1 fresh.2.2.1
    omega
  · rename_i old
    split
    · rename_i soon
      simp only [reduceCtorEq, false_iff]
      intro late
      have again := (late soon.1).2
      omega
    · rename_i late
      simp only [true_iff]
      intro same
      constructor
      · intro some current
        by_contra young
        exact old ⟨same, some, current, by omega⟩
      · by_contra soon
        exact late ⟨same, by omega⟩

/-! ## What holds of every run -/

/-- The later of two discoveries next to each other: on one interface, with no
invalidation in between, it keeps the distance. -/
structure Apart (t d : Discovery) : Prop where
  gen : t.gen ≤ d.gen
  start : t.start ≤ d.start
  distance : t.gen = d.gen → t.iface.index = d.iface.index → t.start + retryInterval ≤ d.start

/-- The state holds the servers of `d`. -/
structure State.Holds (exclude : List Prefix) (st : State) (d : Discovery) (marked : Bool) : Prop where
  read : st.read = true
  gen : st.readGen = d.gen
  index : st.ifIndex = d.iface.index
  servers : st.servers = usable d.found.servers d.iface exclude
  readAt : st.readAt = d.start
  stale : st.stale = marked
  found : st.servers ≠ [] → d.found.error = none

/-- A result comes from a discovery of the run on the interface it names, made
after as many invalidations as had preceded the call. -/
def Current (exclude : List Prefix) (history : List Happening) (a : Answered) : Prop :=
  ∀ iface servers, a.result = .ok (iface, servers) →
    ∃ d ∈ tries history, d.found.error = none ∧ d.iface.index = iface.index ∧ a.since ≤ d.gen ∧
      servers = usable d.found.servers d.iface exclude

structure Inv (exclude : List Prefix) (w : Watch) : Prop where
  unread : holding w.history = none → w.state.read = false ∧ tries w.history = []
  holds : ∀ d marked, holding w.history = some (d, marked) → w.state.Holds exclude d marked
  last : ∀ t, (tries w.history).getLast? = some t →
    w.state.readGen = t.gen ∧ w.state.ifIndex = t.iface.index ∧ t.start ≤ w.clock ∧
      t.gen ≤ w.generation ∧ (w.reading = none → w.state.triedAt = t.start)
  reading : ∀ r, w.reading = some r →
    r.now ≤ w.clock ∧ r.gen ≤ w.generation ∧ r.caller.since ≤ r.gen ∧ w.state.triedAt = r.now ∧
      ∀ t found kept, (tries w.history).getLast? = some t →
        Apart t ⟨r.caller.iface, r.gen, r.now, found, kept⟩
  waiting : ∀ c ∈ w.waiting, c.since ≤ w.generation
  chain : (tries w.history).IsChain Apart
  current : ∀ a ∈ w.answers, Current exclude w.history a

theorem Current.append {exclude : List Prefix} {history : List Happening} {a : Answered}
    (current : Current exclude history a) (h : Happening) : Current exclude (history ++ [h]) a := by
  intro iface servers ok
  obtain ⟨d, mem, rest⟩ := current iface servers ok
  rw [tries_append]
  exact ⟨d, List.mem_append_left _ mem, rest⟩

/-- An error is no answer to be current. -/
theorem Current.of_error {exclude : List Prefix} {history : List Happening} {since : Nat}
    {e : LocalDnsError} : Current exclude history ⟨since, .error e⟩ := by
  intro iface servers ok
  cases ok

/-- Servers held from a read that `same` accepts are current. -/
theorem Inv.current_of_same {exclude : List Prefix} {w : Watch} (inv : Inv exclude w)
    {iface : Interface} {since gen : Nat} (same : w.state.same iface gen = true)
    (some : w.state.servers ≠ []) (after : since ≤ gen) :
    Current exclude w.history ⟨since, .ok (iface, w.state.servers)⟩ := by
  obtain ⟨read, readGen, index⟩ := State.same_iff.1 same
  intro iface' servers ok
  cases ok
  cases held : holding w.history with
  | none =>
    have unread := (inv.unread held).1
    rw [read] at unread
    cases unread
  | some entry =>
    obtain ⟨d, marked⟩ := entry
    have holds := inv.holds d marked held
    refine ⟨d, holding_mem held, holds.found some, ?_, ?_, holds.servers⟩
    · rw [← holds.index, index]
    · rw [← holds.gen, readGen]
      exact after

namespace Inv

variable {exclude : List Prefix} {w : Watch}

theorem new (start : Nat) : Inv exclude { clock := start } where
  unread _ := ⟨rfl, rfl⟩
  holds _ _ held := by cases held
  last _ some := by cases some
  reading _ reads := by cases reads
  waiting _ mem := by cases mem
  chain := .nil
  current _ mem := by cases mem

theorem changeInterface (inv : Inv exclude w) (iface : Option Interface) :
    Inv exclude (w.changeInterface iface) :=
  ⟨inv.unread, inv.holds, inv.last, inv.reading, inv.waiting, inv.chain, inv.current⟩

theorem advance (inv : Inv exclude w) (elapsed : Nat) : Inv exclude (w.advance elapsed) := by
  refine ⟨inv.unread, inv.holds, ?_, ?_, inv.waiting, inv.chain, inv.current⟩
  · intro t last
    obtain ⟨gen, index, start, before, tried⟩ := inv.last t last
    exact ⟨gen, index, Nat.le_add_right_of_le start, before, tried⟩
  · intro r reads
    obtain ⟨now, rest⟩ := inv.reading r reads
    exact ⟨Nat.le_add_right_of_le now, rest⟩

theorem invalidate (inv : Inv exclude w) : Inv exclude w.invalidate := by
  refine ⟨inv.unread, inv.holds, ?_, ?_, ?_, inv.chain, inv.current⟩
  · intro t last
    obtain ⟨gen, index, start, before, tried⟩ := inv.last t last
    exact ⟨gen, index, start, Nat.le_succ_of_le before, tried⟩
  · intro r reads
    obtain ⟨now, before, rest⟩ := inv.reading r reads
    exact ⟨now, Nat.le_succ_of_le before, rest⟩
  · intro c mem
    exact Nat.le_succ_of_le (inv.waiting c mem)

theorem failed (inv : Inv exclude w) (free : w.reading = none) : Inv exclude w.failed := by
  have same : tries w.failed.history = tries w.history := by
    simp only [Watch.failed, tries_append]
    exact List.append_nil _
  have held : holding w.failed.history = (holding w.history).map fun held => (held.1, true) :=
    holding_append _ _
  constructor
  · intro none
    rw [held, Option.map_eq_none_iff] at none
    rw [same]
    exact inv.unread none
  · intro d marked some
    rw [held, Option.map_eq_some_iff] at some
    obtain ⟨⟨d', marked'⟩, before, eq⟩ := some
    cases eq
    have holds := inv.holds _ _ before
    exact ⟨holds.read, holds.gen, holds.index, holds.servers, holds.readAt, rfl, holds.found⟩
  · intro t last
    rw [same] at last
    exact inv.last t last
  · intro r reads
    rw [show w.failed.reading = w.reading from rfl, free] at reads
    cases reads
  · exact inv.waiting
  · rw [same]
    exact inv.chain
  · intro a mem
    exact (inv.current a mem).append _

theorem call (inv : Inv exclude w) : Inv exclude w.call := by
  unfold Watch.call
  cases w.interface with
  | none =>
    refine ⟨inv.unread, inv.holds, inv.last, inv.reading, inv.waiting, inv.chain, ?_⟩
    intro a mem
    rcases List.mem_append.1 mem with old | new
    · exact inv.current a old
    · rw [List.mem_singleton.1 new]
      exact .of_error
  | some iface =>
    refine ⟨inv.unread, inv.holds, inv.last, inv.reading, ?_, inv.chain, inv.current⟩
    intro c mem
    rcases List.mem_append.1 mem with old | new
    · exact inv.waiting c old
    · rw [List.mem_singleton.1 new]

/-- A look that ends in a discovery keeps the distance to the last one. -/
theorem apart (inv : Inv exclude w) (free : w.reading = none) {iface : Interface}
    (discovers : w.state.held iface w.clock w.generation = none) {t : Discovery}
    (last : (tries w.history).getLast? = some t) (found : Discovered) (kept : Bool) :
    Apart t ⟨iface, w.generation, w.clock, found, kept⟩ := by
  obtain ⟨gen, index, start, before, tried⟩ := inv.last t last
  refine ⟨before, start, ?_⟩
  intro sameGen sameIndex
  have read : w.state.read = true := by
    cases held : holding w.history with
    | none =>
      rw [(inv.unread held).2] at last
      cases last
    | some entry => exact (inv.holds entry.1 entry.2 held).read
  have same : w.state.same iface w.generation = true :=
    State.same_iff.2 ⟨read, gen.trans sameGen, index.trans sameIndex⟩
  have late := (State.held_none_iff.1 discovers same).2
  rw [tried free] at late
  dsimp only
  omega

theorem enter (inv : Inv exclude w) {before after : List Caller} {caller : Caller}
    (free : w.reading = none) (waits : w.waiting = before ++ caller :: after) :
    Inv exclude (w.enter before caller after) := by
  have since : caller.since ≤ w.generation :=
    inv.waiting caller (by rw [waits]; exact List.mem_append_right _ List.mem_cons_self)
  have waiting : ∀ c ∈ before ++ after, c.since ≤ w.generation := by
    intro c mem
    apply inv.waiting c
    rw [waits, List.mem_append, List.mem_cons]
    rcases List.mem_append.1 mem with left | right
    · exact .inl left
    · exact .inr (.inr right)
  unfold Watch.enter
  cases look : w.state.held caller.iface w.clock w.generation with
  | some result =>
    refine ⟨inv.unread, inv.holds, inv.last, inv.reading, waiting, inv.chain, ?_⟩
    intro a mem
    rcases List.mem_append.1 mem with old | new
    · exact inv.current a old
    · rw [List.mem_singleton.1 new]
      cases result with
      | error e => exact .of_error
      | ok answer =>
        obtain ⟨iface, servers⟩ := answer
        obtain ⟨rfl, rfl, some, same⟩ := State.held_ok look
        exact inv.current_of_same same some since
  | none =>
    refine ⟨inv.unread, ?_, ?_, ?_, waiting, inv.chain, inv.current⟩
    · intro d marked held
      have holds := inv.holds d marked held
      exact ⟨holds.read, holds.gen, holds.index, holds.servers, holds.readAt, holds.stale, holds.found⟩
    · intro t last
      obtain ⟨gen, index, start, old, -⟩ := inv.last t last
      exact ⟨gen, index, start, old, fun none => by cases none⟩
    · intro r reads
      cases reads
      exact ⟨Nat.le_refl _, Nat.le_refl _, since, rfl,
        fun t found kept last => inv.apart free look last found kept⟩

theorem chain_append (inv : Inv exclude w) {d : Discovery}
    (apart : ∀ t, (tries w.history).getLast? = some t → Apart t d) :
    (tries (w.history ++ [.tried d])).IsChain Apart := by
  rw [tries_append]
  refine List.IsChain.append inv.chain (List.isChain_singleton _) ?_
  intro t last d' first
  cases first
  exact apart t last

theorem last_tried (history : List Happening) (d : Discovery) :
    (tries (history ++ [.tried d])).getLast? = some d := by
  rw [tries_append]
  exact List.getLast?_concat

/-- A discovery that failed, given up for what is held. -/
theorem finish_keeps (inv : Inv exclude w) {r : Reading} {found : Discovered}
    (reads : w.reading = some r) (keeps : w.state.keeps r.caller.iface r.gen found = true) :
    Inv exclude (w.finish exclude r found) := by
  obtain ⟨now, before, since, tried, apart⟩ := inv.reading r reads
  have chain := inv.chain_append fun t last =>
    apart t found (w.state.keeps r.caller.iface r.gen found) last
  have parts := keeps
  simp only [State.keeps, Bool.and_eq_true, decide_eq_true_eq] at parts
  obtain ⟨⟨failed, same⟩, some⟩ := parts
  obtain ⟨read, gen, index⟩ := State.same_iff.1 same
  simp only [Watch.finish, State.discovered, keeps, if_true] at chain ⊢
  have held (d : Discovery) (kept : d.kept = true) :
      holding (w.history ++ [.tried d]) = holding w.history := by
    rw [holding_append]
    exact if_pos kept
  constructor
  · intro none
    rw [held _ rfl] at none
    have unread := (inv.unread none).1
    rw [read] at unread
    cases unread
  · intro d marked holding
    rw [held _ rfl] at holding
    exact inv.holds d marked holding
  · intro t last
    rw [last_tried] at last
    cases last
    exact ⟨gen, index, now, before, fun _ => tried⟩
  · intro _ reads
    cases reads
  · exact inv.waiting
  · exact chain
  · intro a mem
    rcases List.mem_append.1 mem with old | new
    · exact (inv.current a old).append _
    · rw [List.mem_singleton.1 new]
      exact (inv.current_of_same same some since).append _

/-- A discovery that replaces what is held. -/
theorem finish_replaces (inv : Inv exclude w) {r : Reading} {found : Discovered}
    (reads : w.reading = some r) (carries : found.error.isSome → found.servers = [])
    (replaces : w.state.keeps r.caller.iface r.gen found = false) :
    Inv exclude (w.finish exclude r found) := by
  obtain ⟨now, before, since, tried, apart⟩ := inv.reading r reads
  have chain := inv.chain_append fun t last =>
    apart t found (w.state.keeps r.caller.iface r.gen found) last
  simp only [Watch.finish, State.discovered, replaces, Bool.false_eq_true, if_false] at chain ⊢
  have held (d : Discovery) (kept : d.kept = false) :
      holding (w.history ++ [.tried d]) = some (d, false) := by
    rw [holding_append]
    simp [note, kept]
  constructor
  · intro none
    rw [held _ rfl] at none
    cases none
  · intro d marked holding
    rw [held _ rfl] at holding
    cases holding
    refine ⟨rfl, rfl, rfl, rfl, rfl, rfl, ?_⟩
    intro some
    cases error : found.error with
    | none => rfl
    | some cause =>
      dsimp only at some
      rw [carries (by rw [error]; rfl)] at some
      exact absurd rfl some
  · intro t last
    rw [last_tried] at last
    cases last
    exact ⟨rfl, rfl, now, before, fun _ => tried⟩
  · intro _ reads
    cases reads
  · exact inv.waiting
  · exact chain
  · intro a mem
    rcases List.mem_append.1 mem with old | new
    · exact (inv.current a old).append _
    · rw [List.mem_singleton.1 new]
      intro iface servers ok
      cases error : found.error with
      | some cause => simp [error] at ok
      | none =>
        simp only [error] at ok
        split at ok
        · cases ok
        · cases ok
          refine ⟨⟨r.caller.iface, r.gen, r.now, found, false⟩, ?_, error, rfl, since, rfl⟩
          rw [tries_append]
          exact List.mem_append_right _ (List.mem_singleton_self _)

end Inv

theorem Reached.inv {exclude : List Prefix} {w : Watch} (reached : Reached exclude w) :
    Inv exclude w := by
  induction reached with
  | new start => exact .new start
  | changeInterface iface _ ih => exact ih.changeInterface iface
  | advance elapsed _ ih => exact ih.advance elapsed
  | invalidate _ ih => exact ih.invalidate
  | failed _ free ih => exact ih.failed free
  | call _ ih => exact ih.call
  | enter _ free waits ih => exact ih.enter free waits
  | @finish w r found _ reads carries ih =>
    cases keeps : w.state.keeps r.caller.iface r.gen found with
    | true => exact ih.finish_keeps reads keeps
    | false => exact ih.finish_replaces reads carries keeps

/-! ## The guarantees -/

/-- Over discoveries in a row, an index apart from the next. -/
theorem distance_of_chain {before middle after : List Discovery} {d d' : Discovery}
    (chain : (before ++ d :: (middle ++ d' :: after)).IsChain Apart) (gen : d.gen = d'.gen)
    (index : ∀ t ∈ middle ++ [d'], t.iface.index = d.iface.index) :
    d.start + retryInterval ≤ d'.start := by
  have tail : (d :: (middle ++ d' :: after)).IsChain Apart := List.IsChain.right_of_append chain
  -- the generations and the times only grow along the chain
  have grows : (d :: (middle ++ d' :: after)).Pairwise fun t u => t.gen ≤ u.gen ∧ t.start ≤ u.start := by
    have weak := tail.imp fun t u apart => And.intro apart.gen apart.start
    have trans : IsTrans Discovery fun t u => t.gen ≤ u.gen ∧ t.start ≤ u.start :=
      ⟨fun a b c ab bc => ⟨ab.1.trans bc.1, ab.2.trans bc.2⟩⟩
    exact List.isChain_iff_pairwise.1 weak
  cases middle with
  | nil =>
    have apart := (List.isChain_cons_cons.1 tail).1
    exact apart.distance gen (index d' (List.mem_singleton_self _)).symm
  | cons e middle =>
    have apart := (List.isChain_cons_cons.1 tail).1
    have rest := (List.pairwise_cons.1 grows).2
    have later := (List.pairwise_cons.1 rest).1 d' (List.mem_append_right _ List.mem_cons_self)
    have same : d.gen = e.gen := Nat.le_antisymm apart.gen (gen ▸ later.1)
    have first := apart.distance same (index e List.mem_cons_self).symm
    exact Nat.le_trans first later.2

/-- What `resolve` guarantees in a state of a run. -/
structure Guarantees (exclude : List Prefix) (w : Watch) : Prop where
  /-- What it returned are the usable servers of a discovery on an interface of
  that index, after the last invalidation that preceded the call. -/
  current : ∀ a ∈ w.answers, ∀ iface servers, a.result = .ok (iface, servers) →
    ∃ d ∈ tries w.history, d.found.error = none ∧ d.iface.index = iface.index ∧ a.since ≤ d.gen ∧
      servers = usable d.found.servers d.iface exclude
  /-- Without an interface it fails at once and nothing is discovered. -/
  offline : w.interface = none →
    w.call = { w with answers := w.answers ++ [⟨w.generation, .error .noInterface⟩] }
  /-- Between two discoveries on one interface, without an invalidation. -/
  distance : ∀ before d middle d' after,
    tries w.history = before ++ d :: (middle ++ d' :: after) → d.gen = d'.gen →
    (∀ t ∈ middle ++ [d'], t.iface.index = d.iface.index) → d.start + retryInterval ≤ d'.start
  /-- Servers too old or marked failed are discovered again by the first call a
  retry interval after the last try. -/
  refresh : w.reading = none → ∀ d marked, holding w.history = some (d, marked) →
    marked = true ∨ d.start + softRefresh ≤ w.clock →
    (∀ t, (tries w.history).getLast? = some t → t.start + retryInterval ≤ w.clock) →
    ∀ before caller after, w.waiting = before ++ caller :: after →
      (w.enter before caller after).reading = some ⟨caller, w.clock, w.generation⟩
  /-- A discovery that fails keeps the servers read before on the same interface. -/
  keeps : ∀ r, w.reading = some r → ∀ d marked, holding w.history = some (d, marked) →
    d.iface.index = r.caller.iface.index → d.gen = r.gen →
    usable d.found.servers d.iface exclude ≠ [] → ∀ found : Discovered, found.error.isSome →
    (w.finish exclude r found).answers = w.answers ++
        [⟨r.caller.since, .ok (r.caller.iface, usable d.found.servers d.iface exclude)⟩] ∧
      holding (w.finish exclude r found).history = some (d, marked) ∧
      (w.finish exclude r found).state = w.state

theorem Inv.guarantees {exclude : List Prefix} {w : Watch} (inv : Inv exclude w) :
    Guarantees exclude w where
  current a mem := inv.current a mem
  offline none := by
    unfold Watch.call
    rw [none]
  distance before d middle d' after parts gen index := by
    have chain := inv.chain
    rw [parts] at chain
    exact distance_of_chain chain gen index
  refresh := by
    intro free d marked held due late before caller after _
    have holds := inv.holds d marked held
    have discovers : w.state.held caller.iface w.clock w.generation = none := by
      rw [State.held_none_iff]
      intro _
      constructor
      · intro _ fresh
        rw [holds.stale] at fresh
        rw [holds.readAt]
        rcases due with failed | old
        · rw [failed] at fresh
          cases fresh
        · omega
      · have mem := holding_mem held
        cases last : (tries w.history).getLast? with
        | none =>
          rw [List.getLast?_eq_none_iff.1 last] at mem
          cases mem
        | some t =>
          rw [(inv.last t last).2.2.2.2 free]
          have soon := late t last
          omega
    unfold Watch.enter
    rw [discovers]
  keeps := by
    intro r reads d marked held index gen some found failed
    have holds := inv.holds d marked held
    have keeps : w.state.keeps r.caller.iface r.gen found = true := by
      have same : w.state.same r.caller.iface r.gen = true :=
        State.same_iff.2 ⟨holds.read, holds.gen.trans gen, holds.index.trans index⟩
      simp [State.keeps, failed, same, holds.servers, some]
    simp only [Watch.finish, State.discovered, keeps, if_true]
    refine ⟨?_, ?_, trivial⟩
    · rw [holds.servers]
    · rw [holding_append]
      exact held

/-- dns-local answers from the current network, in every run. -/
theorem resolve_guarantees (exclude : List Prefix) (w : Watch) (reached : Reached exclude w) :
    Guarantees exclude w :=
  reached.inv.guarantees

/-! ## A refresh that fails -/

def sampleInterface : Interface := ⟨6, "en0"⟩

def sampleServer : Server := ⟨.v4 0xC0A80101, none, 53⟩

/-- The first call reads 192.168.1.1; a second later, after every server
failed, the next one reads again and the read fails. -/
theorem resolve_guarantees_sample :
    ∃ w, Reached [] w ∧ Guarantees [] w ∧
      w.answers = [⟨0, .ok (sampleInterface, [sampleServer])⟩,
        ⟨0, .ok (sampleInterface, [sampleServer])⟩] ∧ (tries w.history).length = 2 := by
  have online : Reached [] { clock := 0, interface := some sampleInterface } :=
    (Reached.new 0).changeInterface (some sampleInterface)
  have reading := Reached.enter online.call rfl (show _ = [] ++ ⟨sampleInterface, 0⟩ :: [] from rfl)
  have read := Reached.finish reading rfl
    (show (Discovered.mk [sampleServer] "adapter" none).error.isSome → _ from fun failed => by
      cases failed)
  have due := (read.failed rfl).advance retryInterval
  have again := Reached.enter due.call rfl (show _ = [] ++ ⟨sampleInterface, 0⟩ :: [] from rfl)
  have kept := Reached.finish again rfl
    (show (Discovered.mk [] "adapter" (some "timed out")).error.isSome → _ from fun _ => rfl)
  exact ⟨_, kept, resolve_guarantees _ _ kept, rfl, rfl⟩

end PpvpnCore.LocalDns
