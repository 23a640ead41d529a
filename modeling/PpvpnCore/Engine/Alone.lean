import PpvpnCore.Translate.Made
import PpvpnCore.Engine.Settled

/-!
# A call on its own

What a call has done to the facts once it returned, when nothing else ran
meanwhile: `Effect` lists it for everything an instance may be asked or told,
`Op.task_effect` proves the list complete. The invariants between calls are
then cases over `Effect`.

* `World.Same`: nothing of what counts changed.
* `Failed`: what a switch that failed leaves.
* `switchTo_alone`: the outcomes of a switch.
-/

namespace PpvpnCore

open Lib

/-- What a call may be answered, in which state. -/
abbrev Answers := (c : Call) → Answer c → World → Prop

/-- The world around a call that runs alone. -/
abbrev alone (answers : Answers) : Env World Answer := Env.still World.perform answers

/-! ## What a call leaves -/

/-- The listeners of a configuration are on record as open, on the ports it
has. -/
structure OnRecord (config : EngineConfig) (json : Config) (w : World) : Prop where
  shared : ∀ i ∈ json.inbounds, i.tag = localProxyInboundTag →
    w.localProxyLeftOut config = false ∧ i.port? = w.localProxyPort config
  system : ∀ i ∈ json.inbounds, i.tag = systemProxyInboundTag →
    w.proxies.any (·.systemProxy) = true ∧
      i.port? = some (w.systemProxyStatus config w.live.running).port

/-- The profile and the rule sets are as they were. -/
structure World.Kept (w w' : World) : Prop where
  applied : w'.live.applied = w.live.applied
  inputs : w'.inputs = w.inputs
  snapshot : w'.snapshot = w.snapshot
  shutDown : w'.live.shutDown = w.live.shutDown
  proxies : w'.proxies.isSome = w.proxies.isSome
  sent : w.events <+: w'.events

/-- And so are whether the instance runs and its system proxy listener is turned
on. -/
structure World.Up (w w' : World) : Prop extends World.Kept w w' where
  running : w'.live.running = w.live.running
  fatal : w'.live.fatal = w.live.fatal
  system : w'.proxies.any (·.systemProxy) = w.proxies.any (·.systemProxy)

/-- And so are what it runs and what it listens on. -/
structure World.Still (config : EngineConfig) (w w' : World) : Prop extends World.Up w w' where
  runs : w'.runtime.config = w.runtime.config
  listening : ∀ json, OnRecord config json w → OnRecord config json w'

/-- And so are its selectors. -/
structure World.Same (config : EngineConfig) (w w' : World) : Prop
    extends World.Still config w w' where
  selected : w'.runtime.selected = w.runtime.selected

/-- The runtime panicked. -/
structure World.Fell (w w' : World) : Prop extends World.Kept w w' where
  running : w'.live.running = false
  fatal : w'.live.fatal.isSome = true

/-- Nothing could be started again. -/
structure World.Lost (w w' : World) : Prop extends World.Kept w w' where
  running : w'.live.running = false
  fatal : w'.live.fatal = w.live.fatal
  runs : w'.runtime.config = none
  stopped : ∃ sent, w'.events = w.events ++ sent ∧ .coreStopped ∈ sent

variable {config : EngineConfig} {w w' w'' : World}

theorem World.Kept.refl (w : World) : w.Kept w := ⟨rfl, rfl, rfl, rfl, rfl, List.prefix_rfl⟩

theorem World.Kept.trans (first : w.Kept w') (second : w'.Kept w'') : w.Kept w'' where
  applied := second.applied.trans first.applied
  inputs := second.inputs.trans first.inputs
  snapshot := second.snapshot.trans first.snapshot
  shutDown := second.shutDown.trans first.shutDown
  proxies := second.proxies.trans first.proxies
  sent := first.sent.trans second.sent

theorem World.Up.refl (w : World) : w.Up w := ⟨.refl w, rfl, rfl, rfl⟩

theorem World.Up.trans (first : w.Up w') (second : w'.Up w'') : w.Up w'' where
  toKept := first.toKept.trans second.toKept
  running := second.running.trans first.running
  fatal := second.fatal.trans first.fatal
  system := second.system.trans first.system

theorem World.Still.trans (first : w.Still config w') (second : w'.Still config w'') :
    w.Still config w'' where
  toUp := first.toUp.trans second.toUp
  runs := second.runs.trans first.runs
  listening json h := second.listening json (first.listening json h)

theorem World.Same.refl (w : World) : w.Same config w := ⟨⟨.refl w, rfl, fun _ => id⟩, rfl⟩

theorem World.Same.trans (first : w.Same config w') (second : w'.Same config w'') :
    w.Same config w'' where
  toStill := first.toStill.trans second.toStill
  selected := second.selected.trans first.selected

/-- The record of the listeners is theirs and the run's. -/
theorem OnRecord.of_proxies {json : Config} (record : OnRecord config json w)
    (proxies : w'.proxies = w.proxies) : OnRecord config json w' := by
  have port : (w'.systemProxyStatus config w'.live.running).port =
      (w.systemProxyStatus config w.live.running).port := by
    unfold World.systemProxyStatus
    rw [proxies]
    split
    · rfl
    · dsimp only
      split <;> rfl
  refine ⟨fun i mem tag => ?_, fun i mem tag => ?_⟩
  · have here := record.shared i mem tag
    rw [World.localProxyLeftOut, World.localProxyPort, World.localProxy, proxies]
    exact here
  · rw [proxies, port]
    exact record.system i mem tag

/-- Nothing under the live lock changed. -/
theorem World.Up.of_live (live : w'.live = w.live) (inputs : w'.inputs = w.inputs)
    (snapshot : w'.snapshot = w.snapshot) (proxies : w'.proxies.isSome = w.proxies.isSome)
    (system : w'.proxies.any (·.systemProxy) = w.proxies.any (·.systemProxy))
    (sent : w.events <+: w'.events) : w.Up w' :=
  ⟨⟨by rw [live], inputs, snapshot, by rw [live], proxies, sent⟩, by rw [live], by rw [live],
    system⟩

/-- Nor did the listeners. -/
theorem World.Same.of_live (live : w'.live = w.live) (inputs : w'.inputs = w.inputs)
    (snapshot : w'.snapshot = w.snapshot) (proxies : w'.proxies = w.proxies)
    (sent : w.events <+: w'.events) (running : w'.runtime.config = w.runtime.config)
    (selected : w'.runtime.selected = w.runtime.selected) : w.Same config w' :=
  ⟨⟨.of_live live inputs snapshot (by rw [proxies]) (by rw [proxies]) sent, running,
    fun _ record => record.of_proxies proxies⟩, selected⟩

theorem World.Kept.publish (w : World) (event : Event) : w.Kept (w.publish event) :=
  ⟨rfl, rfl, rfl, rfl, rfl, List.prefix_append _ _⟩

theorem World.Same.publish (w : World) (event : Event) : w.Same config (w.publish event) :=
  .of_live rfl rfl rfl rfl (List.prefix_append _ _) rfl rfl

theorem World.Kept.settleLive {f : Live → Live} (applied : (f w.live).applied = w.live.applied)
    (shutDown : (f w.live).shutDown = w.live.shutDown) : w.Kept (w.settleLive f) := by
  refine ⟨?_, ?_, ?_, ?_, ?_, ?_⟩
  · rw [World.settleLive, World.settle_live]
    exact applied
  · rw [World.settleLive, World.settle_inputs]
    rfl
  · rw [World.settleLive, World.settle_snapshot]
    rfl
  · rw [World.settleLive, World.settle_live]
    exact shutDown
  · rw [World.settleLive, World.settle_proxies]
    rfl
  · exact World.settle_events (w.setLive f)

theorem World.Up.settleLive {f : Live → Live} (applied : (f w.live).applied = w.live.applied)
    (shutDown : (f w.live).shutDown = w.live.shutDown)
    (running : (f w.live).running = w.live.running) (fatal : (f w.live).fatal = w.live.fatal) :
    w.Up (w.settleLive f) := by
  refine ⟨.settleLive applied shutDown, ?_, ?_, ?_⟩
  · rw [World.settleLive, World.settle_live]
    exact running
  · rw [World.settleLive, World.settle_live]
    exact fatal
  · rw [World.settleLive, World.settle_proxies]
    rfl

theorem World.Same.settleLive {f : Live → Live} (applied : (f w.live).applied = w.live.applied)
    (shutDown : (f w.live).shutDown = w.live.shutDown)
    (running : (f w.live).running = w.live.running) (fatal : (f w.live).fatal = w.live.fatal) :
    w.Same config (w.settleLive f) := by
  refine ⟨⟨.settleLive applied shutDown running fatal, ?_, fun _ record => ?_⟩, ?_⟩
  · rw [World.settleLive, World.settle_runtime]
    rfl
  · exact record.of_proxies (World.settle_proxies _)
  · rw [World.settleLive, World.settle_runtime]
    rfl

theorem World.Same.setLive {f : Live → Live} (applied : (f w.live).applied = w.live.applied)
    (shutDown : (f w.live).shutDown = w.live.shutDown)
    (running : (f w.live).running = w.live.running) (fatal : (f w.live).fatal = w.live.fatal) :
    w.Same config (w.setLive f) :=
  ⟨⟨⟨⟨applied, rfl, rfl, shutDown, rfl, List.prefix_rfl⟩, running, fatal, rfl⟩, rfl,
    fun _ record => record.of_proxies rfl⟩, rfl⟩

theorem World.Fell.of_up (up : w.Up w') (fell : w'.Fell w'') : w.Fell w'' :=
  ⟨up.toKept.trans fell.toKept, fell.running, fell.fatal⟩

/-! ## Steps of a call -/

section

variable {answers : Answers} {α β : Type}

theorem read_alone {Q : World → World → Prop} (post : Q w w) : wp (alone answers) read Q w :=
  wp_still_sec (wp_still_ret post)

theorem modify_alone {f : World → World} {Q : Unit → World → Prop} (post : Q () (f w)) :
    wp (alone answers) (modify f) Q w :=
  wp_still_sec (wp_still_ret post)

theorem inSection_alone {f : World → α × World} {Q : α → World → Prop}
    (post : Q (f w).1 (f w).2) : wp (alone answers) (inSection f) Q w :=
  wp_still_sec (wp_still_ret post)

theorem ask_alone {c : Call} {Q : Answer c → World → Prop}
    (post : ∀ r, answers c r w → Q r (w.perform c r)) : wp (alone answers) c.ask Q w :=
  wp_still_call fun r answer => wp_still_ret (post r answer)

/-- A call that only asks. -/
theorem probe_alone {c : Call} {Q : Answer c → World → Prop} (still : ∀ r, w.perform c r = w)
    (post : ∀ r, Q r w) : wp (alone answers) c.ask Q w :=
  ask_alone fun r _ => (still r).symm ▸ post r

theorem lift_alone {p : Task α} {Q : Except Error α → World → Prop}
    (spec : wp (alone answers) p (fun a => Q (.ok a)) w) :
    wp (alone answers) (monadLift p : Try α).run Q w :=
  wp_bind (wp_mono spec fun _ _ post => wp_still_ret post)

theorem liftExcept_alone {x : Except Error α} {Q : Except Error α → World → Prop}
    (post : Q x w) : wp (alone answers) (liftExcept x).run Q w :=
  wp_still_ret post

/-- `?`: an error is the call's. -/
theorem bindExcept_alone {p : Try α} {f : α → Try β} {Q : Except Error β → World → Prop}
    (spec : wp (alone answers) p.run (fun r w' =>
      match r with
      | .ok a => wp (alone answers) (f a).run Q w'
      | .error e => Q (.error e) w') w) : wp (alone answers) (p >>= f).run Q w := by
  refine wp_bindExcept (wp_mono spec fun r w' post => ?_)
  cases r with
  | ok a => exact post
  | error e => exact wp_still_ret (π := Place) post

/-- A task that changes nothing that counts. -/
def Quiet (config : EngineConfig) (answers : Answers) (p : Task α) : Prop :=
  ∀ w, wp (alone answers) p (fun _ => w.Same config) w

theorem Quiet.run {p : Task α} {Q : α → World → Prop} (quiet : Quiet config answers p)
    (rest : ∀ a w', w.Same config w' → Q a w') : wp (alone answers) p Q w :=
  wp_mono (quiet w) rest

theorem Quiet.ret (a : α) : Quiet config answers (.ret a : Task α) :=
  fun w => wp_still_ret (.refl w)

theorem Quiet.bind {p : Task α} {f : α → Task β} (first : Quiet config answers p)
    (rest : ∀ a, Quiet config answers (f a)) : Quiet config answers (p.bind f) := by
  refine fun w => wp_bind (first.run fun a w' same => ?_)
  exact (rest a).run fun _ _ later => same.trans later

theorem Quiet.read : Quiet config answers read := fun w => read_alone (.refl w)

theorem Quiet.modify {f : World → World} (each : ∀ w, World.Same config w (f w)) :
    Quiet config answers (modify f) := fun w => modify_alone (each w)

theorem Quiet.inSection {f : World → α × World} (each : ∀ w, World.Same config w (f w).2) :
    Quiet config answers (inSection f) := fun w => inSection_alone (each w)

theorem Quiet.ask {c : Call} (each : ∀ (r : Answer c) w, World.Same config w (w.perform c r)) :
    Quiet config answers c.ask := fun w => ask_alone fun r _ => each r w

theorem Quiet.publish (event : Event) : Quiet config answers (publish event) :=
  .modify fun w => .publish w event

theorem Quiet.forEach {xs : List β} {f : β → Task Unit} (each : ∀ x, Quiet config answers (f x)) :
    Quiet config answers (Prog.forEach xs f) := by
  induction xs with
  | nil => exact .ret ()
  | cons x xs ih => exact (each x).bind fun _ => ih

/-- A call that tells of the runtime and changes nothing in it. -/
theorem World.Same.perform {c : Call} {r : Answer c}
    (running : (w.runtime.perform c r).config = w.runtime.config)
    (selected : (w.runtime.perform c r).selected = w.runtime.selected) :
    w.Same config (w.perform c r) :=
  .of_live rfl rfl rfl rfl List.prefix_rfl running selected

end

/-! ## Quiet parts -/

section

variable {answers : Answers}

theorem admitCall_alone {Q : Except Error Unit → World → Prop} {w : World}
    (refused : ∀ e, Q (.error e) w)
    (admitted : w.live.shutDown = false → w.live.fatal = none → Q (.ok ()) w) :
    wp (alone answers) admitCall.run Q w := by
  refine wp_bindLift (read_alone ?_)
  dsimp only
  split
  next => exact wp_still_ret (refused _)
  next on =>
    split
    next => exact wp_still_ret (refused _)
    next well => exact wp_still_ret (admitted (by simpa using on) (by simpa using well))

theorem refresh_quiet (config : EngineConfig) : Quiet config answers refresh := by
  refine .bind .read fun w => ?_
  dsimp only
  split
  · exact .ret ()
  · refine .bind (.ask fun _ _ => .perform rfl rfl) fun groups => ?_
    refine .bind (.ask fun _ _ => .perform rfl rfl) fun traffic => ?_
    refine .bind (.ask fun r _ => ?_) fun connections => .modify fun w => ?_
    · cases r <;> exact .perform rfl rfl
    · split
      · exact .refl _
      · exact .setLive rfl rfl rfl rfl

theorem armReprobe_quiet : Quiet config answers (armReprobe config) := by
  unfold armReprobe
  split
  · exact .ret ()
  · exact .modify fun w => .of_live rfl rfl rfl rfl List.prefix_rfl rfl rfl

theorem networkStarted_quiet (config : EngineConfig) : Quiet config answers networkStarted := by
  refine .modify fun w => ?_
  unfold World.networkStarted
  dsimp only
  split
  · exact .refl _
  · have read : w.Same config { w with track.last := w.runtime.network } :=
      .of_live rfl rfl rfl rfl List.prefix_rfl rfl rfl
    split
    · exact read.trans (.settleLive rfl rfl rfl rfl)
    · exact read

theorem networkStopped_quiet (config : EngineConfig) : Quiet config answers networkStopped := by
  refine .bind (.inSection fun w => .of_live rfl rfl rfl rfl List.prefix_rfl rfl rfl) fun waiting => ?_
  refine .bind (.modify fun w => ?_) fun _ => .ret _
  split
  · exact .settleLive rfl rfl rfl rfl
  · exact .refl _

theorem World.onNetwork_same (w : World) (interface : Option (String × Nat)) :
    w.Same config (w.onNetwork interface) := by
  have facts : w.Same config (w.setLive ({ · with offline := interface.isNone })) :=
    .setLive rfl rfl rfl rfl
  have settled (w : World) : w.Same config w.settle := .settleLive (f := id) rfl rfl rfl rfl
  unfold World.onNetwork
  dsimp only
  split
  · exact (facts.trans (.publish _ _)).trans (settled _)
  · exact facts.trans (settled _)

theorem onNetworkChange_quiet (run : Nat) (change : NetworkChange) :
    Quiet config answers (onNetworkChange config run change) := by
  have update (interface : Option (String × Nat)) :
      Quiet config answers (Prog.update (.watched run) (·.onNetwork interface)) :=
    fun w => wp_still_sec (wp_still_ret (w.onNetwork_same interface))
  refine .bind .read fun w => ?_
  dsimp only
  split
  · exact .ret ()
  · refine .bind (fun w => wp_still_sec (wp_still_ret ?_)) fun missed => ?_
    · exact .of_live rfl rfl rfl rfl List.prefix_rfl rfl rfl
    · split
      · exact .bind (update _) fun _ => .bind (update _) fun _ => armReprobe_quiet
      · exact .bind (update _) fun _ => armReprobe_quiet

theorem probeHostIpv6_quiet : Quiet config answers (probeHostIpv6 config) := by
  unfold probeHostIpv6 readHostIpv6
  dsimp only
  split
  · exact .ret ()
  · refine .bind ?_ fun state => .modify fun w =>
      .of_live rfl rfl rfl rfl List.prefix_rfl rfl rfl
    split
    · exact .ret _
    · exact .bind (.ask fun _ _ => .perform rfl rfl) fun _ => .ret _

theorem readHostIpv6_quiet : Quiet config answers (readHostIpv6 config) := by
  unfold readHostIpv6
  dsimp only
  split
  · exact .ret _
  · exact .bind (.ask fun _ _ => .perform rfl rfl) fun _ => .ret _

theorem publishMoved_quiet (config : EngineConfig) (moved : Moved) :
    Quiet config answers (publishMoved moved) := by
  unfold publishMoved
  split
  · exact .publish _
  · exact .ret ()

theorem orReloadFailed_alone {α : Type} {message : String} {p : Try α} {w : World}
    {Q : Except Error α → World → Prop}
    (spec : wp (alone answers) p.run (fun r w' =>
      match r with
      | .ok a => Q (.ok a) w'
      | .error e => Q (.error e) (w'.publish (.reloadFailed e.code message))) w) :
    wp (alone answers) (orReloadFailed message p).run Q w := by
  refine wp_bindLift (wp_mono spec fun r w' post => ?_)
  cases r with
  | ok a => exact wp_still_ret post
  | error e => exact wp_bindLift (modify_alone (wp_still_ret post))

/-- The error of a runtime call: nothing follows from one that is no panic. -/
theorem runtimeError_alone {e : RuntimeError} {w : World} {Q : Error → World → Prop}
    (failed : ∀ e', e.panicked = false → Q e' w)
    (fell : ∀ e' w', e.panicked = true → w.Fell w' → Q e' w') :
    wp (alone answers) (runtimeError config e) Q w := by
  unfold runtimeError
  dsimp only
  split
  next panicked =>
    refine wp_bind (modify_alone (wp_still_ret (fell _ _ panicked ⟨.settleLive rfl rfl, ?_, ?_⟩)))
    · rw [World.settleLive, World.settle_live]
      rfl
    · rw [World.settleLive, World.settle_live]
      rfl
  next calm => exact wp_still_ret (failed _ (by simpa using calm))

theorem throwRuntime_alone {α : Type} {e : RuntimeError} {w : World}
    {Q : Except Error α → World → Prop} (failed : ∀ e', e.panicked = false → Q (.error e') w)
    (fell : ∀ e' w', e.panicked = true → w.Fell w' → Q (.error e') w') :
    wp (alone answers) (do throw (← runtimeError config e) : Try α).run Q w :=
  wp_bindLift (runtimeError_alone (fun e' calm => wp_still_ret (failed e' calm))
    fun e' w' panicked h => wp_still_ret (fell e' w' panicked h))

end

/-! ## Restarts -/

section

variable {answers : Answers} {build : Build}

/-- `t` was built from the inputs as they are and runs. -/
structure Started (config : EngineConfig) (build : Build) (t : Translation) (w w' : World) : Prop
    extends World.Up w w' where
  built : ∃ v, build v = .ok t ∧ w.Up v ∧ ∀ json, OnRecord config json v → OnRecord config json w'
  runs : w'.runtime.config = some t.json
  selected : w'.runtime.selected = t.json.defaults

theorem Started.of_up {t : Translation} (up : w.Up w') (started : Started config build t w' w'') :
    Started config build t w w'' where
  toUp := up.trans started.toUp
  built := by
    obtain ⟨v, built, later, listening⟩ := started.built
    exact ⟨v, built, up.trans later, listening⟩
  runs := started.runs
  selected := started.selected

theorem Started.same {t : Translation} (started : Started config build t w w')
    (same : w'.Same config w'') : Started config build t w w'' where
  toUp := started.toUp.trans same.toUp
  built := by
    obtain ⟨v, built, up, listening⟩ := started.built
    exact ⟨v, built, up, fun json record => same.listening json (listening json record)⟩
  runs := same.runs.trans started.runs
  selected := same.selected.trans started.selected

/-- The configuration that ran was put back, started at `v`. -/
structure PutBack (config : EngineConfig) (answers : Answers) (t : Translation)
    (w w' : World) : Prop extends World.Up w w' where
  answered : ∃ network v, answers (.start .back t.json) (.ok network) v ∧ w.Up v ∧
    (hasLocalProxy t = true → v.localProxyLeftOut config = false) ∧
    ∀ json, OnRecord config json v → OnRecord config json w'
  runs : w'.runtime.config = some t.json
  selected : w'.runtime.selected = t.json.defaults

theorem PutBack.same {running : Translation} (back : PutBack config answers running w w')
    (same : w'.Same config w'') : PutBack config answers running w w'' where
  toUp := back.toUp.trans same.toUp
  answered := by
    obtain ⟨network, v, answer, up, leftOut, listening⟩ := back.answered
    exact ⟨network, v, answer, up, leftOut,
      fun json record => same.listening json (listening json record)⟩
  runs := same.runs.trans back.runs
  selected := same.selected.trans back.selected

theorem PutBack.of_up {running : Translation} (up : w.Up w')
    (back : PutBack config answers running w' w'') : PutBack config answers running w w'' where
  toUp := up.trans back.toUp
  answered := by
    obtain ⟨network, v, answer, later, rest⟩ := back.answered
    exact ⟨network, v, answer, up.trans later, rest⟩
  runs := back.runs
  selected := back.selected

/-- What a failed switch leaves: what ran, runs; or it was put back; or the
instance is Fatal; or nothing could be started again. -/
inductive Failed (config : EngineConfig) (answers : Answers) (running : Translation)
    (w w' : World) : Prop
  | refused (same : w.Same config w')
  | putBack (back : PutBack config answers running w w')
  | fell (fell : w.Fell w')
  | lost (tried : ∃ e v, answers (.start .back running.json) (.error e) v) (lost : w.Lost w')

theorem World.Lost.of_kept (kept : w.Kept w') (fatal : w'.live.fatal = w.live.fatal)
    (lost : w'.Lost w'') : w.Lost w'' where
  toKept := kept.trans lost.toKept
  running := lost.running
  fatal := lost.fatal.trans fatal
  runs := lost.runs
  stopped := by
    obtain ⟨before, eq⟩ := kept.sent
    obtain ⟨sent, eq', mem⟩ := lost.stopped
    refine ⟨before ++ sent, ?_, List.mem_append_right _ mem⟩
    rw [eq', ← eq, List.append_assoc]

theorem World.Lost.same (lost : w.Lost w') (same : w'.Same config w'') : w.Lost w'' where
  toKept := lost.toKept.trans same.toKept
  running := same.running.trans lost.running
  fatal := same.fatal.trans lost.fatal
  runs := same.runs.trans lost.runs
  stopped := by
    obtain ⟨sent, eq, mem⟩ := lost.stopped
    obtain ⟨after, eq'⟩ := same.sent
    refine ⟨sent ++ after, ?_, List.mem_append_left _ mem⟩
    rw [← eq', eq, List.append_assoc]

theorem World.Fell.up (fell : w.Fell w') (up : w'.Up w'') : w.Fell w'' where
  toKept := fell.toKept.trans up.toKept
  running := up.running.trans fell.running
  fatal := by
    rw [up.fatal]
    exact fell.fatal

theorem Failed.same {running : Translation} (failed : Failed config answers running w w')
    (same : w'.Same config w'') : Failed config answers running w w'' := by
  cases failed with
  | refused first => exact .refused (first.trans same)
  | putBack back => exact .putBack (back.same same)
  | fell fell => exact .fell (fell.up same.toUp)
  | lost tried lost => exact .lost tried (lost.same same)

theorem Failed.of_same {running : Translation} (same : w.Same config w')
    (failed : Failed config answers running w' w'') : Failed config answers running w w'' := by
  cases failed with
  | refused later => exact .refused (same.trans later)
  | putBack back => exact .putBack (back.of_up same.toUp)
  | fell fell => exact .fell (.of_up same.toUp fell)
  | lost tried lost => exact .lost tried (.of_kept same.toKept same.fatal lost)

theorem Proxies.prepare_systemProxy (p : Proxies) (shared : Bool) (first second : PortAnswers) :
    (p.prepare shared first second).2.systemProxy = p.systemProxy := by
  have reconcile (p : Proxies) : (p.reconcile first).2.systemProxy = p.systemProxy := by
    unfold Proxies.reconcile
    split <;> rfl
  have shared_ : (p.prepareShared shared first).2.systemProxy = p.systemProxy := by
    unfold Proxies.prepareShared
    dsimp only
    split
    · split
      next eq => exact (congrArg (·.2.systemProxy) eq).symm.trans (reconcile _)
      next eq => exact (congrArg (·.2.systemProxy) eq).symm.trans (reconcile _)
    · rfl
  unfold Proxies.prepare Proxies.prepareSystem
  dsimp only
  split
  · split <;> exact shared_
  · exact shared_

theorem World.prepareListeners_up (w : World) (config : EngineConfig)
    (first second : PortAnswers) :
    w.Up (w.prepareListeners config first second).2 := by
  unfold World.prepareListeners
  split
  · exact .refl w
  next p here =>
    refine .of_live rfl rfl rfl (by rw [here]; rfl) ?_ List.prefix_rfl
    rw [here]
    exact p.prepare_systemProxy _ _ _

theorem prepareListeners_alone {Q : Except Error Unit → World → Prop} {w : World}
    (rest : ∀ r w', w.Up w' → Q r w') : wp (alone answers) (prepareListeners config).run Q w := by
  refine wp_bindLift (probe_alone (fun _ => rfl) fun first => ?_)
  refine wp_bindLift (probe_alone (fun _ => rfl) fun second => ?_)
  refine bindExcept_alone (inSection_alone ?_)
  have up := w.prepareListeners_up config first second
  cases (w.prepareListeners config first second).1 with
  | error e => exact rest _ _ up
  | ok moved =>
    exact lift_alone ((publishMoved_quiet config moved).run
      fun _ _ same => rest _ _ (up.trans same.toUp))

theorem World.setLeftOut_up (w : World) (config : EngineConfig) (leftOut : Bool) :
    w.Up (w.setLeftOut config leftOut) := by
  refine .of_live rfl rfl rfl ?_ ?_ List.prefix_rfl
  · simp [World.setLeftOut]
  · unfold World.setLeftOut
    cases w.proxies with
    | none => rfl
    | some p =>
      simp only [Option.map_some, Option.any_some]
      split <;> rfl

theorem World.setLeftOut_leftOut (w : World) :
    (w.setLeftOut config false).localProxyLeftOut config = false := by
  unfold World.setLeftOut World.localProxyLeftOut World.localProxy
  cases w.proxies with
  | none => simp
  | some p =>
    simp only [Option.map_some]
    split
    · rfl
    · rfl

theorem leaveOutLocalProxy_alone {Q : Bool → World → Prop} {w : World}
    (rest : ∀ left w', w.Up w' → (left = false → w' = w) → Q left w') :
    wp (alone answers) (leaveOutLocalProxy config) Q w := by
  refine inSection_alone ?_
  split
  · split
    · exact rest _ _ (.refl w) fun _ => rfl
    · exact rest _ _ (w.setLeftOut_up config true) (by simp)
  · exact rest _ _ (.refl w) fun _ => rfl

/-- What a start came to: `t` runs, or the instance waits as before. -/
def StartPost (config : EngineConfig) (build : Build) (w : World) :
    Except Error (Translation × Except RuntimeError (Option NetworkSnapshot)) → World → Prop
  | .ok (t, .ok _), w' => Started config build t w w'
  | .ok (_, .error _), w' => w.Up w'
  | .error _, w' => w.Up w'

theorem World.Up.perform {c : Call} {r : Answer c} : w.Up (w.perform c r) :=
  .of_live rfl rfl rfl rfl rfl List.prefix_rfl

theorem startOrLeaveOut_alone {first : Translation} (built : build w = .ok first) :
    wp (alone answers) (startOrLeaveOut config build first).run (StartPost config build w) w := by
  have started (v : World) (t : Translation) (attempt : Attempt) (up : w.Up v)
      (here : build v = .ok t) (network : Option NetworkSnapshot) :
      Started config build t w (v.perform (.start attempt t.json) (.ok network)) :=
    ⟨up.trans .perform, ⟨v, here, up, fun _ record => record.of_proxies rfl⟩, rfl, rfl⟩
  refine wp_bindLift (ask_alone fun answer _ => ?_)
  cases answer with
  | ok network => exact wp_still_ret (started w first .first (.refl w) built network)
  | error e =>
    dsimp only
    split
    · exact wp_still_ret World.Up.perform
    · refine wp_bindLift (leaveOutLocalProxy_alone fun left v up _ => ?_)
      have up : w.Up v := World.Up.perform.trans up
      split
      · refine wp_bindLift (read_alone (bindExcept_alone (liftExcept_alone ?_)))
        cases again : build v with
        | error e => exact up
        | ok t =>
          refine wp_bindLift (ask_alone fun answer _ => wp_still_ret ?_)
          cases answer with
          | ok network => exact started v t .withoutListener up again network
          | error e => exact up.trans .perform
      · exact wp_still_ret up

/-- What the start half of a restart came to. -/
def StartNextPost (config : EngineConfig) (build : Build) (w : World) :
    Except Error Translation → World → Prop
  | .ok t, w' => Started config build t w w'
  | .error _, w' => w.Up w' ∨ w.Fell w'

theorem startNext_alone :
    wp (alone answers) (startNext config build).run (StartNextPost config build w) w := by
  refine bindExcept_alone (prepareListeners_alone fun r v up => ?_)
  cases r with
  | error e => exact .inl up
  | ok _ =>
    refine wp_bindLift (read_alone (bindExcept_alone (liftExcept_alone ?_)))
    cases built : build v with
    | error e => exact .inl up
    | ok t =>
      refine bindExcept_alone (wp_mono (startOrLeaveOut_alone built) fun r v' post => ?_)
      match r, post with
      | .error e, post => exact .inl (up.trans post)
      | .ok (t, .ok _), post => exact wp_still_ret (Started.of_up up post)
      | .ok (t, .error e), post =>
        have up' : w.Up v' := up.trans post
        exact throwRuntime_alone (fun _ _ => .inl up') fun _ _ _ fell => .inr (.of_up up' fell)

theorem restarted_quiet (reprobe : Bool) : Quiet config answers (restarted config reprobe) := by
  refine .bind (.ask fun _ _ => .perform rfl rfl) fun routes => ?_
  refine .bind (.modify fun w => .settleLive rfl rfl rfl rfl) fun _ => ?_
  refine .bind (networkStarted_quiet config) fun _ => ?_
  split
  · exact armReprobe_quiet
  · exact .ret ()

theorem World.restartFailed_lost (running : w.live.running = true)
    (halted : w.runtime.config = none) : w.Lost w.restartFailed := by
  have down : w.Kept (w.settleLive fun live =>
      ({ live with running := false, run := live.run + 1 } : Live).clearRuntime) :=
    .settleLive rfl rfl
  have whole : w.restartFailed = (w.settleLive fun live =>
      ({ live with running := false, run := live.run + 1 } : Live).clearRuntime).publish
      .coreStopped := by
    simp [World.restartFailed, running]
  rw [whole]
  refine ⟨down.trans (.publish _ _), ?_, ?_, ?_, ?_⟩
  · exact World.settleLive_running _ _
  · exact World.settleLive_fatal _ _
  · exact (congrArg Runtime.config (World.settleLive_runtime _ _)).trans halted
  · obtain ⟨sent, eq⟩ := down.sent
    refine ⟨sent ++ [.coreStopped], ?_, by simp⟩
    rw [← List.append_assoc, eq]
    rfl

theorem putBack_alone {t : Translation} {reprobe : Bool} {error : Error}
    (running : w.live.running = true) :
    wp (alone answers) (putBack config t reprobe error).run
      (fun r w' => r = .error error ∧
        (PutBack config answers t w w' ∨ w.Fell w' ∨
          (∃ e v, answers (.start .back t.json) (.error e) v) ∧ w.Lost w')) w := by
  refine wp_bindLift (modify_alone ?_)
  have up := w.setLeftOut_up config (!hasLocalProxy t)
  refine wp_bindLift (ask_alone fun answer answered => ?_)
  cases answer with
  | ok network =>
    refine wp_bindLift ((restarted_quiet reprobe).run fun _ w' same => wp_still_ret ⟨rfl, ?_⟩)
    have back : PutBack config answers t w
        ((w.setLeftOut config (!hasLocalProxy t)).perform (.start .back t.json) (.ok network)) := by
      refine ⟨up.trans .perform, ⟨network, _, answered, up, fun has => ?_,
        fun _ record => record.of_proxies rfl⟩, rfl, rfl⟩
      rw [has]
      exact w.setLeftOut_leftOut
    exact .inl (back.same same)
  | error e =>
    have up := up.trans (World.Up.perform (c := .start .back t.json) (r := .error e))
    refine wp_bindLift (runtimeError_alone (fun e' _ => ?_) fun e' w' _ fell => ?_)
    · refine wp_bindLift (modify_alone (wp_still_ret ⟨rfl, .inr (.inr ⟨⟨e, _, answered⟩, ?_⟩)⟩))
      exact .of_kept up.toKept up.fatal (World.restartFailed_lost (up.running.trans running) rfl)
    · refine wp_bindLift (modify_alone (wp_still_ret ⟨rfl, .inr (.inl ?_)⟩))
      have off : w'.restartFailed = w' := by
        unfold World.restartFailed
        rw [fell.running]
        rfl
      rw [off]
      exact .of_up up fell

theorem localProxyStopped_alone {Q : Unit → World → Prop} (rest : ∀ w', w.Up w' → Q () w') :
    wp (alone answers) localProxyStopped Q w := by
  refine modify_alone (rest _ (.of_live rfl rfl rfl ?_ ?_ List.prefix_rfl))
  · simp
  · cases w.proxies <;> rfl

/-- A restart of a running instance. -/
def RestartPost (config : EngineConfig) (answers : Answers) (running : Translation) (build : Build)
    (w : World) : Except Error Translation → World → Prop
  | .ok t, w' => Started config build t w w'
  | .error _, w' => Failed config answers running w w'

theorem restart_alone {t : Translation} (running : w.live.running = true) :
    wp (alone answers) (restart config t build).run (RestartPost config answers t build w) w := by
  refine wp_bindLift (ask_alone fun answer _ => ?_)
  cases answer with
  | error e =>
    have same : w.Same config (w.perform .stop (.error e)) := .perform rfl rfl
    exact throwRuntime_alone (fun _ _ => .refused same) fun _ _ _ fell => .fell (.of_up same.toUp fell)
  | ok _ =>
    refine wp_bindLift ((networkStopped_quiet config).run fun reprobe v same => ?_)
    have up : w.Up v := World.Up.perform.trans same.toUp
    refine wp_bindLift (localProxyStopped_alone fun v' later => ?_)
    have up : w.Up v' := up.trans later
    refine wp_bindLift (wp_mono startNext_alone fun r v'' post => ?_)
    cases r with
    | ok t' =>
      refine wp_bindLift ((restarted_quiet reprobe).run fun _ w' same => wp_still_ret ?_)
      exact (Started.of_up up post).same same
    | error error =>
      refine wp_bindLift (read_alone ?_)
      dsimp only
      split
      next off =>
        refine wp_still_ret (.fell ?_)
        rcases post with still | fell
        · have on := (up.trans still).running.trans running
          simp [on] at off
        · exact .of_up up fell
      next on =>
        have up : w.Up v'' := by
          rcases post with still | fell
          · exact up.trans still
          · simp [fell.running] at on
        refine wp_mono (putBack_alone (up.running.trans running)) fun r w' back => ?_
        obtain ⟨rfl, back | fell | ⟨tried, lost⟩⟩ := back
        · exact .putBack (back.of_up up)
        · exact .fell (.of_up up fell)
        · exact .lost tried (.of_kept up.toKept up.fatal lost)

/-! ## Switches -/

/-- sail took `next` in place. -/
structure Reloaded (config : EngineConfig) (next : Translation) (w w' : World) : Prop
    extends World.Up w w' where
  listening : ∀ json, OnRecord config json w → OnRecord config json w'
  runs : w'.runtime.config = some next.json
  selected : w'.runtime.selected = next.json.kept w.runtime.selected

theorem Reloaded.same {next : Translation} (reloaded : Reloaded config next w w')
    (same : w'.Same config w'') : Reloaded config next w w'' where
  toUp := reloaded.toUp.trans same.toUp
  listening json record := same.listening json (reloaded.listening json record)
  runs := same.runs.trans reloaded.runs
  selected := same.selected.trans reloaded.selected

theorem Reloaded.of_same {next : Translation} (same : w.Same config w')
    (reloaded : Reloaded config next w' w'') : Reloaded config next w w'' where
  toUp := same.toUp.trans reloaded.toUp
  listening json record := reloaded.listening json (same.listening json record)
  runs := reloaded.runs
  selected := by rw [reloaded.selected, same.selected]

theorem Reloaded.perform {next : Translation} {report : ReloadReport} :
    Reloaded config next w (w.perform (.reload next.json) (.ok report)) :=
  ⟨.perform, fun _ record => record.of_proxies rfl, rfl, rfl⟩

/-- The outcomes of a switch of a running instance. -/
def SwitchPost (config : EngineConfig) (answers : Answers) (running next : Translation)
    (build : Build) (w : World) : Except Error Switched → World → Prop
  | .ok s, w' =>
    (s.kind = .kernelSwitch ∧ s.translation = next ∧ Reloaded config next w w') ∨
      (s.kind ≠ .kernelSwitch ∧ Started config build s.translation w w')
  | .error _, w' => Failed config answers running w w'

theorem fullRestart_alone {t : Translation} (next : Translation) {reasons : List String}
    (running : w.live.running = true) :
    wp (alone answers) (fullRestart config t build reasons).run
      (SwitchPost config answers t next build w) w := by
  refine wp_bindLift (modify_alone ?_)
  have begun : w.Same config (w.setLive ({ · with restarting := true })) := .setLive rfl rfl rfl rfl
  refine wp_bindLift (wp_mono (restart_alone running) fun r v post => ?_)
  refine wp_bindLift (modify_alone ?_)
  have ended : v.Same config (v.setLive ({ · with restarting := false })) := .setLive rfl rfl rfl rfl
  refine bindExcept_alone (liftExcept_alone ?_)
  cases r with
  | ok t' =>
    exact wp_still_ret (.inr ⟨by simp, (Started.of_up begun.toUp post).same ended⟩)
  | error e => exact (Failed.of_same begun post).same ended

theorem hotSwitched_alone (config : EngineConfig) (running next : Translation)
    (connections : List RuntimeConnection) (report : ReloadReport) :
    wp (alone answers) (hotSwitched running next connections report)
      (fun s w' => s.kind = .kernelSwitch ∧ s.translation = next ∧ w.Same config w') w := by
  have closing : Quiet config answers
      (Prog.forEach (closeOnSwitch running next connections) fun id => do
        let _ ← Runtime.closeConnection id
        pure ()) := by
    refine .forEach fun id => .bind (.ask fun r _ => ?_) fun _ => .ret ()
    cases r <;> exact .perform rfl rfl
  have listing : Quiet config answers Runtime.readConnections :=
    .ask fun r _ => by cases r <;> exact .perform rfl rfl
  refine wp_bind (probe_alone (fun _ => rfl) fun routes => wp_bind (modify_alone ?_))
  have told : w.Same config (w.setLive ({ · with replacedRoutes := routes })) :=
    .setLive rfl rfl rfl rfl
  refine wp_bind (closing.run fun _ v closed => wp_bind (listing.run fun left v' listed => ?_))
  exact wp_still_ret ⟨rfl, rfl, (told.trans closed).trans listed⟩

theorem switchTo_alone {t next : Translation} (running : w.live.running = true) :
    wp (alone answers) (switchTo config t next build).run
      (SwitchPost config answers t next build w) w := by
  unfold switchTo
  dsimp only
  split
  · exact fullRestart_alone next running
  · refine wp_bindLift (ask_alone fun listed _ => ?_)
    have same : w.Same config (w.perform .connections listed) := by
      cases listed <;> exact .perform rfl rfl
    refine wp_bindLift (ask_alone fun answer _ => ?_)
    cases answer with
    | ok report =>
      refine lift_alone (wp_mono (hotSwitched_alone config t next _ report) fun s w' post => ?_)
      obtain ⟨kind, took, later⟩ := post
      exact .inl ⟨kind, took, (Reloaded.of_same same .perform).same later⟩
    | error e =>
      have refused : w.Same config ((w.perform .connections listed).perform (.reload next.json)
          (.error e)) := same.trans (.perform rfl rfl)
      dsimp only
      split
      · refine wp_mono (fullRestart_alone next (refused.running.trans running)) fun r w' post => ?_
        cases r with
        | ok s =>
          rcases post with ⟨kind, took, reloaded⟩ | ⟨kind, started⟩
          · exact .inl ⟨kind, took, .of_same refused reloaded⟩
          · exact .inr ⟨kind, .of_up refused.toUp started⟩
        | error e => exact .of_same refused post
      · exact throwRuntime_alone (fun _ _ => .refused refused) fun _ _ _ fell =>
          .fell (.of_up refused.toUp fell)

end

end PpvpnCore
