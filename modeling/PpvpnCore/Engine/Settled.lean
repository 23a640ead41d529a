import PpvpnCore.Engine.Calls

/-!
# The state reported is the state the facts make

`Section` says once what a critical section of any task may do to the facts
under the live lock; `Op.task_sections` that every section of every task is
one. Over any interleaving it follows that the state last reported is the one
the facts make, and that the reports form a chain.
-/

namespace PpvpnCore

open Lib

/-! ## Reports -/

/-- The transitions among the events, as (previous, state). -/
def transitions (events : List Event) : List (EngineState × EngineState) :=
  events.filterMap fun
    | .stateChanged state previous => some (previous, state)
    | _ => none

/-- Each transition leaves the state the one before it reached, for another
one; the last reaches `final`. -/
def Chain (first : EngineState) : List (EngineState × EngineState) → (final : EngineState) → Prop
  | [], final => first = final
  | (previous, state) :: rest, final => previous = first ∧ state ≠ previous ∧ Chain state rest final

theorem Chain.append {first middle final : EngineState}
    {before after : List (EngineState × EngineState)} (left : Chain first before middle)
    (right : Chain middle after final) : Chain first (before ++ after) final := by
  induction before generalizing first with
  | nil =>
    cases left
    exact right
  | cons t rest ih => exact ⟨left.1, left.2.1, ih left.2.2⟩

/-- What was reported so far: a chain from `stopped` to the state on record. -/
def World.Reported (w : World) : Prop :=
  Chain .stopped (transitions w.events) w.live.state

/-- Nothing is left to report. -/
structure World.Settled (w : World) : Prop where
  state : w.live.state = w.live.stateNow
  reported : w.Reported

theorem World.settle_settled {w : World} (reported : w.Reported) : w.settle.Settled := by
  unfold World.settle
  dsimp only
  split
  next changed =>
    refine ⟨rfl, ?_⟩
    have last : Chain w.live.state (transitions [.stateChanged w.live.stateNow w.live.state])
        w.live.stateNow := ⟨rfl, changed, rfl⟩
    rw [World.Reported, transitions, List.filterMap_append]
    exact reported.append last
  next same => exact ⟨(not_not.mp same).symm, reported⟩

/-! ## What a section may do -/

/-- What a critical section leaves of the instance's facts: settled if it was,
sail as it was but for what sail does on its own, and the end of the instance is never taken back, nor declared
but by `shutdown`. -/
structure Section (place : Place) (w w' : World) : Prop where
  settled : w.Settled → w'.Settled
  runtime : place ≠ .sail → w'.runtime = w.runtime
  shutDown : w.live.shutDown = true → w'.live.shutDown = true
  notShutDown : place ≠ .shutDown → w.live.shutDown = false → w'.live.shutDown = false
  listeners : w'.proxies.isSome = w.proxies.isSome

variable {place : Place} {w w' w'' : World}

theorem Section.refl (place : Place) (w : World) : Section place w w :=
  ⟨id, fun _ => rfl, id, fun _ => id, rfl⟩

theorem Section.trans (first : Section place w w') (second : Section place w' w'') :
    Section place w w'' where
  settled h := second.settled (first.settled h)
  runtime ne := (second.runtime ne).trans (first.runtime ne)
  shutDown h := second.shutDown (first.shutDown h)
  notShutDown ne h := second.notShutDown ne (first.notShutDown ne h)
  listeners := second.listeners.trans first.listeners

/-- A section that leaves the live facts and the events alone. -/
theorem Section.frame (place : Place) (live : w'.live = w.live) (events : w'.events = w.events)
    (runtime : place ≠ .sail → w'.runtime = w.runtime)
    (listeners : w'.proxies.isSome = w.proxies.isSome) : Section place w w' := by
  refine ⟨fun h => ⟨?_, ?_⟩, runtime, fun h => ?_, fun _ h => ?_, listeners⟩
  · rw [live]
    exact h.state
  · rw [World.Reported, live, events]
    exact h.reported
  · rw [live]
    exact h
  · rw [live]
    exact h

/-- A report follows whatever became of the facts. -/
theorem Section.settleLive {f : Live → Live} (state : (f w.live).state = w.live.state)
    (shutDown : (f w.live).shutDown = w.live.shutDown) : Section place w (w.settleLive f) := by
  have same : (w.settleLive f).live.shutDown = w.live.shutDown := by
    unfold World.settleLive World.settle World.setLive
    dsimp only
    split <;> exact shutDown
  refine ⟨fun h => World.settle_settled ?_, fun _ => ?_, fun h => same.trans h,
    fun _ h => same.trans h, ?_⟩
  · rw [World.Reported, World.setLive, state]
    exact h.reported
  · rw [World.settleLive, World.settle_runtime]
    rfl
  · rw [World.settleLive, World.settle_proxies]
    rfl

/-- A change of facts the state does not depend on needs no report. -/
theorem Section.setLive {f : Live → Live} (state : (f w.live).state = w.live.state)
    (same : (f w.live).stateNow = w.live.stateNow)
    (shutDown : (f w.live).shutDown = w.live.shutDown) : Section place w (w.setLive f) := by
  refine ⟨fun h => ⟨?_, ?_⟩, fun _ => rfl, fun h => shutDown.trans h, fun _ h => shutDown.trans h,
    rfl⟩
  · exact (state.trans h.state).trans same.symm
  · rw [World.Reported, World.setLive, state]
    exact h.reported

theorem Section.publish {event : Event} (other : ∀ s t, event ≠ .stateChanged s t) :
    Section place w (w.publish event) := by
  refine ⟨fun h => ⟨h.state, ?_⟩, fun _ => rfl, id, fun _ => id, rfl⟩
  have none_ : transitions [event] = [] := by
    cases event with
    | stateChanged s t => exact absurd rfl (other s t)
    | _ => rfl
  rw [World.Reported, World.publish, transitions, List.filterMap_append]
  exact h.reported.append (by rw [← transitions, none_]; rfl)

/-! ## The sections of the tasks -/

section

variable {α : Type} {p : Task α}

theorem read_sections : Within Section read := ⟨fun w => .refl _ w, fun _ => trivial⟩

theorem modify_sections {f : World → World} (each : ∀ w, Section .plain w (f w)) :
    Within Section (modify f) := ⟨each, fun _ => trivial⟩

theorem inSection_sections {f : World → α × World} (each : ∀ w, Section .plain w (f w).2) :
    Within Section (inSection f) := ⟨each, fun _ => trivial⟩

theorem ask_sections {c : Call} : Within Section c.ask := fun _ => trivial

theorem publish_sections {event : Event} (other : ∀ s t, event ≠ .stateChanged s t) :
    Within Section (publish event) := modify_sections fun _ => .publish other

theorem lift_sections (within : Within Section p) : Within Section (monadLift p : Try α).run :=
  within.bind fun _ => trivial

theorem locked_sections {p : Try α} (within : Within Section p.run) :
    Within Section (locked p).run := within.withLock

end

theorem admitCall_sections : Within Section admitCall.run := by
  refine .bindLift read_sections fun w => ?_
  dsimp only
  split
  · trivial
  · split <;> trivial

theorem runtimeError_sections (config : EngineConfig) (e : RuntimeError) :
    Within Section (runtimeError config e) := by
  unfold runtimeError
  dsimp only
  split
  · exact .bind (modify_sections fun w => .settleLive rfl rfl) fun _ => trivial
  · trivial

/-- The error of a runtime call, passed on. -/
theorem throwRuntime_sections {α : Type} (config : EngineConfig) (e : RuntimeError) :
    Within Section (do throw (← runtimeError config e) : Try α).run :=
  .bindLift (runtimeError_sections config e) fun _ => trivial

theorem publishMoved_sections (moved : Moved) : Within Section (publishMoved moved) := by
  unfold publishMoved
  split
  · exact publish_sections (by simp)
  · trivial

theorem prepareListeners_sections (config : EngineConfig) :
    Within Section (prepareListeners config).run := by
  refine .bindLift ask_sections fun first => .bindLift ask_sections fun second => ?_
  refine .bindExcept (inSection_sections fun w => ?_) fun moved =>
    lift_sections (publishMoved_sections moved)
  unfold World.prepareListeners
  split
  · exact .refl _ _
  · exact .frame _ rfl rfl (fun _ => rfl) (by simp [*])

theorem leaveOutLocalProxy_sections (config : EngineConfig) :
    Within Section (leaveOutLocalProxy config) := by
  refine inSection_sections fun w => ?_
  split
  · split
    · exact .refl _ _
    · exact .frame _ rfl rfl (fun _ => rfl) (by simp [*])
  · exact .refl _ _

theorem localProxyStopped_sections : Within Section localProxyStopped :=
  modify_sections fun _ => .frame _ rfl rfl (fun _ => rfl) (by simp)

/-! ### The network -/

theorem World.networkStarted_section (w : World) : Section .plain w w.networkStarted := by
  unfold World.networkStarted
  dsimp only
  split
  · exact .refl _ _
  · have read : Section .plain w { w with track.last := w.runtime.network } := .frame _ rfl rfl (fun _ => rfl) (by simp)
    split
    · exact read.trans (.settleLive rfl rfl)
    · exact read

theorem World.onNetwork_section (place : Place) (w : World) (interface : Option (String × Nat)) :
    Section place w (w.onNetwork interface) := by
  -- The offline fact waits for the report at the end of the section.
  have whole : w.onNetwork interface = (if w.live.running then w.publish (.networkChanged
      interface.isSome (interface.getD ("", 0)).1 (interface.getD ("", 0)).2) else w).settleLive
      ({ · with offline := interface.isNone }) := by
    unfold World.onNetwork World.settleLive World.setLive World.publish
    dsimp only
    split <;> rfl
  rw [whole]
  split
  · exact (Section.publish (by simp)).trans (.settleLive rfl rfl)
  · exact .settleLive rfl rfl

theorem networkStopped_sections : Within Section networkStopped := by
  refine .bind (inSection_sections fun w => .frame _ rfl rfl (fun _ => rfl) (by simp)) fun waiting => ?_
  refine .bind (modify_sections fun w => ?_) fun _ => trivial
  split
  · exact .settleLive rfl rfl
  · exact .refl _ _

theorem armReprobe_sections (config : EngineConfig) : Within Section (armReprobe config) := by
  unfold armReprobe
  split
  · trivial
  · exact modify_sections fun w => .frame _ rfl rfl (fun _ => rfl) (by simp)

theorem onNetworkChange_sections (config : EngineConfig) (run : Nat) (change : NetworkChange) :
    Within Section (onNetworkChange config run change) := by
  refine .bind read_sections fun w => ?_
  dsimp only
  split
  · trivial
  · refine .bind ⟨fun w => .frame _ rfl rfl (fun _ => rfl) (by simp), fun _ => trivial⟩ fun missed => ?_
    have last : Within Section (do
        Prog.update (.watched run) (·.onNetwork (interfaceIf change.new (change.change = .offline)))
        armReprobe config) :=
      .bind ⟨fun w => w.onNetwork_section _ _, fun _ => trivial⟩ fun _ => armReprobe_sections config
    split
    · exact .bind ⟨fun w => w.onNetwork_section _ _, fun _ => trivial⟩ fun _ => last
    · exact last

theorem networkReported_sections (change : NetworkChange) :
    Within Section (networkReported change) := by
  refine ⟨fun w => ?_, fun _ => trivial⟩
  dsimp only
  split
  · exact .frame _ rfl rfl (fun ne => absurd rfl ne) rfl
  · exact .refl _ _

/-! ### Switches -/

theorem hotSwitched_sections (running next : Translation) (connections : List RuntimeConnection)
    (report : ReloadReport) : Within Section (hotSwitched running next connections report) := by
  refine .bind ask_sections fun routes => ?_
  refine .bind (modify_sections fun w => .setLive rfl rfl rfl) fun _ => ?_
  refine .bind (.forEach fun id => .bind ask_sections fun _ => trivial) fun _ => ?_
  exact .bind ask_sections fun left => trivial

theorem startOrLeaveOut_sections (config : EngineConfig) (build : Build) (first : Translation) :
    Within Section (startOrLeaveOut config build first).run := by
  refine .bindLift ask_sections fun started => ?_
  cases started with
  | ok _ => trivial
  | error e =>
    dsimp only
    split
    · trivial
    · refine .bindLift (leaveOutLocalProxy_sections config) fun left => ?_
      split
      · refine .bindLift read_sections fun w => .bindExcept trivial fun translation => ?_
        exact .bindLift ask_sections fun again => trivial
      · trivial

theorem startNext_sections (config : EngineConfig) (build : Build) :
    Within Section (startNext config build).run := by
  refine .bindExcept (prepareListeners_sections config) fun _ => ?_
  refine .bindLift read_sections fun w => .bindExcept trivial fun translation => ?_
  refine .bindExcept (startOrLeaveOut_sections config build translation) fun result => ?_
  dsimp only
  split
  · trivial
  · exact throwRuntime_sections config _

theorem World.restartFailed_section (w : World) : Section .plain w w.restartFailed := by
  unfold World.restartFailed
  split
  · exact .refl _ _
  · exact (Section.settleLive rfl rfl).trans (.publish (by simp))

theorem restarted_sections (config : EngineConfig) (reprobe : Bool) :
    Within Section (restarted config reprobe) := by
  refine .bind ask_sections fun routes => ?_
  refine .bind (modify_sections fun w => .settleLive rfl rfl) fun _ => ?_
  refine .bind (modify_sections World.networkStarted_section) fun _ => ?_
  split
  · exact armReprobe_sections config
  · trivial

theorem putBack_sections (config : EngineConfig) (running : Translation) (reprobe : Bool)
    (error : Error) : Within Section (putBack config running reprobe error).run := by
  refine .bindLift (modify_sections fun w => .frame _ rfl rfl (fun _ => rfl) (by simp)) fun _ => ?_
  refine .bindLift ask_sections fun started => ?_
  cases started with
  | ok _ => exact .bindLift (restarted_sections config reprobe) fun _ => trivial
  | error e =>
    refine .bindLift (runtimeError_sections config e) fun _ => ?_
    exact .bindLift (modify_sections World.restartFailed_section) fun _ => trivial

theorem restart_sections (config : EngineConfig) (running : Translation) (build : Build) :
    Within Section (restart config running build).run := by
  refine .bindLift ask_sections fun stopped => ?_
  cases stopped with
  | error e => exact throwRuntime_sections config e
  | ok _ =>
    refine .bindLift networkStopped_sections fun reprobe => ?_
    refine .bindLift localProxyStopped_sections fun _ => ?_
    refine .bindLift (startNext_sections config build) fun started => ?_
    cases started with
    | ok translation => exact .bindLift (restarted_sections config reprobe) fun _ => trivial
    | error error =>
      refine .bindLift read_sections fun w => ?_
      dsimp only
      split
      · trivial
      · exact putBack_sections config running reprobe error

theorem fullRestart_sections (config : EngineConfig) (running : Translation) (build : Build)
    (reasons : List String) : Within Section (fullRestart config running build reasons).run := by
  refine .bindLift (modify_sections fun w => .setLive rfl rfl rfl) fun _ => ?_
  refine .bindLift (restart_sections config running build) fun result => ?_
  refine .bindLift (modify_sections fun w => .setLive rfl rfl rfl) fun _ => ?_
  exact .bindExcept trivial fun translation => trivial

theorem switchTo_sections (config : EngineConfig) (running next : Translation) (build : Build) :
    Within Section (switchTo config running next build).run := by
  unfold switchTo
  dsimp only
  split
  · exact fullRestart_sections config running build _
  · refine .bindLift ask_sections fun listed => .bindLift ask_sections fun reloaded => ?_
    cases reloaded with
    | ok report => exact lift_sections (hotSwitched_sections running next _ report)
    | error e =>
      dsimp only
      split
      · exact fullRestart_sections config running build _
      · exact throwRuntime_sections config e

/-! ### apply, start and stop -/

theorem orReloadFailed_sections {α : Type} {message : String} {p : Try α}
    (within : Within Section p.run) : Within Section (orReloadFailed message p).run := by
  refine .bindLift within fun result => ?_
  cases result with
  | ok a => trivial
  | error e => exact .bindLift (publish_sections (by simp)) fun _ => trivial

theorem probeHostIpv6_sections (config : EngineConfig) : Within Section (probeHostIpv6 config) := by
  unfold probeHostIpv6 readHostIpv6
  dsimp only
  split
  · trivial
  · refine .bind ?_ fun state => modify_sections fun w => .frame _ rfl rfl (fun _ => rfl) (by simp)
    split
    · trivial
    · exact .bind ask_sections fun host => trivial

theorem reassert_sections (t : Translation) (selected : String) (pins : BTreeMap String String) :
    Within Section (reassert t selected pins) := by
  have groups : Within Section (Prog.forEach t.tags.groups.toList fun group => do
      let _ ← Runtime.select group.1 (reassertMember t pins group.1 group.2)
      pure ()) := .forEach fun _ => .bind ask_sections fun _ => trivial
  unfold reassert
  dsimp only
  split
  · exact .bind ask_sections fun _ => groups
  · exact groups

theorem refresh_sections : Within Section refresh := by
  refine .bind read_sections fun w => ?_
  dsimp only
  split
  · trivial
  · refine .bind ask_sections fun groups => .bind ask_sections fun traffic =>
      .bind ask_sections fun connections => modify_sections fun w => ?_
    split
    · exact .refl _ _
    · exact .setLive rfl rfl rfl

theorem World.settleRuleSets_section (w : World) : Section .plain w w.settleRuleSets := by
  unfold World.settleRuleSets
  dsimp only
  split
  · exact .settleLive rfl rfl
  · exact .refl _ _

theorem onRuleSet_sections (copy : SetCopy) : Within Section (onRuleSet copy) :=
  .bind (publish_sections (by simp)) fun _ => modify_sections World.settleRuleSets_section

theorem activateRuleSets_sections (snapshot : List SetCopy) (allowedHosts : List String) :
    Within Section (activateRuleSets snapshot allowedHosts) := by
  refine .bind (modify_sections fun w => .frame _ rfl rfl (fun _ => rfl) (by simp)) fun _ => ?_
  refine .bind (inSection_sections fun w => .frame _ rfl rfl (fun _ => rfl) (by simp)) fun before => ?_
  exact .bind (.forEach onRuleSet_sections) fun _ => modify_sections World.settleRuleSets_section

theorem prepareRuleSets_sections (profile : Profile) (mode : RoutingMode)
    (allowedHosts : List String) : Within Section (prepareRuleSets profile mode allowedHosts) := by
  refine .bind read_sections fun w => ?_
  split
  · trivial
  · refine .bind ask_sections fun snapshot => .bind read_sections fun w => ?_
    split
    · trivial
    · refine .bind ask_sections fun taken => ?_
      split <;> trivial

theorem World.applied_section (w : World) (applied : Applied) (cleared : List ClearedPin) :
    Section .plain w (w.applied applied cleared) := by
  have pins : ∀ w : World, Section .plain w (cleared.foldl (fun w pin => w.publish
      (.nodeIngressPinCleared applied.profile.revision pin.nodeId pin.endpointKey pin.reason))
      w) := by
    induction cleared with
    | nil => exact fun w => .refl _ w
    | cons pin rest ih => exact fun w => (Section.publish (by simp)).trans (ih _)
  exact ((Section.settleLive rfl rfl).trans (.publish (by simp))).trans (pins _)

theorem applyRunning_sections (config : EngineConfig) (running translation : Translation)
    (build : Build) (revision selected : String) (pins : BTreeMap String String) :
    Within Section (applyRunning config running translation build revision selected pins).run := by
  refine .bindExcept (orReloadFailed_sections (switchTo_sections config running translation build))
    fun switched => ?_
  dsimp only
  split
  · refine .bindLift (publish_sections (by simp)) fun _ => ?_
    exact .bindLift (reassert_sections _ _ _) fun _ => trivial
  · trivial

theorem applyStopped_sections (translation : Translation) :
    Within Section (applyStopped translation).run := by
  refine .bindLift ask_sections fun checked => ?_
  cases checked with
  | error e => trivial
  | ok checked => exact orReloadFailed_sections trivial

theorem applyBuilt_sections (config : EngineConfig) (running : Option Translation)
    (translation : Translation) (build : Build) (revision selected : String)
    (pins : BTreeMap String String) :
    Within Section (applyBuilt config running translation build revision selected pins).run := by
  unfold applyBuilt
  split
  · exact .bindExcept (applyRunning_sections config _ _ _ _ _ _) fun _ => trivial
  · exact .bindExcept (applyStopped_sections translation) fun _ => trivial

theorem applyTaken_sections (request : ApplyRequest) (profile : Profile) (snapshot : List SetCopy)
    (running : Bool) (translation : Translation) :
    Within Section (applyTaken request profile snapshot running translation) := by
  refine .bind (modify_sections fun w => w.applied_section _ _) fun _ => ?_
  refine .bind (activateRuleSets_sections _ _) fun _ => ?_
  split
  · exact refresh_sections
  · trivial

theorem World.started_section (w : World) (config : EngineConfig) (replacedRoutes : List String)
    (translation : Translation) :
    Section .plain w (w.started config replacedRoutes translation) :=
  (Section.settleLive rfl rfl).trans (.publish (by simp))

section

variable [Crates]

theorem applyLocked_sections (config : EngineConfig) (request : ApplyRequest) (profile : Profile)
    (snapshot : List SetCopy) :
    Within Section (applyLocked config request profile snapshot).run := by
  refine .bindExcept admitCall_sections fun _ => .bindLift read_sections fun w => ?_
  refine .bindLift (probeHostIpv6_sections config) fun _ => .bindLift read_sections fun now => ?_
  refine .bindExcept (orReloadFailed_sections trivial) fun translation => ?_
  refine .bindExcept (applyBuilt_sections config _ translation _ _ _ _) fun switched => ?_
  exact .bindLift (applyTaken_sections _ _ _ _ _) fun _ => trivial

theorem apply_sections (config : EngineConfig) (request : ApplyRequest) :
    Within Section (apply config request).run := by
  refine .bindExcept admitCall_sections fun _ => .bindLift ask_sections fun now => ?_
  refine .bindExcept (orReloadFailed_sections trivial) fun profile => ?_
  refine .bindLift read_sections fun hosts => .bindLift read_sections fun w => ?_
  split
  · trivial
  · refine .bindLift (prepareRuleSets_sections _ _ _) fun snapshot => ?_
    cases snapshot with
    | none => trivial
    | some snapshot => exact locked_sections (applyLocked_sections config request profile snapshot)

theorem startPhases_sections (config : EngineConfig) : Within Section (startPhases config).run := by
  refine .bindLift read_sections fun w => ?_
  dsimp only
  split
  · trivial
  · refine .bindExcept (prepareListeners_sections config) fun _ => ?_
    refine .bindLift (probeHostIpv6_sections config) fun _ => .bindLift read_sections fun now => ?_
    refine .bindExcept trivial fun translation => ?_
    refine .bindLift (modify_sections fun w => .setLive rfl rfl rfl) fun _ => ?_
    refine .bindExcept (startOrLeaveOut_sections config _ translation) fun result => ?_
    split
    · exact throwRuntime_sections config _
    · refine .bindLift ask_sections fun routes => ?_
      refine .bindLift (modify_sections fun w => w.started_section _ _ _) fun _ => ?_
      refine .bindLift (modify_sections World.networkStarted_section) fun _ => ?_
      exact lift_sections refresh_sections

theorem start_sections (config : EngineConfig) : Within Section (start config).run := by
  refine .bindExcept admitCall_sections fun _ => locked_sections ?_
  refine .bindExcept admitCall_sections fun _ => .bindLift read_sections fun w => ?_
  split
  · trivial
  · exact startPhases_sections config

end

theorem stop_sections (config : EngineConfig) : Within Section (stop config).run := by
  refine .bindExcept admitCall_sections fun _ => locked_sections ?_
  refine .bindExcept admitCall_sections fun _ => .bindLift read_sections fun w => ?_
  split
  · trivial
  · refine .bindLift ask_sections fun stopped => ?_
    cases stopped with
    | error e => exact throwRuntime_sections config e
    | ok _ =>
      refine .bindLift networkStopped_sections fun _ => ?_
      refine .bindLift localProxyStopped_sections fun _ => lift_sections (modify_sections fun w => ?_)
      exact (Section.settleLive rfl rfl).trans (.publish (by simp))

/-! ### The watcher and the other calls -/

theorem World.onSwitch_section (w : World) (switch : GroupSwitch) :
    Section .plain w (w.onSwitch switch) := by
  unfold World.onSwitch
  split
  · exact .refl _ _
  · split
    · exact .refl _ _
    · dsimp only
      split
      · split
        · exact .refl _ _
        · exact (Section.setLive rfl rfl rfl).trans (.publish (by simp))
      · exact .refl _ _

theorem World.onRuntimeState_section (w : World) (state : RuntimeState) :
    Section .plain w (w.onRuntimeState state) := by
  unfold World.onRuntimeState
  split
  · split
    · exact .refl _ _
    · exact .settleLive rfl rfl
  · exact .refl _ _

theorem World.onTunRouting_section (w : World) (signal : TunRoutingSignal) :
    Section .plain w (w.onTunRouting signal) := by
  cases signal with
  | restoring => exact .settleLive rfl rfl
  | unguarded => exact .settleLive rfl rfl
  | restored missing => exact (Section.publish (by simp)).trans (.settleLive rfl rfl)
  | broken missing error => exact (Section.publish (by simp)).trans (.settleLive rfl rfl)
  | changed missing error => exact (Section.publish (by simp)).trans (.settleLive rfl rfl)

/-- What is applied is still applied. -/
theorem Live.stateNow_applied {live : Live} {a b : Applied} (applied : live.applied = some a) :
    ({ live with applied := some b } : Live).stateNow = live.stateNow := by
  unfold Live.stateNow
  rw [applied]
  rfl

theorem World.updateApplied_section (w : World) {f : Applied → Applied × Event}
    (other : ∀ a s t, (f a).2 ≠ .stateChanged s t) : Section .plain w (w.updateApplied f).2 := by
  unfold World.updateApplied
  split
  · exact .refl _ _
  next a applied =>
    exact (Section.setLive rfl (Live.stateNow_applied applied) rfl).trans (.publish (other a))

theorem World.translated_section (w : World) (translation : Translation) :
    Section .plain w (w.translated translation) := by
  refine .setLive rfl ?_ rfl
  cases applied : w.live.applied with
  | none =>
    unfold Live.stateNow
    rw [applied]
    rfl
  | some a => exact Live.stateNow_applied applied

theorem selectNode_sections (config : EngineConfig) (nodeId : String) :
    Within Section (selectNode config nodeId).run := by
  refine .bindExcept admitCall_sections fun _ => locked_sections ?_
  refine .bindExcept admitCall_sections fun _ => .bindLift read_sections fun w => ?_
  refine .bindExcept trivial fun applied => ?_
  have last : Within Section (do
      ExceptT.mk <| inSection fun w => w.updateApplied fun a =>
        ({ a with selected := nodeId }, .nodeSelected a.profile.revision nodeId)
      refresh : Try Unit).run :=
    .bindExcept (inSection_sections fun w => w.updateApplied_section (by simp)) fun _ =>
      lift_sections refresh_sections
  dsimp only
  split
  · trivial
  · split
    · split
      · refine .bindLift ask_sections fun selected => ?_
        cases selected with
        | ok _ => exact last
        | error e => exact .bindLift (runtimeError_sections config e) fun _ => trivial
      · exact last
    · exact last

theorem pinIngress_sections (config : EngineConfig) (nodeId : String) (key : Option String) :
    Within Section (pinIngress config nodeId key).run := by
  refine .bindExcept admitCall_sections fun _ => locked_sections ?_
  refine .bindExcept admitCall_sections fun _ => .bindLift read_sections fun w => ?_
  refine .bindExcept trivial fun applied => .bindExcept trivial fun node => ?_
  have last : Within Section (do
      ExceptT.mk <| inSection fun w => w.updateApplied fun a =>
        ({ a with pins := setPin a.pins nodeId key }, .nodeIngressPinned nodeId (key.getD ""))
      refresh : Try Unit).run :=
    .bindExcept (inSection_sections fun w => w.updateApplied_section (by simp)) fun _ =>
      lift_sections refresh_sections
  dsimp only
  split
  · trivial
  · split
    · split
      · refine .bindLift ask_sections fun selected => ?_
        cases selected with
        | ok _ => exact last
        | error e => exact .bindLift (runtimeError_sections config e) fun _ => trivial
      · exact last
    · exact last

theorem rebuildSwitch_sections (config : EngineConfig) (a : Applied) (running : Bool)
    (build : Build) : Within Section (rebuildSwitch config a running build).run := by
  refine .bindLift read_sections fun w => .bindExcept trivial fun translation => ?_
  dsimp only
  split
  · refine .bindExcept (switchTo_sections config _ _ build) fun switched => ?_
    split
    · exact .bindLift (publish_sections (by simp)) fun _ => trivial
    · trivial
  · trivial

theorem reprobeSwitched_sections (switched : Switched) :
    Within Section (reprobeSwitched switched) := by
  refine .bind (inSection_sections fun w => w.translated_section _) fun revision => ?_
  dsimp only
  split
  · split
    · exact .bind (publish_sections (by simp)) fun _ => refresh_sections
    · exact refresh_sections
  · trivial

section

variable [Crates]

theorem toggleListener_sections (config : EngineConfig) (a : Applied) :
    Within Section (toggleListener config a).run := by
  refine .bindLift read_sections fun w => .bindExcept trivial fun translation => ?_
  refine .bindLift ask_sections fun reloaded => ?_
  cases reloaded with
  | ok _ => exact lift_sections (modify_sections fun w => w.translated_section translation)
  | error e => exact .bindLift (runtimeError_sections config e) fun _ => trivial

theorem setSystemProxyListener_sections (config : EngineConfig) (enabled : Bool) :
    Within Section (setSystemProxyListener config enabled).run := by
  refine .bindExcept admitCall_sections fun _ => ?_
  dsimp only
  split
  · trivial
  · refine locked_sections (.bindExcept admitCall_sections fun _ => ?_)
    refine .bindLift read_sections fun w => .bindLift ask_sections fun answers => ?_
    refine .bindExcept (inSection_sections fun w => ?_) fun toggled => ?_
    · split
      · exact .refl _ _
      · exact .frame _ rfl rfl (fun _ => rfl) (by simp [*])
    · have last : Within Section (do
          publish (.systemProxyChanged (w.live.applied.elim "" (·.profile.revision))
            (if enabled then "enabled" else "disabled"))
          return (← read).systemProxyStatus config w.live.running : Try SystemProxyStatus).run :=
        .bindLift (publish_sections (by simp)) fun _ => .bindLift read_sections fun _ => trivial
      dsimp only
      split
      · exact .bindLift read_sections fun _ => trivial
      · split
        · refine .bindLift (toggleListener_sections config _) fun result => ?_
          cases result with
          | ok _ => exact last
          | error e =>
            exact .bindLift (modify_sections fun w => .frame _ rfl rfl (fun _ => rfl) (by simp)) fun _ => trivial
        · exact last

theorem reopen_sections (config : EngineConfig) (a : Applied) :
    Within Section (reopen config a) := by
  refine .bind (.bindLift read_sections fun w => .bindExcept trivial fun translation =>
    .bindLift ask_sections fun reloaded => ?_) fun opened => ?_
  · cases reloaded with
    | ok _ => trivial
    | error e => exact .bindLift (runtimeError_sections config e) fun _ => trivial
  · cases opened with
    | ok translation => exact modify_sections fun w => .settleLive rfl rfl
    | error e => exact modify_sections fun w => .frame _ rfl rfl (fun _ => rfl) (by simp)

theorem openLocalProxy_sections (config : EngineConfig) (run : Nat) :
    Within Section (openLocalProxy config run) := by
  refine Within.withLock (.bind read_sections fun w => ?_)
  split
  · split
    · refine .bind ask_sections fun answers =>
        .bind (inSection_sections fun w => ?_) fun moved => ?_
      · unfold World.retryPort
        split
        · exact .refl _ _
        · split <;> exact .frame _ rfl rfl (fun _ => rfl) (by simp [*])
      · split
        · exact .bind (publishMoved_sections _) fun _ => reopen_sections config _
        · trivial
    · trivial
  · trivial

theorem rebuildCached_sections (config : EngineConfig) (a : Applied) (running : Bool) :
    Within Section (rebuildCached config a running) := by
  refine .bind read_sections fun now => .bind ask_sections fun snapshot => ?_
  refine .bind (rebuildSwitch_sections config a _ _) fun result => ?_
  cases result with
  | error e => exact publish_sections (by simp)
  | ok translation =>
    refine .bind (modify_sections fun w => w.translated_section translation) fun _ => ?_
    refine .bind (activateRuleSets_sections _ _) fun _ => ?_
    split
    · exact refresh_sections
    · trivial

theorem rebuildRuleSets_sections (config : EngineConfig) :
    Within Section (rebuildRuleSets config) := by
  refine Within.withLock (.bind read_sections fun w => ?_)
  split
  · trivial
  · split
    · trivial
    next a _ =>
      refine .bind ask_sections fun now => ?_
      split
      · exact publish_sections (by simp)
      · exact rebuildCached_sections config a _

theorem reprobed_sections (config : EngineConfig) (a : Applied) (state : Ipv6State) :
    Within Section (reprobed config a state) := by
  refine .bind (modify_sections fun w => .frame _ rfl rfl (fun _ => rfl) (by simp)) fun _ => ?_
  refine .bind read_sections fun built => ?_
  split
  · refine .bind read_sections fun w => ?_
    split
    · trivial
    · refine .bind (switchTo_sections config _ _ _) fun result => ?_
      cases result with
      | error e => trivial
      | ok switched => exact reprobeSwitched_sections switched
  · trivial

theorem reprobeLocked_sections (config : EngineConfig) :
    Within Section (reprobeLocked config) := by
  refine .bind read_sections fun w => ?_
  split
  · trivial
  · split
    · trivial
    next a _ =>
      have probed : Within Section (readHostIpv6 config) := by
        unfold readHostIpv6
        dsimp only
        split
        · trivial
        · exact .bind ask_sections fun _ => trivial
      refine .bind probed fun state => ?_
      split
      · trivial
      · refine .bind ask_sections fun now => ?_
        split
        · exact publish_sections (by simp)
        · exact reprobed_sections config a state

theorem reprobeHostIpv6_sections (config : EngineConfig) :
    Within Section (reprobeHostIpv6 config) := by
  unfold reprobeHostIpv6
  split
  · trivial
  · refine .bind admitCall_sections fun admitted => ?_
    cases admitted with
    | error e => trivial
    | ok _ => exact (reprobeLocked_sections config).withLock

end

theorem fatalCleanup_sections : Within Section fatalCleanup :=
  .bind ask_sections fun _ => modify_sections fun _ => .setLive rfl rfl rfl

/-- The one section that ends the instance. -/
theorem World.shutDown_section (w : World) : Section .shutDown w w.shutDown := by
  unfold World.shutDown
  split
  · exact .refl _ _
  next off =>
    refine ⟨fun h => World.settle_settled h.reported, ?_, fun h => absurd h off,
      fun ne => absurd rfl ne, ?_⟩
    · intro _
      rw [World.settleLive, World.settle_runtime]
      rfl
    · rw [World.settleLive, World.settle_proxies]
      rfl

theorem shutdownBody_sections : Within Section shutdownBody := by
  refine .bind read_sections fun w => .bind networkStopped_sections fun _ => ?_
  refine .bind localProxyStopped_sections fun _ => ?_
  have last : Within Section (Prog.update .shutDown World.shutDown : Task Unit) :=
    ⟨World.shutDown_section, fun _ => trivial⟩
  dsimp only
  split
  · exact .bind ask_sections fun _ => last
  · exact last

theorem shutdown_sections : Within Section shutdown := by
  refine .bind (modify_sections fun w => .frame _ rfl rfl (fun _ => rfl) (by simp)) fun _ => fun got => ?_
  cases got with
  | true => exact shutdownBody_sections.bind fun _ => trivial
  | false => exact shutdownBody_sections

theorem Try.failed_sections {α : Type} {p : Try α} (within : Within Section p.run) :
    Within Section p.failed := by
  refine .bind within fun result => ?_
  cases result <;> trivial

/-- Every section of everything an instance does. -/
theorem Op.task_sections [Crates] (config : EngineConfig) (op : Op) :
    Within Section (op.task config) := by
  cases op with
  | apply request => exact Try.failed_sections (apply_sections config request)
  | start => exact Try.failed_sections (start_sections config)
  | stop => exact Try.failed_sections (stop_sections config)
  | selectNode nodeId => exact Try.failed_sections (selectNode_sections config nodeId)
  | pinIngress nodeId key => exact Try.failed_sections (pinIngress_sections config nodeId key)
  | setSystemProxyListener enabled =>
    exact Try.failed_sections (setSystemProxyListener_sections config enabled)
  | openLocalProxy run =>
    refine .bind read_sections fun w => ?_
    dsimp only
    split
    · exact (openLocalProxy_sections config run).bind fun _ => trivial
    · trivial
  | rebuildRuleSets => exact (rebuildRuleSets_sections config).bind fun _ => trivial
  | reprobeHostIpv6 => exact (reprobeHostIpv6_sections config).bind fun _ => trivial
  | onNetworkChange change seen =>
    refine .bind (networkReported_sections change) fun run => ?_
    split
    · exact (onNetworkChange_sections config _ change).bind fun _ => trivial
    · trivial
  | onSwitch switch =>
    refine .bind (.bind refresh_sections fun _ => ?_) fun _ => trivial
    exact modify_sections fun w => w.onSwitch_section switch
  | onRuntimeState state =>
    exact (modify_sections fun w => w.onRuntimeState_section state).bind fun _ => trivial
  | onTunRouting signal =>
    refine .bind (.bind read_sections fun w => ?_) fun _ => trivial
    split
    · exact modify_sections fun w => w.onTunRouting_section signal
    · trivial
  | onRuleSet snapshot copy =>
    refine .bind (modify_sections fun w => ?_) fun _ =>
      (onRuleSet_sections copy).bind fun _ => trivial
    split
    · exact .frame _ rfl rfl (fun _ => rfl) (by simp)
    · exact .refl _ _
  | fatalCleanup =>
    refine .bind read_sections fun w => ?_
    dsimp only
    split
    · exact fatalCleanup_sections.bind fun _ => trivial
    · trivial
  | shutdown => exact shutdown_sections.bind fun _ => trivial

/-! ## Every run -/

theorem World.new_settled (config : EngineConfig) (state : LocalProxyState) :
    (World.new config state).Settled :=
  ⟨rfl, rfl⟩

theorem World.perform_settled (c : Call) (a : Answer c) {w : World} (settled : w.Settled) :
    (w.perform c a).Settled :=
  ⟨settled.state, settled.reported⟩

theorem serve_sections [Crates] {config : EngineConfig} {state : LocalProxyState} {ops : List Op}
    (i : Nat) (prog : Task Bool) (here : (serve config state ops).task i = some prog) :
    Within Section prog := by
  obtain ⟨running, found, rfl⟩ := Option.map_eq_some_iff.mp here
  obtain ⟨op, -, rfl⟩ := List.mem_map.mp (List.mem_of_getElem? found)
  exact op.task_sections config

/-- Whatever an instance is asked and told, in whatever order its sections run:
whenever no section is under way the state on record is the one the facts make,
and the transitions sent are a chain from `stopped` to it. -/
theorem serve_settled [Crates] {config : EngineConfig} {state : LocalProxyState} {ops : List Op}
    {ok : Pool World Place Answer Bool → Move Answer → Prop} {q : Pool World Place Answer Bool}
    (reached : Reaches World.perform ok (serve config state ops) q) : q.state.Settled :=
  (reached.within serve_sections (World.new_settled config state)
    (fun _ _ _ section_ => section_.settled) World.perform_settled).1

/-- An apply and a start on the small instance, then offline. -/
theorem serve_settled_sample :
    let q := (@serve sampleCrates sampleConfig sampleState
      [.apply sampleRequest, .start, .onNetworkChange
        ⟨1, .offline, ⟨some "eth0", some 2, false⟩, ⟨none, none, true⟩⟩ true]).play
      World.perform (fun _ _ => True) (stepsOf 0 40 calm ++ stepsOf 1 40 calm ++ stepsOf 2 5 calm)
    q.state.live.state = .degraded [.noDefaultInterface] ∧ q.state.Settled := by
  refine ⟨by decide +kernel, @serve_settled sampleCrates _ _ _ _ _ (.of_play _ _)⟩

end PpvpnCore
