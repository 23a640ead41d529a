import PpvpnCore.Engine.Alone

/-!
# What a completed call has done

`Effect` lists what became of the profile, of whether the instance runs, of
what sail runs and of its selectors, call by call; `Op.task_effect` proves the
list complete for calls one after another. `apply_alone` says more of an apply
that failed.
-/

namespace PpvpnCore

open Lib

section

variable [Crates]

/-- `a.translation` was made for what `a` says, from the inputs at `v`. -/
def Built (config : EngineConfig) (a : Applied) (v : World) : Prop :=
  ∃ files, translate a.profile { v.options config a.mode a.selected a.pins with ruleSets := files } =
    .ok a.translation

/-- What a request asked for, its selection and pins resolved. -/
def Requested (op : Op) (a : Applied) : Prop :=
  ∃ request now, op = .apply request ∧ validateRequest request now = .ok a.profile ∧
    a.selected = (resolveSelection request a.profile).1 ∧
    a.pins = (resolvePins a.profile request.pins).1

omit [Crates] in
/-- What was applied before, in another translation. -/
def Retranslated (w : World) (a : Applied) : Prop :=
  ∃ before, w.live.applied = some before ∧ a = { before with translation := a.translation }

end

/-- The selectors once the selection and the pins were set again. -/
def Translation.reasserted (t : Translation) (selected : String) (pins : BTreeMap String String)
    (before : BTreeMap String String) : BTreeMap String String :=
  t.tags.groups.toList.foldl
    (fun s group => s.insert group.1 (reassertMember t pins group.1 group.2))
    (match t.tags.nodeTags[selected]? with
      | some tag => before.insert selectedTag tag
      | none => before)

/-- Where the selectors of a configuration taken for `a` are. -/
inductive Choice (w : World) (a : Applied) (selected : BTreeMap String String) : Prop
  | defaults (eq : selected = a.translation.json.defaults)
  | kept (running : w.live.running = true) (same : Retranslated w a)
      (eq : selected = a.translation.json.kept w.runtime.selected)
  | reasserted (before : BTreeMap String String)
      (eq : selected = a.translation.reasserted a.selected a.pins before)

/-- `select` does not fail. -/
def SelectsOk (answers : Answers) : Prop :=
  ∀ group member r w, answers (.select group member) r w → r = .ok ()

/-- What is applied says another selection or pin, and sail follows. -/
inductive Picked (w w' : World) (a a' : Applied) : Prop
  | selected (id : String) (known : (a.node id).isSome = true) (eq : a' = { a with selected := id })
      (chosen : w.live.running = true → w'.runtime.selected =
        match a.translation.tags.nodeTags[id]? with
          | some tag => w.runtime.selected.insert selectedTag tag
          | none => w.runtime.selected)
  | pinned (id : String) (key : Option String) (node : Node) (known : a.node id = some node)
      (ingress : ∀ k ∈ key, ∃ i ∈ node.ingresses, i.endpointKey = k)
      (eq : a' = { a with pins := setPin a.pins id key })
      (chosen : w.live.running = true → w'.runtime.selected =
        match groupMember a id key with
          | some (selector, member) => w.runtime.selected.insert selector member
          | none => w.runtime.selected)

/-- What is applied, whether it runs and what, are as they were. -/
structure World.Unmoved (config : EngineConfig) (w w' : World) : Prop where
  applied : w'.live.applied = w.live.applied
  running : w'.live.running = w.live.running
  shutDown : w'.live.shutDown = w.live.shutDown
  runs : w'.runtime.config = w.runtime.config
  selected : w'.runtime.selected = w.runtime.selected
  listening : ∀ json, OnRecord config json w → OnRecord config json w'

/-- What a completed call has done. -/
inductive Effect [Crates] (config : EngineConfig) (answers : Answers) (op : Op)
    (w w' : World) : Prop
  | unmoved (same : w.Unmoved config w')
  | off (applied : w'.live.applied = w.live.applied) (off : w'.live.running = false)
  | stored (a : Applied) (origin : Requested op a ∨ Retranslated w a)
      (built : ∃ v, Built config a v) (applied : w'.live.applied = some a)
      (off : w'.live.running = false)
  | took (a : Applied) (origin : Requested op a ∨ Retranslated w a)
      (built : ∃ v, Built config a v ∧ v.proxies.isSome = w.proxies.isSome ∧
        ∀ json, OnRecord config json v → OnRecord config json w')
      (applied : w'.live.applied = some a) (on : w'.live.running = true)
      (alive : w'.live.shutDown = false) (runs : w'.runtime.config = some a.translation.json)
      (choice : SelectsOk answers → Choice w a w'.runtime.selected)
  | picked (a a' : Applied) (picked : Picked w w' a a') (applied : w.live.applied = some a)
      (applied' : w'.live.applied = some a') (translation : a'.translation = a.translation)
      (running : w'.live.running = w.live.running)
      (shutDown : w'.live.shutDown = w.live.shutDown)
      (runs : w'.runtime.config = w.runtime.config)
      (listening : ∀ json, OnRecord config json w → OnRecord config json w')
  | putBack (a : Applied) (applied : w.live.applied = some a) (on : w.live.running = true)
      (back : PutBack config answers a.translation w w')

/-- Between calls: only an applied profile runs, and not once shut down. -/
structure World.Fit (w : World) : Prop where
  applied : w.live.running = true → w.live.applied.isSome = true
  alive : w.live.shutDown = true → w.live.running = false

/-- What an apply that failed leaves. -/
inductive ApplyFailed (config : EngineConfig) (answers : Answers) (w w' : World) : Prop
  | quiet (same : w.Same config w')
  | switch (a : Applied) (applied : w.live.applied = some a) (on : w.live.running = true)
      (alive : w.live.shutDown = false) (well : w.live.fatal = none)
      (failed : Failed config answers a.translation w w')

variable {config : EngineConfig} {answers : Answers} {w w' w'' : World}

theorem ApplyFailed.of_same (same : w.Same config w') (failed : ApplyFailed config answers w' w'') :
    ApplyFailed config answers w w'' := by
  cases failed with
  | quiet later => exact .quiet (same.trans later)
  | switch a applied on alive well failed =>
    exact .switch a (same.applied ▸ applied) (same.running ▸ on) (same.shutDown ▸ alive)
      (same.fatal ▸ well) (.of_same same failed)

theorem World.Same.unmoved (same : w.Same config w') : w.Unmoved config w' :=
  { same with }

theorem World.Unmoved.trans (first : w.Unmoved config w') (second : w'.Unmoved config w'') :
    w.Unmoved config w'' where
  applied := second.applied.trans first.applied
  running := second.running.trans first.running
  shutDown := second.shutDown.trans first.shutDown
  runs := second.runs.trans first.runs
  selected := second.selected.trans first.selected
  listening json h := second.listening json (first.listening json h)

theorem Effect.of_failed [Crates] {op : Op} {a : Applied} (applied : w.live.applied = some a)
    (on : w.live.running = true) (failed : Failed config answers a.translation w w') :
    Effect config answers op w w' := by
  cases failed with
  | refused same => exact .unmoved same.unmoved
  | putBack back => exact .putBack a applied on back
  | fell fell => exact .off fell.applied fell.running
  | lost _ lost => exact .off lost.applied lost.running

theorem ApplyFailed.effect [Crates] {op : Op} (failed : ApplyFailed config answers w w') :
    Effect config answers op w w' := by
  cases failed with
  | quiet same => exact .unmoved same.unmoved
  | switch a applied on _ _ failed => exact .of_failed applied on failed

theorem Retranslated.of_same {a : Applied} (same : w.Same config w')
    (retranslated : Retranslated w' a) : Retranslated w a := by
  obtain ⟨before, applied, eq⟩ := retranslated
  exact ⟨before, same.applied ▸ applied, eq⟩

theorem Effect.of_same [Crates] {op : Op} (same : w.Same config w')
    (effect : Effect config answers op w' w'') : Effect config answers op w w'' := by
  cases effect with
  | unmoved later => exact .unmoved (same.unmoved.trans later)
  | off applied off => exact .off (applied.trans same.applied) off
  | stored a origin built applied off =>
    exact .stored a (origin.imp_right (.of_same same)) built applied off
  | took a origin built applied on alive runs choice =>
    obtain ⟨v, built, proxies, listening⟩ := built
    refine .took a (origin.imp_right (.of_same same)) ⟨v, built, proxies.trans same.proxies,
      listening⟩ applied on alive runs fun ok => ?_
    cases choice ok with
    | defaults eq => exact .defaults eq
    | kept running before eq =>
      exact .kept (same.running ▸ running) (.of_same same before) (same.selected ▸ eq)
    | reasserted before eq => exact .reasserted before eq
  | picked a a' picked applied applied' translation running shutDown runs listening =>
    refine .picked a a' ?_ (same.applied ▸ applied) applied' translation
      (running.trans same.running) (shutDown.trans same.shutDown) (runs.trans same.runs)
      fun json record => listening json (same.listening json record)
    cases picked with
    | selected id known eq chosen =>
      exact .selected id known eq fun on => same.selected ▸ chosen (same.running.trans on)
    | pinned id key node known ingress eq chosen =>
      exact .pinned id key node known ingress eq fun on =>
        same.selected ▸ chosen (same.running.trans on)
  | putBack a applied on back =>
    exact .putBack a (same.applied ▸ applied) (same.running ▸ on) (.of_up same.toUp back)

/-! ## apply -/

theorem World.settleRuleSets_same (w : World) : w.Same config w.settleRuleSets := by
  unfold World.settleRuleSets
  dsimp only
  split
  · exact .settleLive rfl rfl rfl rfl
  · exact .refl w

theorem onRuleSet_quiet (config : EngineConfig) (copy : SetCopy) :
    Quiet config answers (onRuleSet copy) :=
  .bind (.publish _) fun _ => .modify World.settleRuleSets_same

theorem prepareRuleSets_quiet (config : EngineConfig) (profile : Profile) (mode : RoutingMode)
    (allowedHosts : List String) :
    Quiet config answers (prepareRuleSets profile mode allowedHosts) := by
  refine .bind .read fun w => ?_
  split
  · exact .ret _
  · refine .bind (.ask fun _ _ => .perform rfl rfl) fun snapshot => .bind .read fun w => ?_
    split
    · exact .ret _
    · refine .bind (.ask fun _ _ => .perform rfl rfl) fun taken => ?_
      split <;> exact .ret _

/-- `a` is what is applied now; what runs is as it was. -/
structure Taken (config : EngineConfig) (a : Applied) (w w' : World) : Prop where
  applied : w'.live.applied = some a
  running : w'.live.running = w.live.running
  shutDown : w'.live.shutDown = w.live.shutDown
  runs : w'.runtime.config = w.runtime.config
  selected : w'.runtime.selected = w.runtime.selected
  listening : ∀ json, OnRecord config json w → OnRecord config json w'

theorem Taken.same {a : Applied} (taken : Taken config a w w') (same : w'.Same config w'') :
    Taken config a w w'' where
  applied := same.applied.trans taken.applied
  running := same.running.trans taken.running
  shutDown := same.shutDown.trans taken.shutDown
  runs := same.runs.trans taken.runs
  selected := same.selected.trans taken.selected
  listening json record := same.listening json (taken.listening json record)

theorem activateRuleSets_alone {snapshot : List SetCopy} {allowedHosts : List String} {a : Applied}
    {v : World} (taken : Taken config a v w) :
    wp (alone answers) (activateRuleSets snapshot allowedHosts) (fun _ => Taken config a v) w := by
  refine wp_bind (modify_alone (wp_bind (inSection_alone ?_)))
  have taken : Taken config a v { w with
      inputs := { files := filesOf snapshot, allowedHosts }, snapshot := some snapshot } :=
    { taken with listening := fun json record => (taken.listening json record).of_proxies rfl }
  have rest : Quiet config answers (do
      Prog.forEach (changedSets (w.snapshot.getD []) snapshot) onRuleSet
      modify World.settleRuleSets) :=
    .bind (.forEach (onRuleSet_quiet config)) fun _ => .modify World.settleRuleSets_same
  exact rest.run fun _ _ same => taken.same same

theorem World.applied_taken (w : World) (config : EngineConfig) (a : Applied)
    (cleared : List ClearedPin) : Taken config a w (w.applied a cleared) := by
  have pins (w : World) : w.Same config (cleared.foldl (fun w pin => w.publish
      (.nodeIngressPinCleared a.profile.revision pin.nodeId pin.endpointKey pin.reason)) w) := by
    induction cleared generalizing w with
    | nil => exact .refl w
    | cons pin rest ih => exact (World.Same.publish _ _).trans (ih _)
  have first : Taken config a w ((w.settleLive ({ · with applied := some a })).publish
      (.profileApplied a.profile.revision)) := by
    refine ⟨?_, ?_, ?_, ?_, ?_, fun json record => record.of_proxies ?_⟩
    · exact congrArg Live.applied (World.settle_live _)
    · exact (congrArg Live.running (World.settle_live _)).trans rfl
    · exact (congrArg Live.shutDown (World.settle_live _)).trans rfl
    · exact congrArg Runtime.config (World.settle_runtime _)
    · exact congrArg Runtime.selected (World.settle_runtime _)
    · exact World.settle_proxies _
  exact first.same (pins _)

theorem applyTaken_alone (config : EngineConfig) {request : ApplyRequest} {profile : Profile} {snapshot : List SetCopy}
    {running : Bool} {t : Translation} :
    wp (alone answers) (applyTaken request profile snapshot running t)
      (fun _ => Taken config (candidate request profile t) w) w := by
  refine wp_bind (modify_alone (wp_bind (wp_mono (activateRuleSets_alone
    (w.applied_taken config _ _)) fun _ v taken => ?_)))
  split
  · exact (refresh_quiet config).run fun _ _ same => taken.same same
  · exact wp_still_ret taken

/-- Only the selectors moved, to where they were asked if `select` does not
fail. -/
structure Selecting (config : EngineConfig) (answers : Answers)
    (f : BTreeMap String String → BTreeMap String String) (w w' : World) : Prop
    extends World.Still config w w' where
  selected : SelectsOk answers → w'.runtime.selected = f w.runtime.selected

theorem select_alone (config : EngineConfig) {group member : String} :
    wp (alone answers) (Runtime.select group member)
      (fun _ => Selecting config answers (·.insert group member) w) w := by
  refine ask_alone fun r answer => ⟨⟨.perform, ?_, fun _ record => record.of_proxies rfl⟩, ?_⟩
  · cases r <;> rfl
  · intro ok
    cases ok group member r w answer
    rfl

theorem selects_alone (config : EngineConfig) {t : Translation} {pins : BTreeMap String String}
    (groups : List (String × String)) :
    wp (alone answers) (Prog.forEach groups fun group => do
        let _ ← Runtime.select group.1 (reassertMember t pins group.1 group.2)
        pure ())
      (fun _ => Selecting config answers (fun before => groups.foldl
        (fun s group => s.insert group.1 (reassertMember t pins group.1 group.2)) before) w) w := by
  induction groups generalizing w with
  | nil => exact wp_still_ret ⟨(World.Same.refl w).toStill, fun _ => rfl⟩
  | cons group rest ih =>
    refine wp_bind (wp_bind (wp_mono (select_alone config) fun _ v first => wp_still_ret ?_))
    refine wp_mono ih fun _ w' later => ⟨first.toStill.trans later.toStill, fun ok => ?_⟩
    rw [later.selected ok, first.selected ok, List.foldl_cons]

theorem reassert_alone (config : EngineConfig) {t : Translation} {selected : String}
    {pins : BTreeMap String String} :
    wp (alone answers) (reassert t selected pins)
      (fun _ => Selecting config answers (t.reasserted selected pins) w) w := by
  unfold reassert Translation.reasserted
  cases t.tags.nodeTags[selected]? with
  | none => exact selects_alone config _
  | some tag =>
    refine wp_bind (wp_mono (select_alone config) fun _ v first => ?_)
    refine wp_mono (selects_alone config _) fun _ w' later =>
      ⟨first.toStill.trans later.toStill, fun ok => ?_⟩
    rw [later.selected ok, first.selected ok]

/-- How a running instance took a translation. -/
inductive Took (config : EngineConfig) (answers : Answers) (build : Build) (selected : String)
    (pins : BTreeMap String String) (next t : Translation) (w w' : World) : Prop
  | reloaded (eq : t = next) (up : w.Up w')
      (listening : ∀ json, OnRecord config json w → OnRecord config json w')
      (runs : w'.runtime.config = some t.json)
      (selected : SelectsOk answers → ∃ before, w'.runtime.selected = t.reasserted selected pins before)
  | started (started : Started config build t w w')

theorem applyRunning_alone {running next : Translation} {build : Build}
    {revision selected : String} {pins : BTreeMap String String} (on : w.live.running = true) :
    wp (alone answers) (applyRunning config running next build revision selected pins).run
      (fun r w' => match r with
        | .ok s => Took config answers build selected pins next s.translation w w'
        | .error _ => Failed config answers running w w') w := by
  refine bindExcept_alone (orReloadFailed_alone (wp_mono (switchTo_alone on) fun r v post => ?_))
  cases r with
  | error e => exact Failed.same post (.publish _ _)
  | ok s =>
    rcases post with ⟨kind, took, reloaded⟩ | ⟨kind, started⟩
    · dsimp only
      rw [if_pos kind]
      have told (event : Event) : Reloaded config next w (v.publish event) :=
        reloaded.same (.publish _ _)
      refine wp_bindLift (modify_alone (wp_bindLift (wp_mono (reassert_alone config)
        fun _ w' later => wp_still_ret ?_)))
      refine .reloaded took ((told _).toUp.trans later.toUp)
        (fun json record => later.listening json ((told _).listening json record)) ?_
        fun ok => ⟨_, later.selected ok⟩
      rw [took]
      exact later.runs.trans (told _).runs
    · dsimp only
      rw [if_neg kind]
      exact wp_still_ret (.started started)

theorem applyStopped_alone (config : EngineConfig) {t : Translation} :
    wp (alone answers) (applyStopped t).run (fun _ => w.Same config) w := by
  refine wp_bindLift (probe_alone (fun _ => rfl) fun checked => ?_)
  cases checked with
  | error e => exact wp_still_ret (.refl w)
  | ok checked =>
    refine orReloadFailed_alone (liftExcept_alone ?_)
    cases checked with
    | ok _ => exact .refl w
    | error e => exact .publish _ _

theorem World.runningTranslation_some {t : Translation} (running : w.runningTranslation = some t) :
    w.live.running = true ∧ ∃ a, w.live.applied = some a ∧ a.translation = t := by
  unfold World.runningTranslation at running
  split at running
  next on =>
    obtain ⟨a, applied, eq⟩ := Option.map_eq_some_iff.mp running
    exact ⟨on, a, applied, eq⟩
  next => cases running

theorem World.runningTranslation_none (fit : w.live.running = true → w.live.applied.isSome = true)
    (stopped : w.runningTranslation = none) : w.live.running = false := by
  unfold World.runningTranslation at stopped
  split at stopped
  next on =>
    rw [Option.map_eq_none_iff] at stopped
    have some_ := fit on
    simp [stopped] at some_
  next off => simpa using off

section

variable [Crates]

/-- The outcomes of an apply. -/
def ApplyPost (config : EngineConfig) (answers : Answers) (request : ApplyRequest) (w : World) :
    Except Error ApplyResult → World → Prop
  | .ok _, w' => Effect config answers (.apply request) w w'
  | .error _, w' => ApplyFailed config answers w w'

theorem applyLocked_alone {request : ApplyRequest} {profile : Profile} {snapshot : List SetCopy}
    {now : Int} (valid : validateRequest request now = .ok profile)
    (fit : w.live.running = true → w.live.applied.isSome = true) :
    wp (alone answers) (applyLocked config request profile snapshot).run
      (ApplyPost config answers request w) w := by
  refine bindExcept_alone (admitCall_alone (fun _ => .quiet (.refl w)) fun alive well => ?_)
  refine wp_bindLift (read_alone (wp_bindLift (probeHostIpv6_quiet.run fun _ v probed => ?_)))
  refine wp_bindLift (read_alone (bindExcept_alone (orReloadFailed_alone (liftExcept_alone ?_))))
  have built (u : World) (t : Translation)
      (ok : buildCandidate config request profile snapshot u = .ok t) :
      Built config (candidate request profile t) u := ⟨_, ok⟩
  have requested (t : Translation) : Requested (.apply request) (candidate request profile t) :=
    ⟨request, now, rfl, valid, rfl, rfl⟩
  cases made : buildCandidate config request profile snapshot v with
  | error e => exact .quiet (probed.trans (.publish _ _))
  | ok next =>
    refine bindExcept_alone ?_
    cases running : w.runningTranslation with
    | none =>
      have off := World.runningTranslation_none fit running
      refine bindExcept_alone (wp_mono (applyStopped_alone config) fun r u same => ?_)
      cases r with
      | error e => exact .quiet (probed.trans same)
      | ok _ =>
        refine wp_still_ret (wp_bindLift (wp_mono (applyTaken_alone config)
          fun _ w' taken => wp_still_ret ?_))
        refine .stored _ (.inl (requested next)) ⟨v, built v next made⟩ taken.applied ?_
        rw [taken.running, same.running, probed.running, off]
    | some t =>
      obtain ⟨on, a, applied, rfl⟩ := World.runningTranslation_some running
      refine bindExcept_alone (wp_mono (applyRunning_alone (probed.running.trans on))
        fun r u post => ?_)
      cases r with
      | error e => exact .switch a applied on alive well (.of_same probed post)
      | ok s =>
        refine wp_still_ret (wp_bindLift (wp_mono (applyTaken_alone config)
          fun _ w' taken => wp_still_ret ?_))
        cases post with
        | reloaded eq up listening runs selected =>
          refine .took _ (.inl (requested s.translation)) ⟨v, ?_, probed.proxies,
            fun json record => taken.listening json (listening json record)⟩ taken.applied ?_ ?_
            (taken.runs.trans runs) fun ok => ?_
          · rw [eq]
            exact built v next made
          · rw [taken.running, up.running, probed.running, on]
          · rw [taken.shutDown, up.shutDown, probed.shutDown, alive]
          · obtain ⟨before, chosen⟩ := selected ok
            exact .reasserted before (taken.selected.trans chosen)
        | started started =>
          obtain ⟨x, ok, up, listening⟩ := started.built
          refine .took _ (.inl (requested s.translation)) ⟨x, built x _ ok,
            up.proxies.trans probed.proxies,
            fun json record => taken.listening json (listening json record)⟩ taken.applied ?_ ?_
            (taken.runs.trans started.runs) fun _ => .defaults (taken.selected.trans started.selected)
          · rw [taken.running, started.running, probed.running, on]
          · rw [taken.shutDown, started.shutDown, probed.shutDown, alive]

theorem apply_alone {request : ApplyRequest}
    (fit : w.live.running = true → w.live.applied.isSome = true) :
    wp (alone answers) (PpvpnCore.apply config request).run (ApplyPost config answers request w) w := by
  refine bindExcept_alone (admitCall_alone (fun _ => .quiet (.refl w)) fun _ _ => ?_)
  refine wp_bindLift (probe_alone (fun _ => rfl) fun now => ?_)
  refine bindExcept_alone (orReloadFailed_alone (liftExcept_alone ?_))
  cases valid : validateRequest request now with
  | error e => exact .quiet (.publish _ _)
  | ok profile =>
    refine wp_bindLift (read_alone (wp_bindLift (read_alone ?_)))
    split
    · exact wp_still_ret (.unmoved (World.Same.refl w).unmoved)
    · refine wp_bindLift ((prepareRuleSets_quiet config _ _ _).run fun snapshot v prepared => ?_)
      cases snapshot with
      | none => exact wp_still_ret (.quiet prepared)
      | some snapshot =>
        have fit : v.live.running = true → v.live.applied.isSome = true := by
          rw [prepared.running, prepared.applied]
          exact fit
        refine wp_still_withLock (wp_mono (applyLocked_alone valid fit) fun r w' post => ?_)
        cases r with
        | error e => exact ApplyFailed.of_same prepared post
        | ok r => exact Effect.of_same prepared post

/-! ## start and stop -/

/-- What a start of a stopped instance came to. -/
theorem startPhases_alone (off : w.live.running = false) (alive : w.live.shutDown = false) :
    wp (alone answers) (startPhases config).run
      (fun _ => Effect config answers .start w) w := by
  have stopped {v : World} (up : w.Up v) : Effect config answers .start w v :=
    .off up.applied (up.running.trans off)
  refine wp_bindLift (read_alone ?_)
  cases applied : w.live.applied with
  | none => exact wp_still_ret (stopped (.refl w))
  | some a =>
    refine bindExcept_alone (prepareListeners_alone fun r v up => ?_)
    cases r with
    | error e => exact stopped up
    | ok _ =>
      refine wp_bindLift (probeHostIpv6_quiet.run fun _ v' probed => ?_)
      have up : w.Up v' := up.trans probed.toUp
      refine wp_bindLift (read_alone (bindExcept_alone (liftExcept_alone ?_)))
      cases made : buildApplied config a v' with
      | error e => exact stopped up
      | ok first =>
        refine wp_bindLift (modify_alone ?_)
        have needed : v'.Same config (v'.setLive ({ · with needsStop := true })) :=
          .setLive rfl rfl rfl rfl
        have up := up.trans needed.toUp
        refine bindExcept_alone (wp_mono (startOrLeaveOut_alone made) fun r u post => ?_)
        match r, post with
        | .error e, post => exact stopped (up.trans post)
        | .ok (t, .error e), post =>
          have up : w.Up u := up.trans post
          exact throwRuntime_alone (fun _ _ => stopped up)
            fun _ _ _ fell => .off (World.Fell.of_up up fell).applied fell.running
        | .ok (t, .ok _), started =>
          have started : Started config (buildApplied config a) t w u := .of_up up started
          refine wp_bindLift (probe_alone (fun _ => rfl) fun routes => wp_bindLift (modify_alone ?_))
          refine wp_bindLift ((networkStarted_quiet config).run fun _ x same => ?_)
          refine lift_alone ((refresh_quiet config).run fun _ w' later => ?_)
          have same := same.trans later
          have now : u.live.applied = some a := started.applied.trans applied
          obtain ⟨y, built, upTo, listening⟩ := started.built
          refine .took { a with translation := t } (.inr ⟨a, applied, rfl⟩)
            ⟨y, ⟨_, built⟩, upTo.proxies, fun json record => same.listening json
              ((listening json record).of_proxies (World.settle_proxies _))⟩ ?_ ?_ ?_ ?_ fun _ => ?_
          · rw [same.applied]
            refine (congrArg Live.applied (World.settle_live _)).trans ?_
            simp [World.setLive, now]
          · rw [same.running]
            exact congrArg Live.running (World.settle_live _)
          · rw [same.shutDown]
            exact (congrArg Live.shutDown (World.settle_live _)).trans
              (started.shutDown.trans alive)
          · rw [same.runs]
            exact (congrArg Runtime.config (World.settle_runtime _)).trans started.runs
          · refine .defaults ?_
            rw [same.selected]
            exact (congrArg Runtime.selected (World.settle_runtime _)).trans started.selected

theorem start_alone :
    wp (alone answers) (start config).run (fun _ => Effect config answers .start w) w := by
  have refused : Effect config answers .start w w := .unmoved (World.Same.refl w).unmoved
  refine bindExcept_alone (admitCall_alone (fun _ => refused) fun _ _ => ?_)
  refine wp_still_withLock (bindExcept_alone (admitCall_alone (fun _ => refused) fun alive _ => ?_))
  refine wp_bindLift (read_alone ?_)
  split
  · exact wp_still_ret refused
  next off => exact startPhases_alone (by simpa using off) alive

theorem stop_alone {op : Op} :
    wp (alone answers) (stop config).run (fun _ => Effect config answers op w) w := by
  have refused : Effect config answers op w w := .unmoved (World.Same.refl w).unmoved
  refine bindExcept_alone (admitCall_alone (fun _ => refused) fun _ _ => ?_)
  refine wp_still_withLock (bindExcept_alone (admitCall_alone (fun _ => refused) fun alive _ => ?_))
  refine wp_bindLift (read_alone ?_)
  split
  · exact wp_still_ret refused
  · refine wp_bindLift (ask_alone fun answer _ => ?_)
    cases answer with
    | error e =>
      have same : w.Same config (w.perform .stop (.error e)) := .perform rfl rfl
      exact throwRuntime_alone (fun _ _ => .unmoved same.unmoved)
        fun _ _ _ fell => .off (World.Fell.of_up same.toUp fell).applied fell.running
    | ok _ =>
      refine wp_bindLift ((networkStopped_quiet config).run fun _ v same => ?_)
      have up : w.Up v := World.Up.perform.trans same.toUp
      refine wp_bindLift (localProxyStopped_alone fun v' later => lift_alone (modify_alone ?_))
      refine .off ?_ ?_
      · exact (congrArg Live.applied (World.settle_live _)).trans (up.trans later).applied
      · exact congrArg Live.running (World.settle_live _)

/-! ## Selection and pins -/

/-- A section that writes what is applied, then a read of the runtime. -/
theorem updateApplied_alone {op : Op} {f : Applied → Applied × Event} {a : Applied} {v : World}
    (applied : v.live.applied = some a)
    (effect : ∀ w', w'.live.applied = some (f a).1 → w'.live.running = v.live.running →
      w'.live.shutDown = v.live.shutDown → w'.runtime.config = v.runtime.config →
      w'.runtime.selected = v.runtime.selected →
      (∀ json, OnRecord config json v → OnRecord config json w') →
      Effect config answers op w w') :
    wp (alone answers) (do
        ExceptT.mk <| inSection fun w => w.updateApplied f
        refresh : Try Unit).run (fun _ => Effect config answers op w) v := by
  have updated : v.updateApplied f =
      (.ok (), (v.setLive ({ · with applied := some (f a).1 })).publish (f a).2) := by
    rw [World.updateApplied, applied]
  refine bindExcept_alone (inSection_alone ?_)
  rw [updated]
  refine lift_alone ((refresh_quiet config).run fun _ w' same => ?_)
  exact effect w' same.applied same.running same.shutDown same.runs same.selected
    fun json record => same.listening json (record.of_proxies rfl)

theorem selectNode_alone {nodeId : String} :
    wp (alone answers) (selectNode config nodeId).run
      (fun _ => Effect config answers (.selectNode nodeId) w) w := by
  have refused : Effect config answers (.selectNode nodeId) w w :=
    .unmoved (World.Same.refl w).unmoved
  refine bindExcept_alone (admitCall_alone (fun _ => refused) fun _ _ => ?_)
  refine wp_still_withLock (bindExcept_alone (admitCall_alone (fun _ => refused) fun _ _ => ?_))
  refine wp_bindLift (read_alone (bindExcept_alone (liftExcept_alone ?_)))
  cases applied : w.live.applied with
  | none => exact refused
  | some a =>
    dsimp only [Option.elim]
    split
    next => exact wp_still_ret refused
    next known =>
      have known : (a.node nodeId).isSome = true :=
        Option.isSome_iff_ne_none.mpr (by simpa using known)
      -- The section that writes the selection, sail's selector moved before it.
      have last (v : World) (still : w.Still config v)
          (chosen : w.live.running = true → v.runtime.selected =
            match a.translation.tags.nodeTags[nodeId]? with
              | some tag => w.runtime.selected.insert selectedTag tag
              | none => w.runtime.selected) :
          wp (alone answers) (do
            ExceptT.mk <| inSection fun w => w.updateApplied fun a =>
              ({ a with selected := nodeId }, .nodeSelected a.profile.revision nodeId)
            refresh : Try Unit).run (fun _ => Effect config answers (.selectNode nodeId) w) v := by
        refine updateApplied_alone (still.applied.trans applied)
          fun w' applied' running shutDown runs selected listening => ?_
        refine .picked a { a with selected := nodeId }
          (.selected nodeId known rfl fun on => selected.trans (chosen on)) applied applied' rfl
          (running.trans still.running) (shutDown.trans still.shutDown) (runs.trans still.runs)
          fun json record => listening json (still.listening json record)
      have still : w.Still config w := (World.Same.refl w).toStill
      split
      next on =>
        cases tag : a.translation.tags.nodeTags[nodeId]? with
        | none => exact last w still fun _ => by rw [tag]
        | some tag' =>
          refine wp_bindLift (ask_alone fun answer _ => ?_)
          cases answer with
          | ok _ =>
            refine last _ ⟨.perform, rfl, fun _ record => record.of_proxies rfl⟩ fun _ => ?_
            rw [tag]
            rfl
          | error e =>
            have same : w.Same config (w.perform (.select selectedTag tag') (.error e)) :=
              .perform rfl rfl
            exact wp_bindLift (runtimeError_alone
              (fun _ _ => wp_still_ret (.unmoved same.unmoved))
              fun _ _ _ fell => wp_still_ret
                (.off (World.Fell.of_up same.toUp fell).applied fell.running))
      next off => exact last w still fun on => absurd on off

theorem pinIngress_alone {nodeId : String} {key : Option String} :
    wp (alone answers) (pinIngress config nodeId key).run
      (fun _ => Effect config answers (.pinIngress nodeId key) w) w := by
  have refused : Effect config answers (.pinIngress nodeId key) w w :=
    .unmoved (World.Same.refl w).unmoved
  refine bindExcept_alone (admitCall_alone (fun _ => refused) fun _ _ => ?_)
  refine wp_still_withLock (bindExcept_alone (admitCall_alone (fun _ => refused) fun _ _ => ?_))
  refine wp_bindLift (read_alone (bindExcept_alone (liftExcept_alone ?_)))
  cases applied : w.live.applied with
  | none => exact refused
  | some a =>
    refine bindExcept_alone (liftExcept_alone ?_)
    cases known : a.node nodeId with
    | none => exact refused
    | some node =>
      dsimp only [Option.elim]
      split
      next => exact wp_still_ret refused
      next found =>
        have ingress : ∀ k ∈ key, ∃ i ∈ node.ingresses, i.endpointKey = k := by
          rintro k rfl
          simpa using found
        have last (v : World) (still : w.Still config v)
            (chosen : w.live.running = true → v.runtime.selected =
              match groupMember a nodeId key with
                | some (selector, member) => w.runtime.selected.insert selector member
                | none => w.runtime.selected) :
            wp (alone answers) (do
              ExceptT.mk <| inSection fun w => w.updateApplied fun a =>
                ({ a with pins := setPin a.pins nodeId key },
                  .nodeIngressPinned nodeId (key.getD ""))
              refresh : Try Unit).run
              (fun _ => Effect config answers (.pinIngress nodeId key) w) v := by
          refine updateApplied_alone (still.applied.trans applied)
            fun w' applied' running shutDown runs selected listening => ?_
          refine .picked a { a with pins := setPin a.pins nodeId key }
            (.pinned nodeId key node known ingress rfl fun on => selected.trans (chosen on)) applied
            applied' rfl (running.trans still.running) (shutDown.trans still.shutDown)
            (runs.trans still.runs) fun json record => listening json (still.listening json record)
        have still : w.Still config w := (World.Same.refl w).toStill
        split
        next on =>
          cases member : groupMember a nodeId key with
          | none => exact last w still fun _ => by rw [member]
          | some pair =>
            refine wp_bindLift (ask_alone fun answer _ => ?_)
            cases answer with
            | ok _ =>
              refine last _ ⟨.perform, rfl, fun _ record => record.of_proxies rfl⟩ fun _ => ?_
              rw [member]
              rfl
            | error e =>
              have same : w.Same config (w.perform (.select pair.1 pair.2) (.error e)) :=
                .perform rfl rfl
              exact wp_bindLift (runtimeError_alone
                (fun _ _ => wp_still_ret (.unmoved same.unmoved))
                fun _ _ _ fell => wp_still_ret
                  (.off (World.Fell.of_up same.toUp fell).applied fell.running))
        next off => exact last w still fun on => absurd on off

/-! ## Listeners -/

omit [Crates] in
/-- A record of the listeners outlives a change that keeps the ports of those
that are open. -/
theorem OnRecord.change {json : Config} {p p' : Proxies} (record : OnRecord config json w)
    (here : w.proxies = some p) (there : w'.proxies = some p')
    (shared : p.unavailable = false →
      p'.unavailable = false ∧ p'.state.state.port = p.state.state.port)
    (system : p.systemProxy = true → p'.systemProxy = true ∧ p'.systemPort = p.systemPort) :
    OnRecord config json w' := by
  refine ⟨fun i mem tag => ?_, fun i mem tag => ?_⟩
  · obtain ⟨leftOut, port⟩ := record.shared i mem tag
    simp only [World.localProxyLeftOut, World.localProxyPort, World.localProxy, here, there] at *
    split at leftOut
    next has =>
      obtain ⟨off, same⟩ := shared leftOut
      simp only [has, if_true, Option.any_some, Option.map_some] at *
      exact ⟨off, by rw [same]; exact port⟩
    next has =>
      simp only [has] at *
      exact ⟨rfl, port⟩
  · obtain ⟨on, port⟩ := record.system i mem tag
    rw [here, Option.any_some] at on
    obtain ⟨on', same⟩ := system on
    refine ⟨by rw [there, Option.any_some, on'], ?_⟩
    rw [port]
    simp only [World.systemProxyStatus, here, there, on, on', same]
    split <;> rfl

/-- The applied profile's configuration as the listeners are now, taken by a
reload: sail keeps its selectors. -/
theorem Effect.reloaded {op : Op} {a : Applied} {t : Translation} {v : World}
    (applied : w.live.applied = some a) (on : w.live.running = true)
    (alive : w.live.shutDown = false) (built : Built config { a with translation := t } v)
    (proxies : v.proxies.isSome = w.proxies.isSome)
    (applied' : w'.live.applied = some { a with translation := t })
    (running : w'.live.running = w.live.running) (shutDown : w'.live.shutDown = w.live.shutDown)
    (runs : w'.runtime.config = some t.json)
    (selected : w'.runtime.selected = t.json.kept w.runtime.selected)
    (listening : ∀ json, OnRecord config json v → OnRecord config json w') :
    Effect config answers op w w' :=
  .took { a with translation := t } (.inr ⟨a, applied, rfl⟩) ⟨v, built, proxies, listening⟩ applied'
    (running.trans on) (shutDown.trans alive) runs fun _ => .kept on ⟨a, applied, rfl⟩ selected

theorem Built.of_applied {a : Applied} {t : Translation} {v : World}
    (built : buildApplied config a v = .ok t) : Built config { a with translation := t } v :=
  ⟨v.inputs.files, built⟩

theorem Built.of_with {a : Applied} {t : Translation} {v : World}
    {files : BTreeMap String RuleSetFile}
    (built : buildWith config a.profile a.mode a.selected a.pins files v = .ok t) :
    Built config { a with translation := t } v :=
  ⟨files, built⟩

theorem toggleListener_alone {a : Applied} :
    wp (alone answers) (toggleListener config a).run
      (fun r w' => match r with
        | .ok () => ∃ t report, buildApplied config a w = .ok t ∧
            w' = (w.perform (.reload t.json) (.ok report)).translated t
        | .error _ => w' = w ∨ w.Fell w') w := by
  refine wp_bindLift (read_alone (bindExcept_alone (liftExcept_alone ?_)))
  cases made : buildApplied config a w with
  | error e => exact .inl rfl
  | ok t =>
    refine wp_bindLift (ask_alone fun answer _ => ?_)
    cases answer with
    | ok report => exact lift_alone (modify_alone ⟨t, report, rfl, rfl⟩)
    | error e =>
      have same : w.Same config (w.perform (.reload t.json) (.error e)) := .perform rfl rfl
      exact wp_bindLift (runtimeError_alone (fun _ _ => wp_still_ret (.inl rfl))
        fun _ _ _ fell => wp_still_ret (.inr (.of_up same.toUp fell)))

omit [Crates] in
/-- What a toggle leaves of the listeners besides the switch itself. -/
theorem Proxies.toggle_parts (p : Proxies) (enabled : Bool) (answers : PortAnswers) :
    (p.toggle enabled answers).2.unavailable = p.unavailable ∧
      (p.toggle enabled answers).2.state.state.port = p.state.state.port ∧
      (p.systemProxy = true → (p.toggle enabled answers).2.systemPort = p.systemPort) ∧
      (∀ e, (p.toggle enabled answers).1 = .error e →
        (p.toggle enabled answers).2.systemProxy = p.systemProxy) ∧
      ((p.toggle enabled answers).1 = .ok false → (p.toggle enabled answers).2 = p) ∧
      ((p.toggle enabled answers).1 = .ok true → p.systemProxy = !enabled) := by
  have port := p.state.systemProxyPort_port true answers
  unfold Proxies.toggle
  split
  next same => exact ⟨rfl, rfl, fun _ => rfl, fun _ _ => rfl, fun _ => rfl, by simp⟩
  next other =>
    have was : p.systemProxy = !enabled := by
      cases enabled <;> simpa using other
    split
    next on =>
      have off : p.systemProxy = false := by rw [was, on]; rfl
      cases chosen : p.state.systemProxyPort true answers with
      | mk result state =>
        rw [chosen] at port
        cases result with
        | ok n => exact ⟨rfl, port, by simp [off], by simp, by simp, fun _ => was⟩
        | error e => exact ⟨rfl, port, by simp [off], fun _ _ => rfl, by simp, by simp⟩
    next => exact ⟨rfl, rfl, fun _ => rfl, by simp, by simp, fun _ => was⟩

/-- The toggle under the operation lock. -/
theorem setSystemProxyListenerLocked_alone {op : Op} {enabled : Bool} (fit : w.Fit) :
    wp (alone answers) (setSystemProxyListenerLocked config enabled).run
      (fun _ => Effect config answers op w) w := by
  have refused : Effect config answers op w w := .unmoved (World.Same.refl w).unmoved
  refine bindExcept_alone (admitCall_alone (fun _ => refused) fun alive _ => ?_)
  refine wp_bindLift (read_alone (wp_bindLift (probe_alone (fun _ => rfl) fun ports => ?_)))
  refine bindExcept_alone (inSection_alone ?_)
  cases here : w.proxies with
  | none => exact refused
  | some p =>
    obtain ⟨unavailable, port, systemPort, kept, unchanged, was⟩ := p.toggle_parts enabled ports
    -- The listeners once the switch is as it was again.
    have back {v : World} {p' : Proxies} (there : v.proxies = some p')
        (unavailable' : p'.unavailable = (p.toggle enabled ports).2.unavailable)
        (port' : p'.state = (p.toggle enabled ports).2.state)
        (systemPort' : p'.systemPort = (p.toggle enabled ports).2.systemPort)
        (systemProxy' : p'.systemProxy = p.systemProxy) (json : Config)
        (record : OnRecord config json w) : OnRecord config json v := by
      refine record.change here there (fun off => ⟨?_, ?_⟩) fun on => ⟨systemProxy'.trans on, ?_⟩
      · rw [unavailable', unavailable, off]
      · rw [port', port]
      · rw [systemPort', systemPort on]
    dsimp only
    cases result : (p.toggle enabled ports).1 with
    | error e =>
      refine .unmoved ⟨rfl, rfl, rfl, rfl, rfl, back rfl rfl rfl rfl (kept e result)⟩
    | ok toggled =>
      cases toggled with
      | false =>
        refine wp_bindLift (read_alone (wp_still_ret (.unmoved ⟨rfl, rfl, rfl, rfl, rfl, ?_⟩)))
        exact back rfl rfl rfl rfl (by rw [unchanged result])
      | true =>
        have was := was result
        generalize toggledTo : ({ w with proxies := some (p.toggle enabled ports).2 } : World) = v
        have live : v.live = w.live := by rw [← toggledTo]
        have runtime : v.runtime = w.runtime := by rw [← toggledTo]
        have proxies : v.proxies = some (p.toggle enabled ports).2 := by rw [← toggledTo]
        have told (u : World) (effect : ∀ w', u.Same config w' → Effect config answers op w w') :
            wp (alone answers) (do
              publish (.systemProxyChanged (w.live.applied.elim "" (·.profile.revision))
                (if enabled then "enabled" else "disabled"))
              return (← read).systemProxyStatus config w.live.running :
              Try SystemProxyStatus).run (fun _ => Effect config answers op w) u :=
          wp_bindLift (modify_alone (wp_bindLift (read_alone (wp_still_ret
            (effect _ (.publish _ _))))))
        cases running : w.live.running with
        | false =>
          rw [running] at told
          refine told v fun w' same => .off ?_ ?_
          · rw [same.applied, live]
          · rw [same.running, live, running]
        | true =>
          obtain ⟨a, applied⟩ := Option.isSome_iff_exists.mp (fit.applied running)
          rw [running] at told
          rw [applied] at told ⊢
          refine wp_bindLift (wp_mono toggleListener_alone fun r u post => ?_)
          cases r with
          | ok _ =>
            obtain ⟨t, report, built, rfl⟩ := post
            refine told _ fun w' same => ?_
            refine .reloaded applied running alive (.of_applied built) (by rw [proxies, here]; rfl)
              ?_ ?_ ?_ same.runs ?_ fun json record => same.listening json (record.of_proxies rfl)
            · rw [same.applied]
              simp [World.translated, World.setLive, World.perform, live, applied]
            · rw [same.running, ← live]
              rfl
            · rw [same.shutDown, ← live]
              rfl
            · rw [same.selected, ← runtime]
              rfl
          | error e =>
            refine wp_bindLift (modify_alone (wp_still_ret ?_))
            rcases post with rfl | fell
            · refine .unmoved ⟨?_, ?_, ?_, ?_, ?_, ?_⟩
              · exact congrArg Live.applied live
              · exact congrArg Live.running live
              · exact congrArg Live.shutDown live
              · exact congrArg Runtime.config runtime
              · exact congrArg Runtime.selected runtime
              · have there : u.proxies.map ({ · with systemProxy := !enabled }) =
                    some { (p.toggle enabled ports).2 with systemProxy := !enabled } := by
                  rw [proxies]
                  rfl
                exact back there rfl rfl rfl was.symm
            · refine .off ?_ fell.running
              rw [← live]
              exact fell.applied

theorem setSystemProxyListener_alone {enabled : Bool} (fit : w.Fit) :
    wp (alone answers) (setSystemProxyListener config enabled).run
      (fun _ => Effect config answers (.setSystemProxyListener enabled) w) w := by
  refine bindExcept_alone (admitCall_alone (fun _ => .unmoved (World.Same.refl w).unmoved)
    fun _ _ => ?_)
  dsimp only
  split
  · exact wp_still_ret (.unmoved (World.Same.refl w).unmoved)
  · exact wp_still_withLock (setSystemProxyListenerLocked_alone fit)

omit [Crates] in
/-- While the shared listener is left out its port may move. -/
theorem OnRecord.of_leftOut {json : Config} {p p' : Proxies} (record : OnRecord config json w)
    (here : w.proxies = some p) (there : w'.proxies = some p') (leftOut : p.unavailable = true)
    (systemProxy : p'.systemProxy = p.systemProxy) (systemPort : p'.systemPort = p.systemPort) :
    OnRecord config json w' :=
  record.change here there (fun off => absurd (leftOut.symm.trans off) (by simp))
    fun on => ⟨systemProxy.trans on, systemPort⟩

omit [Crates] in
theorem Proxies.reconcile_parts (p : Proxies) (answers : PortAnswers) :
    (p.reconcile answers).2.unavailable = p.unavailable ∧
      (p.reconcile answers).2.systemProxy = p.systemProxy ∧
      (p.reconcile answers).2.systemPort = p.systemPort := by
  unfold Proxies.reconcile
  split <;> exact ⟨rfl, rfl, rfl⟩

/-- The listener's configuration loaded again, or the listener left out as
before. -/
theorem reopen_alone {op : Op} {a : Applied} {v : World} {p p' : Proxies}
    (applied : w.live.applied = some a) (on : w.live.running = true)
    (alive : w.live.shutDown = false) (here : w.proxies = some p)
    (leftOut : p.unavailable = true) (live : v.live = w.live) (runtime : v.runtime = w.runtime)
    (there : v.proxies = some p') (systemProxy : p'.systemProxy = p.systemProxy)
    (systemPort : p'.systemPort = p.systemPort) :
    wp (alone answers) (reopen config a) (fun _ => Effect config answers op w) v := by
  have failed (u : World) (live' : u.live = v.live) (runtime' : u.runtime = v.runtime)
      (same : u.proxies = v.proxies) : Effect config answers op w
        { u with proxies := u.proxies.map ({ · with unavailable := true }) } := by
    refine .unmoved ⟨?_, ?_, ?_, ?_, ?_, fun json record => ?_⟩
    · exact congrArg Live.applied (live'.trans live)
    · exact congrArg Live.running (live'.trans live)
    · exact congrArg Live.shutDown (live'.trans live)
    · exact congrArg Runtime.config (runtime'.trans runtime)
    · exact congrArg Runtime.selected (runtime'.trans runtime)
    · have there : u.proxies.map ({ · with unavailable := true }) =
          some { p' with unavailable := true } := by
        rw [same, there]
        rfl
      exact record.of_leftOut here there leftOut systemProxy systemPort
  refine wp_bind (wp_bindLift (read_alone (bindExcept_alone (liftExcept_alone ?_))))
  cases made : buildApplied config a v with
  | error e => exact modify_alone (failed v rfl rfl rfl)
  | ok t =>
    refine wp_bindLift (ask_alone fun answer _ => ?_)
    cases answer with
    | ok report =>
      refine wp_still_ret (modify_alone ?_)
      refine .reloaded applied on alive (.of_applied made) (by rw [there, here]; rfl) ?_ ?_ ?_ ?_ ?_
        fun json record => record.of_proxies (World.settle_proxies _)
      · simp [World.perform, live, applied]
      · rw [World.settleLive_running, ← live]
        rfl
      · rw [World.settleLive_shutDown, ← live]
        rfl
      · rw [World.settleLive_runtime]
        rfl
      · rw [World.settleLive_runtime, ← runtime]
        rfl
    | error e =>
      refine wp_bindLift (runtimeError_alone (fun e' _ => ?_) fun e' u _ fell => ?_)
      · exact wp_still_ret (modify_alone (failed _ rfl rfl rfl))
      · refine wp_still_ret (modify_alone (.off ?_ fell.running))
        exact fell.applied.trans (congrArg Live.applied live)

theorem openLocalProxy_alone {op : Op} {run : Nat} (leftOut : w.localProxyLeftOut config = true) :
    wp (alone answers) (openLocalProxy config run) (fun _ => Effect config answers op w) w := by
  have refused : Effect config answers op w w := .unmoved (World.Same.refl w).unmoved
  refine wp_still_withLock (wp_bind (read_alone ?_))
  cases applied : w.live.applied with
  | none => exact wp_still_ret refused
  | some a =>
    dsimp only
    split
    next going =>
      simp only [Bool.and_eq_true, Bool.not_eq_true', decide_eq_true_eq] at going
      obtain ⟨⟨on, alive⟩, -⟩ := going
      refine wp_bind (probe_alone (fun _ => rfl) fun ports => wp_bind (inSection_alone ?_))
      obtain ⟨p, here, out⟩ : ∃ p, w.proxies = some p ∧ p.unavailable = true := by
        unfold World.localProxyLeftOut World.localProxy at leftOut
        split at leftOut
        next =>
          cases here : w.proxies with
          | none =>
            rw [here] at leftOut
            cases leftOut
          | some p =>
            rw [here] at leftOut
            exact ⟨p, rfl, leftOut⟩
        next => cases leftOut
      obtain ⟨unavailable, systemProxy, systemPort⟩ := p.reconcile_parts ports
      cases chosen : p.reconcile ports with
      | mk result p' =>
        rw [chosen] at unavailable systemProxy systemPort
        cases result with
        | error e =>
          rw [show w.retryPort ports = (none, { w with proxies := some p' }) by
            simp [World.retryPort, here, chosen]]
          refine wp_still_ret (.unmoved ⟨rfl, rfl, rfl, rfl, rfl, fun json record => ?_⟩)
          exact record.of_leftOut here rfl out systemProxy systemPort
        | ok moved =>
          rw [show w.retryPort ports
              = (some moved, { w with proxies := some { p' with unavailable := false } }) by
            simp [World.retryPort, here, chosen]]
          have opened (v : World) (live : v.live = w.live) (runtime : v.runtime = w.runtime)
              (there : v.proxies = some { p' with unavailable := false }) :
              wp (alone answers) (reopen config a) (fun _ => Effect config answers op w) v :=
            reopen_alone applied on alive here out live runtime there systemProxy systemPort
          cases moved with
          | none => exact opened _ rfl rfl rfl
          | some moved => exact wp_bind (modify_alone (opened _ rfl rfl rfl))
    next => exact wp_still_ret refused

/-! ## Rebuilds -/

/-- A switch of the applied profile's configuration, and the translation it
left. -/
def RebuildPost (config : EngineConfig) (answers : Answers) (a : Applied) (build : Build)
    (w : World) : Except Error Translation → World → Prop
  | .ok t, w' => (∃ v, build v = .ok t ∧ v.proxies.isSome = w.proxies.isSome ∧
        ∀ json, OnRecord config json v → OnRecord config json w') ∧ w.Up w' ∧
      (w.live.running = true → w'.runtime.config = some t.json ∧
        (w'.runtime.selected = t.json.defaults ∨
          w'.runtime.selected = t.json.kept w.runtime.selected))
  | .error _, w' => (w.live.running = false ∧ w.Same config w') ∨
      (w.live.running = true ∧ Failed config answers a.translation w w')

omit [Crates] in
theorem SwitchPost.rebuilt {a : Applied} {next : Translation} {build : Build} {s : Switched}
    (built : build w = .ok next)
    (post : SwitchPost config answers a.translation next build w (.ok s) w') :
    RebuildPost config answers a build w (.ok s.translation) w' := by
  rcases post with ⟨-, took, reloaded⟩ | ⟨-, started⟩
  · rw [took]
    exact ⟨⟨w, built, rfl, reloaded.listening⟩, reloaded.toUp,
      fun _ => ⟨reloaded.runs, .inr reloaded.selected⟩⟩
  · obtain ⟨v, built, up, listening⟩ := started.built
    exact ⟨⟨v, built, up.proxies, listening⟩, started.toUp,
      fun _ => ⟨started.runs, .inl started.selected⟩⟩

omit [Crates] in
theorem RebuildPost.same {a : Applied} {build : Build} {t : Translation}
    (post : RebuildPost config answers a build w (.ok t) w') (same : w'.Same config w'') :
    RebuildPost config answers a build w (.ok t) w'' := by
  obtain ⟨⟨v, built, proxies, listening⟩, up, runs⟩ := post
  refine ⟨⟨v, built, proxies, fun json record => same.listening json (listening json record)⟩,
    up.trans same.toUp, fun on => ?_⟩
  rw [same.runs, same.selected]
  exact runs on

omit [Crates] in
theorem rebuildSwitch_alone {a : Applied} {build : Build} :
    wp (alone answers) (rebuildSwitch config a w.live.running build).run
      (RebuildPost config answers a build w) w := by
  refine wp_bindLift (read_alone (bindExcept_alone (liftExcept_alone ?_)))
  cases built : build w with
  | error e =>
    cases running : w.live.running with
    | false => exact .inl ⟨running, .refl w⟩
    | true => exact .inr ⟨running, .refused (.refl w)⟩
  | ok next =>
    cases running : w.live.running with
    | false =>
      refine wp_still_ret ⟨⟨w, built, rfl, fun _ => id⟩, .refl w, fun on => ?_⟩
      rw [running] at on
      cases on
    | true =>
      refine bindExcept_alone (wp_mono (switchTo_alone running) fun r v post => ?_)
      cases r with
      | error e => exact .inr ⟨running, post⟩
      | ok s =>
        have post := SwitchPost.rebuilt built post
        dsimp only
        split
        · exact wp_bindLift (modify_alone (wp_still_ret (post.same (.publish _ _))))
        · exact wp_still_ret post

omit [Crates] in
theorem World.translated_taken (config : EngineConfig) {a : Applied} (applied : w.live.applied = some a)
    (t : Translation) : Taken config { a with translation := t } w (w.translated t) where
  applied := by simp [World.translated, World.setLive, applied]
  running := rfl
  shutDown := rfl
  runs := rfl
  selected := rfl
  listening _ record := record.of_proxies rfl

/-- What a rebuilt configuration that took effect comes to. -/
theorem Effect.rebuilt {op : Op} {a : Applied} {t : Translation} {build : Build} {v : World}
    (applied : w.live.applied = some a) (alive : w.live.shutDown = false)
    (built : ∀ v, build v = .ok t → Built config { a with translation := t } v)
    (post : RebuildPost config answers a build w (.ok t) v)
    (taken : Taken config { a with translation := t } v w') : Effect config answers op w w' := by
  obtain ⟨⟨x, ok, proxies, listening⟩, up, runs⟩ := post
  cases running : w.live.running with
  | false =>
    refine .stored _ (.inr ⟨a, applied, rfl⟩) ⟨x, built x ok⟩ taken.applied ?_
    rw [taken.running, up.running, running]
  | true =>
    obtain ⟨runs, selected⟩ := runs running
    refine .took _ (.inr ⟨a, applied, rfl⟩) ⟨x, built x ok, proxies,
      fun json record => taken.listening json (listening json record)⟩ taken.applied ?_ ?_
      (taken.runs.trans runs) fun _ => ?_
    · rw [taken.running, up.running, running]
    · rw [taken.shutDown, up.shutDown, alive]
    · rcases selected with eq | eq
      · exact .defaults (taken.selected.trans eq)
      · exact .kept running ⟨a, applied, rfl⟩ (taken.selected.trans eq)

theorem rebuildRuleSets_alone {op : Op} :
    wp (alone answers) (rebuildRuleSets config) (fun _ => Effect config answers op w) w := by
  have refused : Effect config answers op w w := .unmoved (World.Same.refl w).unmoved
  refine wp_still_withLock (wp_bind (read_alone ?_))
  split
  next => exact wp_still_ret refused
  next on =>
    have alive : w.live.shutDown = false := by simpa using on
    cases applied : w.live.applied with
    | none => exact wp_still_ret refused
    | some a =>
      refine wp_bind (probe_alone (fun _ => rfl) fun now => ?_)
      split
      next => exact modify_alone (.unmoved (World.Same.publish _ _).unmoved)
      next =>
        refine wp_bind (read_alone (wp_bind (probe_alone (fun _ => rfl) fun snapshot => ?_)))
        refine wp_bind (wp_mono rebuildSwitch_alone fun r v post => ?_)
        cases r with
        | error e =>
          refine modify_alone ?_
          rcases post with ⟨off, same⟩ | ⟨on, failed⟩
          · exact .unmoved (same.trans (.publish _ _)).unmoved
          · exact .of_failed applied on (failed.same (.publish _ _))
        | ok t =>
          have up : w.Up v := post.2.1
          have finished {w' : World} (taken : Taken config { a with translation := t } v w') :
              Effect config answers op w w' :=
            .rebuilt applied alive (fun _ ok => .of_with ok) post taken
          refine wp_bind (modify_alone ?_)
          refine wp_bind (wp_mono (activateRuleSets_alone
            (World.translated_taken config (up.applied.trans applied) t)) fun _ u taken => ?_)
          split
          · exact (refresh_quiet config).run fun _ _ same => finished (taken.same same)
          · exact wp_still_ret (finished taken)

omit [Crates] in
theorem reprobeSwitched_alone (config : EngineConfig) {a : Applied} {s : Switched}
    (applied : w.live.applied = some a) :
    wp (alone answers) (reprobeSwitched s)
      (fun _ => Taken config { a with translation := s.translation } w) w := by
  have taken := World.translated_taken config applied s.translation
  refine wp_bind (inSection_alone ?_)
  rw [applied]
  dsimp only [Option.map_some]
  split
  · refine wp_bind (modify_alone ((refresh_quiet config).run fun _ _ same => ?_))
    exact taken.same (.trans (.publish _ _) same)
  · exact (refresh_quiet config).run fun _ _ same => taken.same same

theorem reprobed_alone {op : Op} {a : Applied} {state : Ipv6State}
    (applied : w.live.applied = some a) (on : w.live.running = true)
    (alive : w.live.shutDown = false) :
    wp (alone answers) (reprobed config a state) (fun _ => Effect config answers op w) w := by
  refine wp_bind (modify_alone (wp_bind (read_alone ?_)))
  have probed : w.Same config { w with host := state } :=
    .of_live rfl rfl rfl rfl List.prefix_rfl rfl rfl
  cases built : buildApplied config a { w with host := state } with
  | error e => exact wp_still_ret (.unmoved probed.unmoved)
  | ok next =>
    refine wp_bind (read_alone ?_)
    dsimp only
    rw [applied]
    refine wp_bind (wp_mono (switchTo_alone on) fun r v post => ?_)
    cases r with
    | error e => exact wp_still_ret (.of_failed applied on (Failed.of_same probed post))
    | ok s =>
      have post := SwitchPost.rebuilt (a := a) built post
      refine wp_mono (reprobeSwitched_alone config (post.2.1.applied.trans applied))
        fun _ w' taken => ?_
      exact .of_same probed (.rebuilt applied alive (fun _ ok => .of_applied ok) post taken)

theorem reprobeHostIpv6_alone {op : Op} :
    wp (alone answers) (reprobeHostIpv6 config) (fun _ => Effect config answers op w) w := by
  have refused : Effect config answers op w w := .unmoved (World.Same.refl w).unmoved
  unfold reprobeHostIpv6
  split
  · exact wp_still_ret refused
  · refine wp_bind (admitCall_alone (fun _ => wp_still_ret refused) fun _ _ => ?_)
    refine wp_still_withLock (wp_bind (read_alone ?_))
    split
    next => exact wp_still_ret refused
    next going =>
      simp only [Bool.or_eq_true, Bool.not_eq_true', not_or, Bool.not_eq_true,
        Bool.not_eq_false] at going
      obtain ⟨⟨⟨-, on⟩, alive⟩, -⟩ := going
      cases applied : w.live.applied with
      | none => exact wp_still_ret refused
      | some a =>
        refine wp_bind (readHostIpv6_quiet.run fun state v same => ?_)
        have told {v' : World} (later : w.Same config v') : Effect config answers op w v' :=
          .unmoved later.unmoved
        split
        · exact wp_still_ret (told same)
        · refine wp_bind (probe_alone (fun _ => rfl) fun now => ?_)
          split
          · exact modify_alone (told (same.trans (.publish _ _)))
          · refine wp_mono (reprobed_alone (same.applied.trans applied) (same.running.trans on)
              (same.shutDown.trans alive)) fun _ w' effect => .of_same same effect

/-! ## Everything else -/

omit [Crates] in
theorem networkReported_quiet (config : EngineConfig) (change : NetworkChange) :
    Quiet config answers (networkReported change) := by
  refine fun w => wp_still_sec (wp_still_ret ?_)
  dsimp only
  unfold Runtime.reported
  split
  next reported =>
    split at reported
    · cases reported
      exact .of_live rfl rfl rfl rfl List.prefix_rfl rfl rfl
    · cases reported
  next => exact .refl w

omit [Crates] in
theorem World.onSwitch_same (w : World) (switch : GroupSwitch) :
    w.Same config (w.onSwitch switch) := by
  unfold World.onSwitch
  split
  · exact .refl w
  · split
    · exact .refl w
    · dsimp only
      split
      · split
        · exact .refl w
        · exact World.Same.trans (.setLive rfl rfl rfl rfl) (.publish _ _)
      · exact .refl w

theorem World.onRuntimeState_effect {op : Op} (state : RuntimeState) :
    Effect config answers op w (w.onRuntimeState state) := by
  unfold World.onRuntimeState
  split
  · split
    · exact .unmoved (World.Same.refl w).unmoved
    · exact .off (World.settleLive_applied _ _) (World.settleLive_running _ _)
  · exact .unmoved (World.Same.refl w).unmoved

omit [Crates] in
theorem World.Unmoved.settleLive {f : Live → Live} (applied : (f w.live).applied = w.live.applied)
    (running : (f w.live).running = w.live.running)
    (shutDown : (f w.live).shutDown = w.live.shutDown) : w.Unmoved config (w.settleLive f) where
  applied := (World.settleLive_applied _ _).trans applied
  running := (World.settleLive_running _ _).trans running
  shutDown := (World.settleLive_shutDown _ _).trans shutDown
  runs := by rw [World.settleLive_runtime]
  selected := by rw [World.settleLive_runtime]
  listening _ record := record.of_proxies (World.settleLive_proxies _ _)

omit [Crates] in
theorem World.onTunRouting_unmoved (w : World) (signal : TunRoutingSignal) :
    w.Unmoved config (w.onTunRouting signal) := by
  have told (event : Event) : w.Unmoved config (w.publish event) :=
    (World.Same.publish w event).unmoved
  cases signal with
  | restoring => exact .settleLive rfl rfl rfl
  | unguarded => exact .settleLive rfl rfl rfl
  | restored missing => exact (told _).trans (.settleLive rfl rfl rfl)
  | broken missing error => exact (told _).trans (.settleLive rfl rfl rfl)
  | changed missing error => exact (told _).trans (.settleLive rfl rfl rfl)

theorem shutdownBody_alone (config : EngineConfig) (op : Op) (fit : w.Fit) :
    wp (alone answers) shutdownBody (fun _ => Effect config answers op w) w := by
  -- Shut down before, it no longer runs; else it no longer runs now.
  have ended (v : World) (up : w.Up v) : Effect config answers op w v.shutDown := by
    unfold World.shutDown
    split
    next gone =>
      refine .off up.applied ?_
      rw [up.running]
      exact fit.alive (up.shutDown ▸ gone)
    next =>
      refine .off ?_ (World.settleLive_running _ _)
      exact (World.settleLive_applied _ _).trans up.applied
  refine wp_bind (read_alone (wp_bind ((networkStopped_quiet config).run fun _ v same => ?_)))
  refine wp_bind (localProxyStopped_alone fun v' later => ?_)
  have up : w.Up v' := same.toUp.trans later
  dsimp only
  split
  · refine wp_bind (ask_alone fun _ _ => wp_still_sec (wp_still_ret ?_))
    exact ended _ (up.trans .perform)
  · exact wp_still_sec (wp_still_ret (ended v' up))

omit [Crates] in
theorem Try.failed_alone {α : Type} {p : Try α} {Q : World → Prop}
    (spec : wp (alone answers) p.run (fun _ => Q) w) : wp (alone answers) p.failed (fun _ => Q) w := by
  refine wp_bind (wp_mono spec fun r w' post => ?_)
  cases r <;> exact wp_still_ret post

/-- What anything an instance is asked or told has done once it is over, when
nothing else ran meanwhile. -/
theorem Op.task_effect (op : Op) (fit : w.Fit) :
    wp (alone answers) (op.task config) (fun _ => Effect config answers op w) w := by
  have finished {op : Op} {p : Task Unit}
      (spec : wp (alone answers) p (fun _ => Effect config answers op w) w) :
      wp (alone answers) (do p; return false) (fun _ => Effect config answers op w) w :=
    wp_bind (wp_mono spec fun _ _ effect => wp_still_ret effect)
  have quiet {op : Op} {p : Task Unit} (quiet : Quiet config answers p) :
      wp (alone answers) (do p; return false) (fun _ => Effect config answers op w) w :=
    finished (quiet.run fun _ _ same => .unmoved same.unmoved)
  have refused {op : Op} : Effect config answers op w w := .unmoved (World.Same.refl w).unmoved
  cases op with
  | apply request =>
    refine Try.failed_alone (wp_mono (apply_alone fit.applied) fun r w' post => ?_)
    cases r with
    | ok r => exact post
    | error e => exact ApplyFailed.effect post
  | start => exact Try.failed_alone start_alone
  | stop => exact Try.failed_alone stop_alone
  | selectNode nodeId => exact Try.failed_alone selectNode_alone
  | pinIngress nodeId key => exact Try.failed_alone pinIngress_alone
  | setSystemProxyListener enabled => exact Try.failed_alone (setSystemProxyListener_alone fit)
  | openLocalProxy run =>
    refine wp_bind (read_alone ?_)
    dsimp only
    split
    next leftOut => exact finished (openLocalProxy_alone leftOut)
    next => exact wp_still_ret refused
  | rebuildRuleSets => exact finished rebuildRuleSets_alone
  | reprobeHostIpv6 => exact finished reprobeHostIpv6_alone
  | onNetworkChange change seen =>
    refine wp_bind ((networkReported_quiet config change).run fun run v told => ?_)
    split
    · refine wp_bind ((onNetworkChange_quiet _ change).run fun _ w' same => wp_still_ret ?_)
      exact .unmoved (told.trans same).unmoved
    · exact wp_still_ret (.unmoved told.unmoved)
  | onSwitch switch =>
    refine quiet (.bind (refresh_quiet config) fun _ => .modify fun w => w.onSwitch_same switch)
  | onRuntimeState state => exact finished (modify_alone (World.onRuntimeState_effect state))
  | onTunRouting signal =>
    refine wp_bind (wp_bind (read_alone ?_))
    split
    · exact modify_alone (wp_still_ret (.unmoved (w.onTunRouting_unmoved signal)))
    · exact wp_still_ret (wp_still_ret refused)
  | onRuleSet snapshot copy =>
    refine wp_bind (modify_alone (wp_bind ((onRuleSet_quiet config copy).run fun _ w' same =>
      wp_still_ret (.unmoved ?_))))
    refine World.Unmoved.trans ?_ same.unmoved
    split
    · exact ⟨rfl, rfl, rfl, rfl, rfl, fun _ record => record.of_proxies rfl⟩
    · exact (World.Same.refl w).unmoved
  | fatalCleanup =>
    refine wp_bind (read_alone ?_)
    dsimp only
    split
    next fatal =>
      simp only [Bool.and_eq_true, Bool.not_eq_true'] at fatal
      exact finished (wp_bind (ask_alone fun _ _ => modify_alone (.off rfl fatal.2)))
    next => exact wp_still_ret refused
  | shutdown =>
    refine wp_bind (wp_bind (modify_alone ?_))
    have closing : w.Same config { w with closing := true } :=
      .of_live rfl rfl rfl rfl List.prefix_rfl rfl rfl
    rintro _ rfl _
    have fit : World.Fit { w with closing := true } := ⟨fit.applied, fit.alive⟩
    refine ⟨trivial, wp_bind (wp_mono (shutdownBody_alone config .shutdown fit)
      fun _ w' effect => ?_)⟩
    rintro _ rfl _
    exact ⟨trivial, wp_still_ret (wp_still_ret (.of_same closing effect))⟩

end

end PpvpnCore
