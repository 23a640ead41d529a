import PpvpnCore.Engine.Effect

/-!
# Between calls

What holds whenever no call is in progress, for calls one after another with
any answers: sail runs the configuration of the translation applied, so that an
apply that fails can leave it there.

* `Serial`: the states reached by calls one after another.
* `apply_failed`: what a failed apply leaves.
-/

namespace PpvpnCore

open Lib

section

variable [Crates]

/-- The states between calls: each call ran alone, its calls to the world
answered as `answers` allows. -/
inductive Serial (config : EngineConfig) (answers : Answers) (asked : Op → Prop) : World → Prop
  | new (state : LocalProxyState) : Serial config answers asked (World.new config state)
  | call {w w' : World} {op : Op} {failed : Bool} (before : Serial config answers asked w)
      (ok : asked op) (runs : Runs (alone answers) (op.task config) w failed w') :
      Serial config answers asked w'

variable {config : EngineConfig} {answers : Answers} {asked : Op → Prop} {w w' : World}

omit [Crates] in
theorem wp_alone {α : Type} {p : Task α} {a : α} {Q : α → World → Prop}
    (spec : wp (alone answers) p Q w) (runs : Runs (alone answers) p w a w') : Q a w' :=
  wp_sound spec runs fun _ => trivial

theorem Effect.fit {op : Op} (effect : Effect config answers op w w') (fit : w.Fit) : w'.Fit := by
  cases effect with
  | unmoved same =>
    refine ⟨?_, ?_⟩
    · rw [same.running, same.applied]
      exact fit.applied
    · rw [same.running, same.shutDown]
      exact fit.alive
  | off applied off => exact ⟨fun on => absurd (off.symm.trans on) (by simp), fun _ => off⟩
  | stored a origin built applied off =>
    exact ⟨fun on => absurd (off.symm.trans on) (by simp), fun _ => off⟩
  | took a origin built applied on alive runs choice =>
    exact ⟨fun _ => by rw [applied]; rfl, fun down => absurd (alive.symm.trans down) (by simp)⟩
  | picked a a' picked applied applied' translation running shutDown runs listening =>
    refine ⟨fun _ => by rw [applied']; rfl, ?_⟩
    rw [running, shutDown]
    exact fit.alive
  | putBack a applied on back =>
    refine ⟨?_, ?_⟩
    · rw [back.running, back.applied]
      exact fit.applied
    · rw [back.running, back.shutDown]
      exact fit.alive

omit [Crates] in
theorem World.new_fit (config : EngineConfig) (state : LocalProxyState) :
    (World.new config state).Fit :=
  ⟨fun on => absurd on (by simp [World.new]), fun _ => rfl⟩

/-- What every effect keeps holds between calls. -/
theorem Serial.keeps {I : World → Prop} (reached : Serial config answers asked w)
    (new : ∀ state, I (World.new config state))
    (call : ∀ op w w', asked op → I w → Effect config answers op w w' →
      w'.proxies.isSome = w.proxies.isSome → I w') : w.Fit ∧ w.Settled ∧ I w := by
  induction reached with
  | new state => exact ⟨World.new_fit config state, World.new_settled config state, new state⟩
  | @call w w' op failed before ok runs ih =>
    obtain ⟨fit, settled, inv⟩ := ih
    have effect := wp_alone (op.task_effect fit) runs
    have sections := op.task_sections config
    refine ⟨effect.fit fit, ?_, call op w w' ok inv effect ?_⟩
    · exact runs.within sections (fun _ _ _ h => h.settled) World.perform_settled settled
    · exact runs.within sections (fun _ _ _ h => h.listeners.trans) (fun _ _ _ => id) rfl

/-! ## What runs -/

end

/-! ## The small instance, running -/

theorem Serial.exec [Crates] {config : EngineConfig} {answers : Answers} {asked : Op → Prop}
    {w : World} (reached : Serial config answers asked w) {op : Op} (ok : asked op)
    {oracle : Nat → (c : Call) → Answer c} (admitted : ∀ n c s, answers c (oracle n c) s) :
    Serial config answers asked (exec World.perform oracle (op.task config) 0 w).2.2 :=
  .call reached ok (exec_runs admitted _ _ _)

/-- All goes well but reloads. -/
def refusing : (c : Call) → Answer c
  | .reload _ => (.error ⟨"io", "refused"⟩ : Except RuntimeError ReloadReport)
  | c => calm c

end PpvpnCore
