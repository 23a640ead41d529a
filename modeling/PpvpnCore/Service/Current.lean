import PpvpnCore.Service.Walk

/-!
# What is recorded and what runs

The profile, hosts and mode the service has written down of the current instance.

* `recorded_runs`: what is recorded of the current instance is what it runs.
-/

namespace PpvpnCore.Service

open Lib

variable {host : Host} {ops : List Op} {q : Pool World Unit Answer Reply}

/-- While no update is in flight, the current instance runs the profile, hosts
and mode recorded of it, under the profile's own revision, as long as no update
began while another was in flight, none that took effect found the lease lapsed
or the instance failed, and nobody applied a profile past the service. -/
theorem recorded_runs (served : Served host ops q) (free : q.owner = none)
    (landed : q.state.flights = []) (apart : q.state.overlapped = false)
    (kept : q.state.missed = false) (only : q.state.bypassed = false) (core : RunningCore)
    (here : q.state.state = some core) :
    q.state.runs core.key = some core.applied ∧ Revised core.profile core.profileRevision := by
  have clean := served.kept.free free
  have open_ : q.state.raced = false := by simp [World.raced, apart, kept, only]
  refine ⟨clean.right open_ core here ?_, (clean.current core here).2.2⟩
  rw [landed]
  simp

def sampleUpdate (revision : String) : Op :=
  .updateProfile (some "anna") ⟨⟨"a", 1⟩, sampleProfile revision, [], none, {}⟩

/-- One update after the other. -/
theorem recorded_runs_updated :
    let q := samplePlay [sampleConnect "a" false, sampleUpdate "r1", sampleUpdate "r2"]
      (sampleTurn 0 20 ++ sampleTurn 1 20 ++ sampleTurn 2 20)
    q.state.state.map (·.profileRevision) = some "r2" ∧ ∀ core, q.state.state = some core →
      q.state.runs core.key = some core.applied ∧ Revised core.profile core.profileRevision := by
  refine ⟨by decide +kernel, recorded_runs (samplePlay_served [sampleConnect "a" false,
    sampleUpdate "r1", sampleUpdate "r2"] (sampleTurn 0 20 ++ sampleTurn 1 20 ++ sampleTurn 2 20))
    ?_ ?_ ?_ ?_ ?_⟩ <;> decide +kernel

/-- What runs, of a profile: its revision. -/
def Applied.revision (applied : Applied) : Option String :=
  (applied.profile.get "revision").bind Value.asStr

/-- The update to `r1` is applied, then the one to `r2` is applied and recorded,
and then the one to `r1` is recorded. -/
theorem overlapping_updates :
    ¬ ∀ (ops : List Op) (q : Pool World Unit Answer Reply), Served sampleHost ops q →
      q.owner = none → q.state.flights = [] → ∀ core, q.state.state = some core →
        q.state.runs core.key = some core.applied := by
  intro all
  let q := samplePlay [sampleConnect "a" false, sampleUpdate "r1", sampleUpdate "r2"]
    (sampleTurn 0 20 ++ sampleTurn 1 6 ++ sampleTurn 2 20 ++ sampleTurn 1 20)
  have runs := all _ q (samplePlay_served _ _) (by decide +kernel) (by decide +kernel)
  have recorded : q.state.state.map (fun core => (core.key, core.applied.revision)) =
      some (0, some "r1") := by decide +kernel
  have applied : (q.state.runs 0).map Applied.revision = some (some "r2") := by decide +kernel
  obtain ⟨core, here, eq⟩ := Option.map_eq_some_iff.mp recorded
  have now := runs core here
  rw [(Prod.mk.inj eq).1] at now
  rw [now, Option.map_some, (Prod.mk.inj eq).2] at applied
  exact absurd applied (by decide)

end PpvpnCore.Service
