import PpvpnCore.Engine.Proxy

/-!
# The network as sail sees it

The watch keeps the latest change only; a jump in the generation replays the
step that led to the change. Each section of the track's or the live lock is
one step: a stop or a start may fall between them.
-/

namespace PpvpnCore

open Lib

/-- The default interface as `onNetwork` takes it: none when offline. -/
def interfaceIf (snapshot : NetworkSnapshot) (offline : Bool) : Option (String × Nat) :=
  if offline then none else some (snapshot.interface.getD "", snapshot.index.getD 0)

/-- What says where the network is: offline, and which interface. -/
def samePlace (s : NetworkSnapshot) : Bool × Option String × Option Nat :=
  (s.offline, s.interface, s.index)

/-- The default interface changed (`none`: offline). -/
def World.onNetwork (w : World) (interface : Option (String × Nat)) : World :=
  let w := w.setLive ({ · with offline := interface.isNone })
  let w := if w.live.running then
      let (name, index) := interface.getD ("", 0)
      w.publish (.networkChanged interface.isSome name index)
    else w
  w.settle

/-- After a start: the network as sail has it now, unless this run already
reported a change. -/
def World.networkStarted (w : World) : World :=
  if w.track.generation > 0 then w
  else
    let snapshot := w.runtime.network
    let w := { w with track.last := snapshot }
    match snapshot.filter fun s => s.offline || s.interface.isSome with
    | some snapshot => w.settleLive ({ · with offline := snapshot.offline })
    | none => w

def networkStarted : Task Unit := modify World.networkStarted

/-- At stop or shutdown: the run's network goes with it. Whether a re-probe was
waiting. -/
def networkStopped : Task Bool := do
  let waiting ← inSection fun w =>
    (w.track.timer, { w with track :=
      { generation := 0, last := none, timer := false, armed := w.track.armed + 1 } })
  modify fun w => if w.live.offline then w.settleLive ({ · with offline := false }) else w
  return waiting

/-- (Re)arms the host IPv6 re-probe on a TUN instance. -/
def armReprobe (config : EngineConfig) : Task Unit :=
  if config.role ≠ .tun then pure ()
  else modify fun w =>
    { w with track := { w.track with timer := true, armed := w.track.armed + 1 } }

/-- The track after a change: whether the step that led to it was missed. -/
def Track.follow (track : Track) (change : NetworkChange) : Bool × Track :=
  let jumped := change.generation > track.generation + 1
  let missed := jumped && track.last.map samePlace ≠ some (samePlace change.old)
  (missed, { track with generation := change.generation, last := some change.new })

/-- One change from sail's network watch; `run` is the run of sail it belongs
to. -/
def onNetworkChange (config : EngineConfig) (run : Nat) (change : NetworkChange) : Task Unit := do
  let w ← read
  -- Late, from a run that has stopped or is being replaced.
  if !w.live.running || w.live.restarting then return
  let missed ← Prog.step (.watched run) fun w =>
    let (missed, track) := w.track.follow change
    (missed, { w with track })
  if missed then
    Prog.update (.watched run) (·.onNetwork (interfaceIf change.old change.old.offline))
  Prog.update (.watched run) (·.onNetwork (interfaceIf change.new (change.change = .offline)))
  armReprobe config

/-- sail reports a change of its network; the run it belongs to. -/
def networkReported (change : NetworkChange) : Task (Option Nat) :=
  Prog.step .sail fun w =>
    match w.runtime.reported change with
    | some runtime => (some runtime.run, { w with runtime })
    | none => (none, w)

end PpvpnCore
