import PpvpnCore.LocalProxy.Username
import PpvpnCore.Engine.State

/-!
The local proxy's state on the device (`localproxy/mod.rs`): the file in
`state_dir` is read or created once, memory is authoritative after that and
every change is written through.

What `serde_json` makes of the file's bytes is a `Document`; the bytes
themselves are left out. The machine's answers (reads, writes, random bytes,
probes of ports) are arguments.
-/

namespace PpvpnCore

/-- Version 2 replaced per-node ports and credentials (version 1) with one
shared port, username prefix and password. -/
def stateVersion : UInt32 := 2

/-- A state file as it decodes: no header, or a version with what the rest
decodes to as version 1 (whether it has endpoints) and as version 2. -/
inductive Document where
  | malformed (reason : String)
  | versioned (version : UInt32) (endpoints : Bool) (state : Except String DiskState)

def encode (state : DiskState) : Document := .versioned state.version false (.ok state)

/-- How a state file was read. -/
inductive Loaded where
  | missing
  | current (state : DiskState)
  /-- Version 1: its per-node values are dropped and regenerated. -/
  | legacy
  /-- Unusable: the reason, for the log. -/
  | corrupt (reason : String)

def decode : Document → Loaded
  | .malformed reason => .corrupt reason
  | .versioned version endpoints state =>
    if version = 1 then
      if endpoints then .legacy else .corrupt "version 1 without endpoints"
    else if version = stateVersion then
      match state with
      | .error reason => .corrupt reason
      | .ok state =>
        if state.userPrefix ≠ "" ∧ ¬ validPrefix state.userPrefix then .corrupt "invalid prefix"
        else if ¬ (state.userPrefix = "" ↔ state.password = "") then
          .corrupt "prefix and password must come together"
        else .current state
    else .corrupt ("unsupported version " ++ toString version)

def load : Option Document → Loaded
  | none => .missing
  | some document => decode document

/-! ## New credentials -/

def randomError (e : String) : Error :=
  .new .coreOperationFailed true ("local proxy: random source: " ++ e)

/-- The characters a buffer of random bytes gives; rejection sampling keeps
each equally likely. -/
def prefixChars (buffer : List UInt8) : List Char :=
  (buffer.filter fun b => b.toNat < 256 - 256 % prefixAlphabet.length).map fun b =>
    prefixAlphabet.getD (b.toNat % prefixAlphabet.length) 'a'

/-- Five characters of the alphabet, from one buffer after another; `none`
while it asks for more than `buffers`. -/
def randomPrefix : List (Except String (List UInt8)) → List Char → Option (Except Error String)
  | buffers, out =>
    if prefixLength ≤ out.length then some (.ok (String.ofList out))
    else
      match buffers with
      | [] => none
      | .error e :: _ => some (.error (randomError e))
      | .ok buffer :: rest => randomPrefix rest ((out ++ prefixChars buffer).take prefixLength)

def base64Char (n : Nat) : Char :=
  "ABCDEFGHIJKLMNOPQRSTUVWXYZabcdefghijklmnopqrstuvwxyz0123456789-_".toList.getD n 'A'

/-- Base64url without padding. -/
def base64 : List UInt8 → List Char
  | [] => []
  | [a] => [base64Char (a.toNat / 4), base64Char (a.toNat % 4 * 16)]
  | [a, b] =>
    [base64Char (a.toNat / 4), base64Char (a.toNat % 4 * 16 + b.toNat / 16),
      base64Char (b.toNat % 16 * 4)]
  | a :: b :: c :: rest =>
    base64Char (a.toNat / 4) :: base64Char (a.toNat % 4 * 16 + b.toNat / 16) ::
      base64Char (b.toNat % 16 * 4 + c.toNat / 64) :: base64Char (c.toNat % 64) :: base64 rest

/-- 32 random bytes, base64url without padding (43 characters). -/
def randomPassword (bytes : Except String (Vector UInt8 32)) : Except Error String :=
  match bytes with
  | .ok bytes => .ok (String.ofList (base64 bytes.toList))
  | .error e => .error (randomError e)

/-! ## Opening -/

/-- What the machine answers to one `open`. -/
structure OpenAnswers where
  directory : Except IoError Unit
  read : Except IoError Unit
  /-- Nobody but the owner can read the file. -/
  isPrivate : Bool
  buffers : List (Except String (List UInt8))
  password : Except String (Vector UInt8 32)
  ports : PortAnswers

def DiskState.empty : DiskState := ⟨0, "", "", 0, 0⟩

/-- What was read, and whether that is not what the file holds. A file other
users may read keeps its ports but loses its credentials. -/
def readState (file : Option Document) (answers : OpenAnswers) : DiskState × Bool :=
  let (state, changed) := match load file with
    | .missing => (DiskState.empty, false)
    | .current state => (state, false)
    | .legacy => (DiskState.empty, true)
    | .corrupt _ => (DiskState.empty, true)
  let (state, changed) :=
    if state.version ≠ stateVersion then ({ state with version := stateVersion }, true)
    else (state, changed)
  if file.isSome ∧ ¬ answers.isPrivate then ({ state with userPrefix := "", password := "" }, changed)
  else (state, changed)

def withCredentials (answers : OpenAnswers) (state : DiskState) (changed : Bool) :
    Option (Except Error (DiskState × Bool)) :=
  if state.userPrefix = "" then
    match randomPrefix answers.buffers [] with
    | none => none
    | some (.error e) => some (.error e)
    | some (.ok userPrefix) =>
      match randomPassword answers.password with
      | .error e => some (.error e)
      | .ok password => some (.ok ({ state with userPrefix, password }, true))
  else some (.ok (state, changed))

namespace LocalProxyState

/-- Picks the port of a listener that is not open yet, and persists what
changed. The second part is the file. -/
def opened (this : LocalProxyState) (changed : Bool) (file : Option Document) (answers : PortAnswers) :
    Except Error LocalProxyState × Option Document :=
  match this.chooseLocalPort answers with
  | .error e => (.error e, file)
  | .ok port =>
    let moved : LocalProxyState := { this with state.port := port }
    if port ≠ this.state.port ∨ changed = true then
      match moved.save answers with
      | (.error e, _) => (.error e, file)
      | (.ok (), saved) => (.ok saved, some (encode saved.state))
    else (.ok this, file)

/-- Reads `state_dir`'s state or creates it; `none` while it draws random
bytes. -/
def openWith (file : Option Document) (config : LocalProxyConfig) (systemPreferredPort : UInt16)
    (answers : OpenAnswers) : Option (Except Error LocalProxyState × Option Document) :=
  if (IpAddr.parse config.listen.toList).isNone then
    some (.error (.invalid .coreOperationFailed "local_proxy.listen"
      ("local proxy: listen " ++ config.listen.quote ++ " is not an IP address")), file)
  else
    match answers.directory, answers.read with
    | .error e, _ => some (.error (ioError "create the state directory" e), file)
    | .ok (), .error e => some (.error (ioError "read the state" e), file)
    | .ok (), .ok () =>
      let (state, changed) := readState file answers
      match withCredentials answers state changed with
      | none => none
      | some (.error e) => some (.error e, file)
      | some (.ok (state, changed)) =>
        let this : LocalProxyState :=
          { listen := config.listen, preferredPort := config.preferredPort, systemPreferredPort,
            state, file := state }
        some (this.opened changed file answers.ports)

end LocalProxyState

/-! ## Runs -/

/-- The file and, once opened, the state in memory. -/
structure Device where
  file : Option Document
  memory : Option LocalProxyState := none

inductive DeviceCall where
  | «open» (config : LocalProxyConfig) (systemPreferredPort : UInt16) (answers : OpenAnswers)
  | reconcilePort (answers : PortAnswers)
  | systemProxyPort (probe : Bool) (answers : PortAnswers)

/-- What a call returns: the port of the `LocalProxyEndpointChanged` of
`reconcile_port`, if any. -/
abbrev DeviceCall.Result := Except Error (Option UInt16)

/-- The file after a call: `save` replaces it by the state in memory. A write
of what it decodes to already is left out. -/
def Device.wrote (file : Option Document) (before after : LocalProxyState) : Option Document :=
  if after.file = before.file then file else some (encode after.file)

/-- One call; `none` when it does not return, or nothing is open. -/
def DeviceCall.run (d : Device) : DeviceCall → Option (DeviceCall.Result × Device)
  | .open config port answers =>
    match LocalProxyState.openWith d.file config port answers with
    | none => none
    | some (.error e, file) => some (.error e, { d with file })
    | some (.ok s, file) => some (.ok none, { file, memory := some s })
  | .reconcilePort answers =>
    d.memory.map fun s =>
      let (result, s') := s.reconcilePort answers
      (result, { file := Device.wrote d.file s s', memory := some s' })
  | .systemProxyPort probe answers =>
    d.memory.map fun s =>
      let (result, s') := s.systemProxyPort probe answers
      (result.map fun _ => none, { file := Device.wrote d.file s s', memory := some s' })

/-- One call of a run, with the device before and after it. -/
structure DeviceStep where
  before : Device
  call : DeviceCall
  result : DeviceCall.Result
  after : Device

/-- The calls of a run that returned. -/
def Device.steps (d : Device) : List DeviceCall → List DeviceStep
  | [] => []
  | call :: calls =>
    match call.run d with
    | none => []
    | some (result, after) => ⟨d, call, result, after⟩ :: after.steps calls

/-! ## What is written is read back -/

/-- What `open` leaves in memory: the current version, a prefix and a password. -/
structure DiskState.Complete (state : DiskState) : Prop where
  version : state.version = stateVersion
  userPrefix : validPrefix state.userPrefix = true
  password : state.password ≠ ""

theorem ne_empty_of_validPrefix {userPrefix : String} (valid : validPrefix userPrefix = true) :
    userPrefix ≠ "" := by
  intro empty
  have length := (validPrefix_iff.1 valid).1
  rw [empty] at length
  exact absurd length (by decide)

theorem decode_encode {state : DiskState} (complete : state.Complete) :
    decode (encode state) = .current state := by
  have other : stateVersion ≠ 1 := by decide
  have present := ne_empty_of_validPrefix complete.userPrefix
  simp [decode, encode, complete.version, other, complete.userPrefix, present, complete.password]

theorem decode_current {document : Document} {state : DiskState}
    (current : decode document = .current state) :
    state.userPrefix = "" ∨ validPrefix state.userPrefix = true ∧ state.password ≠ "" := by
  cases document with
  | malformed reason => cases current
  | versioned version endpoints content =>
    simp only [decode] at current
    split at current
    · split at current
      · cases current
      · cases current
    · split at current
      · cases content with
        | error reason => cases current
        | ok content =>
          dsimp only at current
          split at current
          · cases current
          · rename_i valid
            split at current
            · cases current
            · rename_i together
              cases current
              by_cases empty : state.userPrefix = ""
              · exact .inl empty
              · refine .inr ⟨?_, ?_⟩
                · by_contra invalid
                  exact valid ⟨empty, invalid⟩
                · intro missing
                  apply together
                  simp [empty, missing]
      · cases current

theorem randomPrefix_valid {buffers : List (Except String (List UInt8))} {out : List Char}
    {userPrefix : String} (drawn : randomPrefix buffers out = some (.ok userPrefix))
    (short : out.length ≤ prefixLength) (chars : ∀ c ∈ out, c ∈ prefixAlphabet) :
    validPrefix userPrefix = true := by
  induction buffers generalizing out with
  | nil =>
    unfold randomPrefix at drawn
    split at drawn
    · rename_i enough
      cases drawn
      rw [validPrefix_iff, String.toList_ofList]
      exact ⟨Nat.le_antisymm short enough, chars⟩
    · cases drawn
  | cons buffer rest ih =>
    unfold randomPrefix at drawn
    split at drawn
    · rename_i enough
      cases drawn
      rw [validPrefix_iff, String.toList_ofList]
      exact ⟨Nat.le_antisymm short enough, chars⟩
    · cases buffer with
      | error e => cases drawn
      | ok buffer =>
        apply ih drawn
        · exact List.length_take_le _ _
        · intro c mem
          rcases List.mem_append.1 (List.mem_of_mem_take mem) with old | new
          · exact chars c old
          · obtain ⟨b, -, rfl⟩ := List.mem_map.1 new
            have bound : b.toNat % prefixAlphabet.length < prefixAlphabet.length :=
              Nat.mod_lt _ (by decide)
            rw [List.getD_eq_getElem _ _ bound]
            exact List.getElem_mem bound

theorem base64_ne_nil {bytes : List UInt8} (some : bytes ≠ []) : base64 bytes ≠ [] := by
  unfold base64
  split
  · exact absurd rfl some
  · exact List.cons_ne_nil _ _
  · exact List.cons_ne_nil _ _
  · exact List.cons_ne_nil _ _

theorem randomPassword_ne_empty {bytes : Except String (Vector UInt8 32)} {password : String}
    (drawn : randomPassword bytes = .ok password) : password ≠ "" := by
  cases bytes with
  | error e => cases drawn
  | ok bytes =>
    cases drawn
    intro empty
    have nothing : base64 bytes.toList = [] := by
      rw [← String.toList_ofList (l := base64 bytes.toList), empty]
      rfl
    apply base64_ne_nil _ nothing
    intro none
    have size : bytes.toList.length = 32 := by simp
    rw [none] at size
    cases size

/-! ## A call at a time -/

/-- What the file was read as, before the version and the permissions are looked at. -/
def Loaded.state : Loaded → DiskState × Bool
  | .missing => (DiskState.empty, false)
  | .current state => (state, false)
  | .legacy => (DiskState.empty, true)
  | .corrupt _ => (DiskState.empty, true)

theorem Loaded.state_spec (file : Option Document) :
    ((load file).state.1.userPrefix = "" ∨
      validPrefix (load file).state.1.userPrefix = true ∧ (load file).state.1.password ≠ "") ∧
      ((load file).state.2 = false → (load file).state.1.version = stateVersion →
        load file = .current (load file).state.1) := by
  cases loaded : load file with
  | missing => exact ⟨.inl rfl, fun _ version => absurd version (by decide)⟩
  | current state =>
    refine ⟨?_, fun _ _ => rfl⟩
    cases file with
    | none => cases loaded
    | some document => exact decode_current loaded
  | legacy => exact ⟨.inl rfl, fun same => by cases same⟩
  | corrupt reason => exact ⟨.inl rfl, fun same => by cases same⟩

theorem readState_eq (file : Option Document) (answers : OpenAnswers) :
    readState file answers =
      let read := (load file).state
      ({ version := stateVersion
         userPrefix := if file.isSome ∧ ¬ answers.isPrivate then "" else read.1.userPrefix
         password := if file.isSome ∧ ¬ answers.isPrivate then "" else read.1.password
         port := read.1.port
         systemProxyPort := read.1.systemProxyPort },
        read.2 || decide (read.1.version ≠ stateVersion)) := by
  have parts : readState file answers =
      let read := (load file).state
      let (state, changed) :=
        if read.1.version ≠ stateVersion then ({ read.1 with version := stateVersion }, true)
        else read
      if file.isSome ∧ ¬ answers.isPrivate then
        ({ state with userPrefix := "", password := "" }, changed)
      else (state, changed) := by
    unfold readState Loaded.state
    cases load file <;> rfl
  rw [parts]
  generalize (load file).state = read
  obtain ⟨⟨version, userPrefix, password, port, systemProxyPort⟩, changed⟩ := read
  dsimp only
  by_cases reset : file.isSome ∧ ¬ answers.isPrivate
  · simp only [if_pos reset]
    by_cases same : version = stateVersion
    · simp [same]
    · simp [same]
  · simp only [if_neg reset]
    by_cases same : version = stateVersion
    · simp [same]
    · simp [same]

theorem readState_spec {file : Option Document} {answers : OpenAnswers} {state : DiskState}
    {changed : Bool} (read : readState file answers = (state, changed)) :
    state.version = stateVersion ∧
      (state.userPrefix = "" ∨ validPrefix state.userPrefix = true ∧ state.password ≠ "") ∧
      (changed = false → state.userPrefix ≠ "" → load file = .current state) := by
  obtain ⟨complete, current⟩ := Loaded.state_spec file
  rw [readState_eq, Prod.mk.injEq] at read
  obtain ⟨rfl, rfl⟩ := read
  by_cases reset : file.isSome ∧ ¬ answers.isPrivate
  · rw [if_pos reset, if_pos reset]
    exact ⟨rfl, .inl rfl, fun _ present => absurd rfl present⟩
  · rw [if_neg reset, if_neg reset]
    refine ⟨rfl, complete, ?_⟩
    intro same _
    rw [Bool.or_eq_false_iff, decide_eq_false_iff_not, not_not] at same
    have whole := current same.1 same.2
    rw [← same.2]
    exact whole

theorem withCredentials_spec {answers : OpenAnswers} {state next : DiskState} {changed dirty : Bool}
    (drawn : withCredentials answers state changed = some (.ok (next, dirty)))
    (version : state.version = stateVersion)
    (together : state.userPrefix = "" ∨
      validPrefix state.userPrefix = true ∧ state.password ≠ "") :
    next.Complete ∧ (dirty = false → changed = false ∧ state.userPrefix ≠ "" ∧ next = state) := by
  unfold withCredentials at drawn
  split at drawn
  · split at drawn
    · cases drawn
    · cases drawn
    · rename_i userPrefix given
      split at drawn
      · cases drawn
      · rename_i password made
        cases drawn
        have valid := randomPrefix_valid given (Nat.zero_le _) (fun _ mem => by cases mem)
        exact ⟨⟨version, valid, randomPassword_ne_empty made⟩, fun same => by cases same⟩
  · rename_i present
    cases drawn
    rcases together with none | ⟨valid, password⟩
    · exact absurd none present
    · exact ⟨⟨version, valid, password⟩, fun same => ⟨same, present, rfl⟩⟩

/-- What holds of a state in memory and its file, as long as every write
succeeded. -/
structure Device.Sound (file : Option Document) (s : LocalProxyState) : Prop where
  complete : s.state.Complete
  same : s.file = s.state
  file : load file = .current s.state

namespace LocalProxyState

theorem opened_spec {this s : LocalProxyState} {changed : Bool} {file file' : Option Document}
    {answers : PortAnswers} (ok : this.opened changed file answers = (.ok s, file'))
    (complete : this.state.Complete) (same : this.file = this.state)
    (clean : changed = false → load file = .current this.state) : Device.Sound file' s := by
  unfold opened at ok
  split at ok
  · cases ok
  · rename_i port chosen
    dsimp only at ok
    split at ok
    · cases written : answers.write with
      | error e =>
        simp only [save, written] at ok
        cases ok
      | ok =>
        simp only [save, written] at ok
        cases ok
        have whole : DiskState.Complete { this.state with port := port } :=
          ⟨complete.version, complete.userPrefix, complete.password⟩
        exact ⟨whole, rfl, decode_encode whole⟩
    · rename_i unchanged
      cases ok
      have nothing : changed = false := by
        by_contra dirty
        exact unchanged (.inr (by simpa using dirty))
      exact ⟨complete, same, clean nothing⟩

theorem opened_error {this : LocalProxyState} {changed : Bool} {file file' : Option Document}
    {answers : PortAnswers} {e : Error} (error : this.opened changed file answers = (.error e, file')) :
    file' = file := by
  unfold opened at error
  split at error
  · cases error
    rfl
  · dsimp only at error
    split at error
    · split at error
      · cases error
        rfl
      · cases error
    · cases error

theorem openWith_spec {file file' : Option Document} {config : LocalProxyConfig} {port : UInt16}
    {answers : OpenAnswers} {s : LocalProxyState}
    (ok : openWith file config port answers = some (.ok s, file')) : Device.Sound file' s := by
  unfold openWith at ok
  split at ok
  · cases ok
  · split at ok
    · cases ok
    · cases ok
    · dsimp only at ok
      split at ok
      · cases ok
      · cases ok
      · rename_i state changed drawn
        obtain ⟨version, together, current⟩ := readState_spec (Prod.eta (readState file answers)).symm
        obtain ⟨complete, clean⟩ := withCredentials_spec drawn version together
        apply opened_spec (Option.some.inj ok) complete rfl
        intro unchanged
        obtain ⟨before, present, rfl⟩ := clean unchanged
        exact current before present

/-- A failed `open` leaves the file. -/
theorem openWith_error {file file' : Option Document} {config : LocalProxyConfig} {port : UInt16}
    {answers : OpenAnswers} {e : Error}
    (error : openWith file config port answers = some (.error e, file')) : file' = file := by
  unfold openWith at error
  split at error
  · cases error
    rfl
  · split at error
    · cases error
      rfl
    · cases error
      rfl
    · dsimp only at error
      split at error
      · cases error
      · cases error
        rfl
      · exact opened_error (Option.some.inj error)

/-- The port `system_proxy_port` settles on, before it is persisted. -/
def chooseSystemPort (s : LocalProxyState) (probe : Bool) (answers : PortAnswers) :
    Except Error UInt16 :=
  if s.state.systemProxyPort = 0 ∨ s.state.systemProxyPort = s.state.port ∨ probe = true then do
    let port ← choosePort answers.first s.listen s.systemCandidates
    if port = s.state.port then choosePort answers.second s.listen [] else return port
  else return s.state.systemProxyPort

theorem reconcilePort_eq (s : LocalProxyState) (answers : PortAnswers) :
    s.reconcilePort answers =
      match s.chooseLocalPort answers with
      | .error e => (.error e, s)
      | .ok port =>
        if port = s.state.port then (.ok none, s)
        else match answers.write with
          | .error e => (.error (ioError "write the state" e), { s with state.port := port })
          | .ok () =>
            (.ok (some port), { s with state.port := port, file := { s.state with port } }) := by
  unfold reconcilePort save
  cases s.chooseLocalPort answers with
  | error e => rfl
  | ok port =>
    dsimp only
    split
    · rfl
    · cases answers.write with
      | error e => rfl
      | ok => rfl

theorem systemProxyPort_eq (s : LocalProxyState) (probe : Bool) (answers : PortAnswers) :
    s.systemProxyPort probe answers =
      match s.chooseSystemPort probe answers with
      | .error e => (.error e, s)
      | .ok port =>
        if port = s.state.systemProxyPort then (.ok port, s)
        else match answers.write with
          | .error e => (.error (ioError "write the state" e), { s with state.systemProxyPort := port })
          | .ok () => (.ok port,
              { s with state.systemProxyPort := port, file := { s.state with systemProxyPort := port } }) := by
  have parts : s.systemProxyPort probe answers =
      match s.chooseSystemPort probe answers with
      | .error e => (.error e, s)
      | .ok port =>
        if port = s.state.systemProxyPort then (.ok port, s)
        else match ({ s with state.systemProxyPort := port } : LocalProxyState).save answers with
          | (.error e, s) => (.error e, s)
          | (.ok (), s) => (.ok port, s) := rfl
  rw [parts]
  unfold save
  cases s.chooseSystemPort probe answers with
  | error e => rfl
  | ok port =>
    dsimp only
    split
    · rfl
    · cases answers.write with
      | error e => rfl
      | ok => rfl

end LocalProxyState

/-! ## Written through -/

/-- A call that is written through: when it returns a value the file decodes to
the state in memory, when it fails memory is as it was, and a port it moved is
in the event it returns. -/
structure DeviceStep.Through (t : DeviceStep) : Prop where
  written : ∀ r, t.result = .ok r →
    ∃ s, t.after.memory = some s ∧ load t.after.file = .current s.state
  kept : ∀ e, t.result = .error e → t.after.memory = t.before.memory
  told : (∀ config port answers, t.call ≠ .open config port answers) →
    ∀ s s', t.before.memory = some s → t.after.memory = some s' → s'.state.port ≠ s.state.port →
      t.result = .ok (some s'.state.port)

/-- The write a call makes, when the port it settles on is not the one in
memory, succeeds. -/
def DeviceCall.Writes (d : Device) : DeviceCall → Prop
  | .open _ _ _ => True
  | .reconcilePort answers => ∀ s port, d.memory = some s → s.chooseLocalPort answers = .ok port →
      port ≠ s.state.port → answers.write = .ok ()
  | .systemProxyPort probe answers => ∀ s port, d.memory = some s →
      s.chooseSystemPort probe answers = .ok port → port ≠ s.state.systemProxyPort →
      answers.write = .ok ()

def Device.Kept (d : Device) : Prop := ∀ s, d.memory = some s → Device.Sound d.file s

/-- A call that changed nothing. -/
theorem Device.Kept.same {d : Device} {s : LocalProxyState} (kept : d.Kept) (memory : d.memory = some s) :
    Device.Kept { file := Device.wrote d.file s s, memory := some s } ∧
      load (Device.wrote d.file s s) = .current s.state := by
  have file : Device.wrote d.file s s = d.file := if_pos rfl
  rw [file]
  refine ⟨?_, (kept s memory).file⟩
  intro s' same
  cases same
  exact kept s memory

/-- A call whose write succeeded: the file holds what memory does. -/
theorem Device.Kept.saved {d : Device} {s : LocalProxyState} (kept : d.Kept)
    (memory : d.memory = some s) (s' : LocalProxyState) (complete : s'.state.Complete) (same : s'.file = s'.state) :
    Device.Kept { file := Device.wrote d.file s s', memory := some s' } ∧
      load (Device.wrote d.file s s') = .current s'.state := by
  have sound := kept s memory
  have loaded : load (Device.wrote d.file s s') = .current s'.state := by
    unfold Device.wrote
    split
    · rename_i unchanged
      rw [sound.file, ← sound.same, ← unchanged, same]
    · rw [same]
      exact decode_encode complete
  refine ⟨?_, loaded⟩
  intro s'' eq
  cases eq
  exact ⟨complete, same, loaded⟩

theorem DeviceStep.Through.unmoved {t : DeviceStep} (memory : t.after.memory = t.before.memory)
    (written : ∀ r, t.result = .ok r →
      ∃ s, t.after.memory = some s ∧ load t.after.file = .current s.state) : t.Through where
  written := written
  kept _ _ := memory
  told := by
    intro _ s s' before after moved
    rw [memory, before] at after
    cases after
    exact absurd rfl moved

theorem DeviceCall.open_through {d d' : Device} {config : LocalProxyConfig} {port : UInt16}
    {answers : OpenAnswers} {result : DeviceCall.Result}
    (run : (DeviceCall.open config port answers).run d = some (result, d')) (kept : d.Kept) :
    DeviceStep.Through ⟨d, .open config port answers, result, d'⟩ ∧ d'.Kept := by
  simp only [DeviceCall.run] at run
  split at run
  · cases run
  · rename_i e file failed
    cases run
    have same := LocalProxyState.openWith_error failed
    subst same
    refine ⟨.unmoved rfl ?_, kept⟩
    intro _ ok
    cases ok
  · rename_i s file ok
    cases run
    have sound := LocalProxyState.openWith_spec ok
    constructor
    · constructor
      · exact fun _ _ => ⟨s, rfl, sound.file⟩
      · intro _ error
        cases error
      · exact fun other => absurd rfl (other _ _ _)
    · intro s' same
      cases same
      exact sound

theorem DeviceCall.reconcilePort_through {d d' : Device} {answers : PortAnswers}
    {result : DeviceCall.Result} (run : (DeviceCall.reconcilePort answers).run d = some (result, d'))
    (kept : d.Kept) (writes : (DeviceCall.reconcilePort answers).Writes d) :
    DeviceStep.Through ⟨d, .reconcilePort answers, result, d'⟩ ∧ d'.Kept := by
  obtain ⟨s, memory, ran⟩ := Option.map_eq_some_iff.1 run
  rw [LocalProxyState.reconcilePort_eq] at ran
  have complete := (kept s memory).complete
  have unmoved := kept.same memory
  cases chosen : s.chooseLocalPort answers with
  | error e =>
    simp only [chosen] at ran
    cases ran
    refine ⟨.unmoved memory.symm ?_, unmoved.1⟩
    intro _ ok
    cases ok
  | ok port =>
    simp only [chosen] at ran
    by_cases same : port = s.state.port
    · simp only [if_pos same] at ran
      cases ran
      exact ⟨.unmoved memory.symm fun _ _ => ⟨s, rfl, unmoved.2⟩, unmoved.1⟩
    · simp only [if_neg same, writes s port memory chosen same] at ran
      cases ran
      have complete : DiskState.Complete { s.state with port := port } :=
        ⟨complete.version, complete.userPrefix, complete.password⟩
      have saved := kept.saved memory
        { s with state.port := port, file := { s.state with port } } complete rfl
      refine ⟨?_, saved.1⟩
      constructor
      · exact fun _ _ => ⟨_, rfl, saved.2⟩
      · intro _ error
        cases error
      · intro _ a b _ after _
        cases after
        rfl

theorem DeviceCall.systemProxyPort_through {d d' : Device} {probe : Bool} {answers : PortAnswers}
    {result : DeviceCall.Result}
    (run : (DeviceCall.systemProxyPort probe answers).run d = some (result, d'))
    (kept : d.Kept) (writes : (DeviceCall.systemProxyPort probe answers).Writes d) :
    DeviceStep.Through ⟨d, .systemProxyPort probe answers, result, d'⟩ ∧ d'.Kept := by
  obtain ⟨s, memory, ran⟩ := Option.map_eq_some_iff.1 run
  rw [LocalProxyState.systemProxyPort_eq] at ran
  have complete := (kept s memory).complete
  have unmoved := kept.same memory
  cases chosen : s.chooseSystemPort probe answers with
  | error e =>
    simp only [chosen] at ran
    cases ran
    refine ⟨.unmoved memory.symm ?_, unmoved.1⟩
    intro _ ok
    cases ok
  | ok port =>
    simp only [chosen] at ran
    by_cases same : port = s.state.systemProxyPort
    · simp only [if_pos same] at ran
      cases ran
      exact ⟨.unmoved memory.symm fun _ _ => ⟨s, rfl, unmoved.2⟩, unmoved.1⟩
    · simp only [if_neg same, writes s port memory chosen same] at ran
      cases ran
      have complete : DiskState.Complete { s.state with systemProxyPort := port } :=
        ⟨complete.version, complete.userPrefix, complete.password⟩
      have saved := kept.saved memory
        { s with
          state.systemProxyPort := port
          file := { s.state with systemProxyPort := port } } complete rfl
      refine ⟨?_, saved.1⟩
      constructor
      · exact fun _ _ => ⟨_, rfl, saved.2⟩
      · intro _ error
        cases error
      · -- the shared port is not the one chosen here
        intro _ a b before after moved
        cases after
        rw [memory] at before
        cases before
        exact absurd rfl moved

theorem DeviceCall.run_through {d d' : Device} {call : DeviceCall} {result : DeviceCall.Result}
    (run : call.run d = some (result, d')) (kept : d.Kept) (writes : call.Writes d) :
    DeviceStep.Through ⟨d, call, result, d'⟩ ∧ d'.Kept := by
  cases call with
  | «open» config port answers => exact DeviceCall.open_through run kept
  | reconcilePort answers => exact DeviceCall.reconcilePort_through run kept writes
  | systemProxyPort probe answers => exact DeviceCall.systemProxyPort_through run kept writes

/-- The port is assigned in memory before the write: where that fails, the call
fails and memory has moved. -/
theorem DeviceCall.not_through {d d' : Device} {call : DeviceCall} {result : DeviceCall.Result}
    (run : call.run d = some (result, d')) (unwritten : ¬ call.Writes d) :
    ¬ DeviceStep.Through ⟨d, call, result, d'⟩ := by
  intro through
  cases call with
  | «open» config port answers => exact unwritten trivial
  | reconcilePort answers =>
    simp only [DeviceCall.Writes, not_forall] at unwritten
    obtain ⟨s, port, memory, chosen, moved, failed⟩ := unwritten
    simp only [DeviceCall.run, memory, Option.map_some] at run
    cases write : answers.write with
    | ok => exact failed write
    | error e =>
      simp only [LocalProxyState.reconcilePort_eq, chosen, if_neg moved, write] at run
      cases run
      have same := through.kept _ rfl
      simp only [memory, Option.some.injEq] at same
      exact moved (congrArg (fun s => s.state.port) same)
  | systemProxyPort probe answers =>
    simp only [DeviceCall.Writes, not_forall] at unwritten
    obtain ⟨s, port, memory, chosen, moved, failed⟩ := unwritten
    simp only [DeviceCall.run, memory, Option.map_some] at run
    cases write : answers.write with
    | ok => exact failed write
    | error e =>
      simp only [LocalProxyState.systemProxyPort_eq, chosen, if_neg moved, write] at run
      cases run
      have same := through.kept _ rfl
      simp only [memory, Option.some.injEq] at same
      exact moved (congrArg (fun s => s.state.systemProxyPort) same)

theorem Device.steps_through {d : Device} (kept : d.Kept) (calls : List DeviceCall) :
    (∀ t ∈ d.steps calls, t.Through) ↔ ∀ t ∈ d.steps calls, t.call.Writes t.before := by
  induction calls generalizing d with
  | nil => simp [Device.steps]
  | cons call calls ih =>
    unfold Device.steps
    cases run : call.run d with
    | none => simp
    | some ran =>
      obtain ⟨result, after⟩ := ran
      simp only [List.forall_mem_cons]
      by_cases writes : call.Writes d
      · obtain ⟨through, kept'⟩ := DeviceCall.run_through run kept writes
        rw [ih kept']
        simp only [through, writes, true_and]
      · have not := DeviceCall.not_through run writes
        simp only [not, writes, false_and]

/-- Over any run of calls, from any state file: every call is written through
exactly when every write that a call makes for a port it moved succeeds. -/
theorem device_through_iff (file : Option Document) (calls : List DeviceCall) :
    (∀ t ∈ Device.steps { file } calls, t.Through) ↔
      ∀ t ∈ Device.steps { file } calls, t.call.Writes t.before :=
  Device.steps_through (fun _ memory => by cases memory) calls

/-! ## A write that fails -/

/-- A machine on which everything works, and 7890 is free. -/
def freshAnswers : OpenAnswers where
  directory := .ok ()
  read := .ok ()
  isPrivate := true
  buffers := [.ok (List.replicate 16 0)]
  password := .ok (Vector.replicate 32 0)
  ports := ⟨⟨fun _ _ => true, .ok 50000⟩, ⟨fun _ _ => true, .ok 50001⟩, .ok ()⟩

/-- 7890 is taken meanwhile and the disk is full. -/
def fullAnswers : PortAnswers :=
  ⟨⟨fun _ _ => false, .ok 50000⟩, ⟨fun _ _ => false, .ok 50001⟩,
    .error ⟨false, "No space left on device"⟩⟩

def openedDevice : Device :=
  let state : DiskState :=
    ⟨2, String.ofList (List.replicate 5 'a'), String.ofList (base64 (List.replicate 32 0)), 7890, 0⟩
  { file := some (encode state), memory := some ⟨loopback, 7890, 7891, state, state⟩ }

theorem open_fresh :
    (DeviceCall.open {} systemProxyPreferredPort freshAnswers).run { file := none } =
      some (.ok none, openedDevice) := by
  rfl

theorem device_not_through :
    ¬ ∀ t ∈ Device.steps { file := none }
        [.open {} systemProxyPreferredPort freshAnswers, .reconcilePort fullAnswers], t.Through := by
  have ran : ∃ result after, (DeviceCall.reconcilePort fullAnswers).run openedDevice =
      some (result, after) := ⟨_, _, rfl⟩
  obtain ⟨result, after, ran⟩ := ran
  rw [Device.steps_through (fun _ memory => by cases memory)]
  simp only [Device.steps, open_fresh, ran, List.forall_mem_cons]
  intro writes
  have failed := writes.2.1 _ 50000 rfl rfl (by decide)
  cases failed

end PpvpnCore
