import PpvpnCore.Lib.Fields
import PpvpnCore.Lib.Numerals

/-!
The WinINet settings as registry values (`wininet::apply`, `wininet::restore` and
the Windows `OsWriter` in `desktop/src/sysproxy.rs`).

`apply` and `restore` are sequences of steps given to an executor. Here that is
`reg add` and `reg delete` on three optional values: a delete fails when the value
is absent, and a set of calls may fail besides.

* `restored_values`, `restored_ok`: what a restore leaves, and when it succeeds.
* `givesBack_iff`: a restore without faults gives everything back just when each
  value that was absent is there to be deleted.
* `switched_on_and_back`: when the proxy is never on over a mix and each restore
  gives back what was saved.
-/

namespace PpvpnCore.Desktop.Registry

open Lib

/-! ## Steps -/

/-- The text values. -/
inductive Name where
  | proxyServer | proxyOverride
  deriving DecidableEq

inductive Step where
  /-- Of `ProxyEnable`. -/
  | dword (data : String)
  | sz (name : Name) (data : String)
  | delete (name : Name)
  | notify

/-- `{ProxyEnable, ProxyServer, ProxyOverride}`, each the data as queried. -/
structure Snapshot where
  proxyEnable : Option String
  text : Name → Option String

/-- Loopback, `.local`, the private ranges as wildcards, and plain host names. -/
def overrideList : String :=
  ";".intercalate
    (["localhost", "127.*", "[::1]", "*.local", "10.*", "192.168.*"] ++
      (List.range 16).map (fun n => "172." ++ toString (n + 16) ++ ".*") ++ ["<local>"])

def serverData (host : String) (port : UInt16) : String := host ++ ":" ++ toString port

section Exec

variable {ε σ : Type} (exec : Step → σ → Except ε Unit × σ)

/-- Up to the first failure. -/
def tryForEach : List Step → σ → Except ε Unit × σ
  | [], s => (.ok (), s)
  | step :: steps, s =>
    match exec step s with
    | (.ok (), s) => tryForEach steps s
    | (.error e, s) => (.error e, s)

/-- Off before the server and the bypass list change, on once both are ours. -/
def apply (host : String) (port : UInt16) (s : σ) : Except ε Unit × σ :=
  let (result, s) := tryForEach exec
    [.dword "0", .sz .proxyServer (serverData host port), .sz .proxyOverride overrideList,
      .dword "1"] s
  let (notified, s) := exec .notify s
  (result.bind fun _ => notified, s)

/-- A step of `restore`: whether it succeeded, with the first error so far. -/
def run (step : Step) (r : Option ε × σ) : Bool × Option ε × σ :=
  match exec step r.2 with
  | (.ok (), s) => (true, r.1, s)
  | (.error e, s) => (false, r.1.or (some e), s)

/-- `u32::from_str_radix`. -/
def u32FromStrRadix (radix : Nat) (cs : List Char) : Option Nat :=
  let digits := match cs with
    | '+' :: rest => rest
    | cs => cs
  (readNumeral radix digits).filter (· < 2 ^ 32)

/-- `reg query` prints DWORDs as `0x…`, `reg add` wants decimal. -/
def enableData : Option String → String
  | none => "0"
  | some data =>
    match data.toList with
    | '0' :: 'x' :: hex => ((u32FromStrRadix 16 hex).map toString).getD data
    | _ => data

def back (saved : Snapshot) (name : Name) : Step :=
  match saved.text name with
  | some data => .sz name data
  | none => .delete name

/-- Every step is tried; the proxy is left off when the server or the bypass
list could not be put back. -/
def restore (saved : Snapshot) (s : σ) : Except ε Unit × σ :=
  let (_, r) := run exec (.dword "0") (none, s)
  let (server, r) := run exec (back saved .proxyServer) r
  let (bypass, r) := run exec (back saved .proxyOverride) r
  let r := if server && bypass then (run exec (.dword (enableData saved.proxyEnable)) r).2 else r
  let (_, r) := run exec .notify r
  (r.1.elim (.ok ()) .error, r.2)

end Exec

/-! ## The registry -/

/-- The values under `Internet Settings`. -/
structure Values where
  proxyEnable : Option UInt32
  text : Name → Option String

/-- What `reg query` prints of them. -/
def Values.snapshot (v : Values) : Snapshot where
  proxyEnable := v.proxyEnable.map fun n => "0x" ++ String.ofList (Nat.toDigits 16 n.toNat)
  text := v.text

/-- The data of a `REG_DWORD`, as `reg add` reads it. -/
def dwordData (data : String) : Option UInt32 :=
  (u32FromStrRadix 10 data.toList).map UInt32.ofNat

/-- What a step does; nothing when it is refused. -/
def Step.effect (v : Values) : Step → Option Values
  | .dword data => (dwordData data).map fun n => { v with proxyEnable := some n }
  | .sz name data => some { v with text := Function.update v.text name (some data) }
  | .delete name =>
    if v.text name = none then none
    else some { v with text := Function.update v.text name none }
  | .notify => some v

/-- The values, and how many steps were given to the executor. -/
structure Os where
  values : Values
  calls : Nat := 0

/-- The calls in `fails` fail without effect. -/
def exec (fails : Nat → Bool) (step : Step) (os : Os) : Except Unit Unit × Os :=
  if fails os.calls then (.error (), { os with calls := os.calls + 1 })
  else
    match step.effect os.values with
    | some values => (.ok (), { values, calls := os.calls + 1 })
    | none => (.error (), { os with calls := os.calls + 1 })

def applied (fails : Nat → Bool) (host : String) (port : UInt16) (start : Values) :
    Except Unit Unit × Values :=
  let (result, os) := apply (exec fails) host port { values := start }
  (result, os.values)

def restored (fails : Nat → Bool) (saved start : Values) : Except Unit Unit × Values :=
  let (result, os) := restore (exec fails) saved.snapshot { values := start }
  (result, os.values)

/-! ## What is wanted of them -/

def Values.On (v : Values) : Prop := ∃ n, v.proxyEnable = some n ∧ n ≠ 0

/-- The server and the bypass list of `apply`. -/
def ours (host : String) (port : UInt16) : Name → Option String
  | .proxyServer => some (serverData host port)
  | .proxyOverride => some overrideList

/-- Not a mix of ours and the saved ones, nor anything else. -/
def Whole (saved : Values) (host : String) (port : UInt16) (text : Name → Option String) : Prop :=
  text = ours host port ∨ text = saved.text

def Safe (saved : Values) (host : String) (port : UInt16) (v : Values) : Prop :=
  v.On → Whole saved host port v.text

/-- A restore that succeeded and gave everything back. -/
def GivesBack (saved : Values) (end_ : Except Unit Unit × Values) : Prop :=
  end_.1 = .ok () ∧ end_.2.text = saved.text ∧
    end_.2.proxyEnable = some (saved.proxyEnable.getD 0)

/-! ## Data of a DWORD -/

theorem u32FromStrRadix_toDigits {radix n : Nat} (two : 1 < radix) (sixteen : radix ≤ 16)
    (small : n < 2 ^ 32) : u32FromStrRadix radix (Nat.toDigits radix n) = some n := by
  have unsigned : ∀ rest, Nat.toDigits radix n ≠ '+' :: rest := by
    intro rest eq
    have absent := absent_toDigits two sixteen n (c := '+') (by decide)
    rw [eq] at absent
    exact absent List.mem_cons_self
  unfold u32FromStrRadix
  split
  next rest eq => exact absurd eq (unsigned rest)
  next =>
    dsimp only
    rw [readNumeral_toDigits two sixteen, Option.filter_some, if_pos (by simpa using small)]

theorem dwordData_toString {n : Nat} (small : n < 2 ^ 32) :
    dwordData (toString n) = some (UInt32.ofNat n) := by
  unfold dwordData
  rw [show (toString n).toList = Nat.toDigits 10 n by simp [toString, Nat.repr],
    u32FromStrRadix_toDigits (by omega) (by omega) small]
  rfl

/-- The saved data is written back as the value it was queried from. -/
theorem dwordData_enableData (v : Values) :
    dwordData (enableData v.snapshot.proxyEnable) = some (v.proxyEnable.getD 0) := by
  cases enable : v.proxyEnable with
  | none => simp only [Values.snapshot, enable, Option.map_none]; decide
  | some n =>
    have small : n.toNat < 2 ^ 32 := n.toNat_lt
    have data : enableData v.snapshot.proxyEnable = toString n.toNat := by
      simp only [Values.snapshot, enable, Option.map_some, enableData, String.toList_append,
        String.toList_ofList]
      rw [show "0x".toList = ['0', 'x'] by decide]
      simp only [List.cons_append, List.nil_append]
      rw [u32FromStrRadix_toDigits (by omega) (by omega) small]
      rfl
    rw [data, dwordData_toString small]
    simp

/-! ## One call -/

/-- What the `n`th call leaves; none when it fails. -/
def attempt (fails : Nat → Bool) (n : Nat) (step : Step) (v : Values) : Option Values :=
  if fails n then none else step.effect v

variable {fails : Nat → Bool} {saved start v : Values} {host : String} {port : UInt16}

theorem exec_eq (fails : Nat → Bool) (step : Step) (v : Values) (n : Nat) :
    exec fails step ⟨v, n⟩ = (if (attempt fails n step v).isSome then .ok () else .error (),
      ⟨(attempt fails n step v).getD v, n + 1⟩) := by
  unfold exec attempt
  by_cases fault : fails n
  · simp [fault]
  · simp only [fault]
    cases step.effect v <;> rfl

theorem run_eq (fails : Nat → Bool) (step : Step) (v : Values) (n : Nat) (e : Option Unit) :
    run (exec fails) step (e, ⟨v, n⟩) = ((attempt fails n step v).isSome,
      if (attempt fails n step v).isSome then e else e.or (some ()),
      ⟨(attempt fails n step v).getD v, n + 1⟩) := by
  unfold run
  rw [exec_eq]
  cases attempt fails n step v <;> rfl

theorem attempt_dword {data : String} {value : UInt32} (read : dwordData data = some value) (n : Nat) :
    attempt fails n (.dword data) v =
      if fails n then none else some { v with proxyEnable := some value } := by
  unfold attempt
  rw [show (Step.dword data).effect v = (dwordData data).map fun n => { v with proxyEnable := some n }
    from rfl, read]
  rfl

theorem attempt_off (n : Nat) : attempt fails n (.dword "0") v =
    if fails n then none else some { v with proxyEnable := some 0 } :=
  attempt_dword (by decide) n

/-- Where `restore` puts the value back. -/
def Name.call : Name → Nat
  | .proxyServer => 1
  | .proxyOverride => 2

/-- Putting a value back works unless it fails or there is nothing to delete. -/
theorem attempt_back_isSome (n : Nat) (name : Name) :
    (attempt fails n (back saved.snapshot name) v).isSome ↔
      fails n = false ∧ (saved.text name = none → v.text name ≠ none) := by
  unfold attempt back
  by_cases fault : fails n
  · simp [fault]
  · rw [show saved.snapshot.text = saved.text from rfl]
    cases data : saved.text name with
    | some data => simp [fault, Step.effect]
    | none => by_cases absent : v.text name = none <;> simp [fault, Step.effect, absent]

/-- A delete that fails as the value is absent leaves what is saved. -/
theorem attempt_back_getD (n : Nat) (name : Name) :
    (attempt fails n (back saved.snapshot name) v).getD v =
      { v with
        text := Function.update v.text name
          (if fails n then v.text name else saved.text name) } := by
  unfold attempt back
  by_cases fault : fails n
  · simp [fault]
  · rw [show saved.snapshot.text = saved.text from rfl]
    cases data : saved.text name with
    | some data => simp [fault, Step.effect]
    | none =>
      by_cases absent : v.text name = none
      · have same : Function.update v.text name none = v.text := by rw [← absent, Function.update_eq_self]
        simp [fault, Step.effect, absent, same]
      · simp [fault, Step.effect, absent]

/-! ## A restore -/

/-- Every value can be put back: no call fails, and what is to be deleted is
there. -/
def PutBack (fails : Nat → Bool) (saved start : Values) : Prop :=
  ∀ name : Name, fails name.call = false ∧ (saved.text name = none → start.text name ≠ none)

/-- The texts after a restore. -/
def leftText (fails : Nat → Bool) (saved start : Values) (name : Name) : Option String :=
  if fails name.call then start.text name else saved.text name

/-- `ProxyEnable` once a restore tried to switch it off. -/
def leftOff (fails : Nat → Bool) (start : Values) : Option UInt32 :=
  if fails 0 then start.proxyEnable else some 0

theorem putBack_iff : PutBack fails saved start ↔
    (fails 1 = false ∧ (saved.text .proxyServer = none → start.text .proxyServer ≠ none)) ∧
      fails 2 = false ∧ (saved.text .proxyOverride = none → start.text .proxyOverride ≠ none) := by
  constructor
  · exact fun all => ⟨all .proxyServer, all .proxyOverride⟩
  · intro both name
    cases name with
    | proxyServer => exact both.1
    | proxyOverride => exact both.2

theorem leftOff_eq : (attempt fails 0 (.dword "0") start).getD start =
    { proxyEnable := leftOff fails start, text := start.text } := by
  rw [attempt_off]
  unfold leftOff
  cases fails 0 <;> rfl

/-- The server and then the bypass list. -/
theorem leftText_eq : Function.update
    (Function.update start.text .proxyServer
      (if fails 1 then start.text .proxyServer else saved.text .proxyServer)) .proxyOverride
    (if fails 2 then start.text .proxyOverride else saved.text .proxyOverride) =
      leftText fails saved start := by
  funext name
  cases name <;> rfl

/-- What a restore leaves, and whether it succeeds. -/
theorem restored_eq (fails : Nat → Bool) (saved start : Values) :
    (PutBack fails saved start →
      restored fails saved start =
        (if fails 0 || fails 3 || fails 4 then .error () else .ok (),
          { proxyEnable :=
              if fails 3 then leftOff fails start else some (saved.proxyEnable.getD 0)
            text := leftText fails saved start })) ∧
    (¬ PutBack fails saved start →
      restored fails saved start =
        (.error (), { proxyEnable := leftOff fails start, text := leftText fails saved start })) := by
  have server : (attempt fails 1 (back saved.snapshot .proxyServer)
      ⟨leftOff fails start, start.text⟩).isSome ↔ fails 1 = false ∧
        (saved.text .proxyServer = none → start.text .proxyServer ≠ none) :=
    attempt_back_isSome 1 .proxyServer
  have bypass : (attempt fails 2 (back saved.snapshot .proxyOverride)
      ⟨leftOff fails start, Function.update start.text .proxyServer
        (if fails 1 then start.text .proxyServer else saved.text .proxyServer)⟩).isSome ↔
      fails 2 = false ∧ (saved.text .proxyOverride = none → start.text .proxyOverride ≠ none) :=
    attempt_back_isSome 2 .proxyOverride
  have bypassLeft : (attempt fails 2 (back saved.snapshot .proxyOverride)
      ⟨leftOff fails start, Function.update start.text .proxyServer
        (if fails 1 then start.text .proxyServer else saved.text .proxyServer)⟩).getD
      ⟨leftOff fails start, Function.update start.text .proxyServer
        (if fails 1 then start.text .proxyServer else saved.text .proxyServer)⟩ =
      ⟨leftOff fails start, leftText fails saved start⟩ := by
    rw [attempt_back_getD, ← leftText_eq]
    rfl
  have enable : attempt fails 3 (.dword (enableData saved.snapshot.proxyEnable))
      ⟨leftOff fails start, leftText fails saved start⟩ =
        if fails 3 then none
        else some ⟨some (saved.proxyEnable.getD 0), leftText fails saved start⟩ :=
    attempt_dword (dwordData_enableData saved) 3
  have notify : ∀ n v, attempt fails n .notify v = if fails n then none else some v := fun _ _ => rfl
  rw [putBack_iff, ← server, ← bypass]
  unfold restored restore
  simp only [run_eq, leftOff_eq]
  rw [attempt_back_getD]
  simp only [bypassLeft]
  constructor
  · rintro ⟨one, two⟩
    simp only [one, two, Bool.and_self, if_true, run_eq, enable, notify, attempt_off]
    cases fails 0 <;> cases fails 3 <;> cases fails 4 <;> rfl
  · intro notBoth
    generalize (attempt fails 1 (back saved.snapshot .proxyServer) _).isSome = one at notBoth ⊢
    generalize (attempt fails 2 (back saved.snapshot .proxyOverride) _).isSome = two at notBoth ⊢
    have left : (one && two) = false := by rwa [← Bool.not_eq_true, Bool.and_eq_true]
    simp only [left, Bool.false_eq_true, if_false, run_eq, notify, attempt_off]
    cases one
    · cases fails 0 <;> cases two <;> cases fails 3 <;> rfl
    · cases two
      · cases fails 0 <;> cases fails 3 <;> rfl
      · cases left

/-- A restore in which nothing fails gives everything back just when each value
that was absent is there to be deleted. -/
theorem givesBack_iff : GivesBack saved (restored (fun _ => false) saved start) ↔
    ∀ name, saved.text name = none → start.text name ≠ none := by
  have text : leftText (fun _ => false) saved start = saved.text := by
    funext name
    rfl
  constructor
  · rintro ⟨ok, -⟩
    by_contra missing
    have stuck : ¬ PutBack (fun _ => false) saved start := fun all => missing fun name => (all name).2
    rw [(restored_eq _ saved start).2 stuck] at ok
    cases ok
  · intro there
    have all : PutBack (fun _ => false) saved start := fun name => ⟨rfl, there name⟩
    rw [(restored_eq _ saved start).1 all]
    exact ⟨rfl, text, rfl⟩

/-- Something failed in a restore. -/
def Disturbed (fails : Nat → Bool) (saved start : Values) : Prop :=
  (∃ n < 5, fails n = true) ∨ ∃ name, saved.text name = none ∧ start.text name = none

theorem restored_failed : (restored fails saved start).1 ≠ .ok () ↔ Disturbed fails saved start := by
  by_cases all : PutBack fails saved start
  · rw [(restored_eq fails saved start).1 all]
    constructor
    · intro failed
      refine .inl ?_
      by_contra quiet
      refine failed (if_neg ?_)
      intro fault
      rw [Bool.or_eq_true, Bool.or_eq_true] at fault
      rcases fault with (zero | three) | four
      · exact quiet ⟨0, by omega, zero⟩
      · exact quiet ⟨3, by omega, three⟩
      · exact quiet ⟨4, by omega, four⟩
    · rintro (⟨n, small, fault⟩ | ⟨name, saved, start⟩) ok
      · have one : fails 1 = false := (all .proxyServer).1
        have two : fails 2 = false := (all .proxyOverride).1
        have others : n = 0 ∨ n = 3 ∨ n = 4 := by
          have first : n ≠ 1 := by
            rintro rfl
            rw [one] at fault
            cases fault
          have second : n ≠ 2 := by
            rintro rfl
            rw [two] at fault
            cases fault
          omega
        rcases others with rfl | rfl | rfl <;> simp [fault] at ok
      · exact (all name).2 saved start
  · rw [(restored_eq fails saved start).2 all]
    refine iff_of_true (fun h => by cases h) ?_
    by_contra quiet
    refine all fun name => ⟨?_, fun saved start => quiet (.inr ⟨name, saved, start⟩)⟩
    by_contra fault
    rw [Bool.not_eq_false] at fault
    refine quiet (.inl ⟨name.call, ?_, fault⟩)
    cases name <;> decide

/-! ## Applying -/

/-- Whether `apply` comes as far as to change the value. -/
def Reached (fails : Nat → Bool) (name : Name) : Prop := ∀ n ≤ name.call, fails n = false

instance Reached.decidable (fails : Nat → Bool) (name : Name) : Decidable (Reached fails name) :=
  inferInstanceAs (Decidable (∀ n ≤ name.call, fails n = false))

theorem attempt_sz (n : Nat) (name : Name) (data : String) : attempt fails n (.sz name data) v =
    if fails n then none else some { v with text := Function.update v.text name (some data) } := rfl

theorem reached_server : Reached fails .proxyServer ↔ fails 0 = false ∧ fails 1 = false := by
  constructor
  · exact fun all => ⟨all 0 (by decide), all 1 (by decide)⟩
  · rintro ⟨zero, one⟩ n low
    have low : n ≤ 1 := low
    obtain rfl | rfl : n = 0 ∨ n = 1 := by omega
    · exact zero
    · exact one

theorem reached_override : Reached fails .proxyOverride ↔
    fails 0 = false ∧ fails 1 = false ∧ fails 2 = false := by
  constructor
  · exact fun all => ⟨all 0 (by decide), all 1 (by decide), all 2 (by decide)⟩
  · rintro ⟨zero, one, two⟩ n low
    have low : n ≤ 2 := low
    obtain rfl | rfl | rfl : n = 0 ∨ n = 1 ∨ n = 2 := by omega
    · exact zero
    · exact one
    · exact two

/-- The notification changes nothing. -/
theorem exec_notify (fails : Nat → Bool) (os : Os) : (exec fails .notify os).2.values = os.values := by
  unfold exec
  split <;> rfl

theorem tryForEach_nil (os : Os) : tryForEach (exec fails) [] os = (.ok (), os) := rfl

theorem tryForEach_cons (step : Step) (steps : List Step) (v : Values) (n : Nat) :
    tryForEach (exec fails) (step :: steps) ⟨v, n⟩ =
      (attempt fails n step v).elim (.error (), ⟨v, n + 1⟩) fun v' =>
        tryForEach (exec fails) steps ⟨v', n + 1⟩ := by
  rw [tryForEach, exec_eq]
  cases attempt fails n step v <;> rfl

/-- What `apply` leaves. -/
theorem applied_eq (fails : Nat → Bool) (host : String) (port : UInt16) (start : Values) :
    (applied fails host port start).2 =
      { proxyEnable :=
          if fails 0 then start.proxyEnable
          else if fails 1 || fails 2 || fails 3 then some 0 else some 1
        text := fun name =>
          if Reached fails name then ours host port name else start.text name } := by
  have on : ∀ n v, attempt fails n (.dword "1") v =
      if fails n then none else some { v with proxyEnable := some 1 } := by
    intro n v
    exact attempt_dword (by decide) n
  unfold applied apply
  dsimp only
  rw [exec_notify]
  simp only [tryForEach_cons, attempt_off, attempt_sz, on, tryForEach_nil]
  cases zero : fails 0
  · cases one : fails 1
    · cases two : fails 2
      · have text : (fun name => if Reached fails name then ours host port name else start.text name) =
            ours host port := by
          funext name
          cases name with
          | proxyServer => exact if_pos (reached_server.2 ⟨zero, one⟩)
          | proxyOverride => exact if_pos (reached_override.2 ⟨zero, one, two⟩)
        have set : Function.update (Function.update start.text .proxyServer
            (some (serverData host port))) .proxyOverride (some overrideList) = ours host port := by
          funext name
          cases name <;> rfl
        cases three : fails 3 <;> simp [text, set]
      · have text : (fun name => if Reached fails name then ours host port name else start.text name) =
            Function.update start.text .proxyServer (some (serverData host port)) := by
          funext name
          cases name with
          | proxyServer => exact if_pos (reached_server.2 ⟨zero, one⟩)
          | proxyOverride =>
            refine if_neg fun reached => ?_
            rw [(reached_override.1 reached).2.2] at two
            cases two
        simp [text]
    · have text : (fun name => if Reached fails name then ours host port name else start.text name) =
          start.text := by
        funext name
        refine if_neg fun reached => ?_
        have early : fails 1 = false := reached 1 (by cases name <;> decide)
        rw [early] at one
        cases one
      simp [text]
  · have text : (fun name => if Reached fails name then ours host port name else start.text name) =
        start.text := by
      funext name
      refine if_neg fun reached => ?_
      rw [reached 0 (Nat.zero_le _)] at zero
      cases zero
    simp [text]

/-! ## Never on over a mix, and given back -/

theorem safe_off (enable : v.proxyEnable = some 0) : Safe saved host port v := by
  rintro ⟨n, on, nonzero⟩
  rw [enable] at on
  cases on
  exact absurd rfl nonzero

theorem safe_applied : Safe saved host port (applied fails host port start).2 ↔
    (fails 0 = true → Safe saved host port start) := by
  rw [applied_eq]
  cases zero : fails 0 with
  | true =>
    have text : (fun name => if Reached fails name then ours host port name else start.text name) =
        start.text := by
      funext name
      refine if_neg fun reached => ?_
      rw [reached 0 (Nat.zero_le _)] at zero
      cases zero
    simp [text]
  | false =>
    simp only [Bool.false_eq_true, if_false, false_implies, iff_true]
    cases failed : fails 1 || fails 2 || fails 3 with
    | true => exact safe_off rfl
    | false =>
      -- switched on, over both of ours
      intro _
      rw [Bool.or_eq_false_iff, Bool.or_eq_false_iff] at failed
      obtain ⟨⟨one, two⟩, -⟩ := failed
      refine .inl (funext fun name => ?_)
      cases name with
      | proxyServer => exact if_pos (reached_server.2 ⟨zero, one⟩)
      | proxyOverride => exact if_pos (reached_override.2 ⟨zero, one, two⟩)

theorem leftText_of_putBack (all : PutBack fails saved start) :
    leftText fails saved start = saved.text := by
  funext name
  unfold leftText
  rw [(all name).1]
  rfl

theorem safe_restored : Safe saved host port (restored fails saved start).2 ↔
    (fails 0 = true → start.On → Whole saved host port (leftText fails saved start)) := by
  -- the values of a mix are only left on where switching off failed
  have kept : Safe saved host port ⟨leftOff fails start, leftText fails saved start⟩ ↔
      (fails 0 = true → start.On → Whole saved host port (leftText fails saved start)) := by
    cases zero : fails 0 with
    | true => simp [Safe, Values.On, leftOff, zero]
    | false =>
      refine iff_of_true (safe_off ?_) (fun h => by cases h)
      unfold leftOff
      rw [zero]
      rfl
  by_cases all : PutBack fails saved start
  · have whole : Whole saved host port (leftText fails saved start) := .inr (leftText_of_putBack all)
    rw [(restored_eq fails saved start).1 all]
    exact iff_of_true (fun _ => whole) fun _ _ => whole
  · rw [(restored_eq fails saved start).2 all]
    exact kept

theorem givesBack_after_apply :
    GivesBack saved (restored (fun _ => false) saved (applied fails host port start).2) ↔
      ∀ name, saved.text name = none → start.text name ≠ none ∨ Reached fails name := by
  rw [givesBack_iff, applied_eq]
  refine forall_congr' fun name => imp_congr_right fun _ => ?_
  dsimp only
  by_cases reached : Reached fails name
  · rw [if_pos reached]
    refine iff_of_true ?_ (.inr reached)
    cases name <;> exact fun h => by cases h
  · rw [if_neg reached]
    simp [reached]

theorem restored_text : (restored fails saved start).2.text = leftText fails saved start := by
  by_cases all : PutBack fails saved start
  · rw [(restored_eq fails saved start).1 all]
  · rw [(restored_eq fails saved start).2 all]

theorem givesBack_again :
    GivesBack saved (restored (fun _ => false) saved (restored fails saved start).2) ↔
      ∀ name, saved.text name = none → start.text name ≠ none ∧ fails name.call = true := by
  rw [givesBack_iff, restored_text]
  refine forall_congr' fun name => imp_congr_right fun absent => ?_
  unfold leftText
  cases fault : fails name.call <;> simp [absent]

/-- With values at the start, values saved before, and the calls that fail: when
the proxy is not left on over a mix, by `apply` and by `restore`, and when a
restore without faults gives everything back, after `apply` and after a restore
that failed. -/
theorem switched_on_and_back (start saved : Values) (host : String) (port : UInt16)
    (fails : Nat → Bool) :
    (Safe saved host port (applied fails host port start).2 ↔
      (fails 0 = true → Safe saved host port start)) ∧
    (Safe saved host port (restored fails saved start).2 ↔
      (fails 0 = true → start.On → Whole saved host port (leftText fails saved start))) ∧
    (GivesBack saved (restored (fun _ => false) saved (applied fails host port start).2) ↔
      ∀ name, saved.text name = none → start.text name ≠ none ∨ Reached fails name) ∧
    (((restored fails saved start).1 ≠ .ok () →
        GivesBack saved (restored (fun _ => false) saved (restored fails saved start).2)) ↔
      (Disturbed fails saved start →
        ∀ name, saved.text name = none → start.text name ≠ none ∧ fails name.call = true)) := by
  refine ⟨safe_applied, safe_restored, givesBack_after_apply, ?_⟩
  rw [restored_failed, givesBack_again]

/-- A proxy with no bypass list, on; `apply` fails to set ours. -/
def corporate : Values where
  proxyEnable := some 1
  text
    | .proxyServer => some "proxy.corp:8080"
    | .proxyOverride => none

/-- Nothing is there to be deleted: the restore fails, and leaves the proxy off. -/
theorem absent_bypass_list_not_back :
    ¬ ∀ (start saved : Values) (host : String) (port : UInt16) (fails : Nat → Bool),
      Safe saved host port (applied fails host port start).2 ∧
      Safe saved host port (restored fails saved start).2 ∧
      GivesBack saved (restored (fun _ => false) saved (applied fails host port start).2) ∧
      ((restored fails saved start).1 ≠ .ok () →
        GivesBack saved (restored (fun _ => false) saved (restored fails saved start).2)) := by
  intro always
  obtain ⟨-, -, back, -⟩ := always corporate corporate "127.0.0.1" 7890 (· == 2)
  have failed : (restored (fun _ => false) corporate
      (applied (· == 2) "127.0.0.1" 7890 corporate).2).1 = .error () := by decide +kernel
  rw [back.1] at failed
  cases failed

end PpvpnCore.Desktop.Registry
