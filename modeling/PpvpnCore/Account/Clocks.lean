import PpvpnCore.Account.Auth
import PpvpnCore.Lib.Checked
import PpvpnCore.Lib.Text
import PpvpnCore.Service.Protocol

/-!
The clocks of a login (`account/src/auth.rs`): what `start`, `slow_down` and
`access_token_from` add up.

An `Instant` is a number of nanoseconds below the host's end of time; every
duration here is a number of whole seconds, in 64 bits. The URL check is a
parameter, and so is the reading of a token's payload.
-/

namespace PpvpnCore.Account.Clocks

open Lib
open PpvpnCore.Service (Value)

/-- Why there is no result: an error, or a panic. -/
inductive Failure where
  | refused (error : AuthError)
  | overflow
  deriving DecidableEq

def u64Max : Nat := 18446744073709551615

/-- Its `Instant`s are signed or unsigned seconds. -/
inductive Host where
  | unix | windows
  deriving DecidableEq

namespace Host

def lastSecond : Host → Nat
  | .unix => 9223372036854775807
  | .windows => u64Max

/-- An instant so many seconds after `now` exists. -/
def Holds (host : Host) (now seconds : Nat) : Prop :=
  now + seconds * 1000000000 < (host.lastSecond + 1) * 1000000000

instance instDecidableHolds (host : Host) (now seconds : Nat) :
    Decidable (host.Holds now seconds) :=
  inferInstanceAs (Decidable (_ < _))

/-- `Instant + Duration`. -/
def after (host : Host) (now seconds : Nat) : Except Failure Nat :=
  if host.Holds now seconds then .ok (now + seconds * 1000000000) else .error .overflow

theorem after_overflow {host : Host} {now seconds : Nat} :
    host.after now seconds = .error .overflow ↔ ¬ host.Holds now seconds := by
  unfold after
  by_cases holds : host.Holds now seconds
  · simp [holds]
  · simp [holds]

end Host

/-! ## The device login -/

structure DeviceCodeResponse where
  deviceCode : String
  userCode : String
  verificationUriComplete : String
  expiresIn : UInt64
  interval : UInt64

structure PendingAuthorization where
  deviceCode : String
  expiresAt : Nat
  /-- Seconds. -/
  interval : Nat
  deriving DecidableEq

structure FlowState where
  generation : Nat
  pending : Option PendingAuthorization
  deriving DecidableEq

structure Started where
  generation : Nat
  userCode : String
  verificationUrl : String
  expiresIn : UInt64
  deriving DecidableEq

def minDeviceCodeLen (trustsLocal : Bool) : Nat := if trustsLocal then 1 else 32

/-- What the check of `start` lets through. -/
def Accepted (trustsLocal : Bool) (created : DeviceCodeResponse) : Prop :=
  minDeviceCodeLen trustsLocal ≤ created.deviceCode.utf8ByteSize ∧ created.expiresIn ≠ 0 ∧
    created.interval ≠ 0

instance instDecidableAccepted (trustsLocal : Bool) (created : DeviceCodeResponse) :
    Decidable (Accepted trustsLocal created) := inferInstanceAs (Decidable (_ ∧ _ ∧ _))

/-- What a login of this `generation` does with the backend's answer. -/
def start (host : Host) (trustsLocal : Bool) (validateUrl : String → String → Option String)
    (generation : Nat) (created : DeviceCodeResponse) (now : Nat) (flow : FlowState) :
    Except Failure (Started × FlowState) :=
  if Accepted trustsLocal created then
    match validateUrl created.verificationUriComplete created.userCode with
    | some verificationUrl =>
      if flow.generation = generation then do
        let expiresAt ← host.after now created.expiresIn.toNat
        return ({ generation, userCode := created.userCode, verificationUrl,
                  expiresIn := created.expiresIn },
          { flow with
            pending := some
              { deviceCode := created.deviceCode, expiresAt, interval := created.interval.toNat } })
      else .error (.refused .cancelled)
    | none => .error (.refused (.untrusted "untrusted verification URL"))
  else .error (.refused (.untrusted "invalid device transaction"))

/-- `slow_down`, of the authorization that is waited for. -/
def PendingAuthorization.slowDown (pending : PendingAuthorization) :
    Except Failure PendingAuthorization :=
  if pending.interval + 5 ≤ u64Max then .ok { pending with interval := pending.interval + 5 }
  else .error .overflow

def slowDown (generation : Nat) (flow : FlowState) : Except Failure FlowState :=
  if flow.generation ≠ generation then .ok flow
  else
    match flow.pending with
    | some pending => do return { flow with pending := some (← pending.slowDown) }
    | none => .ok flow

/-! ## Access tokens -/

/-- Scoped to exactly this audience. -/
def scopedTo (audience : String) (claims : Value) : Bool :=
  match claims.get "aud" with
  | some (.string claimed) => claimed = audience
  | some (.array [claimed]) => claimed.asStr = some audience
  | _ => false

/-- The `exp` claim, in Unix seconds. -/
def validateAccessToken (payload : List Char → Option Value) (audience : String)
    (token : List Char) : Except AuthError (Option UInt64) :=
  match splitAll '.' token with
  | [_, claims, _] =>
    match payload claims with
    | some claims =>
      if scopedTo audience claims then .ok ((claims.get "exp").bind Value.asU64)
      else .error (.untrusted "restricted session")
    | none => .error (.untrusted "invalid access token")
  | _ => .error (.untrusted "invalid access token")

structure AccessToken where
  token : List Char
  expiresAt : Nat
  deriving DecidableEq

/-- How long a token is used, in seconds; `unix` is none before the epoch. -/
def ttl (expiresIn : Option UInt64) (unix : Option Nat) (exp : Option UInt64) : Nat :=
  match expiresIn.filter (0 < ·) with
  | some seconds => seconds.toNat
  | none =>
    match unix, exp with
    | some unix, some exp => exp.toNat - unix
    | _, _ => 10 * 60

def accessTokenFrom (host : Host) (payload : List Char → Option Value) (audience : String)
    (token : List Char) (expiresIn : Option UInt64) (now : Nat) (unix : Option Nat) :
    Except Failure AccessToken := do
  let exp ← (validateAccessToken payload audience token).mapError .refused
  let expiresAt ← host.after now (ttl expiresIn unix exp)
  return { token, expiresAt }

/-! ## When they add up -/

variable {host : Host}

theorem start_overflow {trustsLocal : Bool} {validateUrl : String → String → Option String}
    {generation now : Nat} {created : DeviceCodeResponse} {flow : FlowState}
    (accepted : Accepted trustsLocal created)
    (trusted : (validateUrl created.verificationUriComplete created.userCode).isSome)
    (current : flow.generation = generation) :
    start host trustsLocal validateUrl generation created now flow = .error .overflow ↔
      ¬ host.Holds now created.expiresIn.toNat := by
  obtain ⟨url, valid⟩ := Option.isSome_iff_exists.1 trusted
  unfold start Host.after
  rw [if_pos accepted, valid]
  by_cases holds : host.Holds now created.expiresIn.toNat
  · simp [holds, current]
  · simp [holds, current]

/-- What a started login waits for. -/
theorem start_pending {trustsLocal : Bool} {validateUrl : String → String → Option String}
    {generation now : Nat} {created : DeviceCodeResponse} {flow flow' : FlowState}
    {started : Started} {pending : PendingAuthorization}
    (done : start host trustsLocal validateUrl generation created now flow = .ok (started, flow'))
    (waiting : flow'.pending = some pending) :
    host.Holds now created.expiresIn.toNat ∧
      pending.expiresAt = now + created.expiresIn.toNat * 1000000000 := by
  unfold start Host.after at done
  split at done
  · split at done
    · split at done
      · by_cases holds : host.Holds now created.expiresIn.toNat
        · rw [if_pos holds] at done
          cases done
          cases waiting
          exact ⟨holds, rfl⟩
        · rw [if_neg holds] at done
          cases done
      · cases done
    · cases done
  · cases done

theorem slowDown_overflow {pending : PendingAuthorization} :
    pending.slowDown = .error .overflow ↔ u64Max < pending.interval + 5 := by
  unfold PendingAuthorization.slowDown
  by_cases fits : pending.interval + 5 ≤ u64Max
  · simp [fits]
  · simp [fits]
    omega

/-- Every way to a token's time fits. -/
structure TokenFits (host : Host) (now : Nat) (expiresIn : Option UInt64) (unix : Option Nat)
    (exp : Option UInt64) : Prop where
  given : ∀ seconds, expiresIn = some seconds → 0 < seconds → host.Holds now seconds.toNat
  claimed : expiresIn = none ∨ expiresIn = some 0 → ∀ clock claim, unix = some clock →
    exp = some claim → host.Holds now (claim.toNat - clock)
  default : expiresIn = none ∨ expiresIn = some 0 → unix = none ∨ exp = none → host.Holds now 600

theorem tokenFits_iff {now : Nat} {expiresIn : Option UInt64} {unix : Option Nat}
    {exp : Option UInt64} :
    TokenFits host now expiresIn unix exp ↔ host.Holds now (ttl expiresIn unix exp) := by
  unfold ttl
  by_cases given : expiresIn = none ∨ expiresIn = some 0
  · have unset : expiresIn.filter (0 < ·) = none := by
      rcases given with rfl | rfl
      · rfl
      · rfl
    rw [unset]
    constructor
    · intro fits
      dsimp only
      split
      next clock claim => exact fits.claimed given clock claim rfl rfl
      next missing =>
        refine fits.default given ?_
        cases unix with
        | none => exact .inl rfl
        | some clock =>
          cases exp with
          | none => exact .inr rfl
          | some claim => exact absurd rfl (missing clock claim rfl)
    · intro holds
      refine ⟨?_, ?_, ?_⟩
      · rintro seconds rfl positive
        rcases given with none | zero
        · cases none
        · cases zero
          exact absurd positive (by decide)
      · rintro - clock claim rfl rfl
        exact holds
      · rintro - missing
        rcases missing with rfl | rfl
        · exact holds
        · cases unix <;> exact holds
  · rw [not_or] at given
    obtain ⟨seconds, rfl⟩ := Option.ne_none_iff_exists'.1 given.1
    have positive : 0 < seconds := UInt64.pos_iff_ne_zero.2 fun zero => given.2 (by rw [zero])
    have set : (some seconds).filter (0 < ·) = some seconds := by
      rw [Option.filter_some, if_pos (decide_eq_true positive)]
    rw [set]
    constructor
    · intro fits
      exact fits.given seconds rfl positive
    · intro holds
      refine ⟨?_, fun unset => ?_, fun unset => ?_⟩
      · rintro _ ⟨⟩ -
        exact holds
      · exact absurd unset (not_or.2 given)
      · exact absurd unset (not_or.2 given)

theorem accessTokenFrom_overflow {payload : List Char → Option Value} {audience : String}
    {token : List Char} {expiresIn : Option UInt64} {now : Nat} {unix : Option Nat} :
    accessTokenFrom host payload audience token expiresIn now unix = .error .overflow ↔
      ∃ exp, validateAccessToken payload audience token = .ok exp ∧
        ¬ TokenFits host now expiresIn unix exp := by
  unfold accessTokenFrom
  cases valid : validateAccessToken payload audience token with
  | error e =>
    constructor
    · intro refused
      cases refused
    · rintro ⟨exp, absent, -⟩
      cases absent
  | ok exp =>
    have added : (host.after now (ttl expiresIn unix exp) >>= fun expiresAt =>
        pure ({ token, expiresAt } : AccessToken)) = .error Failure.overflow ↔ _ := bind_pure_error
    rw [Except.mapError, ok_bind, added, Host.after_overflow, ← tokenFits_iff]
    constructor
    · intro past
      exact ⟨exp, rfl, past⟩
    · rintro ⟨exp, same, past⟩
      cases same
      exact past

/-! ## The poll loop -/

/-- A round sleeps from `now` to `later` and the code has not expired. -/
structure Slept (pending : PendingAuthorization) (now later : Nat) : Prop where
  fresh : now < pending.expiresAt
  lasted : now + min (pending.interval * 1000000000) (pending.expiresAt - now) ≤ later
  inTime : later < pending.expiresAt

/-- The backend is asked at `later` with what is waited for then: its answers so
far let the loop go on, and some slowed it down. -/
inductive Polls (begun : Nat) (first : PendingAuthorization) : Nat → PendingAuthorization → Prop
  | start {now later : Nat} (clock : begun ≤ now) (slept : Slept first now later) :
      Polls begun first later first
  | again {asked now later : Nat} {pending : PendingAuthorization}
      (before : Polls begun first asked pending) (clock : asked ≤ now)
      (slept : Slept pending now later) : Polls begun first later pending
  | slowed {asked now later : Nat} {pending slower : PendingAuthorization}
      (before : Polls begun first asked pending) (slow : pending.slowDown = .ok slower)
      (clock : asked ≤ now) (slept : Slept slower now later) : Polls begun first later slower

/-- A round that is not expired slept for the whole interval. -/
theorem Slept.interval {pending : PendingAuthorization} {now later : Nat}
    (slept : Slept pending now later) : now + pending.interval * 1000000000 ≤ later := by
  have lasted := slept.lasted
  have inTime := slept.inTime
  omega

theorem Polls.bound {begun later : Nat} {first pending : PendingAuthorization}
    (polls : Polls begun first later pending) :
    begun + pending.interval * 1000000000 ≤ later ∧ later < pending.expiresAt ∧
      pending.expiresAt = first.expiresAt := by
  induction polls with
  | start clock slept =>
    have whole := slept.interval
    exact ⟨by omega, slept.inTime, rfl⟩
  | again before clock slept ih =>
    have whole := slept.interval
    exact ⟨by omega, slept.inTime, ih.2.2⟩
  | slowed before slow clock slept ih =>
    have whole := slept.interval
    refine ⟨by omega, slept.inTime, ?_⟩
    unfold PendingAuthorization.slowDown at slow
    split at slow
    · cases slow
      exact ih.2.2
    · cases slow

/-- No answer of a loop slows it down past the end, once the host has run for five seconds. -/
theorem Polls.slowDown {begun later : Nat} {first pending : PendingAuthorization}
    (polls : Polls begun first later pending)
    (known : first.expiresAt < (host.lastSecond + 1) * 1000000000)
    (running : host = .unix ∨ 5000000000 ≤ begun) : pending.slowDown ≠ .error .overflow := by
  obtain ⟨slept, inTime, same⟩ := polls.bound
  rw [Ne, slowDown_overflow, u64Max]
  rcases running with rfl | running
  · rw [Host.lastSecond] at known
    omega
  · have last : host.lastSecond ≤ 18446744073709551615 := by
      cases host
      · decide
      · decide
    omega

end PpvpnCore.Account.Clocks
