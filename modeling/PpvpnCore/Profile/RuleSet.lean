import PpvpnCore.Profile.Addr

/-!
# Rule set declarations

The checks of a profile's rule sets and the pinning of their URLs to a host.
`check` is the form every validation step has: a condition and the error that
refuses the profile when it does not hold.
-/

namespace PpvpnCore

open Lib

/-- Refuses with `error` unless `ok`. -/
def check (ok : Prop) [Decidable ok] (error : Error) : Except Error Unit :=
  if ok then .ok () else .error error

@[simp] theorem check_eq_ok {ok : Prop} [Decidable ok] {error : Error} {u : Unit} :
    check ok error = .ok u ↔ ok := by
  unfold check
  split <;> simp_all

@[simp] theorem bind_eq_ok {ε α β : Type} {x : Except ε α} {f : α → Except ε β} {b : β} :
    (x >>= f) = .ok b ↔ ∃ a, x = .ok a ∧ f a = .ok b := by
  cases x <;> simp [bind, Except.bind]

/-- A letter or digit first, then also `.`, `_`, `-` (and `:` where allowed);
at most `max` characters. -/
def stableId (value : String) (max : Nat) (colon : Bool) : Bool :=
  match value.toList with
  | [] => false
  | c :: cs =>
    cs.length < max && c.isAlphanum &&
      cs.all fun c => c.isAlphanum || c = '.' || c = '_' || c = '-' || (colon && c = ':')

/-- A set is refreshed this often: between an hour and a week, a day when the
profile does not say. -/
def RuleSet.updateInterval (set : RuleSet) : Nat :=
  if set.updateIntervalSeconds ≤ 0 then 24 * 3600
  else min (max set.updateIntervalSeconds.toNat 3600) (7 * 24 * 3600)

/-! ## Hosts -/

/-- A host and its port; the whole authority is the host where no port can be
told apart. -/
def splitHostPort (authority : List Char) : List Char × List Char :=
  match authority with
  | '[' :: inner =>
    match splitOnce ']' inner with
    | some (host, []) => (host, [])
    | some (host, ':' :: port) =>
      if '[' ∉ host ∧ ']' ∉ host ∧ ':' ∉ port then (host, port) else (authority, [])
    | _ => (authority, [])
  | _ =>
    if authority.count ':' = 1 then (splitOnce ':' authority).getD (authority, [])
    else (authority, [])

/-- An authority for pinning: lowercase, the default port removed, IPv6
literals bracketed. -/
def normalizeRuleSetHost (authority : List Char) : Except String (List Char) :=
  if authority = [] ∨ authority.any fun c => c ∈ ['/', '?', '#', '@', ' '] then
    .error "url host is invalid"
  else
    let (host, port) := splitHostPort authority
    if host = [] then .error "url host is invalid"
    else if port ≠ [] ∧ (port.head? = some '0' ∨
        ((parseDecimal (2 ^ 32) port).any fun n => 1 ≤ n && n ≤ 65535) = false) then
      .error "url port is invalid"
    else
      let host := toAsciiLowercase host
      let host := if ':' ∈ host then '[' :: host ++ [']'] else host
      if port = [] ∨ port = "443".toList then .ok host else .ok (host ++ ':' :: port)

/-- The normalised host of an https rule set URL. -/
def ruleSetHost (raw : List Char) : Except String (List Char) :=
  match splitOnce ':' raw with
  | none => .error "url must be an absolute https URL"
  | some (scheme, rest) =>
    if scheme = [] ∨
        !scheme.all fun c => c.isAlphanum || c = '+' || c = '-' || c = '.' then
      .error "url must be an absolute https URL"
    else
      match rest with
      | '/' :: '/' :: rest =>
        if toAsciiLowercase scheme ≠ "https".toList then .error "url must use https"
        else
          let authority := rest.takeWhile fun c => !(c = '/' || c = '?' || c = '#')
          if '@' ∈ authority ∨ '#' ∈ rest then
            .error "url must not contain userinfo or a fragment"
          else normalizeRuleSetHost authority
      | _ => .error "url must be an absolute https URL"

/-! ## Declarations -/

/-- The error of an `Except` text, placed at a field. -/
def orInvalid {α : Type} (code : Code) (field : String) : Except String α → Except Error α
  | .ok a => .ok a
  | .error message => .error (.invalid code field message)

@[simp] theorem orInvalid_eq_ok {α : Type} {code : Code} {field : String} {x : Except String α}
    {a : α} : orInvalid code field x = .ok a ↔ x = .ok a := by
  cases x <;> simp [orInvalid]

/-- One set after those with the ids `seen`. -/
def validateRuleSet (i : Nat) (set : RuleSet) (seen : List String) : Except Error Unit := do
  let base := s!"routing.rule_sets[{i}]"
  check (stableId set.id 128 false = true)
    (.invalid .ruleSetIdInvalid s!"{base}.id" "rule set id is not stable or valid")
  check (set.id ∉ seen)
    (.invalid .ruleSetIdDuplicate s!"{base}.id" "rule set id must be unique")
  let _ ← orInvalid .ruleSetUrlInvalid s!"{base}.url" (ruleSetHost set.url.toList)
  check (set.sha256.toList.length = 64 ∧ set.sha256.toList.all isHexDigit = true)
    (.invalid .ruleSetSha256Invalid s!"{base}.sha256" "sha256 must be 64 hexadecimal characters")
  check (0 ≤ set.updateIntervalSeconds)
    (.invalid .ruleSetIntervalInvalid s!"{base}.update_interval_seconds"
      "update interval must not be negative")

/-- The ids of the sets from the `i`th on, each new to those before it. -/
def validateRuleSetsFrom : (i : Nat) → List RuleSet → (seen : List String) →
    Except Error (List String)
  | _, [], seen => .ok seen
  | i, set :: sets, seen => do
    validateRuleSet i set seen
    validateRuleSetsFrom (i + 1) sets (set.id :: seen)

def validateRuleSets (sets : List RuleSet) : Except Error (List String) := do
  check (sets.length ≤ maxRuleSets)
    (.invalid .ruleSetCountInvalid "routing.rule_sets" "at most 32 rule sets are supported")
  validateRuleSetsFrom 0 sets []

def validateRuleSetRefs (known : List String) (field : String) :
    (i : Nat) → List String → (seen : List String) → Except Error Unit
  | _, [], _ => .ok ()
  | i, id :: ids, seen => do
    check (id ∈ known)
      (.invalid .ruleSetNotFound s!"{field}[{i}]" "rule set does not exist")
    check (id ∉ seen)
      (.invalid .ruleSetRefDuplicate s!"{field}[{i}]" "rule set must be unique within a rule")
    validateRuleSetRefs known field (i + 1) ids (id :: seen)

/-- The authorities rule sets may come from, normalised. -/
def pinnedHosts : List String → Except Error (List (List Char))
  | [] => .ok []
  | value :: values => do
    let host ← match normalizeRuleSetHost value.toList with
      | .ok host => .ok host
      | .error _ => .error (.invalid .ruleSetHostsInvalid "allowed_rule_set_hosts"
          "allowed rule set host is invalid")
    let hosts ← pinnedHosts values
    return host :: hosts

def validateHostsFrom (pinned : List (List Char)) : (i : Nat) → List RuleSet → Except Error Unit
  | _, [] => .ok ()
  | i, set :: sets => do
    let host ← orInvalid .ruleSetUrlInvalid s!"routing.rule_sets[{i}].url"
      (ruleSetHost set.url.toList)
    check (host ∈ pinned)
      (.invalid .ruleSetHostNotAllowed s!"routing.rule_sets[{i}].url"
        "rule set host must be the host the profile came from")
    validateHostsFrom pinned (i + 1) sets

/-- Pins every rule set URL to one of `allowed`. -/
def validateRuleSetHosts (p : Profile) (allowed : List String) : Except Error Unit := do
  let pinned ← pinnedHosts allowed
  validateHostsFrom pinned 0 p.routing.ruleSets

/-! ## What the checks leave -/

theorem validateRuleSetsFrom_ok {i : Nat} {sets : List RuleSet} {seen ids : List String}
    (ok : validateRuleSetsFrom i sets seen = .ok ids) (nodup : seen.Nodup) :
    ids.Nodup ∧ ∀ id, id ∈ ids ↔ id ∈ seen ∨ id ∈ sets.map (·.id) := by
  induction sets generalizing i seen with
  | nil =>
    simp only [validateRuleSetsFrom, Except.ok.injEq] at ok
    subst ok
    exact ⟨nodup, by simp⟩
  | cons set sets ih =>
    simp only [validateRuleSetsFrom, bind_eq_ok] at ok
    obtain ⟨_, first, rest⟩ := ok
    have fresh : set.id ∉ seen := by
      simp only [validateRuleSet, bind_eq_ok, check_eq_ok] at first
      obtain ⟨_, _, _, fresh, _⟩ := first
      exact fresh
    obtain ⟨idsNodup, mem⟩ := ih rest (List.nodup_cons.mpr ⟨fresh, nodup⟩)
    refine ⟨idsNodup, fun id => ?_⟩
    rw [mem, List.mem_cons, List.map_cons, List.mem_cons]
    tauto

/-- The ids returned are those of the sets, and no id comes before itself. -/
theorem validateRuleSetsFrom_nodup {i : Nat} {sets : List RuleSet} {seen ids : List String}
    (ok : validateRuleSetsFrom i sets seen = .ok ids) :
    (sets.map (·.id)).Nodup ∧ ∀ id ∈ sets.map (·.id), id ∉ seen := by
  induction sets generalizing i seen with
  | nil => simp
  | cons set sets ih =>
    simp only [validateRuleSetsFrom, bind_eq_ok] at ok
    obtain ⟨_, first, rest⟩ := ok
    have fresh : set.id ∉ seen := by
      simp only [validateRuleSet, bind_eq_ok, check_eq_ok] at first
      obtain ⟨_, _, _, fresh, _⟩ := first
      exact fresh
    obtain ⟨nodup, later⟩ := ih rest
    simp only [List.map_cons, List.nodup_cons, List.mem_cons]
    refine ⟨⟨fun mem => later _ mem (by simp), nodup⟩, ?_⟩
    rintro id (rfl | mem)
    · exact fresh
    · exact fun old => later _ mem (by simp [old])

theorem validateRuleSetRefs_mem {known : List String} {field : String} {i : Nat}
    {ids seen : List String} (ok : validateRuleSetRefs known field i ids seen = .ok ()) :
    ∀ id ∈ ids, id ∈ known := by
  induction ids generalizing i seen with
  | nil => simp
  | cons id ids ih =>
    simp only [validateRuleSetRefs, bind_eq_ok, check_eq_ok] at ok
    obtain ⟨_, mem, _, _, rest⟩ := ok
    intro other here
    rcases List.mem_cons.mp here with rfl | later
    · exact mem
    · exact ih rest other later

end PpvpnCore
