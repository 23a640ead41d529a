import PpvpnCore.Lib.Fields
import PpvpnCore.Profile.RuleSet

/-!
Where a rule set is fetched from (`host_pinned` in `rulesets/mod.rs`,
`Client::get` in `rulesets/fetch.rs`): the URL's authority is compared with the
allowed ones after normalisation, and the download dials what `http::Uri` reads
from the same URL. That library is a parameter, with its documented reading of
an authority. The request and its answer are left out.
-/

namespace PpvpnCore.RuleSets

open Lib

/-! ## What is dialed -/

/-- What `http::Uri` tells of a URL's authority. -/
structure Authority where
  text : List Char
  host : List Char
  portU16 : Option Nat

/-- `http::Uri`'s parser: an error, or the authority when there is one. -/
structure Http where
  parse : List Char → Option (Option Authority)

/-- A decimal number below 2^16, as the standard library reads one. -/
def parseU16 : List Char → Option Nat
  | '+' :: digits => parseDecimal (2 ^ 16) digits
  | digits => parseDecimal (2 ^ 16) digits

/-- A bracketed literal up to its closing bracket, or the name before the first
colon. -/
def hostPart : List Char → List Char
  | '[' :: inner => '[' :: inner.takeWhile (· ≠ ']') ++ [']']
  | authority => authority.takeWhile (· ≠ ':')

/-- What follows the last closing bracket. -/
def outside (authority : List Char) : List Char :=
  (authority.reverse.takeWhile (· ≠ ']')).reverse

/-- What follows the last colon outside brackets. -/
def portPart (authority : List Char) : Option (List Char) :=
  if ':' ∈ outside authority then
    some ((outside authority).reverse.takeWhile (· ≠ ':')).reverse
  else none

/-- A bracket that is not closed, or several colons without brackets. -/
def lone (authority : List Char) : Bool :=
  ']' ∉ authority ∧ (authority.head? = some '[' ∨ 1 < authority.count ':')

/-- What `http::Uri` documents of an https URL's authority: it is the text up to
the path, the query or the fragment, its host and port are the parts above, and
an unclosed bracket or a second port is an error. -/
structure Http.Documented (http : Http) : Prop where
  text : ∀ scheme rest authority, toAsciiLowercase scheme = "https".toList →
    http.parse (scheme ++ "://".toList ++ rest) = some (some authority) →
      authority.text = rest.takeWhile fun c => !(c = '/' || c = '?' || c = '#')
  host : ∀ url authority, http.parse url = some (some authority) → '@' ∉ authority.text →
    authority.host = hostPart authority.text
  port : ∀ url authority, http.parse url = some (some authority) → '@' ∉ authority.text →
    authority.portU16 = (portPart authority.text).bind parseU16
  closed : ∀ url authority, http.parse url = some (some authority) → '@' ∉ authority.text →
    lone authority.text = false

/-- Without the brackets around it. -/
def bare (host : List Char) : List Char :=
  ((host.dropWhile (· = '[')).reverse.dropWhile (· = ']')).reverse

/-- The host and port that `Client::get` dials and names to TLS. -/
def target (http : Http) (url : List Char) : Option (List Char × Nat) := do
  let uri ← http.parse url
  let authority ← uri
  return (bare authority.host, authority.portU16.getD 443)

/-! ## What is allowed -/

/-- The pinned hosts of a list of allowed authorities. -/
def pinnedOf (allowed : List String) : List (List Char) :=
  allowed.filterMap fun host => (normalizeRuleSetHost host.toList).toOption

def hostPinned (pinned : List (List Char)) (set : RuleSet) : Bool :=
  (ruleSetHost set.url.toList).toOption.any fun host => pinned.contains host

/-- The host an authority names: an IPv6 address may go without brackets where
no port follows. -/
def namedHost (authority : List Char) : List Char :=
  bare (if lone authority then authority else hostPart authority)

/-- The port an authority names, 443 when none is written. -/
def namedPort (authority : List Char) : Nat :=
  if lone authority then 443 else ((portPart authority).bind parseU16).getD 443

/-! ## Case -/

theorem toLower_eq {d : Char} (other : d.isAlpha = false) (c : Char) : c.toLower = d ↔ c = d := by
  by_cases upper : c.isUpper = true
  · have alpha : c.isAlpha = true := by rw [Char.isAlpha, upper, Bool.true_or]
    constructor
    · rintro rfl
      rw [Char.isAlpha_toLower_eq_isAlpha, alpha] at other
      cases other
    · rintro rfl
      rw [alpha] at other
      cases other
  · rw [Char.toLower_eq_of_not_isUpper upper]

theorem mem_lower {d : Char} (other : d.isAlpha = false) (cs : List Char) :
    d ∈ toAsciiLowercase cs ↔ d ∈ cs := by
  simp [toAsciiLowercase, toLower_eq other]

theorem takeWhile_lower {d : Char} (other : d.isAlpha = false) (cs : List Char) :
    (toAsciiLowercase cs).takeWhile (· ≠ d) = toAsciiLowercase (cs.takeWhile (· ≠ d)) := by
  simp [toAsciiLowercase, List.takeWhile_map, Function.comp_def, toLower_eq other]

theorem dropWhile_lower {d : Char} (other : d.isAlpha = false) (cs : List Char) :
    (toAsciiLowercase cs).dropWhile (· = d) = toAsciiLowercase (cs.dropWhile (· = d)) := by
  simp [toAsciiLowercase, List.dropWhile_map, Function.comp_def, toLower_eq other]

theorem reverse_lower (cs : List Char) :
    (toAsciiLowercase cs).reverse = toAsciiLowercase cs.reverse :=
  List.map_reverse.symm

theorem append_lower (cs ds : List Char) :
    toAsciiLowercase (cs ++ ds) = toAsciiLowercase cs ++ toAsciiLowercase ds :=
  List.map_append

theorem bare_lower (host : List Char) : bare (toAsciiLowercase host) = toAsciiLowercase (bare host) := by
  rw [bare, dropWhile_lower (by decide), reverse_lower, dropWhile_lower (by decide), reverse_lower]
  rfl

theorem head_lower {d : Char} (other : d.isAlpha = false) (cs : List Char) :
    (toAsciiLowercase cs).head? = some d ↔ cs.head? = some d := by
  cases cs <;> simp [toAsciiLowercase, toLower_eq other]

theorem count_lower {d : Char} (other : d.isAlpha = false) (cs : List Char) :
    (toAsciiLowercase cs).count d = cs.count d := by
  induction cs with
  | nil => rfl
  | cons c cs ih =>
    rw [toAsciiLowercase, List.map_cons, List.count_cons, List.count_cons, ← toAsciiLowercase, ih]
    simp [toLower_eq other]

theorem lone_lower (authority : List Char) :
    lone (toAsciiLowercase authority) = lone authority := by
  have same : ']' ∈ toAsciiLowercase authority ↔ ']' ∈ authority := mem_lower (by decide) authority
  have head := head_lower (d := '[') (by decide) authority
  have count := count_lower (d := ':') (by decide) authority
  simp only [lone, same, head, count]

theorem hostPart_name {authority : List Char} (name : authority.head? ≠ some '[') :
    hostPart authority = authority.takeWhile (· ≠ ':') := by
  unfold hostPart
  split
  · exact absurd rfl name
  · rfl

theorem hostPart_lower (authority : List Char) :
    hostPart (toAsciiLowercase authority) = toAsciiLowercase (hostPart authority) := by
  by_cases name : authority.head? = some '['
  · obtain ⟨inner, rfl⟩ := List.head?_eq_some_iff.1 name
    have lower : toAsciiLowercase ('[' :: inner) = '[' :: toAsciiLowercase inner := rfl
    rw [lower, hostPart, hostPart, append_lower, takeWhile_lower (by decide)]
    rfl
  · rw [hostPart_name name, hostPart_name (fun eq => name ((head_lower (by decide) _).1 eq)),
      takeWhile_lower (by decide)]

theorem not_isUpper_of_isDigit {c : Char} (digit : c.isDigit = true) : ¬ c.isUpper = true := by
  simp [Char.isDigit, Char.isUpper, UInt32.le_iff_toNat_le] at digit ⊢
  omega

theorem isDigit_lower (c : Char) : c.toLower.isDigit = c.isDigit := by
  by_cases upper : c.isUpper = true
  · have alpha : c.toLower.isLower = true := by
      rw [Char.isLower_toLower_eq_isAlpha, Char.isAlpha, upper, Bool.true_or]
    have digitless : c.toLower.isDigit = false := by
      simp [Char.isDigit, Char.isLower, UInt32.le_iff_toNat_le] at alpha ⊢
      omega
    rw [digitless]
    simp [Char.isDigit, Char.isUpper, UInt32.le_iff_toNat_le] at upper ⊢
    omega
  · rw [Char.toLower_eq_of_not_isUpper upper]

theorem digits_lower {cs : List Char} (digits : cs.all Char.isDigit = true) :
    toAsciiLowercase cs = cs := by
  have same : ∀ c ∈ cs, c.toLower = id c := fun c mem =>
    Char.toLower_eq_of_not_isUpper (not_isUpper_of_isDigit (List.all_eq_true.1 digits c mem))
  rw [toAsciiLowercase, List.map_congr_left same, List.map_id]

theorem parseDecimal_lower (bound : Nat) (cs : List Char) :
    parseDecimal bound (toAsciiLowercase cs) = parseDecimal bound cs := by
  by_cases digits : cs.all Char.isDigit = true
  · rw [digits_lower digits]
  · have digits' : ¬ (toAsciiLowercase cs).all Char.isDigit = true := by
      rwa [toAsciiLowercase, List.all_map, Function.comp_def, funext isDigit_lower]
    rw [parseDecimal, parseDecimal, if_neg (fun both => digits' both.2),
      if_neg (fun both => digits both.2)]

theorem parseU16_number {cs : List Char} (number : cs.head? ≠ some '+') :
    parseU16 cs = parseDecimal (2 ^ 16) cs := by
  unfold parseU16
  split
  · exact absurd rfl number
  · rfl

theorem parseU16_lower (cs : List Char) : parseU16 (toAsciiLowercase cs) = parseU16 cs := by
  by_cases signed : cs.head? = some '+'
  · obtain ⟨digits, rfl⟩ := List.head?_eq_some_iff.1 signed
    exact parseDecimal_lower _ digits
  · rw [parseU16_number signed, parseU16_number (fun eq => signed ((head_lower (by decide) _).1 eq)),
      parseDecimal_lower]

theorem portPart_lower (authority : List Char) :
    portPart (toAsciiLowercase authority) = (portPart authority).map toAsciiLowercase := by
  have lower : outside (toAsciiLowercase authority) = toAsciiLowercase (outside authority) := by
    rw [outside, reverse_lower, takeWhile_lower (by decide), reverse_lower]
    rfl
  have colon := mem_lower (d := ':') (by decide) (outside authority)
  rw [portPart, lower, portPart]
  by_cases there : ':' ∈ outside authority
  · rw [if_pos (colon.2 there), if_pos there, reverse_lower, takeWhile_lower (by decide),
      reverse_lower]
    rfl
  · rw [if_neg fun mem => there (colon.1 mem), if_neg there]
    rfl

theorem namedHost_lower (authority : List Char) :
    namedHost (toAsciiLowercase authority) = toAsciiLowercase (namedHost authority) := by
  rw [namedHost, lone_lower, namedHost]
  cases lone authority
  · rw [if_neg (by decide), if_neg (by decide), hostPart_lower, bare_lower]
  · rw [if_pos rfl, if_pos rfl, bare_lower]

theorem namedPort_lower (authority : List Char) :
    namedPort (toAsciiLowercase authority) = namedPort authority := by
  rw [namedPort, lone_lower, portPart_lower, namedPort]
  cases portPart authority with
  | none => rfl
  | some port => rw [Option.map_some, Option.bind_some, Option.bind_some, parseU16_lower]

/-! ## What normalisation keeps -/

/-- The authority read by its brackets or by its one colon, or as a host alone. -/
inductive Read (authority : List Char) : List Char → List Char → Prop where
  | bracketed (host rest port : List Char) (parts : authority = '[' :: (host ++ ']' :: rest))
      (closed : ']' ∉ host) (after : rest = [] ∧ port = [] ∨ rest = ':' :: port) :
      Read authority host port
  | named (host port : List Char) (parts : authority = host ++ ':' :: port) (plain : ':' ∉ host)
      (plain' : ':' ∉ port) (name : authority.head? ≠ some '[') : Read authority host port
  | alone (other : authority.head? = some '[' ∨ authority.count ':' ≠ 1) : Read authority authority []

theorem splitHostPort_read (authority : List Char) :
    Read authority (splitHostPort authority).1 (splitHostPort authority).2 := by
  by_cases name : authority.head? = some '['
  · obtain ⟨inner, rfl⟩ := List.head?_eq_some_iff.1 name
    rw [splitHostPort]
    cases found : splitOnce ']' inner with
    | none => exact .alone (.inl rfl)
    | some both =>
      obtain ⟨host, rest⟩ := both
      obtain ⟨closed, rfl⟩ := splitOnce_eq_some.1 found
      cases rest with
      | nil => exact .bracketed host [] [] rfl closed (.inl ⟨rfl, rfl⟩)
      | cons c port =>
        by_cases colon : c = ':'
        · subst colon
          by_cases plain : '[' ∉ host ∧ ']' ∉ host ∧ ':' ∉ port
          · simp only [if_pos plain]
            exact .bracketed host (':' :: port) port rfl closed (.inr rfl)
          · simp only [if_neg plain]
            exact .alone (.inl rfl)
        · split
          · rename_i eq
            cases eq
          · rename_i eq
            cases eq
            exact absurd rfl colon
          · exact .alone (.inl rfl)
  · rw [splitHostPort]
    · by_cases one : authority.count ':' = 1
      · have mem : ':' ∈ authority := List.count_pos_iff.1 (by omega)
        obtain ⟨host, port, rfl⟩ := List.append_of_mem mem
        rw [List.count_append, List.count_cons_self] at one
        have plain : ':' ∉ host := List.count_eq_zero.1 (by omega)
        have plain' : ':' ∉ port := List.count_eq_zero.1 (by omega)
        have found : splitOnce ':' (host ++ ':' :: port) = some (host, port) :=
          splitOnce_eq_some.2 ⟨plain, rfl⟩
        rw [if_pos (by rw [List.count_append, List.count_cons_self]; omega), found]
        exact .named host port rfl plain plain' name
      · rw [if_neg one]
        exact .alone (.inr one)
    · intro inner eq
      exact name (by rw [eq]; rfl)

def portNumber (port : List Char) : Nat := (parseU16 port).getD 443

/-- A port that is empty or decimal digits. -/
def Written (port : List Char) : Prop := port.all Char.isDigit = true

/-- A bracket or a colon that the pinning takes for a part of the host. -/
def Odd (host : List Char) : Prop := ']' ∈ host ∧ (host.head? = some '[' ∨ ':' ∈ host)

theorem outside_append {front back : List Char} (open' : ']' ∉ back) :
    outside (front ++ back) = outside front ++ back := by
  rw [outside, List.reverse_append, List.takeWhile_append_of_pos]
  · rw [List.reverse_append, List.reverse_reverse]
    rfl
  · intro c mem
    have there := List.mem_reverse.1 mem
    simp only [ne_eq, decide_eq_true_eq]
    rintro rfl
    exact open' there

theorem outside_closed (front : List Char) : outside (front ++ [']']) = [] := by
  rw [outside, List.reverse_append]
  rfl

theorem portPart_colon {front port : List Char} (plain : ':' ∉ port) (open' : ']' ∉ port) :
    portPart (front ++ ':' :: port) = some port := by
  have whole : outside (front ++ ':' :: port) = outside front ++ ':' :: port := by
    apply outside_append
    simpa using open'
  rw [portPart, whole, if_pos (by simp), List.reverse_append, List.reverse_cons, List.append_assoc,
    List.singleton_append, List.takeWhile_append_of_pos]
  · simp
  · intro c mem
    simp only [ne_eq, decide_eq_true_eq]
    rintro rfl
    exact plain (List.mem_reverse.1 mem)

theorem takeWhile_until {d : Char} {front : List Char} (plain : d ∉ front) (back : List Char) :
    (front ++ d :: back).takeWhile (· ≠ d) = front := by
  rw [List.takeWhile_append_of_pos]
  · simp
  · intro c mem
    simp only [ne_eq, decide_eq_true_eq]
    rintro rfl
    exact plain mem

theorem bare_brackets (host : List Char) : bare ('[' :: host ++ [']']) = bare host := by
  have start : ('[' :: host ++ [']']).dropWhile (· = '[') = (host ++ [']']).dropWhile (· = '[') := by
    simp
  rw [bare, start, bare, List.dropWhile_append]
  cases trimmed : host.dropWhile (· = '[') with
  | nil => rfl
  | cons c rest =>
    rw [if_neg (by simp), List.reverse_append, List.reverse_singleton, List.singleton_append,
      List.dropWhile_cons_of_pos (by decide)]

theorem Written.plain {port : List Char} (written : Written port) {d : Char}
    (other : d.isDigit = false) : d ∉ port := by
  intro mem
  have digit := List.all_eq_true.1 written d mem
  rw [other] at digit
  cases digit

/-- What a host alone is, when it is no odd one. -/
theorem alone_plain {authority : List Char} (even : ¬ Odd authority)
    (other : authority.head? = some '[' ∨ authority.count ':' ≠ 1)
    (open' : lone authority = false) : authority.head? ≠ some '[' ∧ ':' ∉ authority := by
  by_cases closed : ']' ∈ authority
  · exact ⟨fun name => even ⟨closed, .inl name⟩, fun colon => even ⟨closed, .inr colon⟩⟩
  · have parts : ¬ (authority.head? = some '[' ∨ 1 < authority.count ':') := by
      intro either
      simp [lone, closed, either] at open'
    rw [not_or] at parts
    refine ⟨parts.1, ?_⟩
    have none : authority.count ':' = 0 := by
      rcases other with name | one
      · exact absurd name parts.1
      · omega
    exact List.count_eq_zero.1 none

theorem takeWhile_plain {d : Char} {cs : List Char} (plain : d ∉ cs) :
    cs.takeWhile (· ≠ d) = cs := by
  rw [List.takeWhile_eq_self_iff]
  intro c mem
  simp only [ne_eq, decide_eq_true_eq]
  rintro rfl
  exact plain mem

theorem portPart_plain {authority : List Char} (plain : ':' ∉ authority) :
    portPart authority = none := by
  rw [portPart, if_neg]
  intro mem
  have among := (List.takeWhile_sublist _).subset (List.mem_reverse.1 mem)
  exact plain (List.mem_reverse.1 among)

theorem lone_closed {authority : List Char} (closed : ']' ∈ authority) :
    lone authority = false := by
  simp [lone, closed]

theorem lone_named {authority host port : List Char} (parts : authority = host ++ ':' :: port)
    (plain : ':' ∉ host) (plain' : ':' ∉ port) (name : authority.head? ≠ some '[') :
    lone authority = false := by
  have one : authority.count ':' = 1 := by
    rw [parts, List.count_append, List.count_cons_self, List.count_eq_zero.2 plain,
      List.count_eq_zero.2 plain']
  simp [lone, name, one]

section Named

variable {authority host port : List Char}

theorem Read.named_host (read : Read authority host port) (even : ¬ Odd host) :
    namedHost authority = bare host := by
  cases read with
  | bracketed _ rest _ parts closed after =>
    rw [namedHost, lone_closed (by simp [parts]), if_neg (by decide), parts, hostPart,
      takeWhile_until closed, bare_brackets]
  | named _ _ parts plain plain' name =>
    rw [namedHost, lone_named parts plain plain' name, if_neg (by decide), hostPart_name name, parts,
      takeWhile_until plain]
  | alone other =>
    cases open' : lone authority with
    | true => rw [namedHost, open', if_pos rfl]
    | false =>
      obtain ⟨name, plain⟩ := alone_plain even other open'
      rw [namedHost, open', if_neg (by decide), hostPart_name name, takeWhile_plain plain]

theorem Read.named_port (read : Read authority host port) (even : ¬ Odd host)
    (written : Written port) : namedPort authority = portNumber port := by
  have colonless := written.plain (d := ':') (by decide)
  have unclosed := written.plain (d := ']') (by decide)
  cases read with
  | bracketed _ rest _ parts closed after =>
    rw [namedPort, lone_closed (by simp [parts]), if_neg (by decide), parts]
    rcases after with ⟨rfl, rfl⟩ | rfl
    · have none : portPart ('[' :: (host ++ [']'])) = none := by
        have outer : outside ('[' :: (host ++ [']'])) = [] := outside_closed ('[' :: host)
        rw [portPart, outer, if_neg List.not_mem_nil]
      rw [none]
      rfl
    · have regrouped : '[' :: (host ++ ']' :: ':' :: port) = ('[' :: host ++ [']']) ++ ':' :: port := by
        simp
      rw [regrouped, portPart_colon colonless unclosed]
      rfl
  | named _ _ parts plain plain' name =>
    rw [namedPort, lone_named parts plain plain' name, if_neg (by decide), parts,
      portPart_colon colonless unclosed]
    rfl
  | alone other =>
    cases open' : lone authority with
    | true =>
      rw [namedPort, open', if_pos rfl]
      rfl
    | false =>
      obtain ⟨name, plain⟩ := alone_plain even other open'
      rw [namedPort, open', if_neg (by decide), portPart_plain plain]
      rfl

/-- An odd host is the whole authority. -/
theorem Read.odd (read : Read authority host port) (odd : Odd host) :
    authority = host ∧ port = [] := by
  cases read with
  | bracketed _ rest _ parts closed after => exact absurd odd.1 closed
  | named _ _ parts plain plain' name =>
    rcases odd.2 with head | colon
    · obtain ⟨rest, rfl⟩ := List.head?_eq_some_iff.1 head
      exact absurd (by rw [parts]; rfl) name
    · exact absurd colon plain
  | alone other => exact ⟨rfl, rfl⟩

end Named

theorem odd_lower (host : List Char) : Odd (toAsciiLowercase host) ↔ Odd host := by
  rw [Odd, Odd, mem_lower (by decide), mem_lower (by decide), head_lower (by decide)]

/-! ## The normalised form -/

def wrap (host : List Char) : List Char := if ':' ∈ host then '[' :: host ++ [']'] else host

/-- The port that is kept. -/
def kept (port : List Char) : List Char := if port = [] ∨ port = "443".toList then [] else port

def normalForm (host port : List Char) : List Char :=
  if kept port = [] then wrap (toAsciiLowercase host)
  else wrap (toAsciiLowercase host) ++ ':' :: kept port

theorem parseDecimal_digits {bound n : Nat} {cs : List Char} (number : parseDecimal bound cs = some n) :
    cs.all Char.isDigit = true := by
  rw [parseDecimal] at number
  split_ifs at number with digits
  exact digits.2

theorem normalize_ok {authority normal : List Char}
    (ok : normalizeRuleSetHost authority = .ok normal) :
    Written (splitHostPort authority).2 ∧
      normal = normalForm (splitHostPort authority).1 (splitHostPort authority).2 := by
  rw [normalizeRuleSetHost] at ok
  generalize splitHostPort authority = parts at ok
  obtain ⟨host, port⟩ := parts
  have wrapped : (if ':' ∈ toAsciiLowercase host then '[' :: toAsciiLowercase host ++ [']']
      else toAsciiLowercase host) = wrap (toAsciiLowercase host) := rfl
  dsimp only at ok ⊢
  rw [wrapped] at ok
  split_ifs at ok with bad empty wrong default
  · have written : Written port := by
      rw [Written]
      rcases default with rfl | rfl <;> decide
    refine ⟨written, ?_⟩
    have none : kept port = [] := by rw [kept, if_pos default]
    rw [normalForm, if_pos none]
    exact (Except.ok.inj ok).symm
  · have some : port ≠ [] := fun none => default (.inl none)
    have written : Written port := by
      cases number : parseDecimal (2 ^ 32) port with
      | none => exact absurd ⟨some, .inr (by rw [number]; rfl)⟩ wrong
      | some n => exact parseDecimal_digits number
    refine ⟨written, ?_⟩
    have same : kept port = port := by rw [kept, if_neg default]
    rw [normalForm, same, if_neg some]
    exact (Except.ok.inj ok).symm

theorem wrap_injective {host host' : List Char} (eq : wrap host = wrap host') : host = host' := by
  rw [wrap, wrap] at eq
  split_ifs at eq with colon colon'
  · simpa using eq
  · exact absurd (eq ▸ by simp [colon]) colon'
  · exact absurd (eq ▸ by simp [*]) colon
  · exact eq

theorem portNumber_kept (port : List Char) : portNumber (kept port) = portNumber port := by
  rw [kept]
  by_cases default : port = [] ∨ port = "443".toList
  · rw [if_pos default]
    rcases default with rfl | rfl
    · rfl
    · decide
  · rw [if_neg default]

theorem kept_written {port : List Char} (written : Written port) : Written (kept port) := by
  rw [kept]
  split_ifs
  · rfl
  · exact written

/-- A host without a port is not one with a port. -/
theorem wrap_ne_port {host host' port : List Char} (some : port ≠ []) (written : Written port) :
    wrap host ≠ wrap host' ++ ':' :: port := by
  intro eq
  by_cases colon : ':' ∈ host
  · have last := congrArg List.getLast? eq
    rw [wrap, if_pos colon, List.getLast?_append_of_ne_nil _ (List.cons_ne_nil _ _),
      List.getLast?_append_of_ne_nil _ (List.cons_ne_nil _ _), List.getLast?_cons_of_ne_nil some]
      at last
    exact written.plain (d := ']') (by decide) (List.mem_of_getLast? last.symm)
  · have mem : ':' ∈ wrap host := eq ▸ List.mem_append_right _ List.mem_cons_self
    rw [wrap, if_neg colon] at mem
    exact colon mem

theorem port_injective {front port front' port' : List Char} (plain : ':' ∉ port)
    (plain' : ':' ∉ port') (eq : front ++ ':' :: port = front' ++ ':' :: port') :
    front = front' ∧ port = port' := by
  have back := congrArg List.reverse eq
  simp only [List.reverse_append, List.reverse_cons, List.append_assoc, List.singleton_append] at back
  obtain ⟨ports, fronts⟩ := pair_injective (by simpa using plain) (by simpa using plain') back
  exact ⟨List.reverse_injective fronts, List.reverse_injective ports⟩

theorem normalForm_injective {host port host' port' : List Char} (written : Written port)
    (written' : Written port') (eq : normalForm host port = normalForm host' port') :
    toAsciiLowercase host = toAsciiLowercase host' ∧ kept port = kept port' := by
  have digits := kept_written written
  have digits' := kept_written written'
  rw [normalForm, normalForm] at eq
  split_ifs at eq with none none' none'
  · exact ⟨wrap_injective eq, by rw [none, none']⟩
  · exact absurd eq (wrap_ne_port none' digits')
  · exact absurd eq.symm (wrap_ne_port none digits)
  · obtain ⟨hosts, ports⟩ := port_injective (digits.plain (by decide)) (digits'.plain (by decide)) eq
    exact ⟨wrap_injective hosts, ports⟩

/-- Authorities of one normal form name one host, up to case, and one port. -/
theorem normalize_names {a b normal : List Char} (left : normalizeRuleSetHost a = .ok normal)
    (right : normalizeRuleSetHost b = .ok normal) :
    toAsciiLowercase (namedHost a) = toAsciiLowercase (namedHost b) ∧ namedPort a = namedPort b := by
  obtain ⟨written, form⟩ := normalize_ok left
  obtain ⟨written', form'⟩ := normalize_ok right
  have read := splitHostPort_read a
  have read' := splitHostPort_read b
  generalize splitHostPort a = parts at written form read
  generalize splitHostPort b = parts' at written' form' read'
  obtain ⟨host, port⟩ := parts
  obtain ⟨host', port'⟩ := parts'
  obtain ⟨hosts, ports⟩ := normalForm_injective written written' (form.symm.trans form')
  have odds : Odd host ↔ Odd host' := by rw [← odd_lower host, hosts, odd_lower]
  by_cases odd : Odd host
  · obtain ⟨rfl, -⟩ := read.odd odd
    obtain ⟨rfl, -⟩ := read'.odd (odds.1 odd)
    rw [← namedHost_lower, ← namedHost_lower, ← namedPort_lower a, ← namedPort_lower b]
    exact ⟨congrArg namedHost hosts, congrArg namedPort hosts⟩
  · have even' := fun odd' => odd (odds.2 odd')
    rw [read.named_host odd, read'.named_host even', read.named_port odd written,
      read'.named_port even' written', ← portNumber_kept port, ← portNumber_kept port', ports,
      ← bare_lower, ← bare_lower, hosts]
    exact ⟨rfl, rfl⟩

/-! ## Fetched from where it is pinned -/

section Fetched

variable {http : Http}

/-- The library reads an authority as the allowed ones are read. -/
theorem target_named (documented : http.Documented) {url : List Char} {host : List Char} {port : Nat}
    {scheme rest : List Char} (https : toAsciiLowercase scheme = "https".toList)
    (parts : url = scheme ++ "://".toList ++ rest)
    (plain : '@' ∉ rest.takeWhile fun c => !(c = '/' || c = '?' || c = '#'))
    (dialed : target http url = some (host, port)) :
    host = namedHost (rest.takeWhile fun c => !(c = '/' || c = '?' || c = '#')) ∧
      port = namedPort (rest.takeWhile fun c => !(c = '/' || c = '?' || c = '#')) := by
  obtain ⟨uri, parsed, dialed⟩ := Option.bind_eq_some_iff.1 dialed
  obtain ⟨authority, rfl, dialed⟩ := Option.bind_eq_some_iff.1 dialed
  cases dialed
  have text := documented.text scheme rest authority https (parts ▸ parsed)
  rw [← text] at plain ⊢
  have closed := documented.closed url authority parsed plain
  rw [namedHost, namedPort, closed, if_neg (by decide), if_neg (by decide),
    documented.host url authority parsed plain, documented.port url authority parsed plain]
  exact ⟨rfl, rfl⟩

/-- The parts of a URL that has a normalised host. -/
theorem ruleSetHost_ok {raw normal : List Char} (ok : ruleSetHost raw = .ok normal) :
    ∃ scheme rest, toAsciiLowercase scheme = "https".toList ∧ raw = scheme ++ "://".toList ++ rest ∧
      ('@' ∉ rest.takeWhile fun c => !(c = '/' || c = '?' || c = '#')) ∧
      normalizeRuleSetHost (rest.takeWhile fun c => !(c = '/' || c = '?' || c = '#')) =
        .ok normal := by
  rw [ruleSetHost] at ok
  cases found : splitOnce ':' raw with
  | none =>
    rw [found] at ok
    cases ok
  | some both =>
    obtain ⟨scheme, rest⟩ := both
    obtain ⟨-, rfl⟩ := splitOnce_eq_some.1 found
    rw [found] at ok
    dsimp only at ok
    split_ifs at ok with bad other
    · split at ok <;> cases ok
    · split at ok
      · rename_i rest
        split_ifs at ok with mixed
        rw [not_or] at mixed
        exact ⟨scheme, rest, not_not.1 other, by simp, mixed.1, ok⟩
      · cases ok

/-- What the download of a pinned set dials and names to TLS is the host, up to
case, and the port of an allowed authority; and authorities of one normal form
name one host and one port. -/
theorem fetched_where_pinned (documented : http.Documented) :
    (∀ (allowed : List String) (set : RuleSet) (host : List Char) (port : Nat),
      hostPinned (pinnedOf allowed) set = true → target http set.url.toList = some (host, port) →
        ∃ authority ∈ allowed,
          toAsciiLowercase host = toAsciiLowercase (namedHost authority.toList) ∧
            port = namedPort authority.toList) ∧
      ∀ a b normal, normalizeRuleSetHost a = .ok normal → normalizeRuleSetHost b = .ok normal →
        toAsciiLowercase (namedHost a) = toAsciiLowercase (namedHost b) ∧
          namedPort a = namedPort b := by
  refine ⟨?_, fun a b normal => normalize_names⟩
  intro allowed set host port pinned dialed
  rw [hostPinned] at pinned
  cases found : ruleSetHost set.url.toList with
  | error message =>
    rw [found] at pinned
    cases pinned
  | ok normal =>
    rw [found] at pinned
    obtain ⟨authority, mem, same⟩ := List.mem_filterMap.1 (List.contains_iff_mem.1 pinned)
    have allowedForm : normalizeRuleSetHost authority.toList = .ok normal := by
      cases form : normalizeRuleSetHost authority.toList with
      | error message =>
        rw [form] at same
        cases same
      | ok other =>
        rw [form] at same
        cases same
        rfl
    obtain ⟨scheme, rest, https, parts, plain, form⟩ := ruleSetHost_ok found
    obtain ⟨rfl, rfl⟩ := target_named documented https parts plain dialed
    obtain ⟨hosts, ports⟩ := normalize_names form allowedForm
    exact ⟨authority, mem, hosts, ports⟩

end Fetched

/-- A library that reads https URLs as documented, and refuses any other. -/
def plainHttp : Http where
  parse url :=
    match splitOnce ':' url with
    | some (_, '/' :: '/' :: rest) =>
      let text := rest.takeWhile fun c => !(c = '/' || c = '?' || c = '#')
      if lone text then none
      else some (some ⟨text, hostPart text, (portPart text).bind parseU16⟩)
    | _ => none

theorem plainHttp_parse {url : List Char} {authority : Authority}
    (parsed : plainHttp.parse url = some (some authority)) :
    authority = ⟨authority.text, hostPart authority.text, (portPart authority.text).bind parseU16⟩ ∧
      lone authority.text = false := by
  simp only [plainHttp] at parsed
  split at parsed
  · split_ifs at parsed with open'
    cases parsed
    exact ⟨rfl, by simpa using open'⟩
  · cases parsed

theorem plainHttp_documented : plainHttp.Documented where
  text scheme rest authority https parsed := by
    have plain : ':' ∉ scheme := by
      rw [← mem_lower (by decide), https]
      decide
    have found : splitOnce ':' (scheme ++ "://".toList ++ rest) =
        some (scheme, '/' :: '/' :: rest) := splitOnce_eq_some.2 ⟨plain, by simp⟩
    simp only [plainHttp, found] at parsed
    split_ifs at parsed
    cases parsed
    rfl
  host url authority parsed _ := by
    rw [(plainHttp_parse parsed).1]
  port url authority parsed _ := by
    rw [(plainHttp_parse parsed).1]
  closed url authority parsed _ := (plainHttp_parse parsed).2

theorem fetched_where_pinned_sample :
    let allowed := ["api.example.com", "2001:db8::1"]
    let set : RuleSet := ⟨"cn", "https://[2001:DB8::1]:443/cn.srs", "", 0⟩
    target plainHttp set.url.toList = some ("2001:DB8::1".toList, 443) ∧
      (∃ authority ∈ allowed,
        toAsciiLowercase "2001:DB8::1".toList = toAsciiLowercase (namedHost authority.toList) ∧
          443 = namedPort authority.toList) ∧
      namedPort "API.example.com:8443".toList = namedPort "api.EXAMPLE.com:8443".toList := by
  intro allowed set
  obtain ⟨pinned, names⟩ := fetched_where_pinned plainHttp_documented
  have dialed : target plainHttp set.url.toList = some ("2001:DB8::1".toList, 443) := by decide
  refine ⟨dialed, pinned allowed set _ _ (by decide) dialed, ?_⟩
  exact (names _ _ "api.example.com:8443".toList (by decide) (by decide)).2

end PpvpnCore.RuleSets
