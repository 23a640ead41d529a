import PpvpnCore.Engine.LogLine
import PpvpnCore.Lib.Fields

/-!
Log lines as the apps read them (`LogParser` of the .NET and the macOS app).

`parseLogfmt` and `unquote` are the same program in both, over the characters of
a text. In .NET these are code units, for ASCII its characters; in Swift a
carriage return and a line feed are one character.

* `parseLogfmt_body`: what both read of a line.
* `read_back`: when that is what was written.
-/

namespace PpvpnCore.LogLine

open Lib

/-! ## The readers -/

section Reader

variable {α : Type} [DecidableEq α] (lit : Char → α)

/-- How far a quoted value goes after its first quote. -/
def quotedEnd : List α → Nat
  | [] => 0
  | c :: rest =>
    if c = lit '"' then 1
    else if c = lit '\\' then
      match rest with
      | [] => 1
      | _ :: rest => quotedEnd rest + 2
    else quotedEnd rest + 1

def escaped (next : α) : α :=
  if next = lit 'n' then lit '\n'
  else if next = lit 't' then lit '\t'
  else if next = lit 'r' then lit '\r'
  else next

def unescape : List α → List α
  | [] => []
  | c :: rest =>
    if c = lit '\\' then
      match rest with
      | [] => [c]
      | next :: rest => escaped lit next :: unescape rest
    else c :: unescape rest

def unquote (value : List α) : List α :=
  if value.length < 2 ∨ value.head? ≠ some (lit '"') ∨ value.getLast? ≠ some (lit '"') then value
  else
    let inner := value.tail.dropLast
    if lit '\\' ∈ inner then unescape lit inner else inner

/-- The start of the next pair. -/
def skipSpaces (text : List α) : List α := text.dropWhile (· = lit ' ')

/-- What a key is made of. -/
def keyed (c : α) : Bool := c ≠ lit '=' ∧ c ≠ lit ' '

theorem length_rest {text rest : List α} {c : α}
    (left : (skipSpaces lit text).dropWhile (keyed lit) = c :: rest) : rest.length < text.length := by
  have after := (List.dropWhile_suffix (keyed lit) (l := skipSpaces lit text)).length_le
  have start := (List.dropWhile_suffix (fun c => decide (c = lit ' ')) (l := text)).length_le
  rw [left] at after
  unfold skipSpaces at after
  simp only [List.length_cons] at after
  omega

/-- Pairs in order; a bare word becomes a key with an empty value. A text is made
of characters by `str`, and its quotes are taken off by `unq`. -/
def parseLogfmt (str : List α → List Char) (unq : List Char → List Char) (text : List α) :
    List (List Char × List Char) :=
  if skipSpaces lit text = [] then []
  else
    let key := str ((skipSpaces lit text).takeWhile (keyed lit))
    match _left : (skipSpaces lit text).dropWhile (keyed lit) with
    | [] => [(key, [])]
    | c :: rest =>
      if c = lit ' ' then (key, []) :: parseLogfmt str unq rest
      else if rest.head? = some (lit '"') then
        let n := quotedEnd lit rest.tail + 1
        (key, unq (str (rest.take n))) :: parseLogfmt str unq (rest.drop n)
      else
        (key, str (rest.takeWhile (· ≠ lit ' '))) ::
          parseLogfmt str unq (rest.dropWhile (· ≠ lit ' '))
termination_by text.length
decreasing_by
  · exact length_rest lit _left
  · have less := length_rest lit _left
    simp only [List.length_drop]
    omega
  · have less := length_rest lit _left
    have shorter := (List.dropWhile_suffix (fun c => decide (c ≠ lit ' ')) (l := rest)).length_le
    omega

end Reader

/-- The characters of a text in Swift. -/
def characters : List Char → List (List Char)
  | [] => []
  | '\r' :: '\n' :: rest => ['\r', '\n'] :: characters rest
  | c :: rest => [c] :: characters rest

namespace DotNet

def unquote (value : List Char) : List Char := LogLine.unquote id value

def parseLogfmt (text : List Char) : List (List Char × List Char) :=
  LogLine.parseLogfmt id id unquote text

end DotNet

namespace MacOs

def unquote (value : List Char) : List Char :=
  (LogLine.unquote (fun c => [c]) (characters value)).flatten

def parseLogfmt (text : List Char) : List (List Char × List Char) :=
  LogLine.parseLogfmt (fun c => [c]) List.flatten unquote (characters text)

end MacOs

/-! ## What an escaped text is read as -/

/-- A control character without an escape of its own. -/
def Coded (c : Char) : Prop :=
  c ≠ '\n' ∧ c ≠ '\r' ∧ c ≠ '\t' ∧ (c.toNat < 0x20 ∨ c.toNat = 0x7f)

instance Coded.decidable (c : Char) : Decidable (Coded c) :=
  inferInstanceAs (Decidable (c ≠ '\n' ∧ c ≠ '\r' ∧ c ≠ '\t' ∧ (c.toNat < 0x20 ∨ c.toNat = 0x7f)))

/-- The readers know no `\x`. -/
def seen (c : Char) : List Char := if Coded c then 'x' :: hex2 c.toNat else [c]

def readBack (s : List Char) : List Char := if needsQuotes s then s.flatMap seen else s

/-- A value with its quotes taken off, when it has any. -/
def readWith (unq : List Char → List Char) (s : List Char) : List Char :=
  if needsQuotes s then unq (quote s) else s

theorem escape_cases (c : Char) :
    (∃ d, escape c = ['\\', d] ∧ seen c = [escaped id d] ∧ ¬ Coded c ∧ d ≠ '\n' ∧ d ≠ 'x') ∨
      (escape c = '\\' :: 'x' :: hex2 c.toNat ∧ Coded c) ∨
      (escape c = [c] ∧ ¬ Coded c ∧ c ≠ '"' ∧ c ≠ '\\' ∧ c ≠ '\n') := by
  unfold escape seen
  by_cases quote : c = '"'
  · subst quote
    exact .inl ⟨'"', rfl, by decide, by decide, by decide, by decide⟩
  by_cases slash : c = '\\'
  · subst slash
    exact .inl ⟨'\\', rfl, by decide, by decide, by decide, by decide⟩
  by_cases feed : c = '\n'
  · subst feed
    exact .inl ⟨'n', rfl, by decide, by decide, by decide, by decide⟩
  by_cases ret : c = '\r'
  · subst ret
    exact .inl ⟨'r', rfl, by decide, by decide, by decide, by decide⟩
  by_cases tab : c = '\t'
  · subst tab
    exact .inl ⟨'t', rfl, by decide, by decide, by decide, by decide⟩
  rw [if_neg quote, if_neg slash, if_neg feed, if_neg ret, if_neg tab]
  by_cases control : c.toNat < 0x20 ∨ c.toNat = 0x7f
  · exact .inr (.inl ⟨if_pos control, feed, ret, tab, control⟩)
  · exact .inr (.inr ⟨if_neg control, fun coded => control coded.2.2.2, quote, slash, feed⟩)

theorem hex2_plain {n : Nat} {c : Char} (mem : c ∈ hex2 n) : c ∈ digits := by
  unfold hex2 at mem
  rcases List.mem_append.1 mem with zero | digit
  · rw [List.eq_of_mem_replicate zero]
    decide
  · exact mem_toDigits (by decide) (by decide) digit

section Read

variable {α : Type} [DecidableEq α] {lit : Char → α} (inj : Function.Injective lit)

include inj

theorem quotedEnd_plain {c : Char} (notQuote : c ≠ '"') (notSlash : c ≠ '\\') (t : List α) :
    quotedEnd lit (lit c :: t) = quotedEnd lit t + 1 := by
  rw [quotedEnd.eq_def]
  simp only [if_neg (inj.ne notQuote), if_neg (inj.ne notSlash)]

theorem quotedEnd_plains {cs : List Char} (plain : ∀ c ∈ cs, c ≠ '"' ∧ c ≠ '\\') (t : List α) :
    quotedEnd lit (cs.map lit ++ t) = cs.length + quotedEnd lit t := by
  induction cs with
  | nil => simp
  | cons c cs ih =>
    obtain ⟨notQuote, notSlash⟩ := plain c List.mem_cons_self
    have rest := ih fun d mem => plain d (List.mem_cons_of_mem _ mem)
    rw [List.map_cons, List.cons_append, quotedEnd_plain inj notQuote notSlash, rest, List.length_cons]
    omega

theorem quotedEnd_escaped (x : α) (t : List α) :
    quotedEnd lit (lit '\\' :: x :: t) = quotedEnd lit t + 2 := by
  rw [quotedEnd.eq_def]
  simp only [if_neg (inj.ne (show '\\' ≠ '"' by decide)), if_true]

theorem quotedEnd_escape (c : Char) (t : List α) :
    quotedEnd lit ((escape c).map lit ++ t) = (escape c).length + quotedEnd lit t := by
  rcases escape_cases c with ⟨d, written, -, -⟩ | ⟨written, -⟩ | ⟨written, -, notQuote, notSlash, -⟩
  · rw [written]
    show quotedEnd lit (lit '\\' :: lit d :: t) = 2 + quotedEnd lit t
    rw [quotedEnd_escaped inj, Nat.add_comm]
  · rw [written]
    show quotedEnd lit (lit '\\' :: lit 'x' :: ((hex2 c.toNat).map lit ++ t)) = _
    have plain : ∀ d ∈ hex2 c.toNat, d ≠ '"' ∧ d ≠ '\\' := by
      intro d mem
      have digit := hex2_plain mem
      constructor
      · rintro rfl
        exact absurd digit (by decide)
      · rintro rfl
        exact absurd digit (by decide)
    rw [quotedEnd_escaped inj, quotedEnd_plains inj plain]
    simp only [List.length_cons]
    omega
  · rw [written]
    exact quotedEnd_plains inj (fun d mem => by rw [List.mem_singleton.1 mem]; exact ⟨notQuote, notSlash⟩) t

/-- The value ends at its closing quote. -/
theorem quotedEnd_value (s : List Char) (t : List α) :
    quotedEnd lit ((s.flatMap escape).map lit ++ lit '"' :: t) = (s.flatMap escape).length + 1 := by
  induction s with
  | nil =>
    show quotedEnd lit (lit '"' :: t) = 1
    rw [quotedEnd.eq_def]
    exact if_pos rfl
  | cons c s ih =>
    rw [List.flatMap_cons, List.map_append, List.append_assoc, quotedEnd_escape inj, ih,
      List.length_append]
    omega

theorem unescape_plain {c : Char} (notSlash : c ≠ '\\') (t : List α) :
    unescape lit (lit c :: t) = lit c :: unescape lit t := by
  rw [unescape.eq_def]
  simp only [if_neg (inj.ne notSlash)]

theorem unescape_plains {cs : List Char} (plain : '\\' ∉ cs) (t : List α) :
    unescape lit (cs.map lit ++ t) = cs.map lit ++ unescape lit t := by
  induction cs with
  | nil => rfl
  | cons c cs ih =>
    rw [List.mem_cons, not_or] at plain
    rw [List.map_cons, List.cons_append, unescape_plain inj (Ne.symm plain.1), ih plain.2]
    rfl

omit inj in
theorem unescape_escaped (x : α) (t : List α) :
    unescape lit (lit '\\' :: x :: t) = escaped lit x :: unescape lit t := by
  rw [unescape.eq_def]
  simp only [if_true]

theorem escaped_lit (d : Char) : escaped lit (lit d) = lit (escaped id d) := by
  unfold escaped
  simp only [inj.eq_iff, id_eq]
  split
  · rfl
  · split
    · rfl
    · split <;> rfl

theorem unescape_escape (c : Char) (t : List α) :
    unescape lit ((escape c).map lit ++ t) = (seen c).map lit ++ unescape lit t := by
  rcases escape_cases c with ⟨d, written, read, -⟩ | ⟨written, coded⟩ | ⟨written, plain, -, notSlash, -⟩
  · rw [written, read]
    show unescape lit (lit '\\' :: lit d :: t) = lit (escaped id d) :: unescape lit t
    rw [unescape_escaped, escaped_lit inj]
  · rw [written, seen, if_pos coded]
    show unescape lit (lit '\\' :: lit 'x' :: ((hex2 c.toNat).map lit ++ t)) = _
    have noSlash : '\\' ∉ hex2 c.toNat := fun mem => absurd (hex2_plain mem) (by decide)
    rw [unescape_escaped, escaped_lit inj, unescape_plains inj noSlash]
    rfl
  · rw [written, seen, if_neg plain]
    exact unescape_plains inj (fun mem => notSlash (List.mem_singleton.1 mem).symm) t

theorem unescape_value (s : List Char) :
    unescape lit ((s.flatMap escape).map lit) = (s.flatMap seen).map lit := by
  induction s with
  | nil => rfl
  | cons c s ih =>
    rw [List.flatMap_cons, List.map_append, unescape_escape inj, ih, List.flatMap_cons, List.map_append]

/-- What is written between quotes is read without them. -/
theorem unquote_quote {s : List Char} (quoted : needsQuotes s = true) :
    unquote lit ((quote s).map lit) = (s.flatMap seen).map lit := by
  have written : (quote s).map lit = lit '"' :: ((s.flatMap escape).map lit ++ [lit '"']) := by
    unfold quote
    rw [if_pos quoted]
    simp
  have inner : (lit '"' :: ((s.flatMap escape).map lit ++ [lit '"'])).tail.dropLast =
      (s.flatMap escape).map lit := List.dropLast_concat
  unfold unquote
  rw [written, if_neg (by simp [List.getLast?_cons])]
  dsimp only
  rw [inner]
  split
  · exact unescape_value inj s
  next noSlash =>
    have plain : '\\' ∉ s.flatMap escape := fun mem => noSlash (List.mem_map_of_mem mem)
    rw [← unescape_value inj s]
    have same := unescape_plains inj plain []
    rw [List.append_nil] at same
    rw [same]
    simp [unescape]

/-! ## Pairs -/

variable {str : List α → List Char} {unq : List Char → List Char} {key s : List Char}

/-- A key ends at its sign. -/
theorem key_ends (plain : '=' ∉ key ∧ ' ' ∉ key) (after : List α) :
    (key.map lit ++ lit '=' :: after).takeWhile (keyed lit) = key.map lit ∧
      (key.map lit ++ lit '=' :: after).dropWhile (keyed lit) = lit '=' :: after := by
  have all : ∀ c ∈ key.map lit, keyed lit c = true := by
    intro c mem
    obtain ⟨d, inKey, rfl⟩ := List.mem_map.1 mem
    have notSign : d ≠ '=' := by
      rintro rfl
      exact plain.1 inKey
    have notSpace : d ≠ ' ' := by
      rintro rfl
      exact plain.2 inKey
    simp [keyed, inj.ne notSign, inj.ne notSpace]
  have stop : keyed lit (lit '=') = false := by simp [keyed]
  rw [List.takeWhile_append_of_pos all, List.dropWhile_append_of_pos all, List.takeWhile_cons,
    List.dropWhile_cons, stop]
  simp

theorem skipSpaces_key (plain : '=' ∉ key ∧ ' ' ∉ key) (after : List α) :
    skipSpaces lit (lit ' ' :: (key.map lit ++ lit '=' :: after)) = key.map lit ++ lit '=' :: after := by
  unfold skipSpaces
  rw [List.dropWhile_cons, if_pos (by simp)]
  cases key with
  | nil =>
    have ne : lit '=' ≠ lit ' ' := inj.ne (by decide)
    simp [ne]
  | cons c key =>
    have ne : lit c ≠ lit ' ' := inj.ne fun eq => plain.2 (eq ▸ List.mem_cons_self)
    simp [ne]

/-- A value without quotes goes to the next space. -/
theorem value_ends {rest : List α} (plain : ' ' ∉ s) (next : rest = [] ∨ ∃ t, rest = lit ' ' :: t) :
    (s.map lit ++ rest).takeWhile (· ≠ lit ' ') = s.map lit ∧
      (s.map lit ++ rest).dropWhile (· ≠ lit ' ') = rest := by
  have all : ∀ c ∈ s.map lit, decide (c ≠ lit ' ') = true := by
    intro c mem
    obtain ⟨d, inside, rfl⟩ := List.mem_map.1 mem
    have ne : d ≠ ' ' := by
      rintro rfl
      exact plain inside
    simp [inj.ne ne]
  rw [List.takeWhile_append_of_pos all, List.dropWhile_append_of_pos all]
  rcases next with rfl | ⟨t, rfl⟩
  · simp
  · simp

omit inj in
theorem bare_spec (bare : needsQuotes s = false) : s ≠ [] ∧ ' ' ∉ s ∧ '"' ∉ s := by
  unfold needsQuotes at bare
  rw [Bool.or_eq_false_iff, List.any_eq_false] at bare
  obtain ⟨some, plain⟩ := bare
  refine ⟨by simpa using some, fun mem => ?_, fun mem => ?_⟩
  · exact plain ' ' mem (by decide)
  · exact plain '"' mem (by decide)

/-- One pair, and what follows it. -/
theorem parseLogfmt_pair (str_map : ∀ cs : List Char, str (cs.map lit) = cs)
    (plain : '=' ∉ key ∧ ' ' ∉ key) {rest : List α} (next : rest = [] ∨ ∃ t, rest = lit ' ' :: t) :
    parseLogfmt lit str unq (lit ' ' :: (key.map lit ++ lit '=' :: ((quote s).map lit ++ rest))) =
      (key, readWith unq s) :: parseLogfmt lit str unq rest := by
  obtain ⟨takes, drops⟩ := key_ends inj plain ((quote s).map lit ++ rest)
  rw [parseLogfmt, skipSpaces_key inj plain, if_neg (by simp), takes, str_map]
  split
  next left =>
    rw [drops] at left
    cases left
  next c after left =>
    rw [drops] at left
    cases left
    rw [if_neg (inj.ne (by decide))]
    cases quoted : needsQuotes s with
    | true =>
      have value : (quote s).map lit ++ rest =
          lit '"' :: ((s.flatMap escape).map lit ++ lit '"' :: rest) := by
        unfold quote
        rw [if_pos quoted]
        simp
      have taken : ((quote s).map lit ++ rest).take ((s.flatMap escape).length + 1 + 1) =
          (quote s).map lit := by
        have length : ((quote s).map lit).length = (s.flatMap escape).length + 1 + 1 := by
          unfold quote
          rw [if_pos quoted]
          simp
        rw [← length, List.take_left]
      have dropped : ((quote s).map lit ++ rest).drop ((s.flatMap escape).length + 1 + 1) = rest := by
        have length : ((quote s).map lit).length = (s.flatMap escape).length + 1 + 1 := by
          unfold quote
          rw [if_pos quoted]
          simp
        rw [← length, List.drop_left]
      have ends : quotedEnd lit ((quote s).map lit ++ rest).tail = (s.flatMap escape).length + 1 := by
        rw [value]
        exact quotedEnd_value inj s rest
      rw [if_pos (by rw [value]; rfl)]
      dsimp only
      rw [ends, taken, dropped, str_map, readWith, if_pos quoted]
    | false =>
      obtain ⟨nonempty, noSpace, noQuote⟩ := bare_spec quoted
      have bare : quote s = s := by
        unfold quote
        rw [if_neg (by rw [quoted]; decide)]
      obtain ⟨takes, drops⟩ := value_ends inj noSpace next
      have unquoted : (s.map lit ++ rest).head? ≠ some (lit '"') := by
        cases s with
        | nil => exact absurd rfl nonempty
        | cons c s =>
          intro head
          have same : c = '"' := inj (Option.some.inj head)
          exact noQuote (same ▸ List.mem_cons_self)
      rw [bare, if_neg unquoted, takes, drops, str_map, readWith, if_neg (by rw [quoted]; decide)]

/-- The pairs of a line. -/
theorem parseLogfmt_fields (str_map : ∀ cs : List Char, str (cs.map lit) = cs) {fields : List Field}
    (plain : ∀ f ∈ fields, '=' ∉ f.key ∧ ' ' ∉ f.key) :
    parseLogfmt lit str unq ((fields.flatMap Field.text).map lit) =
      fields.map fun f => (f.key, readWith unq f.value) := by
  induction fields with
  | nil =>
    rw [parseLogfmt]
    rfl
  | cons f fields ih =>
    have next : (fields.flatMap Field.text).map lit = [] ∨
        ∃ t, (fields.flatMap Field.text).map lit = lit ' ' :: t := by
      cases fields with
      | nil => exact .inl rfl
      | cons g fields => exact .inr ⟨_, rfl⟩
    have pair : parseLogfmt lit str unq (lit ' ' :: (f.key.map lit ++ lit '=' ::
        ((quote f.value).map lit ++ (fields.flatMap Field.text).map lit))) = _ :=
      parseLogfmt_pair inj str_map (plain f List.mem_cons_self) next
    have text : ((f :: fields).flatMap Field.text).map lit = lit ' ' :: (f.key.map lit ++
        lit '=' :: ((quote f.value).map lit ++ (fields.flatMap Field.text).map lit)) := by
      simp [Field.text]
    rw [text, pair, ih fun g mem => plain g (List.mem_cons_of_mem _ mem)]
    rfl

end Read

/-! ## The two apps -/

theorem characters_plain {cs : List Char} (plain : '\n' ∉ cs) : characters cs = cs.map fun c => [c] := by
  induction cs with
  | nil => rfl
  | cons c cs ih =>
    rw [List.mem_cons, not_or] at plain
    rw [characters.eq_def]
    split
    next eq => cases eq
    next rest eq =>
      cases eq
      exact absurd List.mem_cons_self plain.2
    next c' rest _ eq =>
      cases eq
      rw [ih plain.2]
      rfl

theorem flatten_singletons (cs : List Char) : (cs.map fun c => [c]).flatten = cs := by
  induction cs with
  | nil => rfl
  | cons c cs ih =>
    rw [List.map_cons, List.flatten_cons, ih]
    rfl

theorem singleton_injective : Function.Injective fun c : Char => [c] := fun _ _ eq =>
  List.singleton_inj.1 eq

/-! ## Lines -/

theorem quote_noFeed (s : List Char) : '\n' ∉ quote s := by
  unfold quote
  cases quoted : needsQuotes s with
  | true =>
    have escapes : ∀ c, '\n' ∉ escape c := by
      intro c
      rcases escape_cases c with ⟨d, written, -, -, notFeed, -⟩ | ⟨written, -⟩ | ⟨written, -, -, -, notFeed⟩
      · rw [written]
        simp [Ne.symm notFeed]
      · have plain : '\n' ∉ hex2 c.toNat := fun mem => absurd (hex2_plain mem) (by decide)
        rw [written]
        simp [plain]
      · rw [written]
        simp [Ne.symm notFeed]
    simp [escapes]
  | false =>
    intro mem
    unfold needsQuotes at quoted
    rw [Bool.or_eq_false_iff, List.any_eq_false] at quoted
    exact quoted.2 '\n' mem (by decide)

theorem fraction_digits {n : Nat} {c : Char} (mem : c ∈ fraction n) : c = '.' ∨ c.isDigit = true := by
  unfold fraction at mem
  split at mem
  · cases mem
  · rcases List.mem_cons.1 mem with dot | digit
    · exact .inl dot
    · exact .inr (isDigit_padded ((List.rdropWhile_prefix _ _).subset digit))

/-- A time has no spaces and line feeds. -/
theorem absent_rfc3339Nano {c : Char} (other : c ∉ ['-', 'T', ':', '.', 'Z']) (plain : c.isDigit = false)
    (at_ : SystemTime) : c ∉ rfc3339Nano at_ := by
  simp only [List.mem_cons, List.not_mem_nil, or_false, not_or] at other
  intro mem
  unfold rfc3339Nano dateText at mem
  simp only [List.mem_append, List.mem_cons, List.not_mem_nil, or_false, other, false_or,
    absent_padded plain] at mem
  rcases fraction_digits mem with dot | digit
  · exact other.2.2.2.1 dot
  · rw [digit] at plain
    cases plain

/-- A record: its texts are ASCII, and its keys are words of their own. -/
structure Record where
  level : Level
  msg : List Char
  fields : List Field
  nonempty : msg ≠ []
  ascii : ∀ s ∈ msg :: fields.map Field.value, ∀ c ∈ s, c.toNat < 128
  words : ∀ f ∈ fields, ∀ c ∈ f.key, c.isAlphanum ∨ c = '_'
  own : ∀ f ∈ fields, f.key ∉ ["time".toList, "level".toList, "msg".toList, "message".toList]

namespace Record

/-- The texts that are quoted when they must be. -/
def texts (r : Record) : List (List Char) := r.msg :: r.fields.map Field.value

def body (r : Record) : List Char := LogLine.body r.level.name r.msg r.fields

def line (r : Record) (at_ : SystemTime) : List Char := LogLine.line at_ r.level.name r.msg r.fields

/-- The level, the message and the fields, as pairs. -/
def pairs (r : Record) : List (List Char × List Char) :=
  ("level".toList, r.level.name) :: ("msg".toList, r.msg) :: r.fields.map fun f => (f.key, f.value)

/-- All of it as fields. -/
def allFields (r : Record) : List Field :=
  ⟨"level".toList, r.level.name⟩ :: ⟨"msg".toList, r.msg⟩ :: r.fields

theorem body_eq (r : Record) : r.body = r.allFields.flatMap Field.text := by
  have bare : quote r.level.name = r.level.name := by cases r.level <;> decide
  unfold body LogLine.body allFields
  rw [List.flatMap_cons, List.flatMap_cons, Field.text, Field.text, bare]
  simp

theorem plain_keys (r : Record) : ∀ f ∈ r.allFields, ('=' ∉ f.key ∧ ' ' ∉ f.key) ∧ '\n' ∉ f.key := by
  intro f mem
  simp only [allFields, List.mem_cons] at mem
  have level : ('=' ∉ "level".toList ∧ ' ' ∉ "level".toList) ∧ '\n' ∉ "level".toList := by decide
  have msg : ('=' ∉ "msg".toList ∧ ' ' ∉ "msg".toList) ∧ '\n' ∉ "msg".toList := by decide
  rcases mem with rfl | rfl | mem
  · exact level
  · exact msg
  · have word := r.words f mem
    have absent : ∀ c : Char, c.isAlphanum = false → c ≠ '_' → c ∉ f.key := by
      intro c other notLow inKey
      rcases word c inKey with alpha | low
      · rw [other] at alpha
        cases alpha
      · exact notLow low
    exact ⟨⟨absent _ (by decide) (by decide), absent _ (by decide) (by decide)⟩,
      absent _ (by decide) (by decide)⟩

theorem body_noFeed (r : Record) : '\n' ∉ r.body := by
  rw [body_eq]
  intro mem
  obtain ⟨f, inFields, inText⟩ := List.mem_flatMap.1 mem
  have key := (r.plain_keys f inFields).2
  unfold Field.text at inText
  simp [key, quote_noFeed] at inText

theorem line_noFeed (r : Record) (at_ : SystemTime) : '\n' ∉ r.line at_ := by
  intro mem
  rcases List.mem_append.1 mem with inTime | inBody
  · exact absent_rfc3339Nano (by decide) (by decide) at_ inTime
  · exact r.body_noFeed inBody

theorem readWith_dotNet (s : List Char) : readWith DotNet.unquote s = readBack s := by
  unfold readWith readBack
  split
  next quoted =>
    have back : LogLine.unquote id ((quote s).map id) = _ :=
      unquote_quote Function.injective_id quoted
    rwa [List.map_id, List.map_id] at back
  next => rfl

theorem readWith_macOs (s : List Char) : readWith MacOs.unquote s = readBack s := by
  unfold readWith readBack
  split
  next quoted =>
    unfold MacOs.unquote
    rw [characters_plain (quote_noFeed s), unquote_quote singleton_injective quoted,
      flatten_singletons]
  next => rfl

/-- What both apps read. -/
theorem parseLogfmt_body (r : Record) :
    DotNet.parseLogfmt r.body = r.allFields.map (fun f => (f.key, readBack f.value)) ∧
      MacOs.parseLogfmt r.body = r.allFields.map (fun f => (f.key, readBack f.value)) := by
  have plain : ∀ f ∈ r.allFields, '=' ∉ f.key ∧ ' ' ∉ f.key := fun f mem => (r.plain_keys f mem).1
  constructor
  · have read : LogLine.parseLogfmt id id DotNet.unquote ((r.allFields.flatMap Field.text).map id) =
        r.allFields.map fun f => (f.key, readWith DotNet.unquote f.value) :=
      parseLogfmt_fields Function.injective_id (fun cs => List.map_id cs) plain
    rw [List.map_id, ← body_eq] at read
    simp only [readWith_dotNet] at read
    exact read
  · have read : LogLine.parseLogfmt (fun c => [c]) List.flatten MacOs.unquote
          ((r.allFields.flatMap Field.text).map fun c => [c]) =
        r.allFields.map fun f => (f.key, readWith MacOs.unquote f.value) :=
      parseLogfmt_fields singleton_injective flatten_singletons plain
    rw [← body_eq] at read
    simp only [readWith_macOs] at read
    unfold MacOs.parseLogfmt
    rw [characters_plain r.body_noFeed]
    exact read

/-! ## Read back -/

end Record

theorem length_flatMap_seen (s : List Char) : s.length ≤ (s.flatMap seen).length := by
  induction s with
  | nil => exact Nat.le_refl _
  | cons c s ih =>
    have one : 1 ≤ (seen c).length := by
      unfold seen
      split <;> simp
    rw [List.flatMap_cons, List.length_append, List.length_cons]
    omega

theorem hex2_ne_nil (n : Nat) : hex2 n ≠ [] := by
  unfold hex2
  intro empty
  exact Nat.toDigits_ne_nil (List.append_eq_nil_iff.1 empty).2

/-- A quoted text is read back when no character of it is coded. -/
theorem flatMap_seen_eq_iff (s : List Char) : s.flatMap seen = s ↔ ∀ c ∈ s, ¬ Coded c := by
  constructor
  · intro same
    induction s with
    | nil => exact fun c mem => by cases mem
    | cons c s ih =>
      have length := congrArg List.length same
      have rest := length_flatMap_seen s
      have plain : ¬ Coded c := by
        intro coded
        have digits := List.length_pos_iff.2 (hex2_ne_nil c.toNat)
        rw [List.flatMap_cons, seen, if_pos coded, List.length_append, List.length_cons,
          List.length_cons] at length
        omega
      rw [List.flatMap_cons, seen, if_neg plain] at same
      intro d mem
      rcases List.mem_cons.1 mem with rfl | mem
      · exact plain
      · exact ih (List.cons.inj same).2 d mem
  · intro plain
    induction s with
    | nil => rfl
    | cons c s ih =>
      rw [List.flatMap_cons, seen, if_neg (plain c List.mem_cons_self),
        ih fun d mem => plain d (List.mem_cons_of_mem _ mem)]
      rfl

theorem readBack_eq_iff (s : List Char) :
    readBack s = s ↔ (needsQuotes s = true → ∀ c ∈ s, ¬ Coded c) := by
  unfold readBack
  by_cases quoted : needsQuotes s = true
  · rw [if_pos quoted, flatMap_seen_eq_iff]
    simp [quoted]
  · rw [if_neg quoted]
    simp [quoted]

/-! ## No two texts are quoted alike -/

theorem hex2_read : ∀ n < 128, (hex2 n).length = 2 ∧ readDigits 16 (hex2 n) = some n := by decide

theorem coded_lt {c : Char} (coded : Coded c) : c.toNat < 128 := by
  have control := coded.2.2.2
  omega

/-- The first character is known from its escape. -/
theorem escape_append_inj {c d : Char} {xs ys : List Char} (eq : escape c ++ xs = escape d ++ ys) :
    c = d ∧ xs = ys := by
  have self : ∀ {c e : Char}, seen c = [escaped id e] → ¬ Coded c → c = escaped id e := by
    intro c e read plain
    rw [seen, if_neg plain] at read
    exact List.singleton_inj.1 read
  rcases escape_cases c with ⟨e, written, read, plain, -, notX⟩ | ⟨written, coded⟩ |
    ⟨written, -, -, notSlash, -⟩
  · rw [written] at eq
    rcases escape_cases d with ⟨e', written', read', plain', -⟩ | ⟨written', -⟩ |
      ⟨written', -, -, notSlash', -⟩
    · rw [written'] at eq
      simp only [List.cons_append, List.nil_append, List.cons.injEq, true_and] at eq
      rw [self read plain, self read' plain', eq.1]
      exact ⟨rfl, eq.2⟩
    · rw [written'] at eq
      simp only [List.cons_append, List.nil_append, List.cons.injEq, true_and] at eq
      exact absurd eq.1 notX
    · rw [written'] at eq
      simp only [List.cons_append, List.nil_append, List.cons.injEq] at eq
      exact absurd eq.1.symm notSlash'
  · rw [written] at eq
    rcases escape_cases d with ⟨e', written', -, -, -, notX'⟩ | ⟨written', coded'⟩ |
      ⟨written', -, -, notSlash', -⟩
    · rw [written'] at eq
      simp only [List.cons_append, List.nil_append, List.cons.injEq, true_and] at eq
      exact absurd eq.1.symm notX'
    · rw [written'] at eq
      simp only [List.cons_append, List.cons.injEq, true_and] at eq
      obtain ⟨length, number⟩ := hex2_read c.toNat (coded_lt coded)
      obtain ⟨length', number'⟩ := hex2_read d.toNat (coded_lt coded')
      obtain ⟨digits, rest⟩ := List.append_inj eq (length.trans length'.symm)
      rw [digits, number'] at number
      exact ⟨Char.toNat_inj.1 (Option.some.inj number).symm, rest⟩
    · rw [written'] at eq
      simp only [List.cons_append, List.nil_append, List.cons.injEq] at eq
      exact absurd eq.1.symm notSlash'
  · rw [written] at eq
    rcases escape_cases d with ⟨e', written', -⟩ | ⟨written', -⟩ | ⟨written', -⟩
    · rw [written'] at eq
      simp only [List.cons_append, List.nil_append, List.cons.injEq] at eq
      exact absurd eq.1 notSlash
    · rw [written'] at eq
      simp only [List.cons_append, List.nil_append, List.cons.injEq] at eq
      exact absurd eq.1 notSlash
    · rw [written'] at eq
      simp only [List.cons_append, List.nil_append, List.cons.injEq] at eq
      exact eq

theorem flatMap_escape_injective {s t : List Char} (eq : s.flatMap escape = t.flatMap escape) :
    s = t := by
  have some : ∀ c, escape c ≠ [] := by
    intro c empty
    rcases escape_cases c with ⟨e, written, -⟩ | ⟨written, -⟩ | ⟨written, -⟩ <;>
      · rw [written] at empty
        cases empty
  induction s generalizing t with
  | nil =>
    cases t with
    | nil => rfl
    | cons d t => exact absurd (List.append_eq_nil_iff.1 eq.symm).1 (some d)
  | cons c s ih =>
    cases t with
    | nil => exact absurd (List.append_eq_nil_iff.1 eq).1 (some c)
    | cons d t =>
      rw [List.flatMap_cons, List.flatMap_cons] at eq
      obtain ⟨first, rest⟩ := escape_append_inj eq
      rw [first, ih rest]

theorem quote_injective {s t : List Char} (eq : quote s = quote t) : s = t := by
  have opens : ∀ {s t : List Char}, needsQuotes s = true → needsQuotes t = false →
      quote s ≠ quote t := by
    intro s t quoted bare eq
    unfold quote at eq
    rw [if_pos quoted, if_neg (by rw [bare]; decide)] at eq
    have mem : '"' ∈ t := by
      rw [← eq]
      exact List.mem_cons_self
    exact (bare_spec bare).2.2 mem
  cases first : needsQuotes s with
  | true =>
    cases second : needsQuotes t with
    | true =>
      unfold quote at eq
      rw [if_pos first, if_pos second] at eq
      exact flatMap_escape_injective (List.append_cancel_right (List.cons.inj eq).2)
    | false => exact absurd eq (opens first second)
  | false =>
    cases second : needsQuotes t with
    | true => exact absurd eq.symm (opens second first)
    | false =>
      unfold quote at eq
      rwa [if_neg (by rw [first]; decide), if_neg (by rw [second]; decide)] at eq

namespace Record

/-- Without the quotes taken off, the pairs of a line are its quoted texts. -/
theorem parseLogfmt_raw (r : Record) :
    LogLine.parseLogfmt id id id r.body = r.allFields.map fun f => (f.key, quote f.value) := by
  have plain : ∀ f ∈ r.allFields, '=' ∉ f.key ∧ ' ' ∉ f.key := fun f mem => (r.plain_keys f mem).1
  have read : LogLine.parseLogfmt id id id ((r.allFields.flatMap Field.text).map id) =
      r.allFields.map fun f => (f.key, readWith id f.value) :=
    parseLogfmt_fields Function.injective_id (fun cs => List.map_id cs) plain
  rw [List.map_id, ← body_eq] at read
  rw [read]
  refine List.map_congr_left fun f _ => ?_
  unfold readWith quote
  split <;> rfl

/-- A line is of one record. -/
theorem body_injective {r r' : Record} (eq : r.body = r'.body) : r.allFields = r'.allFields := by
  have raw := r.parseLogfmt_raw
  rw [eq, parseLogfmt_raw] at raw
  have inj : Function.Injective fun f : Field => (f.key, quote f.value) := by
    intro f g same
    obtain ⟨key, value⟩ := Prod.mk.inj same
    exact Field.ext key (quote_injective value)
  exact (List.map_injective_iff.2 inj) raw.symm

theorem line_injective {r r' : Record} {s t : SystemTime} (eq : r.line s = r'.line t) :
    s.toNat = t.toNat ∧ r.level = r'.level ∧ r.msg = r'.msg ∧ r.fields = r'.fields := by
  -- the time goes to the first space
  have begins : ∀ r : Record, ∃ rest, r.body = ' ' :: rest := fun r => by
    rw [body_eq]
    exact ⟨_, rfl⟩
  have noSpace : ∀ u : SystemTime, ' ' ∉ rfc3339Nano u := absent_rfc3339Nano (by decide) (by decide)
  obtain ⟨rest, body⟩ := begins r
  obtain ⟨rest', body'⟩ := begins r'
  have split : splitOnce ' ' (r.line s) = some (rfc3339Nano s, rest) :=
    splitOnce_eq_some.2 ⟨noSpace s, congrArg (rfc3339Nano s ++ ·) body⟩
  have split' : splitOnce ' ' (r'.line t) = some (rfc3339Nano t, rest') :=
    splitOnce_eq_some.2 ⟨noSpace t, congrArg (rfc3339Nano t ++ ·) body'⟩
  rw [eq, split'] at split
  obtain ⟨time, follows⟩ := Prod.mk.inj (Option.some.inj split)
  have same : r.body = r'.body := by rw [body, body', follows]
  have all := body_injective same
  simp only [allFields, List.cons.injEq, Field.mk.injEq, true_and] at all
  obtain ⟨level, msg, fields⟩ := all
  refine ⟨(rfc3339Nano_injective time).symm, ?_, msg, fields⟩
  generalize r.level = level₁ at level ⊢
  generalize r'.level = level₂ at level ⊢
  cases level₁ <;> cases level₂ <;> first | rfl | exact absurd level (by decide)

/-- No line has a line feed, two records from the epoch on are printed
differently, and both apps read a record back just when no text of it that is
quoted has a control character without an escape of its own. -/
theorem read_back (r : Record) (at_ : SystemTime) :
    '\n' ∉ r.line at_ ∧
    (DotNet.parseLogfmt r.body = r.pairs ↔
      ∀ s ∈ r.texts, needsQuotes s = true → ∀ c ∈ s, ¬ Coded c) ∧
    (MacOs.parseLogfmt r.body = r.pairs ↔
      ∀ s ∈ r.texts, needsQuotes s = true → ∀ c ∈ s, ¬ Coded c) ∧
    ∀ (r' : Record) (at' : SystemTime), r.line at_ = r'.line at' →
      at_.toNat = at'.toNat ∧ r.level = r'.level ∧ r.msg = r'.msg ∧ r.fields = r'.fields := by
  have level : readBack r.level.name = r.level.name := by cases r.level <;> decide
  have pairs : r.allFields.map (fun f => (f.key, readBack f.value)) = r.pairs ↔
      ∀ s ∈ r.texts, needsQuotes s = true → ∀ c ∈ s, ¬ Coded c := by
    simp only [allFields, pairs, texts, List.map_cons, level, List.cons.injEq, Prod.mk.injEq,
      true_and, List.forall_mem_cons, List.forall_mem_map, readBack_eq_iff, List.map_inj_left]
  obtain ⟨dotNet, macOs⟩ := r.parseLogfmt_body
  refine ⟨r.line_noFeed at_, ?_, ?_, fun r' at' => line_injective⟩
  · rw [dotNet]
    exact pairs
  · rw [macOs]
    exact pairs

/-- A message of two words and a control character. -/
def withControl : Record where
  level := .info
  msg := ['a', ' ', Char.ofNat 1]
  fields := []
  nonempty := by decide
  ascii := by
    intro s text c mem
    obtain rfl := List.mem_singleton.1 text
    simp only [List.mem_cons, List.not_mem_nil, or_false] at mem
    rcases mem with rfl | rfl | rfl <;> decide
  words := fun f mem => by cases mem
  own := fun f mem => by cases mem

/-- It is read with the code's letters in its place. -/
theorem control_lost : ¬ ∀ r : Record, DotNet.parseLogfmt r.body = r.pairs := by
  intro always
  have lost := always withControl
  rw [withControl.parseLogfmt_body.1] at lost
  exact absurd lost (by decide)

end Record

end PpvpnCore.LogLine
