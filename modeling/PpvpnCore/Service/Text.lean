import PpvpnCore.Lib.Bytes
import PpvpnCore.Service.Json

/-!
# Compact JSON text

The text `serde_json` writes of a document, and that no two documents are written
alike: `compact` is faithful. Only doubles are not written as they are, but by their
bits.
-/

namespace PpvpnCore.Service

open Lib

/-! ## Writing -/

/-- One character of a string. -/
def escape (c : Char) : List Char :=
  if c = '"' then ['\\', '"']
  else if c = '\\' then ['\\', '\\']
  else if c = '\n' then ['\\', 'n']
  else if c = '\r' then ['\\', 'r']
  else if c = '\t' then ['\\', 't']
  else if c = '\x08' then ['\\', 'b']
  else if c = '\x0c' then ['\\', 'f']
  else if c.toNat < 32 then ['\\', 'u', '0', '0', hexChar (c.toNat / 16), hexChar (c.toNat % 16)]
  else [c]

def escaped (chars : List Char) : List Char := chars.flatMap escape ++ ['"']

def quote (s : String) : List Char := '"' :: escaped s.toList

def Number.text : Number → List Char
  | .posInt n => Nat.toDigits 10 n.toNat
  | .negInt n => '-' :: Nat.toDigits 10 n.natAbs
  | .float bits => Nat.toDigits 10 bits.toNat ++ ['.', '0']

namespace Value

mutual

def text : Value → List Char
  | .null => ['n', 'u', 'l', 'l']
  | .bool true => ['t', 'r', 'u', 'e']
  | .bool false => ['f', 'a', 'l', 's', 'e']
  | .number n => n.text
  | .string s => quote s
  | .array items => '[' :: textItems [] items
  | .object fields => '\x7b' :: textFields [] fields

/-- The items still to come, each after `comma`. -/
def textItems (comma : List Char) : List Value → List Char
  | [] => [']']
  | v :: rest => comma ++ (v.text ++ textItems [','] rest)

def textFields (comma : List Char) : List (String × Value) → List Char
  | [] => ['\x7d']
  | field :: rest => comma ++ (textField field ++ textFields [','] rest)

def textField : String × Value → List Char
  | (key, v) => quote key ++ ':' :: v.text

end

end Value

/-! ## Strings -/

/-- The character a string goes on with. -/
def unescape : List Char → Option (Char × List Char)
  | '\\' :: 'n' :: rest => some ('\n', rest)
  | '\\' :: 'r' :: rest => some ('\r', rest)
  | '\\' :: 't' :: rest => some ('\t', rest)
  | '\\' :: 'b' :: rest => some ('\x08', rest)
  | '\\' :: 'f' :: rest => some ('\x0c', rest)
  | '\\' :: 'u' :: _ :: _ :: high :: low :: rest => do
    let high ← hexDigit high
    let low ← hexDigit low
    return (Char.ofNat (16 * high + low), rest)
  | '\\' :: c :: rest => some (c, rest)
  | c :: rest => some (c, rest)
  | [] => none

theorem unescape_escape (c : Char) (rest : List Char) :
    unescape (escape c ++ rest) = some (c, rest) := by
  unfold escape
  split
  · subst_vars; rfl
  split
  · subst_vars; rfl
  split
  · subst_vars; rfl
  split
  · subst_vars; rfl
  split
  · subst_vars; rfl
  split
  · subst_vars; rfl
  split
  · subst_vars; rfl
  split
  · rename_i small
    have high := hexDigit_hexChar (c.toNat / 16) (by omega)
    have low := hexDigit_hexChar (c.toNat % 16) (by omega)
    have whole : 16 * (c.toNat / 16) + c.toNat % 16 = c.toNat := by omega
    simp [unescape, high, low, whole, Char.ofNat_toNat]
  · rename_i plain _ _ _ _ _ _
    rw [List.singleton_append, unescape.eq_def]
    split <;> simp_all

theorem head_escape (c : Char) : ∃ d rest, escape c = d :: rest ∧ d ≠ '"' := by
  unfold escape
  repeat' split
  all_goals first
    | exact ⟨_, _, rfl, by decide⟩
    | exact ⟨_, _, rfl, by assumption⟩

theorem escape_apart {c d : Char} {r s : List Char} (same : escape c ++ r = escape d ++ s) :
    c = d ∧ r = s := by
  have read := congrArg unescape same
  rw [unescape_escape, unescape_escape] at read
  exact Prod.mk.inj (Option.some.inj read)

theorem escaped_apart {chars others r s : List Char} (same : escaped chars ++ r = escaped others ++ s) :
    chars = others ∧ r = s := by
  induction chars generalizing others with
  | nil =>
    cases others with
    | nil => simpa [escaped] using same
    | cons d others =>
      obtain ⟨e, tail, head, apart⟩ := head_escape d
      simp [escaped, head] at same
      exact absurd same.1.symm apart
  | cons c chars ih =>
    cases others with
    | nil =>
      obtain ⟨e, tail, head, apart⟩ := head_escape c
      simp [escaped, head] at same
      exact absurd same.1 apart
    | cons d others =>
      simp only [escaped, List.flatMap_cons, List.append_assoc] at same
      obtain ⟨rfl, rest⟩ := escape_apart same
      obtain ⟨rfl, rfl⟩ := ih (by simpa [escaped] using rest)
      exact ⟨rfl, rfl⟩

theorem quote_apart {a b : String} {r s : List Char} (same : quote a ++ r = quote b ++ s) :
    a = b ∧ r = s := by
  simp only [quote, List.cons_append, List.cons.injEq, true_and] at same
  obtain ⟨chars, rest⟩ := escaped_apart same
  exact ⟨String.toList_inj.mp chars, rest⟩

/-! ## Numbers -/

/-- Nothing follows, or something that is no digit. -/
def Stops : List Char → Prop
  | [] => True
  | c :: _ => c.isDigit = false

theorem takeWhile_digits {digits r : List Char} (all : ∀ c ∈ digits, c.isDigit) (stops : Stops r) :
    (digits ++ r).takeWhile Char.isDigit = digits := by
  rw [List.takeWhile_append_of_pos all]
  cases r with
  | nil => simp
  | cons c rest =>
    have last : c.isDigit = false := stops
    simp [last]

theorem digits_apart {a b : Nat} {r s : List Char} (stops : Stops r) (stops' : Stops s)
    (same : Nat.toDigits 10 a ++ r = Nat.toDigits 10 b ++ s) : a = b ∧ r = s := by
  have all : ∀ n, ∀ c ∈ Nat.toDigits 10 n, c.isDigit := fun n c inside =>
    Nat.isDigit_of_mem_toDigits (by decide) (by decide) inside
  have digits := congrArg (List.takeWhile Char.isDigit) same
  rw [takeWhile_digits (all a) stops, takeWhile_digits (all b) stops'] at digits
  have number := congrArg (fun l => Nat.ofDigitChars 10 l 0) digits
  rw [Nat.ofDigitChars_ten_toDigits, Nat.ofDigitChars_ten_toDigits] at number
  rw [digits] at same
  exact ⟨number, List.append_cancel_left same⟩

theorem head_digits (n : Nat) : ∃ c rest, Nat.toDigits 10 n = c :: rest ∧ c.isDigit := by
  cases digits : Nat.toDigits 10 n with
  | nil => exact absurd digits Nat.toDigits_ne_nil
  | cons c rest =>
    have inside : c ∈ Nat.toDigits 10 n := digits ▸ List.mem_cons_self
    exact ⟨c, rest, rfl, Nat.isDigit_of_mem_toDigits (by decide) (by decide) inside⟩

/-- What stands after a value: the end, or the next mark of the array or object it is
in. -/
def Ends : List Char → Prop
  | [] => True
  | c :: _ => c = ',' ∨ c = ']' ∨ c = '\x7d'

theorem Ends.stops {r : List Char} (ends : Ends r) : Stops r := by
  cases r with
  | nil => trivial
  | cons c rest => rcases ends with rfl | rfl | rfl <;> rfl

theorem Ends.not_point {r : List Char} (ends : Ends ('.' :: r)) : False := by
  rcases ends with h | h | h <;> exact absurd h (by decide)

theorem not_digits_minus {a : Nat} {r s : List Char} (same : Nat.toDigits 10 a ++ r = '-' :: s) :
    False := by
  obtain ⟨c, rest, digits, digit⟩ := head_digits a
  rw [digits, List.cons_append, List.cons.injEq] at same
  rw [same.1] at digit
  exact absurd digit (by decide)

theorem number_apart {m n : Number} {r s : List Char} (fits : (Value.number m).fits)
    (fits' : (Value.number n).fits) (ends : Ends r) (ends' : Ends s)
    (same : m.text ++ r = n.text ++ s) : m = n ∧ r = s := by
  have point : ∀ r, Stops ('.' :: r) := fun _ => rfl
  cases m with
  | posInt a =>
    cases n with
    | posInt b =>
      obtain ⟨number, rest⟩ := digits_apart ends.stops ends'.stops same
      exact ⟨congrArg _ (UInt64.toNat_inj.mp number), rest⟩
    | negInt b => exact (not_digits_minus same).elim
    | float b =>
      simp only [Number.text, List.append_assoc] at same
      obtain ⟨-, rest⟩ := digits_apart ends.stops (point _) same
      exact (Ends.not_point (rest ▸ ends)).elim
  | negInt a =>
    cases n with
    | posInt b => exact (not_digits_minus same.symm).elim
    | negInt b =>
      simp only [Number.text, List.cons_append, List.cons.injEq, true_and] at same
      obtain ⟨number, rest⟩ := digits_apart ends.stops ends'.stops same
      obtain ⟨-, negative⟩ := fits
      obtain ⟨-, negative'⟩ := fits'
      have equal : a = b := by omega
      exact ⟨congrArg _ equal, rest⟩
    | float b =>
      simp only [Number.text, List.append_assoc] at same
      exact (not_digits_minus same.symm).elim
  | float a =>
    cases n with
    | posInt b =>
      simp only [Number.text, List.append_assoc] at same
      obtain ⟨-, rest⟩ := digits_apart (point _) ends'.stops same
      exact (Ends.not_point (rest ▸ ends')).elim
    | negInt b =>
      simp only [Number.text, List.append_assoc] at same
      exact (not_digits_minus same).elim
    | float b =>
      simp only [Number.text, List.append_assoc] at same
      obtain ⟨number, rest⟩ := digits_apart (point _) (point _) same
      exact ⟨congrArg _ (UInt64.toNat_inj.mp number), by simpa using rest⟩

/-! ## Values -/

/-- The kind of value a text begins, by its first character. -/
def leads (c : Char) : Nat :=
  if c = 'n' then 0
  else if c = 't' ∨ c = 'f' then 1
  else if c = '-' ∨ c.isDigit then 2
  else if c = '"' then 3
  else if c = '[' then 4
  else if c = '\x7b' then 5
  else 6

namespace Value

def kind : Value → Nat
  | .null => 0
  | .bool _ => 1
  | .number _ => 2
  | .string _ => 3
  | .array _ => 4
  | .object _ => 5

theorem leads_digit {c : Char} (digit : c.isDigit) : leads c = 2 := by
  have apart : ∀ d : Char, d.isDigit = false → c ≠ d := fun d letter same => by
    rw [same, letter] at digit
    cases digit
  simp [leads, digit, apart 'n' rfl, apart 't' rfl, apart 'f' rfl]

theorem head_text (v : Value) : ∃ c rest, v.text = c :: rest ∧ leads c = v.kind := by
  cases v with
  | null => exact ⟨_, _, by rw [text], rfl⟩
  | bool b => cases b <;> exact ⟨_, _, by rw [text], rfl⟩
  | number n =>
    cases n with
    | posInt n =>
      obtain ⟨c, rest, digits, digit⟩ := head_digits n.toNat
      exact ⟨c, rest, by rw [text, Number.text, digits], leads_digit digit⟩
    | negInt n => exact ⟨_, _, by rw [text, Number.text], rfl⟩
    | float bits =>
      obtain ⟨c, rest, digits, digit⟩ := head_digits bits.toNat
      exact ⟨c, rest ++ ['.', '0'], by rw [text, Number.text, digits]; rfl, leads_digit digit⟩
  | string s => exact ⟨_, _, by rw [text, quote], rfl⟩
  | array items => exact ⟨_, _, by rw [text], rfl⟩
  | object fields => exact ⟨_, _, by rw [text], rfl⟩

/-- The text of `v`, with whatever stands after it, is that of no other value. -/
def Apart (v : Value) : Prop :=
  ∀ (w : Value) (r s : List Char), w.Fits → Ends r → Ends s → v.text ++ r = w.text ++ s →
    v = w ∧ r = s

theorem kind_apart {v w : Value} {r s : List Char} (same : v.text ++ r = w.text ++ s) :
    v.kind = w.kind := by
  obtain ⟨c, rest, head, kind⟩ := head_text v
  obtain ⟨d, rest', head', kind'⟩ := head_text w
  rw [head, head', List.cons_append, List.cons_append, List.cons.injEq] at same
  rw [← kind, ← kind', same.1]

theorem ends_textItems (items : List Value) (r : List Char) : Ends (textItems [','] items ++ r) := by
  cases items with
  | nil => exact .inr (.inl rfl)
  | cons v rest => exact .inl rfl

theorem ends_textFields (fields : Fields) (r : List Char) : Ends (textFields [','] fields ++ r) := by
  cases fields with
  | nil => exact .inr (.inr rfl)
  | cons field rest => exact .inl rfl

/-- A comma, or nothing before the first. -/
def Comma (comma : List Char) : Prop := comma = [] ∨ comma = [',']

theorem not_closed {comma : List Char} {v : Value} {r s : List Char} (first : Comma comma)
    (same : comma ++ (v.text ++ r) = ']' :: s) : False := by
  rcases first with rfl | rfl
  · obtain ⟨c, rest, head, kind⟩ := head_text v
    rw [List.nil_append, head, List.cons_append, List.cons.injEq] at same
    rw [same.1] at kind
    cases v <;> cases kind
  · exact absurd (List.cons.inj same).1 (by decide)

theorem textItems_apart {items others : List Value} {comma r s : List Char} (first : Comma comma)
    (apart : ∀ v ∈ items, v.Apart) (fits : ∀ w ∈ others, w.Fits)
    (same : textItems comma items ++ r = textItems comma others ++ s) : items = others ∧ r = s := by
  induction items generalizing others comma with
  | nil =>
    cases others with
    | nil => simpa [textItems] using same
    | cons w others =>
      simp only [textItems, List.append_assoc, List.singleton_append] at same
      exact (not_closed first same.symm).elim
  | cons v items ih =>
    cases others with
    | nil =>
      simp only [textItems, List.append_assoc, List.singleton_append] at same
      exact (not_closed first same).elim
    | cons w others =>
      simp only [textItems, List.append_assoc] at same
      obtain ⟨rfl, rest⟩ := apart v List.mem_cons_self w _ _ (fits w List.mem_cons_self)
        (ends_textItems items r) (ends_textItems others s) (List.append_cancel_left same)
      obtain ⟨rfl, rfl⟩ := ih (.inr rfl) (fun u inside => apart u (List.mem_cons_of_mem _ inside))
        (fun u inside => fits u (List.mem_cons_of_mem _ inside)) rest
      exact ⟨rfl, rfl⟩

theorem not_closed_field {comma : List Char} {field : String × Value} {r s : List Char}
    (first : Comma comma) (same : comma ++ (textField field ++ r) = '\x7d' :: s) : False := by
  obtain ⟨key, v⟩ := field
  rcases first with rfl | rfl
  · rw [textField, quote] at same
    exact absurd (List.cons.inj same).1 (by decide)
  · exact absurd (List.cons.inj same).1 (by decide)

theorem textFields_apart {fields others : Fields} {comma r s : List Char} (first : Comma comma)
    (apart : ∀ field ∈ fields, field.2.Apart) (fits : ∀ field ∈ others, field.2.Fits)
    (same : textFields comma fields ++ r = textFields comma others ++ s) :
    fields = others ∧ r = s := by
  induction fields generalizing others comma with
  | nil =>
    cases others with
    | nil => simpa [textFields] using same
    | cons field others =>
      simp only [textFields, List.append_assoc, List.singleton_append] at same
      exact (not_closed_field first same.symm).elim
  | cons field fields ih =>
    cases others with
    | nil =>
      simp only [textFields, List.append_assoc, List.singleton_append] at same
      exact (not_closed_field first same).elim
    | cons other others =>
      obtain ⟨key, v⟩ := field
      obtain ⟨key', w⟩ := other
      simp only [textFields, textField, List.append_assoc, List.cons_append] at same
      obtain ⟨rfl, value⟩ := quote_apart (List.append_cancel_left same)
      obtain ⟨rfl, rest⟩ := apart (key, v) List.mem_cons_self w _ _ (fits (key, w) List.mem_cons_self)
        (ends_textFields fields r) (ends_textFields others s) (List.cons.inj value).2
      obtain ⟨rfl, rfl⟩ := ih (.inr rfl) (fun u inside => apart u (List.mem_cons_of_mem _ inside))
        (fun u inside => fits u (List.mem_cons_of_mem _ inside)) rest
      exact ⟨rfl, rfl⟩

theorem Fits.apart {v : Value} (fits : v.Fits) : v.Apart := by
  induction fits with
  | @mk v here _ ih =>
    intro w r s fits' ends ends' same
    have kind := kind_apart same
    cases v with
    | null =>
      cases w with
      | null => simpa [text] using same
      | _ => cases kind
    | bool b =>
      cases w with
      | bool c => cases b <;> cases c <;> simp_all [text]
      | _ => cases kind
    | number n =>
      cases w with
      | number m =>
        rw [text, text] at same
        obtain ⟨rfl, rest⟩ := number_apart here fits'.here ends ends' same
        exact ⟨rfl, rest⟩
      | _ => cases kind
    | string a =>
      cases w with
      | string b =>
        rw [text, text] at same
        obtain ⟨rfl, rest⟩ := quote_apart same
        exact ⟨rfl, rest⟩
      | _ => cases kind
    | array items =>
      cases w with
      | array others =>
        rw [text, text] at same
        obtain ⟨rfl, rest⟩ := textItems_apart (.inl rfl) ih (fun w inside => fits'.part inside)
          (List.cons.inj same).2
        exact ⟨rfl, rest⟩
      | _ => cases kind
    | object fields =>
      cases w with
      | object others =>
        rw [text, text] at same
        obtain ⟨rfl, rest⟩ := textFields_apart (.inl rfl)
          (fun field inside => ih field.2 (List.mem_map_of_mem inside))
          (fun field inside => fits'.part (List.mem_map_of_mem inside)) (List.cons.inj same).2
        exact ⟨rfl, rest⟩
      | _ => cases kind

end Value

/-! ## Bytes -/

def Value.bytes (v : Value) : List UInt8 := v.text.flatMap String.utf8EncodeChar

theorem Value.bytes_apart {v w : Value} (fits : v.Fits) (fits' : w.Fits) (same : v.bytes = w.bytes) :
    v = w := by
  have encoded : v.text.utf8Encode = w.text.utf8Encode := by
    simpa [List.utf8Encode, Value.bytes] using same
  rw [← String.toByteArray_ofList, ← String.toByteArray_ofList, String.toByteArray_inj] at encoded
  have chars : v.text = w.text := String.ofList_injective encoded
  exact (fits.apart w [] [] fits' trivial trivial (by rw [chars])).1

open Classical in
/-- The value that is written so. -/
noncomputable def written (bytes : List UInt8) : Option Value :=
  if known : ∃ v : Value, v.Fits ∧ v.bytes = bytes then some known.choose else none

theorem written_bytes {v : Value} (fits : v.Fits) : written v.bytes = some v := by
  have known : ∃ w : Value, w.Fits ∧ w.bytes = v.bytes := ⟨v, fits, rfl⟩
  rw [written, dif_pos known]
  obtain ⟨chosen, same⟩ := known.choose_spec
  exact congrArg some (Value.bytes_apart chosen fits same)

noncomputable def compact : Json where
  toVec := Value.bytes
  fromSlice := written

theorem compact_faithful : compact.Faithful where
  again _ fits _ := written_bytes fits
  apart _ _ fits fits' same := Value.bytes_apart fits fits' same

end PpvpnCore.Service
