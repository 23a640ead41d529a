import PpvpnCore.Lib.Text

/-!
# What the address parsers read

A parser that reads the beginning of a text leaves an end of it, and what it
spends is made of digits, dots and colons. So a text with any other character
is no address.

* `Spent`: the characters between a text and what is left of it.
* `parseIpv4_chars`, `parseIpv6_chars`: the characters of an address.
-/

namespace Lib

/-- `rest` is what is left of `cs` after characters that are all `P`. -/
def Spent (P : Char → Prop) (cs rest : List Char) : Prop :=
  ∃ used, cs = used ++ rest ∧ ∀ c ∈ used, P c

variable {P : Char → Prop} {cs mid rest : List Char} {α : Type}

theorem Spent.refl : Spent P cs cs := ⟨[], rfl, by simp⟩

theorem Spent.trans (first : Spent P cs mid) (second : Spent P mid rest) : Spent P cs rest := by
  obtain ⟨one, rfl, some⟩ := first
  obtain ⟨other, rfl, more⟩ := second
  refine ⟨one ++ other, (List.append_assoc _ _ _).symm, ?_⟩
  intro c mem
  rcases List.mem_append.1 mem with here | there
  · exact some c here
  · exact more c there

theorem Spent.cons {c : Char} (kind : P c) (later : Spent P cs rest) : Spent P (c :: cs) rest :=
  Spent.trans ⟨[c], rfl, by simpa using kind⟩ later

theorem Spent.all (spent : Spent P cs []) : ∀ c ∈ cs, P c := by
  obtain ⟨used, rfl, kind⟩ := spent
  simpa using kind

namespace Parser

/-- A character of an address. -/
def AddressChar (c : Char) : Prop := isHexDigit c = true ∨ c = '.' ∨ c = ':'

theorem takeDigits_spent (radix : Nat) (cs : List Char) :
    Spent AddressChar cs (takeDigits radix cs).2 := by
  induction cs with
  | nil => exact .refl
  | cons c cs ih =>
    rw [takeDigits]
    cases digit : digitIn radix c with
    | none => exact .refl
    | some d =>
      refine Spent.cons (.inl ?_) ih
      obtain ⟨found, -⟩ := Option.filter_eq_some_iff.1 digit
      rw [isHexDigit, found]
      rfl

theorem readNumber_spent {radix maxDigits limit n : Nat} {zero : Bool}
    (read : readNumber radix maxDigits limit zero cs = some (n, rest)) :
    Spent AddressChar cs rest := by
  have spent := takeDigits_spent radix cs
  simp only [readNumber] at read
  split_ifs at read
  cases read
  exact spent

theorem readChar_spent {c : Char} (kind : AddressChar c) (read : readChar c cs = some rest) :
    Spent AddressChar cs rest := by
  cases cs with
  | nil => cases read
  | cons d cs =>
    simp only [readChar] at read
    split_ifs at read with same
    cases read
    exact Spent.cons (same ▸ kind) .refl

theorem readSeparator_spent {sep : Char} {i : Nat} {a : α}
    {inner : List Char → Option (α × List Char)} (kind : AddressChar sep)
    (each : ∀ {cs a rest}, inner cs = some (a, rest) → Spent AddressChar cs rest)
    (read : readSeparator sep i inner cs = some (a, rest)) : Spent AddressChar cs rest := by
  simp only [readSeparator] at read
  split_ifs at read
  · exact each read
  · obtain ⟨mid, first, second⟩ := Option.bind_eq_some_iff.1 read
    exact (readChar_spent kind first).trans (each second)

theorem readIpv4Addr_spent {a : BitVec 32} (read : readIpv4Addr cs = some (a, rest)) :
    Spent AddressChar cs rest := by
  have dot : AddressChar '.' := .inr (.inl rfl)
  simp only [readIpv4Addr, bind, Option.bind_eq_some_iff] at read
  obtain ⟨⟨_, one⟩, first, ⟨_, two⟩, second, ⟨_, three⟩, third, ⟨_, four⟩, fourth, last⟩ := read
  cases last
  have last := readSeparator_spent dot readNumber_spent fourth
  exact (((readSeparator_spent dot readNumber_spent first).trans
    (readSeparator_spent dot readNumber_spent second)).trans
    (readSeparator_spent dot readNumber_spent third)).trans last

theorem readGroups_spent (limit i : Nat) (cs : List Char) :
    Spent AddressChar cs (readGroups limit i cs).2.2 := by
  have colon : AddressChar ':' := .inr (.inr rfl)
  induction limit generalizing i cs with
  | zero => exact .refl
  | succ limit ih =>
    rw [readGroups]
    cases v4 : (if 0 < limit then readSeparator ':' i readIpv4Addr cs else none) with
    | some found =>
      split_ifs at v4
      exact readSeparator_spent colon readIpv4Addr_spent v4
    | none =>
      cases group : readSeparator ':' i (readNumber 16 4 65535 true) cs with
      | none => exact .refl
      | some found =>
        exact (readSeparator_spent colon readNumber_spent group).trans (ih (i + 1) found.2)

theorem readIpv6Addr_spent {a : BitVec 128} (read : readIpv6Addr cs = some (a, rest)) :
    Spent AddressChar cs rest := by
  have colon : AddressChar ':' := .inr (.inr rfl)
  have head := readGroups_spent 8 0 cs
  simp only [readIpv6Addr] at read
  split_ifs at read
  · cases read
    exact head
  · cases read
  · simp only [bind, Option.bind_eq_some_iff] at read
    obtain ⟨one, first, two, second, last⟩ := read
    cases last
    exact ((head.trans (readChar_spent colon first)).trans (readChar_spent colon second)).trans
      (readGroups_spent _ 0 two)

theorem parseWith_chars {read : List Char → Option (α × List Char)} {a : α}
    (each : ∀ {rest a}, read cs = some (a, rest) → Spent AddressChar cs rest)
    (parsed : parseWith read cs = some a) : ∀ c ∈ cs, AddressChar c := by
  obtain ⟨⟨found, rest⟩, reads, whole⟩ := Option.bind_eq_some_iff.1 parsed
  simp only at whole
  split_ifs at whole with none
  subst none
  exact (each reads).all

theorem parseIpv4_chars {a : BitVec 32} (parsed : parseWith readIpv4Addr cs = some a) :
    ∀ c ∈ cs, AddressChar c :=
  parseWith_chars readIpv4Addr_spent parsed

theorem parseIpv6_chars {a : BitVec 128} (parsed : parseWith readIpv6Addr cs = some a) :
    ∀ c ∈ cs, AddressChar c :=
  parseWith_chars readIpv6Addr_spent parsed

end Parser

end Lib
