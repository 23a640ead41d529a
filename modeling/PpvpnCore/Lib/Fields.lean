import Mathlib.Data.List.Forall2

/-!
# Texts of separated words

What a printer that puts one separator between its words loses: nothing, when
no word has the separator and every optional field begins with a keyword of its
own.

* `digits`, `toDigits_injective`: numbers in a radix up to sixteen.
* `words_injective`, `pair_injective`: a separated text has its words.
* `Field`, `written`, `written_injective`: optional fields in a fixed order,
  each a keyword and its arguments.
-/

namespace Lib

/-! ## Numbers -/

def digits : List Char := "0123456789abcdef".toList

theorem digitChar_mem : ∀ d < 16, Nat.digitChar d ∈ digits := by decide

theorem digitChar_injective : ∀ c < 16, ∀ d < 16, Nat.digitChar c = Nat.digitChar d → c = d := by
  decide

section Digits

variable {radix : Nat}

theorem mem_toDigits (two : 1 < radix) (sixteen : radix ≤ 16) {n : Nat} {c : Char}
    (mem : c ∈ Nat.toDigits radix n) : c ∈ digits := by
  induction n using Nat.strongRecOn with
  | ind n ih =>
    rw [Nat.toDigits_eq_if two] at mem
    by_cases small : n < radix
    · rw [if_pos small, List.mem_singleton] at mem
      rw [mem]
      exact digitChar_mem n (by omega)
    · rw [if_neg small, List.mem_append, List.mem_singleton] at mem
      rcases mem with mem | rfl
      · exact ih (n / radix) (Nat.div_lt_self (by omega) two) mem
      · have below : n % radix < radix := Nat.mod_lt n (by omega)
        exact digitChar_mem _ (by omega)

/-- A character that is no digit is in no number. -/
theorem absent_toDigits (two : 1 < radix) (sixteen : radix ≤ 16) (n : Nat) {c : Char}
    (absent : c ∉ digits) : c ∉ Nat.toDigits radix n :=
  fun mem => absent (mem_toDigits two sixteen mem)

/-- A number of several digits is not the text of one digit. -/
theorem toDigits_ne_digit (n : Nat) (first last : Char) :
    Nat.toDigits radix n ++ [last] ≠ [first] := by
  intro eq
  have length := congrArg List.length eq
  have some := Nat.length_toDigits_pos (b := radix) (n := n)
  simp only [List.length_append, List.length_singleton] at length
  omega

theorem toDigits_injective (two : 1 < radix) (sixteen : radix ≤ 16) {m n : Nat}
    (eq : Nat.toDigits radix m = Nat.toDigits radix n) : m = n := by
  induction m using Nat.strongRecOn generalizing n with
  | ind m ih =>
    have unfolded := fun k : Nat => Nat.toDigits_eq_if (n := k) two
    rw [unfolded m, unfolded n] at eq
    by_cases small : m < radix
    · rw [if_pos small] at eq
      by_cases small' : n < radix
      · rw [if_pos small', List.singleton_inj] at eq
        exact digitChar_injective m (by omega) n (by omega) eq
      · rw [if_neg small'] at eq
        exact absurd eq.symm (toDigits_ne_digit _ _ _)
    · rw [if_neg small] at eq
      by_cases small' : n < radix
      · rw [if_pos small'] at eq
        exact absurd eq (toDigits_ne_digit _ _ _)
      · rw [if_neg small'] at eq
        obtain ⟨front, last⟩ := List.append_inj' eq rfl
        have quotients : m / radix = n / radix := ih _ (Nat.div_lt_self (by omega) two) front
        have below : m % radix < radix := Nat.mod_lt m (by omega)
        have below' : n % radix < radix := Nat.mod_lt n (by omega)
        have remainders : m % radix = n % radix :=
          digitChar_injective _ (by omega) _ (by omega) (List.singleton_inj.1 last)
        rw [← Nat.div_add_mod m radix, ← Nat.div_add_mod n radix, quotients, remainders]

end Digits

/-! ## Separated words -/

section Words

variable {sep : Char}

/-- Each word after a separator of its own. -/
def spaced (sep : Char) (words : List (List Char)) : List Char := words.flatMap (sep :: ·)

theorem spaced_cons (word : List Char) (words : List (List Char)) :
    spaced sep (word :: words) = sep :: (word ++ spaced sep words) := rfl

theorem spaced_append (front back : List (List Char)) :
    spaced sep (front ++ back) = spaced sep front ++ spaced sep back :=
  List.flatMap_append

theorem intercalate_eq_spaced (word : List Char) (words : List (List Char)) :
    [sep].intercalate (word :: words) = word ++ spaced sep words := by
  induction words generalizing word with
  | nil => rw [List.intercalate_singleton, spaced, List.flatMap_nil, List.append_nil]
  | cons next words ih =>
    rw [List.intercalate_cons_cons, ih, spaced_cons, List.append_assoc, List.singleton_append]

theorem absent_intercalate {c : Char} {words : List (List Char)} (ne : c ≠ sep)
    (absent : ∀ w ∈ words, c ∉ w) : c ∉ [sep].intercalate words := by
  cases words with
  | nil => exact List.not_mem_nil
  | cons word words =>
    rw [List.forall_mem_cons] at absent
    rw [intercalate_eq_spaced, List.mem_append, spaced, List.mem_flatMap]
    rintro (mem | ⟨w, among, mem⟩)
    · exact absent.1 mem
    · rcases List.mem_cons.1 mem with eq | mem
      · exact ne eq
      · exact absent.2 w among mem

theorem words_injective {words words' : List (List Char)} (some : words ≠ []) (some' : words' ≠ [])
    (plain : ∀ w ∈ words, sep ∉ w) (plain' : ∀ w ∈ words', sep ∉ w)
    (eq : [sep].intercalate words = [sep].intercalate words') : words = words' := by
  rw [← List.splitOn_intercalate sep plain some, eq, List.splitOn_intercalate sep plain' some']

/-- What stands before and after the first separator. -/
theorem pair_injective {a b c d : List Char} (plain : sep ∉ a) (plain' : sep ∉ c)
    (eq : a ++ sep :: b = c ++ sep :: d) : a = c ∧ b = d := by
  have parts := congrArg (List.splitOn sep) eq
  rw [List.splitOn_append_cons_self_of_not_mem plain,
    List.splitOn_append_cons_self_of_not_mem plain'] at parts
  obtain ⟨first, rest⟩ := List.cons.inj parts
  refine ⟨first, ?_⟩
  calc
    b = [sep].intercalate (b.splitOn sep) := (List.intercalate_splitOn sep).symm
    _ = d := by rw [rest, List.intercalate_splitOn]

end Words

/-! ## Optional fields -/

/-- A keyword and, where the field is there, its arguments. -/
structure Field where
  key : List Char
  args : Option (List (List Char))

namespace Field

def written (field : Field) : List (List Char) := field.args.elim [] (field.key :: ·)

/-- The same keyword, taking as many arguments. -/
def Alike (f g : Field) : Prop :=
  f.key = g.key ∧ ∀ xs ∈ f.args, ∀ ys ∈ g.args, xs.length = ys.length

/-- None of its arguments has the separator. -/
def Plain (sep : Char) (f : Field) : Prop := ∀ xs ∈ f.args, ∀ w ∈ xs, sep ∉ w

/-- A keyword alone. -/
def flag (key : List Char) (set : Bool) : Field := ⟨key, if set then some [] else none⟩

/-- A keyword with one argument. -/
def option (key : List Char) (value : Option (List Char)) : Field := ⟨key, value.map fun w => [w]⟩

variable {sep : Char} {key : List Char}

theorem flag_alike (key : List Char) (a b : Bool) : Alike (flag key a) (flag key b) := by
  cases a <;> cases b <;> simp [Alike, flag]

theorem option_alike (key : List Char) (a b : Option (List Char)) :
    Alike (option key a) (option key b) := by
  cases a <;> cases b <;> simp [Alike, option]

theorem flag_plain (set : Bool) : Plain sep (flag key set) := by
  cases set <;> simp [Plain, flag]

theorem option_plain {value : Option (List Char)} :
    Plain sep (option key value) ↔ ∀ w ∈ value, sep ∉ w := by
  cases value <;> simp [Plain, option]

theorem map_plain {α : Type} {f : α → List Char} {value : Option α}
    (plain : ∀ a ∈ value, sep ∉ f a) : Plain sep (option key (value.map f)) := by
  rw [option_plain]
  rintro w mem
  obtain ⟨a, there, rfl⟩ := Option.map_eq_some_iff.1 mem
  exact plain a there

@[simp]
theorem flag_inj {a b : Bool} : flag key a = flag key b ↔ a = b := by
  cases a <;> cases b <;> simp [flag]

@[simp]
theorem option_inj {a b : Option (List Char)} : option key a = option key b ↔ a = b := by
  cases a <;> cases b <;> simp [option]

end Field

def written (fields : List Field) : List (List Char) := fields.flatMap Field.written

theorem head_of_written (fields : List Field) {word : List Char} {rest : List (List Char)}
    (eq : written fields = word :: rest) : word ∈ fields.map Field.key := by
  induction fields with
  | nil => cases eq
  | cons field fields ih =>
    rw [List.map_cons, List.mem_cons]
    rw [written, List.flatMap_cons, Field.written] at eq
    cases args : field.args with
    | none =>
      rw [args] at eq
      exact .inr (ih eq)
    | some xs =>
      rw [args] at eq
      exact .inl (List.cons.inj eq).1.symm

theorem written_plain {sep : Char} {fields : List Field}
    (keys : ∀ key ∈ fields.map Field.key, sep ∉ key) (plain : ∀ f ∈ fields, f.Plain sep) :
    ∀ w ∈ written fields, sep ∉ w := by
  intro w mem
  obtain ⟨field, among, mem⟩ := List.mem_flatMap.1 mem
  rw [Field.written] at mem
  cases there : field.args with
  | none =>
    rw [there] at mem
    cases mem
  | some xs =>
    rw [there] at mem
    rcases List.mem_cons.1 mem with rfl | mem
    · exact keys _ (List.mem_map_of_mem among)
    · exact plain field among xs there w mem

theorem keys_of_alike {fields fields' : List Field} (alike : fields.Forall₂ Field.Alike fields') :
    fields.map Field.key = fields'.map Field.key := by
  induction alike with
  | nil => rfl
  | cons same alike ih => rw [List.map_cons, List.map_cons, same.1, ih]

/-- Fields of distinct keywords are read back from their words. -/
theorem written_injective {fields fields' : List Field} (alike : fields.Forall₂ Field.Alike fields')
    (distinct : (fields.map Field.key).Nodup) (eq : written fields = written fields') :
    fields = fields' := by
  induction alike with
  | nil => rfl
  | @cons f g fields fields' same alike ih =>
    obtain ⟨key, args⟩ := f
    obtain ⟨key', args'⟩ := g
    obtain ⟨rfl, lengths⟩ : key = key' ∧ _ := same
    rw [List.map_cons, List.nodup_cons] at distinct
    have keys := keys_of_alike alike
    cases args with
    | none =>
      cases args' with
      | none => rw [ih distinct.2 eq]
      | some ys => exact absurd (head_of_written fields eq) distinct.1
    | some xs =>
      cases args' with
      | none => exact absurd (keys ▸ head_of_written fields' eq.symm) distinct.1
      | some ys =>
        obtain ⟨same, rest⟩ := List.append_inj eq (congrArg (· + 1) (lengths xs rfl ys rfl))
        rw [(List.cons.inj same).2, ih distinct.2 rest]

end Lib
