import Mathlib.Data.List.Infix
import Mathlib.Data.List.Nodup

/-!
# Texts replaced in a text

Replacing the occurrences of a text from left to right, as `str::replace` does,
for several texts one after another. The letters may carry more than what is
compared (a `key`), so that what becomes of each of them can be followed.

* `replace`, `Cut`: what is left between the occurrences that are replaced.
* `Clear`: where a text occurs, it shares nothing with what is put in.
* `Stage`: what is left of a text after some of the texts; `Stage.next`: after
  one more.
-/

namespace Lib

section Replace

variable {α β κ : Type}

section

variable [DecidableEq κ]

/-- Past so many letters of an occurrence. -/
def replaceFrom (key : α → κ) (old : List κ) (new : List α) : (skip : Nat) → List α → List α
  | _, [] => []
  | skip + 1, _ :: text => replaceFrom key old new skip text
  | 0, a :: text =>
    if old <+: (a :: text).map key then new ++ replaceFrom key old new (old.length - 1) text
    else a :: replaceFrom key old new 0 text

/-- `str::replace`, of a text that is not empty. -/
def replace (key : α → κ) (old : List κ) (new text : List α) : List α :=
  replaceFrom key old new 0 text

variable {key : α → κ} {old : List κ} {new : List α}

theorem replaceFrom_skip (skip : Nat) (text : List α) :
    replaceFrom key old new skip text = replace key old new (text.drop skip) := by
  induction skip generalizing text with
  | zero => rfl
  | succ skip ih =>
    cases text with
    | nil => rfl
    | cons a text => rw [replaceFrom, ih, List.drop_succ_cons]

theorem replace_nil : replace key old new [] = [] := rfl

theorem replace_here {found rest : List α} (same : found.map key = old) (some : found ≠ []) :
    replace key old new (found ++ rest) = new ++ replace key old new rest := by
  cases found with
  | nil => exact absurd rfl some
  | cons a found =>
    have begins : old <+: (a :: (found ++ rest)).map key :=
      ⟨rest.map key, by rw [← same, ← List.map_append, List.cons_append]⟩
    have length : old.length - 1 = found.length := by rw [← same]; simp
    rw [List.cons_append, replace, replaceFrom, if_pos begins, replaceFrom_skip, length, List.drop_left]

theorem replace_cons {a : α} {text : List α} (not : ¬ old <+: (a :: text).map key) :
    replace key old new (a :: text) = a :: replace key old new text := by
  rw [replace, replaceFrom, if_neg not]
  rfl

end

variable {key : α → κ} {old : List κ} {new : List α}

/-! ## What is left -/

/-- A text taken apart at occurrences, until there is none in what is left. -/
inductive Cut (key : α → κ) (old : List κ) : List α → List (List α) → Prop where
  | whole {text : List α} (none : ¬ old <:+: text.map key) : Cut key old text [text]
  | split {before found rest : List α} {pieces : List (List α)} (none : ¬ old <:+: before.map key)
    (same : found.map key = old) (later : Cut key old rest pieces) :
    Cut key old (before ++ (found ++ rest)) (before :: pieces)

/-- Each text taken apart. -/
inductive CutAll (key : α → κ) (old : List κ) : List (List α) → List (List α) → Prop where
  | nil : CutAll key old [] []
  | cons {text : List α} {texts pieces others : List (List α)} (one : Cut key old text pieces)
    (rest : CutAll key old texts others) : CutAll key old (text :: texts) (pieces ++ others)

/-- Each after what is put in. -/
def tails (new : List α) (pieces : List (List α)) : List α := pieces.flatMap (new ++ ·)

/-- The pieces with what is put in between. -/
def glue (new : List α) : List (List α) → List α
  | [] => []
  | piece :: pieces => piece ++ tails new pieces

theorem tails_append (one other : List (List α)) :
    tails new (one ++ other) = tails new one ++ tails new other :=
  List.flatMap_append

theorem Cut.some {text : List α} {pieces : List (List α)} (cut : Cut key old text pieces) :
    ∃ piece rest, pieces = piece :: rest := by
  cases cut with
  | whole => exact ⟨_, _, rfl⟩
  | split => exact ⟨_, _, rfl⟩

theorem Cut.glue_append {text : List α} {pieces : List (List α)} (cut : Cut key old text pieces)
    (others : List (List α)) : glue new (pieces ++ others) = glue new pieces ++ tails new others := by
  obtain ⟨piece, rest, rfl⟩ := cut.some
  rw [List.cons_append, glue, glue, tails_append, List.append_assoc]

theorem Cut.tails_eq {text : List α} {pieces : List (List α)} (cut : Cut key old text pieces) :
    tails new pieces = new ++ glue new pieces := by
  obtain ⟨piece, rest, rfl⟩ := cut.some
  rw [glue, ← List.append_assoc]
  exact List.flatMap_cons

/-- A letter more, at which no occurrence begins. -/
theorem Cut.grow {a : α} {text : List α} {pieces : List (List α)} (cut : Cut key old text pieces)
    (not : ¬ old <+: (a :: text).map key) :
    ∃ piece rest, pieces = piece :: rest ∧ Cut key old (a :: text) ((a :: piece) :: rest) := by
  have front : ∀ before back : List α, text = before ++ back → ¬ old <:+: before.map key →
      ¬ old <:+: (a :: before).map key := by
    rintro before back rfl none occurs
    rw [List.map_cons] at occurs
    rcases List.infix_cons_iff.1 occurs with here | later
    · apply not
      rw [← List.cons_append, List.map_append]
      exact here.trans (List.prefix_append _ _)
    · exact none later
  cases cut with
  | whole none => exact ⟨text, [], rfl, .whole (front text [] (List.append_nil _).symm none)⟩
  | @split before found rest pieces none same later =>
    exact ⟨before, pieces, rfl, .split (front before (found ++ rest) rfl none) same later⟩

/-- Wherever the text occurs, what is put in lies before it or behind it. -/
def Clear (old new : List κ) : Prop :=
  ∀ u v x y : List κ, u ++ new ++ v = x ++ old ++ y →
    x.length + old.length ≤ u.length ∨ u.length + new.length ≤ x.length

section

variable [DecidableEq κ]

/-- Nothing is found before so many letters. -/
theorem replace_past {front back : List α}
    (none : ∀ x y, (front ++ back).map key = x ++ old ++ y → front.length ≤ x.length) :
    replace key old new (front ++ back) = front ++ replace key old new back := by
  induction front with
  | nil => rfl
  | cons a front ih =>
    have not : ¬ old <+: (a :: (front ++ back)).map key := by
      rintro ⟨y, eq⟩
      have past := none [] y eq.symm
      simp at past
    rw [List.cons_append, replace_cons not, ih]
    · rfl
    · intro x y eq
      have past := none (key a :: x) y (by rw [List.cons_append, List.map_cons, eq]; rfl)
      simpa using past

variable (new) in
/-- No occurrence goes past the front: the front is taken apart by itself. -/
theorem replace_front (front back : List α) (some : old ≠ [])
    (edge : ∀ x y, (front ++ back).map key = x ++ old ++ y → x.length < front.length →
      x.length + old.length ≤ front.length) :
    ∃ pieces, Cut key old front pieces ∧
      replace key old new (front ++ back) = glue new pieces ++ replace key old new back := by
  have positive : 0 < old.length := List.length_pos_of_ne_nil some
  induction size : front.length using Nat.strong_induction_on generalizing front with
  | _ size ih =>
    subst size
    cases front with
    | nil =>
      refine ⟨[[]], .whole ?_, rfl⟩
      intro occurs
      exact some (List.infix_nil.1 occurs)
    | cons a front =>
      by_cases here : old <+: (a :: (front ++ back)).map key
      · obtain ⟨y, eq⟩ := here
        have fits := edge [] y eq.symm (by simp)
        obtain ⟨found, rest, split, length⟩ : ∃ found rest, a :: front = found ++ rest ∧
            found.length = old.length :=
          ⟨_, _, (List.take_append_drop old.length (a :: front)).symm, by
            rw [List.length_take]; simp only [List.length_nil] at fits; omega⟩
        have same : found.map key = old := by
          rw [← List.cons_append, split, List.append_assoc, List.map_append] at eq
          exact (List.append_inj eq (by simpa using length.symm)).1.symm
        have sizes : (a :: front).length = old.length + rest.length := by
          rw [split, List.length_append, length]
        rw [split] at edge ⊢
        obtain ⟨pieces, cut, replaced⟩ := ih rest.length (by omega) rest (by
          intro x y eq inside
          have moved := edge (old ++ x) y (by
            rw [List.append_assoc, List.map_append, eq, same]; simp)
          simp only [List.length_append, length] at moved
          omega) rfl
        refine ⟨[] :: pieces, show Cut key old ([] ++ (found ++ rest)) _ from .split ?_ same cut, ?_⟩
        · intro occurs
          exact some (List.infix_nil.1 occurs)
        · rw [List.append_assoc, replace_here same (by rintro rfl; simp at length; omega), replaced, glue,
            cut.tails_eq, List.nil_append, List.append_assoc]
      · obtain ⟨pieces, cut, replaced⟩ := ih front.length (by simp) front (by
          intro x y eq inside
          have moved := edge (key a :: x) y (by rw [List.cons_append, List.map_cons, eq]; rfl)
          simp only [List.length_cons] at moved
          omega) rfl
        have not : ¬ old <+: (a :: front).map key := by
          intro begins
          apply here
          rw [← List.cons_append, List.map_append]
          exact begins.trans (List.prefix_append _ _)
        obtain ⟨piece, rest, rfl, grown⟩ := cut.grow not
        refine ⟨(a :: piece) :: rest, grown, ?_⟩
        rw [List.cons_append, replace_cons here, replaced]
        rfl

/-- Between what was put in, each piece is taken apart by itself. -/
theorem replace_glue (some : old ≠ []) (put : new ≠ []) (clear : Clear old (new.map key))
    (text : List α) (texts : List (List α)) :
    ∃ pieces, CutAll key old (text :: texts) pieces ∧
      replace key old new (text ++ tails new texts) = glue new pieces := by
  have positive : 0 < old.length := List.length_pos_of_ne_nil some
  have filled : 0 < new.length := List.length_pos_of_ne_nil put
  induction texts generalizing text with
  | nil =>
    obtain ⟨pieces, cut, replaced⟩ := replace_front new text [] some (by
      intro x y eq inside
      have lengths := congrArg List.length eq
      simp at lengths
      omega)
    refine ⟨pieces ++ [], .cons cut .nil, ?_⟩
    rw [tails, List.flatMap_nil, replaced, replace_nil, List.append_nil, List.append_nil]
  | cons next texts ih =>
    obtain ⟨others, cutAll, rest⟩ := ih next
    have after : tails new (next :: texts) = new ++ (next ++ tails new texts) := by
      rw [← List.append_assoc]
      exact List.flatMap_cons
    obtain ⟨pieces, cut, replaced⟩ := replace_front new text (tails new (next :: texts)) some (by
      intro x y eq inside
      rw [after, List.map_append, List.map_append, ← List.append_assoc] at eq
      have apart := clear _ _ x y eq
      simp only [List.length_map] at apart
      omega)
    have past : replace key old new (new ++ (next ++ tails new texts)) =
        new ++ replace key old new (next ++ tails new texts) := by
      apply replace_past
      intro x y eq
      rw [List.map_append] at eq
      have apart := clear [] _ x y eq
      simp only [List.length_nil, List.length_map] at apart
      omega
    refine ⟨pieces ++ others, .cons cut cutAll, ?_⟩
    have joined : tails new others = new ++ glue new others := by
      cases cutAll with
      | cons one more =>
        obtain ⟨piece, pieces, rfl⟩ := one.some
        rw [List.cons_append, glue, ← List.append_assoc]
        exact List.flatMap_cons
    rw [replaced, after, past, rest, cut.glue_append, joined]

end

/-! ## What is kept of an occurrence -/

theorem Cut.sublist {text : List α} {pieces : List (List α)} (cut : Cut key old text pieces) :
    pieces.flatten.Sublist text := by
  induction cut with
  | whole => simp
  | split none same later ih =>
    rw [List.flatten_cons]
    exact (List.Sublist.refl _).append (ih.trans (List.sublist_append_right _ _))

theorem CutAll.sublist {texts pieces : List (List α)} (cut : CutAll key old texts pieces) :
    pieces.flatten.Sublist texts.flatten := by
  induction cut with
  | nil => exact List.Sublist.refl _
  | cons one rest ih =>
    rw [List.flatten_append, List.flatten_cons]
    exact one.sublist.append ih

theorem Cut.piece {text : List α} {pieces : List (List α)} (cut : Cut key old text pieces) :
    ∀ piece ∈ pieces, piece <:+: text ∧ ¬ old <:+: piece.map key := by
  induction cut with
  | whole none =>
    intro piece mem
    obtain rfl := List.mem_singleton.1 mem
    exact ⟨List.infix_rfl, none⟩
  | @split before found rest pieces none same later ih =>
    intro piece mem
    rcases List.mem_cons.1 mem with rfl | mem
    · exact ⟨(List.prefix_append _ _).isInfix, none⟩
    · obtain ⟨inside, without⟩ := ih piece mem
      refine ⟨inside.trans ?_, without⟩
      exact ((List.suffix_append found rest).trans (List.suffix_append before _)).isInfix

theorem CutAll.piece {texts pieces : List (List α)} (cut : CutAll key old texts pieces) :
    ∀ piece ∈ pieces, (∃ text ∈ texts, piece <:+: text) ∧ ¬ old <:+: piece.map key := by
  induction cut with
  | nil => simp
  | cons one rest ih =>
    intro piece mem
    rcases List.mem_append.1 mem with mem | mem
    · obtain ⟨inside, without⟩ := one.piece piece mem
      exact ⟨⟨_, List.mem_cons_self, inside⟩, without⟩
    · obtain ⟨⟨text, there, inside⟩, without⟩ := ih piece mem
      exact ⟨⟨text, List.mem_cons_of_mem _ there, inside⟩, without⟩

/-- What shares nothing with the middle lies in front of it or behind it. -/
theorem infix_beside {w before found rest : List α} (inside : w <:+: before ++ (found ++ rest))
    (some : found ≠ []) (apart : w.Disjoint found) : w <:+: before ∨ w <:+: rest := by
  obtain ⟨x, y, eq⟩ := inside
  cases w with
  | nil => exact .inl (List.nil_infix)
  | cons b w =>
    cases found with
    | nil => exact absurd rfl some
    | cons a found =>
      rcases List.append_eq_append_iff.1 eq with ⟨as, whole, -⟩ | ⟨bs, left, right⟩
      · exact .inl ⟨x, as, whole.symm⟩
      · rcases List.append_eq_append_iff.1 left with ⟨cs, split, tail⟩ | ⟨cs, split, tail⟩
        · -- the front ends within the occurrence
          cases bs with
          | nil =>
            rw [List.append_nil] at tail
            exact .inl ⟨x, [], by rw [List.append_nil, tail, split]⟩
          | cons c bs =>
            obtain ⟨rfl, -⟩ := List.cons.inj right
            have shared : a ∈ b :: w := by rw [tail]; simp
            exact (apart shared (by simp)).elim
        · -- the occurrence begins behind the front
          rw [tail, List.append_assoc] at right
          rcases List.append_eq_append_iff.1 right with ⟨ds, far, rest'⟩ | ⟨ds, near, rest'⟩
          · refine .inr ⟨ds, y, ?_⟩
            rw [rest', List.append_assoc]
          · cases ds with
            | nil => exact .inr ⟨[], y, by simpa using rest'⟩
            | cons d ds =>
              obtain ⟨rfl, -⟩ := List.cons.inj rest'
              have shared : b ∈ a :: found := by rw [near]; simp
              exact (apart (by simp) shared).elim

/-- An occurrence that is one of those replaced or shares nothing with them is
kept whole or removed whole. -/
theorem Cut.kept {text w : List α} {pieces : List (List α)} (cut : Cut key old text pieces)
    (some : old ≠ []) (apart : text.Nodup) (inside : w <:+: text)
    (clean : ∀ found, found <:+: text → found.map key = old → w = found ∨ w.Disjoint found) :
    (∃ piece ∈ pieces, w <:+: piece) ∨ w.Disjoint pieces.flatten := by
  induction cut with
  | whole none => exact .inl ⟨_, List.mem_singleton.2 rfl, inside⟩
  | @split before found rest pieces none same later ih =>
    have filled : found ≠ [] := by
      rintro rfl
      exact some same.symm
    have parts := apart
    rw [List.nodup_append', List.nodup_append'] at parts
    obtain ⟨-, ⟨-, single, two⟩, one⟩ := parts
    have within : pieces.flatten ⊆ rest := later.sublist.subset
    rcases clean found ⟨before, rest, by simp⟩ same with rfl | disjoint
    · right
      rw [List.flatten_cons]
      intro a mem there
      rcases List.mem_append.1 there with there | there
      · exact one there (List.mem_append_left _ mem)
      · exact two mem (within there)
    · rcases infix_beside inside filled disjoint with front | back
      · exact .inl ⟨before, List.mem_cons_self, front⟩
      · rcases ih single back (by
          intro other there
          exact clean other (there.trans
            ((List.suffix_append found rest).trans (List.suffix_append before _)).isInfix)) with
          ⟨piece, mem, kept⟩ | removed
        · exact .inl ⟨piece, List.mem_cons_of_mem _ mem, kept⟩
        · right
          rw [List.flatten_cons]
          intro a mem there
          rcases List.mem_append.1 there with there | there
          · exact one there (List.mem_append_right _ (back.subset mem))
          · exact removed mem there

theorem CutAll.kept {texts pieces : List (List α)} {text w : List α}
    (cut : CutAll key old texts pieces) (some : old ≠ []) (apart : texts.flatten.Nodup)
    (mem : text ∈ texts) (inside : w <:+: text)
    (clean : ∀ found, found <:+: text → found.map key = old → w = found ∨ w.Disjoint found) :
    (∃ piece ∈ pieces, w <:+: piece) ∨ w.Disjoint pieces.flatten := by
  induction cut with
  | nil => cases mem
  | @cons head texts pieces others one rest ih =>
    rw [List.flatten_cons, List.nodup_append'] at apart
    obtain ⟨single, more, disjoint⟩ := apart
    rcases List.mem_cons.1 mem with rfl | mem
    · rcases one.kept some single inside clean with ⟨piece, there, kept⟩ | removed
      · exact .inl ⟨piece, List.mem_append_left _ there, kept⟩
      · right
        rw [List.flatten_append]
        intro a here there
        rcases List.mem_append.1 there with there | there
        · exact removed here there
        · exact disjoint (inside.subset here) (rest.sublist.subset there)
    · rcases ih more mem with ⟨piece, there, kept⟩ | removed
      · exact .inl ⟨piece, List.mem_append_right _ there, kept⟩
      · right
        rw [List.flatten_append]
        intro a here there
        rcases List.mem_append.1 there with there | there
        · exact disjoint (one.sublist.subset there) (List.mem_flatten_of_mem mem (inside.subset here))
        · exact removed here there

/-! ## One text after another -/

/-- No other occurrence of a text that is replaced before, or with it, shares a
letter with the occurrence. -/
def Clean (key : α → κ) (all : List (List κ)) (whole : List α) (old : List κ) (w : List α) : Prop :=
  ∀ other, other = old ∨ [other, old].Sublist all → ∀ found, found <:+: whole →
    found.map key = other → w = found ∨ w.Disjoint found

/-- What is left after some of the texts. -/
structure Stage (key : α → κ) (all : List (List κ)) (whole : List α) (done : List (List κ))
    (texts : List (List α)) : Prop where
  sub : texts.flatten.Sublist whole
  inside : ∀ text ∈ texts, text <:+: whole
  without : ∀ old ∈ done, ∀ text ∈ texts, ¬ old <:+: text.map key
  kept : ∀ old ∈ all, ∀ w, w <:+: whole → w.map key = old → Clean key all whole old w →
    (∃ text ∈ texts, w <:+: text) ∨ w.Disjoint texts.flatten

theorem Stage.start (key : α → κ) (all : List (List κ)) (whole : List α) :
    Stage key all whole [] [whole] where
  sub := by simp
  inside := by simp
  without := by simp
  kept _ _ w inside _ _ := .inl ⟨whole, List.mem_singleton.2 rfl, inside⟩

/-- A clean occurrence of a later text shares nothing with those replaced now,
one of an earlier text is gone. -/
theorem Stage.next {all done later : List (List κ)} {whole : List α} {texts pieces : List (List α)}
    (stage : Stage key all whole done texts) (split : all = done ++ old :: later) (some : old ≠ [])
    (apart : whole.Nodup) (cut : CutAll key old texts pieces) :
    Stage key all whole (done ++ [old]) pieces where
  sub := cut.sublist.trans stage.sub
  inside piece mem := by
    obtain ⟨⟨text, there, inside⟩, -⟩ := cut.piece piece mem
    exact inside.trans (stage.inside text there)
  without other mem piece there := by
    obtain ⟨⟨text, before, inside⟩, without⟩ := cut.piece piece there
    rcases List.mem_append.1 mem with mem | mem
    · intro occurs
      exact stage.without other mem text before (occurs.trans (inside.map key))
    · rwa [List.mem_singleton.1 mem]
  kept other mem w inside same clean := by
    rcases stage.kept other mem w inside same clean with ⟨text, there, here⟩ | removed
    · rw [split] at mem
      rcases List.mem_append.1 mem with before | now
      · have occurs : other <:+: text.map key := same ▸ here.map key
        exact absurd occurs (stage.without other before text there)
      · refine cut.kept some (apart.sublist stage.sub) there here ?_
        intro found sits replaced
        refine clean old ?_ found (sits.trans (stage.inside text there)) replaced
        rcases List.mem_cons.1 now with rfl | later
        · exact .inl rfl
        · right
          rw [split]
          exact List.Sublist.trans (List.Sublist.cons_cons old (List.singleton_sublist.2 later))
            (List.sublist_append_right _ _)
    · exact .inr fun a here there => removed here (cut.sublist.subset there)

variable [DecidableEq κ]

/-- The texts replaced one after another. -/
def replaceAll (key : α → κ) (new : List α) (olds : List (List κ)) (text : List α) : List α :=
  olds.foldl (fun text old => replace key old new text) text

variable (new) in
/-- After the last, what is left between what was put in. -/
theorem Stage.last {all done : List (List κ)} {whole : List α} {text : List α} {texts : List (List α)}
    (stage : Stage key all whole done (text :: texts)) (later : List (List κ))
    (split : all = done ++ later) (some : ∀ old ∈ all, old ≠ []) (apart : whole.Nodup)
    (put : new ≠ []) (clear : ∀ old ∈ all, Clear old (new.map key)) :
    ∃ pieces, Stage key all whole all pieces ∧
      replaceAll key new later (glue new (text :: texts)) = glue new pieces := by
  induction later generalizing done text texts with
  | nil =>
    rw [List.append_nil] at split
    subst split
    exact ⟨_, stage, rfl⟩
  | cons old later ih =>
    have mem : old ∈ all := by rw [split]; simp
    obtain ⟨pieces, cut, replaced⟩ := replace_glue (some old mem) put (clear old mem) text texts
    have next := stage.next split (some old mem) apart cut
    cases cut with
    | cons one rest =>
      obtain ⟨piece, others, rfl⟩ := one.some
      rw [List.cons_append] at next replaced
      obtain ⟨last, done, all⟩ := ih next (by rw [split]; simp)
      refine ⟨last, done, ?_⟩
      rw [← all, replaceAll, List.foldl_cons]
      show later.foldl _ (replace key old new (text ++ tails new texts)) = _
      rw [replaced]
      rfl

end Replace

end Lib
