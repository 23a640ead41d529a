import Mathlib.Data.List.Infix
import Mathlib.Data.List.Pairwise

/-!
# Binary words and the words below them

A binary word stands for every longer word that it begins: a node of the binary
tree for the leaves below it. A word less another is the nodes that hang off
the path between the two.

* `Apart`: no word is below both.
* `halves`, `less`, `lessAll`: a word less another, less each of several.
* `Left`: the parts are what is left of a word without some holes;
  `Left.less`: less one hole more.
-/

namespace Lib

variable {a b p q r x hole part whole : List Bool} {done holes parts : List (List Bool)}

/-- Neither word begins the other. -/
def Apart (a b : List Bool) : Prop := ¬ a <+: b ∧ ¬ b <+: a

theorem Apart.symm (apart : Apart a b) : Apart b a := ⟨apart.2, apart.1⟩

/-- Of two words that begin one word, one begins the other. -/
theorem not_apart_of_below (left : a <+: x) (right : b <+: x) : ¬ Apart a b := by
  intro apart
  rcases List.prefix_or_prefix_of_prefix left right with below | below
  · exact apart.1 below
  · exact apart.2 below

theorem Apart.mono (apart : Apart a b) (left : a <+: p) (right : b <+: q) : Apart p q := by
  constructor
  · intro below
    exact not_apart_of_below (left.trans below) right apart
  · intro below
    exact not_apart_of_below left (right.trans below) apart

theorem apart_turn (p : List Bool) (bit : Bool) : Apart (p ++ [!bit]) (p ++ [bit]) := by
  constructor
  · intro below
    have same := (List.prefix_append_right_inj p).1 below
    cases bit <;> simp at same
  · intro below
    have same := (List.prefix_append_right_inj p).1 below
    cases bit <;> simp at same

/-- A longer word goes on with one bit or with the other. -/
theorem concat_or_turn (below : p <+: x) (longer : p.length < x.length) (bit : Bool) :
    p ++ [bit] <+: x ∨ p ++ [!bit] <+: x := by
  obtain ⟨rest, rfl⟩ := below
  cases rest with
  | nil => simp at longer
  | cons next rest =>
    have goes : p ++ [next] <+: p ++ next :: rest := ⟨rest, by simp⟩
    cases bit <;> cases next <;> simp_all

/-- What hangs off the path from `p` on along `r`. -/
def halves (p : List Bool) : List Bool → List (List Bool)
  | [] => []
  | bit :: r => (p ++ [!bit]) :: halves (p ++ [bit]) r

theorem length_halves (p r : List Bool) : (halves p r).length = r.length := by
  induction r generalizing p with
  | nil => rfl
  | cons bit r ih => simp only [halves, List.length_cons, ih]

theorem prefix_of_mem_halves (mem : q ∈ halves p r) : p <+: q := by
  induction r generalizing p with
  | nil => cases mem
  | cons bit r ih =>
    rcases List.mem_cons.1 mem with rfl | later
    · exact List.prefix_append p [!bit]
    · exact (List.prefix_append p [bit]).trans (ih later)

/-- Each half is a turn off the path. -/
theorem turn_of_mem_halves (mem : q ∈ halves p r) :
    ∃ s bit, q = s ++ [bit] ∧ s <+: p ++ r := by
  induction r generalizing p with
  | nil => cases mem
  | cons bit r ih =>
    rcases List.mem_cons.1 mem with rfl | later
    · exact ⟨p, !bit, rfl, List.prefix_append p (bit :: r)⟩
    · obtain ⟨s, last, same, on⟩ := ih later
      exact ⟨s, last, same, by simpa using on⟩

theorem halves_exact (long : (p ++ r).length ≤ x.length) :
    (∃ q ∈ halves p r, q <+: x) ↔ p <+: x ∧ ¬ p ++ r <+: x := by
  induction r generalizing p with
  | nil => simp [halves]
  | cons bit r ih =>
    have split : p ++ bit :: r = p ++ [bit] ++ r := by simp
    rw [split] at long ⊢
    have rest := ih long
    constructor
    · rintro ⟨q, mem, below⟩
      rcases List.mem_cons.1 mem with rfl | later
      · refine ⟨(List.prefix_append p _).trans below, ?_⟩
        intro on
        exact not_apart_of_below below ((List.prefix_append _ r).trans on) (apart_turn p bit)
      · have onward := rest.1 ⟨q, later, below⟩
        exact ⟨(List.prefix_append p _).trans onward.1, onward.2⟩
    · rintro ⟨below, off⟩
      have longer : p.length < x.length := by simp at long; omega
      rcases concat_or_turn below longer bit with on | turn
      · obtain ⟨q, later, on⟩ := rest.2 ⟨on, off⟩
        exact ⟨q, List.mem_cons_of_mem _ later, on⟩
      · exact ⟨p ++ [!bit], List.mem_cons_self, turn⟩

theorem halves_apart (p r : List Bool) : (halves p r).Pairwise Apart := by
  induction r generalizing p with
  | nil => exact .nil
  | cons bit r ih =>
    refine .cons ?_ (ih _)
    intro q mem
    exact (apart_turn p bit).mono List.prefix_rfl (prefix_of_mem_halves mem)

/-- `part` less `hole`, where the hole is no more than the part. -/
def less (hole part : List Bool) : List (List Bool) :=
  if part <+: hole then halves part (hole.drop part.length) else [part]

theorem less_inside (inside : part <+: part ++ r) : less (part ++ r) part = halves part r := by
  rw [less, if_pos inside, List.drop_left]

theorem less_outside (outside : ¬ part <+: hole) : less hole part = [part] :=
  if_neg outside

theorem prefix_of_mem_less (mem : q ∈ less hole part) : part <+: q := by
  rw [less] at mem
  split_ifs at mem
  · exact prefix_of_mem_halves mem
  · rw [List.mem_singleton.1 mem]

theorem turn_of_mem_less (mem : q ∈ less hole part) :
    q = part ∨ ∃ s bit, q = s ++ [bit] ∧ s <+: hole := by
  by_cases inside : part <+: hole
  · obtain ⟨r, rfl⟩ := inside
    rw [less_inside (List.prefix_append part r)] at mem
    exact .inr (turn_of_mem_halves mem)
  · rw [less_outside inside] at mem
    exact .inl (List.mem_singleton.1 mem)

theorem less_apart (hole part : List Bool) : (less hole part).Pairwise Apart := by
  rw [less]
  split_ifs
  · exact halves_apart _ _
  · exact List.pairwise_singleton _ _

theorem less_exact (long : hole.length ≤ x.length) (placed : part <+: hole ∨ Apart part hole) :
    (∃ q ∈ less hole part, q <+: x) ↔ part <+: x ∧ ¬ hole <+: x := by
  rcases placed with ⟨r, rfl⟩ | apart
  · rw [less_inside (List.prefix_append part r)]
    exact halves_exact long
  · rw [less_outside apart.1]
    simp only [List.mem_singleton, exists_eq_left]
    constructor
    · intro below
      exact ⟨below, fun on => not_apart_of_below below on apart⟩
    · exact And.left

/-- A word less each of the holes in turn. -/
def lessAll (whole : List Bool) (holes : List (List Bool)) : List (List Bool) :=
  holes.foldl (fun parts hole => parts.flatMap (less hole)) [whole]

/-- The parts are `whole` without `done`. -/
structure Left (whole : List Bool) (done parts : List (List Bool)) : Prop where
  apart : parts.Pairwise Apart
  exact : ∀ x : List Bool, (∀ hole ∈ done, hole.length ≤ x.length) →
    ((∃ q ∈ parts, q <+: x) ↔ whole <+: x ∧ ∀ hole ∈ done, ¬ hole <+: x)
  /-- A part is split off next to a hole. -/
  turn : ∀ q ∈ parts, q = whole ∨ ∃ s bit, q = s ++ [bit] ∧ ∃ hole ∈ done, s <+: hole

theorem Left.start (whole : List Bool) : Left whole [] [whole] where
  apart := List.pairwise_singleton _ _
  exact := by simp
  turn := by simp

/-- No hole reaches past a part: its neighbour is a hole too. -/
theorem Left.placed (left : Left whole done parts) (apart : ∀ other ∈ done, Apart other hole)
    (placed : whole <+: hole ∨ Apart whole hole) (mem : part ∈ parts) :
    part <+: hole ∨ Apart part hole := by
  rcases left.turn part mem with rfl | ⟨s, bit, rfl, other, among, beside⟩
  · exact placed
  · by_cases inside : s ++ [bit] <+: hole
    · exact .inl inside
    refine .inr ⟨inside, ?_⟩
    intro past
    rcases List.prefix_concat_iff.1 past with same | past
    · exact inside (same ▸ List.prefix_rfl)
    · exact (apart other among).2 (past.trans beside)

theorem Left.less (left : Left whole done parts) (apart : ∀ other ∈ done, Apart other hole)
    (placed : whole <+: hole ∨ Apart whole hole) :
    Left whole (done ++ [hole]) (parts.flatMap (less hole)) where
  apart := by
    rw [List.pairwise_flatMap]
    refine ⟨fun part _ => less_apart hole part, ?_⟩
    refine left.apart.imp ?_
    intro one two off x below y beneath
    exact off.mono (prefix_of_mem_less below) (prefix_of_mem_less beneath)
  exact := by
    intro x long
    have before := left.exact x fun other among => long other (List.mem_append_left _ among)
    have last : hole.length ≤ x.length := long hole (by simp)
    have each : (∃ q ∈ parts.flatMap (Lib.less hole), q <+: x) ↔
        (∃ q ∈ parts, q <+: x) ∧ ¬ hole <+: x := by
      constructor
      · rintro ⟨q, mem, below⟩
        obtain ⟨part, among, piece⟩ := List.mem_flatMap.1 mem
        have split := (less_exact last (left.placed apart placed among)).1 ⟨q, piece, below⟩
        exact ⟨⟨part, among, split.1⟩, split.2⟩
      · rintro ⟨⟨part, among, below⟩, off⟩
        obtain ⟨q, piece, below⟩ := (less_exact last (left.placed apart placed among)).2 ⟨below, off⟩
        exact ⟨q, List.mem_flatMap.2 ⟨part, among, piece⟩, below⟩
    rw [each, before, and_assoc]
    simp only [List.mem_append, List.mem_singleton, or_imp, forall_and, forall_eq]
  turn := by
    intro q mem
    obtain ⟨part, among, piece⟩ := List.mem_flatMap.1 mem
    rcases turn_of_mem_less piece with rfl | ⟨s, bit, same, beside⟩
    · rcases left.turn q among with same | ⟨s, bit, same, other, among, beside⟩
      · exact .inl same
      · exact .inr ⟨s, bit, same, other, List.mem_append_left _ among, beside⟩
    · exact .inr ⟨s, bit, same, hole, by simp, beside⟩

theorem Left.lessEach (left : Left whole done parts) (apart : (done ++ holes).Pairwise Apart)
    (placed : ∀ hole ∈ holes, whole <+: hole ∨ Apart whole hole) :
    Left whole (done ++ holes) (holes.foldl (fun parts hole => parts.flatMap (Lib.less hole)) parts) := by
  induction holes generalizing done parts with
  | nil => simpa using left
  | cons hole holes ih =>
    have off : ∀ other ∈ done, Apart other hole := fun other among =>
      (List.pairwise_append.1 apart).2.2 other among hole List.mem_cons_self
    have one := left.less off (placed hole List.mem_cons_self)
    have regroup : done ++ hole :: holes = done ++ [hole] ++ holes := by simp
    rw [regroup] at apart ⊢
    exact ih one apart fun other among => placed other (List.mem_cons_of_mem _ among)

/-- What is left of a word without holes that are apart from each other. -/
theorem lessAll_left (apart : holes.Pairwise Apart)
    (placed : ∀ hole ∈ holes, whole <+: hole ∨ Apart whole hole) :
    Left whole holes (lessAll whole holes) :=
  (Left.start whole).lessEach apart placed

end Lib
