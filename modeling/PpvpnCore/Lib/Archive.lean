import Mathlib.Logic.Function.Basic
import Mathlib.Data.List.Infix

/-!
# Numbered files

A file for each number, the newest at 0, that are moved on by one to make room.

* `Archive.kept`: what the first `n` hold, from the oldest on.
* `Archive.Sheds`: some of the oldest is gone, and nothing else.
-/

namespace Lib

abbrev Archive (α : Type) := Nat → Option (List α)

namespace Archive

variable {α : Type} {d d' d'' : Archive α} {i n : Nat}

def clear (d : Archive α) (i : Nat) : Archive α := Function.update d i none

def fill (d : Archive α) (i : Nat) (items : List α) : Archive α := Function.update d i (some items)

/-- The file `i` becomes the next, whose old content is gone. -/
def move (d : Archive α) (i : Nat) : Archive α :=
  Function.update (Function.update d (i + 1) (d i)) i none

def kept (d : Archive α) : Nat → List α
  | 0 => []
  | n + 1 => (d n).getD [] ++ kept d n

/-- `d'` is `d` less some of the oldest; empty files do not count. -/
structure Sheds (n : Nat) (d d' : Archive α) : Prop where
  suffix : kept d' n <:+ kept d n
  same : ∀ i items, d' i = some items → items = [] ∨ ∃ j, d j = some items
  within : (∀ i, n ≤ i → d i = none) → ∀ i, n ≤ i → d' i = none

@[simp]
theorem move_self (d : Archive α) (i : Nat) : move d i i = none := Function.update_self ..

theorem move_next (d : Archive α) (i : Nat) : move d i (i + 1) = d i := by
  rw [move, Function.update_of_ne (by omega), Function.update_self]

theorem move_other {j : Nat} (before : j ≠ i) (after : j ≠ i + 1) : move d i j = d j := by
  rw [move, Function.update_of_ne before, Function.update_of_ne after]

theorem kept_congr (same : ∀ i < n, d' i = d i) : kept d' n = kept d n := by
  induction n with
  | zero => rfl
  | succ n ih => rw [kept, kept, same n (by omega), ih fun i below => same i (by omega)]

theorem kept_update (content : Option (List α)) (below : i < n) : ∃ front,
    kept d n = front ++ ((d i).getD [] ++ kept d i) ∧
      kept (Function.update d i content) n = front ++ (content.getD [] ++ kept d i) := by
  induction n with
  | zero => omega
  | succ n ih =>
    by_cases last : i = n
    · subst last
      have rest : kept (Function.update d i content) i = kept d i :=
        kept_congr fun j small => Function.update_of_ne (by omega) _ _
      refine ⟨[], rfl, ?_⟩
      rw [kept, Function.update_self, rest]
      rfl
    · obtain ⟨front, before, after⟩ := ih (by omega)
      refine ⟨(d n).getD [] ++ front, ?_, ?_⟩
      · rw [kept, before, List.append_assoc]
      · rw [kept, after, Function.update_of_ne (by omega), List.append_assoc]

theorem kept_move (below : i + 1 < n) : ∃ front,
    kept d n = front ++ ((d (i + 1)).getD [] ++ ((d i).getD [] ++ kept d i)) ∧
      kept (move d i) n = front ++ ((d i).getD [] ++ kept d i) ∧ (i + 2 = n → front = []) := by
  induction n with
  | zero => omega
  | succ n ih =>
    by_cases last : i + 1 = n
    · subst last
      have rest : kept (move d i) i = kept d i :=
        kept_congr fun j small => move_other (by omega) (by omega)
      refine ⟨[], rfl, ?_, fun _ => rfl⟩
      rw [kept, kept, move_next, move_self, rest]
      rfl
    · obtain ⟨front, before, after, -⟩ := ih (by omega)
      refine ⟨(d n).getD [] ++ front, ?_, ?_, by omega⟩
      · rw [kept, before, List.append_assoc]
      · rw [kept, after, move_other (by omega) (by omega), List.append_assoc]

namespace Sheds

theorem refl (n : Nat) (d : Archive α) : Sheds n d d :=
  ⟨List.suffix_rfl, fun i _ here => .inr ⟨i, here⟩, fun within => within⟩

theorem trans (first : Sheds n d d') (second : Sheds n d' d'') : Sheds n d d'' := by
  refine ⟨second.suffix.trans first.suffix, fun i items here => ?_,
    fun within => second.within (first.within within)⟩
  rcases second.same i items here with none | ⟨j, here⟩
  · exact .inl none
  · exact first.same j items here

/-- The oldest is removed. -/
theorem clear_last : Sheds (n + 1) d (clear d n) := by
  have rest : kept (clear d n) n = kept d n :=
    kept_congr fun j small => Function.update_of_ne (by omega) _ _
  refine ⟨?_, fun i items here => ?_, fun within i beyond => ?_⟩
  · rw [kept, rest, clear, Function.update_self]
    exact List.suffix_append _ _
  · by_cases same : i = n
    · rw [same, clear, Function.update_self] at here
      cases here
    · rw [clear, Function.update_of_ne same] at here
      exact .inr ⟨i, here⟩
  · rw [clear, Function.update_of_ne (by omega)]
    exact within i beyond

/-- A file takes a free place, or that of the oldest. -/
theorem move (below : i + 1 < n) (free : d (i + 1) = none ∨ i + 2 = n) : Sheds n d (d.move i) := by
  obtain ⟨front, before, after, last⟩ := kept_move (d := d) below
  refine ⟨?_, fun j items here => ?_, fun within j beyond => ?_⟩
  · rw [before, after]
    rcases free with none | same
    · rw [none]
      exact List.suffix_rfl
    · rw [last same]
      exact List.suffix_append _ _
  · by_cases self : j = i
    · rw [self, move_self] at here
      cases here
    · by_cases next : j = i + 1
      · rw [next, move_next] at here
        exact .inr ⟨i, here⟩
      · rw [move_other self next] at here
        exact .inr ⟨j, here⟩
  · rw [move_other (by omega) (by omega)]
    exact within j beyond

/-- The newest is created where it is missing. -/
theorem create (some : 0 < n) : Sheds n d (fill d 0 ((d 0).getD [])) := by
  obtain ⟨front, before, after⟩ := kept_update (d := d) (Option.some ((d 0).getD [])) some
  refine ⟨?_, fun i items here => ?_, fun within i beyond => ?_⟩
  · rw [fill, after, before]
    exact List.suffix_rfl
  · by_cases newest : i = 0
    · rw [newest, fill, Function.update_self] at here
      cases content : d 0 with
      | none =>
        rw [content] at here
        exact .inl (Option.some.inj here).symm
      | some old =>
        rw [content] at here
        exact .inr ⟨0, content.trans here⟩
    · rw [fill, Function.update_of_ne newest] at here
      exact .inr ⟨i, here⟩
  · rw [fill, Function.update_of_ne (by omega)]
    exact within i beyond

end Sheds

/-- An item is added to the newest. -/
theorem kept_append {items : List α} {item : α} (some : 0 < n) (here : d 0 = Option.some items) :
    kept (fill d 0 (items ++ [item])) n = kept d n ++ [item] := by
  obtain ⟨front, before, after⟩ :=
    kept_update (d := d) (Option.some (items ++ [item])) some
  rw [fill, after, before, here]
  simp [kept]

end Archive

end Lib
