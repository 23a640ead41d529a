import Mathlib.Data.List.Forall2
import Mathlib.Data.List.Sort

/-!
# A stream read in blocks

A reader of a stream may get items that stand for several entries at once. The
items read cover the stream up to a rest when the stream begins with one block
for each item, in order.

* `Covers.publish`: the stream grows at its end, and so does the rest.
* `Covers.read`: one more item takes a block off the rest.
* `Covers.split`: what was read before an item covers what came before it.
-/

namespace Lib

variable {α β : Type} {block : β → List α → Prop}

def Covers (block : β → List α → Prop) (items : List β) (stream rest : List α) : Prop :=
  ∃ blocks, List.Forall₂ block items blocks ∧ stream = blocks.flatten ++ rest

theorem Covers.nil (stream : List α) : Covers block [] stream stream :=
  ⟨[], .nil, rfl⟩

theorem Covers.publish {items : List β} {stream rest : List α} (covers : Covers block items stream rest)
    (more : List α) : Covers block items (stream ++ more) (rest ++ more) := by
  obtain ⟨blocks, taken, rfl⟩ := covers
  exact ⟨blocks, taken, List.append_assoc _ _ _⟩

theorem Covers.read {items : List β} {stream taken rest : List α} {item : β}
    (covers : Covers block items stream (taken ++ rest)) (next : block item taken) :
    Covers block (items ++ [item]) stream rest := by
  obtain ⟨blocks, before, rfl⟩ := covers
  refine ⟨blocks ++ [taken], ?_, ?_⟩
  · exact List.rel_append before (.cons next .nil)
  · simp only [List.flatten_append, List.flatten_cons, List.flatten_nil, List.append_nil,
      List.append_assoc]

theorem Covers.cons {item : β} {items : List β} {taken stream rest : List α}
    (first : block item taken) (covers : Covers block items stream rest) :
    Covers block (item :: items) (taken ++ stream) rest := by
  obtain ⟨blocks, others, rfl⟩ := covers
  exact ⟨taken :: blocks, .cons first others, (List.append_assoc _ _ _).symm⟩

theorem Covers.uncons {item : β} {items : List β} {stream rest : List α}
    (covers : Covers block (item :: items) stream rest) :
    ∃ taken later, stream = taken ++ later ∧ block item taken ∧ Covers block items later rest := by
  obtain ⟨blocks, all, rfl⟩ := covers
  cases all with
  | @cons _ taken _ blocks first others =>
    exact ⟨taken, blocks.flatten ++ rest, List.append_assoc _ _ _, first, blocks, others, rfl⟩

theorem Covers.split {before after : List β} {stream rest : List α}
    (covers : Covers block (before ++ after) stream rest) :
    ∃ middle, Covers block before stream middle ∧ Covers block after middle rest := by
  induction before generalizing stream with
  | nil => exact ⟨stream, .nil stream, covers⟩
  | cons item items ih =>
    obtain ⟨taken, later, rfl, first, others⟩ := covers.uncons
    obtain ⟨middle, left, right⟩ := ih others
    exact ⟨middle, .cons first left, right⟩

/-- What is covered is a beginning of the stream. -/
theorem Covers.exists_append {items : List β} {stream rest : List α}
    (covers : Covers block items stream rest) : ∃ taken, stream = taken ++ rest :=
  let ⟨blocks, _, same⟩ := covers
  ⟨blocks.flatten, same⟩

/-- Every item read stands for a block of the stream. -/
theorem Covers.exists_block {items : List β} {stream rest : List α} {item : β}
    (covers : Covers block items stream rest) (mem : item ∈ items) :
    ∃ taken, block item taken ∧ ∀ entry ∈ taken, entry ∈ stream := by
  obtain ⟨before, after, rfl⟩ := List.append_of_mem mem
  obtain ⟨middle, left, right⟩ := covers.split
  obtain ⟨skipped, rfl⟩ := left.exists_append
  obtain ⟨taken, later, rfl, stands, -⟩ := right.uncons
  refine ⟨taken, stands, ?_⟩
  intro entry among
  exact List.mem_append_right _ (List.mem_append_left _ among)

end Lib
