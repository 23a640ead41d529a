import Mathlib.Data.List.Nodup
import Mathlib.Data.List.Dedup
import Mathlib.Data.List.Perm.Subperm

/-!
# A table with one value for each key

A hash map as its entries, in no order that matters.

* `Table.get`, `Table.set`, `Table.retain`, `Table.size`.
* `Table.size_le`: a table is no larger than a list that names its keys.
-/

namespace Lib

structure Table (κ ν : Type) where
  entries : List (κ × ν)
  distinct : (entries.map Prod.fst).Nodup

namespace Table

variable {κ ν : Type}

def empty : Table κ ν := ⟨[], List.nodup_nil⟩

def size (t : Table κ ν) : Nat := t.entries.length

def retain (t : Table κ ν) (keep : ν → Bool) : Table κ ν where
  entries := t.entries.filter fun e => keep e.2
  distinct := t.distinct.sublist (List.filter_sublist.map Prod.fst)

variable [DecidableEq κ]

def get (t : Table κ ν) (key : κ) : Option ν :=
  (t.entries.find? fun e => e.1 = key).map Prod.snd

theorem not_mem_without (entries : List (κ × ν)) (key : κ) :
    key ∉ (entries.filter fun e => e.1 ≠ key).map Prod.fst := by
  intro mem
  obtain ⟨e, here, rfl⟩ := List.mem_map.mp mem
  simpa using (List.mem_filter.mp here).2

def set (t : Table κ ν) (key : κ) (value : ν) : Table κ ν where
  entries := (key, value) :: t.entries.filter fun e => e.1 ≠ key
  distinct := List.nodup_cons.mpr
    ⟨not_mem_without t.entries key, t.distinct.sublist (List.filter_sublist.map Prod.fst)⟩

variable {t : Table κ ν} {key other : κ} {value : ν} {keep : ν → Bool}

/-! ## Lookups -/

theorem get_empty : (empty : Table κ ν).get key = none := rfl

theorem get_eq_some : t.get key = some value ↔ (key, value) ∈ t.entries := by
  obtain ⟨entries, distinct⟩ := t
  unfold get
  induction entries with
  | nil => simp
  | cons e entries ih =>
    obtain ⟨absent, rest⟩ := List.nodup_cons.mp distinct
    have later := ih rest
    dsimp only at later ⊢
    by_cases same : e.1 = key
    · rw [List.find?_cons_of_pos (by simpa using same), List.mem_cons]
      have gone : (key, value) ∉ entries := by
        intro mem
        exact absent (same ▸ List.mem_map_of_mem mem)
      constructor
      · intro found
        cases found
        exact .inl (Prod.ext same.symm rfl)
      · intro found
        rcases found with rfl | mem
        · rfl
        · exact absurd mem gone
    · rw [List.find?_cons_of_neg (by simpa using same), later, List.mem_cons]
      constructor
      · exact .inr
      · intro found
        rcases found with rfl | mem
        · exact absurd rfl same
        · exact mem

theorem mem_keys : key ∈ t.entries.map Prod.fst ↔ ∃ value, t.get key = some value := by
  rw [List.mem_map]
  constructor
  · intro found
    obtain ⟨e, mem, rfl⟩ := found
    exact ⟨e.2, (get_eq_some).mpr mem⟩
  · intro found
    obtain ⟨value, held⟩ := found
    exact ⟨(key, value), (get_eq_some).mp held, rfl⟩

theorem get_set_self : (t.set key value).get key = some value :=
  (get_eq_some).mpr List.mem_cons_self

theorem get_set_of_ne (ne : other ≠ key) : (t.set key value).get other = t.get other := by
  refine Option.ext fun found => ?_
  rw [get_eq_some, get_eq_some, set, List.mem_cons, List.mem_filter]
  simp [ne]

theorem get_retain : (t.retain keep).get key = (t.get key).filter keep := by
  refine Option.ext fun found => ?_
  rw [get_eq_some, Option.filter_eq_some_iff, get_eq_some, retain, List.mem_filter]

/-! ## Sizes -/

theorem size_set_of_none (new : t.get key = none) : (t.set key value).size = t.size + 1 := by
  have kept : (t.entries.filter fun e => e.1 ≠ key) = t.entries := by
    refine List.filter_eq_self.mpr fun e mem => ?_
    refine decide_eq_true fun same => ?_
    rw [← same, (get_eq_some).mpr (show (e.1, e.2) ∈ t.entries from mem)] at new
    cases new
  change (t.entries.filter fun e => e.1 ≠ key).length + 1 = t.entries.length + 1
  rw [kept]

theorem size_set_of_some {held : ν} (old : t.get key = some held) :
    (t.set key value).size ≤ t.size := by
  have mem := (get_eq_some).mp old
  have fewer : (t.entries.filter fun e => e.1 ≠ key).length < t.entries.length :=
    List.length_filter_lt_length_iff_exists.mpr ⟨_, mem, by simp⟩
  rw [size, set, List.length_cons, size]
  omega

omit [DecidableEq κ] in
theorem size_retain : (t.retain keep).size ≤ t.size := List.length_filter_le ..

/-- Nothing was dropped when nothing became smaller. -/
theorem retained (same : t.size ≤ (t.retain keep).size) (held : t.get key = some value) :
    keep value = true := by
  have all := List.length_filter_eq_length_iff.mp
    (Nat.le_antisymm (List.length_filter_le ..) same)
  exact all _ ((get_eq_some).mp held)

theorem size_le {keys : List κ} (named : ∀ key value, t.get key = some value → key ∈ keys) :
    t.size ≤ keys.dedup.length := by
  have within_ : t.entries.map Prod.fst ⊆ keys.dedup := by
    intro key mem
    obtain ⟨value, held⟩ := (mem_keys).mp mem
    exact List.mem_dedup.mpr (named key value held)
  have bound := (List.subperm_of_subset t.distinct within_).length_le
  rwa [List.length_map] at bound

end Table

end Lib
