import Mathlib.Data.List.Sort
import Forms.Pattern.Charset

/-!
# Sets of characters as sets

Joining ranges keeps their code points and leaves ranges in ascending order that neither meet nor
touch.  For such ranges the gaps between them are the complement.
-/

namespace Forms.Pattern

open Unicode (Ranges)

theorem Alphabet.toNat_le_last (c : Char) : c.toNat ≤ Alphabet.unicode.last := by
  rcases c.valid with hlow | hhigh
  · exact Nat.le_of_lt (Nat.lt_trans hlow (by decide))
  · exact Nat.le_of_lt_succ hhigh.2

theorem contains_iff {set : Ranges} {code : Nat} :
    set.contains code = true ↔ ∃ range ∈ set, range.1 ≤ code ∧ code ≤ range.2 := by
  simp [Ranges.contains]

theorem contains_cons_iff {range : Nat × Nat} {rest : Ranges} {code : Nat} :
    Ranges.contains (range :: rest) code = true ↔
      range.1 ≤ code ∧ code ≤ range.2 ∨ rest.contains code = true := by
  simp [Ranges.contains]

theorem contains_append (left right : Ranges) (code : Nat) :
    Ranges.contains (left ++ right) code = (left.contains code || right.contains code) := by
  simp [Ranges.contains]

namespace Charset

/-- Ranges in ascending order, none empty, that neither meet nor touch. -/
structure Ordered (set : Charset) : Prop where
  inhabited : ∀ range ∈ set, range.1 ≤ range.2
  apart : set.Pairwise fun range next => range.2 + 1 < next.1

/-- Order, the lower bound that keeps the order of what stands before, and the code points, by one
induction along the ranges. -/
theorem joinFrom_spec (rest : Ranges) {range : Nat × Nat} (hrange : range.1 ≤ range.2)
    (hrest : ∀ next ∈ rest, range.1 ≤ next.1 ∧ next.1 ≤ next.2)
    (hsorted : rest.Pairwise fun next later => next.1 ≤ later.1) :
    Ordered (joinFrom range rest) ∧ (∀ joined ∈ joinFrom range rest, range.1 ≤ joined.1) ∧
      ∀ code, Ranges.contains (joinFrom range rest) code =
        Ranges.contains (range :: rest) code := by
  induction rest generalizing range with
  | nil => exact ⟨⟨by simpa [joinFrom] using hrange, by simp [joinFrom]⟩, by simp [joinFrom],
      fun _ => rfl⟩
  | cons next rest ih =>
    obtain ⟨⟨hlow, hnext⟩, hrest⟩ := List.forall_mem_cons.mp hrest
    obtain ⟨hlater, hsorted⟩ := List.pairwise_cons.mp hsorted
    by_cases htouch : next.1 ≤ range.2 + 1
    · rw [joinFrom, if_pos htouch]
      obtain ⟨hordered, hbound, hcodes⟩ := @ih (range.1, max range.2 next.2)
        (hrange.trans (le_max_left _ _)) hrest hsorted
      refine ⟨hordered, hbound, fun code => ?_⟩
      rw [hcodes, Bool.eq_iff_iff, contains_cons_iff, contains_cons_iff, contains_cons_iff,
        ← or_assoc]
      exact or_congr_left (by omega)
    · rw [joinFrom, if_neg htouch]
      obtain ⟨⟨hinhabited, hapart⟩, hbound, hcodes⟩ := ih hnext
        (fun later hmem => ⟨hlater later hmem, (hrest later hmem).2⟩) hsorted
      refine ⟨⟨List.forall_mem_cons.mpr ⟨hrange, hinhabited⟩, List.pairwise_cons.mpr ⟨?_, hapart⟩⟩,
        List.forall_mem_cons.mpr ⟨le_rfl, ?_⟩, fun code => ?_⟩
      · intro joined hmem
        exact lt_of_lt_of_le (not_le.mp htouch) (hbound joined hmem)
      · intro joined hmem
        exact hlow.trans (hbound joined hmem)
      · simpa [Ranges.contains] using congrArg _ (hcodes code)

section Ranges

variable {ranges : Ranges} (hranges : ∀ range ∈ ranges, range.1 ≤ range.2)
include hranges

/-- Sorting keeps the code points as well, and gives the ranges the order that joining asks for. -/
theorem ofRanges_spec :
    Ordered (ofRanges ranges) ∧ ∀ code, (ofRanges ranges).contains code = ranges.contains code := by
  have hperm := List.mergeSort_perm ranges fun a b => a.1 ≤ b.1
  have hsorted : (ranges.mergeSort fun a b => a.1 ≤ b.1).Pairwise
      fun a b => decide (a.1 ≤ b.1) = true :=
    List.pairwise_mergeSort
      (fun _ _ _ hab hbc => decide_eq_true ((of_decide_eq_true hab).trans (of_decide_eq_true hbc)))
      (fun a b => by
        rw [Bool.or_eq_true, decide_eq_true_iff, decide_eq_true_iff]
        exact Nat.le_total a.1 b.1) ranges
  have hcodes (code : Nat) :
      Ranges.contains (ranges.mergeSort fun a b => a.1 ≤ b.1) code = ranges.contains code := by
    rw [Bool.eq_iff_iff, contains_iff, contains_iff]
    simp only [hperm.mem_iff]
  rw [ofRanges]
  simp only [← hcodes]
  simp only [← hperm.mem_iff] at hranges
  generalize ranges.mergeSort (fun a b => a.1 ≤ b.1) = sorted at hranges hsorted ⊢
  cases sorted with
  | nil => exact ⟨⟨by simp [join], by simp [join]⟩, fun _ => rfl⟩
  | cons range rest =>
    obtain ⟨hrange, hrest⟩ := List.forall_mem_cons.mp hranges
    obtain ⟨hfirst, hsorted⟩ := List.pairwise_cons.mp hsorted
    obtain ⟨hordered, -, hjoined⟩ := joinFrom_spec rest hrange
      (fun next hmem => ⟨of_decide_eq_true (hfirst next hmem), hrest next hmem⟩)
      (hsorted.imp of_decide_eq_true)
    exact ⟨hordered, hjoined⟩

theorem ordered_ofRanges : Ordered (ofRanges ranges) := (ofRanges_spec hranges).1

theorem contains_ofRanges (code : Nat) :
    (ofRanges ranges).contains code = ranges.contains code := (ofRanges_spec hranges).2 code

end Ranges

/-- Up to the last code point, the gaps of a set hold what the set does not. -/
theorem contains_gaps_iff {set : Charset} (hset : set.Ordered) {first last code : Nat}
    (hfirst : ∀ range ∈ set, first ≤ range.1) (hcode : code ≤ last) :
    (gaps last first set).contains code = true ↔ first ≤ code ∧ ¬ set.contains code = true := by
  induction set generalizing first with
  | nil =>
    have hnone : Ranges.contains [] code = false := rfl
    rw [gaps, hnone]
    by_cases hspace : first ≤ last
    · rw [if_pos hspace, contains_cons_iff, hnone]
      simp [hcode]
    · rw [if_neg hspace, hnone]
      simp only [Bool.false_eq_true, not_false_eq_true, and_true, false_iff]
      omega
  | cons range rest ih =>
    obtain ⟨hstart, hrest⟩ := List.forall_mem_cons.mp hset.inhabited
    obtain ⟨hfar, hapart⟩ := List.pairwise_cons.mp hset.apart
    have hbehind : (gaps last (range.2 + 1) rest).contains code = true ↔
        range.2 + 1 ≤ code ∧ ¬ Ranges.contains rest code = true :=
      ih ⟨hrest, hapart⟩ fun next hmem => (hfar next hmem).le
    have hgap : (gaps last first (range :: rest)).contains code = true ↔
        first ≤ code ∧ code < range.1 ∨ (gaps last (range.2 + 1) rest).contains code = true := by
      rw [gaps]
      split
      · rw [contains_cons_iff]
        exact or_congr_left (by omega)
      · exact (or_iff_right (by omega)).symm
    have hafter : Ranges.contains rest code = true → range.2 < code := by
      rw [contains_iff]
      rintro ⟨next, hmem, hlow, -⟩
      have := hfar next hmem
      omega
    have hbefore := hfirst range List.mem_cons_self
    rw [hgap, hbehind, contains_cons_iff]
    grind

theorem contains_complement {set : Charset} (hset : set.Ordered) {alphabet : Alphabet} {code : Nat}
    (hcode : code ≤ alphabet.last) :
    (complement alphabet set).contains code = !set.contains code := by
  rw [Bool.eq_iff_iff, complement, contains_gaps_iff hset (fun _ _ => Nat.zero_le _) hcode]
  simp

end Charset

end Forms.Pattern
