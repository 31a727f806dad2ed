import Lexing.CharSet
import Mathlib.Data.List.Basic
import Mathlib.Tactic.Tauto

/-!
# Members of sets of characters

Sets are built by putting ranges among ascending ranges. Whether a character is a member of what
comes out depends only on the ranges that were put in: joining ranges neither adds nor loses a
character, and this needs no assumption that the ranges were ascending or that none was empty.
-/

namespace Lexing

namespace CharRange

theorem contains_iff {r : CharRange} {c : Char} :
    r.contains c = true ↔ r.first.toNat ≤ c.toNat ∧ c.toNat ≤ r.last.toNat := by
  simp [contains]

@[simp] theorem toNat_first_cover (r s : CharRange) :
    (r.cover s).first.toNat = min r.first.toNat s.first.toNat := by
  simp only [cover]
  split <;> omega

@[simp] theorem toNat_last_cover (r s : CharRange) :
    (r.cover s).last.toNat = max r.last.toNat s.last.toNat := by
  simp only [cover]
  split <;> omega

/-- Two ranges without a code point between them make one range, even if one of them is empty. -/
theorem contains_cover {r s : CharRange} (hr : r.endsBefore s = false)
    (hs : s.endsBefore r = false) (c : Char) :
    (r.cover s).contains c = true ↔ r.contains c = true ∨ s.contains c = true := by
  simp only [endsBefore, decide_eq_false_iff_not, Nat.not_lt] at hr hs
  simp only [contains_iff, toNat_first_cover, toNat_last_cover]
  omega

end CharRange

namespace CharSet

theorem contains_iff {s : CharSet} {c : Char} :
    s.contains c = true ↔ ∃ r ∈ s.ranges, r.contains c = true := by
  simp [contains]

theorem exists_mem_insertRange (r : CharRange) (rs : List CharRange) (c : Char) :
    (∃ s ∈ insertRange r rs, s.contains c = true) ↔
      r.contains c = true ∨ ∃ s ∈ rs, s.contains c = true := by
  fun_induction insertRange r rs with
  | case1 r => simp
  | case2 r s rest _ => simp
  | case3 r s rest _ _ ih =>
      simp only [List.exists_mem_cons_iff, ih]
      tauto
  | case4 r s rest hr hs ih =>
      rw [ih, CharRange.contains_cover (by simpa using hr) (by simpa using hs)]
      simp only [List.exists_mem_cons_iff, or_assoc]

theorem exists_mem_foldr_insertRange (rs ss : List CharRange) (c : Char) :
    (∃ s ∈ rs.foldr insertRange ss, s.contains c = true) ↔
      (∃ r ∈ rs, r.contains c = true) ∨ ∃ s ∈ ss, s.contains c = true := by
  induction rs with
  | nil => simp
  | cons r rest ih =>
      rw [List.foldr_cons, exists_mem_insertRange, ih, List.exists_mem_cons_iff, or_assoc]

theorem contains_union (s t : CharSet) (c : Char) :
    (s.union t).contains c = true ↔ s.contains c = true ∨ t.contains c = true := by
  simp only [contains_iff, union]
  exact exists_mem_foldr_insertRange s.ranges t.ranges c

theorem contains_ofRanges (rs : List CharRange) (c : Char) :
    (ofRanges rs).contains c = true ↔ ∃ r ∈ rs, r.contains c = true := by
  simp only [contains_iff, ofRanges]
  simpa using exists_mem_foldr_insertRange rs [] c

theorem contains_foldr_union (sets : List CharSet) (c : Char) :
    (sets.foldr union empty).contains c = true ↔ ∃ s ∈ sets, s.contains c = true := by
  induction sets with
  | nil => simp
  | cons s rest ih => rw [List.foldr_cons, contains_union, ih, List.exists_mem_cons_iff]

theorem contains_range_self (c d : Char) : CharRange.contains ⟨c, c⟩ d = true ↔ d = c := by
  rw [CharRange.contains_iff]
  constructor
  · rintro ⟨hle, hge⟩
    exact Char.toNat_inj.mp (Nat.le_antisymm hge hle)
  · rintro rfl
    exact ⟨Nat.le_refl _, Nat.le_refl _⟩

@[simp] theorem contains_singleton (c d : Char) : (singleton c).contains d = true ↔ d = c := by
  simp [contains_iff, singleton, range, contains_range_self]

/-- A set from which the only character can be taken has no other members. -/
theorem contains_of_single? {s : CharSet} {c : Char} (h : s.single? = some c) (d : Char) :
    s.contains d = true ↔ d = c := by
  rw [single?] at h
  split at h
  next r hr =>
    split at h
    next he =>
      obtain ⟨first, last⟩ := r
      obtain rfl : first = last := he
      obtain rfl : first = c := by simpa using h
      simp [contains_iff, hr, contains_range_self]
    next => simp at h
  next => simp at h

end CharSet

end Lexing
