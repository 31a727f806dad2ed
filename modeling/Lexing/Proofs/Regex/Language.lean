import Lexing.Proofs.CharSet
import Lexing.Regex.Basic
import Mathlib.Computability.Language

/-!
# The texts of an expression

The language of an expression holds the texts that it matches where all its assertions hold. It is
therefore an upper bound on what can be matched anywhere, and it does not change when assertions are
replaced by others.

Building in simple form moves the parts of an expression around: literals are joined, sets united,
common beginnings lifted out. None of this changes the language, which is the product of the
languages for `concat`, their sum for `choice` and a range of powers for `repeated`.
-/

namespace Lexing.Regex

/-- A number of rounds is allowed by the bounds of a repetition. -/
def Allows (min : Nat) (max : Option Nat) (n : Nat) : Prop :=
  min ≤ n ∧ ∀ m ∈ max, n ≤ m

theorem allows_none {min n : Nat} : Allows min none n ↔ min ≤ n := by
  simp [Allows]

theorem allows_some {min max n : Nat} : Allows min (some max) n ↔ min ≤ n ∧ n ≤ max := by
  simp [Allows]

/-- The texts that consist of an allowed number of parts. -/
def roundsOf (l : Language Char) (min : Nat) (max : Option Nat) : Language Char :=
  {w | ∃ n, Allows min max n ∧ w ∈ l ^ n}

/-- The texts that an expression matches where its assertions hold. -/
def language : Regex → Language Char
  | empty | assertion _ => 1
  | literal text => {text}
  | set chars => {w | ∃ c, chars.contains c = true ∧ w = [c]}
  | repetition body min max _ => roundsOf body.language min max
  | group _ body => body.language
  | seq first rest => first.language * rest.language
  | alt first rest => first.language + rest.language

section Membership

variable {w : List Char}

@[simp] theorem mem_language_literal {text : List Char} :
    w ∈ (literal text).language ↔ w = text := Iff.rfl

@[simp] theorem mem_language_set {chars : CharSet} :
    w ∈ (set chars).language ↔ ∃ c, chars.contains c = true ∧ w = [c] := Iff.rfl

@[simp] theorem language_empty : empty.language = 1 := rfl

@[simp] theorem language_seq (r s : Regex) :
    (seq r s).language = r.language * s.language := rfl

@[simp] theorem language_alt (r s : Regex) :
    (alt r s).language = r.language + s.language := rfl

theorem mem_roundsOf {l : Language Char} {min : Nat} {max : Option Nat} :
    w ∈ roundsOf l min max ↔ ∃ n, Allows min max n ∧ w ∈ l ^ n := Iff.rfl

end Membership

theorem length_le_of_mem_pow {l : Language Char} {k : Nat} (hl : ∀ w ∈ l, w.length ≤ k) {n : Nat}
    {w : List Char} (hw : w ∈ l ^ n) : w.length ≤ k * n := by
  induction n generalizing w with
  | zero =>
      rw [pow_zero, Language.mem_one] at hw
      simp [hw]
  | succ n ih =>
      rw [pow_succ, Language.mem_mul] at hw
      obtain ⟨u, hu, v, hv, rfl⟩ := hw
      have hfirst := ih hu
      have hlast := hl v hv
      rw [List.length_append, Nat.mul_succ]
      exact Nat.add_le_add hfirst hlast

theorem le_length_of_mem_pow {l : Language Char} {k : Nat} (hl : ∀ w ∈ l, k ≤ w.length) {n : Nat}
    {w : List Char} (hw : w ∈ l ^ n) : k * n ≤ w.length := by
  induction n generalizing w with
  | zero => simp
  | succ n ih =>
      rw [pow_succ, Language.mem_mul] at hw
      obtain ⟨u, hu, v, hv, rfl⟩ := hw
      have hfirst := ih hu
      have hlast := hl v hv
      rw [List.length_append, Nat.mul_succ]
      exact Nat.add_le_add hfirst hlast

theorem length_le_of_maxLength {r : Regex} {k : Nat} (h : r.maxLength = some k) {w : List Char}
    (hw : w ∈ r.language) : w.length ≤ k := by
  induction r generalizing k w with
  | empty | assertion =>
      rw [show w = [] from hw]
      exact Nat.zero_le k
  | literal text =>
      obtain rfl : text.length = k := by simpa [maxLength] using h
      rw [show w = text from hw]
  | set chars =>
      obtain ⟨c, -, rfl⟩ := hw
      simp only [maxLength] at h
      split at h
      · simp at h
      · simp [← Option.some.inj h]
  | repetition body min max greedy ih =>
      simp only [maxLength, Option.bind_eq_bind, Option.bind_eq_some_iff, Option.pure_def,
        Option.some.injEq] at h
      obtain ⟨b, hb, m, hm, rfl⟩ := h
      obtain ⟨n, ⟨-, hn⟩, hw⟩ := hw
      exact Nat.le_trans (length_le_of_mem_pow (fun _ => ih hb) hw)
        (Nat.mul_le_mul_left b (hn m hm))
  | group index body ih => exact ih h hw
  | seq first rest ihf ihr =>
      simp only [maxLength, Option.bind_eq_bind, Option.bind_eq_some_iff, Option.pure_def,
        Option.some.injEq] at h
      obtain ⟨a, ha, b, hb, rfl⟩ := h
      obtain ⟨u, hu, v, hv, rfl⟩ := Language.mem_mul.mp hw
      rw [List.length_append]
      exact Nat.add_le_add (ihf ha hu) (ihr hb hv)
  | alt first rest ihf ihr =>
      simp only [maxLength, Option.bind_eq_bind, Option.bind_eq_some_iff, Option.pure_def,
        Option.some.injEq] at h
      obtain ⟨a, ha, b, hb, rfl⟩ := h
      rcases hw with hw | hw
      · exact Nat.le_trans (ihf ha hw) (Nat.le_max_left a b)
      · exact Nat.le_trans (ihr hb hw) (Nat.le_max_right a b)

/-- The analysis of least lengths is a lower bound, where it gives one at all. -/
theorem le_length_of_minLength {r : Regex} {k : Nat} (h : r.minLength = some k) {w : List Char}
    (hw : w ∈ r.language) : k ≤ w.length := by
  induction r generalizing k w with
  | empty | assertion =>
      obtain rfl : 0 = k := by simpa [minLength] using h
      exact Nat.zero_le _
  | literal text =>
      obtain rfl : text.length = k := by simpa [minLength] using h
      rw [show w = text from hw]
  | set chars =>
      obtain ⟨c, -, rfl⟩ := hw
      simp only [minLength] at h
      split at h
      · simp at h
      · simp [← Option.some.inj h]
  | repetition body min max greedy ih =>
      simp only [minLength, Option.map_eq_some_iff] at h
      obtain ⟨b, hb, rfl⟩ := h
      obtain ⟨n, ⟨hn, -⟩, hw⟩ := hw
      exact Nat.le_trans (Nat.mul_le_mul_left b hn) (le_length_of_mem_pow (fun _ => ih hb) hw)
  | group index body ih => exact ih h hw
  | seq first rest ihf ihr =>
      simp only [minLength, Option.bind_eq_bind, Option.bind_eq_some_iff, Option.pure_def,
        Option.some.injEq] at h
      obtain ⟨a, ha, b, hb, rfl⟩ := h
      obtain ⟨u, hu, v, hv, rfl⟩ := Language.mem_mul.mp hw
      rw [List.length_append]
      exact Nat.add_le_add (ihf ha hu) (ihr hb hv)
  | alt first rest ihf ihr =>
      simp only [minLength, Option.bind_eq_bind, Option.bind_eq_some_iff, Option.pure_def,
        Option.some.injEq] at h
      obtain ⟨a, ha, b, hb, rfl⟩ := h
      rcases hw with hw | hw
      · exact Nat.le_trans (Nat.min_le_left a b) (ihf ha hw)
      · exact Nat.le_trans (Nat.min_le_right a b) (ihr hb hw)

theorem notMem_of_mem_pow {l : Language Char} {c : Char} (hl : ∀ w ∈ l, c ∉ w) {n : Nat}
    {w : List Char} (hw : w ∈ l ^ n) : c ∉ w := by
  obtain ⟨parts, rfl, -, hparts⟩ := Language.mem_pow.mp hw
  intro hc
  obtain ⟨part, hpart, hc⟩ := List.mem_flatten.mp hc
  exact hl part (hparts part hpart) hc

/-- The analysis of line breaks misses none. -/
theorem notMem_of_not_mayBreakLine {r : Regex} (h : r.mayBreakLine = false) {w : List Char}
    (hw : w ∈ r.language) : '\n' ∉ w := by
  induction r generalizing w with
  | empty | assertion => rw [show w = [] from hw]; exact List.not_mem_nil
  | literal text =>
      rw [show w = text from hw]
      simpa [mayBreakLine] using h
  | set chars =>
      obtain ⟨c, hc, rfl⟩ := hw
      intro hmem
      obtain rfl : '\n' = c := List.mem_singleton.mp hmem
      simp [mayBreakLine, hc] at h
  | repetition body min max greedy ih =>
      obtain ⟨n, ⟨-, hn⟩, hw⟩ := hw
      simp only [mayBreakLine, Bool.and_eq_false_iff, bne_eq_false_iff_eq] at h
      rcases h with rfl | h
      · -- No round is allowed, so nothing was read.
        obtain rfl : n = 0 := Nat.le_zero.mp (hn 0 rfl)
        rw [pow_zero, Language.mem_one] at hw
        rw [hw]
        exact List.not_mem_nil
      · exact notMem_of_mem_pow (fun _ => ih h) hw
  | group index body ih => exact ih h hw
  | seq first rest ihf ihr =>
      simp only [mayBreakLine, Bool.or_eq_false_iff] at h
      obtain ⟨u, hu, v, hv, rfl⟩ := Language.mem_mul.mp hw
      rw [List.mem_append]
      rintro (hmem | hmem)
      · exact ihf h.1 hu hmem
      · exact ihr h.2 hv hmem
  | alt first rest ihf ihr =>
      simp only [mayBreakLine, Bool.or_eq_false_iff] at h
      rcases hw with hw | hw
      · exact ihf h.1 hw
      · exact ihr h.2 hw

end Lexing.Regex
