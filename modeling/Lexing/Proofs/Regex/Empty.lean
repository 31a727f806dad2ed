import Lexing.Proofs.Regex.Analysis

/-!
# Matches of the empty text

Whether an expression matches the empty text at a place can be computed: all its assertions are then
judged at that one place. The analysis of least lengths is stricter on one side only. An expression
with a least length other than zero matches the empty text nowhere. An expression that has none,
because it holds a part that matches nothing, may match it all the same: the part can stand under a
repetition or beside another alternative that does without it.
-/

namespace Lexing.Regex

/-- The expression matches the empty text at a place. -/
def emptyAt (pt : Point) : Regex → Bool
  | empty => true
  | literal text => text.isEmpty
  | set _ => false
  | assertion condition => condition.holds pt
  | repetition body min _ _ => min = 0 || body.emptyAt pt
  | group _ body => body.emptyAt pt
  | seq first rest => first.emptyAt pt && rest.emptyAt pt
  | alt first rest => first.emptyAt pt || rest.emptyAt pt

theorem index_le_of_spans {r : Regex} {a b : Point} (h : r.Spans a b) : a.index ≤ b.index := by
  obtain ⟨w, -, hpass⟩ := exists_mem_language_of_spans h
  rw [(Point.ahead_of_pass? hpass).2]
  exact Nat.le_add_right _ _

/-- A span that ends where it begins is empty. -/
theorem eq_of_spans {r : Regex} {a b : Point} (h : r.Spans a b) (hle : b.index ≤ a.index) :
    a = b := by
  obtain ⟨w, -, hpass⟩ := exists_mem_language_of_spans h
  have hindex := (Point.ahead_of_pass? hpass).2
  obtain rfl : w = [] := List.length_eq_zero_iff.mp (by omega)
  exact Option.some.inj hpass

theorem index_le_of_rounds {r : Regex} {n : Nat} {a b : Point} (h : rounds r.Spans n a b) :
    a.index ≤ b.index := by
  induction n generalizing a with
  | zero => exact Nat.le_of_eq (congrArg Point.index h)
  | succ n ih =>
      obtain ⟨mid, hone, hrest⟩ := h
      exact Nat.le_trans (index_le_of_spans hone) (ih hrest)

theorem rounds_self {round : Point → Point → Prop} {a : Point} (h : round a a) (n : Nat) :
    rounds round n a a := by
  induction n with
  | zero => rfl
  | succ n ih => exact ⟨a, h, ih⟩

/-- An expression spans nothing between a place and itself if it matches the empty text there. -/
theorem spans_self_iff {r : Regex} (hr : r.InOrder) (pt : Point) :
    r.Spans pt pt ↔ r.emptyAt pt = true := by
  induction r with
  | empty => simp [Spans, emptyAt]
  | literal text =>
      rw [Spans, emptyAt, List.isEmpty_iff]
      constructor
      · intro h
        have hindex := (Point.ahead_of_pass? h).2
        exact List.length_eq_zero_iff.mp (by omega)
      · rintro rfl
        rfl
  | set chars =>
      rw [Spans, emptyAt]
      refine iff_of_false ?_ Bool.false_ne_true
      intro h
      obtain ⟨c, -, hpass⟩ := Point.passIf_eq_some_iff.mp h
      have hindex := (Point.ahead_of_pass? hpass).2
      simp at hindex
  | assertion condition => simp [Spans, emptyAt]
  | group index body ih => exact ih hr
  | seq first rest ihf ihr =>
      rw [emptyAt, Bool.and_eq_true, ← ihf hr.1, ← ihr hr.2]
      constructor
      · rintro ⟨mid, hfirst, hrest⟩
        obtain rfl := eq_of_spans hfirst (index_le_of_spans hrest)
        exact ⟨hfirst, hrest⟩
      · rintro ⟨hfirst, hrest⟩
        exact ⟨pt, hfirst, hrest⟩
  | alt first rest ihf ihr =>
      rw [emptyAt, Bool.or_eq_true, ← ihf hr.1, ← ihr hr.2]
      rfl
  | repetition body min max greedy ih =>
      rw [emptyAt, Bool.or_eq_true, decide_eq_true_iff, ← ih hr.2]
      constructor
      · rintro ⟨n, ⟨hmin, -⟩, hrounds⟩
        cases n with
        | zero => exact .inl (Nat.le_zero.mp hmin)
        | succ n =>
            obtain ⟨mid, hone, hrest⟩ := hrounds
            obtain rfl := eq_of_spans hone (index_le_of_rounds hrest)
            exact .inr hone
      · rintro (rfl | h)
        · exact ⟨0, ⟨Nat.le_refl 0, fun m _ => Nat.zero_le m⟩, rfl⟩
        · exact ⟨min, ⟨Nat.le_refl min, hr.1⟩, rounds_self h min⟩

/-- Where a search prefers the empty match, the expression matches the empty text. -/
theorem emptyAt_of_matchLength? {r : Regex} (hr : r.InOrder) {before : Option Char}
    {ahead : List Char} (h : r.matchLength? before ahead = some 0) :
    r.emptyAt ⟨0, before, ahead⟩ = true := by
  obtain ⟨pt, hspan, hindex⟩ := spans_of_matchLength? hr h
  obtain rfl := eq_of_spans hspan (Nat.le_of_eq hindex)
  exact (spans_self_iff hr _).mp hspan

theorem nil_mem_language_of_emptyAt {r : Regex} (hr : r.InOrder) {pt : Point}
    (h : r.emptyAt pt = true) : [] ∈ r.language := by
  obtain ⟨w, hw, hpass⟩ := exists_mem_language_of_spans ((spans_self_iff hr pt).mpr h)
  have hindex := (Point.ahead_of_pass? hpass).2
  obtain rfl : w = [] := List.length_eq_zero_iff.mp (by omega)
  exact hw

/-- An expression that has a least length, and matches the empty text, has the length zero. -/
theorem minLength_of_nil_mem_language {r : Regex} (h : [] ∈ r.language) :
    r.minLength = some 0 ∨ r.minLength = none := by
  cases hmin : r.minLength with
  | none => exact .inr rfl
  | some k =>
      left
      rw [Nat.le_zero.mp (le_length_of_minLength hmin h)]

end Lexing.Regex
