import Lexing.Proofs.Regex.Hereditary
import Lexing.Proofs.Regex.Spans
import Lexing.Proofs.Regex.Wrapping

/-!
# Judging an expression on its own

An expression is judged as it stands alone and then used inside a group that counts lines. The two
readings build expressions of one language, and both have the bounds of all their repetitions in
order. So what the analysis says about the language of the first holds of all matches of the second.
-/

namespace Lexing.Regex

theorem hereditary_inOrder : Hereditary InOrder where
  empty := trivial
  literal _ := trivial
  set _ := trivial
  seq_iff _ _ := Iff.rfl
  alt_iff _ _ := Iff.rfl

theorem inOrder_repeated {r : Regex} (hr : r.InOrder) {min : Nat} {max : Option Nat}
    (greedy : Bool) (h : ∀ m ∈ max, min ≤ m) : (r.repeated min max greedy).InOrder := by
  have build (min : Nat) (max : Option Nat) (h : ∀ m ∈ max, min ≤ m) :
      (if min = 0 ∧ max = some 0 then empty
        else if min = 1 ∧ max = some 1 then r
        else repetition r min max greedy).InOrder := by
    split
    next => trivial
    next =>
      split
      next => exact hr
      next => exact ⟨h, hr⟩
  rw [repeated]
  apply build
  by_cases hempty : r.maxLength = some 0
  · simp only [hempty, if_true]
    exact min_one_le h
  · simp only [hempty, if_false]
    exact h

theorem map_language_eq {rs ss : List Regex}
    (h : List.Forall₂ (fun r s => s.language = r.language) rs ss) :
    ss.map language = rs.map language := by
  induction h with
  | nil => rfl
  | cons heq _ ih => rw [List.map_cons, List.map_cons, heq, ih]

theorem forall_mem_right {α β : Type} {p : β → Prop} {xs : List α} {ys : List β}
    (h : List.Forall₂ (fun _ y => p y) xs ys) : ∀ y ∈ ys, p y := by
  induction h with
  | nil => exact List.forall_mem_nil p
  | cons hy _ ih => exact List.forall_mem_cons.mpr ⟨hy, ih⟩

/-- Having the same language is kept by all that a reader builds. -/
theorem congruence_language : Congruence fun r s => s.language = r.language where
  assertion _ _ := rfl
  set _ := rfl
  ofSet _ := rfl
  concat h := by rw [language_concat, language_concat, map_language_eq h]
  choice h := by rw [language_choice, language_choice, map_language_eq h]
  repeated h hle := by
    rw [language_repeated _ _ hle, language_repeated _ _ hle, h]
  group h := h

/-- So is having bounds in order. -/
theorem congruence_inOrder : Congruence fun _ s => s.InOrder where
  assertion _ _ := trivial
  set _ := trivial
  ofSet := hereditary_inOrder.ofSet
  concat h := hereditary_inOrder.concat (forall_mem_right h)
  choice h := hereditary_inOrder.choice (forall_mem_right h)
  repeated h hle := inOrder_repeated h _ hle
  group h := h

theorem inOrder_of_parse {names : Unicode.Names} {source : List Char} {r : Regex}
    (h : parse names source = .ok r) : r.InOrder := by
  obtain ⟨s, hs, hr⟩ := parseWith_related congruence_inOrder false h
  obtain rfl := Except.ok.inj (h.symm.trans hs)
  exact hr

/-- If an expression can be read in a group that counts lines, it keeps its language. -/
theorem language_inLines {names : Unicode.Names} {source : List Char} {r r' : Regex}
    (h : parse names source = .ok r) (h' : parse names (inLines source) = .ok r') :
    r'.language = r.language := by
  obtain ⟨s, hs, hlang⟩ := parseWith_related congruence_language true h
  obtain rfl := eq_of_parse_inLines hs h'
  simp [language_choice, hlang]

end Lexing.Regex
