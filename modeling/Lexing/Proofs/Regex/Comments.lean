import Lexing.Proofs.Regex.Simple

/-!
# Expressions that end in a comment

Where blanks and comments are passed over, an expression may end inside a comment. A parenthesis
that is added to it is then part of the comment. It goes unseen, though there is no group that it
could close. Any other expression can be put into a group that counts lines, and it is read there as
it would be read alone under the flag that counts them.
-/

namespace Lexing.Regex

/-- The text is an expression, and it is still one with a closing parenthesis added. -/
def endsInComment (names : Unicode.Names) (source : List Char) : Bool :=
  (parse names source).isOk && (parse names (source ++ [')'])).isOk

/-- An expression that does not end in a comment is the same in a group that counts lines as it is
alone under the flag that counts them, if the group is not one level too many. One that ends in a
comment takes in the end of the group. -/
theorem parse_inLines_eq {names : Unicode.Names} {source : List Char} {r : Regex}
    (h : parse names source = .ok r) :
    ∃ s, parseWith { multiLine := true, names } source = .ok s ∧
      parse names (inLines source) =
        if endsInComment names source then .error .groupUnclosed
        else if depth names source < maxDepth then .ok s
        else .error .nestedTooDeeply := by
  obtain ⟨s, hs, -⟩ := parseWith_related congruence_solid true h
  refine ⟨s, hs, ?_⟩
  have hends : endsInComment names source = (parse names (source ++ [')'])).isOk := by
    rw [endsInComment, h]
    rfl
  have hdepth : depthWith { multiLine := true, names } source = depth names source :=
    depthWith_withLines true h
  rw [hends]
  obtain ⟨hinside, hadded⟩ | ⟨hinside, hadded⟩ := parse_inLines_cases hs
  · have hnone : ¬ (parse names (source ++ [')'])).isOk = true := by
      intro hok
      obtain ⟨t, ht⟩ := isOk_iff.mp hok
      obtain ⟨t', ht', -⟩ := parseWith_related congruence_solid true ht
      cases hadded.symm.trans ht'
    rw [hinside, hdepth, choice_singleton_of_parse hs, if_neg hnone]
  · obtain ⟨t, ht, -⟩ := parseWith_related congruence_solid false hadded
    have hok : (parse names (source ++ [')'])).isOk = true := isOk_iff.mpr ⟨t, ht⟩
    rw [hinside, if_pos hok]

end Lexing.Regex
