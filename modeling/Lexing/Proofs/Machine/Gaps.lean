import Lexing.Proofs.Machine.Collecting

/-!
# Gaps between matches

Where nothing matches in a text there is a gap, up to the next place where something does, or up to
the end of the text. A state that collects looks for this place in what lies ahead. What lies behind
comes in too, since an expression may ask for the character before a match, and this is another one
at each place that is passed.
-/

namespace Lexing.StateTable

variable (t : StateTable)

/-- What matches in a text at a place, with the whole text around it. -/
def matchAt? (text : List Char) (place : Nat) : Option (Nat × Nat) :=
  t.match? (text.take place).getLast? (text.drop place)

/-- Nothing matches at a place of a text, nor further on before `stop`. There something does, unless
it is the end of the text. -/
structure Gap (text : List Char) (place stop : Nat) : Prop where
  lt : place < stop
  le : stop ≤ text.length
  unmatched : ∀ k, place ≤ k → k < stop → t.matchAt? text k = none
  matched : stop < text.length → t.matchAt? text stop ≠ none

variable {t} {text : List Char} {place stop : Nat}

theorem matchAt?_append (passed ahead : List Char) :
    t.matchAt? (passed ++ ahead) passed.length = t.match? passed.getLast? ahead := by
  rw [matchAt?, List.take_left, List.drop_left]

/-- A gap may be one character long. -/
theorem Gap.one (hlt : place < text.length) (hplace : t.matchAt? text place = none)
    (hnext : place + 1 < text.length → t.matchAt? text (place + 1) ≠ none) :
    t.Gap text place (place + 1) := by
  refine ⟨Nat.lt_succ_self place, hlt, ?_, hnext⟩
  intro k hle hk
  obtain rfl : k = place := by omega
  exact hplace

/-- A gap begins one place earlier if nothing matches there. -/
theorem Gap.prepend (h : t.Gap text (place + 1) stop) (hplace : t.matchAt? text place = none) :
    t.Gap text place stop := by
  refine ⟨Nat.lt_of_succ_lt h.lt, h.le, ?_, h.matched⟩
  intro k hle hk
  rcases Nat.eq_or_lt_of_le hle with rfl | hlt
  · exact hplace
  · exact h.unmatched k hlt hk

/-- A table that collects takes the characters of the gap. -/
theorem gap_append (passed : List Char) {ahead : List Char} (hne : ahead ≠ [])
    (hmatch : t.match? passed.getLast? ahead = none) :
    t.Gap (passed ++ ahead) passed.length (passed.length + t.gap passed.getLast? ahead) := by
  -- The induction is on the text ahead, of which the first character is passed at each step.
  induction ahead generalizing passed with
  | nil => exact absurd rfl hne
  | cons c cs ih =>
      have hpassed : passed ++ c :: cs = (passed ++ [c]) ++ cs := by
        rw [List.append_assoc, List.singleton_append]
      have hlength : (passed ++ [c]).length = passed.length + 1 := List.length_append
      have hplace := (matchAt?_append passed (c :: cs)).trans hmatch
      have hnext : t.matchAt? (passed ++ c :: cs) (passed.length + 1) = t.match? (some c) cs := by
        rw [hpassed, ← hlength, matchAt?_append, List.getLast?_concat]
      by_cases hstop : cs = [] ∨ t.match? (some c) cs ≠ none
      · rw [gap_eq_one hmatch hstop]
        refine .one (by simp) hplace ?_
        intro hlt
        rw [hnext]
        refine hstop.resolve_left ?_
        rintro rfl
        simp at hlt
      · obtain ⟨hcs, hunmatched⟩ := not_or.mp hstop
        have hunmatched := not_not.mp hunmatched
        have hrest := ih (passed ++ [c]) hcs (by rw [List.getLast?_concat, hunmatched])
        rw [← hpassed, hlength, List.getLast?_concat, Nat.add_assoc, Nat.add_comm 1] at hrest
        rw [gap_cons hmatch hcs hunmatched]
        exact hrest.prepend hplace

theorem gap_drop (hlt : place < text.length) (hmatch : t.matchAt? text place = none) :
    t.Gap text place (place + t.gap (text.take place).getLast? (text.drop place)) := by
  have hlength : (text.take place).length = place := List.length_take_of_le hlt.le
  have hne : text.drop place ≠ [] := mt List.drop_eq_nil_iff.mp (Nat.not_le_of_lt hlt)
  have hgap := gap_append (text.take place) hne hmatch
  rwa [List.take_append_drop, hlength] at hgap

end Lexing.StateTable
