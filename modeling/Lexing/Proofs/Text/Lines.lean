import Lexing.Text.Snippet
import Mathlib.Data.List.TakeWhile

/-!
# The lines of a text

A text can be cut wherever a beginning of it ends, counted in bytes. A line lies between two line
breaks, or between one of them and an end of the text. A line map lists the places where lines
begin, so each line can be cut out of the text with it. The lines that it finds are the pieces
between the line breaks, and the line of a place has as many line breaks before it as the place. So
a message finds all the lines that it shows.
-/

namespace Lexing.Text

/-- A text is cut between its parts at the length of the first. -/
theorem cut?_append (left right : List Char) :
    cut? (left ++ right) (utf8Length left) = some (left, right) := by
  induction left with
  | nil => exact cut?_zero right
  | cons c rest ih =>
      have hpos := c.utf8Size_pos
      obtain ⟨n, hn⟩ : ∃ n, utf8Length (c :: rest) = n + 1 :=
        ⟨utf8Length (c :: rest) - 1, by rw [utf8Length_cons]; omega⟩
      have hrest : n + 1 - c.utf8Size = utf8Length rest := by
        rw [← hn, utf8Length_cons, Nat.add_sub_cancel_left]
      rw [hn, List.cons_append, cut?, if_pos (by rw [← hn, utf8Length_cons]; omega), hrest, ih]
      rfl

/-- The middle of a text lies between the lengths of what comes before and after it. -/
theorem slice?_append (before part after : List Char) :
    slice? (before ++ part ++ after) (utf8Length before) (utf8Length (before ++ part)) =
      some part := by
  have hle : utf8Length before ≤ utf8Length (before ++ part) := by
    rw [utf8Length_append]
    exact Nat.le_add_right _ _
  have hguard : (guard (utf8Length before ≤ utf8Length (before ++ part)) : Option Unit) =
      pure () := if_pos hle
  have hlength : utf8Length (before ++ part) - utf8Length before = utf8Length part := by
    rw [utf8Length_append, Nat.add_sub_cancel_left]
  rw [slice?, hguard, hlength, List.append_assoc]
  simp [cut?_append]

/-- What comes before the first line break: the whole text if there is none. -/
def firstLine (text : List Char) : List Char := text.takeWhile (· ≠ '\n')

/-- A text is cut around one of its lines. -/
structure Around (before line after : List Char) : Prop where
  begins : before = [] ∨ ∃ rest, before = rest ++ ['\n']
  unbroken : '\n' ∉ line
  ends : after = [] ∨ ∃ rest, after = '\n' :: rest

theorem exists_append_firstLine (text : List Char) :
    ∃ after, text = firstLine text ++ after ∧ '\n' ∉ firstLine text ∧
      (after = [] ∨ ∃ rest, after = '\n' :: rest) := by
  refine ⟨text.dropWhile (· ≠ '\n'), List.takeWhile_append_dropWhile.symm, ?_, ?_⟩
  · intro hmem
    simpa using List.mem_takeWhile_imp hmem
  · cases hafter : text.dropWhile (· ≠ '\n') with
    | nil => exact .inl rfl
    | cons c rest =>
        have hstop := List.head?_dropWhile_not (· ≠ '\n') text
        rw [hafter, List.head?_cons] at hstop
        obtain rfl : c = '\n' := by simpa using hstop
        exact .inr ⟨rest, rfl⟩

theorem lastLine_eq_reverse (text : List Char) : lastLine text = (firstLine text.reverse).reverse :=
  rfl

/-- Any place of a text is in one of its lines, with as many line breaks before it as before the
place. -/
theorem exists_around (p q : List Char) :
    ∃ before after, p ++ q = before ++ (lastLine p ++ firstLine q) ++ after ∧
      lineBreaks before = lineBreaks p ∧ Around before (lastLine p ++ firstLine q) after := by
  obtain ⟨after, hq, hfirst, hends⟩ := exists_append_firstLine q
  obtain ⟨passed, hpassed, hlast, hbegins⟩ := exists_append_firstLine p.reverse
  have hlast : '\n' ∉ lastLine p := by rwa [lastLine_eq_reverse, List.mem_reverse]
  have hp : p = passed.reverse ++ lastLine p := by
    rw [lastLine_eq_reverse, ← List.reverse_append, ← hpassed, List.reverse_reverse]
  refine ⟨passed.reverse, after, ?_, ?_, ?_, ?_, hends⟩
  · rw [List.append_assoc, List.append_assoc, ← hq, ← List.append_assoc, ← hp]
  · have hnone : lineBreaks (lastLine p) = 0 := List.count_eq_zero.mpr hlast
    have hsame := congrArg lineBreaks hp
    rw [lineBreaks_append, hnone, Nat.add_zero] at hsame
    exact hsame.symm
  · refine hbegins.imp (fun hnil => by rw [hnil]; rfl) ?_
    rintro ⟨rest, rfl⟩
    exact ⟨rest.reverse, List.reverse_cons⟩
  · rw [List.mem_append]
    exact not_or.mpr ⟨hlast, hfirst⟩

/-- For each number of line breaks that a text has, some beginning of it has so many. -/
theorem exists_lineBreaks_eq {text : List Char} {i : Nat} (h : i ≤ lineBreaks text) :
    ∃ p q, text = p ++ q ∧ lineBreaks p = i := by
  induction text generalizing i with
  | nil => exact ⟨[], [], rfl, (Nat.le_zero.mp h).symm⟩
  | cons c cs ih =>
      cases i with
      | zero => exact ⟨[], c :: cs, rfl, rfl⟩
      | succ i =>
          by_cases hc : c = '\n'
          · subst hc
            rw [lineBreaks, List.count_cons_self] at h
            obtain ⟨p, q, rfl, hp⟩ := ih (Nat.le_of_succ_le_succ h)
            exact ⟨'\n' :: p, q, rfl, by rw [lineBreaks, List.count_cons_self]; exact hp ▸ rfl⟩
          · rw [lineBreaks, List.count_cons_of_ne hc] at h
            obtain ⟨p, q, rfl, hp⟩ := ih h
            exact ⟨c :: p, q, rfl, by rw [lineBreaks, List.count_cons_of_ne hc]; exact hp⟩

theorem length_splitOn (text : List Char) :
    (text.splitOn '\n').length = lineBreaks text + 1 := by
  induction text with
  | nil => rfl
  | cons c cs ih =>
      rw [List.splitOn_cons_eq_if_modifyHead, lineBreaks, List.count_cons]
      by_cases hc : c = '\n' <;> simp [hc, ih, lineBreaks]

/-- A text splits into its lines. -/
theorem Around.getElem?_splitOn {before line after : List Char} (h : Around before line after) :
    ((before ++ line ++ after).splitOn '\n')[lineBreaks before]? = some line := by
  have hhead : ((line ++ after).splitOn '\n')[0]? = some line := by
    rcases h.ends with rfl | ⟨rest, rfl⟩
    · rw [List.append_nil, List.splitOn_eq_singleton h.unbroken]
      rfl
    · rw [List.splitOn_append_cons_self_of_not_mem h.unbroken]
      rfl
  rcases h.begins with rfl | ⟨rest, rfl⟩
  · exact hhead
  · have hlength : lineBreaks (rest ++ ['\n']) = (rest.splitOn '\n').length := by
      rw [length_splitOn, lineBreaks_append]
      rfl
    rw [List.append_assoc, List.append_assoc, List.singleton_append,
      List.splitOn_append_cons_self, hlength, List.getElem?_append_right (Nat.le_refl _),
      Nat.sub_self, hhead]

namespace LineMap

theorem afterBreaks_append (offset : Nat) (xs ys : List Char) :
    afterBreaks offset (xs ++ ys) =
      afterBreaks offset xs ++ afterBreaks (offset + utf8Length xs) ys := by
  induction xs generalizing offset with
  | nil => rfl
  | cons c cs ih =>
      rw [List.cons_append, afterBreaks, afterBreaks, utf8Length_cons, ih, Nat.add_assoc]
      split <;> rfl

theorem afterBreaks_of_notMem {text : List Char} (h : '\n' ∉ text) (offset : Nat) :
    afterBreaks offset text = [] := by
  rw [← List.length_eq_zero_iff, length_afterBreaks]
  exact List.count_eq_zero.mpr h

theorem mem_afterBreaks {text : List Char} {offset k : Nat} (h : k ∈ afterBreaks offset text) :
    offset < k ∧ k ≤ offset + utf8Length text := by
  induction text generalizing offset with
  | nil => cases h
  | cons c cs ih =>
      have hpos := c.utf8Size_pos
      rw [utf8Length_cons]
      rw [afterBreaks] at h
      split at h
      next =>
        rcases List.mem_cons.mp h with rfl | h
        · omega
        · have := ih h
          omega
      next =>
        have := ih h
        omega

theorem starts_append (p q : List Char) :
    (ofText (p ++ q)).starts = (ofText p).starts ++ afterBreaks (utf8Length p) q := by
  rw [ofText, ofText, afterBreaks_append, Nat.zero_add]
  rfl

end LineMap

section Around

variable {before line after : List Char} (h : Around before line after)

include h

/-- The map lists where the line begins. -/
theorem Around.getElem?_starts :
    (LineMap.ofText (before ++ line ++ after)).starts[lineBreaks before]? =
      some (utf8Length before) := by
  have hlt : lineBreaks before < (LineMap.ofText before).starts.length := by
    have hcount := LineMap.count_ofText before
    rw [LineMap.count] at hcount
    omega
  rw [List.append_assoc, LineMap.starts_append, List.getElem?_append_left hlt]
  rcases h.begins with rfl | ⟨rest, rfl⟩
  · rfl
  · have hlength : lineBreaks (rest ++ ['\n']) = (LineMap.ofText rest).starts.length := by
      rw [← LineMap.count, LineMap.count_ofText, lineBreaks_append]
      rfl
    rw [LineMap.starts_append, hlength, List.getElem?_append_right (Nat.le_refl _), Nat.sub_self,
      utf8Length_append]
    rfl

/-- The next place that it lists comes after the line and its break. -/
theorem Around.getElem?_starts_succ :
    (LineMap.ofText (before ++ line ++ after)).starts[lineBreaks before + 1]? =
      if after = [] then none else some (utf8Length (before ++ line) + 1) := by
  have hlength : lineBreaks before + 1 = (LineMap.ofText before).starts.length := by
    rw [← LineMap.count, LineMap.count_ofText]
  rw [List.append_assoc, LineMap.starts_append, hlength,
    List.getElem?_append_right (Nat.le_refl _), Nat.sub_self, LineMap.afterBreaks_append,
    LineMap.afterBreaks_of_notMem h.unbroken, utf8Length_append]
  rcases h.ends with rfl | ⟨rest, rfl⟩ <;> rfl

/-- So the line is cut out of the text. -/
theorem Around.line? :
    (LineMap.ofText (before ++ line ++ after)).line? (before ++ line ++ after)
      (lineBreaks before) = some (dropReturn line) := by
  have hslice := slice?_append before line after
  have hnext := h.getElem?_starts_succ
  rcases h.ends with rfl | ⟨rest, rfl⟩
  · rw [if_pos rfl] at hnext
    have hlength : utf8Length (before ++ line ++ []) = utf8Length (before ++ line) := by
      rw [List.append_nil]
    simp only [LineMap.line?, h.getElem?_starts, hnext, hlength, Option.bind_eq_bind,
      Option.bind_some, hslice]
    rfl
  · rw [if_neg (List.cons_ne_nil _ _)] at hnext
    simp only [LineMap.line?, h.getElem?_starts, hnext, Nat.add_sub_cancel, Option.bind_eq_bind,
      Option.bind_some, hslice]
    rfl

end Around

namespace LineMap

/-- The lines that the map finds are the pieces between the line breaks, without a carriage return
at the end. -/
theorem line?_eq_splitOn (text : List Char) (i : Nat) :
    (ofText text).line? text i = ((text.splitOn '\n')[i]?).map dropReturn := by
  rcases Nat.lt_or_ge (lineBreaks text) i with hgt | hle
  · have hstart : (ofText text).starts[i]? = none := by
      rw [List.getElem?_eq_none_iff, ← count, count_ofText]
      exact hgt
    have hpiece : (text.splitOn '\n')[i]? = none := by
      rw [List.getElem?_eq_none_iff, length_splitOn]
      exact hgt
    simp only [line?, hstart, hpiece]
    rfl
  · obtain ⟨p, q, rfl, rfl⟩ := exists_lineBreaks_eq hle
    obtain ⟨before, after, htext, hbreaks, haround⟩ := exists_around p q
    rw [htext, ← hbreaks, haround.line?, haround.getElem?_splitOn]
    rfl

/-- Every line that is counted can be cut out of the text. -/
theorem exists_line? {text : List Char} {i : Nat} (h : i < (ofText text).count) :
    ∃ line, (ofText text).line? text i = some line := by
  rw [count_ofText, ← length_splitOn] at h
  rw [line?_eq_splitOn, List.getElem?_eq_getElem h]
  exact ⟨_, rfl⟩

end LineMap

namespace Snippet

variable {overflow : Overflow} {lines : LineMap} {target first last : Nat} {options : Options}

/-- Whatever is shown are lines of the text. There is at least one, in a text that is short enough
to be held in memory. -/
theorem window?_lines {text : List Char} {offset : Nat}
    (h : window? overflow (LineMap.ofText text) ((LineMap.ofText text).lineAt offset) options =
      some (first, last)) :
    (∀ i ≤ last, ∃ line, (LineMap.ofText text).line? text i = some line) ∧
      ((LineMap.ofText text).count ≤ UInt64.size / 2 → first ≤ last) := by
  have hpos := LineMap.count_ofText_pos text
  have hline : (LineMap.ofText text).lineAt offset ≤ (LineMap.ofText text).count - 1 :=
    Nat.sub_le_sub_right List.countP_le_length 1
  obtain ⟨sum, hsum, hlast⟩ := Option.bind_eq_some_iff.mp h
  obtain ⟨rfl, rfl⟩ := Prod.mk.inj (Option.some.inj hlast)
  refine ⟨fun i hi => LineMap.exists_line? (by omega), ?_⟩
  intro hcount
  have hsize : UInt64.size = 2 ^ 64 := rfl
  rcases Nat.lt_or_ge ((LineMap.ofText text).lineAt offset + options.contextLines.toNat)
    UInt64.size with hlt | hge
  · obtain rfl := Option.some.inj ((Overflow.sum?_of_lt hlt).symm.trans hsum)
    omega
  · omega

end Snippet

end Lexing.Text
