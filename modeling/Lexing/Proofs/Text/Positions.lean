import Lexing.Text.Position
import Mathlib.Data.List.TakeWhile

/-!
# Places reached step by step

A reader who counts all line breaks comes to a place that depends only on where the text began and
what it is, not on the pieces in which it was read. Counts that have reached their limit stay there,
so this holds of any amount of text.
-/

namespace Lexing.Text

theorem lastLine_append_of_mem {more : List Char} (h : '\n' ∈ more) (text : List Char) :
    lastLine (text ++ more) = lastLine more := by
  have hstop : (more.reverse.takeWhile (· ≠ '\n')).length ≠ more.reverse.length := by
    intro hlength
    have hall := List.takeWhile_eq_self_iff.mp
      ((List.takeWhile_prefix _).eq_of_length hlength) '\n' (List.mem_reverse.mpr h)
    simp at hall
  rw [lastLine, lastLine, List.reverse_append, List.takeWhile_append, if_neg hstop]

theorem lastLine_append_of_notMem {more : List Char} (h : '\n' ∉ more) (text : List Char) :
    lastLine (text ++ more) = lastLine text ++ more := by
  have hall : more.reverse.takeWhile (· ≠ '\n') = more.reverse := by
    refine List.takeWhile_eq_self_iff.mpr ?_
    intro c hc
    have hne : c ≠ '\n' := fun heq => h (heq ▸ List.mem_reverse.mp hc)
    simpa using hne
  rw [lastLine, lastLine, List.reverse_append, List.takeWhile_append, if_pos (by rw [hall]),
    List.reverse_append, List.reverse_reverse]

theorem lineBreaks_eq_zero {text : List Char} (h : '\n' ∉ text) : lineBreaks text = 0 :=
  List.count_eq_zero.mpr h

namespace Position

/-- The place is where a text ends that begins at `origin`, if all its line breaks are counted. -/
structure Ends (origin : Position) (text : List Char) (p : Position) : Prop where
  line : p.line.toNat = min (origin.line.toNat + lineBreaks text) Counter.limit
  column : p.column.toNat =
    if '\n' ∈ text then min (1 + (lastLine text).length) Counter.limit
    else min (origin.column.toNat + text.length) Counter.limit
  offset : p.offset = origin.offset + utf8Length text

variable {origin p : Position} {text more : List Char} {track : Bool}

theorem advance_of_mem (hmem : '\n' ∈ text) :
    p.advance text true = (⟨p.line + Counter.ofNat (lineBreaks text),
      Counter.ofNat (lastLine text).length + 1, p.offset + utf8Length text⟩,
        Counter.ofNat (lineBreaks text)) := by
  simp only [advance, Bool.true_and, List.contains_iff_mem.mpr hmem, if_true]

theorem advance_of_notMem (hmem : '\n' ∉ text) (track : Bool) :
    p.advance text track =
      (⟨p.line, p.column + Counter.ofNat text.length, p.offset + utf8Length text⟩, 0) := by
  simp [advance, hmem]

theorem Ends.nil (origin : Position) : origin.Ends [] origin where
  line := (Nat.min_eq_left origin.line.toNat_le).symm
  column := (Nat.min_eq_left origin.column.toNat_le).symm
  offset := rfl

/-- Reading on from the end of a text leads to the end of the longer text, if no line break is
passed over. -/
theorem Ends.advance (h : origin.Ends text p) (hcounts : track = false → '\n' ∉ more) :
    origin.Ends (text ++ more) (p.advance more track).1 := by
  have hline := h.line
  have hcolumn := h.column
  by_cases hmore : '\n' ∈ more
  · obtain rfl : track = true := eq_true_of_ne_false fun hfalse => hcounts hfalse hmore
    rw [advance_of_mem hmore]
    have hone : (1 : Counter).toNat = 1 := rfl
    refine ⟨?_, ?_, ?_⟩
    · rw [lineBreaks_append, Counter.toNat_add, Counter.toNat_ofNat, hline]
      omega
    · rw [if_pos (List.mem_append_right text hmore), lastLine_append_of_mem hmore,
        Counter.toNat_add, Counter.toNat_ofNat, hone]
      omega
    · rw [utf8Length_append, ← Nat.add_assoc, ← h.offset]
  · rw [advance_of_notMem hmore]
    refine ⟨?_, ?_, ?_⟩
    · rw [lineBreaks_append, lineBreaks_eq_zero hmore, Nat.add_zero, hline]
    · rw [Counter.toNat_add, Counter.toNat_ofNat, hcolumn, lastLine_append_of_notMem hmore,
        List.length_append, List.length_append]
      by_cases htext : '\n' ∈ text
      · rw [if_pos htext, if_pos (List.mem_append_left more htext)]
        omega
      · rw [if_neg htext, if_neg (by simp [htext, hmore])]
        omega
    · rw [utf8Length_append, ← Nat.add_assoc, ← h.offset]

theorem ends_advance (origin : Position) (text : List Char) :
    origin.Ends text (origin.advance text true).1 :=
  (Ends.nil origin).advance nofun

/-- The line breaks that are counted are all that there are, if none is passed over. -/
theorem toNat_breaks_advance (p : Position) (hcounts : track = false → '\n' ∉ text) :
    (p.advance text track).2.toNat = min (lineBreaks text) Counter.limit := by
  by_cases hmem : '\n' ∈ text
  · obtain rfl : track = true := eq_true_of_ne_false fun hfalse => hcounts hfalse hmem
    rw [advance_of_mem hmem, Counter.toNat_ofNat]
  · rw [advance_of_notMem hmem, lineBreaks_eq_zero hmem]
    rfl

/-- A text ends at one place only. -/
theorem Ends.unique {q : Position} (h : origin.Ends text p) (h' : origin.Ends text q) : q = p := by
  obtain ⟨line, column, offset⟩ := p
  obtain ⟨line', column', offset'⟩ := q
  obtain rfl : line' = line := Counter.ext (h'.line.trans h.line.symm)
  obtain rfl : column' = column := Counter.ext (h'.column.trans h.column.symm)
  obtain rfl : offset' = offset := h'.offset.trans h.offset.symm
  rfl

/-- A reader who counts all line breaks may read a text in two parts. -/
theorem advance_counted_append (p : Position) (text more : List Char) :
    p.advance (text ++ more) true =
      (((p.advance text true).1.advance more true).1,
        (p.advance text true).2 + ((p.advance text true).1.advance more true).2) := by
  have hparts : p.Ends (text ++ more) ((p.advance text true).1.advance more true).1 :=
    (p.ends_advance text).advance nofun
  have hwhole : p.Ends (text ++ more) (p.advance (text ++ more) true).1 :=
    p.ends_advance (text ++ more)
  have hcount (q : Position) (part : List Char) :
      (q.advance part true).2.toNat = min (lineBreaks part) Counter.limit :=
    toNat_breaks_advance q nofun
  refine Prod.ext (hparts.unique hwhole) (Counter.ext ?_)
  simp only [Counter.toNat_add, hcount, lineBreaks_append]
  omega

end Position

end Lexing.Text
