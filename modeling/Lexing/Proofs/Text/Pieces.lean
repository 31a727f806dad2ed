import Lexing.Proofs.Text.Positions

/-!
# Reading in pieces

A text may be read whole or in pieces, with the same place at the end. If all pieces are read in the
same way, this is so wherever the text is cut. A piece without line breaks may also be read without
counting them. The numbers of line breaks that are counted for the pieces add up to that for the
whole text, and no count that has reached its limit on the way makes a difference.
-/

namespace Lexing.Text.Position

variable {p : Position} {text more : List Char} {track : Bool}

/-- The place after some texts that are read one after another, each with its line breaks counted or
not, and the number of line breaks that were counted on the way. -/
def advanceEach (p : Position) : List (List Char × Bool) → Position × Counter
  | [] => (p, 0)
  | (text, track) :: rest =>
    let (q, breaks) := p.advance text track
    let (r, more) := q.advanceEach rest
    (r, breaks + more)

theorem advance_nil (p : Position) (track : Bool) : p.advance [] track = (p, 0) := by
  have hcolumn : p.column + Counter.ofNat ([] : List Char).length = p.column := p.column.add_zero
  rw [advance_of_notMem List.not_mem_nil, hcolumn, utf8Length_nil, Nat.add_zero]

/-- A reader who counts no line breaks may read a text in two parts. -/
theorem advance_uncounted_append (p : Position) (text more : List Char) :
    p.advance (text ++ more) false =
      (((p.advance text false).1.advance more false).1,
        (p.advance text false).2 + ((p.advance text false).1.advance more false).2) := by
  have hcolumn : p.column + Counter.ofNat (text ++ more).length =
      p.column + Counter.ofNat text.length + Counter.ofNat more.length := by
    rw [List.length_append, Counter.add_assoc, Counter.ofNat_add_ofNat]
  simp only [advance_untracked, hcolumn, utf8Length_append, Nat.add_assoc, Counter.zero_add]

theorem advance_append (p : Position) (text more : List Char) (track : Bool) :
    p.advance (text ++ more) track =
      (((p.advance text track).1.advance more track).1,
        (p.advance text track).2 + ((p.advance text track).1.advance more track).2) := by
  cases track with
  | false => exact p.advance_uncounted_append text more
  | true => exact p.advance_counted_append text more

/-- Counting makes no difference where there is nothing to count. -/
theorem advance_eq_counted (hcounts : track = false → '\n' ∉ text) :
    p.advance text track = p.advance text true := by
  cases track with
  | false => rw [advance_of_notMem (hcounts rfl), advance_of_notMem (hcounts rfl)]
  | true => rfl

/-- Pieces that are read in the same way make up the whole text. -/
theorem advanceEach_map (p : Position) (pieces : List (List Char)) (track : Bool) :
    p.advanceEach (pieces.map (·, track)) = p.advance pieces.flatten track := by
  induction pieces generalizing p with
  | nil => exact (p.advance_nil track).symm
  | cons text rest ih =>
      rw [List.map_cons, List.flatten_cons, advance_append, advanceEach]
      simp only [ih]

/-- Pieces in which no line break is passed over are as good as ones that are counted. -/
theorem advanceEach_eq_map {pieces : List (List Char × Bool)}
    (hcounts : ∀ piece ∈ pieces, piece.2 = false → '\n' ∉ piece.1) :
    p.advanceEach pieces = p.advanceEach ((pieces.map (·.1)).map (·, true)) := by
  induction pieces generalizing p with
  | nil => rfl
  | cons piece rest ih =>
      obtain ⟨text, track⟩ := piece
      obtain ⟨htext, hrest⟩ := List.forall_mem_cons.mp hcounts
      rw [List.map_cons, List.map_cons, advanceEach, advanceEach, advance_eq_counted htext]
      simp only [ih hrest]

/-- A text may be read in two parts, counting line breaks or not, and the two ways are the same for
a text without line breaks. So it may be cut anywhere: in pieces that are read in the same way, and
in pieces that are counted where they have line breaks. -/
theorem advance_in_pieces (p : Position) :
    (∀ text more track,
      p.advance (text ++ more) track =
        (((p.advance text track).1.advance more track).1,
          (p.advance text track).2 + ((p.advance text track).1.advance more track).2)) ∧
    (∀ text, '\n' ∉ text → p.advance text true = p.advance text false) ∧
    (∀ (pieces : List (List Char)) (track : Bool),
      p.advanceEach (pieces.map (·, track)) = p.advance pieces.flatten track) ∧
    ∀ pieces : List (List Char × Bool), (∀ piece ∈ pieces, piece.2 = false → '\n' ∉ piece.1) →
      p.advanceEach pieces = p.advance (pieces.map (·.1)).flatten true := by
  refine ⟨p.advance_append, ?_, p.advanceEach_map, ?_⟩
  · intro text htext
    exact (advance_eq_counted fun _ => htext).symm
  · intro pieces hcounts
    rw [advanceEach_eq_map hcounts, advanceEach_map]

/-- The line is next to the limit, the column is at the limit, and the line passes its limit in the
last of three pieces. -/
theorem advance_in_pieces_limitSample :
    let p : Position := ⟨.ofNat 4294967294, .ofNat 4294967295, 7⟩
    let pieces : List (List Char × Bool) := [(['a', '\n'], true), (['b', 'c'], false),
      (['\n', '\n', 'd'], true)]
    (∀ piece ∈ pieces, piece.2 = false → '\n' ∉ piece.1) ∧
      p.advanceEach pieces = p.advance ['a', '\n', 'b', 'c', '\n', '\n', 'd'] true ∧
      p.advance ['a', '\n', 'b', 'c', '\n', '\n', 'd'] true =
        (⟨.ofNat 4294967295, 2, 14⟩, 3) ∧
      p.advance ['b', 'c'] true = p.advance ['b', 'c'] false := by
  intro p pieces
  have hcounts : ∀ piece ∈ pieces, piece.2 = false → '\n' ∉ piece.1 := by decide
  obtain ⟨-, hsame, -, hpieces⟩ := advance_in_pieces p
  exact ⟨hcounts, hpieces pieces hcounts, by decide, hsame ['b', 'c'] (by decide)⟩

end Lexing.Text.Position
