import Lexing.Proofs.Regex.Building
import Lexing.Proofs.Regex.Reading
import Lexing.Regex.Match

/-!
# Expressions for plain texts

The expression for some texts lists them as alternatives, the longer ones first, and escapes every
character that would mean something else. It can always be read, and what is read stands for the
texts and nothing else. Texts of one character become a set, which makes it plain where they match.
-/

namespace Lexing.Regex

variable {names : Unicode.Names}

/-- Nothing is nested but characters in alternatives. -/
structure Nesting.Flat (n : Nesting) : Prop where
  branches : n.branches.deepest ≤ 1
  parts : n.parts.deepest = 0
  last : n.last.getD 0 = 0

namespace Nesting.Flat

variable {n : Nesting}

theorem settle (h : n.Flat) : n.settle.Flat := by
  refine ⟨h.branches, ?_, rfl⟩
  have hlast := h.last
  rw [Nesting.settle]
  cases hn : n.last with
  | none => exact h.parts
  | some depth =>
      rw [hn] at hlast
      simp_all [Row.add, h.parts]

theorem push (h : n.Flat) : (n.push 0).Flat := ⟨h.branches, h.settle.parts, rfl⟩

theorem nextBranch (h : n.Flat) : n.nextBranch.Flat := by
  refine ⟨Nat.max_le.mpr ⟨h.branches, ?_⟩, rfl, rfl⟩
  rw [Row.depth, h.settle.parts]
  split <;> decide

theorem depth_le (h : n.Flat) : n.depth ≤ 2 := by
  have hbranches := h.nextBranch.branches
  rw [Nesting.depth, Row.depth]
  split <;> omega

end Nesting.Flat

theorem ofSet_singleton (c : Char) : ofSet (.singleton c) = literal [c] := by
  simp [ofSet, CharSet.single?, CharSet.singleton, CharSet.range]

theorem char_unflagged (c : Char) : ({ names } : Flags).char c = literal [c] := ofSet_singleton c

/-- What reading a plain text gives. -/
def spelled (text : List Char) : Regex := concat (text.map fun c => literal [c])

namespace Reader

variable {r : Reader}

theorem step_plain (hr : r.flags = { names }) {c : Char} (hc : isMeta c = false) (cs : List Char) :
    r.step c cs = .ok (r.push (literal [c]), cs) := by
  unfold step
  split
  case h_13 =>
    rw [hr, char_unflagged]
  all_goals exact absurd hc (by decide)

theorem step_escape (hr : r.flags = { names }) {c : Char} (hc : isMeta c = true) (cs : List Char) :
    r.step '\\' (c :: cs) = .ok (r.push (literal [c]), cs) := by
  have hread : Escape.read { names } (c :: cs) = .ok (.char c, cs) := by
    have hmem : c ∈ ['\\', '.', '+', '*', '?', '(', ')', '|', '[', ']', '{', '}', '^', '$', '#',
        '&', '-', '~'] := List.contains_iff_mem.mp hc
    simp only [List.mem_cons, List.not_mem_nil, or_false] at hmem
    obtain rfl | rfl | rfl | rfl | rfl | rfl | rfl | rfl | rfl | rfl | rfl | rfl | rfl | rfl | rfl |
      rfl | rfl | rfl := hmem <;> rfl
  simp only [step, hr, hread, ok_bind, pushEscape, char_unflagged]
  rfl

/-- The reader after a plain text. -/
def pushText (r : Reader) (text : List Char) : Reader :=
  text.foldl (fun r c => r.push (literal [c])) r

theorem pushText_keeps (text : List Char) (r : Reader) :
    (r.pushText text).flags = r.flags ∧ (r.pushText text).groups = r.groups ∧
      (r.pushText text).level.branches = r.level.branches := by
  induction text generalizing r with
  | nil => exact ⟨rfl, rfl, rfl⟩
  | cons c text ih => exact ih (r.push (literal [c]))

theorem flat_pushText (text : List Char) {r : Reader} (h : r.level.nesting.Flat) :
    (r.pushText text).level.nesting.Flat := by
  induction text generalizing r with
  | nil => exact h
  | cons c text ih => exact ih (r := r.push (literal [c])) h.push

theorem parts_pushText (text : List Char) (r : Reader) :
    (r.pushText text).level.settle.parts =
      (text.map fun c => literal [c]).reverse ++ r.level.settle.parts := by
  induction text generalizing r with
  | nil => rfl
  | cons c text ih =>
      rw [List.map_cons, List.reverse_cons, List.append_assoc]
      exact ih (r.push (literal [c]))

theorem branch_pushText (text : List Char) (h : r.level.settle.parts = []) :
    (r.pushText text).level.branch = spelled text := by
  rw [Level.branch, parts_pushText, h, List.append_nil, List.reverse_reverse]
  rfl

theorem run_escape (hr : r.flags = { names }) (text tail : List Char) {n : Nat}
    (hn : (escape text ++ tail).length ≤ n) :
    ∃ m, tail.length ≤ m ∧ run n r (escape text ++ tail) = run m (r.pushText text) tail := by
  induction text generalizing r n with
  | nil => exact ⟨n, hn, rfl⟩
  | cons c text ih =>
      have hskip (cs : List Char) : r.flags.skip cs = cs := by rw [hr]; rfl
      have hpush : (r.push (literal [c])).flags = { names } := hr
      rw [escape] at hn ⊢
      split at hn
      next hmeta =>
        rw [if_pos hmeta]
        simp only [List.cons_append, List.length_cons] at hn
        obtain ⟨k, rfl⟩ : ∃ k, n = k + 1 := ⟨n - 1, by omega⟩
        obtain ⟨m, hm, hrun⟩ := ih hpush (n := k) (by omega)
        refine ⟨m, hm, ?_⟩
        simp only [List.cons_append, run, hskip, step_escape hr hmeta, ok_bind]
        exact hrun
      next hmeta =>
        rw [if_neg hmeta]
        simp only [List.cons_append, List.length_cons] at hn
        obtain ⟨k, rfl⟩ : ∃ k, n = k + 1 := ⟨n - 1, by omega⟩
        obtain ⟨m, hm, hrun⟩ := ih hpush (n := k) (by omega)
        refine ⟨m, hm, ?_⟩
        have hplain : isMeta c = false := Bool.not_eq_true _ ▸ hmeta
        simp only [List.cons_append, run, hskip, step_plain hr hplain, ok_bind]
        exact hrun

/-- Reading texts that are joined by bars adds one alternative for each of them. -/
theorem run_alternatives (hr : r.flags = { names }) (hparts : r.level.settle.parts = [])
    (hflat : r.level.nesting.Flat) {texts : List (List Char)} (hne : texts ≠ []) {n : Nat}
    (hn : (List.intercalate ['|'] (texts.map escape)).length ≤ n) :
    ∃ r', run n r (List.intercalate ['|'] (texts.map escape)) = .ok r' ∧ r'.groups = r.groups ∧
      r'.level.nesting.Flat ∧
      r'.level.regex = choice (r.level.branches.reverse ++ texts.map spelled) := by
  induction texts generalizing r n with
  | nil => exact absurd rfl hne
  | cons text texts ih =>
      obtain ⟨hflags, hgroups, hbranches⟩ := pushText_keeps text r
      cases texts with
      | nil =>
          have htext : List.intercalate ['|'] ([text].map escape) = escape text ++ [] := rfl
          rw [htext] at hn ⊢
          obtain ⟨m, -, hrun⟩ := run_escape hr text [] hn
          refine ⟨r.pushText text, hrun.trans (run_nil m), hgroups, flat_pushText text hflat, ?_⟩
          rw [Level.regex, branch_pushText text hparts, hbranches, List.reverse_cons]
          rfl
      | cons other texts =>
          have htext : List.intercalate ['|'] ((text :: other :: texts).map escape) =
              escape text ++ '|' :: List.intercalate ['|'] ((other :: texts).map escape) := by
            simp [List.intercalate]
          rw [htext] at hn ⊢
          obtain ⟨m, hm, hrun⟩ := run_escape hr text _ hn
          obtain ⟨k, rfl⟩ : ∃ k, m = k + 1 := ⟨m - 1, by rw [List.length_cons] at hm; omega⟩
          let s : Reader := { r.pushText text with level := (r.pushText text).level.nextBranch }
          have hs : s.flags = { names } := hflags.trans hr
          have hsflat : s.level.nesting.Flat := (flat_pushText text hflat).nextBranch
          obtain ⟨r', hr', hgroups', hflat', hregex⟩ := ih (r := s) hs rfl hsflat
            (List.cons_ne_nil _ _) (n := k) (by rw [List.length_cons] at hm; omega)
          refine ⟨r', ?_, hgroups'.trans hgroups, hflat', ?_⟩
          · rw [hrun, ← hr']
            have hskip (cs : List Char) : (r.pushText text).flags.skip cs = cs := by
              rw [hflags, hr]
              rfl
            simp only [run, hskip, step, ok_bind]
            rfl
          · have hbranch : s.level.branches = spelled text :: r.level.branches := by
              rw [← branch_pushText text hparts, ← hbranches]
              rfl
            rw [hregex, hbranch, List.reverse_cons, List.append_assoc]
            rfl

end Reader

theorem insertByLength_perm (text : List Char) (texts : List (List Char)) :
    (insertByLength text texts).Perm (text :: texts) := by
  induction texts with
  | nil => rfl
  | cons other rest ih =>
      rw [insertByLength]
      split
      next => exact (ih.cons other).trans (.swap text other rest)
      next => rfl

/-- The texts are only put into another order. -/
theorem longestFirst_perm (texts : List (List Char)) : (longestFirst texts).Perm texts := by
  induction texts with
  | nil => rfl
  | cons text rest ih => exact (insertByLength_perm text _).trans (ih.cons text)

/-- The expression for some texts can be read, and what is read lists them, longer ones first. -/
theorem parse_literalChoice (names : Unicode.Names) {texts : List (List Char)}
    (hne : texts ≠ []) :
    parse names (literalChoice texts) = .ok (choice ((longestFirst texts).map spelled)) := by
  have hne' : longestFirst texts ≠ [] := by
    intro hnil
    exact hne (List.perm_nil.mp (hnil ▸ (longestFirst_perm texts).symm))
  obtain ⟨r, hr, hgroups, hflat, hregex⟩ :=
    Reader.run_alternatives (r := { flags := { names } }) rfl rfl ⟨Nat.zero_le 1, rfl, rfl⟩ hne'
      (Nat.le_refl _)
  rw [parse, parseWith, literalChoice, hr, ok_bind]
  exact Reader.finish_eq_ok_iff.mpr ⟨hgroups, hflat.depth_le.trans (by decide), hregex⟩

theorem language_spelled (text : List Char) : (spelled text).language = {text} := by
  rw [spelled, language_concat]
  induction text with
  | nil => rfl
  | cons c text ih =>
      rw [List.map_cons, List.map_cons, List.prod_cons, ih]
      exact (language_literal_append [c] text).symm

/-- The expression for some texts stands for these texts. -/
theorem mem_language_of_parse_literalChoice {texts : List (List Char)} (hne : texts ≠ [])
    {r : Regex} (h : parse names (literalChoice texts) = .ok r) (w : List Char) :
    w ∈ r.language ↔ w ∈ texts := by
  obtain rfl := Except.ok.inj ((parse_literalChoice _ hne).symm.trans h)
  rw [language_choice, mem_sum_language, ← (longestFirst_perm texts).mem_iff]
  simp only [List.mem_map, exists_exists_and_eq_and, language_spelled]
  exact ⟨fun ⟨t, ht, hw⟩ => hw ▸ ht, fun hw => ⟨w, hw, rfl⟩⟩

/-- One character of a set matches where such a character comes next. -/
theorem matchLength?_ofSet (chars : CharSet) (before : Option Char) (ahead : List Char) :
    (ofSet chars).matchLength? before ahead =
      if ahead.head?.any chars.contains then some 1 else none := by
  rw [ofSet]
  split
  next c hsingle =>
    have hc := CharSet.contains_of_single? hsingle
    cases ahead with
    | nil => rfl
    | cons d rest =>
        simp only [matchLength?, search, Point.pass?, List.head?_cons, Option.any_some]
        by_cases hd : d = c
        · simp [hd, (hc c).mpr rfl]
        · simp [hd, mt (hc d).mp hd]
  next =>
    cases ahead with
    | nil => rfl
    | cons d rest =>
        simp only [matchLength?, search, Point.passIf, List.head?_cons, Option.any_some]
        by_cases hd : chars.contains d = true
        · simp [hd]
        · simp [hd]

theorem choice_chars {chars : List Char} (hne : chars ≠ []) :
    ∃ s : CharSet, choice (chars.map fun c => literal [c]) = ofSet s ∧
      ∀ c, s.contains c = true ↔ c ∈ chars := by
  have hoptions : (chars.map fun c => literal [c]).flatMap options =
      chars.map fun c => literal [c] := by
    rw [List.flatMap_map, List.map_eq_flatMap]
    rfl
  have hset : asSet? (chars.map fun c => literal [c]) =
      some (.ofRanges (chars.map fun c => ⟨c, c⟩)) := by
    have hchars : (chars.map fun c => literal [c]).mapM char? = some chars := by
      rw [mapM_eq_some_iff, List.forall₂_map_left_iff, List.forall₂_same]
      exact fun _ _ => rfl
    rw [asSet?, hchars]
  rw [choice, hoptions]
  split
  next hnil => exact absurd (List.map_eq_nil_iff.mp hnil) hne
  next r hsingle =>
    obtain ⟨c, rfl, rfl⟩ := List.map_eq_singleton_iff.mp hsingle
    exact ⟨.singleton c, (ofSet_singleton c).symm, fun d => by simp⟩
  next =>
    rw [hset]
    refine ⟨_, rfl, ?_⟩
    intro d
    simp [CharSet.contains_ofRanges, CharSet.contains_range_self]

/-- Texts of one character each are read as one set. -/
theorem parse_literalChoice_chars (names : Unicode.Names) {chars : List Char} (hne : chars ≠ []) :
    ∃ s : CharSet, parse names (literalChoice (chars.map fun c => [c])) = .ok (ofSet s) ∧
      ∀ c, s.contains c = true ↔ c ∈ chars := by
  have hperm := longestFirst_perm (chars.map fun c => [c])
  obtain ⟨sorted, hsorted⟩ : longestFirst (chars.map fun c => [c]) ∈
      Set.range (List.map fun c : Char => [c]) := by
    rw [Set.range_list_map]
    intro text htext
    obtain ⟨c, -, rfl⟩ := List.mem_map.mp (hperm.mem_iff.mp htext)
    exact ⟨c, rfl⟩
  rw [← hsorted] at hperm
  have hmem (c : Char) : c ∈ sorted ↔ c ∈ chars := by
    simpa using hperm.mem_iff (a := [c])
  have hne' : sorted ≠ [] := by
    obtain ⟨c, hc⟩ := List.exists_mem_of_ne_nil chars hne
    exact List.ne_nil_of_mem ((hmem c).mpr hc)
  obtain ⟨s, hs, hchars⟩ := choice_chars hne'
  refine ⟨s, ?_, fun c => (hchars c).trans (hmem c)⟩
  rw [parse_literalChoice _ (mt List.map_eq_nil_iff.mp hne), ← hsorted, List.map_map, ← hs]
  rfl

end Lexing.Regex
