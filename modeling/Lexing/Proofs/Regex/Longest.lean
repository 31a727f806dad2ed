import Lexing.Proofs.Regex.Literals
import Lexing.Proofs.Regex.Spans

/-!
# The longest of some texts

The expression for some texts prefers earlier alternatives, and the texts are sorted by their length
before it is written. A text that comes before another one at the same place is longer, so what is
matched is the longest of the texts that come next. This depends neither on the order in which the
texts are given nor on how often each of them is.
-/

namespace Lexing

namespace Point

theorem exists_pass?_iff {a : Point} {w : List Char} :
    (∃ b, a.pass? w = some b) ↔ w <+: a.ahead := by
  constructor
  · rintro ⟨b, hb⟩
    exact ⟨b.ahead, (ahead_of_pass? hb).1.symm⟩
  · rintro ⟨rest, hrest⟩
    induction w generalizing a with
    | nil => exact ⟨a, rfl⟩
    | cons c cs ih =>
        rw [pass?, ← hrest]
        dsimp only [List.cons_append]
        rw [if_pos rfl]
        exact ih rfl

end Point

/-- Where the search has found a match to end. -/
def Outcome.stop? : Outcome → Option Nat
  | found stop => some stop
  | failed _ => none

theorem Outcome.stop?_orElse (first : Outcome) (second : Tried → Outcome) :
    (first.orElse second).stop? =
      match first with
      | found stop => some stop
      | failed tried => (second tried).stop? := by
  cases first <;> rfl

namespace Regex

theorem matchLength?_eq_stop? (r : Regex) (before : Option Char) (ahead : List Char) :
    r.matchLength? before ahead =
      (r.search r.branchings 0 (fun pt _ => .found pt.index) ⟨0, before, ahead⟩ {}).stop? := by
  rw [matchLength?]
  split
  next h => rw [h]; rfl
  next h => rw [h]; rfl

/-- A text matches if it comes next. -/
theorem search_literal (width first : Nat) (text : List Char) (pt : Point) (tried : Tried) :
    (literal text).search width first (fun pt _ => .found pt.index) pt tried =
      if text <+: pt.ahead then .found (pt.index + text.length) else .failed tried := by
  rw [search]
  split
  next q hq =>
    obtain ⟨-, hindex⟩ := Point.ahead_of_pass? hq
    rw [if_pos (Point.exists_pass?_iff.mp ⟨q, hq⟩), hindex]
  next hnone =>
    rw [if_neg]
    intro hprefix
    obtain ⟨q, hq⟩ := Point.exists_pass?_iff.mpr hprefix
    cases hnone.symm.trans hq

/-- Alternatives that are texts are tried in turn. No branching point has been tried before, since
each alternative has a number of its own. -/
theorem search_texts (width : Nat) {pt : Point} (texts : List (List Char)) {first : Nat}
    {tried : Tried} (hfresh : ∀ b ≥ first, tried.contains (keyAt width b pt) = false) :
    ((altAll (texts.map literal)).search width first (fun pt _ => .found pt.index) pt tried).stop? =
      (texts.find? (· <+: pt.ahead)).map (pt.index + ·.length) := by
  induction texts generalizing first tried with
  | nil =>
      have hnone : pt.passIf CharSet.empty.contains = none := by
        rw [Point.passIf]
        split <;> simp
      rw [List.map_nil, altAll, fail, search, hnone]
      rfl
  | cons text rest ih =>
      cases rest with
      | nil =>
          rw [List.map_singleton, altAll, search_literal, List.find?_singleton]
          by_cases hnext : text <+: pt.ahead <;> simp [hnext, Outcome.stop?]
      | cons other rest =>
          have hkey := hfresh first (Nat.le_refl first)
          have hlater : ∀ b ≥ first + 1,
              (tried.insert (keyAt width first pt)).contains (keyAt width b pt) = false := by
            intro b hb
            rw [Marks.contains_insert, hfresh b (by omega), Bool.false_or, decide_eq_false_iff_not,
              keyAt, keyAt]
            omega
          rw [List.map_cons, List.map_cons, altAll, search, Outcome.branch, hkey]
          · simp only [Bool.false_eq_true, if_false, Outcome.choose, if_true, branchings,
              search_literal, Outcome.stop?_orElse, List.find?_cons]
            by_cases hnext : text <+: pt.ahead
            · simp [hnext]
            · simp only [hnext, decide_false, if_false]
              exact ih hlater
          · exact List.cons_ne_nil _ _

/-- So the first text that comes next is matched. -/
theorem matchLength?_texts (texts : List (List Char)) (before : Option Char) (ahead : List Char) :
    (altAll (texts.map literal)).matchLength? before ahead =
      (texts.find? (· <+: ahead)).map (·.length) := by
  rw [matchLength?_eq_stop?, search_texts _ _ fun _ _ => Marks.contains_empty _]
  simp only [Nat.zero_add]

theorem spelled_eq {text : List Char} (hne : text ≠ []) : spelled text = literal text := by
  have hjoin : ∀ text : List Char, text ≠ [] →
      (text.map fun c => literal [c]).foldr consFactor [] = [literal text] := by
    intro text
    induction text with
    | nil => exact fun h => absurd rfl h
    | cons c rest ih =>
        intro _
        rw [List.map_cons, List.foldr_cons]
        cases rest with
        | nil => rfl
        | cons d rest => rw [ih (List.cons_ne_nil d rest)]; rfl
  have hfactors : (text.map fun c => literal [c]).flatMap factors =
      text.map fun c => literal [c] := by
    rw [List.flatMap_map, List.map_eq_flatMap]
    rfl
  rw [spelled]
  cases text with
  | nil => exact absurd rfl hne
  | cons c rest =>
      cases rest with
      | nil => rfl
      | cons d rest => rw [concat, hfactors, hjoin _ hne, seqAll]; simp

/-- Texts that are not all single characters stay alternatives, since a text has nothing to lift
out. -/
theorem choice_texts {texts : List (List Char)} (hne : texts ≠ [])
    (hchars : ∀ chars : List Char, texts ≠ chars.map fun c => [c]) :
    choice (texts.map literal) = altAll (texts.map literal) := by
  have hoptions : (texts.map literal).flatMap options = texts.map literal := by
    rw [List.flatMap_map, List.map_eq_flatMap]
    rfl
  have hset : asSet? (texts.map literal) = none := by
    have hsingle : (texts.map literal).mapM char? = none := by
      by_contra hsome
      obtain ⟨chars, hchars'⟩ := Option.ne_none_iff_exists'.mp hsome
      have hall := mapM_eq_some_iff.mp hchars'
      rw [List.forall₂_map_left_iff] at hall
      apply hchars chars
      clear hsome hchars' hne hchars hoptions
      induction hall with
      | nil => rfl
      | cons hc _ ih => rw [List.map_cons, ← ih, Regex.literal.inj (eq_literal_of_char? hc)]
    obtain ⟨text, rest, rfl⟩ := List.exists_cons_of_ne_nil hne
    rw [asSet?, hsingle]
    rfl
  have hshared : sharedFactors (texts.map literal) = [] := by
    obtain ⟨text, rest, rfl⟩ := List.exists_cons_of_ne_nil hne
    rfl
  rw [choice, hoptions]
  split
  next hnil => exact absurd (List.map_eq_nil_iff.mp hnil) hne
  next r hsingle => rw [hsingle, altAll]
  next => rw [hset, hshared]

/-- What is read for texts matches the first of them that comes next. -/
theorem matchLength?_choice_spelled {texts : List (List Char)} (hne : texts ≠ [])
    (hfull : ∀ text ∈ texts, text ≠ []) (before : Option Char) (ahead : List Char) :
    (choice (texts.map spelled)).matchLength? before ahead =
      (texts.find? (· <+: ahead)).map (·.length) := by
  have hspelled : texts.map spelled = texts.map literal :=
    List.map_congr_left fun text htext => spelled_eq (hfull text htext)
  by_cases hchars : ∃ chars : List Char, texts = chars.map fun c => [c]
  · obtain ⟨chars, rfl⟩ := hchars
    obtain ⟨s, hs, hmem⟩ := choice_chars (mt List.map_eq_nil_iff.mpr hne)
    rw [hspelled, List.map_map, Function.comp_def, hs, matchLength?_ofSet, List.find?_map]
    cases hfind : chars.find? ((fun text => decide (text <+: ahead)) ∘ fun c => [c]) with
    | none =>
        rw [List.find?_eq_none] at hfind
        rw [if_neg]
        · rfl
        · cases ahead with
          | nil => simp
          | cons d rest =>
              rw [List.head?_cons, Option.any_some, hmem]
              intro hd
              exact hfind d hd (decide_eq_true ⟨rest, rfl⟩)
    | some c =>
        obtain ⟨rest, hrest⟩ : [c] <+: ahead := by simpa using List.find?_some hfind
        rw [if_pos]
        · rfl
        · rw [← hrest, List.cons_append, List.head?_cons, Option.any_some, hmem]
          exact List.mem_of_find?_eq_some hfind
  · rw [hspelled, choice_texts hne fun chars heq => hchars ⟨chars, heq⟩, matchLength?_texts]

theorem pairwise_insertByLength (text : List Char) {texts : List (List Char)}
    (h : texts.Pairwise fun t u => Text.utf8Length u ≤ Text.utf8Length t) :
    (insertByLength text texts).Pairwise fun t u => Text.utf8Length u ≤ Text.utf8Length t := by
  induction texts with
  | nil => exact List.pairwise_singleton _ text
  | cons other rest ih =>
      obtain ⟨hother, hrest⟩ := List.pairwise_cons.mp h
      rw [insertByLength]
      split
      next hlt =>
        refine .cons ?_ (ih hrest)
        intro u hu
        rcases List.mem_cons.mp ((insertByLength_perm text rest).mem_iff.mp hu) with rfl | hu
        · exact Nat.le_of_lt hlt
        · exact hother u hu
      next hge =>
        refine .cons ?_ h
        intro u hu
        rcases List.mem_cons.mp hu with rfl | hu
        · exact Nat.le_of_not_lt hge
        · exact (hother u hu).trans (Nat.le_of_not_lt hge)

/-- No text comes before a longer one. -/
theorem pairwise_longestFirst (texts : List (List Char)) :
    (longestFirst texts).Pairwise fun t u => Text.utf8Length u ≤ Text.utf8Length t := by
  induction texts with
  | nil => exact .nil
  | cons text rest ih => exact pairwise_insertByLength text ih

/-- The text is one of the texts and comes next, and all others that come next begin it. -/
structure LongestNext (texts : List (List Char)) (ahead text : List Char) : Prop where
  mem : text ∈ texts
  next : text <+: ahead
  longest : ∀ other ∈ texts, other <+: ahead → other <+: text

section LongestNext

variable {texts texts' : List (List Char)} {ahead text text' : List Char}

theorem LongestNext.unique (h : LongestNext texts ahead text) (h' : LongestNext texts ahead text') :
    text' = text :=
  (h.longest text' h'.mem h'.next).eq_of_length_le (h'.longest text h.mem h.next).length_le

theorem LongestNext.congr (h : LongestNext texts ahead text)
    (hsame : ∀ text, text ∈ texts' ↔ text ∈ texts) : LongestNext texts' ahead text :=
  ⟨(hsame text).mpr h.mem, h.next, fun other hother => h.longest other ((hsame other).mp hother)⟩

/-- Where no text comes before a longer one, the first that comes next is the longest. -/
theorem longestNext_of_find? {sorted : List (List Char)}
    (hsorted : sorted.Pairwise fun t u => Text.utf8Length u ≤ Text.utf8Length t)
    (h : sorted.find? (· <+: ahead) = some text) : LongestNext sorted ahead text := by
  obtain ⟨hnext, before, after, rfl, hbefore⟩ := List.find?_eq_some_iff_append.mp h
  have hnext := of_decide_eq_true hnext
  refine ⟨List.mem_append_right _ List.mem_cons_self, hnext, ?_⟩
  intro other hother hothernext
  rcases List.mem_append.mp hother with hmem | hmem
  · have hnot := hbefore other hmem
    simp [hothernext] at hnot
  · rcases List.mem_cons.mp hmem with rfl | hmem
    · exact List.prefix_refl _
    · obtain ⟨-, hafter, -⟩ := List.pairwise_append.mp hsorted
      have hle := (List.pairwise_cons.mp hafter).1 other hmem
      rcases List.prefix_or_prefix_of_prefix hothernext hnext with hprefix | ⟨more, rfl⟩
      · exact hprefix
      · -- The other text cannot have more characters, since it has no more bytes.
        rw [Text.utf8Length_append] at hle
        by_cases hmore : more = []
        · rw [hmore, List.append_nil]
        · have := Text.utf8Length_pos hmore
          omega

end LongestNext

/-- The expression for some texts can be read, and what is read matches exactly where one of the
texts comes next. The match is the longest of them. -/
theorem exists_parse_longest (names : Unicode.Names) {texts : List (List Char)} (hne : texts ≠ [])
    (hfull : ∀ text ∈ texts, text ≠ []) :
    ∃ r, parse names (literalChoice texts) = .ok r ∧ ∀ before ahead,
      (∀ len, r.matchLength? before ahead = some len ↔
        ∃ text, LongestNext texts ahead text ∧ text.length = len) ∧
      (r.matchLength? before ahead = none ↔ ∀ text ∈ texts, ¬ text <+: ahead) := by
  have hperm := longestFirst_perm texts
  have hne' : longestFirst texts ≠ [] := fun hnil => hne (List.perm_nil.mp (hnil ▸ hperm.symm))
  have hfull' : ∀ text ∈ longestFirst texts, text ≠ [] :=
    fun text htext => hfull text (hperm.mem_iff.mp htext)
  refine ⟨_, parse_literalChoice _ hne, ?_⟩
  intro before ahead
  rw [matchLength?_choice_spelled hne' hfull']
  have hfound {text : List Char} (h : (longestFirst texts).find? (· <+: ahead) = some text) :
      LongestNext texts ahead text :=
    (longestNext_of_find? (pairwise_longestFirst texts) h).congr fun _ => hperm.symm.mem_iff
  constructor
  · intro len
    rw [Option.map_eq_some_iff]
    constructor
    · rintro ⟨text, htext, hlen⟩
      exact ⟨text, hfound htext, hlen⟩
    · rintro ⟨text, htext, hlen⟩
      refine ⟨text, ?_, hlen⟩
      cases hfind : (longestFirst texts).find? (· <+: ahead) with
      | none =>
          have hnot := List.find?_eq_none.mp hfind text (hperm.mem_iff.mpr htext.mem)
          simp [htext.next] at hnot
      | some other => rw [htext.unique (hfound hfind)]
  · rw [Option.map_eq_none_iff, List.find?_eq_none]
    simp only [decide_eq_true_eq, hperm.mem_iff]

end Regex

end Lexing
