import Lexing.Proofs.Regex.Hereditary
import Lexing.Proofs.Regex.Literals
import Lexing.Regex.Match

/-!
# Expressions that do not look back

What an expression matches may depend on the character before it, through its assertions only. If
none of these looks back, a search does the same whatever comes before its place: what it passes it
has read itself, and what it marks it knows by its index.
-/

namespace Lexing

/-- The condition depends on the character before its place. -/
def Assertion.looksBack : Assertion → Bool
  | textEnd | lineEnd false | word .stopHalf _ => false
  | textStart | lineStart _ | lineEnd true | word _ _ => true

theorem Assertion.holds_congr {a : Assertion} (h : a.looksBack = false) (index : Nat)
    (before before' : Option Char) (ahead : List Char) :
    a.holds ⟨index, before', ahead⟩ = a.holds ⟨index, before, ahead⟩ := by
  cases a with
  | textEnd => rfl
  | textStart | lineStart => cases h
  | lineEnd crlf =>
      cases crlf with
      | false => rfl
      | true => cases h
  | word edge =>
      cases edge with
      | stopHalf => rfl
      | _ => cases h

/-- The search does the same whatever comes before its place. -/
def Search.IgnoresBefore (next : Search) : Prop :=
  ∀ index before before' ahead, next ⟨index, before', ahead⟩ = next ⟨index, before, ahead⟩

namespace Regex

/-- Some assertion of the expression looks back. -/
def looksBack : Regex → Bool
  | empty | literal _ | set _ => false
  | assertion condition => condition.looksBack
  | repetition body _ _ _ => body.looksBack
  | group _ body => body.looksBack
  | seq first rest => first.looksBack || rest.looksBack
  | alt first rest => first.looksBack || rest.looksBack

theorem hereditary_looksBack : Hereditary fun r => r.looksBack = false where
  empty := rfl
  literal _ := rfl
  set _ := rfl
  seq_iff _ _ := Bool.or_eq_false_iff
  alt_iff _ _ := Bool.or_eq_false_iff

/-- Plain texts look back nowhere. -/
theorem looksBack_of_parse_literalChoice {names : Unicode.Names} {texts : List (List Char)}
    (hne : texts ≠ []) {r : Regex} (h : parse names (literalChoice texts) = .ok r) :
    r.looksBack = false := by
  obtain rfl := Except.ok.inj ((parse_literalChoice _ hne).symm.trans h)
  apply hereditary_looksBack.choice
  intro p hp
  obtain ⟨text, -, rfl⟩ := List.mem_map.mp hp
  apply hereditary_looksBack.concat
  intro q hq
  obtain ⟨c, -, rfl⟩ := List.mem_map.mp hq
  rfl

section Rounds

variable {width size : Nat} {round : Nat → Search → Search} {next : Search}
  (hround : ∀ first next, next.IgnoresBefore → (round first next).IgnoresBefore)
  (hnext : next.IgnoresBefore)

include hround hnext

theorem exactly_ignoresBefore (n first : Nat) :
    (exactly size round n first next).IgnoresBefore := by
  induction n generalizing first with
  | zero => exact hnext
  | succ n ih => exact hround _ _ (ih _)

theorem atMost_ignoresBefore (greedy : Bool) (n first : Nat) :
    (atMost width size round greedy n first next).IgnoresBefore := by
  induction n generalizing first with
  | zero => exact hnext
  | succ n ih =>
      intro index before before' ahead
      funext tried
      rw [atMost, atMost, hround _ _ (ih _) index before before', hnext index before before']
      rfl

theorem anyNumber_ignoresBefore (greedy : Bool) (first : Nat) (room : List Char) :
    (anyNumber width round greedy first next room).IgnoresBefore := by
  induction room with
  | nil =>
      intro index before before' ahead
      funext tried
      rw [anyNumber, anyNumber, hnext index before before']
      rfl
  | cons c room ih =>
      intro index before before' ahead
      funext tried
      rw [anyNumber, anyNumber, hround _ _ ih index before before', hnext index before before']
      rfl

theorem someNumber_ignoresBefore (greedy : Bool) (first : Nat) :
    (someNumber width round greedy first next).IgnoresBefore := by
  intro index before before' ahead
  have hrounds : (anyNumber width round greedy first next ahead).IgnoresBefore :=
    anyNumber_ignoresBefore hround hnext greedy first ahead
  exact hround _ _ hrounds index before before' ahead

end Rounds

/-- A repetition does not look back if a round of it does not. -/
theorem repetition_ignoresBefore {width : Nat} {body : Regex} {next : Search}
    (hbody : ∀ first next, Search.IgnoresBefore next → (body.search width first next).IgnoresBefore)
    (hnext : next.IgnoresBefore) (min : Nat) (max : Option Nat) (greedy : Bool) (first : Nat) :
    ((repetition body min max greedy).search width first next).IgnoresBefore := by
  have hsome (first : Nat) :
      (someNumber width (body.search width) greedy first next).IgnoresBefore :=
    someNumber_ignoresBefore hbody hnext greedy first
  match max, min with
  | some max, min =>
      apply exactly_ignoresBefore hbody
      exact atMost_ignoresBefore hbody hnext greedy _ _
  | none, n + 1 => exact exactly_ignoresBefore hbody (hsome _) n first
  | none, 0 =>
      intro index before before' ahead
      funext tried
      simp only [search]
      split
      next =>
        rw [anyNumber_ignoresBefore hbody hnext greedy first ahead index before before']
      next =>
        rw [hsome _ index before before', hnext index before before']
        rfl

/-- An expression that does not look back is searched in the same way whatever comes before. -/
theorem search_ignoresBefore {r : Regex} (h : r.looksBack = false) (width first : Nat)
    {next : Search} (hnext : next.IgnoresBefore) : (r.search width first next).IgnoresBefore := by
  induction r generalizing first next with
  | empty => exact hnext
  | literal text =>
      cases text with
      | nil => exact hnext
      | cons => exact fun _ _ _ _ => rfl
  | set => exact fun _ _ _ _ => rfl
  | assertion condition =>
      intro index before before' ahead
      funext tried
      rw [search, search, Assertion.holds_congr h index before before', hnext index before before']
  | group _ body ih => exact ih h first hnext
  | seq left right ihleft ihright =>
      obtain ⟨hleft, hright⟩ := Bool.or_eq_false_iff.mp h
      exact ihleft hleft first (ihright hright _ hnext)
  | alt left right ihleft ihright =>
      obtain ⟨hleft, hright⟩ := Bool.or_eq_false_iff.mp h
      intro index before before' ahead
      funext tried
      rw [search, search, ihleft hleft _ hnext index before before',
        ihright hright _ hnext index before before']
      rfl
  | repetition body min max greedy ih =>
      exact repetition_ignoresBefore (fun first _ => ih h first) hnext min max greedy first

/-- What such an expression matches does not depend on what comes before. -/
theorem matchLength?_congr {r : Regex} (h : r.looksBack = false) (before before' : Option Char)
    (ahead : List Char) : r.matchLength? before' ahead = r.matchLength? before ahead := by
  have hend : Search.IgnoresBefore fun pt _ => .found pt.index := fun _ _ _ _ => rfl
  have hsearch := search_ignoresBefore h r.branchings 0 hend
  rw [matchLength?, matchLength?, hsearch 0 before before' ahead]

end Regex

end Lexing
