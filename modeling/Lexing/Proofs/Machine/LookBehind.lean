import Lexing.Proofs.Declaration.Including
import Lexing.Proofs.Machine.Matching
import Lexing.Proofs.Machine.Selecting
import Lexing.Proofs.Regex.LookBehind

/-!
# Declarations that do not look back

If no regular expression of a declaration looks back, then no table of its machines does. What a
state selects then follows from the text ahead alone.
-/

namespace Lexing

/-- The regular expression of the pattern, if it has one, looks back. -/
def Pattern.looksBack (names : Unicode.Names) : Pattern → Bool
  | regex source =>
    match Regex.parse names (Regex.inLines source.toList) with
    | .ok r => r.looksBack
    | .error _ => false
  | literals _ | fallback | collector => false

def Entry.looksBack (names : Unicode.Names) : Entry → Bool
  | .rule _ r => r.pattern.looksBack names
  | .include _ => false

/-- Some regular expression of the declaration looks back. -/
def Declaration.looksBack (d : Declaration) (names : Unicode.Names) : Bool :=
  d.any fun s => s.entries.any (·.looksBack names)

/-- The table answers alike whatever comes before. -/
def StateTable.IgnoresBefore (t : StateTable) : Prop :=
  ∀ before before' ahead, t.match? before' ahead = t.match? before ahead

theorem StateTable.IgnoresBefore.select {t : StateTable} (h : t.IgnoresBefore)
    (before before' : Option Char) (ahead : List Char) :
    t.select before' ahead = t.select before ahead :=
  select_congr (fun _ _ => rfl) rfl (h before before' ahead)

theorem Pattern.matchLength?_congr {names : Unicode.Names} {p : Pattern}
    (hadmissible : p.Admissible names)
    (h : p.looksBack names = false) (before before' : Option Char) (ahead : List Char) :
    p.matchLength? names before' ahead = p.matchLength? names before ahead := by
  rw [matchLength?, matchLength?]
  cases p with
  | fallback | collector => rfl
  | literals texts =>
      have hne : texts.map (·.toList) ≠ [] := mt List.map_eq_nil_iff.mp hadmissible.1
      have hparse := Regex.parse_literalChoice names hne
      simp only [source?, Option.bind_some, Regex.sourceMatch?, hparse]
      exact Regex.matchLength?_congr (Regex.looksBack_of_parse_literalChoice hne hparse) _ _ _
  | regex source =>
      rw [looksBack] at h
      simp only [source?, Option.bind_some, Regex.sourceMatch?]
      cases hparse : Regex.parse names (Regex.inLines source.toList) with
      | error e => rfl
      | ok r =>
          rw [hparse] at h
          exact Regex.matchLength?_congr h _ _ _

namespace Declaration

variable {d : Declaration}

theorem looksBack_of_declares {names : Unicode.Names} (hd : d.looksBack names = false)
    {named : NamedRule} (h : d.Declares named) : named.2.pattern.looksBack names = false := by
  obtain ⟨s, hs, hentry⟩ := h
  have hs : s.entries.any (·.looksBack names) = false :=
    Bool.eq_false_iff.mpr (List.any_eq_false.mp hd s hs)
  exact Bool.eq_false_iff.mpr (List.any_eq_false.mp hs _ hentry)

/-- No table of the machine takes notice of what comes before. -/
theorem ignoresBefore_of_compile {host : Host} {start : Option String} {stateful : Bool}
    {config : Config} {m : Machine} (h : d.compile host start stateful config = .ok m)
    (hd : d.looksBack host.names = false) :
    ∀ t ∈ m.states, t.IgnoresBefore := by
  intro t ht before before' ahead
  obtain ⟨k, hk⟩ := List.getElem?_of_mem ht
  obtain ⟨s, rules, warnings, hs, hrules, htable, -⟩ := exists_tableOf h hk
  have hdeclared := declares_of_expand (List.mem_of_getElem? hs) hrules
  have hsame : ∀ named ∈ rules, named.2.pattern.matchLength? host.names before' ahead =
      named.2.pattern.matchLength? host.names before ahead := by
    intro named hnamed
    obtain ⟨action, -, hchecked⟩ := exists_mem_of_forall₂ (checked_of_tableOf htable) hnamed
    exact Pattern.matchLength?_congr hchecked.admissible
      (looksBack_of_declares hd (hdeclared named hnamed)) before before' ahead
  rw [StateTable.match?_eq_firstMatch? htable, StateTable.match?_eq_firstMatch? htable]
  exact firstMatch?_congr (List.forall₂_same.mpr hsame)

end Declaration

end Lexing
