import Lexing.Proofs.Declaration.Accepting
import Lexing.Proofs.Declaration.Lockstep
import Lexing.Proofs.Regex.Longest

/-!
# Tables for texts that are listed in another way

A rule for some texts matches the longest of them that comes next, however they are listed. A table
for some rules is therefore also one for the rules with their texts listed in another way, and the
machines of declarations that differ in nothing else agree.

A rule for single characters may be found by quick look-up or by its pattern, which makes no
difference either.
-/

namespace Lexing

/-- What is read for some texts matches the same, however they are listed. -/
theorem Regex.sourceMatch?_literalChoice_congr (names : Unicode.Names)
    {texts texts' : List (List Char)} (hne : texts ≠ []) (hfull : ∀ text ∈ texts, text ≠ [])
    (hsame : ∀ text, text ∈ texts' ↔ text ∈ texts) (before : Option Char) (ahead : List Char) :
    sourceMatch? names (literalChoice texts') before ahead =
      sourceMatch? names (literalChoice texts) before ahead := by
  have hne' : texts' ≠ [] := mt (eq_nil_congr_mem hsame).mp hne
  have hfull' : ∀ text ∈ texts', text ≠ [] := fun text htext => hfull text ((hsame text).mp htext)
  obtain ⟨r, hr, hlongest⟩ := exists_parse_longest names hne hfull
  obtain ⟨r', hr', hlongest'⟩ := exists_parse_longest names hne' hfull'
  rw [sourceMatch?, sourceMatch?, hr, hr']
  refine Option.ext fun len => ?_
  rw [(hlongest before ahead).1, (hlongest' before ahead).1]
  constructor
  · rintro ⟨text, htext, hlen⟩
    exact ⟨text, htext.congr fun other => (hsame other).symm, hlen⟩
  · rintro ⟨text, htext, hlen⟩
    exact ⟨text, htext.congr hsame, hlen⟩

theorem Pattern.SameTexts.matchLength?_eq {names : Unicode.Names} {p p' : Pattern}
    (h : p.SameTexts p') (hadmissible : p.Admissible names) (before : Option Char)
    (ahead : List Char) :
    p'.matchLength? names before ahead = p.matchLength? names before ahead := by
  cases h with
  | refl => rfl
  | @literals texts texts' same =>
      obtain ⟨hne, hfull⟩ := hadmissible
      refine Regex.sourceMatch?_literalChoice_congr _ (mt List.map_eq_nil_iff.mp hne) ?_ ?_ _ _
      · intro _ hmem
        obtain ⟨text, htext, rfl⟩ := List.mem_map.mp hmem
        simpa using hfull text htext
      · intro text
        simp only [List.mem_map, same]

/-- A state with the rules recovers in the same way. -/
theorem recoveryOf_of_sameTexts {rules rules' : List NamedRule}
    (h : List.Forall₂ SameTexts rules rules') : recoveryOf rules' = recoveryOf rules := by
  rw [recoveryOf, recoveryOf]
  generalize 0 = k
  induction h generalizing k with
  | nil => rfl
  | cons hx _ ih =>
      cases hx with
      | intro related =>
          rw [List.zipIdx_cons, List.zipIdx_cons, List.findSome?_cons, List.findSome?_cons]
          dsimp only
          rw [related.recovery?_eq, ih]

namespace Declaration

theorem Moves.of_sameTexts {ctx : Context} {named named' : NamedRule} {tr : Option Transition}
    (hmoves : Moves ctx named.2 tr) (h : SameTexts named named') : Moves ctx named'.2 tr := by
  cases h with
  | intro =>
      cases hmoves with
      | stay hpush hpop hnext => exact .stay hpush hpop hnext
      | push hstateful hpush hpop hnext hid => exact .push hstateful hpush hpop hnext hid
      | pop hstateful hpush hpop hnext hcount => exact .pop hstateful hpush hpop hnext hcount
      | next hstateful hpush hpop hnext hid => exact .next hstateful hpush hpop hnext hid

/-- A table for some rules is one for the rules with their texts listed in another way. -/
theorem Carries.relist {t : StateTable} {ctx : Context} {state : String}
    {rules rules' : List NamedRule} (h : Carries t ctx state rules)
    (hsame : List.Forall₂ SameTexts rules rules')
    (hadmissible : ∀ named ∈ rules, named.2.pattern.Admissible ctx.host.names) :
    Carries t ctx state rules' where
  name := h.name
  actions := by
    refine (forall₂_of_common hsame h.actions).imp ?_
    rintro named' action ⟨named, -, hnamed, tr, hmoves, rfl⟩
    exact ⟨tr, hmoves.of_sameTexts hnamed, (actionOf_of_sameTexts hnamed tr).symm⟩
  match_eq before ahead := by
    rw [h.match_eq]
    symm
    apply firstMatch?_congr
    refine ((List.forall₂_and_left _ _).mpr ⟨hadmissible, hsame⟩).imp ?_
    rintro named named' ⟨hnamed, related⟩
    cases related with
    | intro related => exact related.matchLength?_eq hnamed before ahead
  recovery := by rw [h.recovery, recoveryOf_of_sameTexts hsame]

/-- Machines of declarations that differ only in how rules list texts agree. -/
theorem Alike.agrees_of_compile {d d' : Declaration} (halike : d.Alike SameTexts d')
    {host : Host} {start start' : Option String} {stateful stateful' : Bool}
    {config config' : Config} {m m' : Machine} (h : d.compile host start stateful config = .ok m)
    (h' : d'.compile host start' stateful' config' = .ok m') :
    List.Forall₂ StateTable.Agrees m.states m'.states := by
  have hwell := wellFormed_of_compile h
  have hcarries := forall₂_of_common halike (carries_of_compile h)
  refine (forall₂_of_common hcarries (carries_of_compile h')).imp ?_
  rintro t t' ⟨s', -, ⟨s, hs, hsame, rules, hrules, hcarries⟩, rules', hrules', hcarries'⟩
  obtain ⟨found, hfound, hrelated⟩ := halike.exists_expand hsame hrules'
  obtain rfl := Except.ok.inj (hrules.symm.trans hfound)
  have hadmissible : ∀ named ∈ rules, named.2.pattern.Admissible host.names := fun named hnamed =>
    (hwell.rules named (declares_of_expand hs hrules named hnamed)).pattern
  rw [hsame.name] at hcarries'
  exact (hcarries.relist hrelated hadmissible).agrees hcarries' halike.stateId?_eq rfl

end Declaration

namespace StateTable

/-- A rule for single characters may come last in quick look-up or first among the patterns. -/
theorem match?_quick_eq_pattern (names : Unicode.Names) (t : StateTable) {chars : List Char}
    (hne : chars ≠ []) :
    ∃ r, Regex.parse names (Regex.literalChoice (chars.map fun c => [c])) = .ok r ∧
      ∀ action before ahead,
        { t with quick := t.quick ++ chars.map (·, action) }.match? before ahead =
          { t with patterns := (action, r) :: t.patterns }.match? before ahead := by
  obtain ⟨s, hparse, hmem⟩ := Regex.parse_literalChoice_chars names hne
  refine ⟨_, hparse, ?_⟩
  intro action before ahead
  cases ahead with
  | nil =>
      simp [match?, quickAction?, patternMatch?, Regex.matchLength?_ofSet]
  | cons c rest =>
      simp only [match?, quickAction?, patternMatch?, List.head?_cons, Option.bind_some,
        List.lookup_append, Declaration.Draft.lookup_map_const, List.findSome?_cons,
        Regex.matchLength?_ofSet, Option.any_some, hmem]
      cases t.quick.lookup c with
      | some earlier => rfl
      | none => by_cases hc : c ∈ chars <;> simp [hc]

end StateTable

end Lexing
