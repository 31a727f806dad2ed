import Lexing.Proofs.Declaration.Compiling
import Lexing.Proofs.Regex.Literals

/-!
# The rule that matches

A table answers from two lists, characters for quick look-up and patterns, neither of which has the
rules in full. Taken together they give the same answer as trying the rules one after another, each
on its own: the first rule that matches, with the length that it prefers. This holds of every draft
on the way, since a rule goes into the first list only while the second is empty.
-/

namespace Lexing

/-- The length of the match of an expression that is given as a text. -/
def Regex.sourceMatch? (names : Unicode.Names) (source : List Char) (before : Option Char)
    (ahead : List Char) : Option Nat :=
  match Regex.parse names source with
  | .ok r => r.matchLength? before ahead
  | .error _ => none

/-- The length of the match that the pattern prefers when it is tried alone. Recovery rules do not
match. -/
def Pattern.matchLength? (p : Pattern) (names : Unicode.Names) (before : Option Char)
    (ahead : List Char) : Option Nat :=
  p.source?.bind fun source => Regex.sourceMatch? names source before ahead

/-- The first of some rules that matches, and the length of its match. -/
def firstMatch? (names : Unicode.Names) (rules : List NamedRule) (before : Option Char)
    (ahead : List Char) : Option (Nat × Nat) :=
  rules.zipIdx.findSome? fun (named, i) =>
    (named.2.pattern.matchLength? names before ahead).map (i, ·)

section FirstMatch

variable {names : Unicode.Names} {rules : List NamedRule} {before : Option Char}
  {ahead : List Char}

theorem firstMatch?_append_singleton (rules : List NamedRule) (named : NamedRule) :
    firstMatch? names (rules ++ [named]) before ahead =
      (firstMatch? names rules before ahead).or
        ((named.2.pattern.matchLength? names before ahead).map (rules.length, ·)) := by
  simp [firstMatch?, List.zipIdx_append, List.findSome?_append]

theorem firstMatch?_eq_none_iff :
    firstMatch? names rules before ahead = none ↔
      ∀ named ∈ rules, named.2.pattern.matchLength? names before ahead = none := by
  induction rules using List.reverseRecOn with
  | nil => exact iff_of_true rfl (List.forall_mem_nil _)
  | append_singleton rest named ih =>
      rw [firstMatch?_append_singleton, Option.or_eq_none_iff, ih, Option.map_eq_none_iff,
        List.forall_mem_append, List.forall_mem_singleton]

/-- Which rule is the first follows from what each of them matches. -/
theorem firstMatch?_congr {rules' : List NamedRule} {before' : Option Char} {ahead' : List Char}
    (h : List.Forall₂ (fun x x' => x'.2.pattern.matchLength? names before' ahead' =
      x.2.pattern.matchLength? names before ahead) rules rules') :
    firstMatch? names rules' before' ahead' = firstMatch? names rules before ahead := by
  rw [firstMatch?, firstMatch?]
  generalize 0 = k
  induction h generalizing k with
  | nil => rfl
  | cons hx _ ih =>
      rw [List.zipIdx_cons, List.zipIdx_cons, List.findSome?_cons, List.findSome?_cons]
      dsimp only
      rw [hx, ih]

/-- A rule is the first that matches if it matches and no rule before it does. -/
theorem firstMatch?_eq_some_iff {i len : Nat} :
    firstMatch? names rules before ahead = some (i, len) ↔
      (∃ named, rules[i]? = some named ∧
        named.2.pattern.matchLength? names before ahead = some len) ∧
      ∀ j < i, ∀ named, rules[j]? = some named →
        named.2.pattern.matchLength? names before ahead = none := by
  induction rules using List.reverseRecOn with
  | nil => exact iff_of_false (fun h => nomatch h) (fun ⟨⟨_, h, _⟩, _⟩ => nomatch h)
  | append_singleton rest last ih =>
      rw [firstMatch?_append_singleton, Option.or_eq_some_iff, ih, firstMatch?_eq_none_iff]
      constructor
      · rintro (⟨⟨named, hi, hlen⟩, hbefore⟩ | ⟨hnone, hlast⟩)
        · have hlt := (List.getElem?_eq_some_iff.mp hi).1
          refine ⟨⟨named, by rwa [List.getElem?_append_left hlt], hlen⟩, ?_⟩
          intro j hj other hother
          rw [List.getElem?_append_left (hj.trans hlt)] at hother
          exact hbefore j hj other hother
        · obtain ⟨len, hlen, heq⟩ := Option.map_eq_some_iff.mp hlast
          obtain ⟨rfl, rfl⟩ := Prod.mk.inj heq
          refine ⟨⟨last, List.getElem?_concat_length, hlen⟩, ?_⟩
          intro j hj other hother
          rw [List.getElem?_append_left hj] at hother
          exact hnone other (List.mem_of_getElem? hother)
      · rintro ⟨⟨named, hi, hlen⟩, hbefore⟩
        rcases Nat.lt_or_ge i rest.length with hlt | hge
        · rw [List.getElem?_append_left hlt] at hi
          refine .inl ⟨⟨named, hi, hlen⟩, ?_⟩
          intro j hj other hother
          exact hbefore j hj other (by rwa [List.getElem?_append_left (hj.trans hlt)])
        · obtain rfl : i = rest.length := by
            have := (List.getElem?_eq_some_iff.mp hi).1
            rw [List.length_append, List.length_singleton] at this
            omega
          obtain rfl := Option.some.inj (List.getElem?_concat_length.symm.trans hi)
          refine .inr ⟨?_, by rw [hlen, Option.map_some]⟩
          intro other hother
          obtain ⟨j, hj⟩ := List.getElem?_of_mem hother
          have hlt := (List.getElem?_eq_some_iff.mp hj).1
          exact hbefore j hlt other (by rwa [List.getElem?_append_left hlt])

end FirstMatch

namespace Declaration.Draft

/-- What a draft answers, with its patterns still kept as texts. -/
def match? (draft : Draft) (names : Unicode.Names) (before : Option Char) (ahead : List Char) :
    Option (Nat × Nat) :=
  ((ahead.head?.bind (draft.quick.lookup ·)).map (·, 1)).or
    (draft.sources.findSome? fun (action, source) =>
      (Regex.sourceMatch? names source before ahead).map (action, ·))

/-- The draft answers as its rules do. -/
structure Follows (names : Unicode.Names) (rules : List NamedRule) (draft : Draft) : Prop where
  length : draft.actions.length = rules.length
  sources : draft.quickOpen = true → draft.sources = []
  match_eq : ∀ before ahead,
    draft.match? names before ahead = firstMatch? names rules before ahead

variable {names : Unicode.Names}

theorem lookup_map_const {chars : List Char} {action : Nat} (c : Char) :
    (chars.map (·, action)).lookup c = if c ∈ chars then some action else none := by
  induction chars with
  | nil => rfl
  | cons d rest ih =>
      rw [List.map_cons, List.lookup_cons, ih]
      by_cases hc : c = d
      · simp [hc]
      · rw [beq_eq_false_iff_ne.mpr hc]
        simp [hc]

theorem toList_of_onlyChar? {text : String} {c : Char} (h : onlyChar? text = some c) :
    text.toList = [c] := by
  rw [onlyChar?] at h
  split at h
  next heq => rw [heq, Option.some.inj h]
  next => cases h

theorem map_toList_of_onlyChars {texts : List String} {chars : List Char}
    (h : texts.mapM onlyChar? = some chars) : texts.map (·.toList) = chars.map fun c => [c] := by
  rw [mapM_eq_some_iff] at h
  induction h with
  | nil => rfl
  | cons hc _ ih => rw [List.map_cons, List.map_cons, toList_of_onlyChar? hc, ih]

/-- Texts of one character match where one of the characters comes next. -/
theorem matchLength?_of_onlyChars {texts : List String} {chars : List Char} (hne : texts ≠ [])
    (hchars : texts.mapM onlyChar? = some chars) (before : Option Char) (ahead : List Char) :
    (Pattern.literals texts).matchLength? names before ahead =
      if ahead.head?.any (· ∈ chars) then some 1 else none := by
  have htexts := map_toList_of_onlyChars hchars
  have hne' : chars ≠ [] := by
    rintro rfl
    exact hne (List.map_eq_nil_iff.mp htexts)
  obtain ⟨s, hparse, hmem⟩ := Regex.parse_literalChoice_chars names hne'
  have hcontains : s.contains = fun c => decide (c ∈ chars) := by
    funext c
    rw [Bool.eq_iff_iff, hmem, decide_eq_true_iff]
  simp only [Pattern.matchLength?, Pattern.source?, Option.bind_some, Regex.sourceMatch?, htexts,
    hparse, Regex.matchLength?_ofSet, hcontains]

variable {ctx : Context} {state : String} {rules : List NamedRule} {draft added : Draft}
  {pattern : Pattern} {named : NamedRule} {transition : Option Transition}
  {warnings : List Warning}

theorem sources_of_adds (hsources : draft.quickOpen = true → draft.sources = [])
    (h : draft.Adds pattern added) : added.quickOpen = true → added.sources = [] := by
  cases h with
  | quick => exact hsources
  | source => exact fun hopen => nomatch hopen
  | recovery => exact hsources

/-- A pattern that is added comes after what the draft answered before. -/
theorem match?_of_adds (hsources : draft.quickOpen = true → draft.sources = [])
    (hadmissible : pattern.Admissible names) (h : draft.Adds pattern added) (before : Option Char)
    (ahead : List Char) :
    added.match? names before ahead = (draft.match? names before ahead).or
      ((pattern.matchLength? names before ahead).map (draft.nextAction, ·)) := by
  cases h with
  | @quick texts chars isOpen single =>
      rw [matchLength?_of_onlyChars hadmissible.1 single]
      simp only [match?, hsources isOpen, List.findSome?_nil, Option.or_none]
      cases ahead with
      | nil => rfl
      | cons c rest =>
          simp only [List.head?_cons, Option.bind_some, List.lookup_append, lookup_map_const,
            Option.any_some, decide_eq_true_iff, Option.map_or]
          split <;> rfl
  | source isSource =>
      simp only [match?, addSource, List.findSome?_append, List.findSome?_singleton,
        Pattern.matchLength?, isSource, Option.bind_some, Option.or_assoc]
  | recovery _ isRecovery =>
      have hnone := Pattern.source?_of_recovers (Pattern.recovers_of_recovery? isRecovery)
      simp only [match?, Pattern.matchLength?, hnone, Option.bind_none, Option.map_none,
        Option.or_none]

/-- Adding a rule keeps the answers in step with the rules. -/
theorem follows_of_accepts (h : Follows ctx.host.names rules draft)
    (haccepts : Accepts ctx state draft named transition warnings added) :
    Follows ctx.host.names (rules ++ [named]) { added with
      actions := draft.actions ++ [actionOf named.1 named.2 transition]
      warnings := draft.warnings ++ warnings } where
  length := by simp [h.length]
  sources := (sources_of_adds h.sources haccepts.adds :)
  match_eq before ahead := by
    rw [firstMatch?_append_singleton, ← h.match_eq, ← h.length]
    exact match?_of_adds h.sources haccepts.admissible haccepts.adds before ahead

theorem follows_of_addRules {rules : List NamedRule} {quickOpen : Bool}
    (h : rules.foldlM (addRule ctx state) { quickOpen } = .ok draft) :
    Follows ctx.host.names rules draft := by
  refine addRules_invariant (Follows ctx.host.names) h ⟨rfl, fun _ => rfl, ?_⟩ ?_
  · intro before ahead
    cases ahead <;> rfl
  · exact follows_of_accepts

/-- The expression of a rule can be read, or is among those that are still to be read. -/
def Readable (names : Unicode.Names) (rules : List NamedRule) (draft : Draft) : Prop :=
  ∀ named ∈ rules, ∀ source, named.2.pattern.source? = some source →
    (∃ r, Regex.parse names source = .ok r) ∨ ∃ action, (action, source) ∈ draft.sources

theorem subset_sources_of_adds (h : draft.Adds pattern added) : draft.sources ⊆ added.sources := by
  cases h with
  | quick | recovery => exact List.Subset.refl _
  | source => exact List.subset_append_left _ _

theorem exists_parse_or_mem_sources (hadmissible : pattern.Admissible names)
    (h : draft.Adds pattern added) {source : List Char} (hsource : pattern.source? = some source) :
    (∃ r, Regex.parse names source = .ok r) ∨ ∃ action, (action, source) ∈ added.sources := by
  cases h with
  | @quick texts =>
      obtain rfl := Option.some.inj hsource
      exact .inl ⟨_, Regex.parse_literalChoice _ (mt List.map_eq_nil_iff.mp hadmissible.1)⟩
  | source isSource =>
      obtain rfl := Option.some.inj (isSource.symm.trans hsource)
      exact .inr ⟨_, List.mem_append_right _ (List.mem_singleton.mpr rfl)⟩
  | recovery _ isRecovery =>
      have hnone := Pattern.source?_of_recovers (Pattern.recovers_of_recovery? isRecovery)
      cases hnone.symm.trans hsource

theorem readable_of_addRules {rules : List NamedRule} {quickOpen : Bool}
    (h : rules.foldlM (addRule ctx state) { quickOpen } = .ok draft) :
    Readable ctx.host.names rules draft := by
  refine addRules_invariant (Readable ctx.host.names) h (List.forall_mem_nil _) ?_
  intro done named draft transition warnings added hinv haccepts
  rw [Readable, List.forall_mem_append]
  constructor
  · intro other hother source hsource
    apply (hinv other hother source hsource).imp_right
    rintro ⟨action, hmem⟩
    exact ⟨action, subset_sources_of_adds haccepts.adds hmem⟩
  · rw [List.forall_mem_singleton]
    intro source hsource
    exact exists_parse_or_mem_sources haccepts.admissible haccepts.adds hsource

end Declaration.Draft

namespace StateTable

theorem findSome?_eq_of_forall₂ {α β γ : Type} {R : α → β → Prop} {xs : List α} {ys : List β}
    (h : List.Forall₂ R xs ys) {f : α → Option γ} {g : β → Option γ}
    (hfg : ∀ x y, R x y → f x = g y) : xs.findSome? f = ys.findSome? g := by
  induction h with
  | nil => rfl
  | cons hxy _ ih => rw [List.findSome?_cons, List.findSome?_cons, hfg _ _ hxy, ih]

open Declaration in
/-- A table answers with the first of its rules that matches. -/
theorem match?_eq_firstMatch? {ctx : Context} {state : String} {rules : List NamedRule}
    {t : StateTable} {warnings : List Warning} (h : tableOf ctx state rules = .ok (t, warnings))
    (before : Option Char) (ahead : List Char) :
    t.match? before ahead = firstMatch? ctx.host.names rules before ahead := by
  obtain ⟨draft, hdraft, hpatterns, -, -, -, hquick, -⟩ := tableOf_eq_ok h
  have hread := Draft.readPatterns_eq_ok hpatterns
  have hsearch : t.patternMatch? before ahead = draft.sources.findSome? fun (action, source) =>
      (Regex.sourceMatch? ctx.host.names source before ahead).map (action, ·) := by
    symm
    apply findSome?_eq_of_forall₂ hread
    intro source pattern hpattern
    simp only [Regex.sourceMatch?, hpattern.1, hpattern.2]
  rw [← (Draft.follows_of_addRules hdraft).match_eq, match?, Draft.match?, hsearch, ← hquick,
    quickAction?]
  cases ahead.head?.bind (t.quick.lookup ·) <;> rfl

open Declaration in
/-- The expression of each rule of a table can be read. -/
theorem exists_parse_of_source? {ctx : Context} {state : String} {rules : List NamedRule}
    {t : StateTable} {warnings : List Warning} (h : tableOf ctx state rules = .ok (t, warnings))
    {named : NamedRule} (hnamed : named ∈ rules) {source : List Char}
    (hsource : named.2.pattern.source? = some source) :
    ∃ r, Regex.parse ctx.host.names source = .ok r := by
  obtain ⟨draft, hdraft, hpatterns, -⟩ := tableOf_eq_ok h
  rcases Draft.readable_of_addRules hdraft named hnamed source hsource with hread | ⟨action, hmem⟩
  · exact hread
  · obtain ⟨pattern, -, -, hparse⟩ :=
      exists_mem_of_forall₂ (Draft.readPatterns_eq_ok hpatterns) hmem
    exact ⟨pattern.2, hparse⟩

end StateTable

namespace Declaration

/-- A state of a compiled declaration finds a match exactly where a rule of the declared state, with
those it includes, matches on its own. It is the match of the first such rule. Each rule that does
not recover has an expression of its own, and rules that recover have no part in this. -/
theorem match?_of_compile {d : Declaration} {host : Host} {start : Option String} {stateful : Bool}
    {config : Config} {m : Machine} (h : d.compile host start stateful config = .ok m) {k : Nat}
    {t : StateTable} (hk : m.states[k]? = some t) :
    ∃ s rules, d[k]? = some s ∧ d.expand s = .ok rules ∧
      (∀ named ∈ rules, named.2.pattern.recovers = false →
        ∃ source r, named.2.pattern.source? = some source ∧ Regex.parse host.names source = .ok r ∧
          named.2.pattern.matchLength? host.names = r.matchLength?) ∧
      (∀ named ∈ rules, named.2.pattern.recovers = true →
        ∀ before ahead, named.2.pattern.matchLength? host.names before ahead = none) ∧
      ∀ before ahead,
        (∀ i len, t.match? before ahead = some (i, len) ↔
          (∃ named, rules[i]? = some named ∧
            named.2.pattern.matchLength? host.names before ahead = some len) ∧
          ∀ j < i, ∀ named, rules[j]? = some named →
            named.2.pattern.matchLength? host.names before ahead = none) ∧
        (t.match? before ahead = none ↔
          ∀ named ∈ rules, named.2.pattern.matchLength? host.names before ahead = none) := by
  obtain ⟨s, rules, warnings, hs, hrules, htable, -⟩ := exists_tableOf h hk
  refine ⟨s, rules, hs, hrules, ?_, ?_, ?_⟩
  · intro named hnamed hrecovers
    obtain ⟨source, hsource⟩ := Pattern.exists_source? hrecovers
    obtain ⟨r, hr⟩ := StateTable.exists_parse_of_source? htable hnamed hsource
    refine ⟨source, r, hsource, hr, ?_⟩
    funext before ahead
    simp only [Pattern.matchLength?, hsource, Option.bind_some, Regex.sourceMatch?, hr]
  · intro named _ hrecovers before ahead
    rw [Pattern.matchLength?, Pattern.source?_of_recovers hrecovers, Option.bind_none]
  · intro before ahead
    rw [StateTable.match?_eq_firstMatch? htable]
    exact ⟨fun i len => firstMatch?_eq_some_iff, firstMatch?_eq_none_iff⟩

/-- A fallback comes first, then characters for quick look-up, then an expression that closes the
table for them, so that the last rule becomes a pattern. -/
def mixedSample : Declaration :=
  [⟨"start", [
    .rule "other" { pattern := .fallback },
    .rule "letter" { pattern := .literals ["a", "b"] },
    .rule "run" { pattern := .regex "c+" },
    .rule "late" { pattern := .literals ["c", "d"] }]⟩]

theorem match?_of_compile_mixedSample :
    ∃ m t s rules, mixedSample.compile .standard none true {} = .ok m ∧ m.states[0]? = some t ∧
      mixedSample[0]? = some s ∧ mixedSample.expand s = .ok rules ∧
      t.match? none ['c', 'c'] = some (2, 2) ∧
      (∃ named, rules[2]? = some named ∧
        named.2.pattern.matchLength? Host.standard.names none ['c', 'c'] = some 2) ∧
      ∀ j < 2, ∀ named, rules[j]? = some named →
        named.2.pattern.matchLength? Host.standard.names none ['c', 'c'] = none := by
  obtain ⟨m, t, hm, ht, hfound⟩ : ∃ m t, mixedSample.compile .standard none true {} = .ok m ∧
      m.states[0]? = some t ∧ t.match? none ['c', 'c'] = some (2, 2) := ⟨_, _, rfl, rfl, rfl⟩
  obtain ⟨s, rules, hs, hrules, -, -, hmatch⟩ := match?_of_compile hm ht
  exact ⟨m, t, s, rules, hm, ht, hs, hrules, hfound, ((hmatch none ['c', 'c']).1 2 2).mp hfound⟩

end Declaration

end Lexing
