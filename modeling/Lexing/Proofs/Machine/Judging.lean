import Lexing.Proofs.Machine.Matching
import Lexing.Proofs.Regex.Empty
import Lexing.Proofs.Regex.Searching

/-!
# What is checked of rules

Rules are judged by their patterns alone, before anything is matched. A pattern stands for some
texts, and whatever a state matches is one of the texts of its rule. So a check on these texts holds
of all matches.

The check for line breaks is of this kind. The check for empty matches asks for a least length
instead, which says nothing about an expression that has none. Such an expression is accepted, and
matches the empty text wherever it can be passed without reading.
-/

namespace Lexing

namespace Pattern

/-- The texts that a pattern stands for, as they are judged. -/
def texts (names : Unicode.Names) : Pattern → Language Char
  | literals texts => {w | ∃ text ∈ texts, text.toList = w}
  | regex source =>
    match Regex.parse names source.toList with
    | .ok r => r.language
    | .error _ => 0
  | fallback | collector => 0

variable {names : Unicode.Names}

theorem matchLength?_eq_some_iff {p : Pattern} {before : Option Char} {ahead : List Char}
    {len : Nat} :
    p.matchLength? names before ahead = some len ↔ ∃ source r, p.source? = some source ∧
      Regex.parse names source = .ok r ∧ r.matchLength? before ahead = some len := by
  simp only [matchLength?, Option.bind_eq_some_iff, Regex.sourceMatch?]
  constructor
  · rintro ⟨source, hsource, h⟩
    split at h
    next r hr => exact ⟨source, r, hsource, hr, h⟩
    next => cases h
  · rintro ⟨source, r, hsource, hr, h⟩
    exact ⟨source, hsource, by rw [hr]; exact h⟩

/-- The expression that is used stands for the texts that were judged. -/
theorem language_eq_texts {p : Pattern} (hp : p.Admissible names) {source : List Char} {r : Regex}
    (hsource : p.source? = some source) (hr : Regex.parse names source = .ok r) :
    r.language = p.texts names := by
  cases p with
  | literals texts =>
      obtain rfl := Option.some.inj hsource
      apply Language.ext
      intro w
      rw [Regex.mem_language_of_parse_literalChoice (mt List.map_eq_nil_iff.mp hp.1) hr]
      exact List.mem_map
  | regex source =>
      obtain rfl := Option.some.inj hsource
      obtain ⟨q, hq, -⟩ := hp
      rw [Regex.language_inLines hq hr, texts, hq]
  | fallback | collector => cases hsource

/-- What a pattern matches is one of its texts. -/
theorem take_mem_texts {p : Pattern} (hp : p.Admissible names) {before : Option Char}
    {ahead : List Char} {len : Nat} (h : p.matchLength? names before ahead = some len) :
    len ≤ ahead.length ∧ ahead.take len ∈ p.texts names := by
  obtain ⟨source, r, hsource, hr, hmatch⟩ := matchLength?_eq_some_iff.mp h
  rw [← language_eq_texts hp hsource hr]
  exact Regex.take_mem_language (Regex.inOrder_of_parse hr) hmatch

theorem notMem_of_mem_texts {p : Pattern} (hp : p.mayBreakLine names = false) {w : List Char}
    (hw : w ∈ p.texts names) : '\n' ∉ w := by
  cases p with
  | literals texts =>
      obtain ⟨text, htext, rfl⟩ := hw
      have hnone := List.any_eq_false.mp hp text htext
      simpa using hnone
  | regex source =>
      rw [texts] at hw
      rw [mayBreakLine] at hp
      split at hp
      next r hr =>
        rw [hr] at hw
        exact Regex.notMem_of_not_mayBreakLine hp hw
      next hr =>
        rw [hr] at hw
        cases hw
  | fallback | collector => cases hw

/-- A pattern whose texts include the empty one has an expression without a least length. -/
theorem minLength_of_nil_mem_texts {p : Pattern} (hp : p.Admissible names)
    (h : [] ∈ p.texts names) :
    ∃ source r, p = regex source ∧ Regex.parse names source.toList = .ok r ∧
      r.minLength = none := by
  cases p with
  | literals texts =>
      obtain ⟨text, htext, hnil⟩ := h
      obtain rfl : text = "" := by simpa using hnil
      exact absurd (hp.2 "" htext) (by decide)
  | regex source =>
      obtain ⟨r, hr, hmin⟩ := hp
      rw [texts, hr] at h
      exact ⟨source, r, rfl, hr, (Regex.minLength_of_nil_mem_language h).resolve_left hmin⟩
  | fallback | collector => cases h

/-- The pattern, in the form in which it is used, matches the empty text at a place. -/
def MatchesEmptyAt (p : Pattern) (names : Unicode.Names) (pt : Point) : Prop :=
  ∃ source r, p.source? = some source ∧ Regex.parse names source = .ok r ∧ r.Spans pt pt

/-- Only an expression without a least length can be accepted and match the empty text, and it does
so where it can be passed without reading. -/
theorem matchesEmptyAt_iff {p : Pattern} (hp : p.Admissible names) (pt : Point) :
    p.MatchesEmptyAt names pt ↔ ∃ source r r', p = regex source ∧
      Regex.parse names source.toList = .ok r ∧ r.minLength = none ∧
      Regex.parse names (Regex.inLines source.toList) = .ok r' ∧ r'.emptyAt pt = true := by
  constructor
  · rintro ⟨source, r', hsource, hr', hspans⟩
    have hempty := (Regex.spans_self_iff (Regex.inOrder_of_parse hr') pt).mp hspans
    have hnil := Regex.nil_mem_language_of_emptyAt (Regex.inOrder_of_parse hr') hempty
    rw [language_eq_texts hp hsource hr'] at hnil
    obtain ⟨text, r, rfl, hr, hmin⟩ := minLength_of_nil_mem_texts hp hnil
    obtain rfl := Option.some.inj hsource
    exact ⟨text, r, r', rfl, hr, hmin, hr', hempty⟩
  · rintro ⟨source, r, r', rfl, -, -, hr', hempty⟩
    exact ⟨_, r', rfl, hr', (Regex.spans_self_iff (Regex.inOrder_of_parse hr') pt).mpr hempty⟩

theorem matchesEmptyAt_of_matchLength? {p : Pattern} {before : Option Char} {ahead : List Char}
    (h : p.matchLength? names before ahead = some 0) :
    p.MatchesEmptyAt names ⟨0, before, ahead⟩ := by
  obtain ⟨source, r, hsource, hr, hmatch⟩ := matchLength?_eq_some_iff.mp h
  have hr' := Regex.inOrder_of_parse hr
  exact ⟨source, r, hsource, hr,
    (Regex.spans_self_iff hr' _).mpr (Regex.emptyAt_of_matchLength? hr' hmatch)⟩

/-- Where a pattern matches the empty text it matches, though it may prefer more. -/
theorem exists_matchLength?_of_matchesEmptyAt {p : Pattern} {before : Option Char}
    {ahead : List Char} (h : p.MatchesEmptyAt names ⟨0, before, ahead⟩) :
    ∃ len, p.matchLength? names before ahead = some len := by
  obtain ⟨source, r, hsource, hr, hspan⟩ := h
  obtain ⟨len, hlen⟩ := (Regex.exists_matchLength?_iff (Regex.inOrder_of_parse hr)).mpr ⟨_, hspan⟩
  exact ⟨len, matchLength?_eq_some_iff.mpr ⟨source, r, hsource, hr, hlen⟩⟩

end Pattern

namespace Declaration

variable {d : Declaration} {host : Host} {start : Option String} {stateful : Bool} {config : Config}
  {m : Machine} {k : Nat} {t : StateTable}

/-- A state answers with the first of its rules that matches, and all of them have been checked. -/
theorem exists_checked_rules (h : d.compile host start stateful config = .ok m)
    (hk : m.states[k]? = some t) :
    ∃ s rules, d[k]? = some s ∧ d.expand s = .ok rules ∧
      List.Forall₂ (Draft.Checked ⟨d, host, stateful, config⟩ s.name m.warnings) rules t.actions ∧
      ∀ before ahead, t.match? before ahead = firstMatch? host.names rules before ahead := by
  obtain ⟨s, rules, warnings, hs, hrules, htable, hwarnings⟩ := exists_tableOf h hk
  refine ⟨s, rules, hs, hrules, ?_, StateTable.match?_eq_firstMatch? htable⟩
  exact (checked_of_tableOf htable).imp fun _ _ hchecked => hchecked.mono hwarnings

/-- In a compiled declaration a rule matches the empty text just where its expression has no least
length and can be passed without reading. Only such a rule gives a state an empty match, and at the
end of the text every such rule makes it have one. -/
theorem matchesEmptyAt_iff_of_compile (h : d.compile host start stateful config = .ok m)
    (hk : m.states[k]? = some t) :
    ∃ s rules, d[k]? = some s ∧ d.expand s = .ok rules ∧
      (∀ named ∈ rules, ∀ pt, named.2.pattern.MatchesEmptyAt host.names pt ↔
        ∃ source r r', named.2.pattern = .regex source ∧
          Regex.parse host.names source.toList = .ok r ∧ r.minLength = none ∧
          Regex.parse host.names (Regex.inLines source.toList) = .ok r' ∧ r'.emptyAt pt = true) ∧
      (∀ before ahead i, t.match? before ahead = some (i, 0) →
        ∃ named, rules[i]? = some named ∧
          named.2.pattern.MatchesEmptyAt host.names ⟨0, before, ahead⟩) ∧
      ∀ before, (∃ i, t.match? before [] = some (i, 0)) ↔
        ∃ named ∈ rules, named.2.pattern.MatchesEmptyAt host.names ⟨0, before, []⟩ := by
  obtain ⟨s, rules, hs, hrules, hchecked, hmatch⟩ := exists_checked_rules h hk
  have hempty : ∀ before ahead i, t.match? before ahead = some (i, 0) →
      ∃ named, rules[i]? = some named ∧
        named.2.pattern.MatchesEmptyAt host.names ⟨0, before, ahead⟩ := by
    intro before ahead i hfound
    rw [hmatch] at hfound
    obtain ⟨⟨named, hi, hlength⟩, -⟩ := firstMatch?_eq_some_iff.mp hfound
    exact ⟨named, hi, Pattern.matchesEmptyAt_of_matchLength? hlength⟩
  refine ⟨s, rules, hs, hrules, ?_, hempty, ?_⟩
  · intro named hnamed pt
    obtain ⟨action, -, hnamed⟩ := exists_mem_of_forall₂ hchecked hnamed
    exact Pattern.matchesEmptyAt_iff hnamed.admissible pt
  intro before
  constructor
  · rintro ⟨i, hfound⟩
    obtain ⟨named, hi, hnamed⟩ := hempty before [] i hfound
    exact ⟨named, List.mem_of_getElem? hi, hnamed⟩
  · rintro ⟨named, hmem, hnamed⟩
    obtain ⟨len, hlen⟩ := Pattern.exists_matchLength?_of_matchesEmptyAt hnamed
    obtain ⟨⟨i, len'⟩, hfirst⟩ : ∃ found, firstMatch? host.names rules before [] = some found := by
      apply Option.ne_none_iff_exists'.mp
      intro hnone
      cases (firstMatch?_eq_none_iff.mp hnone named hmem).symm.trans hlen
    -- Whichever rule comes first, at the end there is nothing that it could take.
    obtain ⟨⟨other, hother, hlength⟩, -⟩ := firstMatch?_eq_some_iff.mp hfirst
    obtain ⟨action, -, hchecked'⟩ :=
      exists_mem_of_forall₂ hchecked (List.mem_of_getElem? hother)
    have hle := (Pattern.take_mem_texts hchecked'.admissible hlength).1
    obtain rfl : len' = 0 := Nat.le_zero.mp hle
    exact ⟨i, (hmatch before []).trans hfirst⟩

/-- A repetition of a class that holds nothing. -/
def emptyClassSample : Declaration :=
  [⟨"start", [.rule "nothing" { pattern := .regex "[a&&b]*" }]⟩]

theorem exists_empty_match_emptyClassSample :
    ∃ m t, emptyClassSample.compile .standard none true {} = .ok m ∧ m.states[0]? = some t ∧
      t.match? none ['x'] = some (0, 0) :=
  ⟨_, _, rfl, rfl, rfl⟩

theorem matchesEmptyAt_iff_of_compile_emptyClassSample :
    ∃ m t s rules, emptyClassSample.compile .standard none true {} = .ok m ∧ m.states[0]? = some t ∧
      emptyClassSample[0]? = some s ∧ emptyClassSample.expand s = .ok rules ∧
      ∃ named, rules[0]? = some named ∧
        named.2.pattern.MatchesEmptyAt Host.standard.names ⟨0, none, ['x']⟩ := by
  obtain ⟨m, t, hm, ht, hfound⟩ : ∃ m t, emptyClassSample.compile .standard none true {} = .ok m ∧
      m.states[0]? = some t ∧ t.match? none ['x'] = some (0, 0) := ⟨_, _, rfl, rfl, rfl⟩
  obtain ⟨s, rules, hs, hrules, -, hempty, -⟩ := matchesEmptyAt_iff_of_compile hm ht
  exact ⟨m, t, s, rules, hm, ht, hs, hrules, hempty none ['x'] 0 hfound⟩

theorem mayBreakLine_of_warns {ctx : Context} {state name : String} {rule : Rule}
    {found warnings : List Warning}
    (hpolicy : ctx.config.lineBreaks = .deny ∨ ctx.config.lineBreaks = .warn ∧ warnings = [])
    (hfound : found ⊆ warnings) {mayBreak : Bool}
    (h : lineBreakWarnings ctx state name rule mayBreak = .ok found)
    (hrule : rule.lineBreaks = false) : mayBreak = false := by
  rw [lineBreakWarnings] at h
  cases mayBreak with
  | false => rfl
  | true =>
      rw [hrule] at h
      rcases hpolicy with hdeny | ⟨hwarn, rfl⟩
      · rw [hdeny] at h
        cases h
      · rw [hwarn] at h
        obtain rfl := Except.ok.inj h
        cases hfound List.mem_cons_self

/-- If line breaks that are not counted are refused, or no rule is warned about, then no match of a
rule that does not count line breaks holds one. -/
theorem notMem_of_match? (h : d.compile host start stateful config = .ok m)
    (hpolicy : config.lineBreaks = .deny ∨ config.lineBreaks = .warn ∧ m.warnings = [])
    (hk : m.states[k]? = some t) {before : Option Char} {ahead : List Char} {i len : Nat}
    (hmatch : t.match? before ahead = some (i, len)) :
    len ≤ ahead.length ∧ ∃ action, t.actions[i]? = some action ∧
      (action.lineBreaks = false → '\n' ∉ ahead.take len) := by
  obtain ⟨s, rules, -, -, hchecked, hfirst⟩ := exists_checked_rules h hk
  rw [hfirst] at hmatch
  obtain ⟨⟨named, hi, hlength⟩, -⟩ := firstMatch?_eq_some_iff.mp hmatch
  obtain ⟨action, haction, hnamed⟩ := exists_getElem?_of_forall₂ hchecked.flip hi
  obtain ⟨hle, hmem⟩ := Pattern.take_mem_texts hnamed.admissible hlength
  refine ⟨hle, action, haction, ?_⟩
  intro hlines
  obtain ⟨transition, -, rfl⟩ := hnamed.stands
  obtain ⟨found, hfound, hwarns⟩ := hnamed.warns
  have huncounted : named.2.lineBreaks = false := (Bool.or_eq_false_iff.mp hlines).1
  have hbreak := mayBreakLine_of_warns hpolicy hfound hwarns huncounted
  exact Pattern.notMem_of_mem_texts hbreak hmem

theorem notMem_of_match?_mixedSample :
    ∃ m t, mixedSample.compile .standard none true .strict = .ok m ∧ m.states[0]? = some t ∧
      t.match? none ['c', 'c', '\n'] = some (2, 2) ∧
      2 ≤ ['c', 'c', '\n'].length ∧ ∃ action, t.actions[2]? = some action ∧
        (action.lineBreaks = false → '\n' ∉ ['c', 'c', '\n'].take 2) := by
  obtain ⟨m, t, hm, ht, hfound⟩ : ∃ m t, mixedSample.compile .standard none true .strict = .ok m ∧
      m.states[0]? = some t ∧ t.match? none ['c', 'c', '\n'] = some (2, 2) :=
    ⟨_, _, rfl, rfl, rfl⟩
  exact ⟨m, t, hm, ht, hfound, notMem_of_match? hm (.inl rfl) ht hfound⟩

end Declaration

end Lexing
