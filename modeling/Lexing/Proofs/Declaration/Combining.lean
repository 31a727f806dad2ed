import Lexing.Proofs.Declaration.Accepting
import Lexing.Proofs.Declaration.Lockstep
import Lexing.Proofs.Regex.Comments

/-!
# The patterns of a state taken together

Each expression of a rule is judged alone before it is put into a group and read again with all the
patterns of the state. Once the rules of a state have been accepted one by one, this second reading
fails in two cases only. The expression of some rule ends in a comment, which then takes in the end
of the group, or the group makes it one level too deep. If all can be read, the engine may still
have no room for them together. Such a fault is reported for all rules of the state. Any other
expression that cannot be read is reported for its own rule.
-/

namespace Lexing

namespace Pattern

/-- The cause for which an expression that can be read alone cannot be read in its group. -/
def groupFault? (names : Unicode.Names) : Pattern → Option Regex.SyntaxError
  | regex source =>
    if Regex.endsInComment names source.toList then some .groupUnclosed
    else if Regex.depth names source.toList < Regex.maxDepth then none
    else some .nestedTooDeeply
  | literals _ | fallback | collector => none

variable {names : Unicode.Names}

/-- The text of an accepted pattern can be read unless there is a fault with its group. -/
theorem error?_parse_source? {p : Pattern} (h : p.Admissible names) {source : List Char}
    (hsource : p.source? = some source) :
    error? (Regex.parse names source) = p.groupFault? names := by
  cases p with
  | literals texts =>
      obtain rfl := Option.some.inj hsource
      rw [Regex.parse_literalChoice _ (mt List.map_eq_nil_iff.mp h.1)]
      rfl
  | regex source =>
      obtain rfl := Option.some.inj hsource
      obtain ⟨r, hr, -⟩ := h
      obtain ⟨s, -, hinside⟩ := Regex.parse_inLines_eq hr
      rw [hinside, groupFault?]
      split
      next => rfl
      next => split <;> rfl
  | fallback | collector => cases hsource

theorem groupFault?_eq_none_iff {p : Pattern} : p.groupFault? names = none ↔
    ∀ source, p = .regex source → Regex.endsInComment names source.toList = false ∧
      Regex.depth names source.toList < Regex.maxDepth := by
  cases p with
  | regex source =>
      cases hends : Regex.endsInComment names source.toList <;> simp [groupFault?, hends]
  | literals | fallback | collector => simp [groupFault?]

theorem groupFault?_of_source? {p : Pattern} (h : p.source? = none) :
    p.groupFault? names = none := by
  cases p with
  | literals | regex => cases h
  | fallback | collector => rfl

end Pattern

namespace Declaration

variable {ctx : Context} {state : String} {rules : List NamedRule}

section Rules

variable {name state' other : String} {rule : Rule} {cause : Regex.SyntaxError}

theorem transitionOf_ne_invalidPattern :
    transitionOf ctx state name rule ≠ .error (.invalidPattern state' other cause) := by
  intro h
  -- The change of state does not depend on the pattern, so the rule may as well have none to read.
  have hany : transitionOf ctx state name { rule with pattern := .fallback } =
      .error (.invalidPattern state' other cause) := h
  have hnone : sourcesOf ctx.config.quickLookup [(name, { rule with pattern := .fallback })] =
      [] := by
    cases ctx.config.quickLookup <;> rfl
  cases violate_of_transitionOf (List.mem_singleton_self _) hany with
  | invalidPattern hmem hpattern =>
      cases List.mem_singleton.mp hmem
      cases hpattern
  | invalidPatterns hmem =>
      rw [hnone] at hmem
      cases hmem
  | overfull hfull => exact hfull fun hne => absurd hnone hne

theorem lineBreakWarnings_ne_invalidPattern {mayBreak : Bool} :
    lineBreakWarnings ctx state name rule mayBreak ≠
      .error (.invalidPattern state' other cause) := by
  intro h
  rw [lineBreakWarnings] at h
  split at h
  next => cases h
  next => split at h <;> cases h

namespace Draft

variable {draft : Draft}

theorem addRecovery_ne_invalidPattern {transition : Option Transition} {recovery : Nat → Recovery} :
    draft.addRecovery state name transition recovery ≠
      .error (.invalidPattern state' other cause) := by
  intro h
  rw [addRecovery] at h
  split at h
  next => cases h
  next => split at h <;> cases h

theorem addLiterals_ne_invalidPattern {texts : List String} :
    draft.addLiterals ctx state name rule texts ≠ .error (.invalidPattern state' other cause) := by
  intro h
  rw [addLiterals] at h
  dsimp only at h
  split at h
  next => cases h
  next =>
    split at h
    next => cases h
    next =>
      rcases bind_eq_error_iff.mp h with hwarns | ⟨warnings, -, h⟩
      · exact lineBreakWarnings_ne_invalidPattern hwarns
      · split at h <;> cases h

theorem addRegex_eq_invalidPattern {source : String}
    (h : draft.addRegex ctx state name rule source = .error (.invalidPattern state' other cause)) :
    state' = state ∧ other = name ∧ Regex.parse ctx.host.names source.toList = .error cause := by
  rw [addRegex] at h
  split at h
  next hcause =>
    cases h
    exact ⟨rfl, rfl, hcause⟩
  next =>
    dsimp only at h
    split at h
    next => cases h
    next =>
      rcases bind_eq_error_iff.mp h with hwarns | ⟨warnings, -, h⟩
      · exact absurd hwarns lineBreakWarnings_ne_invalidPattern
      · cases h

/-- When a rule is added, the only expression that can be found at fault is its own. -/
theorem addRule_eq_invalidPattern {named : NamedRule}
    (h : draft.addRule ctx state named = .error (.invalidPattern state' other cause)) :
    state' = state ∧ other = named.1 ∧ ∃ source, named.2.pattern = .regex source ∧
      Regex.parse ctx.host.names source.toList = .error cause := by
  obtain ⟨name, rule⟩ := named
  rw [addRule] at h
  rcases bind_eq_error_iff.mp h with hmoves | ⟨transition, -, h⟩
  · exact absurd hmoves transitionOf_ne_invalidPattern
  dsimp only at h
  cases hpattern : rule.pattern with
  | fallback | collector =>
      rw [hpattern] at h
      rcases bind_eq_error_iff.mp h with hadd | ⟨added, -, h⟩
      · exact absurd hadd addRecovery_ne_invalidPattern
      · cases h
  | literals texts =>
      rw [hpattern] at h
      rcases bind_eq_error_iff.mp h with hadd | ⟨added, -, h⟩
      · exact absurd hadd addLiterals_ne_invalidPattern
      · cases h
  | regex source =>
      rw [hpattern] at h
      rcases bind_eq_error_iff.mp h with hadd | ⟨added, -, h⟩
      · obtain ⟨rfl, rfl, hcause⟩ := addRegex_eq_invalidPattern hadd
        exact ⟨rfl, rfl, source, rfl, hcause⟩
      · cases h

end Draft

end Rules

/-- Once all rules are accepted, a pattern that cannot be read has a fault with its group. -/
theorem Draft.firstFault?_of_addRules {draft : Draft} {quickOpen : Bool}
    (h : rules.foldlM (addRule ctx state) { quickOpen } = .ok draft) :
    Regex.firstFault? ctx.host.names draft.texts =
      rules.findSome? (·.2.pattern.groupFault? ctx.host.names) := by
  refine addRules_invariant
    (fun rules draft => Regex.firstFault? ctx.host.names draft.texts =
      rules.findSome? (·.2.pattern.groupFault? ctx.host.names)) h rfl ?_
  intro done named draft transition warnings added hinv haccepts
  have hadmissible := haccepts.admissible
  have hadds := haccepts.adds
  rw [List.findSome?_append, List.findSome?_singleton, ← hinv]
  generalize named.2.pattern = pattern at hadmissible hadds ⊢
  cases hadds with
  | quick => exact Option.or_none.symm
  | @source _ source isSource =>
      rw [← Pattern.error?_parse_source? hadmissible isSource]
      exact firstFault?_addSource _ draft source
  | recovery _ isRecovery =>
      have hnone := Pattern.source?_of_recovers (Pattern.recovers_of_recovery? isRecovery)
      rw [Pattern.groupFault?_of_source? hnone]
      exact Option.or_none.symm

/-- The fault of the patterns of a state whose rules have been accepted one by one. -/
def groupsFault? (ctx : Context) (rules : List NamedRule) : Option Regex.SyntaxError :=
  (rules.findSome? (·.2.pattern.groupFault? ctx.host.names)).or
    (if ctx.host.HasRoom (sourcesOf ctx.config.quickLookup rules) then none else some .tooLarge)

theorem groupsFault?_eq_none_iff : groupsFault? ctx rules = none ↔
    (∀ named ∈ rules, ∀ source, named.2.pattern = .regex source →
      Regex.endsInComment ctx.host.names source.toList = false ∧
        Regex.depth ctx.host.names source.toList < Regex.maxDepth) ∧
    ctx.host.HasRoom (sourcesOf ctx.config.quickLookup rules) := by
  rw [groupsFault?, Option.or_eq_none_iff, List.findSome?_eq_none_iff]
  refine and_congr (forall₂_congr fun named _ => ?_) ?_
  · rw [Pattern.groupFault?_eq_none_iff]
  · split
    next hroom => exact iff_of_true rfl hroom
    next hfull => exact iff_of_false (fun h => nomatch h) hfull

theorem groupsFault?_eq_buildFault? {draft : Draft}
    (h : rules.foldlM (Draft.addRule ctx state) { quickOpen := ctx.config.quickLookup } =
      .ok draft) :
    groupsFault? ctx rules = ctx.host.buildFault? (sourcesOf ctx.config.quickLookup rules) := by
  rw [groupsFault?, Host.buildFault?, ← Draft.firstFault?_of_addRules h, Draft.texts_of_addRules h]

/-- Once all rules are accepted, there is a table unless the patterns have a fault together. -/
theorem tableOf_eq_error_iff {draft : Draft}
    (h : rules.foldlM (Draft.addRule ctx state) { quickOpen := ctx.config.quickLookup } =
      .ok draft) (fault : Fault) :
    tableOf ctx state rules = .error fault ↔
      ∃ cause, groupsFault? ctx rules = some cause ∧
        fault = .invalidPattern state Fault.allRules cause := by
  rw [← error?_eq_some, error?_tableOf h, groupsFault?_eq_buildFault? h, Option.map_eq_some_iff]
  exact exists_congr fun cause => and_congr_right' eq_comm

theorem exists_tableOf_iff {draft : Draft}
    (h : rules.foldlM (Draft.addRule ctx state) { quickOpen := ctx.config.quickLookup } =
      .ok draft) :
    (∃ built, tableOf ctx state rules = .ok built) ↔ groupsFault? ctx rules = none := by
  cases htable : tableOf ctx state rules with
  | ok built =>
      refine iff_of_true ⟨built, rfl⟩ ?_
      rw [Option.eq_none_iff_forall_ne_some]
      intro cause hcause
      cases htable.symm.trans ((tableOf_eq_error_iff h _).mpr ⟨cause, hcause, rfl⟩)
  | error fault =>
      obtain ⟨cause, hcause, -⟩ := (tableOf_eq_error_iff h fault).mp htable
      rw [hcause]
      exact iff_of_false (fun ⟨_, hok⟩ => nomatch hok) (fun hnone => nomatch hnone)

/-- An expression at fault is reported for a rule that has it, unless the rules have been accepted
and their patterns have a fault together. -/
def Blames (ctx : Context) (state : String) (rules : List NamedRule) (name : String)
    (cause : Regex.SyntaxError) : Prop :=
  (∃ rule source, (name, rule) ∈ rules ∧ rule.pattern = .regex source ∧
    Regex.parse ctx.host.names source.toList = .error cause) ∨
  (name = Fault.allRules ∧ groupsFault? ctx rules = some cause ∧
    ∃ draft, rules.foldlM (Draft.addRule ctx state) { quickOpen := ctx.config.quickLookup } =
      .ok draft)

theorem tableOf_eq_invalidPattern {state' name : String} {cause : Regex.SyntaxError}
    (h : tableOf ctx state rules = .error (.invalidPattern state' name cause)) :
    state' = state ∧ Blames ctx state rules name cause := by
  rcases tableOf_eq_error h with ⟨done, ⟨other, rule⟩, rest, draft, rfl, -, hrule⟩ |
    ⟨draft, found, hadd, hfound, hfault⟩
  · obtain ⟨rfl, rfl, source, hpattern, hcause⟩ := Draft.addRule_eq_invalidPattern hrule
    exact ⟨rfl, .inl ⟨rule, source, List.mem_append_cons_self, hpattern, hcause⟩⟩
  · cases hfault
    exact ⟨rfl, .inr ⟨rfl, (groupsFault?_eq_buildFault? hadd).trans hfound, draft, hadd⟩⟩

theorem compile_eq_invalidPattern {d : Declaration} {host : Host} {start : Option String}
    {stateful : Bool} {config : Config} {state name : String} {cause : Regex.SyntaxError}
    (h : d.compile host start stateful config = .error (.invalidPattern state name cause)) :
    ∃ s ∈ d, s.name = state ∧ ∃ rules, d.expand s = .ok rules ∧
      Blames ⟨d, host, stateful, config⟩ state rules name cause := by
  rcases compile_eq_error h with ⟨-, hfault⟩ | ⟨_, -, hfault⟩ | ⟨_, -, -, hfault⟩ |
    ⟨s, hs, hexpand | ⟨rules, hrules, htable⟩⟩
  · cases hfault
  · cases hfault
  · cases hfault
  · obtain ⟨v, target, -, -, -, hfault⟩ := exists_include_of_expand hexpand
    cases hfault
  · obtain ⟨rfl, hblames⟩ := tableOf_eq_invalidPattern htable
    exact ⟨s, hs, rfl, rules, hrules, hblames⟩

/-- An expression that is accepted alone is the same expression in a group that counts lines as
under the flag that counts them, unless it ends in a comment or is as deep as can be. In either case
it cannot be read in the group. So once the rules of a state are accepted, there is a table for them
just if there is no such expression and the engine has room for all patterns. Any other expression
at fault is reported for its own rule, and for its own cause. -/
theorem combines_unless_endsInComment (d : Declaration) (host : Host) (start : Option String)
    (stateful : Bool) (config : Config) :
    (∀ source r, Regex.parse host.names source = .ok r →
      ∃ s, Regex.parseWith { multiLine := true, names := host.names } source = .ok s ∧
        (Regex.endsInComment host.names source = false →
          Regex.depth host.names source < Regex.maxDepth →
          Regex.parse host.names (Regex.inLines source) = .ok s ∧ ∀ before ahead,
            Regex.sourceMatch? host.names (Regex.inLines source) before ahead =
              s.matchLength? before ahead) ∧
        (Regex.endsInComment host.names source = true →
          Regex.parse host.names (Regex.inLines source) = .error .groupUnclosed) ∧
        (Regex.endsInComment host.names source = false →
          Regex.maxDepth ≤ Regex.depth host.names source →
          Regex.parse host.names (Regex.inLines source) = .error .nestedTooDeeply)) ∧
    (∀ state rules draft,
      rules.foldlM (Draft.addRule ⟨d, host, stateful, config⟩ state)
        { quickOpen := config.quickLookup } = .ok draft →
      ((∃ built, tableOf ⟨d, host, stateful, config⟩ state rules = .ok built) ↔
        (∀ named ∈ rules, ∀ source, named.2.pattern = .regex source →
          Regex.endsInComment host.names source.toList = false ∧
            Regex.depth host.names source.toList < Regex.maxDepth) ∧
        host.HasRoom (sourcesOf config.quickLookup rules)) ∧
      ∀ fault, tableOf ⟨d, host, stateful, config⟩ state rules = .error fault ↔
        ∃ cause, groupsFault? ⟨d, host, stateful, config⟩ rules = some cause ∧
          fault = .invalidPattern state Fault.allRules cause) ∧
    ∀ state name cause,
      d.compile host start stateful config = .error (.invalidPattern state name cause) →
      ∃ s ∈ d, s.name = state ∧ ∃ rules, d.expand s = .ok rules ∧
        Blames ⟨d, host, stateful, config⟩ state rules name cause := by
  refine ⟨?_, ?_, fun _ _ _ => compile_eq_invalidPattern⟩
  · intro source r hr
    obtain ⟨s, hs, hinside⟩ := Regex.parse_inLines_eq hr
    refine ⟨s, hs, ?_, ?_, ?_⟩
    · intro hends hdepth
      rw [hends, if_neg Bool.false_ne_true, if_pos hdepth] at hinside
      refine ⟨hinside, ?_⟩
      intro before ahead
      rw [Regex.sourceMatch?, hinside]
    · intro hends
      rw [hinside, hends, if_pos rfl]
    · intro hends hdepth
      rw [hinside, hends, if_neg Bool.false_ne_true, if_neg (Nat.not_lt.mpr hdepth)]
  · intro state rules draft hdraft
    refine ⟨?_, tableOf_eq_error_iff hdraft⟩
    rw [exists_tableOf_iff hdraft]
    exact groupsFault?_eq_none_iff

def verboseSample (source : String) : Declaration :=
  [⟨"start", [.rule "ab" { pattern := .regex source }]⟩]

/-- An expression that is accepted alone ends in a comment. With all patterns of the state it cannot
be read, and no rule is named. -/
theorem exists_hidden_end_verboseSample :
    (∃ r, Regex.parse Host.standard.names "(?x)a b # c".toList = .ok r) ∧
      Regex.parse Host.standard.names (Regex.inLines "(?x)a b # c".toList) = .error .groupUnclosed ∧
      (verboseSample "(?x)a b # c").compile .standard none false {} =
        .error (.invalidPattern "start" "*" .groupUnclosed) := by
  refine ⟨isOk_iff.mp ?_, error?_eq_some.mp ?_, error?_eq_some.mp ?_⟩
  all_goals decide +kernel

/-- With a line break at its end the comment hides nothing. Without one, the fault is for all
rules. -/
theorem combines_unless_endsInComment_verboseSample :
    (∃ s, Regex.parseWith { multiLine := true, names := Host.standard.names }
        "(?x)a b # c\n".toList = .ok s ∧
      Regex.parse Host.standard.names (Regex.inLines "(?x)a b # c\n".toList) = .ok s) ∧
    (∃ built, tableOf ⟨verboseSample "a|b", .standard, false, {}⟩ "start"
      [("ab", { pattern := .regex "a|b" })] = .ok built) ∧
    ∃ s ∈ verboseSample "(?x)a b # c", s.name = "start" ∧ ∃ rules,
      (verboseSample "(?x)a b # c").expand s = .ok rules ∧
        Blames ⟨verboseSample "(?x)a b # c", .standard, false, {}⟩ "start" rules "*"
          .groupUnclosed := by
  obtain ⟨halone, htable, -⟩ :=
    combines_unless_endsInComment (verboseSample "a|b") .standard none false {}
  obtain ⟨-, -, hblames⟩ :=
    combines_unless_endsInComment (verboseSample "(?x)a b # c") .standard none false {}
  refine ⟨?_, ?_, ?_⟩
  · obtain ⟨r, hr⟩ : ∃ r, Regex.parse Host.standard.names "(?x)a b # c\n".toList = .ok r :=
      isOk_iff.mp (by decide +kernel)
    obtain ⟨s, hs, hinside, -⟩ := halone _ r hr
    exact ⟨s, hs, (hinside (by decide +kernel) (by decide +kernel)).1⟩
  · obtain ⟨draft, hdraft⟩ : ∃ draft, [("ab", ({ pattern := .regex "a|b" } : Rule))].foldlM
        (Draft.addRule ⟨verboseSample "a|b", .standard, false, {}⟩ "start") { quickOpen := true } =
          .ok draft := isOk_iff.mp (by decide +kernel)
    refine (htable _ _ draft hdraft).1.mpr ⟨?_, by decide +kernel⟩
    intro named hnamed source hsource
    cases List.mem_singleton.mp hnamed
    cases hsource
    exact ⟨by decide +kernel, by decide +kernel⟩
  · exact hblames _ _ _ (error?_eq_some.mp (by decide +kernel))

end Declaration

end Lexing
