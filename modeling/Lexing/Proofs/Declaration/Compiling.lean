import Lexing.Machine.Compile
import Lexing.Proofs.Steps

/-!
# What compiling gives

A declaration compiles if each of its states does, and a state compiles if its rules can be added to
the draft of its table one after another. The lemmas here say what has been checked and what has
been added when such a step succeeds, so that nothing else has to look at how the steps are written.
-/

namespace Lexing

namespace Pattern

/-- The text of the expression for what the pattern matches. Recovery rules have none. -/
def source? : Pattern → Option (List Char)
  | literals texts => some (Regex.literalChoice (texts.map (·.toList)))
  | regex source => some (Regex.inLines source.toList)
  | fallback | collector => none

/-- The way in which a recovery rule with the given action goes on. -/
def recovery? (action : Nat) : Pattern → Option Recovery
  | fallback => some (.oneCharacter action)
  | collector => some (.untilMatch action)
  | literals _ | regex _ => none

/-- What the pattern matches is judged to hold line breaks, for some match. -/
def mayBreakLine (names : Unicode.Names) : Pattern → Bool
  | literals texts => texts.any (·.toList.contains '\n')
  | regex source =>
    match Regex.parse names source.toList with
    | .ok r => r.mayBreakLine
    | .error _ => false
  | fallback | collector => false

/-- The pattern leaves quick look-up open to the rules after it. -/
def staysQuick : Pattern → Bool
  | literals texts => (texts.mapM Declaration.onlyChar?).isSome
  | regex _ => false
  | fallback | collector => true

/-- What a pattern must satisfy for its rule to be accepted. -/
def Admissible (names : Unicode.Names) : Pattern → Prop
  | literals texts => texts ≠ [] ∧ ∀ text ∈ texts, text.isEmpty = false
  | regex source => ∃ r, Regex.parse names source.toList = .ok r ∧ r.minLength ≠ some 0
  | fallback | collector => True

theorem source?_of_recovers {p : Pattern} (h : p.recovers = true) : p.source? = none := by
  cases p with
  | literals | regex => cases h
  | fallback | collector => rfl

theorem staysQuick_of_recovers {p : Pattern} (h : p.recovers = true) : p.staysQuick = true := by
  cases p with
  | literals | regex => cases h
  | fallback | collector => rfl

theorem exists_source? {p : Pattern} (h : p.recovers = false) :
    ∃ source, p.source? = some source := by
  cases p with
  | literals | regex => exact ⟨_, rfl⟩
  | fallback | collector => cases h

theorem recovers_of_recovery? {p : Pattern} {action : Nat} {recovery : Recovery}
    (h : p.recovery? action = some recovery) : p.recovers = true := by
  cases p with
  | literals | regex => cases h
  | fallback | collector => rfl

end Pattern

namespace Regex

/-- The cause for which the first of some patterns cannot be read, if there is one. -/
def firstFault? (names : Unicode.Names) (sources : List (List Char)) : Option SyntaxError :=
  sources.findSome? fun source => error? (parse names source)

variable {names : Unicode.Names}

theorem firstFault?_append (sources more : List (List Char)) :
    firstFault? names (sources ++ more) =
      (firstFault? names sources).or (firstFault? names more) :=
  List.findSome?_append

theorem firstFault?_eq_none_iff {sources : List (List Char)} :
    firstFault? names sources = none ↔ ∀ source ∈ sources, ∃ r, parse names source = .ok r := by
  rw [firstFault?, List.findSome?_eq_none_iff]
  refine forall₂_congr fun source _ => ?_
  cases parse names source with
  | error e => exact iff_of_false (fun h => nomatch h) (fun ⟨_, h⟩ => nomatch h)
  | ok r => exact iff_of_true rfl ⟨r, rfl⟩

end Regex

namespace Host

/-- Whether the engine has room is asked only if there are patterns. -/
def HasRoom (host : Host) (sources : List (List Char)) : Prop :=
  sources ≠ [] → host.fits sources = true

instance (host : Host) (sources : List (List Char)) : Decidable (host.HasRoom sources) :=
  inferInstanceAs (Decidable (_ → _))

/-- The patterns build together. -/
structure Builds (host : Host) (sources : List (List Char)) : Prop where
  reads : ∀ source ∈ sources, ∃ r, Regex.parse host.names source = .ok r
  room : host.HasRoom sources

/-- The cause for which patterns do not build together. Each is read before the engine is asked
whether it has room for all. -/
def buildFault? (host : Host) (sources : List (List Char)) : Option Regex.SyntaxError :=
  (Regex.firstFault? host.names sources).or (if host.HasRoom sources then none else some .tooLarge)

theorem buildFault?_eq_none_iff {host : Host} {sources : List (List Char)} :
    host.buildFault? sources = none ↔ host.Builds sources := by
  rw [buildFault?, Option.or_eq_none_iff, Regex.firstFault?_eq_none_iff]
  constructor
  · rintro ⟨hreads, hroom⟩
    refine ⟨hreads, ?_⟩
    by_contra hfull
    rw [if_neg hfull] at hroom
    cases hroom
  · rintro ⟨hreads, hroom⟩
    exact ⟨hreads, if_pos hroom⟩

/-- Patterns that do not build together include one that cannot be read, or there is no room. -/
theorem buildFault?_eq_some {host : Host} {sources : List (List Char)} {cause : Regex.SyntaxError}
    (h : host.buildFault? sources = some cause) :
    (∃ source ∈ sources, Regex.parse host.names source = .error cause) ∨
      cause = .tooLarge ∧ ¬ host.HasRoom sources := by
  rcases Option.or_eq_some_iff.mp h with hread | ⟨-, hfull⟩
  · obtain ⟨source, hsource, hcause⟩ := List.exists_of_findSome?_eq_some hread
    exact .inl ⟨source, hsource, error?_eq_some.mp hcause⟩
  · split at hfull
    next => cases hfull
    next hroom => exact .inr ⟨(Option.some.inj hfull).symm, hroom⟩

end Host

namespace Declaration

/-- The texts of the patterns of a state with the given rules. -/
def sourcesOf (quickLookup : Bool) (rules : List NamedRule) : List (List Char) :=
  (if quickLookup then rules.dropWhile (·.2.pattern.staysQuick) else rules).filterMap
    (·.2.pattern.source?)

theorem sourcesOf_congr {R : NamedRule → NamedRule → Prop}
    (hsource : ∀ x y, R x y → y.2.pattern.source? = x.2.pattern.source?)
    (hquick : ∀ x y, R x y → y.2.pattern.staysQuick = x.2.pattern.staysQuick)
    {rules rules' : List NamedRule} (h : List.Forall₂ R rules rules') (quickLookup : Bool) :
    sourcesOf quickLookup rules' = sourcesOf quickLookup rules := by
  have hall {rules rules' : List NamedRule} (h : List.Forall₂ R rules rules') :
      rules'.filterMap (·.2.pattern.source?) = rules.filterMap (·.2.pattern.source?) := by
    induction h with
    | nil => rfl
    | cons hx _ ih => rw [List.filterMap_cons, List.filterMap_cons, hsource _ _ hx, ih]
  cases quickLookup with
  | false => exact hall h
  | true =>
      rw [sourcesOf, sourcesOf, if_pos rfl, if_pos rfl]
      induction h with
      | nil => rfl
      | cons hx hrest ih =>
          rw [List.dropWhile_cons, List.dropWhile_cons, hquick _ _ hx]
          split
          next => exact ih
          next => exact hall (.cons hx hrest)

/-- One more rule has one more pattern, unless it is the last of those that need none. -/
theorem sourcesOf_append_singleton (quickLookup : Bool) (rules : List NamedRule)
    (named : NamedRule) :
    sourcesOf quickLookup (rules ++ [named]) = sourcesOf quickLookup rules ++
      if quickLookup && (rules ++ [named]).all (·.2.pattern.staysQuick) then []
      else named.2.pattern.source?.toList := by
  have hlast : [named].filterMap (·.2.pattern.source?) = named.2.pattern.source?.toList := by
    rw [List.filterMap_cons]
    cases named.2.pattern.source? <;> rfl
  cases quickLookup with
  | false => simp [sourcesOf, hlast]
  | true =>
      rw [sourcesOf, sourcesOf, if_pos rfl, if_pos rfl, Bool.true_and]
      induction rules with
      | nil =>
          rw [List.nil_append, List.dropWhile_nil, List.filterMap_nil, List.nil_append]
          cases hquick : named.2.pattern.staysQuick <;> simp [hquick, hlast]
      | cons rule rest ih =>
          rw [List.cons_append, List.all_cons]
          cases hquick : rule.2.pattern.staysQuick with
          | true => simpa only [List.dropWhile_cons, hquick, if_true, Bool.true_and] using ih
          | false =>
              simp only [List.dropWhile_cons, hquick, Bool.false_and, Bool.false_eq_true, if_false]
              rw [← List.cons_append, List.filterMap_append, hlast]

def actionOf (name : String) (rule : Rule) (transition : Option Transition) : Action where
  name := name
  kind := rule.kind
  value := rule.value
  lineBreaks := rule.lineBreaks || rule.pattern.recovers
  isError := rule.isError || rule.pattern = .collector
  transition := transition

namespace Draft

/-- A pattern has been added to a draft, apart from its action and its warnings. -/
inductive Adds (draft : Draft) : Pattern → Draft → Prop
  | quick {texts : List String} {chars : List Char} (isOpen : draft.quickOpen = true)
      (single : texts.mapM onlyChar? = some chars) :
      Adds draft (.literals texts)
        { draft with quick := draft.quick ++ chars.map (·, draft.nextAction) }
  | source {pattern : Pattern} {source : List Char} (isSource : pattern.source? = some source)
      (isNeeded : draft.quickOpen = true → pattern.staysQuick = false) :
      Adds draft pattern (draft.addSource source)
  | recovery {pattern : Pattern} {recovery : Recovery} (isFirst : draft.recovery = none)
      (isRecovery : pattern.recovery? draft.nextAction = some recovery) :
      Adds draft pattern { draft with recovery := some recovery }

/-- A rule with its change of state, its warnings and what it adds is accepted into a draft. -/
structure Accepts (ctx : Context) (state : String) (draft : Draft) (named : NamedRule)
    (transition : Option Transition) (warnings : List Warning) (added : Draft) : Prop where
  moves : transitionOf ctx state named.1 named.2 = .ok transition
  admissible : named.2.pattern.Admissible ctx.host.names
  warns : lineBreakWarnings ctx state named.1 named.2
    (named.2.pattern.mayBreakLine ctx.host.names) = .ok warnings
  adds : draft.Adds named.2.pattern added
  stays : named.2.pattern.recovers = true → transition = none

variable {ctx : Context} {state name : String} {draft draft' : Draft} {rule : Rule}
  {named : NamedRule}

theorem addWarnings_nil (draft : Draft) : draft.addWarnings [] = draft := by
  simp [addWarnings]

theorem lineBreakWarnings_false : lineBreakWarnings ctx state name rule false = .ok [] := by
  simp [lineBreakWarnings]

theorem addLiterals_eq_ok {texts : List String}
    (h : draft.addLiterals ctx state name rule texts = .ok draft') :
    (Pattern.literals texts).Admissible ctx.host.names ∧ ∃ warnings added,
      lineBreakWarnings ctx state name rule
        ((Pattern.literals texts).mayBreakLine ctx.host.names) = .ok warnings ∧
      draft.Adds (.literals texts) added ∧ draft' = added.addWarnings warnings := by
  rw [addLiterals] at h
  dsimp only at h
  split at h
  next => cases h
  next hne =>
    split at h
    next => cases h
    next hempty =>
      obtain ⟨warnings, hwarnings, h⟩ := bind_eq_ok_iff.mp h
      have hfull : ∀ text ∈ texts, text.isEmpty = false := by
        simpa only [List.any_eq_true, not_exists, not_and, Bool.not_eq_true] using hempty
      refine ⟨⟨by simpa using hne, hfull⟩, warnings, ?_⟩
      split at h
      next chars hopen hchars =>
        obtain rfl := pure_eq_ok_iff.mp h
        exact ⟨_, hwarnings, .quick hopen hchars, rfl⟩
      next hneeded =>
        obtain rfl := pure_eq_ok_iff.mp h
        refine ⟨_, hwarnings, .source rfl ?_, rfl⟩
        intro hopen
        cases hchars : texts.mapM onlyChar? with
        | some chars => exact (hneeded chars hopen hchars).elim
        | none => rw [Pattern.staysQuick, hchars, Option.isSome_none]

theorem addRegex_eq_ok {source : String}
    (h : draft.addRegex ctx state name rule source = .ok draft') :
    (Pattern.regex source).Admissible ctx.host.names ∧ ∃ warnings added,
      lineBreakWarnings ctx state name rule
        ((Pattern.regex source).mayBreakLine ctx.host.names) = .ok warnings ∧
      draft.Adds (.regex source) added ∧ draft' = added.addWarnings warnings := by
  rw [addRegex] at h
  split at h
  next => cases h
  next r hr =>
    split at h
    next => cases h
    next hmin =>
      obtain ⟨warnings, hwarnings, h⟩ := bind_eq_ok_iff.mp h
      obtain rfl := pure_eq_ok_iff.mp h
      refine ⟨⟨r, hr, hmin⟩, warnings, _, ?_, .source rfl fun _ => rfl, rfl⟩
      rw [Pattern.mayBreakLine, hr]
      exact hwarnings

theorem addRecovery_eq_ok (pattern : Pattern) {transition : Option Transition}
    {recovery : Nat → Recovery}
    (hrecovery : pattern.recovery? draft.nextAction = some (recovery draft.nextAction))
    (h : draft.addRecovery state name transition recovery = .ok draft') :
    transition = none ∧ draft.Adds pattern draft' := by
  rw [addRecovery] at h
  split at h
  next => cases h
  next hsome =>
    split at h
    next => cases h
    next hfirst =>
      obtain rfl := Except.ok.inj h
      exact ⟨by simpa using hsome, .recovery hfirst hrecovery⟩

theorem actions_of_adds {pattern : Pattern} (h : draft.Adds pattern draft') :
    draft'.actions = draft.actions := by
  cases h <;> rfl

theorem warnings_of_adds {pattern : Pattern} (h : draft.Adds pattern draft') :
    draft'.warnings = draft.warnings := by
  cases h <;> rfl

/-- Adding a rule succeeds only if the rule is accepted. Then its action comes last. -/
theorem addRule_eq_ok (h : draft.addRule ctx state named = .ok draft') :
    ∃ transition warnings added, Accepts ctx state draft named transition warnings added ∧
      draft' = { added with
        actions := draft.actions ++ [actionOf named.1 named.2 transition]
        warnings := draft.warnings ++ warnings } := by
  obtain ⟨name, rule⟩ := named
  rw [addRule] at h
  obtain ⟨transition, hmoves, h⟩ := bind_eq_ok_iff.mp h
  -- The rest of the step is the same for all patterns.
  have done {added : Draft} {warnings : List Warning}
      (hadmissible : rule.pattern.Admissible ctx.host.names)
      (hwarns : lineBreakWarnings ctx state name rule
        (rule.pattern.mayBreakLine ctx.host.names) = .ok warnings)
      (hadds : draft.Adds rule.pattern added)
      (hstays : rule.pattern.recovers = true → transition = none)
      (h : draft' = { added.addWarnings warnings with
        actions := added.actions ++ [actionOf name rule transition] }) :
      ∃ transition warnings added, Accepts ctx state draft (name, rule) transition warnings added ∧
        draft' = { added with
          actions := draft.actions ++ [actionOf name rule transition]
          warnings := draft.warnings ++ warnings } := by
    refine ⟨transition, warnings, added, ⟨hmoves, hadmissible, hwarns, hadds, hstays⟩, ?_⟩
    rw [h, actions_of_adds hadds, ← warnings_of_adds hadds]
    rfl
  dsimp only at h
  cases hpattern : rule.pattern with
  | fallback | collector =>
      rw [hpattern] at h
      obtain ⟨added, hadded, h⟩ := bind_eq_ok_iff.mp h
      obtain ⟨hnone, hadds⟩ := addRecovery_eq_ok rule.pattern (hpattern ▸ rfl) hadded
      rw [hpattern] at hadds done
      refine done trivial lineBreakWarnings_false hadds (fun _ => hnone) ?_
      rw [addWarnings_nil, actionOf, hpattern]
      exact (pure_eq_ok_iff.mp h).symm
  | literals texts =>
      rw [hpattern] at h done
      obtain ⟨added, hadded, h⟩ := bind_eq_ok_iff.mp h
      obtain ⟨hadmissible, warnings, added, hwarns, hadds, rfl⟩ := addLiterals_eq_ok hadded
      refine done hadmissible hwarns hadds (fun hrecovers => nomatch hrecovers) ?_
      rw [actionOf, hpattern]
      exact (pure_eq_ok_iff.mp h).symm
  | regex source =>
      rw [hpattern] at h done
      obtain ⟨added, hadded, h⟩ := bind_eq_ok_iff.mp h
      obtain ⟨hadmissible, warnings, added, hwarns, hadds, rfl⟩ := addRegex_eq_ok hadded
      refine done hadmissible hwarns hadds (fun hrecovers => nomatch hrecovers) ?_
      rw [actionOf, hpattern]
      exact (pure_eq_ok_iff.mp h).symm

/-- What holds of the empty draft, and of a draft with one more rule whenever the rule is accepted,
holds of the draft with all rules. -/
theorem addRules_invariant (inv : List NamedRule → Draft → Prop) {rules : List NamedRule}
    (h : rules.foldlM (addRule ctx state) draft = .ok draft') (start : inv [] draft)
    (step : ∀ {done named draft transition warnings added}, inv done draft →
      Accepts ctx state draft named transition warnings added →
      inv (done ++ [named]) { added with
        actions := draft.actions ++ [actionOf named.1 named.2 transition]
        warnings := draft.warnings ++ warnings }) : inv rules draft' := by
  apply foldlM_invariant inv h start
  intro done named draft draft' hinv hstep
  obtain ⟨transition, warnings, added, haccepts, rfl⟩ := addRule_eq_ok hstep
  exact step hinv haccepts

/-- An action stands for a rule that has been checked, and whose warnings have been kept. -/
structure Checked (ctx : Context) (state : String) (warnings : List Warning) (named : NamedRule)
    (action : Action) : Prop where
  admissible : named.2.pattern.Admissible ctx.host.names
  warns : ∃ found, found ⊆ warnings ∧
    lineBreakWarnings ctx state named.1 named.2
      (named.2.pattern.mayBreakLine ctx.host.names) = .ok found
  stands : ∃ transition, transitionOf ctx state named.1 named.2 = .ok transition ∧
    action = actionOf named.1 named.2 transition

theorem Checked.mono {warnings more : List Warning} {action : Action}
    (h : Checked ctx state warnings named action) (hsubset : warnings ⊆ more) :
    Checked ctx state more named action := by
  obtain ⟨found, hfound, hwarns⟩ := h.warns
  exact { h with warns := ⟨found, List.Subset.trans hfound hsubset, hwarns⟩ }

/-- The actions of a finished draft stand for its rules, one by one. -/
theorem checked_of_addRules {rules : List NamedRule} {quickOpen : Bool}
    (h : rules.foldlM (addRule ctx state) { quickOpen } = .ok draft) :
    List.Forall₂ (Checked ctx state draft.warnings) rules draft.actions := by
  refine addRules_invariant
    (fun rules draft => List.Forall₂ (Checked ctx state draft.warnings) rules draft.actions)
    h .nil ?_
  intro done named draft transition warnings added hinv haccepts
  have hnew : Checked ctx state (draft.warnings ++ warnings) named
      (actionOf named.1 named.2 transition) :=
    ⟨haccepts.admissible, ⟨warnings, List.subset_append_right _ _, haccepts.warns⟩,
      ⟨transition, haccepts.moves, rfl⟩⟩
  apply List.rel_append _ (.cons hnew .nil)
  apply hinv.imp
  intro _ _ hchecked
  exact hchecked.mono (List.subset_append_left _ _)

/-- The texts of the patterns, without the actions for them. -/
def texts (draft : Draft) : List (List Char) := draft.sources.map (·.2)

/-- The patterns of a finished draft are those of its rules from the first one on that needs one. -/
theorem texts_of_addRules {rules : List NamedRule} {quickOpen : Bool}
    (h : rules.foldlM (addRule ctx state) { quickOpen } = .ok draft) :
    draft.texts = sourcesOf quickOpen rules := by
  refine (addRules_invariant (fun rules draft => draft.texts = sourcesOf quickOpen rules ∧
    draft.quickOpen = (quickOpen && rules.all (·.2.pattern.staysQuick))) h ⟨?_, ?_⟩ ?_).1
  · cases quickOpen <;> rfl
  · rw [List.all_nil, Bool.and_true]
  · rintro done named draft transition warnings added ⟨htexts, hopen⟩ haccepts
    have hadds := haccepts.adds
    dsimp only
    rw [sourcesOf_append_singleton, List.all_append, List.all_cons, List.all_nil, Bool.and_true,
      ← Bool.and_assoc, ← hopen, ← htexts]
    generalize named.2.pattern = pattern at hadds ⊢
    cases hadds with
    | quick isOpen single =>
        have hquick : (Pattern.literals _).staysQuick = true := Option.isSome_of_mem single
        rw [isOpen, hquick]
        exact ⟨(List.append_nil _).symm, rfl⟩
    | source isSource isNeeded =>
        have hneeded : (draft.quickOpen && pattern.staysQuick) = false := by
          cases hopen : draft.quickOpen with
          | true => exact isNeeded hopen
          | false => rfl
        rw [hneeded, isSource]
        exact ⟨List.map_append, rfl⟩
    | recovery _ isRecovery =>
        have hquick := Pattern.staysQuick_of_recovers (Pattern.recovers_of_recovery? isRecovery)
        have hnone := Pattern.source?_of_recovers (Pattern.recovers_of_recovery? isRecovery)
        rw [hnone, hquick, Bool.and_true]
        refine ⟨?_, rfl⟩
        split <;> exact (List.append_nil _).symm

theorem readPatterns_eq_ok {patterns : List (Nat × Regex)}
    (h : draft.readPatterns ctx state = .ok patterns) :
    List.Forall₂ (fun source pattern => pattern.1 = source.1 ∧
      Regex.parse ctx.host.names source.2 = .ok pattern.2) draft.sources patterns := by
  rw [readPatterns] at h
  obtain ⟨found, hfound, h⟩ := bind_eq_ok_iff.mp h
  dsimp only at h
  split at h
  next => cases h
  next =>
    obtain rfl := pure_eq_ok_iff.mp h
    refine (mapM_eq_ok_iff.mp hfound).imp ?_
    rintro ⟨action, source⟩ pattern hpattern
    rw [readPattern] at hpattern
    split at hpattern
    next r hr =>
      obtain rfl := Except.ok.inj hpattern
      exact ⟨rfl, hr⟩
    next => cases hpattern

/-- If the patterns do not build together, then this is the fault of all rules. -/
theorem error?_readPatterns (ctx : Context) (state : String) (draft : Draft) :
    error? (draft.readPatterns ctx state) =
      (ctx.host.buildFault? draft.texts).map (.invalidPattern state Fault.allRules) := by
  have hread : error? (draft.sources.mapM (readPattern ctx state)) =
      (Regex.firstFault? ctx.host.names draft.texts).map
        (.invalidPattern state Fault.allRules) := by
    rw [error?_mapM, Regex.firstFault?, texts, List.findSome?_map, List.map_findSome?]
    congr 1
    funext ⟨action, source⟩
    dsimp only [Function.comp_apply, readPattern]
    cases Regex.parse ctx.host.names source <;> rfl
  have hroom : (!draft.sources.isEmpty && !ctx.host.fits (draft.sources.map (·.2))) = true ↔
      ¬ ctx.host.HasRoom draft.texts := by
    simp [Host.HasRoom, texts]
  rw [Host.buildFault?, Option.map_or, ← hread, readPatterns]
  generalize draft.sources.mapM (readPattern ctx state) = read
  cases read with
  | error fault => rfl
  | ok patterns =>
      rw [ok_bind]
      dsimp only
      by_cases hfits : ctx.host.HasRoom draft.texts
      · rw [if_neg (mt hroom.mp (not_not_intro hfits)), if_pos hfits]
        rfl
      · rw [if_pos (hroom.mpr hfits), if_neg hfits]
        rfl

end Draft

/-- A table is a finished draft whose patterns could be read. -/
theorem tableOf_eq_ok {ctx : Context} {state : String} {rules : List NamedRule} {t : StateTable}
    {warnings : List Warning} (h : tableOf ctx state rules = .ok (t, warnings)) :
    ∃ draft : Draft,
      rules.foldlM (Draft.addRule ctx state) { quickOpen := ctx.config.quickLookup } = .ok draft ∧
      draft.readPatterns ctx state = .ok t.patterns ∧ draft.warnings = warnings ∧
      t.name = state ∧ t.actions = draft.actions ∧ t.quick = draft.quick ∧
      t.recovery = draft.recovery := by
  rw [tableOf] at h
  obtain ⟨draft, hdraft, h⟩ := bind_eq_ok_iff.mp h
  obtain ⟨patterns, hpatterns, h⟩ := bind_eq_ok_iff.mp h
  obtain ⟨rfl, rfl⟩ := Prod.mk.inj (pure_eq_ok_iff.mp h)
  exact ⟨draft, hdraft, hpatterns, rfl, rfl, rfl, rfl, rfl⟩

/-- Once the rules of a state are accepted, there is a table just if their patterns build
together. -/
theorem error?_tableOf {ctx : Context} {state : String} {rules : List NamedRule} {draft : Draft}
    (h : rules.foldlM (Draft.addRule ctx state) { quickOpen := ctx.config.quickLookup } =
      .ok draft) :
    error? (tableOf ctx state rules) =
      (ctx.host.buildFault? (sourcesOf ctx.config.quickLookup rules)).map
        (.invalidPattern state Fault.allRules) := by
  rw [← Draft.texts_of_addRules h, ← Draft.error?_readPatterns, tableOf, h, ok_bind]
  cases draft.readPatterns ctx state <;> rfl

/-- If there is no table, then some rule is refused after those before it, or all are accepted and
their patterns do not build together. -/
theorem tableOf_eq_error {ctx : Context} {state : String} {rules : List NamedRule} {fault : Fault}
    (h : tableOf ctx state rules = .error fault) :
    (∃ done named rest draft, rules = done ++ named :: rest ∧
      done.foldlM (Draft.addRule ctx state) { quickOpen := ctx.config.quickLookup } = .ok draft ∧
      draft.addRule ctx state named = .error fault) ∨
    ∃ draft cause,
      rules.foldlM (Draft.addRule ctx state) { quickOpen := ctx.config.quickLookup } = .ok draft ∧
      ctx.host.buildFault? (sourcesOf ctx.config.quickLookup rules) = some cause ∧
      fault = .invalidPattern state Fault.allRules cause := by
  cases hadd : rules.foldlM (Draft.addRule ctx state)
    { quickOpen := ctx.config.quickLookup } with
  | error cause =>
      rw [tableOf, hadd] at h
      obtain rfl : cause = fault := Except.error.inj h
      exact .inl (exists_of_foldlM_eq_error hadd)
  | ok draft =>
      have hfault := error?_tableOf hadd
      rw [h] at hfault
      obtain ⟨cause, hcause, rfl⟩ := Option.map_eq_some_iff.mp hfault.symm
      exact .inr ⟨draft, cause, rfl, hcause, rfl⟩

/-- The patterns of a table build together. -/
theorem builds_of_tableOf {ctx : Context} {state : String} {rules : List NamedRule}
    {t : StateTable} {warnings : List Warning} (h : tableOf ctx state rules = .ok (t, warnings)) :
    ctx.host.Builds (sourcesOf ctx.config.quickLookup rules) := by
  obtain ⟨draft, hdraft, -⟩ := tableOf_eq_ok h
  have hfault := error?_tableOf hdraft
  rw [h] at hfault
  exact Host.buildFault?_eq_none_iff.mp (Option.map_eq_none_iff.mp hfault.symm)

/-- The actions of a table stand for its rules, one by one. -/
theorem checked_of_tableOf {ctx : Context} {state : String} {rules : List NamedRule}
    {t : StateTable} {warnings : List Warning} (h : tableOf ctx state rules = .ok (t, warnings)) :
    List.Forall₂ (Draft.Checked ctx state warnings) rules t.actions := by
  obtain ⟨draft, hdraft, -, hwarnings, -, hactions, -⟩ := tableOf_eq_ok h
  rw [← hwarnings, hactions]
  exact Draft.checked_of_addRules hdraft

/-- A declaration that compiles has states with names of their own, the start among them, and each
state has a table. -/
theorem compile_eq_ok {d : Declaration} {host : Host} {start : Option String} {stateful : Bool}
    {config : Config} {m : Machine} (h : d.compile host start stateful config = .ok m) :
    d ≠ [] ∧ firstRepeated [] (d.map (·.name)) = none ∧ startOf d start = .ok m.start ∧
      ∃ tables : List (StateTable × List Warning),
        List.Forall₂ (fun s table => ∃ rules, d.expand s = .ok rules ∧
          tableOf ⟨d, host, stateful, config⟩ s.name rules = .ok table) d tables ∧
        m.states = tables.map (·.1) ∧ m.warnings = tables.flatMap (·.2) ∧ m.config = config ∧
        m.overflow = host.overflow := by
  rw [compile] at h
  dsimp only at h
  split at h
  next => cases h
  next hne =>
    split at h
    next => cases h
    next hnames =>
      obtain ⟨first, hstart, h⟩ := bind_eq_ok_iff.mp h
      obtain ⟨tables, htables, h⟩ := bind_eq_ok_iff.mp h
      obtain rfl := pure_eq_ok_iff.mp h
      refine ⟨by simpa using hne, Option.eq_none_iff_forall_ne_some.mpr hnames, hstart, tables, ?_,
        rfl, rfl, rfl, rfl⟩
      apply (mapM_eq_ok_iff.mp htables).imp
      intro s table htable
      exact bind_eq_ok_iff.mp htable

/-- If a declaration does not compile, then its states or its start are at fault, or the list or the
table of some state. -/
theorem compile_eq_error {d : Declaration} {host : Host} {start : Option String} {stateful : Bool}
    {config : Config} {fault : Fault} (h : d.compile host start stateful config = .error fault) :
    (d = [] ∧ fault = .noStates) ∨
    (∃ name, firstRepeated [] (d.map (·.name)) = some name ∧ fault = .duplicateState name) ∨
    (∃ name, start = some name ∧ d.stateId? name = none ∧ fault = .missingStart name) ∨
    ∃ s ∈ d, d.expand s = .error fault ∨
      ∃ rules, d.expand s = .ok rules ∧
        tableOf ⟨d, host, stateful, config⟩ s.name rules = .error fault := by
  rw [compile] at h
  dsimp only at h
  split at h
  next hempty => exact .inl ⟨List.isEmpty_iff.mp hempty, (Except.error.inj h).symm⟩
  next =>
    split at h
    next name hname => exact .inr (.inl ⟨name, hname, (Except.error.inj h).symm⟩)
    next =>
      rcases bind_eq_error_iff.mp h with hstart | ⟨id, -, h⟩
      · rw [startOf.eq_def] at hstart
        split at hstart
        next => cases hstart
        next name =>
          split at hstart
          next => cases hstart
          next hnone =>
            exact .inr (.inr (.inl ⟨name, rfl, hnone, (Except.error.inj hstart).symm⟩))
      · rcases bind_eq_error_iff.mp h with htables | ⟨tables, -, h⟩
        · obtain ⟨s, hs, hbuilt⟩ := exists_of_mapM_eq_error htables
          exact .inr (.inr (.inr ⟨s, hs, bind_eq_error_iff.mp hbuilt⟩))
        · cases h

theorem config_of_compile {d : Declaration} {host : Host} {start : Option String} {stateful : Bool}
    {config : Config} {m : Machine} (h : d.compile host start stateful config = .ok m) :
    m.config = config := by
  obtain ⟨-, -, -, -, -, -, -, hconfig, -⟩ := compile_eq_ok h
  exact hconfig

theorem overflow_of_compile {d : Declaration} {host : Host} {start : Option String}
    {stateful : Bool} {config : Config} {m : Machine}
    (h : d.compile host start stateful config = .ok m) : m.overflow = host.overflow := by
  obtain ⟨-, -, -, -, -, -, -, -, hoverflow⟩ := compile_eq_ok h
  exact hoverflow

/-- Each state of a machine has the table of the declared state in its place, and its warnings are
among those of the machine. -/
theorem exists_tableOf {d : Declaration} {host : Host} {start : Option String} {stateful : Bool}
    {config : Config} {m : Machine} (h : d.compile host start stateful config = .ok m) {k : Nat}
    {t : StateTable} (hk : m.states[k]? = some t) :
    ∃ s rules warnings, d[k]? = some s ∧ d.expand s = .ok rules ∧
      tableOf ⟨d, host, stateful, config⟩ s.name rules = .ok (t, warnings) ∧
      warnings ⊆ m.warnings := by
  obtain ⟨-, -, -, tables, htables, hstates, hwarnings, -⟩ := compile_eq_ok h
  rw [hstates, List.getElem?_map, Option.map_eq_some_iff] at hk
  obtain ⟨⟨t, warnings⟩, htable, rfl⟩ := hk
  obtain ⟨s, hs, rules, hrules, hbuilt⟩ := exists_getElem?_of_forall₂ htables htable
  refine ⟨s, rules, warnings, hs, hrules, hbuilt, ?_⟩
  intro warning hwarning
  rw [hwarnings]
  exact List.mem_flatMap_of_mem (List.mem_of_getElem? htable) hwarning

end Declaration

end Lexing
