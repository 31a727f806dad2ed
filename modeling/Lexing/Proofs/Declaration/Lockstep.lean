import Lexing.Proofs.Declaration.Alike
import Lexing.Proofs.Declaration.Relisting
import Lexing.Proofs.Regex.Literals

/-!
# Compiling with different settings

Under settings that differ only in where single characters are looked up, a declaration compiles in
the same way: each step fails for the same cause or succeeds. Texts for quick look-up are left out
of the patterns that are read in the end, but such texts can always be read, so the first pattern
that cannot be read is the same. For this reason the rules may also list their texts in another way.

What may be told apart is how much room the patterns of a state take. So one of the two may be
refused because the engine has no room. Where nothing but warnings differs, the patterns are exactly
the same, and this cannot happen.

Lists of warnings may differ too, in a way that is kept when lists are put together.
-/

namespace Lexing.Declaration

/-- A relation between lists of warnings that holds of lists put together from related ones. -/
structure Additive (W : List Warning → List Warning → Prop) : Prop where
  nil : W [] []
  append : ∀ {ws ws' vs vs'}, W ws ws' → W vs vs' → W (ws ++ vs) (ws' ++ vs')

theorem additive_eq : Additive Eq where
  nil := rfl
  append h h' := by rw [h, h']

/-- The rules list the same texts, and where `exact` holds they are the same. -/
structure Relists (exact : Prop) (named named' : NamedRule) : Prop where
  texts : SameTexts named named'
  same : exact → named' = named

theorem Relists.refl {exact : Prop} (named : NamedRule) : Relists exact named named :=
  ⟨.refl named, fun _ => rfl⟩

/-- The contexts have the same states, and they warn of line breaks in related ways. Where `exact`
holds they also look up the same characters. -/
structure Context.WarnsAlike (exact : Prop) (W : List Warning → List Warning → Prop)
    (ctx ctx' : Context) : Prop where
  states : ctx'.states.stateId? = ctx.states.stateId?
  host : ctx'.host = ctx.host
  stateful : ctx'.stateful = ctx.stateful
  quickLookup : exact → ctx'.config.quickLookup = ctx.config.quickLookup
  warns : ∀ {T T'} state name rule mayBreak,
    InStep T T' W (lineBreakWarnings ctx state name rule mayBreak)
      (lineBreakWarnings ctx' state name rule mayBreak)

variable {exact : Prop} {T T' : Fault → Prop} {W : List Warning → List Warning → Prop}
  {ctx ctx' : Context} {state name : String} {rule : Rule}

theorem Context.WarnsAlike.transitionOf_eq (h : ctx.WarnsAlike exact W ctx') :
    transitionOf ctx' state name rule = transitionOf ctx state name rule := by
  have hnamed : stateNamed ctx' state name = stateNamed ctx state name := by
    funext target
    rw [stateNamed, stateNamed, h.states]
  rw [transitionOf, transitionOf, h.stateful, hnamed]

namespace Draft

variable {draft draft' : Draft}

/-- The drafts differ at most in which of their lists hold what the rules match, and in their
warnings. Where `exact` holds they differ in their warnings only. -/
structure Twin (exact : Prop) (W : List Warning → List Warning → Prop) (draft draft' : Draft) :
    Prop where
  actions : draft'.actions = draft.actions
  recovery : draft'.recovery = draft.recovery
  warnings : W draft.warnings draft'.warnings
  reads : ∀ names, Regex.firstFault? names draft'.texts = Regex.firstFault? names draft.texts
  same : exact → draft'.texts = draft.texts ∧ draft'.quickOpen = draft.quickOpen

/-- A pattern that is added is read last. -/
theorem firstFault?_addSource (names : Unicode.Names) (draft : Draft) (source : List Char) :
    Regex.firstFault? names (draft.addSource source).texts =
      (Regex.firstFault? names draft.texts).or (error? (Regex.parse names source)) := by
  have htexts : (draft.addSource source).texts = draft.texts ++ [source] := List.map_append
  rw [htexts, Regex.firstFault?_append, Regex.firstFault?, Regex.firstFault?,
    List.findSome?_singleton]

/-- A text can always be read. -/
theorem firstFault?_addTexts (names : Unicode.Names) (draft : Draft) {texts : List String}
    (hne : texts ≠ []) :
    Regex.firstFault? names (draft.addSource (Regex.literalChoice (texts.map (·.toList)))).texts =
      Regex.firstFault? names draft.texts := by
  rw [firstFault?_addSource, Regex.parse_literalChoice _ (mt List.map_eq_nil_iff.mp hne)]
  exact Option.or_none

namespace Twin

theorem addWarnings (hW : Additive W) (h : Twin exact W draft draft') {ws ws' : List Warning}
    (hws : W ws ws') : Twin exact W (draft.addWarnings ws) (draft'.addWarnings ws') :=
  ⟨h.actions, h.recovery, hW.append h.warnings hws, h.reads, h.same⟩

theorem addSource (h : Twin exact W draft draft') (source : List Char) :
    Twin exact W (draft.addSource source) (draft'.addSource source) where
  actions := h.actions
  recovery := h.recovery
  warnings := h.warnings
  reads names := by rw [firstFault?_addSource, firstFault?_addSource, h.reads]
  same hexact := by
    have htexts (draft : Draft) : (draft.addSource source).texts = draft.texts ++ [source] :=
      List.map_append
    rw [htexts, htexts, (h.same hexact).1]
    exact ⟨rfl, rfl⟩

/-- Drafts that differ little from twins are twins. -/
theorem exchange (h : Twin exact W draft draft') {other other' : Draft}
    (hother : Twin False Eq draft other) (hother' : Twin False Eq draft' other')
    (hsame : exact → other'.texts = other.texts ∧ other'.quickOpen = other.quickOpen) :
    Twin exact W other other' where
  actions := by rw [hother'.actions, h.actions, hother.actions]
  recovery := by rw [hother'.recovery, h.recovery, hother.recovery]
  warnings := hother.warnings ▸ hother'.warnings ▸ h.warnings
  reads names := by rw [hother'.reads, h.reads, hother.reads]
  same := hsame

/-- The texts may be listed in another way. Of the rule itself the pattern is not looked at. -/
theorem addLiterals (hW : Additive W) (hctx : ctx.WarnsAlike exact W ctx')
    (h : Twin exact W draft draft') {texts texts' : List String}
    (hsame : ∀ text, text ∈ texts' ↔ text ∈ texts) (hequal : exact → texts' = texts)
    (pattern : Pattern) :
    InStep T T' (Twin exact W) (draft.addLiterals ctx state name rule texts)
      (draft'.addLiterals ctx' state name { rule with pattern } texts') := by
  have hempty : texts'.isEmpty = texts.isEmpty := by
    rw [Bool.eq_iff_iff, List.isEmpty_iff, List.isEmpty_iff, eq_nil_congr_mem hsame]
  rw [Draft.addLiterals, Draft.addLiterals, any_congr_mem hsame, any_congr_mem hsame, hempty]
  dsimp only
  split
  next => exact .failed _
  next hne =>
    split
    next => exact .failed _
    next =>
      refine (hctx.warns _ _ rule _).bind ?_
      intro ws ws' hws
      have hadded := h.addWarnings hW hws
      have hquick (draft : Draft) (quick : List (Char × Nat)) :
          Twin False Eq draft { draft with quick } := ⟨rfl, rfl, rfl, fun _ => rfl, False.elim⟩
      have hne : texts ≠ [] := by simpa using hne
      have hsource (draft : Draft) {texts : List String} (hne : texts ≠ []) :
          Twin False Eq draft
            (draft.addSource (Regex.literalChoice (texts.map (·.toList)))) :=
        ⟨rfl, rfl, rfl, fun names => firstFault?_addTexts names draft hne, False.elim⟩
      have hne' : texts' ≠ [] := mt (eq_nil_congr_mem hsame).mp hne
      split
      next chars hopen hchars =>
        split
        next => exact .done (hadded.exchange (hquick _ _) (hquick _ _) hadded.same)
        next hneeded =>
          refine .done (hadded.exchange (hquick _ _) (hsource _ hne') fun hexact => ?_)
          obtain rfl := hequal hexact
          exact (hneeded chars ((hadded.same hexact).2.trans hopen) hchars).elim
      next hneeded =>
        split
        next chars hopen hchars =>
          refine .done (hadded.exchange (hsource _ hne) (hquick _ _) fun hexact => ?_)
          obtain rfl := hequal hexact
          exact (hneeded chars ((hadded.same hexact).2.symm.trans hopen) hchars).elim
        next =>
          refine .done (hadded.exchange (hsource _ hne) (hsource _ hne') fun hexact => ?_)
          obtain rfl := hequal hexact
          exact (hadded.addSource _).same hexact

theorem addRegex (hW : Additive W) (hctx : ctx.WarnsAlike exact W ctx')
    (h : Twin exact W draft draft') (source : String) (pattern : Pattern) :
    InStep T T' (Twin exact W) (draft.addRegex ctx state name rule source)
      (draft'.addRegex ctx' state name { rule with pattern } source) := by
  rw [Draft.addRegex, Draft.addRegex, hctx.host]
  split
  next => exact .failed _
  next =>
    dsimp only
    split
    next => exact .failed _
    next =>
      refine (hctx.warns _ _ rule _).bind ?_
      intro ws ws' hws
      exact .done ((h.addWarnings hW hws).addSource _)

theorem addRecovery (h : Twin exact W draft draft') (transition : Option Transition)
    (recovery : Nat → Recovery) :
    InStep T T' (Twin exact W) (draft.addRecovery state name transition recovery)
      (draft'.addRecovery state name transition recovery) := by
  have hnext : draft'.nextAction = draft.nextAction := by rw [nextAction, nextAction, h.actions]
  rw [Draft.addRecovery, Draft.addRecovery, h.recovery, h.actions, hnext]
  split
  next => exact .failed _
  next =>
    split
    next => exact .failed _
    next => exact .done ⟨rfl, rfl, h.warnings, h.reads, h.same⟩

/-- The patterns of twins are read together, or neither are, but for how much room they take. -/
theorem readPatterns (h : Twin exact W draft draft') (hhost : ctx'.host = ctx.host)
    (hleft : ¬ exact → ¬ ctx.host.HasRoom draft.texts →
      T (.invalidPattern state Fault.allRules .tooLarge))
    (hright : ¬ exact → ¬ ctx'.host.HasRoom draft'.texts →
      T' (.invalidPattern state Fault.allRules .tooLarge)) :
    InStep T T' (fun _ _ => True) (draft.readPatterns ctx state)
      (draft'.readPatterns ctx' state) := by
  have hsame (h : ctx'.host.buildFault? draft'.texts = ctx.host.buildFault? draft.texts) :
      InStep T T' (fun _ _ => True) (draft.readPatterns ctx state)
        (draft'.readPatterns ctx' state) := by
    refine .of_error? ?_ fun _ _ _ _ => trivial
    rw [error?_readPatterns, error?_readPatterns, h]
  have hfull {ctx : Context} {draft : Draft}
      (hreads : Regex.firstFault? ctx.host.names draft.texts = none)
      (hroom : ¬ ctx.host.HasRoom draft.texts) :
      draft.readPatterns ctx state = .error (.invalidPattern state Fault.allRules .tooLarge) := by
    rw [← error?_eq_some, error?_readPatterns, Host.buildFault?, hreads, if_neg hroom]
    rfl
  by_cases hexact : exact
  · exact hsame (by rw [(h.same hexact).1, hhost])
  cases hreads : Regex.firstFault? ctx.host.names draft.texts with
  | some cause =>
      refine hsame ?_
      rw [Host.buildFault?, Host.buildFault?, hhost, h.reads, hreads]
      rfl
  | none =>
      have hreads' := (h.reads ctx.host.names).trans hreads
      rw [← hhost] at hreads'
      by_cases hroom : ctx.host.HasRoom draft.texts
      · by_cases hroom' : ctx'.host.HasRoom draft'.texts
        · refine hsame ?_
          rw [Host.buildFault?, Host.buildFault?, hreads, hreads', if_pos hroom, if_pos hroom']
        · rw [hfull hreads' hroom']
          exact .right _ (hright hexact hroom')
      · rw [hfull hreads hroom]
        exact .left (hleft hexact hroom) _

/-- Adding a rule to twins gives twins, or the same fault. -/
theorem addRule (hW : Additive W) (hctx : ctx.WarnsAlike exact W ctx')
    (h : Twin exact W draft draft') {named named' : NamedRule}
    (hrelists : Relists exact named named') :
    InStep T T' (Twin exact W) (draft.addRule ctx state named)
      (draft'.addRule ctx' state named') := by
  obtain ⟨hsame, hequal⟩ := hrelists
  have hmoves := (transitionOf_of_sameTexts hsame ctx' state).trans hctx.transitionOf_eq
  obtain @⟨name, rule, pattern', related⟩ := hsame
  have hpattern (hexact : exact) : pattern' = rule.pattern :=
    congrArg (·.2.pattern) (hequal hexact)
  rw [Draft.addRule, Draft.addRule, hmoves]
  refine (InStep.refl _).bind ?_
  rintro transition _ rfl
  -- The rest of the step is the same for all patterns.
  have done (action : Action) {x y : Except Fault Draft} (hadded : InStep T T' (Twin exact W) x y) :
      InStep T T' (Twin exact W)
        (x >>= fun draft => .ok { draft with actions := draft.actions ++ [action] })
        (y >>= fun draft => .ok { draft with actions := draft.actions ++ [action] }) := by
    refine hadded.bind ?_
    intro added added' htwin
    refine .done ⟨?_, htwin.recovery, htwin.warnings, htwin.reads, htwin.same⟩
    rw [htwin.actions]
  simp only [related.recovers_eq, related.collector_iff]
  generalize rule.pattern = pattern at related hpattern ⊢
  cases related with
  | refl =>
      cases pattern' with
      | fallback | collector => exact done _ (h.addRecovery _ _)
      | literals texts => exact done _ (h.addLiterals hW hctx (fun _ => Iff.rfl) (fun _ => rfl) _)
      | regex source => exact done _ (h.addRegex hW hctx source _)
  | literals same =>
      have htexts (hexact : exact) := Pattern.literals.inj (hpattern hexact)
      exact done _ (h.addLiterals hW hctx same htexts _)

end Twin

end Draft

/-- The tables of a state are built for both contexts, or for neither. But the engine may have room
for the patterns of only one. -/
theorem tableOf_inStep (hW : Additive W) (hctx : ctx.WarnsAlike exact W ctx')
    {rules rules' : List NamedRule} (hrules : List.Forall₂ (Relists exact) rules rules')
    (hleft : ¬ exact → ¬ ctx.host.HasRoom (sourcesOf ctx.config.quickLookup rules) →
      T (.invalidPattern state Fault.allRules .tooLarge))
    (hright : ¬ exact → ¬ ctx'.host.HasRoom (sourcesOf ctx'.config.quickLookup rules') →
      T' (.invalidPattern state Fault.allRules .tooLarge)) :
    InStep T T' (fun built built' => W built.2 built'.2) (tableOf ctx state rules)
      (tableOf ctx' state rules') := by
  have hstart : Draft.Twin exact W { quickOpen := ctx.config.quickLookup }
      { quickOpen := ctx'.config.quickLookup } :=
    ⟨rfl, rfl, hW.nil, fun _ => rfl, fun hexact => ⟨rfl, hctx.quickLookup hexact⟩⟩
  have hrule (draft draft' : Draft) (named named' : NamedRule) (hsame : Relists exact named named')
      (htwin : Draft.Twin exact W draft draft') :
      InStep T T' (Draft.Twin exact W) (draft.addRule ctx state named)
        (draft'.addRule ctx' state named') := htwin.addRule hW hctx hsame
  refine (InStep.foldlM_of_forall₂ hrule hrules hstart).bind_of_ok ?_
  intro draft draft' hdraft hdraft' htwin
  rw [← Draft.texts_of_addRules hdraft] at hleft
  rw [← Draft.texts_of_addRules hdraft'] at hright
  refine (htwin.readPatterns hctx.host hleft hright).bind ?_
  intro patterns patterns' _
  exact .done htwin.warnings

theorem Additive.flatMap (hW : Additive W) {built built' : List (StateTable × List Warning)}
    (h : List.Forall₂ (fun b b' => W b.2 b'.2) built built') :
    W (built.flatMap (·.2)) (built'.flatMap (·.2)) := by
  induction h with
  | nil => exact hW.nil
  | cons hb _ ih => exact hW.append hb ih

/-- The fault is that the engine has no room for the patterns of a state. -/
inductive Overfull (d : Declaration) (host : Host) (quickLookup : Bool) : Fault → Prop
  | intro {s : StateDecl} {rules : List NamedRule} (mem : s ∈ d) (expands : d.expand s = .ok rules)
      (full : ¬ host.HasRoom (sourcesOf quickLookup rules)) :
      d.Overfull host quickLookup (.invalidPattern s.name Fault.allRules .tooLarge)

/-- Declarations that differ in how their rules list texts compile in both contexts, or they have
the same fault in both, unless one of them is overfull. -/
theorem Alike.compile_inStep {d d' : Declaration} (halike : d.Alike (Relists exact) d')
    (hW : Additive W) {host : Host} {stateful : Bool} {config config' : Config}
    (hctx : Context.WarnsAlike exact W ⟨d, host, stateful, config⟩ ⟨d', host, stateful, config'⟩)
    (start : Option String) :
    InStep (fun fault => ¬ exact ∧ d.Overfull host config.quickLookup fault)
      (fun fault => ¬ exact ∧ d'.Overfull host config'.quickLookup fault)
      (fun m m' => m'.start = m.start ∧ W m.warnings m'.warnings)
      (d.compile host start stateful config) (d'.compile host start stateful config') := by
  have hempty : d'.isEmpty = d.isEmpty := by
    rw [Bool.eq_iff_iff, List.isEmpty_iff_length_eq_zero, List.isEmpty_iff_length_eq_zero,
      halike.length_eq]
  rw [compile, compile, hempty, halike.names_eq, halike.startOf_eq]
  dsimp only
  split
  next => exact .failed _
  next =>
    split
    next => exact .failed _
    next =>
      refine (InStep.refl (startOf d start)).bind ?_
      rintro id _ rfl
      refine (InStep.mapM_of_forall₂ (R := fun b b' => W b.2 b'.2) ?_ halike).bind ?_
      · intro s hmem s' hmem' hs
        refine (halike.expand hs).bind_of_ok ?_
        intro rules rules' hexpand hexpand' hrules
        have hname := hs.name
        rw [← hname]
        refine tableOf_inStep hW hctx hrules ?_ ?_
        · intro hexact hfull
          rw [hname]
          exact ⟨hexact, .intro hmem hexpand hfull⟩
        · intro hexact hfull
          exact ⟨hexact, .intro hmem' hexpand' hfull⟩
      · intro built built' hbuilt
        exact .done ⟨rfl, hW.flatMap hbuilt⟩

end Lexing.Declaration
