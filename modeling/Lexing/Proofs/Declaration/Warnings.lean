import Lexing.Proofs.Declaration.Lockstep

/-!
# Warnings about line breaks

A rule that may match a line break without counting it is accepted in silence, accepted with a
warning, or refused. The warnings of a machine can be told from the declaration: they are about the
rules of this kind, in the order in which the lists of rules have them. Where one run warns, another
that refuses stops at the same rule, so it reports the first thing that the other has warned about.
-/

namespace Lexing

/-- The rule may match a line break and does not count it. -/
def Rule.uncounted (r : Rule) (names : Unicode.Names) : Bool :=
  !r.lineBreaks && r.pattern.mayBreakLine names

/-- Such a rule has a text with a line break, or an expression that is judged to match one. -/
theorem Rule.uncounted_iff (rule : Rule) (names : Unicode.Names) :
    rule.uncounted names = true ↔ rule.lineBreaks = false ∧
    ((∃ texts, rule.pattern = .literals texts ∧ ∃ text ∈ texts, '\n' ∈ text.toList) ∨
      ∃ source r, rule.pattern = .regex source ∧ Regex.parse names source.toList = .ok r ∧
        r.mayBreakLine = true) := by
  rw [uncounted, Bool.and_eq_true, Bool.not_eq_true']
  refine and_congr_right' ?_
  cases rule.pattern with
  | fallback | collector => simp [Pattern.mayBreakLine]
  | literals texts => simp [Pattern.mayBreakLine]
  | regex source =>
      cases hparse : Regex.parse names source.toList <;> simp [Pattern.mayBreakLine, hparse]

/-- The fault for which a rule is refused that is warned about otherwise. -/
def Warning.fault (w : Warning) : Fault := .undeclaredLineBreaks w.state w.rule

namespace Declaration

def rulesOf (d : Declaration) (s : StateDecl) : List NamedRule := (d.expand s).toOption.getD []

/-- The warnings that there may be about some rules of a state, in the order of the rules. -/
def warningsAbout (names : Unicode.Names) (state : String) (rules : List NamedRule) :
    List Warning :=
  (rules.filter (·.2.uncounted names)).map fun named => ⟨state, named.1⟩

/-- The warnings that there may be about a declaration, state by state and rule by rule. -/
def warningsOf (d : Declaration) (names : Unicode.Names) : List Warning :=
  d.flatMap fun s => warningsAbout names s.name (d.rulesOf s)

variable {ctx : Context} {state name : String} {rule : Rule} {rules : List NamedRule}

theorem rulesOf_eq {d : Declaration} {s : StateDecl} (h : d.expand s = .ok rules) :
    d.rulesOf s = rules := by
  rw [rulesOf, h]
  rfl

/-- A rule is warned about if it is to be warned about at all. -/
theorem warnings_of_lineBreakWarnings {warnings : List Warning}
    (h : lineBreakWarnings ctx state name rule (rule.pattern.mayBreakLine ctx.host.names) =
      .ok warnings) :
    warnings =
      if ctx.config.lineBreaks = .warn then warningsAbout ctx.host.names state [(name, rule)]
      else [] := by
  rw [lineBreakWarnings] at h
  split at h
  next hquiet =>
    have huncounted : rule.uncounted ctx.host.names = false := by
      rw [Rule.uncounted, ← Bool.not_eq_true', Bool.not_and, Bool.not_not, hquiet]
    obtain rfl := Except.ok.inj h
    simp [warningsAbout, huncounted]
  next hbreaks =>
    have huncounted : rule.uncounted ctx.host.names = true := by
      simpa [Rule.uncounted] using hbreaks
    split at h
    next hpolicy =>
      have hallow : LineBreakPolicy.allow ≠ .warn := by decide
      rw [hpolicy, if_neg hallow, Except.ok.inj h]
    next hpolicy =>
      obtain rfl := Except.ok.inj h
      simp [warningsAbout, huncounted, hpolicy]
    next => cases h

theorem warningsAbout_append (names : Unicode.Names) (state : String)
    (rules more : List NamedRule) :
    warningsAbout names state (rules ++ more) =
      warningsAbout names state rules ++ warningsAbout names state more := by
  simp [warningsAbout]

theorem warnings_of_tableOf {t : StateTable} {warnings : List Warning}
    (h : tableOf ctx state rules = .ok (t, warnings)) :
    warnings =
      if ctx.config.lineBreaks = .warn then warningsAbout ctx.host.names state rules else [] := by
  obtain ⟨draft, hdraft, -, rfl, -⟩ := tableOf_eq_ok h
  refine Draft.addRules_invariant (fun rules draft => draft.warnings =
    if ctx.config.lineBreaks = .warn then warningsAbout ctx.host.names state rules else [])
      hdraft ?_ ?_
  · split <;> rfl
  · intro done named draft transition warnings added hinv haccepts
    dsimp only
    rw [hinv, warnings_of_lineBreakWarnings haccepts.warns]
    split
    next => rw [warningsAbout_append]
    next => rfl

theorem expand_eq_rulesOf {d : Declaration} {host : Host} {start : Option String} {stateful : Bool}
    {config : Config} {m : Machine} (h : d.compile host start stateful config = .ok m)
    {s : StateDecl} (hs : s ∈ d) : d.expand s = .ok (d.rulesOf s) := by
  obtain ⟨-, -, -, tables, htables, -⟩ := compile_eq_ok h
  obtain ⟨-, -, rules, hrules, -⟩ := exists_mem_of_forall₂ htables hs
  rw [hrules, rulesOf_eq hrules]

/-- A machine has all the warnings that there may be about its declaration, or none. -/
theorem warnings_of_compile {d : Declaration} {host : Host} {start : Option String}
    {stateful : Bool} {config : Config} {m : Machine}
    (h : d.compile host start stateful config = .ok m) :
    m.warnings = if config.lineBreaks = .warn then d.warningsOf host.names else [] := by
  obtain ⟨-, -, -, tables, htables, -, hwarnings, -⟩ := compile_eq_ok h
  have hstate : List.Forall₂ (fun s table => table.2 =
      if config.lineBreaks = .warn then warningsAbout host.names s.name (d.rulesOf s)
      else []) d tables := by
    refine htables.imp ?_
    rintro s ⟨t, warnings⟩ ⟨rules, hrules, htable⟩
    rw [rulesOf_eq hrules]
    exact warnings_of_tableOf htable
  rw [hwarnings, flatMap_eq_of_forall₂ hstate]
  split
  next => rfl
  next => exact List.flatMap_eq_nil_iff.mpr fun _ _ => rfl

/-- The second step refuses the first thing that the first step warns about. If there is no warning,
then they end alike. -/
inductive Refuses {α β : Type} (R : α → β → Prop) (warnings : α → List Warning) :
    Except Fault α → Except Fault β → Prop
  | failed (e : Fault) : Refuses R warnings (.error e) (.error e)
  | done {a : α} {b : β} (related : R a b) (quiet : warnings a = []) :
      Refuses R warnings (.ok a) (.ok b)
  | refused {a : α} {w : Warning} {ws : List Warning} (warned : warnings a = w :: ws) :
      Refuses R warnings (.ok a) (.error w.fault)
  | before (e : Fault) (w : Warning) : Refuses R warnings (.error e) (.error w.fault)

namespace Refuses

variable {α β γ δ : Type} {R : α → β → Prop} {S : γ → δ → Prop} {warnings : α → List Warning}
  {warnings' : γ → List Warning} {x : Except Fault α} {y : Except Fault β}

/-- A step that does not warn. -/
theorem same {x : Except Fault α} (h : ∀ a, x = .ok a → warnings a = []) :
    Refuses Eq warnings x x := by
  cases x with
  | error e => exact .failed e
  | ok a => exact .done rfl (h a rfl)

/-- Warnings are kept, so what was the first of them stays the first. -/
theorem bind (h : Refuses R warnings x y) {f : α → Except Fault γ} {g : β → Except Fault δ}
    (hkeeps : ∀ a c, f a = .ok c → warnings a <+: warnings' c)
    (hfg : ∀ a b, R a b → warnings a = [] → Refuses S warnings' (f a) (g b)) :
    Refuses S warnings' (x >>= f) (y >>= g) := by
  cases h with
  | failed e => exact .failed e
  | done related quiet => exact hfg _ _ related quiet
  | before e w => exact .before e w
  | @refused a w ws warned =>
      rw [ok_bind]
      cases hf : f a with
      | error e => exact .before e w
      | ok c =>
          obtain ⟨more, hmore⟩ := hkeeps a c hf
          rw [warned] at hmore
          exact .refused hmore.symm

theorem foldlM {f : α → γ → Except Fault α} {g : β → γ → Except Fault β}
    (hkeeps : ∀ a z c, f a z = .ok c → warnings a <+: warnings c)
    (hfg : ∀ a b z, R a b → warnings a = [] → Refuses R warnings (f a z) (g b z)) (zs : List γ)
    {a : α} {b : β} (h : R a b) (hquiet : warnings a = []) :
    Refuses R warnings (zs.foldlM f a) (zs.foldlM g b) := by
  induction zs generalizing a b with
  | nil => exact .done h hquiet
  | cons z zs ih =>
      rw [List.foldlM_cons, List.foldlM_cons]
      refine (hfg a b z h hquiet).bind ?_ fun a b => ih
      intro a c hc
      exact foldlM_invariant (fun _ c => warnings a <+: warnings c) hc List.prefix_rfl
        fun _ z _ _ hinv hstep => hinv.trans (hkeeps _ z _ hstep)

theorem mapM {f : γ → Except Fault α} {g : γ → Except Fault β}
    (hfg : ∀ z, Refuses R warnings (f z) (g z)) (zs : List γ) :
    Refuses (List.Forall₂ R) (·.flatMap warnings) (zs.mapM f) (zs.mapM g) := by
  induction zs with
  | nil => exact .done .nil rfl
  | cons z zs ih =>
      rw [List.mapM_cons, List.mapM_cons]
      refine (hfg z).bind ?_ ?_
      · intro a cs hcs
        obtain ⟨as, -, has⟩ := bind_eq_ok_iff.mp hcs
        obtain rfl := pure_eq_ok_iff.mp has
        exact List.prefix_append _ _
      · intro a b hab hquiet
        refine ih.bind ?_ ?_
        · intro as cs hcs
          obtain rfl := pure_eq_ok_iff.mp hcs
          rw [List.flatMap_cons, hquiet, List.nil_append]
        · intro as bs hall hquiets
          refine .done (.cons hab hall) ?_
          rw [List.flatMap_cons, hquiet, hquiets, List.nil_append]

theorem of_ok {a : α} {b : β} (h : Refuses R warnings (.ok a) (.ok b)) :
    R a b ∧ warnings a = [] := by
  cases h with
  | done related quiet => exact ⟨related, quiet⟩

theorem exists_ok_iff (h : Refuses R warnings x y) :
    (∃ b, y = .ok b) ↔ ∃ a, x = .ok a ∧ warnings a = [] := by
  cases h with
  | failed | before => simp
  | done _ quiet => simpa using quiet
  | refused warned => simp [warned]

theorem eq_error_of_warned {a : α} {w : Warning} {ws : List Warning}
    (h : Refuses R warnings (.ok a) y) (hwarned : warnings a = w :: ws) : y = .error w.fault := by
  cases h with
  | done _ quiet => cases quiet.symm.trans hwarned
  | refused warned => rw [(List.cons.inj (warned.symm.trans hwarned)).1]

theorem eq_error_of_error {e : Fault} (h : Refuses R warnings (.error e) y) :
    y = .error e ∨ ∃ w : Warning, y = .error w.fault := by
  cases h with
  | failed => exact .inl rfl
  | before _ w => exact .inr ⟨w, rfl⟩

end Refuses

def Context.withLineBreaks (ctx : Context) (policy : LineBreakPolicy) : Context :=
  { ctx with config := ctx.config.withLineBreaks policy }

@[simp] theorem Context.host_withLineBreaks (ctx : Context) (policy : LineBreakPolicy) :
    (ctx.withLineBreaks policy).host = ctx.host := rfl

theorem refuses_lineBreakWarnings (mayBreak : Bool) :
    Refuses Eq id (lineBreakWarnings (ctx.withLineBreaks .warn) state name rule mayBreak)
      (lineBreakWarnings (ctx.withLineBreaks .deny) state name rule mayBreak) := by
  rw [lineBreakWarnings, lineBreakWarnings]
  split
  next => exact .done rfl rfl
  next =>
    have hwarned : id [⟨state, name⟩] = (⟨state, name⟩ : Warning) :: [] := rfl
    exact .refused hwarned

namespace Draft

variable {draft : Draft}

/-- What follows the warnings about a rule keeps them. -/
theorem refuses_bind_warnings (hquiet : draft.warnings = []) (mayBreak : Bool)
    {f : List Warning → Except Fault Draft}
    (hf : ∀ ws added, f ws = .ok added → added.warnings = draft.warnings ++ ws) :
    Refuses Eq (·.warnings)
      (lineBreakWarnings (ctx.withLineBreaks .warn) state name rule mayBreak >>= f)
      (lineBreakWarnings (ctx.withLineBreaks .deny) state name rule mayBreak >>= f) := by
  refine (refuses_lineBreakWarnings mayBreak).bind ?_ ?_
  · intro ws added hadded
    rw [hf ws added hadded, hquiet]
    exact List.prefix_rfl
  · rintro ws _ rfl hws
    refine .same ?_
    intro added hadded
    rw [hf ws added hadded, hquiet, List.nil_append]
    exact hws

theorem refuses_addLiterals (hquiet : draft.warnings = []) (texts : List String) :
    Refuses Eq (·.warnings) (draft.addLiterals (ctx.withLineBreaks .warn) state name rule texts)
      (draft.addLiterals (ctx.withLineBreaks .deny) state name rule texts) := by
  rw [addLiterals, addLiterals]
  dsimp only
  split
  next => exact .failed _
  next =>
    split
    next => exact .failed _
    next =>
      refine refuses_bind_warnings hquiet _ ?_
      intro ws added hadded
      split at hadded <;> (obtain rfl := pure_eq_ok_iff.mp hadded; rfl)

theorem refuses_addRegex (hquiet : draft.warnings = []) (source : String) :
    Refuses Eq (·.warnings) (draft.addRegex (ctx.withLineBreaks .warn) state name rule source)
      (draft.addRegex (ctx.withLineBreaks .deny) state name rule source) := by
  rw [addRegex, addRegex, Context.host_withLineBreaks, Context.host_withLineBreaks]
  split
  next => exact .failed _
  next =>
    dsimp only
    split
    next => exact .failed _
    next =>
      refine refuses_bind_warnings hquiet _ ?_
      intro ws added hadded
      obtain rfl := pure_eq_ok_iff.mp hadded
      rfl

theorem refuses_addRecovery (hquiet : draft.warnings = []) (transition : Option Transition)
    (recovery : Nat → Recovery) :
    Refuses Eq (·.warnings) (draft.addRecovery state name transition recovery)
      (draft.addRecovery state name transition recovery) := by
  refine .same ?_
  intro added hadded
  rw [addRecovery] at hadded
  split at hadded
  next => cases hadded
  next =>
    split at hadded
    next => cases hadded
    next =>
      obtain rfl := Except.ok.inj hadded
      exact hquiet

/-- Adding a rule that is warned about is refused. -/
theorem refuses_addRule (hquiet : draft.warnings = []) (named : NamedRule) :
    Refuses Eq (·.warnings) (draft.addRule (ctx.withLineBreaks .warn) state named)
      (draft.addRule (ctx.withLineBreaks .deny) state named) := by
  obtain ⟨name, rule⟩ := named
  have hmoves : transitionOf (ctx.withLineBreaks .deny) state name rule =
      transitionOf (ctx.withLineBreaks .warn) state name rule := rfl
  rw [addRule, addRule, hmoves]
  cases transitionOf (ctx.withLineBreaks .warn) state name rule with
  | error e => exact .failed e
  | ok transition =>
      rw [ok_bind, ok_bind]
      -- The rest of the step is the same for all patterns.
      have done (action : Action) {x y : Except Fault Draft}
          (hadded : Refuses Eq (·.warnings) x y) :
          Refuses Eq (·.warnings)
            (x >>= fun draft => .ok { draft with actions := draft.actions ++ [action] })
            (y >>= fun draft => .ok { draft with actions := draft.actions ++ [action] }) := by
        refine hadded.bind ?_ ?_
        · rintro added _ ⟨⟩
          exact List.prefix_rfl
        · rintro added _ rfl hquiet
          exact .done rfl hquiet
      dsimp only
      cases rule.pattern with
      | fallback | collector => exact done _ (refuses_addRecovery hquiet _ _)
      | literals texts => exact done _ (refuses_addLiterals hquiet texts)
      | regex source => exact done _ (refuses_addRegex hquiet source)

end Draft

/-- A table that is warned about is refused. -/
theorem refuses_tableOf (ctx : Context) (rules : List NamedRule) :
    Refuses Eq (·.2) (tableOf (ctx.withLineBreaks .warn) state rules)
      (tableOf (ctx.withLineBreaks .deny) state rules) := by
  have hkeeps (draft : Draft) (named : NamedRule) (draft' : Draft)
      (h : draft.addRule (ctx.withLineBreaks .warn) state named = .ok draft') :
      draft.warnings <+: draft'.warnings := by
    obtain ⟨transition, warnings, added, -, rfl⟩ := Draft.addRule_eq_ok h
    exact List.prefix_append _ _
  have hrules : Refuses Eq (·.warnings)
      (rules.foldlM (Draft.addRule (ctx.withLineBreaks .warn) state)
        { quickOpen := ctx.config.quickLookup })
      (rules.foldlM (Draft.addRule (ctx.withLineBreaks .deny) state)
        { quickOpen := ctx.config.quickLookup }) := by
    refine Refuses.foldlM hkeeps ?_ rules rfl rfl
    rintro draft _ named rfl hquiet
    exact Draft.refuses_addRule hquiet named
  refine hrules.bind ?_ ?_
  · intro draft built hbuilt
    obtain ⟨patterns, -, hbuilt⟩ := bind_eq_ok_iff.mp hbuilt
    obtain rfl := pure_eq_ok_iff.mp hbuilt
    exact List.prefix_rfl
  · rintro draft _ rfl hquiet
    refine .same ?_
    intro built hbuilt
    obtain ⟨patterns, -, hbuilt⟩ := bind_eq_ok_iff.mp hbuilt
    obtain rfl := pure_eq_ok_iff.mp hbuilt
    exact hquiet

/-- A declaration that is warned about is refused for the first warning. -/
theorem refuses_compile (d : Declaration) (host : Host) (start : Option String)
    (stateful : Bool) (config : Config) :
    Refuses (fun m m' => m' = { m with config := config.withLineBreaks .deny }) (·.warnings)
      (d.compile host start stateful (config.withLineBreaks .warn))
      (d.compile host start stateful (config.withLineBreaks .deny)) := by
  rw [compile, compile]
  dsimp only
  split
  next => exact .failed _
  next =>
    split
    next => exact .failed _
    next =>
      cases startOf d start with
      | error e => exact .failed e
      | ok id =>
          rw [ok_bind, ok_bind]
          have hstate (s : StateDecl) : Refuses Eq (·.2)
              (d.expand s >>= tableOf ⟨d, host, stateful, config.withLineBreaks .warn⟩ s.name)
              (d.expand s >>= tableOf ⟨d, host, stateful, config.withLineBreaks .deny⟩ s.name) := by
            cases d.expand s with
            | error e => exact .failed e
            | ok rules => exact refuses_tableOf ⟨d, host, stateful, config⟩ rules
          refine (Refuses.mapM hstate d).bind ?_ ?_
          · intro built m hm
            obtain rfl := pure_eq_ok_iff.mp hm
            exact List.prefix_rfl
          · intro built built' hsame hquiet
            obtain rfl := List.forall₂_eq_eq_eq ▸ hsame
            exact .done rfl hquiet

/-- A declaration compiles without warnings where it compiles with some. The patterns are the same,
so there is room for them in both cases or in neither. -/
theorem compile_allow_inStep (d : Declaration) (host : Host) (start : Option String)
    (stateful : Bool) (config : Config) :
    InStep (fun _ => False) (fun _ => False) (fun m m' => m'.start = m.start ∧ m'.warnings = [])
      (d.compile host start stateful (config.withLineBreaks .warn))
      (d.compile host start stateful (config.withLineBreaks .allow)) := by
  have hsilent : Additive fun _ ws' => ws' = [] :=
    ⟨rfl, fun h h' => by rw [h, h', List.append_nil]⟩
  have hctx : Context.WarnsAlike True (fun _ ws' => ws' = [])
      ⟨d, host, stateful, config.withLineBreaks .warn⟩
      ⟨d, host, stateful, config.withLineBreaks .allow⟩ := by
    refine ⟨rfl, rfl, rfl, fun _ => rfl, ?_⟩
    intro _ _ state name rule mayBreak
    rw [lineBreakWarnings, lineBreakWarnings]
    split
    next => exact .done rfl
    next => exact .done rfl
  refine ((Alike.refl Relists.refl d).compile_inStep hsilent hctx start).mono ?_ ?_
  · exact fun _ halone => halone.1 trivial
  · exact fun _ halone => halone.1 trivial

end Declaration

end Lexing
