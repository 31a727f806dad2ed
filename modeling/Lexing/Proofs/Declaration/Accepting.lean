import Lexing.Proofs.Declaration.Including
import Lexing.Proofs.Machine.Agreement
import Lexing.Proofs.Machine.Judging
import Mathlib.Data.List.Duplicate

/-!
# Which declarations compile

A declaration compiles just if it is well-formed. Most of what this asks for is said of its rules
one by one. Two conditions are about the list of rules of a state, with those it includes: at most
one of them recovers, and the patterns that are used for them build together, which is to say that
each can be read and that the engine has room for all.

Checking stops at the first fault, and it sees a rule again in each state that includes it. Whatever
the order, a fault that is reported is there: it is one of the state and the rule that it names.
-/

namespace Lexing

/-- The number of ways in which the rule asks to change the state. -/
def Rule.moves (r : Rule) : Nat := r.push.isSome.toNat + r.pop.isSome.toNat + r.next.isSome.toNat

namespace Declaration

/-- What a rule must satisfy, wherever it is declared. -/
structure Allows (ctx : Context) (rule : Rule) : Prop where
  moves : rule.moves ≤ if ctx.stateful then 1 else 0
  targets : ∀ target, rule.push = some target ∨ rule.next = some target →
    ctx.states.HasState target
  pops : rule.pop ≠ some 0
  stays : rule.pattern.recovers = true → rule.moves = 0
  pattern : rule.pattern.Admissible ctx.host.names
  counts : ctx.config.lineBreaks = .deny → rule.lineBreaks = false →
    rule.pattern.mayBreakLine ctx.host.names = false

/-- What a declaration must satisfy. -/
structure WellFormed (d : Declaration) (host : Host) (start : Option String) (stateful : Bool)
    (config : Config) : Prop where
  nonempty : d ≠ []
  distinct : (d.map (·.name)).Nodup
  start : ∀ name, start = some name → d.HasState name
  includes : ∀ s ∈ d, ∀ target, .include target ∈ s.entries → d.HasState target
  rules : ∀ named, d.Declares named → Allows ⟨d, host, stateful, config⟩ named.2
  recovery : ∀ s ∈ d, ∀ rules, d.expand s = .ok rules →
    rules.countP (·.2.pattern.recovers) ≤ 1
  patterns : ∀ s ∈ d, ∀ rules, d.expand s = .ok rules →
    host.Builds (sourcesOf config.quickLookup rules)

/-- The rules of a state have the fault. -/
inductive RulesViolate (ctx : Context) (state : String) (rules : List NamedRule) : Fault → Prop
  | conflictingTransitions {name : String} {rule : Rule} (mem : (name, rule) ∈ rules)
      (moves : 1 < rule.moves) : RulesViolate ctx state rules (.conflictingTransitions state name)
  | transitionWithoutStates {name : String} {rule : Rule} (mem : (name, rule) ∈ rules)
      (stateless : ctx.stateful = false) (moves : 0 < rule.moves) :
      RulesViolate ctx state rules (.transitionWithoutStates name)
  | missingState {name target : String} {rule : Rule} (mem : (name, rule) ∈ rules)
      (leads : rule.push = some target ∨ rule.next = some target)
      (missing : ¬ ctx.states.HasState target) :
      RulesViolate ctx state rules (.missingState state name target)
  | emptyPop {name : String} {rule : Rule} (mem : (name, rule) ∈ rules) (pops : rule.pop = some 0) :
      RulesViolate ctx state rules (.emptyPop state name)
  | transitionOnRecovery {name : String} {rule : Rule} (mem : (name, rule) ∈ rules)
      (recovers : rule.pattern.recovers = true) (moves : 0 < rule.moves) :
      RulesViolate ctx state rules (.transitionOnRecovery state name)
  | secondRecovery {first second : NamedRule} (both : [first, second].Sublist rules)
      (recovers : first.2.pattern.recovers = true) (recovers' : second.2.pattern.recovers = true) :
      RulesViolate ctx state rules (.secondRecovery state first.1 second.1)
  | emptyPattern {name : String} {rule : Rule} (mem : (name, rule) ∈ rules)
      (pattern : rule.pattern = .literals []) :
      RulesViolate ctx state rules (.emptyPattern state name)
  | emptyText {name : String} {rule : Rule} {texts : List String} (mem : (name, rule) ∈ rules)
      (pattern : rule.pattern = .literals texts) (empty : "" ∈ texts) :
      RulesViolate ctx state rules (.emptyMatch state name)
  | emptyMatch {name source : String} {rule : Rule} {r : Regex} (mem : (name, rule) ∈ rules)
      (pattern : rule.pattern = .regex source)
      (reads : Regex.parse ctx.host.names source.toList = .ok r)
      (empty : r.minLength = some 0) : RulesViolate ctx state rules (.emptyMatch state name)
  | invalidPattern {name source : String} {rule : Rule} {cause : Regex.SyntaxError}
      (mem : (name, rule) ∈ rules) (pattern : rule.pattern = .regex source)
      (fails : Regex.parse ctx.host.names source.toList = .error cause) :
      RulesViolate ctx state rules (.invalidPattern state name cause)
  | invalidPatterns {source : List Char} {cause : Regex.SyntaxError}
      (mem : source ∈ sourcesOf ctx.config.quickLookup rules)
      (fails : Regex.parse ctx.host.names source = .error cause) :
      RulesViolate ctx state rules (.invalidPattern state Fault.allRules cause)
  | overfull (full : ¬ ctx.host.HasRoom (sourcesOf ctx.config.quickLookup rules)) :
      RulesViolate ctx state rules (.invalidPattern state Fault.allRules .tooLarge)
  | undeclaredLineBreaks {name : String} {rule : Rule} (mem : (name, rule) ∈ rules)
      (denies : ctx.config.lineBreaks = .deny) (silent : rule.lineBreaks = false)
      (breaks : rule.pattern.mayBreakLine ctx.host.names = true) :
      RulesViolate ctx state rules (.undeclaredLineBreaks state name)

/-- The declaration has the fault. A fault of a rule is in the list of rules of the state that it
names. For an include it is the state whose list cannot be put together. -/
inductive Violates (d : Declaration) (host : Host) (start : Option String) (stateful : Bool)
    (config : Config) : Fault → Prop
  | noStates (empty : d = []) : d.Violates host start stateful config .noStates
  | duplicateState {name : String} (twice : List.Duplicate name (d.map (·.name))) :
      d.Violates host start stateful config (.duplicateState name)
  | missingStart {name : String} (named : start = some name) (missing : ¬ d.HasState name) :
      d.Violates host start stateful config (.missingStart name)
  | missingInclude {s v : StateDecl} {target : String} (mem : s ∈ d) (includes : d.Includes s v)
      (entry : .include target ∈ v.entries) (missing : ¬ d.HasState target) :
      d.Violates host start stateful config (.missingState s.name Fault.includeRule target)
  | rules {s : StateDecl} {rules : List NamedRule} {fault : Fault} (mem : s ∈ d)
      (expands : d.expand s = .ok rules)
      (violate : RulesViolate ⟨d, host, stateful, config⟩ s.name rules fault) :
      d.Violates host start stateful config fault

section Moves

variable {ctx : Context} {state name : String} {rule : Rule} {tr : Option Transition}

theorem hasState_of_stateId? {d : Declaration} {target : String} {id : Nat}
    (h : d.stateId? target = some id) : d.HasState target := by
  by_contra hmissing
  cases h.symm.trans (stateId?_eq_none_iff.mpr hmissing)

theorem Moves.moves_eq (h : Moves ctx rule tr) : rule.moves = tr.isSome.toNat := by
  cases h <;> simp_all [Rule.moves]

theorem Moves.moves_le (h : Moves ctx rule tr) : rule.moves ≤ if ctx.stateful then 1 else 0 := by
  rw [h.moves_eq]
  cases h with
  | stay => exact Nat.zero_le _
  | push hstateful | pop hstateful | next hstateful => rw [hstateful]; exact Nat.le_refl _

theorem Moves.hasState (h : Moves ctx rule tr) {target : String}
    (htarget : rule.push = some target ∨ rule.next = some target) :
    ctx.states.HasState target := by
  cases h <;> simp_all [hasState_of_stateId?]

theorem Moves.pop_ne (h : Moves ctx rule tr) : rule.pop ≠ some 0 := by
  cases h <;> simp_all

theorem stateNamed_eq_error {target : String} {fault : Fault}
    (h : stateNamed ctx state name target = .error fault) :
    ¬ ctx.states.HasState target ∧ fault = .missingState state name target := by
  rw [stateNamed] at h
  split at h
  next => cases h
  next hnone =>
    obtain rfl := Except.error.inj h
    exact ⟨stateId?_eq_none_iff.mp hnone, rfl⟩

/-- A change of state that cannot be made has one of the faults that there are for it. -/
theorem violate_of_transitionOf {rules : List NamedRule} (hmem : (name, rule) ∈ rules)
    {fault : Fault} (h : transitionOf ctx state name rule = .error fault) :
    RulesViolate ctx state rules fault := by
  -- If the states may not be changed, this comes before any fault of the change itself.
  have checked {found : Except Fault Transition} (hmoves : 0 < rule.moves)
      (hfound : found = .error fault → RulesViolate ctx state rules fault)
      (h : (if ctx.stateful then found.map some else .error (.transitionWithoutStates name)) =
        .error fault) : RulesViolate ctx state rules fault := by
    split at h
    next =>
      cases found with
      | error e => exact hfound (congrArg Except.error (Except.error.inj h))
      | ok => cases h
    next hstateful =>
      obtain rfl := Except.error.inj h
      exact .transitionWithoutStates hmem (by simpa using hstateful) hmoves
  have named {target : String} {f : Nat → Transition}
      (htarget : rule.push = some target ∨ rule.next = some target)
      (h : (stateNamed ctx state name target).map f = .error fault) :
      RulesViolate ctx state rules fault := by
    cases hid : stateNamed ctx state name target with
    | error e =>
        rw [hid] at h
        obtain rfl := Except.error.inj h
        obtain ⟨hmissing, rfl⟩ := stateNamed_eq_error hid
        exact .missingState hmem htarget hmissing
    | ok => rw [hid] at h; cases h
  rw [transitionOf] at h
  dsimp only at h
  split at h
  next => cases h
  next hpush hpop hnext =>
    exact checked (by simp [Rule.moves, hpush, hpop, hnext]) (named (.inl hpush)) h
  next hpush hpop hnext =>
    refine checked (by simp [Rule.moves, hpush, hpop, hnext]) ?_ h
    intro hcount
    split at hcount
    next hzero =>
      obtain rfl := Except.error.inj hcount
      exact .emptyPop hmem (hzero ▸ hpop)
    next => cases hcount
  next hpush hpop hnext =>
    exact checked (by simp [Rule.moves, hpush, hpop, hnext]) (named (.inr hnext)) h
  next hstay hpush hpop hnext =>
    obtain rfl := Except.error.inj h
    refine .conflictingTransitions hmem ?_
    cases hpush' : rule.push <;> cases hpop' : rule.pop <;> cases hnext' : rule.next <;>
      simp_all [Rule.moves]

end Moves

section Patterns

variable {ctx : Context} {state name : String} {rule : Rule} {rules : List NamedRule}
  {draft : Draft} {fault : Fault}

theorem violate_of_lineBreakWarnings (hmem : (name, rule) ∈ rules)
    (h : lineBreakWarnings ctx state name rule (rule.pattern.mayBreakLine ctx.host.names) =
      .error fault) :
    RulesViolate ctx state rules fault := by
  rw [lineBreakWarnings] at h
  split at h
  next => cases h
  next hbreaks =>
    split at h
    next => cases h
    next => cases h
    next hdeny =>
      obtain rfl := Except.error.inj h
      obtain ⟨hsilent, hbreak⟩ : rule.lineBreaks = false ∧
          rule.pattern.mayBreakLine ctx.host.names = true := by
        simpa using hbreaks
      exact .undeclaredLineBreaks hmem hdeny hsilent hbreak

theorem violate_of_addLiterals (hmem : (name, rule) ∈ rules) {texts : List String}
    (hpattern : rule.pattern = .literals texts)
    (h : draft.addLiterals ctx state name rule texts = .error fault) :
    RulesViolate ctx state rules fault := by
  rw [Draft.addLiterals] at h
  dsimp only at h
  split at h
  next hnone =>
    obtain rfl := Except.error.inj h
    obtain rfl := List.isEmpty_iff.mp hnone
    exact .emptyPattern hmem hpattern
  next =>
    split at h
    next hempty =>
      obtain rfl := Except.error.inj h
      exact .emptyText hmem hpattern (by simpa using hempty)
    next =>
      rcases bind_eq_error_iff.mp h with hwarns | ⟨warnings, -, h⟩
      · apply violate_of_lineBreakWarnings hmem
        rw [hpattern]
        exact hwarns
      · split at h <;> cases h

theorem violate_of_addRegex (hmem : (name, rule) ∈ rules) {source : String}
    (hpattern : rule.pattern = .regex source)
    (h : draft.addRegex ctx state name rule source = .error fault) :
    RulesViolate ctx state rules fault := by
  rw [Draft.addRegex] at h
  split at h
  next cause hcause =>
    obtain rfl := Except.error.inj h
    exact .invalidPattern hmem hpattern hcause
  next r hr =>
    dsimp only at h
    split at h
    next hmin =>
      obtain rfl := Except.error.inj h
      exact .emptyMatch hmem hpattern hr hmin
    next =>
      rcases bind_eq_error_iff.mp h with hwarns | ⟨warnings, -, h⟩
      · apply violate_of_lineBreakWarnings hmem
        rw [hpattern, Pattern.mayBreakLine, hr]
        exact hwarns
      · cases h

/-- The recovery rule that is already there stands among the rules before. -/
theorem Draft.exists_of_recovery {done : List NamedRule} {quickOpen : Bool}
    (hdone : done.foldlM (addRule ctx state) { quickOpen } = .ok draft) {earlier : Recovery}
    (hearlier : draft.recovery = some earlier) :
    ∃ first ∈ done, first.2.pattern.recovers = true ∧
      (draft.actions[earlier.action]?).elim "" (·.name) = first.1 := by
  obtain ⟨first, hfirst, hrecovers⟩ :=
    exists_of_recoveryOf ((recovery_of_addRules hdone).symm.trans hearlier)
  obtain ⟨action, haction, hchecked⟩ :=
    exists_getElem?_of_forall₂ (checked_of_addRules hdone).flip hfirst
  obtain ⟨transition, -, rfl⟩ := hchecked.stands
  exact ⟨first, List.mem_of_getElem? hfirst, hrecovers, by rw [haction]; rfl⟩

theorem violate_of_addRecovery {done rest : List NamedRule} {quickOpen : Bool}
    (hdone : done.foldlM (Draft.addRule ctx state) { quickOpen } = .ok draft)
    (hrecovers : rule.pattern.recovers = true) {transition : Option Transition}
    (hmoves : Moves ctx rule transition) {recovery : Nat → Recovery}
    (h : draft.addRecovery state name transition recovery = .error fault) :
    RulesViolate ctx state (done ++ (name, rule) :: rest) fault := by
  rw [Draft.addRecovery] at h
  split at h
  next hsome =>
    obtain rfl := Except.error.inj h
    refine .transitionOnRecovery List.mem_append_cons_self hrecovers ?_
    rw [hmoves.moves_eq, hsome]
    exact Nat.one_pos
  next =>
    split at h
    next earlier hearlier =>
      obtain rfl := Except.error.inj h
      obtain ⟨first, hfirst, hrecovers', hname⟩ := Draft.exists_of_recovery hdone hearlier
      rw [hname]
      have hboth : [first, (name, rule)].Sublist (done ++ (name, rule) :: rest) :=
        (List.singleton_sublist.mpr hfirst).append (List.Sublist.cons_cons _ (List.nil_sublist _))
      exact .secondRecovery hboth hrecovers' hrecovers
    next => cases h

end Patterns

section Rules

variable {ctx : Context} {state : String} {rules : List NamedRule} {draft : Draft}
  {quickOpen : Bool}

namespace Draft

theorem allows_of_accepts {named : NamedRule} {transition : Option Transition}
    {warnings : List Warning} {added : Draft}
    (h : Accepts ctx state draft named transition warnings added) : Allows ctx named.2 := by
  have hmoves := moves_of_transitionOf h.moves
  refine ⟨hmoves.moves_le, fun _ => hmoves.hasState, hmoves.pop_ne, ?_, h.admissible, ?_⟩
  · intro hrecovers
    rw [hmoves.moves_eq, h.stays hrecovers]
    rfl
  · intro hdeny hsilent
    exact mayBreakLine_of_warns (.inl hdeny) (List.Subset.refl _) h.warns hsilent

theorem allows_of_addRules (h : rules.foldlM (addRule ctx state) { quickOpen } = .ok draft) :
    ∀ named ∈ rules, Allows ctx named.2 := by
  refine addRules_invariant (fun rules _ => ∀ named ∈ rules, Allows ctx named.2) h
    (List.forall_mem_nil _) ?_
  intro done named draft transition warnings added hinv haccepts
  rw [List.forall_mem_append, List.forall_mem_singleton]
  exact ⟨hinv, allows_of_accepts haccepts⟩

/-- The rules that recover are counted by whether the draft recovers. -/
theorem countP_recovers (h : rules.foldlM (addRule ctx state) { quickOpen } = .ok draft) :
    rules.countP (·.2.pattern.recovers) = draft.recovery.isSome.toNat := by
  refine addRules_invariant
    (fun rules draft => rules.countP (·.2.pattern.recovers) = draft.recovery.isSome.toNat) h rfl ?_
  intro done named draft transition warnings added hinv haccepts
  rw [List.countP_append, hinv, List.countP_singleton]
  have hadds := haccepts.adds
  generalize named.2.pattern = pattern at hadds ⊢
  cases hadds with
  | quick => rfl
  | source hsource =>
      cases pattern with
      | literals | regex => rfl
      | fallback | collector => cases hsource
  | recovery hfirst hrecovery =>
      rw [hfirst, Pattern.recovers_of_recovery? hrecovery]
      rfl

theorem violate_of_addRule {done rest : List NamedRule} {named : NamedRule} {fault : Fault}
    (hdone : done.foldlM (addRule ctx state) { quickOpen } = .ok draft)
    (h : draft.addRule ctx state named = .error fault) :
    RulesViolate ctx state (done ++ named :: rest) fault := by
  obtain ⟨name, rule⟩ := named
  have hmem : (name, rule) ∈ done ++ (name, rule) :: rest := List.mem_append_cons_self
  rw [addRule] at h
  rcases bind_eq_error_iff.mp h with hmoves | ⟨transition, hmoves, h⟩
  · exact violate_of_transitionOf hmem hmoves
  have hmoves := moves_of_transitionOf hmoves
  dsimp only at h
  cases hpattern : rule.pattern with
  | fallback | collector =>
      have hrecovers : rule.pattern.recovers = true := hpattern ▸ rfl
      rw [hpattern] at h
      rcases bind_eq_error_iff.mp h with hadd | ⟨added, -, h⟩
      · exact violate_of_addRecovery hdone hrecovers hmoves hadd
      · cases h
  | literals texts =>
      rw [hpattern] at h
      rcases bind_eq_error_iff.mp h with hadd | ⟨added, -, h⟩
      · exact violate_of_addLiterals hmem hpattern hadd
      · cases h
  | regex source =>
      rw [hpattern] at h
      rcases bind_eq_error_iff.mp h with hadd | ⟨added, -, h⟩
      · exact violate_of_addRegex hmem hpattern hadd
      · cases h

end Draft

/-- If there is no table for some rules, then the rules have the fault that is reported. -/
theorem violate_of_tableOf {fault : Fault} (h : tableOf ctx state rules = .error fault) :
    RulesViolate ctx state rules fault := by
  rcases tableOf_eq_error h with ⟨done, named, rest, draft, rfl, hdone, hadd⟩ |
    ⟨draft, cause, -, hcause, rfl⟩
  · exact Draft.violate_of_addRule hdone hadd
  · rcases Host.buildFault?_eq_some hcause with ⟨source, hsource, hfails⟩ | ⟨rfl, hfull⟩
    · exact .invalidPatterns hsource hfails
    · exact .overfull hfull

end Rules

/-- If no name repeats an earlier one, then each occurs only once. -/
theorem nodup_of_firstRepeated {seen names : List String} (h : firstRepeated seen names = none) :
    (∀ name ∈ names, name ∉ seen) ∧ names.Nodup := by
  induction names generalizing seen with
  | nil => exact ⟨List.forall_mem_nil _, List.nodup_nil⟩
  | cons name rest ih =>
      rw [firstRepeated] at h
      split at h
      next => cases h
      next hseen =>
        obtain ⟨hrest, hnodup⟩ := ih h
        rw [List.contains_iff_mem] at hseen
        refine ⟨List.forall_mem_cons.mpr ⟨hseen, ?_⟩, List.nodup_cons.mpr ⟨?_, hnodup⟩⟩
        · intro other hother hmem
          exact hrest other hother (List.mem_cons_of_mem _ hmem)
        · intro hname
          exact hrest name hname List.mem_cons_self

/-- A name that repeats an earlier one occurs twice. -/
theorem duplicate_of_firstRepeated {seen names : List String} {name : String}
    (h : firstRepeated seen names = some name) :
    name ∈ names ∧ name ∈ seen ∨ List.Duplicate name names := by
  induction names generalizing seen with
  | nil => cases h
  | cons first rest ih =>
      rw [firstRepeated] at h
      split at h
      next hseen =>
        obtain rfl := Option.some.inj h
        exact .inl ⟨List.mem_cons_self, List.contains_iff_mem.mp hseen⟩
      next =>
        rcases ih h with ⟨hrest, hseen⟩ | htwice
        · rcases List.mem_cons.mp hseen with rfl | hseen
          · exact .inr (hrest.duplicate_cons_self)
          · exact .inl ⟨List.mem_cons_of_mem _ hrest, hseen⟩
        · exact .inr (htwice.duplicate_cons _)

variable {d : Declaration} {host : Host} {start : Option String} {stateful : Bool} {config : Config}

theorem wellFormed_of_compile {m : Machine} (h : d.compile host start stateful config = .ok m) :
    d.WellFormed host start stateful config := by
  obtain ⟨hne, hnames, hstart, tables, htables, -⟩ := compile_eq_ok h
  -- Each state has a table for its list of rules.
  have htable : ∀ s ∈ d, ∃ rules t warnings, d.expand s = .ok rules ∧
      tableOf ⟨d, host, stateful, config⟩ s.name rules = .ok (t, warnings) := by
    intro s hs
    obtain ⟨⟨t, warnings⟩, -, rules, hrules, htable⟩ := exists_mem_of_forall₂ htables hs
    exact ⟨rules, t, warnings, hrules, htable⟩
  refine ⟨hne, (nodup_of_firstRepeated hnames).2, ?_, ?_, ?_, ?_, ?_⟩
  · rintro name rfl
    rw [startOf] at hstart
    split at hstart
    next id hid => exact hasState_of_stateId? hid
    next => cases hstart
  · intro s hs target hentry
    obtain ⟨rules, t, warnings, hrules, -⟩ := htable s hs
    exact accounts_of_expand hs hrules _ hentry
  · rintro ⟨name, rule⟩ ⟨s, hs, hentry⟩
    obtain ⟨rules, t, warnings, hrules, hbuilt⟩ := htable s hs
    obtain ⟨draft, hdraft, -⟩ := tableOf_eq_ok hbuilt
    exact Draft.allows_of_addRules hdraft _ (accounts_of_expand hs hrules _ hentry)
  · intro s hs rules hrules
    obtain ⟨rules', t, warnings, hrules', hbuilt⟩ := htable s hs
    obtain rfl := Except.ok.inj (hrules.symm.trans hrules')
    obtain ⟨draft, hdraft, -⟩ := tableOf_eq_ok hbuilt
    rw [Draft.countP_recovers hdraft]
    exact Bool.toNat_le _
  · intro s hs rules hrules
    obtain ⟨rules', t, warnings, hrules', hbuilt⟩ := htable s hs
    obtain rfl := Except.ok.inj (hrules.symm.trans hrules')
    exact builds_of_tableOf hbuilt

/-- A fault that is reported is there. -/
theorem violates_of_compile {fault : Fault}
    (h : d.compile host start stateful config = .error fault) :
    d.Violates host start stateful config fault := by
  rcases compile_eq_error h with ⟨hempty, rfl⟩ | ⟨name, hname, rfl⟩ | ⟨name, rfl, hnone, rfl⟩ |
    ⟨s, hs, hexpand | ⟨rules, hrules, htable⟩⟩
  · exact .noStates hempty
  · rcases duplicate_of_firstRepeated hname with ⟨-, hseen⟩ | htwice
    · cases hseen
    · exact .duplicateState htwice
  · exact .missingStart rfl (stateId?_eq_none_iff.mp hnone)
  · obtain ⟨v, target, hincludes, hentry, hmissing, rfl⟩ := exists_include_of_expand hexpand
    exact .missingInclude hs hincludes hentry hmissing
  · exact .rules hs hrules (violate_of_tableOf htable)

/-- Rules with a fault are not all allowed, or more than one of them recovers, or their patterns do
not build together. -/
theorem RulesViolate.absurd {ctx : Context} {state : String} {rules : List NamedRule}
    {fault : Fault} (h : RulesViolate ctx state rules fault)
    (hallows : ∀ named ∈ rules, Allows ctx named.2)
    (hrecovery : rules.countP (·.2.pattern.recovers) ≤ 1)
    (hpatterns : ctx.host.Builds (sourcesOf ctx.config.quickLookup rules)) : False := by
  cases h with
  | conflictingTransitions mem moves =>
      have hone : (if ctx.stateful then 1 else 0) ≤ 1 := by split <;> decide
      exact Nat.not_le.mpr moves ((hallows _ mem).moves.trans hone)
  | transitionWithoutStates mem stateless moves =>
      have hle := (hallows _ mem).moves
      rw [stateless] at hle
      exact Nat.not_le.mpr moves hle
  | missingState mem leads missing => exact missing ((hallows _ mem).targets _ leads)
  | emptyPop mem pops => exact (hallows _ mem).pops pops
  | transitionOnRecovery mem recovers moves =>
      exact Nat.ne_of_gt moves ((hallows _ mem).stays recovers)
  | secondRecovery both recovers recovers' =>
      have hcount := both.countP_le (p := fun named => named.2.pattern.recovers)
      simp only [List.countP_cons, recovers, recovers', List.countP_nil, if_true] at hcount
      omega
  | emptyPattern mem pattern =>
      have hadmissible := (hallows _ mem).pattern
      rw [pattern] at hadmissible
      exact hadmissible.1 rfl
  | emptyText mem pattern empty =>
      have hadmissible := (hallows _ mem).pattern
      rw [pattern] at hadmissible
      cases hadmissible.2 _ empty
  | emptyMatch mem pattern reads empty =>
      have hadmissible := (hallows _ mem).pattern
      rw [pattern] at hadmissible
      obtain ⟨r, hr, hmin⟩ := hadmissible
      obtain rfl := Except.ok.inj (reads.symm.trans hr)
      exact hmin empty
  | invalidPattern mem pattern fails =>
      have hadmissible := (hallows _ mem).pattern
      rw [pattern] at hadmissible
      obtain ⟨r, hr, -⟩ := hadmissible
      cases fails.symm.trans hr
  | invalidPatterns mem fails =>
      obtain ⟨r, hr⟩ := hpatterns.reads _ mem
      cases fails.symm.trans hr
  | overfull full => exact full hpatterns.room
  | undeclaredLineBreaks mem denies silent breaks =>
      cases breaks.symm.trans ((hallows _ mem).counts denies silent)

theorem WellFormed.not_violates (h : d.WellFormed host start stateful config) (fault : Fault) :
    ¬ d.Violates host start stateful config fault := by
  intro hfault
  cases hfault with
  | noStates empty => exact h.nonempty empty
  | duplicateState twice => exact twice.not_nodup h.distinct
  | missingStart named missing => exact missing (h.start _ named)
  | missingInclude mem includes entry missing =>
      exact missing (h.includes _ (includes.mem mem) _ entry)
  | rules mem expands violate =>
      refine violate.absurd ?_ (h.recovery _ mem _ expands) (h.patterns _ mem _ expands)
      intro named hnamed
      exact h.rules named (declares_of_expand mem expands named hnamed)

theorem exists_compile_iff :
    (∃ m, d.compile host start stateful config = .ok m) ↔
      d.WellFormed host start stateful config := by
  constructor
  · rintro ⟨m, hm⟩
    exact wellFormed_of_compile hm
  · intro h
    cases hcompile : d.compile host start stateful config with
    | ok m => exact ⟨m, rfl⟩
    | error fault => exact absurd (violates_of_compile hcompile) (h.not_violates fault)

/-- A declaration compiles just if it is well-formed. If it does not compile, then it has the fault
that is reported, in the state and the rule that the fault names, and no well-formed declaration has
such a fault. -/
theorem compiles_iff_wellFormed (d : Declaration) (host : Host) (start : Option String)
    (stateful : Bool) (config : Config) :
    ((∃ m, d.compile host start stateful config = .ok m) ↔
      d.WellFormed host start stateful config) ∧
    (∀ fault, d.compile host start stateful config = .error fault →
      d.Violates host start stateful config fault) ∧
    ∀ fault, d.Violates host start stateful config fault →
      ¬ d.WellFormed host start stateful config := by
  refine ⟨exists_compile_iff, fun _ => violates_of_compile, ?_⟩
  intro fault hfault h
  exact h.not_violates fault hfault

/-- Neither state has a fault of its own, but the first one includes a second rule that recovers. -/
def sharedSample : Declaration :=
  [⟨"code", [.include "common", .rule "junk" { pattern := .collector }]⟩,
    ⟨"common", [.rule "other" { pattern := .fallback }]⟩]

theorem compiles_iff_wellFormed_sharedSample :
    sharedSample.compile .standard none true {} = .error (.secondRecovery "code" "other" "junk") ∧
      sharedSample.Violates .standard none true {} (.secondRecovery "code" "other" "junk") ∧
      ¬ sharedSample.WellFormed .standard none true {} := by
  have hfault : sharedSample.compile .standard none true {} =
      .error (.secondRecovery "code" "other" "junk") := rfl
  obtain ⟨-, hviolates, hnot⟩ := compiles_iff_wellFormed sharedSample .standard none true {}
  exact ⟨hfault, hviolates _ hfault, hnot _ (hviolates _ hfault)⟩

end Declaration

end Lexing
