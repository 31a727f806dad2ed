import Lexing.Proofs.Machine.Bounds
import Lexing.Proofs.Machine.Matching

/-!
# Machines for the same declaration

The rules of a state fix the actions of its table, the way it recovers, and what it matches. They do
not fix in which of its lists a rule stands, which is a matter of settings. So the tables that
different settings give for the same rules agree in all that can be seen of them.
-/

namespace Lexing

/-- The tables have the same name and the same actions, and they match and recover alike. -/
structure StateTable.Agrees (t t' : StateTable) : Prop where
  name : t'.name = t.name
  actions : t'.actions = t.actions
  recovery : t'.recovery = t.recovery
  match_eq : ∀ before ahead, t'.match? before ahead = t.match? before ahead

theorem StateTable.Agrees.refl (t : StateTable) : t.Agrees t := ⟨rfl, rfl, rfl, fun _ _ => rfl⟩

theorem StateTable.Agrees.select {t t' : StateTable} (h : t.Agrees t') (before : Option Char)
    (ahead : List Char) : t'.select before ahead = t.select before ahead :=
  select_congr h.match_eq h.recovery (h.match_eq before ahead)

/-- States with the same number agree, also where there is no such state. -/
theorem Machine.state_agrees {m m' : Machine}
    (h : List.Forall₂ StateTable.Agrees m.states m'.states) (id : Nat) :
    (m.state id).Agrees (m'.state id) := by
  rw [state, state]
  rcases Nat.lt_or_ge id m.states.length with hlt | hge
  · have hlt' : id < m'.states.length := h.length_eq ▸ hlt
    rw [List.getElem?_eq_getElem hlt, List.getElem?_eq_getElem hlt']
    exact h.get hlt hlt'
  · rw [List.getElem?_eq_none hge, List.getElem?_eq_none (h.length_eq ▸ hge)]
    exact .refl _

/-- How a state with some rules recovers: by the first rule that does. -/
def recoveryOf (rules : List NamedRule) : Option Recovery :=
  rules.zipIdx.findSome? fun (named, i) => named.2.pattern.recovery? i

theorem recoveryOf_append_singleton (rules : List NamedRule) (named : NamedRule) :
    recoveryOf (rules ++ [named]) =
      (recoveryOf rules).or (named.2.pattern.recovery? rules.length) := by
  simp [recoveryOf, List.zipIdx_append, List.findSome?_append]

/-- A state recovers in the way of the rule with the number of its action. -/
theorem recovery?_of_recoveryOf {rules : List NamedRule} {r : Recovery}
    (h : recoveryOf rules = some r) :
    ∃ named, rules[r.action]? = some named ∧ named.2.pattern.recovery? r.action = some r := by
  obtain ⟨⟨named, i⟩, hmem, hrecovery⟩ := List.exists_of_findSome?_eq_some h
  have haction : r.action = i := by
    cases hpattern : named.2.pattern with
    | literals | regex => simp [Pattern.recovery?, hpattern] at hrecovery
    | fallback | collector =>
        simp only [Pattern.recovery?, hpattern, Option.some.injEq] at hrecovery
        rw [← hrecovery]
        rfl
  rw [haction]
  exact ⟨named, List.mem_zipIdx_iff_getElem?.mp hmem, hrecovery⟩

/-- A state recovers by a rule that is for that purpose. -/
theorem exists_of_recoveryOf {rules : List NamedRule} {r : Recovery}
    (h : recoveryOf rules = some r) :
    ∃ named, rules[r.action]? = some named ∧ named.2.pattern.recovers = true := by
  obtain ⟨named, hnamed, hrecovery⟩ := recovery?_of_recoveryOf h
  exact ⟨named, hnamed, Pattern.recovers_of_recovery? hrecovery⟩

theorem Pattern.recovery?_eq_none_iff {p : Pattern} {action : Nat} :
    p.recovery? action = none ↔ p.recovers = false := by
  cases p <;> simp [recovery?, recovers]

/-- A state does not recover if none of its rules does. -/
theorem recoveryOf_eq_none_iff {rules : List NamedRule} :
    recoveryOf rules = none ↔ ∀ named ∈ rules, named.2.pattern.recovers = false := by
  induction rules using List.reverseRecOn with
  | nil => exact iff_of_true rfl (List.forall_mem_nil _)
  | append_singleton rest named ih =>
      rw [recoveryOf_append_singleton, Option.or_eq_none_iff, ih, Pattern.recovery?_eq_none_iff,
        List.forall_mem_append, List.forall_mem_singleton]

namespace Declaration

variable {ctx ctx' : Context} {state : String} {rules : List NamedRule} {t t' : StateTable}
  {warnings warnings' : List Warning}

theorem Draft.recovery_of_addRules {quickOpen : Bool} {draft : Draft}
    (h : rules.foldlM (addRule ctx state) { quickOpen } = .ok draft) :
    draft.recovery = recoveryOf rules := by
  suffices draft.actions.length = rules.length ∧ draft.recovery = recoveryOf rules from this.2
  refine addRules_invariant (fun rules draft => draft.actions.length = rules.length ∧
    draft.recovery = recoveryOf rules) h ⟨rfl, rfl⟩ ?_
  rintro done named draft transition warnings added ⟨hlength, hrecovery⟩ haccepts
  refine ⟨by simp [hlength], ?_⟩
  rw [recoveryOf_append_singleton, ← hrecovery, ← hlength]
  have hadds := haccepts.adds
  generalize named.2.pattern = pattern at hadds ⊢
  cases hadds with
  | quick => rw [Pattern.recovery?, Option.or_none]
  | source hsource =>
      cases pattern with
      | literals | regex => rw [Pattern.recovery?, Option.or_none, addSource]
      | fallback | collector => cases hsource
  | recovery hfirst hr =>
      rw [hfirst, Option.none_or]
      exact hr.symm

theorem recovery_of_tableOf (h : tableOf ctx state rules = .ok (t, warnings)) :
    t.recovery = recoveryOf rules := by
  obtain ⟨draft, hdraft, -, -, -, -, -, hrecovery⟩ := tableOf_eq_ok h
  rw [hrecovery, Draft.recovery_of_addRules hdraft]

/-- The table is one for the rules: it has an action for each of them, and it matches and recovers
as they do. -/
structure Carries (t : StateTable) (ctx : Context) (state : String) (rules : List NamedRule) :
    Prop where
  name : t.name = state
  actions : List.Forall₂ (fun named action => ∃ tr, Moves ctx named.2 tr ∧
    action = actionOf named.1 named.2 tr) rules t.actions
  match_eq : ∀ before ahead, t.match? before ahead = firstMatch? ctx.host.names rules before ahead
  recovery : t.recovery = recoveryOf rules

theorem carries_of_tableOf (h : tableOf ctx state rules = .ok (t, warnings)) :
    Carries t ctx state rules where
  name := by
    obtain ⟨-, -, -, -, hname, -⟩ := tableOf_eq_ok h
    exact hname
  actions := by
    refine (checked_of_tableOf h).imp ?_
    intro named action hchecked
    obtain ⟨tr, htr, haction⟩ := hchecked.stands
    exact ⟨tr, moves_of_transitionOf htr, haction⟩
  match_eq := StateTable.match?_eq_firstMatch? h
  recovery := recovery_of_tableOf h

/-- What is selected stands for a rule. -/
theorem Carries.exists_of_select (h : Carries t ctx state rules) {before : Option Char}
    {ahead : List Char} {i n : Nat} (hselect : t.select before ahead = some (i, n)) :
    ∃ named tr, rules[i]? = some named ∧ Moves ctx named.2 tr ∧
      t.actions[i]? = some (actionOf named.1 named.2 tr) := by
  obtain ⟨named, hi⟩ : ∃ named, rules[i]? = some named := by
    cases hmatch : t.match? before ahead with
    | none =>
        obtain ⟨r, hr, rfl⟩ := StateTable.recovery_of_select hmatch hselect
        obtain ⟨named, hi, -⟩ := exists_of_recoveryOf (h.recovery.symm.trans hr)
        exact ⟨named, hi⟩
    | some found =>
        rw [StateTable.select, hmatch] at hselect
        obtain rfl := Option.some.inj hselect
        rw [h.match_eq, firstMatch?_eq_some_iff] at hmatch
        obtain ⟨⟨named, hi, -⟩, -⟩ := hmatch
        exact ⟨named, hi⟩
  obtain ⟨action, haction, tr, hmoves, rfl⟩ := exists_getElem?_of_forall₂ h.actions.flip hi
  exact ⟨named, tr, hi, hmoves, haction⟩

/-- Each state of a machine has a table for the rules of the declared state in its place. -/
theorem carries_of_compile {d : Declaration} {host : Host} {start : Option String} {stateful : Bool}
    {config : Config} {m : Machine} (h : d.compile host start stateful config = .ok m) :
    List.Forall₂ (fun s t => ∃ rules, d.expand s = .ok rules ∧
      Carries t ⟨d, host, stateful, config⟩ s.name rules) d m.states := by
  obtain ⟨-, -, -, tables, htables, hstates, -⟩ := compile_eq_ok h
  rw [hstates, List.forall₂_map_right_iff]
  refine htables.imp ?_
  rintro s ⟨t, warnings⟩ ⟨rules, hrules, htable⟩
  exact ⟨rules, hrules, carries_of_tableOf htable⟩

theorem exists_carries {d : Declaration} {host : Host} {start : Option String} {stateful : Bool}
    {config : Config} {m : Machine} (h : d.compile host start stateful config = .ok m) {k : Nat}
    (hk : m.states[k]? = some t) :
    ∃ s rules, d[k]? = some s ∧ d.expand s = .ok rules ∧
      Carries t ⟨d, host, stateful, config⟩ s.name rules := by
  obtain ⟨s, hs, rules, hrules, hcarries⟩ := exists_getElem?_of_forall₂ (carries_of_compile h) hk
  exact ⟨s, rules, hs, hrules, hcarries⟩

/-- The same rule has the same action, in whichever tables. -/
theorem Carries.getElem?_actions {state' : String} {rules' : List NamedRule}
    (h : Carries t ctx state rules) (h' : Carries t' ctx' state' rules')
    (hstates : ∀ name, ctx'.states.stateId? name = ctx.states.stateId? name) {i : Nat}
    (hi : rules'[i]? = rules[i]?) : t'.actions[i]? = t.actions[i]? := by
  cases hrule : rules[i]? with
  | none =>
      have hle := List.getElem?_eq_none_iff.mp hrule
      have hle' := List.getElem?_eq_none_iff.mp (hi.trans hrule)
      rw [h.actions.length_eq] at hle
      rw [h'.actions.length_eq] at hle'
      rw [List.getElem?_eq_none hle, List.getElem?_eq_none hle']
  | some named =>
      obtain ⟨a, ha, tr, hmoves, rfl⟩ := exists_getElem?_of_forall₂ h.actions.flip hrule
      obtain ⟨a', ha', tr', hmoves', rfl⟩ :=
        exists_getElem?_of_forall₂ h'.actions.flip (hi.trans hrule)
      rw [ha, ha', hmoves.unique hstates hmoves']

/-- The rules of a state fix all that can be seen of its table. -/
theorem Carries.agrees (h : Carries t ctx state rules) (h' : Carries t' ctx' state rules)
    (hstates : ∀ name, ctx'.states.stateId? name = ctx.states.stateId? name)
    (hhost : ctx'.host = ctx.host) : t.Agrees t' where
  name := by rw [h.name, h'.name]
  actions := List.ext_getElem? fun _ => h.getElem?_actions h' hstates rfl
  recovery := by rw [h.recovery, h'.recovery]
  match_eq before ahead := by rw [h.match_eq, h'.match_eq, hhost]

/-- So does a declaration for its machines, whatever the settings are. -/
theorem agrees_of_compile {d : Declaration} {host : Host} {start start' : Option String}
    {stateful stateful' : Bool} {config config' : Config} {m m' : Machine}
    (h : d.compile host start stateful config = .ok m)
    (h' : d.compile host start' stateful' config' = .ok m') :
    List.Forall₂ StateTable.Agrees m.states m'.states := by
  refine (forall₂_of_common (carries_of_compile h) (carries_of_compile h')).imp ?_
  rintro t t' ⟨s, -, ⟨rules, hrules, hcarries⟩, rules', hrules', hcarries'⟩
  obtain rfl := Except.ok.inj (hrules.symm.trans hrules')
  exact hcarries.agrees hcarries' (fun _ => rfl) rfl

end Declaration

end Lexing
