import Lexing.Proofs.Declaration.Accepting
import Lexing.Proofs.Declaration.Alike
import Lexing.Proofs.Machine.Collecting

/-!
# A fallback rule that is made to collect

A rule that falls back may be declared to collect instead, with the same name and the same options.
If the declaration compiled before, then it still does. The states in whose lists the rule stands
now collect with it, and nothing else has changed.
-/

namespace Lexing

/-- The rule with all its options, as one that collects. -/
def Rule.collecting (r : Rule) : Rule := { r with pattern := .collector }

/-- The entry with its rule as one that collects. -/
def Entry.collecting : Entry → Entry
  | .rule name r => .rule name r.collecting
  | .include target => .include target

namespace Declaration

/-- The declaration with the rule of entry `j` of state `k` as one that collects. -/
def collectAt (d : Declaration) (k j : Nat) : Declaration :=
  d.modify k fun s => { s with entries := s.entries.modify j Entry.collecting }

/-- The rule with number `i` in the list of rules of the state with a number. -/
def ruleAt? (d : Declaration) (id i : Nat) : Option NamedRule :=
  d[id]?.bind fun s => (d.expand s).toOption.bind (·[i]?)

/-- Rule `i` in the list of the state is the rule of entry `j` of state `k`: it changes with that
entry. -/
def ComesFrom (d : Declaration) (k j id i : Nat) : Prop :=
  (d.collectAt k j).ruleAt? id i ≠ d.ruleAt? id i

/-- The rule is as before, or it was the given one and collects now. -/
inductive MadeToCollect (named : NamedRule) : NamedRule → NamedRule → Prop
  | same (other : NamedRule) : MadeToCollect named other other
  | made : MadeToCollect named named (named.1, named.2.collecting)

variable {d d' : Declaration} {named x x' : NamedRule} {host : Host} {start : Option String}
  {stateful : Bool} {config : Config}

theorem alike_collectAt {k j : Nat} {s : StateDecl} (hk : d[k]? = some s)
    (hj : s.entries[j]? = some (.rule named.1 named.2)) :
    d.Alike (MadeToCollect named) (d.collectAt k j) := by
  refine forall₂_modify (.refl .same) ?_
  intro u hu
  obtain rfl := Option.some.inj (hk.symm.trans hu)
  refine ⟨rfl, forall₂_modify (.refl .same) ?_⟩
  intro entry hentry
  obtain rfl := Option.some.inj (hj.symm.trans hentry)
  have hmade : MadeToCollect named (named.1, named.2) (named.1, named.2.collecting) := .made
  exact .rule hmade

namespace MadeToCollect

/-- Where the rules are not the same, the given one is made to collect. -/
theorem of_ne {found found' : Option NamedRule} (h : Option.Rel (MadeToCollect named) found found')
    (hne : found' ≠ found) :
    found = some named ∧ found' = some (named.1, named.2.collecting) := by
  cases h with
  | none => exact absurd rfl hne
  | some hmade =>
      cases hmade with
      | same => exact absurd rfl hne
      | made => exact ⟨rfl, rfl⟩

variable (hfallback : named.2.pattern = .fallback) (h : MadeToCollect named x x')

include hfallback h

theorem recovers_eq : x'.2.pattern.recovers = x.2.pattern.recovers := by
  cases h with
  | same => rfl
  | made => rw [hfallback]; rfl

theorem source?_eq : x'.2.pattern.source? = x.2.pattern.source? := by
  cases h with
  | same => rfl
  | made => rw [hfallback]; rfl

theorem staysQuick_eq : x'.2.pattern.staysQuick = x.2.pattern.staysQuick := by
  cases h with
  | same => rfl
  | made => rw [hfallback]; rfl

theorem matchLength?_eq (names : Unicode.Names) (before : Option Char) (ahead : List Char) :
    x'.2.pattern.matchLength? names before ahead =
      x.2.pattern.matchLength? names before ahead := by
  rw [Pattern.matchLength?, Pattern.matchLength?, h.source?_eq hfallback]

theorem allows {ctx ctx' : Context} (hallows : Allows ctx x.2)
    (hstates : ∀ name, ctx'.states.HasState name ↔ ctx.states.HasState name)
    (hhost : ctx'.host = ctx.host) (hstateful : ctx'.stateful = ctx.stateful)
    (hconfig : ctx'.config = ctx.config) : Allows ctx' x'.2 := by
  have hmoves := hallows.moves
  have hpattern := hallows.pattern
  have hcounts := hallows.counts
  rw [← hstateful] at hmoves
  rw [← hhost] at hpattern
  rw [← hconfig, ← hhost] at hcounts
  have htargets : ∀ target, x.2.push = some target ∨ x.2.next = some target →
      ctx'.states.HasState target := by
    intro target htarget
    exact (hstates target).mpr (hallows.targets target htarget)
  cases h with
  | same => exact ⟨hmoves, htargets, hallows.pops, hallows.stays, hpattern, hcounts⟩
  | made =>
      refine ⟨hmoves, htargets, hallows.pops, ?_, trivial, fun _ _ => rfl⟩
      intro _
      exact hallows.stays (by rw [hfallback]; rfl)

end MadeToCollect

/-- As many rules recover as before. -/
theorem countP_recovers_eq (hfallback : named.2.pattern = .fallback) {rules rules' : List NamedRule}
    (h : List.Forall₂ (MadeToCollect named) rules rules') :
    rules'.countP (·.2.pattern.recovers) = rules.countP (·.2.pattern.recovers) := by
  induction h with
  | nil => rfl
  | cons hx _ ih => rw [List.countP_cons, List.countP_cons, ih, hx.recovers_eq hfallback]

/-- The patterns are the same as before. -/
theorem sourcesOf_eq (hfallback : named.2.pattern = .fallback) {rules rules' : List NamedRule}
    (h : List.Forall₂ (MadeToCollect named) rules rules') (quickLookup : Bool) :
    sourcesOf quickLookup rules' = sourcesOf quickLookup rules :=
  sourcesOf_congr (fun _ _ hx => hx.source?_eq hfallback) (fun _ _ hx => hx.staysQuick_eq hfallback)
    h quickLookup

section Changed

variable (halike : d.Alike (MadeToCollect named) d') (hfallback : named.2.pattern = .fallback)

include halike

/-- Each list of rules comes from one of the same rules before the change. -/
theorem exists_expand_of_alike {s' : StateDecl} (hs' : s' ∈ d') {rules' : List NamedRule}
    (h : d'.expand s' = .ok rules') :
    ∃ s ∈ d, ∃ rules, d.expand s = .ok rules ∧
      List.Forall₂ (MadeToCollect named) rules rules' := by
  obtain ⟨s, hs, hsame⟩ := exists_mem_of_forall₂ halike.flip hs'
  obtain ⟨rules, hrules, hrelated⟩ := halike.exists_expand hsame h
  exact ⟨s, hs, rules, hrules, hrelated⟩

include hfallback

/-- What is asked of a declaration is asked of its rules, and the changed rule satisfies what the
rule did. -/
theorem WellFormed.of_madeToCollect (h : d.WellFormed host start stateful config) :
    d'.WellFormed host start stateful config where
  nonempty := by
    rw [← List.length_pos_iff, ← halike.length_eq]
    exact List.length_pos_iff.mpr h.nonempty
  distinct := halike.names_eq ▸ h.distinct
  start name hname := (halike.hasState_iff name).mpr (h.start name hname)
  includes s' hs' target hentry' := by
    obtain ⟨s, hs, hsame⟩ := exists_mem_of_forall₂ halike.flip hs'
    obtain ⟨entry, hentry, hrelated⟩ := exists_mem_of_forall₂ hsame.entries.flip hentry'
    cases hrelated with
    | «include» => exact (halike.hasState_iff target).mpr (h.includes s hs target hentry)
  rules named' hdeclares := by
    obtain ⟨s', hs', hentry'⟩ := hdeclares
    obtain ⟨s, hs, hsame⟩ := exists_mem_of_forall₂ halike.flip hs'
    obtain ⟨entry, hentry, hrelated⟩ := exists_mem_of_forall₂ hsame.entries.flip hentry'
    cases hrelated with
    | @rule name _ rule _ related =>
        have hallows := h.rules (name, rule) ⟨s, hs, hentry⟩
        exact related.allows hfallback hallows halike.hasState_iff rfl rfl rfl
  recovery s' hs' rules' hrules' := by
    obtain ⟨s, hs, rules, hrules, hrelated⟩ := exists_expand_of_alike halike hs' hrules'
    exact (countP_recovers_eq hfallback hrelated).trans_le (h.recovery s hs rules hrules)
  patterns s' hs' rules' hrules' := by
    obtain ⟨s, hs, rules, hrules, hrelated⟩ := exists_expand_of_alike halike hs' hrules'
    rw [sourcesOf_eq hfallback hrelated]
    exact h.patterns s hs rules hrules

end Changed

/-- If an element satisfies what one element at most does, then it is that one. -/
theorem eq_of_countP_le_one {α : Type} {p : α → Bool} {xs : List α} (h : xs.countP p ≤ 1)
    {i j : Nat} {x y : α} (hi : xs[i]? = some x) (hx : p x = true) (hj : xs[j]? = some y)
    (hy : p y = true) : j = i := by
  induction xs generalizing i j with
  | nil => cases hi
  | cons z zs ih =>
      have hlater {w : α} (hw : w ∈ zs) (hpw : p w = true) (hz : p z = true) : False := by
        have hpos := List.countP_pos_iff.mpr ⟨w, hw, hpw⟩
        rw [List.countP_cons, if_pos hz] at h
        omega
      cases i with
      | zero =>
          obtain rfl := Option.some.inj hi
          cases j with
          | zero => rfl
          | succ j => exact (hlater (List.mem_of_getElem? hj) hy hx).elim
      | succ i =>
          cases j with
          | zero =>
              obtain rfl := Option.some.inj hj
              exact (hlater (List.mem_of_getElem? hi) hx hy).elim
          | succ j =>
              rw [List.countP_cons] at h
              exact congrArg (· + 1) (ih (by omega) hi hj)

theorem actionOf_collecting (hfallback : named.2.pattern = .fallback) (tr : Option Transition) :
    actionOf named.1 named.2.collecting tr = (actionOf named.1 named.2 tr).collecting := by
  simp [actionOf, Action.collecting, Rule.collecting, hfallback, Pattern.recovers]

/-- A rule that does not change the state has an action that does not. -/
theorem Carries.getElem?_actions_of_moves {t : StateTable} {ctx : Context} {state : String}
    {rules : List NamedRule} (h : Carries t ctx state rules) {i : Nat} (hi : rules[i]? = some x)
    (hmoves : x.2.moves = 0) : t.actions[i]? = some (actionOf x.1 x.2 none) := by
  obtain ⟨a, ha, tr, htr, rfl⟩ := exists_getElem?_of_forall₂ h.actions.flip hi
  have hnone : tr = none := by
    rw [htr.moves_eq] at hmoves
    cases tr with
    | none => rfl
    | some => cases hmoves
  rw [ha, hnone]

section Tables

variable {t t' : StateTable} {ctx ctx' : Context} {state : String} {rules rules' : List NamedRule}
  {i : Nat}

/-- A table for a list with the rule, and one for the list with the changed rule. -/
theorem Carries.collectsAt (h : Carries t ctx state rules) (h' : Carries t' ctx' state rules')
    (hstates : ∀ name, ctx'.states.stateId? name = ctx.states.stateId? name)
    (hhost : ctx'.host = ctx.host) (hrelated : List.Forall₂ (MadeToCollect named) rules rules')
    (hfallback : named.2.pattern = .fallback) (hi : rules[i]? = some named)
    (hi' : rules'[i]? = some (named.1, named.2.collecting))
    (hone : rules.countP (·.2.pattern.recovers) ≤ 1) (hmoves : named.2.moves = 0) :
    t.CollectsAt t' i (actionOf named.1 named.2 none) := by
  have hrecovers : named.2.pattern.recovers = true := by rw [hfallback]; rfl
  have honly : ∀ j other, rules[j]? = some other → other.2.pattern.recovers = true → j = i :=
    fun j other hj hother => eq_of_countP_le_one hone hi hrecovers hj hother
  have honly' : ∀ j other, rules'[j]? = some other → other.2.pattern.recovers = true → j = i := by
    rw [← countP_recovers_eq hfallback hrelated] at hone
    exact fun j other hj hother => eq_of_countP_le_one hone hi' rfl hj hother
  refine ⟨by rw [h.name, h'.name], ?_, ?_, ?_, ?_, ?_, ?_, ?_⟩
  · intro before ahead
    rw [h.match_eq, h'.match_eq, hhost]
    exact firstMatch?_congr (hrelated.imp fun _ _ hx => hx.matchLength?_eq hfallback _ before ahead)
  · intro before ahead n hfound
    rw [h.match_eq, firstMatch?_eq_some_iff] at hfound
    obtain ⟨⟨other, hother, hlength⟩, -⟩ := hfound
    obtain rfl := Option.some.inj (hi.symm.trans hother)
    rw [Pattern.matchLength?, Pattern.source?_of_recovers hrecovers] at hlength
    cases hlength
  · rw [h.recovery]
    exact recoveryOf_eq hi (by rw [hfallback]; rfl) honly
  · rw [h'.recovery]
    exact recoveryOf_eq hi' rfl honly'
  · exact h.getElem?_actions_of_moves hi hmoves
  · rw [h'.getElem?_actions_of_moves hi' hmoves, actionOf_collecting hfallback]
  · intro j hj
    apply h.getElem?_actions h' hstates
    by_contra hne
    obtain ⟨hnamed, -⟩ := MadeToCollect.of_ne (option_rel_getElem? hrelated j) hne
    exact hj (honly j named hnamed hrecovers)

/-- Either the lists of rules are the same, and the tables agree, or they differ in the one place
where the changed rule stands. -/
theorem Carries.agrees_or_collectsAt (h : Carries t ctx state rules)
    (h' : Carries t' ctx' state rules')
    (hstates : ∀ name, ctx'.states.stateId? name = ctx.states.stateId? name)
    (hhost : ctx'.host = ctx.host) (hrelated : List.Forall₂ (MadeToCollect named) rules rules')
    (hfallback : named.2.pattern = .fallback)
    (hone : rules.countP (·.2.pattern.recovers) ≤ 1) (hmoves : named.2.moves = 0) :
    t.Agrees t' ∧ (∀ i : Nat, rules'[i]? = rules[i]?) ∨
      ∃ i : Nat, t.CollectsAt t' i (actionOf named.1 named.2 none) ∧
        ∀ j : Nat, rules'[j]? ≠ rules[j]? ↔ j = i := by
  have hmade (j : Nat) (hj : rules'[j]? ≠ rules[j]?) :
      rules[j]? = some named ∧ rules'[j]? = some (named.1, named.2.collecting) :=
    MadeToCollect.of_ne (option_rel_getElem? hrelated j) hj
  by_cases hsame : ∀ i : Nat, rules'[i]? = rules[i]?
  · obtain rfl : rules' = rules := List.ext_getElem? hsame
    exact .inl ⟨h.agrees h' hstates hhost, hsame⟩
  · obtain ⟨i, hdiffers⟩ := not_forall.mp hsame
    obtain ⟨hi, hi'⟩ := hmade i hdiffers
    refine .inr ⟨i, h.collectsAt h' hstates hhost hrelated hfallback hi hi' hone hmoves, ?_⟩
    intro j
    constructor
    · intro hj
      have hrecovers : named.2.pattern.recovers = true := by rw [hfallback]; rfl
      exact eq_of_countP_le_one hone hi hrecovers (hmade j hj).1 hrecovers
    · rintro rfl
      exact hdiffers

end Tables

theorem ruleAt?_eq {id i : Nat} {s : StateDecl} {rules : List NamedRule} (hs : d[id]? = some s)
    (h : d.expand s = .ok rules) : d.ruleAt? id i = rules[i]? := by
  rw [ruleAt?, hs, Option.bind_some, h]
  rfl

/-- Where a rule comes from the entry, it is the rule of the entry, before the change and after. -/
theorem ComesFrom.ruleAt?_eq {k j id i : Nat} {s : StateDecl} (h : d.ComesFrom k j id i)
    (hk : d[k]? = some s) (hj : s.entries[j]? = some (.rule named.1 named.2)) :
    d.ruleAt? id i = some named ∧
      (d.collectAt k j).ruleAt? id i = some (named.1, named.2.collecting) := by
  have halike := alike_collectAt hk hj
  have hrule : Option.Rel (MadeToCollect named) (d.ruleAt? id i)
      ((d.collectAt k j).ruleAt? id i) := by
    have hstate := option_rel_getElem? halike id
    rw [ruleAt?, ruleAt?]
    generalize d[id]? = u, (d.collectAt k j)[id]? = u' at hstate ⊢
    cases hstate with
    | none => exact .none
    | @some u u' hsame =>
        have hexpand : InStep (fun _ => False) (fun _ => False)
            (List.Forall₂ (MadeToCollect named)) (d.expand u) ((d.collectAt k j).expand u') :=
          halike.expand hsame
        rw [Option.bind_some, Option.bind_some]
        generalize d.expand u = rules, (d.collectAt k j).expand u' = rules' at hexpand ⊢
        cases hexpand with
        | failed => exact .none
        | done related => exact option_rel_getElem? related i
        | left alone | right _ alone => exact alone.elim
  exact MadeToCollect.of_ne hrule h

/-- The rule stands at least in the list of its own state. -/
theorem exists_comesFrom {m : Machine} {k j : Nat} {s : StateDecl}
    (h : d.compile host start stateful config = .ok m) (hk : d[k]? = some s)
    (hj : s.entries[j]? = some (.rule named.1 named.2))
    (hfallback : named.2.pattern = .fallback) : ∃ i, d.ComesFrom k j k i := by
  have halike := alike_collectAt hk hj
  have hwell := wellFormed_of_compile h
  have hs := List.mem_of_getElem? hk
  obtain ⟨rules, hrules⟩ := exists_expand hwell.includes hs
  obtain ⟨i, hi⟩ := List.getElem?_of_mem (accounts_of_expand hs hrules _ (List.mem_of_getElem? hj))
  obtain ⟨s', hk', hj'⟩ : ∃ s', (d.collectAt k j)[k]? = some s' ∧
      s'.entries[j]? = some (.rule named.1 named.2.collecting) := by
    refine ⟨_, by rw [collectAt, List.getElem?_modify_eq, hk]; rfl, ?_⟩
    rw [List.getElem?_modify_eq, hj]
    rfl
  have hs' := List.mem_of_getElem? hk'
  obtain ⟨rules', hrules'⟩ := exists_expand (hwell.of_madeToCollect halike hfallback).includes hs'
  obtain ⟨i', hi'⟩ :=
    List.getElem?_of_mem (accounts_of_expand hs' hrules' _ (List.mem_of_getElem? hj'))
  -- Only one rule recovers after the change, and it is not the one that was there.
  refine ⟨i, ?_⟩
  rw [ComesFrom, ruleAt?_eq hk hrules, ruleAt?_eq hk' hrules', hi]
  intro hsame
  have hone := (hwell.of_madeToCollect halike hfallback).recovery s' hs' rules' hrules'
  have hrecovers : named.2.pattern.recovers = true := by rw [hfallback]; rfl
  obtain rfl := eq_of_countP_le_one hone hsame hrecovers hi' rfl
  have hnamed := Option.some.inj (hsame.symm.trans hi')
  have hpattern := congrArg (·.2.pattern) hnamed
  cases hfallback.symm.trans hpattern

section Machines

variable {m m' : Machine} {k j : Nat} {s : StateDecl}

/-- A declaration with a fallback rule that is made to collect still compiles. -/
theorem exists_compile_collectAt (h : d.compile host start stateful config = .ok m)
    (hk : d[k]? = some s) (hj : s.entries[j]? = some (.rule named.1 named.2))
    (hfallback : named.2.pattern = .fallback) :
    ∃ m', (d.collectAt k j).compile host start stateful config = .ok m' := by
  have hwell := wellFormed_of_compile h
  exact exists_compile_iff.mpr (hwell.of_madeToCollect (alike_collectAt hk hj) hfallback)

/-- Its machine collects where the rule stands, and is otherwise as before. -/
theorem collects_of_compile (h : d.compile host start stateful config = .ok m)
    (h' : (d.collectAt k j).compile host start stateful config = .ok m') (hk : d[k]? = some s)
    (hj : s.entries[j]? = some (.rule named.1 named.2))
    (hfallback : named.2.pattern = .fallback) :
    m.Collects m' (actionOf named.1 named.2 none) (d.ComesFrom k j) where
  start := by
    obtain ⟨-, -, hstart, -⟩ := compile_eq_ok h
    obtain ⟨-, -, hstart', -⟩ := compile_eq_ok h'
    rw [(alike_collectAt hk hj).startOf_eq] at hstart'
    exact Except.ok.inj (hstart'.symm.trans hstart)
  stays := rfl
  counts := by simp [actionOf, hfallback, Pattern.recovers]
  states id := by
    have halike := alike_collectAt hk hj
    have hlength : m'.states.length = m.states.length := by
      rw [length_states_of_compile h, length_states_of_compile h', halike.length_eq]
    rcases Nat.lt_or_ge id m.states.length with hlt | hge
    · have hid := List.getElem?_eq_getElem hlt
      have hid' := List.getElem?_eq_getElem (hlength ▸ hlt)
      rw [Machine.state, Machine.state, hid, hid', Option.getD_some, Option.getD_some]
      generalize m.states[id] = t, m'.states[id] = t' at hid hid' ⊢
      obtain ⟨u, rules, hu, hrules, hcarries⟩ := exists_carries h hid
      obtain ⟨u', rules', hu', hrules', hcarries'⟩ := exists_carries h' hid'
      obtain ⟨u₀, hu₀, hsame⟩ := exists_getElem?_of_forall₂ halike hu'
      obtain rfl := Option.some.inj (hu.symm.trans hu₀)
      obtain ⟨found, hfound, hrelated⟩ := halike.exists_expand hsame hrules'
      obtain rfl := Except.ok.inj (hrules.symm.trans hfound)
      rw [hsame.name] at hcarries'
      have hfrom (i : Nat) : d.ComesFrom k j id i ↔ rules'[i]? ≠ rules[i]? := by
        rw [ComesFrom, ruleAt?_eq hu hrules, ruleAt?_eq hu' hrules']
      have hwell := wellFormed_of_compile h
      have hmoves : named.2.moves = 0 := by
        have hdeclares : d.Declares named :=
          ⟨s, List.mem_of_getElem? hk, List.mem_of_getElem? hj⟩
        exact (hwell.rules named hdeclares).stays (by rw [hfallback]; rfl)
      have hone := hwell.recovery u (List.mem_of_getElem? hu) rules hrules
      simp only [hfrom, not_not]
      exact hcarries.agrees_or_collectsAt hcarries' halike.stateId?_eq rfl hrelated hfallback hone
        hmoves
    · have hnone := List.getElem?_eq_none hge
      have hnone' := List.getElem?_eq_none (hlength.trans_le hge)
      rw [Machine.state, Machine.state, hnone, hnone']
      refine .inl ⟨.refl _, ?_⟩
      intro i hfrom
      rw [length_states_of_compile h] at hge
      rw [ComesFrom, ruleAt?, ruleAt?, List.getElem?_eq_none hge,
        List.getElem?_eq_none (halike.length_eq ▸ hge)] at hfrom
      exact hfrom rfl

end Machines

end Declaration

end Lexing
