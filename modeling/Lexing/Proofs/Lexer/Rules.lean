import Lexing.Proofs.Lexer.Bounds
import Lexing.Proofs.Machine.Agreement

/-!
# The rule that is at work

A lexer works with numbers: that of its current state, and that of the action which is selected
there. In a lexer of a compiled machine both stand for something that is declared, a state and one
of its rules. So what a call does can be told from the declaration.
-/

namespace Lexing

open Text

/-- The rule is the one that the current state of the lexer selects. -/
def Declaration.Selects (d : Declaration) (l : Lexer) (named : NamedRule) : Prop :=
  ∃ s rules i n, d[l.stateId]? = some s ∧ d.expand s = .ok rules ∧ l.select = some (i, n) ∧
    rules[i]? = some named

/-- A call takes a token, and it does so for the rule. -/
def Declaration.Takes (d : Declaration) (l : Lexer) (named : NamedRule) : Prop :=
  (∃ token, l.next.1 = .ok (some token)) ∧ d.Selects l named

namespace Declaration

variable {d : Declaration} {host : Host} {start : Option String} {stateful : Bool} {config : Config}
  {ctx : Context} {rule : Rule} {tr : Option Transition} {l : Lexer}

theorem Moves.pop_iff (h : Moves ctx rule tr) {count : Nat} :
    tr = some (.pop count) ↔ rule.pop = some count := by
  cases h <;> simp_all

/-- The current state has a table for the rules of a declared state. -/
theorem exists_carries_state (h : d.compile host start stateful config = .ok l.machine)
    (hl : l.InBounds) :
    ∃ s rules, d[l.stateId]? = some s ∧ d.expand s = .ok rules ∧
      Carries l.state ⟨d, host, stateful, config⟩ s.name rules :=
  exists_carries h hl.getElem?_stateId

/-- A state that is declared has a table for its rules, whichever lexer is in it. -/
theorem exists_carries_of_getElem? (h : d.compile host start stateful config = .ok l.machine)
    {s : StateDecl} (hs : d[l.stateId]? = some s) :
    ∃ rules, d.expand s = .ok rules ∧ Carries l.state ⟨d, host, stateful, config⟩ s.name rules := by
  have hlt : l.stateId < l.machine.states.length := by
    rw [length_states_of_compile h]
    exact (List.getElem?_eq_some_iff.mp hs).1
  have hstate : l.machine.states[l.stateId]? = some l.state := by
    rw [Lexer.state, Machine.state, List.getElem?_eq_getElem hlt, Option.getD_some]
  obtain ⟨s', rules, hs', hrules, hcarries⟩ := exists_carries h hstate
  obtain rfl := Option.some.inj (hs.symm.trans hs')
  exact ⟨rules, hrules, hcarries⟩

/-- The action that is selected stands for a rule. -/
theorem exists_selects (h : d.compile host start stateful config = .ok l.machine) (hl : l.InBounds)
    {i n : Nat} (hselect : l.select = some (i, n)) :
    ∃ named tr, d.Selects l named ∧ Moves ⟨d, host, stateful, config⟩ named.2 tr ∧
      l.action i = actionOf named.1 named.2 tr := by
  obtain ⟨s, rules, hs, hrules, hcarries⟩ := exists_carries_state h hl
  obtain ⟨named, tr, hi, hmoves, haction⟩ := hcarries.exists_of_select hselect
  refine ⟨named, tr, ⟨s, rules, i, n, hs, hrules, hselect, hi⟩, hmoves, ?_⟩
  rw [Lexer.action, haction, Option.getD_some]

theorem Selects.unique {named named' : NamedRule} (h : d.Selects l named)
    (h' : d.Selects l named') : named' = named := by
  obtain ⟨s, rules, i, n, hs, hrules, hselect, hi⟩ := h
  obtain ⟨s', rules', i', n', hs', hrules', hselect', hi'⟩ := h'
  obtain rfl := Option.some.inj (hs.symm.trans hs')
  obtain rfl := Except.ok.inj (hrules.symm.trans hrules')
  obtain ⟨rfl, rfl⟩ := Prod.mk.inj (Option.some.inj (hselect.symm.trans hselect'))
  exact Option.some.inj (hi'.symm.trans hi)

end Declaration

end Lexing
