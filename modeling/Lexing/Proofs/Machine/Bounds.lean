import Lexing.Proofs.Declaration.Compiling
import Lexing.Proofs.Machine.Selecting
import Lexing.Proofs.Regex.Analysis

/-!
# Compiled machines are within bounds

A machine refers to its states and its actions by numbers: where it begins, where a rule leads, and
what each entry of a table stands for. In a compiled machine all these numbers are in use. A rule is
numbered by the actions before it, and the states it leads to were looked up in the declaration.
-/

namespace Lexing

def Transition.target? : Transition → Option Nat
  | push target | next target => some target
  | pop _ => none

/-- All numbers of the machine refer to something. -/
structure Machine.InBounds (m : Machine) : Prop where
  start : m.start < m.states.length
  tables : ∀ t ∈ m.states, t.Indexed
  targets : ∀ t ∈ m.states, ∀ a ∈ t.actions, ∀ tr ∈ a.transition, ∀ target ∈ tr.target?,
    target < m.states.length

namespace Declaration

variable {d : Declaration}

theorem stateId?_lt {name : String} {id : Nat} (h : d.stateId? name = some id) : id < d.length :=
  (List.findIdx?_eq_some_iff_findIdx_eq.mp h).1

/-- The change of state that a rule asks for, if it asks for one at most. -/
inductive Moves (ctx : Context) (rule : Rule) : Option Transition → Prop
  | stay (hpush : rule.push = none) (hpop : rule.pop = none) (hnext : rule.next = none) :
      Moves ctx rule none
  | push {target : String} {id : Nat} (hstateful : ctx.stateful = true)
      (hpush : rule.push = some target) (hpop : rule.pop = none) (hnext : rule.next = none)
      (hid : ctx.states.stateId? target = some id) : Moves ctx rule (some (.push id))
  | pop {count : Nat} (hstateful : ctx.stateful = true) (hpush : rule.push = none)
      (hpop : rule.pop = some count) (hnext : rule.next = none) (hcount : count ≠ 0) :
      Moves ctx rule (some (.pop count))
  | next {target : String} {id : Nat} (hstateful : ctx.stateful = true) (hpush : rule.push = none)
      (hpop : rule.pop = none) (hnext : rule.next = some target)
      (hid : ctx.states.stateId? target = some id) : Moves ctx rule (some (.next id))

variable {ctx : Context} {state name : String} {rule : Rule} {tr : Option Transition}

theorem stateNamed_eq_ok {target : String} {id : Nat}
    (h : stateNamed ctx state name target = .ok id) : ctx.states.stateId? target = some id := by
  rw [stateNamed] at h
  split at h
  next heq =>
    obtain rfl := Except.ok.inj h
    exact heq
  next => cases h

theorem moves_of_transitionOf (h : transitionOf ctx state name rule = .ok tr) :
    Moves ctx rule tr := by
  -- A change of state is found first, and then it is seen whether there may be one.
  have checked {found : Except Fault Transition}
      (h : (if ctx.stateful then found.map some else .error (.transitionWithoutStates name)) =
        .ok tr) : ctx.stateful = true ∧ ∃ t, found = .ok t ∧ tr = some t := by
    split at h
    next hstateful =>
      cases found with
      | error => cases h
      | ok t => exact ⟨hstateful, t, rfl, (Except.ok.inj h).symm⟩
    next => cases h
  have named {target : String} {f : Nat → Transition} {t : Transition}
      (h : (stateNamed ctx state name target).map f = .ok t) :
      ∃ id, ctx.states.stateId? target = some id ∧ t = f id := by
    cases hid : stateNamed ctx state name target with
    | error => rw [hid] at h; cases h
    | ok id =>
        rw [hid] at h
        exact ⟨id, stateNamed_eq_ok hid, (Except.ok.inj h).symm⟩
  rw [transitionOf] at h
  dsimp only at h
  split at h
  next hpush hpop hnext =>
    obtain rfl := Except.ok.inj h
    exact .stay hpush hpop hnext
  next hpush hpop hnext =>
    obtain ⟨hstateful, t, ht, rfl⟩ := checked h
    obtain ⟨id, hid, rfl⟩ := named ht
    exact .push hstateful hpush hpop hnext hid
  next hpush hpop hnext =>
    obtain ⟨hstateful, t, ht, rfl⟩ := checked h
    split at ht
    next => cases ht
    next hcount =>
      obtain rfl := Except.ok.inj ht
      exact .pop hstateful hpush hpop hnext hcount
  next hpush hpop hnext =>
    obtain ⟨hstateful, t, ht, rfl⟩ := checked h
    obtain ⟨id, hid, rfl⟩ := named ht
    exact .next hstateful hpush hpop hnext hid
  next => cases h

theorem Moves.target_lt {t : Transition} (h : Moves ctx rule (some t)) {target : Nat}
    (htarget : target ∈ t.target?) : target < ctx.states.length := by
  cases h with
  | push _ _ _ _ hid | next _ _ _ _ hid =>
      obtain rfl := Option.some.inj htarget
      exact stateId?_lt hid
  | pop => cases htarget

/-- What a rule asks for depends on the numbers of the states, but not on the settings. -/
theorem Moves.unique {ctx' : Context} {tr' : Option Transition}
    (hstates : ∀ name, ctx'.states.stateId? name = ctx.states.stateId? name)
    (h : Moves ctx rule tr) (h' : Moves ctx' rule tr') : tr' = tr := by
  cases h <;> cases h' <;> simp_all

namespace Draft

variable {rules : List NamedRule} {draft : Draft}

/-- The numbers of a draft are those of its actions. -/
structure Indexed (draft : Draft) : Prop where
  quick : ∀ entry ∈ draft.quick, entry.2 < draft.actions.length
  sources : ∀ entry ∈ draft.sources, entry.1 < draft.actions.length
  recovery : ∀ r ∈ draft.recovery, r.action < draft.actions.length

/-- What is added has the number of the action that is added with it. -/
theorem Indexed.add {pattern : Pattern} {added : Draft} (h : Indexed draft)
    (hadds : draft.Adds pattern added) (a : Action) (warnings : List Warning) :
    Indexed { added with actions := draft.actions ++ [a], warnings } := by
  have hlength : (draft.actions ++ [a]).length = draft.nextAction + 1 := by simp [nextAction]
  have later {k : Nat} (hk : k < draft.actions.length) : k < (draft.actions ++ [a]).length := by
    rw [hlength]
    exact Nat.lt_succ_of_lt hk
  have hquick : ∀ entry ∈ draft.quick, entry.2 < (draft.actions ++ [a]).length := by
    intro entry hentry
    exact later (h.quick entry hentry)
  have hsources : ∀ entry ∈ draft.sources, entry.1 < (draft.actions ++ [a]).length := by
    intro entry hentry
    exact later (h.sources entry hentry)
  have hrecovery : ∀ r ∈ draft.recovery, r.action < (draft.actions ++ [a]).length := by
    intro r hr
    exact later (h.recovery r hr)
  have hnew : draft.nextAction < (draft.actions ++ [a]).length := by
    rw [hlength]
    exact Nat.lt_succ_self _
  cases hadds with
  | @quick texts chars =>
      refine ⟨List.forall_mem_append.mpr ⟨hquick, ?_⟩, hsources, hrecovery⟩
      intro entry hentry
      obtain ⟨c, -, rfl⟩ := List.mem_map.mp hentry
      exact hnew
  | source =>
      refine ⟨hquick, List.forall_mem_append.mpr ⟨hsources, ?_⟩, hrecovery⟩
      exact List.forall_mem_singleton.mpr hnew
  | @recovery pattern r _ hr =>
      refine ⟨hquick, hsources, ?_⟩
      intro r' hr'
      obtain rfl := Option.some.inj hr'
      cases pattern with
      | literals | regex => cases hr
      | fallback | collector =>
          obtain rfl := Option.some.inj hr
          exact hnew

theorem indexed_of_addRules {quickOpen : Bool}
    (h : rules.foldlM (addRule ctx state) { quickOpen } = .ok draft) : Indexed draft := by
  refine addRules_invariant (fun _ draft => Indexed draft) h ?_ ?_
  · exact ⟨List.forall_mem_nil _, List.forall_mem_nil _, fun _ h => nomatch h⟩
  · intro done named draft transition warnings added hinv haccepts
    exact hinv.add haccepts.adds _ _

end Draft

theorem indexed_of_tableOf {rules : List NamedRule} {t : StateTable} {warnings : List Warning}
    (h : tableOf ctx state rules = .ok (t, warnings)) : t.Indexed := by
  obtain ⟨draft, hdraft, hpatterns, -, -, hactions, hquick, hrecovery⟩ := tableOf_eq_ok h
  have hindexed := Draft.indexed_of_addRules hdraft
  refine ⟨?_, ?_, ?_⟩
  · rw [hquick, hactions]
    exact hindexed.quick
  · intro entry hentry
    obtain ⟨source, hsource, hnumber, hparse⟩ :=
      exists_mem_of_forall₂ (Draft.readPatterns_eq_ok hpatterns).flip hentry
    rw [hactions, hnumber]
    exact ⟨hindexed.sources source hsource, Regex.inOrder_of_parse hparse⟩
  · rw [hrecovery, hactions]
    exact hindexed.recovery

variable {host : Host} {start : Option String} {stateful : Bool} {config : Config} {m : Machine}

theorem startOf_lt (hne : d ≠ []) {id : Nat} (h : startOf d start = .ok id) : id < d.length := by
  unfold startOf at h
  split at h
  next =>
    obtain rfl := Except.ok.inj h
    exact List.length_pos_of_ne_nil hne
  next name =>
    split at h
    next heq =>
      obtain rfl := Except.ok.inj h
      exact stateId?_lt heq
    next => cases h

theorem length_states_of_compile (h : d.compile host start stateful config = .ok m) :
    m.states.length = d.length := by
  obtain ⟨-, -, -, tables, htables, hstates, -⟩ := compile_eq_ok h
  rw [hstates, List.length_map, htables.length_eq]

theorem inBounds_of_compile (h : d.compile host start stateful config = .ok m) : m.InBounds := by
  obtain ⟨hne, -, hstart, -⟩ := compile_eq_ok h
  have hlength := length_states_of_compile h
  refine ⟨hlength ▸ startOf_lt hne hstart, ?_, ?_⟩
  · intro t ht
    obtain ⟨k, hk⟩ := List.getElem?_of_mem ht
    obtain ⟨s, rules, warnings, -, -, htable, -⟩ := exists_tableOf h hk
    exact indexed_of_tableOf htable
  · intro t ht a ha tr htr target htarget
    obtain ⟨k, hk⟩ := List.getElem?_of_mem ht
    obtain ⟨s, rules, warnings, -, -, htable, -⟩ := exists_tableOf h hk
    obtain ⟨named, -, hchecked⟩ := exists_mem_of_forall₂ (checked_of_tableOf htable).flip ha
    obtain ⟨transition, hmoves, rfl⟩ := hchecked.stands
    obtain rfl : transition = some tr := htr
    rw [hlength]
    exact (moves_of_transitionOf hmoves).target_lt htarget

end Declaration

end Lexing
