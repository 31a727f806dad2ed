import Lexing.Proofs.Machine.Agreement

/-!
# Machines with other numbers for their states

A machine knows its states by their numbers, in the list of its tables and in the changes of state
that actions ask for. If the states of another machine have other numbers throughout, then a change
of state does the same to the stack, up to the numbers, and nothing else depends on them.

A renumbering takes every number to a number. Those that no state has stand for themselves, so it is
also said what becomes of numbers that are wrong.
-/

namespace Lexing

variable {σ : Nat → Nat}

def Transition.renumber (σ : Nat → Nat) : Transition → Transition
  | push target => push (σ target)
  | pop count => pop count
  | next target => next (σ target)

def Action.renumber (σ : Nat → Nat) (a : Action) : Action :=
  { a with transition := a.transition.map (·.renumber σ) }

@[simp] theorem Transition.renumber_id (tr : Transition) : tr.renumber id = tr := by
  cases tr <;> rfl

@[simp] theorem Action.renumber_id (a : Action) : a.renumber id = a := by
  simp [renumber]

/-- A change of state does the same, whatever the numbers of the states are. -/
theorem Transition.apply_renumber (tr : Transition) (stack : List Nat) :
    (tr.renumber σ).apply (stack.map σ) = (tr.apply stack).map σ := by
  cases tr with
  | push target => rfl
  | pop count => rw [renumber, apply, apply, List.length_map, List.map_drop]
  | next target => cases stack <;> rfl

namespace StateTable

/-- The tables agree, but for the numbers of the states that their actions lead to. -/
structure AgreesUnder (σ : Nat → Nat) (t t' : StateTable) : Prop where
  name : t'.name = t.name
  actions : t'.actions = t.actions.map (·.renumber σ)
  recovery : t'.recovery = t.recovery
  match_eq : ∀ before ahead, t'.match? before ahead = t.match? before ahead

variable {t t' : StateTable}

theorem Agrees.agreesUnder (h : t.Agrees t') : t.AgreesUnder id t' where
  name := h.name
  actions := by simp [h.actions]
  recovery := h.recovery
  match_eq := h.match_eq

theorem AgreesUnder.select (h : t.AgreesUnder σ t') (before : Option Char) (ahead : List Char) :
    t'.select before ahead = t.select before ahead :=
  select_congr h.match_eq h.recovery (h.match_eq before ahead)

theorem AgreesUnder.kinds (h : t.AgreesUnder σ t') :
    t'.actions.flatMap Action.kinds = t.actions.flatMap Action.kinds := by
  rw [h.actions, List.flatMap_map]
  rfl

end StateTable

namespace Machine

/-- The second machine has the states of the first one under other numbers. -/
structure Renumbers (σ : Nat → Nat) (m m' : Machine) : Prop where
  start : m'.start = σ m.start
  states : ∀ id, (m.state id).AgreesUnder σ (m'.state (σ id))
  known : ∀ id, σ id < m'.states.length ↔ id < m.states.length
  unknown : ∀ id, m.states.length ≤ id → σ id = id
  onto : Function.Surjective σ
  contextLines : m'.config.contextLines = m.config.contextLines
  overflow : m'.overflow = m.overflow

variable {m m' : Machine}

/-- A kind of token is one of some state. -/
theorem mem_kinds_iff {kind : String} :
    kind ∈ m.kinds ↔ ∃ id, kind ∈ (m.state id).actions.flatMap Action.kinds := by
  rw [kinds, List.mem_flatMap]
  constructor
  · rintro ⟨t, ht, hkind⟩
    obtain ⟨id, hid⟩ := List.getElem?_of_mem ht
    refine ⟨id, ?_⟩
    rw [state, hid]
    exact hkind
  · rintro ⟨id, hkind⟩
    rw [state] at hkind
    cases hid : m.states[id]? with
    | none => rw [hid] at hkind; cases hkind
    | some t =>
        rw [hid] at hkind
        exact ⟨t, List.mem_of_getElem? hid, hkind⟩

theorem Renumbers.mem_kinds_iff (h : m.Renumbers σ m') {kind : String} :
    kind ∈ m'.kinds ↔ kind ∈ m.kinds := by
  rw [Machine.mem_kinds_iff, Machine.mem_kinds_iff, h.onto.exists]
  exact exists_congr fun id => by rw [(h.states id).kinds]

end Machine

end Lexing
