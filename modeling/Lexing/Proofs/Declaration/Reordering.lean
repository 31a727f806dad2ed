import Lexing.Proofs.Declaration.Accepting
import Lexing.Proofs.Declaration.Warnings
import Lexing.Proofs.Machine.Renumbering

/-!
# Declarations with their states in another order

States refer to each other by their names. If no two states share a name, the order in which they
are declared decides only under which numbers they are known. The lists of rules are the same in
every order, and so are the tables, with other numbers in them. What is checked is the same as well,
though it is checked in another order, so which fault is found first may differ.
-/

namespace Lexing.Declaration

variable {d d' : Declaration}

/-- The second declaration has the states of the first one in some order. No two share a name. -/
structure Reorders (d d' : Declaration) : Prop where
  perm : d.Perm d'
  distinct : (d.map (·.name)).Nodup

/-- The number of a state in the order of the second declaration. A number that no state has stays
as it is. -/
def renumbering (d d' : Declaration) (id : Nat) : Nat :=
  ((d[id]?).bind fun s => d'.stateId? s.name).getD id

theorem exists_of_stateId? {name : String} {id : Nat} (h : d.stateId? name = some id) :
    ∃ s, d[id]? = some s ∧ s.name = name := by
  obtain ⟨hlt, hname, -⟩ := List.findIdx?_eq_some_iff_getElem.mp h
  exact ⟨d[id], List.getElem?_eq_getElem hlt, of_decide_eq_true hname⟩

/-- If names are distinct, then a state is found by its name. -/
theorem stateId?_name (hdistinct : (d.map (·.name)).Nodup) {id : Nat} {s : StateDecl}
    (h : d[id]? = some s) : d.stateId? s.name = some id := by
  cases hfound : d.stateId? s.name with
  | none => exact absurd ⟨s, List.mem_of_getElem? h, rfl⟩ (stateId?_eq_none_iff.mp hfound)
  | some k =>
      obtain ⟨t, ht, hname⟩ := exists_of_stateId? hfound
      have hlt : k < (d.map (·.name)).length := by
        rw [List.length_map]
        exact (List.getElem?_eq_some_iff.mp ht).1
      have hsame : (d.map (·.name))[k]? = (d.map (·.name))[id]? := by
        rw [List.getElem?_map, List.getElem?_map, ht, h, Option.map_some, Option.map_some, hname]
      rw [(List.getElem?_inj hlt hdistinct).mp hsame]

namespace Reorders

theorem symm (h : d.Reorders d') : d'.Reorders d :=
  ⟨h.perm.symm, (h.perm.map _).nodup_iff.mp h.distinct⟩

theorem hasState_iff (h : d.Reorders d') {name : String} : d'.HasState name ↔ d.HasState name :=
  exists_congr fun _ => and_congr_left' h.perm.mem_iff.symm

/-- A state is under its new number in the new order. -/
theorem getElem?_renumbering (h : d.Reorders d') (id : Nat) :
    d'[renumbering d d' id]? = d[id]? := by
  rw [renumbering]
  cases hs : d[id]? with
  | none =>
      rw [List.getElem?_eq_none_iff, h.perm.length_eq] at hs
      exact List.getElem?_eq_none_iff.mpr hs
  | some s =>
      obtain ⟨k, hk⟩ := List.getElem?_of_mem (h.perm.mem_iff.mp (List.mem_of_getElem? hs))
      rw [Option.bind_some, stateId?_name h.symm.distinct hk, Option.getD_some, hk]

theorem renumbering_of_le {id : Nat} (hle : d.length ≤ id) : renumbering d d' id = id := by
  rw [renumbering, List.getElem?_eq_none hle, Option.bind_none, Option.getD_none]

/-- To go back to the old order takes the new numbers to the old ones. -/
theorem renumbering_renumbering (h : d.Reorders d') (id : Nat) :
    renumbering d d' (renumbering d' d id) = id := by
  have hback := h.symm.getElem?_renumbering id
  rw [renumbering, hback]
  cases hs : d'[id]? with
  | none => exact renumbering_of_le (List.getElem?_eq_none_iff.mp hs)
  | some s => rw [Option.bind_some, stateId?_name h.symm.distinct hs, Option.getD_some]

/-- Names stand for the new numbers in the new order. -/
theorem stateId?_eq (h : d.Reorders d') (name : String) :
    d'.stateId? name = (d.stateId? name).map (renumbering d d') := by
  cases hid : d.stateId? name with
  | none =>
      rw [Option.map_none, stateId?_eq_none_iff, h.hasState_iff]
      exact stateId?_eq_none_iff.mp hid
  | some id =>
      obtain ⟨s, hs, rfl⟩ := exists_of_stateId? hid
      exact stateId?_name h.symm.distinct ((h.getElem?_renumbering id).trans hs)

/-- Whatever the order, a name stands for the same entries. -/
theorem entries?_eq (h : d.Reorders d') (name : String) : d'.entries? name = d.entries? name := by
  have hfind : ∀ d : Declaration, d.find? (·.name = name) = (d.stateId? name).bind (d[·]?) :=
    fun d => List.find?_eq_bind_findIdx?_getElem?
  rw [entries?, entries?, hfind, hfind, h.stateId?_eq, Option.bind_map]
  exact congrArg (Option.map _) (Option.bind_congr fun id _ => h.getElem?_renumbering id)

theorem expandInto_eq (h : d.Reorders d') (owner : String) (n : Nat) :
    d'.expandInto owner n = d.expandInto owner n := by
  induction n with
  | zero => rfl
  | succ n ih =>
      funext ex entries
      -- Of the declaration itself only the entries under a name are used.
      simp only [expandInto, ih, h.entries?_eq]

theorem expand_eq (h : d.Reorders d') (s : StateDecl) : d'.expand s = d.expand s := by
  rw [expand, expand, h.expandInto_eq, h.perm.length_eq]

theorem rulesOf_eq (h : d.Reorders d') (s : StateDecl) : d'.rulesOf s = d.rulesOf s := by
  rw [rulesOf, rulesOf, h.expand_eq]

variable {host : Host} {start : Option String} {stateful : Bool} {config : Config}

theorem wellFormed (h : d.Reorders d') (hd : d.WellFormed host start stateful config) :
    d'.WellFormed host start stateful config where
  nonempty hnil := hd.nonempty (List.perm_nil.mp (hnil ▸ h.perm))
  distinct := h.symm.distinct
  start name hname := h.hasState_iff.mpr (hd.start name hname)
  includes s hs target htarget :=
    h.hasState_iff.mpr (hd.includes s (h.perm.mem_iff.mpr hs) target htarget)
  rules := by
    rintro named ⟨s, hs, hentry⟩
    have hallows := hd.rules named ⟨s, h.perm.mem_iff.mpr hs, hentry⟩
    refine { hallows with targets := ?_ }
    intro target htarget
    exact h.hasState_iff.mpr (hallows.targets target htarget)
  recovery s hs rules hrules :=
    hd.recovery s (h.perm.mem_iff.mpr hs) rules (h.expand_eq s ▸ hrules)
  patterns s hs rules hrules :=
    hd.patterns s (h.perm.mem_iff.mpr hs) rules (h.expand_eq s ▸ hrules)

/-- A declaration compiles in every order, or in none. -/
theorem exists_compile_iff (h : d.Reorders d') :
    (∃ m', d'.compile host start stateful config = .ok m') ↔
      ∃ m, d.compile host start stateful config = .ok m := by
  rw [Declaration.exists_compile_iff, Declaration.exists_compile_iff]
  exact ⟨h.symm.wellFormed, h.wellFormed⟩

end Reorders

section Tables

variable {σ : Nat → Nat} {ctx ctx' : Context} {state : String} {rules : List NamedRule}
  {t t' : StateTable}

theorem Moves.renumber (hstates : ∀ name,
      ctx'.states.stateId? name = (ctx.states.stateId? name).map σ)
    {rule : Rule} {tr tr' : Option Transition} (h : Moves ctx rule tr) (h' : Moves ctx' rule tr') :
    tr' = tr.map (·.renumber σ) := by
  cases h <;> cases h' <;> simp_all [Transition.renumber]

/-- The rules of a state fix its table, but for the numbers of the states that they name. -/
theorem Carries.agreesUnder (hstates : ∀ name,
      ctx'.states.stateId? name = (ctx.states.stateId? name).map σ)
    (h : Carries t ctx state rules) (h' : Carries t' ctx' state rules)
    (hhost : ctx'.host = ctx.host) : t.AgreesUnder σ t' where
  name := by rw [h.name, h'.name]
  actions := by
    have hactions : List.Forall₂ (fun a a' => a.renumber σ = a') t.actions t'.actions := by
      refine (forall₂_of_common h.actions h'.actions).imp ?_
      rintro _ _ ⟨named, -, ⟨tr, hmoves, rfl⟩, tr', hmoves', rfl⟩
      rw [hmoves.renumber hstates hmoves']
      rfl
    rw [← List.forall₂_map_left_iff, List.forall₂_eq_eq_eq] at hactions
    exact hactions.symm
  recovery := by rw [h.recovery, h'.recovery]
  match_eq before ahead := by rw [h.match_eq, h'.match_eq, hhost]

end Tables

variable {name : String} {host : Host} {start : Option String} {stateful : Bool} {config : Config}
  {m m' : Machine}

/-- The states of a machine have the names under which they are declared. -/
theorem stateId?_of_compile (h : d.compile host start stateful config = .ok m) (name : String) :
    m.stateId? name = d.stateId? name := by
  obtain ⟨-, -, -, tables, htables, hstates, -⟩ := compile_eq_ok h
  have hnames : List.Forall₂ (fun s table => table.1.name = s.name) d tables := by
    refine htables.imp ?_
    rintro s ⟨t, warnings⟩ ⟨rules, -, htable⟩
    exact (carries_of_tableOf htable).name
  rw [Machine.stateId?, stateId?, hstates]
  clear h htables hstates
  induction hnames with
  | nil => rfl
  | cons hname _ ih => rw [List.map_cons, List.findIdx?_cons, List.findIdx?_cons, hname, ih]

theorem stateId?_of_startOf {id : Nat} (h : startOf d (some name) = .ok id) :
    d.stateId? name = some id := by
  rw [startOf] at h
  split at h
  next heq => rw [heq, Except.ok.inj h]
  next => cases h

namespace Reorders

/-- States with the same name have tables that agree, but for the numbers of states. -/
theorem agreesUnder (h : d.Reorders d') (hm : d.compile host start stateful config = .ok m)
    (hm' : d'.compile host start stateful config = .ok m') (id : Nat) :
    (m.state id).AgreesUnder (renumbering d d') (m'.state (renumbering d d' id)) := by
  have hsame := h.getElem?_renumbering id
  cases hs : d[id]? with
  | none =>
      -- A number that no state has stands for a table without rules, and it stays as it is.
      have hle := List.getElem?_eq_none_iff.mp hs
      have ht : m.states[id]? = none := by
        rwa [List.getElem?_eq_none_iff, length_states_of_compile hm]
      have ht' : m'.states[id]? = none := by
        rwa [List.getElem?_eq_none_iff, length_states_of_compile hm', ← h.perm.length_eq]
      rw [renumbering_of_le hle, Machine.state, Machine.state, ht, ht']
      exact ⟨rfl, rfl, rfl, fun _ _ => rfl⟩
  | some s =>
      have hlt : id < m.states.length := by
        rw [length_states_of_compile hm]
        exact (List.getElem?_eq_some_iff.mp hs).1
      have hlt' : renumbering d d' id < m'.states.length := by
        rw [length_states_of_compile hm']
        exact (List.getElem?_eq_some_iff.mp (hsame.trans hs)).1
      have ht := List.getElem?_eq_getElem hlt
      have ht' := List.getElem?_eq_getElem hlt'
      obtain ⟨s₁, rules, hs₁, hrules, hcarries⟩ := exists_carries hm ht
      obtain ⟨s₂, rules', hs₂, hrules', hcarries'⟩ := exists_carries hm' ht'
      obtain rfl : s₁ = s₂ := Option.some.inj (hs₁.symm.trans (hsame.symm.trans hs₂))
      rw [h.expand_eq] at hrules'
      obtain rfl : rules = rules' := Except.ok.inj (hrules.symm.trans hrules')
      rw [Machine.state, Machine.state, ht, ht']
      exact hcarries.agreesUnder h.stateId?_eq hcarries' rfl

/-- Machines of the same states in different orders have them under different numbers. -/
theorem renumbers (h : d.Reorders d')
    (hm : d.compile host (some name) stateful config = .ok m)
    (hm' : d'.compile host (some name) stateful config = .ok m') :
    m.Renumbers (renumbering d d') m' where
  start := by
    obtain ⟨-, -, hstart, -⟩ := compile_eq_ok hm
    obtain ⟨-, -, hstart', -⟩ := compile_eq_ok hm'
    have hid := h.stateId?_eq name
    rw [stateId?_of_startOf hstart, stateId?_of_startOf hstart'] at hid
    exact Option.some.inj hid
  states := h.agreesUnder hm hm'
  known id := by
    rw [length_states_of_compile hm, length_states_of_compile hm', ← not_le, ← not_le,
      ← List.getElem?_eq_none_iff, ← List.getElem?_eq_none_iff, h.getElem?_renumbering]
  unknown id hle := by
    rw [length_states_of_compile hm] at hle
    exact renumbering_of_le hle
  onto id := ⟨renumbering d' d id, h.renumbering_renumbering id⟩
  contextLines := by rw [config_of_compile hm, config_of_compile hm']
  overflow := by rw [overflow_of_compile hm, overflow_of_compile hm']

end Reorders

end Lexing.Declaration
