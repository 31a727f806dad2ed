import Lexing.Proofs.Declaration.Warnings

/-!
# Declarations without includes

Each state may be given its list of rules as its entries, so that nothing has to be included any
more. Names stand for the same states as before, so the rules lead to the same states, and the
declaration compiles to the same machine.
-/

namespace Lexing

def Entry.ofRule (named : NamedRule) : Entry := .rule named.1 named.2

namespace Declaration

/-- Each state with its list of rules in place of its entries. -/
def flatten (d : Declaration) : Declaration :=
  d.map fun s => ⟨s.name, (d.rulesOf s).map Entry.ofRule⟩

variable {d d' : Declaration} {host : Host} {stateful : Bool} {config : Config}

theorem map_name_flatten (d : Declaration) : d.flatten.map (·.name) = d.map (·.name) := by
  rw [flatten, List.map_map]
  rfl

theorem stateId?_flatten (d : Declaration) (name : String) :
    d.flatten.stateId? name = d.stateId? name := by
  rw [stateId?, stateId?, flatten, List.findIdx?_map]
  rfl

theorem expandInto_ofRule (owner : String) (n : Nat) (ex : Expansion) (rules : List NamedRule) :
    d.expandInto owner (n + 1) ex (rules.map Entry.ofRule) =
      .ok { ex with rules := ex.rules ++ rules } := by
  induction rules generalizing ex with
  | nil => rw [List.append_nil]; rfl
  | cons named rest ih =>
      have hrest := ih { ex with rules := ex.rules ++ [named] }
      rw [List.append_assoc, List.singleton_append] at hrest
      exact hrest

/-- A state with no includes has just its own rules. -/
theorem expand_ofRule (hne : d ≠ []) (name : String) (rules : List NamedRule) :
    d.expand ⟨name, rules.map Entry.ofRule⟩ = .ok rules := by
  obtain ⟨n, hn⟩ := Nat.exists_eq_add_one.mpr (List.length_pos_of_ne_nil hne)
  rw [expand, hn, expandInto_ofRule]
  rfl

section Tables

variable (h : ∀ name, d'.stateId? name = d.stateId? name)

include h

theorem startOf_congr (start : Option String) : startOf d' start = startOf d start := by
  cases start with
  | none => rfl
  | some name => rw [startOf, startOf, h]

theorem transitionOf_congr :
    transitionOf ⟨d', host, stateful, config⟩ = transitionOf ⟨d, host, stateful, config⟩ := by
  funext state name rule
  simp only [transitionOf, stateNamed, h]

/-- Of the declaration, a table only depends on the numbers of states. -/
theorem tableOf_congr :
    tableOf ⟨d', host, stateful, config⟩ = tableOf ⟨d, host, stateful, config⟩ := by
  have hrule : Draft.addRule ⟨d', host, stateful, config⟩ =
      Draft.addRule ⟨d, host, stateful, config⟩ := by
    funext state draft named
    rw [Draft.addRule, Draft.addRule, transitionOf_congr h]
    rfl
  funext state rules
  rw [tableOf, tableOf, hrule]
  rfl

end Tables

/-- A declaration in which each state has its list of rules compiles to the same machine, if there
is such a list for each state. -/
theorem compile_flatten (hrules : ∀ s ∈ d, ∃ rules, d.expand s = .ok rules) (host : Host)
    (start : Option String) (stateful : Bool) (config : Config) :
    d.flatten.compile host start stateful config = d.compile host start stateful config := by
  have hempty : d.flatten.isEmpty = d.isEmpty := List.isEmpty_map
  have hstate : ∀ s ∈ d,
      (d.flatten.expand ⟨s.name, (d.rulesOf s).map Entry.ofRule⟩ >>=
        tableOf ⟨d.flatten, host, stateful, config⟩ s.name) =
      (d.expand s >>= tableOf ⟨d, host, stateful, config⟩ s.name) := by
    intro s hs
    obtain ⟨rules, hexpand⟩ := hrules s hs
    have hne : d.flatten ≠ [] := mt List.map_eq_nil_iff.mp (List.ne_nil_of_mem hs)
    rw [rulesOf_eq hexpand, expand_ofRule hne, hexpand, tableOf_congr d.stateId?_flatten]
  have htables : d.flatten.mapM (fun s => do
        let rules ← d.flatten.expand s
        tableOf ⟨d.flatten, host, stateful, config⟩ s.name rules) =
      d.mapM (fun s => do
        let rules ← d.expand s
        tableOf ⟨d, host, stateful, config⟩ s.name rules) :=
    mapM_map_of_forall hstate
  rw [compile, compile, hempty, map_name_flatten, startOf_congr d.stateId?_flatten, htables]

end Declaration

end Lexing
