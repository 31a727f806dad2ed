import Lexing.Declaration.Basic
import Lexing.Proofs.Steps

/-!
# Rules that are included

A state has its own rules and those of the states that it includes. Whichever way a rule has come
into the list, some state of the declaration declares it. The rules that a state declares itself are
among them. The list can be put together unless some state on the way includes one that is not
declared.
-/

namespace Lexing.Declaration

variable {d : Declaration}

/-- Some state of the declaration has an entry for the rule. -/
def Declares (d : Declaration) (named : NamedRule) : Prop :=
  ∃ s ∈ d, Entry.rule named.1 named.2 ∈ s.entries

theorem declares_of_entries? {name : String} {entries : List Entry}
    (h : d.entries? name = some entries) {named : NamedRule}
    (hnamed : Entry.rule named.1 named.2 ∈ entries) : d.Declares named := by
  obtain ⟨s, hs, rfl⟩ := Option.map_eq_some_iff.mp h
  exact ⟨s, List.mem_of_find?_eq_some hs, hnamed⟩

/-- Entries of the declaration bring in no rules but such as are declared. -/
theorem declares_of_expandInto {owner : String} {n : Nat} {ex ex' : Expansion}
    {entries : List Entry} (h : expandInto d owner n ex entries = .ok ex')
    (hentries : ∀ named : NamedRule, .rule named.1 named.2 ∈ entries → d.Declares named)
    (hrules : ∀ named ∈ ex.rules, d.Declares named) : ∀ named ∈ ex'.rules, d.Declares named := by
  -- The induction is on the depth to which includes nest.
  induction n generalizing ex ex' entries with
  | zero =>
      obtain rfl : ex = ex' := Except.ok.inj h
      exact hrules
  | succ n ih =>
      have hfold := foldlM_invariant
        (fun done ex => done ⊆ entries → ∀ named ∈ ex.rules, d.Declares named) h
        (fun _ => hrules) ?_
      · exact hfold (List.Subset.refl entries)
      · intro done entry ex ex' hinv hstep hdone
        obtain ⟨hdone, hentry⟩ := List.append_subset.mp hdone
        have hrules := hinv hdone
        match entry with
        | .rule name rule =>
            obtain rfl := Except.ok.inj hstep
            rw [List.forall_mem_append, List.forall_mem_singleton]
            exact ⟨hrules, hentries (name, rule) (hentry List.mem_cons_self)⟩
        | .include target =>
            dsimp only at hstep
            split at hstep
            next => cases hstep
            next included hincluded =>
              split at hstep
              next =>
                obtain rfl := Except.ok.inj hstep
                exact hrules
              next => exact ih hstep (fun named => declares_of_entries? hincluded) hrules

/-- The rules of a state with those it includes are all declared. -/
theorem declares_of_expand {s : StateDecl} (hs : s ∈ d) {rules : List NamedRule}
    (h : d.expand s = .ok rules) : ∀ named ∈ rules, d.Declares named := by
  obtain ⟨ex, hex, hrules⟩ := bind_eq_ok_iff.mp h
  obtain rfl := pure_eq_ok_iff.mp hrules
  refine declares_of_expandInto hex ?_ (List.forall_mem_nil _)
  intro named hnamed
  exact ⟨s, hs, hnamed⟩

def HasState (d : Declaration) (name : String) : Prop := ∃ s ∈ d, s.name = name

/-- The second state is the first one, or its rules are included in those of the first, directly or
by way of other states. -/
inductive Includes (d : Declaration) (s : StateDecl) : StateDecl → Prop
  | self : d.Includes s s
  | step {u v : StateDecl} (reaches : d.Includes s u) (entry : .include v.name ∈ u.entries)
      (declared : v ∈ d) : d.Includes s v

theorem stateId?_eq_none_iff {name : String} : d.stateId? name = none ↔ ¬ d.HasState name := by
  simp [stateId?, List.findIdx?_eq_none_iff, HasState]

theorem entries?_eq_none_iff {name : String} : d.entries? name = none ↔ ¬ d.HasState name := by
  simp [entries?, HasState]

theorem exists_of_entries? {name : String} {entries : List Entry}
    (h : d.entries? name = some entries) : ∃ s ∈ d, s.name = name ∧ s.entries = entries := by
  obtain ⟨s, hs, rfl⟩ := Option.map_eq_some_iff.mp h
  exact ⟨s, List.mem_of_find?_eq_some hs, by simpa using List.find?_some hs, rfl⟩

theorem Includes.mem {s v : StateDecl} (hs : s ∈ d) (h : d.Includes s v) : v ∈ d := by
  cases h with
  | self => exact hs
  | step _ _ declared => exact declared

/-- A list of rules cannot be put together only if a state on the way includes one that is not
declared. -/
theorem exists_include_of_expandInto {s u : StateDecl} (hu : d.Includes s u) {owner : String}
    {n : Nat} {ex : Expansion} {fault : Fault}
    (h : expandInto d owner n ex u.entries = .error fault) :
    ∃ v target, d.Includes s v ∧ .include target ∈ v.entries ∧ ¬ d.HasState target ∧
      fault = .missingState owner Fault.includeRule target := by
  induction n generalizing u ex with
  | zero => cases h
  | succ n ih =>
      obtain ⟨done, entry, rest, ex', hentries, -, hstep⟩ := exists_of_foldlM_eq_error h
      have hentry : entry ∈ u.entries := hentries ▸ List.mem_append_cons_self
      cases entry with
      | rule => cases hstep
      | «include» target =>
          dsimp only at hstep
          split at hstep
          next hnone =>
            obtain rfl := Except.error.inj hstep
            exact ⟨u, target, hu, hentry, entries?_eq_none_iff.mp hnone, rfl⟩
          next included hincluded =>
            obtain ⟨v, hv, rfl, rfl⟩ := exists_of_entries? hincluded
            split at hstep
            next => cases hstep
            next => exact ih (.step hu hentry hv) hstep

theorem exists_include_of_expand {s : StateDecl} {fault : Fault} (h : d.expand s = .error fault) :
    ∃ v target, d.Includes s v ∧ .include target ∈ v.entries ∧ ¬ d.HasState target ∧
      fault = .missingState s.name Fault.includeRule target := by
  rcases bind_eq_error_iff.mp h with h | ⟨ex, -, h⟩
  · exact exists_include_of_expandInto .self h
  · cases h

/-- If all states that are included are declared, then every state has its list of rules. -/
theorem exists_expand
    (h : ∀ s ∈ d, ∀ target, .include target ∈ s.entries → d.HasState target) {s : StateDecl}
    (hs : s ∈ d) : ∃ rules, d.expand s = .ok rules := by
  cases hexpand : d.expand s with
  | ok rules => exact ⟨rules, rfl⟩
  | error fault =>
      obtain ⟨v, target, hv, hentry, hmissing, -⟩ := exists_include_of_expand hexpand
      exact absurd (h v (hv.mem hs) target hentry) hmissing

/-- Rules are only ever added at the end. -/
theorem rules_isPrefix_of_expandInto {owner : String} {n : Nat} {ex ex' : Expansion}
    {entries : List Entry} (h : expandInto d owner n ex entries = .ok ex') :
    ex.rules <+: ex'.rules := by
  induction n generalizing ex ex' entries with
  | zero =>
      obtain rfl : ex = ex' := Except.ok.inj h
      exact List.prefix_rfl
  | succ n ih =>
      refine foldlM_invariant (fun _ ex' => ex.rules <+: ex'.rules) h List.prefix_rfl ?_
      intro done entry c c' hinv hstep
      refine hinv.trans ?_
      cases entry with
      | rule name rule =>
          obtain rfl := Except.ok.inj hstep
          exact List.prefix_append _ _
      | «include» target =>
          dsimp only at hstep
          split at hstep
          next => cases hstep
          next included hincluded =>
            split at hstep
            next =>
              obtain rfl := Except.ok.inj hstep
              exact List.prefix_rfl
            next =>
              have hmore := ih hstep
              exact hmore

/-- An entry of a list of rules is accounted for: its rule is in the list, or the state that it
includes is declared. -/
def Accounts (d : Declaration) (rules : List NamedRule) : Entry → Prop
  | .rule name rule => (name, rule) ∈ rules
  | .include target => d.HasState target

theorem Accounts.mono {rules rules' : List NamedRule} (hsubset : rules ⊆ rules') {entry : Entry}
    (h : d.Accounts rules entry) : d.Accounts rules' entry := by
  cases entry with
  | rule name rule => exact hsubset h
  | «include» target => exact h

theorem accounts_of_expandInto {owner : String} {n : Nat} {ex ex' : Expansion}
    {entries : List Entry} (h : expandInto d owner (n + 1) ex entries = .ok ex') :
    ∀ entry ∈ entries, d.Accounts ex'.rules entry := by
  refine foldlM_invariant (fun done ex => ∀ entry ∈ done, d.Accounts ex.rules entry) h
    (List.forall_mem_nil _) ?_
  intro done entry ex ex' hinv hstep
  rw [List.forall_mem_append, List.forall_mem_singleton]
  cases entry with
  | rule name rule =>
      obtain rfl := Except.ok.inj hstep
      refine ⟨?_, List.mem_append_right _ List.mem_cons_self⟩
      intro entry hentry
      exact (hinv entry hentry).mono (List.subset_append_left _ _)
  | «include» target =>
      dsimp only at hstep
      split at hstep
      next => cases hstep
      next included hincluded =>
        obtain ⟨v, hv, hname, -⟩ := exists_of_entries? hincluded
        refine ⟨?_, v, hv, hname⟩
        split at hstep
        next =>
          obtain rfl := Except.ok.inj hstep
          exact hinv
        next =>
          intro entry hentry
          exact (hinv entry hentry).mono (rules_isPrefix_of_expandInto hstep).subset

/-- A state that has its list of rules has its own rules in the list, and includes only states that
are declared. -/
theorem accounts_of_expand {s : StateDecl} (hs : s ∈ d) {rules : List NamedRule}
    (h : d.expand s = .ok rules) : ∀ entry ∈ s.entries, d.Accounts rules entry := by
  obtain ⟨ex, hex, hrules⟩ := bind_eq_ok_iff.mp h
  obtain rfl := pure_eq_ok_iff.mp hrules
  obtain ⟨n, hn⟩ := Nat.exists_eq_add_one.mpr (List.length_pos_of_mem hs)
  rw [hn] at hex
  exact accounts_of_expandInto hex

end Lexing.Declaration
