import Lexing.Machine.Compile
import Lexing.Proofs.Declaration.Including

/-!
# Declarations that differ in their rules only

Two declarations may have the same states with the same includes and differ only in what their rules
are. The lists of rules of their states are then put together in the same way: they fail together,
and otherwise they are related rule by rule.
-/

namespace Lexing

/-- The entries are for related rules, or they include the same state. -/
inductive Entry.Alike (R : NamedRule → NamedRule → Prop) : Entry → Entry → Prop
  | rule {name name' : String} {rule rule' : Rule} (related : R (name, rule) (name', rule')) :
      Alike R (.rule name rule) (.rule name' rule')
  | include (target : String) : Alike R (.include target) (.include target)

theorem Entry.Alike.refl {R : NamedRule → NamedRule → Prop} (hR : ∀ named, R named named)
    (entry : Entry) : entry.Alike R entry := by
  cases entry with
  | rule name rule => exact .rule (hR (name, rule))
  | «include» target => exact .include target

/-- The states have the same name, and their entries are alike. -/
structure StateDecl.Alike (R : NamedRule → NamedRule → Prop) (s s' : StateDecl) : Prop where
  name : s'.name = s.name
  entries : List.Forall₂ (Entry.Alike R) s.entries s'.entries

theorem StateDecl.Alike.refl {R : NamedRule → NamedRule → Prop} (hR : ∀ named, R named named)
    (s : StateDecl) : s.Alike R s :=
  ⟨rfl, List.forall₂_same.mpr fun entry _ => .refl hR entry⟩

namespace Declaration

/-- The declarations are alike, state by state. -/
abbrev Alike (R : NamedRule → NamedRule → Prop) (d d' : Declaration) : Prop :=
  List.Forall₂ (StateDecl.Alike R) d d'

variable {R : NamedRule → NamedRule → Prop} {T T' : Fault → Prop} {d d' : Declaration}

theorem Alike.refl (hR : ∀ named, R named named) (d : Declaration) : d.Alike R d :=
  List.forall₂_same.mpr fun s _ => .refl hR s

theorem Alike.mono {S : NamedRule → NamedRule → Prop} (hRS : ∀ named named', R named named' →
    S named named') (h : d.Alike R d') : d.Alike S d' := by
  refine h.imp fun s s' hs => ⟨hs.name, hs.entries.imp fun entry entry' hentry => ?_⟩
  cases hentry with
  | rule related => exact .rule (hRS _ _ related)
  | «include» target => exact .include target

theorem Alike.names_eq (h : d.Alike R d') : d'.map (·.name) = d.map (·.name) := by
  induction h with
  | nil => rfl
  | cons hs _ ih => rw [List.map_cons, List.map_cons, hs.name, ih]

theorem Alike.stateId?_eq (h : d.Alike R d') (name : String) :
    d'.stateId? name = d.stateId? name := by
  induction h with
  | nil => rfl
  | cons hs _ ih =>
      rw [stateId?, stateId?] at ih ⊢
      rw [List.findIdx?_cons, List.findIdx?_cons, hs.name, ih]

theorem Alike.hasState_iff (h : d.Alike R d') (name : String) :
    d'.HasState name ↔ d.HasState name := by
  rw [← not_iff_not, ← stateId?_eq_none_iff, ← stateId?_eq_none_iff, h.stateId?_eq]

theorem Alike.startOf_eq (h : d.Alike R d') (start : Option String) :
    startOf d' start = startOf d start := by
  cases start with
  | none => rfl
  | some name => rw [startOf, startOf, h.stateId?_eq]

/-- The same states have been put in, and their rules are related. -/
structure Expansion.Alike (R : NamedRule → NamedRule → Prop) (ex ex' : Expansion) : Prop where
  visited : ex'.visited = ex.visited
  rules : List.Forall₂ R ex.rules ex'.rules

theorem Alike.entries? (h : d.Alike R d') (name : String) :
    Option.Rel (List.Forall₂ (Entry.Alike R)) (d.entries? name) (d'.entries? name) := by
  induction h with
  | nil => exact .none
  | @cons s s' _ _ hs _ ih =>
      rw [Declaration.entries?, Declaration.entries?] at ih ⊢
      rw [List.find?_cons, List.find?_cons, hs.name]
      cases decide (s.name = name) with
      | true => exact .some hs.entries
      | false => exact ih

/-- What is put in for entries that are alike is alike. -/
theorem Alike.expandInto (h : d.Alike R d') (owner : String) (n : Nat) {ex ex' : Expansion}
    (hex : ex.Alike R ex') {entries entries' : List Entry}
    (hentries : List.Forall₂ (Entry.Alike R) entries entries') :
    InStep T T' (Expansion.Alike R) (d.expandInto owner n ex entries)
      (d'.expandInto owner n ex' entries') := by
  induction n generalizing ex ex' entries entries' with
  | zero => exact .done hex
  | succ n ih =>
      refine InStep.foldlM_of_forall₂ ?_ hentries hex
      intro ex ex' entry entry' hentry hex
      cases hentry with
      | rule related =>
          exact .done ⟨hex.visited, List.rel_append hex.rules (.cons related .nil)⟩
      | «include» target =>
          have hfound := h.entries? target
          dsimp only
          generalize d.entries? target = found, d'.entries? target = found' at hfound ⊢
          cases hfound with
          | none => exact .failed _
          | some hincluded =>
              dsimp only
              rw [hex.visited]
              split
              next => exact .done hex
              next =>
                refine ih ?_ hincluded
                exact ⟨rfl, hex.rules⟩

/-- The lists of rules of states that are alike are related rule by rule. -/
theorem Alike.expand (h : d.Alike R d') {s s' : StateDecl} (hs : s.Alike R s') :
    InStep T T' (List.Forall₂ R) (d.expand s) (d'.expand s') := by
  rw [Declaration.expand, Declaration.expand, hs.name, ← h.length_eq]
  refine (h.expandInto s.name d.length ⟨rfl, .nil⟩ hs.entries).bind ?_
  intro ex ex' hex
  exact .done hex.rules

theorem Alike.exists_expand (h : d.Alike R d') {s s' : StateDecl} (hs : s.Alike R s')
    {rules' : List NamedRule} (h' : d'.expand s' = .ok rules') :
    ∃ rules, d.expand s = .ok rules ∧ List.Forall₂ R rules rules' := by
  have hexpand : InStep (fun _ => False) (fun _ => False) (List.Forall₂ R) (d.expand s)
      (d'.expand s') := h.expand hs
  rw [h'] at hexpand
  exact hexpand.exists_of_ok_right fun _ => id

end Declaration

end Lexing
