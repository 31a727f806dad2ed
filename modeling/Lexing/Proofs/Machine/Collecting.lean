import Lexing.Proofs.Machine.Agreement

/-!
# Collecting in place of falling back

Where nothing matches, a table may fall back and take one character, or collect and take all
characters up to the next place where something matches. A table that falls back would come to the
same place one character after another, since it goes on falling back until then.
-/

namespace Lexing

/-- The action of a collector: its matches are errors. -/
def Action.collecting (a : Action) : Action := { a with isError := true }

namespace StateTable

/-- The first table falls back with an action, and the second collects with it. In all else the
tables agree. -/
structure CollectsAt (t t' : StateTable) (i : Nat) (a : Action) : Prop where
  name : t'.name = t.name
  match_eq : ∀ before ahead, t'.match? before ahead = t.match? before ahead
  /-- What matches is not for the action. -/
  never : ∀ before ahead n, t.match? before ahead ≠ some (i, n)
  fallsBack : t.recovery = some (.oneCharacter i)
  collects : t'.recovery = some (.untilMatch i)
  action : t.actions[i]? = some a
  action' : t'.actions[i]? = some a.collecting
  others : ∀ j, j ≠ i → t'.actions[j]? = t.actions[j]?

/-- How many characters a collector takes. -/
def gap (t : StateTable) (before : Option Char) (ahead : List Char) : Nat :=
  (t.distance? before ahead).getD ahead.length

variable {t t' : StateTable} {i : Nat} {a : Action} {before : Option Char} {ahead cs : List Char}
  {c : Char}

/-- Where nothing matches, the next place with a match is further on. -/
theorem distance?_cons (h : t.match? before (c :: cs) = none) :
    t.distance? before (c :: cs) = (t.matchDistance? (some c) cs).map (· + 1) := by
  rw [distance?_eq, matchDistance?, h]
  cases t.matchDistance? (some c) cs <;> rfl

/-- A collector takes one character if something matches after it, or if it is the last one. -/
theorem gap_eq_one (h : t.match? before (c :: cs) = none)
    (hnext : cs = [] ∨ t.match? (some c) cs ≠ none) : t.gap before (c :: cs) = 1 := by
  rw [gap, distance?_cons h]
  by_cases hmatch : t.match? (some c) cs = none
  · obtain rfl : cs = [] := hnext.resolve_right (not_not_intro hmatch)
    rw [matchDistance?, hmatch]
    rfl
  · have hzero : t.matchDistance? (some c) cs = some 0 := by
      have hsome : (t.match? (some c) cs).isSome = true := Option.isSome_iff_ne_none.mpr hmatch
      cases cs <;> rw [matchDistance?, if_pos hsome]
    rw [hzero]
    rfl

/-- Otherwise it goes on from there. -/
theorem gap_cons (h : t.match? before (c :: cs) = none) (hne : cs ≠ [])
    (hnext : t.match? (some c) cs = none) :
    t.gap before (c :: cs) = t.gap (some c) cs + 1 := by
  obtain ⟨d, ds, rfl⟩ := List.exists_cons_of_ne_nil hne
  have hfurther : t.matchDistance? (some c) (d :: ds) =
      (t.matchDistance? (some d) ds).map (· + 1) := by
    rw [matchDistance?, hnext]
    rfl
  rw [gap, gap, distance?_cons h, distance?_cons hnext, hfurther]
  cases t.matchDistance? (some d) ds <;> rfl

namespace CollectsAt

theorem select_fallsBack (h : t.CollectsAt t' i a) (hmatch : t.match? before ahead = none) :
    t.select before ahead = some (i, 1) := by
  rw [select, hmatch, h.fallsBack]
  rfl

theorem select_collects (h : t.CollectsAt t' i a) (hmatch : t.match? before ahead = none) :
    t'.select before ahead = some (i, t.gap before ahead) := by
  have hdistance : t'.distance? before ahead = t.distance? before ahead := by
    rw [distance?_eq, distance?_eq, matchDistance?_congr h.match_eq (h.match_eq before ahead)]
  rw [select, h.match_eq, hmatch, h.collects, gap, ← hdistance]
  rfl

/-- Where something matches, both tables select it. -/
theorem select_of_match? (h : t.CollectsAt t' i a) (hmatch : t.match? before ahead ≠ none) :
    ∃ j n, j ≠ i ∧ t.select before ahead = some (j, n) ∧ t'.select before ahead = some (j, n) := by
  obtain ⟨⟨j, n⟩, hfound⟩ := Option.ne_none_iff_exists'.mp hmatch
  refine ⟨j, n, ?_, ?_, ?_⟩
  · rintro rfl
    exact h.never before ahead n hfound
  · rw [select, hfound]
  · rw [select, h.match_eq, hfound]

end CollectsAt

end StateTable

/-- The second machine collects with the action in the states and for the rules that `p` tells,
where the first one falls back. In all else the machines agree. -/
structure Machine.Collects (m m' : Machine) (a : Action) (p : Nat → Nat → Prop) : Prop where
  start : m'.start = m.start
  stays : a.transition = none
  counts : a.lineBreaks = true
  states : ∀ id, (m.state id).Agrees (m'.state id) ∧ (∀ i, ¬ p id i) ∨
    ∃ i, (m.state id).CollectsAt (m'.state id) i a ∧ ∀ j, p id j ↔ j = i

/-- If only one rule recovers, then the state recovers by it. -/
theorem recoveryOf_eq {rules : List NamedRule} {i : Nat} {named : NamedRule}
    (hi : rules[i]? = some named) {r : Recovery}
    (hr : named.2.pattern.recovery? i = some r)
    (honly : ∀ j other, rules[j]? = some other → other.2.pattern.recovers = true → j = i) :
    recoveryOf rules = some r := by
  cases hrecovery : recoveryOf rules with
  | none =>
      have hnot := recoveryOf_eq_none_iff.mp hrecovery named (List.mem_of_getElem? hi)
      cases (Pattern.recovery?_eq_none_iff.mpr hnot).symm.trans hr
  | some found =>
      obtain ⟨other, hother, hfound⟩ := recovery?_of_recoveryOf hrecovery
      have hsame := honly _ other hother (Pattern.recovers_of_recovery? hfound)
      rw [hsame] at hother hfound
      obtain rfl := Option.some.inj (hi.symm.trans hother)
      rw [← hfound, hr]

end Lexing
