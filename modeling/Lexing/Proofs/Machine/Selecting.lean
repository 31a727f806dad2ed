import Lexing.Machine.Basic
import Lexing.Proofs.Regex.Spans

/-!
# What a state selects

Where nothing matches, a state may go on up to the next place where something does. A table looks
for that place in its two lists apart, and takes the nearer of the two places found. This is the
first place where the table as a whole has a match (`distance?_eq`), so what is selected follows
from what matches, in whichever of the lists a rule stands.

What is selected lies within bounds: it is one of the actions of the table, and its length is at
most that of the text ahead.
-/

namespace Lexing.StateTable

variable (t : StateTable)

/-- The distance to the first place where something matches, which may be here. -/
def matchDistance? (before : Option Char) : List Char → Option Nat
  | [] => if (t.match? before []).isSome then some 0 else none
  | c :: cs =>
    if (t.match? before (c :: cs)).isSome then some 0
    else (matchDistance? (some c) cs).map (· + 1)

theorem nearer_map_succ (x y : Option Nat) :
    nearer (x.map (· + 1)) (y.map (· + 1)) = (nearer x y).map (· + 1) := by
  cases x <;> cases y <;> simp [nearer, Nat.add_min_add_right]

theorem nearer_zero_left (y : Option Nat) : nearer (some 0) y = some 0 := by
  cases y <;> simp [nearer]

theorem nearer_zero_right (x : Option Nat) : nearer x (some 0) = some 0 := by
  cases x <;> simp [nearer]

variable {t} {before : Option Char} {ahead : List Char}

theorem match?_of_quickAction?_eq_none (h : t.quickAction? ahead = none) :
    t.match? before ahead = t.patternMatch? before ahead := by
  rw [match?, h]

/-- The nearer of the two places that a table finds is the first place with a match. -/
theorem nearer_eq_matchDistance? :
    nearer (t.quickDistance? ahead) (t.patternDistance? before ahead) =
      t.matchDistance? before ahead := by
  induction ahead generalizing before with
  | nil =>
      rw [quickDistance?, patternDistance?, matchDistance?, match?_of_quickAction?_eq_none rfl]
      rfl
  | cons c cs ih =>
      have hquick : t.quickDistance? (c :: cs) =
          if (t.quick.lookup c).isSome then some 0 else (t.quickDistance? cs).map (· + 1) :=
        List.findIdx?_cons
      have haction : t.quickAction? (c :: cs) = t.quick.lookup c := rfl
      rw [matchDistance?, hquick]
      cases hlookup : t.quick.lookup c with
      | some action =>
          have hmatch : t.match? before (c :: cs) = some (action, 1) := by
            rw [match?, haction, hlookup]
          simp only [hmatch, Option.isSome_some, if_true, nearer_zero_left]
      | none =>
          rw [patternDistance?, match?_of_quickAction?_eq_none (haction.trans hlookup)]
          by_cases hmatch : (t.patternMatch? before (c :: cs)).isSome = true
          · rw [if_pos hmatch, if_pos hmatch, nearer_zero_right]
          · rw [if_neg hmatch, if_neg hmatch, if_neg (by simp), nearer_map_succ, ih]

theorem distance?_eq :
    t.distance? before ahead = (t.matchDistance? before ahead).filter (0 < ·) := by
  rw [distance?, nearer_eq_matchDistance?]

theorem select_eq_none_iff :
    t.select before ahead = none ↔ t.match? before ahead = none ∧ t.recovery = none := by
  rw [select]
  cases t.match? before ahead with
  | some found => simp
  | none => simp

/-- What is selected where nothing matches is for the action by which the table recovers. -/
theorem recovery_of_select (hmatch : t.match? before ahead = none) {i n : Nat}
    (h : t.select before ahead = some (i, n)) : ∃ r, t.recovery = some r ∧ r.action = i := by
  rw [select, hmatch] at h
  obtain ⟨r, hr, heq⟩ := Option.map_eq_some_iff.mp h
  refine ⟨r, hr, ?_⟩
  cases r with
  | oneCharacter | untilMatch => exact (Prod.mk.inj heq).1

variable {t' : StateTable} {before' : Option Char}

/-- If two tables match alike, then so they do at a distance. Of what lies before the text ahead
only a match at once may take notice. -/
theorem matchDistance?_congr
    (hmatch : ∀ before ahead, t'.match? before ahead = t.match? before ahead)
    (hhere : t'.match? before' ahead = t.match? before ahead) :
    t'.matchDistance? before' ahead = t.matchDistance? before ahead := by
  have hthere (before : Option Char) (ahead : List Char) :
      t'.matchDistance? before ahead = t.matchDistance? before ahead := by
    induction ahead generalizing before with
    | nil => rw [matchDistance?, matchDistance?, hmatch]
    | cons c cs ih => rw [matchDistance?, matchDistance?, hmatch, ih]
  cases ahead with
  | nil => rw [matchDistance?, matchDistance?, hhere]
  | cons c cs => rw [matchDistance?, matchDistance?, hhere, hthere]

/-- Tables that match alike and recover alike select alike. -/
theorem select_congr (hmatch : ∀ before ahead, t'.match? before ahead = t.match? before ahead)
    (hrecovery : t'.recovery = t.recovery)
    (hhere : t'.match? before' ahead = t.match? before ahead) :
    t'.select before' ahead = t.select before ahead := by
  have hdistance : t'.distance? before' ahead = t.distance? before ahead := by
    rw [distance?_eq, distance?_eq, matchDistance?_congr hmatch hhere]
  rw [select, select, hhere, hrecovery, hdistance]

theorem matchDistance?_le {n : Nat} (h : t.matchDistance? before ahead = some n) :
    n ≤ ahead.length := by
  induction ahead generalizing before n with
  | nil =>
      rw [matchDistance?] at h
      split at h
      next => exact (Option.some.inj h).ge
      next => cases h
  | cons c cs ih =>
      rw [matchDistance?] at h
      split at h
      next =>
        obtain rfl := Option.some.inj h
        exact Nat.zero_le _
      next =>
        obtain ⟨k, hk, rfl⟩ := Option.map_eq_some_iff.mp h
        exact Nat.succ_le_succ (ih hk)

/-- The numbers of a table are those of its actions, and its expressions have their bounds in
order. -/
structure Indexed (t : StateTable) : Prop where
  quick : ∀ entry ∈ t.quick, entry.2 < t.actions.length
  patterns : ∀ entry ∈ t.patterns, entry.1 < t.actions.length ∧ entry.2.InOrder
  recovery : ∀ r ∈ t.recovery, r.action < t.actions.length

theorem Indexed.match? (ht : t.Indexed) {i n : Nat} (h : t.match? before ahead = some (i, n)) :
    i < t.actions.length ∧ n ≤ ahead.length := by
  rw [StateTable.match?] at h
  split at h
  next action haction =>
    obtain ⟨rfl, rfl⟩ := Prod.mk.inj (Option.some.inj h)
    obtain ⟨c, hc, hlookup⟩ := Option.bind_eq_some_iff.mp haction
    obtain ⟨rest, rfl⟩ := List.head?_eq_some_iff.mp hc
    obtain ⟨earlier, later, hquick, -⟩ := List.lookup_eq_some_iff.mp hlookup
    exact ⟨ht.quick _ (hquick ▸ List.mem_append_cons_self), Nat.le_add_left _ _⟩
  next =>
    obtain ⟨⟨action, r⟩, hmem, hfound⟩ := List.exists_of_findSome?_eq_some h
    obtain ⟨len, hlen, heq⟩ := Option.map_eq_some_iff.mp hfound
    obtain ⟨rfl, rfl⟩ := Prod.mk.inj heq
    obtain ⟨hlt, horder⟩ := ht.patterns _ hmem
    exact ⟨hlt, (Regex.take_mem_language horder hlen).1⟩

/-- What is selected where a character is ahead lies within bounds. -/
theorem Indexed.select (ht : t.Indexed) (hahead : ahead ≠ []) {i n : Nat}
    (h : t.select before ahead = some (i, n)) : i < t.actions.length ∧ n ≤ ahead.length := by
  rw [StateTable.select] at h
  split at h
  next found hfound =>
    obtain rfl := Option.some.inj h
    exact ht.match? hfound
  next =>
    obtain ⟨r, hr, heq⟩ := Option.map_eq_some_iff.mp h
    have hlt := ht.recovery r hr
    cases r with
    | oneCharacter action =>
        obtain ⟨rfl, rfl⟩ := Prod.mk.inj heq
        exact ⟨hlt, List.length_pos_of_ne_nil hahead⟩
    | untilMatch action =>
        obtain ⟨rfl, rfl⟩ := Prod.mk.inj heq
        refine ⟨hlt, ?_⟩
        rw [distance?_eq]
        cases hdistance : (t.matchDistance? before ahead).filter (0 < ·) with
        | none => exact Nat.le_refl _
        | some n => exact matchDistance?_le (Option.filter_eq_some_iff.mp hdistance).1

end Lexing.StateTable
