import Lexing.Proofs.Lexer.Stepping

/-!
# Scanning a text

To scan is to take one token after another until there are no more or a call fails. With each token
it is kept which rule it was taken for: the state, and the number of the rule in the list of that
state. The tokens that a session keeps for a lexer have come from such calls too, one after another
from the beginning of the chunk.
-/

namespace Lexing

open Text

/-- A token with the state and the number of the rule that it was taken for. -/
structure Taken where
  token : Token
  state : Nat
  rule : Nat

namespace Lexer

/-- What a call takes, if it takes a token. -/
def taken? (l : Lexer) : Option Taken :=
  match l.next.1, l.select with
  | .ok (some token), some (i, _) => some ⟨token, l.stateId, i⟩
  | _, _ => none

/-- Calls take the given tokens one after another. -/
inductive Runs : Lexer → List Taken → Lexer → Prop
  | nil (l : Lexer) : Runs l [] l
  | cons {l last : Lexer} {x : Taken} {xs : List Taken} (takes : l.taken? = some x)
      (rest : Runs l.next.2 xs last) : Runs l (x :: xs) last

/-- Calls take the given tokens, and the next call takes none. -/
structure Scans (l : Lexer) (xs : List Taken) (last : Lexer) : Prop where
  runs : l.Runs xs last
  ended : last.taken? = none

variable {l last middle : Lexer} {x : Taken} {xs ys : List Taken}

theorem taken?_of_select {c : Char} {rest : List Char} {i n : Nat}
    (hahead : l.cursor.ahead = c :: rest) (hselect : l.select = some (i, n))
    (hunderflow : l.underflow? (l.action i) = none) :
    l.taken? = some ⟨(l.take (l.action i) n).1, l.stateId, i⟩ ∧
      l.next.2 = (l.take (l.action i) n).2 := by
  have hnext := next_of_calls (.token hahead hselect hunderflow)
  rw [taken?, hnext, hselect]
  exact ⟨rfl, rfl⟩

/-- A token that is returned was taken for some rule. -/
theorem exists_taken?_of_token {token : Token} (h : l.next.1 = .ok (some token)) :
    ∃ x, l.taken? = some x ∧ x.token = token := by
  obtain ⟨i, n, -, hselect, -⟩ := exists_of_next_eq_token h
  exact ⟨⟨token, l.stateId, i⟩, by rw [taken?, h, hselect], rfl⟩

theorem next_of_taken? (h : l.taken? = some x) : l.next.1 = .ok (some x.token) := by
  rw [taken?] at h
  split at h
  next token i n hnext _ =>
    obtain rfl := Option.some.inj h
    exact hnext
  next => cases h

theorem select_of_taken? (h : l.taken? = some x) :
    x.state = l.stateId ∧ ∃ n, l.select = some (x.rule, n) := by
  rw [taken?] at h
  split at h
  next token i n _ hselect =>
    obtain rfl := Option.some.inj h
    exact ⟨rfl, n, hselect⟩
  next => cases h

theorem taken?_of_ahead_eq_nil (h : l.cursor.ahead = []) : l.taken? = none := by
  rw [taken?, next_of_calls (.atEnd h)]

/-- A call takes a token just if it returns one. -/
theorem taken?_eq_none_iff : l.taken? = none ↔ ∀ token, l.next.1 ≠ .ok (some token) := by
  cases hnext : l.next with
  | mk result l' =>
      rw [taken?, hnext]
      cases calls_of_next hnext with
      | atEnd | unmatched | underflow => exact iff_of_true rfl nofun
      | token _ hselect =>
          rw [hselect]
          exact iff_of_false nofun fun h => h _ rfl

theorem Runs.machine (h : l.Runs xs last) : last.machine = l.machine := by
  induction h with
  | nil => rfl
  | cons _ _ ih => rw [ih, machine_next]

theorem Runs.chunk (h : l.Runs xs last) : last.cursor.chunk = l.cursor.chunk := by
  induction h with
  | nil => rfl
  | cons _ _ ih => rw [ih, chunk_next]

/-- Each token of a run is returned by a lexer for the same machine. -/
theorem Runs.exists_of_mem (h : l.Runs xs last) (hx : x ∈ xs) :
    ∃ l' : Lexer, l'.machine = l.machine ∧ l'.taken? = some x := by
  induction h with
  | nil => cases hx
  | @cons l last y ys takes _ ih =>
      rcases List.mem_cons.mp hx with rfl | hx
      · exact ⟨l, rfl, takes⟩
      · obtain ⟨l', hmachine, htaken⟩ := ih hx
        exact ⟨l', hmachine.trans machine_next, htaken⟩

theorem Runs.append (h : l.Runs xs middle) (h' : middle.Runs ys last) :
    l.Runs (xs ++ ys) last := by
  induction h with
  | nil => exact h'
  | cons takes _ ih => exact .cons takes (ih h')

/-- Calls one after another that take tokens are a run. -/
theorem exists_runs_after {n : Nat} (h : ∀ i < n, (l.after i).taken?.isSome = true) :
    ∃ xs, xs.length = n ∧ l.Runs xs (l.after n) := by
  induction n with
  | zero => exact ⟨[], rfl, .nil l⟩
  | succ n ih =>
      obtain ⟨xs, rfl, hruns⟩ := ih fun i hi => h i (Nat.lt_succ_of_lt hi)
      obtain ⟨x, hx⟩ := Option.isSome_iff_exists.mp (h _ (Nat.lt_succ_self xs.length))
      exact ⟨xs ++ [x], List.length_append, hruns.append (.cons hx (.nil _))⟩

/-- A scan goes on from where any run ends that begins at the same place. -/
theorem Scans.exists_append (h : l.Scans xs last) (h' : l.Runs ys middle) :
    ∃ zs, xs = ys ++ zs ∧ middle.Scans zs last := by
  induction h' generalizing xs with
  | nil => exact ⟨xs, rfl, h⟩
  | cons takes _ ih =>
      obtain ⟨hruns, hended⟩ := h
      cases hruns with
      | nil => cases hended.symm.trans takes
      | cons takes' hrest =>
          obtain rfl := Option.some.inj (takes.symm.trans takes')
          obtain ⟨zs, rfl, hscans⟩ := ih ⟨hrest, hended⟩
          exact ⟨zs, rfl, hscans⟩

theorem Scans.taken?_eq_some (h : l.Scans (x :: xs) last) : l.taken? = some x := by
  cases h.runs with
  | cons takes _ => exact takes

theorem Scans.tail (h : l.Scans (x :: xs) last) : l.next.2.Scans xs last := by
  cases h.runs with
  | cons _ rest => exact ⟨rest, h.ended⟩

theorem Scans.eq_of_ended (h : l.Scans xs last) (hended : l.taken? = none) :
    xs = [] ∧ last = l := by
  cases h.runs with
  | nil => exact ⟨rfl, rfl⟩
  | cons takes _ => cases hended.symm.trans takes

/-- There is at most one scan from a place. -/
theorem Scans.unique {last' : Lexer} (h : l.Scans xs last) (h' : l.Scans ys last') :
    ys = xs ∧ last' = last := by
  obtain ⟨zs, rfl, hrest⟩ := h.exists_append h'.runs
  obtain ⟨rfl, rfl⟩ := hrest.eq_of_ended h'.ended
  exact ⟨(List.append_nil ys).symm, rfl⟩

end Lexer

/-- One call is a run of one token, or of none. -/
theorem Lexer.exists_runs_next (l : Lexer) :
    ∃ xs, l.Runs xs l.next.2 ∧ xs.map (·.token) = (Reply.next l.next.1).returned := by
  cases hnext : l.next with
  | mk result l' =>
      cases calls_of_next hnext with
      | atEnd | unmatched | underflow => exact ⟨[], .nil _, rfl⟩
      | token =>
          obtain ⟨x, hx, hsame⟩ := exists_taken?_of_token (congrArg Prod.fst hnext)
          have hlast : l.next.2 = _ := congrArg Prod.snd hnext
          exact ⟨[x], .cons hx (hlast ▸ .nil _), congrArg ([·]) hsame⟩

namespace Tokens

theorem exists_runs_next (ts : Tokens) :
    ∃ xs, ts.lexer.Runs xs ts.next.2.lexer ∧
      xs.map (·.token) = (Reply.token? ts.next.1).toList := by
  rw [next]
  split
  next => exact ⟨[], .nil _, rfl⟩
  next =>
    obtain ⟨xs, hruns, htokens⟩ := ts.lexer.exists_runs_next
    split
    case h_1 heq | h_2 heq | h_3 heq =>
      rw [heq] at hruns htokens
      exact ⟨xs, hruns, htokens⟩

/-- To go through the tokens that are left is a run. -/
theorem exists_runs_take (count : Nat) (ts : Tokens) :
    ∃ xs, ts.lexer.Runs xs (take count ts).2.lexer ∧
      xs.map (·.token) = (Reply.tokens (take count ts).1).returned := by
  induction count generalizing ts with
  | zero => exact ⟨[], .nil _, rfl⟩
  | succ count ih =>
      obtain ⟨xs, hruns, htokens⟩ := ts.exists_runs_next
      obtain ⟨ys, hrest, hmore⟩ := ih ts.next.2
      refine ⟨xs ++ ys, hruns.append hrest, ?_⟩
      rw [List.map_append, htokens, hmore]
      simp only [take, Reply.returned, List.filterMap_cons]
      cases Reply.token? ts.next.1 <;> rfl

end Tokens

namespace Tracked

/-- The tokens that are kept for a lexer are those of a run from the beginning of its chunk. -/
def Ran (t : Tracked) : Prop :=
  ∃ (first : Lexer) (xs : List Taken), first.cursor = .ofList t.lexer.cursor.chunk ∧
    first.Runs xs t.lexer ∧ xs.map (·.token) = t.tokens

theorem Ran.of_ofList {l : Lexer} {text : List Char} (h : l.cursor = .ofList text) :
    Ran ⟨l, []⟩ :=
  ⟨l, [], by rw [h, Cursor.chunk_ofList], .nil l, rfl⟩

/-- A run may go on. -/
theorem Ran.append {t : Tracked} (h : t.Ran) {xs : List Taken} {last : Lexer}
    (hruns : t.lexer.Runs xs last) : Ran ⟨last, t.tokens ++ xs.map (·.token)⟩ := by
  obtain ⟨first, before, hfirst, hbefore, htokens⟩ := h
  refine ⟨first, before ++ xs, ?_, hbefore.append hruns, ?_⟩
  · rw [hfirst, hruns.chunk]
  · rw [List.map_append, htokens]

theorem Ran.call {t : Tracked} (h : t.Ran) (c : Call) : (t.call c).Ran := by
  cases c with
  | reset text => exact .of_ofList rfl
  | restore text snapshot =>
      rcases t.lexer.restore_cases text snapshot with hrestored | ⟨e, hfailed⟩
      · simp only [Tracked.call, Lexer.answer, hrestored]
        exact .of_ofList rfl
      · simpa [Tracked.call, Lexer.answer, hfailed, Reply.refills, Reply.returned] using h
  | next =>
      obtain ⟨xs, hruns, htokens⟩ := t.lexer.exists_runs_next
      have hran := h.append hruns
      rw [htokens] at hran
      exact hran
  | tokens count =>
      obtain ⟨xs, hruns, htokens⟩ := Tokens.exists_runs_take count ⟨t.lexer, false⟩
      have hran := h.append hruns
      rw [htokens] at hran
      exact hran
  | save | report => simpa [Tracked.call, Lexer.answer, Reply.refills, Reply.returned] using h

end Tracked

/-- In every session the tokens that are kept for a lexer are those of a run from the beginning of
its chunk. -/
theorem Session.ran_of_run (machines : List Machine) (steps : List Step) :
    ∀ t ∈ (Session.start machines).run steps, t.Ran := by
  refine forall_mem_run (P := Tracked.Ran) (fun t c h => h.call c) ?_ steps
  intro t ht
  obtain ⟨m, -, rfl⟩ := List.mem_map.mp ht
  exact .of_ofList rfl

end Lexing
