import Lexing.Proofs.Lexer.Session

/-!
# What one call for a token does

A call for a token ends in one of four ways. At the end of the chunk it gives nothing, and where no
rule matches or a rule returns from too many states it gives an error; in these cases the lexer
stays as it is. Otherwise it takes a token. All that is kept from call to call follows from this.

What a lexer will do depends on the text ahead, on its position, on its states, and on what the
current state selects. Where the chunk begins, and what has been read of it, makes no difference.
-/

namespace Lexing

open Text

/-- The last state of a stack is never left. -/
theorem Transition.apply_ne_nil {stack : List Nat} (h : stack ≠ []) (tr : Transition) :
    tr.apply stack ≠ [] := by
  obtain ⟨id, rest, rfl⟩ := List.exists_cons_of_ne_nil h
  cases tr with
  | push target | next target => exact List.cons_ne_nil _ _
  | pop count =>
      rw [apply, Ne, List.drop_eq_nil_iff, List.length_cons]
      omega

namespace Lexer

variable {l l' : Lexer}

section Take

variable (l) (a : Action) (n : Nat)

@[simp] theorem text_take : (l.take a n).1.text = String.ofList (l.cursor.ahead.take n) := rfl

@[simp] theorem cursor_take : (l.take a n).2.cursor = l.cursor.advance n := rfl

@[simp] theorem position_take :
    (l.take a n).2.position = (l.position.advance (l.cursor.ahead.take n) a.lineBreaks).1 := rfl

@[simp] theorem stack_take :
    (l.take a n).2.stack = a.transition.elim l.stack (Transition.apply l.stack) := rfl

end Take

/-- A call for a token: what it returns, and the lexer after it. -/
inductive Calls (l : Lexer) : Except ScanError (Option Token) → Lexer → Prop
  | atEnd (hahead : l.cursor.ahead = []) : l.Calls (.ok none) l
  | unmatched {c : Char} {rest : List Char} (hahead : l.cursor.ahead = c :: rest)
      (hselect : l.select = none) :
      l.Calls (.error (.unexpected c l.position l.state.name)) l
  | underflow {c : Char} {rest : List Char} {i n count : Nat} (hahead : l.cursor.ahead = c :: rest)
      (hselect : l.select = some (i, n)) (hunderflow : l.underflow? (l.action i) = some count) :
      l.Calls (.error (.stackUnderflow l.state.name (l.action i).name l.depth count)) l
  | token {c : Char} {rest : List Char} {i n : Nat} (hahead : l.cursor.ahead = c :: rest)
      (hselect : l.select = some (i, n)) (hunderflow : l.underflow? (l.action i) = none) :
      l.Calls (.ok (some (l.take (l.action i) n).1)) (l.take (l.action i) n).2

theorem calls_of_next {result : Except ScanError (Option Token)} (h : l.next = (result, l')) :
    l.Calls result l' := by
  rw [next, Cursor.current?] at h
  split at h
  next hend =>
    obtain ⟨rfl, rfl⟩ := Prod.mk.inj h
    exact .atEnd (List.head?_eq_none_iff.mp hend)
  next c hc =>
    obtain ⟨rest, hahead⟩ := List.head?_eq_some_iff.mp hc
    split at h
    next hselect =>
      obtain ⟨rfl, rfl⟩ := Prod.mk.inj h
      exact .unmatched hahead hselect
    next i n hselect =>
      dsimp only at h
      split at h
      next count hunderflow =>
        obtain ⟨rfl, rfl⟩ := Prod.mk.inj h
        exact .underflow hahead hselect hunderflow
      next hunderflow =>
        obtain ⟨rfl, rfl⟩ := Prod.mk.inj h
        exact .token hahead hselect hunderflow

theorem next_of_calls {result : Except ScanError (Option Token)} (h : l.Calls result l') :
    l.next = (result, l') := by
  cases h with
  | atEnd hahead => simp only [next, Cursor.current?, hahead, List.head?_nil]
  | unmatched hahead hselect =>
      simp only [next, Cursor.current?, hahead, List.head?_cons, hselect]
  | underflow hahead hselect hunderflow | token hahead hselect hunderflow =>
      simp only [next, Cursor.current?, hahead, List.head?_cons, hselect, hunderflow]

/-- A token that is returned was taken for the action that was selected. -/
theorem exists_of_next_eq_token {token : Token} (h : l.next.1 = .ok (some token)) :
    ∃ i n, l.cursor.ahead ≠ [] ∧ l.select = some (i, n) ∧ l.underflow? (l.action i) = none ∧
      token = (l.take (l.action i) n).1 ∧ l.next.2 = (l.take (l.action i) n).2 := by
  cases hnext : l.next with
  | mk result l' =>
      rw [hnext] at h
      cases calls_of_next hnext with
      | atEnd | unmatched | underflow => cases h
      | @token c rest i n hahead hselect hunderflow =>
          obtain rfl := Option.some.inj (Except.ok.inj h)
          exact ⟨i, n, hahead ▸ List.cons_ne_nil c rest, hselect, hunderflow, rfl, rfl⟩

/-- What holds of a lexer, and holds after it has taken a token, holds after a call. -/
theorem next_induction {P : Lexer → Prop} (h : P l)
    (htake : ∀ {c rest i n}, l.cursor.ahead = c :: rest → l.select = some (i, n) →
      l.underflow? (l.action i) = none → P (l.take (l.action i) n).2) : P l.next.2 := by
  cases hnext : l.next with
  | mk result l' =>
      cases calls_of_next hnext with
      | atEnd | unmatched | underflow => exact h
      | token hahead hselect hunderflow => exact htake hahead hselect hunderflow

@[simp] theorem machine_next : l.next.2.machine = l.machine :=
  next_induction (P := fun l' => l'.machine = l.machine) rfl fun _ _ _ => rfl

@[simp] theorem origin_next : l.next.2.origin = l.origin :=
  next_induction (P := fun l' => l'.origin = l.origin) rfl fun _ _ _ => rfl

@[simp] theorem chunk_next : l.next.2.cursor.chunk = l.cursor.chunk :=
  next_induction (P := fun l' => l'.cursor.chunk = l.cursor.chunk) rfl fun _ _ _ =>
    Cursor.chunk_advance _ _

theorem stack_next_ne_nil (h : l.stack ≠ []) : l.next.2.stack ≠ [] := by
  refine next_induction (P := fun l' => l'.stack ≠ []) h ?_
  intro c rest i n _ _ _
  rw [stack_take]
  cases (l.action i).transition with
  | none => exact h
  | some tr => exact tr.apply_ne_nil h

def after (l : Lexer) : Nat → Lexer
  | 0 => l
  | n + 1 => (l.after n).next.2

@[simp] theorem after_zero (l : Lexer) : l.after 0 = l := rfl

/-- What each call keeps is kept by all of them. -/
theorem after_induction {P : Lexer → Prop} (h : P l) (hnext : ∀ l, P l → P l.next.2) (n : Nat) :
    P (l.after n) := by
  induction n with
  | zero => exact h
  | succ n ih => exact hnext _ ih

end Lexer

namespace Tokens

theorem lexer_next (ts : Tokens) :
    ts.next.2.lexer = ts.lexer ∨ ts.next.2.lexer = ts.lexer.next.2 := by
  rw [next]
  split
  next => exact .inl rfl
  next =>
    right
    split
    case h_1 heq | h_2 heq | h_3 heq => rw [heq]

/-- What each call for a token keeps is kept by going through the tokens that are left. -/
theorem lexer_take {P : Lexer → Prop} (hnext : ∀ l, P l → P l.next.2) (count : Nat) (ts : Tokens)
    (h : P ts.lexer) : P (take count ts).2.lexer := by
  induction count generalizing ts with
  | zero => exact h
  | succ count ih =>
      refine ih ts.next.2 ?_
      rcases ts.lexer_next with heq | heq
      · rw [heq]
        exact h
      · rw [heq]
        exact hnext _ h

end Tokens

/-- No call changes the machine. -/
theorem Lexer.machine_answer (l : Lexer) (c : Call) : (l.answer c).2.machine = l.machine := by
  cases c with
  | reset | save | report => rfl
  | restore text s =>
      rcases l.restore_cases text s with heq | ⟨e, heq⟩ <;> rw [answer, heq]
  | next => exact machine_next
  | tokens count =>
      refine Tokens.lexer_take (P := fun l' => l'.machine = l.machine) ?_ count ⟨l, false⟩ rfl
      intro l' h
      rw [machine_next, h]

namespace Session

variable {s : Session} {m : Machine}

theorem machine_step (h : ∀ t ∈ s, t.lexer.machine = m) (a : Step) :
    ∀ t ∈ s.step a, t.lexer.machine = m := by
  refine forall_mem_step a ?_ h
  intro t i c _ ht
  rw [Tracked.call, Lexer.machine_answer, ht]

/-- All lexers of a session that begins with one machine have this machine. -/
theorem machine_run (m : Machine) (steps : List Step) :
    ∀ t ∈ (start [m]).run steps, t.lexer.machine = m := by
  refine forall_mem_run (P := fun t => t.lexer.machine = m) ?_ ?_ steps
  · intro t c ht
    rw [Tracked.call, Lexer.machine_answer, ht]
  · exact List.forall_mem_singleton.mpr rfl

end Session

namespace Lexer

variable {l l' : Lexer}

/-- The lexers have the same text ahead, at the same position, and are in the same states. -/
structure Abreast (l l' : Lexer) : Prop where
  ahead : l'.cursor.ahead = l.cursor.ahead
  position : l'.position = l.position
  stack : l'.stack = l.stack

theorem Abreast.save (h : l.Abreast l') : l'.save = l.save := by
  rw [Lexer.save, Lexer.save, h.position, h.stack]

/-- Lexers that stand at the same place and select the same action do the same. -/
theorem Abreast.next (h : l.Abreast l') (hname : l'.state.name = l.state.name)
    (haction : ∀ i n, l.select = some (i, n) → l'.action i = l.action i)
    (hselect : l'.select = l.select) : l'.next.1 = l.next.1 ∧ l.next.2.Abreast l'.next.2 := by
  have hdepth : l'.depth = l.depth := by rw [depth, depth, h.stack]
  have hunderflow (a : Action) : l'.underflow? a = l.underflow? a := by
    rw [underflow?, underflow?, hdepth]
  have htake (a : Action) (n : Nat) :
      (l'.take a n).1 = (l.take a n).1 ∧ (l.take a n).2.Abreast (l'.take a n).2 := by
    refine ⟨?_, ?_, ?_, ?_⟩
    · simp only [take, h.ahead, h.position]
    · simp only [cursor_take, Cursor.ahead_advance, h.ahead]
    · simp only [position_take, h.ahead, h.position]
    · simp only [stack_take, h.stack]
  cases hnext : l.next with
  | mk result l₁ =>
      cases calls_of_next hnext with
      | atEnd hahead =>
          rw [next_of_calls (.atEnd (h.ahead.trans hahead))]
          exact ⟨rfl, h⟩
      | unmatched hahead hnone =>
          rw [next_of_calls (.unmatched (h.ahead.trans hahead) (hselect.trans hnone)),
            h.position, hname]
          exact ⟨rfl, h⟩
      | underflow hahead hsome hcount =>
          have hsame := haction _ _ hsome
          rw [← hunderflow, ← hsame] at hcount
          rw [next_of_calls (.underflow (h.ahead.trans hahead) (hselect.trans hsome) hcount),
            hname, hsame, hdepth]
          exact ⟨rfl, h⟩
      | token hahead hsome hnone =>
          have hsame := haction _ _ hsome
          rw [← hunderflow, ← hsame] at hnone
          rw [next_of_calls (.token (h.ahead.trans hahead) (hselect.trans hsome) hnone), hsame,
            (htake _ _).1]
          exact ⟨rfl, (htake _ _).2⟩

end Lexer

end Lexing
