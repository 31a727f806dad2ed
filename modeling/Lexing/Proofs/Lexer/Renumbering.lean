import Lexing.Proofs.Lexer.Stepping
import Lexing.Proofs.Machine.Renumbering

/-!
# Lexers with other numbers for their states

A lexer of a renumbered machine, in the same place and in the same states under their new numbers,
does the same as the original. The numbers show only where a snapshot is taken, and they matter only
where one is restored. So a session goes the same way if the numbers in its snapshots are replaced.
-/

namespace Lexing

variable {σ : Nat → Nat} {m m' : Machine}

def Snapshot.renumber (σ : Nat → Nat) (s : Snapshot) : Snapshot := ⟨s.position, s.stack.map σ⟩

def Call.renumber (σ : Nat → Nat) : Call → Call
  | restore text snapshot => restore text (snapshot.renumber σ)
  | c => c

def Reply.renumber (σ : Nat → Nat) : Reply → Reply
  | saved snapshot => saved (snapshot.renumber σ)
  | r => r

def Session.Step.renumber (σ : Nat → Nat) : Step → Step
  | call i c => call i (c.renumber σ)
  | clone i => clone i

@[simp] theorem Snapshot.renumber_id (s : Snapshot) : s.renumber id = s := by
  rw [renumber, List.map_id]

@[simp] theorem Call.renumber_id (c : Call) : c.renumber id = c := by
  cases c <;> simp [renumber]

@[simp] theorem Reply.renumber_id (r : Reply) : r.renumber id = r := by
  cases r <;> simp [renumber]

@[simp] theorem Session.Step.renumber_id (a : Step) : a.renumber id = a := by
  cases a <;> simp [renumber]

@[simp] theorem Reply.refills_renumber (r : Reply) : (r.renumber σ).refills = r.refills := by
  cases r <;> rfl

@[simp] theorem Reply.returned_renumber (r : Reply) : (r.renumber σ).returned = r.returned := by
  cases r <;> rfl

namespace Lexer

variable {l : Lexer}

/-- The lexer with another machine, in states with other numbers. -/
def renumber (l : Lexer) (σ : Nat → Nat) (m' : Machine) : Lexer :=
  { l with machine := m', stack := l.stack.map σ }

theorem depth_renumber : (l.renumber σ m').depth = l.depth := List.length_map σ

theorem underflow?_renumber (a : Action) :
    (l.renumber σ m').underflow? (a.renumber σ) = l.underflow? a := by
  rw [underflow?, underflow?, depth_renumber, Action.renumber]
  cases a.transition with
  | none => rfl
  | some tr => cases tr <;> rfl

/-- The same token is taken, and the states after it are the same. -/
theorem take_renumber (a : Action) (n : Nat) :
    (l.renumber σ m').take (a.renumber σ) n = ((l.take a n).1, (l.take a n).2.renumber σ m') := by
  have hstack : (a.renumber σ).transition.elim (l.stack.map σ) (Transition.apply (l.stack.map σ)) =
      (a.transition.elim l.stack (Transition.apply l.stack)).map σ := by
    rw [Action.renumber]
    cases a.transition with
    | none => rfl
    | some tr => exact tr.apply_renumber l.stack
  rw [take, take, renumber, renumber, hstack]
  rfl

section Machine

variable (h : l.machine.Renumbers σ m')

include h

theorem stateId_renumber : (l.renumber σ m').stateId = σ l.stateId := by
  rw [stateId, stateId, renumber, h.start]
  cases l.stack <;> rfl

theorem state_renumber : l.state.AgreesUnder σ (l.renumber σ m').state := by
  rw [state, state, stateId_renumber h]
  exact h.states l.stateId

theorem select_renumber : (l.renumber σ m').select = l.select :=
  (state_renumber h).select _ _

theorem action_renumber (i : Nat) : (l.renumber σ m').action i = (l.action i).renumber σ := by
  rw [action, action, (state_renumber h).actions, List.getElem?_map]
  cases l.state.actions[i]? <;> rfl

/-- A call for a token has the same result, and the lexer after it has the same states. -/
theorem next_renumber : (l.renumber σ m').next = (l.next.1, l.next.2.renumber σ m') := by
  have hselect := select_renumber h
  have hname := (state_renumber h).name
  cases hnext : l.next with
  | mk result after =>
      cases calls_of_next hnext with
      | atEnd hahead => exact next_of_calls (.atEnd hahead)
      | @unmatched c rest hahead hnone =>
          rw [← hname]
          exact next_of_calls (.unmatched hahead (hselect.trans hnone))
      | @underflow c rest i n count hahead hsome hcount =>
          have hcount' : (l.renumber σ m').underflow? ((l.renumber σ m').action i) =
              some count := by
            rw [action_renumber h, underflow?_renumber, hcount]
          have hcalls := Calls.underflow (l := l.renumber σ m') hahead (hselect.trans hsome) hcount'
          rw [hname, action_renumber h, depth_renumber] at hcalls
          exact next_of_calls hcalls
      | @token c rest i n hahead hsome hnone =>
          have hnone' : (l.renumber σ m').underflow? ((l.renumber σ m').action i) = none := by
            rw [action_renumber h, underflow?_renumber, hnone]
          have hcalls := Calls.token (l := l.renumber σ m') hahead (hselect.trans hsome) hnone'
          rw [action_renumber h, take_renumber] at hcalls
          exact next_of_calls hcalls

end Machine

end Lexer

namespace Tokens

variable {ts : Tokens}

/-- The tokens that are left, taken with another machine in states with other numbers. -/
def renumber (ts : Tokens) (σ : Nat → Nat) (m' : Machine) : Tokens :=
  ⟨ts.lexer.renumber σ m', ts.done⟩

theorem next_renumber (h : ts.lexer.machine.Renumbers σ m') :
    (ts.renumber σ m').next = (ts.next.1, ts.next.2.renumber σ m') := by
  rw [next, next, renumber, Lexer.next_renumber h]
  generalize ts.lexer.next = called
  obtain ⟨result, l⟩ := called
  split
  next => rfl
  next =>
    cases result with
    | error e => rfl
    | ok found => cases found <;> rfl

theorem take_renumber (count : Nat) (ts : Tokens) (h : ts.lexer.machine.Renumbers σ m') :
    take count (ts.renumber σ m') = ((take count ts).1, (take count ts).2.renumber σ m') := by
  induction count generalizing ts with
  | zero => rfl
  | succ count ih =>
      have hmachine : ts.next.2.lexer.machine.Renumbers σ m' := by
        rcases ts.lexer_next with heq | heq
        · rwa [heq]
        · rwa [heq, Lexer.machine_next]
      rw [take, take, next_renumber h]
      dsimp only
      rw [ih _ hmachine]

end Tokens

namespace Lexer

variable {l : Lexer}

/-- A state that is not known is not known under its new number, which is the old one. -/
theorem unknownState?_renumber (h : l.machine.Renumbers σ m') (s : Snapshot) :
    (l.renumber σ m').unknownState? (s.renumber σ) = l.unknownState? s := by
  -- A number is known just if its new one is, so the search stops at the same place.
  have hknown : (fun id => !decide (id < m'.states.length)) ∘ σ =
      fun id => !decide (id < l.machine.states.length) := by
    funext id
    exact congrArg (!·) (decide_eq_decide.mpr (h.known id))
  rw [unknownState?, unknownState?, renumber, Snapshot.renumber, ← List.map_reverse,
    List.find?_map, hknown]
  cases hfound : s.stack.reverse.find? fun id => !decide (id < l.machine.states.length) with
  | none => rfl
  | some id =>
      have hge : l.machine.states.length ≤ id := by simpa using List.find?_some hfound
      rw [Option.map_some, h.unknown id hge]

/-- Every call has the same reply, but for the numbers in a snapshot. -/
theorem answer_renumber (h : l.machine.Renumbers σ m') (c : Call) :
    (l.renumber σ m').answer (c.renumber σ) =
      ((l.answer c).1.renumber σ, (l.answer c).2.renumber σ m') := by
  cases c with
  | reset text =>
      show (l.renumber σ m').answer (.reset text) = _
      rw [answer, answer, reset, reset, renumber, renumber, h.start]
      rfl
  | restore text s =>
      show (l.renumber σ m').answer (.restore text (s.renumber σ)) = _
      rw [answer, answer, restore, restore, unknownState?_renumber h]
      cases l.unknownState? s <;> rfl
  | next =>
      show (l.renumber σ m').answer .next = _
      rw [answer, answer, next_renumber h]
      rfl
  | tokens count =>
      have htake : Tokens.take count ⟨l.renumber σ m', false⟩ =
          ((Tokens.take count ⟨l, false⟩).1, (Tokens.take count ⟨l, false⟩).2.renumber σ m') :=
        Tokens.take_renumber count ⟨l, false⟩ h
      show (l.renumber σ m').answer (.tokens count) = _
      rw [answer, answer, htake]
      rfl
  | save => rfl
  | report token message =>
      show (l.renumber σ m').answer (.report token message) = _
      rw [answer, answer, report, report, renumber, h.contextLines, h.overflow]
      rfl

/-- All that can be asked of the second lexer has the same answer as for the first, but for the
numbers of states. -/
structure Mirrors (σ : Nat → Nat) (l l' : Lexer) : Prop where
  cursor : l'.cursor = l.cursor
  save : l'.save = l.save.renumber σ
  depth : l'.depth = l.depth
  stateId : l'.stateId = σ l.stateId
  stateName : l'.state.name = l.state.name
  has : ∀ kind, l'.has kind = l.has kind
  stateId? : ∀ name, l'.machine.stateId? name = (l.machine.stateId? name).map σ

theorem mirrors_renumber (h : l.machine.Renumbers σ m')
    (hnames : ∀ name, m'.stateId? name = (l.machine.stateId? name).map σ) :
    l.Mirrors σ (l.renumber σ m') where
  cursor := rfl
  save := rfl
  depth := depth_renumber
  stateId := stateId_renumber h
  stateName := (state_renumber h).name
  has kind := by
    rw [Bool.eq_iff_iff, has, has, List.contains_iff_mem, List.contains_iff_mem]
    exact h.mem_kinds_iff
  stateId? := hnames

end Lexer

namespace Tracked

/-- The lexer with another machine, and the tokens that it has returned. -/
def renumber (t : Tracked) (σ : Nat → Nat) (m' : Machine) : Tracked :=
  ⟨t.lexer.renumber σ m', t.tokens⟩

theorem call_renumber {t : Tracked} (h : t.lexer.machine.Renumbers σ m') (c : Call) :
    (t.renumber σ m').call (c.renumber σ) = (t.call c).renumber σ m' := by
  rw [call, call, renumber, Lexer.answer_renumber h]
  dsimp only
  rw [Reply.refills_renumber, Reply.returned_renumber]
  rfl

end Tracked

namespace Session

variable {s : Session}

theorem step_renumber (h : ∀ t ∈ s, t.lexer.machine.Renumbers σ m') (a : Step) :
    step (s.map (·.renumber σ m')) (a.renumber σ) = (s.step a).map (·.renumber σ m') := by
  cases a with
  | call i c =>
      apply List.ext_getElem?
      intro k
      rw [Step.renumber, step, step, List.getElem?_modify, List.getElem?_map, List.getElem?_map,
        List.getElem?_modify]
      cases hk : s[k]? with
      | none => rfl
      | some t =>
          have ht := h t (List.mem_of_getElem? hk)
          split
          next => exact congrArg some (Tracked.call_renumber ht c)
          next => rfl
  | clone i =>
      rw [Step.renumber, step, step, List.map_append, List.getElem?_map]
      cases s[i]? <;> rfl

theorem reply?_renumber (h : ∀ t ∈ s, t.lexer.machine.Renumbers σ m') (a : Step) :
    reply? (s.map (·.renumber σ m')) (a.renumber σ) = (s.reply? a).map (·.renumber σ) := by
  cases a with
  | call i c =>
      rw [Step.renumber, reply?, reply?, List.getElem?_map]
      cases hi : s[i]? with
      | none => rfl
      | some t =>
          have hanswer := Lexer.answer_renumber (h t (List.mem_of_getElem? hi)) c
          exact congrArg (fun answer => some answer.1) hanswer
  | clone => rfl

/-- A session goes the same way with another machine that has the same states under other numbers.
The replies are the same, but for the numbers in snapshots. -/
theorem run_renumber (hm : m.Renumbers σ m') (h : ∀ t ∈ s, t.lexer.machine = m)
    (steps : List Step) :
    replies (s.map (·.renumber σ m')) (steps.map (·.renumber σ)) =
        (s.replies steps).map (·.map (·.renumber σ)) ∧
      run (s.map (·.renumber σ m')) (steps.map (·.renumber σ)) =
        (s.run steps).map (·.renumber σ m') := by
  induction steps generalizing s with
  | nil => exact ⟨rfl, rfl⟩
  | cons a rest ih =>
      have hs : ∀ t ∈ s, t.lexer.machine.Renumbers σ m' := by
        intro t ht
        rw [h t ht]
        exact hm
      obtain ⟨hreplies, hrun⟩ := ih (machine_step h a)
      rw [List.map_cons, replies, replies, reply?_renumber hs, step_renumber hs, hreplies]
      refine ⟨rfl, ?_⟩
      rw [run, List.foldl_cons, step_renumber hs]
      exact hrun

/-- So does a session of new lexers. -/
theorem start_run_renumber (hm : m.Renumbers σ m') (steps : List Step) :
    (start [m']).replies (steps.map (·.renumber σ)) =
        ((start [m]).replies steps).map (·.map (·.renumber σ)) ∧
      (start [m']).run (steps.map (·.renumber σ)) =
        ((start [m]).run steps).map (·.renumber σ m') := by
  have hstart : start [m'] = (start [m]).map (·.renumber σ m') := by
    rw [start, start, List.map_singleton, List.map_singleton, List.map_singleton, Lexer.ofMachine,
      hm.start]
    rfl
  rw [hstart]
  exact run_renumber hm (machine_run m []) steps

end Session

end Lexing
