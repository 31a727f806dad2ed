import Lexing.Lexer.Basic

/-!
# Sessions

A session has some lexers at work, of one machine or of several, and calls them in any order. A
lexer may be cloned at any time. A snapshot may be restored into any lexer, whichever it came from.

For each lexer a session keeps the tokens that were returned since the lexer was last given a text.
A clone has the tokens of its original.
-/

namespace Lexing

namespace Tokens

/-- What the next calls for a token give, one after another. -/
def take : Nat → Tokens → List (Option (Except ScanError Token)) × Tokens
  | 0, ts => ([], ts)
  | n + 1, ts =>
    let (item, ts) := ts.next
    let (items, ts) := take n ts
    (item :: items, ts)

end Tokens

inductive Call where
  | reset (text : List Char)
  | restore (text : List Char) (snapshot : Snapshot)
  | next
  /-- Go through the tokens that are left, asking this number of times. -/
  | tokens (count : Nat)
  | save
  | report (token : Option Token) (message : Option String)

inductive Reply where
  | wasReset
  | restored (result : Except ScanError Unit)
  | next (result : Except ScanError (Option Token))
  | tokens (items : List (Option (Except ScanError Token)))
  | saved (snapshot : Snapshot)
  | reported (message : Option String)

namespace Reply

/-- The lexer has been given a text. -/
def refills : Reply → Bool
  | wasReset | restored (.ok ()) => true
  | _ => false

/-- The token of one call for a token, if there was one. -/
def token? : Option (Except ScanError Token) → Option Token
  | some (.ok token) => some token
  | _ => none

/-- The tokens that a call returned. -/
def returned : Reply → List Token
  | next (.ok (some token)) => [token]
  | tokens items => items.filterMap token?
  | _ => []

end Reply

namespace Lexer

/-- Make a call. -/
def answer (l : Lexer) : Call → Reply × Lexer
  | .reset text => (.wasReset, l.reset text)
  | .restore text snapshot =>
    let (result, l) := l.restore text snapshot
    (.restored result, l)
  | .next =>
    let (result, l) := l.next
    (.next result, l)
  | .tokens count =>
    let (items, ts) := Tokens.take count ⟨l, false⟩
    (.tokens items, ts.lexer)
  | .save => (.saved l.save, l)
  | .report token message => (.reported (l.report token message), l)

/-- A snapshot is restored as a whole or not at all. -/
theorem restore_cases (l : Lexer) (text : List Char) (s : Snapshot) :
    l.restore text s = (.ok (), ⟨l.machine, .ofList text, s.position, s.position, s.stack⟩) ∨
      ∃ e, l.restore text s = (.error e, l) := by
  rw [restore]
  split
  next id _ => exact .inr ⟨.unknownState id, rfl⟩
  next => exact .inl rfl

end Lexer

/-- A lexer with the tokens that it has returned since it was given its text. -/
structure Tracked where
  lexer : Lexer
  tokens : List Token

namespace Tracked

def call (t : Tracked) (c : Call) : Tracked :=
  let (reply, lexer) := t.lexer.answer c
  ⟨lexer, (if reply.refills then [] else t.tokens) ++ reply.returned⟩

end Tracked

/-- The lexers at work. -/
abbrev Session := List Tracked

namespace Session

/-- A step of a session. Steps for a lexer that there is not do nothing. -/
inductive Step where
  | call (lexer : Nat) (call : Call)
  | clone (lexer : Nat)

def start (machines : List Machine) : Session := machines.map fun m => ⟨.ofMachine m, []⟩

def step (s : Session) : Step → Session
  | .call i c => s.modify i (·.call c)
  | .clone i => s ++ s[i]?.toList

def run (s : Session) (steps : List Step) : Session := steps.foldl step s

/-- What a step returns, if it is a call of some lexer. -/
def reply? (s : Session) : Step → Option Reply
  | .call i c => s[i]?.map fun t => (t.lexer.answer c).1
  | .clone _ => none

/-- What the steps return, one after another. -/
def replies (s : Session) : List Step → List (Option Reply)
  | [] => []
  | a :: rest => s.reply? a :: (s.step a).replies rest

variable {s : Session} {P : Tracked → Prop}

/-- A step keeps what its call keeps. -/
theorem forall_mem_step (a : Step) (hcall : ∀ t i c, a = .call i c → P t → P (t.call c))
    (h : ∀ t ∈ s, P t) : ∀ t ∈ s.step a, P t := by
  cases a with
  | call i c =>
      intro t ht
      obtain ⟨j, hj⟩ := List.getElem?_of_mem ht
      rw [step, List.getElem?_modify] at hj
      obtain ⟨original, horiginal, rfl⟩ := Option.map_eq_some_iff.mp hj
      have hP := h original (List.mem_of_getElem? horiginal)
      split
      next => exact hcall original i c rfl hP
      next => exact hP
  | clone i =>
      refine List.forall_mem_append.mpr ⟨h, ?_⟩
      intro t ht
      exact h t (List.mem_of_getElem? (Option.mem_toList.mp ht))

/-- What holds of new lexers, and is kept by each call, holds of all lexers in all sessions. -/
theorem forall_mem_run (hcall : ∀ t c, P t → P (t.call c)) (h : ∀ t ∈ s, P t)
    (steps : List Step) : ∀ t ∈ s.run steps, P t := by
  induction steps generalizing s with
  | nil => exact h
  | cons a rest ih => exact ih (forall_mem_step a (fun t _ c _ => hcall t c) h)

end Session

end Lexing
