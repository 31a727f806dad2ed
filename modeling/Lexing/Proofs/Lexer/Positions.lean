import Lexing.Proofs.Lexer.Stepping
import Lexing.Proofs.Machine.Agreement
import Lexing.Proofs.Text.Positions

/-!
# Lines and columns of a whole run

A lexer moves on token by token, and each token counts line breaks or not, as its rule says. As long
as no token passes over a line break without counting it, the lexer is at the line and column that a
reader of the whole text would come to, and each token begins there. Rules that recover always count
line breaks.
-/

namespace Lexing

open Text

theorem Reply.mem_returned_next {result : Except ScanError (Option Token)} {token : Token} :
    token ∈ (Reply.next result).returned ↔ result = .ok (some token) := by
  cases result with
  | error => simp [returned]
  | ok token? => cases token? <;> simp [returned, eq_comm]

namespace Lexer

/-- A lexer is given a text that begins at some place in the input. -/
inductive Begins (text : List Char) : Position → Lexer → Prop
  | reset (l : Lexer) : Begins text .start (l.reset text)
  | restored {l l' : Lexer} {s : Snapshot} (h : l.restore text s = (.ok (), l')) :
      Begins text s.position l'

/-- The next token is for an action that counts line breaks. -/
def counts (l : Lexer) : Bool := l.select.any fun (i, _) => (l.action i).lineBreaks

/-- Among the next calls, none gives a token that holds line breaks without counting them. -/
def CountsAll (l : Lexer) (n : Nat) : Prop :=
  ∀ i < n, ∀ token, (l.after i).next.1 = .ok (some token) → (l.after i).counts = false →
    '\n' ∉ token.text.toList

instance (l : Lexer) (n : Nat) : Decidable (l.CountsAll n) :=
  decidable_of_iff (∀ i < n, ∀ token ∈ (Reply.next (l.after i).next.1).returned,
      (l.after i).counts = false → '\n' ∉ token.text.toList) (by
    simp only [CountsAll, Reply.mem_returned_next])

variable {text : List Char} {origin : Position} {first l : Lexer} {token : Token}

theorem Begins.eq (h : Begins text origin first) :
    first.cursor = .ofList text ∧ first.position = origin := by
  cases h with
  | reset l => exact ⟨rfl, rfl⟩
  | @restored l _ s h =>
      rcases l.restore_cases text s with hrestored | ⟨e, hfailed⟩
      · obtain rfl := (Prod.mk.inj (h.symm.trans hrestored)).2
        exact ⟨rfl, rfl⟩
      · cases (Prod.mk.inj (h.symm.trans hfailed)).1

theorem counts_of_select {i n : Nat} (h : l.select = some (i, n)) :
    l.counts = (l.action i).lineBreaks := by
  rw [counts, h, Option.any_some]

theorem toList_text_take (a : Action) (n : Nat) :
    (l.take a n).1.text.toList = l.cursor.ahead.take n := by
  rw [text_take, String.toList_ofList]

/-- A token begins where the lexer stands, and it counts all of its line breaks if its action counts
any. -/
theorem start_of_next (h : l.next.1 = .ok (some token))
    (hcounts : l.counts = false → '\n' ∉ token.text.toList) :
    token.start = l.position ∧
      token.lineBreaks.toNat = min (lineBreaks token.text.toList) Counter.limit := by
  obtain ⟨i, n, -, hselect, -, rfl, -⟩ := exists_of_next_eq_token h
  rw [counts_of_select hselect, toList_text_take] at hcounts
  rw [toList_text_take]
  exact ⟨rfl, Position.toNat_breaks_advance _ hcounts⟩

/-- A call keeps the lexer at the end of the text that it has read, unless it passes over a line
break. -/
theorem ends_next (h : origin.Ends l.cursor.behind.reverse l.position)
    (hcounts : ∀ token, l.next.1 = .ok (some token) → l.counts = false →
      '\n' ∉ token.text.toList) :
    origin.Ends l.next.2.cursor.behind.reverse l.next.2.position := by
  cases hnext : l.next with
  | mk result l' =>
      cases calls_of_next hnext with
      | atEnd | unmatched | underflow => exact h
      | @token c rest i n hahead hselect hunderflow =>
          have hpassed : (l.cursor.advance n).behind.reverse =
              l.cursor.behind.reverse ++ l.cursor.ahead.take n := by
            simp [Cursor.advance]
          have hquiet := hcounts _ (congrArg Prod.fst hnext)
          rw [counts_of_select hselect, toList_text_take] at hquiet
          rw [cursor_take, hpassed, position_take]
          exact h.advance hquiet

theorem ends_after (hbegins : Begins text origin first) {n : Nat} (hcounts : first.CountsAll n) :
    origin.Ends (first.after n).cursor.behind.reverse (first.after n).position := by
  induction n with
  | zero =>
      obtain ⟨hcursor, hposition⟩ := hbegins.eq
      rw [after_zero, hcursor, hposition]
      exact .nil origin
  | succ n ih =>
      have hbefore : first.CountsAll n := by
        intro i hi
        exact hcounts i (Nat.lt_succ_of_lt hi)
      exact ends_next (ih hbefore) (hcounts n (Nat.lt_succ_self n))

theorem chunk_after (hbegins : Begins text origin first) (n : Nat) :
    (first.after n).cursor.chunk = text := by
  refine after_induction (P := fun l => l.cursor.chunk = text) ?_ ?_ n
  · rw [hbegins.eq.1, Cursor.chunk_ofList]
  · intro l hl
    rw [chunk_next, hl]

end Lexer

namespace Declaration

variable {d : Declaration} {host : Host} {start : Option String} {stateful : Bool} {config : Config}
  {m : Machine}

/-- An action counts line breaks if its rule declares so or recovers. -/
theorem lineBreaks_of_tableOf {ctx : Context} {state : String} {rules : List NamedRule}
    {t : StateTable} {warnings : List Warning} (h : tableOf ctx state rules = .ok (t, warnings)) :
    List.Forall₂ (fun named action =>
      action.lineBreaks = (named.2.lineBreaks || named.2.pattern.recovers)) rules t.actions := by
  refine (checked_of_tableOf h).imp ?_
  intro named action hchecked
  obtain ⟨transition, -, rfl⟩ := hchecked.stands
  rfl

/-- What is taken where nothing matches is for a rule that recovers. -/
theorem exists_recovers_of_select {ctx : Context} {state : String} {rules : List NamedRule}
    {t : StateTable} {warnings : List Warning} (h : tableOf ctx state rules = .ok (t, warnings))
    {before : Option Char} {ahead : List Char} (hmatch : t.match? before ahead = none) {i n : Nat}
    (hselect : t.select before ahead = some (i, n)) :
    ∃ named, rules[i]? = some named ∧ named.2.pattern.recovers = true := by
  obtain ⟨r, hr, rfl⟩ := StateTable.recovery_of_select hmatch hselect
  exact exists_of_recoveryOf ((recovery_of_tableOf h).symm.trans hr)

/-- So a token that is taken where nothing matches counts its line breaks. -/
theorem counts_of_match?_eq_none (h : d.compile host start stateful config = .ok m) {l : Lexer}
    (hmachine : l.machine = m) (hmatch : l.state.match? l.cursor.behind.head? l.cursor.ahead = none)
    {i n : Nat} (hselect : l.select = some (i, n)) : l.counts = true := by
  rw [Lexer.counts_of_select hselect]
  cases hk : m.states[l.stateId]? with
  | none =>
      -- A state that does not exist selects nothing.
      have hstate : l.state = ⟨"", [], [], [], none⟩ := by
        rw [Lexer.state, Machine.state, hmachine, hk, Option.getD_none]
      rw [Lexer.select, StateTable.select, hmatch, hstate] at hselect
      cases hselect
  | some t =>
      obtain rfl : l.state = t := by
        rw [Lexer.state, Machine.state, hmachine, hk, Option.getD_some]
      obtain ⟨s, rules, warnings, -, -, htable, -⟩ := exists_tableOf h hk
      obtain ⟨named, hi, hrecovers⟩ := exists_recovers_of_select htable hmatch hselect
      obtain ⟨action, haction, hlines⟩ :=
        exists_getElem?_of_forall₂ (lineBreaks_of_tableOf htable).flip hi
      rw [Lexer.action, haction, Option.getD_some, hlines, hrecovers, Bool.or_true]

/-- A lexer that has been given a text is, after any number of calls for a token, at the line and
column to which the text that it has read leads, and its tokens begin at such places and count their
line breaks. This holds as long as no token of a rule that does not count line breaks holds one.
Each rule counts line breaks if it declares so, and also if it recovers: what is taken where nothing
matches always counts them. -/
theorem positions_of_compile (h : d.compile host start stateful config = .ok m) {text : List Char}
    {origin : Position} {first : Lexer} (hmachine : first.machine = m)
    (hbegins : Lexer.Begins text origin first) :
    (∀ n, first.CountsAll n →
      (first.after n).cursor.chunk = text ∧
      origin.Ends (first.after n).cursor.behind.reverse (first.after n).position ∧
      ∀ i < n, ∀ token, (first.after i).next.1 = .ok (some token) →
        origin.Ends (first.after i).cursor.behind.reverse token.start ∧
        token.lineBreaks.toNat = min (lineBreaks token.text.toList) Counter.limit) ∧
    (∀ n token, (first.after n).next.1 = .ok (some token) →
      (first.after n).state.match? (first.after n).cursor.behind.head?
        (first.after n).cursor.ahead = none →
      (first.after n).counts = true ∧
        token.lineBreaks.toNat = min (lineBreaks token.text.toList) Counter.limit) ∧
    ∀ (k : Nat) (t : StateTable), m.states[k]? = some t →
      ∃ s rules, d[k]? = some s ∧ d.expand s = .ok rules ∧
        List.Forall₂ (fun (named : NamedRule) (action : Action) =>
          action.lineBreaks = (named.2.lineBreaks || named.2.pattern.recovers))
          rules t.actions := by
  refine ⟨?_, ?_, ?_⟩
  · intro n hcounts
    refine ⟨Lexer.chunk_after hbegins n, Lexer.ends_after hbegins hcounts, ?_⟩
    intro i hi token htoken
    have hbefore : first.CountsAll i := by
      intro j hj
      exact hcounts j (Nat.lt_trans hj hi)
    obtain ⟨hstart, hbreaks⟩ := Lexer.start_of_next htoken (hcounts i hi token htoken)
    exact ⟨hstart ▸ Lexer.ends_after hbegins hbefore, hbreaks⟩
  · intro n token htoken hmatch
    obtain ⟨i, length, -, hselect, -⟩ := Lexer.exists_of_next_eq_token htoken
    have hmachine' : (first.after n).machine = m := by
      refine Lexer.after_induction (P := fun l => l.machine = m) hmachine ?_ n
      intro l hl
      rw [Lexer.machine_next, hl]
    have hcounts := counts_of_match?_eq_none h hmachine' hmatch hselect
    refine ⟨hcounts, (Lexer.start_of_next htoken ?_).2⟩
    intro hfalse
    rw [hcounts] at hfalse
    cases hfalse
  · intro k t hk
    obtain ⟨s, rules, warnings, hs, hrules, htable, -⟩ := exists_tableOf h hk
    exact ⟨s, rules, hs, hrules, lineBreaks_of_tableOf htable⟩

/-- Words do not count line breaks, and whatever lies between them does. -/
def wordSample : Declaration :=
  [⟨"start", [
    .rule "word" { pattern := .regex "[a-z]+" },
    .rule "between" { pattern := .collector }]⟩]

/-- A text that begins in the middle of a line and goes on to the next one. -/
theorem positions_of_compile_wordSample :
    ∃ m first, wordSample.compile .standard none true {} = .ok m ∧ first.machine = m ∧
      Lexer.Begins ['a', 'b', '\n', 'c'] ⟨3, 7, 20⟩ first ∧ first.CountsAll 3 ∧
      (first.after 3).position = ⟨4, 2, 24⟩ ∧
      Position.Ends ⟨3, 7, 20⟩ ['a', 'b', '\n', 'c'] (first.after 3).position := by
  let text := ['a', 'b', '\n', 'c']
  let snapshot : Snapshot := ⟨⟨3, 7, 20⟩, [0]⟩
  let first (m : Machine) : Lexer := ((Lexer.ofMachine m).restore text snapshot).2
  have hrun : (wordSample.compile .standard none true {}).toOption.any (fun m =>
      decide ((Lexer.ofMachine m).unknownState? snapshot = none ∧ (first m).CountsAll 3 ∧
        ((first m).after 3).position = ⟨4, 2, 24⟩ ∧
        ((first m).after 3).cursor.behind.reverse = text)) = true := by
    decide +kernel
  obtain ⟨m, hm, hrun⟩ := exists_ok_of_any_toOption hrun
  obtain ⟨hknown, hcounts, hposition, hread⟩ := of_decide_eq_true hrun
  have hrestored : (Lexer.ofMachine m).restore text snapshot = (.ok (), first m) := by
    simp only [first, Lexer.restore, hknown]
  have hmachine : (first m).machine = m := by
    simp only [first, Lexer.restore, hknown]
    rfl
  have hbegins : Lexer.Begins text ⟨3, 7, 20⟩ (first m) := .restored hrestored
  have hends := ((positions_of_compile hm hmachine hbegins).1 3 hcounts).2.1
  rw [hread] at hends
  exact ⟨m, first m, hm, hmachine, hbegins, hcounts, hposition, hends⟩

end Declaration

end Lexing
