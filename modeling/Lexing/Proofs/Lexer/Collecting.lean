import Lexing.Proofs.Declaration.Collecting
import Lexing.Proofs.Lexer.Agreement
import Lexing.Proofs.Lexer.Scanning
import Lexing.Proofs.Lexer.Tiling
import Lexing.Proofs.Text.Positions

/-!
# Collected tokens

A lexer that collects takes at once what a lexer that falls back takes character by character. So
the two return the same tokens, except that each longest block of tokens of the fallback rule is
joined into one, and they end in the same way.
-/

namespace Lexing

open Text

/-- A token for an action is put together from the tokens of a block: it begins where the first one
does, and has the texts and the line breaks of all of them. -/
structure Joins (a : Action) (block : List Taken) (y : Taken) : Prop where
  rule : ∀ x ∈ block, x.state = y.state ∧ x.rule = y.rule
  text : y.token.text.toList = Token.joined (block.map (·.token))
  start : ∀ x ∈ block.head?, y.token.start = x.token.start
  lineBreaks : y.token.lineBreaks = (block.map (·.token.lineBreaks)).sum
  kind : y.token.kind = a.kindOf y.token.text
  value : y.token.value = a.valueOf y.token.text
  isError : y.token.isError = a.isError

/-- The second list has the tokens of the first one, with each longest block of tokens for the rules
that `p` tells joined into one. -/
inductive Merges (a : Action) (p : Nat → Nat → Prop) : List Taken → List Taken → Prop
  | nil : Merges a p [] []
  | keep {x : Taken} {xs ys : List Taken} (other : ¬ p x.state x.rule) (rest : Merges a p xs ys) :
      Merges a p (x :: xs) (x :: ys)
  | join {block xs ys : List Taken} {y : Taken} (nonempty : block ≠ [])
      (all : ∀ x ∈ block, p x.state x.rule) (longest : ∀ x ∈ xs.head?, ¬ p x.state x.rule)
      (joins : Joins a block y) (rest : Merges a p xs ys) : Merges a p (block ++ xs) (y :: ys)

namespace Lexer

variable {l : Lexer} {a : Action} {m' : Machine} {p : Nat → Nat → Prop}

/-- Two tokens one after another are one token, if their line breaks are counted and the states stay
as they are. -/
theorem take_add (hcounts : a.lineBreaks = true) (hstays : a.transition = none) (m n : Nat) :
    (l.take a (m + n)).2 = ((l.take a m).2.take a n).2 ∧
      (l.take a (m + n)).1.text.toList =
        (l.take a m).1.text.toList ++ ((l.take a m).2.take a n).1.text.toList ∧
      (l.take a (m + n)).1.lineBreaks =
        (l.take a m).1.lineBreaks + ((l.take a m).2.take a n).1.lineBreaks := by
  have hchars : l.cursor.ahead.take (m + n) =
      l.cursor.ahead.take m ++ (l.cursor.ahead.drop m).take n := List.take_add
  have hposition := l.position.advance_counted_append (l.cursor.ahead.take m)
    ((l.cursor.ahead.drop m).take n)
  refine ⟨?_, ?_, ?_⟩
  · simp only [take, hcounts, hstays, hchars, hposition, Option.elim_none, Cursor.advance]
    simp [List.drop_drop]
  · simp only [text_take, cursor_take, Cursor.ahead_advance, String.toList_ofList, hchars]
  · simp only [take, hcounts, hchars, hposition, Cursor.advance]

theorem stateId_take (hstays : a.transition = none) (n : Nat) :
    (l.take a n).2.stateId = l.stateId := by
  rw [stateId, stack_take, hstays]
  rfl

theorem state_take (hstays : a.transition = none) (n : Nat) : (l.take a n).2.state = l.state := by
  rw [state, stateId_take hstays]
  rfl

theorem joins_singleton (i : Nat) :
    Joins a.collecting [⟨(l.take a 1).1, l.stateId, i⟩]
      ⟨(l.take a.collecting 1).1, l.stateId, i⟩ where
  rule := List.forall_mem_singleton.mpr ⟨rfl, rfl⟩
  text := (Token.joined_singleton _).symm
  start := by
    rintro x ⟨⟩
    rfl
  lineBreaks := by simp [take, Action.collecting]
  kind := rfl
  value := rfl
  isError := rfl

/-- A token comes before those that are joined already. -/
theorem joins_cons (hcounts : a.lineBreaks = true) (hstays : a.transition = none) {id i n : Nat}
    {block : List Taken}
    (h : Joins a.collecting block ⟨((l.take a 1).2.take a.collecting n).1, id, i⟩) :
    Joins a.collecting (⟨(l.take a 1).1, id, i⟩ :: block)
      ⟨(l.take a.collecting (1 + n)).1, id, i⟩ := by
  have hcounts' : a.collecting.lineBreaks = true := hcounts
  have hstays' : a.collecting.transition = none := hstays
  obtain ⟨-, htext, hbreaks⟩ := l.take_add hcounts' hstays' 1 n
  refine ⟨List.forall_mem_cons.mpr ⟨⟨rfl, rfl⟩, h.rule⟩, ?_, ?_, ?_, rfl, rfl, rfl⟩
  · rw [htext, List.map_cons]
    exact congrArg ((l.take a 1).1.text.toList ++ ·) h.text
  · rintro x ⟨⟩
    rfl
  · rw [hbreaks, List.map_cons, List.sum_cons]
    exact congrArg ((l.take a 1).1.lineBreaks + ·) h.lineBreaks

/-- The lexer takes the tokens of a block to where it would come by taking `n` characters at once.
There it is at the end, or something matches. -/
structure TakesBlock (l : Lexer) (a : Action) (i n : Nat) (block : List Taken) : Prop where
  nonempty : block ≠ []
  runs : l.Runs block (l.take a.collecting n).2
  joins : Joins a.collecting block ⟨(l.take a.collecting n).1, l.stateId, i⟩
  stops : (l.take a.collecting n).2.cursor.ahead = [] ∨
    l.state.match? (l.take a.collecting n).2.cursor.behind.head?
      (l.take a.collecting n).2.cursor.ahead ≠ none

section Block

variable {t' : StateTable} {i : Nat} {c : Char} {cs : List Char}

/-- Where nothing matches, a lexer that falls back takes one character. -/
theorem taken?_fallsBack (hcollects : l.state.CollectsAt t' i a) (hstays : a.transition = none)
    (hahead : l.cursor.ahead = c :: cs)
    (hmatch : l.state.match? l.cursor.behind.head? (c :: cs) = none) :
    l.taken? = some ⟨(l.take a 1).1, l.stateId, i⟩ ∧ l.next.2 = (l.take a 1).2 := by
  have hselect : l.select = some (i, 1) := by
    rw [select, hahead]
    exact hcollects.select_fallsBack hmatch
  have haction : l.action i = a := by rw [action, hcollects.action, Option.getD_some]
  have hunderflow : l.underflow? (l.action i) = none := by rw [haction, underflow?, hstays]
  have htaken := taken?_of_select hahead hselect hunderflow
  rwa [haction] at htaken

/-- It goes on, token by token, to where a lexer that collects goes at once. -/
theorem exists_takesBlock (hcollects : l.state.CollectsAt t' i a) (hcounts : a.lineBreaks = true)
    (hstays : a.transition = none) (hahead : l.cursor.ahead = c :: cs)
    (hmatch : l.state.match? l.cursor.behind.head? (c :: cs) = none) :
    ∃ block, l.TakesBlock a i (l.state.gap l.cursor.behind.head? (c :: cs)) block := by
  -- The induction is on the text after the first character, which has a block of its own unless
  -- something matches there.
  induction cs generalizing l c with
  | nil =>
      obtain ⟨htaken, hnext⟩ := taken?_fallsBack hcollects hstays hahead hmatch
      rw [StateTable.gap_eq_one hmatch (.inl rfl)]
      refine ⟨_, List.cons_ne_nil _ _, .cons htaken (hnext ▸ .nil _), joins_singleton i, .inl ?_⟩
      rw [cursor_take, Cursor.ahead_advance, hahead]
      rfl
  | cons d ds ih =>
      obtain ⟨htaken, hnext⟩ := taken?_fallsBack hcollects hstays hahead hmatch
      have hrest : (l.take a 1).2.cursor.ahead = d :: ds := by
        rw [cursor_take, Cursor.ahead_advance, hahead]
        rfl
      have hbehind : (l.take a 1).2.cursor.behind.head? = some c := by
        rw [cursor_take, Cursor.advance, hahead]
        rfl
      by_cases hfound : l.state.match? (some c) (d :: ds) = none
      · rw [StateTable.gap_cons hmatch (List.cons_ne_nil d ds) hfound, Nat.add_comm]
        have hstate : (l.take a 1).2.state = l.state := state_take hstays 1
        rw [← hstate] at hcollects
        obtain ⟨block, hblock⟩ := ih hcollects hrest (by rw [hstate, hbehind, hfound])
        rw [hstate, hbehind] at hblock
        have hstays' : a.collecting.transition = none := hstays
        obtain ⟨hlast, -, -⟩ :=
          take_add (a := a.collecting) hcounts hstays' 1 (l.state.gap (some c) (d :: ds))
        have hjoins := hblock.joins
        rw [stateId_take hstays] at hjoins
        refine ⟨_, List.cons_ne_nil _ _, .cons htaken ?_, joins_cons hcounts hstays hjoins, ?_⟩
        · rw [hnext, hlast]
          exact hblock.runs
        · have hstops := hblock.stops
          rw [hstate] at hstops
          rw [hlast]
          exact hstops
      · rw [StateTable.gap_eq_one hmatch (.inr hfound)]
        refine ⟨_, List.cons_ne_nil _ _, .cons htaken (hnext ▸ .nil _), joins_singleton i, .inr ?_⟩
        have hcursor : (l.take a.collecting 1).2.cursor = (l.take a 1).2.cursor := rfl
        rw [hcursor, hbehind, hrest]
        exact hfound

end Block

/-- What a lexer does next, and the lexer with the other machine in its place. Neither takes a
token, and both return the same; or both take the same token; or the first takes a longest block of
tokens, and the second one token for it. After that they are in the same place again. -/
inductive InTurn (l : Lexer) (m' : Machine) (a : Action) (p : Nat → Nat → Prop) : Prop
  | ended (stops : l.taken? = none) (stops' : (l.on m').taken? = none)
      (result : (l.on m').next.1 = l.next.1) : InTurn l m' a p
  | same {x : Taken} (other : ¬ p x.state x.rule) (takes : l.taken? = some x)
      (takes' : (l.on m').taken? = some x) (after : (l.on m').next.2 = l.next.2.on m') :
      InTurn l m' a p
  | joined {block : List Taken} {y : Taken} {last : Lexer} (nonempty : block ≠ [])
      (all : ∀ x ∈ block, p x.state x.rule) (joins : Joins a.collecting block y)
      (runs : l.Runs block last) (longest : ∀ x, last.taken? = some x → ¬ p x.state x.rule)
      (takes' : (l.on m').taken? = some y) (after : (l.on m').next.2 = last.on m') :
      InTurn l m' a p

/-- If both select the same action, and not for one of the rules that `p` tells, then they do the
same. -/
theorem inTurn_of_select (hstart : m'.start = l.machine.start)
    (hname : (l.on m').state.name = l.state.name) (hselect : (l.on m').select = l.select)
    (haction : ∀ i n, l.select = some (i, n) → (l.on m').action i = l.action i)
    (hother : ∀ i n, l.select = some (i, n) → ¬ p l.stateId i) : l.InTurn m' a p := by
  have habreast : l.Abreast (l.on m') := ⟨rfl, rfl, rfl⟩
  have hnext := next_on_of_abreast (habreast.next hname haction hselect)
  have htaken : (l.on m').taken? = l.taken? := by
    rw [taken?, taken?, hnext, hselect, stateId_on hstart]
  cases htakes : l.taken? with
  | none => exact .ended htakes (htaken.trans htakes) (by rw [hnext])
  | some x =>
      obtain ⟨hstate, n, hsome⟩ := select_of_taken? htakes
      exact .same (hstate ▸ hother _ n hsome) htakes (htaken.trans htakes) (by rw [hnext])

/-- Where nothing matches, the second lexer takes one token for the block that the first takes. -/
theorem inTurn_of_match?_eq_none (h : l.machine.Collects m' a p) {i : Nat} {c : Char}
    {cs : List Char} (hcollects : l.state.CollectsAt (l.on m').state i a)
    (hp : ∀ j, p l.stateId j ↔ j = i) (hahead : l.cursor.ahead = c :: cs)
    (hmatch : l.state.match? l.cursor.behind.head? (c :: cs) = none) : l.InTurn m' a p := by
  obtain ⟨block, hblock⟩ := exists_takesBlock hcollects h.counts h.stays hahead hmatch
  have hahead' : (l.on m').cursor.ahead = c :: cs := hahead
  have hselect : (l.on m').select =
      some (i, l.state.gap l.cursor.behind.head? (c :: cs)) := by
    rw [select, hahead']
    exact hcollects.select_collects hmatch
  have haction : (l.on m').action i = a.collecting := by
    rw [action, hcollects.action', Option.getD_some]
  have hstays : a.collecting.transition = none := h.stays
  have hunderflow : (l.on m').underflow? ((l.on m').action i) = none := by
    rw [haction, underflow?, hstays]
  obtain ⟨htaken, hnext⟩ := taken?_of_select hahead' hselect hunderflow
  rw [haction] at htaken hnext
  rw [stateId_on h.start] at htaken
  refine .joined hblock.nonempty ?_ hblock.joins hblock.runs ?_ htaken hnext
  · intro x hx
    obtain ⟨hstate, hrule⟩ := hblock.joins.rule x hx
    rw [hstate, hrule]
    exact (hp i).mpr rfl
  · intro x hx
    obtain ⟨hstate, n, hsome⟩ := select_of_taken? hx
    rcases hblock.stops with hend | hfound
    · cases (taken?_of_ahead_eq_nil hend).symm.trans hx
    · obtain ⟨j, n', hne, hj, -⟩ := hcollects.select_of_match? hfound
      rw [select, state_take hstays] at hsome
      obtain ⟨rfl, -⟩ := Prod.mk.inj (Option.some.inj (hsome.symm.trans hj))
      rw [hstate, stateId_take hstays, hp]
      exact hne

/-- Lexers of which the second collects where the first falls back do their calls in turn. -/
theorem inTurn (h : l.machine.Collects m' a p) : l.InTurn m' a p := by
  have hstate' : (l.on m').state = m'.state l.stateId := by
    rw [state, stateId_on h.start]
    rfl
  rcases h.states l.stateId with ⟨hagrees, hnot⟩ | ⟨i, hcollects, hp⟩
  · rw [← hstate'] at hagrees
    refine inTurn_of_select h.start hagrees.name (hagrees.select _ _) ?_ fun i _ _ => hnot i
    intro i _ _
    rw [action, action, hagrees.actions]
    rfl
  · rw [← hstate'] at hcollects
    cases hahead : l.cursor.ahead with
    | nil =>
        have hahead' : (l.on m').cursor.ahead = [] := hahead
        have hresult : (l.on m').next.1 = l.next.1 := by
          rw [next_of_calls (.atEnd hahead), next_of_calls (.atEnd hahead')]
        exact .ended (taken?_of_ahead_eq_nil hahead) (taken?_of_ahead_eq_nil hahead') hresult
    | cons c cs =>
        by_cases hmatch : l.state.match? l.cursor.behind.head? (c :: cs) = none
        · exact inTurn_of_match?_eq_none h hcollects hp hahead hmatch
        · rw [← hahead] at hmatch
          obtain ⟨j, n, hne, hj, hj'⟩ := hcollects.select_of_match? hmatch
          refine inTurn_of_select h.start hcollects.name (hj'.trans hj.symm) ?_ ?_
          · intro k _ hk
            obtain ⟨rfl, -⟩ := Prod.mk.inj (Option.some.inj (hj.symm.trans hk))
            rw [action, action, hcollects.others _ hne]
            rfl
          · intro k _ hk
            obtain ⟨rfl, -⟩ := Prod.mk.inj (Option.some.inj (hj.symm.trans hk))
            rw [hp]
            exact hne

variable {last : Lexer} {xs ys : List Taken}

/-- If the first lexer comes to an end, then so does the second, with the tokens of the first in
which each longest block is joined. -/
theorem Scans.exists_collecting (h : l.machine.Collects m' a p) (hscans : l.Scans xs last) :
    ∃ ys, (l.on m').Scans ys (last.on m') ∧ Merges a.collecting p xs ys ∧
      (last.on m').next.1 = last.next.1 := by
  -- The induction is on the number of tokens, since a block may hold many of them.
  induction hlength : xs.length using Nat.strong_induction_on generalizing l xs with
  | h k ih =>
      subst hlength
      cases inTurn h with
      | ended stops stops' result =>
          obtain ⟨rfl, rfl⟩ := hscans.eq_of_ended stops
          exact ⟨[], ⟨.nil _, stops'⟩, .nil, result⟩
      | @same x other takes takes' after =>
          obtain ⟨zs, rfl, hrest⟩ := hscans.exists_append (.cons takes (.nil _))
          have hmachine : l.next.2.machine.Collects m' a p := by rwa [machine_next]
          obtain ⟨ys, hys, hmerges, hresult⟩ :=
            ih zs.length (Nat.lt_succ_self _) hmachine hrest rfl
          rw [← after] at hys
          exact ⟨x :: ys, ⟨.cons takes' hys.runs, hys.ended⟩, .keep other hmerges, hresult⟩
      | @joined block y middle nonempty all joins runs longest takes' after =>
          obtain ⟨zs, rfl, hrest⟩ := hscans.exists_append runs
          have hmachine : middle.machine.Collects m' a p := by rwa [runs.machine]
          have hlt : zs.length < (block ++ zs).length := by
            have hpos := List.length_pos_of_ne_nil nonempty
            rw [List.length_append]
            omega
          obtain ⟨ys, hys, hmerges, hresult⟩ := ih zs.length hlt hmachine hrest rfl
          have hhead : ∀ x ∈ zs.head?, ¬ p x.state x.rule := by
            intro x hx
            obtain ⟨rest, rfl⟩ := List.head?_eq_some_iff.mp hx
            exact longest x hrest.taken?_eq_some
          rw [← after] at hys
          exact ⟨y :: ys, ⟨.cons takes' hys.runs, hys.ended⟩,
            .join nonempty all hhead joins hmerges, hresult⟩

/-- If the second lexer comes to an end, then so does the first. -/
theorem Scans.exists_fallingBack (h : l.machine.Collects m' a p)
    (hscans : (l.on m').Scans ys last) : ∃ xs last, l.Scans xs last := by
  induction ys generalizing l with
  | nil =>
      have hended : (l.on m').taken? = none := by
        have hended := hscans.ended
        cases hscans.runs with
        | nil => exact hended
      cases inTurn h with
      | ended stops => exact ⟨[], l, .nil l, stops⟩
      | same _ _ takes' | joined _ _ _ _ _ takes' => cases hended.symm.trans takes'
  | cons y ys ih =>
      obtain ⟨block, middle, hruns, hafter⟩ :
          ∃ block middle, l.Runs block middle ∧ (l.on m').next.2 = middle.on m' := by
        cases inTurn h with
        | ended _ stops' => cases stops'.symm.trans hscans.taken?_eq_some
        | same _ takes _ after => exact ⟨_, _, .cons takes (.nil _), after⟩
        | joined _ _ _ runs _ _ after => exact ⟨_, _, runs, after⟩
      have hrest := hscans.tail
      rw [hafter] at hrest
      obtain ⟨xs, last, hxs⟩ := ih (by rwa [hruns.machine]) hrest
      exact ⟨block ++ xs, last, hruns.append hxs.runs, hxs.ended⟩

end Lexer

namespace Declaration

/-- If a fallback rule is made to collect, in its place and with its name and options, then the
declaration still compiles. From a reset on, with either declaration a scan of a text comes to an
end just if it does with the other. It then ends at the same position, in the same states, and with
the same result. The tokens are the same but for those of the rule, wherever it is included: each
longest block of these is joined into one token. -/
theorem scans_of_collectAt {d : Declaration} {host : Host} {start : Option String} {stateful : Bool}
    {config : Config} {m : Machine} (h : d.compile host start stateful config = .ok m) {k j : Nat}
    {s : StateDecl} {name : String} {f : Rule} (hk : d[k]? = some s)
    (hj : s.entries[j]? = some (.rule name f)) (hfallback : f.pattern = .fallback) :
    ∃ m', (d.collectAt k j).compile host start stateful config = .ok m' ∧
      (∃ i, d.ComesFrom k j k i) ∧
      (∀ id i, d.ComesFrom k j id i → d.ruleAt? id i = some (name, f) ∧
        (d.collectAt k j).ruleAt? id i = some (name, f.collecting)) ∧
      ∀ text,
        (∀ xs last, ((Lexer.ofMachine m).reset text).Scans xs last →
          ∃ ys last', ((Lexer.ofMachine m').reset text).Scans ys last' ∧
            Merges (actionOf name f.collecting none) (d.ComesFrom k j) xs ys ∧
            last'.next.1 = last.next.1 ∧ last.Abreast last') ∧
        ∀ ys last', ((Lexer.ofMachine m').reset text).Scans ys last' →
          ∃ xs last, ((Lexer.ofMachine m).reset text).Scans xs last ∧
            Merges (actionOf name f.collecting none) (d.ComesFrom k j) xs ys ∧
            last'.next.1 = last.next.1 ∧ last.Abreast last' := by
  have hfallback' : (name, f).2.pattern = .fallback := hfallback
  obtain ⟨m', hm'⟩ := exists_compile_collectAt h hk hj hfallback'
  have hcollects := collects_of_compile h hm' hk hj hfallback'
  refine ⟨m', hm', exists_comesFrom h hk hj hfallback', ?_, ?_⟩
  · intro id i hfrom
    exact hfrom.ruleAt?_eq hk hj
  intro text
  have hreset : (Lexer.ofMachine m').reset text = ((Lexer.ofMachine m).reset text).on m' := by
    rw [Lexer.reset, Lexer.reset, Lexer.on, Lexer.ofMachine, Lexer.ofMachine, hcollects.start]
  have hforward : ∀ xs last, ((Lexer.ofMachine m).reset text).Scans xs last →
      ∃ ys, ((Lexer.ofMachine m').reset text).Scans ys (last.on m') ∧
        Merges (actionOf name f.collecting none) (d.ComesFrom k j) xs ys ∧
        (last.on m').next.1 = last.next.1 := by
    intro xs last hscans
    rw [hreset, actionOf_collecting hfallback']
    exact hscans.exists_collecting hcollects
  constructor
  · intro xs last hscans
    obtain ⟨ys, hys, hmerges, hresult⟩ := hforward xs last hscans
    exact ⟨ys, last.on m', hys, hmerges, hresult, rfl, rfl, rfl⟩
  · intro ys last' hscans
    obtain ⟨xs, last, hxs⟩ := (hreset ▸ hscans).exists_fallingBack hcollects
    obtain ⟨ys', hys', hmerges, hresult⟩ := hforward xs last hxs
    obtain ⟨rfl, rfl⟩ := hys'.unique hscans
    exact ⟨xs, last, hxs, hmerges, hresult, rfl, rfl, rfl⟩

/-- Words and brackets. What is neither falls back, inside brackets too. -/
def wordsSample : Declaration :=
  [⟨"outside", [
      .rule "word" { pattern := .regex "[a-z]+" },
      .rule "open" { pattern := .literals ["("], push := some "inside" },
      .rule "other" { pattern := .fallback }]⟩,
    ⟨"inside", [
      .include "outside",
      .rule "close" { pattern := .literals [")"], pop := some 1 }]⟩]

/-- Three characters outside of the brackets and two inside are taken one by one, or together. -/
theorem scans_of_collectAt_wordsSample :
    ∃ m m' xs ys last last', wordsSample.compile .standard none true {} = .ok m ∧
      (wordsSample.collectAt 0 2).compile .standard none true {} = .ok m' ∧
      ((Lexer.ofMachine m).reset ['a', '?', '!', '\n', '(', '-', '-', ')']).Scans xs last ∧
      xs.length = 8 ∧
      ((Lexer.ofMachine m').reset ['a', '?', '!', '\n', '(', '-', '-', ')']).Scans ys last' ∧
      Merges (actionOf "other" { pattern := .collector } none) (wordsSample.ComesFrom 0 2) xs ys ∧
      last'.next.1 = last.next.1 ∧ last.Abreast last' := by
  let text := ['a', '?', '!', '\n', '(', '-', '-', ')']
  have hrun : (wordsSample.compile .standard none true {}).toOption.any (fun m =>
      (List.range 8).all (fun i => (((Lexer.ofMachine m).reset text).after i).taken?.isSome) &&
        (((Lexer.ofMachine m).reset text).after 8).taken?.isNone) = true := by
    decide +kernel
  obtain ⟨m, hm, hrun⟩ := exists_ok_of_any_toOption hrun
  obtain ⟨htakes, hended⟩ := Bool.and_eq_true_iff.mp hrun
  obtain ⟨xs, hlength, hruns⟩ := Lexer.exists_runs_after (n := 8)
    fun i hi => List.all_eq_true.mp htakes i (List.mem_range.mpr hi)
  have hscans : Lexer.Scans _ xs _ := ⟨hruns, Option.isNone_iff_eq_none.mp hended⟩
  obtain ⟨m', hm', -, -, hboth⟩ := scans_of_collectAt hm (k := 0) (j := 2) rfl rfl rfl
  obtain ⟨ys, last', hys, hmerges, hresult, habreast⟩ := (hboth _).1 xs _ hscans
  exact ⟨m, m', xs, ys, _, last', hm, hm', hscans, hlength, hys, hmerges, hresult, habreast⟩

end Declaration

end Lexing
