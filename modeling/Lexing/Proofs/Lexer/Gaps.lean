import Lexing.Proofs.Lexer.Collecting
import Lexing.Proofs.Lexer.Rules
import Lexing.Proofs.Machine.Gaps

/-!
# A collector takes the whole gap

Where nothing matches, a state with a collector takes one token for the whole gap. The state is the
same afterwards, and the lexer is at the end of the text or something matches. So two tokens of a
chunk, one right after the other, are never both for collectors.
-/

namespace Lexing

open Text

namespace Text.Cursor

theorem advance_advance (c : Cursor) (m n : Nat) : (c.advance m).advance n = c.advance (m + n) := by
  simp [advance, List.take_add, List.drop_drop]

/-- A cursor is at some place of its chunk. -/
theorem eq_advance (c : Cursor) : c = (ofList c.chunk).advance c.behind.length := by
  simp [chunk, ofList, advance, List.take_left', List.drop_left']

theorem behind_advance_ofList (text : List Char) (place : Nat) :
    ((ofList text).advance place).behind.head? = (text.take place).getLast? := by
  simp [ofList, advance]

end Text.Cursor

/-- What the state of a lexer matches depends on the chunk and on the place of the cursor. -/
theorem Lexer.matchAt?_eq {l : Lexer} {text : List Char} {place : Nat}
    (h : l.cursor = (Cursor.ofList text).advance place) :
    l.state.matchAt? text place = l.state.match? l.cursor.behind.head? l.cursor.ahead := by
  rw [h, Cursor.behind_advance_ofList]
  rfl

namespace Declaration

/-- The current state of a lexer has the rule, and the rule is a collector. -/
def CollectsBy (d : Declaration) (l : Lexer) (named : NamedRule) : Prop :=
  ∃ s rules, d[l.stateId]? = some s ∧ d.expand s = .ok rules ∧ named ∈ rules ∧
    named.2.pattern = .collector

/-- The token was taken for a collector. -/
def Collected (d : Declaration) (x : Taken) : Prop :=
  ∃ named, d.ruleAt? x.state x.rule = some named ∧ named.2.pattern = .collector

variable {d : Declaration} {host : Host} {start : Option String} {stateful : Bool}
  {config : Config} {l : Lexer}
  {named : NamedRule}

/-- A state with a collector recovers by it and stays as it is. -/
theorem CollectsBy.exists_recovery (h : d.compile host start stateful config = .ok l.machine)
    (hl : d.CollectsBy l named) :
    ∃ s rules i, d[l.stateId]? = some s ∧ d.expand s = .ok rules ∧ rules[i]? = some named ∧
      l.state.recovery = some (.untilMatch i) ∧
      l.action i = actionOf named.1 named.2 none := by
  obtain ⟨s, rules, hs, hrules, hmem, hcollector⟩ := hl
  obtain ⟨rules', hrules', hcarries⟩ := exists_carries_of_getElem? h hs
  obtain rfl := Except.ok.inj (hrules.symm.trans hrules')
  have hwell := wellFormed_of_compile h
  have hsmem := List.mem_of_getElem? hs
  obtain ⟨i, hi⟩ := List.getElem?_of_mem hmem
  have hrecovers : named.2.pattern.recovers = true := by rw [hcollector]; rfl
  have hone := hwell.recovery s hsmem rules hrules
  have hrecovery : recoveryOf rules = some (.untilMatch i) := by
    refine recoveryOf_eq hi (by rw [hcollector]; rfl) ?_
    intro j other hj hother
    exact eq_of_countP_le_one hone hi hrecovers hj hother
  have hstays : named.2.moves = 0 :=
    (hwell.rules named (declares_of_expand hsmem hrules named hmem)).stays hrecovers
  refine ⟨s, rules, i, hs, hrules, hi, by rw [hcarries.recovery, hrecovery], ?_⟩
  rw [Lexer.action, hcarries.getElem?_actions_of_moves hi hstays, Option.getD_some]

/-- Where nothing matches, a call takes a token for the collector. -/
theorem CollectsBy.takes (h : d.compile host start stateful config = .ok l.machine)
    (hl : d.CollectsBy l named) (hahead : l.cursor.ahead ≠ [])
    (hmatch : l.state.match? l.cursor.behind.head? l.cursor.ahead = none) :
    let a := actionOf named.1 named.2 none
    let gap := l.state.gap l.cursor.behind.head? l.cursor.ahead
    d.Takes l named ∧ l.next.1 = .ok (some (l.take a gap).1) ∧ l.next.2 = (l.take a gap).2 := by
  intro a gap
  obtain ⟨s, rules, i, hs, hrules, hi, hrecovery, haction⟩ := hl.exists_recovery h
  obtain ⟨c, rest, hcons⟩ := List.exists_cons_of_ne_nil hahead
  have hselect : l.select = some (i, gap) := by
    rw [Lexer.select, StateTable.select, hmatch, hrecovery]
    rfl
  have hunderflow : l.underflow? (l.action i) = none := by
    rw [haction]
    rfl
  have hnext := Lexer.next_of_calls (.token hcons hselect hunderflow)
  rw [haction] at hnext
  rw [hnext]
  refine ⟨⟨⟨_, congrArg Prod.fst hnext⟩, s, rules, i, gap, hs, hrules, hselect, hi⟩, rfl, rfl⟩

/-- A call takes the gap as a token, and the cursor then is at the end of the gap. -/
theorem CollectsBy.takes_gap (h : d.compile host start stateful config = .ok l.machine)
    (hl : d.CollectsBy l named) {text : List Char} {place : Nat} (hlt : place < text.length)
    (hcursor : l.cursor = (Cursor.ofList text).advance place)
    (hmatch : l.state.matchAt? text place = none) :
    d.Takes l named ∧ ∃ token stop, l.next.1 = .ok (some token) ∧
      l.state.Gap text place stop ∧ token.text.toList = (text.take stop).drop place ∧
      l.next.2.cursor = (Cursor.ofList text).advance stop ∧ l.next.2.stateId = l.stateId := by
  have hahead : l.cursor.ahead = text.drop place := by
    rw [hcursor]
    rfl
  have hbehind : l.cursor.behind.head? = (text.take place).getLast? := by
    rw [hcursor, Cursor.behind_advance_ofList]
  have hgap := StateTable.gap_drop hlt hmatch
  obtain ⟨htakes, htoken, hafter⟩ := hl.takes h
    (by rw [hahead]; exact mt List.drop_eq_nil_iff.mp (Nat.not_le_of_lt hlt))
    (by rw [hahead, hbehind]; exact hmatch)
  rw [hahead, hbehind] at htoken hafter
  refine ⟨htakes, _, _, htoken, hgap, ?_, ?_, ?_⟩
  · rw [Lexer.text_take, String.toList_ofList, hahead, List.drop_take, Nat.add_sub_cancel_left]
  · rw [hafter, Lexer.cursor_take, hcursor, Cursor.advance_advance]
  · rw [hafter]
    exact Lexer.stateId_take rfl _

/-- A token is for a collector only if nothing matches. -/
theorem Collected.unmatched (h : d.compile host start stateful config = .ok l.machine) {x : Taken}
    (htaken : l.taken? = some x) (hx : d.Collected x) :
    (∃ named, d.CollectsBy l named) ∧
      l.state.match? l.cursor.behind.head? l.cursor.ahead = none := by
  obtain ⟨named, hrule, hcollector⟩ := hx
  obtain ⟨hid, n, hselect⟩ := Lexer.select_of_taken? htaken
  obtain ⟨s, hs, -⟩ := Option.bind_eq_some_iff.mp hrule
  rw [hid] at hs hrule
  obtain ⟨rules, hrules, hcarries⟩ := exists_carries_of_getElem? h hs
  rw [ruleAt?_eq hs hrules] at hrule
  refine ⟨⟨named, s, rules, hs, hrules, List.mem_of_getElem? hrule, hcollector⟩, ?_⟩
  by_contra hfound
  obtain ⟨found, hfound⟩ := Option.ne_none_iff_exists'.mp hfound
  rw [Lexer.select, StateTable.select, hfound] at hselect
  obtain rfl := Option.some.inj hselect
  rw [hcarries.match_eq, firstMatch?_eq_some_iff] at hfound
  obtain ⟨⟨other, hother, hlength⟩, -⟩ := hfound
  obtain rfl := Option.some.inj (hrule.symm.trans hother)
  rw [Pattern.matchLength?, hcollector] at hlength
  cases hlength

/-- The token after one that was collected is not collected. -/
theorem Collected.not_collected_next (h : d.compile host start stateful config = .ok l.machine)
    {x y : Taken} (htaken : l.taken? = some x) (hx : d.Collected x)
    (hy : l.next.2.taken? = some y) : ¬ d.Collected y := by
  intro hcollected
  obtain ⟨⟨named, hl⟩, hmatch⟩ := hx.unmatched h htaken
  have hahead : l.cursor.ahead ≠ [] := fun hend => by
    cases (Lexer.taken?_of_ahead_eq_nil hend).symm.trans htaken
  have hlt : l.cursor.behind.length < l.cursor.chunk.length := by
    have hpos := List.length_pos_of_ne_nil hahead
    rw [Cursor.chunk, List.length_append, List.length_reverse]
    omega
  have hcursor := l.cursor.eq_advance
  obtain ⟨-, token, stop, -, hgap, -, hafter, hid⟩ :=
    hl.takes_gap h hlt hcursor ((Lexer.matchAt?_eq hcursor).trans hmatch)
  have hstate : l.next.2.state = l.state := by
    rw [Lexer.state, Lexer.state, hid, Lexer.machine_next]
  have hstop : stop < l.cursor.chunk.length := by
    by_contra hge
    have hend : l.next.2.cursor.ahead = [] := by
      rw [hafter, Cursor.ahead_advance]
      exact List.drop_eq_nil_of_le (Nat.le_of_not_lt hge)
    cases (Lexer.taken?_of_ahead_eq_nil hend).symm.trans hy
  have hmachine : l.next.2.machine = l.machine := Lexer.machine_next
  obtain ⟨-, hunmatched⟩ := hcollected.unmatched (hmachine ▸ h) hy
  rw [← Lexer.matchAt?_eq hafter, hstate] at hunmatched
  exact hgap.matched hstop hunmatched

/-- In a run no two tokens in a row are collected. -/
theorem isChain_of_runs (h : d.compile host start stateful config = .ok l.machine) {xs : List Taken}
    {last : Lexer} (hruns : l.Runs xs last) :
    xs.IsChain fun x y => ¬ (d.Collected x ∧ d.Collected y) := by
  induction hruns with
  | nil => exact .nil
  | @cons l last x xs takes rest ih =>
      have hmachine : l.next.2.machine = l.machine := Lexer.machine_next
      have hchain := ih (hmachine ▸ h)
      cases rest with
      | nil => exact .singleton x
      | @cons _ _ y ys takes' rest =>
          rw [List.isChain_cons_cons]
          refine ⟨?_, hchain⟩
          rintro ⟨hx, hy⟩
          exact hx.not_collected_next h takes takes' hy

/-- In a state with a collector, a call takes the gap at a place where nothing matches: the token
goes up to the next place of the text where something does, or up to the end. It follows that in
every session a lexer never has two tokens of its chunk in a row that were both taken for
collectors. -/
theorem collects_gaps {m : Machine} (h : d.compile host start stateful config = .ok m) :
    (∀ (l : Lexer) named text place, l.machine = m → d.CollectsBy l named → place < text.length →
      l.cursor = (Cursor.ofList text).advance place → l.state.matchAt? text place = none →
      d.Takes l named ∧ ∃ token stop, l.next.1 = .ok (some token) ∧
        l.state.Gap text place stop ∧ token.text.toList = (text.take stop).drop place ∧
        l.next.2.cursor = (Cursor.ofList text).advance stop) ∧
    ∀ machines steps, ∀ t ∈ (Session.start machines).run steps, t.lexer.machine = m →
      ∃ (first : Lexer) (xs : List Taken), first.cursor = .ofList t.lexer.cursor.chunk ∧
        first.Runs xs t.lexer ∧ xs.map (·.token) = t.tokens ∧
        xs.IsChain fun x y => ¬ (d.Collected x ∧ d.Collected y) := by
  constructor
  · rintro l named text place rfl hl hlt hcursor hmatch
    obtain ⟨htakes, token, stop, htoken, hgap, htext, hafter, -⟩ :=
      hl.takes_gap h hlt hcursor hmatch
    exact ⟨htakes, token, stop, htoken, hgap, htext, hafter⟩
  · rintro machines steps t ht rfl
    obtain ⟨first, xs, hfirst, hruns, htokens⟩ := Session.ran_of_run machines steps t ht
    exact ⟨first, xs, hfirst, hruns, htokens, isChain_of_runs (hruns.machine ▸ h) hruns⟩

/-- A mark at the beginning of a line. All else is collected. -/
def marksSample : Declaration :=
  [⟨"start", [
    .rule "mark" { pattern := .regex "^#" },
    .rule "junk" { pattern := .collector }]⟩]

/-- The first mark is inside a line, so it is collected with the characters around it. -/
theorem collects_gaps_marksSample :
    ∃ m token t, marksSample.compile .standard none true {} = .ok m ∧
      ((Lexer.ofMachine m).reset ['a', '#', '\n', '#', '?']).next.1 = .ok (some token) ∧
      token.text = "a#\n" ∧ (m.state 0).Gap ['a', '#', '\n', '#', '?'] 0 3 ∧
      t ∈ (Session.start [m]).run [.call 0 (.reset ['a', '#', '\n', '#', '?']),
        .call 0 (.tokens 4)] ∧
      t.tokens.length = 3 ∧ ∃ xs : List Taken, xs.map (·.token) = t.tokens ∧
        xs.IsChain fun x y => ¬ (marksSample.Collected x ∧ marksSample.Collected y) := by
  let text := ['a', '#', '\n', '#', '?']
  let steps : List Session.Step := [.call 0 (.reset text), .call 0 (.tokens 4)]
  have hrun : (marksSample.compile .standard none true {}).toOption.any (fun m => m.start = 0 &&
      (((m.state 0).matchAt? text 0).isNone &&
        (((Lexer.ofMachine m).reset text).next.1.toOption.any (fun token? =>
            token?.any (·.text = "a#\n")) &&
          ((Session.start [m]).run steps)[0]?.any fun t => t.tokens.length = 3))) = true := by
    decide +kernel
  obtain ⟨m, hm, hrun⟩ := exists_ok_of_any_toOption hrun
  simp only [Bool.and_eq_true, decide_eq_true_eq, Option.isNone_iff_eq_none] at hrun
  obtain ⟨hstart, hmatch, htext, hrun⟩ := hrun
  obtain ⟨t, ht, hlength⟩ := (Option.any_eq_true _ _).mp hrun
  obtain ⟨hgaps, hchain⟩ := collects_gaps hm
  let l := (Lexer.ofMachine m).reset text
  have hstate : l.stateId = 0 := hstart
  have hcollects : marksSample.CollectsBy l ("junk", { pattern := .collector }) :=
    ⟨_, _, by rw [hstate]; rfl, rfl, List.mem_cons_of_mem _ List.mem_cons_self, rfl⟩
  obtain ⟨-, token, stop, htoken, hgap, hchars, -⟩ :=
    hgaps l _ text 0 rfl hcollects (by decide) (Cursor.advance_zero _).symm
      (by rw [Lexer.state, hstate]; exact hmatch)
  rw [htoken] at htext
  have htext : token.text = "a#\n" := of_decide_eq_true htext
  have hstop : stop = 3 := by
    have hlengths := congrArg List.length hchars
    rw [htext] at hlengths
    have hle := hgap.le
    simp [text] at hlengths hle
    omega
  rw [hstop, Lexer.state, hstate] at hgap
  have hmem := List.mem_of_getElem? ht
  obtain ⟨first, xs, -, -, htokens, hxs⟩ :=
    hchain [m] steps t hmem (Session.machine_run m steps t hmem)
  exact ⟨m, token, t, hm, htoken, htext, hgap, hmem, of_decide_eq_true hlength, xs, htokens, hxs⟩

end Declaration

end Lexing
