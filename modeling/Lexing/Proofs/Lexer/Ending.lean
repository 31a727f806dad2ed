import Lexing.Proofs.Declaration.Accepting
import Lexing.Proofs.Lexer.Bounds
import Lexing.Proofs.Lexer.Scanning
import Lexing.Proofs.Machine.Judging

/-!
# Scanning comes to an end

If no rule matches the empty text, then each token takes at least one character: what a rule matches
is not empty, a single character is taken where a state falls back, and what it collects goes at
least one character further. So there are at most as many tokens as characters ahead. The call after
the last of them finds the end of the text or fails, and either way it leaves the lexer as it is.
-/

namespace Lexing

open Text

/-- What is selected where a character is ahead is not empty, unless an empty match is. -/
theorem StateTable.pos_of_select {t : StateTable} {before : Option Char} {ahead : List Char}
    (hahead : ahead ≠ []) (hmatch : ∀ i, t.match? before ahead ≠ some (i, 0)) {i n : Nat}
    (h : t.select before ahead = some (i, n)) : 0 < n := by
  rw [select] at h
  split at h
  next found hfound =>
    obtain rfl := Option.some.inj h
    exact Nat.pos_of_ne_zero fun hzero => hmatch i (hzero ▸ hfound)
  next =>
    obtain ⟨r, -, heq⟩ := Option.map_eq_some_iff.mp h
    cases r with
    | oneCharacter =>
        obtain rfl := (Prod.mk.inj heq).2
        exact Nat.one_pos
    | untilMatch =>
        obtain rfl := (Prod.mk.inj heq).2
        -- A distance is only looked for further on, and the whole text ahead is not empty.
        cases hdistance : t.distance? before ahead with
        | none => exact List.length_pos_of_ne_nil hahead
        | some n =>
            rw [distance?] at hdistance
            exact of_decide_eq_true (Option.filter_eq_some_iff.mp hdistance).2

namespace Declaration

variable {d : Declaration} {host : Host} {start : Option String} {stateful : Bool}
  {config : Config} {l : Lexer}

/-- No rule matches the empty text if all expressions have a least length: it is not zero. -/
theorem not_matchesEmptyAt (h : d.WellFormed host start stateful config)
    (hlength : ∀ named, d.Declares named → ∀ source r, named.2.pattern = .regex source →
      Regex.parse host.names source.toList = .ok r → r.minLength ≠ none) :
    ∀ named, d.Declares named → ∀ pt, ¬ named.2.pattern.MatchesEmptyAt host.names pt := by
  intro named hnamed pt hempty
  obtain ⟨source, r, -, hpattern, hr, hnone, -⟩ :=
    (Pattern.matchesEmptyAt_iff (h.rules named hnamed).pattern pt).mp hempty
  exact hlength named hnamed source r hpattern hr hnone

/-- A token takes some of the characters ahead, and at least one. -/
theorem exists_advance_of_next (h : d.compile host start stateful config = .ok l.machine)
    (hl : l.InBounds)
    (hempty : ∀ named, d.Declares named → ∀ pt, ¬ named.2.pattern.MatchesEmptyAt host.names pt)
    {token : Token} (htoken : l.next.1 = .ok (some token)) :
    ∃ n, 0 < n ∧ n ≤ l.cursor.ahead.length ∧ token.text.toList = l.cursor.ahead.take n ∧
      l.next.2.cursor = l.cursor.advance n := by
  obtain ⟨i, n, hahead, hselect, -, rfl, hafter⟩ := Lexer.exists_of_next_eq_token htoken
  obtain ⟨s, rules, hs, hrules, -, hmatch⟩ := exists_checked_rules h hl.getElem?_stateId
  have hsome : ∀ i, l.state.match? l.cursor.behind.head? l.cursor.ahead ≠ some (i, 0) := by
    intro i hfound
    rw [hmatch] at hfound
    obtain ⟨⟨named, hi, hlength⟩, -⟩ := firstMatch?_eq_some_iff.mp hfound
    have hdeclares := declares_of_expand (List.mem_of_getElem? hs) hrules named
      (List.mem_of_getElem? hi)
    exact hempty named hdeclares _ (Pattern.matchesEmptyAt_of_matchLength? hlength)
  refine ⟨n, StateTable.pos_of_select hahead hsome hselect, (hl.select hahead hselect).2, ?_, ?_⟩
  · rw [Lexer.text_take, String.toList_ofList]
  · rw [hafter, Lexer.cursor_take]

/-- From every place there is a scan, and it takes no more tokens than there are characters. -/
theorem exists_scans (h : d.compile host start stateful config = .ok l.machine) (hl : l.InBounds)
    (hempty : ∀ named, d.Declares named → ∀ pt, ¬ named.2.pattern.MatchesEmptyAt host.names pt) :
    ∃ xs last, l.Scans xs last ∧ xs.length ≤ l.cursor.ahead.length := by
  -- The induction is on the number of characters ahead, of which each token takes some.
  induction hk : l.cursor.ahead.length using Nat.strongRecOn generalizing l with
  | ind k ih =>
      subst hk
      cases htaken : l.taken? with
      | none => exact ⟨[], l, ⟨.nil l, htaken⟩, Nat.zero_le _⟩
      | some x =>
          obtain ⟨token, htoken⟩ : ∃ token, l.next.1 = .ok (some token) := by
            by_contra hnone
            cases htaken.symm.trans (Lexer.taken?_eq_none_iff.mpr (not_exists.mp hnone))
          obtain ⟨n, hpos, hn, -, hcursor⟩ := exists_advance_of_next h hl hempty htoken
          have hfewer : l.next.2.cursor.ahead.length = l.cursor.ahead.length - n := by
            rw [hcursor, Cursor.ahead_advance, List.length_drop]
          obtain ⟨xs, last, hscans, hxs⟩ := ih _ (by omega)
            (Lexer.machine_next.symm ▸ h) hl.next rfl
          refine ⟨x :: xs, last, ⟨.cons htaken hscans.runs, hscans.ended⟩, ?_⟩
          rw [List.length_cons]
          omega

end Declaration

namespace Tokens

/-- Some tokens, then an error if there is one, and then nothing, a number of times. -/
def items (tokens : List Token) (error? : Option ScanError) (more : Nat) :
    List (Option (Except ScanError Token)) :=
  tokens.map (some <| .ok ·) ++ error?.toList.map (some <| .error ·) ++ List.replicate more none

variable {l last : Lexer}

theorem next_eq (l : Lexer) :
    next ⟨l, false⟩ = match l.next with
      | (.ok (some token), l) => (some (.ok token), ⟨l, false⟩)
      | (.ok none, l) => (none, ⟨l, true⟩)
      | (.error e, l) => (some (.error e), ⟨l, true⟩) := rfl

/-- After the end nothing is given. -/
theorem take_of_done (l : Lexer) (n : Nat) :
    take n ⟨l, true⟩ = (List.replicate n none, ⟨l, true⟩) := by
  induction n with
  | zero => rfl
  | succ n ih =>
      have hnext : next ⟨l, true⟩ = (none, ⟨l, true⟩) := rfl
      rw [take, hnext]
      dsimp only
      rw [ih, List.replicate_succ]

/-- The tokens of a run are given one by one. -/
theorem take_of_runs {xs : List Taken} (h : l.Runs xs last) (n : Nat) :
    take (xs.length + n) ⟨l, false⟩ =
      (xs.map (fun x => some (.ok x.token)) ++ (take n ⟨last, false⟩).1,
        (take n ⟨last, false⟩).2) := by
  induction h with
  | nil => simp
  | @cons l last x xs takes _ ih =>
      obtain ⟨token, htoken⟩ : ∃ token, l.next = (.ok (some token), l.next.2) ∧
          token = x.token := by
        rw [Lexer.taken?] at takes
        split at takes
        next token i n hresult _ =>
          obtain rfl := Option.some.inj takes
          exact ⟨token, Prod.ext hresult rfl, rfl⟩
        next => cases takes
      obtain ⟨hcall, rfl⟩ := htoken
      rw [List.length_cons, Nat.add_right_comm, take, next_eq, hcall]
      dsimp only
      rw [ih, List.map_cons, List.cons_append]

/-- No more tokens are given, only the error if there is one. Without an error the chunk has been
read, and an error comes again. -/
structure Closes (last : Lexer) (error? : Option ScanError) : Prop where
  gives : ∀ more, ∃ done, take (error?.toList.length + more) ⟨last, false⟩ =
    (items [] error? more, ⟨last, done⟩)
  read : error? = none → last.cursor.ahead = []
  again : ∀ e, error? = some e → next ⟨last, false⟩ = (some (.error e), ⟨last, true⟩)

theorem closes_of_error {e : ScanError} (h : last.next = (.error e, last)) :
    Closes last (some e) := by
  have hnext : next ⟨last, false⟩ = (some (.error e), ⟨last, true⟩) := by rw [next_eq, h]
  refine ⟨?_, nofun, ?_⟩
  · intro more
    rw [Option.toList_some, List.length_singleton, Nat.add_comm, take, hnext]
    dsimp only
    rw [take_of_done]
    exact ⟨true, rfl⟩
  · rintro _ ⟨⟩
    exact hnext

theorem closes_of_end (h : last.cursor.ahead = []) : Closes last none := by
  have hnext : next ⟨last, false⟩ = (none, ⟨last, true⟩) := by
    rw [next_eq, Lexer.next_of_calls (.atEnd h)]
  refine ⟨?_, fun _ => h, nofun⟩
  intro more
  rw [Option.toList_none, List.length_nil, Nat.zero_add]
  cases more with
  | zero => exact ⟨false, rfl⟩
  | succ more =>
      rw [take, hnext]
      dsimp only
      rw [take_of_done]
      exact ⟨true, rfl⟩

/-- Where a scan ends, no more tokens are given. -/
theorem exists_closes (h : last.taken? = none) : ∃ error?, Closes last error? := by
  cases hcall : last.next with
  | mk result l' =>
      cases Lexer.calls_of_next hcall with
      | atEnd hahead => exact ⟨none, closes_of_end hahead⟩
      | unmatched | underflow => exact ⟨_, closes_of_error hcall⟩
      | token =>
          have hnone := Lexer.taken?_eq_none_iff.mp h
          rw [hcall] at hnone
          exact absurd rfl (hnone _)

end Tokens

/-- However a lexer has come to where it is: if no rule of its declaration matches the empty text
anywhere, then a token takes at least one of the characters ahead. Going through the tokens gives no
more tokens than there are such characters, then an error at most, and nothing after that. Without
an error the whole chunk has been read, and after an error whoever goes through the tokens again
begins with the same error. -/
theorem Session.ends_of_reaches {machines : List Machine}
    (hmachines : ∀ m ∈ machines, ∃ d host start stateful config,
      Declaration.compile d host start stateful config = .ok m)
    {s : Session} {saved : List Snapshot} (h : Reaches machines s saved) {t : Tracked} (ht : t ∈ s)
    {d : Declaration} {host : Host} {start : Option String} {stateful : Bool} {config : Config}
    (hcompile : d.compile host start stateful config = .ok t.lexer.machine)
    (hempty : ∀ named, d.Declares named → ∀ pt, ¬ named.2.pattern.MatchesEmptyAt host.names pt) :
    (∀ token, t.lexer.next.1 = .ok (some token) →
      ∃ n, 0 < n ∧ n ≤ t.lexer.cursor.ahead.length ∧
        token.text.toList = t.lexer.cursor.ahead.take n ∧
        t.lexer.next.2.cursor = t.lexer.cursor.advance n) ∧
    ∃ tokens error? last, tokens.length ≤ t.lexer.cursor.ahead.length ∧
      (∀ more, ∃ done,
        Tokens.take (tokens.length + error?.toList.length + more) ⟨t.lexer, false⟩ =
          (Tokens.items tokens error? more, ⟨last, done⟩)) ∧
      (error? = none → last.cursor.ahead = []) ∧
      ∀ e, error? = some e →
        Tokens.next ⟨last, false⟩ = (some (.error e), ⟨last, true⟩) := by
  have hl := h.inBounds_of_compiled hmachines ht
  refine ⟨fun token => Declaration.exists_advance_of_next hcompile hl hempty, ?_⟩
  obtain ⟨xs, last, hscans, hxs⟩ := Declaration.exists_scans hcompile hl hempty
  obtain ⟨error?, hcloses⟩ := Tokens.exists_closes hscans.ended
  refine ⟨xs.map (·.token), error?, last, (List.length_map _).trans_le hxs, ?_, hcloses.read,
    hcloses.again⟩
  intro more
  obtain ⟨done, hdone⟩ := hcloses.gives more
  refine ⟨done, ?_⟩
  rw [List.length_map, Nat.add_assoc, Tokens.take_of_runs hscans.runs, hdone]
  simp [Tokens.items]

/-- Numbers in brackets. Anything may stand outside, but only numbers inside. -/
def Declaration.numberSample : Declaration :=
  [⟨"outside", [
      .rule "open" { pattern := .literals ["("], push := some "inside" },
      .rule "between" { pattern := .collector }]⟩,
    ⟨"inside", [
      .rule "number" { pattern := .regex "[0-9]+" },
      .rule "close" { pattern := .literals [")"], pop := some 1 }]⟩]

/-- Four characters, of which two tokens take three. The last one is an error each time. -/
theorem Session.ends_of_reaches_numberSample :
    ∃ m s saved t, Declaration.numberSample.compile .standard none true {} = .ok m ∧
      Reaches [m] s saved ∧ t ∈ s ∧ t.lexer.cursor.ahead = ['(', '1', '2', '?'] ∧
      (t.lexer.after 2).next.1 = .error (.unexpected '?' ⟨1, 4, 3⟩ "inside") ∧
      (∀ named, Declaration.numberSample.Declares named →
        ∀ pt, ¬ named.2.pattern.MatchesEmptyAt Host.standard.names pt) ∧
      ∃ tokens error? last, tokens.length ≤ 4 ∧
        (∀ more, ∃ done,
          Tokens.take (tokens.length + error?.toList.length + more) ⟨t.lexer, false⟩ =
            (Tokens.items tokens error? more, ⟨last, done⟩)) ∧
        (error? = none → last.cursor.ahead = []) ∧
        ∀ e, error? = some e →
          Tokens.next ⟨last, false⟩ = (some (.error e), ⟨last, true⟩) := by
  let steps : List Step := [.call 0 (.reset ['(', '1', '2', '?'])]
  have hrun : (Declaration.numberSample.compile .standard none true {}).toOption.any (fun m =>
      ((start [m]).run steps)[0]?.any fun t =>
        t.lexer.cursor.ahead = ['(', '1', '2', '?'] ∧
        (t.lexer.after 2).next.1 = .error (.unexpected '?' ⟨1, 4, 3⟩ "inside")) = true := by
    decide +kernel
  obtain ⟨m, hm, hrun⟩ := exists_ok_of_any_toOption hrun
  obtain ⟨t, ht, hplace⟩ := (Option.any_eq_true _ _).mp hrun
  obtain ⟨hahead, herror⟩ := of_decide_eq_true hplace
  have hstart : Reaches [m] (start [m]) [] := .start
  have hreaches := hstart.step (.call 0 (.reset ['(', '1', '2', '?'])) nofun
  have hmem := List.mem_of_getElem? ht
  obtain rfl := machine_run m steps t hmem
  have hempty : ∀ named, Declaration.numberSample.Declares named →
      ∀ pt, ¬ named.2.pattern.MatchesEmptyAt Host.standard.names pt := by
    refine Declaration.not_matchesEmptyAt (Declaration.wellFormed_of_compile hm) ?_
    rintro ⟨name, rule⟩ ⟨s, hs, hentry⟩ source r hpattern hr
    obtain rfl : source = "[0-9]+" := by
      simp only [Declaration.numberSample, List.mem_cons, List.not_mem_nil, or_false] at hs
      rcases hs with rfl | rfl <;> simp at hentry <;>
        rcases hentry with ⟨-, rfl⟩ | ⟨-, rfl⟩ <;> simp_all
    have hparse : (Regex.parse Host.standard.names "[0-9]+".toList).toOption.any
        (fun r => r.minLength = some 1) = true := by decide +kernel
    obtain ⟨r', hr', hlength⟩ := exists_ok_of_any_toOption hparse
    obtain rfl := Except.ok.inj (hr.symm.trans hr')
    rw [of_decide_eq_true hlength]
    nofun
  obtain ⟨-, tokens, error?, last, hlength, hgives⟩ :=
    ends_of_reaches (forall_mem_singleton_compiled hm) hreaches hmem hm hempty
  rw [hahead] at hlength
  exact ⟨_, _, _, t, hm, hreaches, hmem, hahead, herror, hempty, tokens, error?, last, hlength,
    hgives⟩

end Lexing
