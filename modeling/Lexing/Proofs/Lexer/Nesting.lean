import Lexing.Proofs.Lexer.Rules
import Mathlib.Data.List.DropRight

/-!
# The states below

A lexer keeps the states that it will return to below the current one. A call that enters a state
puts it on top of the others, and one that enters a state in place of the current one replaces no
other. So what lies below the least depth of a run stays as it is, and a lexer that has gone deeper
comes back to the very states from which it went.

A run that never goes deeper need not keep the current state: a single call may replace it.
-/

namespace Lexing

/-- By how much a match of the rule changes the number of states that the lexer is in. -/
def Rule.depthChange (r : Rule) : Int :=
  match r.push, r.pop with
  | some _, _ => 1
  | none, some count => -count
  | none, none => 0

namespace Transition

variable {stack frame : List Nat} {tr : Transition}

theorem length_apply_next (target : Nat) :
    ((Transition.next target).apply stack).length = stack.length := by
  cases stack <;> rfl

/-- A change keeps all states but the current one, as long as it leaves enough of them. If it adds
a state, then it keeps the current one too. -/
theorem suffix_apply (h : frame <:+ stack) (hle : frame.length ≤ (tr.apply stack).length)
    (hbelow : frame.length < stack.length ∨ stack.length < (tr.apply stack).length) :
    frame <:+ tr.apply stack := by
  cases tr with
  | push target => exact h.trans (List.suffix_cons _ _)
  | pop count => exact List.suffix_of_suffix_length_le h (List.drop_suffix _ _) hle
  | next target =>
      rw [length_apply_next] at hbelow
      have hlt : frame.length < stack.length := hbelow.resolve_right (Nat.lt_irrefl _)
      cases stack with
      | nil => cases hlt
      | cons top rest =>
          have hrest : frame <:+ rest :=
            List.suffix_of_suffix_length_le h (List.suffix_cons _ _) (Nat.le_of_lt_succ hlt)
          exact hrest.trans (List.suffix_cons _ _)

end Transition

namespace Lexer

variable {l : Lexer} {frame : List Nat}

theorem stack_next_of_not_token (h : ∀ token, l.next.1 ≠ .ok (some token)) :
    l.next.2.stack = l.stack := by
  cases hnext : l.next with
  | mk result l' =>
      rw [hnext] at h
      cases calls_of_next hnext with
      | atEnd | unmatched | underflow => rfl
      | token => exact absurd rfl (h _)

/-- What holds of changes holds of calls. -/
theorem suffix_next (h : frame <:+ l.stack) (hle : frame.length ≤ l.next.2.depth)
    (hbelow : frame.length < l.depth ∨ l.depth < l.next.2.depth) : frame <:+ l.next.2.stack := by
  refine next_induction (P := fun l' => frame.length ≤ l'.depth →
    (frame.length < l.depth ∨ l.depth < l'.depth) → frame <:+ l'.stack) ?_ ?_ hle hbelow
  · intro _ _
    exact h
  · intro c rest i n _ _ _
    simp only [depth, stack_take]
    cases (l.action i).transition with
    | none => exact fun _ _ => h
    | some tr => exact tr.suffix_apply h

/-- States stay as they are as long as there are others above them. The last call may take all of
these away. -/
theorem suffix_after (h : frame <:+ l.stack) {n : Nat}
    (hbelow : ∀ i < n, frame.length < (l.after i).depth)
    (hle : frame.length ≤ (l.after n).depth) : frame <:+ (l.after n).stack := by
  induction n with
  | zero => exact h
  | succ n ih =>
      have hlt := hbelow n (Nat.lt_succ_self n)
      have hbefore := ih (fun i hi => hbelow i (hi.trans (Nat.lt_succ_self n))) hlt.le
      exact suffix_next hbefore hle (.inl hlt)

/-- The states below the least depth of a run are the same throughout. -/
theorem rtake_after {n k : Nat} (h : ∀ i ≤ n, k < (l.after i).depth) {i : Nat} (hi : i ≤ n) :
    (l.after i).stack.rtake k = l.stack.rtake k := by
  have hk : k ≤ l.stack.length := (h 0 (Nat.zero_le n)).le
  have hlength : (l.stack.rtake k).length = k := by
    rw [List.rtake.eq_def, List.length_drop]
    omega
  have hframe : l.stack.rtake k <:+ l.stack := List.drop_suffix _ _
  have hsuffix : l.stack.rtake k <:+ (l.after i).stack := by
    apply suffix_after hframe
    · intro j hj
      rw [hlength]
      exact h j (hj.le.trans hi)
    · rw [hlength]
      exact (h i hi).le
  rw [List.suffix_iff_eq_drop, hlength] at hsuffix
  exact hsuffix.symm

/-- A lexer that has gone deeper and comes back is in the states in which it was. -/
theorem stack_after_of_deeper {n : Nat} (hn : 1 < n)
    (hdeeper : ∀ i, 0 < i → i < n → l.depth < (l.after i).depth)
    (hback : (l.after n).depth = l.depth) : (l.after n).stack = l.stack := by
  have hfirst : l.stack <:+ (l.after 1).stack := by
    have hlt : l.depth < l.next.2.depth := hdeeper 1 Nat.one_pos hn
    exact suffix_next (List.suffix_refl _) hlt.le (.inr hlt)
  have hsuffix : ∀ i, 1 ≤ i → i ≤ n → l.stack <:+ (l.after i).stack := by
    intro i hi
    induction i, hi using Nat.le_induction with
    | base => exact fun _ => hfirst
    | succ i hi ih =>
        intro hlt
        have hbelow : l.stack.length < (l.after i).depth := hdeeper i hi hlt
        refine suffix_next (ih (Nat.le_of_lt hlt)) ?_ (.inl hbelow)
        rcases Nat.lt_or_eq_of_le hlt with hinside | rfl
        · exact (hdeeper (i + 1) (Nat.succ_pos i) hinside).le
        · exact hback.ge
  exact ((hsuffix n hn.le le_rfl).eq_of_length hback.symm).symm

end Lexer

namespace Declaration

variable {d : Declaration} {host : Host} {start : Option String} {stateful : Bool}
  {config : Config} {l : Lexer}

/-- A rule that is taken changes the depth by as much as it says. -/
theorem depth_next_of_moves {ctx : Context} {rule : Rule} {tr : Option Transition}
    (h : Moves ctx rule tr) {a : Action} (ha : a.transition = tr)
    (hunderflow : l.underflow? a = none) (n : Nat) :
    ((l.take a n).2.depth : Int) = l.depth + rule.depthChange := by
  rw [Lexer.depth, Lexer.stack_take, ha]
  cases h with
  | stay hpush hpop => simp [Rule.depthChange, hpush, hpop, Lexer.depth]
  | push _ hpush => simp [Rule.depthChange, hpush, Lexer.depth, Transition.apply]
  | @pop count _ hpush hpop =>
      have hlt : ¬ l.depth ≤ count := by
        intro hle
        simp [Lexer.underflow?, ha, hle] at hunderflow
      simp only [Rule.depthChange, hpush, hpop, Option.elim_some, Transition.apply,
        List.length_drop]
      rw [Lexer.depth] at hlt ⊢
      omega
  | next _ hpush hpop =>
      simp [Rule.depthChange, hpush, hpop, Lexer.depth, Transition.length_apply_next]

/-- A call that takes a token does so for some rule, and changes the depth as this rule says. -/
theorem exists_takes (h : d.compile host start stateful config = .ok l.machine) (hl : l.InBounds)
    {token : Token} (htoken : l.next.1 = .ok (some token)) :
    ∃ named tr, d.Takes l named ∧ Moves ⟨d, host, stateful, config⟩ named.2 tr ∧
      l.next.2.stack = tr.elim l.stack (Transition.apply l.stack) ∧
      (l.next.2.depth : Int) = l.depth + named.2.depthChange := by
  obtain ⟨i, n, -, hselect, hunderflow, -, hafter⟩ := Lexer.exists_of_next_eq_token htoken
  obtain ⟨named, tr, hselects, hmoves, haction⟩ := exists_selects h hl hselect
  have htr : (l.action i).transition = tr := by rw [haction]; rfl
  refine ⟨named, tr, ⟨⟨token, htoken⟩, hselects⟩, hmoves, ?_, ?_⟩
  · rw [hafter, Lexer.stack_take, htr]
  · rw [hafter]
    exact depth_next_of_moves hmoves htr hunderflow n

/-- A call that keeps the depth keeps the states, unless its rule puts one in place of another. -/
theorem stack_next_of_depth_eq (h : d.compile host start stateful config = .ok l.machine)
    (hl : l.InBounds) (hdepth : l.next.2.depth = l.depth)
    (hnext : ∀ named, d.Takes l named → named.2.next = none) : l.next.2.stack = l.stack := by
  by_cases htoken : ∃ token, l.next.1 = .ok (some token)
  · obtain ⟨token, htoken⟩ := htoken
    obtain ⟨named, tr, htakes, hmoves, hstack, hchange⟩ := exists_takes h hl htoken
    have hzero : named.2.depthChange = 0 := by omega
    rw [hstack]
    cases hmoves with
    | stay => rfl
    | push _ hpush => simp [Rule.depthChange, hpush] at hzero
    | pop _ hpush hpop _ hcount =>
        simp only [Rule.depthChange, hpush, hpop] at hzero
        omega
    | next _ _ _ hsome => cases hsome.symm.trans (hnext named htakes)
  · exact Lexer.stack_next_of_not_token (not_exists.mp htoken)

end Declaration

/-- However a lexer has come to where it is: from there on each call changes the depth as the rule
says for which it takes a token, and a call at the end of the chunk changes no state. In a run of
calls the states below the least depth are the same throughout. If all depths between the first and
the last are greater than the first, and the last is the same as the first, then the last states are
the first ones, unless the run is a single call that puts a state in place of another. -/
theorem Session.stacks_of_reaches {machines : List Machine}
    (hmachines : ∀ m ∈ machines, ∃ d host start stateful config,
      Declaration.compile d host start stateful config = .ok m)
    {s : Session} {saved : List Snapshot} (h : Reaches machines s saved) {t : Tracked} (ht : t ∈ s)
    {d : Declaration} {host : Host} {start : Option String} {stateful : Bool} {config : Config}
    (hcompile : d.compile host start stateful config = .ok t.lexer.machine) :
    (∀ i token, (t.lexer.after i).next.1 = .ok (some token) →
      ∃ named, d.Takes (t.lexer.after i) named ∧
        ((t.lexer.after (i + 1)).depth : Int) =
          (t.lexer.after i).depth + named.2.depthChange) ∧
      (∀ i, (t.lexer.after i).next.1 = .ok none →
        (t.lexer.after (i + 1)).stack = (t.lexer.after i).stack) ∧
      (∀ n m, (∀ i ≤ n, m ≤ (t.lexer.after i).depth) →
        ∀ i ≤ n, (t.lexer.after i).stack.rtake (m - 1) = t.lexer.stack.rtake (m - 1)) ∧
      ∀ n, (∀ i, 0 < i → i < n → t.lexer.depth < (t.lexer.after i).depth) →
        (t.lexer.after n).depth = t.lexer.depth →
        (n = 1 → ∀ named, d.Takes t.lexer named → named.2.next = none) →
        (t.lexer.after n).stack = t.lexer.stack := by
  have hl := h.inBounds_of_compiled hmachines ht
  have hafter : ∀ i, (t.lexer.after i).InBounds ∧ (t.lexer.after i).machine = t.lexer.machine := by
    refine Lexer.after_induction (P := fun l => l.InBounds ∧ l.machine = t.lexer.machine)
      ⟨hl, rfl⟩ ?_
    rintro l ⟨hl, hmachine⟩
    exact ⟨hl.next, Lexer.machine_next.trans hmachine⟩
  refine ⟨?_, ?_, ?_, ?_⟩
  · intro i token htoken
    obtain ⟨hi, hmachine⟩ := hafter i
    obtain ⟨named, _, htakes, -, -, hchange⟩ :=
      Declaration.exists_takes (hmachine ▸ hcompile) hi htoken
    exact ⟨named, htakes, hchange⟩
  · intro i hend
    apply Lexer.stack_next_of_not_token
    intro token htoken
    cases hend.symm.trans htoken
  · intro n m hm i hi
    refine Lexer.rtake_after (n := n) ?_ hi
    intro j hj
    have hpos : 0 < (t.lexer.after j).depth := List.length_pos_of_ne_nil (hafter j).1.nonempty
    have hle := hm j hj
    omega
  · intro n hdeeper hback hnext
    rcases Nat.lt_trichotomy n 1 with hlt | rfl | hgt
    · obtain rfl : n = 0 := Nat.lt_one_iff.mp hlt
      rfl
    · exact Declaration.stack_next_of_depth_eq hcompile hl hback (hnext rfl)
    · exact Lexer.stack_after_of_deeper hgt hdeeper hback

/-- Brackets in two parts. The second part takes the place of the first one. -/
def Declaration.partSample : Declaration :=
  [⟨"outside", [.rule "open" { pattern := .literals ["("], push := some "first" }]⟩,
    ⟨"first", [
      .rule "open" { pattern := .literals ["("], push := some "first" },
      .rule "bar" { pattern := .literals ["|"], next := some "second" }]⟩,
    ⟨"second", [
      .rule "close" { pattern := .literals [")"], pop := some 1 },
      .rule "leave" { pattern := .literals ["!"], pop := some 2 }]⟩]

/-- Brackets within brackets are left together. -/
theorem Session.stacks_of_reaches_partSample :
    ∃ m s saved t, Declaration.partSample.compile .standard none true {} = .ok m ∧
      Reaches [m] s saved ∧ t ∈ s ∧ (t.lexer.after 3).stack = [2, 1, 0] ∧
      (∀ i, 0 < i → i < 4 → t.lexer.depth < (t.lexer.after i).depth) ∧
      (t.lexer.after 4).depth = t.lexer.depth ∧ (t.lexer.after 4).stack = t.lexer.stack := by
  let steps : List Step := [.call 0 (.reset ['(', '(', '|', '!'])]
  have hrun : (Declaration.partSample.compile .standard none true {}).toOption.any (fun m =>
      ((start [m]).run steps)[0]?.any fun t => (t.lexer.after 3).stack = [2, 1, 0] ∧
        (∀ i < 4, 0 < i → t.lexer.depth < (t.lexer.after i).depth) ∧
        (t.lexer.after 4).depth = t.lexer.depth) = true := by
    decide +kernel
  obtain ⟨m, hm, hrun⟩ := exists_ok_of_any_toOption hrun
  obtain ⟨t, ht, hplace⟩ := (Option.any_eq_true _ _).mp hrun
  obtain ⟨hinside, hbetween, hback⟩ := of_decide_eq_true hplace
  have hdeeper : ∀ i, 0 < i → i < 4 → t.lexer.depth < (t.lexer.after i).depth :=
    fun i hpos hlt => hbetween i hlt hpos
  have hstart : Reaches [m] (start [m]) [] := .start
  have hreaches := hstart.step (.call 0 (.reset ['(', '(', '|', '!'])) nofun
  have hmachines := forall_mem_singleton_compiled hm
  have hmem := List.mem_of_getElem? ht
  obtain rfl := machine_run m steps t hmem
  obtain ⟨-, -, -, hstack⟩ := stacks_of_reaches hmachines hreaches hmem hm
  exact ⟨_, _, _, t, hm, hreaches, hmem, hinside, hdeeper, hback, hstack 4 hdeeper hback nofun⟩

/-- A single call may keep the depth and yet change the current state. -/
theorem Session.stack_next_ne_partSample :
    ∃ m s saved t, Declaration.partSample.compile .standard none true {} = .ok m ∧
      Reaches [m] s saved ∧ t ∈ s ∧ (∃ token, t.lexer.next.1 = .ok (some token)) ∧
      (∀ i, 0 < i → i < 1 → t.lexer.depth < (t.lexer.after i).depth) ∧
      (t.lexer.after 1).depth = t.lexer.depth ∧ (t.lexer.after 1).stack ≠ t.lexer.stack := by
  obtain ⟨m, t, token, hm, ht, htoken, hbefore, hafter⟩ : ∃ m t token,
      Declaration.partSample.compile .standard none true {} = .ok m ∧
      ((start [m]).run [.call 0 (.reset ['(', '|']), .call 0 .next])[0]? = some t ∧
      t.lexer.next.1 = .ok (some token) ∧ t.lexer.stack = [1, 0] ∧
      (t.lexer.after 1).stack = [2, 0] := ⟨_, _, _, rfl, rfl, rfl, rfl, rfl⟩
  have hstart : Reaches [m] (start [m]) [] := .start
  have hreaches := (hstart.step (.call 0 (.reset ['(', '|'])) nofun).step (.call 0 .next) nofun
  refine ⟨m, _, _, t, hm, hreaches, List.mem_of_getElem? ht, ⟨token, htoken⟩, ?_, ?_, ?_⟩
  · intro i hpos hlt
    omega
  · rw [Lexer.depth, Lexer.depth, hbefore, hafter]
    rfl
  · rw [hbefore, hafter]
    decide

end Lexing
