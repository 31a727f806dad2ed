import Lexing.Proofs.Lexer.Rules

/-!
# Calls that fail

A call fails for a cause that can be told from the declaration: no rule of the current state matches
and none recovers, or the rule that is selected returns from as many states as there are, or a
snapshot has a state that there is not. Each of these is the case just if the call fails for it.
What fails leaves the lexer as it was, so a call for a token fails again and again.
-/

namespace Lexing

open Text

namespace Lexer

variable {l l' : Lexer}

theorem underflow?_eq_some_iff {a : Action} {count : Nat} :
    l.underflow? a = some count ↔ a.transition = some (.pop count) ∧ l.depth ≤ count := by
  rw [underflow?]
  split
  next n htr =>
    rw [htr]
    by_cases hle : l.depth ≤ n
    · rw [if_pos hle]
      constructor
      · rintro ⟨⟩
        exact ⟨rfl, hle⟩
      · rintro ⟨⟨⟩, -⟩
        rfl
    · rw [if_neg hle]
      constructor
      · intro hnone
        cases hnone
      · rintro ⟨⟨⟩, hcount⟩
        exact absurd hcount hle
  next hother =>
    exact iff_of_false (Option.some_ne_none count).symm fun h => hother count h.1

theorem next_eq_unexpected_iff {c : Char} {place : Position} {name : String} :
    l.next.1 = .error (.unexpected c place name) ↔
      l.cursor.current? = some c ∧ l.select = none ∧ place = l.position ∧ name = l.state.name := by
  constructor
  · intro h
    cases hnext : l.next with
    | mk result l' =>
        rw [hnext] at h
        cases calls_of_next hnext with
        | atEnd | underflow | token => cases h
        | unmatched hahead hselect =>
            cases h
            exact ⟨by rw [Cursor.current?, hahead]; rfl, hselect, rfl, rfl⟩
  · rintro ⟨hcurrent, hselect, rfl, rfl⟩
    obtain ⟨rest, hahead⟩ := List.head?_eq_some_iff.mp hcurrent
    rw [next_of_calls (.unmatched hahead hselect)]

theorem next_eq_stackUnderflow_iff {name rule : String} {depth count : Nat} :
    l.next.1 = .error (.stackUnderflow name rule depth count) ↔
      l.cursor.ahead ≠ [] ∧ (∃ i n, l.select = some (i, n) ∧ rule = (l.action i).name ∧
        (l.action i).transition = some (.pop count)) ∧
      l.depth ≤ count ∧ name = l.state.name ∧ depth = l.depth := by
  constructor
  · intro h
    cases hnext : l.next with
    | mk result l' =>
        rw [hnext] at h
        cases calls_of_next hnext with
        | atEnd | unmatched | token => cases h
        | @underflow c rest i n _ hahead hselect hunderflow =>
            cases h
            obtain ⟨htr, hle⟩ := underflow?_eq_some_iff.mp hunderflow
            exact ⟨hahead ▸ List.cons_ne_nil c rest, ⟨i, n, hselect, rfl, htr⟩, hle, rfl, rfl⟩
  · rintro ⟨hne, ⟨i, n, hselect, rfl, htr⟩, hle, rfl, rfl⟩
    obtain ⟨c, rest, hahead⟩ := List.exists_cons_of_ne_nil hne
    have hunderflow := underflow?_eq_some_iff.mpr ⟨htr, hle⟩
    rw [next_of_calls (.underflow hahead hselect hunderflow)]

/-- A snapshot is refused for the oldest of its states that there is not. -/
theorem restore_eq_error_iff {text : List Char} {s : Snapshot} {e : ScanError} :
    (l.restore text s).1 = .error e ↔
      ∃ older id newer, s.stack.reverse = older ++ id :: newer ∧
        (∀ other ∈ older, other < l.machine.states.length) ∧
        l.machine.states.length ≤ id ∧ e = .unknownState id := by
  have hunknown (id : Nat) : l.unknownState? s = some id ↔
      ∃ older newer, s.stack.reverse = older ++ id :: newer ∧
        (∀ other ∈ older, other < l.machine.states.length) ∧ l.machine.states.length ≤ id := by
    simp only [unknownState?, List.find?_eq_some_iff_append, Bool.not_eq_eq_eq_not, Bool.not_true,
      decide_eq_false_iff_not, Nat.not_lt, Bool.not_not, decide_eq_true_iff]
    exact ⟨fun ⟨hle, older, newer, hstack, holder⟩ => ⟨older, newer, hstack, holder, hle⟩,
      fun ⟨older, newer, hstack, holder, hle⟩ => ⟨hle, older, newer, hstack, holder⟩⟩
  constructor
  · intro h
    rw [restore] at h
    split at h
    next id hid =>
      cases h
      obtain ⟨older, newer, hstack, holder, hle⟩ := (hunknown id).mp hid
      exact ⟨older, id, newer, hstack, holder, hle, rfl⟩
    next => cases h
  · rintro ⟨older, id, newer, hstack, holder, hle, rfl⟩
    rw [restore, (hunknown id).mpr ⟨older, newer, hstack, holder, hle⟩]

theorem eq_of_next_eq_error {e : ScanError} (h : l.next = (.error e, l')) : l' = l := by
  cases calls_of_next h with
  | unmatched | underflow => rfl

/-- A call for a token that fails is as if it had not been made. -/
theorem after_of_next_eq_error {e : ScanError} (h : l.next.1 = .error e) (n : Nat) :
    l.after n = l := by
  have hnext : l.next.2 = l := eq_of_next_eq_error (Prod.ext h rfl)
  exact after_induction (P := fun l' => l' = l) rfl (fun l' hl' => hl' ▸ hnext) n

theorem eq_of_restore_eq_error {text : List Char} {s : Snapshot} {e : ScanError}
    (h : (l.restore text s).1 = .error e) : (l.restore text s).2 = l := by
  rcases l.restore_cases text s with hrestored | ⟨e', hfailed⟩
  · rw [hrestored] at h
    cases h
  · rw [hfailed]

end Lexer

namespace Declaration

variable {d : Declaration} {host : Host} {start : Option String} {stateful : Bool}
  {config : Config} {l : Lexer}

/-- Nothing is selected where no rule of the current state matches and none recovers. -/
theorem Carries.select_eq_none_iff {t : StateTable} {ctx : Context} {state : String}
    {rules : List NamedRule} (h : Carries t ctx state rules) {before : Option Char}
    {ahead : List Char} :
    t.select before ahead = none ↔
      (∀ named ∈ rules, named.2.pattern.matchLength? ctx.host.names before ahead = none) ∧
      ∀ named ∈ rules, named.2.pattern.recovers = false := by
  rw [StateTable.select_eq_none_iff, h.match_eq, h.recovery, firstMatch?_eq_none_iff,
    recoveryOf_eq_none_iff]

/-- A call fails for want of states just if the rule that is selected returns from as many as there
are. -/
theorem exists_pop_iff (h : d.compile host start stateful config = .ok l.machine) (hl : l.InBounds)
    {rule : String} {count : Nat} :
    (∃ i n, l.select = some (i, n) ∧ rule = (l.action i).name ∧
        (l.action i).transition = some (.pop count)) ↔
      ∃ named, d.Selects l named ∧ rule = named.1 ∧ named.2.pop = some count := by
  constructor
  · rintro ⟨i, n, hselect, rfl, htr⟩
    obtain ⟨named, tr, hselects, hmoves, haction⟩ := exists_selects h hl hselect
    rw [haction] at htr ⊢
    exact ⟨named, hselects, rfl, hmoves.pop_iff.mp htr⟩
  · rintro ⟨named, hselects, rfl, hpop⟩
    have ⟨_, _, i, n, _, _, hselect, _⟩ := hselects
    obtain ⟨named', tr, hselects', hmoves, haction⟩ := exists_selects h hl hselect
    obtain rfl := hselects.unique hselects'
    refine ⟨i, n, hselect, ?_, ?_⟩
    · rw [haction]
      rfl
    · rw [haction]
      exact hmoves.pop_iff.mpr hpop

end Declaration

/-- However a lexer has come to where it is, a call fails for what it is said to fail for, and for
nothing else: a character is there that no rule of the current state matches and none recovers, or
the rule that is selected returns from as many states as there are, or a snapshot has a state that
there is not. A lexer is the same after a call that fails, so a call for a token fails in the same
way however often it is made. -/
theorem Session.errors_of_reaches {machines : List Machine}
    (hmachines : ∀ m ∈ machines, ∃ d host start stateful config,
      Declaration.compile d host start stateful config = .ok m)
    {s : Session} {saved : List Snapshot} (h : Reaches machines s saved) {t : Tracked} (ht : t ∈ s)
    {d : Declaration} {host : Host} {start : Option String} {stateful : Bool} {config : Config}
    (hcompile : d.compile host start stateful config = .ok t.lexer.machine) :
    ∃ state rules, d[t.lexer.stateId]? = some state ∧ d.expand state = .ok rules ∧
      (∀ c place name, t.lexer.next.1 = .error (.unexpected c place name) ↔
        t.lexer.cursor.current? = some c ∧
        (∀ named ∈ rules, named.2.pattern.matchLength? host.names t.lexer.cursor.behind.head?
          t.lexer.cursor.ahead = none) ∧
        (∀ named ∈ rules, named.2.pattern.recovers = false) ∧
        (ScanError.unexpected c place name).place? = some t.lexer.position ∧ name = state.name) ∧
      (∀ name rule depth count,
        t.lexer.next.1 = .error (.stackUnderflow name rule depth count) ↔
          t.lexer.cursor.ahead ≠ [] ∧
          (∃ named, d.Selects t.lexer named ∧ rule = named.1 ∧ named.2.pop = some count) ∧
          t.lexer.depth ≤ count ∧ name = state.name ∧ depth = t.lexer.depth) ∧
      (∀ text snapshot e, (t.lexer.restore text snapshot).1 = .error e ↔
        ∃ older id newer, snapshot.stack.reverse = older ++ id :: newer ∧
          (∀ other ∈ older, other < d.length) ∧ d.length ≤ id ∧ e = .unknownState id) ∧
      (∀ e, t.lexer.next.1 = .error e →
        ∀ n, t.lexer.after n = t.lexer ∧ (t.lexer.after n).next.1 = .error e) ∧
      ∀ text snapshot e, (t.lexer.restore text snapshot).1 = .error e →
        (t.lexer.restore text snapshot).2 = t.lexer := by
  have hl := h.inBounds_of_compiled hmachines ht
  obtain ⟨state, rules, hstate, hrules, hcarries⟩ := Declaration.exists_carries_state hcompile hl
  refine ⟨state, rules, hstate, hrules, ?_, ?_, ?_, ?_, ?_⟩
  · intro c place name
    rw [Lexer.next_eq_unexpected_iff, Lexer.select, hcarries.select_eq_none_iff, hcarries.name,
      ScanError.place?, Option.some.injEq, and_assoc]
  · intro name rule depth count
    rw [Lexer.next_eq_stackUnderflow_iff, Declaration.exists_pop_iff hcompile hl, hcarries.name]
  · intro text snapshot e
    rw [Lexer.restore_eq_error_iff, Declaration.length_states_of_compile hcompile]
  · intro e he n
    have hsame := Lexer.after_of_next_eq_error he n
    rw [hsame]
    exact ⟨rfl, he⟩
  · intro text snapshot e he
    exact Lexer.eq_of_restore_eq_error he

/-- A lexer that begins inside brackets cannot leave them. -/
theorem Session.errors_of_reaches_bracketSample :
    ∃ m s saved t, Declaration.bracketSample.compile .standard (some "inside") true {} = .ok m ∧
      Reaches [m] s saved ∧ t ∈ s ∧
      t.lexer.next.1 = .error (.stackUnderflow "inside" "close" 1 1) ∧
      (∃ named, Declaration.bracketSample.Selects t.lexer named ∧ named.2.pop = some 1) ∧
      ∀ n, t.lexer.after n = t.lexer ∧
        (t.lexer.after n).next.1 = .error (.stackUnderflow "inside" "close" 1 1) := by
  obtain ⟨m, t, hm, ht, hnext⟩ : ∃ m t,
      Declaration.bracketSample.compile .standard (some "inside") true {} = .ok m ∧
      ((start [m]).run [.call 0 (.reset ['a', ')']), .call 0 .next])[0]? = some t ∧
      t.lexer.next.1 = .error (.stackUnderflow "inside" "close" 1 1) := ⟨_, _, rfl, rfl, rfl⟩
  have hstart : Reaches [m] (start [m]) [] := .start
  have hreaches := (hstart.step (.call 0 (.reset ['a', ')'])) nofun).step (.call 0 .next) nofun
  have hmachines := forall_mem_singleton_compiled hm
  have hmem := List.mem_of_getElem? ht
  obtain rfl := machine_run m [.call 0 (.reset ['a', ')']), .call 0 .next] t hmem
  obtain ⟨_, _, _, _, _, hunderflow, _, hsame, _⟩ :=
    errors_of_reaches hmachines hreaches hmem hm
  obtain ⟨-, ⟨named, hselects, -, hpop⟩, -⟩ := (hunderflow _ _ _ _).mp hnext
  exact ⟨_, _, _, t, hm, hreaches, hmem, hnext, ⟨named, hselects, hpop⟩, hsame _ hnext⟩

end Lexing
