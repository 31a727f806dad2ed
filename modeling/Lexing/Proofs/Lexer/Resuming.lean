import Lexing.Proofs.Lexer.Agreement
import Lexing.Proofs.Lexer.Bounds
import Lexing.Proofs.Machine.LookBehind

/-!
# Going on with the rest of a text

A lexer may stop anywhere, and another may go on with the rest of the text from its snapshot. Unless
a regular expression looks back, the two together return what one lexer alone would have returned.
The rest begins where the snapshot was taken, and what the current state selects does not depend on
anything before that place.
-/

namespace Lexing

namespace Lexer

/-- The second lexer goes on with the rest of the text of the first one. -/
structure Resumes (l l' : Lexer) : Prop where
  abreast : l.Abreast l'
  inBounds : l.InBounds
  agrees : List.Forall₂ StateTable.Agrees l.machine.states l'.machine.states
  ignoresBefore : ∀ t ∈ l.machine.states, t.IgnoresBefore

variable {l l' : Lexer}

/-- A call for a token returns the same in both lexers, and the second still goes on. -/
theorem Resumes.next (h : l.Resumes l') : l'.next.1 = l.next.1 ∧ l.next.2.Resumes l'.next.2 := by
  have hid : l'.stateId = l.stateId := by
    rw [stateId.eq_def l', h.abreast.stack, List.headD_eq_head?_getD, h.inBounds.head?_stack]
    rfl
  have hignores := h.ignoresBefore _ h.inBounds.state_mem
  have hbehind := hignores.select l.cursor.behind.head? l'.cursor.behind.head? l.cursor.ahead
  obtain ⟨hresult, habreast⟩ := h.abreast.next_of_agrees hid h.agrees hbehind
  refine ⟨hresult, habreast, h.inBounds.next, ?_, ?_⟩
  · rw [machine_next, machine_next]
    exact h.agrees
  · rw [machine_next]
    exact h.ignoresBefore

theorem Resumes.after (h : l.Resumes l') (n : Nat) : (l.after n).Resumes (l'.after n) := by
  induction n with
  | zero => exact h
  | succ n ih => exact ih.next.2

/-- A snapshot fits every machine that has as many states, so it is restored. -/
theorem InBounds.resumes (h : l.InBounds)
    (hagrees : List.Forall₂ StateTable.Agrees l.machine.states l'.machine.states)
    (hignores : ∀ t ∈ l.machine.states, t.IgnoresBefore) :
    ∃ resumed, l'.restore l.cursor.ahead l.save = (.ok (), resumed) ∧ l.Resumes resumed := by
  have hknown : l'.unknownState? l.save = none := by
    rw [unknownState?, List.find?_eq_none]
    intro id hid
    have hlt := h.states id (List.mem_reverse.mp hid)
    simpa [← hagrees.length_eq] using hlt
  rw [Lexer.restore, hknown]
  exact ⟨_, rfl, ⟨⟨rfl, rfl, rfl⟩, h, hagrees, hignores⟩⟩

end Lexer

/-- However a lexer has come to where it is: if a lexer for the same declaration, in whatever state,
is given the rest of the text with the snapshot that is taken there, it has the same snapshot, and
from call to call it returns the same and has the same snapshot as the lexer that simply goes on. No
regular expression of the declaration may look back. -/
theorem Session.resumes_of_reaches {machines : List Machine}
    (hmachines : ∀ m ∈ machines, ∃ d host start stateful config,
      Declaration.compile d host start stateful config = .ok m)
    {s : Session} {saved : List Snapshot} (h : Reaches machines s saved) {t : Tracked} (ht : t ∈ s)
    {d : Declaration} {host : Host} (hd : d.looksBack host.names = false)
    {start start' : Option String} {stateful stateful' : Bool} {config config' : Config}
    {other : Lexer} (hcompile : d.compile host start stateful config = .ok t.lexer.machine)
    (hother : d.compile host start' stateful' config' = .ok other.machine) :
    ∃ resumed, other.restore t.lexer.cursor.ahead t.lexer.save = (.ok (), resumed) ∧
      resumed.save = t.lexer.save ∧
      ∀ n, (resumed.after n).next.1 = (t.lexer.after n).next.1 ∧
        (resumed.after n).save = (t.lexer.after n).save := by
  have hl := h.inBounds_of_compiled hmachines ht
  have hignores := Declaration.ignoresBefore_of_compile hcompile hd
  obtain ⟨resumed, hrestored, hresumes⟩ :=
    hl.resumes (Declaration.agrees_of_compile hcompile hother) hignores
  refine ⟨resumed, hrestored, hresumes.abreast.save, ?_⟩
  intro n
  exact ⟨(hresumes.after n).next.1, (hresumes.after n).abreast.save⟩

/-- Words, of which the last one of a line is told apart, and what stands in brackets. -/
def Declaration.lineSample : Declaration :=
  [⟨"outside", [
      .rule "last" { pattern := .regex "[a-z]+$" },
      .rule "word" { pattern := .regex "[a-z]+" },
      .rule "open" { pattern := .literals ["("], push := some "inside" }]⟩,
    ⟨"inside", [
      .rule "close" { pattern := .literals [")"], pop := some 1 },
      .rule "between" { pattern := .collector }]⟩]

/-- A lexer with other settings goes on inside brackets. -/
theorem Session.resumes_of_reaches_lineSample :
    ∃ m m' s saved t resumed, Declaration.lineSample.compile .standard none true {} = .ok m ∧
      Declaration.lineSample.compile .standard none true { quickLookup := false } = .ok m' ∧
      Reaches [m] s saved ∧ t ∈ s ∧ t.lexer.stack = [1, 0] ∧
      t.lexer.cursor.ahead = ['b', '\n', ')', 'c'] ∧
      (Lexer.ofMachine m').restore t.lexer.cursor.ahead t.lexer.save = (.ok (), resumed) ∧
      resumed.save = t.lexer.save ∧
      ∀ n, (resumed.after n).next.1 = (t.lexer.after n).next.1 ∧
        (resumed.after n).save = (t.lexer.after n).save := by
  let steps : List Step :=
    [.call 0 (.reset ['a', '(', 'b', '\n', ')', 'c']), .call 0 .next, .call 0 .next]
  have hrun : (Declaration.lineSample.compile .standard none true {}).toOption.any (fun m =>
      (Declaration.lineSample.compile .standard none true
        { quickLookup := false }).toOption.any fun _ =>
        ((start [m]).run steps)[0]?.any fun t => t.lexer.stack = [1, 0] ∧
          t.lexer.cursor.ahead = ['b', '\n', ')', 'c']) = true := by
    decide +kernel
  obtain ⟨m, hm, hrun⟩ := exists_ok_of_any_toOption hrun
  obtain ⟨m', hm', hrun⟩ := exists_ok_of_any_toOption hrun
  obtain ⟨t, ht, hplace⟩ := (Option.any_eq_true _ _).mp hrun
  obtain ⟨hstack, hahead⟩ := of_decide_eq_true hplace
  have hstart : Reaches [m] (start [m]) [] := .start
  have hreaches := ((hstart.step (.call 0 (.reset ['a', '(', 'b', '\n', ')', 'c'])) nofun).step
    (.call 0 .next) nofun).step (.call 0 .next) nofun
  have hmachines : ∀ machine ∈ [m], ∃ d host start stateful config,
      Declaration.compile d host start stateful config = .ok machine := by
    rw [List.forall_mem_singleton]
    exact ⟨_, _, _, _, _, hm⟩
  have hmem := List.mem_of_getElem? ht
  obtain rfl := machine_run m steps t hmem
  have hother : Declaration.lineSample.compile .standard none true { quickLookup := false } =
      .ok (Lexer.ofMachine m').machine := hm'
  obtain ⟨resumed, hresumed⟩ := resumes_of_reaches hmachines hreaches hmem (by decide +kernel) hm
    hother
  exact ⟨_, m', _, _, t, resumed, hm, hm', hreaches, hmem, hstack, hahead, hresumed⟩

end Lexing
