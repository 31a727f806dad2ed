import Lexing.Proofs.Lexer.Stepping
import Lexing.Proofs.Machine.Bounds
import Lexing.Proofs.Text.Lines

/-!
# Lexers find what they look for

Snapshots go from lexer to lexer, also between lexers of different machines. Whichever way a lexer
has come to its states, it is in some state, and all of its states are states of its machine: a
snapshot is restored only if it fits the machine, rules lead to states of their own machine, and
returning from states leaves the oldest one.

It follows that a call finds whatever it looks for, so that no default is ever used, and that no
token goes past the end of the chunk.
-/

namespace Lexing

open Text

/-- The lexer is in some state, and its states are states of its machine. -/
structure Lexer.InBounds (l : Lexer) : Prop where
  machine : l.machine.InBounds
  nonempty : l.stack ≠ []
  states : ∀ id ∈ l.stack, id < l.machine.states.length

namespace Lexer.InBounds

variable {l : Lexer}

theorem ofMachine {m : Machine} (h : m.InBounds) : (Lexer.ofMachine m).InBounds :=
  ⟨h, List.cons_ne_nil _ _, List.forall_mem_singleton.mpr h.start⟩

theorem head?_stack (h : l.InBounds) : l.stack.head? = some l.stateId := by
  obtain ⟨id, rest, hstack⟩ := List.exists_cons_of_ne_nil h.nonempty
  rw [Lexer.stateId, hstack]
  rfl

/-- The current state is one of the machine. -/
theorem getElem?_stateId (h : l.InBounds) : l.machine.states[l.stateId]? = some l.state := by
  have hlt := h.states _ (List.mem_of_mem_head? h.head?_stack)
  rw [Lexer.state, Machine.state, List.getElem?_eq_getElem hlt, Option.getD_some]

theorem state_mem (h : l.InBounds) : l.state ∈ l.machine.states :=
  List.mem_of_getElem? h.getElem?_stateId

theorem getElem?_action {i : Nat} (hi : i < l.state.actions.length) :
    l.state.actions[i]? = some (l.action i) := by
  rw [Lexer.action, List.getElem?_eq_getElem hi, Option.getD_some]

/-- The action that is selected is one of the current state, and there are enough characters. -/
theorem select (h : l.InBounds) (hahead : l.cursor.ahead ≠ []) {i n : Nat}
    (hselect : l.select = some (i, n)) :
    l.state.actions[i]? = some (l.action i) ∧ n ≤ l.cursor.ahead.length := by
  obtain ⟨hi, hn⟩ := (h.machine.tables _ h.state_mem).select hahead hselect
  exact ⟨getElem?_action hi, hn⟩

theorem apply (h : l.InBounds) {tr : Transition}
    (htarget : ∀ target ∈ tr.target?, target < l.machine.states.length) :
    ∀ id ∈ tr.apply l.stack, id < l.machine.states.length := by
  obtain ⟨top, rest, hstack⟩ := List.exists_cons_of_ne_nil h.nonempty
  have hstates := h.states
  cases tr with
  | push target => exact List.forall_mem_cons.mpr ⟨htarget target rfl, hstates⟩
  | pop count =>
      intro id hid
      exact hstates id (List.mem_of_mem_drop hid)
  | next target =>
      rw [hstack] at hstates ⊢
      exact List.forall_mem_cons.mpr ⟨htarget target rfl, (List.forall_mem_cons.mp hstates).2⟩

theorem next (h : l.InBounds) : l.next.2.InBounds := by
  have hmachine : l.next.2.machine = l.machine := Lexer.machine_next
  refine ⟨hmachine ▸ h.machine, Lexer.stack_next_ne_nil h.nonempty, ?_⟩
  rw [hmachine]
  refine Lexer.next_induction (P := fun l' => ∀ id ∈ l'.stack, id < l.machine.states.length)
    h.states ?_
  intro c rest i n hahead hselect _
  obtain ⟨haction, -⟩ := h.select (hahead ▸ List.cons_ne_nil c rest) hselect
  rw [Lexer.stack_take]
  cases htr : (l.action i).transition with
  | none => exact h.states
  | some tr =>
      exact h.apply (h.machine.targets _ h.state_mem _ (List.mem_of_getElem? haction) tr htr)

theorem reset (h : l.InBounds) (text : List Char) : (l.reset text).InBounds :=
  ⟨h.machine, List.cons_ne_nil _ _, List.forall_mem_singleton.mpr h.machine.start⟩

/-- A snapshot that fits the machine is restored, and no other. -/
theorem restore (h : l.InBounds) (text : List Char) {s : Snapshot} (hs : s.stack ≠ []) :
    (l.restore text s).2.InBounds := by
  rw [Lexer.restore]
  split
  next => exact h
  next hknown =>
    refine ⟨h.machine, hs, ?_⟩
    intro id hid
    simpa using List.find?_eq_none.mp hknown id (List.mem_reverse.mpr hid)

theorem answer (h : l.InBounds) (c : Call)
    (hc : ∀ text s, c = .restore text s → s.stack ≠ []) : (l.answer c).2.InBounds := by
  cases c with
  | reset text => exact h.reset text
  | restore text s => exact h.restore text (hc text s rfl)
  | next => exact h.next
  | tokens count =>
      exact Tokens.lexer_take (P := Lexer.InBounds) (fun _ => next) count ⟨l, false⟩ h
  | save | report => exact h

end Lexer.InBounds

namespace Session

/-- The snapshot that a step takes, if it takes one. -/
def saved? (s : Session) : Step → Option Snapshot
  | .call i .save => s[i]?.map (·.lexer.save)
  | _ => none

/-- A session comes about from lexers of some machines. It takes some snapshots on the way, and
restores none but these, into whichever lexer. -/
inductive Reaches (machines : List Machine) : Session → List Snapshot → Prop
  | start : Reaches machines (start machines) []
  | step {s : Session} {saved : List Snapshot} (reaches : Reaches machines s saved) (a : Step)
      (fair : ∀ i text snapshot, a = .call i (.restore text snapshot) → snapshot ∈ saved) :
      Reaches machines (s.step a) (saved ++ (s.saved? a).toList)

variable {machines : List Machine} {s : Session} {saved : List Snapshot}

/-- Lexers stay within bounds, and no snapshot is without states. -/
theorem Reaches.inBounds (h : Reaches machines s saved) (hmachines : ∀ m ∈ machines, m.InBounds) :
    (∀ t ∈ s, t.lexer.InBounds) ∧ ∀ snapshot ∈ saved, snapshot.stack ≠ [] := by
  induction h with
  | start =>
      refine ⟨?_, List.forall_mem_nil _⟩
      intro t ht
      obtain ⟨m, hm, rfl⟩ := List.mem_map.mp ht
      exact .ofMachine (hmachines m hm)
  | @step s saved _ a fair ih =>
      obtain ⟨hlexers, hsaved⟩ := ih
      constructor
      · refine forall_mem_step (P := fun t => t.lexer.InBounds) a ?_ hlexers
        intro t i c hc ht
        apply ht.answer c
        intro text snapshot hrestore
        exact hsaved _ (fair i text snapshot (hrestore ▸ hc))
      · refine List.forall_mem_append.mpr ⟨hsaved, ?_⟩
        intro snapshot hsnapshot
        rw [saved?.eq_def] at hsnapshot
        split at hsnapshot
        next i =>
          obtain ⟨t, ht, rfl⟩ := Option.map_eq_some_iff.mp (Option.mem_toList.mp hsnapshot)
          exact (hlexers t (List.mem_of_getElem? ht)).nonempty
        next => cases hsnapshot

/-- A session may have one machine. -/
theorem forall_mem_singleton_compiled {d : Declaration} {host : Host} {start : Option String}
    {stateful : Bool} {config : Config} {m : Machine}
    (h : d.compile host start stateful config = .ok m) :
    ∀ machine ∈ [m], ∃ d host start stateful config,
      Declaration.compile d host start stateful config = .ok machine :=
  List.forall_mem_singleton.mpr ⟨d, host, start, stateful, config, h⟩

/-- Lexers of compiled machines are within bounds. -/
theorem Reaches.inBounds_of_compiled
    (hmachines : ∀ m ∈ machines, ∃ d host start stateful config,
      Declaration.compile d host start stateful config = .ok m)
    (h : Reaches machines s saved) {t : Tracked} (ht : t ∈ s) : t.lexer.InBounds := by
  refine (h.inBounds ?_).1 t ht
  intro m hm
  obtain ⟨d, host, start, stateful, config, hcompile⟩ := hmachines m hm
  exact Declaration.inBounds_of_compile hcompile

end Session

/-- The text that a cursor passes is cut out of the chunk where the cursor stands. -/
theorem Text.Cursor.slice?_chunk (c : Cursor) (n : Nat) :
    slice? c.chunk c.byteIndex (c.byteIndex + utf8Length (c.ahead.take n)) =
      some (c.ahead.take n) := by
  have hchunk : c.chunk = c.behind.reverse ++ c.ahead.take n ++ c.ahead.drop n := by
    rw [List.append_assoc, List.take_append_drop, chunk]
  rw [hchunk, byteIndex, ← utf8Length_append]
  exact slice?_append _ _ _

/-- Whatever a lexer looks up is there. -/
structure Lexer.Finds (l : Lexer) : Prop where
  top : l.stack.head? = some l.stateId
  state : l.machine.states[l.stateId]? = some l.state
  quick : ∀ c i, l.state.quick.lookup c = some i → i < l.state.actions.length
  patterns : ∀ entry ∈ l.state.patterns, entry.1 < l.state.actions.length
  recovery : ∀ r ∈ l.state.recovery, r.action < l.state.actions.length
  /-- The action that is selected is there, and so is the text that it takes. -/
  selected : l.cursor.ahead ≠ [] → ∀ i n, l.select = some (i, n) →
    l.state.actions[i]? = some (l.action i) ∧ n ≤ l.cursor.ahead.length ∧
      slice? l.cursor.chunk l.cursor.byteIndex
        (l.cursor.byteIndex + utf8Length (l.cursor.ahead.take n)) = some (l.cursor.ahead.take n)
  /-- Returning from so many states leaves a state, without a check that keeps the last one. -/
  returns : ∀ a count, a.transition = some (.pop count) → l.underflow? a = none →
    count < l.depth ∧ Transition.apply l.stack (.pop count) = l.stack.drop count
  /-- The lines that a message shows are lines of the chunk. There is one at least, if the chunk has
  no more lines than fit in memory. -/
  shown : ∀ offset first last,
    let lines := LineMap.ofText l.cursor.chunk
    Snippet.window? l.machine.overflow lines (lines.lineAt offset)
      ⟨l.origin, l.machine.config.contextLines⟩ = some (first, last) →
    (∀ i ≤ last, ∃ line, lines.line? l.cursor.chunk i = some line) ∧
      (lines.count ≤ 2 ^ 63 → first ≤ last)

theorem Lexer.InBounds.finds {l : Lexer} (h : l.InBounds) : l.Finds where
  top := h.head?_stack
  state := h.getElem?_stateId
  quick c i hlookup := by
    obtain ⟨earlier, later, hquick, -⟩ := List.lookup_eq_some_iff.mp hlookup
    exact (h.machine.tables _ h.state_mem).quick _ (hquick ▸ List.mem_append_cons_self)
  patterns entry hentry := ((h.machine.tables _ h.state_mem).patterns entry hentry).1
  recovery := (h.machine.tables _ h.state_mem).recovery
  selected hahead i n hselect := by
    obtain ⟨haction, hn⟩ := h.select hahead hselect
    exact ⟨haction, hn, l.cursor.slice?_chunk n⟩
  returns a count htr hunderflow := by
    have hlt : count < l.depth := by
      simp only [Lexer.underflow?, htr] at hunderflow
      split at hunderflow
      next => cases hunderflow
      next hle => exact Nat.lt_of_not_le hle
    refine ⟨hlt, ?_⟩
    rw [Lexer.depth] at hlt
    rw [Transition.apply, Nat.min_eq_left (by omega)]
  shown _ _ _ := Snippet.window?_lines

/-- However lexers of compiled machines are called, and however their snapshots are exchanged, each
of them is in a state, has only states of its machine, stands between two characters of its chunk,
and finds whatever it looks up. -/
theorem Session.finds_of_reaches {machines : List Machine}
    (hmachines : ∀ m ∈ machines, ∃ d host start stateful config,
      Declaration.compile d host start stateful config = .ok m)
    {s : Session} {saved : List Snapshot} (h : Reaches machines s saved) :
    ∀ t ∈ s, t.lexer.stack ≠ [] ∧
      (∀ id ∈ t.lexer.stack, id < t.lexer.machine.states.length) ∧
      cut? t.lexer.cursor.chunk t.lexer.cursor.byteIndex =
        some (t.lexer.cursor.behind.reverse, t.lexer.cursor.ahead) ∧
      t.lexer.Finds := by
  intro t ht
  have hl := h.inBounds_of_compiled hmachines ht
  exact ⟨hl.nonempty, hl.states, cut?_append _ _, hl.finds⟩

/-- Brackets, with anything between them. -/
def Declaration.bracketSample : Declaration :=
  [⟨"outside", [.rule "open" { pattern := .literals ["("], push := some "inside" }]⟩,
    ⟨"inside", [
      .rule "close" { pattern := .literals [")"], pop := some 1 },
      .rule "between" { pattern := .collector }]⟩]

/-- A lexer goes on where one of another declaration has stopped. -/
theorem Session.finds_of_reaches_bracketSample :
    ∃ m m' s saved t, Declaration.bracketSample.compile .standard none true {} = .ok m ∧
      Declaration.compileSingle .standard [.rule "any" { pattern := .fallback }] {} = .ok m' ∧
      Reaches [m, m'] s saved ∧ t ∈ s ∧ t.lexer.stack = [1, 0] ∧ t.lexer.position.offset = 2 ∧
      t.lexer.Finds := by
  let snapshot : Snapshot := ⟨⟨1, 2, 1⟩, [0]⟩
  obtain ⟨m, m', t, hm, hm', hsaved, ht, hstack, hoffset⟩ : ∃ m m' t,
      Declaration.bracketSample.compile .standard none true {} = .ok m ∧
      Declaration.compileSingle .standard [.rule "any" { pattern := .fallback }] {} = .ok m' ∧
      ((start [m, m']).run [.call 1 (.reset ['a']), .call 1 .next]).saved? (.call 1 .save) =
        some snapshot ∧
      ((start [m, m']).run [.call 1 (.reset ['a']), .call 1 .next, .call 1 .save,
        .call 0 (.restore ['(', 'b'] snapshot), .call 0 .next])[0]? = some t ∧
      t.lexer.stack = [1, 0] ∧ t.lexer.position.offset = 2 :=
    ⟨_, _, _, rfl, rfl, rfl, rfl, rfl, rfl⟩
  have hstart : Reaches [m, m'] (start [m, m']) [] := .start
  have hscanned := (hstart.step (.call 1 (.reset ['a'])) nofun).step (.call 1 .next) nofun
  have hshared := hscanned.step (.call 1 .save) nofun
  have hreaches := (hshared.step (.call 0 (.restore ['(', 'b'] snapshot)) (by
    rintro _ _ _ ⟨⟩
    exact List.mem_append_right _ (Option.mem_toList.mpr hsaved))).step (.call 0 .next) nofun
  have hmem := List.mem_of_getElem? ht
  have hmachines : ∀ machine ∈ [m, m'], ∃ d host start stateful config,
      Declaration.compile d host start stateful config = .ok machine := by
    rw [List.forall_mem_cons, List.forall_mem_singleton]
    exact ⟨⟨_, _, _, _, _, hm⟩, ⟨_, _, _, _, _, hm'⟩⟩
  exact ⟨m, m', _, _, t, hm, hm', hreaches, hmem, hstack, hoffset,
    (finds_of_reaches hmachines hreaches t hmem).2.2.2⟩

end Lexing
