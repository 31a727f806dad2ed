import Lexing.Proofs.Lexer.Renumbering

/-!
# Lexers of machines that agree

If the tables of two machines agree, then so do their lexers: where both stand at the same place,
they return the same and go on to the same place. If the machines also begin in the same state, then
one may take the place of the other in a lexer, and no call shows a difference.
-/

namespace Lexing

open Text

namespace Machine

variable {m m' : Machine}

/-- The machines begin in the same state, their tables agree, and messages are alike. -/
structure Alike (m m' : Machine) : Prop where
  start : m'.start = m.start
  states : List.Forall₂ StateTable.Agrees m.states m'.states
  contextLines : m'.config.contextLines = m.config.contextLines
  overflow : m'.overflow = m.overflow

/-- Machines from the same host with the same start are alike if their tables agree and messages
show as many lines. -/
theorem alike_of_compile {d d' : Declaration} {host : Host} {start start' : Option String}
    {stateful stateful' : Bool} {config config' : Config}
    (h : d.compile host start stateful config = .ok m)
    (h' : d'.compile host start' stateful' config' = .ok m') (hstart : m'.start = m.start)
    (hstates : List.Forall₂ StateTable.Agrees m.states m'.states)
    (hlines : config'.contextLines = config.contextLines) : m.Alike m' where
  start := hstart
  states := hstates
  contextLines := by
    rw [Declaration.config_of_compile h, Declaration.config_of_compile h', hlines]
  overflow := by
    rw [Declaration.overflow_of_compile h, Declaration.overflow_of_compile h']

/-- Nothing has another number. -/
theorem Alike.renumbers (h : m.Alike m') : m.Renumbers id m' where
  start := h.start
  states number := (state_agrees h.states number).agreesUnder
  known number := by rw [h.states.length_eq, id]
  unknown _ _ := rfl
  onto := Function.surjective_id
  contextLines := h.contextLines
  overflow := h.overflow

theorem Alike.stateId?_eq (h : m.Alike m') (name : String) :
    m'.stateId? name = m.stateId? name := by
  have hstates := h.states
  rw [stateId?, stateId?]
  generalize m.states = ts, m'.states = ts' at hstates
  induction hstates with
  | nil => rfl
  | cons ht _ ih => rw [List.findIdx?_cons, List.findIdx?_cons, ht.name, ih]

end Machine

namespace Lexer

variable {l l' : Lexer} {m' : Machine}

/-- Lexers that stand at the same place do the same if their tables agree, unless what lies behind
them makes a difference. -/
theorem Abreast.next_of_agrees (h : l.Abreast l') (hid : l'.stateId = l.stateId)
    (hstates : List.Forall₂ StateTable.Agrees l.machine.states l'.machine.states)
    (hbehind : l.state.select l'.cursor.behind.head? l.cursor.ahead = l.select) :
    l'.next.1 = l.next.1 ∧ l.next.2.Abreast l'.next.2 := by
  have hagrees : l.state.Agrees l'.state := by
    rw [state, state, hid]
    exact Machine.state_agrees hstates l.stateId
  refine h.next hagrees.name ?_ ?_
  · intro i _ _
    rw [action, action, hagrees.actions]
  · rw [select, h.ahead, hagrees.select, hbehind]

def on (l : Lexer) (m : Machine) : Lexer := { l with machine := m }

/-- Lexers at the same place of the same chunk differ in their machines only. -/
theorem Abreast.eq_on (h : l.Abreast l') (hchunk : l'.cursor.chunk = l.cursor.chunk)
    (horigin : l'.origin = l.origin) : l' = l.on l'.machine := by
  have hbehind : l'.cursor.behind = l.cursor.behind := by
    rw [Cursor.chunk, Cursor.chunk, h.ahead] at hchunk
    exact List.reverse_inj.mp (List.append_cancel_right hchunk)
  have hcursor : l'.cursor = l.cursor := congrArg₂ Cursor.mk hbehind h.ahead
  obtain ⟨m, cursor, position, origin, stack⟩ := l'
  obtain rfl : cursor = l.cursor := hcursor
  obtain rfl : position = l.position := h.position
  obtain rfl : origin = l.origin := horigin
  obtain rfl : stack = l.stack := h.stack
  rfl

theorem stateId_on (h : m'.start = l.machine.start) : (l.on m').stateId = l.stateId := by
  rw [stateId, stateId, on, h]

/-- A call that returns the same with another machine leaves the lexer in the same place. -/
theorem next_on_of_abreast
    (h : (l.on m').next.1 = l.next.1 ∧ l.next.2.Abreast (l.on m').next.2) :
    (l.on m').next = (l.next.1, l.next.2.on m') := by
  obtain ⟨hresult, hafter⟩ := h
  refine Prod.ext hresult ?_
  have hchunk : (l.on m').next.2.cursor.chunk = l.next.2.cursor.chunk := by
    rw [chunk_next, chunk_next, on]
  have horigin : (l.on m').next.2.origin = l.next.2.origin := by
    rw [origin_next, origin_next, on]
  rw [hafter.eq_on hchunk horigin, machine_next]
  rfl

/-- All that can be asked of the second lexer has the same answer as for the first. -/
structure LooksLike (l l' : Lexer) : Prop where
  cursor : l'.cursor = l.cursor
  save : l'.save = l.save
  stateId : l'.stateId = l.stateId
  stateName : l'.state.name = l.state.name
  has : ∀ kind, l'.has kind = l.has kind
  warnings : l'.machine.warnings = l.machine.warnings
  stateId? : ∀ name, l'.machine.stateId? name = l.machine.stateId? name

theorem renumber_id (l : Lexer) (m' : Machine) : l.renumber id m' = l.on m' := by
  rw [renumber, on, List.map_id]

/-- With another machine that is alike, the lexer mirrors what it was, under the same numbers. -/
theorem mirrors_on (h : l.machine.Alike m') : l.Mirrors id (l.on m') := by
  have hmirrors := mirrors_renumber h.renumbers fun name => by
    rw [h.stateId?_eq, Option.map_id_apply]
  rwa [renumber_id] at hmirrors

theorem looksLike_on (h : l.machine.Alike m') (hwarnings : m'.warnings = l.machine.warnings) :
    l.LooksLike (l.on m') where
  cursor := rfl
  save := rfl
  stateId := (mirrors_on h).stateId
  stateName := (mirrors_on h).stateName
  has := (mirrors_on h).has
  warnings := hwarnings
  stateId? := h.stateId?_eq

end Lexer

namespace Tracked

/-- The lexer with another machine, and the tokens that it has returned. -/
def on (t : Tracked) (m : Machine) : Tracked := ⟨t.lexer.on m, t.tokens⟩

theorem renumber_id (t : Tracked) (m' : Machine) : t.renumber id m' = t.on m' := by
  rw [renumber, on, Lexer.renumber_id]

end Tracked

namespace Session

variable {m m' : Machine}

/-- A session of a new lexer goes the same way with another machine. -/
theorem start_run_on (halike : m.Alike m') (steps : List Step) :
    (start [m']).replies steps = (start [m]).replies steps ∧
      (start [m']).run steps = ((start [m]).run steps).map (·.on m') := by
  have hsame := start_run_renumber halike.renumbers steps
  simpa only [Step.renumber_id, Reply.renumber_id, Tracked.renumber_id, List.map_id',
    Option.map_id_fun', id] using hsame

/-- Nothing shows which of the machines is at work. -/
theorem start_on (halike : m.Alike m') (hwarnings : m'.warnings = m.warnings) (steps : List Step) :
    (start [m']).replies steps = (start [m]).replies steps ∧
      List.Forall₂ (fun t t' => t.lexer.LooksLike t'.lexer) ((start [m]).run steps)
        ((start [m']).run steps) := by
  obtain ⟨hreplies, hrun⟩ := start_run_on halike steps
  refine ⟨hreplies, ?_⟩
  rw [hrun, List.forall₂_map_right_iff, List.forall₂_same]
  intro t ht
  have hmachine := machine_run m steps t ht
  exact Lexer.looksLike_on (hmachine.symm ▸ halike) (hmachine.symm ▸ hwarnings)

end Session

end Lexing
