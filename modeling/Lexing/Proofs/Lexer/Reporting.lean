import Lexing.Proofs.Lexer.Bounds
import Lexing.Proofs.Lexer.Tiling
import Lexing.Proofs.Text.Snippets

/-!
# Messages about an input in chunks

A lexer knows the text of its present chunk only. Where a chunk ends, a snapshot carries the
position over to the next one, so all that was returned before lies in front of the place where the
present chunk begins, and all that is returned from it lies behind that place. Offsets therefore
tell of which tokens there is something to show. Lines would not, as chunks may meet within a line.

How many lines are shown is up to the settings. If there are so many that the number of the last one
is no machine word, then a place that is not on the first line is not shown.
-/

namespace Lexing

open Text

/-- The lexer is one of the declaration: its machine comes from it, whatever the settings. -/
def Lexer.ComesFrom (l : Lexer) (d : Declaration) : Prop :=
  ∃ host start stateful config, d.compile host start stateful config = .ok l.machine

theorem Lexer.ComesFrom.length_states {l : Lexer} {d : Declaration} (h : l.ComesFrom d) :
    l.machine.states.length = d.length := by
  obtain ⟨host, start, stateful, config, hcompile⟩ := h
  exact Declaration.length_states_of_compile hcompile

theorem Lexer.ComesFrom.inBounds {l : Lexer} {d : Declaration} (h : l.ComesFrom d) :
    l.machine.InBounds := by
  obtain ⟨host, start, stateful, config, hcompile⟩ := h
  exact Declaration.inBounds_of_compile hcompile

def Call.givesText : Call → Bool
  | .reset _ | .restore _ _ => true
  | _ => false

/-- A token of the chunk begins in the chunk and ends before the cursor. -/
theorem Tiles.offset_le {l : Lexer} {tokens : List Token} (h : Tiles l tokens) {token : Token}
    (htoken : token ∈ tokens) : l.origin.offset ≤ token.offset ∧
      token.offset + utf8Length token.text.toList ≤ l.position.offset := by
  obtain ⟨i, hi⟩ := List.getElem?_of_mem htoken
  have hoffset := h.offsets i token hi
  have htake : tokens.take (i + 1) = tokens.take i ++ [token] := by
    rw [List.take_add_one, hi]
    rfl
  have hpassed : l.cursor.byteIndex = utf8Length (Token.joined (tokens.take i)) +
      utf8Length token.text.toList + utf8Length (Token.joined (tokens.drop (i + 1))) := by
    rw [Cursor.byteIndex, ← h.texts, ← utf8Length_append, ← utf8Length_append,
      ← Token.joined_singleton token, ← Token.joined_append, ← htake, ← Token.joined_append,
      List.take_append_drop]
  have hposition := h.position
  omega

/-- A call that gives no text leaves the beginning of the chunk where it is. -/
theorem Lexer.origin_answer {l : Lexer} {c : Call} (h : c.givesText = false) :
    (l.answer c).2.origin = l.origin := by
  cases c with
  | reset | restore => cases h
  | next => exact origin_next
  | tokens count =>
      refine Tokens.lexer_take (P := fun l' => l'.origin = l.origin) ?_ count ⟨l, false⟩ rfl
      intro l' hl'
      rw [origin_next, hl']
  | save | report => rfl

namespace Feeds

variable {d : Declaration} {t : Tracked} {earlier : List Token}

/-- The tokens of the present chunk lie in it, and those of earlier chunks lie in front of it. -/
structure Parted (d : Declaration) (t : Tracked) (earlier : List Token) : Prop where
  source : t.lexer.ComesFrom d
  inBounds : t.lexer.InBounds
  tiles : Tiles t.lexer t.tokens
  earlier : ∀ token ∈ earlier,
    token.offset + utf8Length token.text.toList ≤ t.lexer.origin.offset

namespace Parted

/-- The states of a lexer are states of every lexer of the same declaration. -/
theorem restore_eq (h : Parted d t earlier) {l : Lexer} (source : l.ComesFrom d)
    (text : List Char) : l.restore text t.lexer.save =
      (.ok (), ⟨l.machine, .ofList text, t.lexer.position, t.lexer.position, t.lexer.stack⟩) := by
  have hknown : l.unknownState? t.lexer.save = none := by
    rw [Lexer.unknownState?, source.length_states, ← h.source.length_states, List.find?_eq_none]
    intro id hid
    simpa using h.inBounds.states id (List.mem_reverse.mp hid)
  rw [Lexer.restore, hknown]
  rfl

theorem reset {l : Lexer} (source : l.ComesFrom d) (text : List Char) :
    Parted d ⟨l.reset text, []⟩ [] where
  source := source
  inBounds := (Lexer.InBounds.ofMachine source.inBounds).reset text
  tiles := .nil _ _ _ _
  earlier := List.forall_mem_nil _

theorem call (h : Parted d t earlier) {c : Call} (stays : c.givesText = false) :
    Parted d (t.call c) earlier where
  source := by
    have hmachine : (t.call c).lexer.machine = t.lexer.machine := Lexer.machine_answer t.lexer c
    rw [Lexer.ComesFrom, hmachine]
    exact h.source
  inBounds := by
    refine h.inBounds.answer c ?_
    rintro text s rfl
    cases stays
  tiles := .call t c h.tiles
  earlier token htoken := by
    have horigin : (t.call c).lexer.origin = t.lexer.origin := Lexer.origin_answer stays
    rw [horigin]
    exact h.earlier token htoken

/-- A new chunk begins behind all tokens that there have been. -/
theorem restore (h : Parted d t earlier) {l : Lexer} (source : l.ComesFrom d) (text : List Char) :
    Parted d ⟨(l.restore text t.lexer.save).2, []⟩ (earlier ++ t.tokens) := by
  rw [h.restore_eq source text]
  have hstates := h.inBounds.states
  rw [h.source.length_states, ← source.length_states] at hstates
  refine ⟨source, ⟨source.inBounds, h.inBounds.nonempty, hstates⟩, .nil _ _ _ _, ?_⟩
  -- The new chunk begins where the cursor stood, which has passed all tokens of the old one.
  intro token htoken
  rcases List.mem_append.mp htoken with hearlier | hcurrent
  · have hpassed := h.tiles.position
    exact (h.earlier token hearlier).trans (hpassed ▸ Nat.le_add_right _ _)
  · exact (h.tiles.offset_le hcurrent).2

end Parted

end Feeds

namespace Lexer

variable {l : Lexer} {message : Option String}

def headline (message : Option String) (place : Position) : String :=
  Snippet.headline (message.getD defaultMessage) place

/-- The message points at a byte of the present chunk. -/
def PointsAt (l : Lexer) (offset : Nat) (headline : String) (message : Option String) : Prop :=
  Snippet.PointsAt l.cursor.chunk ⟨l.origin, l.machine.config.contextLines⟩ offset headline message

/-- The message shows lines before that of a byte of the present chunk, if it comes about at all. -/
def Misses (l : Lexer) (offset : Nat) (headline : String) (message : Option String) : Prop :=
  Snippet.Misses l.cursor.chunk ⟨l.origin, l.machine.config.contextLines⟩ offset headline message

/-- The last line to be shown around a byte of the present chunk, if the chunk has as many lines. -/
def lastShown (l : Lexer) (offset : Nat) : Nat :=
  (LineMap.ofText l.cursor.chunk).lineAt offset + l.machine.config.contextLines.toNat

/-- A message about a byte of the present chunk points at it, unless the number of the last line is
no machine word. Then the message misses it. -/
structure Shows (l : Lexer) (offset : Nat) (headline : String) (message : Option String) :
    Prop where
  points : l.lastShown offset < UInt64.size → l.PointsAt offset headline message
  misses : UInt64.size ≤ l.lastShown offset → l.Misses offset headline message

end Lexer

end Lexing
