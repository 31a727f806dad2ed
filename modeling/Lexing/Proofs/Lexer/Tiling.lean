import Lexing.Machine.Compile
import Lexing.Proofs.Lexer.Session
import Lexing.Proofs.Text.Lines

/-!
# Tokens tile the input

The tokens that a lexer returns lie next to each other in its chunk. Their texts, one after another,
are what the cursor has passed, and each offset is that of the chunk and the texts before. It does
not matter which rules matched, or whether any did: a token takes its text from the place of the
cursor and moves the cursor to the end of that text, and a call that returns none leaves the cursor
where it is.
-/

namespace Lexing

open Text

/-- The texts of some tokens, one after another. -/
def Token.joined (tokens : List Token) : List Char := tokens.flatMap (·.text.toList)

namespace Token

@[simp] theorem joined_append (left right : List Token) :
    joined (left ++ right) = joined left ++ joined right := List.flatMap_append

@[simp] theorem joined_singleton (token : Token) : joined [token] = token.text.toList :=
  List.flatMap_singleton _ _

end Token

/-- The tokens fill the chunk of the lexer up to the cursor. -/
structure Tiles (l : Lexer) (tokens : List Token) : Prop where
  texts : Token.joined tokens = l.cursor.behind.reverse
  offsets : ∀ i token, tokens[i]? = some token →
    token.offset = l.origin.offset + utf8Length (Token.joined (tokens.take i))
  position : l.position.offset = l.origin.offset + l.cursor.byteIndex

/-- A lexer has no more tokens only at the end of its chunk. -/
theorem Lexer.ahead_of_next {l : Lexer} (h : l.next.1 = .ok none) : l.cursor.ahead = [] := by
  rw [Lexer.next] at h
  split at h
  next hend => exact List.head?_eq_none_iff.mp hend
  next =>
    split at h
    next => cases h
    next =>
      dsimp only at h
      split at h <;> cases h

namespace Tiles

variable {l : Lexer} {tokens : List Token}

/-- A lexer that was just given a text has returned no token of it. -/
theorem nil (m : Machine) (text : List Char) (position : Position) (stack : List Nat) :
    Tiles ⟨m, .ofList text, position, position, stack⟩ [] where
  texts := rfl
  offsets _ _ h := nomatch h
  position := rfl

/-- A token begins where those before it end. -/
theorem take (h : Tiles l tokens) (a : Action) (length : Nat) :
    Tiles (l.take a length).2 (tokens ++ [(l.take a length).1]) where
  texts := by simp [Lexer.take, Cursor.advance, h.texts]
  offsets i token hi := by
    rcases Nat.lt_trichotomy i tokens.length with hlt | rfl | hgt
    · rw [List.getElem?_append_left hlt] at hi
      rw [List.take_append_of_le_length (Nat.le_of_lt hlt)]
      exact h.offsets i token hi
    · obtain rfl := Option.some.inj (List.getElem?_concat_length.symm.trans hi)
      rw [List.take_left, h.texts]
      exact h.position
    · rw [List.getElem?_eq_none (by simp; omega)] at hi
      cases hi
  position := by
    have hoffset : (l.take a length).2.position.offset =
        l.position.offset + utf8Length (l.cursor.ahead.take length) :=
      Position.advance_offset _ _ _
    rw [hoffset, h.position]
    exact (Nat.add_assoc _ _ _).trans
      (congrArg (l.origin.offset + ·) (Cursor.byteIndex_advance _ _).symm)

/-- A call for a token adds the token that it returns, if it returns one. -/
theorem next (h : Tiles l tokens) :
    Tiles l.next.2 (tokens ++ (Reply.next l.next.1).returned) := by
  rw [Lexer.next]
  split
  next => simpa [Reply.returned] using h
  next c _ =>
    split
    next => simpa [Reply.returned] using h
    next i length _ =>
      dsimp only
      split
      next => simpa [Reply.returned] using h
      next => exact h.take (l.action i) length

theorem tokensNext {ts : Tokens} (h : Tiles ts.lexer tokens) :
    Tiles ts.next.2.lexer (tokens ++ (Reply.token? ts.next.1).toList) := by
  have hnext := h.next
  rw [Tokens.next]
  split
  next => simpa [Reply.token?] using h
  next =>
    split
    case h_1 heq | h_2 heq | h_3 heq =>
      rw [heq] at hnext
      simpa [Reply.token?, Reply.returned] using hnext

/-- Going through the tokens that are left adds all that are returned. -/
theorem tokensTake (count : Nat) (ts : Tokens) (h : Tiles ts.lexer tokens) :
    Tiles (Tokens.take count ts).2.lexer
      (tokens ++ (Reply.tokens (Tokens.take count ts).1).returned) := by
  induction count generalizing ts tokens with
  | zero => simpa [Tokens.take, Reply.returned] using h
  | succ count ih =>
      have hrest := ih _ h.tokensNext
      rw [List.append_assoc] at hrest
      have hreturned : (Reply.tokens (Tokens.take (count + 1) ts).1).returned =
          (Reply.token? ts.next.1).toList ++
            (Reply.tokens (Tokens.take count ts.next.2).1).returned := by
        simp only [Tokens.take, Reply.returned, List.filterMap_cons]
        cases Reply.token? ts.next.1 <;> rfl
      rw [hreturned]
      exact hrest

/-- Every call keeps the tokens in their places. -/
theorem call (t : Tracked) (c : Call) (h : Tiles t.lexer t.tokens) :
    Tiles (t.call c).lexer (t.call c).tokens := by
  cases c with
  | reset text => exact .nil _ _ _ _
  | restore text snapshot =>
      rcases t.lexer.restore_cases text snapshot with hrestored | ⟨e, hfailed⟩
      · simp only [Tracked.call, Lexer.answer, hrestored]
        exact .nil _ _ _ _
      · simpa [Tracked.call, Lexer.answer, hfailed, Reply.refills, Reply.returned] using h
  | next => exact h.next
  | tokens count => exact h.tokensTake count ⟨t.lexer, false⟩
  | save | report => simpa [Tracked.call, Lexer.answer, Reply.refills, Reply.returned] using h

end Tiles

/-- In every session the tokens of each lexer since its last text fill the chunk from its beginning
to the cursor, each at the offset where those before it end. At the end of the chunk they are the
whole chunk. -/
theorem tokens_tile (machines : List Machine) (steps : List Session.Step) :
    ∀ t ∈ (Session.start machines).run steps,
      cut? t.lexer.cursor.chunk t.lexer.cursor.byteIndex =
        some (Token.joined t.tokens, t.lexer.cursor.ahead) ∧
      (∀ i token, t.tokens[i]? = some token →
        token.offset =
          t.lexer.origin.offset + utf8Length (Token.joined (t.tokens.take i))) ∧
      t.lexer.position.offset = t.lexer.origin.offset + t.lexer.cursor.byteIndex ∧
      (t.lexer.next.1 = .ok none → Token.joined t.tokens = t.lexer.cursor.chunk) := by
  intro t ht
  have h : Tiles t.lexer t.tokens := by
    refine Session.forall_mem_run (P := fun t => Tiles t.lexer t.tokens) Tiles.call ?_ steps t ht
    intro t ht
    obtain ⟨m, -, rfl⟩ := List.mem_map.mp ht
    exact .nil _ _ _ _
  refine ⟨?_, h.offsets, h.position, ?_⟩
  · rw [h.texts]
    exact cut?_append _ _
  · intro hend
    rw [h.texts, Cursor.chunk, Lexer.ahead_of_next hend, List.append_nil]

/-- A text of two characters is a token, and so is any other character. -/
def Declaration.pairSample : Declaration :=
  [⟨"start", [
    .rule "pair" { pattern := .literals ["ab"] },
    .rule "other" { pattern := .fallback }]⟩]

/-- A clone goes on where its original stands. -/
theorem tokens_tile_pairSample :
    ∃ m t, Declaration.pairSample.compile .standard none true {} = .ok m ∧
      t ∈ (Session.start [m]).run
        [.call 0 (.reset ['a', 'b', '\n']), .call 0 .next, .clone 0, .call 1 .next] ∧
      t.lexer.next.1 = .ok none ∧ t.tokens.length = 2 ∧
      Token.joined t.tokens = t.lexer.cursor.chunk := by
  obtain ⟨m, t, hm, ht, hend, hlength⟩ : ∃ m t,
      Declaration.pairSample.compile .standard none true {} = .ok m ∧
      ((Session.start [m]).run
        [.call 0 (.reset ['a', 'b', '\n']), .call 0 .next, .clone 0, .call 1 .next])[1]? = some t ∧
      t.lexer.next.1 = .ok none ∧ t.tokens.length = 2 := ⟨_, _, rfl, rfl, rfl, rfl⟩
  have hmem := List.mem_of_getElem? ht
  exact ⟨m, t, hm, hmem, hend, hlength, (tokens_tile [m] _ t hmem).2.2.2 hend⟩

end Lexing
