import Lexing.Proofs.Regex.Reading

/-!
# Reading in front of a closing parenthesis

A closing parenthesis ends everything that an expression is made of. So an escape, a class or a run
of characters is read in the same way if the text goes on with one: nothing looks further than one
character past its end. The one exception is a comment that is still open at the end of the text,
which takes the parenthesis in. `ClosedBy` says how the two texts that are left over compare.
-/

namespace Lexing.Regex

/-- The rest of a text that goes on with a closing parenthesis. The parenthesis is lost if the rest
is a comment that does not end. -/
def ClosedBy (rest rest' : List Char) : Prop :=
  rest' = rest ++ [')'] ∨ rest = [] ∧ rest' = []

namespace ClosedBy

theorem append (rest : List Char) : ClosedBy rest (rest ++ [')']) := .inl rfl

theorem eq_append {rest rest' : List Char} (h : ClosedBy rest rest') (hrest : rest ≠ []) :
    rest' = rest ++ [')'] :=
  h.resolve_right fun hnil => hrest hnil.1

theorem eq_cons {c : Char} {rest rest' : List Char} (h : ClosedBy (c :: rest) rest') :
    rest' = c :: (rest ++ [')']) :=
  h.eq_append (List.cons_ne_nil c rest)

end ClosedBy

theorem exists_cons_of_closed_eq_cons {cs rest : List Char} {d : Char}
    (h : cs ++ [')'] = d :: rest) (hd : d ≠ ')') : ∃ more, cs = d :: more := by
  cases cs with
  | nil => exact absurd (List.cons.inj h).1.symm hd
  | cons c more => exact ⟨more, by rw [(List.cons.inj h).1]⟩

namespace Flags

variable (f : Flags)

theorem skipBlanks_closed (comment : Bool) (cs : List Char) :
    ClosedBy (skipBlanks comment cs) (skipBlanks comment (cs ++ [')'])) := by
  induction cs generalizing comment with
  | nil =>
      cases comment with
      | true => exact .inr ⟨rfl, rfl⟩
      | false => exact .inl rfl
  | cons c cs ih =>
      cases comment with
      | true => exact ih (c ≠ '\n')
      | false =>
          simp only [List.cons_append, skipBlanks]
          split
          next => exact ih false
          next =>
            split
            next => exact ih true
            next => exact .append (c :: cs)

theorem skip_closed (cs : List Char) : ClosedBy (f.skip cs) (f.skip (cs ++ [')'])) := by
  unfold skip
  split
  next => exact skipBlanks_closed false cs
  next => exact .append cs

/-- A run that ends before the parenthesis, or that the parenthesis ends, is the same run. -/
theorem spanFrom_closed {p : Char → Bool} {comment : Bool} {limit limit' : Nat}
    {cs run rest : List Char} (h : f.spanFrom p comment limit cs = (run, rest))
    (hp : p ')' = false ∨ rest ≠ [])
    (hlimit : limit' = limit ∨ cs.length ≤ limit ∧ cs.length ≤ limit') :
    ∃ rest', f.spanFrom p comment limit' (cs ++ [')']) = (run, rest') ∧ ClosedBy rest rest' := by
  induction cs generalizing comment limit limit' run rest with
  | nil =>
      obtain ⟨rfl, rfl⟩ : [] = run ∧ [] = rest := by simpa [spanFrom] using h
      have hp := hp.resolve_right fun hne => hne rfl
      cases comment with
      | true => exact ⟨[], by simp [spanFrom], .inr ⟨rfl, rfl⟩⟩
      | false =>
          refine ⟨[')'], ?_, .inl rfl⟩
          have hblank : isBlank ')' = false := by decide
          cases limit' <;> simp [spanFrom, hp, hblank]
  | cons c cs ih =>
      have hshorter : limit' = limit ∨ cs.length ≤ limit ∧ cs.length ≤ limit' := by
        rw [List.length_cons] at hlimit
        omega
      cases comment with
      | true =>
          simp only [spanFrom] at h
          simpa only [List.cons_append, spanFrom] using ih h hp hshorter
      | false =>
          simp only [spanFrom] at h
          simp only [List.cons_append, spanFrom]
          split at h
          next hblank => rw [if_pos hblank]; exact ih h hp hshorter
          next hblank =>
            rw [if_neg hblank]
            split at h
            next hmark => rw [if_pos hmark]; exact ih h hp hshorter
            next hmark =>
              rw [if_neg hmark]
              cases limit with
              | zero =>
                  obtain rfl : limit' = 0 := by
                    rw [List.length_cons] at hlimit
                    omega
                  obtain ⟨rfl, rfl⟩ := Prod.mk.inj h
                  exact ⟨_, rfl, .append (c :: cs)⟩
              | succ limit =>
                  obtain ⟨limit', rfl⟩ : ∃ k, limit' = k + 1 := by
                    rw [List.length_cons] at hlimit
                    exact ⟨limit' - 1, by omega⟩
                  dsimp only at h ⊢
                  split at h
                  next hc =>
                    rw [if_pos hc]
                    generalize hrun : f.spanFrom p false limit cs = found at h
                    obtain ⟨more, rest⟩ := found
                    obtain ⟨rfl, rfl⟩ := Prod.mk.inj h
                    have hfewer : limit' = limit ∨ cs.length ≤ limit ∧ cs.length ≤ limit' := by
                      rw [List.length_cons] at hlimit
                      omega
                    obtain ⟨rest', hrest', hclosed⟩ := ih hrun hp hfewer
                    exact ⟨rest', by rw [hrest'], hclosed⟩
                  next hc =>
                    rw [if_neg hc]
                    obtain ⟨rfl, rfl⟩ := Prod.mk.inj h
                    exact ⟨_, rfl, .append (c :: cs)⟩

theorem span_closed {p : Char → Bool} {cs run rest : List Char} (h : f.span p cs = (run, rest))
    (hp : p ')' = false ∨ rest ≠ []) :
    ∃ rest', f.span p (cs ++ [')']) = (run, rest') ∧ ClosedBy rest rest' := by
  refine f.spanFrom_closed h hp (.inr ⟨Nat.le_refl _, ?_⟩)
  rw [List.length_append]
  exact Nat.le_add_right _ _

theorem dropWhile_closed {p : Char → Bool} (hp : p ')' = false) (cs : List Char) :
    (cs ++ [')']).dropWhile p = cs.dropWhile p ++ [')'] := by
  induction cs with
  | nil => simp [hp]
  | cons c cs ih => by_cases h : p c = true <;> simp [h, ih]

theorem head?_closed {cs : List Char} {d : Char} (hd : d ≠ ')') :
    (cs ++ [')']).head? = some d ↔ cs.head? = some d := by
  cases cs with
  | nil => simp [hd.symm]
  | cons c cs => simp

/-- Looking ahead for any other character, the parenthesis makes no difference. -/
theorem peek?_closed (cs : List Char) {d : Char} (hd : d ≠ ')') :
    f.peek? (cs ++ [')']) = some d ↔ f.peek? cs = some d := by
  have hblank : isBlank ')' = false := by decide
  unfold peek?
  split
  next =>
    rw [dropWhile_closed hblank]
    cases cs.dropWhile isBlank with
    | nil => simp [hd.symm]
    | cons c rest =>
        rw [List.cons_append]
        split
        next heq =>
          obtain ⟨rfl, rfl⟩ := List.cons.inj heq
          rw [dropWhile_closed hblank]
          exact head?_closed hd
        next hne =>
          split
          next heq => exact (hne _ (by rw [(List.cons.inj heq).1])).elim
          next => simp
  next => exact head?_closed hd

end Flags

namespace Escape

variable (f : Flags)

theorem readCode_closed {width : Nat} (hwidth : 0 < width) {cs rest : List Char} {c : Char}
    (h : readCode f width cs = .ok (c, rest)) :
    ∃ rest', readCode f width (cs ++ [')']) = .ok (c, rest') ∧ ClosedBy rest rest' := by
  have hclosed := f.skip_closed cs
  rw [readCode] at h ⊢
  split at h
  next more hskip =>
    rw [hskip] at hclosed
    rw [hclosed.eq_cons]
    split at h
    next digits rest' hspan =>
      obtain ⟨more', hmore, hrest⟩ := f.span_closed hspan (.inl (by decide))
      obtain ⟨d, hd, h⟩ := bind_eq_ok_iff.mp h
      obtain ⟨rfl, rfl⟩ := Prod.mk.inj (pure_eq_ok_iff.mp h)
      rw [hrest.eq_cons] at hmore
      exact ⟨_, by simp only [hmore, hd, ok_bind]; rfl, .append _⟩
    next => cases h
  next hbrace =>
    generalize hspan : f.spanFrom isHex false width (f.skip cs) = found at h
    obtain ⟨digits, rest'⟩ := found
    dsimp only at h
    split at h
    next hlength =>
      -- At least one digit has been read, so the text does not end before the digits.
      have hne : f.skip cs ≠ [] := by
        intro hnil
        rw [hnil] at hspan
        obtain ⟨rfl, -⟩ : [] = digits ∧ [] = rest' := by simpa [Flags.spanFrom] using hspan
        exact absurd hlength (Nat.ne_of_lt hwidth)
      obtain ⟨more, hmore, hrest⟩ := f.spanFrom_closed hspan (.inl (by decide)) (.inl rfl)
      obtain ⟨d, hd, h⟩ := bind_eq_ok_iff.mp h
      rw [hclosed.eq_append hne]
      obtain ⟨e, es, hes⟩ := List.exists_cons_of_ne_nil hne
      split
      next heq =>
        rw [hes, List.cons_append] at heq
        exact (hbrace es (by rw [hes, (List.cons.inj heq).1])).elim
      next =>
        rw [hmore]
        dsimp only at h ⊢
        rw [if_pos hlength, hd, ok_bind]
        split at h
        next => cases h
        next hascii =>
          obtain ⟨rfl, rfl⟩ := Prod.mk.inj (pure_eq_ok_iff.mp h)
          rw [if_neg hascii]
          exact ⟨more, rfl, hrest⟩
    next => cases h

theorem readProperty_closed {negated : Bool} {cs rest : List Char} {s : CharSet}
    (h : readProperty f negated cs = .ok (s, rest)) :
    readProperty f negated (cs ++ [')']) = .ok (s, rest ++ [')']) := by
  have hclosed := f.skip_closed cs
  rw [readProperty] at h ⊢
  split at h
  next => cases h
  next more hskip =>
    rw [hskip] at hclosed
    rw [hclosed.eq_cons]
    split at h
    next name rest' hspan =>
      obtain ⟨more', hmore, hrest⟩ := f.span_closed hspan (.inr (List.cons_ne_nil _ _))
      obtain ⟨d, hd, h⟩ := bind_eq_ok_iff.mp h
      obtain ⟨rfl, rfl⟩ := Prod.mk.inj (pure_eq_ok_iff.mp h)
      rw [hrest.eq_cons] at hmore
      simp only [hmore, hd, ok_bind]
      rfl
    next => cases h
  next => cases h
  next c more hbrace hslash hskip =>
    rw [hskip] at hclosed
    rw [hclosed.eq_cons]
    obtain ⟨d, hd, h⟩ := bind_eq_ok_iff.mp h
    obtain ⟨rfl, rfl⟩ := Prod.mk.inj (pure_eq_ok_iff.mp h)
    simp only [hd, ok_bind]
    rfl

theorem readWordEdge_closed {cs rest : List Char} {edge : WordEdge}
    (h : readWordEdge f cs = .ok (edge, rest)) :
    readWordEdge f (cs ++ [')']) = .ok (edge, rest ++ [')']) := by
  unfold readWordEdge at h ⊢
  dsimp only at h ⊢
  split at h
  next more =>
    have hclosed := f.skip_closed more
    split at h
    next => cases h
    next c more' hskip =>
      rw [hskip] at hclosed
      simp only [List.cons_append, hclosed.eq_cons]
      split at h
      next hpart =>
        rw [if_pos hpart]
        split at h
        next name rest' hspan =>
          have hparen : (')'.isAlpha || decide (')' = '-')) = false := by decide
          obtain ⟨rest'', hspan', hrest⟩ := f.span_closed hspan (.inl hparen)
          rw [List.cons_append, hrest.eq_cons] at hspan'
          rw [hspan']
          split at h <;> rename_i hname <;> cases h <;> simp only [hname]
        next => cases h
      next hpart =>
        rw [if_neg hpart]
        obtain ⟨rfl, rfl⟩ := Prod.mk.inj (Except.ok.inj h)
        rfl
  next hbrace =>
    obtain ⟨rfl, rfl⟩ := Prod.mk.inj (Except.ok.inj h)
    split
    next more heq =>
      cases cs with
      | nil => exact absurd (List.cons.inj heq).1 (by decide)
      | cons c cs => exact (hbrace cs (by rw [(List.cons.inj heq).1])).elim
    next => rfl

theorem read_closed {cs rest : List Char} {e : Escape} (h : read f cs = .ok (e, rest)) :
    ∃ rest', read f (cs ++ [')']) = .ok (e, rest') ∧ ClosedBy rest rest' := by
  cases cs with
  | nil => cases h
  | cons c cs =>
      unfold read at h ⊢
      simp only [List.cons_append] at h ⊢
      split at h
      next => cases h
      next hdigit =>
        rw [if_neg hdigit]
        split at h
        case h_1 | h_2 | h_3 =>
          obtain ⟨⟨d, more⟩, hd, h⟩ := bind_eq_ok_iff.mp h
          obtain ⟨rfl, rfl⟩ := Prod.mk.inj (pure_eq_ok_iff.mp h)
          obtain ⟨rest', hrest', hclosed⟩ := readCode_closed f (by decide) hd
          exact ⟨rest', by simp only [hrest', ok_bind]; rfl, hclosed⟩
        case h_4 | h_5 =>
          obtain ⟨⟨s, more⟩, hs, h⟩ := bind_eq_ok_iff.mp h
          obtain ⟨rfl, rfl⟩ := Prod.mk.inj (pure_eq_ok_iff.mp h)
          exact ⟨_, by simp only [readProperty_closed f hs, ok_bind]; rfl, .append more⟩
        case h_14 =>
          obtain ⟨⟨edge, more⟩, hedge, h⟩ := bind_eq_ok_iff.mp h
          obtain ⟨rfl, rfl⟩ := Prod.mk.inj (pure_eq_ok_iff.mp h)
          exact ⟨_, by simp only [readWordEdge_closed f hedge, ok_bind]; rfl, .append more⟩
        case h_18 =>
          split at h
          case h_1 | h_2 =>
            obtain ⟨s, hs, h⟩ := bind_eq_ok_iff.mp h
            obtain ⟨rfl, rfl⟩ := Prod.mk.inj (pure_eq_ok_iff.mp h)
            exact ⟨_, by simp only [hs, ok_bind]; rfl, .append cs⟩
          case h_3 =>
            split at h
            next hascii =>
              obtain ⟨rfl, rfl⟩ := Prod.mk.inj (Except.ok.inj h)
              exact ⟨_, by rw [if_pos hascii], .append cs⟩
            next => cases h
        all_goals
          obtain ⟨rfl, rfl⟩ := Prod.mk.inj (Except.ok.inj h)
          exact ⟨_, rfl, .append cs⟩

end Escape

namespace Bracket

variable (f : Flags)

theorem readMark_closed {cs : List Char} (hne : cs ≠ []) {negated : Bool} {rest : List Char}
    (h : readMark cs = (negated, rest)) : readMark (cs ++ [')']) = (negated, rest ++ [')']) := by
  unfold readMark at h
  split at h
  next more =>
    obtain ⟨rfl, rfl⟩ := Prod.mk.inj h
    rfl
  next hmark =>
    obtain ⟨rfl, rfl⟩ := Prod.mk.inj h
    obtain ⟨c, more, rfl⟩ := List.exists_cons_of_ne_nil hne
    unfold readMark
    split
    next heq => exact (hmark more (by rw [(List.cons.inj heq).1])).elim
    next => rfl

theorem openFrom_closed {cs rest : List Char} {b : Bracket} (h : openFrom f cs = (b, rest))
    (hrest : rest ≠ []) : openFrom f (cs ++ [')']) = (b, rest ++ [')']) := by
  have hclosed := f.skip_closed cs
  rw [openFrom] at h ⊢
  have hne : f.skip cs ≠ [] := by
    intro hnil
    rw [hnil] at h
    exact hrest (Prod.mk.inj h).2.symm
  rw [hclosed.eq_append hne]
  generalize hmark : readMark (f.skip cs) = mark at h
  obtain ⟨negated, body⟩ := mark
  rw [readMark_closed hne hmark]
  dsimp only at h ⊢
  generalize hspan : f.span (fun c => decide (c = '-')) body = found at h
  obtain ⟨run, after⟩ := found
  obtain ⟨after', hspan', hafter⟩ := f.span_closed hspan (.inl (by decide))
  have hne : after ≠ [] := by
    rintro rfl
    cases run <;> exact hrest (Prod.mk.inj h).2.symm
  rw [hspan', hafter.eq_append hne]
  split at h
  case h_1 heq =>
    obtain ⟨rfl, rfl⟩ := Prod.mk.inj heq
    obtain ⟨rfl, rfl⟩ := Prod.mk.inj h
    rfl
  case h_2 hbracket heq =>
    obtain ⟨rfl, rfl⟩ := Prod.mk.inj heq
    obtain ⟨rfl, rfl⟩ := Prod.mk.inj h
    obtain ⟨c, more, rfl⟩ := List.exists_cons_of_ne_nil hne
    split
    next heq => exact (hbracket more (by rw [(List.cons.inj (Prod.mk.inj heq).2).1])).elim
    next heq => exact congrArg _ (Prod.mk.inj heq).2.symm
    next heq => cases heq
  case h_3 heq =>
    obtain ⟨rfl, rfl⟩ := Prod.mk.inj heq
    obtain ⟨rfl, rfl⟩ := Prod.mk.inj h
    rfl

theorem named?_closed (cs : List Char) :
    named? (cs ++ [')']) =
      (named? cs).map fun (negated, s, rest) => (negated, s, rest ++ [')']) := by
  unfold named?
  split
  next after heq =>
    cases cs with
    | nil => exact absurd (List.cons.inj heq).1 (by decide)
    | cons c cs =>
        obtain ⟨rfl, rfl⟩ : c = ':' ∧ after = cs ++ [')'] := by simpa [eq_comm] using heq
        by_cases hne : cs = []
        · subst hne
          rfl
        · generalize hmark : readMark cs = mark
          obtain ⟨negated, more⟩ := mark
          simp only [readMark_closed hne hmark, hmark]
          have hparts := List.takeWhile_append_dropWhile (p := (· ≠ ':')) (l := more)
          generalize hdrop : more.dropWhile (· ≠ ':') = rest at hparts
          rw [List.dropWhile_append, List.takeWhile_append]
          cases rest with
          | nil =>
              rw [hdrop]
              rfl
          | cons d rest =>
              have hlength : (more.takeWhile (· ≠ ':')).length ≠ more.length := by
                conv_rhs => rw [← hparts]
                simp
              rw [hdrop, if_neg (by simp), if_neg hlength]
              split
              next after heq =>
                cases rest with
                | nil => exact absurd (List.cons.inj (List.cons.inj heq).2).1 (by decide)
                | cons e rest =>
                    obtain ⟨rfl, rfl, rfl⟩ : d = ':' ∧ e = ']' ∧ after = rest ++ [')'] := by
                      simpa [eq_comm] using heq
                    cases asciiClass? (String.ofList (more.takeWhile (· ≠ ':'))) <;> rfl
              next hclose =>
                split
                next rest heq =>
                  obtain ⟨rfl, rfl⟩ := List.cons.inj heq
                  exact (hclose _ rfl).elim
                next => rfl
  next hcolon =>
    split
    next => exact (hcolon _ rfl).elim
    next => rfl

theorem readAtom_closed {cs rest : List Char} {e : Escape} (h : readAtom f cs = .ok (e, rest)) :
    ∃ rest', readAtom f (cs ++ [')']) = .ok (e, rest') ∧ ClosedBy rest rest' := by
  unfold readAtom at h ⊢
  split at h
  next => cases h
  next => exact Escape.read_closed f h
  next c more hslash =>
    obtain ⟨rfl, rfl⟩ := Prod.mk.inj (Except.ok.inj h)
    simp only [List.cons_append]
    exact ⟨_, rfl, .append more⟩

theorem readAtom_ne_nil {cs : List Char} {found : Escape × List Char}
    (h : readAtom f cs = .ok found) : cs ≠ [] := by
  rintro rfl
  cases h

theorem readItem_closed {cs rest : List Char} {s : CharSet} (h : readItem f cs = .ok (s, rest)) :
    ∃ rest', readItem f (cs ++ [')']) = .ok (s, rest') ∧ ClosedBy rest rest' := by
  rw [readItem] at h ⊢
  obtain ⟨⟨first, more⟩, hfirst, h⟩ := bind_eq_ok_iff.mp h
  obtain ⟨more', hfirst', hmore⟩ := readAtom_closed f hfirst
  rw [hfirst', ok_bind]
  dsimp only at h ⊢
  have hne : more ≠ [] := by
    rintro rfl
    rw [Flags.skip_nil] at h
    cases h
  have hclosed := f.skip_closed more
  rw [hmore.eq_append hne]
  split at h
  next => cases h
  next rest' hskip =>
    rw [hskip] at hclosed
    rw [hclosed.eq_cons]
    have hbracket := f.peek?_closed rest' (d := ']') (by decide)
    have hhyphen := f.peek?_closed rest' (d := '-') (by decide)
    simp only [hbracket, hhyphen]
    split at h
    next hlast =>
      obtain ⟨s', hs', h⟩ := bind_eq_ok_iff.mp h
      obtain ⟨rfl, rfl⟩ := Prod.mk.inj (pure_eq_ok_iff.mp h)
      rw [if_pos hlast, hs', ok_bind]
      exact ⟨_, rfl, .append ('-' :: rest')⟩
    next hlast =>
      obtain ⟨⟨second, rest₂⟩, hsecond, h⟩ := bind_eq_ok_iff.mp h
      have hskip' := (f.skip_closed rest').eq_append (readAtom_ne_nil f hsecond)
      obtain ⟨rest₂', hsecond', hclosed₂⟩ := readAtom_closed f hsecond
      rw [if_neg hlast, hskip', hsecond', ok_bind]
      split at h
      next a b rest₃ heq _ =>
        obtain ⟨rfl, rfl⟩ := Prod.mk.inj heq
        split at h
        next => cases h
        next horder =>
          obtain ⟨s', hs', h⟩ := bind_eq_ok_iff.mp h
          obtain ⟨rfl, rfl⟩ := Prod.mk.inj (pure_eq_ok_iff.mp h)
          dsimp only
          rw [if_neg horder, hs', ok_bind]
          exact ⟨_, rfl, hclosed₂⟩
      next => cases h
  next hnil hhyphen =>
    obtain ⟨s', hs', h⟩ := bind_eq_ok_iff.mp h
    obtain ⟨rfl, rfl⟩ := Prod.mk.inj (pure_eq_ok_iff.mp h)
    obtain ⟨c, rest, hskip⟩ := List.exists_cons_of_ne_nil hnil
    rw [hskip] at hclosed hhyphen ⊢
    rw [hclosed.eq_cons]
    split
    next heq => cases heq
    next heq => exact (hhyphen rest (by rw [(List.cons.inj heq).1])).elim
    next => exact ⟨_, by rw [hs', ok_bind]; rfl, .append (c :: rest)⟩

theorem readFrom_ne_nil {n : Nat} {outer : List Bracket} {b : Bracket} {cs : List Char}
    {found : Class × List Char} (h : readFrom f n outer b cs = .ok found) : cs ≠ [] := by
  rintro rfl
  cases n with
  | zero => cases h
  | succ n =>
      rw [readFrom, Flags.skip_nil] at h
      cases h

theorem readFrom_closed {n n' : Nat} (hn : n ≤ n') {outer : List Bracket} {b : Bracket}
    {cs rest : List Char} {c : Class} (h : readFrom f n outer b cs = .ok (c, rest)) :
    readFrom f n' outer b (cs ++ [')']) = .ok (c, rest ++ [')']) := by
  induction n generalizing n' outer b cs with
  | zero => cases h
  | succ n ih =>
      obtain ⟨n', rfl⟩ : ∃ k, n' = k + 1 := ⟨n' - 1, by omega⟩
      have hn := Nat.le_of_succ_le_succ hn
      have hclosed := f.skip_closed cs
      rw [readFrom] at h ⊢
      split at h
      case h_1 => cases h
      case h_2 more hskip =>
        rw [hskip] at hclosed
        simp only [hclosed.eq_cons, named?_closed]
        split at h
        next negated s' after hnamed =>
          obtain ⟨t, ht, h⟩ := bind_eq_ok_iff.mp h
          simp only [hnamed, Option.map_some, ht, ok_bind]
          exact ih hn h
        next hnamed =>
          generalize hopen : openFrom f more = opened at h
          obtain ⟨inner, after⟩ := opened
          have hne := readFrom_ne_nil f h
          simp only [hnamed, Option.map_none, openFrom_closed f hopen hne]
          exact ih hn h
      case h_3 more hskip =>
        rw [hskip] at hclosed
        obtain ⟨t, ht, h⟩ := bind_eq_ok_iff.mp h
        simp only [hclosed.eq_cons, ht, ok_bind]
        split at h
        next =>
          obtain ⟨rfl, rfl⟩ := Prod.mk.inj (pure_eq_ok_iff.mp h)
          rfl
        next => exact ih hn h
      case h_4 hskip | h_5 hskip | h_6 hskip =>
        rw [hskip] at hclosed
        rw [hclosed.eq_cons]
        exact ih hn h
      case h_7 hnil hopen hclose hinter hdiff hsymm =>
        obtain ⟨⟨s', after⟩, hitem, h⟩ := bind_eq_ok_iff.mp h
        obtain ⟨after', hitem', hafter⟩ := readItem_closed f hitem
        rw [hafter.eq_append (readFrom_ne_nil f h)] at hitem'
        obtain ⟨c, more, hskip⟩ := List.exists_cons_of_ne_nil hnil
        rw [hskip] at hclosed hopen hclose hinter hdiff hsymm hitem'
        rw [hclosed.eq_cons]
        split
        case h_1 heq => cases heq
        case h_2 heq => exact (hopen more (by rw [(List.cons.inj heq).1])).elim
        case h_3 heq => exact (hclose more (by rw [(List.cons.inj heq).1])).elim
        case h_4 heq =>
          obtain ⟨rfl, hmore⟩ := List.cons.inj heq
          obtain ⟨more', rfl⟩ := exists_cons_of_closed_eq_cons hmore (by decide)
          exact (hinter more' rfl).elim
        case h_5 heq =>
          obtain ⟨rfl, hmore⟩ := List.cons.inj heq
          obtain ⟨more', rfl⟩ := exists_cons_of_closed_eq_cons hmore (by decide)
          exact (hdiff more' rfl).elim
        case h_6 heq =>
          obtain ⟨rfl, hmore⟩ := List.cons.inj heq
          obtain ⟨more', rfl⟩ := exists_cons_of_closed_eq_cons hmore (by decide)
          exact (hsymm more' rfl).elim
        case h_7 =>
          rw [← List.cons_append, hitem', ok_bind]
          exact ih hn h

theorem read_closed {cs rest : List Char} {c : Class} (h : read f cs = .ok (c, rest)) :
    read f (cs ++ [')']) = .ok (c, rest ++ [')']) := by
  rw [read] at h ⊢
  generalize hopen : openFrom f cs = opened at h
  obtain ⟨b, after⟩ := opened
  have hne := readFrom_ne_nil f h
  rw [openFrom_closed f hopen hne]
  refine readFrom_closed f ?_ h
  simp

end Bracket

end Lexing.Regex
