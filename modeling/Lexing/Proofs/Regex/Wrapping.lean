import Lexing.Proofs.Regex.Closed

/-!
# Expressions inside a group

An expression can be put into a group of its own, to be read under other flags. The reader then goes
through it as it would without the group, with the group open all the while, and leaves the group at
its end. If the expression ends inside a comment, the parenthesis belongs to the comment. Then the
group stays open and reading fails.

So an expression in a group is either the same expression or none at all (`eq_of_parse_inLines`).
Whether the end is hidden can be told without the group: if it is, then the parenthesis may be added
with no group to be left, and if it is not, this is an error. If it is not, the group may still be
one level too many for an expression that is nested as deeply as it may be.
-/

namespace Lexing.Regex

namespace Reader

variable {r r' : Reader} {cs cs' rest : List Char}

/-- The reader with more groups open, around all others. -/
def within (r : Reader) (gs : List OpenGroup) : Reader := { r with groups := r.groups ++ gs }

section Within

variable (gs : List OpenGroup)

@[simp] theorem within_flags : (r.within gs).flags = r.flags := rfl

@[simp] theorem within_level : (r.within gs).level = r.level := rfl

theorem leave_within (h : r.leave = .ok r') : (r.within gs).leave = .ok (r'.within gs) := by
  rw [leave] at h ⊢
  split at h
  next => cases h
  next inner groups hgroups =>
    obtain rfl := Except.ok.inj h
    simp only [within, hgroups, List.cons_append]

theorem enterNamed_within (h : r.enterNamed cs = .ok (r', rest)) :
    (r.within gs).enterNamed cs = .ok (r'.within gs, rest) := by
  rw [enterNamed] at h ⊢
  dsimp only at h ⊢
  split at h
  next => cases h
  next =>
    split at h
    next => cases h
    next hname =>
      split at h
      next => cases h
      next hnew =>
        obtain ⟨rfl, rfl⟩ := Prod.mk.inj (Except.ok.inj h)
        have hnew' : ¬(r.within gs).names.contains (cs.takeWhile (· ≠ '>')) = true := hnew
        rw [if_neg hname, if_neg hnew']
        rfl

theorem openGroup_within (h : r.openGroup cs = .ok (r', rest)) :
    (r.within gs).openGroup cs = .ok (r'.within gs, rest) := by
  refine Opens.openGroup_eq ?_
  rw [within_flags]
  have hopens := Opens.of_openGroup_eq h
  generalize r.flags.skip cs = ahead at hopens ⊢
  cases hopens with
  | named h => exact .named (enterNamed_within gs h)
  | angled h hequals hbang => exact .angled (enterNamed_within gs h) hequals hbang
  | flagged h => exact .flagged h
  | switched h hstop hseen => exact .switched h hstop hseen
  | numbered h => exact .numbered h

theorem repeatLast_within {min : Nat} {max : Option Nat} {lazily : Bool}
    (h : r.repeatLast min max lazily = .ok r') :
    (r.within gs).repeatLast min max lazily = .ok (r'.within gs) := by
  rw [repeatLast] at h ⊢
  rw [within_level, within_flags]
  split at h
  next => cases h
  next =>
    obtain rfl := Except.ok.inj h
    rfl

theorem repeatMarked_within {min : Nat} {max : Option Nat}
    (h : r.repeatMarked min max cs = .ok (r', rest)) :
    (r.within gs).repeatMarked min max cs = .ok (r'.within gs, rest) := by
  rw [repeatMarked] at h ⊢
  dsimp only at h ⊢
  obtain ⟨q, hq, h⟩ := bind_eq_ok_iff.mp h
  obtain ⟨rfl, rfl⟩ := Prod.mk.inj (pure_eq_ok_iff.mp h)
  rw [repeatLast_within gs hq]
  rfl

theorem repeatCounted_within (h : r.repeatCounted cs = .ok (r', rest)) :
    (r.within gs).repeatCounted cs = .ok (r'.within gs, rest) := by
  obtain ⟨min, max, more, hbounds, hle, hlast, rfl⟩ := repeatCounted_eq_ok_iff.mp h
  exact repeatCounted_eq_ok_iff.mpr
    ⟨min, max, more, hbounds, hle, repeatLast_within gs hlast, rfl⟩

theorem pushEscape_within (r : Reader) (e : Escape) :
    (r.within gs).pushEscape e = (r.pushEscape e).within gs := by
  cases e <;> rfl

/-- What a reader does, it does with any groups around. -/
theorem step_within {c : Char} (h : r.step c cs = .ok (r', rest)) :
    (r.within gs).step c cs = .ok (r'.within gs, rest) := by
  unfold step at h ⊢
  split at h
  case h_1 => exact openGroup_within gs h
  case h_2 =>
    obtain ⟨q, hq, h⟩ := bind_eq_ok_iff.mp h
    obtain ⟨rfl, rfl⟩ := Prod.mk.inj (pure_eq_ok_iff.mp h)
    rw [leave_within gs hq]
    rfl
  case h_3 | h_11 | h_12 | h_13 =>
    obtain ⟨rfl, rfl⟩ := Prod.mk.inj (Except.ok.inj h)
    rfl
  case h_4 =>
    obtain ⟨⟨chars, more⟩, hq, h⟩ := bind_eq_ok_iff.mp h
    obtain ⟨rfl, rfl⟩ := Prod.mk.inj (pure_eq_ok_iff.mp h)
    dsimp only
    rw [within_flags, hq]
    rfl
  case h_5 | h_6 | h_7 => exact repeatMarked_within gs h
  case h_8 => exact repeatCounted_within gs h
  case h_9 =>
    obtain ⟨⟨e, more⟩, hq, h⟩ := bind_eq_ok_iff.mp h
    obtain ⟨rfl, rfl⟩ := Prod.mk.inj (pure_eq_ok_iff.mp h)
    dsimp only
    rw [within_flags, hq, ok_bind, pushEscape_within]
    rfl
  case h_10 =>
    obtain ⟨q, hq, h⟩ := bind_eq_ok_iff.mp h
    obtain ⟨rfl, rfl⟩ := Prod.mk.inj (pure_eq_ok_iff.mp h)
    rw [within_flags, hq]
    rfl

end Within

theorem readFlags_closed {f f' : Flags} {seen seen' : List Char} {on : Bool} {stop : Char}
    (h : readFlags f seen on cs = .ok (f', seen', stop, rest)) :
    readFlags f seen on (cs ++ [')']) = .ok (f', seen', stop, rest ++ [')']) := by
  fun_induction Reader.readFlags f seen on cs with
  | case1 => cases h
  | case2 => cases h
  | case3 f seen on c cs hstop hdash =>
      obtain ⟨rfl, rfl, rfl, rfl⟩ := by simpa using h
      simp only [List.cons_append, readFlags]
      rw [if_pos hstop, if_neg hdash]
  | case4 => cases h
  | case5 f seen on cs hstop hseen ih =>
      simp only [List.cons_append, readFlags]
      rw [if_neg hstop, if_neg hseen, if_pos trivial]
      exact ih h
  | case6 f seen on c cs hstop hseen hdash f' hf' ih =>
      simp only [List.cons_append, readFlags]
      rw [if_neg hstop, if_neg hseen, if_neg hdash, hf']
      exact ih h
  | case7 => cases h

theorem enterNamed_closed (h : r.enterNamed cs = .ok (r', rest)) :
    r.enterNamed (cs ++ [')']) = .ok (r', rest ++ [')']) := by
  rw [enterNamed] at h ⊢
  have hparts := List.takeWhile_append_dropWhile (p := (· ≠ '>')) (l := cs)
  dsimp only at h ⊢
  rw [List.dropWhile_append, List.takeWhile_append]
  split at h
  next => cases h
  next c more hdrop =>
    have hlength : (cs.takeWhile (· ≠ '>')).length ≠ cs.length := by
      conv_rhs => rw [← hparts, hdrop]
      simp
    rw [hdrop, if_neg (by simp), if_neg hlength]
    dsimp only [List.cons_append]
    split at h
    next => cases h
    next hname =>
      split at h
      next => cases h
      next hnew =>
        obtain ⟨rfl, rfl⟩ := Prod.mk.inj (Except.ok.inj h)
        rw [if_neg hname, if_neg hnew]

theorem Opens.closed (h : r.Opens cs r' rest) (hcs : ClosedBy cs cs') :
    ∃ rest', r.Opens cs' r' rest' ∧ ClosedBy rest rest' := by
  cases h with
  | named h =>
      rw [hcs.eq_cons]
      exact ⟨_, .named (enterNamed_closed h), .append rest⟩
  | angled h hequals hbang =>
      rw [hcs.eq_cons]
      refine ⟨_, .angled (enterNamed_closed h) ?_ ?_, .append rest⟩
      · intro after heq
        obtain ⟨after', rfl⟩ := exists_cons_of_closed_eq_cons heq (by decide)
        exact hequals after' rfl
      · intro after heq
        obtain ⟨after', rfl⟩ := exists_cons_of_closed_eq_cons heq (by decide)
        exact hbang after' rfl
  | flagged h =>
      rw [hcs.eq_cons]
      exact ⟨_, .flagged (readFlags_closed h), .append rest⟩
  | switched h hstop hseen =>
      rw [hcs.eq_cons]
      exact ⟨_, .switched (readFlags_closed h) hstop hseen, .append rest⟩
  | numbered hmark =>
      refine ⟨cs', .numbered ?_, hcs⟩
      intro more heq
      obtain rfl | ⟨rfl, rfl⟩ := hcs
      · obtain ⟨more', rfl⟩ := exists_cons_of_closed_eq_cons heq (by decide)
        exact hmark more' rfl
      · cases heq

theorem openGroup_closed (h : r.openGroup cs = .ok (r', rest)) :
    ∃ rest', r.openGroup (cs ++ [')']) = .ok (r', rest') ∧
      ClosedBy rest rest' := by
  obtain ⟨rest', hopens, hrest⟩ := (Opens.of_openGroup_eq h).closed (r.flags.skip_closed cs)
  exact ⟨rest', hopens.openGroup_eq, hrest⟩

theorem readLazy_closed (h : ClosedBy cs cs') :
    (readLazy cs').1 = (readLazy cs).1 ∧ ClosedBy (readLazy cs).2 (readLazy cs').2 := by
  obtain rfl | ⟨rfl, rfl⟩ := h
  · unfold readLazy
    split
    next heq =>
      split
      next more =>
        obtain ⟨rfl⟩ := (List.cons.inj heq).2
        exact ⟨rfl, .append more⟩
      next hmark =>
        obtain ⟨more', rfl⟩ := exists_cons_of_closed_eq_cons heq (by decide)
        exact (hmark more' rfl).elim
    next hmark =>
      split
      next more => exact (hmark _ rfl).elim
      next => exact ⟨rfl, .append cs⟩
  · exact ⟨rfl, .inr ⟨rfl, rfl⟩⟩

theorem repeatMarked_closed {min : Nat} {max : Option Nat}
    (h : r.repeatMarked min max cs = .ok (r', rest)) :
    ∃ rest', r.repeatMarked min max (cs ++ [')']) = .ok (r', rest') ∧
      ClosedBy rest rest' := by
  obtain ⟨hlazily, hrest⟩ := readLazy_closed (ClosedBy.append cs)
  rw [repeatMarked] at h ⊢
  dsimp only at h ⊢
  obtain ⟨q, hq, h⟩ := bind_eq_ok_iff.mp h
  obtain ⟨rfl, rfl⟩ := Prod.mk.inj (pure_eq_ok_iff.mp h)
  rw [hlazily, hq, ok_bind]
  exact ⟨_, rfl, hrest⟩

theorem readCount_closed (f : Flags) {n : Nat} (h : readCount f cs = .ok (n, rest)) :
    ∃ rest', readCount f (cs ++ [')']) = .ok (n, rest') ∧ ClosedBy rest rest' := by
  have hblank : isBlank ')' = false := by decide
  rw [readCount] at h ⊢
  rw [Flags.dropWhile_closed hblank]
  generalize hspan : f.span Char.isDigit (cs.dropWhile isBlank) = found at h
  obtain ⟨digits, after⟩ := found
  obtain ⟨after', hspan', hafter⟩ := f.span_closed hspan (.inl (by decide))
  rw [hspan']
  dsimp only at h ⊢
  split at h
  next => cases h
  next hdigits =>
    rw [if_neg hdigits]
    split at h
    next => cases h
    next hlarge =>
      obtain ⟨rfl, rfl⟩ := Prod.mk.inj (Except.ok.inj h)
      rw [if_neg hlarge]
      refine ⟨_, rfl, ?_⟩
      obtain rfl | ⟨rfl, rfl⟩ := hafter
      · rw [Flags.dropWhile_closed hblank]
        exact .append _
      · exact .inr ⟨rfl, rfl⟩

theorem readCount_ne_nil {f : Flags} {found : Nat × List Char} (h : readCount f cs = .ok found) :
    cs ≠ [] := by
  rintro rfl
  cases h

theorem readBounds_closed (f : Flags) {min : Nat} {max : Option Nat}
    (h : readBounds f cs = .ok (min, max, rest)) :
    readBounds f (cs ++ [')']) = .ok (min, max, rest ++ [')']) := by
  rw [readBounds] at h ⊢
  obtain ⟨⟨n, more⟩, hn, h⟩ := bind_eq_ok_iff.mp h
  obtain ⟨more', hn', hmore⟩ := readCount_closed f hn
  rw [(f.skip_closed cs).eq_append (readCount_ne_nil hn), hn', ok_bind]
  dsimp only at h ⊢
  split at h
  next after =>
    obtain ⟨rfl, rfl, rfl⟩ := by simpa [pure_eq_ok_iff] using h
    rw [hmore.eq_cons]
    rfl
  next after =>
    have hclosed := f.skip_closed after
    simp only [hmore.eq_cons]
    split at h
    next last hskip =>
      rw [hskip] at hclosed
      obtain ⟨rfl, rfl, rfl⟩ := by simpa [pure_eq_ok_iff] using h
      rw [hclosed.eq_cons]
      rfl
    next hbrace =>
      obtain ⟨⟨m, more⟩, hm, h⟩ := bind_eq_ok_iff.mp h
      have hne := readCount_ne_nil hm
      obtain ⟨more', hm', hmore⟩ := readCount_closed f hm
      rw [hclosed.eq_append hne]
      split
      next last heq =>
        obtain ⟨last', hskip⟩ := exists_cons_of_closed_eq_cons heq (by decide)
        exact (hbrace last' hskip).elim
      next =>
        rw [hm', ok_bind]
        split at h
        next heq =>
          obtain ⟨rfl, rfl⟩ := Prod.mk.inj heq
          obtain ⟨rfl, rfl, rfl⟩ := by simpa [pure_eq_ok_iff] using h
          rw [hmore.eq_cons]
          rfl
        next => cases h
  next => cases h

theorem repeatCounted_closed (h : r.repeatCounted cs = .ok (r', rest)) :
    ∃ rest', r.repeatCounted (cs ++ [')']) = .ok (r', rest') ∧
      ClosedBy rest rest' := by
  obtain ⟨min, max, more, hbounds, hle, hlast, rfl⟩ := repeatCounted_eq_ok_iff.mp h
  obtain ⟨hlazily, hrest⟩ := readLazy_closed (r.flags.skip_closed more)
  refine ⟨_, repeatCounted_eq_ok_iff.mpr ⟨min, max, more ++ [')'], ?_, hle, ?_, rfl⟩, hrest⟩
  · rw [readBounds_closed r.flags hbounds]
  · rw [hlazily, hlast]

theorem step_closed {c : Char} (h : r.step c cs = .ok (r', rest)) :
    ∃ rest', r.step c (cs ++ [')']) = .ok (r', rest') ∧
      ClosedBy rest rest' := by
  unfold step at h ⊢
  split at h
  case h_1 => exact openGroup_closed h
  case h_2 =>
    obtain ⟨q, hq, h⟩ := bind_eq_ok_iff.mp h
    obtain ⟨rfl, rfl⟩ := Prod.mk.inj (pure_eq_ok_iff.mp h)
    rw [hq, ok_bind]
    exact ⟨_, rfl, .append cs⟩
  case h_3 =>
    obtain ⟨rfl, rfl⟩ := Prod.mk.inj (Except.ok.inj h)
    exact ⟨_, rfl, .append cs⟩
  case h_4 =>
    obtain ⟨⟨chars, more⟩, hq, h⟩ := bind_eq_ok_iff.mp h
    obtain ⟨rfl, rfl⟩ := Prod.mk.inj (pure_eq_ok_iff.mp h)
    dsimp only
    rw [Bracket.read_closed r.flags hq, ok_bind]
    exact ⟨_, rfl, .append more⟩
  case h_5 | h_6 | h_7 => exact repeatMarked_closed h
  case h_8 => exact repeatCounted_closed h
  case h_9 =>
    obtain ⟨⟨e, more⟩, hq, h⟩ := bind_eq_ok_iff.mp h
    obtain ⟨rfl, rfl⟩ := Prod.mk.inj (pure_eq_ok_iff.mp h)
    obtain ⟨more', hq', hmore⟩ := Escape.read_closed r.flags hq
    dsimp only
    rw [hq', ok_bind]
    exact ⟨more', rfl, hmore⟩
  case h_10 =>
    obtain ⟨q, hq, h⟩ := bind_eq_ok_iff.mp h
    obtain ⟨rfl, rfl⟩ := Prod.mk.inj (pure_eq_ok_iff.mp h)
    rw [hq, ok_bind]
    exact ⟨_, rfl, .append cs⟩
  case h_11 | h_12 | h_13 =>
    obtain ⟨rfl, rfl⟩ := Prod.mk.inj (Except.ok.inj h)
    exact ⟨_, rfl, .append cs⟩

/-- Once nothing but the parenthesis is left over, either it is hidden or it leaves a group. -/
theorem run_parenthesis (h : ClosedBy [] (r.flags.skip cs)) :
    (∀ gs n, run (n + 1) (r.within gs) cs = .ok (r.within gs)) ∨
      ∀ gs n, run (n + 1) (r.within gs) cs = (r.within gs).leave := by
  obtain hskip | ⟨-, hskip⟩ := h
  · right
    intro gs n
    rw [run, within_flags, hskip]
    simp only [List.nil_append, step]
    cases (r.within gs).leave with
    | error e => rfl
    | ok q => exact run_nil n
  · left
    intro gs n
    rw [run, within_flags, hskip]

/-- An expression is read in the same way, whatever groups are open around it, and the parenthesis
at its end leaves a group, unless a comment hides it. -/
theorem run_closed {n : Nat} (h : run n r cs = .ok r') :
    (∀ gs, ∀ n' > n, run n' (r.within gs) (cs ++ [')']) = .ok (r'.within gs)) ∨
      ∀ gs, ∀ n' > n, run n' (r.within gs) (cs ++ [')']) = (r'.within gs).leave := by
  suffices (∀ gs k, run (n + k + 1) (r.within gs) (cs ++ [')']) = .ok (r'.within gs)) ∨
      ∀ gs k, run (n + k + 1) (r.within gs) (cs ++ [')']) = (r'.within gs).leave by
    have hfuel {n' : Nat} (hn : n' > n) : ∃ k, n' = n + k + 1 := ⟨n' - n - 1, by omega⟩
    refine this.imp ?_ ?_
    all_goals
      intro hall gs n' hn
      obtain ⟨k, rfl⟩ := hfuel hn
      exact hall gs k
  induction n generalizing r cs with
  | zero =>
      rw [run] at h
      split at h
      next hend =>
        obtain rfl := Except.ok.inj h
        have hclosed := r.flags.skip_closed cs
        rw [List.isEmpty_iff.mp hend] at hclosed
        exact (run_parenthesis hclosed).imp (fun hall gs k => hall gs _) fun hall gs k => hall gs _
      next => cases h
  | succ n ih =>
      have hclosed := r.flags.skip_closed cs
      rw [run] at h
      split at h
      next hend =>
        obtain rfl := Except.ok.inj h
        rw [hend] at hclosed
        exact (run_parenthesis hclosed).imp (fun hall gs k => hall gs _) fun hall gs k => hall gs _
      next c more hskip =>
        obtain ⟨⟨q, rest⟩, hq, h⟩ := bind_eq_ok_iff.mp h
        obtain ⟨rest', hq', hrest⟩ := step_closed hq
        rw [hskip] at hclosed
        have hstep (gs : List OpenGroup) (k : Nat) :
            run (n + 1 + k + 1) (r.within gs) (cs ++ [')']) =
              run (n + k + 1) (q.within gs) rest' := by
          rw [run, Nat.add_right_comm n 1 k]
          simp only [within_flags, hclosed.eq_cons, step_within gs hq', ok_bind]
        simp only [hstep]
        obtain rfl | ⟨rfl, rfl⟩ := hrest
        · exact ih h
        · obtain rfl := Except.ok.inj ((run_nil _).symm.trans h)
          exact .inl fun gs k => run_nil _

end Reader

/-- In a group that counts lines, an expression is the same as when it is read alone under the flag
that counts them, and then no parenthesis may be added to it. The group itself must not be too deep.
Otherwise it cannot be read, since its last comment takes in the end of the group, as it does with
any parenthesis that is added. -/
theorem parse_inLines_cases {names : Unicode.Names} {source : List Char} {r : Regex}
    (h : parseWith { multiLine := true, names } source = .ok r) :
    parse names (inLines source) =
          (if depthWith { multiLine := true, names } source < maxDepth then .ok (choice [r])
            else .error .nestedTooDeeply) ∧
        parseWith { multiLine := true, names } (source ++ [')']) = .error .groupUnopened ∨
      parse names (inLines source) = .error .groupUnclosed ∧
        parseWith { multiLine := true, names } (source ++ [')']) = .ok r := by
  obtain ⟨q, hq, h⟩ := bind_eq_ok_iff.mp h
  have hdepth : depthWith { multiLine := true, names } source = q.level.nesting.depth := by
    rw [depthWith, hq]
  obtain ⟨hgroups, -, rfl⟩ := Reader.finish_eq_ok_iff.mp h
  let start : Reader := { flags := { multiLine := true, names } }
  let g : OpenGroup := ⟨{}, { names }, none⟩
  -- The beginning of the group is read in one step.
  have hinside : parse names (inLines source) =
      Reader.run (source.length + 4) (start.within [g]) (source ++ [')']) >>= Reader.finish := by
    have htext : inLines source = '(' :: '?' :: 'm' :: ':' :: (source ++ [')']) := rfl
    have hlength : (inLines source).length = source.length + 4 + 1 := by simp [htext]
    rw [parse, parseWith, hlength, htext]
    rfl
  have hadded : parseWith { multiLine := true, names } (source ++ [')']) =
      Reader.run (source.length + 1) (start.within []) (source ++ [')']) >>= Reader.finish := by
    rw [parseWith, List.length_append]
    rfl
  have halone : q.within [] = q := by rw [Reader.within, List.append_nil]
  rw [hinside, hadded, hdepth]
  obtain hhidden | hclosed := Reader.run_closed hq
  · right
    rw [hhidden _ _ (by omega), hhidden _ _ (by omega), halone]
    refine ⟨?_, h⟩
    rw [ok_bind, Reader.finish, if_pos (by simp [Reader.within])]
  · left
    rw [hclosed _ _ (by omega), hclosed _ _ (by omega), halone]
    simp only [Reader.leave, Reader.within, hgroups, List.nil_append]
    refine ⟨?_, rfl⟩
    rw [ok_bind, Reader.finish, if_neg (by simp)]
    have houter : (Level.push {} q.level.regex (q.level.nesting.depth + 1)).nesting.depth =
        q.level.nesting.depth + 1 := Nesting.depth_push_empty _
    simp only [g, houter, ← Nat.succ_le_iff, ← Nat.not_lt (a := maxDepth), ite_not]
    rfl

/-- In a group that counts lines, an expression that can be read is the same as when it is read
alone under the flag that counts them. -/
theorem eq_of_parse_inLines {names : Unicode.Names} {source : List Char} {r r' : Regex}
    (h : parseWith { multiLine := true, names } source = .ok r)
    (h' : parse names (inLines source) = .ok r') : r' = choice [r] := by
  obtain ⟨hinside, -⟩ | ⟨hinside, -⟩ := parse_inLines_cases h
  · rw [h'] at hinside
    split at hinside
    next => exact Except.ok.inj hinside
    next => cases hinside
  · cases h'.symm.trans hinside

end Lexing.Regex
