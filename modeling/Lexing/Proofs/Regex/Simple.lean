import Lexing.Proofs.Regex.Analysis

/-!
# What has been read is in simple form

To put an expression into a group of its own is to make it the only alternative there. That changes
nothing if the expression is what has been read of a whole text: such an expression is in simple
form already, so its alternatives would be put together in the same way again. The point to see is
that alternatives whose common beginning was lifted out are no alternatives any more, since no
sequence that has been read begins with the empty expression.
-/

namespace Lexing.Regex

/-- No sequence in the expression begins with the empty expression. -/
def Solid : Regex → Prop
  | seq first rest => (first ≠ empty ∧ first.Solid) ∧ rest.Solid
  | alt first rest => first.Solid ∧ rest.Solid
  | empty | literal _ | set _ | assertion _ | repetition .. | group .. => True

theorem hereditary_solid : Hereditary Solid fun r => r ≠ empty ∧ r.Solid where
  empty := trivial
  literal _ := trivial
  set _ := trivial
  seq_iff _ _ := Iff.rfl
  alt_iff _ _ := Iff.rfl
  of_factor _ h := h.2
  factor _ hne h := ⟨hne, h⟩

theorem solid_repeated {r : Regex} (hr : r.Solid) (min : Nat) (max : Option Nat) (greedy : Bool) :
    (r.repeated min max greedy).Solid := by
  rw [repeated]
  generalize (if r.maxLength = some 0 then Nat.min min 1 else min) = min,
    (if r.maxLength = some 0 then some ((max.map (Nat.min 1)).getD 1) else max) = max
  split
  next => trivial
  next =>
    split
    next => exact hr
    next => trivial

/-- What a reader builds of solid parts is solid. -/
theorem congruence_solid : Congruence fun _ s => s.Solid where
  assertion _ _ := trivial
  set _ := trivial
  ofSet := hereditary_solid.ofSet
  concat h := hereditary_solid.concat (forall_mem_right h)
  choice h := hereditary_solid.choice (forall_mem_right h)
  repeated h _ := solid_repeated h _ _ _
  group _ := trivial

theorem choice_singleton {r : Regex} (h : r.options = [r]) : choice [r] = r := by
  rw [choice, List.flatMap_singleton, h]

theorem options_ofSet (chars : CharSet) : (ofSet chars).options = [ofSet chars] := by
  rw [ofSet]
  split <;> rfl

theorem options_ne_nil (r : Regex) : r.options ≠ [] := by
  cases r <;> simp [options]

/-- The last alternative is not made of alternatives. -/
theorem altAll_options (r : Regex) : altAll r.options = r := by
  induction r with
  | alt first rest _ ih =>
      rw [options, altAll]
      · rw [ih]
      · exact options_ne_nil rest
  | _ => rfl

theorem options_altAll_append (os : List Regex) (r : Regex) :
    (altAll (os ++ r.options)).options = os ++ r.options := by
  induction os with
  | nil => rw [List.nil_append, altAll_options]
  | cons o os ih =>
      rw [List.cons_append, altAll]
      · rw [options, ih]
      · exact List.append_ne_nil_of_right_ne_nil os (options_ne_nil r)

theorem options_altAll {rs : List Regex} (hne : rs ≠ []) :
    (altAll (rs.flatMap options)).options = rs.flatMap options := by
  rw [← List.dropLast_append_getLast hne, List.flatMap_append, List.flatMap_singleton]
  exact options_altAll_append _ _

/-- Two parts or more make a sequence or one literal. -/
theorem options_seqAll_consFactor (p q : Regex) (ps : List Regex) :
    (seqAll ((p :: q :: ps).foldr consFactor [])).options =
      [seqAll ((p :: q :: ps).foldr consFactor [])] := by
  have hrest (r : Regex) (rs : List Regex) : ∃ s ss, consFactor r rs = s :: ss := by
    fun_cases consFactor r rs <;> exact ⟨_, _, rfl⟩
  obtain ⟨s, ss, hs⟩ := hrest q (ps.foldr consFactor [])
  rw [List.foldr_cons, List.foldr_cons, hs]
  cases p with
  | literal text =>
      cases s with
      | literal more => cases ss <;> rfl
      | _ => rfl
  | _ => rfl

theorem exists_cons_cons_append {α : Type} {xs ys : List α} (hxs : xs ≠ []) (hys : ys ≠ []) :
    ∃ x y zs, xs ++ ys = x :: y :: zs := by
  obtain ⟨x, xs, rfl⟩ := List.exists_cons_of_ne_nil hxs
  obtain ⟨y, zs, heq⟩ := List.exists_cons_of_ne_nil (List.append_ne_nil_of_right_ne_nil xs hys)
  exact ⟨x, y, zs, congrArg (x :: ·) heq⟩

/-- So do parts of which none is empty, before something else. -/
theorem options_concat_append {start : List Regex} {r : Regex} (hne : start ≠ [])
    (hstart : ∀ p ∈ start, p ≠ empty) (hr : r ≠ empty) :
    (concat (start ++ [r])).options = [concat (start ++ [r])] := by
  have hfactors {p : Regex} (hp : p ≠ empty) : p.factors ≠ [] := by
    cases p with
    | empty => exact absurd rfl hp
    | _ => exact List.cons_ne_nil _ _
  have hparts : start.flatMap factors ≠ [] := by
    obtain ⟨p, hp⟩ := List.exists_mem_of_ne_nil start hne
    intro hnil
    exact hfactors (hstart p hp) (List.flatMap_eq_nil_iff.mp hnil p hp)
  obtain ⟨q, t, ts, heq⟩ := exists_cons_cons_append hparts (hfactors hr)
  rw [concat, List.flatMap_append, List.flatMap_singleton, heq]
  · exact options_seqAll_consFactor q t ts
  · intro other hsingle
    exact hne (List.append_eq_singleton_iff.mp hsingle |>.elim And.left fun h => nomatch h.2)

theorem choiceWhole_ne_empty (o p : Regex) (os : List Regex) :
    choiceWhole (o :: p :: os) ≠ empty := by
  obtain ⟨q, t, ts, heq⟩ := exists_cons_cons_append (options_ne_nil o)
    (List.append_ne_nil_of_left_ne_nil (options_ne_nil p) (os.flatMap options))
  rw [choiceWhole, List.flatMap_cons, List.flatMap_cons, heq]
  intro hempty
  dsimp only at hempty
  cases hset : asSet? (q :: t :: ts) with
  | none =>
      rw [hset] at hempty
      cases hempty
  | some chars =>
      rw [hset, Option.elim_some, ofSet] at hempty
      split at hempty <;> cases hempty

/-- Alternatives are one expression or stay as they are. -/
theorem options_choice {rs : List Regex} (h : ∀ r ∈ rs, r.Solid) :
    (choice rs).options = [choice rs] ∨ (choice rs).options = rs.flatMap options := by
  have hne (hmany : rs.flatMap options ≠ []) : rs ≠ [] := by
    rintro rfl
    exact hmany rfl
  generalize hr : choice rs = r
  rw [choice] at hr
  split at hr
  next => exact .inl (hr ▸ rfl)
  next only heq =>
    right
    subst hr
    have halt := options_altAll (hne (by simp [heq]))
    rw [heq] at halt ⊢
    exact halt
  next hnil hsingle =>
    split at hr
    next => exact .inl (hr ▸ options_ofSet _)
    next => exact .inr (hr ▸ options_altAll (hne hnil))
    next hshared =>
      left
      subst hr
      obtain ⟨o, os, ho⟩ := List.exists_cons_of_ne_nil hnil
      obtain ⟨p, os, rfl⟩ := List.exists_cons_of_ne_nil (l := os) fun hos => hsingle o (hos ▸ ho)
      apply options_concat_append hshared
      · intro q hq
        have hmem : o ∈ rs.flatMap options := ho ▸ List.mem_cons_self
        have hsolid := hereditary_solid.of_mem_flatMap_options h hmem
        exact (hereditary_solid.of_mem_factors hsolid ((sharedFactors_isPrefix hmem).subset hq)).1
      · rw [ho]
        exact choiceWhole_ne_empty _ _ _

/-- Alternatives in simple form are the same when they are put together again. -/
theorem choice_choice {rs : List Regex} (h : ∀ r ∈ rs, r.Solid) :
    choice [choice rs] = choice rs := by
  obtain hone | hmany := options_choice h
  · exact choice_singleton hone
  · have heq : [choice rs].flatMap options = rs.flatMap options := by
      rw [List.flatMap_singleton, hmany]
    conv_lhs => rw [choice, heq]
    rw [choice]

/-- What has been read is in simple form. -/
theorem choice_singleton_of_parse {f : Flags} {source : List Char} {r : Regex}
    (h : parseWith f source = .ok r) : choice [r] = r := by
  obtain ⟨q, hq, hfinish⟩ := bind_eq_ok_iff.mp h
  obtain ⟨q', hq', hsolid⟩ := (ReaderRel.start (fun _ s => s.Solid) f f.multiLine).run
    congruence_solid hq
  obtain rfl := Except.ok.inj (hq.symm.trans hq')
  obtain ⟨-, -, rfl⟩ := Reader.finish_eq_ok_iff.mp hfinish
  apply choice_choice
  intro r hr
  have hbranch := LevelRel.branch congruence_solid hsolid.level
  rcases List.mem_cons.mp (List.mem_reverse.mp hr) with rfl | hr
  · exact hbranch
  · exact forall_mem_right hsolid.level.branches r hr

end Lexing.Regex
