import Lexing.Proofs.Regex.Building

/-!
# Properties of all parts

Some properties hold of a sequence or of alternatives just if they hold of all parts, and hold of
all plain texts and sets. To put an expression into simple form is to take such parts and to put
them together anew, so what is built has the property if what it was built from has it. The property
may ask for more of the parts of a sequence than of other expressions, as long as everything but the
empty expression has what is asked for.
-/

namespace Lexing.Regex

/-- The property holds of texts and sets, and it passes from a whole to its parts and back. What
begins a sequence has the property `F`, which of the expressions with the first property no other
than the empty one may lack. -/
structure Hereditary (P : Regex → Prop) (F : Regex → Prop := P) : Prop where
  empty : P .empty
  literal : ∀ text, P (.literal text)
  set : ∀ chars, P (.set chars)
  seq_iff : ∀ first rest, P (.seq first rest) ↔ F first ∧ P rest
  alt_iff : ∀ first rest, P (.alt first rest) ↔ P first ∧ P rest
  of_factor : ∀ r, F r → P r := by exact fun _ h => h
  factor : ∀ r, r ≠ .empty → P r → F r := by exact fun _ _ h => h

namespace Hereditary

variable {P F : Regex → Prop} {r p : Regex} {rs : List Regex}

theorem of_mem_factors (h : Hereditary P F) (hr : P r) (hp : p ∈ r.factors) : F p := by
  induction r with
  | empty => cases hp
  | seq first rest _ ih =>
      obtain ⟨hfirst, hrest⟩ := (h.seq_iff first rest).mp hr
      rcases List.mem_cons.mp hp with rfl | hp
      · exact hfirst
      · exact ih hrest hp
  | _ =>
      obtain rfl := List.mem_singleton.mp hp
      exact h.factor _ (by simp) hr

theorem of_mem_options (h : Hereditary P F) (hr : P r) (hp : p ∈ r.options) : P p := by
  induction r with
  | alt first rest _ ih =>
      obtain ⟨hfirst, hrest⟩ := (h.alt_iff first rest).mp hr
      rcases List.mem_cons.mp hp with rfl | hp
      · exact hfirst
      · exact ih hrest hp
  | _ =>
      obtain rfl := List.mem_singleton.mp hp
      exact hr

theorem of_mem_flatMap_options (h : Hereditary P F) (hrs : ∀ r ∈ rs, P r)
    (hp : p ∈ rs.flatMap options) : P p := by
  obtain ⟨r, hr, hp⟩ := List.mem_flatMap.mp hp
  exact h.of_mem_options (hrs r hr) hp

theorem seqAll (h : Hereditary P F) (hrs : ∀ r ∈ rs, F r) : P (seqAll rs) := by
  fun_induction Regex.seqAll rs with
  | case1 => exact h.empty
  | case2 r => exact h.of_factor r (hrs r List.mem_cons_self)
  | case3 r rest _ ih =>
      obtain ⟨hr, hrest⟩ := List.forall_mem_cons.mp hrs
      exact (h.seq_iff _ _).mpr ⟨hr, ih hrest⟩

theorem altAll (h : Hereditary P F) (hrs : ∀ r ∈ rs, P r) : P (altAll rs) := by
  fun_induction Regex.altAll rs with
  | case1 => exact h.set _
  | case2 r => exact hrs r List.mem_cons_self
  | case3 r rest _ ih =>
      obtain ⟨hr, hrest⟩ := List.forall_mem_cons.mp hrs
      exact (h.alt_iff _ _).mpr ⟨hr, ih hrest⟩

theorem ofSet (h : Hereditary P F) (chars : CharSet) : P (ofSet chars) := by
  rw [Regex.ofSet]
  split
  next => exact h.literal _
  next => exact h.set _

theorem consFactor (h : Hereditary P F) (hr : F r) (hrs : ∀ p ∈ rs, F p) :
    ∀ p ∈ consFactor r rs, F p := by
  fun_cases Regex.consFactor r rs with
  | case1 text more rest =>
      have hjoined := h.factor (.literal (text ++ more)) (by simp) (h.literal _)
      exact List.forall_mem_cons.mpr ⟨hjoined, (List.forall_mem_cons.mp hrs).2⟩
  | case2 => exact List.forall_mem_cons.mpr ⟨hr, hrs⟩

theorem concat (h : Hereditary P F) (hrs : ∀ r ∈ rs, P r) : P (concat rs) := by
  have joined (ps : List Regex) (hps : ∀ p ∈ ps, F p) :
      ∀ p ∈ ps.foldr Regex.consFactor [], F p := by
    induction ps with
    | nil => exact List.forall_mem_nil _
    | cons p rest ih =>
        obtain ⟨hp, hrest⟩ := List.forall_mem_cons.mp hps
        exact h.consFactor hp (ih hrest)
  fun_cases Regex.concat rs with
  | case1 r => exact hrs r List.mem_cons_self
  | case2 rs =>
      apply h.seqAll
      apply joined
      intro p hp
      obtain ⟨r, hr, hp⟩ := List.mem_flatMap.mp hp
      exact h.of_mem_factors (hrs r hr) hp

theorem choiceWhole (h : Hereditary P F) (hrs : ∀ r ∈ rs, P r) : P (choiceWhole rs) := by
  have hoptions : ∀ p ∈ rs.flatMap options, P p := by
    intro p hp
    exact h.of_mem_flatMap_options hrs hp
  rw [Regex.choiceWhole]
  split
  next => exact h.set _
  next r heq => exact hoptions r (heq ▸ List.mem_cons_self)
  next =>
    cases asSet? (rs.flatMap options) with
    | none => exact h.altAll hoptions
    | some chars => exact h.ofSet chars

theorem choice (h : Hereditary P F) (hrs : ∀ r ∈ rs, P r) : P (choice rs) := by
  have hoptions : ∀ p ∈ rs.flatMap options, P p := by
    intro p hp
    exact h.of_mem_flatMap_options hrs hp
  rw [Regex.choice]
  split
  next => exact h.set _
  next r heq => exact hoptions r (heq ▸ List.mem_cons_self)
  next hnil _ =>
    split
    next _ _ chars _ => exact h.ofSet chars
    next => exact h.altAll hoptions
    next start _ _ =>
      obtain ⟨first, hfirst⟩ := List.exists_mem_of_ne_nil _ hnil
      have hfactors {p q : Regex} (hq : q ∈ rs.flatMap options) (hp : p ∈ q.factors) : P p :=
        h.of_factor p (h.of_mem_factors (hoptions q hq) hp)
      apply h.concat
      intro p hp
      rcases List.mem_append.mp hp with hp | hp
      · exact hfactors hfirst ((sharedFactors_isPrefix hfirst).subset hp)
      · obtain rfl := List.mem_singleton.mp hp
        apply h.choiceWhole
        intro q hq
        obtain ⟨r, hr, rfl⟩ := List.mem_map.mp hq
        apply h.concat
        intro p hp
        exact hfactors hr (List.mem_of_mem_drop hp)

end Hereditary

end Lexing.Regex
