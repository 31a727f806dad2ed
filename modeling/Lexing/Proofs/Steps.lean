import Mathlib.Data.List.Forall2
import Mathlib.Data.List.Induction

/-!
# Lists of steps that may fail

A list of steps succeeds when each of its steps does. The results then stand beside the steps they
come from, and what every step preserves holds at the end.

Two lists of steps may be taken in step: they fail together and for the same cause, or both succeed
with results that are related. There may be causes for which one of them fails alone.
-/

namespace Lexing

variable {α β γ δ ε : Type}

theorem mapM_eq_some_iff {f : α → Option β} {xs : List α} {ys : List β} :
    xs.mapM f = some ys ↔ List.Forall₂ (fun x y => f x = some y) xs ys := by
  induction xs generalizing ys with
  | nil => simp [eq_comm]
  | cons x rest ih =>
      simp only [List.mapM_cons, Option.bind_eq_bind, Option.bind_eq_some_iff, Option.pure_def,
        Option.some.injEq, ih, List.forall₂_cons_left_iff]
      constructor
      · rintro ⟨y, hy, zs, hzs, rfl⟩
        exact ⟨y, zs, hy, hzs, rfl⟩
      · rintro ⟨y, zs, hy, hzs, rfl⟩
        exact ⟨y, hy, zs, hzs, rfl⟩

theorem bind_eq_ok_iff {x : Except ε α} {f : α → Except ε β} {b : β} :
    x >>= f = .ok b ↔ ∃ a, x = .ok a ∧ f a = .ok b := by
  cases x <;> simp [bind, Except.bind]

theorem bind_eq_error_iff {x : Except ε α} {f : α → Except ε β} {e : ε} :
    x >>= f = .error e ↔ x = .error e ∨ ∃ a, x = .ok a ∧ f a = .error e := by
  cases x <;> simp [bind, Except.bind]

theorem pure_eq_ok_iff {a b : α} : (pure a : Except ε α) = .ok b ↔ a = b :=
  Except.ok.injEq a b ▸ Iff.rfl

theorem ok_bind (a : α) (f : α → Except ε β) : (Except.ok a >>= f) = f a := rfl

theorem isOk_iff {x : Except ε α} : x.isOk = true ↔ ∃ a, x = .ok a := by
  cases x with
  | error => exact iff_of_false (fun h => nomatch h) (fun ⟨_, h⟩ => nomatch h)
  | ok a => exact iff_of_true rfl ⟨a, rfl⟩

theorem exists_ok_of_any_toOption {x : Except ε α} {p : α → Bool}
    (h : x.toOption.any p = true) : ∃ a, x = .ok a ∧ p a = true := by
  cases x with
  | error => cases h
  | ok a => exact ⟨a, rfl, h⟩

/-- The cause for which a step fails, if it does. -/
def error? : Except ε α → Option ε
  | .error e => some e
  | .ok _ => none

theorem error?_eq_some {x : Except ε α} {e : ε} : error? x = some e ↔ x = .error e := by
  cases x <;> simp [error?]

/-- A list of steps fails for the cause for which the first of its steps does. -/
theorem error?_mapM (f : α → Except ε β) (xs : List α) :
    error? (xs.mapM f) = xs.findSome? fun x => error? (f x) := by
  induction xs with
  | nil => rfl
  | cons x rest ih =>
      rw [List.mapM_cons, List.findSome?_cons, ← ih]
      cases f x with
      | error e => rfl
      | ok y =>
          rw [ok_bind]
          cases rest.mapM f <;> rfl

theorem mapM_eq_ok_iff {f : α → Except ε β} {xs : List α} {ys : List β} :
    xs.mapM f = .ok ys ↔ List.Forall₂ (fun x y => f x = .ok y) xs ys := by
  induction xs generalizing ys with
  | nil => simp [pure, Except.pure, eq_comm]
  | cons x rest ih =>
      simp only [List.mapM_cons, bind_eq_ok_iff, ih, List.forall₂_cons_left_iff]
      constructor
      · rintro ⟨y, hy, zs, hzs, hys⟩
        exact ⟨y, zs, hy, hzs, (Except.ok.inj hys).symm⟩
      · rintro ⟨y, zs, hy, hzs, rfl⟩
        exact ⟨y, hy, zs, hzs, rfl⟩

/-- The same steps may be taken for other elements. -/
theorem mapM_map_of_forall {f : β → Except ε γ} {g : α → Except ε γ} {k : α → β} {xs : List α}
    (h : ∀ x ∈ xs, f (k x) = g x) : (xs.map k).mapM f = xs.mapM g := by
  induction xs with
  | nil => rfl
  | cons x xs ih =>
      rw [List.forall_mem_cons] at h
      rw [List.map_cons, List.mapM_cons, List.mapM_cons, h.1, ih h.2]

theorem exists_mem_of_forall₂ {R : α → β → Prop} {xs : List α} {ys : List β}
    (h : List.Forall₂ R xs ys) {x : α} (hx : x ∈ xs) : ∃ y ∈ ys, R x y := by
  induction h with
  | nil => cases hx
  | cons hxy _ ih =>
      rcases List.mem_cons.mp hx with rfl | hx
      · exact ⟨_, List.mem_cons_self, hxy⟩
      · obtain ⟨y, hy, hR⟩ := ih hx
        exact ⟨y, List.mem_cons_of_mem _ hy, hR⟩

/-- Elements in the same place of two related lists are related. -/
theorem exists_getElem?_of_forall₂ {R : α → β → Prop} {xs : List α} {ys : List β}
    (h : List.Forall₂ R xs ys) {k : Nat} {y : β} (hk : ys[k]? = some y) :
    ∃ x, xs[k]? = some x ∧ R x y := by
  induction h generalizing k with
  | nil => cases hk
  | cons hxy _ ih =>
      cases k with
      | zero =>
          obtain rfl := Option.some.inj hk
          exact ⟨_, rfl, hxy⟩
      | succ k => exact ih hk

theorem option_rel_getElem? {R : α → β → Prop} {xs : List α} {ys : List β}
    (h : List.Forall₂ R xs ys) (k : Nat) : Option.Rel R xs[k]? ys[k]? := by
  induction h generalizing k with
  | nil => exact .none
  | cons hxy _ ih =>
      cases k with
      | zero => exact .some hxy
      | succ k => exact ih k

/-- Lists put together from parts that are the same, one by one, are the same. -/
theorem flatMap_eq_of_forall₂ {f : α → List γ} {g : β → List γ} {xs : List α} {ys : List β}
    (h : List.Forall₂ (fun x y => g y = f x) xs ys) : ys.flatMap g = xs.flatMap f := by
  induction h with
  | nil => rfl
  | cons hxy _ ih => rw [List.flatMap_cons, List.flatMap_cons, hxy, ih]

/-- A list in which one element is changed is related to the list as it was. -/
theorem forall₂_modify {R : α → α → Prop} {f : α → α} {xs : List α} (hrefl : ∀ x, R x x) {i : Nat}
    (h : ∀ x, xs[i]? = some x → R x (f x)) : List.Forall₂ R xs (xs.modify i f) := by
  induction xs generalizing i with
  | nil => rw [List.modify_nil]; exact .nil
  | cons x xs ih =>
      cases i with
      | zero =>
          rw [List.modify_zero_cons]
          exact .cons (h x rfl) (List.forall₂_same.mpr fun y _ => hrefl y)
      | succ i =>
          rw [List.modify_succ_cons]
          exact .cons (hrefl x) (ih h)

/-- What holds before any step, and is preserved by the steps one after another, holds after all of
them. The invariant may speak about the steps that have been done. -/
theorem foldlM_invariant {f : β → α → Except ε β} (inv : List α → β → Prop) {xs : List α}
    {b b' : β} (h : xs.foldlM f b = .ok b') (start : inv [] b)
    (step : ∀ done x c c', inv done c → f c x = .ok c' → inv (done ++ [x]) c') : inv xs b' := by
  induction xs using List.reverseRecOn generalizing b' with
  | nil =>
      obtain rfl : b = b' := Except.ok.inj h
      exact start
  | append_singleton rest x ih =>
      rw [List.foldlM_append, bind_eq_ok_iff] at h
      obtain ⟨c, hc, hx⟩ := h
      simp only [List.foldlM_cons, List.foldlM_nil, bind_pure] at hx
      exact step rest x c b' (ih hc) hx

/-- A list of steps fails at some step, after the steps before it have succeeded. -/
theorem exists_of_foldlM_eq_error {f : β → α → Except ε β} {xs : List α} {b : β} {e : ε}
    (h : xs.foldlM f b = .error e) :
    ∃ done x rest c, xs = done ++ x :: rest ∧ done.foldlM f b = .ok c ∧ f c x = .error e := by
  induction xs generalizing b with
  | nil => cases h
  | cons x xs ih =>
      rw [List.foldlM_cons, bind_eq_error_iff] at h
      rcases h with hx | ⟨c, hc, hrest⟩
      · exact ⟨[], x, xs, b, rfl, rfl, hx⟩
      · obtain ⟨done, y, rest, c', rfl, hdone, hy⟩ := ih hrest
        refine ⟨x :: done, y, rest, c', rfl, ?_, hy⟩
        rw [List.foldlM_cons, hc]
        exact hdone

theorem exists_of_mapM_eq_error {f : α → Except ε β} {xs : List α} {e : ε}
    (h : xs.mapM f = .error e) : ∃ x ∈ xs, f x = .error e := by
  have hfirst := error?_mapM f xs
  rw [h] at hfirst
  obtain ⟨x, hx, hfx⟩ := List.exists_of_findSome?_eq_some hfirst.symm
  refine ⟨x, hx, ?_⟩
  cases hf : f x with
  | error e' =>
      rw [hf] at hfx
      rw [Option.some.inj hfx]
  | ok => rw [hf] at hfx; cases hfx

/-- What two lists have to do with a third, element by element, they have to do with each other. -/
theorem forall₂_of_common {R : α → β → Prop} {S : α → γ → Prop} {xs : List α} {ys : List β}
    {zs : List γ} (hR : List.Forall₂ R xs ys) (hS : List.Forall₂ S xs zs) :
    List.Forall₂ (fun y z => ∃ x ∈ xs, R x y ∧ S x z) ys zs := by
  induction hR generalizing zs with
  | nil =>
      cases hS
      exact .nil
  | @cons x y xs ys hxy _ ih =>
      obtain ⟨z, zs, hxz, hrest, rfl⟩ := List.forall₂_cons_left_iff.mp hS
      refine .cons ⟨x, List.mem_cons_self, hxy, hxz⟩ ((ih hrest).imp ?_)
      rintro y z ⟨a, ha, hay, haz⟩
      exact ⟨a, List.mem_cons_of_mem x ha, hay, haz⟩

/-- Two steps fail together, for the same cause, or else succeed with related results. But the first
may also fail alone for a cause in `T`, and the second for one in `T'`. -/
inductive InStep (T T' : ε → Prop) (R : α → β → Prop) : Except ε α → Except ε β → Prop
  | failed (e : ε) : InStep T T' R (.error e) (.error e)
  | done {a : α} {b : β} (related : R a b) : InStep T T' R (.ok a) (.ok b)
  | left {e : ε} (alone : T e) (y : Except ε β) : InStep T T' R (.error e) y
  | right {e : ε} (x : Except ε α) (alone : T' e) : InStep T T' R x (.error e)

namespace InStep

variable {T T' : ε → Prop} {R : α → β → Prop} {S : γ → δ → Prop} {x : Except ε α} {y : Except ε β}

theorem refl (x : Except ε α) : InStep T T' Eq x x := by
  cases x with
  | error e => exact .failed e
  | ok a => exact .done rfl

theorem mono {U U' : ε → Prop} (h : InStep T T' R x y) (hU : ∀ e, T e → U e)
    (hU' : ∀ e, T' e → U' e) : InStep U U' R x y := by
  cases h with
  | failed e => exact .failed e
  | done related => exact .done related
  | left alone y => exact .left (hU _ alone) y
  | right x alone => exact .right x (hU' _ alone)

theorem of_ok {a : α} {b : β} (h : InStep T T' R (.ok a : Except ε α) (.ok b)) : R a b := by
  cases h with
  | done related => exact related

theorem exists_of_ok_right {b : β} (h : InStep T T' R x (.ok b)) (hT : ∀ e, ¬ T e) :
    ∃ a, x = .ok a ∧ R a b := by
  cases h with
  | done related => exact ⟨_, rfl, related⟩
  | left alone => exact absurd alone (hT _)

/-- What one step fails for, the other one fails for too, unless one of them fails alone. -/
theorem eq_error (h : InStep T T' R x y) {e : ε} (hx : x = .error e) :
    y = .error e ∨ T e ∨ ∃ e', y = .error e' ∧ T' e' := by
  cases h with
  | failed =>
      obtain rfl := Except.error.inj hx
      exact .inl rfl
  | done => cases hx
  | left alone =>
      obtain rfl := Except.error.inj hx
      exact .inr (.inl alone)
  | right _ alone => exact .inr (.inr ⟨_, rfl, alone⟩)

/-- Neither step can fail alone if there is no cause for which it may. -/
theorem error_iff (h : InStep T T' R x y) (hT : ∀ e, ¬ T e) (hT' : ∀ e, ¬ T' e) (e : ε) :
    x = .error e ↔ y = .error e := by
  cases h with
  | failed => simp
  | done => simp
  | left alone => exact absurd alone (hT _)
  | right _ alone => exact absurd alone (hT' _)

/-- Steps that fail for the same cause, if at all, are in step. -/
theorem of_error? (h : error? y = error? x) (hR : ∀ a b, x = .ok a → y = .ok b → R a b) :
    InStep T T' R x y := by
  cases x with
  | error e =>
      cases y with
      | error e' =>
          obtain rfl := Option.some.inj h
          exact .failed e'
      | ok => cases h
  | ok a =>
      cases y with
      | error => cases h
      | ok b => exact .done (hR a b rfl rfl)

/-- What follows may make use of the results that the steps have. -/
theorem bind_of_ok (h : InStep T T' R x y) {f : α → Except ε γ} {g : β → Except ε δ}
    (hfg : ∀ a b, x = .ok a → y = .ok b → R a b → InStep T T' S (f a) (g b)) :
    InStep T T' S (x >>= f) (y >>= g) := by
  cases h with
  | failed e => exact .failed e
  | done related => exact hfg _ _ rfl rfl related
  | left alone => exact .left alone _
  | right _ alone => exact .right _ alone

theorem bind (h : InStep T T' R x y) {f : α → Except ε γ} {g : β → Except ε δ}
    (hfg : ∀ a b, R a b → InStep T T' S (f a) (g b)) : InStep T T' S (x >>= f) (y >>= g) :=
  h.bind_of_ok fun a b _ _ => hfg a b

/-- Lists of steps that are related one by one are in step. -/
theorem foldlM_of_forall₂ {P : γ → δ → Prop} {f : α → γ → Except ε α} {g : β → δ → Except ε β}
    (hfg : ∀ a b z w, P z w → R a b → InStep T T' R (f a z) (g b w)) {zs : List γ} {ws : List δ}
    (hzs : List.Forall₂ P zs ws) {a : α} {b : β} (h : R a b) :
    InStep T T' R (zs.foldlM f a) (ws.foldlM g b) := by
  induction hzs generalizing a b with
  | nil => exact .done h
  | cons hzw _ ih =>
      rw [List.foldlM_cons, List.foldlM_cons]
      refine (hfg a b _ _ hzw h).bind ?_
      intro a b hab
      exact ih hab

theorem mapM_of_forall₂ {P : γ → δ → Prop} {f : γ → Except ε α} {g : δ → Except ε β}
    {zs : List γ} {ws : List δ} (hfg : ∀ z ∈ zs, ∀ w ∈ ws, P z w → InStep T T' R (f z) (g w))
    (h : List.Forall₂ P zs ws) : InStep T T' (List.Forall₂ R) (zs.mapM f) (ws.mapM g) := by
  induction h with
  | nil => exact .done .nil
  | @cons z w zs ws hzw _ ih =>
      rw [List.mapM_cons, List.mapM_cons]
      refine (hfg z List.mem_cons_self w List.mem_cons_self hzw).bind ?_
      intro a b hab
      have hrest : InStep T T' (List.Forall₂ R) (zs.mapM f) (ws.mapM g) :=
        ih fun z hz w hw => hfg z (List.mem_cons_of_mem _ hz) w (List.mem_cons_of_mem _ hw)
      refine hrest.bind ?_
      intro as bs hall
      exact .done (.cons hab hall)

end InStep

end Lexing
