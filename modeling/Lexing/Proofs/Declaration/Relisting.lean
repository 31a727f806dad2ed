import Lexing.Proofs.Declaration.Compiling

/-!
# Texts listed in another way

A rule for some texts may list them in another order, and it may list a text more than once. With
the same name and the same options, all that is checked of the rule is as before, and so is what
becomes of its matches.
-/

namespace Lexing

/-- The patterns are the same, or they list the same texts. -/
inductive Pattern.SameTexts : Pattern → Pattern → Prop
  | refl (p : Pattern) : SameTexts p p
  | literals {texts texts' : List String} (same : ∀ text, text ∈ texts' ↔ text ∈ texts) :
      SameTexts (.literals texts) (.literals texts')

/-- The rules have the same name and the same options, and they list the same texts if they do not
have the same pattern. -/
inductive SameTexts : NamedRule → NamedRule → Prop
  | intro {name : String} {rule : Rule} {pattern : Pattern}
      (related : rule.pattern.SameTexts pattern) :
      SameTexts (name, rule) (name, { rule with pattern })

theorem any_congr_mem {α : Type} {xs xs' : List α} (h : ∀ x, x ∈ xs' ↔ x ∈ xs) (p : α → Bool) :
    xs'.any p = xs.any p := by
  rw [Bool.eq_iff_iff, List.any_eq_true, List.any_eq_true]
  simp only [h]

theorem eq_nil_congr_mem {α : Type} {xs xs' : List α} (h : ∀ x, x ∈ xs' ↔ x ∈ xs) :
    xs' = [] ↔ xs = [] := by
  simp only [List.eq_nil_iff_forall_not_mem, h]

namespace Pattern.SameTexts

variable {p p' : Pattern} (h : p.SameTexts p')

include h

theorem recovers_eq : p'.recovers = p.recovers := by
  cases h with
  | refl => rfl
  | literals => rfl

theorem collector_iff : p' = .collector ↔ p = .collector := by
  cases h with
  | refl => rfl
  | literals => simp

theorem recovery?_eq (action : Nat) : p'.recovery? action = p.recovery? action := by
  cases h with
  | refl => rfl
  | literals => rfl

end Pattern.SameTexts

theorem SameTexts.refl (named : NamedRule) : SameTexts named named :=
  .intro (.refl named.2.pattern)

namespace Declaration

variable {named named' : NamedRule}

/-- The rules have the same action. -/
theorem actionOf_of_sameTexts (h : SameTexts named named') (tr : Option Transition) :
    actionOf named'.1 named'.2 tr = actionOf named.1 named.2 tr := by
  cases h with
  | intro related => simp only [actionOf, related.recovers_eq, related.collector_iff]

/-- The rules ask for the same change of state. -/
theorem transitionOf_of_sameTexts (h : SameTexts named named') (ctx : Context) (state : String) :
    transitionOf ctx state named'.1 named'.2 = transitionOf ctx state named.1 named.2 := by
  cases h with
  | intro => rfl

end Declaration

end Lexing
