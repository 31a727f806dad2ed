import Lexing.Proofs.Declaration.Reordering
import Lexing.Proofs.Lexer.Renumbering

/-!
# The order of states makes no difference

The states of a declaration may be listed in any order, as long as it is said by name where to
begin. Whether the declaration compiles does not depend on the order, and neither does anything that
its lexers return, but for the numbers of states in snapshots and in look-ups by name.
-/

namespace Lexing.Declaration

variable {d d' : Declaration} {host : Host} {start : Option String} {stateful : Bool}
  {config : Config} {m m' : Machine}

/-- Warnings come state by state, and those about a state are the same in every order. -/
theorem Reorders.exists_warnings (h : d.Reorders d')
    (hm : d.compile host start stateful config = .ok m)
    (hm' : d'.compile host start stateful config = .ok m') :
    ∃ block : StateDecl → List Warning, (∀ s, ∀ w ∈ block s, w.state = s.name) ∧
      m.warnings = d.flatMap block ∧ m'.warnings = d'.flatMap block := by
  by_cases hpolicy : config.lineBreaks = .warn
  · refine ⟨fun s => warningsAbout host.names s.name (d.rulesOf s), ?_, ?_, ?_⟩
    · intro s w hw
      obtain ⟨named, -, rfl⟩ := List.mem_map.mp hw
      rfl
    · rw [warnings_of_compile hm, if_pos hpolicy, warningsOf]
    · rw [warnings_of_compile hm', if_pos hpolicy, warningsOf]
      simp only [h.rulesOf_eq]
  · have hnone (d : Declaration) : d.flatMap (fun _ => ([] : List Warning)) = [] :=
      List.flatMap_eq_nil_iff.mpr fun _ _ => rfl
    refine ⟨fun _ => [], fun s => List.forall_mem_nil _, ?_, ?_⟩
    · rw [warnings_of_compile hm, if_neg hpolicy, hnone]
    · rw [warnings_of_compile hm', if_neg hpolicy, hnone]

/-- States with names of their own may be declared in any order. Each of them has a number in either
order. A declaration compiles in both orders or in neither. If it compiles, then a session in the
second order, with the new numbers in the snapshots that it restores, has the same replies, with the
new numbers in the snapshots that it takes. Its lexers have returned the same tokens and stand at
the same places, in the same states under their new numbers. The warnings about each state are the
same. -/
theorem replies_of_perm (hdistinct : (d.map (·.name)).Nodup) (hperm : d.Perm d') (host : Host)
    (start : String) (stateful : Bool) (config : Config) :
    let σ := renumbering d d'
    Function.Bijective σ ∧ (∀ id, d'[σ id]? = d[id]?) ∧
    ((∃ m', d'.compile host (some start) stateful config = .ok m') ↔
      ∃ m, d.compile host (some start) stateful config = .ok m) ∧
    ∀ m m', d.compile host (some start) stateful config = .ok m →
      d'.compile host (some start) stateful config = .ok m' →
      (∀ steps : List Session.Step,
        (Session.start [m']).replies (steps.map (·.renumber σ)) =
          ((Session.start [m]).replies steps).map (·.map (·.renumber σ)) ∧
        List.Forall₂ (fun t t' => t'.tokens = t.tokens ∧ t.lexer.Mirrors σ t'.lexer)
          ((Session.start [m]).run steps)
          ((Session.start [m']).run (steps.map (·.renumber σ)))) ∧
      ∃ block : StateDecl → List Warning, (∀ s, ∀ w ∈ block s, w.state = s.name) ∧
        m.warnings = d.flatMap block ∧ m'.warnings = d'.flatMap block := by
  intro σ
  have h : d.Reorders d' := ⟨hperm, hdistinct⟩
  have hbijective : Function.Bijective σ :=
    ⟨Function.LeftInverse.injective h.symm.renumbering_renumbering,
      Function.RightInverse.surjective h.renumbering_renumbering⟩
  refine ⟨hbijective, h.getElem?_renumbering, h.exists_compile_iff, ?_⟩
  intro m m' hm hm'
  refine ⟨?_, h.exists_warnings hm hm'⟩
  intro steps
  have hnumbers := h.renumbers hm hm'
  obtain ⟨hreplies, hrun⟩ := Session.start_run_renumber hnumbers steps
  refine ⟨hreplies, ?_⟩
  rw [hrun, List.forall₂_map_right_iff, List.forall₂_same]
  intro t ht
  have hmachine := Session.machine_run m steps t ht
  refine ⟨rfl, Lexer.mirrors_renumber (hmachine.symm ▸ hnumbers) ?_⟩
  intro name
  rw [hmachine, stateId?_of_compile hm, stateId?_of_compile hm', h.stateId?_eq]

def quoteSample : Declaration :=
  [⟨"text", [
    .rule "open" { pattern := .literals ["<"], push := some "quote" },
    .rule "other" { pattern := .fallback }]⟩,
   ⟨"quote", [
    .rule "close" { pattern := .literals [">"], pop := some 1 },
    .include "text"]⟩]

/-- Go into a quote, take a snapshot, and go on from it. -/
def quoteSteps : List Session.Step :=
  [.call 0 (.reset ['<', 'a', 'b']), .call 0 (.tokens 2), .call 0 .save,
    .call 0 (.restore ['c', '>'] ⟨⟨1, 3, 2⟩, [1, 0]⟩), .call 0 (.tokens 2)]

/-- Whichever of the two states is declared first, the same tokens are returned. The snapshot has
the numbers of that order. -/
theorem replies_of_perm_quoteSample :
    let σ := renumbering quoteSample quoteSample.reverse
    ∃ m m', quoteSample.compile .standard (some "text") true {} = .ok m ∧
      compile quoteSample.reverse .standard (some "text") true {} = .ok m' ∧
      quoteSteps.map (·.renumber σ) =
        [.call 0 (.reset ['<', 'a', 'b']), .call 0 (.tokens 2), .call 0 .save,
          .call 0 (.restore ['c', '>'] ⟨⟨1, 3, 2⟩, [0, 1]⟩), .call 0 (.tokens 2)] ∧
      ((Session.start [m]).run quoteSteps).map (·.tokens.map (·.text)) = [["c", ">"]] ∧
      ((Session.start [m]).run quoteSteps).map (·.lexer.stack) = [[0]] ∧
      (Session.start [m']).replies (quoteSteps.map (·.renumber σ)) =
        ((Session.start [m]).replies quoteSteps).map (·.map (·.renumber σ)) := by
  intro σ
  have hrun : (quoteSample.compile .standard (some "text") true {}).toOption.any (fun m =>
      ((Session.start [m]).run quoteSteps).map (·.tokens.map (·.text)) = [["c", ">"]] ∧
        ((Session.start [m]).run quoteSteps).map (·.lexer.stack) = [[0]]) = true := by
    decide +kernel
  have hnames : (quoteSample.map (·.name)).Nodup := by decide
  obtain ⟨m, hm, hrun⟩ := exists_ok_of_any_toOption hrun
  obtain ⟨htexts, hstack⟩ := of_decide_eq_true hrun
  obtain ⟨-, -, hcompile, hsame⟩ :=
    replies_of_perm hnames quoteSample.reverse_perm.symm .standard "text" true {}
  obtain ⟨m', hm'⟩ := hcompile.mpr ⟨m, hm⟩
  exact ⟨m, m', hm, hm', rfl, htexts, hstack, ((hsame m m' hm hm').1 quoteSteps).1⟩

end Lexing.Declaration
