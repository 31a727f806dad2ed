import Lexing.Proofs.Declaration.Lockstep
import Lexing.Proofs.Lexer.Agreement

/-!
# Quick look-up makes no difference

Whether single characters are looked up before patterns are tried is a matter of speed. The setting
decides in which list of a table a rule stands, but neither what a declaration is refused for nor
anything that its lexers return.

Only the room that the patterns of a state take is another one. A state with many single characters
and a large expression may have too many patterns if none of the characters are looked up.
-/

namespace Lexing.Declaration

/-- Two settings that differ only in quick look-up cannot be told apart, unless the engine has no
room for the patterns of a state. Whatever a declaration is refused for under one of them, it is
refused for under the other one too, or one of the two is refused for want of room. If it compiles
under both, every session of calls has the same replies, and at its end all that can be asked of a
lexer has the same answer. -/
theorem replies_of_quickLookup (d : Declaration) (host : Host) (start : Option String)
    (stateful : Bool) (config : Config) :
    let under quickLookup := d.compile host start stateful { config with quickLookup }
    (∀ quick quick' fault, under quick = .error fault →
      under quick' = .error fault ∨ d.Overfull host quick fault ∨
        ∃ fault', under quick' = .error fault' ∧ d.Overfull host quick' fault') ∧
    ∀ quick quick' m m', under quick = .ok m → under quick' = .ok m' →
      ∀ steps, (Session.start [m']).replies steps = (Session.start [m]).replies steps ∧
        List.Forall₂ (fun t t' => t.lexer.LooksLike t'.lexer) ((Session.start [m]).run steps)
          ((Session.start [m']).run steps) := by
  intro under
  have hboth (quick quick' : Bool) : InStep (fun fault => ¬ False ∧ d.Overfull host quick fault)
      (fun fault => ¬ False ∧ d.Overfull host quick' fault)
      (fun m m' => m'.start = m.start ∧ m.warnings = m'.warnings) (under quick) (under quick') := by
    have hctx : Context.WarnsAlike False Eq
        ⟨d, host, stateful, { config with quickLookup := quick }⟩
        ⟨d, host, stateful, { config with quickLookup := quick' }⟩ :=
      ⟨rfl, rfl, rfl, False.elim, fun _ _ _ _ => .refl _⟩
    exact (Alike.refl Relists.refl d).compile_inStep additive_eq hctx start
  constructor
  · intro quick quick' fault hfault
    rcases (hboth quick quick').eq_error hfault with heq | halone | ⟨fault', heq, halone⟩
    · exact .inl heq
    · exact .inr (.inl halone.2)
    · exact .inr (.inr ⟨fault', heq, halone.2⟩)
  · intro quick quick' m m' hm hm' steps
    have hagrees := agrees_of_compile hm hm'
    have hstep := hboth quick quick'
    rw [hm, hm'] at hstep
    obtain ⟨hstart, hwarnings⟩ := hstep.of_ok
    have halike : m.Alike m' := Machine.alike_of_compile hm hm' hstart hagrees rfl
    exact Session.start_on halike hwarnings.symm steps

/-- A dash may be looked up, but a star comes too late for that, and anything else is collected. -/
def dashSample : Declaration :=
  [⟨"start", [
    .rule "dash" { pattern := .literals ["-"] },
    .rule "word" { pattern := .regex "[a-z]+" },
    .rule "star" { pattern := .literals ["*"] },
    .rule "junk" { pattern := .collector }]⟩]

def dashSteps : List Session.Step := [.call 0 (.reset ['?', '!', '-']), .call 0 (.tokens 3)]

/-- What is collected ends at the dash, whether the dash is looked up or not. -/
theorem replies_of_quickLookup_dashSample :
    ∃ m m', dashSample.compile .standard none false {} = .ok m ∧
      dashSample.compile .standard none false { quickLookup := false } = .ok m' ∧
      (m.state 0).quick = [('-', 0)] ∧ (m'.state 0).quick = [] ∧
      ((Session.start [m]).run dashSteps).map (fun t => t.tokens.map (·.text)) = [["?!", "-"]] ∧
      (Session.start [m']).replies dashSteps = (Session.start [m]).replies dashSteps := by
  have hrun : (dashSample.compile .standard none false {}).toOption.any (fun m =>
      (dashSample.compile .standard none false { quickLookup := false }).toOption.any fun m' =>
        (m.state 0).quick = [('-', 0)] ∧ (m'.state 0).quick = [] ∧
        ((Session.start [m]).run dashSteps).map (fun t => t.tokens.map (·.text)) =
          [["?!", "-"]]) = true := by
    decide +kernel
  obtain ⟨m, hm, hrun⟩ := exists_ok_of_any_toOption hrun
  obtain ⟨m', hm', hrun⟩ := exists_ok_of_any_toOption hrun
  obtain ⟨hquick, hquick', htexts⟩ := of_decide_eq_true hrun
  have hsame := (replies_of_quickLookup dashSample .standard none false {}).2 true false m m' hm hm'
  exact ⟨m, m', hm, hm', hquick, hquick', htexts, (hsame dashSteps).1⟩

/-- A plus sign has many rules, and a long run of letters has one. -/
def crowdedSample : Declaration :=
  [⟨"start", List.replicate 400 (.rule "plus" { pattern := .literals ["+"] }) ++
    [.rule "run" { pattern := .regex "a{327000}" }]⟩]

/-- With the plus signs among the patterns there is no room for the run. -/
theorem crowdedSample_quickLookup :
    (∃ m, crowdedSample.compile .standard none false {} = .ok m) ∧
      crowdedSample.compile .standard none false { quickLookup := false } =
        .error (.invalidPattern "start" "*" .tooLarge) := by
  refine ⟨isOk_iff.mp ?_, error?_eq_some.mp ?_⟩
  all_goals decide +kernel

end Lexing.Declaration
