import Lexing.Proofs.Declaration.Warnings
import Lexing.Proofs.Lexer.Agreement

/-!
# Policies for line breaks

Rules that may match a line break without counting it are passed over in silence, warned about or
refused. Whichever it is, a declaration that is accepted has the same lexers. The three policies
differ in what a reader is told about the declaration, and each of them tells what the others do.
-/

namespace Lexing

/-- All that can be asked of the second lexer has the same answer as for the first. Warnings are no
part of this. -/
def Lexer.ActsLike (l l' : Lexer) : Prop := l.Mirrors id l'

namespace Machine

variable {m m' : Machine}

/-- Every session has the same replies with both machines. At its end the lexers act alike. -/
def ActsLike (m m' : Machine) : Prop :=
  ∀ steps, (Session.start [m']).replies steps = (Session.start [m]).replies steps ∧
    List.Forall₂ (fun t t' => t.lexer.ActsLike t'.lexer) ((Session.start [m]).run steps)
      ((Session.start [m']).run steps)

theorem Alike.actsLike (h : m.Alike m') : m.ActsLike m' := by
  intro steps
  obtain ⟨hreplies, hrun⟩ := Session.start_run_on h steps
  refine ⟨hreplies, ?_⟩
  rw [hrun, List.forall₂_map_right_iff, List.forall₂_same]
  intro t ht
  exact Lexer.mirrors_on (Session.machine_run m steps t ht ▸ h)

end Machine

namespace Declaration

variable {d : Declaration} {host : Host} {start : Option String} {stateful : Bool} {config : Config}
  {m m' : Machine}

/-- A machine with the same start from the same declaration acts alike under all policies. -/
theorem actsLike_of_withLineBreaks {policy policy' : LineBreakPolicy}
    (h : d.compile host start stateful (config.withLineBreaks policy) = .ok m)
    (h' : d.compile host start stateful (config.withLineBreaks policy') = .ok m')
    (hstart : m'.start = m.start) : m.ActsLike m' := by
  have hagrees := agrees_of_compile h h'
  exact (Machine.alike_of_compile h h' hstart hagrees rfl).actsLike

/-- The three policies for line breaks agree on a declaration.

To allow line breaks gives the same fault as to warn of them, or a machine that does the same and
has no warnings. If there is a machine that warns, then its warnings are about the rules of each
state in turn that may match a line break and do not count it. The declaration passes where line
breaks are denied if it passes without a warning elsewhere, and the machine does the same. Otherwise
the first warning is the fault, or there is the same fault as elsewhere unless an undeclared line
break comes before it. -/
theorem compile_withLineBreaks (d : Declaration) (host : Host) (start : Option String)
    (stateful : Bool) (config : Config) :
    let under policy := d.compile host start stateful (config.withLineBreaks policy)
    ((∀ fault, under .allow = .error fault ↔ under .warn = .error fault) ∧
      ∀ m m', under .warn = .ok m → under .allow = .ok m' → m'.warnings = [] ∧ m.ActsLike m') ∧
    ((∀ m, under .warn = .ok m →
        (∀ s ∈ d, d.expand s = .ok (d.rulesOf s)) ∧
        m.warnings = d.flatMap fun s =>
          ((d.rulesOf s).filter fun (_, rule) => rule.uncounted host.names).map
          fun (name, _) => ⟨s.name, name⟩) ∧
      ∀ rule : Rule, rule.uncounted host.names = true ↔ rule.lineBreaks = false ∧
        ((∃ texts, rule.pattern = .literals texts ∧ ∃ text ∈ texts, '\n' ∈ text.toList) ∨
          ∃ source r, rule.pattern = .regex source ∧ Regex.parse host.names source.toList = .ok r ∧
            r.mayBreakLine = true)) ∧
    (((∃ m', under .deny = .ok m') ↔ ∃ m, under .warn = .ok m ∧ m.warnings = []) ∧
      ∀ m m', under .warn = .ok m → under .deny = .ok m' → m'.warnings = [] ∧ m.ActsLike m') ∧
    (∀ m w ws, under .warn = .ok m → m.warnings = w :: ws →
      under .deny = .error (.undeclaredLineBreaks w.state w.rule)) ∧
    ∀ fault, under .warn = .error fault →
      under .deny = .error fault ∨
        ∃ state rule, under .deny = .error (.undeclaredLineBreaks state rule) := by
  intro under
  have hallow : InStep _ _ _ (under .warn) (under .allow) :=
    compile_allow_inStep d host start stateful config
  have hdeny : Refuses _ _ (under .warn) (under .deny) :=
    refuses_compile d host start stateful config
  have hfaults (fault : Fault) : under .warn = .error fault ↔ under .allow = .error fault :=
    hallow.error_iff (fun _ => id) (fun _ => id) fault
  refine ⟨⟨fun fault => (hfaults fault).symm, ?_⟩, ⟨?_, fun rule => rule.uncounted_iff host.names⟩,
    ⟨hdeny.exists_ok_iff, ?_⟩, ?_, ?_⟩
  · intro m m' hm hm'
    rw [hm, hm'] at hallow
    obtain ⟨hstart, hquiet⟩ := hallow.of_ok
    exact ⟨hquiet, actsLike_of_withLineBreaks hm hm' hstart⟩
  · intro m hm
    exact ⟨fun s => expand_eq_rulesOf hm, warnings_of_compile hm⟩
  · intro m m' hm hm'
    rw [hm, hm'] at hdeny
    obtain ⟨rfl, hquiet⟩ := hdeny.of_ok
    exact ⟨hquiet, actsLike_of_withLineBreaks hm hm' rfl⟩
  · intro m w ws hm hwarned
    rw [hm] at hdeny
    exact hdeny.eq_error_of_warned hwarned
  · intro fault hfault
    rw [hfault] at hdeny
    obtain heq | ⟨w, hw⟩ := hdeny.eq_error_of_error
    · exact .inl heq
    · exact .inr ⟨w.state, w.rule, hw⟩

/-- Blanks may be line breaks, which are counted or not. The mark has the given texts. -/
def breakSample (counted : Bool) (marks : List String) : Declaration :=
  [⟨"start", [
    .rule "blank" { pattern := .regex "[ \n]+", lineBreaks := counted },
    .rule "mark" { pattern := .literals marks },
    .rule "junk" { pattern := .collector }]⟩,
   ⟨"inner", [.include "start"]⟩]

/-- If blanks are not counted, each state has a warning, and the first one is the fault where line
breaks are denied, also if the mark has no texts. If blanks are counted, there is nothing to warn
about. -/
theorem compile_withLineBreaks_breakSample :
    let under counted marks policy :=
      (breakSample counted marks).compile .standard none false (Config.withLineBreaks {} policy)
    (∃ m m', under false ["!"] .warn = .ok m ∧ under false ["!"] .allow = .ok m' ∧
      m.warnings = [⟨"start", "blank"⟩, ⟨"inner", "blank"⟩] ∧ m'.warnings = [] ∧ m.ActsLike m' ∧
      under false ["!"] .deny = .error (.undeclaredLineBreaks "start" "blank")) ∧
    (∃ m m', under true ["!"] .warn = .ok m ∧ under true ["!"] .deny = .ok m' ∧ m.ActsLike m') ∧
    under false [] .warn = .error (.emptyPattern "start" "mark") ∧
      under false [] .allow = .error (.emptyPattern "start" "mark") ∧
      under false [] .deny = .error (.undeclaredLineBreaks "start" "blank") := by
  intro under
  have hwarned : (under false ["!"] .warn).toOption.any (fun m =>
      m.warnings = [⟨"start", "blank"⟩, ⟨"inner", "blank"⟩]) = true := by decide +kernel
  have hallowed : (under false ["!"] .allow).toOption.any (fun _ => true) = true := by
    decide +kernel
  have hcounted : (under true ["!"] .warn).toOption.any (fun m => m.warnings = []) = true := by
    decide +kernel
  have hfault : error? (under false [] .warn) = some (.emptyPattern "start" "mark") := by
    decide +kernel
  have hdenied : error? (under false [] .deny) = some (.undeclaredLineBreaks "start" "blank") := by
    decide +kernel
  obtain ⟨m, hm, hwarned⟩ := exists_ok_of_any_toOption hwarned
  obtain ⟨m', hm', -⟩ := exists_ok_of_any_toOption hallowed
  obtain ⟨quiet, hquiet, hnone⟩ := exists_ok_of_any_toOption hcounted
  have hwarnings := of_decide_eq_true hwarned
  have hnone := of_decide_eq_true hnone
  obtain ⟨⟨-, hallow⟩, -, -, hfirst, -⟩ :=
    compile_withLineBreaks (breakSample false ["!"]) .standard none false {}
  obtain ⟨-, -, ⟨hdeny, hsame⟩, -, -⟩ :=
    compile_withLineBreaks (breakSample true ["!"]) .standard none false {}
  obtain ⟨⟨hfaults, -⟩, -, -, -, -⟩ :=
    compile_withLineBreaks (breakSample false []) .standard none false {}
  refine ⟨?_, ?_, error?_eq_some.mp hfault, ?_, error?_eq_some.mp hdenied⟩
  · obtain ⟨hsilent, hacts⟩ := hallow m m' hm hm'
    exact ⟨m, m', hm, hm', hwarnings, hsilent, hacts, hfirst m _ _ hm hwarnings⟩
  · obtain ⟨strict, hstrict⟩ := hdeny.mpr ⟨quiet, hquiet, hnone⟩
    exact ⟨quiet, strict, hquiet, hstrict, (hsame quiet strict hquiet hstrict).2⟩
  · exact (hfaults _).mpr (error?_eq_some.mp hfault)

end Declaration

end Lexing
