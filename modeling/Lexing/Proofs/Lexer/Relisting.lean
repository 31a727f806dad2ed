import Lexing.Proofs.Lexer.Agreement
import Lexing.Proofs.Machine.Relisting

/-!
# The longest text is matched

Whatever characters the texts of a rule have, the expression for them can be read, and it matches
the longest text that comes next. So neither the order in which a rule lists its texts nor listing
one more than once can be noticed, and single characters may as well be looked up.
-/

namespace Lexing.Declaration

/-- The expression for some texts matches where one of them comes next, and the match is the longest
of these. Declarations that differ only in how rules list texts are refused for the same, or one of
them for want of room. If they compile, their machines match the same, every session of calls has
the same replies with both, and at its end all that can be asked of a lexer has the same answer. A
rule for single characters matches the same if it comes last in quick look-up or first among the
patterns. -/
theorem texts_match_longest (host : Host) :
    (∀ texts : List (List Char), texts ≠ [] → (∀ text ∈ texts, text ≠ []) →
      ∃ r, Regex.parse host.names (Regex.literalChoice texts) = .ok r ∧ ∀ before ahead,
        (∀ len, r.matchLength? before ahead = some len ↔
          ∃ text, Regex.LongestNext texts ahead text ∧ text.length = len) ∧
        (r.matchLength? before ahead = none ↔ ∀ text ∈ texts, ¬ text <+: ahead)) ∧
    (∀ (d d' : Declaration) (start : Option String) (stateful : Bool) (config : Config),
      d.Alike SameTexts d' →
      (∀ fault, d.compile host start stateful config = .error fault →
        d'.compile host start stateful config = .error fault ∨
          d.Overfull host config.quickLookup fault ∨
            ∃ fault', d'.compile host start stateful config = .error fault' ∧
              d'.Overfull host config.quickLookup fault') ∧
      ∀ m m', d.compile host start stateful config = .ok m →
        d'.compile host start stateful config = .ok m' →
        (∀ id before ahead,
          (m'.state id).match? before ahead = (m.state id).match? before ahead) ∧
        ∀ steps, (Session.start [m']).replies steps = (Session.start [m]).replies steps ∧
          List.Forall₂ (fun t t' => t.lexer.LooksLike t'.lexer) ((Session.start [m]).run steps)
            ((Session.start [m']).run steps)) ∧
    ∀ (t : StateTable) (chars : List Char), chars ≠ [] →
      ∃ r, Regex.parse host.names (Regex.literalChoice (chars.map fun c => [c])) = .ok r ∧
        ∀ action before ahead,
          { t with quick := t.quick ++ chars.map (·, action) }.match? before ahead =
            { t with patterns := (action, r) :: t.patterns }.match? before ahead := by
  refine ⟨fun texts hne hfull => Regex.exists_parse_longest host.names hne hfull, ?_,
    fun t chars hne => t.match?_quick_eq_pattern host.names hne⟩
  intro d d' start stateful config halike
  have hctx : Context.WarnsAlike False Eq ⟨d, host, stateful, config⟩
      ⟨d', host, stateful, config⟩ :=
    ⟨funext halike.stateId?_eq, rfl, rfl, False.elim, fun _ _ _ _ => .refl _⟩
  have hrelists : d.Alike (Relists False) d' :=
    halike.mono fun named named' htexts => ⟨htexts, False.elim⟩
  have hboth := hrelists.compile_inStep additive_eq hctx start
  constructor
  · intro fault hfault
    rcases hboth.eq_error hfault with heq | halone | ⟨fault', heq, halone⟩
    · exact .inl heq
    · exact .inr (.inl halone.2)
    · exact .inr (.inr ⟨fault', heq, halone.2⟩)
  · intro m m' hm hm'
    have hagrees := halike.agrees_of_compile hm hm'
    rw [hm, hm'] at hboth
    obtain ⟨hstart, hwarnings⟩ := hboth.of_ok
    refine ⟨fun id => (Machine.state_agrees hagrees id).match_eq, ?_⟩
    intro steps
    have hsame : m.Alike m' := Machine.alike_of_compile hm hm' hstart hagrees rfl
    exact Session.start_on hsame hwarnings.symm steps

def operatorSample (texts : List String) : Declaration :=
  [⟨"start", [
    .rule "operator" { pattern := .literals texts },
    .rule "junk" { pattern := .fallback }]⟩]

theorem alike_operatorSample {texts texts' : List String}
    (h : ∀ text, text ∈ texts' ↔ text ∈ texts) :
    (operatorSample texts).Alike SameTexts (operatorSample texts') := by
  have hoperator : SameTexts ("operator", { pattern := .literals texts })
      ("operator", { pattern := .literals texts' }) := .intro (.literals h)
  exact .cons ⟨rfl, .cons (.rule hoperator) (.cons (.rule (.refl _)) .nil)⟩ .nil

/-- The longest operator is taken, a dot and a star stand for themselves, and nothing changes if the
operators are listed the other way round or twice. -/
theorem texts_match_longest_operatorSample :
    (∃ r, Regex.parse Host.standard.names (Regex.literalChoice [['<'], ['<', '='], ['.', '*']]) =
        .ok r ∧
      r.matchLength? (some '<') ['<', '=', '<'] = some 2 ∧
      r.matchLength? none ['a', '*'] = none) ∧
    (∃ m m', (operatorSample ["<", "<=", ".*"]).compile .standard none false {} = .ok m ∧
      (operatorSample [".*", "<=", "<", "<="]).compile .standard none false {} = .ok m' ∧
      ((Session.start [m]).run [.call 0 (.reset ['<', '<', '=', '.', '*']),
        .call 0 (.tokens 3)]).map (fun t => t.tokens.map (·.text)) = [["<", "<=", ".*"]] ∧
      ∀ steps, (Session.start [m']).replies steps = (Session.start [m]).replies steps) ∧
    ∃ r, Regex.parse Host.standard.names (Regex.literalChoice [['+'], ['-']]) = .ok r ∧
      { name := "start", quick := [('+', 0), ('-', 0)] : StateTable }.match? none ['-'] =
        { name := "start", patterns := [(0, r)] : StateTable }.match? none ['-'] := by
  obtain ⟨hlongest, hrelisted, hquick⟩ := texts_match_longest .standard
  refine ⟨?_, ?_, ?_⟩
  · obtain ⟨r, hr, hmatch⟩ := hlongest [['<'], ['<', '='], ['.', '*']] (by decide) (by decide)
    refine ⟨r, hr, ((hmatch _ _).1 2).mpr ⟨['<', '='], ⟨?_, ?_, ?_⟩, rfl⟩, (hmatch _ _).2.mpr ?_⟩
    all_goals decide
  · have hrun :
        ((operatorSample ["<", "<=", ".*"]).compile .standard none false {}).toOption.any (fun m =>
          ((operatorSample [".*", "<=", "<", "<="]).compile .standard none false
            {}).toOption.any fun m' =>
              ((Session.start [m]).run [.call 0 (.reset ['<', '<', '=', '.', '*']),
                .call 0 (.tokens 3)]).map (fun t => t.tokens.map (·.text)) =
                  [["<", "<=", ".*"]]) = true := by
      decide +kernel
    obtain ⟨m, hm, hrun⟩ := exists_ok_of_any_toOption hrun
    obtain ⟨m', hm', hrun⟩ := exists_ok_of_any_toOption hrun
    have hsame : ∀ text, text ∈ [".*", "<=", "<", "<="] ↔ text ∈ ["<", "<=", ".*"] := by
      intro text
      simp only [List.mem_cons, List.not_mem_nil, or_false]
      grind
    obtain ⟨-, hreplies⟩ := hrelisted _ _ none false {} (alike_operatorSample hsame)
    refine ⟨m, m', hm, hm', of_decide_eq_true hrun, ?_⟩
    intro steps
    exact ((hreplies m m' hm hm').2 steps).1
  · obtain ⟨r, hr, hmatch⟩ := hquick { name := "start" } ['+', '-'] (by decide)
    exact ⟨r, hr, hmatch 0 none ['-']⟩

end Lexing.Declaration
