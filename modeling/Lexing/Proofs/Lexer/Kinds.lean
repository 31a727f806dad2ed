import Lexing.Proofs.Declaration.Including
import Lexing.Proofs.Lexer.Scanning
import Lexing.Proofs.Machine.Renumbering
import Lexing.Proofs.Rule.Keywords

/-!
# Kinds of tokens

A lexer can be asked which kinds its tokens may have. It answers for the names of all rules and for
the kinds that their mappers list, in whichever states the rules are. A token has the kind that the
mapper of its rule gives for its text, or else the name of the rule. So if no mapper gives a kind
that it does not list, then the answer covers every token, whatever has been done with the lexer.
-/

namespace Lexing

/-- Some rule has the kind for its name, or has a mapper that lists the kind. -/
def Declaration.ListsKind (d : Declaration) (kind : String) : Prop :=
  ∃ named, d.Declares named ∧ (kind = named.1 ∨ ∃ mapper ∈ named.2.kind, kind ∈ mapper.kinds)

/-- No mapper of the declaration gives a kind that it does not list. -/
def Declaration.MapsHonestly (d : Declaration) : Prop :=
  ∀ named, d.Declares named → ∀ mapper ∈ named.2.kind, mapper.Honest

theorem Action.mem_kinds_iff {a : Action} {kind : String} :
    kind ∈ a.kinds ↔ kind = a.name ∨ ∃ mapper ∈ a.kind, kind ∈ mapper.kinds := by
  rw [kinds, List.mem_cons]
  cases a.kind <;> simp

/-- The kind of a token is one of those of its action. -/
theorem Action.kindOf_mem {a : Action} (h : ∀ mapper ∈ a.kind, mapper.Honest) (text : String) :
    a.kindOf text ∈ a.kinds := by
  rw [mem_kinds_iff, kindOf]
  cases hgiven : a.kind.bind (·.kindOf text) with
  | none => exact .inl rfl
  | some kind =>
      obtain ⟨mapper, hmapper, hkind⟩ := Option.bind_eq_some_iff.mp hgiven
      exact .inr ⟨mapper, hmapper, h mapper hmapper text kind hkind⟩

namespace Declaration

variable {d : Declaration} {host : Host} {start : Option String} {stateful : Bool} {config : Config}
  {m : Machine}

/-- Each action of a machine is that of a declared rule. -/
theorem exists_declares_of_mem (h : d.compile host start stateful config = .ok m) {t : StateTable}
    (ht : t ∈ m.states) {a : Action} (ha : a ∈ t.actions) :
    ∃ named tr, d.Declares named ∧ a = actionOf named.1 named.2 tr := by
  obtain ⟨k, hk⟩ := List.getElem?_of_mem ht
  obtain ⟨s, rules, hs, hrules, hcarries⟩ := exists_carries h hk
  obtain ⟨named, hnamed, tr, -, rfl⟩ := exists_mem_of_forall₂ hcarries.actions.flip ha
  exact ⟨named, tr, declares_of_expand (List.mem_of_getElem? hs) hrules named hnamed, rfl⟩

/-- Each rule that is declared has an action, at least in its own state. -/
theorem exists_mem_of_declares (h : d.compile host start stateful config = .ok m)
    {named : NamedRule} (hnamed : d.Declares named) :
    ∃ t ∈ m.states, ∃ a ∈ t.actions, ∃ tr, a = actionOf named.1 named.2 tr := by
  obtain ⟨s, hs, hentry⟩ := hnamed
  obtain ⟨k, hk⟩ := List.getElem?_of_mem hs
  have hlt : k < m.states.length := by
    rw [length_states_of_compile h]
    exact (List.getElem?_eq_some_iff.mp hk).1
  have ht := List.getElem?_eq_getElem hlt
  obtain ⟨s', rules, hk', hrules, hcarries⟩ := exists_carries h ht
  obtain rfl := Option.some.inj (hk.symm.trans hk')
  have hrule : named ∈ rules := accounts_of_expand hs hrules _ hentry
  obtain ⟨a, ha, tr, -, rfl⟩ := exists_mem_of_forall₂ hcarries.actions hrule
  exact ⟨_, List.mem_of_getElem? ht, _, ha, tr, rfl⟩

/-- The kinds of a machine are those that its declaration lists. -/
theorem mem_kinds_iff_of_compile (h : d.compile host start stateful config = .ok m)
    {kind : String} : kind ∈ m.kinds ↔ d.ListsKind kind := by
  simp only [Machine.kinds, List.mem_flatMap, Action.mem_kinds_iff, ListsKind]
  constructor
  · rintro ⟨t, ht, a, ha, hkind⟩
    obtain ⟨named, tr, hdeclares, rfl⟩ := exists_declares_of_mem h ht ha
    exact ⟨named, hdeclares, hkind⟩
  · rintro ⟨named, hdeclares, hkind⟩
    obtain ⟨t, ht, a, ha, tr, rfl⟩ := exists_mem_of_declares h hdeclares
    exact ⟨t, ht, _, ha, hkind⟩

end Declaration

/-- A state that selects something is one of the machine. -/
theorem Machine.state_mem_of_select {m : Machine} {id : Nat} {before : Option Char}
    {ahead : List Char} {found : Nat × Nat} (h : (m.state id).select before ahead = some found) :
    m.state id ∈ m.states := by
  cases hid : m.states[id]? with
  | some t =>
      rw [state, hid, Option.getD_some]
      exact List.mem_of_getElem? hid
  | none =>
      -- A number that no state has stands for a state without rules.
      rw [state, hid, Option.getD_none] at h
      simp [StateTable.select, StateTable.match?, StateTable.quickAction?,
        StateTable.patternMatch?] at h

/-- A token has one of the kinds of its machine, if no mapper gives any other kind. -/
theorem Lexer.kind_mem_of_next {d : Declaration} {host : Host} {start : Option String}
    {stateful : Bool} {config : Config} {l : Lexer}
    (h : d.compile host start stateful config = .ok l.machine) (hhonest : d.MapsHonestly)
    {token : Token} (htoken : l.next.1 = .ok (some token)) : token.kind ∈ l.machine.kinds := by
  obtain ⟨i, n, hahead, hselect, -, rfl, -⟩ := exists_of_next_eq_token htoken
  have hstate : l.state ∈ l.machine.states := Machine.state_mem_of_select hselect
  obtain ⟨hi, -⟩ := ((Declaration.inBounds_of_compile h).tables _ hstate).select hahead hselect
  have haction : l.action i ∈ l.state.actions := by
    rw [action, List.getElem?_eq_getElem hi, Option.getD_some]
    exact List.getElem_mem hi
  obtain ⟨named, tr, hdeclares, heq⟩ := Declaration.exists_declares_of_mem h hstate haction
  refine List.mem_flatMap.mpr ⟨l.state, hstate, List.mem_flatMap.mpr ⟨_, haction, ?_⟩⟩
  apply Action.kindOf_mem
  rw [heq]
  exact hhonest named hdeclares

theorem Tracked.machine_call (t : Tracked) (c : Call) :
    (t.call c).lexer.machine = t.lexer.machine := t.lexer.machine_answer c

namespace Session

/-- Tokens keep to the kinds of the machine that has returned them, in all sessions. -/
theorem kind_mem_of_run {d : Declaration} {host : Host} {start : Option String} {stateful : Bool}
    {config : Config} {m : Machine} (h : d.compile host start stateful config = .ok m)
    (hhonest : d.MapsHonestly) (machines : List Machine) (steps : List Step) :
    ∀ t ∈ (Session.start machines).run steps, t.lexer.machine = m →
      ∀ token ∈ t.tokens, token.kind ∈ m.kinds := by
  rintro t ht rfl token htoken
  obtain ⟨first, xs, -, hruns, htokens⟩ := ran_of_run machines steps t ht
  rw [← htokens] at htoken
  obtain ⟨x, hx, rfl⟩ := List.mem_map.mp htoken
  obtain ⟨l, hmachine, htaken⟩ := hruns.exists_of_mem hx
  rw [hruns.machine, ← hmachine] at h ⊢
  exact Lexer.kind_mem_of_next h hhonest (Lexer.next_of_taken? htaken)

/-- In every session, whichever snapshots are restored in it, a lexer of a compiled machine has just
the kinds that its declaration lists: the names of its rules and the kinds listed by their mappers.
If the mappers give no other kinds, and keyword mappers do not, then the lexer has the kind of every
token that it returns. -/
theorem kinds_of_run {d : Declaration} {host : Host} {start : Option String} {stateful : Bool}
    {config : Config} {m : Machine} (h : d.compile host start stateful config = .ok m)
    (machines : List Machine) (steps : List Step) :
    (∀ entries, (KindMapper.keywords entries).Honest) ∧
      ∀ t ∈ (Session.start machines).run steps, t.lexer.machine = m →
        (∀ kind, t.lexer.has kind = true ↔ d.ListsKind kind) ∧
        (d.MapsHonestly → ∀ token ∈ t.tokens, t.lexer.has token.kind = true) := by
  refine ⟨KindMapper.honest_keywords, ?_⟩
  rintro t ht rfl
  constructor
  · intro kind
    rw [Lexer.has, List.contains_iff_mem]
    exact Declaration.mem_kinds_iff_of_compile h
  · intro hhonest token htoken
    rw [Lexer.has, List.contains_iff_mem]
    exact kind_mem_of_run h hhonest machines steps t ht rfl token htoken

end Session

/-- Words, some of which are keywords. The word `end` is listed under two kinds. -/
def Declaration.keywordSample : Declaration :=
  [⟨"start", [
    .rule "word" {
      pattern := .regex "[a-z]+"
      kind := some (.keywords [("open", ["if", "end"]), ("close", ["end"])]) },
    .rule "other" { pattern := .fallback }]⟩]

/-- A lexer goes on with the snapshot of one of another declaration. -/
theorem Session.kinds_of_run_keywordSample :
    ∃ m m' t, Declaration.keywordSample.compile .standard none true {} = .ok m ∧
      Declaration.compileSingle .standard [.rule "any" { pattern := .fallback }] {} = .ok m' ∧
      Declaration.keywordSample.MapsHonestly ∧
      t ∈ (Session.start [m, m']).run [.call 1 (.reset ['-']), .call 1 .next,
        .call 0 (.restore ['e', 'n', 'd', '-'] ⟨⟨1, 2, 1⟩, [0]⟩), .call 0 (.tokens 3)] ∧
      t.lexer.machine = m ∧ t.tokens.map (·.kind) = ["close", "other"] ∧
      (t.lexer.has "open" = true ↔ Declaration.keywordSample.ListsKind "open") ∧
      ∀ token ∈ t.tokens, t.lexer.has token.kind = true := by
  let snapshot : Snapshot := ⟨⟨1, 2, 1⟩, [0]⟩
  let steps : List Step := [.call 1 (.reset ['-']), .call 1 .next,
    .call 0 (.restore ['e', 'n', 'd', '-'] snapshot), .call 0 (.tokens 3)]
  obtain ⟨m', hm'⟩ : ∃ m', Declaration.compileSingle .standard
      [.rule "any" { pattern := .fallback }] {} = .ok m' := ⟨_, rfl⟩
  have hrun : (Declaration.keywordSample.compile .standard none true {}).toOption.any (fun m =>
      ((start [m, m']).run steps)[0]?.any fun t =>
        t.tokens.map (·.kind) = ["close", "other"]) = true := by
    cases hm'
    decide +kernel
  obtain ⟨m, hm, hrun⟩ := exists_ok_of_any_toOption hrun
  obtain ⟨t, ht, hnames⟩ := (Option.any_eq_true _ _).mp hrun
  have hmachine : t.lexer.machine = m := by
    obtain rfl := Option.some.inj ht
    exact (Tracked.machine_call _ _).trans (Tracked.machine_call _ _)
  have hhonest : Declaration.keywordSample.MapsHonestly := by
    rintro named ⟨s, hs, hentry⟩ mapper hmapper
    obtain rfl := List.mem_singleton.mp hs
    simp only [List.mem_cons, List.not_mem_nil, or_false, Entry.rule.injEq] at hentry
    rcases hentry with ⟨-, hrule⟩ | ⟨-, hrule⟩ <;> rw [hrule] at hmapper <;> cases hmapper
    exact KindMapper.honest_keywords _
  have hmem := List.mem_of_getElem? ht
  obtain ⟨-, hkinds⟩ := kinds_of_run hm [m, m'] steps
  obtain ⟨hlists, hhas⟩ := hkinds t hmem hmachine
  exact ⟨m, m', t, hm, hm', hhonest, hmem, hmachine, of_decide_eq_true hnames, hlists "open",
    hhas hhonest⟩

end Lexing
