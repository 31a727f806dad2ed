import Lexing.Proofs.Declaration.Including
import Mathlib.Data.List.Nodup

/-!
# The walk through the states that are included

To put a list of rules together is to walk through the entries of a state. At an include the walk
enters the state that is included, unless it has met that state before. So it enters no state twice,
and a bound on its depth makes no difference if it is greater than the number of states that are
still to be met.

A walk is written down as a tree, which has the entries in their order and the walk through each
state at the include where it is entered. What the list holds, and in which order, can be read off
the tree.
-/

namespace Lexing.Declaration

/-- A walk through some entries. -/
inductive Walk where
  | done
  | rule (name : String) (rule : Rule) (rest : Walk)
  /-- The state was met before. -/
  | pass (target : String) (rest : Walk)
  /-- The state is met here, and `inner` is the walk through its entries. -/
  | enter (target : String) (inner rest : Walk)

namespace Walk

/-- The entries that the walk goes through, without those of other states. -/
def entries : Walk → List Entry
  | done => []
  | rule name r rest => .rule name r :: rest.entries
  | pass target rest | enter target _ rest => .include target :: rest.entries

/-- The rules that the walk comes to, those of other states among them. -/
def rules : Walk → List NamedRule
  | done => []
  | rule name r rest => (name, r) :: rest.rules
  | pass _ rest => rest.rules
  | enter _ inner rest => inner.rules ++ rest.rules

/-- The states that the walk enters, in this order. -/
def met : Walk → List String
  | done => []
  | rule _ _ rest | pass _ rest => rest.met
  | enter target inner rest => target :: (inner.met ++ rest.met)

/-- The walk is one in a declaration, after the given states have been met. -/
inductive Fits (d : Declaration) : List String → Walk → Prop
  | done {visited : List String} : Fits d visited done
  | rule {visited : List String} {name : String} {r : Rule} {rest : Walk}
      (hrest : Fits d visited rest) : Fits d visited (rule name r rest)
  | pass {visited : List String} {target : String} {rest : Walk} (known : target ∈ visited)
      (hrest : Fits d visited rest) : Fits d visited (pass target rest)
  | enter {visited : List String} {target : String} {inner rest : Walk} (new : target ∉ visited)
      (reads : d.entries? target = some inner.entries) (hinner : Fits d (target :: visited) inner)
      (hrest : Fits d (inner.met.reverse ++ target :: visited) rest) :
      Fits d visited (enter target inner rest)

end Walk

/-- How entries are put into the list of rules of state `owner`, one after another, with no bound on
the depth to which includes nest. -/
inductive Splices (d : Declaration) (owner : String) :
    Expansion → List Entry → Except Fault Expansion → Prop
  | nil (ex : Expansion) : Splices d owner ex [] (.ok ex)
  | rule {ex : Expansion} {name : String} {r : Rule} {rest : List Entry}
      {outcome : Except Fault Expansion}
      (hrest : Splices d owner { ex with rules := ex.rules ++ [(name, r)] } rest outcome) :
      Splices d owner ex (.rule name r :: rest) outcome
  | missing {ex : Expansion} {target : String} {rest : List Entry}
      (absent : d.entries? target = none) :
      Splices d owner ex (.include target :: rest)
        (.error (.missingState owner Fault.includeRule target))
  | pass {ex : Expansion} {target : String} {included rest : List Entry}
      {outcome : Except Fault Expansion} (reads : d.entries? target = some included)
      (known : target ∈ ex.visited) (hrest : Splices d owner ex rest outcome) :
      Splices d owner ex (.include target :: rest) outcome
  | enter {ex middle : Expansion} {target : String} {included rest : List Entry}
      {outcome : Except Fault Expansion} (reads : d.entries? target = some included)
      (new : target ∉ ex.visited)
      (hinner : Splices d owner { ex with visited := target :: ex.visited } included (.ok middle))
      (hrest : Splices d owner middle rest outcome) :
      Splices d owner ex (.include target :: rest) outcome
  | fails {ex : Expansion} {target : String} {included rest : List Entry} {fault : Fault}
      (reads : d.entries? target = some included) (new : target ∉ ex.visited)
      (hinner : Splices d owner { ex with visited := target :: ex.visited } included
        (.error fault)) :
      Splices d owner ex (.include target :: rest) (.error fault)

variable {d : Declaration}

section Steps

variable {owner name target : String} {rule : Rule} {n : Nat} {ex : Expansion}
  {rest included : List Entry}

theorem expandInto_nil : d.expandInto owner (n + 1) ex [] = .ok ex := rfl

theorem expandInto_rule : d.expandInto owner (n + 1) ex (.rule name rule :: rest) =
    d.expandInto owner (n + 1) { ex with rules := ex.rules ++ [(name, rule)] } rest := rfl

theorem expandInto_missing (h : d.entries? target = none) :
    d.expandInto owner (n + 1) ex (.include target :: rest) =
      .error (.missingState owner Fault.includeRule target) := by
  rw [expandInto, List.foldlM_cons]
  simp only [h]
  rfl

theorem expandInto_pass (h : d.entries? target = some included) (hknown : target ∈ ex.visited) :
    d.expandInto owner (n + 1) ex (.include target :: rest) =
      d.expandInto owner (n + 1) ex rest := by
  rw [expandInto, List.foldlM_cons]
  simp only [h, List.contains_iff_mem.mpr hknown, if_true]
  rfl

theorem expandInto_enter (h : d.entries? target = some included) (hnew : target ∉ ex.visited) :
    d.expandInto owner (n + 1) ex (.include target :: rest) =
      d.expandInto owner n { ex with visited := target :: ex.visited } included >>=
        fun ex => d.expandInto owner (n + 1) ex rest := by
  have hcontains : ex.visited.contains target = false := by
    simpa using hnew
  rw [expandInto, List.foldlM_cons]
  simp only [h, hcontains, Bool.false_eq_true, if_false]
  rfl

end Steps

/-- The number of states that are not among those that were met. -/
def unvisited (d : Declaration) (visited : List String) : Nat := d.countP (·.name ∉ visited)

section Unvisited

variable {visited : List String} {target : String}

theorem unvisited_append_le (more : List String) :
    d.unvisited (more ++ visited) ≤ d.unvisited visited := by
  refine List.countP_mono_left ?_
  intro s _ hs
  simp only [decide_eq_true_iff] at hs ⊢
  exact fun hmem => hs (List.mem_append_right more hmem)

/-- There are fewer of them after one has been met. -/
theorem unvisited_cons_lt (hstate : d.HasState target) (hnew : target ∉ visited) :
    d.unvisited (target :: visited) < d.unvisited visited := by
  induction d with
  | nil =>
      obtain ⟨s, hs, -⟩ := hstate
      cases hs
  | cons s rest ih =>
      have hcons (visited : List String) : unvisited (s :: rest) visited =
          unvisited rest visited + if s.name ∉ visited then 1 else 0 := by
        rw [unvisited, List.countP_cons]
        simp only [decide_eq_true_iff]
        rfl
      rw [hcons, hcons]
      by_cases hname : s.name = target
      · have hrest : unvisited rest ([target] ++ visited) ≤ unvisited rest visited :=
          unvisited_append_le [target]
        rw [hname, if_neg (not_not_intro List.mem_cons_self), if_pos hnew]
        exact Nat.lt_succ_of_le hrest
      · obtain ⟨u, hu, rfl⟩ := hstate
        have hu : u ∈ rest := (List.mem_cons.mp hu).resolve_left fun heq => hname (heq ▸ rfl)
        have hlt := ih ⟨u, hu, rfl⟩
        have hsame : s.name ∈ u.name :: visited ↔ s.name ∈ visited := by
          rw [List.mem_cons, or_iff_right hname]
        simp only [hsame]
        omega

/-- A state that is entered is one of those that a bound leaves room for. -/
theorem unvisited_lt_of_entries? {included : List Entry} {n : Nat}
    (h : d.entries? target = some included) (hnew : target ∉ visited)
    (hbound : d.unvisited visited < n + 1) : d.unvisited (target :: visited) < n := by
  obtain ⟨s, hs, hname, -⟩ := exists_of_entries? h
  have hlt := unvisited_cons_lt ⟨s, hs, hname⟩ hnew
  omega

theorem unvisited_lt_length {s : StateDecl} (hs : s ∈ d) : d.unvisited [s.name] < d.length :=
  Nat.lt_of_lt_of_le (unvisited_cons_lt ⟨s, hs, rfl⟩ List.not_mem_nil) List.countP_le_length

end Unvisited

namespace Splices

variable {owner : String} {ex ex' : Expansion} {entries : List Entry}
  {outcome outcome' : Except Fault Expansion}

/-- What is put into a list of rules is what a walk comes to. -/
theorem exists_walk (h : d.Splices owner ex entries outcome) (hok : outcome = .ok ex') :
    ∃ w : Walk, w.entries = entries ∧ w.Fits d ex.visited ∧
      ex' = ⟨w.met.reverse ++ ex.visited, ex.rules ++ w.rules⟩ := by
  induction h generalizing ex' with
  | nil ex =>
      obtain rfl := Except.ok.inj hok
      exact ⟨.done, rfl, .done, by simp [Walk.met, Walk.rules]⟩
  | @rule ex name r _ _ _ ih =>
      obtain ⟨w, rfl, hfits, rfl⟩ := ih hok
      exact ⟨.rule name r w, rfl, .rule hfits, by simp [Walk.met, Walk.rules]⟩
  | missing | fails => cases hok
  | @pass ex target _ _ _ _ known _ ih =>
      obtain ⟨w, rfl, hfits, rfl⟩ := ih hok
      exact ⟨.pass target w, rfl, .pass known hfits, rfl⟩
  | @enter ex middle target _ _ _ reads new _ _ ihinner ihrest =>
      obtain ⟨inner, rfl, hinner, rfl⟩ := ihinner rfl
      obtain ⟨w, rfl, hfits, rfl⟩ := ihrest hok
      refine ⟨.enter target inner w, rfl, .enter new reads hinner hfits, ?_⟩
      simp [Walk.met, Walk.rules]

/-- There is no more than one outcome. -/
theorem unique (h : d.Splices owner ex entries outcome) (h' : d.Splices owner ex entries outcome') :
    outcome' = outcome := by
  induction h generalizing outcome' with
  | nil ex =>
      cases h' with
      | nil => rfl
  | rule _ ih =>
      cases h' with
      | rule hrest => exact ih hrest
  | missing absent =>
      cases h' with
      | missing => rfl
      | pass reads | enter reads | fails reads => cases absent.symm.trans reads
  | pass reads known _ ih =>
      cases h' with
      | missing absent => cases absent.symm.trans reads
      | pass _ _ hrest => exact ih hrest
      | enter _ new | fails _ new => exact absurd known new
  | enter reads new _ _ ihinner ihrest =>
      cases h' with
      | missing absent => cases absent.symm.trans reads
      | pass _ known => exact absurd known new
      | enter reads' _ hinner hrest =>
          obtain rfl := Option.some.inj (reads.symm.trans reads')
          obtain rfl := Except.ok.inj (ihinner hinner)
          exact ihrest hrest
      | fails reads' _ hinner =>
          obtain rfl := Option.some.inj (reads.symm.trans reads')
          cases ihinner hinner
  | fails reads new _ ihinner =>
      cases h' with
      | missing absent => cases absent.symm.trans reads
      | pass _ known => exact absurd known new
      | enter reads' _ hinner =>
          obtain rfl := Option.some.inj (reads.symm.trans reads')
          cases ihinner hinner
      | fails reads' _ hinner =>
          obtain rfl := Option.some.inj (reads.symm.trans reads')
          exact ihinner hinner

/-- At the first include of a state come its entries, and then those that are left if these did not
fail. -/
theorem include_bind {target : String} {included rest : List Entry}
    {next : Expansion → Except Fault Expansion} (reads : d.entries? target = some included)
    (new : target ∉ ex.visited)
    (hinner : d.Splices owner { ex with visited := target :: ex.visited } included outcome)
    (hrest : ∀ middle, outcome = .ok middle → d.Splices owner middle rest (next middle)) :
    d.Splices owner ex (.include target :: rest) (outcome >>= next) := by
  cases outcome with
  | error fault => exact .fails reads new hinner
  | ok middle => exact .enter reads new hinner (hrest middle rfl)

end Splices

/-- To put entries into a list of rules comes to an end by itself, if the bound is great enough. -/
theorem splices_expandInto {owner : String} {n : Nat} {ex : Expansion} {entries : List Entry}
    (hbound : d.unvisited ex.visited < n) :
    d.Splices owner ex entries (d.expandInto owner n ex entries) := by
  -- The outer induction is on the bound, the inner one on the entries of one state.
  induction n generalizing ex entries with
  | zero => cases hbound
  | succ n ih =>
      induction entries generalizing ex with
      | nil =>
          rw [expandInto_nil]
          exact .nil ex
      | cons entry rest ihrest =>
          cases entry with
          | rule name rule =>
              rw [expandInto_rule]
              exact .rule (ihrest hbound)
          | «include» target =>
              cases hreads : d.entries? target with
              | none =>
                  rw [expandInto_missing hreads]
                  exact .missing hreads
              | some included =>
                  by_cases hknown : target ∈ ex.visited
                  · rw [expandInto_pass hreads hknown]
                    exact .pass hreads hknown (ihrest hbound)
                  · have hfewer := unvisited_lt_of_entries? hreads hknown hbound
                    have hinner : d.Splices owner { ex with visited := target :: ex.visited }
                        included (d.expandInto owner n
                          { ex with visited := target :: ex.visited } included) := ih hfewer
                    rw [expandInto_enter hreads hknown]
                    refine .include_bind hreads hknown hinner ?_
                    intro middle hmiddle
                    obtain ⟨inner, -, -, rfl⟩ := hinner.exists_walk hmiddle
                    exact ihrest (Nat.lt_of_le_of_lt (d.unvisited_append_le inner.met.reverse)
                      (Nat.lt_succ_of_lt hfewer))

/-- So the list of rules of a state is the outcome, or there is none and the outcome is a fault. -/
theorem exists_splices {s : StateDecl} (hs : s ∈ d) :
    ∃ outcome, d.Splices s.name { visited := [s.name] } s.entries outcome ∧
      d.expand s = outcome.map (·.rules) := by
  refine ⟨_, splices_expandInto (d.unvisited_lt_length hs), ?_⟩
  rw [expand]
  cases d.expandInto s.name d.length { visited := [s.name] } s.entries <;> rfl

theorem exists_walk_of_expand {s : StateDecl} (hs : s ∈ d) {rules : List NamedRule}
    (h : d.expand s = .ok rules) :
    ∃ w : Walk, w.entries = s.entries ∧ w.Fits d [s.name] ∧ w.rules = rules := by
  obtain ⟨outcome, hsplices, hexpand⟩ := exists_splices hs
  rw [h] at hexpand
  cases outcome with
  | error => cases hexpand
  | ok ex =>
      obtain ⟨w, hentries, hfits, rfl⟩ := hsplices.exists_walk rfl
      exact ⟨w, hentries, hfits, (Except.ok.inj hexpand).symm⟩

namespace Walk.Fits

variable {visited : List String} {w : Walk}

/-- No state is entered that was met before. -/
theorem notMem_visited (h : w.Fits d visited) {x : String} (hx : x ∈ w.met) : x ∉ visited := by
  induction h with
  | done => cases hx
  | rule _ ih | pass _ _ ih => exact ih hx
  | enter new _ _ _ ihinner ihrest =>
      simp only [met, List.mem_cons, List.mem_append] at hx
      rcases hx with rfl | hx | hx
      · exact new
      · exact fun hmem => ihinner hx (List.mem_cons_of_mem _ hmem)
      · exact fun hmem => ihrest hx (List.mem_append_right _ (List.mem_cons_of_mem _ hmem))

/-- A state that is entered is not entered again, neither inside nor afterwards. -/
theorem notMem_met_of_enter {target : String} {inner rest : Walk}
    (h : (Walk.enter target inner rest).Fits d visited) :
    target ∉ inner.met ∧ target ∉ rest.met ∧ ∀ x ∈ rest.met, x ∉ inner.met := by
  cases h with
  | enter _ _ hinner hrest =>
      refine ⟨fun hmem => hinner.notMem_visited hmem List.mem_cons_self, ?_, ?_⟩
      · intro hmem
        exact hrest.notMem_visited hmem (List.mem_append_right _ List.mem_cons_self)
      · intro x hx hmem
        exact hrest.notMem_visited hx (List.mem_append_left _ (List.mem_reverse.mpr hmem))

theorem nodup (h : w.Fits d visited) : w.met.Nodup := by
  induction h with
  | done => exact List.nodup_nil
  | rule _ ih | pass _ _ ih => exact ih
  | enter new reads hinner hrest ihinner ihrest =>
      obtain ⟨hnot, hnot', hapart⟩ := (enter new reads hinner hrest).notMem_met_of_enter
      rw [met, List.nodup_cons, List.mem_append, not_or, List.nodup_append']
      exact ⟨⟨hnot, hnot'⟩, ihinner, ihrest, fun _ hx hx' => hapart _ hx' hx⟩

/-- A state that the entries include has been met in the end. -/
theorem mem_of_include (h : w.Fits d visited) {target : String}
    (htarget : .include target ∈ w.entries) : target ∈ w.met ∨ target ∈ visited := by
  induction h with
  | done => cases htarget
  | rule _ ih => exact ih ((List.mem_cons.mp htarget).resolve_left nofun)
  | pass known _ ih =>
      rcases List.mem_cons.mp htarget with heq | htarget
      · obtain rfl := Entry.include.inj heq
        exact .inr known
      · exact ih htarget
  | enter _ _ _ _ _ ihrest =>
      rcases List.mem_cons.mp htarget with heq | htarget
      · obtain rfl := Entry.include.inj heq
        exact .inl List.mem_cons_self
      · have hmem := ihrest htarget
        simp only [met, List.mem_cons, List.mem_append, List.mem_reverse] at hmem ⊢
        tauto

/-- So has a state that any of the states included which the walk has entered. -/
theorem exists_entries (h : w.Fits d visited) {x : String} (hx : x ∈ w.met) :
    ∃ entries, d.entries? x = some entries ∧
      ∀ target, .include target ∈ entries → target ∈ w.met ∨ target ∈ visited := by
  induction h with
  | done => cases hx
  | rule _ ih | pass _ _ ih => exact ih hx
  | @enter visited name inner rest _ reads hinner _ ihinner ihrest =>
      obtain ⟨entries, hentries, htargets⟩ : ∃ entries, d.entries? x = some entries ∧
          ∀ target, .include target ∈ entries →
            target ∈ rest.met ∨ target ∈ inner.met.reverse ++ name :: visited := by
        simp only [met, List.mem_cons, List.mem_append] at hx
        rcases hx with rfl | hx | hx
        · refine ⟨_, reads, ?_⟩
          intro target htarget
          have hmem := hinner.mem_of_include htarget
          simp only [List.mem_append, List.mem_reverse]
          tauto
        · obtain ⟨entries, hentries, htargets⟩ := ihinner hx
          refine ⟨entries, hentries, ?_⟩
          intro target htarget
          have hmem := htargets target htarget
          simp only [List.mem_append, List.mem_reverse]
          tauto
        · exact ihrest hx
      refine ⟨entries, hentries, ?_⟩
      intro target htarget
      have hmem := htargets target htarget
      simp only [met, List.mem_cons, List.mem_append, List.mem_reverse] at hmem ⊢
      tauto

/-- The states that are entered are included, in one way or another. -/
theorem exists_includes (h : w.Fits d visited) {s u : StateDecl} (hu : d.Includes s u)
    (hentries : w.entries ⊆ u.entries) {x : String} (hx : x ∈ w.met) :
    ∃ v, d.Includes s v ∧ v.name = x := by
  induction h generalizing u with
  | done => cases hx
  | rule _ ih | pass _ _ ih => exact ih hu (List.cons_subset.mp hentries).2 hx
  | enter _ reads _ _ ihinner ihrest =>
      obtain ⟨hentry, hrest⟩ := List.cons_subset.mp hentries
      obtain ⟨v, hv, rfl, hinner⟩ := exists_of_entries? reads
      have hreached : d.Includes s v := .step hu hentry hv
      simp only [met, List.mem_cons, List.mem_append] at hx
      rcases hx with rfl | hx | hx
      · exact ⟨v, hreached, rfl⟩
      · exact ihinner hreached (hinner ▸ List.Subset.refl _) hx
      · exact ihrest hu hrest hx

end Walk.Fits

/-- If names are distinct, then a name stands for the entries of its state. -/
theorem entries?_name (hdistinct : (d.map (·.name)).Nodup) {u : StateDecl} (hu : u ∈ d) :
    d.entries? u.name = some u.entries := by
  cases h : d.entries? u.name with
  | none => exact absurd ⟨u, hu, rfl⟩ (entries?_eq_none_iff.mp h)
  | some entries =>
      obtain ⟨v, hv, hname, rfl⟩ := exists_of_entries? h
      rw [List.inj_on_of_nodup_map hdistinct hv hu hname]

section Root

variable (hdistinct : (d.map (·.name)).Nodup) {s : StateDecl} (hs : s ∈ d) {w : Walk}
  (hentries : w.entries = s.entries) (hw : w.Fits d [s.name])

include hdistinct hs hentries hw

/-- Whatever is included by a state that has been met, has been met too. -/
theorem Walk.mem_of_includes_step {u : StateDecl} (hu : u ∈ d)
    (hmet : u.name = s.name ∨ u.name ∈ w.met) {target : String}
    (htarget : .include target ∈ u.entries) : target = s.name ∨ target ∈ w.met := by
  have hmem : target ∈ w.met ∨ target ∈ [s.name] := by
    rcases hmet with hname | hmet
    · rw [List.inj_on_of_nodup_map hdistinct hu hs hname, ← hentries] at htarget
      exact hw.mem_of_include htarget
    · obtain ⟨entries, hread, htargets⟩ := hw.exists_entries hmet
      obtain rfl := Option.some.inj ((entries?_name hdistinct hu).symm.trans hread)
      exact htargets target htarget
  rw [List.mem_singleton] at hmem
  exact hmem.symm

/-- A walk through a state enters just the states that it includes. -/
theorem Walk.met_iff {x : String} :
    x = s.name ∨ x ∈ w.met ↔ ∃ u, d.Includes s u ∧ u.name = x := by
  constructor
  · rintro (rfl | hx)
    · exact ⟨s, .self, rfl⟩
    · exact hw.exists_includes .self (hentries ▸ List.Subset.refl _) hx
  · rintro ⟨u, hu, rfl⟩
    induction hu with
    | self => exact .inl rfl
    | step reaches entry declared ih =>
        exact mem_of_includes_step hdistinct hs hentries hw (reaches.mem hs) ih entry

/-- All the states that it comes upon are declared. -/
theorem Walk.hasState_of_include {u : StateDecl} (hu : d.Includes s u) {target : String}
    (htarget : .include target ∈ u.entries) : d.HasState target := by
  have hmet := (met_iff hdistinct hs hentries hw).mpr ⟨u, hu, rfl⟩
  have htarget := mem_of_includes_step hdistinct hs hentries hw (hu.mem hs) hmet htarget
  obtain ⟨v, hv, hname⟩ := (met_iff hdistinct hs hentries hw).mp htarget
  exact ⟨v, hv.mem hs, hname⟩

end Root

/-- A state has no list of rules just if some state that it includes has an include of one that is
not declared. -/
theorem expand_eq_error_iff (hdistinct : (d.map (·.name)).Nodup) {s : StateDecl} (hs : s ∈ d) :
    (∃ fault, d.expand s = .error fault) ↔
      ∃ u target, d.Includes s u ∧ .include target ∈ u.entries ∧ ¬ d.HasState target := by
  constructor
  · rintro ⟨fault, hfault⟩
    obtain ⟨u, target, hu, htarget, hmissing, -⟩ := exists_include_of_expand hfault
    exact ⟨u, target, hu, htarget, hmissing⟩
  · rintro ⟨u, target, hu, htarget, hmissing⟩
    cases hexpand : d.expand s with
    | error fault => exact ⟨fault, rfl⟩
    | ok rules =>
        obtain ⟨w, hentries, hw, -⟩ := exists_walk_of_expand hs hexpand
        exact absurd (Walk.hasState_of_include hdistinct hs hentries hw hu htarget) hmissing

end Lexing.Declaration
