import Lexing.Proofs.Declaration.Flattening
import Lexing.Proofs.Declaration.Walking

/-!
# The order of included rules

A list of rules has each rule of each state that is included just once. Where it stands can be told
from the tour through the entries of these states: the entries of each state in their order, and
those of another state right after the first include of it that the tour comes to.
-/

namespace Lexing

/-- Where an entry is declared: the name of the state, and the number of the entry. -/
structure Place where
  state : String
  index : Nat
deriving DecidableEq

namespace Declaration

variable (d : Declaration)

def entryAt? (p : Place) : Option Entry := (d.entries? p.state).bind (·[p.index]?)

def declaredAt? (p : Place) : Option NamedRule :=
  match d.entryAt? p with
  | some (.rule name rule) => some (name, rule)
  | _ => none

def targetAt? (p : Place) : Option String :=
  match d.entryAt? p with
  | some (.include target) => some target
  | _ => none

/-- What a tour from state `root` inserts after a place: the block of the state that is included
there, if the tour comes upon that state for the first time. -/
def insertedAt (root : String) (tour : List Place) (block : String → List Place) (p : Place) :
    List Place :=
  match d.targetAt? p with
  | none => []
  | some target =>
    if target ≠ root ∧ tour.find? (d.targetAt? · = some target) = some p then block target else []

/-- A tour through the entries of a state and of those that it includes. Each of these states has a
block in it, and the block of the first state is the whole tour. -/
structure Tours (s : StateDecl) (tour : List Place) (block : String → List Place) : Prop where
  whole : block s.name = tour
  /-- The tour comes to each entry of a state once, in order. -/
  once : ∀ u, d.Includes s u →
    tour.filter (·.state = u.name) = (List.range u.entries.length).map (Place.mk u.name)
  only : ∀ p ∈ tour, ∃ u, d.Includes s u ∧ u.name = p.state
  /-- A block has the entries of its state, with what is inserted after them. -/
  blocks : ∀ u, d.Includes s u → block u.name = (List.range u.entries.length).flatMap fun i =>
    ⟨u.name, i⟩ :: d.insertedAt s.name tour block ⟨u.name, i⟩

variable {d}

theorem targetAt?_of_rule {p : Place} {name : String} {rule : Rule}
    (h : d.entryAt? p = some (.rule name rule)) : d.targetAt? p = none := by
  rw [targetAt?, h]

theorem targetAt?_of_include {p : Place} {target : String}
    (h : d.entryAt? p = some (.include target)) : d.targetAt? p = some target := by
  rw [targetAt?, h]

namespace Walk

/-- The places to which a walk through the entries of a state comes, from entry `i` on. -/
def places (name : String) (i : Nat) : Walk → List Place
  | done => []
  | rule _ _ rest | pass _ rest => ⟨name, i⟩ :: places name (i + 1) rest
  | enter target inner rest =>
    ⟨name, i⟩ :: (places target 0 inner ++ places name (i + 1) rest)

/-- The blocks of the states that the walk enters. -/
def blocks : Walk → List (String × List Place)
  | done => []
  | rule _ _ rest | pass _ rest => rest.blocks
  | enter target inner rest => (target, inner.places target 0) :: (inner.blocks ++ rest.blocks)

theorem map_fst_blocks (w : Walk) : w.blocks.map Prod.fst = w.met := by
  induction w with
  | done => rfl
  | rule _ _ _ ih | pass _ _ ih => exact ih
  | enter _ _ _ ihinner ihrest => simp [blocks, met, ihinner, ihrest]

variable {name x : String} {i : Nat} {w : Walk} {visited : List String}

theorem mem_states_of_mem_places {p : Place} (hp : p ∈ w.places name i) :
    p.state = name ∨ p.state ∈ w.met := by
  induction w generalizing name i with
  | done => cases hp
  | rule _ _ _ ih | pass _ _ ih =>
      rcases List.mem_cons.mp hp with rfl | hp
      · exact .inl rfl
      · exact ih hp
  | enter target inner rest ihinner ihrest =>
      simp only [places, List.mem_cons, List.mem_append] at hp
      rcases hp with rfl | hp | hp
      · exact .inl rfl
      · have := ihinner hp
        simp only [met, List.mem_cons, List.mem_append]
        tauto
      · have := ihrest hp
        simp only [met, List.mem_cons, List.mem_append]
        tauto

/-- A walk does not come to a state that it does not meet. -/
theorem filter_places_of_notMem (hname : x ≠ name) (hmet : x ∉ w.met) :
    (w.places name i).filter (·.state = x) = [] := by
  rw [List.filter_eq_nil_iff]
  intro p hp hx
  obtain rfl := of_decide_eq_true hx
  rcases mem_states_of_mem_places hp with heq | hmem
  · exact hname heq
  · exact hmet hmem

/-- It comes to the entries that it is through, in their order. -/
theorem filter_places_self (hname : name ∉ w.met) :
    (w.places name i).filter (·.state = name) =
      (List.range' i w.entries.length).map (Place.mk name) := by
  induction w generalizing i with
  | done => rfl
  | rule _ _ rest ih | pass _ rest ih =>
      rw [places, List.filter_cons_of_pos (by simp), ih hname]
      rfl
  | enter target inner rest _ ihrest =>
      simp only [met, List.mem_cons, List.mem_append, not_or] at hname
      obtain ⟨hne, hinner, hrest⟩ := hname
      rw [places, List.filter_cons_of_pos (by simp), List.filter_append,
        filter_places_of_notMem hne hinner, ihrest hrest, List.nil_append]
      rfl

/-- And it comes to those of each state that it enters. -/
theorem filter_places_of_mem (h : w.Fits d visited) (hname : name ∈ visited) (hx : x ∈ w.met) :
    ∃ entries, d.entries? x = some entries ∧
      (w.places name i).filter (·.state = x) =
        (List.range entries.length).map (Place.mk x) := by
  have hne : x ≠ name := fun heq => h.notMem_visited hx (heq ▸ hname)
  induction h generalizing name i with
  | done => cases hx
  | rule _ ih | pass _ _ ih =>
      obtain ⟨entries, hentries, hfilter⟩ := ih hname hx hne (i := i + 1)
      refine ⟨entries, hentries, ?_⟩
      rw [places, List.filter_cons_of_neg (by simpa using hne.symm), hfilter]
  | @enter visited target inner rest new reads hinner hrest ihinner ihrest =>
      obtain ⟨hnot, hnot', hapart⟩ := (Fits.enter new reads hinner hrest).notMem_met_of_enter
      rw [places, List.filter_cons_of_neg (by simpa using hne.symm), List.filter_append]
      simp only [met, List.mem_cons, List.mem_append] at hx
      rcases hx with rfl | hx | hx
      · refine ⟨_, reads, ?_⟩
        rw [filter_places_self hnot, filter_places_of_notMem hne hnot', List.append_nil,
          List.range_eq_range']
      · have hne' : x ≠ target := fun heq => hnot (heq ▸ hx)
        obtain ⟨entries, hentries, hfilter⟩ := ihinner List.mem_cons_self hx hne' (i := 0)
        refine ⟨entries, hentries, ?_⟩
        rw [hfilter, filter_places_of_notMem hne (fun hx' => hapart x hx' hx), List.append_nil]
      · have hne' : x ≠ target := fun heq => hnot' (heq ▸ hx)
        obtain ⟨entries, hentries, hfilter⟩ :=
          ihrest (List.mem_append_right _ (List.mem_cons_of_mem _ hname)) hx hne (i := i + 1)
        refine ⟨entries, hentries, ?_⟩
        rw [hfilter, filter_places_of_notMem hne' (hapart x hx), List.nil_append]

theorem nodup_places (h : w.Fits d visited) (hname : name ∈ visited) :
    (w.places name i).Nodup := by
  have hself : name ∉ w.met := fun hmem => h.notMem_visited hmem hname
  have hfilter : ∀ p ∈ w.places name i,
      ((w.places name i).filter (·.state = p.state)).Nodup := by
    have hinjective (x : String) : Function.Injective (Place.mk x) := fun _ _ heq =>
      (Place.mk.inj heq).2
    intro p hp
    rcases mem_states_of_mem_places hp with heq | hmem
    · rw [heq, filter_places_self hself]
      exact List.Nodup.map (hinjective name) List.nodup_range'
    · obtain ⟨entries, -, heq⟩ := filter_places_of_mem h hname hmem (i := i)
      rw [heq]
      exact List.Nodup.map (hinjective p.state) List.nodup_range
  rw [List.nodup_iff_count_le_one]
  intro p
  by_cases hp : p ∈ w.places name i
  · have hcount := List.nodup_iff_count_le_one.mp (hfilter p hp) p
    rwa [List.count_filter (by simp)] at hcount
  · rw [List.count_eq_zero_of_not_mem hp]
    exact Nat.zero_le _

section Reading

variable {entries : List Entry}

theorem entryAt?_of_drop {entry : Entry} {rest : List Entry}
    (hread : d.entries? name = some entries) (hdrop : entries.drop i = entry :: rest) :
    d.entryAt? ⟨name, i⟩ = some entry ∧ entries.drop (i + 1) = rest := by
  constructor
  · have hentry := congrArg (·[0]?) hdrop
    rw [List.getElem?_drop] at hentry
    rw [entryAt?, hread]
    exact hentry
  · rw [← List.tail_drop, hdrop, List.tail_cons]

/-- The rules that a walk comes to are those of its places. -/
theorem filterMap_places (h : w.Fits d visited) (hread : d.entries? name = some entries)
    (hdrop : entries.drop i = w.entries) :
    (w.places name i).filterMap d.declaredAt? = w.rules := by
  induction h generalizing name i entries with
  | done => rfl
  | rule _ ih | pass _ _ ih =>
      obtain ⟨hentry, hrest⟩ := entryAt?_of_drop hread hdrop
      rw [places, List.filterMap_cons, declaredAt?, hentry, ih hread hrest]
      rfl
  | enter _ reads _ _ ihinner ihrest =>
      obtain ⟨hentry, hrest⟩ := entryAt?_of_drop hread hdrop
      rw [places, List.filterMap_cons, declaredAt?, hentry, List.filterMap_append,
        ihinner reads List.drop_zero, ihrest hread hrest]
      rfl

/-- A walk meets the states that are included at its places. -/
theorem mem_met_iff (h : w.Fits d visited) (hread : d.entries? name = some entries)
    (hdrop : entries.drop i = w.entries) :
    x ∈ w.met.reverse ++ visited ↔
      x ∈ visited ∨ ∃ p ∈ w.places name i, d.targetAt? p = some x := by
  induction h generalizing name i entries with
  | done => simp [met, places]
  | rule _ ih =>
      obtain ⟨hentry, hrest⟩ := entryAt?_of_drop hread hdrop
      have htarget := targetAt?_of_rule hentry
      rw [met, ih hread hrest, places, List.exists_mem_cons_iff, htarget]
      simp
  | pass known _ ih =>
      obtain ⟨hentry, hrest⟩ := entryAt?_of_drop hread hdrop
      rw [met, ih hread hrest, places, List.exists_mem_cons_iff, targetAt?_of_include hentry,
        Option.some.injEq]
      constructor
      · tauto
      · rintro (hx | rfl | hx)
        · exact .inl hx
        · exact .inl known
        · exact .inr hx
  | @enter visited target inner rest _ reads _ _ ihinner ihrest =>
      obtain ⟨hentry, hrest⟩ := entryAt?_of_drop hread hdrop
      have hmet : x ∈ (Walk.enter target inner rest).met.reverse ++ visited ↔
          x ∈ rest.met.reverse ++ (inner.met.reverse ++ target :: visited) := by
        simp [met]
      rw [hmet, ihrest hread hrest, ihinner reads List.drop_zero, places,
        List.exists_mem_cons_iff, targetAt?_of_include hentry, Option.some.injEq, List.mem_cons,
        eq_comm]
      simp only [List.mem_append, or_and_right, exists_or]
      rw [or_assoc, or_assoc, or_left_comm]

end Reading

end Walk

section Inserted

variable {root target : String} {p : Place} {passed more : List Place}
  {block : String → List Place}

theorem insertedAt_of_rule {tour : List Place} {name : String} {rule : Rule}
    (h : d.entryAt? p = some (.rule name rule)) : d.insertedAt root tour block p = [] := by
  rw [insertedAt, targetAt?_of_rule h]

/-- The block of a state is inserted at the first include of it. -/
theorem insertedAt_of_first (h : d.entryAt? p = some (.include target)) (hroot : target ≠ root)
    (hfirst : ∀ q ∈ passed, d.targetAt? q ≠ some target) :
    d.insertedAt root (passed ++ p :: more) block p = block target := by
  have htarget := targetAt?_of_include h
  have hnone : passed.find? (d.targetAt? · = some target) = none := by
    rw [List.find?_eq_none]
    intro q hq
    simpa using hfirst q hq
  have hfind : (passed ++ p :: more).find? (d.targetAt? · = some target) = some p := by
    rw [List.find?_append, hnone, Option.none_or,
      List.find?_cons_of_pos (by simpa using htarget)]
  rw [insertedAt, htarget]
  exact if_pos ⟨hroot, hfind⟩

/-- Nothing is inserted at others. -/
theorem insertedAt_of_later (h : d.entryAt? p = some (.include target))
    (hnodup : (passed ++ p :: more).Nodup)
    (hknown : target = root ∨ ∃ q ∈ passed, d.targetAt? q = some target) :
    d.insertedAt root (passed ++ p :: more) block p = [] := by
  rw [insertedAt, targetAt?_of_include h]
  refine if_neg ?_
  rintro ⟨hroot, hfind⟩
  obtain ⟨q, hq, htarget⟩ := hknown.resolve_left hroot
  have hsome : (passed.find? (d.targetAt? · = some target)).isSome = true :=
    List.find?_isSome.mpr ⟨q, hq, decide_eq_true htarget⟩
  obtain ⟨first, hfirst⟩ := Option.isSome_iff_exists.mp hsome
  rw [List.find?_append, hfirst, Option.some_or] at hfind
  obtain rfl := Option.some.inj hfind
  have hapart := (List.nodup_append'.mp hnodup).2.2
  exact hapart (List.mem_of_find?_eq_some hfirst) List.mem_cons_self

end Inserted

/-- The places from one entry of a state on, with the blocks that are inserted after them. -/
def blockFrom (d : Declaration) (root : String) (tour : List Place) (block : String → List Place)
    (name : String) (i count : Nat) : List Place :=
  (List.range' i count).flatMap fun j => ⟨name, j⟩ :: d.insertedAt root tour block ⟨name, j⟩

theorem blockFrom_succ (root : String) (tour : List Place) (block : String → List Place)
    (name : String) (i count : Nat) :
    d.blockFrom root tour block name i (count + 1) =
      ⟨name, i⟩ :: (d.insertedAt root tour block ⟨name, i⟩ ++
        d.blockFrom root tour block name (i + 1) count) := by
  rw [blockFrom, List.range'_succ, List.flatMap_cons]
  rfl

/-- The states that a tour from state `root` knows after it has passed some places. -/
def Knows (d : Declaration) (root : String) (passed : List Place) (visited : List String) : Prop :=
  ∀ x, x ∈ visited ↔ x = root ∨ ∃ p ∈ passed, d.targetAt? p = some x

namespace Knows

variable {root target : String} {p : Place} {passed more : List Place}
  {visited visited' : List String}

theorem append (h : d.Knows root passed visited)
    (hmore : ∀ x, x ∈ visited' ↔ x ∈ visited ∨ ∃ p ∈ more, d.targetAt? p = some x) :
    d.Knows root (passed ++ more) visited' := by
  intro x
  rw [hmore, h]
  simp only [List.mem_append, or_and_right, exists_or]
  rw [or_assoc]

theorem concat (h : d.Knows root passed visited)
    (hmore : ∀ x, x ∈ visited' ↔ x ∈ visited ∨ d.targetAt? p = some x) :
    d.Knows root (passed ++ [p]) visited' :=
  h.append fun x => by simp [hmore]

theorem concat_rule {name : String} {rule : Rule} (h : d.Knows root passed visited)
    (hentry : d.entryAt? p = some (.rule name rule)) : d.Knows root (passed ++ [p]) visited :=
  h.concat fun x => by simp [targetAt?_of_rule hentry]

/-- Nothing is learned from an include of a state that is known. -/
theorem concat_pass (h : d.Knows root passed visited)
    (hentry : d.entryAt? p = some (.include target)) (known : target ∈ visited) :
    d.Knows root (passed ++ [p]) visited := by
  refine h.concat fun x => ?_
  rw [targetAt?_of_include hentry, Option.some.injEq]
  exact ⟨.inl, fun hx => hx.elim id fun heq => heq ▸ known⟩

theorem concat_enter (h : d.Knows root passed visited)
    (hentry : d.entryAt? p = some (.include target)) :
    d.Knows root (passed ++ [p]) (target :: visited) := by
  refine h.concat fun x => ?_
  rw [targetAt?_of_include hentry, Option.some.injEq, List.mem_cons, or_comm, eq_comm]

/-- A state that is not known has not been included at any of the places. -/
theorem ne_of_notMem (h : d.Knows root passed visited) (new : target ∉ visited) :
    target ≠ root ∧ ∀ q ∈ passed, d.targetAt? q ≠ some target := by
  rw [h target, not_or] at new
  exact ⟨new.1, fun q hq heq => new.2 ⟨q, hq, heq⟩⟩

end Knows

/-- The places of a walk within a tour have the blocks of the states that the walk enters. -/
theorem Walk.places_eq {root name : String} {i : Nat} {w : Walk} {visited : List String}
    {entries : List Entry} {tour passed later : List Place} {block : String → List Place}
    (h : w.Fits d visited) (hread : d.entries? name = some entries)
    (hdrop : entries.drop i = w.entries) (htour : passed ++ (w.places name i ++ later) = tour)
    (hnodup : tour.Nodup) (hknows : d.Knows root passed visited)
    (hblock : ∀ x ∈ w.blocks, block x.1 = x.2) :
    w.places name i = d.blockFrom root tour block name i w.entries.length ∧
      ∀ x ∈ w.blocks, ∃ included, d.entries? x.1 = some included ∧
        x.2 = d.blockFrom root tour block x.1 0 included.length := by
  -- Whether an include is the first one depends on the places that were passed.
  induction h generalizing name i entries passed later with
  | done => exact ⟨rfl, List.forall_mem_nil _⟩
  | @rule visited _ _ rest _ ih =>
      obtain ⟨hentry, hrest⟩ := entryAt?_of_drop hread hdrop
      have hpassed : (passed ++ [⟨name, i⟩]) ++ (rest.places name (i + 1) ++ later) = tour := by
        rw [← htour, places, List.append_assoc]
        rfl
      obtain ⟨hplaces, hblocks⟩ := ih hread hrest hpassed (hknows.concat_rule hentry) hblock
      refine ⟨?_, hblocks⟩
      rw [places, Walk.entries, List.length_cons, blockFrom_succ, insertedAt_of_rule hentry,
        hplaces]
      rfl
  | @pass visited target rest known _ ih =>
      obtain ⟨hentry, hrest⟩ := entryAt?_of_drop hread hdrop
      have hpassed : (passed ++ [⟨name, i⟩]) ++ (rest.places name (i + 1) ++ later) = tour := by
        rw [← htour, places, List.append_assoc]
        rfl
      have hknows' := hknows.concat_pass hentry known
      have hinserted : d.insertedAt root tour block ⟨name, i⟩ = [] := by
        rw [List.append_assoc] at hpassed
        rw [← hpassed] at hnodup ⊢
        exact insertedAt_of_later hentry hnodup ((hknows target).mp known)
      obtain ⟨hplaces, hblocks⟩ := ih hread hrest hpassed hknows' hblock
      refine ⟨?_, hblocks⟩
      rw [places, Walk.entries, List.length_cons, blockFrom_succ, hinserted, hplaces]
      rfl
  | @enter visited target inner rest new reads hinner _ ihinner ihrest =>
      obtain ⟨hentry, hrest⟩ := entryAt?_of_drop hread hdrop
      rw [blocks, List.forall_mem_cons, List.forall_mem_append] at hblock ⊢
      obtain ⟨htarget, hinnerBlock, hrestBlock⟩ := hblock
      dsimp only at htarget
      have hpassed : (passed ++ [⟨name, i⟩]) ++
          (inner.places target 0 ++ (rest.places name (i + 1) ++ later)) = tour := by
        rw [← htour, places, List.append_assoc]
        simp
      have hpassed' : (passed ++ [⟨name, i⟩] ++ inner.places target 0) ++
          (rest.places name (i + 1) ++ later) = tour := by
        rw [← hpassed]
        simp
      have hknows' := hknows.concat_enter hentry
      have hknows'' := hknows'.append fun _ => mem_met_iff hinner reads List.drop_zero
      obtain ⟨hroot, hfirst⟩ := hknows.ne_of_notMem new
      have hinserted : d.insertedAt root tour block ⟨name, i⟩ = inner.places target 0 := by
        rw [← htarget, ← hpassed, List.append_assoc]
        exact insertedAt_of_first hentry hroot hfirst
      obtain ⟨hinnerPlaces, hinnerBlocks⟩ :=
        ihinner reads List.drop_zero hpassed hknows' hinnerBlock
      obtain ⟨hrestPlaces, hrestBlocks⟩ := ihrest hread hrest hpassed' hknows'' hrestBlock
      refine ⟨?_, ⟨_, reads, hinnerPlaces⟩, hinnerBlocks, hrestBlocks⟩
      rw [places, Walk.entries, List.length_cons, blockFrom_succ, hinserted, hrestPlaces]

/-- An element of a list of pairs is found by its key, if there are no two of that key. -/
theorem lookup_eq_of_mem {α β : Type} [BEq α] [LawfulBEq α] {pairs : List (α × β)}
    (hnodup : (pairs.map Prod.fst).Nodup) {x : α × β} (hx : x ∈ pairs) :
    pairs.lookup x.1 = some x.2 := by
  obtain ⟨before, after, rfl⟩ := List.append_of_mem hx
  rw [List.lookup_eq_some_iff]
  refine ⟨before, after, rfl, ?_⟩
  intro y hy
  rw [List.map_append, List.map_cons, List.nodup_append'] at hnodup
  have hne : x.1 ≠ y.1 := fun heq =>
    hnodup.2.2 (List.mem_map_of_mem hy) (heq ▸ List.mem_cons_self)
  simpa using hne

/-- The block of a state in a walk that begins in state `s`. -/
def Walk.blockOf (w : Walk) (s : StateDecl) (x : String) : List Place :=
  (((s.name, w.places s.name 0) :: w.blocks).lookup x).getD []

/-- The list of rules of a state is that of a tour. -/
theorem exists_tours (hdistinct : (d.map (·.name)).Nodup) {s : StateDecl} (hs : s ∈ d)
    {rules : List NamedRule} (h : d.expand s = .ok rules) :
    ∃ tour block, d.Tours s tour block ∧ tour.filterMap d.declaredAt? = rules := by
  obtain ⟨w, hentries, hw, rfl⟩ := exists_walk_of_expand hs h
  have hread : d.entries? s.name = some s.entries := entries?_name hdistinct hs
  have hdrop : s.entries.drop 0 = w.entries := List.drop_zero.trans hentries.symm
  have hself : s.name ∉ w.met := fun hmem => hw.notMem_visited hmem List.mem_cons_self
  have hmet {x : String} : x = s.name ∨ x ∈ w.met ↔ ∃ u, d.Includes s u ∧ u.name = x :=
    Walk.met_iff hdistinct hs hentries hw
  have hlookup : ∀ x ∈ (s.name, w.places s.name 0) :: w.blocks, w.blockOf s x.1 = x.2 := by
    intro x hx
    have hkeys : (((s.name, w.places s.name 0) :: w.blocks).map Prod.fst).Nodup := by
      rw [List.map_cons, w.map_fst_blocks]
      exact List.nodup_cons.mpr ⟨hself, hw.nodup⟩
    rw [Walk.blockOf, lookup_eq_of_mem hkeys hx, Option.getD_some]
  rw [List.forall_mem_cons] at hlookup
  have hknows : d.Knows s.name [] [s.name] := fun x => by simp
  obtain ⟨hplaces, hblocks⟩ := Walk.places_eq hw hread hdrop
    (by rw [List.append_nil, List.nil_append]) (Walk.nodup_places hw List.mem_cons_self) hknows
    hlookup.2
  refine ⟨w.places s.name 0, w.blockOf s, ⟨hlookup.1, ?_, ?_, ?_⟩,
    Walk.filterMap_places hw hread hdrop⟩
  · intro u hu
    have hreadu := entries?_name hdistinct (hu.mem hs)
    rcases hmet.mpr ⟨u, hu, rfl⟩ with hname | hmem
    · rw [hname, hread] at hreadu
      rw [hname, Walk.filter_places_self hself, hentries, Option.some.inj hreadu,
        List.range_eq_range']
    · obtain ⟨entries, hreadu', hfilter⟩ :=
        Walk.filter_places_of_mem hw List.mem_cons_self hmem (i := 0)
      rw [hfilter, Option.some.inj (hreadu.symm.trans hreadu')]
  · intro p hp
    exact hmet.mp (Walk.mem_states_of_mem_places hp)
  · intro u hu
    have hreadu := entries?_name hdistinct (hu.mem hs)
    rw [List.range_eq_range']
    rcases hmet.mpr ⟨u, hu, rfl⟩ with hname | hmem
    · rw [hname, hread] at hreadu
      rw [hentries, Option.some.inj hreadu] at hplaces
      rw [hname, hlookup.1]
      exact hplaces
    · rw [← w.map_fst_blocks] at hmem
      obtain ⟨⟨x, b⟩, hmem, rfl⟩ := List.mem_map.mp hmem
      obtain ⟨included, hreadu', hb⟩ := hblocks _ hmem
      rw [hlookup.2 _ hmem, Option.some.inj (hreadu.symm.trans hreadu')]
      exact hb

/-- To put together the list of rules of a state comes to an end, with one outcome, even if includes
form cycles. It fails just if some state that is included has an include of a state that is not
declared. Otherwise the list has each rule that is declared in one of these states once and no other
rules, in the order of a tour: those of each state in their order, and those that an include brings
in right between the entries before and after it, at the first place where the tour comes upon the
state. If all states have such lists, then each of them may be given its list in place of its
entries, and the machine is the same. -/
theorem expand_tours (hdistinct : (d.map (·.name)).Nodup) {s : StateDecl} (hs : s ∈ d) :
    (∃ outcome, (∀ outcome', d.Splices s.name { visited := [s.name] } s.entries outcome' ↔
      outcome' = outcome) ∧ d.expand s = outcome.map (·.rules)) ∧
    ((∃ fault, d.expand s = .error fault) ↔
      ∃ u target, d.Includes s u ∧ .include target ∈ u.entries ∧ ¬ d.HasState target) ∧
    (∀ fault, d.expand s = .error fault → ∃ target, ¬ d.HasState target ∧
      fault = .missingState s.name Fault.includeRule target) ∧
    (∀ rules, d.expand s = .ok rules →
      ∃ tour block, d.Tours s tour block ∧ tour.filterMap d.declaredAt? = rules) ∧
    ((∀ u ∈ d, ∃ rules, d.expand u = .ok rules) → ∀ host start stateful config,
      d.flatten.compile host start stateful config = d.compile host start stateful config) := by
  refine ⟨?_, expand_eq_error_iff hdistinct hs, ?_, ?_, compile_flatten⟩
  · obtain ⟨outcome, hsplices, hexpand⟩ := exists_splices hs
    exact ⟨outcome, fun _ => ⟨hsplices.unique, fun heq => heq ▸ hsplices⟩, hexpand⟩
  · intro fault hfault
    obtain ⟨-, target, -, -, hmissing, heq⟩ := exists_include_of_expand hfault
    exact ⟨target, hmissing, heq⟩
  · intro rules hrules
    exact exists_tours hdistinct hs hrules

/-- States that include each other, and one that is included twice. -/
def roundSample : Declaration :=
  [⟨"code", [
      .rule "open" { pattern := .literals ["("] },
      .include "text",
      .include "blank",
      .include "code",
      .rule "close" { pattern := .literals [")"] }]⟩,
    ⟨"text", [.include "blank", .rule "word" { pattern := .regex "[a-z]+" }]⟩,
    ⟨"blank", [.rule "space" { pattern := .literals [" "] }, .include "code"]⟩]

theorem expand_tours_roundSample :
    ∃ s rules tour block, roundSample[0]? = some s ∧ roundSample.expand s = .ok rules ∧
      rules.map (·.1) = ["open", "space", "word", "close"] ∧ roundSample.Tours s tour block ∧
      tour.filterMap roundSample.declaredAt? = rules ∧
      roundSample.flatten.compile .standard none true {} =
        roundSample.compile .standard none true {} := by
  obtain ⟨s, rules, hs, hrules, hnames⟩ : ∃ s rules, roundSample[0]? = some s ∧
      roundSample.expand s = .ok rules ∧
      rules.map (·.1) = ["open", "space", "word", "close"] := ⟨_, _, rfl, rfl, rfl⟩
  obtain ⟨-, -, -, htours, hflatten⟩ :=
    expand_tours (d := roundSample) (by decide) (List.mem_of_getElem? hs)
  obtain ⟨tour, block, htour, hplaces⟩ := htours rules hrules
  refine ⟨s, rules, tour, block, hs, hrules, hnames, htour, hplaces,
    hflatten ?_ .standard none true {}⟩
  simp only [roundSample, List.forall_mem_cons, List.not_mem_nil, false_implies, implies_true,
    and_true]
  exact ⟨⟨_, rfl⟩, ⟨_, rfl⟩, ⟨_, rfl⟩⟩

end Declaration

end Lexing
