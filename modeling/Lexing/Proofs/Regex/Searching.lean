import Lexing.Proofs.Regex.Spans
import Mathlib.Order.FixedPoints

/-!
# Searches miss nothing

A search gives up at a branching point where it has been before. No match is lost by this. If such
a point leads to a match, then it does so through a point that is still being searched and that is
nearer to the match, and in the end no point is being searched.

To say what is nearer, a goal counts the branching points on the way to it. What a search is for is
a goal too: the goal of what is left to do, led up to by the expression.
-/

namespace Lexing

namespace Point

/-- The second place is the first, or it comes later in the text. -/
def Reaches (a b : Point) : Prop := ∃ w, a.pass? w = some b

namespace Reaches

variable {a b c : Point}

theorem refl (a : Point) : a.Reaches a := ⟨[], rfl⟩

theorem trans (hab : a.Reaches b) (hbc : b.Reaches c) : a.Reaches c := by
  obtain ⟨u, hu⟩ := hab
  obtain ⟨v, hv⟩ := hbc
  exact ⟨u ++ v, by rw [pass?_append, hu, Option.bind_some, hv]⟩

/-- A place further on has less text ahead. -/
theorem index_add_length (h : a.Reaches b) :
    a.index ≤ b.index ∧ b.index + b.ahead.length = a.index + a.ahead.length := by
  obtain ⟨w, hw⟩ := h
  obtain ⟨hahead, hindex⟩ := ahead_of_pass? hw
  rw [hahead, hindex, List.length_append]
  omega

/-- Places of one text are told apart by their indexes. -/
theorem eq_of_index (hb : a.Reaches b) (hc : a.Reaches c) (h : b.index = c.index) : b = c := by
  obtain ⟨u, hu⟩ := hb
  obtain ⟨v, hv⟩ := hc
  obtain ⟨hbahead, hbindex⟩ := ahead_of_pass? hu
  obtain ⟨hcahead, hcindex⟩ := ahead_of_pass? hv
  obtain ⟨rfl, -⟩ := List.append_inj (hbahead.symm.trans hcahead) (by omega)
  exact Option.some.inj (hu.symm.trans hv)

end Reaches

end Point

/-- All that is in the first set is in the second. -/
def Marks.Within (m m' : Marks) : Prop := ∀ i, m.contains i = true → m'.contains i = true

namespace Marks.Within

variable {m m' m'' : Marks}

theorem refl (m : Marks) : m.Within m := fun _ h => h

theorem trans (h : m.Within m') (h' : m'.Within m'') : m.Within m'' := fun i hi => h' i (h i hi)

theorem insert (m : Marks) (i : Nat) : m.Within (m.insert i) := by
  intro j hj
  rw [Marks.contains_insert, hj, Bool.true_or]

end Marks.Within

/-- What can be reached from a place on a way through so many branching points. -/
abbrev Goal := Nat → Point → Prop

namespace Goal

def either (goal goal' : Goal) : Goal := fun n pt => goal n pt ∨ goal' n pt

theorem either_comm (goal goal' : Goal) : goal.either goal' = goal'.either goal := by
  funext n pt
  exact propext or_comm

/-- One of two goals comes after a branching point. -/
def branch (lead lead' : Goal →o Goal) : Goal →o Goal where
  toFun goal n pt := ∃ m, n = m + 1 ∧ either (lead goal) (lead' goal) m pt
  monotone' _ _ h _ pt := fun ⟨m, hm, hgoal⟩ =>
    ⟨m, hm, hgoal.imp (lead.monotone h m pt) (lead'.monotone h m pt)⟩

/-- Some text is passed before the goal. -/
def past (pass : Point → Option Point) : Goal →o Goal where
  toFun goal n pt := ∃ pt', pass pt = some pt' ∧ goal n pt'
  monotone' _ _ h n _ := fun ⟨pt', hpass, hgoal⟩ => ⟨pt', hpass, h n pt' hgoal⟩

end Goal

namespace Regex

theorem keyAt_inj {width b b' : Nat} {pt pt' : Point} (hb : b < width) (hb' : b' < width)
    (h : keyAt width b pt = keyAt width b' pt') : b = b' ∧ pt.index = pt'.index := by
  have hpos : 0 < width := Nat.zero_lt_of_lt hb
  have hmod := congrArg (· % width) h
  have hdiv := congrArg (· / width) h
  simp only [keyAt, Nat.mul_comm _ width, Nat.mul_add_mod, Nat.mod_eq_of_lt hb,
    Nat.mod_eq_of_lt hb'] at hmod
  simp only [keyAt, Nat.mul_comm _ width, Nat.mul_add_div hpos, Nat.div_eq_of_lt hb,
    Nat.div_eq_of_lt hb', Nat.add_zero] at hdiv
  exact ⟨hmod, hdiv⟩

section Complete

variable (width : Nat) (start : Point) (node : Nat → Goal)

/-- From what is marked, no goal is reached for a number of which `Q` does not hold. The goal of a
branching point is given by `node`. -/
def Known (tried : Tried) (Q : Nat → Prop) : Prop :=
  ∀ b < width, ∀ pt, start.Reaches pt → tried.contains (keyAt width b pt) = true →
    ∀ n, node b n pt → Q n

/-- If the search fails from a place, then the goal is not reached from there, nor from what it has
marked, other than for numbers that were known before. -/
def Complete (goal : Goal) (s : Search) (pt : Point) (tried : Tried) : Prop :=
  start.Reaches pt → ∀ ⦃Q : Nat → Prop⦄, Monotone Q → Known width start node tried Q →
    ∀ ⦃tried'⦄, s pt tried = .failed tried' →
      tried.Within tried' ∧ Known width start node tried' Q ∧ ∀ n, goal n pt → Q n

/-- The same from all places further on, with more marked. -/
def Onward (goal : Goal) (s : Search) (pt : Point) (tried : Tried) : Prop :=
  ∀ ⦃pt' tried'⦄, pt.Reaches pt' → tried.Within tried' →
    Complete width start node goal s pt' tried'

variable {width start node} {goal goal' : Goal} {s s' : Search} {pt : Point} {tried : Tried}

theorem Known.mono {Q Q' : Nat → Prop} (h : Known width start node tried Q)
    (hQ : ∀ n, Q n → Q' n) : Known width start node tried Q' :=
  fun b hb pt hpt hcontains n hn => hQ n (h b hb pt hpt hcontains n hn)

theorem Known.insert {Q : Nat → Prop} (h : Known width start node tried Q) {b : Nat}
    (hb : b < width) (hpt : start.Reaches pt) (hnew : ∀ n, node b n pt → Q n) :
    Known width start node (tried.insert (keyAt width b pt)) Q := by
  intro b' hb' pt' hpt' hcontains n hn
  rw [Marks.contains_insert, Bool.or_eq_true, decide_eq_true_iff] at hcontains
  rcases hcontains with hold | hkey
  · exact h b' hb' pt' hpt' hold n hn
  · obtain ⟨rfl, hindex⟩ := keyAt_inj hb hb' hkey
    obtain rfl := hpt.eq_of_index hpt' hindex
    exact hnew n hn

theorem Onward.self (h : Onward width start node goal s pt tried) :
    Complete width start node goal s pt tried := h (.refl pt) (.refl tried)

theorem Onward.mono (h : Onward width start node goal s pt tried) {pt' : Point} {tried' : Tried}
    (hpt : pt.Reaches pt') (htried : tried.Within tried') :
    Onward width start node goal s pt' tried' :=
  fun _ _ hpt' htried' => h (hpt.trans hpt') (htried.trans htried')

/-- A search that gives up at once does so with reason if the goal is not reached. -/
theorem complete_of_failed (hs : s pt tried = .failed tried) (hgoal : ∀ n, ¬ goal n pt) :
    Complete width start node goal s pt tried := by
  intro _ Q _ hknown tried' h
  obtain rfl := Outcome.failed.inj (hs.symm.trans h)
  exact ⟨.refl _, hknown, fun n hn => absurd hn (hgoal n)⟩

/-- What can always be traced back to less is traced back to what is known. -/
theorem of_descent {P Q : Nat → Prop} (hQ : Monotone Q) (h : ∀ n, P n → ∃ m < n, Q m ∨ P m) :
    ∀ n, P n → Q n := by
  intro n
  induction n using Nat.strongRecOn with
  | ind n ih =>
      intro hn
      obtain ⟨m, hm, hknown | hless⟩ := h n hn
      · exact hQ hm.le hknown
      · exact hQ hm.le (ih m hm hless)

/-- A search at a branching point misses nothing. It may come back to the point, but then it has
come nearer to the goal. -/
theorem complete_branch {b : Nat} (hb : b < width)
    (hnode : tried.contains (keyAt width b pt) = false →
      ∀ n, node b n pt → ∃ m < n, goal m pt ∨ node b m pt)
    (hs : tried.contains (keyAt width b pt) = false →
      Complete width start node goal s pt (tried.insert (keyAt width b pt))) :
    Complete width start node (node b)
      (fun pt tried => .branch (keyAt width b pt) tried (s pt)) pt tried := by
  intro hpt Q hQ hknown tried' h
  cases hmarked : tried.contains (keyAt width b pt) with
  | true =>
      obtain rfl : tried = tried' := by simpa [Outcome.branch, hmarked] using h
      exact ⟨.refl _, hknown, hknown b hb pt hpt hmarked⟩
  | false =>
      have hsearch : s pt (tried.insert (keyAt width b pt)) = .failed tried' := by
        simpa [Outcome.branch, hmarked] using h
      -- While the point is being searched, a way that comes back to it may be left out.
      let Q' (n : Nat) : Prop := Q n ∨ ∃ m ≤ n, node b m pt
      have hQ' : Monotone Q' := by
        rintro m n hmn (hm | ⟨k, hk, hback⟩)
        · exact .inl (hQ hmn hm)
        · exact .inr ⟨k, hk.trans hmn, hback⟩
      have hknown' : Known width start node (tried.insert (keyAt width b pt)) Q' := by
        have hmore : Known width start node tried Q' := hknown.mono fun _ => Or.inl
        exact hmore.insert hb hpt fun n hn => .inr ⟨n, Nat.le_refl n, hn⟩
      obtain ⟨hwithin, hafter, hgoal⟩ := hs hmarked hpt hQ' hknown' hsearch
      have hpoint : ∀ n, node b n pt → Q n := by
        apply of_descent hQ
        intro n hn
        obtain ⟨m, hm, hgoal' | hback⟩ := hnode hmarked n hn
        · rcases hgoal m hgoal' with hfound | ⟨k, hk, hback⟩
          · exact ⟨m, hm, .inl hfound⟩
          · exact ⟨k, hk.trans_lt hm, .inr hback⟩
        · exact ⟨m, hm, .inr hback⟩
      refine ⟨(Marks.Within.insert _ _).trans hwithin, hafter.mono ?_, hpoint⟩
      rintro n (hfound | ⟨k, hk, hback⟩)
      · exact hfound
      · exact hQ hk (hpoint k hback)

theorem complete_orElse {first second : Search}
    (hfirst : Complete width start node goal first pt tried)
    (hsecond : ∀ tried', tried.Within tried' →
      Complete width start node goal' second pt tried') :
    Complete width start node (goal.either goal')
      (fun pt tried => (first pt tried).orElse (second pt)) pt tried := by
  intro hpt Q hQ hknown tried'' h
  cases houtcome : first pt tried with
  | found stop => simp [houtcome, Outcome.orElse] at h
  | failed tried' =>
      simp only [houtcome, Outcome.orElse] at h
      obtain ⟨hwithin, hknown', hgoal⟩ := hfirst hpt hQ hknown houtcome
      obtain ⟨hwithin', hknown'', hgoal'⟩ := hsecond tried' hwithin hpt hQ hknown' h
      exact ⟨hwithin.trans hwithin', hknown'', fun n hn => hn.elim (hgoal n) (hgoal' n)⟩

/-- Both ways are searched before a choice fails. -/
theorem complete_choose {preferFirst : Bool}
    (h : ∀ tried', tried.Within tried' → Complete width start node goal s pt tried')
    (h' : ∀ tried', tried.Within tried' → Complete width start node goal' s' pt tried') :
    Complete width start node (goal.either goal')
      (fun pt => .choose preferFirst (s pt) (s' pt)) pt tried := by
  cases preferFirst with
  | true => exact complete_orElse (h tried (.refl tried)) h'
  | false =>
      rw [Goal.either_comm]
      exact complete_orElse (h' tried (.refl tried)) h

end Complete

/-- The branching points with `count` numbers from `first` on have these goals of their own. -/
def Assigns (node own : Nat → Goal) (first count : Nat) : Prop :=
  ∀ b, first ≤ b → b < first + count → node b = own b

/-- Some goals for the numbers below `bound`, and others from there on. -/
def upTo (bound : Nat) (own own' : Nat → Goal) (b : Nat) : Goal :=
  if b < bound then own b else own' b

theorem Assigns.split {node own own' : Nat → Goal} {first count count' : Nat}
    (h : Assigns node (upTo (first + count) own own') first (count + count')) :
    Assigns node own first count ∧ Assigns node own' (first + count) count' := by
  constructor
  · intro b hb hb'
    rw [h b hb (by omega), upTo, if_pos hb']
  · intro b hb hb'
    rw [h b (by omega) (by omega), upTo, if_neg (by omega)]

theorem Assigns.cons {node own : Nat → Goal} {goal : Goal} {first count : Nat}
    (h : Assigns node (upTo (first + 1) (fun _ => goal) own) first (1 + count)) :
    node first = goal ∧ Assigns node own (first + 1) count := by
  obtain ⟨hpoint, hrest⟩ := h.split
  exact ⟨hpoint first (Nat.le_refl first) (Nat.lt_succ_self first), hrest⟩

/-- A search with `count` branching points leads up to every goal that is left to reach. The goal
that it has itself is given by `lead`. -/
structure Leads (width : Nat) (start : Point) (count : Nat) (search : Nat → Search → Search)
    (span : Point → Point → Prop) (lead : Goal →o Goal) : Prop where
  /-- A goal that comes after a span is reached. -/
  meets : ∀ ⦃goal n a b⦄, span a b → goal n b → ∃ m, lead goal m a
  /-- What is reached is the goal that was left, and it is no farther then. -/
  after : ∀ ⦃goal n a⦄, lead goal n a → ∃ m ≤ n, ∃ b, a.Reaches b ∧ goal m b
  /-- Some goals of the branching points make the search miss nothing. -/
  complete : ∀ first goal, first + count ≤ width → ∃ own : Nat → Goal, ∀ node : Nat → Goal,
    Assigns node own first count → ∀ ⦃next pt tried⦄,
      Onward width start node goal next pt tried →
        Complete width start node (lead goal) (search first next) pt tried

namespace Leads

variable {width : Nat} {start : Point} {count count' : Nat}
  {search search' : Nat → Search → Search} {span span' : Point → Point → Prop}
  {lead lead' : Goal →o Goal}

theorem skip : Leads width start 0 (fun _ next => next) Eq OrderHom.id where
  meets _ n _ _ h hgoal := ⟨n, h ▸ hgoal⟩
  after _ n a h := ⟨n, Nat.le_refl n, a, .refl a, h⟩
  complete _ _ _ := ⟨fun _ => ⊥, fun _ _ _ _ _ hnext => hnext.self⟩

/-- The search passes some text in the one way there is. -/
theorem pass (pass : Point → Option Point) (hpass : ∀ a b, pass a = some b → a.Reaches b)
    (hsearch : ∀ first next pt tried, search first next pt tried =
      match pass pt with
      | some pt => next pt tried
      | none => .failed tried) :
    Leads width start 0 search (fun a b => pass a = some b) (Goal.past pass) where
  meets _ n _ b hab hgoal := ⟨n, b, hab, hgoal⟩
  after _ n a := fun ⟨b, hab, hgoal⟩ => ⟨n, Nat.le_refl n, b, hpass a b hab, hgoal⟩
  complete first goal _ := by
    refine ⟨fun _ => ⊥, ?_⟩
    intro node _ next pt tried hnext
    cases hpt : pass pt with
    | none =>
        apply complete_of_failed (by rw [hsearch, hpt])
        rintro n ⟨b, hb, -⟩
        rw [hpt] at hb
        cases hb
    | some pt' =>
        intro hstart Q hQ hknown tried' h
        rw [hsearch, hpt] at h
        have hreaches := hpass pt pt' hpt
        obtain ⟨hwithin, hknown', hgoal⟩ :=
          hnext hreaches (.refl tried) (hstart.trans hreaches) hQ hknown h
        refine ⟨hwithin, hknown', ?_⟩
        rintro n ⟨b, hb, hn⟩
        obtain rfl := Option.some.inj (hpt.symm.trans hb)
        exact hgoal n hn

/-- It does no harm to describe less, to number the branching points from later on, or to leave some
numbers out. -/
theorem weaken (h : Leads width start count search span lead)
    (hspan : ∀ a b, span' a b → span a b) (shift : Nat) (hcount : shift + count ≤ count')
    (hsearch : ∀ first next, search' first next = search (first + shift) next) :
    Leads width start count' search' span' lead where
  meets _ _ a b hab := h.meets (hspan a b hab)
  after := h.after
  complete first goal hfirst := by
    obtain ⟨own, hown⟩ := h.complete (first + shift) goal (by omega)
    refine ⟨own, ?_⟩
    intro node hnode next pt tried hnext
    rw [hsearch]
    exact hown node (fun b hb hb' => hnode b (by omega) (by omega)) hnext

theorem seq (h : Leads width start count search span lead)
    (h' : Leads width start count' search' span' lead') :
    Leads width start (count + count')
      (fun first next => search first (search' (first + count) next))
      (fun a b => ∃ mid, span a mid ∧ span' mid b) (lead.comp lead') where
  meets goal n a b := by
    rintro ⟨mid, hfirst, hrest⟩ hgoal
    obtain ⟨k, hk⟩ := h'.meets hrest hgoal
    exact h.meets hfirst hk
  after goal n a ha := by
    obtain ⟨k, hk, mid, hmid, hgoal⟩ := h.after ha
    obtain ⟨m, hm, b, hb, hgoal⟩ := h'.after hgoal
    exact ⟨m, hm.trans hk, b, hmid.trans hb, hgoal⟩
  complete first goal hfirst := by
    obtain ⟨own, hown⟩ := h.complete first (lead' goal) (by omega)
    obtain ⟨own', hown'⟩ := h'.complete (first + count) goal (by omega)
    refine ⟨upTo (first + count) own own', ?_⟩
    intro node hnode next pt tried hnext
    obtain ⟨hfirst, hrest⟩ := hnode.split
    exact hown node hfirst fun pt' tried' hpt htried => hown' node hrest (hnext.mono hpt htried)

/-- Two ways are searched from a branching point. -/
theorem alt (h : Leads width start count search span lead)
    (h' : Leads width start count' search' span' lead') (preferFirst : Bool) :
    Leads width start (1 + count + count')
      (fun first next pt tried => .branch (keyAt width first pt) tried
        (.choose preferFirst (search (first + 1) next pt) (search' (first + 1 + count) next pt)))
      (fun a b => span a b ∨ span' a b) (Goal.branch lead lead') where
  meets goal n a b := by
    rintro (hspan | hspan) hgoal
    · obtain ⟨m, hm⟩ := h.meets hspan hgoal
      exact ⟨m + 1, m, rfl, .inl hm⟩
    · obtain ⟨m, hm⟩ := h'.meets hspan hgoal
      exact ⟨m + 1, m, rfl, .inr hm⟩
  after goal n a := by
    rintro ⟨k, rfl, ha | ha⟩
    · obtain ⟨m, hm, hb⟩ := h.after ha
      exact ⟨m, hm.trans (Nat.le_succ k), hb⟩
    · obtain ⟨m, hm, hb⟩ := h'.after ha
      exact ⟨m, hm.trans (Nat.le_succ k), hb⟩
  complete first goal hfirst := by
    obtain ⟨own, hown⟩ := h.complete (first + 1) goal (by omega)
    obtain ⟨own', hown'⟩ := h'.complete (first + 1 + count) goal (by omega)
    refine ⟨upTo (first + 1) (fun _ => Goal.branch lead lead' goal)
      (upTo (first + 1 + count) own own'), ?_⟩
    intro node hnode next pt tried hnext
    rw [Nat.add_assoc 1] at hnode
    obtain ⟨hpoint, hways⟩ := hnode.cons
    obtain ⟨hleft, hright⟩ := hways.split
    rw [← hpoint]
    have hnext' := hnext.mono (.refl pt) (.insert tried (keyAt width first pt))
    refine complete_branch (by omega) ?_ fun _ => complete_choose
      (fun tried' htried => hown node hleft (hnext'.mono (.refl pt) htried))
      (fun tried' htried => hown' node hright (hnext'.mono (.refl pt) htried))
    intro _ n hn
    rw [hpoint] at hn
    obtain ⟨m, rfl, hm⟩ := hn
    exact ⟨m, Nat.lt_succ_self m, .inl hm⟩

variable {size : Nat} {round : Nat → Search → Search} {one : Point → Point → Prop}

theorem exactly (h : Leads width start size round one lead) (n : Nat) :
    ∃ lead, Leads width start (size * n) (exactly size round n) (rounds one n) lead := by
  induction n with
  | zero => exact ⟨_, skip⟩
  | succ n ih =>
      obtain ⟨lead', h'⟩ := ih
      refine ⟨_, (h.seq h').weaken (fun _ _ => id) 0 ?_ fun _ _ => rfl⟩
      rw [Nat.mul_succ]
      omega

theorem atMost (h : Leads width start count round one lead) (greedy : Bool) (n : Nat) :
    ∃ lead, Leads width start ((count + 1) * n) (atMost width (count + 1) round greedy n)
      (fun a b => ∃ k ≤ n, rounds one k a b) lead := by
  induction n with
  | zero =>
      refine ⟨_, skip.weaken ?_ 0 (Nat.le_refl 0) fun _ _ => rfl⟩
      rintro a b ⟨k, hk, hrounds⟩
      obtain rfl := Nat.le_zero.mp hk
      exact hrounds
  | succ n ih =>
      obtain ⟨lead', h'⟩ := ih
      refine ⟨_, ((h.seq h').alt skip greedy).weaken ?_ 0 ?_ ?_⟩
      · rintro a b ⟨k, hk, hrounds⟩
        cases k with
        | zero => exact .inr hrounds
        | succ k =>
            obtain ⟨mid, hone, hrest⟩ := hrounds
            exact .inl ⟨mid, hone, k, Nat.le_of_succ_le_succ hk, hrest⟩
      · rw [Nat.mul_succ]
        omega
      · intro first next
        rw [Nat.add_zero, Nat.add_assoc first 1, Nat.add_comm 1]
        rfl

/-- The goal of a branching point from which there may be any number of rounds. -/
def loop (lead : Goal →o Goal) : Goal →o Goal where
  toFun goal := OrderHom.lfp (Goal.branch lead (OrderHom.const Goal goal))
  monotone' _ _ h := OrderHom.lfp.monotone fun _ _ pt => fun ⟨m, hm, hloop⟩ =>
    ⟨m, hm, hloop.imp id (h m pt)⟩

theorem loop_iff (lead : Goal →o Goal) (goal : Goal) (n : Nat) (pt : Point) :
    loop lead goal n pt ↔ ∃ m, n = m + 1 ∧ (lead (loop lead goal) m pt ∨ goal m pt) := by
  have hloop : Goal.branch lead (OrderHom.const Goal goal) (loop lead goal) = loop lead goal :=
    OrderHom.map_lfp _
  exact iff_of_eq (congrFun (congrFun hloop n) pt).symm

/-- Where no text is left, rounds only come back to the same place, nearer to the goal. -/
theorem exists_lt_of_loop (h : Leads width start count round one lead) {goal : Goal} {n : Nat}
    {pt : Point} (hpt : pt.ahead = []) (hn : loop lead goal n pt) :
    ∃ m < n, goal m pt ∨ loop lead goal m pt := by
  rw [loop_iff] at hn
  obtain ⟨k, rfl, hround | hgoal⟩ := hn
  · obtain ⟨m, hm, b, hb, hloop⟩ := h.after hround
    have hlengths := hb.index_add_length
    rw [hpt, List.length_nil] at hlengths
    obtain rfl := hb.eq_of_index (.refl pt) (by omega)
    exact ⟨m, Nat.lt_succ_of_le hm, .inr hloop⟩
  · exact ⟨k, Nat.lt_succ_self k, .inl hgoal⟩

/-- A round that comes back to the same place finds it marked, and after any other there is less
text ahead. So there is room for all rounds that matter. -/
theorem complete_anyNumber (h : Leads width start count round one lead) {node : Nat → Goal}
    {goal : Goal} {first : Nat} {greedy : Bool} {next : Search} (hfirst : first < width)
    (hpoint : node first = loop lead goal)
    (hround : ∀ ⦃next pt tried⦄, Onward width start node (loop lead goal) next pt tried →
      Complete width start node (lead (loop lead goal)) (round (first + 1) next) pt tried)
    {room : List Char} {pt : Point} {tried : Tried}
    (hnext : Onward width start node goal next pt tried)
    (hroom : tried.contains (keyAt width first pt) = false → pt.ahead.length ≤ room.length) :
    Complete width start node (node first) (anyNumber width round greedy first next room)
      pt tried := by
  induction room generalizing pt tried with
  | nil =>
      refine complete_branch hfirst ?_ fun _ =>
        hnext (.refl pt) (.insert tried (keyAt width first pt))
      intro hunmarked n hn
      have hend : pt.ahead = [] := List.length_eq_zero_iff.mp (Nat.le_zero.mp (hroom hunmarked))
      rw [hpoint] at hn ⊢
      exact h.exists_lt_of_loop hend hn
  | cons c room ih =>
      refine complete_branch hfirst ?_ fun hunmarked => complete_choose
        (fun tried' htried => hround ?_)
        (fun tried' htried => hnext (.refl pt) ((Marks.Within.insert _ _).trans htried))
      · intro _ n hn
        rw [hpoint, loop_iff] at hn
        obtain ⟨m, rfl, hm⟩ := hn
        exact ⟨m, Nat.lt_succ_self m, .inl hm⟩
      · intro pt' tried'' hpt htried'
        have hmarked := (Marks.Within.insert tried (keyAt width first pt)).trans
          (htried.trans htried')
        rw [← hpoint]
        apply ih (hnext.mono hpt hmarked)
        intro hunmarked'
        have hlengths := hpt.index_add_length
        have hlength := hroom hunmarked
        rw [List.length_cons] at hlength
        by_cases hindex : pt'.index = pt.index
        · obtain rfl := hpt.eq_of_index (.refl pt) hindex
          have hback : tried''.contains (keyAt width first pt') = true := by
            refine (htried.trans htried') _ ?_
            rw [Marks.contains_insert, decide_eq_true rfl, Bool.or_true]
          exact absurd hback (by rw [hunmarked']; exact Bool.false_ne_true)
        · omega

theorem anyNumber (h : Leads width start count round one lead) (greedy : Bool) :
    Leads width start (1 + count)
      (fun first next pt tried => anyNumber width round greedy first next pt.ahead pt tried)
      (fun a b => ∃ n, rounds one n a b) (loop lead) where
  meets goal n a b := by
    rintro ⟨k, hrounds⟩ hgoal
    induction k generalizing a with
    | zero =>
        obtain rfl : a = b := hrounds
        refine ⟨n + 1, ?_⟩
        rw [loop_iff]
        exact ⟨n, rfl, .inr hgoal⟩
    | succ k ih =>
        obtain ⟨mid, hone, hrest⟩ := hrounds
        obtain ⟨m, hm⟩ := ih mid hrest
        obtain ⟨m', hm'⟩ := h.meets hone hm
        refine ⟨m' + 1, ?_⟩
        rw [loop_iff]
        exact ⟨m', rfl, .inl hm'⟩
  after goal n a hn := by
    induction n using Nat.strongRecOn generalizing a with
    | ind n ih =>
        rw [loop_iff] at hn
        obtain ⟨k, rfl, hround | hgoal⟩ := hn
        · obtain ⟨m, hm, mid, hmid, hloop⟩ := h.after hround
          obtain ⟨m', hm', b, hb, hgoal⟩ := ih m (Nat.lt_succ_of_le hm) mid hloop
          exact ⟨m', by omega, b, hmid.trans hb, hgoal⟩
        · exact ⟨k, Nat.le_succ k, a, .refl a, hgoal⟩
  complete first goal hfirst := by
    obtain ⟨own, hown⟩ := h.complete (first + 1) (loop lead goal) (by omega)
    refine ⟨upTo (first + 1) (fun _ => loop lead goal) own, ?_⟩
    intro node hnode next pt tried hnext
    obtain ⟨hpoint, hround⟩ := hnode.cons
    rw [← hpoint]
    exact h.complete_anyNumber (by omega) hpoint (hown node hround) hnext fun _ => Nat.le_refl _

theorem someNumber (h : Leads width start count round one lead) (greedy : Bool) :
    Leads width start (1 + count) (someNumber width round greedy)
      (fun a b => ∃ n, rounds one (n + 1) a b) (lead.comp (loop lead)) where
  meets goal n a b := by
    rintro ⟨k, mid, hone, hrest⟩ hgoal
    obtain ⟨m, hm⟩ := (h.anyNumber greedy).meets ⟨k, hrest⟩ hgoal
    exact h.meets hone hm
  after goal n a hn := by
    obtain ⟨m, hm, mid, hmid, hloop⟩ := h.after hn
    obtain ⟨m', hm', b, hb, hgoal⟩ := (h.anyNumber greedy).after hloop
    exact ⟨m', hm'.trans hm, b, hmid.trans hb, hgoal⟩
  complete first goal hfirst := by
    obtain ⟨own, hown⟩ := h.complete (first + 1) (loop lead goal) (by omega)
    refine ⟨upTo (first + 1) (fun _ => loop lead goal) own, ?_⟩
    intro node hnode next pt tried hnext
    obtain ⟨hpoint, hround⟩ := hnode.cons
    apply hown node hround
    intro pt' tried' hpt htried
    have hlengths := hpt.index_add_length
    show Complete width start node (loop lead goal) _ pt' tried'
    rw [← hpoint]
    exact h.complete_anyNumber (by omega) hpoint (hown node hround) (hnext.mono hpt htried)
      fun _ => by omega

end Leads

section Expressions

variable {width : Nat} {start : Point}

theorem exists_rounds_of_add {one : Point → Point → Prop} {m n : Nat} {a b : Point}
    (h : rounds one (m + n) a b) : ∃ mid, rounds one m a mid ∧ rounds one n mid b := by
  induction m generalizing a with
  | zero => exact ⟨a, rfl, by rwa [Nat.zero_add] at h⟩
  | succ m ih =>
      rw [Nat.succ_add] at h
      obtain ⟨next, hone, hrest⟩ := h
      obtain ⟨mid, hm, hn⟩ := ih hrest
      exact ⟨mid, ⟨next, hone, hm⟩, hn⟩

theorem exists_leads_assertion (condition : Assertion) :
    ∃ lead, Leads width start (assertion condition).branchings ((assertion condition).search width)
      (assertion condition).Spans lead := by
  have hstay : Leads width start 0 ((assertion condition).search width) _ _ :=
    .pass (fun pt => if condition.holds pt then some pt else none) ?_ ?_
  · refine ⟨_, hstay.weaken ?_ 0 (Nat.le_refl 0) fun _ _ => rfl⟩
    rintro a b ⟨hholds, rfl⟩
    exact if_pos hholds
  · intro a b hab
    obtain rfl := Option.some.inj (Option.ite_none_right_eq_some.mp hab).2
    exact .refl a
  · intro first next pt tried
    simp only [search]
    cases condition.holds pt <;> rfl

theorem exists_leads_repetition {body : Regex} {lead : Goal →o Goal}
    (hbody : Leads width start body.branchings (body.search width) body.Spans lead) {min : Nat}
    {max : Option Nat} (hbounds : ∀ m ∈ max, min ≤ m) (greedy : Bool) :
    ∃ lead, Leads width start (repetition body min max greedy).branchings
      ((repetition body min max greedy).search width) (repetition body min max greedy).Spans
      lead := by
  have hround : Leads width start (body.branchings + 1) (body.search width) body.Spans lead :=
    hbody.weaken (fun _ _ => id) 0 (by omega) fun _ _ => rfl
  match max, min with
  | some max, min =>
      -- The required rounds come first, then as many more as there are up to the maximum.
      have hle : min ≤ max := hbounds max rfl
      obtain ⟨leadMin, hmin⟩ := hround.exactly min
      obtain ⟨leadMore, hmore⟩ := hbody.atMost greedy (max - min)
      refine ⟨_, (hmin.seq hmore).weaken ?_ 0 ?_ fun _ _ => rfl⟩
      · rintro a b ⟨n, hn, hrounds⟩
        obtain ⟨hleast, hmost⟩ := allows_some.mp hn
        obtain ⟨k, rfl⟩ := Nat.exists_eq_add_of_le hleast
        obtain ⟨mid, hrequired, hoptional⟩ := exists_rounds_of_add hrounds
        exact ⟨mid, hrequired, k, by omega, hoptional⟩
      · rw [← Nat.mul_add, Nat.add_sub_cancel' hle, branchings, Option.getD_some]
        omega
  | none, n + 1 =>
      obtain ⟨leadMin, hmin⟩ := hround.exactly n
      refine ⟨_, (hmin.seq (hbody.someNumber greedy)).weaken ?_ 0 ?_ fun _ _ => rfl⟩
      · rintro a b ⟨k, hk, hrounds⟩
        obtain ⟨j, rfl⟩ := Nat.exists_eq_add_of_le (allows_none.mp hk)
        rw [Nat.add_assoc, Nat.add_comm 1] at hrounds
        obtain ⟨mid, hrequired, hmore⟩ := exists_rounds_of_add hrounds
        exact ⟨mid, hrequired, j, hmore⟩
      · have hmax : Nat.max (n + 1) 1 = n + 1 := Nat.max_eq_left (Nat.succ_pos n)
        rw [branchings, Option.getD_none, hmax, Nat.mul_succ]
        omega
  | none, 0 =>
      have hsize : branchings (repetition body 0 none greedy) = 1 + (1 + body.branchings) := by
        simp [branchings]
        omega
      by_cases hconsumes : body.minLength.any (0 < ·) = true
      · refine ⟨_, (hbody.anyNumber greedy).weaken ?_ 0 (by omega) ?_⟩
        · rintro a b ⟨k, -, hrounds⟩
          exact ⟨k, hrounds⟩
        · intro first next
          funext pt tried
          simp only [search, hconsumes, if_true]
          rfl
      · refine ⟨_, ((hbody.someNumber greedy).alt .skip greedy).weaken ?_ 0 (by omega) ?_⟩
        · rintro a b ⟨k, -, hrounds⟩
          cases k with
          | zero => exact .inr hrounds
          | succ k => exact .inl ⟨k, hrounds⟩
        · intro first next
          funext pt tried
          simp only [search, hconsumes]
          rfl

theorem exists_leads (width : Nat) (start : Point) {r : Regex} (hr : r.InOrder) :
    ∃ lead, Leads width start r.branchings (r.search width) r.Spans lead := by
  induction r with
  | empty => exact ⟨_, .skip⟩
  | literal text => exact ⟨_, .pass (·.pass? text) (fun _ _ hab => ⟨text, hab⟩) fun _ _ _ _ => rfl⟩
  | set chars =>
      refine ⟨_, .pass (·.passIf chars.contains) ?_ fun _ _ _ _ => rfl⟩
      intro a b hab
      obtain ⟨c, -, hpass⟩ := Point.passIf_eq_some_iff.mp hab
      exact ⟨[c], hpass⟩
  | assertion condition => exact exists_leads_assertion condition
  | group index body ih => exact ih hr
  | seq first rest ihf ihr =>
      obtain ⟨lead, h⟩ := ihf hr.1
      obtain ⟨lead', h'⟩ := ihr hr.2
      exact ⟨_, h.seq h'⟩
  | alt first rest ihf ihr =>
      obtain ⟨lead, h⟩ := ihf hr.1
      obtain ⟨lead', h'⟩ := ihr hr.2
      exact ⟨_, h.alt h' true⟩
  | repetition body min max greedy ih =>
      obtain ⟨lead, hbody⟩ := ih hr.2
      exact exists_leads_repetition hbody hr.1 greedy

/-- A match is found wherever the expression spans anything. -/
theorem exists_matchLength?_iff {r : Regex} (hr : r.InOrder) {before : Option Char}
    {ahead : List Char} :
    (∃ n, r.matchLength? before ahead = some n) ↔ ∃ pt, r.Spans ⟨0, before, ahead⟩ pt := by
  constructor
  · rintro ⟨n, hn⟩
    obtain ⟨pt, hspan, -⟩ := spans_of_matchLength? hr hn
    exact ⟨pt, hspan⟩
  · rintro ⟨pt, hspan⟩
    let start : Point := ⟨0, before, ahead⟩
    obtain ⟨lead, hlead⟩ := exists_leads r.branchings start hr
    obtain ⟨own, hown⟩ := hlead.complete 0 ⊤ (Nat.le_of_eq (Nat.zero_add _))
    have hgoal : (⊤ : Goal) 0 pt := trivial
    obtain ⟨m, hm⟩ := hlead.meets hspan hgoal
    rw [matchLength?]
    split
    next stop _ => exact ⟨stop, rfl⟩
    next tried hfailed =>
      -- Nothing is left to do after the expression, so only the search itself can have failed.
      have hnext : Onward r.branchings start own ⊤ (fun pt _ => .found pt.index) start {} := by
        intro pt' tried' _ _ _ Q _ _ tried'' h
        cases h
      have hknown : Known r.branchings start own {} fun _ => False := by
        intro b _ pt' _ hcontains
        cases (Marks.contains_empty _).symm.trans hcontains
      obtain ⟨-, -, hunreached⟩ :=
        hown own (fun _ _ _ => rfl) hnext (.refl start) monotone_const hknown hfailed
      exact absurd hm (hunreached m)

end Expressions

end Regex

end Lexing
