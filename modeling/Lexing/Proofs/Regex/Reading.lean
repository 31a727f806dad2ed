import Lexing.Proofs.Steps
import Lexing.Regex.Reader
import Mathlib.Data.Option.Basic

/-!
# Reading under another meaning of line starts and ends

Whether lines have starts and ends of their own decides which assertion a caret or a dollar sign
stands for, and nothing else about how an expression is read. Two readers that differ only in this
therefore go through the same text in step, and what they build differs only in assertions.

`Congruence` says of a relation between expressions that it does not see such a difference and is
kept by everything a reader builds. `parseWith_related` gives each such relation between the results
of reading.
-/

namespace Lexing.Regex

namespace Flags

/-- The flags with lines counted in or out. -/
def withLines (f : Flags) (b : Bool) : Flags := { f with multiLine := b }

variable (f : Flags) (b : Bool)

@[simp] theorem skip_withLines : (f.withLines b).skip = f.skip := rfl

@[simp] theorem polarity_withLines : (f.withLines b).polarity = f.polarity := rfl

@[simp] theorem classSet_withLines : (f.withLines b).classSet = f.classSet := rfl

@[simp] theorem char_withLines : (f.withLines b).char = f.char := rfl

@[simp] theorem dot_withLines : (f.withLines b).dot = f.dot := rfl

@[simp] theorem peek?_withLines : (f.withLines b).peek? = f.peek? := rfl

@[simp] theorem shorthand?_withLines : (f.withLines b).shorthand? = f.shorthand? := rfl

@[simp] theorem wordEdge_withLines : (f.withLines b).wordEdge = f.wordEdge := rfl

@[simp] theorem unicode_withLines : (f.withLines b).unicode = f.unicode := rfl

@[simp] theorem swapGreed_withLines : (f.withLines b).swapGreed = f.swapGreed := rfl

@[simp] theorem verbose_withLines : (f.withLines b).verbose = f.verbose := rfl

@[simp] theorem spanFrom_withLines (p : Char → Bool) (comment : Bool) (limit : Nat)
    (cs : List Char) :
    (f.withLines b).spanFrom p comment limit cs = f.spanFrom p comment limit cs := by
  induction cs generalizing comment limit with
  | nil => cases comment <;> simp [spanFrom]
  | cons c cs ih => cases comment <;> cases limit <;> simp [spanFrom, ih]

@[simp] theorem span_withLines : (f.withLines b).span = f.span := by
  funext p cs
  simp [span]

@[simp] theorem skip_nil : f.skip [] = [] := by
  rw [skip]
  split <;> rfl

/-- The letter that turns lines on or off is read like any other. -/
theorem set?_withLines {letter : Char} {on : Bool} {g : Flags} (h : f.set? letter on = some g) :
    ∃ c, (f.withLines b).set? letter on = some (g.withLines c) := by
  unfold set? at h ⊢
  split at h <;> try cases h
  case h_2 => exact ⟨on, rfl⟩
  all_goals exact ⟨b, rfl⟩

end Flags

section Parts

variable (f : Flags) (b : Bool)

@[simp] theorem Escape.read_withLines : Escape.read (f.withLines b) = Escape.read f := by
  have property : Escape.property (f.withLines b) = Escape.property f := rfl
  have readCode : Escape.readCode (f.withLines b) = Escape.readCode f := by
    unfold Escape.readCode
    simp
  have readProperty : Escape.readProperty (f.withLines b) = Escape.readProperty f := by
    unfold Escape.readProperty
    simp [property]
  have readWordEdge : Escape.readWordEdge (f.withLines b) = Escape.readWordEdge f := by
    unfold Escape.readWordEdge
    simp
  unfold Escape.read
  simp [readCode, readProperty, readWordEdge]

@[simp] theorem Bracket.openFrom_withLines :
    Bracket.openFrom (f.withLines b) = Bracket.openFrom f := by
  unfold Bracket.openFrom
  simp

@[simp] theorem Bracket.readItem_withLines :
    Bracket.readItem (f.withLines b) = Bracket.readItem f := by
  have readAtom : Bracket.readAtom (f.withLines b) = Bracket.readAtom f := by
    unfold Bracket.readAtom
    simp
  have atomSet : Bracket.atomSet (f.withLines b) = Bracket.atomSet f := rfl
  unfold Bracket.readItem
  simp only [readAtom, atomSet, Flags.skip_withLines, Flags.peek?_withLines,
    Flags.polarity_withLines]
  rfl

@[simp] theorem Bracket.readFrom_withLines (n : Nat) (outer : List Bracket) (br : Bracket)
    (cs : List Char) :
    Bracket.readFrom (f.withLines b) n outer br cs = Bracket.readFrom f n outer br cs := by
  have operator : Bracket.operator (f.withLines b) = Bracket.operator f := rfl
  have close : Bracket.close (f.withLines b) = Bracket.close f := rfl
  induction n generalizing outer br cs with
  | zero => rfl
  | succ n ih =>
      unfold Bracket.readFrom
      simp only [ih, operator, close, Bracket.openFrom_withLines, Bracket.readItem_withLines,
        Flags.skip_withLines, Flags.classSet_withLines]

@[simp] theorem Bracket.read_withLines : Bracket.read (f.withLines b) = Bracket.read f := by
  unfold Bracket.read
  simp

@[simp] theorem Reader.readBounds_withLines :
    Reader.readBounds (f.withLines b) = Reader.readBounds f := by
  have readCount : Reader.readCount (f.withLines b) = Reader.readCount f := by
    unfold Reader.readCount
    simp
  unfold Reader.readBounds
  simp only [readCount, Flags.skip_withLines]

end Parts

namespace Reader

/-- The ways to read on after an opening parenthesis. -/
inductive Opens (r : Reader) : List Char → Reader → List Char → Prop
  | named {more r' rest} (h : r.enterNamed more = .ok (r', rest)) :
      Opens r ('?' :: 'P' :: '<' :: more) r' rest
  | angled {more r' rest} (h : r.enterNamed more = .ok (r', rest))
      (hequals : ∀ after, more ≠ '=' :: after) (hbang : ∀ after, more ≠ '!' :: after) :
      Opens r ('?' :: '<' :: more) r' rest
  | flagged {more flags seen rest}
      (h : readFlags r.flags [] true more = .ok (flags, seen, ':', rest)) :
      Opens r ('?' :: more) (r.enter flags none) rest
  | switched {more flags seen stop rest}
      (h : readFlags r.flags [] true more = .ok (flags, seen, stop, rest)) (hstop : stop ≠ ':')
      (hseen : seen ≠ []) : Opens r ('?' :: more) { r with flags, level := r.level.pushFlags } rest
  | numbered {rest} (h : ∀ more, rest ≠ '?' :: more) : Opens r rest r.enterNumbered rest

theorem Opens.of_openGroup_eq {r r' : Reader} {cs rest : List Char}
    (h : r.openGroup cs = .ok (r', rest)) : r.Opens (r.flags.skip cs) r' rest := by
  rw [openGroup] at h
  split at h
  case h_1 | h_2 | h_3 | h_4 => cases h
  case h_5 hskip => exact hskip ▸ .named h
  case h_6 hequals hbang hskip => exact hskip ▸ .angled h hequals hbang
  case h_7 hskip =>
    obtain ⟨⟨flags, seen, stop, after⟩, hflags, h⟩ := bind_eq_ok_iff.mp h
    dsimp only at h
    rw [hskip]
    split at h
    next hstop =>
      obtain ⟨rfl, rfl⟩ := Prod.mk.inj (pure_eq_ok_iff.mp h)
      exact .flagged (hstop ▸ hflags)
    next hstop =>
      split at h
      next => cases h
      next hseen =>
        obtain ⟨rfl, rfl⟩ := Prod.mk.inj (pure_eq_ok_iff.mp h)
        exact .switched hflags hstop (by simpa using hseen)
  case h_8 hmark =>
    obtain ⟨rfl, rfl⟩ := Prod.mk.inj (Except.ok.inj h)
    exact .numbered hmark

/-- No letter of a flag is a mark of another kind of group. -/
theorem openGroup_of_readFlags {r : Reader} {cs more : List Char}
    {x : Flags × List Char × Char × List Char} (hskip : r.flags.skip cs = '?' :: more)
    (h : readFlags r.flags [] true more = .ok x) :
    r.openGroup cs = if x.2.2.1 = ':' then .ok (r.enter x.1 none, x.2.2.2)
      else if x.2.1.isEmpty then .error .nothingToRepeat
      else .ok ({ r with flags := x.1, level := r.level.pushFlags }, x.2.2.2) := by
  rw [openGroup]
  split
  case h_7 hskip' =>
    obtain rfl := (List.cons.inj (hskip.symm.trans hskip')).2
    rw [h]
    rfl
  case h_8 hmark => exact (hmark more hskip).elim
  all_goals
    next hskip' =>
      obtain rfl := (List.cons.inj (hskip.symm.trans hskip')).2
      cases h

theorem Opens.openGroup_eq {r r' : Reader} {cs rest : List Char}
    (h : r.Opens (r.flags.skip cs) r' rest) : r.openGroup cs = .ok (r', rest) := by
  generalize hskip : r.flags.skip cs = ahead at h
  cases h with
  | named h =>
      rw [openGroup, hskip]
      exact h
  | angled h hequals hbang =>
      rw [openGroup, hskip]
      split
      case h_3 heq => exact (hequals _ (List.cons.inj (List.cons.inj heq).2).2).elim
      case h_4 heq => exact (hbang _ (List.cons.inj (List.cons.inj heq).2).2).elim
      case h_6 heq =>
        obtain rfl := (List.cons.inj (List.cons.inj heq).2).2
        exact h
      case h_7 hangle heq => exact (hangle _ (List.cons.inj heq).2.symm).elim
      case h_8 hmark => exact (hmark _ rfl).elim
      all_goals
        next heq => cases (List.cons.inj (List.cons.inj heq).2).1
  | flagged h =>
      rw [openGroup_of_readFlags hskip h]
      rfl
  | switched h hstop hseen =>
      rw [openGroup_of_readFlags hskip h, if_neg hstop, if_neg (by simpa using hseen)]
  | numbered h =>
      rw [openGroup, hskip]
      split
      case h_8 => rfl
      all_goals exact absurd rfl (h _)

end Reader

/-- A repetition with bounds is read if there is a part to repeat and the bounds are in order. -/
theorem Reader.repeatCounted_eq_ok_iff {r r' : Reader} {cs rest : List Char} :
    r.repeatCounted cs = .ok (r', rest) ↔
      ∃ min max more, readBounds r.flags cs = .ok (min, max, more) ∧ (∀ m ∈ max, min ≤ m) ∧
        r.repeatLast min max (readLazy (r.flags.skip more)).1 = .ok r' ∧
        rest = (readLazy (r.flags.skip more)).2 := by
  have horder (min : Nat) (max : Option Nat) :
      max.any (· < min) = true ↔ ¬ ∀ m ∈ max, min ≤ m := by
    cases max <;> simp
  constructor
  · intro h
    rw [repeatCounted] at h
    dsimp only at h
    split at h
    next => cases h
    next =>
      obtain ⟨⟨min, max, more⟩, hbounds, h⟩ := bind_eq_ok_iff.mp h
      dsimp only at h
      split at h
      next => cases h
      next hle =>
        obtain ⟨q, hq, h⟩ := bind_eq_ok_iff.mp h
        obtain ⟨rfl, rfl⟩ := Prod.mk.inj (pure_eq_ok_iff.mp h)
        rw [horder, not_not] at hle
        exact ⟨min, max, more, hbounds, hle, hq, rfl⟩
  · rintro ⟨min, max, more, hbounds, hle, hlast, rfl⟩
    have hsome : ¬ r.level.last.isNone = true := by
      intro hnone
      rw [repeatLast, Option.isNone_iff_eq_none.mp hnone] at hlast
      cases hlast
    rw [repeatCounted]
    dsimp only
    rw [if_neg hsome, hbounds, ok_bind]
    dsimp only
    rw [if_neg (by rwa [horder, not_not]), hlast, ok_bind]
    rfl

theorem Reader.run_nil {r : Reader} (n : Nat) : run n r [] = .ok r := by
  cases n <;> simp [run]

theorem Reader.finish_eq_ok_iff {r : Reader} {s : Regex} :
    r.finish = .ok s ↔ r.groups = [] ∧ r.level.nesting.depth ≤ maxDepth ∧ r.level.regex = s := by
  rw [finish]
  split
  next hopen =>
    refine iff_of_false (fun h => nomatch h) ?_
    rintro ⟨hnil, -⟩
    simp [hnil] at hopen
  next hclosed =>
    rw [and_iff_right (by simpa using hclosed), ← Nat.not_lt]
    split
    next hdeep => exact iff_of_false (fun h => nomatch h) fun ⟨hle, _⟩ => hle hdeep
    next hdepth => rw [and_iff_right hdepth, Except.ok.injEq]

/-- A relation between expressions that does not tell assertions apart, and that holds of what a
reader builds if it holds of the parts. -/
structure Congruence (R : Regex → Regex → Prop) : Prop where
  assertion : ∀ a a', R (.assertion a) (.assertion a')
  set : ∀ chars, R (.set chars) (.set chars)
  ofSet : ∀ chars, R (.ofSet chars) (.ofSet chars)
  concat : ∀ {rs ss}, List.Forall₂ R rs ss → R (.concat rs) (.concat ss)
  choice : ∀ {rs ss}, List.Forall₂ R rs ss → R (.choice rs) (.choice ss)
  repeated : ∀ {r s min max greedy}, R r s → (∀ m ∈ max, min ≤ m) →
    R (r.repeated min max greedy) (s.repeated min max greedy)
  group : ∀ {r s index}, R r s → R (.group index r) (.group index s)

/-- What has been read of two groups corresponds part by part. -/
structure LevelRel (R : Regex → Regex → Prop) (l k : Level) : Prop where
  branches : List.Forall₂ R l.branches k.branches
  parts : List.Forall₂ R l.parts k.parts
  last : Option.Rel R l.last k.last
  nesting : k.nesting = l.nesting

/-- Two open groups correspond, up to whether lines count after they are left. -/
structure OpenGroupRel (R : Regex → Regex → Prop) (g h : OpenGroup) : Prop where
  outer : LevelRel R g.outer h.outer
  flags : ∃ b, h.flags = g.flags.withLines b
  index : h.index = g.index

/-- Two readers have read the same text under flags that differ only in whether lines count. -/
structure ReaderRel (R : Regex → Regex → Prop) (r s : Reader) : Prop where
  flags : ∃ b, s.flags = r.flags.withLines b
  level : LevelRel R r.level s.level
  groups : List.Forall₂ (OpenGroupRel R) r.groups s.groups
  numbered : s.numbered = r.numbered
  names : s.names = r.names

section Levels

variable {R : Regex → Regex → Prop} {l k : Level}

theorem LevelRel.empty : LevelRel R {} {} := ⟨.nil, .nil, .none, rfl⟩

theorem LevelRel.settle (h : LevelRel R l k) : LevelRel R l.settle k.settle := by
  refine ⟨h.branches, ?_, .none, congrArg Nesting.settle h.nesting⟩
  have hlast := h.last
  simp only [Level.settle]
  generalize l.last = p at hlast
  generalize k.last = q at hlast
  cases hlast with
  | none => exact h.parts
  | some hpq => exact .cons hpq h.parts

theorem LevelRel.push {p q : Regex} (h : LevelRel R l k) (hpq : R p q) (depth : Nat) :
    LevelRel R (l.push p depth) (k.push q depth) :=
  ⟨h.branches, h.settle.parts, .some hpq, congrArg (Nesting.push · depth) h.nesting⟩

theorem LevelRel.pushFlags (h : LevelRel R l k) : LevelRel R l.pushFlags k.pushFlags :=
  { h.settle with nesting := congrArg Nesting.pushFlags h.nesting }

theorem LevelRel.branch (hR : Congruence R) (h : LevelRel R l k) : R l.branch k.branch :=
  hR.concat (List.forall₂_reverse_iff.mpr h.settle.parts)

theorem LevelRel.nextBranch (hR : Congruence R) (h : LevelRel R l k) :
    LevelRel R l.nextBranch k.nextBranch :=
  ⟨.cons (h.branch hR) h.branches, .nil, .none, congrArg Nesting.nextBranch h.nesting⟩

theorem LevelRel.regex (hR : Congruence R) (h : LevelRel R l k) : R l.regex k.regex :=
  hR.choice (List.forall₂_reverse_iff.mpr (.cons (h.branch hR) h.branches))

end Levels

namespace ReaderRel

open Reader

variable {R : Regex → Regex → Prop} {r s r' : Reader} {cs rest : List Char}

theorem push {p q : Regex} (h : ReaderRel R r s) (hpq : R p q) (depth : Nat := 0) :
    ReaderRel R (r.push p depth) (s.push q depth) :=
  { h with level := h.level.push hpq depth }

theorem enter (h : ReaderRel R r s) {f g : Flags} (hfg : ∃ b, g = f.withLines b)
    (index : Option Nat) : ReaderRel R (r.enter f index) (s.enter g index) where
  flags := hfg
  level := .empty
  groups := .cons ⟨h.level, h.flags, rfl⟩ h.groups
  numbered := h.numbered
  names := h.names

theorem enterNumbered (h : ReaderRel R r s) : ReaderRel R r.enterNumbered s.enterNumbered := by
  unfold Reader.enterNumbered
  rw [h.numbered]
  exact { h.enter h.flags (some (r.numbered + 1)) with numbered := rfl }

theorem leave (hR : Congruence R) (h : ReaderRel R r s) (hr : r.leave = .ok r') :
    ∃ s', s.leave = .ok s' ∧ ReaderRel R r' s' := by
  rw [Reader.leave] at hr ⊢
  have hgroups := h.groups
  split at hr
  next => cases hr
  next g groups hg =>
    rw [hg] at hgroups
    obtain ⟨k, rest, hgk, hrest, hk⟩ := List.forall₂_cons_left_iff.mp hgroups
    obtain rfl := Except.ok.inj hr
    rw [hk, h.level.nesting]
    refine ⟨_, rfl, ⟨hgk.flags, hgk.outer.push ?_ _, hrest, h.numbered, h.names⟩⟩
    rw [hgk.index]
    cases g.index with
    | none => exact h.level.regex hR
    | some i => exact hR.group (h.level.regex hR)

theorem enterNamed (h : ReaderRel R r s) (hr : r.enterNamed cs = .ok (r', rest)) :
    ∃ s', s.enterNamed cs = .ok (s', rest) ∧ ReaderRel R r' s' := by
  rw [Reader.enterNamed] at hr ⊢
  rw [h.names]
  dsimp only at hr ⊢
  split at hr
  next => cases hr
  next =>
    split at hr
    next => cases hr
    next hname =>
      split at hr
      next => cases hr
      next hnew =>
        obtain ⟨rfl, rfl⟩ := Prod.mk.inj (Except.ok.inj hr)
        rw [if_neg hname, if_neg hnew]
        exact ⟨_, rfl, { h.enterNumbered with names := rfl }⟩

theorem readFlags {f g : Flags} {seen seen' : List Char} {on : Bool} {stop : Char} (b : Bool)
    (h : readFlags f seen on cs = .ok (g, seen', stop, rest)) :
    ∃ c, readFlags (f.withLines b) seen on cs = .ok (g.withLines c, seen', stop, rest) := by
  fun_induction Reader.readFlags f seen on cs generalizing b with
  | case1 => cases h
  | case2 => cases h
  | case3 f seen on c cs hstop hdash =>
      obtain ⟨rfl, rfl, rfl, rfl⟩ := by simpa using h
      refine ⟨b, ?_⟩
      simp only [Reader.readFlags]
      rw [if_pos hstop, if_neg hdash]
  | case4 => cases h
  | case5 f seen on cs hstop hseen ih =>
      obtain ⟨c, hc⟩ := ih b h
      refine ⟨c, ?_⟩
      simp only [Reader.readFlags]
      rw [if_neg hstop, if_neg hseen, if_pos trivial, hc]
  | case6 f seen on c cs hstop hseen hdash f' hf' ih =>
      obtain ⟨b', hb'⟩ := f.set?_withLines b hf'
      obtain ⟨c', hc'⟩ := ih b' h
      refine ⟨c', ?_⟩
      simp only [Reader.readFlags]
      rw [if_neg hstop, if_neg hseen, if_neg hdash, hb']
      exact hc'
  | case7 => cases h

theorem openGroup (h : ReaderRel R r s) (hr : r.openGroup cs = .ok (r', rest)) :
    ∃ s', s.openGroup cs = .ok (s', rest) ∧ ReaderRel R r' s' := by
  obtain ⟨b, hb⟩ := h.flags
  suffices ∃ s', s.Opens (r.flags.skip cs) s' rest ∧ ReaderRel R r' s' by
    obtain ⟨s', hs, hrel⟩ := this
    rw [← Flags.skip_withLines r.flags b, ← hb] at hs
    exact ⟨s', hs.openGroup_eq, hrel⟩
  have hopens := Reader.Opens.of_openGroup_eq hr
  generalize r.flags.skip cs = ahead at hopens ⊢
  cases hopens with
  | named hr =>
      obtain ⟨s', hs, hrel⟩ := h.enterNamed hr
      exact ⟨s', .named hs, hrel⟩
  | angled hr hequals hbang =>
      obtain ⟨s', hs, hrel⟩ := h.enterNamed hr
      exact ⟨s', .angled hs hequals hbang, hrel⟩
  | flagged hflags =>
      obtain ⟨c, hc⟩ := readFlags b hflags
      rw [← hb] at hc
      exact ⟨_, .flagged hc, h.enter ⟨c, rfl⟩ none⟩
  | switched hflags hstop hseen =>
      obtain ⟨c, hc⟩ := readFlags b hflags
      rw [← hb] at hc
      exact ⟨_, .switched hc hstop hseen, { h with flags := ⟨c, rfl⟩, level := h.level.pushFlags }⟩
  | numbered hmark => exact ⟨_, .numbered hmark, h.enterNumbered⟩

theorem repeatLast (hR : Congruence R) (h : ReaderRel R r s) {min : Nat} {max : Option Nat}
    {lazily : Bool} (hle : ∀ m ∈ max, min ≤ m) (hr : r.repeatLast min max lazily = .ok r') :
    ∃ s', s.repeatLast min max lazily = .ok s' ∧ ReaderRel R r' s' := by
  obtain ⟨b, hb⟩ := h.flags
  have hlast := h.level.last
  rw [Reader.repeatLast] at hr ⊢
  rw [hb, Flags.swapGreed_withLines]
  generalize r.level.last = p at hlast hr
  generalize s.level.last = q at hlast
  cases hlast with
  | none => cases hr
  | some hpq =>
      obtain rfl := Except.ok.inj hr
      exact ⟨_, rfl, { h with
        flags := ⟨b, rfl⟩
        level := ⟨h.level.branches, h.level.parts, .some (hR.repeated hpq hle),
          congrArg Nesting.repeatLast h.level.nesting⟩ }⟩

theorem repeatMarked (hR : Congruence R) (h : ReaderRel R r s) {min : Nat} {max : Option Nat}
    (hle : ∀ m ∈ max, min ≤ m) (hr : r.repeatMarked min max cs = .ok (r', rest)) :
    ∃ s', s.repeatMarked min max cs = .ok (s', rest) ∧ ReaderRel R r' s' := by
  rw [Reader.repeatMarked] at hr ⊢
  dsimp only at hr ⊢
  obtain ⟨q, hq, hr⟩ := bind_eq_ok_iff.mp hr
  obtain ⟨rfl, rfl⟩ := Prod.mk.inj (pure_eq_ok_iff.mp hr)
  obtain ⟨s', hs', hrel⟩ := h.repeatLast hR hle hq
  exact ⟨s', by rw [hs']; rfl, hrel⟩

theorem repeatCounted (hR : Congruence R) (h : ReaderRel R r s)
    (hr : r.repeatCounted cs = .ok (r', rest)) :
    ∃ s', s.repeatCounted cs = .ok (s', rest) ∧ ReaderRel R r' s' := by
  obtain ⟨b, hb⟩ := h.flags
  obtain ⟨min, max, more, hbounds, hle, hlast, rfl⟩ := repeatCounted_eq_ok_iff.mp hr
  obtain ⟨s', hs', hrel⟩ := h.repeatLast hR hle hlast
  refine ⟨s', repeatCounted_eq_ok_iff.mpr ⟨min, max, more, ?_, hle, ?_, ?_⟩, hrel⟩
  · rw [hb, Reader.readBounds_withLines, hbounds]
  · rw [hb, Flags.skip_withLines, hs']
  · rw [hb, Flags.skip_withLines]

theorem pushEscape (hR : Congruence R) (h : ReaderRel R r s) (e : Escape) :
    ReaderRel R (r.pushEscape e) (s.pushEscape e) := by
  obtain ⟨b, hb⟩ := h.flags
  cases e with
  | char c =>
      simp only [Reader.pushEscape, hb, Flags.char_withLines]
      exact h.push (hR.ofSet _)
  | set chars => exact h.push (hR.ofSet chars)
  | assertion a => exact h.push (hR.assertion a a)

theorem step (hR : Congruence R) (h : ReaderRel R r s) {c : Char}
    (hr : r.step c cs = .ok (r', rest)) :
    ∃ s', s.step c cs = .ok (s', rest) ∧ ReaderRel R r' s' := by
  obtain ⟨b, hb⟩ := h.flags
  unfold Reader.step at hr ⊢
  split at hr
  case h_1 => exact h.openGroup hr
  case h_2 =>
    obtain ⟨q, hq, hr⟩ := bind_eq_ok_iff.mp hr
    obtain ⟨rfl, rfl⟩ := Prod.mk.inj (pure_eq_ok_iff.mp hr)
    obtain ⟨s', hs', hrel⟩ := h.leave hR hq
    exact ⟨s', by rw [hs']; rfl, hrel⟩
  case h_3 =>
    obtain ⟨rfl, rfl⟩ := Prod.mk.inj (Except.ok.inj hr)
    exact ⟨_, rfl, { h with level := h.level.nextBranch hR }⟩
  case h_4 =>
    obtain ⟨⟨c, more⟩, hq, hr⟩ := bind_eq_ok_iff.mp hr
    obtain ⟨rfl, rfl⟩ := Prod.mk.inj (pure_eq_ok_iff.mp hr)
    exact ⟨_, by rw [hb, Bracket.read_withLines, hq]; rfl, h.push (hR.ofSet c.set) c.depth⟩
  case h_5 => exact h.repeatMarked hR (by simp) hr
  case h_6 | h_7 => exact h.repeatMarked hR (by simp) hr
  case h_8 => exact h.repeatCounted hR hr
  case h_9 =>
    obtain ⟨⟨e, more⟩, hq, hr⟩ := bind_eq_ok_iff.mp hr
    obtain ⟨rfl, rfl⟩ := Prod.mk.inj (pure_eq_ok_iff.mp hr)
    exact ⟨_, by rw [hb, Escape.read_withLines, hq]; rfl, h.pushEscape hR e⟩
  case h_10 =>
    obtain ⟨q, hq, hr⟩ := bind_eq_ok_iff.mp hr
    obtain ⟨rfl, rfl⟩ := Prod.mk.inj (pure_eq_ok_iff.mp hr)
    refine ⟨_, by rw [hb, Flags.dot_withLines, hq]; rfl, h.push ?_⟩
    rw [Flags.dot] at hq
    split at hq
    next => exact Except.ok.inj hq ▸ hR.set _
    next => cases hq
  case h_11 | h_12 =>
    obtain ⟨rfl, rfl⟩ := Prod.mk.inj (Except.ok.inj hr)
    exact ⟨_, rfl, h.push (hR.assertion _ _)⟩
  case h_13 =>
    obtain ⟨rfl, rfl⟩ := Prod.mk.inj (Except.ok.inj hr)
    refine ⟨_, rfl, ?_⟩
    rw [hb, Flags.char_withLines]
    exact h.push (hR.ofSet _)

theorem run (hR : Congruence R) (h : ReaderRel R r s) {n : Nat} (hr : run n r cs = .ok r') :
    ∃ s', Reader.run n s cs = .ok s' ∧ ReaderRel R r' s' := by
  have hskip {r s : Reader} (h : ReaderRel R r s) : s.flags.skip = r.flags.skip := by
    obtain ⟨b, hb⟩ := h.flags
    rw [hb, Flags.skip_withLines]
  induction n generalizing r s cs with
  | zero =>
      rw [Reader.run] at hr ⊢
      rw [hskip h]
      split at hr
      next hend =>
        obtain rfl := Except.ok.inj hr
        exact ⟨s, if_pos hend, h⟩
      next => cases hr
  | succ n ih =>
      rw [Reader.run] at hr ⊢
      rw [hskip h]
      split at hr
      next hend =>
        obtain rfl := Except.ok.inj hr
        exact ⟨s, rfl, h⟩
      next c more _ =>
        obtain ⟨⟨q, rest⟩, hq, hr⟩ := bind_eq_ok_iff.mp hr
        obtain ⟨t, ht, hqt⟩ := h.step hR hq
        dsimp only
        rw [ht, ok_bind]
        exact ih hqt hr

theorem finish (hR : Congruence R) (h : ReaderRel R r s) {p : Regex} (hr : r.finish = .ok p) :
    ∃ q, s.finish = .ok q ∧ R p q := by
  obtain ⟨hnil, hdepth, rfl⟩ := finish_eq_ok_iff.mp hr
  have hgroups := h.groups
  rw [hnil, List.forall₂_nil_left_iff] at hgroups
  rw [← h.level.nesting] at hdepth
  exact ⟨_, finish_eq_ok_iff.mpr ⟨hgroups, hdepth, rfl⟩, h.level.regex hR⟩

end ReaderRel

/-- Readers that begin with the same text under such flags. -/
theorem ReaderRel.start (R : Regex → Regex → Prop) (f : Flags) (b : Bool) :
    ReaderRel R { flags := f } { flags := f.withLines b } :=
  ⟨⟨b, rfl⟩, .empty, .nil, rfl, rfl⟩

/-- A text that is an expression is one too when lines are counted in or out, and the two
expressions are related by everything that does not see assertions. -/
theorem parseWith_related {R : Regex → Regex → Prop} (hR : Congruence R) {f : Flags} (b : Bool)
    {source : List Char} {r : Regex} (h : parseWith f source = .ok r) :
    ∃ s, parseWith (f.withLines b) source = .ok s ∧ R r s := by
  obtain ⟨q, hq, hr⟩ := bind_eq_ok_iff.mp h
  obtain ⟨q', hq', hrel⟩ := (ReaderRel.start R f b).run hR hq
  obtain ⟨s, hs, hrs⟩ := hrel.finish hR hr
  refine ⟨s, ?_, hrs⟩
  rw [parseWith]
  rw [hq', ok_bind, hs]

/-- It nests just as deep. -/
theorem depthWith_withLines {f : Flags} (b : Bool) {source : List Char} {r : Regex}
    (h : parseWith f source = .ok r) : depthWith (f.withLines b) source = depthWith f source := by
  have hany : Congruence fun _ _ => True := by constructor <;> intros <;> trivial
  obtain ⟨q, hq, -⟩ := bind_eq_ok_iff.mp h
  obtain ⟨q', hq', hrel⟩ := (ReaderRel.start _ f b).run hany hq
  rw [depthWith, depthWith, hq, hq']
  exact congrArg Nesting.depth hrel.level.nesting

end Lexing.Regex
