import Lexing.Proofs.Regex.Language
import Lexing.Regex.Match

/-!
# What an expression matches between two places

An expression spans two places of a text if it matches what lies between them, with its assertions
judged where they stand. A span is described without any order of preference and without the marks
that a search leaves behind.

The search is sound for this description: where it finds something, the expression spans some place
from which the rest of the search was then done. The text of a span belongs to the language of the
expression, so facts about the language hold of everything that is ever found.
-/

namespace Lexing

namespace Point

@[simp] theorem pass?_nil (a : Point) : a.pass? [] = some a := rfl

theorem pass?_append (a : Point) (u v : List Char) :
    a.pass? (u ++ v) = (a.pass? u).bind (·.pass? v) := by
  induction u generalizing a with
  | nil => simp
  | cons c cs ih =>
      simp only [List.cons_append, pass?]
      cases a.ahead with
      | nil => rfl
      | cons d rest =>
          by_cases h : d = c <;> simp [h, ih]

theorem passIf_eq_some_iff {a b : Point} {p : Char → Bool} :
    a.passIf p = some b ↔ ∃ c, p c = true ∧ a.pass? [c] = some b := by
  cases h : a.ahead with
  | nil => simp [passIf, pass?, h]
  | cons d rest =>
      by_cases hp : p d = true <;> simp [passIf, pass?, h, hp]

/-- A text that has been passed came next, and the place has moved on by its length. -/
theorem ahead_of_pass? {a b : Point} {w : List Char} (h : a.pass? w = some b) :
    a.ahead = w ++ b.ahead ∧ b.index = a.index + w.length := by
  induction w generalizing a with
  | nil =>
      obtain rfl : a = b := Option.some.inj h
      simp
  | cons c cs ih =>
      simp only [pass?] at h
      cases hahead : a.ahead with
      | nil => simp [hahead] at h
      | cons d rest =>
          rw [hahead] at h
          by_cases hd : d = c
          · obtain ⟨hrest, hindex⟩ := ih (by simpa [hd] using h)
            simp only at hrest hindex
            refine ⟨by rw [hd, hrest, List.cons_append], ?_⟩
            rw [hindex, List.length_cons]
            omega
          · simp [hd] at h

end Point

namespace Regex

/-- So many rounds lead from one place to another. -/
def rounds (round : Point → Point → Prop) : Nat → Point → Point → Prop
  | 0, a, b => a = b
  | n + 1, a, b => ∃ mid, round a mid ∧ rounds round n mid b

/-- The expression matches what lies between two places. -/
def Spans : Regex → Point → Point → Prop
  | empty, a, b => a = b
  | literal text, a, b => a.pass? text = some b
  | set chars, a, b => a.passIf chars.contains = some b
  | assertion condition, a, b => condition.holds a = true ∧ a = b
  | repetition body min max _, a, b => ∃ n, Allows min max n ∧ rounds body.Spans n a b
  | group _ body, a, b => body.Spans a b
  | seq first rest, a, b => ∃ mid, first.Spans a mid ∧ rest.Spans mid b
  | alt first rest, a, b => first.Spans a b ∨ rest.Spans a b

/-- The bounds of all repetitions are in order. -/
def InOrder : Regex → Prop
  | empty | literal _ | set _ | assertion _ => True
  | repetition body min max _ => (∀ m ∈ max, min ≤ m) ∧ body.InOrder
  | group _ body => body.InOrder
  | seq first rest => first.InOrder ∧ rest.InOrder
  | alt first rest => first.InOrder ∧ rest.InOrder

theorem exists_mem_pow_of_rounds {l : Language Char} {round : Point → Point → Prop}
    (hround : ∀ a b, round a b → ∃ w ∈ l, a.pass? w = some b) {n : Nat} {a b : Point}
    (h : rounds round n a b) : ∃ w ∈ l ^ n, a.pass? w = some b := by
  induction n generalizing a with
  | zero =>
      obtain rfl : a = b := h
      exact ⟨[], rfl, rfl⟩
  | succ n ih =>
      obtain ⟨mid, hfirst, hrest⟩ := h
      obtain ⟨u, hu, hmid⟩ := hround a mid hfirst
      obtain ⟨v, hv, hb⟩ := ih hrest
      refine ⟨u ++ v, ?_, by rw [Point.pass?_append, hmid, Option.bind_some, hb]⟩
      rw [pow_succ']
      exact Language.append_mem_mul hu hv

/-- What an expression spans is one of its texts. -/
theorem exists_mem_language_of_spans {r : Regex} {a b : Point} (h : r.Spans a b) :
    ∃ w ∈ r.language, a.pass? w = some b := by
  induction r generalizing a b with
  | empty =>
      obtain rfl : a = b := h
      exact ⟨[], rfl, rfl⟩
  | literal text => exact ⟨text, rfl, h⟩
  | set chars =>
      obtain ⟨c, hc, hb⟩ := Point.passIf_eq_some_iff.mp h
      exact ⟨[c], ⟨c, hc, rfl⟩, hb⟩
  | assertion condition =>
      obtain rfl : a = b := h.2
      exact ⟨[], rfl, rfl⟩
  | repetition body min max greedy ih =>
      obtain ⟨n, hn, hrounds⟩ := h
      obtain ⟨w, hw, hb⟩ := exists_mem_pow_of_rounds (fun _ _ => ih) hrounds
      exact ⟨w, ⟨n, hn, hw⟩, hb⟩
  | group index body ih => exact ih h
  | seq first rest ihf ihr =>
      obtain ⟨mid, hfirst, hrest⟩ := h
      obtain ⟨u, hu, hmid⟩ := ihf hfirst
      obtain ⟨v, hv, hb⟩ := ihr hrest
      exact ⟨u ++ v, Language.append_mem_mul hu hv,
        by rw [Point.pass?_append, hmid, Option.bind_some, hb]⟩
  | alt first rest ihf ihr =>
      rcases h with h | h
      · obtain ⟨w, hw, hb⟩ := ihf h
        exact ⟨w, .inl hw, hb⟩
      · obtain ⟨w, hw, hb⟩ := ihr h
        exact ⟨w, .inr hw, hb⟩

end Regex

namespace Outcome

variable {stop : Nat} {tried : Tried}

theorem orElse_eq_found_iff {first : Outcome} {second : Tried → Outcome} :
    first.orElse second = found stop ↔
      first = found stop ∨ ∃ tried, first = failed tried ∧ second tried = found stop := by
  cases first <;> simp [orElse]

theorem branch_eq_found {key : Nat} {search : Tried → Outcome}
    (h : branch key tried search = found stop) : search (tried.insert key) = found stop := by
  rw [branch] at h
  split at h
  next => cases h
  next => exact h

theorem choose_eq_found {preferFirst : Bool} {first second : Tried → Outcome}
    (h : choose preferFirst first second tried = found stop) :
    ∃ tried, first tried = found stop ∨ second tried = found stop := by
  rw [choose] at h
  split at h
  next =>
    rcases orElse_eq_found_iff.mp h with h | ⟨tried', -, h⟩
    · exact ⟨tried, .inl h⟩
    · exact ⟨tried', .inr h⟩
  next =>
    rcases orElse_eq_found_iff.mp h with h | ⟨tried', -, h⟩
    · exact ⟨tried, .inr h⟩
    · exact ⟨tried', .inl h⟩

end Outcome

namespace Regex

section Rounds

variable {width size : Nat} {round : Nat → Search → Search} {one : Point → Point → Prop}
variable {next : Search} {stop : Nat} {greedy : Bool}

/-- One round finds only what is reached through `one`. -/
def RoundFinds (round : Nat → Search → Search) (one : Point → Point → Prop) : Prop :=
  ∀ ⦃first next pt tried stop⦄, round first next pt tried = .found stop →
    ∃ pt' tried', one pt pt' ∧ next pt' tried' = .found stop

theorem exactly_found (hround : RoundFinds round one) {n first : Nat} {pt : Point} {tried : Tried}
    (h : exactly size round n first next pt tried = .found stop) :
    ∃ pt' tried', rounds one n pt pt' ∧ next pt' tried' = .found stop := by
  induction n generalizing first pt tried with
  | zero => exact ⟨pt, tried, rfl, h⟩
  | succ n ih =>
      obtain ⟨mid, tried₁, hone, hrest⟩ := hround h
      obtain ⟨pt', tried₂, hrounds, hnext⟩ := ih hrest
      exact ⟨pt', tried₂, ⟨mid, hone, hrounds⟩, hnext⟩

theorem atMost_found (hround : RoundFinds round one) {n first : Nat} {pt : Point} {tried : Tried}
    (h : atMost width size round greedy n first next pt tried = .found stop) :
    ∃ k pt' tried', k ≤ n ∧ rounds one k pt pt' ∧ next pt' tried' = .found stop := by
  induction n generalizing first pt tried with
  | zero => exact ⟨0, pt, tried, Nat.le_refl 0, rfl, h⟩
  | succ n ih =>
      obtain ⟨tried₁, h | h⟩ := Outcome.choose_eq_found (Outcome.branch_eq_found h)
      · obtain ⟨mid, tried₂, hone, hrest⟩ := hround h
        obtain ⟨k, pt', tried₃, hk, hrounds, hnext⟩ := ih hrest
        exact ⟨k + 1, pt', tried₃, Nat.succ_le_succ hk, ⟨mid, hone, hrounds⟩, hnext⟩
      · exact ⟨0, pt, tried₁, Nat.zero_le _, rfl, h⟩

theorem anyNumber_found (hround : RoundFinds round one) {first : Nat} {room : List Char}
    {pt : Point} {tried : Tried}
    (h : anyNumber width round greedy first next room pt tried = .found stop) :
    ∃ k pt' tried', rounds one k pt pt' ∧ next pt' tried' = .found stop := by
  induction room generalizing pt tried with
  | nil => exact ⟨0, pt, _, rfl, Outcome.branch_eq_found h⟩
  | cons c room ih =>
      obtain ⟨tried₁, h | h⟩ := Outcome.choose_eq_found (Outcome.branch_eq_found h)
      · obtain ⟨mid, tried₂, hone, hrest⟩ := hround h
        obtain ⟨k, pt', tried₃, hrounds, hnext⟩ := ih hrest
        exact ⟨k + 1, pt', tried₃, ⟨mid, hone, hrounds⟩, hnext⟩
      · exact ⟨0, pt, tried₁, rfl, h⟩

theorem someNumber_found (hround : RoundFinds round one) {first : Nat} {pt : Point} {tried : Tried}
    (h : someNumber width round greedy first next pt tried = .found stop) :
    ∃ k pt' tried', rounds one (k + 1) pt pt' ∧ next pt' tried' = .found stop := by
  obtain ⟨mid, tried₁, hone, hrest⟩ := hround h
  obtain ⟨k, pt', tried₂, hrounds, hnext⟩ := anyNumber_found hround hrest
  exact ⟨k, pt', tried₂, ⟨mid, hone, hrounds⟩, hnext⟩

theorem rounds_add {m n : Nat} {a b c : Point} (hm : rounds one m a b) (hn : rounds one n b c) :
    rounds one (m + n) a c := by
  induction m generalizing a with
  | zero =>
      obtain rfl : a = b := hm
      rwa [Nat.zero_add]
  | succ m ih =>
      obtain ⟨mid, hone, hrest⟩ := hm
      rw [Nat.succ_add]
      exact ⟨mid, hone, ih hrest⟩

end Rounds

/-- A repetition finds only what an allowed number of rounds leads to. -/
theorem repetition_found {width : Nat} {body : Regex}
    (hbody : RoundFinds (body.search width) body.Spans) {min : Nat} {max : Option Nat}
    (hbounds : ∀ m ∈ max, min ≤ m) (greedy : Bool) :
    RoundFinds ((repetition body min max greedy).search width)
      (repetition body min max greedy).Spans := by
  intro first next pt tried stop h
  simp only [search] at h
  split at h
  next _ m =>
    -- The required rounds come first, then as many more as there are up to the maximum.
    obtain ⟨mid, tried₁, hmin, hrest⟩ := exactly_found hbody h
    obtain ⟨k, pt', tried₂, hk, hmore, hnext⟩ := atMost_found hbody hrest
    refine ⟨pt', tried₂, ⟨min + k, ?_, rounds_add hmin hmore⟩, hnext⟩
    have hle := hbounds m rfl
    rw [allows_some]
    omega
  next n =>
    obtain ⟨mid, tried₁, hmin, hrest⟩ := exactly_found hbody h
    obtain ⟨k, pt', tried₂, hmore, hnext⟩ := someNumber_found hbody hrest
    refine ⟨pt', tried₂, ⟨n + (k + 1), ?_, rounds_add hmin hmore⟩, hnext⟩
    rw [allows_none]
    omega
  next =>
    split at h
    next =>
      obtain ⟨k, pt', tried₁, hrounds, hnext⟩ := anyNumber_found hbody h
      exact ⟨pt', tried₁, ⟨k, allows_none.mpr (Nat.zero_le k), hrounds⟩, hnext⟩
    next =>
      obtain ⟨tried₁, h | h⟩ := Outcome.choose_eq_found (Outcome.branch_eq_found h)
      · obtain ⟨k, pt', tried₂, hrounds, hnext⟩ := someNumber_found hbody h
        exact ⟨pt', tried₂, ⟨k + 1, allows_none.mpr (Nat.zero_le _), hrounds⟩, hnext⟩
      · exact ⟨pt, tried₁, ⟨0, allows_none.mpr (Nat.le_refl 0), rfl⟩, h⟩

/-- A search that finds something has passed through a span of the expression. -/
theorem search_found {width : Nat} {r : Regex} (hr : r.InOrder) {first : Nat} {next : Search}
    {pt : Point} {tried : Tried} {stop : Nat}
    (h : r.search width first next pt tried = .found stop) :
    ∃ pt' tried', r.Spans pt pt' ∧ next pt' tried' = .found stop := by
  induction r generalizing first next pt tried stop with
  | empty => exact ⟨pt, tried, rfl, h⟩
  | literal text =>
      simp only [search] at h
      split at h
      next pt' hpass => exact ⟨pt', tried, hpass, h⟩
      next => cases h
  | set chars =>
      simp only [search] at h
      split at h
      next pt' hpass => exact ⟨pt', tried, hpass, h⟩
      next => cases h
  | assertion condition =>
      simp only [search] at h
      split at h
      next hholds => exact ⟨pt, tried, ⟨hholds, rfl⟩, h⟩
      next => cases h
  | group index body ih => exact ih hr h
  | seq left right ihl ihr =>
      obtain ⟨mid, tried₁, hleft, hrest⟩ := ihl hr.1 h
      obtain ⟨pt', tried₂, hright, hnext⟩ := ihr hr.2 hrest
      exact ⟨pt', tried₂, ⟨mid, hleft, hright⟩, hnext⟩
  | alt left right ihl ihr =>
      obtain ⟨tried₁, h | h⟩ := Outcome.choose_eq_found (Outcome.branch_eq_found h)
      · obtain ⟨pt', tried₂, hspan, hnext⟩ := ihl hr.1 h
        exact ⟨pt', tried₂, .inl hspan, hnext⟩
      · obtain ⟨pt', tried₂, hspan, hnext⟩ := ihr hr.2 h
        exact ⟨pt', tried₂, .inr hspan, hnext⟩
  | repetition body min max greedy ih =>
      exact repetition_found (fun _ _ _ _ _ => ih hr.2) hr.1 greedy h

/-- The length of a match is the length of a span from the place where matching began. -/
theorem spans_of_matchLength? {r : Regex} (hr : r.InOrder) {before : Option Char}
    {ahead : List Char} {n : Nat} (h : r.matchLength? before ahead = some n) :
    ∃ pt, r.Spans ⟨0, before, ahead⟩ pt ∧ pt.index = n := by
  rw [matchLength?] at h
  split at h
  next stop hfound =>
    obtain rfl := Option.some.inj h
    obtain ⟨pt, tried, hspan, hstop⟩ := search_found hr hfound
    exact ⟨pt, hspan, Outcome.found.inj hstop⟩
  next => cases h

/-- What a match takes from the text ahead is there, and it is a text of the expression. -/
theorem take_mem_language {r : Regex} (hr : r.InOrder) {before : Option Char} {ahead : List Char}
    {n : Nat} (h : r.matchLength? before ahead = some n) :
    n ≤ ahead.length ∧ ahead.take n ∈ r.language := by
  obtain ⟨pt, hspan, rfl⟩ := spans_of_matchLength? hr h
  obtain ⟨w, hw, hpass⟩ := exists_mem_language_of_spans hspan
  obtain ⟨hahead, hindex⟩ := Point.ahead_of_pass? hpass
  simp only [Nat.zero_add] at hahead hindex
  rw [hindex, hahead, List.take_left, List.length_append]
  exact ⟨Nat.le_add_right _ _, hw⟩

end Regex

end Lexing
