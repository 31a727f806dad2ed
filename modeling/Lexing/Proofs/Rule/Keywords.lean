import Lexing.Rule.Mapper
import Mathlib.Data.List.Basic
import Mathlib.Data.List.Induction

/-!
# Keyword mappers

A keyword mapper keeps two lists while its entries are read: the spellings with their kinds, and the
kinds. In the first, what is read later takes precedence, in the second what was read earlier: a
spelling that is listed again has its last kind, and a kind that is listed again keeps its first
place. One invariant tells both lists from the entries that have been read. No kind is ever taken
off the list of kinds, not even if all its spellings have gone to other kinds. So whatever kind the
mapper gives, it lists it.
-/

namespace Lexing.KindMapper

/-- The mapper gives no kinds but those that it lists. -/
def Honest (m : KindMapper) : Prop := ∀ text kind, m.kindOf text = some kind → kind ∈ m.kinds

/-- The last of the entries that have the text among their spellings is one of this kind. -/
def ListedLast (entries : List (String × List String)) (text kind : String) : Prop :=
  ∃ earlier spellings later, entries = earlier ++ (kind, spellings) :: later ∧
    text ∈ spellings ∧ ∀ entry ∈ later, text ∉ entry.2

/-- The place of the first entry of a kind. -/
def firstPlace (entries : List (String × List String)) (kind : String) : Nat :=
  (entries.map (·.1)).idxOf kind

/-- The kinds are those of all entries, in the order in which they first appear. -/
structure InOrderOf (kinds : List String) (entries : List (String × List String)) : Prop where
  mem_iff : ∀ kind, kind ∈ kinds ↔ ∃ spellings, (kind, spellings) ∈ entries
  order : kinds.Pairwise fun kind other => firstPlace entries kind < firstPlace entries other

variable {entries : List (String × List String)} {text kind other : String}
  {spellings kinds : List String}

theorem ListedLast.exists_mem (h : ListedLast entries text kind) :
    ∃ spellings, (kind, spellings) ∈ entries ∧ text ∈ spellings := by
  obtain ⟨earlier, spellings, later, rfl, htext, -⟩ := h
  exact ⟨spellings, List.mem_append_cons_self, htext⟩

/-- Of the entries that have a text, one is the last. -/
theorem exists_listedLast (h : ∃ entry ∈ entries, text ∈ entry.2) :
    ∃ kind, ListedLast entries text kind := by
  induction entries with
  | nil => simp at h
  | cons first rest ih =>
      by_cases hrest : ∃ entry ∈ rest, text ∈ entry.2
      · obtain ⟨kind, earlier, spellings, later, rfl, hlast⟩ := ih hrest
        exact ⟨kind, first :: earlier, spellings, later, rfl, hlast⟩
      · obtain ⟨entry, hentry, htext⟩ := h
        rcases List.mem_cons.mp hentry with rfl | hentry
        · exact ⟨entry.1, [], entry.2, rest, rfl, htext, fun e he hin => hrest ⟨e, he, hin⟩⟩
        · exact absurd ⟨entry, hentry, htext⟩ hrest

/-- An entry that is read after others is the last for its spellings, and for no other text. -/
theorem listedLast_concat_iff :
    ListedLast (entries ++ [(kind, spellings)]) text other ↔
      (text ∈ spellings ∧ kind = other) ∨ (text ∉ spellings ∧ ListedLast entries text other) := by
  constructor
  · rintro ⟨earlier, listed, later, heq, htext, hlater⟩
    -- If nothing comes after the last entry of the text, then it is the new one.
    cases later using List.reverseRecOn with
    | nil =>
        obtain ⟨-, hentry⟩ := List.append_singleton_inj.mp heq
        obtain ⟨rfl, rfl⟩ := Prod.mk.inj hentry
        exact .inl ⟨htext, rfl⟩
    | append_singleton later last =>
        rw [← List.cons_append, ← List.append_assoc] at heq
        obtain ⟨rfl, rfl⟩ := List.append_singleton_inj.mp heq
        rw [List.forall_mem_append, List.forall_mem_singleton] at hlater
        exact .inr ⟨hlater.2, earlier, listed, later, rfl, htext, hlater.1⟩
  · rintro (⟨htext, rfl⟩ | ⟨htext, earlier, listed, later, rfl, hlisted, hlater⟩)
    · exact ⟨entries, spellings, [], rfl, htext, List.forall_mem_nil _⟩
    · refine ⟨earlier, listed, later ++ [(kind, spellings)], by simp, hlisted, ?_⟩
      rw [List.forall_mem_append, List.forall_mem_singleton]
      exact ⟨hlater, htext⟩

theorem firstPlace_lt_length (h : (kind, spellings) ∈ entries) :
    firstPlace entries kind < entries.length := by
  rw [firstPlace, ← List.length_map (·.1), List.idxOf_lt_length_iff]
  exact List.mem_map_of_mem h

/-- What is read later does not move the kinds that have been read. -/
theorem firstPlace_append (h : (kind, spellings) ∈ entries) (more : List (String × List String)) :
    firstPlace (entries ++ more) kind = firstPlace entries kind := by
  have hkind : kind ∈ entries.map (·.1) := List.mem_map_of_mem h
  rw [firstPlace, List.map_append, List.idxOf_append_of_mem hkind, firstPlace]

theorem firstPlace_concat_of_notMem (h : ∀ listed, (kind, listed) ∉ entries) :
    firstPlace (entries ++ [(kind, spellings)]) kind = entries.length := by
  have hkind : kind ∉ entries.map (·.1) := by
    intro hmem
    obtain ⟨entry, hentry, rfl⟩ := List.mem_map.mp hmem
    exact h entry.2 hentry
  rw [firstPlace, List.map_append, List.idxOf_append_of_notMem hkind]
  simp

namespace InOrderOf

theorem nodup (h : InOrderOf kinds entries) : kinds.Nodup :=
  h.order.imp fun hlt heq => absurd (heq ▸ hlt) (Nat.lt_irrefl _)

theorem order_append (h : InOrderOf kinds entries) (more : List (String × List String)) :
    kinds.Pairwise fun kind other =>
      firstPlace (entries ++ more) kind < firstPlace (entries ++ more) other := by
  refine h.order.imp_of_mem ?_
  intro kind other hkind hother hlt
  obtain ⟨_, hkind⟩ := (h.mem_iff kind).mp hkind
  obtain ⟨_, hother⟩ := (h.mem_iff other).mp hother
  rw [firstPlace_append hkind, firstPlace_append hother]
  exact hlt

end InOrderOf

namespace Spellings

theorem lookup_add (s : Spellings) (kind : String) (spellings : List String) (text : String) :
    (s.add kind spellings).table.lookup text =
      if text ∈ spellings then some kind else s.table.lookup text := by
  simp only [add]
  induction spellings generalizing s with
  | nil => rfl
  | cons spelling rest ih =>
      have hrest := ih { s with table := (spelling, kind) :: s.table }
      rw [List.foldl_cons, hrest]
      by_cases heq : text = spelling
      · simp [heq]
      · simp [List.lookup_cons, heq, beq_false_of_ne heq]

theorem mem_kinds_add {s : Spellings} {kind other : String} {spellings : List String} :
    other ∈ (s.add kind spellings).kinds ↔ other ∈ s.kinds ∨ other = kind := by
  rw [add]
  split
  next hlisted =>
    refine ⟨.inl, ?_⟩
    rintro (hother | rfl)
    · exact hother
    · exact List.contains_iff_mem.mp hlisted
  next => rw [List.mem_append, List.mem_singleton]

/-- A new kind comes after all others, and a known one keeps its place. -/
theorem inOrderOf_kinds_add {s : Spellings} (h : InOrderOf s.kinds entries) (kind : String)
    (spellings : List String) :
    InOrderOf (s.add kind spellings).kinds (entries ++ [(kind, spellings)]) where
  mem_iff other := by
    rw [mem_kinds_add, h.mem_iff]
    simp [exists_or]
  order := by
    have hbefore := h.order_append [(kind, spellings)]
    rw [add]
    split
    next => exact hbefore
    next hnew =>
      rw [List.contains_iff_mem, h.mem_iff] at hnew
      refine List.pairwise_append.mpr ⟨hbefore, List.pairwise_singleton _ _, ?_⟩
      intro other hother _ hkind
      obtain rfl := List.mem_singleton.mp hkind
      obtain ⟨_, hother⟩ := (h.mem_iff other).mp hother
      rw [firstPlace_append hother, firstPlace_concat_of_notMem (not_exists.mp hnew)]
      exact firstPlace_lt_length hother

/-- The lists are what they should be when some entries have been read. -/
structure Keeps (s : Spellings) (entries : List (String × List String)) : Prop where
  lookup : ∀ text kind, s.table.lookup text = some kind ↔ ListedLast entries text kind
  kinds : InOrderOf s.kinds entries

theorem keeps_nil : Keeps {} [] where
  lookup text kind := by
    constructor
    · intro h
      exact absurd h (Option.some_ne_none kind).symm
    · intro h
      obtain ⟨_, hmem, -⟩ := h.exists_mem
      exact absurd hmem List.not_mem_nil
  kinds := ⟨by simp, List.Pairwise.nil⟩

/-- An entry that is read is kept with those before it. -/
theorem Keeps.add {s : Spellings} (h : s.Keeps entries) (kind : String)
    (spellings : List String) : (s.add kind spellings).Keeps (entries ++ [(kind, spellings)]) where
  lookup text other := by
    rw [lookup_add, listedLast_concat_iff, ← h.lookup]
    split
    next htext => simp [htext]
    next htext => simp [htext]
  kinds := inOrderOf_kinds_add h.kinds kind spellings

/-- So the lists stay right, however many entries there are still to read. -/
theorem Keeps.foldl {s : Spellings} (h : s.Keeps entries) (more : List (String × List String)) :
    (more.foldl (fun s (kind, spellings) => s.add kind spellings) s).Keeps (entries ++ more) := by
  induction more generalizing s entries with
  | nil => rwa [List.append_nil]
  | cons entry rest ih =>
      rw [List.append_cons]
      exact ih (h.add entry.1 entry.2)

end Spellings

theorem kindOf_keywords_eq_some_iff :
    (keywords entries).kindOf text = some kind ↔ ListedLast entries text kind := by
  rw [keywords, kindOf_addKinds]
  exact (Spellings.keeps_nil.foldl entries).lookup text kind

theorem inOrderOf_kinds_keywords (entries : List (String × List String)) :
    InOrderOf (keywords entries).kinds entries := by
  rw [keywords, kinds_addKinds, List.nil_append]
  exact (Spellings.keeps_nil.foldl entries).kinds

theorem kindOf_keywords_eq_none_iff :
    (keywords entries).kindOf text = none ↔ ∀ entry ∈ entries, text ∉ entry.2 := by
  rw [Option.eq_none_iff_forall_ne_some]
  constructor
  · intro hnone entry hentry htext
    obtain ⟨kind, hlast⟩ := exists_listedLast ⟨entry, hentry, htext⟩
    exact hnone kind (kindOf_keywords_eq_some_iff.mpr hlast)
  · intro hnot kind hkind
    obtain ⟨spellings, hentry, htext⟩ := (kindOf_keywords_eq_some_iff.mp hkind).exists_mem
    exact hnot _ hentry htext

/-- A keyword mapper gives only kinds that it lists. -/
theorem honest_keywords (entries : List (String × List String)) : (keywords entries).Honest := by
  intro text kind hkind
  obtain ⟨spellings, hentry, -⟩ := (kindOf_keywords_eq_some_iff.mp hkind).exists_mem
  exact ((inOrderOf_kinds_keywords entries).mem_iff kind).mpr ⟨spellings, hentry⟩

/-- A keyword mapper gives a text the kind of the last entry that has it among its spellings, and
no kind just if no entry has it. It lists the kinds of all entries, whether they are given to a text
or not, each once and in the order in which they first appear, so it lists every kind that it
gives. -/
theorem keywords_gives_last_lists_first (entries : List (String × List String)) :
    (∀ text kind, (keywords entries).kindOf text = some kind ↔ ListedLast entries text kind) ∧
      (∀ text, (keywords entries).kindOf text = none ↔ ∀ entry ∈ entries, text ∉ entry.2) ∧
      InOrderOf (keywords entries).kinds entries ∧ (keywords entries).kinds.Nodup ∧
      (keywords entries).Honest := by
  have horder := inOrderOf_kinds_keywords entries
  refine ⟨?_, ?_, horder, horder.nodup, honest_keywords entries⟩
  · intro text kind
    exact kindOf_keywords_eq_some_iff
  · intro text
    exact kindOf_keywords_eq_none_iff

/-- All spellings of `open` are listed again under `close`, and `open` once more without any. -/
example :
    let m := keywords [("open", ["if", "end"]), ("spare", []), ("close", ["end", "if"]),
      ("open", [])]
    m.kindOf "if" = some "close" ∧ m.kindOf "fi" = none ∧ m.kinds = ["open", "spare", "close"] := by
  decide

end Lexing.KindMapper
