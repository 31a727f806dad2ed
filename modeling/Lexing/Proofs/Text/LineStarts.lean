import Lexing.Proofs.Text.Lines
import Mathlib.Order.Monotone.Defs

/-!
# Line maps and line breaks

The places in a line map are in order, so a number can be searched for in them by halving. Such a
search ends either at the number or at the place where it would have to be put, and in both cases
this gives the last line that starts no later. The line of a byte is the number of line breaks among
the bytes before it, also if the byte is in the middle of a character or past the end of the text.
-/

namespace Lexing.Text

def bytes (text : List Char) : List UInt8 := text.flatMap String.utf8EncodeChar

def breakByte : UInt8 := 10

theorem bytes_cons (c : Char) (cs : List Char) :
    bytes (c :: cs) = String.utf8EncodeChar c ++ bytes cs := List.flatMap_cons

theorem length_bytes (text : List Char) : (bytes text).length = utf8Length text := by
  induction text with
  | nil => rfl
  | cons c cs ih =>
      rw [bytes_cons, List.length_append, String.length_utf8EncodeChar, ih, utf8Length_cons]

/-- The byte of a line break is in no other character. -/
theorem breakByte_notMem {c : Char} (h : c ≠ '\n') : breakByte ∉ String.utf8EncodeChar c := by
  have hval : c.val.toNat ≠ 10 := fun heq => h (Char.ext (UInt32.toNat_inj.mp heq))
  have hbyte (n : Nat) (hn : breakByte = UInt8.ofNat n) : n % 256 = 10 :=
    (congrArg UInt8.toNat hn).symm
  intro hmem
  rw [String.utf8EncodeChar] at hmem
  generalize c.val.toNat = v at hval hmem
  -- One byte is the character itself, and of several bytes each has its highest bit set.
  split at hmem
  next =>
    have := hbyte _ (List.mem_singleton.mp hmem)
    omega
  next =>
    split at hmem
    next =>
      simp only [List.mem_cons, List.not_mem_nil, or_false] at hmem
      rcases hmem with hn | hn <;> have := hbyte _ hn <;> omega
    next =>
      split at hmem
      next =>
        simp only [List.mem_cons, List.not_mem_nil, or_false] at hmem
        rcases hmem with hn | hn | hn <;> have := hbyte _ hn <;> omega
      next =>
        simp only [List.mem_cons, List.not_mem_nil, or_false] at hmem
        rcases hmem with hn | hn | hn | hn <;> have := hbyte _ hn <;> omega

namespace LineMap

/-- As many lines have started by a byte as there are line breaks before it. -/
theorem countP_afterBreaks (text : List Char) (start offset : Nat) :
    (afterBreaks start text).countP (· ≤ offset) =
      ((bytes text).take (offset - start)).count breakByte := by
  induction text generalizing start with
  | nil => rw [bytes, List.flatMap_nil, List.take_nil]; rfl
  | cons c cs ih =>
      rw [afterBreaks, bytes_cons, List.take_append, List.count_append,
        String.length_utf8EncodeChar, Nat.sub_sub, ← ih]
      by_cases hc : c = '\n'
      · subst hc
        have hbreak : ((String.utf8EncodeChar '\n').take (offset - start)).count breakByte =
            if start + 1 ≤ offset then 1 else 0 := by
          split
          next hle =>
            obtain ⟨k, hk⟩ : ∃ k, offset - start = k + 1 := ⟨offset - start - 1, by omega⟩
            have hbytes : String.utf8EncodeChar '\n' = [breakByte] := rfl
            rw [hk, hbytes, List.take_succ_cons, List.take_nil, List.count_singleton_self]
          next => rw [Nat.sub_eq_zero_of_le (by omega)]; rfl
        rw [if_pos rfl, List.countP_cons, hbreak, Nat.add_comm]
        simp only [decide_eq_true_eq]
        rfl
      · have hnone : ((String.utf8EncodeChar c).take (offset - start)).count breakByte = 0 :=
          List.count_eq_zero.mpr fun hmem => breakByte_notMem hc (List.mem_of_mem_take hmem)
        rw [if_neg hc, hnone, Nat.zero_add]

theorem lineAt_eq_count (text : List Char) (offset : Nat) :
    (ofText text).lineAt offset =
      ((bytes text).take (min offset (utf8Length text))).count breakByte := by
  rw [lineAt, ofText, List.countP_cons_of_pos (by simp), countP_afterBreaks, Nat.sub_zero,
    Nat.add_sub_cancel, ← length_bytes, ← List.take_eq_take_min]

theorem monotone_lineAt (m : LineMap) : Monotone m.lineAt := by
  intro offset later hle
  refine Nat.sub_le_sub_right (List.countP_mono_left ?_) 1
  intro start _ hstart
  exact decide_eq_true (Nat.le_trans (of_decide_eq_true hstart) hle)

theorem lineAt_lt_count (text : List Char) (offset : Nat) :
    (ofText text).lineAt offset < (ofText text).count := by
  have hpos := count_ofText_pos text
  have hle : (ofText text).starts.countP (· ≤ offset) ≤ (ofText text).count :=
    List.countP_le_length
  rw [lineAt]
  omega

theorem pairwise_afterBreaks (text : List Char) (start : Nat) :
    (afterBreaks start text).Pairwise (· < ·) := by
  induction text generalizing start with
  | nil => exact .nil
  | cons c cs ih =>
      rw [afterBreaks]
      split
      next => exact .cons (fun _ hk => (mem_afterBreaks hk).1) (ih _)
      next => exact ih _

theorem pairwise_starts (text : List Char) : (ofText text).starts.Pairwise (· < ·) :=
  .cons (fun _ hk => (mem_afterBreaks hk).1) (pairwise_afterBreaks text 0)

end LineMap

/-- Where a search for a number in an ordered list ends: at the number, or at a place where it would
have to be put. -/
inductive Slot where
  | taken (index : Nat)
  | free (index : Nat)

namespace Slot

/-- The slot is the right one for the number. -/
def Fits (ns : List Nat) (n : Nat) : Slot → Prop
  | taken i => ns[i]? = some n
  | free i => i ≤ ns.length ∧ (∀ k ∈ ns.take i, k < n) ∧ ∀ k ∈ ns.drop i, n < k

/-- The line that starts in the slot, or else the one before it. -/
def line : Slot → Nat
  | taken i => i
  | free i => i - 1

theorem countP_le_of_split {ns : List Nat} {n i : Nat} (hi : i ≤ ns.length)
    (hbefore : ∀ k ∈ ns.take i, k ≤ n) (hafter : ∀ k ∈ ns.drop i, n < k) :
    ns.countP (· ≤ n) = i := by
  have htake : (ns.take i).countP (· ≤ n) = i := by
    rw [List.countP_eq_length.mpr fun k hk => decide_eq_true (hbefore k hk),
      List.length_take_of_le hi]
  have hdrop : (ns.drop i).countP (· ≤ n) = 0 := by
    rw [List.countP_eq_zero]
    intro k hk
    simpa using hafter k hk
  rw [← List.take_append_drop i ns, List.countP_append, htake, hdrop, Nat.add_zero]

theorem Fits.line_eq {ns : List Nat} {n : Nat} {slot : Slot} (h : slot.Fits ns n)
    (hsorted : ns.Pairwise (· < ·)) : slot.line = ns.countP (· ≤ n) - 1 := by
  cases slot with
  | free i =>
      obtain ⟨hi, hbefore, hafter⟩ := h
      rw [countP_le_of_split hi (fun k hk => Nat.le_of_lt (hbefore k hk)) hafter]
      rfl
  | taken i =>
      obtain ⟨hi, rfl⟩ := List.getElem?_eq_some_iff.mp h
      have hparts : (ns.take i ++ ns[i] :: ns.drop (i + 1)).Pairwise (· < ·) := by
        rwa [← List.drop_eq_getElem_cons hi, List.take_append_drop]
      obtain ⟨-, hdrop, hcross⟩ := List.pairwise_append.mp hparts
      rw [countP_le_of_split (i := i + 1) hi ?_ (List.pairwise_cons.mp hdrop).1]
      · rfl
      · intro k hk
        rw [List.take_succ_eq_append_getElem hi, List.mem_append, List.mem_singleton] at hk
        rcases hk with hk | rfl
        · exact Nat.le_of_lt (hcross k hk _ List.mem_cons_self)
        · exact Nat.le_refl _

/-- There is a slot for every number. -/
theorem exists_fits (ns : List Nat) (hsorted : ns.Pairwise (· < ·)) (n : Nat) :
    ∃ slot : Slot, slot.Fits ns n := by
  induction ns with
  | nil => exact ⟨.free 0, Nat.le_refl 0, List.forall_mem_nil _, List.forall_mem_nil _⟩
  | cons m ns ih =>
      obtain ⟨hfirst, hrest⟩ := List.pairwise_cons.mp hsorted
      rcases Nat.lt_trichotomy n m with hlt | rfl | hgt
      · refine ⟨.free 0, Nat.zero_le _, List.forall_mem_nil _, ?_⟩
        exact List.forall_mem_cons.mpr ⟨hlt, fun k hk => Nat.lt_trans hlt (hfirst k hk)⟩
      · exact ⟨.taken 0, rfl⟩
      · obtain ⟨slot, hslot⟩ := ih hrest
        cases slot with
        | taken i => exact ⟨.taken (i + 1), hslot⟩
        | free i =>
            obtain ⟨hi, hbefore, hafter⟩ := hslot
            exact ⟨.free (i + 1), Nat.succ_le_succ hi,
              List.forall_mem_cons.mpr ⟨hgt, hbefore⟩, hafter⟩

end Slot

namespace LineMap

/-- The lines of a map are the pieces of its text between the line breaks. Their starts are in order
from zero on, and there is one more of them than there are line breaks. The line of a byte is the
number of line breaks before it, which is where any search among the starts ends. Each piece is
found under its number, without a carriage return at the end, and nothing under other numbers. -/
theorem lines_eq_pieces (text : List Char) :
    (ofText text).starts.Pairwise (· < ·) ∧ (ofText text).starts.head? = some 0 ∧
    (ofText text).count = 1 + lineBreaks text ∧
    (∀ offset, (ofText text).lineAt offset =
      ((bytes text).take (min offset (utf8Length text))).count breakByte) ∧
    (∀ offset, (∃ slot : Slot, slot.Fits (ofText text).starts offset) ∧
      ∀ slot : Slot, slot.Fits (ofText text).starts offset →
        slot.line = (ofText text).lineAt offset) ∧
    Monotone (ofText text).lineAt ∧
    (∀ offset, (ofText text).lineAt offset < (ofText text).count) ∧
    ∀ i,
      (i < (ofText text).count → ∃ piece, (text.splitOn '\n')[i]? = some piece ∧
        (ofText text).line? text i = some (dropReturn piece)) ∧
      ((ofText text).count ≤ i → (ofText text).line? text i = none) := by
  refine ⟨pairwise_starts text, rfl, ?_, lineAt_eq_count text, ?_, monotone_lineAt _,
    lineAt_lt_count text, ?_⟩
  · rw [count_ofText, Nat.add_comm]
  · intro offset
    exact ⟨Slot.exists_fits _ (pairwise_starts text) offset,
      fun _ hslot => hslot.line_eq (pairwise_starts text)⟩
  · intro i
    rw [line?_eq_splitOn, count_ofText, ← length_splitOn]
    constructor
    · intro hi
      exact ⟨_, List.getElem?_eq_getElem hi, by rw [List.getElem?_eq_getElem hi]; rfl⟩
    · intro hi
      rw [List.getElem?_eq_none hi]
      rfl

/-- The second byte is in the middle of a character, the first line ends in a carriage return, and
the last one is empty. -/
theorem lines_eq_pieces_returnSample :
    let text := ['α', '\r', '\n', '\n']
    (Slot.free 1).Fits (ofText text).starts 1 ∧ (ofText text).lineAt 1 = (Slot.free 1).line ∧
      0 < (ofText text).count ∧ (ofText text).line? text 0 = some ['α'] ∧
      (ofText text).count ≤ 3 ∧ (ofText text).line? text 3 = none := by
  intro text
  have hfits : (Slot.free 1).Fits (ofText text).starts 1 := by
    refine ⟨?_, ?_, ?_⟩ <;> decide
  obtain ⟨-, -, -, -, hsearch, -, -, hlines⟩ := lines_eq_pieces text
  have hfirst : 0 < (ofText text).count := by decide
  have hbeyond : (ofText text).count ≤ 3 := by decide
  obtain ⟨piece, hpiece, hline⟩ := (hlines 0).1 hfirst
  have hsplit : (text.splitOn '\n')[0]? = some ['α', '\r'] := by decide
  obtain rfl := Option.some.inj (hpiece.symm.trans hsplit)
  exact ⟨hfits, ((hsearch 1).2 _ hfits).symm, hfirst, hline, hbeyond, (hlines 3).2 hbeyond⟩

end LineMap

end Lexing.Text
