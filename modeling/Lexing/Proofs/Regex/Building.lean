import Lexing.Proofs.Regex.Language
import Lexing.Proofs.Steps

/-!
# Languages of expressions in simple form

Each way to build an expression in simple form has the language of what it was built from. Common
beginnings are the one delicate case: they may be lifted out because every alternative is the
product of its factors, and the shared ones come first in each.
-/

namespace Lexing.Regex

theorem language_fail : fail.language = 0 := by
  apply Language.ext
  intro w
  simp [fail]

theorem prod_language_factors (r : Regex) : (r.factors.map language).prod = r.language := by
  induction r with
  | empty => rfl
  | seq first rest _ ih => simp [factors, ih]
  | _ => simp [factors]

theorem sum_language_options (r : Regex) : (r.options.map language).sum = r.language := by
  induction r with
  | alt first rest _ ih => simp [options, ih]
  | _ => simp [options]

theorem prod_language_flatMap_factors (rs : List Regex) :
    ((rs.flatMap factors).map language).prod = (rs.map language).prod := by
  induction rs with
  | nil => rfl
  | cons r rest ih =>
      rw [List.flatMap_cons, List.map_append, List.prod_append, prod_language_factors, ih,
        List.map_cons, List.prod_cons]

theorem sum_language_flatMap_options (rs : List Regex) :
    ((rs.flatMap options).map language).sum = (rs.map language).sum := by
  induction rs with
  | nil => rfl
  | cons r rest ih =>
      rw [List.flatMap_cons, List.map_append, List.sum_append, sum_language_options, ih,
        List.map_cons, List.sum_cons]

theorem language_seqAll (rs : List Regex) : (seqAll rs).language = (rs.map language).prod := by
  fun_induction seqAll rs with
  | case1 => rfl
  | case2 r => simp
  | case3 r rest _ ih => simp [ih]

theorem language_altAll (rs : List Regex) : (altAll rs).language = (rs.map language).sum := by
  fun_induction altAll rs with
  | case1 => exact language_fail
  | case2 r => simp
  | case3 r rest _ ih => simp [ih]

theorem language_literal_append (u v : List Char) :
    (literal (u ++ v)).language = (literal u).language * (literal v).language := by
  apply Language.ext
  intro w
  simp [Language.mem_mul, eq_comm]

theorem prod_language_consFactor (r : Regex) (rs : List Regex) :
    ((consFactor r rs).map language).prod = r.language * (rs.map language).prod := by
  fun_cases consFactor r rs with
  | case1 text more rest => simp [language_literal_append, mul_assoc]
  | case2 => simp

theorem prod_language_foldr_consFactor (rs : List Regex) :
    ((rs.foldr consFactor []).map language).prod = (rs.map language).prod := by
  induction rs with
  | nil => rfl
  | cons r rest ih =>
      rw [List.foldr_cons, prod_language_consFactor, ih, List.map_cons, List.prod_cons]

theorem language_concat (rs : List Regex) : (concat rs).language = (rs.map language).prod := by
  fun_cases concat rs with
  | case1 r => simp
  | case2 rs =>
      rw [language_seqAll, prod_language_foldr_consFactor, prod_language_flatMap_factors]

theorem language_ofSet (chars : CharSet) : (ofSet chars).language = (set chars).language := by
  rw [ofSet]
  split
  next c h =>
    apply Language.ext
    intro w
    simp [CharSet.contains_of_single? h]
  next => rfl

theorem mem_sum_language {rs : List Regex} {w : List Char} :
    w ∈ (rs.map language).sum ↔ ∃ r ∈ rs, w ∈ r.language := by
  induction rs with
  | nil => simp
  | cons r rest ih => rw [List.map_cons, List.sum_cons, Language.mem_add, ih,
      List.exists_mem_cons_iff]

theorem eq_literal_of_char? {r : Regex} {c : Char} (h : r.char? = some c) : r = literal [c] := by
  unfold char? at h
  split at h <;> simp_all

theorem eq_set_of_set? {r : Regex} {chars : CharSet} (h : r.set? = some chars) :
    r = set chars := by
  unfold set? at h
  split at h <;> simp_all

theorem exists_mem_iff_of_forall₂ {α β : Type} {R : α → β → Prop} {xs : List α} {ys : List β}
    (h : List.Forall₂ R xs ys) {p : α → Prop} {q : β → Prop} (hpq : ∀ x y, R x y → (p x ↔ q y)) :
    (∃ x ∈ xs, p x) ↔ ∃ y ∈ ys, q y := by
  induction h with
  | nil => simp
  | cons hxy _ ih => rw [List.exists_mem_cons_iff, List.exists_mem_cons_iff, ih, hpq _ _ hxy]

/-- Alternatives that are all single characters, or all sets, make one set. -/
theorem language_of_asSet? {rs : List Regex} {chars : CharSet} (h : asSet? rs = some chars) :
    (set chars).language = (rs.map language).sum := by
  apply Language.ext
  intro w
  rw [mem_sum_language, mem_language_set]
  rw [asSet?] at h
  split at h
  next cs hcs =>
    obtain rfl := Option.some.inj h
    rw [exists_mem_iff_of_forall₂ (mapM_eq_some_iff.mp hcs) (q := fun c => w = [c])]
    · simp only [CharSet.contains_ofRanges, List.mem_map]
      constructor
      · rintro ⟨c, ⟨_, ⟨d, hd, rfl⟩, hc⟩, hw⟩
        obtain rfl := (CharSet.contains_range_self d c).mp hc
        exact ⟨c, hd, hw⟩
      · rintro ⟨c, hc, hw⟩
        exact ⟨c, ⟨_, ⟨c, hc, rfl⟩, (CharSet.contains_range_self c c).mpr rfl⟩, hw⟩
    · intro r c hr
      rw [eq_literal_of_char? hr, mem_language_literal]
  next =>
    obtain ⟨sets, hsets, rfl⟩ := Option.map_eq_some_iff.mp h
    rw [exists_mem_iff_of_forall₂ (mapM_eq_some_iff.mp hsets)
      (q := fun chars => ∃ c, chars.contains c = true ∧ w = [c])]
    · simp only [CharSet.contains_foldr_union]
      constructor
      · rintro ⟨c, ⟨chars, hmem, hc⟩, hw⟩
        exact ⟨chars, hmem, c, hc, hw⟩
      · rintro ⟨chars, hmem, c, hc, hw⟩
        exact ⟨c, ⟨chars, hmem, hc⟩, hw⟩
    · intro r chars hr
      rw [eq_set_of_set? hr, mem_language_set]

theorem language_choiceWhole (rs : List Regex) :
    (choiceWhole rs).language = (rs.map language).sum := by
  rw [← sum_language_flatMap_options, choiceWhole]
  split
  next h => rw [h, language_fail]; rfl
  next r h => simp [h]
  next =>
    cases hs : asSet? (rs.flatMap options) with
    | none => exact language_altAll _
    | some chars => exact (language_ofSet chars).trans (language_of_asSet? hs)

theorem sharedStart_prefix_left (rs ss : List Regex) : sharedStart rs ss <+: rs := by
  fun_induction sharedStart rs ss with
  | case1 rs r ss ih => exact List.cons_prefix_cons.mpr ⟨rfl, ih⟩
  | case2 => exact List.nil_prefix
  | case3 => exact List.nil_prefix

theorem sharedStart_prefix_right (rs ss : List Regex) : sharedStart rs ss <+: ss := by
  fun_induction sharedStart rs ss with
  | case1 rs r ss ih => exact List.cons_prefix_cons.mpr ⟨rfl, ih⟩
  | case2 => exact List.nil_prefix
  | case3 => exact List.nil_prefix

theorem foldl_sharedStart_isPrefix (fss : List (List Regex)) (fs : List Regex) :
    fss.foldl sharedStart fs <+: fs ∧ ∀ gs ∈ fss, fss.foldl sharedStart fs <+: gs := by
  induction fss generalizing fs with
  | nil => simp
  | cons gs rest ih =>
      obtain ⟨hfs, hrest⟩ := ih (sharedStart fs gs)
      refine ⟨hfs.trans (sharedStart_prefix_left fs gs), ?_⟩
      rw [List.foldl_cons, List.forall_mem_cons]
      exact ⟨hfs.trans (sharedStart_prefix_right fs gs), hrest⟩

/-- What alternatives share comes first in each of them. -/
theorem sharedFactors_isPrefix {rs : List Regex} {r : Regex} (hr : r ∈ rs) :
    sharedFactors rs <+: r.factors := by
  rw [sharedFactors]
  split
  next => exact List.nil_prefix
  next fs fss h =>
    split
    next =>
      have hmem : r.factors ∈ fs :: fss := h ▸ List.mem_map_of_mem hr
      obtain ⟨hfs, hfss⟩ := foldl_sharedStart_isPrefix fss fs
      rcases List.mem_cons.mp hmem with heq | hmem
      · exact heq ▸ hfs
      · exact hfss _ hmem
    next => exact List.nil_prefix

/-- A beginning that all alternatives share may be written once. -/
theorem language_lift {start : List Regex} {rs : List Regex}
    (h : ∀ r ∈ rs, start <+: r.factors) :
    (start.map language).prod *
        ((rs.map fun r => concat (r.factors.drop start.length)).map language).sum =
      (rs.map language).sum := by
  induction rs with
  | nil => simp
  | cons r rest ih =>
      obtain ⟨more, hmore⟩ := h r List.mem_cons_self
      have hr : (start.map language).prod * (concat (r.factors.drop start.length)).language =
          r.language := by
        rw [← prod_language_factors r, ← hmore, List.drop_left, language_concat, List.map_append,
          List.prod_append]
      rw [List.map_cons, List.map_cons, List.sum_cons, mul_add, hr,
        ih fun s hs => h s (List.mem_cons_of_mem r hs), List.map_cons, List.sum_cons]

theorem language_choice (rs : List Regex) : (choice rs).language = (rs.map language).sum := by
  rw [← sum_language_flatMap_options, choice]
  split
  next h => rw [h, language_fail]; rfl
  next r h => simp [h]
  next =>
    split
    next _ _ chars hs => exact (language_ofSet chars).trans (language_of_asSet? hs)
    next => exact language_altAll _
    next start _ _ =>
      rw [language_concat, List.map_append, List.prod_append, List.map_singleton,
        List.prod_singleton, language_choiceWhole]
      exact language_lift fun r hr => sharedFactors_isPrefix hr

theorem roundsOf_zero (l : Language Char) : roundsOf l 0 (some 0) = 1 := by
  apply Language.ext
  intro w
  have hzero : ∀ n, Allows 0 (some 0) n ↔ n = 0 := by
    intro n
    rw [allows_some]
    omega
  simp [mem_roundsOf, hzero]

theorem roundsOf_one (l : Language Char) : roundsOf l 1 (some 1) = l := by
  apply Language.ext
  intro w
  have hone : ∀ n, Allows 1 (some 1) n ↔ n = 1 := by
    intro n
    rw [allows_some]
    omega
  simp [mem_roundsOf, hone]

theorem pow_eq_of_nil {l : Language Char} (hl : ∀ w ∈ l, w = []) {n : Nat} (hn : 0 < n) :
    l ^ n = l := by
  induction n with
  | zero => exact absurd hn (Nat.lt_irrefl 0)
  | succ n ih =>
      rcases Nat.eq_zero_or_pos n with rfl | hpos
      · exact pow_one l
      · rw [pow_succ, ih hpos]
        apply Language.ext
        intro w
        rw [Language.mem_mul]
        constructor
        · rintro ⟨u, hu, v, hv, rfl⟩
          rwa [hl u hu, List.nil_append]
        · intro hw
          exact ⟨w, hw, w, hw, by rw [hl w hw, List.nil_append]⟩

/-- Rounds that read nothing differ only in whether there is one. -/
theorem mem_roundsOf_of_nil {l : Language Char} (hl : ∀ w ∈ l, w = []) {min : Nat}
    {max : Option Nat} (h : ∀ m ∈ max, min ≤ m) {w : List Char} :
    w ∈ roundsOf l min max ↔ min = 0 ∧ w = [] ∨ max ≠ some 0 ∧ w ∈ l := by
  rw [mem_roundsOf]
  constructor
  · rintro ⟨n, ⟨hmin, hmax⟩, hw⟩
    rcases Nat.eq_zero_or_pos n with rfl | hn
    · exact .inl ⟨Nat.le_zero.mp hmin, hw⟩
    · refine .inr ⟨?_, pow_eq_of_nil hl hn ▸ hw⟩
      rintro rfl
      exact Nat.not_le_of_lt hn (hmax 0 rfl)
  · rintro (⟨rfl, rfl⟩ | ⟨hmax, hw⟩)
    · exact ⟨0, ⟨Nat.le_refl 0, fun m _ => Nat.zero_le m⟩, rfl⟩
    · refine ⟨Max.max min 1, ⟨Nat.le_max_left min 1, ?_⟩, ?_⟩
      · rintro m rfl
        have hpos : m ≠ 0 := fun hm => hmax (congrArg some hm)
        exact Nat.max_le.mpr ⟨h m rfl, Nat.pos_of_ne_zero hpos⟩
      · rwa [pow_eq_of_nil hl (Nat.le_max_right min 1)]

/-- Bounds in order stay so if both are cut down to a single round. -/
theorem min_one_le {min : Nat} {max : Option Nat} (h : ∀ m ∈ max, min ≤ m) :
    ∀ m ∈ some ((max.map (Nat.min 1)).getD 1), Nat.min min 1 ≤ m := by
  rintro m ⟨rfl⟩
  cases max with
  | none => exact Nat.min_le_right min 1
  | some m =>
      have := h m rfl
      change Min.min min 1 ≤ Min.min 1 m
      omega

/-- Rounds that read nothing may be left out, down to a single one. -/
theorem roundsOf_min_one {l : Language Char} (hl : ∀ w ∈ l, w = []) {min : Nat}
    {max : Option Nat} (h : ∀ m ∈ max, min ≤ m) :
    roundsOf l (Nat.min min 1) (some ((max.map (Nat.min 1)).getD 1)) = roundsOf l min max := by
  apply Language.ext
  intro w
  rw [mem_roundsOf_of_nil hl (min_one_le h), mem_roundsOf_of_nil hl h]
  have hzero : Nat.min min 1 = 0 ↔ min = 0 := by
    change Min.min min 1 = 0 ↔ min = 0
    omega
  have hsome : some ((max.map (Nat.min 1)).getD 1) ≠ some 0 ↔ max ≠ some 0 := by
    cases max with
    | none => simp
    | some m =>
        change some (Min.min 1 m) ≠ some 0 ↔ some m ≠ some 0
        rw [Ne, Ne, Option.some_inj, Option.some_inj]
        omega
  rw [hzero, hsome]

theorem language_repeated (body : Regex) {min : Nat} {max : Option Nat} (greedy : Bool)
    (h : ∀ m ∈ max, min ≤ m) :
    (body.repeated min max greedy).language = roundsOf body.language min max := by
  have build : ∀ (min : Nat) (max : Option Nat),
      (if min = 0 ∧ max = some 0 then empty
        else if min = 1 ∧ max = some 1 then body
        else repetition body min max greedy).language = roundsOf body.language min max := by
    intro min max
    split
    next hzero => rw [hzero.1, hzero.2, roundsOf_zero, language_empty]
    next =>
      split
      next hone => rw [hone.1, hone.2, roundsOf_one]
      next => rfl
  rw [repeated, build]
  by_cases hempty : body.maxLength = some 0
  · simp only [hempty, if_true]
    apply roundsOf_min_one _ h
    intro w hw
    exact List.length_eq_zero_iff.mp (Nat.le_zero.mp (length_le_of_maxLength hempty hw))
  · simp only [hempty, if_false]

end Lexing.Regex
