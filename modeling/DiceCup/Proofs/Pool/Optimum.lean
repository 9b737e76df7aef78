import DiceCup.Proofs.Pool.Invariant
import Mathlib.Algebra.BigOperators.Fin
import Mathlib.Algebra.Order.BigOperators.Group.Finset
import Mathlib.Algebra.Order.Ring.Int

/-!
# Optima — no choice of dice beats a selection

Of all choices of a number of dice, the highest dice have the largest sum and the lowest the
smallest.  Everything else about the two totals follows from that.  A choice that takes in a further
die grows by its value, and the dice that a choice leaves make up the rest of the sum.
-/

namespace DiceCup

namespace Pool

/-! ## 1. Choices -/

def valueAt (pool : Pool) (i : Fin pool.dice.length) : UInt32 := (pool.dice.get i).value

def totalOf (pool : Pool) (choice : Finset (Fin pool.dice.length)) : Int :=
  pool.bonus.toInt + ∑ i ∈ choice, ((pool.valueAt i).toNat : Int)

def totalsOf (pool : Pool) (n : Nat) : Set Int :=
  { t | ∃ choice, choice.card = n ∧ pool.totalOf choice = t }

variable {pool result : Pool} {mode : KeepMode} {m n : Nat}

/-- The best of what is only in the other set separates it from what is only in the best one. -/
theorem sum_le_sum_of_best {ι : Type} [DecidableEq ι] {f : ι → Int} {best other : Finset ι}
    (hcard : other.card = best.card) (h : ∀ i ∈ best, ∀ j ∉ best, f j ≤ f i) :
    ∑ j ∈ other, f j ≤ ∑ i ∈ best, f i := by
  rw [← Finset.sum_sdiff_le_sum_sdiff]
  have hsame : (other \ best).card = (best \ other).card := Finset.card_sdiff_comm hcard
  rcases (other \ best).eq_empty_or_nonempty with hempty | hnonempty
  · have hnone : best \ other = ∅ := by
      rw [← Finset.card_eq_zero, ← hsame, hempty, Finset.card_empty]
    rw [hempty, hnone]
  · obtain ⟨top, htop, hmost⟩ := Finset.exists_max_image _ f hnonempty
    have hbest : ∀ i ∈ best \ other, f top ≤ f i := fun i hi =>
      h i (Finset.mem_sdiff.mp hi).1 top (Finset.mem_sdiff.mp htop).2
    calc ∑ j ∈ other \ best, f j
      _ ≤ (other \ best).card • f top := Finset.sum_le_card_nsmul _ _ _ hmost
      _ = (best \ other).card • f top := by rw [hsame]
      _ ≤ ∑ i ∈ best \ other, f i := Finset.card_nsmul_le_sum _ _ _ hbest

/-! ## 2. The dice of a selection -/

def selected (pool : Pool) (mode : KeepMode) (n : Nat) : Finset (Fin pool.dice.length) :=
  Finset.univ.filter fun i => pool.countBefore mode i < n

/-- What comes before the better die comes before the other one too. -/
theorem countBefore_le_of_better {i j : Fin pool.dice.length}
    (h : mode.Better (pool.valueAt j) (pool.valueAt i)) :
    pool.countBefore mode j ≤ pool.countBefore mode i := by
  apply List.countP_mono_left
  intro k _ hk
  change mode.Better pool.dice[j].value pool.dice[i].value at h
  simp only [decide_eq_true_eq, ComesBefore, ← Selection.rank_lt_rank_iff,
    ← @Selection.rank_eq_rank_iff mode] at h hk ⊢
  omega

/-- No die that is left out is better than one that is taken. -/
theorem not_better_of_selected {i j : Fin pool.dice.length}
    (hi : i ∈ pool.selected mode n) (hj : j ∉ pool.selected mode n) :
    ¬mode.Better (pool.valueAt j) (pool.valueAt i) := by
  intro h
  have hle := countBefore_le_of_better h
  simp only [selected, Finset.mem_filter_univ] at hi hj
  omega

theorem values_allIncluded (pool : Pool) : pool.allIncluded.values = pool.values := by
  rw [values, values, allIncluded, List.map_map]
  rfl

theorem Selects.values_eq (h : pool.Selects mode n result) :
    result.values = pool.values := by
  rw [← values_allIncluded result, h.same, values_allIncluded]

theorem Selects.getElem? (h : pool.Selects mode n result)
    (i : Fin pool.dice.length) : ∃ die, result.dice[i.val]? = some die ∧
      die.included = decide (pool.countBefore mode i < n) ∧ die.value = pool.valueAt i := by
  obtain ⟨die, hdie, hincluded⟩ := Option.map_eq_some_iff.mp (h.included_iff i)
  refine ⟨die, hdie, hincluded, ?_⟩
  have hvalue : result.values[i.val]? = pool.values[i.val]? := by rw [h.values_eq]
  simpa [values, hdie, valueAt] using hvalue

/-- What a selection keeps, weighed die by die, is what it took of the pool before it. -/
theorem Selects.sum_kept (h : pool.Selects mode n result) (f : UInt32 → Nat) :
    (result.kept.map fun die => f die.value).sum =
      ∑ i ∈ pool.selected mode n, f (pool.valueAt i) := by
  have hlength : result.dice.length = pool.dice.length := by
    simpa [values] using congrArg List.length h.values_eq
  have hweights : (result.dice.map fun die => if die.included then f die.value else 0) =
      List.ofFn fun i : Fin pool.dice.length =>
        if pool.countBefore mode i < n then f (pool.valueAt i) else 0 := by
    apply List.ext_getElem?
    intro i
    by_cases hi : i < pool.dice.length
    · obtain ⟨die, hdie, hincluded, hvalue⟩ := h.getElem? ⟨i, hi⟩
      simp [hdie, hi, hincluded, hvalue]
    · simp [hi, hlength]
  have hkept := List.sum_map_ite (fun die : Die => die.included = true) (fun die => f die.value)
    (fun _ => 0) result.dice
  rw [hweights, List.sum_ofFn, ← Finset.sum_filter] at hkept
  simpa [kept, selected] using hkept.symm

theorem Selects.card_selected (h : pool.Selects mode n result) :
    (pool.selected mode n).card = n := by
  have hones := h.sum_kept fun _ => 1
  rw [List.map_const', List.sum_replicate, h.length_kept] at hones
  simpa using hones.symm

theorem exactSum_eq (values : List UInt32) : exactSum values = (values.map UInt32.toNat).sum := by
  induction values with
  | nil => rfl
  | cons value values ih => rw [exactSum_cons, List.map_cons, List.sum_cons, ih]

theorem Selects.total_eq (h : pool.Selects mode n result) (hexact : result.ExactTotal) :
    result.total.toInt = pool.totalOf (pool.selected mode n) := by
  have hbonus : result.bonus = pool.bonus := by
    show result.allIncluded.bonus = pool.allIncluded.bonus
    rw [h.same]
  have hsum := h.sum_kept UInt32.toNat
  rw [hexact.total_exact, hbonus, totalOf, exactSum_eq, List.map_map]
  show _ + (((result.kept.map fun die => die.value.toNat).sum : Nat) : Int) = _
  rw [hsum, Nat.cast_sum]

/-! ## 3. Optimal choices -/

/-- No choice of as many dice has a larger total than the highest ones. -/
theorem isGreatest_selected (hcard : (pool.selected .highest n).card = n) :
    IsGreatest (pool.totalsOf n) (pool.totalOf (pool.selected .highest n)) := by
  refine ⟨⟨_, hcard, rfl⟩, ?_⟩
  rintro _ ⟨other, hother, rfl⟩
  refine Int.add_le_add_left (sum_le_sum_of_best (hother.trans hcard.symm) ?_) _
  intro i hi j hj
  have hnot : ¬pool.valueAt i < pool.valueAt j := not_better_of_selected hi hj
  rw [UInt32.lt_iff_toNat_lt] at hnot
  omega

/-- No choice of as many dice has a smaller total than the lowest ones. -/
theorem isLeast_selected (hcard : (pool.selected .lowest n).card = n) :
    IsLeast (pool.totalsOf n) (pool.totalOf (pool.selected .lowest n)) := by
  refine ⟨⟨_, hcard, rfl⟩, ?_⟩
  rintro _ ⟨other, hother, rfl⟩
  -- The smallest values are the largest of their negatives.
  have hsmallest : ∀ i ∈ pool.selected .lowest n, ∀ j ∉ pool.selected .lowest n,
      -((pool.valueAt j).toNat : Int) ≤ -((pool.valueAt i).toNat : Int) := by
    intro i hi j hj
    have hnot : ¬pool.valueAt j < pool.valueAt i := not_better_of_selected hi hj
    rw [UInt32.lt_iff_toNat_lt] at hnot
    omega
  have hnegated := sum_le_sum_of_best (hother.trans hcard.symm) hsmallest
  rw [Finset.sum_neg_distrib, Finset.sum_neg_distrib] at hnegated
  unfold totalOf
  omega

/-- More dice have a larger total, since every die shows at least one. -/
theorem totalOf_lt_totalOf (hvalues : ∀ die ∈ pool.dice, 1 ≤ die.value)
    {choice larger : Finset (Fin pool.dice.length)} (h : choice ⊂ larger) :
    pool.totalOf choice < pool.totalOf larger := by
  obtain ⟨i, hi, hnot⟩ := Finset.exists_of_ssubset h
  have hone := UInt32.le_iff_toNat_le.mp (hvalues (pool.dice.get i) (List.get_mem _ _))
  refine Int.add_lt_add_left (Finset.sum_lt_sum_of_subset h.subset hi hnot ?_ ?_) _
  · exact Int.natCast_pos.mpr hone
  · intro j _ _
    exact Int.natCast_nonneg _

theorem exists_larger_total (hvalues : ∀ die ∈ pool.dice, 1 ≤ die.value) (hmn : m < n)
    (hn : n ≤ pool.dice.length) {t : Int} (ht : t ∈ pool.totalsOf m) :
    ∃ u ∈ pool.totalsOf n, t < u := by
  obtain ⟨choice, hcard, rfl⟩ := ht
  obtain ⟨larger, hsub, hlarger⟩ := Finset.exists_superset_card_eq (n := n) (s := choice)
    (by omega) (by rw [Fintype.card_fin]; exact hn)
  refine ⟨_, ⟨larger, hlarger, rfl⟩, totalOf_lt_totalOf hvalues (hsub.ssubset_of_ne ?_)⟩
  rintro rfl
  omega

theorem exists_smaller_total (hvalues : ∀ die ∈ pool.dice, 1 ≤ die.value) (hmn : m < n)
    {u : Int} (hu : u ∈ pool.totalsOf n) : ∃ t ∈ pool.totalsOf m, t < u := by
  obtain ⟨choice, hcard, rfl⟩ := hu
  obtain ⟨smaller, hsub, hsmaller⟩ := Finset.exists_subset_card_eq (n := m) (s := choice)
    (by omega)
  refine ⟨_, ⟨smaller, hsmaller, rfl⟩, totalOf_lt_totalOf hvalues (hsub.ssubset_of_ne ?_)⟩
  rintro rfl
  omega

theorem sum_valueAt (pool : Pool) :
    ∑ i, ((pool.valueAt i).toNat : Int) = exactSum pool.values := by
  rw [exactSum_eq, values, List.map_map, Nat.cast_list_sum, List.map_map]
  exact Fin.sum_univ_fun_getElem pool.dice fun die => (die.value.toNat : Int)

/-- Each die counts in a choice or in the other one, and the bonus in both. -/
theorem totalOf_add_compl (choice : Finset (Fin pool.dice.length)) :
    pool.totalOf choice + pool.totalOf choiceᶜ =
      2 * pool.bonus.toInt + exactSum pool.values := by
  have hsum := Finset.sum_add_sum_compl choice fun i => ((pool.valueAt i).toNat : Int)
  rw [sum_valueAt] at hsum
  unfold totalOf
  omega

/-- The choices of all other dice turn the order of the totals around. -/
theorem compl_mem_totalsOf {t : Int} (ht : t ∈ pool.totalsOf n) :
    2 * pool.bonus.toInt + exactSum pool.values - t ∈ pool.totalsOf (pool.dice.length - n) := by
  obtain ⟨choice, hcard, rfl⟩ := ht
  refine ⟨choiceᶜ, ?_, ?_⟩
  · rw [Finset.card_compl, Fintype.card_fin, hcard]
  · rw [← totalOf_add_compl choice]
    omega

/-! ## 4. The selections of a sound pool -/

variable {sides count : UInt32} {options : RollOptions}

theorem Sound.toNat_count (h : pool.Sound sides count options) :
    pool.count.toNat = pool.dice.length := by
  apply Pool.toNat_count
  rw [h.length_dice]
  exact count.toNat_lt

theorem Sound.toNat_le_length (h : pool.Sound sides count options) {k : UInt32}
    (hk : k ≤ pool.count) : k.toNat ≤ pool.dice.length := by
  rw [← h.toNat_count]
  exact UInt32.le_iff_toNat_le.mp hk

theorem Sound.total_keep (h : pool.Sound sides count options) (mode : KeepMode) {k : UInt32}
    (hk : k ≤ pool.count) :
    let result := pool.orUnchanged (pool.keep mode (some k))
    pool.keep mode (some k) = .ok result ∧ (pool.selected mode k.toNat).card = k.toNat ∧
      result.total.toInt = pool.totalOf (pool.selected mode k.toNat) := by
  have hkeep : pool.keep mode (some k) = .ok _ := keep_eq_ok hk
  have hselects := selects_best (h.toNat_le_length hk) mode
  intro result
  have hresult : result = pool.marked (Selection.best k.toNat (pool.ranks mode)) := by
    show (pool.keep mode (some k)).toOption.getD pool = _
    rw [hkeep]
    rfl
  rw [hresult]
  exact ⟨hkeep, hselects.card_selected, hselects.total_eq (h.keep hkeep).exactTotal⟩

theorem Sound.highest_optimal (h : pool.Sound sides count options) {k : UInt32}
    (hk : k ≤ pool.count) :
    pool.highest (some k) = .ok (pool.attempt (.highest (some k))) ∧
      IsGreatest (pool.totalsOf k.toNat) (pool.attempt (.highest (some k))).total.toInt := by
  obtain ⟨hkeep, hcard, htotal⟩ := h.total_keep .highest hk
  refine ⟨hkeep, ?_⟩
  show IsGreatest _ (pool.orUnchanged (pool.keep .highest (some k))).total.toInt
  rw [htotal]
  exact isGreatest_selected hcard

theorem Sound.lowest_optimal (h : pool.Sound sides count options) {k : UInt32}
    (hk : k ≤ pool.count) :
    pool.lowest (some k) = .ok (pool.attempt (.lowest (some k))) ∧
      IsLeast (pool.totalsOf k.toNat) (pool.attempt (.lowest (some k))).total.toInt := by
  obtain ⟨hkeep, hcard, htotal⟩ := h.total_keep .lowest hk
  refine ⟨hkeep, ?_⟩
  show IsLeast _ (pool.orUnchanged (pool.keep .lowest (some k))).total.toInt
  rw [htotal]
  exact isLeast_selected hcard

/-- **Selections are optimal and complement each other.**  Whatever has happened to a pool since it
was rolled, the total with the `n` highest dice is the largest that `n` of its dice can have with its
bonus, and the total with the `n` lowest the smallest.  Both grow with `n`.  The `n` highest and all
but `n` lowest dice together make up the sum of all values and twice the bonus, even where equal
values let a die count in both. -/
theorem selections_optimal {cup cup' : Cup} {start : Pool}
    (hroll : (roll sides count options).runOn cup = (.ok start, cup')) (changes : List Change) :
    let pool := start.after changes
    let high n := pool.attempt (.highest (some n))
    let low n := pool.attempt (.lowest (some n))
    (∀ n ≤ pool.count,
      pool.highest (some n) = .ok (high n) ∧ pool.lowest (some n) = .ok (low n) ∧
      IsGreatest (pool.totalsOf n.toNat) (high n).total.toInt ∧
      IsLeast (pool.totalsOf n.toNat) (low n).total.toInt ∧
      (low n).total ≤ (high n).total ∧
      (high n).total.toInt + (low (pool.count - n)).total.toInt =
        2 * pool.bonus.toInt + exactSum pool.values) ∧
    ∀ m n, m < n → n ≤ pool.count →
      (high m).total < (high n).total ∧ (low m).total < (low n).total := by
  intro pool high low
  have hsound : pool.Sound sides count options := (sound_of_roll hroll).after changes
  have hvalues : ∀ die ∈ pool.dice, 1 ≤ die.value := fun die hdie =>
    (hsound.dice_sound die hdie).one_le_value
  have hhigh {n} (hn : n ≤ pool.count) : IsGreatest (pool.totalsOf n.toNat) (high n).total.toInt :=
    (hsound.highest_optimal hn).2
  have hlow {n} (hn : n ≤ pool.count) : IsLeast (pool.totalsOf n.toNat) (low n).total.toInt :=
    (hsound.lowest_optimal hn).2
  refine ⟨fun n hn => ?each, fun m n hmn hn => ?grow⟩
  case each =>
    refine ⟨(hsound.highest_optimal hn).1, (hsound.lowest_optimal hn).1, hhigh hn, hlow hn, ?_, ?_⟩
    · exact Int32.le_iff_toInt_le.mpr ((hhigh hn).2 (hlow hn).1)
    · -- Each of the two totals bounds the other by the dice that it leaves.
      have hrest : pool.count - n ≤ pool.count := by
        rw [UInt32.le_iff_toNat_le, UInt32.toNat_sub_of_le _ _ hn]
        omega
      have hlength : (pool.count - n).toNat = pool.dice.length - n.toNat := by
        rw [UInt32.toNat_sub_of_le _ _ hn, hsound.toNat_count]
      have hleft := compl_mem_totalsOf (hhigh hn).1
      have hright := compl_mem_totalsOf (hlow hrest).1
      rw [← hlength] at hleft
      rw [hlength, Nat.sub_sub_self (hsound.toNat_le_length hn)] at hright
      have hle := (hlow hrest).2 hleft
      have hge := (hhigh hn).2 hright
      omega
  case grow =>
    -- Some choice of `n` is larger than the best one of `m`, and some choice of `m` is smaller than
    -- the least one of `n`.
    have hm : m ≤ pool.count := UInt32.le_trans (UInt32.le_of_lt hmn) hn
    have hlt : m.toNat < n.toNat := UInt32.lt_iff_toNat_lt.mp hmn
    have hlength := hsound.toNat_le_length hn
    obtain ⟨u, hu, hlarger⟩ := exists_larger_total hvalues hlt hlength (hhigh hm).1
    obtain ⟨t, ht, hsmaller⟩ := exists_smaller_total hvalues hlt (hlow hn).1
    rw [Int32.lt_iff_toInt_lt, Int32.lt_iff_toInt_lt]
    exact ⟨hlarger.trans_le ((hhigh hn).2 hu), ((hlow hm).2 ht).trans_lt hsmaller⟩

theorem selections_optimal_rerolled :
    ∃ start cup', (roll 6 4 {}).runOn plainCup = (.ok start, cup') ∧
      let pool := start.after [.lowest (some 1), .bonus (.whole (-3)), .rerollAll cup']
      let high n := pool.attempt (.highest (some n))
      let low n := pool.attempt (.lowest (some n))
      IsGreatest (pool.totalsOf 3) (high 3).total.toInt ∧
      IsLeast (pool.totalsOf 3) (low 3).total.toInt ∧
      (high 3).total.toInt + (low 1).total.toInt =
        2 * pool.bonus.toInt + exactSum pool.values ∧
      (high 0).total < (high 4).total ∧ (low 0).total < (low 4).total := by
  have hshape : checkShape 6 4 (({} : RollOptions).bonus.getD 0) = .ok () :=
    checkShape_eq_ok.mpr (by decide)
  obtain ⟨start, cup', hroll⟩ := (roll_succeeds_iff plainCup).mpr ⟨by decide, hshape⟩
  refine ⟨start, cup', hroll, ?_⟩
  intro pool high low
  have hcount : pool.count = 4 := ((sound_of_roll hroll).after _).count_eq
  obtain ⟨heach, hgrow⟩ := selections_optimal hroll
    [.lowest (some 1), .bonus (.whole (-3)), .rerollAll cup']
  change ∀ n ≤ pool.count, _ at heach
  change ∀ m n, m < n → n ≤ pool.count → _ at hgrow
  rw [hcount] at heach hgrow
  obtain ⟨_, _, hgreatest, hleast, _, hsum⟩ := heach 3 (by decide)
  exact ⟨hgreatest, hleast, hsum, hgrow 0 4 (by decide) (by decide)⟩

end Pool

end DiceCup
