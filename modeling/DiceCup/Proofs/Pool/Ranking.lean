import DiceCup.Pool.Selection

/-!
# Ranking — the best of a list are those that few others come before

In the order by rank, equal ranks in the order of the list, a position comes behind the positions
of larger rank and those of its own rank further to the front.  `Selection.best` finds the best `m`
with the help of a cut; `best_getElem?` says that it takes exactly the positions that fewer than `m`
others come before, and `count_best` that these are `m`.
-/

namespace DiceCup.Selection

/-! ## 1. The cut -/

/-- Halving finds the last number that has a property, if the property is not regained. -/
theorem lastWith_spec {p : Nat → Bool} (hp : ∀ r s, r ≤ s → p s = true → p r = true)
    (bits start : Nat) (h : p start = true) :
    p (lastWith p bits start) = true ∧
      ∀ r, r < start + Nat.pow 2 bits → p r = true → r ≤ lastWith p bits start := by
  -- By induction on the bits that are left; the property at the start carries it.
  induction bits generalizing start with
  | zero =>
    refine ⟨h, fun r hr _ => ?_⟩
    change r < start + 1 at hr
    exact Nat.le_of_lt_succ hr
  | succ bits ih =>
    have hpow : Nat.pow 2 (bits + 1) = Nat.pow 2 bits + Nat.pow 2 bits := by
      rw [show Nat.pow 2 (bits + 1) = Nat.pow 2 bits * 2 from rfl, Nat.mul_two]
    rw [lastWith]
    by_cases hmiddle : p (start + Nat.pow 2 bits) = true
    · rw [if_pos hmiddle]
      rcases ih (start + Nat.pow 2 bits) hmiddle with ⟨hlast, hmost⟩
      refine ⟨hlast, fun r hr hpr => hmost r ?_ hpr⟩
      omega
    · rw [if_neg hmiddle]
      rcases ih start h with ⟨hlast, hmost⟩
      refine ⟨hlast, fun r hr hpr => hmost r ?_ hpr⟩
      -- From the middle on the property is lost.
      by_cases hle : start + Nat.pow 2 bits ≤ r
      · exact absurd (hp _ r hle hpr) hmiddle
      · omega

theorem countP_le_antitone (ranks : List Nat) {r s : Nat} (h : r ≤ s) :
    ranks.countP (s ≤ ·) ≤ ranks.countP (r ≤ ·) := by
  apply List.countP_mono_left
  intro x _ hx
  rw [decide_eq_true_eq] at hx ⊢
  omega

theorem countP_le_eq (ranks : List Nat) (c : Nat) :
    ranks.countP (c ≤ ·) = ranks.countP (c < ·) + ranks.count c := by
  induction ranks with
  | nil => rfl
  | cons r ranks ih =>
    rw [List.countP_cons, List.countP_cons, List.count_cons, ih]
    simp only [decide_eq_true_eq, beq_iff_eq]
    split <;> split <;> split <;> omega

/-- Enough ranks reach the cut, and too few are above it: fewer than `m`, or none. -/
theorem cut_spec {m : Nat} {ranks : List Nat} (hm : m ≤ ranks.length)
    (hranks : ∀ r ∈ ranks, r < 0x100000000) :
    m ≤ ranks.countP (cut m ranks ≤ ·) ∧
      (ranks.countP (cut m ranks < ·) < m ∨ ranks.countP (cut m ranks < ·) = 0) := by
  have hall : ranks.countP (0 ≤ ·) = ranks.length :=
    List.countP_eq_length.mpr fun r _ => decide_eq_true (Nat.zero_le r)
  obtain ⟨hreach, hmost⟩ := lastWith_spec (p := fun r => decide (m ≤ ranks.countP (r ≤ ·)))
    (fun r s hrs hs => by
      rw [decide_eq_true_eq] at hs ⊢
      exact Nat.le_trans hs (countP_le_antitone ranks hrs))
    32 0 (by rw [decide_eq_true_eq, hall]; exact hm)
  change decide (m ≤ ranks.countP (cut m ranks ≤ ·)) = true at hreach
  change ∀ r, r < 0 + Nat.pow 2 32 → _ → r ≤ cut m ranks at hmost
  refine ⟨of_decide_eq_true hreach, ?_⟩
  -- The cut is the last rank that enough ranks reach, so too few reach the next one.
  by_cases hlast : cut m ranks + 1 < 0x100000000
  · left
    by_cases hlt : ranks.countP (cut m ranks < ·) < m
    · exact hlt
    · have hnext := hmost (cut m ranks + 1) (by rw [Nat.zero_add]; exact hlast)
        (decide_eq_true (Nat.le_of_not_lt hlt))
      omega
  · right
    -- At the largest rank of all there is nothing above the cut.
    rw [List.countP_eq_zero]
    intro r hr
    have hlt := hranks r hr
    rw [decide_eq_true_eq]
    omega

/-! ## 2. What is taken -/

theorem length_takeFrom (c room : Nat) (ranks : List Nat) :
    (takeFrom c room ranks).length = ranks.length := by
  fun_induction takeFrom c room ranks <;> simp_all

/-- Ranks above the cut are taken, and those at the cut while there is room. -/
theorem takeFrom_getElem? (c room : Nat) {ranks : List Nat} {i : Nat} (hi : i < ranks.length) :
    (takeFrom c room ranks)[i]? =
      some (decide (c < ranks[i] ∨ ranks[i] = c ∧ (ranks.take i).count c < room)) := by
  -- By induction on the ranks; the room goes down as the count in front goes up.
  induction ranks generalizing room i with
  | nil => exact absurd hi (Nat.not_lt_zero i)
  | cons r ranks ih =>
    cases i with
    | zero =>
      rw [takeFrom]
      by_cases habove : c < r
      · simp [habove]
      · by_cases hat : r = c ∧ 0 < room
        · simp [hat]
        · simp [habove, hat]
    | succ i =>
      have hi' : i < ranks.length := Nat.lt_of_succ_lt_succ hi
      rw [takeFrom, List.getElem_cons_succ, List.take_succ_cons, List.count_cons]
      by_cases habove : c < r
      · rw [if_pos habove, List.getElem?_cons_succ, ih room hi',
          if_neg (by rw [beq_iff_eq]; omega), Nat.add_zero]
      · rw [if_neg habove]
        by_cases hat : r = c ∧ 0 < room
        · -- One of the places at the cut is gone.
          rw [if_pos hat, List.getElem?_cons_succ, ih (room - 1) hi', if_pos (beq_iff_eq.mpr hat.1)]
          congr 2
          rw [show (ranks.take i).count c < room - 1 ↔ (ranks.take i).count c + 1 < room by omega]
        · rw [if_neg hat, List.getElem?_cons_succ, ih room hi']
          congr 2
          by_cases hr : r = c
          · -- No room is left, so none of the later ranks at the cut is taken either.
            have hroom : room = 0 := by omega
            simp [hroom]
          · rw [if_neg (by rw [beq_iff_eq]; exact hr), Nat.add_zero]

/-- As many are taken as are above the cut, and as many at the cut as there is room for. -/
theorem count_takeFrom (c room : Nat) (ranks : List Nat) :
    (takeFrom c room ranks).count true =
      ranks.countP (c < ·) + min room (ranks.count c) := by
  induction ranks generalizing room with
  | nil => rw [takeFrom]; simp
  | cons r ranks ih =>
    rw [takeFrom, List.countP_cons, List.count_cons]
    by_cases habove : c < r
    · rw [if_pos habove, List.count_cons_self, ih, if_pos (decide_eq_true habove),
        if_neg (by rw [beq_iff_eq]; omega)]
      omega
    · have hdecide : ¬ decide (c < r) = true := by rw [decide_eq_true_eq]; exact habove
      rw [if_neg habove, if_neg hdecide]
      by_cases hat : r = c ∧ 0 < room
      · rw [if_pos hat, List.count_cons_self, ih, if_pos (beq_iff_eq.mpr hat.1)]
        omega
      · rw [if_neg hat, List.count_cons_of_ne (by decide), ih]
        by_cases hr : r = c
        · rw [if_pos (beq_iff_eq.mpr hr)]
          omega
        · rw [if_neg (by rw [beq_iff_eq]; exact hr)]
          omega

/-! ## 3. The best -/

/-- How many positions come before one: those of larger rank, and of its rank those in front. -/
def placesBefore (ranks : List Nat) (i : Nat) (hi : i < ranks.length) : Nat :=
  ranks.countP (ranks[i] < ·) + (ranks.take i).count ranks[i]

/-- Counting positions of a list: all that have one property, and those in front of a position that
have another one, which excludes the first. -/
theorem countP_finRange {α : Type} (p q : α → Bool) (hpq : ∀ a, p a = true → q a = false)
    (as : List α) (i : Nat) :
    ((List.finRange as.length).countP fun j => p as[j] || q as[j] && decide (j.val < i)) =
      as.countP p + (as.take i).countP q := by
  -- By induction on the list: the first position is counted apart and the others move up by one.
  induction as generalizing i with
  | nil => simp
  | cons a as ih =>
    change ((List.finRange (as.length + 1)).countP fun j =>
      p (a :: as)[j] || q (a :: as)[j] && decide (j.val < i)) = _
    rw [List.finRange_succ, List.countP_cons, List.countP_map, List.countP_cons]
    cases i with
    | zero =>
      have htail := ih 0
      simp only [Nat.not_lt_zero, decide_false, Bool.and_false, Bool.or_false, List.take_zero,
        List.countP_nil, Nat.add_zero] at htail ⊢
      rw [← htail]
      rfl
    | succ i =>
      have htail := ih i
      have hshift : (fun j : Fin as.length => p as[j] || q as[j] && decide (j.val < i)) =
          (fun j : Fin (as.length + 1) => p (a :: as)[j] || q (a :: as)[j] &&
            decide (j.val < i + 1)) ∘ Fin.succ := by
        funext j
        simp
      -- One property excludes the other, so the first position is counted once.
      have hhead : (if (p a || q a) = true then 1 else 0) =
          (if p a = true then 1 else 0) + if q a = true then 1 else 0 := by
        cases hp : p a
        · simp
        · simp [hpq a hp]
      rw [← hshift, htail, List.take_succ_cons, List.countP_cons]
      simp only [Fin.val_zero, Nat.zero_lt_succ, decide_true, Bool.and_true]
      change _ + (if (p a || q a) = true then 1 else 0) = _
      rw [hhead]
      omega

/-- The best `m` are the positions that fewer than `m` others come before. -/
theorem best_getElem? {m : Nat} {ranks : List Nat} (hm : m ≤ ranks.length)
    (hranks : ∀ r ∈ ranks, r < 0x100000000) {i : Nat} (hi : i < ranks.length) :
    (best m ranks)[i]? = some (decide (placesBefore ranks i hi < m)) := by
  rcases cut_spec hm hranks with ⟨hreach, habove⟩
  rw [best, takeFrom_getElem? _ _ hi]
  congr 2
  rw [eq_iff_iff, placesBefore]
  rcases Nat.lt_trichotomy ranks[i] (cut m ranks) with hlt | heq | hgt
  · -- Below the cut: everything that reaches the cut comes before.
    have hbefore : ranks.countP (cut m ranks ≤ ·) ≤ ranks.countP (ranks[i] < ·) := by
      apply List.countP_mono_left
      intro r _ hr
      rw [decide_eq_true_eq] at hr ⊢
      omega
    omega
  · rw [heq]
    omega
  · -- Above the cut: what comes before is above it too, and is not this rank itself.
    have hself : (ranks.take i).count ranks[i] < ranks.count ranks[i] := by
      have hsplit : (ranks.take i ++ ranks.drop i).count ranks[i] =
          (ranks.take i).count ranks[i] + (ranks.drop i).count ranks[i] := List.count_append
      rw [List.take_append_drop, List.drop_eq_getElem_cons hi, List.count_cons_self] at hsplit
      omega
    have hbefore : ranks.countP (ranks[i] ≤ ·) ≤ ranks.countP (cut m ranks < ·) := by
      apply List.countP_mono_left
      intro r _ hr
      rw [decide_eq_true_eq] at hr ⊢
      omega
    rw [countP_le_eq] at hbefore
    omega

theorem length_best (m : Nat) (ranks : List Nat) : (best m ranks).length = ranks.length :=
  length_takeFrom _ _ _

/-- As many ranks are taken as were asked for, if there are so many. -/
theorem count_best {m : Nat} {ranks : List Nat} (hm : m ≤ ranks.length)
    (hranks : ∀ r ∈ ranks, r < 0x100000000) : (best m ranks).count true = m := by
  rcases cut_spec hm hranks with ⟨hreach, habove⟩
  rw [countP_le_eq] at hreach
  rw [best, count_takeFrom]
  omega

end DiceCup.Selection
