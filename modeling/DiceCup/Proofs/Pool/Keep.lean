import DiceCup.Pool.Change
import DiceCup.Proofs.Pool.Ranking

/-!
# Keeping — a selection lets the right dice count and changes nothing else

Of two dice the better one comes first, and of equal dice the earlier one.  A selection of `m` dice
lets those dice count that fewer than `m` others come before.  Whether a die counts is all that it
changes, and all that it does not look at.
-/

namespace DiceCup

/-! ## 1. Better dice -/

def KeepMode.Better (mode : KeepMode) (a b : UInt32) : Prop :=
  match mode with
  | .highest => b < a
  | .lowest => a < b

instance (mode : KeepMode) (a b : UInt32) : Decidable (mode.Better a b) := by
  cases mode <;> exact inferInstanceAs (Decidable (_ < _))

namespace Selection

theorem rank_lt (mode : KeepMode) (a : UInt32) : rank mode a < 0x100000000 := by
  have ha := a.toNat_lt
  cases mode
  · exact ha
  · change 0xFFFFFFFF - a.toNat < 0x100000000
    omega

/-- A better value has a larger rank, whichever end of the order is kept. -/
theorem rank_lt_rank_iff {mode : KeepMode} {a b : UInt32} :
    rank mode b < rank mode a ↔ mode.Better a b := by
  have ha := a.toNat_lt
  have hb := b.toNat_lt
  cases mode
  · change b.toNat < a.toNat ↔ b < a
    rw [UInt32.lt_iff_toNat_lt]
  · change 0xFFFFFFFF - b.toNat < 0xFFFFFFFF - a.toNat ↔ a < b
    rw [UInt32.lt_iff_toNat_lt]
    omega

theorem rank_eq_rank_iff {mode : KeepMode} {a b : UInt32} : rank mode a = rank mode b ↔ a = b := by
  have ha := a.toNat_lt
  have hb := b.toNat_lt
  rw [← UInt32.toNat_inj]
  cases mode
  · exact Iff.rfl
  · change 0xFFFFFFFF - a.toNat = 0xFFFFFFFF - b.toNat ↔ a.toNat = b.toNat
    omega

end Selection

namespace Pool

/-- A die is better than another, or as good and rolled earlier. -/
def ComesBefore (pool : Pool) (mode : KeepMode) (j i : Fin pool.dice.length) : Prop :=
  mode.Better pool.dice[j].value pool.dice[i].value ∨
    pool.dice[j].value = pool.dice[i].value ∧ j < i

instance (pool : Pool) (mode : KeepMode) (j i : Fin pool.dice.length) :
    Decidable (pool.ComesBefore mode j i) := inferInstanceAs (Decidable (_ ∨ _))

def countBefore (pool : Pool) (mode : KeepMode) (i : Fin pool.dice.length) : Nat :=
  (List.finRange pool.dice.length).countP fun j => pool.ComesBefore mode j i

/-! ## 2. Marks -/

def marked (pool : Pool) (marks : List Bool) : Pool :=
  { pool with dice := pool.dice.zipWith (fun die included => { die with included }) marks }

def allIncluded (pool : Pool) : Pool :=
  { pool with dice := pool.dice.map fun die => { die with included := true } }

theorem marked_allIncluded (pool : Pool) (marks : List Bool) :
    pool.allIncluded.marked marks = pool.marked marks := by
  rw [marked, marked, allIncluded, List.zipWith_map_left]

theorem allIncluded_marked {pool : Pool} {marks : List Bool}
    (h : marks.length = pool.dice.length) : (pool.marked marks).allIncluded = pool.allIncluded := by
  rw [allIncluded, allIncluded, marked, Pool.mk.injEq]
  refine ⟨rfl, ?_, rfl, rfl, rfl⟩
  rw [List.map_zipWith]
  change List.zipWith (fun die _ => { die with included := true }) pool.dice marks = _
  generalize pool.dice = dice at h ⊢
  induction dice generalizing marks with
  | nil => rw [List.zipWith_nil_left, List.map_nil]
  | cons die dice ih =>
    cases marks with
    | nil => cases h
    | cons mark marks =>
      rw [List.zipWith_cons_cons, List.map_cons, ih (Nat.succ.inj h)]

theorem included_marked {pool : Pool} {marks : List Bool} (h : marks.length = pool.dice.length)
    (i : Nat) : ((pool.marked marks).dice[i]?).map Die.included = marks[i]? := by
  rw [marked, List.getElem?_zipWith]
  by_cases hi : i < pool.dice.length
  · rw [List.getElem?_eq_getElem hi, List.getElem?_eq_getElem (h ▸ hi)]
    rfl
  · rw [List.getElem?_eq_none (Nat.le_of_not_lt hi), List.getElem?_eq_none (by omega)]
    rfl

theorem length_kept_marked {pool : Pool} {marks : List Bool}
    (h : marks.length = pool.dice.length) : (pool.marked marks).kept.length = marks.count true := by
  rw [kept, marked, ← List.countP_eq_length_filter]
  change (List.zipWith _ pool.dice marks).countP Die.included = _
  generalize pool.dice = dice at h ⊢
  induction dice generalizing marks with
  | nil => rw [List.length_eq_zero_iff.mp h]; rfl
  | cons die dice ih =>
    cases marks with
    | nil => cases h
    | cons mark marks =>
      rw [List.zipWith_cons_cons, List.countP_cons, List.count_cons, ih (Nat.succ.inj h)]
      cases mark <;> rfl

/-! ## 3. Selections -/

def ranks (pool : Pool) (mode : KeepMode) : List Nat :=
  pool.dice.map fun die => Selection.rank mode die.value

theorem length_ranks (pool : Pool) (mode : KeepMode) :
    (pool.ranks mode).length = pool.dice.length := by
  rw [ranks, List.length_map]

theorem rank_lt_of_mem_ranks {pool : Pool} {mode : KeepMode} :
    ∀ r ∈ pool.ranks mode, r < 0x100000000 := by
  intro r hr
  rcases List.mem_map.mp hr with ⟨die, _, rfl⟩
  exact Selection.rank_lt mode die.value

/-- The dice that come before one are those of larger rank, and of its rank those in front. -/
theorem countBefore_eq (pool : Pool) (mode : KeepMode) (i : Fin pool.dice.length)
    (hi : i < (pool.ranks mode).length) :
    pool.countBefore mode i = Selection.placesBefore (pool.ranks mode) i hi := by
  have hcount := Selection.countP_finRange
    (fun die : Die => decide (Selection.rank mode pool.dice[i].value < Selection.rank mode die.value))
    (fun die => Selection.rank mode die.value == Selection.rank mode pool.dice[i].value)
    (fun die hlt => by
      rw [decide_eq_true_eq] at hlt
      rw [beq_eq_false_iff_ne]
      omega)
    pool.dice i
  have hget : (pool.ranks mode)[i.val] = Selection.rank mode pool.dice[i].value :=
    List.getElem_map _
  rw [Selection.placesBefore, hget, ranks, List.countP_map, ← List.map_take,
    List.count_eq_countP, List.countP_map]
  refine Eq.trans (List.countP_congr fun j _ => ?_) hcount
  rw [decide_eq_true_eq, ComesBefore, ← Selection.rank_lt_rank_iff, ← Selection.rank_eq_rank_iff]
  simp only [Bool.or_eq_true, Bool.and_eq_true, decide_eq_true_eq, beq_iff_eq]
  rfl

def numberOf (pool : Pool) (number : Option UInt32) : UInt32 :=
  number.getD (defaultKeep pool.count)

theorem keep_eq_ok {pool : Pool} {mode : KeepMode} {number : Option UInt32}
    (h : pool.numberOf number ≤ pool.count) :
    pool.keep mode number =
      .ok (pool.marked (Selection.best (pool.numberOf number).toNat (pool.ranks mode))) :=
  if_neg (UInt32.not_lt.mpr h)

theorem keep_eq_error {pool : Pool} {mode : KeepMode} {number : Option UInt32}
    (h : pool.count < pool.numberOf number) :
    pool.keep mode number = .error (.keepExceedsDice (pool.numberOf number) pool.count) :=
  if_pos h

/-- A selection does not look at the one before. -/
theorem keep_allIncluded (pool : Pool) (mode : KeepMode) (number : Option UInt32) :
    pool.allIncluded.keep mode number = pool.keep mode number := by
  have hcount : pool.allIncluded.count = pool.count := by
    rw [count, allIncluded, List.length_map]
    rfl
  have hnumber : pool.allIncluded.numberOf number = pool.numberOf number := by
    rw [numberOf, hcount]
    rfl
  have hranks : pool.allIncluded.ranks mode = pool.ranks mode := by
    rw [ranks, allIncluded, List.map_map]
    rfl
  by_cases h : pool.count < pool.numberOf number
  · rw [keep_eq_error h, keep_eq_error (by rw [hcount, hnumber]; exact h), hcount, hnumber]
  · have hle := UInt32.not_lt.mp h
    rw [keep_eq_ok hle, keep_eq_ok (by rw [hcount, hnumber]; exact hle), hnumber, hranks,
      marked_allIncluded]

/-- The result of a selection: of the same dice exactly those count that fewer than `m` others come
before, and these are `m`. -/
structure Selects (pool : Pool) (mode : KeepMode) (m : Nat) (result : Pool) : Prop where
  same : result.allIncluded = pool.allIncluded
  included_iff (i : Fin pool.dice.length) :
    (result.dice[i.val]?).map Die.included = some (decide (pool.countBefore mode i < m))
  length_kept : result.kept.length = m

/-- The best ranks are those of the dice that fewer than `m` others come before. -/
theorem selects_best {pool : Pool} {m : Nat} (hm : m ≤ pool.dice.length) (mode : KeepMode) :
    pool.Selects mode m (pool.marked (Selection.best m (pool.ranks mode))) := by
  have hlength : (Selection.best m (pool.ranks mode)).length = pool.dice.length := by
    rw [Selection.length_best, length_ranks]
  have hranks : m ≤ (pool.ranks mode).length := by rw [length_ranks]; exact hm
  refine ⟨allIncluded_marked hlength, fun i => ?_, ?_⟩
  · have hi : i.val < (pool.ranks mode).length := by rw [length_ranks]; exact i.isLt
    rw [included_marked hlength, Selection.best_getElem? hranks rank_lt_of_mem_ranks hi,
      countBefore_eq pool mode i hi]
  · rw [length_kept_marked hlength, Selection.count_best hranks rank_lt_of_mem_ranks]

theorem toNat_count {pool : Pool} (h : pool.dice.length < 0x100000000) :
    pool.count.toNat = pool.dice.length :=
  UInt32.toNat_ofNat_of_lt' h

theorem numberOf_none_le (pool : Pool) : pool.numberOf none ≤ pool.count :=
  defaultKeep_le pool.count

theorem keep_congr {pool other : Pool} (h : other.allIncluded = pool.allIncluded)
    (mode : KeepMode) (number : Option UInt32) :
    other.keep mode number = pool.keep mode number := by
  rw [← keep_allIncluded other, h, keep_allIncluded]

/-- A selection keeps everything about the dice but which of them count. -/
theorem allIncluded_of_keep {pool result : Pool} {mode : KeepMode} {number : Option UInt32}
    (h : pool.keep mode number = .ok result) : result.allIncluded = pool.allIncluded := by
  -- What fails has no result, and what succeeds only marks dice.
  by_cases hlt : pool.count < pool.numberOf number
  · rw [keep_eq_error hlt] at h
    cases h
  · rw [keep_eq_ok (UInt32.not_lt.mp hlt)] at h
    rcases Except.ok.inj h with rfl
    apply allIncluded_marked
    rw [Selection.length_best, length_ranks]

/-! ## 4. The selection of a pool -/

/-- **A selection lets the best dice count, and no others.**  It succeeds if there are dice enough,
as there always are when no number is given; otherwise it names both numbers and the pool stays as
it is.  What counted before makes no difference, so of two selections only the later one shows. -/
theorem keep_selects (pool : Pool) (hcount : pool.dice.length < 0x100000000) (mode : KeepMode)
    (number : Option UInt32) :
    ((pool.numberOf number).toNat ≤ pool.dice.length →
      ∃ result, pool.keep mode number = .ok result ∧
        pool.Selects mode (pool.numberOf number).toNat result) ∧
    (pool.dice.length < (pool.numberOf number).toNat →
      (∃ available, available.toNat = pool.dice.length ∧
        pool.keep mode number = .error (.keepExceedsDice (pool.numberOf number) available)) ∧
      pool.attempt (.keep mode number) = pool) ∧
    (number = none → (pool.numberOf number).toNat ≤ pool.dice.length) ∧
    (∀ other : Pool, other.allIncluded = pool.allIncluded →
      other.keep mode number = pool.keep mode number) ∧
    ∀ (mode' : KeepMode) (number' : Option UInt32) (earlier : Pool),
      pool.keep mode' number' = .ok earlier → earlier.keep mode number = pool.keep mode number := by
  have htoNat := toNat_count hcount
  refine ⟨fun hle => ?_, fun hlt => ?_, ?_, fun other h => keep_congr h mode number, ?_⟩
  · have hnumber : pool.numberOf number ≤ pool.count := by
      rw [UInt32.le_iff_toNat_le, htoNat]
      exact hle
    exact ⟨_, keep_eq_ok hnumber, selects_best hle mode⟩
  · have hnumber : pool.count < pool.numberOf number := by
      rw [UInt32.lt_iff_toNat_lt, htoNat]
      exact hlt
    refine ⟨⟨pool.count, htoNat, keep_eq_error hnumber⟩, ?_⟩
    rw [attempt, orUnchanged, keep_eq_error hnumber]
    rfl
  · rintro rfl
    rw [← htoNat, ← UInt32.le_iff_toNat_le]
    exact numberOf_none_le pool
  · intro mode' number' earlier h
    exact keep_congr (allIncluded_of_keep h) mode number

def sixes : Pool where
  sides := 6
  dice := [⟨6, 4, false, none, {}⟩, ⟨6, 6, false, none, {}⟩, ⟨6, 6, false, none, {}⟩,
    ⟨6, 6, true, none, {}⟩]
  bonus := 0
  technique := none
  appearance := {}

theorem keep_selects_sixes :
    (∃ result, sixes.keep .highest (some 2) = .ok result ∧ sixes.Selects .highest 2 result) ∧
      sixes.attempt (.keep .lowest (some 5)) = sixes ∧
      (sixes.numberOf none).toNat ≤ sixes.dice.length ∧
      sixes.allIncluded.keep .lowest none = sixes.keep .lowest none :=
  ⟨(keep_selects sixes (by decide) .highest (some 2)).1 (by decide),
    ((keep_selects sixes (by decide) .lowest (some 5)).2.1 (by decide)).2,
    (keep_selects sixes (by decide) .lowest none).2.2.1 rfl,
    (keep_selects sixes (by decide) .lowest none).2.2.2.1 sixes.allIncluded (by decide)⟩

end Pool

end DiceCup
