import DiceCup.Proofs.Cup.Turns
import DiceCup.Proofs.Formula.Total
import DiceCup.Proofs.Pool.Refusal

/-!
# Refused formulas — the first cause decides

Whether a formula can be rolled is decided by the formula and the options alone.  Four causes are
found before any die shows a value, so that the cup stays as it is.  The fifth, more dice to keep
than there are, is found by the selection, when all dice are rolled already.
-/

namespace DiceCup

namespace Formula

/-! ## 1. The causes in their order -/

def clash? (f : Formula) (options : RollOptions) : Option (Int32 × Int32) :=
  match options.bonus, f.modifier with
  | some explicit, some encoded => if explicit = encoded then none else some (explicit, encoded)
  | _, _ => none

def mergedOptions (f : Formula) (options : RollOptions) : RollOptions :=
  { options with bonus := f.modifier.or options.bonus }

/-- Why no die of a formula is rolled: the first cause that applies. -/
def refusal? (f : Formula) (options : RollOptions) : Option RollError :=
  match f.clash? options with
  | some (explicit, encoded) => some (.bonusMismatch explicit encoded)
  | none => Pool.refusal? f.sides f.count ((f.mergedOptions options).bonus.getD 0)

/-- Why the dice of a formula, once they are rolled, have no selection. -/
def overkeep? (f : Formula) : Option RollError :=
  match f.keep with
  | some keep => if f.count < keep.count then some (.keepExceedsDice keep.count f.count) else none
  | none => none

variable {f : Formula} {options : RollOptions}

theorem mergeOptions_eq (f : Formula) (options : RollOptions) :
    f.mergeOptions options = match f.clash? options with
      | some (explicit, encoded) => .error (.bonusMismatch explicit encoded)
      | none => .ok (f.mergedOptions options) := by
  rcases f with ⟨action, sides, count, keep, modifier⟩
  rcases options with ⟨technique, bonus, appearance⟩
  cases modifier with
  | none => cases bonus <;> rfl
  | some encoded =>
    cases bonus with
    | none => rfl
    | some explicit =>
      -- Only two bonuses that are both given can disagree.
      by_cases h : explicit = encoded <;>
        simp [mergeOptions, mergeBonus, clash?, mergedOptions, h, bind, Except.bind, pure,
          Except.pure]

/-! ## 2. Rolling a formula -/

/-- A refused formula rolls nothing, so the cup stays as it is. -/
theorem runOn_roll_of_refusal {e : RollError} (cup : Cup) (h : f.refusal? options = some e) :
    (f.roll options).runOn cup = (.error e, cup) := by
  unfold refusal? at h
  rw [roll, RollM.runOn_bind, RollM.runOn_lift, mergeOptions_eq]
  cases hclash : f.clash? options with
  | some pair =>
    rw [hclash] at h
    cases h
    rfl
  | none =>
    rw [hclash] at h
    dsimp only at h ⊢
    rw [RollM.runOn_bind, Pool.runOn_roll_of_refusal cup h]

def select (f : Formula) (pool : Pool) : Except RollError Pool :=
  match f.keep with
  | some keep => pool.keep keep.mode (some keep.count)
  | none => .ok pool

theorem roll_eq_of_no_refusal (h : f.refusal? options = none) :
    f.roll options = Pool.roll f.sides f.count (f.mergedOptions options) >>=
      fun pool => RollM.lift (f.select pool) := by
  -- Two bonuses that disagree would have been the refusal.
  have hclash : f.clash? options = none := by
    cases hclash : f.clash? options with
    | none => rfl
    | some pair =>
      rw [refusal?, hclash] at h
      cases h
  apply RollM.ext
  intro cup
  rw [roll, mergeOptions_eq, hclash, RollM.runOn_bind, RollM.runOn_lift]
  unfold select
  cases f.keep <;> rfl

/-- A formula that is not refused rolls its dice, whatever becomes of the selection. -/
theorem exists_roll_of_no_refusal (cup : Cup) (h : f.refusal? options = none) :
    ∃ pool cup', (Pool.roll f.sides f.count (f.mergedOptions options)).runOn cup =
      (.ok pool, cup') ∧ (f.roll options).runOn cup = (f.select pool, cup') := by
  have hpool : Pool.refusal? f.sides f.count ((f.mergedOptions options).bonus.getD 0) = none := by
    unfold refusal? at h
    split at h
    next => cases h
    next => exact h
  obtain ⟨pool, cup', hroll⟩ := Pool.exists_roll_of_no_refusal cup hpool
  refine ⟨pool, cup', hroll, ?_⟩
  rw [roll_eq_of_no_refusal h, RollM.runOn_bind, hroll]
  rfl

theorem select_of_overkeep {pool : Pool} {e : RollError} (hcount : pool.count = f.count)
    (h : f.overkeep? = some e) : f.select pool = .error e := by
  unfold overkeep? at h
  unfold select
  cases hkeep : f.keep with
  | none =>
    rw [hkeep] at h
    cases h
  | some keep =>
    rw [hkeep] at h
    dsimp only at h ⊢
    split at h
    next hlt =>
      cases h
      -- The selection compares with the dice of the pool, which are as many as were rolled.
      rw [← hcount] at hlt ⊢
      exact Pool.keep_eq_error hlt
    next => cases h

theorem exists_select {pool : Pool} (hcount : pool.count = f.count) (h : f.overkeep? = none) :
    ∃ result, f.select pool = .ok result := by
  unfold overkeep? at h
  unfold select
  cases hkeep : f.keep with
  | none => exact ⟨pool, rfl⟩
  | some keep =>
    rw [hkeep] at h
    dsimp only at h
    split at h
    next => cases h
    next hlt =>
      rw [← hcount] at hlt
      exact ⟨_, Pool.keep_eq_ok (UInt32.not_lt.mp hlt)⟩

/-! ## 3. The outcome of a formula -/

theorem runOn_invoke_eq_error {e : RollError} {cup cup' : Cup} :
    (f.invoke options).runOn cup = (.error e, cup') ↔
      (f.roll options).runOn cup = (.error e, cup') := by
  rw [invoke_eq]
  exact RollM.runOn_map_eq_error

theorem exists_invoke {pool : Pool} {cup cup' : Cup}
    (h : (f.roll options).runOn cup = (.ok pool, cup')) :
    ∃ outcome, (f.invoke options).runOn cup = (.ok outcome, cup') := by
  rw [invoke_eq]
  exact ⟨_, RollM.runOn_map_eq_ok.mpr ⟨pool, h, rfl⟩⟩

/-- If more dice are to be kept than there are, this is found out behind the last roll. -/
theorem runOn_invoke_of_overkeep {e : RollError} (cup : Cup) (hrolls : f.refusal? options = none)
    (h : f.overkeep? = some e) :
    ∃ pool cup', (Pool.roll f.sides f.count (f.mergedOptions options)).runOn cup =
      (.ok pool, cup') ∧ (f.invoke options).runOn cup = (.error e, cup') := by
  obtain ⟨pool, cup', hpool, hroll⟩ := exists_roll_of_no_refusal cup hrolls
  have hcount := (Pool.sound_of_roll hpool).count_eq
  rw [select_of_overkeep hcount h] at hroll
  exact ⟨pool, cup', hpool, runOn_invoke_eq_error.mpr hroll⟩

/-- Without a cause against it, a formula has an outcome on every cup. -/
theorem exists_invoke_of_no_refusal (cup : Cup) (hrolls : f.refusal? options = none)
    (h : f.overkeep? = none) :
    ∃ outcome cup', (f.invoke options).runOn cup = (.ok outcome, cup') := by
  obtain ⟨pool, cup', hpool, hroll⟩ := exists_roll_of_no_refusal cup hrolls
  obtain ⟨result, hresult⟩ := exists_select (Pool.sound_of_roll hpool).count_eq h
  rw [hresult] at hroll
  obtain ⟨outcome, houtcome⟩ := exists_invoke hroll
  exact ⟨outcome, cup', houtcome⟩

theorem kind_of_refusal {e : RollError} (h : f.refusal? options = some e) :
    e.kind ≠ .noSuchOperation := by
  unfold refusal? Pool.refusal? at h
  grind [RollError.kind]

theorem kind_of_overkeep {e : RollError} (h : f.overkeep? = some e) :
    e.kind ≠ .noSuchOperation := by
  unfold overkeep? at h
  grind [RollError.kind]

def cause? (f : Formula) (options : RollOptions) : Option RollError :=
  (f.refusal? options).or f.overkeep?

/-- The cup says nothing about whether a formula fails, and nothing about why. -/
theorem exists_invoke_eq_error_iff {e : RollError} (cup : Cup) :
    (∃ cup', (f.invoke options).runOn cup = (.error e, cup')) ↔ f.cause? options = some e := by
  unfold cause?
  -- In each of the three cases the result is known, on this cup as on any other.
  cases hrolls : f.refusal? options with
  | some cause =>
    have hinvoke := runOn_invoke_eq_error.mpr (runOn_roll_of_refusal cup hrolls)
    simp [hinvoke]
  | none =>
    cases hkeep : f.overkeep? with
    | some cause =>
      obtain ⟨_, cup', _, hinvoke⟩ := runOn_invoke_of_overkeep cup hrolls hkeep
      simp [hinvoke]
    | none =>
      obtain ⟨_, _, hinvoke⟩ := exists_invoke_of_no_refusal cup hrolls hkeep
      simp [hinvoke]

/-- No cause of a formula's own is that of an unknown identifier. -/
theorem kind_of_invoke_eq_error {e : RollError} {cup cup' : Cup}
    (h : (f.invoke options).runOn cup = (.error e, cup')) : e.kind ≠ .noSuchOperation := by
  have hcause := (exists_invoke_eq_error_iff cup).mp ⟨cup', h⟩
  rcases Option.or_eq_some_iff.mp hcause with hrolls | ⟨_, hkeep⟩
  · exact kind_of_refusal hrolls
  · exact kind_of_overkeep hkeep

/-- **The first cause that applies decides, and nothing else**: a formula fails with it on every
cup, or on none.  Up to the last cause the cup stays as it is; when only the selection fails, all
dice of the pool have been rolled. -/
theorem invoke_decided (f : Formula) (options : RollOptions) :
    match f.refusal? options, f.overkeep? with
    | some e, _ => ∀ cup, (f.invoke options).runOn cup = (.error e, cup)
    | none, some e => ∀ cup, ∃ pool values cup',
        (Pool.roll f.sides f.count (f.mergedOptions options)).runOn cup = (.ok pool, cup') ∧
        (RollM.times f.count.toNat (Cup.roll f.sides options.technique)).runOn cup =
          (.ok values, cup') ∧
        (f.invoke options).runOn cup = (.error e, cup')
    | none, none => ∀ cup, ∃ outcome cup', (f.invoke options).runOn cup = (.ok outcome, cup') := by
  split
  next e _ hrolls =>
    intro cup
    exact runOn_invoke_eq_error.mpr (runOn_roll_of_refusal cup hrolls)
  next e hrolls hkeep =>
    intro cup
    obtain ⟨pool, cup', hpool, hinvoke⟩ := runOn_invoke_of_overkeep cup hrolls hkeep
    obtain ⟨_, _, values, hvalues, _⟩ := Pool.roll_eq_ok hpool
    exact ⟨pool, values, cup', hpool, hvalues, hinvoke⟩
  next hrolls hkeep =>
    intro cup
    exact exists_invoke_of_no_refusal cup hrolls hkeep

-- The largest numbers of dice and of sides, whose product 64 signed bits cannot hold.
example : refusal? ⟨.total, 0xFFFFFFFF, 0xFFFFFFFF, none, some (-3)⟩ {} =
    some (.totalOutOfRange 0xFFFFFFFF 0xFFFFFFFF (-3)) := by decide

end Formula

end DiceCup
