import DiceCup.Proofs.Settings.Validity
import Mathlib.Data.List.Permutation

/-!
# Orders — which of two changes comes first

Two values that go together need not go together with what was there before, so of two changes the
one that comes first may be turned down.  The one that comes second cannot be: it finds the other
value in place.  So either order ends in the same settings, if it does not end where it began.  For
the two numbers of dice one order always goes through.
-/

namespace DiceCup

namespace Settings

variable {s : Settings} {c d : Change} {v w : FieldValue} {e : RollError}

/-! ## 1. The first of two changes decides -/

theorem changeAll_pair (s : Settings) (c d : Change) :
    s.changeAll [c, d] = s.change c >>= fun t => t.change d := by
  simp only [changeAll, List.foldlM_cons, List.foldlM_nil, bind_pure]

/-- If both numbers go together in the end, only the first of two changes can fail. -/
theorem changeAll_pair_eq (h : s.Valid) (hc : c.value = .ok v) (hd : d.value = .ok w)
    (hle : ((s.put c.field v).put d.field w).diceKept ≤
      ((s.put c.field v).put d.field w).diceRolled) :
    s.changeAll [c, d] = (s.change c).map fun _ => (s.put c.field v).put d.field w := by
  rw [changeAll_pair]
  cases hfirst : s.change c with
  | error e => rfl
  | ok t =>
    have ht : s.put c.field v = t := by
      obtain ⟨v', hv', hput, -⟩ := (change_eq_ok_iff h).mp hfirst
      rw [hc] at hv'
      cases hv'
      exact hput
    have hvalid : t.Valid := h.change hfirst
    show t.change d = .ok _
    rw [ht] at hle ⊢
    exact (change_eq_ok_iff hvalid).mpr ⟨w, hd, rfl, hle⟩

theorem change_eq_error_iff_of_value (h : s.Valid) (hc : c.value = .ok v) :
    s.change c = .error e ↔ (s.put c.field v).diceRolled < (s.put c.field v).diceKept ∧
      e = .keptExceedsRolled (s.put c.field v).diceKept (s.put c.field v).diceRolled := by
  rw [change_eq_error_iff h, hc]
  simp only [reduceCtorEq, false_or, Except.ok.injEq, exists_eq_left']

theorem attempt_of_error (h : s.change c = .error e) : s.attempt c = s := by
  rw [attempt, h]

/-! ## 2. The two numbers of dice -/

/-- **Any two numbers of dice are within reach**, in whatever figures they come and whatever was
asked of the settings before, if at least one die is to be kept and no more than are to be rolled.
One order of the two changes goes through, or both do, and every order that goes through ends in the
same settings, in which nothing but the two numbers is new.  An order that does not go through fails
at its first change, which leaves the settings alone.  It does so just where that change by itself
would have more dice kept than rolled, the other number being what it was. -/
theorem dice_numbers_within_reach (start : Settings) (hstart : start.Initial)
    (changes : List Change) (rolled kept : UInt32) (r k : Figure)
    (hr : r.toInt64? = some (rolled.toNat : Int)) (hk : k.toInt64? = some (kept.toNat : Int))
    (hpos : 1 ≤ kept) (hle : kept ≤ rolled) :
    let s := start.after changes
    let target := { s with diceRolled := rolled, diceKept := kept }
    let roll := Change.diceRolled r
    let keep := Change.diceKept k
    (s.changeAll [roll, keep] = .ok target ∨ s.changeAll [keep, roll] = .ok target) ∧
    (∀ c d, [c, d].Perm [roll, keep] →
      (∀ t, s.changeAll [c, d] = .ok t → t = target) ∧
      ∀ e, (s.changeAll [c, d] = .error e ↔ s.change c = .error e) ∧
        (s.change c = .error e → s.attempt c = s)) ∧
    (∀ e, s.change roll = .error e ↔
      rolled < s.diceKept ∧ e = .keptExceedsRolled s.diceKept rolled) ∧
    ∀ e, s.change keep = .error e ↔
      s.diceRolled < kept ∧ e = .keptExceedsRolled kept s.diceRolled := by
  intro s target roll keep
  have hvalid : s.Valid := hstart.valid.after changes
  have hroll : roll.value = .ok (.number rolled) :=
    RollError.map_eq_ok.mpr ⟨rolled, Figure.positive_of_one_le hr (UInt32.le_trans hpos hle), rfl⟩
  have hkeep : keep.value = .ok (.number kept) :=
    RollError.map_eq_ok.mpr ⟨kept, Figure.positive_of_one_le hk hpos, rfl⟩
  -- Both orders put the same values into the same fields, and those go together.
  have hcourse {c d : Change} (horder : [c, d].Perm [roll, keep]) :
      s.changeAll [c, d] = (s.change c).map fun _ => target := by
    rcases List.perm_pair.mp horder with hsame | hsame <;> cases hsame
    · exact changeAll_pair_eq hvalid hroll hkeep hle
    · exact changeAll_pair_eq hvalid hkeep hroll hle
  refine ⟨?reached, fun c d horder => ⟨fun t ht => ?same, fun e => ⟨?first, attempt_of_error⟩⟩,
    fun e => change_eq_error_iff_of_value hvalid hroll,
    fun e => change_eq_error_iff_of_value hvalid hkeep⟩
  case reached =>
    -- Where too few dice are to be rolled for those kept so far, fewer are to be kept from now on.
    by_cases hfew : rolled < s.diceKept
    · right
      have hadmitted : kept ≤ s.diceRolled :=
        UInt32.le_trans hle (UInt32.le_trans (UInt32.le_of_lt hfew) hvalid.2.2.2.2)
      have hfirst : s.change keep = .ok { s with diceKept := kept } :=
        (change_eq_ok_iff hvalid).mpr ⟨_, hkeep, rfl, hadmitted⟩
      rw [hcourse (List.Perm.swap roll keep []), hfirst]
      rfl
    · left
      have hfirst : s.change roll = .ok { s with diceRolled := rolled } :=
        (change_eq_ok_iff hvalid).mpr ⟨_, hroll, rfl, UInt32.not_lt.mp hfew⟩
      rw [hcourse (List.Perm.refl _), hfirst]
      rfl
  case same =>
    rw [hcourse horder] at ht
    obtain ⟨_, _, htarget⟩ := RollError.map_eq_ok.mp ht
    exact htarget.symm
  case first =>
    rw [hcourse horder]
    exact RollError.map_eq_error

theorem dice_numbers_within_reach_from_eight_of_ten :
    let s := after {} [.diceRolled (.whole 10), .diceKept (.text " 8")]
    let roll := Change.diceRolled (.text "+5")
    let keep := Change.diceKept (.whole 2)
    Initial {} ∧ Figure.toInt64? (.text "+5") = some 5 ∧ Figure.toInt64? (.whole 2) = some 2 ∧
    s.changeAll [roll, keep] = .error (.keptExceedsRolled 8 5) ∧ s.attempt roll = s ∧
    s.changeAll [keep, roll] = .ok { diceRolled := 5, diceKept := 2 } := by
  intro s roll keep
  have hs : s = { diceRolled := 10, diceKept := 8 } := by decide +kernel
  have hfive : Figure.toInt64? (.text "+5") = some 5 := by decide +kernel
  obtain ⟨hreached, hcourse, hfew, -⟩ := dice_numbers_within_reach {} .defaults
    [.diceRolled (.whole 10), .diceKept (.text " 8")] 5 2 (.text "+5") (.whole 2) hfive rfl
    (by decide) (by decide)
  have hrefused : s.change roll = .error (.keptExceedsRolled 8 5) := by
    apply (hfew _).mpr
    show 5 < s.diceKept ∧ _ = RollError.keptExceedsRolled s.diceKept 5
    rw [hs]
    decide
  have hrollFirst := (hcourse roll keep (List.Perm.refl _)).2 (.keptExceedsRolled 8 5)
  have hfails : s.changeAll [roll, keep] = .error (.keptExceedsRolled 8 5) :=
    hrollFirst.1.mpr hrefused
  have hkeepFirst : s.changeAll [keep, roll] = .ok { s with diceRolled := 5, diceKept := 2 } := by
    rcases hreached with h | h
    · rw [hfails] at h
      cases h
    · exact h
  rw [hs] at hkeepFirst
  exact ⟨.defaults, hfive, rfl, hfails, hrollFirst.2 hrefused, hkeepFirst⟩

end Settings

end DiceCup
