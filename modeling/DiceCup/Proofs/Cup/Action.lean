import DiceCup.Cup.Roll

/-!
# Actions — runs of composed and repeated actions

A run of a composed action is taken apart into the runs of its parts, with the cup between them.  A
repeated action that folds its results does the same to the cup as one that lists them, and the fold
of the list is its result (`foldTimes_eq`), so what is known of the list is known of every loop.
-/

namespace DiceCup.RollM

variable {α β γ : Type}

/-! ## 1. Composed actions -/

/-- If two actions one after the other succeed, both do. -/
theorem runOn_bind_eq_ok {x : RollM α} {f : α → RollM β} {b : β} {cup cup' : Cup}
    (h : (x >>= f).runOn cup = (.ok b, cup')) :
    ∃ a mid, x.runOn cup = (.ok a, mid) ∧ (f a).runOn mid = (.ok b, cup') := by
  rw [runOn_bind] at h
  split at h
  · rename_i a mid hx
    exact ⟨a, mid, hx, h⟩
  · cases h

/-- What follows an action matters only for the results that the action can have. -/
theorem bind_congr_of_ok {x : RollM α} {f g : α → RollM β}
    (h : ∀ cup a cup', x.runOn cup = (.ok a, cup') → f a = g a) : x >>= f = x >>= g := by
  apply ext
  intro cup
  rw [runOn_bind, runOn_bind]
  cases hx : x.runOn cup with
  | mk result cup' =>
    cases result with
    | error e => rfl
    | ok a => exact congrArg (RollM.runOn · cup') (h cup a cup' hx)

theorem runOn_map (f : α → β) (x : RollM α) (cup : Cup) :
    (f <$> x).runOn cup = ((x.runOn cup).1.map f, (x.runOn cup).2) := by
  rw [map_eq_pure_bind, runOn_bind]
  rcases x.runOn cup with ⟨_ | _, _⟩ <;> rfl

theorem runOn_map_eq_ok {f : α → β} {x : RollM α} {b : β} {cup cup' : Cup} :
    (f <$> x).runOn cup = (.ok b, cup') ↔ ∃ a, x.runOn cup = (.ok a, cup') ∧ f a = b := by
  rw [runOn_map]
  rcases x.runOn cup with ⟨e | a, mid⟩
  · constructor
    · intro h
      cases h
    · rintro ⟨a, h, _⟩
      cases h
  · constructor
    · intro h
      cases h
      exact ⟨a, rfl, rfl⟩
    · rintro ⟨a, h, rfl⟩
      cases h
      rfl

theorem runOn_map_eq_error {f : α → β} {x : RollM α} {e : RollError} {cup cup' : Cup} :
    (f <$> x).runOn cup = (.error e, cup') ↔ x.runOn cup = (.error e, cup') := by
  rw [runOn_map]
  rcases x.runOn cup with ⟨e' | a, mid⟩
  · change (Except.error e', mid) = (Except.error e, cup') ↔ _
    rw [Prod.mk.injEq, Prod.mk.injEq, Except.error.injEq, Except.error.injEq]
  · constructor
    · intro h
      cases h
    · intro h
      cases h

/-! ## 2. Repeated actions -/

/-- The loop keeps what it was given behind what it adds. -/
theorem foldTimes_cons (n : Nat) (x : RollM α) (done : List α) :
    foldTimes (fun done a => a :: done) done n x =
      (· ++ done) <$> foldTimes (fun done a => a :: done) [] n x := by
  -- By induction on the times, for whatever was done before.
  induction n generalizing done with
  | zero => rfl
  | succ n ih =>
    rw [foldTimes_succ, foldTimes_succ, map_bind]
    apply bind_congr
    intro a
    rw [ih (a :: done), ih [a], Functor.map_map]
    congr 1
    funext as
    rw [List.append_assoc]
    rfl

theorem times_succ (n : Nat) (x : RollM α) :
    times (n + 1) x = x >>= fun a => (a :: ·) <$> times n x := by
  rw [times, foldTimes_succ, map_bind]
  apply bind_congr
  intro a
  rw [foldTimes_cons, Functor.map_map, times, Functor.map_map]
  congr 1
  funext as
  rw [List.reverse_append]
  rfl

/-- A loop that folds its results is the fold of the list of results. -/
theorem foldTimes_eq (step : β → α → β) (init : β) (n : Nat) (x : RollM α) :
    foldTimes step init n x = List.foldl step init <$> times n x := by
  induction n generalizing init with
  | zero => rfl
  | succ n ih =>
    rw [foldTimes_succ, times_succ, map_bind]
    apply bind_congr
    intro a
    rw [ih (step init a), Functor.map_map]
    rfl

/-- A function of each result may as well be applied to the list of them. -/
theorem times_map (f : α → β) (n : Nat) (x : RollM α) :
    times n (f <$> x) = List.map f <$> times n x := by
  induction n with
  | zero => rfl
  | succ n ih =>
    rw [times_succ, times_succ, map_bind, ih, bind_map_left]
    apply bind_congr
    intro a
    rw [Functor.map_map, Functor.map_map]
    rfl

/-- A repetition that succeeds has one result for each time. -/
theorem length_of_times {n : Nat} {x : RollM α} {as : List α} {cup cup' : Cup}
    (h : (times n x).runOn cup = (.ok as, cup')) : as.length = n := by
  induction n generalizing as cup with
  | zero =>
    cases h
    rfl
  | succ n ih =>
    rw [times_succ] at h
    rcases runOn_bind_eq_ok h with ⟨a, mid, _, hrest⟩
    rcases runOn_map_eq_ok.mp hrest with ⟨rest, htimes, rfl⟩
    rw [List.length_cons, ih htimes]

/-- An action that succeeds on every cup can be repeated as often as wanted. -/
theorem exists_times {x : RollM α} (hx : ∀ cup, ∃ a cup', x.runOn cup = (.ok a, cup')) (n : Nat)
    (cup : Cup) : ∃ as cup', (times n x).runOn cup = (.ok as, cup') := by
  -- Each time starts from the cup that the times before it left, so the cup is not fixed.
  induction n generalizing cup with
  | zero => exact ⟨[], cup, rfl⟩
  | succ n ih =>
    rcases hx cup with ⟨a, mid, ha⟩
    rcases ih mid with ⟨rest, cup', hrest⟩
    refine ⟨a :: rest, cup', ?_⟩
    rw [times_succ, runOn_bind, ha]
    exact runOn_map_eq_ok.mpr ⟨rest, hrest, rfl⟩

/-- What every result of an action satisfies, all results of its repetition satisfy. -/
theorem forall_mem_of_times {P : α → Prop} {n : Nat} {x : RollM α} {as : List α} {cup cup' : Cup}
    (hx : ∀ a cup cup', x.runOn cup = (.ok a, cup') → P a)
    (h : (times n x).runOn cup = (.ok as, cup')) : ∀ a ∈ as, P a := by
  induction n generalizing as cup with
  | zero =>
    cases h
    intro a ha
    cases ha
  | succ n ih =>
    rw [times_succ] at h
    rcases runOn_bind_eq_ok h with ⟨a, mid, ha, hrest⟩
    rcases runOn_map_eq_ok.mp hrest with ⟨rest, htimes, rfl⟩
    intro b hb
    rcases List.mem_cons.mp hb with rfl | hb
    · exact hx b cup mid ha
    · exact ih htimes b hb

end DiceCup.RollM
