import DiceCup.Proofs.Cup.Streams

/-!
# Schedules — when a cup reseeds by itself

A roll draws, counts, and reseeds the cup's own technique when the count has reached the interval.
Under an interval of `k` rolls the count therefore runs through the remainders of `k`, and a reseed
follows each roll that brings it to zero.  A count that an interval has overtaken is mended by the
next roll.
-/

namespace DiceCup

open DiceCup.Random

namespace Cup

def Request.isRoll : Request → Bool
  | .roll sides _ => sides ≠ 0
  | .reseed _ | .technique _ | .interval _ | .settings _ => false

namespace Step

/-- The cup once the die was drawn and counted, before any reseed. -/
def counted (step : Step) : Cup :=
  match step.request with
  | .roll sides technique =>
    { (step.before.draw sides (technique.getD step.before.technique)).2 with
      rolled := step.before.rolled + 1 }
  | .reseed _ | .technique _ | .interval _ | .settings _ => step.before

/-- The generators of the streams are at a start, and no seed of another one has changed, but that
the instance generator may have come into being by a draw from it. -/
structure Renews (step : Step) (streams : List Stream) : Prop where
  renewed : ∀ s ∈ streams, ∃ seed, step.after.generator? s = some (.ofSeed seed)
  kept : ∀ s ∉ streams, step.after.seed? s ≠ step.before.seed? s →
    s = .ownInstance ∧ step.before.seed? s = none ∧
      ∃ sides value, .drawn .ownInstance sides value ∈ step.events

structure Reseeds (step : Step) (t : Technique) : Prop where
  after_eq : step.after = (step.counted.reseed { technique := some t }).2
  renews : step.Renews (seededStreams t)

structure Counts (step : Step) : Prop where
  after_eq : step.after = step.counted
  renews : step.Renews []

end Step

/-- The course of rolls under an interval that the count has not reached. -/
structure Scheduled (cup : Cup) (interval : Interval) (requests : List Request) : Prop where
  rolled_after : (cup.after requests).rolled.toNat =
    (cup.rolled.toNat + requests.length) % interval.rolls.toNat
  rolled_lt : ∀ step ∈ cup.history requests, step.after.rolled < interval.rolls
  reseeds : ∀ i step, (cup.history requests)[i]? = some step →
    if (cup.rolled.toNat + (i + 1)) % interval.rolls.toNat = 0
      then step.Reseeds cup.technique else step.Counts

variable {s : Stream} {cup : Cup} {step : Step} {request : Request} {requests : List Request}
  {interval : Interval}

/-! ## 1. Seeds -/

/-- Without a start a seed stays as it is, or a draw made the generator. -/
theorem Story.seed_eq {events : List Event} {g? next : Option Generator}
    (h : Story s events g? next) (hstarted : .started s ∉ events) :
    next.map Generator.seed = g?.map Generator.seed ∨
      g? = none ∧ ∃ sides value, .drawn s sides value ∈ events := by
  -- By induction on the events: what the first one does to the seed, the later ones keep.
  induction h with
  | nil => exact .inl rfl
  | cons hact _ ih =>
    have hrest := ih fun hmem => hstarted (List.mem_cons_of_mem _ hmem)
    cases hact with
    | apart =>
      rcases hrest with hseed | ⟨hnone, sides, value, hmem⟩
      · exact .inl hseed
      · exact .inr ⟨hnone, sides, value, List.mem_cons_of_mem _ hmem⟩
    | started => exact absurd List.mem_cons_self hstarted
    | @drawn sides value g? g next _ hfrom hface =>
      -- A draw moves the generator on, or has just made the one that it moves on.
      rcases hfrom with hg | ⟨hnone, _⟩
      · rcases hrest with hseed | ⟨hnone, _⟩
        · have hsame : next.seed = g.seed := by
            have hdrawn := seed_drawFace sides g
            rwa [hface] at hdrawn
          left
          rw [hseed, hg, Option.map_some, Option.map_some, hsame]
        · cases hnone
      · exact .inr ⟨hnone, sides, value, List.mem_cons_self⟩

theorem Story.renewed {streams : List Stream} {g? next : Option Generator}
    (h : Story s (streams.map .started) g? next) (hmem : s ∈ streams) :
    ∃ seed, next = some (.ofSeed seed) := by
  induction streams generalizing g? with
  | nil => cases hmem
  | cons stream streams ih =>
    cases h with
    | cons hact hrest =>
      by_cases hlater : s ∈ streams
      · exact ih hrest hlater
      · -- This start is the last one, and so the generator stays at it.
        have hself : s = stream := (List.mem_cons.mp hmem).resolve_right hlater
        have hlast := hrest.eq_of_apart fun event hevent heq => by
          obtain ⟨other, hother, rfl⟩ := List.mem_map.mp hevent
          exact hlater (heq ▸ hother)
        cases hact with
        | apart hne => exact absurd hself.symm hne
        | started seed => exact ⟨seed, hlast⟩

/-! ## 2. One roll -/

theorem counted_policy (h : step.request.isRoll) :
    step.counted.technique = step.before.technique ∧
      step.counted.interval = step.before.interval ∧
      step.counted.rolled = step.before.rolled + 1 := by
  rcases step with ⟨cup, request⟩
  cases request with
  | roll sides technique =>
    have hpolicy := policy_draw sides (technique.getD cup.technique) cup
    exact ⟨hpolicy.1, hpolicy.2.1, rfl⟩
  | reseed | technique | interval | settings => cases h

theorem reseed_own (cup : Cup) :
    cup.reseed {} = cup.reseed { technique := some cup.technique } := rfl

theorem reply_of_isRoll (h : step.request.isRoll) : ∃ value, step.reply = .rolled (.ok value) := by
  rcases step with ⟨cup, request⟩
  cases request with
  | roll sides technique =>
    have hsides : sides ≠ 0 := of_decide_eq_true h
    simp only [Step.reply, answer, runOn_roll hsides]
    exact ⟨_, rfl⟩
  | reseed | technique | interval | settings => cases h

/-- A roll is drawn and counted, and then the cup is reseeded if that is due. -/
theorem after_of_isRoll (h : step.request.isRoll) :
    step.after = if step.before.reseedsNext
      then (step.counted.reseed { technique := some step.before.technique }).2
      else step.counted := by
  obtain ⟨htechnique, hinterval, hrolled⟩ := counted_policy h
  -- Only the interval and the count decide, and the draw has left the interval alone.
  have hdue : step.before.reseedsNext = step.counted.isDue := by
    unfold reseedsNext isDue
    rw [hinterval, hrolled]
  rw [hdue, ← htechnique, ← reseed_own]
  rcases step with ⟨cup, request⟩
  cases request with
  | roll sides technique =>
    have hsides : sides ≠ 0 := of_decide_eq_true h
    have hpolicy := (policy_draw sides (technique.getD cup.technique) cup).2.2
    simp only [Step.after, answer, runOn_roll hsides, countRoll, Step.counted, hpolicy]
    rfl
  | reseed | technique | interval | settings => cases h

def Step.reseeded (step : Step) : List Stream :=
  if step.before.reseedsNext then seededStreams step.before.technique else []

/-- A roll draws one die and then starts the generators of a due reseed, if any. -/
theorem events_of_isRoll (h : step.request.isRoll) : ∃ stream sides value,
    step.events = .drawn stream sides value :: step.reseeded.map .started := by
  obtain ⟨value, hreply⟩ := reply_of_isRoll h
  rcases step with ⟨cup, request⟩
  cases request with
  | roll sides technique =>
    simp only [Step.events, hreply]
    exact ⟨_, _, _, rfl⟩
  | reseed | technique | interval | settings => cases h

theorem renews_of_isRoll (h : step.request.isRoll) : step.Renews step.reseeded := by
  obtain ⟨stream, sides, value, hevents⟩ := events_of_isRoll h
  have hentropy : .entropy ∉ step.reseeded := by
    unfold Step.reseeded
    split
    · exact entropy_notMem_seededStreams _
    · exact List.not_mem_nil
  constructor
  · intro s hs
    have hne : s ≠ .entropy := fun heq => hentropy (heq ▸ hs)
    have hstory := step.story hne
    rw [hevents] at hstory
    cases hstory with
    | cons _ hrest => exact hrest.renewed hs
  · intro s hs hchanged
    have hne : s ≠ .entropy := by
      rintro rfl
      exact hchanged rfl
    have hstarted : .started s ∉ step.events := by
      rw [hevents]
      simpa using hs
    -- What is left is that the draw made a generator, and only the instance can have had none.
    rcases (step.story hne).seed_eq hstarted with hseed | ⟨hnone, hdrawn⟩
    · exact absurd hseed hchanged
    · cases s with
      | entropy => exact absurd rfl hne
      | global => cases hnone
      | ownInstance => exact ⟨rfl, by rw [seed?, hnone]; rfl, hdrawn⟩

theorem reseeds_of_due (h : step.request.isRoll) (hdue : step.before.reseedsNext) :
    step.Reseeds step.before.technique := by
  have hafter := after_of_isRoll h
  have hrenews := renews_of_isRoll h
  rw [Step.reseeded, if_pos hdue] at hrenews
  rw [if_pos hdue] at hafter
  exact ⟨hafter, hrenews⟩

theorem counts_of_not_due (h : step.request.isRoll) (hdue : ¬step.before.reseedsNext) :
    step.Counts := by
  have hafter := after_of_isRoll h
  have hrenews := renews_of_isRoll h
  rw [Step.reseeded, if_neg hdue] at hrenews
  rw [if_neg hdue] at hafter
  exact ⟨hafter, hrenews⟩

theorem policy_after (h : step.request.isRoll) : step.after.technique = step.before.technique ∧
    step.after.interval = step.before.interval ∧
    step.after.rolled = if step.before.reseedsNext then 0 else step.before.rolled + 1 := by
  have hcounted := counted_policy h
  rw [after_of_isRoll h]
  split
  · have hreseed := policy_reseed { technique := some step.before.technique } step.counted
    exact ⟨hreseed.1.trans hcounted.1, hreseed.2.1.trans hcounted.2.1, hreseed.2.2⟩
  · exact hcounted

theorem toNat_succ {n : UInt32} (h : n.toNat + 1 < UInt32.size) : (n + 1).toNat = n.toNat + 1 := by
  rw [UInt32.toNat_add]
  exact Nat.mod_eq_of_lt h

/-- A reseed is due if the next roll brings the count to the interval. -/
theorem reseedsNext_iff (hinterval : cup.interval = some interval)
    (hfits : cup.rolled.toNat + 1 < UInt32.size) :
    cup.reseedsNext ↔ interval.rolls.toNat ≤ cup.rolled.toNat + 1 := by
  unfold reseedsNext isDue
  dsimp only
  rw [hinterval]
  dsimp only
  rw [decide_eq_true_eq, UInt32.le_iff_toNat_le, toNat_succ hfits]

/-! ## 3. Runs -/

theorem isRoll_of_mem_history (hrolls : ∀ request ∈ requests, request.isRoll)
    (hmem : step ∈ cup.history requests) : step.request.isRoll := by
  induction requests generalizing cup with
  | nil => cases hmem
  | cons request requests ih =>
    obtain ⟨hrequest, hrest⟩ := List.forall_mem_cons.mp hrolls
    rcases List.mem_cons.mp hmem with rfl | hmem
    · exact hrequest
    · exact ih hrest hmem

/-- One roll under an interval takes the count to the next remainder. -/
theorem roll_under_interval (h : request.isRoll) (hinterval : cup.interval = some interval)
    (hrolled : cup.rolled < interval.rolls) :
    (cup.answer request).2.rolled.toNat = (cup.rolled.toNat + 1) % interval.rolls.toNat ∧
      if (cup.rolled.toNat + 1) % interval.rolls.toNat = 0
        then (Step.mk cup request).Reseeds cup.technique else (Step.mk cup request).Counts := by
  have hroll : (Step.mk cup request).request.isRoll := h
  have hpolicy := (policy_after hroll).2.2
  have hlt : cup.rolled.toNat < interval.rolls.toNat := UInt32.lt_iff_toNat_lt.mp hrolled
  have hmost : interval.rolls.toNat < UInt32.size := interval.rolls.toNat_lt
  have hfits : cup.rolled.toNat + 1 < UInt32.size := by omega
  have hnext := reseedsNext_iff hinterval hfits
  -- The count is below the interval, so the next one is a multiple of it only if it reaches it.
  by_cases hdue : cup.reseedsNext
  · have hreached : cup.rolled.toNat + 1 = interval.rolls.toNat := by
      have hle := hnext.mp hdue
      omega
    rw [hreached, Nat.mod_self, if_pos rfl]
    have hzero : (cup.answer request).2.rolled = 0 := by
      rw [if_pos hdue] at hpolicy
      exact hpolicy
    exact ⟨by rw [hzero]; rfl, reseeds_of_due hroll hdue⟩
  · have hbelow : cup.rolled.toNat + 1 < interval.rolls.toNat := by
      have hle := mt hnext.mpr hdue
      omega
    rw [Nat.mod_eq_of_lt hbelow, if_neg (Nat.succ_ne_zero _)]
    have hone : (cup.answer request).2.rolled = cup.rolled + 1 := by
      rw [if_neg hdue] at hpolicy
      exact hpolicy
    exact ⟨by rw [hone, toNat_succ hfits], counts_of_not_due hroll hdue⟩

/-- Below its interval a cup reseeds at every multiple of it, counted on from where it is. -/
theorem scheduled (hrolls : ∀ request ∈ requests, request.isRoll)
    (hinterval : cup.interval = some interval) (hrolled : cup.rolled < interval.rolls) :
    cup.Scheduled interval requests := by
  -- By induction on the rolls; that the count is below the interval carries it.
  induction requests generalizing cup with
  | nil =>
    have hlt : cup.rolled.toNat < interval.rolls.toNat := UInt32.lt_iff_toNat_lt.mp hrolled
    constructor
    · show cup.rolled.toNat = (cup.rolled.toNat + 0) % interval.rolls.toNat
      rw [Nat.add_zero, Nat.mod_eq_of_lt hlt]
    · intro step hmem
      exact absurd hmem List.not_mem_nil
    · intro i step hget
      rw [history, List.getElem?_nil] at hget
      cases hget
  | cons request requests ih =>
    obtain ⟨hrequest, hrest⟩ := List.forall_mem_cons.mp hrolls
    obtain ⟨hcount, hstep⟩ := roll_under_interval hrequest hinterval hrolled
    have hpolicy := policy_after (show (Step.mk cup request).request.isRoll from hrequest)
    have hbelow : (cup.answer request).2.rolled < interval.rolls := by
      have hlt : cup.rolled.toNat < interval.rolls.toNat := UInt32.lt_iff_toNat_lt.mp hrolled
      apply UInt32.lt_iff_toNat_lt.mpr
      rw [hcount]
      exact Nat.mod_lt _ (by omega)
    have hlater : (cup.answer request).2.Scheduled interval requests :=
      ih hrest (hpolicy.2.1.trans hinterval) hbelow
    -- The count that the later rolls start from is one ahead, up to whole intervals.
    have hshift (m : Nat) : ((cup.answer request).2.rolled.toNat + m) % interval.rolls.toNat =
        (cup.rolled.toNat + (m + 1)) % interval.rolls.toNat := by
      rw [hcount, Nat.mod_add_mod]
      congr 1
      omega
    constructor
    · have hafter := hlater.rolled_after
      rw [hshift] at hafter
      exact hafter
    · intro step hmem
      rcases List.mem_cons.mp hmem with rfl | hmem
      · exact hbelow
      · exact hlater.rolled_lt step hmem
    · intro i step hget
      cases i with
      | zero =>
        obtain rfl := Option.some.inj hget
        exact hstep
      | succ i =>
        have hdue := hlater.reseeds i step hget
        have htechnique : (cup.answer request).2.technique = cup.technique := hpolicy.1
        rw [hshift, htechnique] at hdue
        exact hdue

theorem Step.Counts.seed?_eq (h : step.Counts) {seed : UInt64}
    (hseed : step.before.seed? s = some seed) : step.after.seed? s = some seed := by
  by_cases hsame : step.after.seed? s = step.before.seed? s
  · exact hsame.trans hseed
  · have hnone := (h.renews.kept s List.not_mem_nil hsame).2.1
    rw [hseed] at hnone
    cases hnone

/-- Without an interval no roll reseeds anything. -/
theorem counts_without_interval (hrolls : ∀ request ∈ requests, request.isRoll)
    (hinterval : cup.interval = none) : ∀ step ∈ cup.history requests, step.Counts := by
  induction requests generalizing cup with
  | nil => exact List.forall_mem_nil _
  | cons request requests ih =>
    obtain ⟨hrequest, hrest⟩ := List.forall_mem_cons.mp hrolls
    have hdue : ¬cup.reseedsNext := by
      unfold reseedsNext isDue
      dsimp only
      rw [hinterval]
      exact Bool.false_ne_true
    have hpolicy := policy_after (show (Step.mk cup request).request.isRoll from hrequest)
    intro step hmem
    rcases List.mem_cons.mp hmem with rfl | hmem
    · exact counts_of_not_due hrequest hdue
    · exact ih hrest (hpolicy.2.1.trans hinterval) step hmem

theorem rolled_of_counts (hrolls : ∀ request ∈ requests, request.isRoll)
    (hcounts : ∀ step ∈ cup.history requests, step.Counts)
    (hfits : cup.rolled.toNat + requests.length < UInt32.size) :
    (cup.after requests).rolled.toNat = cup.rolled.toNat + requests.length := by
  -- The bound on the count goes down by one with each roll, and so the count never wraps.
  induction requests generalizing cup with
  | nil => rfl
  | cons request requests ih =>
    obtain ⟨hrequest, hrest⟩ := List.forall_mem_cons.mp hrolls
    obtain ⟨hstep, hlater⟩ := List.forall_mem_cons.mp hcounts
    have hnext : (cup.answer request).2.rolled = cup.rolled + 1 := by
      have hroll : (Step.mk cup request).request.isRoll := hrequest
      have hcounted := (counted_policy hroll).2.2
      rw [← hstep.after_eq] at hcounted
      exact hcounted
    rw [List.length_cons] at hfits ⊢
    have hone : (cup.answer request).2.rolled.toNat = cup.rolled.toNat + 1 := by
      rw [hnext]
      exact toNat_succ (by omega)
    have hafter := ih hrest hlater (by omega)
    rw [after_cons]
    omega

theorem seed?_of_counts {seed : UInt64} (hcounts : ∀ step ∈ cup.history requests, step.Counts)
    (hseed : cup.seed? s = some seed) : (cup.after requests).seed? s = some seed := by
  induction requests generalizing cup with
  | nil => exact hseed
  | cons request requests ih =>
    obtain ⟨hstep, hlater⟩ := List.forall_mem_cons.mp hcounts
    exact ih hlater (hstep.seed?_eq hseed)

/-- **Reseeds keep to the schedule.**  Of a run of rolls on a cup, each gives a value.  Under an
interval that the count has not reached, the count and the reseeds follow the remainders of the
count by the interval; if the count has reached it, the first roll reseeds and the others start from
a count of zero.  What is reseeded is the technique of the cup, whatever the rolls name.  Without an
interval the rolls are counted and no seed changes.  A die without sides is refused, and the cup
stays as it is. -/
theorem reseeds_on_schedule (cup : Cup) (requests : List Request)
    (hrolls : ∀ request ∈ requests, request.isRoll) :
    (∀ step ∈ cup.history requests, ∃ value, step.reply = .rolled (.ok value)) ∧
    (∀ interval, cup.interval = some interval → cup.rolled < interval.rolls →
      cup.Scheduled interval requests) ∧
    (∀ interval, cup.interval = some interval → interval.rolls ≤ cup.rolled →
      cup.rolled < 0xFFFFFFFF → ∀ request rest, requests = request :: rest →
        (Step.mk cup request).Reseeds cup.technique ∧
        (cup.answer request).2.rolled = 0 ∧ (cup.answer request).2.technique = cup.technique ∧
        (cup.answer request).2.Scheduled interval rest) ∧
    (cup.interval = none →
      (cup.rolled.toNat + requests.length < UInt32.size →
        (cup.after requests).rolled.toNat = cup.rolled.toNat + requests.length) ∧
      (∀ step ∈ cup.history requests, step.Counts) ∧
      ∀ s seed, cup.seed? s = some seed → (cup.after requests).seed? s = some seed) ∧
    ∀ technique, (Cup.roll 0 technique).runOn cup =
      (.error (.notPositive "number of sides" 0), cup) := by
  refine ⟨?replies, ?below, ?reached, ?none, fun technique => runOn_roll_zero technique cup⟩
  case replies =>
    intro step hmem
    exact reply_of_isRoll (isRoll_of_mem_history hrolls hmem)
  case below =>
    intro interval hinterval hrolled
    exact scheduled hrolls hinterval hrolled
  case reached =>
    rintro interval hinterval hreached hrolled request rest rfl
    obtain ⟨hrequest, hrest⟩ := List.forall_mem_cons.mp hrolls
    -- The count is not at its largest, so one more does not wrap around to below the interval.
    have hdue : cup.reseedsNext := by
      have hle : interval.rolls.toNat ≤ cup.rolled.toNat := UInt32.le_iff_toNat_le.mp hreached
      have hmost : cup.rolled.toNat < 4294967295 := UInt32.lt_iff_toNat_lt.mp hrolled
      have hfits : cup.rolled.toNat + 1 < UInt32.size := Nat.succ_lt_succ hmost
      exact (reseedsNext_iff hinterval hfits).mpr (by omega)
    have hpolicy := policy_after (show (Step.mk cup request).request.isRoll from hrequest)
    rw [if_pos hdue] at hpolicy
    have hzero : (cup.answer request).2.rolled = 0 := hpolicy.2.2
    -- From a count of zero the other rolls are on schedule, as an interval is not empty.
    have hbelow : (cup.answer request).2.rolled < interval.rolls := by
      rw [hzero]
      exact UInt32.pos_iff_ne_zero.mpr interval.rolls_ne_zero
    exact ⟨reseeds_of_due hrequest hdue, hzero, hpolicy.1,
      scheduled hrest (hpolicy.2.1.trans hinterval) hbelow⟩
  case none =>
    intro hinterval
    have hcounts := counts_without_interval hrolls hinterval
    exact ⟨rolled_of_counts hrolls hcounts, hcounts, fun s seed => seed?_of_counts hcounts⟩

/-- A cup that reseeds its global generator every second roll, one roll before it does. -/
def everySecond : Cup :=
  { Cup.fresh (.ofWords fun _ => 0) with
    technique := .seededGlobal, interval := some ⟨2, by decide⟩, rolled := 1 }

/-- The same cup, three rolls late: the interval was set when it had rolled more often. -/
def overdue : Cup := { everySecond with rolled := 5 }

theorem reseeds_on_schedule_every_second :
    let requests := [.roll 6 (some .secure), .roll 20 none, .roll 8 (some .seededInstance)]
    (∀ request ∈ requests, request.isRoll) ∧ everySecond.rolled < 2 ∧
      everySecond.Scheduled ⟨2, by decide⟩ requests ∧
      (everySecond.after requests).rolled.toNat = 0 ∧
      (Step.mk everySecond (.roll 6 (some .secure))).Reseeds .seededGlobal ∧
      2 ≤ overdue.rolled ∧
      (Step.mk overdue (.roll 6 (some .secure))).Reseeds .seededGlobal ∧
      (overdue.answer (.roll 6 (some .secure))).2.rolled = 0 ∧
      (overdue.after requests).rolled.toNat = 0 := by
  intro requests
  have hrolls : ∀ request ∈ requests, request.isRoll := by decide
  have hscheduled : everySecond.Scheduled ⟨2, by decide⟩ requests :=
    (reseeds_on_schedule everySecond requests hrolls).2.1 _ rfl (by decide)
  have hfirst := hscheduled.reseeds 0 _ rfl
  rw [if_pos (show (everySecond.rolled.toNat + (0 + 1)) % _ = 0 from rfl)] at hfirst
  have hzero : (everySecond.rolled.toNat + requests.length) % 2 = 0 := by
    show (1 + 3) % 2 = 0
    rfl
  obtain ⟨-, -, hreached, -, -⟩ := reseeds_on_schedule overdue requests hrolls
  obtain ⟨hlate, hrolled, -, hrest⟩ :=
    hreached ⟨2, by decide⟩ rfl (by decide) (by decide) _ _ rfl
  have hafter : (overdue.after requests).rolled.toNat = 0 := by
    have hcount := hrest.rolled_after
    rw [hrolled, ← after_cons] at hcount
    exact hcount
  exact ⟨hrolls, by decide, hscheduled, hscheduled.rolled_after.trans hzero, hfirst, by decide,
    hlate, hrolled, hafter⟩

end Cup

end DiceCup
