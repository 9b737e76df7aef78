import DiceCup.Proofs.Cup.Streams

/-!
# Separation — the two generators do not disturb each other

Requests that name their streams, on a cup that does not reseed by itself, can be taken apart by
stream.  A request leaves the generators of other streams alone, and what it does to its own depends
on that generator only.  So a stream answers among other requests as it answers by itself.
-/

namespace DiceCup

open DiceCup.Random

namespace Cup

/-! ## 1. Requests that name a stream -/

namespace Request

def stream? : Request → Option Stream
  | .roll _ t => t.bind streamOf?
  | .reseed options => options.technique.bind streamOf?
  | .technique _ | .interval _ | .settings _ => none

/-- A request names a stream, and the seed too if it starts the generator of the stream. -/
def isDefinite : Request → Bool
  | .roll _ t => (t.bind streamOf?).isSome
  | .reseed options =>
    match options.technique.bind streamOf? with
    | some s => s = .entropy || (options.seedOf s).isSome
    | none => false
  | .technique _ | .interval _ | .settings _ => false

def isReseed : Request → Bool
  | .reseed _ => true
  | .roll .. | .technique _ | .interval _ | .settings _ => false

def touches (s : Stream) : Request → Bool
  | .roll sides t => sides ≠ 0 && t.bind streamOf? = some s
  | .reseed options => options.technique.bind streamOf? = some s
  | .technique _ | .interval _ | .settings _ => false

end Request

def only (s : Stream) (requests : List Request) : List Request :=
  requests.filter fun request => request.stream? = some s

def reports (s : Stream) (cup : Cup) (requests : List Request) : List (Reply × Option UInt64) :=
  ((cup.history requests).filter fun step => step.request.stream? = some s).map
    fun step => (step.reply, step.after.seed? s)

/-- A stream has a generator, or it is reseeded before anything is rolled from it. -/
def Ready (s : Stream) (cup : Cup) (requests : List Request) : Prop :=
  cup.generator? s ≠ none ∨
    ∀ request, requests.find? (Request.touches s) = some request → request.isReseed

variable {s : Stream} {cup : Cup}

/-! ## 2. One request -/

theorem seededStreams_of_streamOf? {t : Technique} (h : streamOf? t = some s) :
    seededStreams t = if s = .entropy then [] else [s] := by
  cases t <;> cases h <;> rfl

/-- A definite request names its stream. -/
theorem exists_stream_of_definite {request : Request} (h : request.isDefinite) :
    ∃ s, request.stream? = some s := by
  cases request with
  | roll => exact Option.isSome_iff_exists.mp h
  | reseed options =>
    unfold Request.isDefinite at h
    unfold Request.stream?
    dsimp only at h ⊢
    split at h
    next stream hstream => exact ⟨stream, hstream⟩
    next => cases h
  | technique | interval | settings => cases h

theorem technique_of_roll {sides : UInt32} {technique : Option Technique}
    (h : (Request.roll sides technique).stream? = some s) :
    ∃ t, technique = some t ∧ streamOf? t = some s :=
  Option.bind_eq_some_iff.mp h

theorem technique_of_reseed {options : ReseedOptions}
    (hdefinite : (Request.reseed options).isDefinite)
    (h : (Request.reseed options).stream? = some s) :
    ∃ t, options.technique = some t ∧ streamOf? t = some s ∧
      (s ≠ .entropy → options.seedOf s ≠ none) := by
  obtain ⟨t, htechnique, ht⟩ := Option.bind_eq_some_iff.mp h
  refine ⟨t, htechnique, ht, fun hs => ?_⟩
  unfold Request.stream? at h
  unfold Request.isDefinite at hdefinite
  dsimp only at h hdefinite
  rw [h] at hdefinite
  simpa [hs, Option.isSome_iff_ne_none] using hdefinite

theorem interval_answer {request : Request} (hinterval : cup.interval = none)
    (h : request.isDefinite) : (cup.answer request).2.interval = none := by
  cases request with
  | roll sides technique =>
    -- A roll that is refused has no effect, and the other ones keep the interval.
    by_cases hsides : sides = 0
    · subst hsides
      simp only [answer, runOn_roll_zero, hinterval]
    · have hpolicy := (policy_draw sides (technique.getD cup.technique) cup).2.1.trans hinterval
      simp only [answer, runOn_roll hsides, countRoll_of_no_interval hpolicy, hpolicy]
  | reseed options => exact (policy_reseed options cup).2.1.trans hinterval
  | technique | interval | settings => cases h

/-- All events of a definite request are on the stream that it names. -/
theorem stream_of_mem_events {request : Request} (hinterval : cup.interval = none)
    (h : request.isDefinite) :
    ∀ event ∈ (Step.mk cup request).events, request.stream? = some event.stream := by
  obtain ⟨stream, hstream⟩ := exists_stream_of_definite h
  cases request with
  | roll sides technique =>
    obtain ⟨t, rfl, ht⟩ := technique_of_roll hstream
    have hnext : cup.reseedsNext = false := by
      simp only [reseedsNext, isDue, hinterval]
    by_cases hsides : sides = 0
    · subst hsides
      simp [Step.events, Step.reply, answer, runOn_roll_zero]
    · simp [Step.events, Step.reply, answer, runOn_roll hsides, hnext, hstream,
        chooseStream_of_streamOf? ht, Event.stream]
  | reseed options =>
    obtain ⟨t, htechnique, ht, _⟩ := technique_of_reseed h hstream
    have hstreams := seededStreams_of_streamOf? ht
    by_cases hentropy : stream = .entropy <;>
      simp [Step.events, htechnique, hstreams, hentropy, hstream, Event.stream]
  | technique | interval | settings => cases h

/-- A definite request leaves the generators of other streams alone. -/
theorem generator?_answer_of_ne {request : Request} (hs : s ≠ .entropy)
    (hinterval : cup.interval = none) (h : request.isDefinite) (hne : request.stream? ≠ some s) :
    (cup.answer request).2.generator? s = cup.generator? s := by
  apply (Step.story ⟨cup, request⟩ hs).eq_of_apart
  intro event hevent heq
  exact hne (heq ▸ stream_of_mem_events hinterval h event hevent)

/-- A reseed with a seed for its stream starts that generator, whatever there was before. -/
theorem answer_reseed {options : ReseedOptions} {t : Technique} (hs : s ≠ .entropy)
    (htechnique : options.technique = some t) (ht : streamOf? t = some s)
    (hseed : options.seedOf s ≠ none) (cup : Cup) :
    (cup.answer (.reseed options)).1 = .displaced (cup.displacedBy t) ∧
      (cup.answer (.reseed options)).2.generator? s = (options.seedOf s).map Generator.ofSeed := by
  obtain ⟨seed, hnext, hgiven⟩ := generator?_restart_self options { cup with rolled := 0 } hs
  simp only [answer, reseed_eq, htechnique, Option.getD_some, seededStreams_of_streamOf? ht,
    if_neg hs, List.foldl_cons, List.foldl_nil, true_and]
  rw [hnext, hgiven hseed]
  rfl

theorem displacedBy_congr {other : Cup} {t : Technique} (ht : streamOf? t = some s)
    (h : cup.generator? s = other.generator? s) : cup.displacedBy t = other.displacedBy t := by
  have hseed : cup.seed? s = other.seed? s := congrArg (Option.map Generator.seed) h
  cases t <;> cases ht <;> simp [displacedBy, seededStreams, hseed]

/-- What a definite request does to the generator that it names, and what it replies, depends on
that generator only, if there is one to roll from: a new one would take its seed from outside. -/
theorem answer_congr {other : Cup} {request : Request} (hs : s ≠ .entropy)
    (hcup : cup.interval = none) (hother : other.interval = none)
    (heq : cup.generator? s = other.generator? s) (h : request.isDefinite)
    (hstream : request.stream? = some s)
    (hready : request.touches s → request.isReseed ∨ cup.generator? s ≠ none) :
    (cup.answer request).1 = (other.answer request).1 ∧
      (cup.answer request).2.generator? s = (other.answer request).2.generator? s := by
  cases request with
  | roll sides technique =>
    obtain ⟨t, rfl, ht⟩ := technique_of_roll hstream
    -- A die without sides is refused by both, and only a draw needs the generator.
    by_cases hsides : sides = 0
    · subst hsides
      simpa only [answer, runOn_roll_zero, true_and] using heq
    · have hgenerator : cup.generator? s ≠ none :=
        (hready (by simp [Request.touches, hsides, ht])).resolve_left Bool.false_ne_true
      obtain ⟨g, hg⟩ := Option.ne_none_iff_exists'.mp hgenerator
      have hroll := answer_roll hcup hsides ht hg
      have hroll' := answer_roll hother hsides ht (heq ▸ hg)
      exact ⟨hroll.1.trans hroll'.1.symm, hroll.2.1.trans hroll'.2.1.symm⟩
  | reseed options =>
    obtain ⟨t, htechnique, ht, hseed⟩ := technique_of_reseed h hstream
    have hreseed := answer_reseed hs htechnique ht (hseed hs)
    refine ⟨?_, (hreseed cup).2.trans (hreseed other).2.symm⟩
    rw [(hreseed cup).1, (hreseed other).1, displacedBy_congr ht heq]
  | technique | interval | settings => cases h

/-! ## 3. Runs of requests -/

theorem reports_cons (s : Stream) (cup : Cup) (request : Request) (requests : List Request) :
    cup.reports s (request :: requests) =
      if request.stream? = some s then
        ((cup.answer request).1, (cup.answer request).2.seed? s) ::
          (cup.answer request).2.reports s requests
      else (cup.answer request).2.reports s requests := by
  unfold reports
  rw [history]
  split
  next h => rw [List.filter_cons_of_pos (by simpa using h), List.map_cons]; rfl
  next h => rw [List.filter_cons_of_neg (by simpa using h)]

theorem stream?_of_touches {request : Request} (h : request.touches s) :
    request.stream? = some s := by
  cases request with
  | roll sides t =>
    simp only [Request.touches, Bool.and_eq_true, decide_eq_true_eq] at h
    exact h.2
  | reseed options => exact of_decide_eq_true h
  | technique | interval | settings => cases h

theorem generator?_answer_of_reseed {request : Request} (hs : s ≠ .entropy)
    (hdefinite : request.isDefinite) (hstream : request.stream? = some s)
    (hreseed : request.isReseed) (cup : Cup) : (cup.answer request).2.generator? s ≠ none := by
  cases request with
  | reseed options =>
    obtain ⟨t, htechnique, ht, hseed⟩ := technique_of_reseed hdefinite hstream
    rw [(answer_reseed hs htechnique ht (hseed hs) cup).2]
    simpa using hseed hs
  | roll | technique | interval | settings => cases hreseed

/-- Once there is a generator it stays, so a stream stays ready. -/
theorem Ready.answer {request : Request} {requests : List Request} (hs : s ≠ .entropy)
    (hready : cup.Ready s (request :: requests)) (hdefinite : request.isDefinite) :
    (cup.answer request).2.Ready s requests := by
  have hnone := (Step.story ⟨cup, request⟩ hs).eq_none_iff
  -- The generator is there already, or the first request for it makes it: this one or a later one.
  rcases hready with hgenerator | hfirst
  · exact .inl fun hnext => hgenerator (hnone.mp hnext).1
  · by_cases htouches : request.touches s
    · have hreseed := hfirst request (List.find?_cons_of_pos htouches)
      have hstream := stream?_of_touches htouches
      exact .inl (generator?_answer_of_reseed hs hdefinite hstream hreseed cup)
    · rw [List.find?_cons_of_neg htouches] at hfirst
      exact .inr hfirst

/-- Whether a stream is ready depends on its own requests only. -/
theorem Ready.of_only_eq {requests others : List Request} (hready : cup.Ready s requests)
    (h : only s others = only s requests) : cup.Ready s others := by
  have hfind (l : List Request) : l.find? (Request.touches s) =
      (only s l).find? (Request.touches s) := by
    rw [only, List.find?_filter]
    congr 1
    funext request
    cases htouches : request.touches s with
    | false => simp
    | true => simp [stream?_of_touches htouches]
  unfold Ready at hready ⊢
  rwa [hfind, h, ← hfind]

/-- A stream answers among other requests as it answers by itself, from the same generator. -/
theorem reports_only {other : Cup} {requests : List Request} (hs : s ≠ .entropy)
    (hcup : cup.interval = none) (hother : other.interval = none)
    (heq : cup.generator? s = other.generator? s) (hdefinite : ∀ r ∈ requests, r.isDefinite)
    (hready : cup.Ready s requests) :
    cup.reports s requests = other.reports s (only s requests) ∧
      (cup.after requests).generator? s = (other.after (only s requests)).generator? s := by
  -- The two cups drift apart in everything but the one generator.
  induction requests generalizing cup other with
  | nil => exact ⟨rfl, heq⟩
  | cons request requests ih =>
    obtain ⟨hrequest, hrest⟩ := List.forall_mem_cons.mp hdefinite
    have hcup' := interval_answer hcup hrequest
    have hready' := hready.answer hs hrequest
    -- Both cups answer a request for the stream; the other cup never sees the rest.
    by_cases hstream : request.stream? = some s
    · have honly : only s (request :: requests) = request :: only s requests :=
        List.filter_cons_of_pos (by simpa using hstream)
      have htouches : request.touches s → request.isReseed ∨ cup.generator? s ≠ none := by
        intro htouches
        rcases hready with hgenerator | hfirst
        · exact .inr hgenerator
        · exact .inl (hfirst request (List.find?_cons_of_pos htouches))
      obtain ⟨hreply, hnext⟩ := answer_congr hs hcup hother heq hrequest hstream htouches
      obtain ⟨hreports, hafter⟩ := ih hcup' (interval_answer hother hrequest) hnext hrest hready'
      have hseed := congrArg (Option.map Generator.seed) hnext
      rw [honly, reports_cons, reports_cons, if_pos hstream, if_pos hstream, hreports, hreply]
      exact ⟨congrArg (fun seed => (_, seed) :: _) hseed, hafter⟩
    · have honly : only s (request :: requests) = only s requests :=
        List.filter_cons_of_neg (by simpa using hstream)
      have hsame := generator?_answer_of_ne hs hcup hrequest hstream
      rw [honly, reports_cons, if_neg hstream]
      exact ih hcup' hother (hsame.trans heq) hrest hready'

/-- Two interleavings answer for a stream as its own requests do, which are the same in both. -/
theorem reports_congr {requests others : List Request} (hs : s ≠ .entropy)
    (hinterval : cup.interval = none) (hrequests : ∀ r ∈ requests, r.isDefinite)
    (hothers : ∀ r ∈ others, r.isDefinite) (honly : only s others = only s requests)
    (hready : cup.Ready s requests) :
    cup.reports s others = cup.reports s requests ∧
      (cup.after others).generator? s = (cup.after requests).generator? s := by
  have h := reports_only hs hinterval hinterval rfl hrequests hready
  have h' := reports_only hs hinterval hinterval rfl hothers (hready.of_only_eq honly)
  rw [honly] at h'
  exact ⟨h'.1.trans h.1.symm, h'.2.trans h.2.symm⟩

/-- **The two generators never interfere.**  On a cup without an interval, requests that name their
streams report for a generator what they report without the requests for anything else; for the
instance generator, if there is one or it is reseeded first.  So two interleavings of the same
requests for either generator report the same for both, and end with the same generators. -/
theorem generators_separate (cup : Cup) (hinterval : cup.interval = none)
    (requests : List Request) (hrequests : ∀ r ∈ requests, r.isDefinite) :
    cup.reports .global requests = cup.reports .global (only .global requests) ∧
    (cup.Ready .ownInstance requests →
      cup.reports .ownInstance requests =
        cup.reports .ownInstance (only .ownInstance requests)) ∧
    ∀ others : List Request, (∀ r ∈ others, r.isDefinite) →
      only .global others = only .global requests →
      only .ownInstance others = only .ownInstance requests →
      cup.reports .global others = cup.reports .global requests ∧
      (cup.after others).globalGenerator = (cup.after requests).globalGenerator ∧
      (cup.Ready .ownInstance requests →
        cup.reports .ownInstance others = cup.reports .ownInstance requests ∧
        (cup.after others).instanceGenerator = (cup.after requests).instanceGenerator) := by
  have hglobal : Stream.global ≠ .entropy := nofun
  have hown : Stream.ownInstance ≠ .entropy := nofun
  have hready : cup.Ready .global requests := .inl nofun
  refine ⟨(reports_only hglobal hinterval hinterval rfl hrequests hready).1, fun hready =>
    (reports_only hown hinterval hinterval rfl hrequests hready).1, ?_⟩
  intro others hothers honlyGlobal honlyOwn
  have h := reports_congr hglobal hinterval hrequests hothers honlyGlobal hready
  exact ⟨h.1, Option.some.inj h.2,
    fun hready => reports_congr hown hinterval hrequests hothers honlyOwn hready⟩

/-- Requests for three streams; the instance generator is reseeded before it is rolled from. -/
def mixed : List Request :=
  [.roll 6 (some .secure), .roll 0 (some .seededInstance),
    .reseed { technique := some .seededInstance, globalSeed := some 1, instanceSeed := some 7 },
    .roll 20 (some .seededGlobal), .roll 6 (some .seededInstance),
    .reseed { technique := some .seededGlobal, globalSeed := some 5 },
    .roll 20 (some .seededGlobal)]

def shuffled : List Request :=
  [.roll 20 (some .seededGlobal), .roll 0 (some .seededInstance),
    .reseed { technique := some .seededGlobal, globalSeed := some 5 },
    .reseed { technique := some .seededInstance, globalSeed := some 1, instanceSeed := some 7 },
    .roll 6 (some .seededInstance), .roll 20 (some .seededGlobal)]

def freshCup : Cup := .fresh (.ofWords fun _ => 0)

theorem generators_separate_mixed :
    freshCup.interval = none ∧ (∀ r ∈ mixed, r.isDefinite) ∧ (∀ r ∈ shuffled, r.isDefinite) ∧
    freshCup.Ready .ownInstance mixed ∧ only .global shuffled = only .global mixed ∧
    only .ownInstance shuffled = only .ownInstance mixed ∧
    freshCup.reports .global mixed = freshCup.reports .global (only .global mixed) ∧
    freshCup.reports .ownInstance mixed = freshCup.reports .ownInstance (only .ownInstance mixed) ∧
    freshCup.reports .ownInstance shuffled = freshCup.reports .ownInstance mixed ∧
    (freshCup.after shuffled).globalGenerator = (freshCup.after mixed).globalGenerator := by
  have hmixed : ∀ r ∈ mixed, r.isDefinite := by decide
  have hshuffled : ∀ r ∈ shuffled, r.isDefinite := by decide
  have hready : freshCup.Ready .ownInstance mixed := .inr fun _ h => by cases h; rfl
  have hseparate := generators_separate freshCup rfl mixed hmixed
  have hinterleaved := hseparate.2.2 shuffled hshuffled rfl rfl
  exact ⟨rfl, hmixed, hshuffled, hready, rfl, rfl, hseparate.1, hseparate.2.1 hready,
    (hinterleaved.2.2 hready).1, hinterleaved.2.1⟩

end Cup

end DiceCup
