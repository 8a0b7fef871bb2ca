import Mathlib
import PuzzleInputs.Proofs.Outcome

/-!
# Retries

Here the outcomes of the requests come one after the other off a stream (`inTurn`). A download uses up
the outcomes of its visits (`Course.consumed`). With the failures that were tried again taken out of
them, the download without retries takes the same course, with one request a day
(`fetchInputs_without_retries`): a retry is as good as an answer at the first try.
-/

namespace PuzzleInputs.Download

abbrev Outcomes := Stream' (Except Failure Response)

/-- The next outcome of the stream, whatever is asked. -/
def inTurn (_ : Request) (s : Outcomes) : Except Failure Response × Outcomes := (s.head, s.tail)

/-- The same options with one try a day. -/
def withoutRetries (o : Options) : Options := { o with retries := 0 }

/-- The outcomes that are not worth another try. -/
def decisive (outcomes : List (Except Failure Response)) : List (Except Failure Response) :=
  outcomes.filter fun x => !isRetryable x

/-- The stream without those of the first `n` outcomes that are worth another try. -/
def Outcomes.dropRetryable (n : Nat) (s : Outcomes) : Outcomes := decisive (s.take n) ++ₛ s.drop n

theorem decisive_append (xs ys : List (Except Failure Response)) :
    decisive (xs ++ ys) = decisive xs ++ decisive ys := List.filter_append xs ys

section Laws

variable {logged : Log.Entry → List Event} {o : Options} {c : Credential} {today : Date}
  {d d' : Disk} {s s' : Outcomes} {visits : List Visit} {events : List Event}
  {result : Except Failure Report}

/-! ## The outcomes used up -/

theorem Tries.consumed {r : Request} {attempt left : Nat} {answers : List Answer}
    {verdict : Except Failure ByteArray}
    (h : Tries logged (Machine.recording inTurn) o r attempt left s answers events verdict s') :
    s = answers.map Answer.outcome ++ₛ s' := by
  induction h with
  | last asked final =>
    cases asked
    exact (Stream'.append_stream_head_tail _).symm
  | again asked failed retryable rest ih =>
    cases asked
    rw [List.map_cons, Stream'.cons_append_stream, ← ih]
    exact (Stream'.eta _).symm

theorem Days.consumed {entries : List (Nat × Date)}
    (h : Days logged (Machine.recording inTurn) o c today entries d s visits events result d' s') :
    s = visits.flatMap Visit.outcomes ++ₛ s' := by
  induction h with
  | done => rfl
  | unreleased early => rfl
  | refused out tries => simpa [Visit.outcomes] using tries.consumed
  | unwritten out tries failed => simpa [Visit.outcomes] using tries.consumed
  | written out tries wrote days ih =>
    rw [List.flatMap_cons, Stream'.append_append_stream, ← ih]
    exact tries.consumed

/-- A download takes the outcomes of its visits off the stream, and no others. -/
theorem Course.consumed
    (h : Course logged (Machine.recording inTurn) o c today d s visits events result d' s') :
    s = visits.flatMap Visit.outcomes ++ₛ s' := by
  cases h with
  | noSchedule schedule => rfl
  | noDirectory schedule out failed => rfl
  | begun schedule out made days => exact days.consumed
  | early schedule notOut days => exact days.consumed

/-! ## The same days without retries -/

/-- Unless the tries ran out, the last outcome alone decides. -/
theorem Tries.decisive {r : Request} {attempt left : Nat} {answers : List Answer}
    {verdict : Except Failure ByteArray}
    (h : Tries logged (Machine.recording inTurn) o r attempt left s answers events verdict s')
    (hv : ∀ e, verdict = .error e → e.isRetryable = false) :
    ∃ x, decisive (answers.map Answer.outcome) = [x] ∧ verdict = accept r.url x := by
  obtain ⟨init, a, rfl, rfl, hinit⟩ := h.exists_last
  -- a last outcome worth another try would be the verdict
  have hlast : isRetryable a.outcome = false := by
    rw [Bool.eq_false_iff]
    intro hr
    obtain ⟨e, he, hre⟩ := (isRetryable_iff r.url a.outcome).mp hr
    rw [hv e he] at hre
    cases hre
  have hnone : Download.decisive (init.map Answer.outcome) = [] := by
    rw [Download.decisive, List.filter_eq_nil_iff]
    intro x hx
    obtain ⟨b, hb, rfl⟩ := List.mem_map.mp hx
    simp [hinit b hb]
  refine ⟨a.outcome, ?_, rfl⟩
  rw [List.map_append, decisive_append, hnone]
  simp [Download.decisive, hlast]

/-- The answer that decides, as the only one. -/
theorem Tries.plain {r : Request} {attempt left : Nat} {answers : List Answer}
    {verdict : Except Failure ByteArray}
    (h : Tries logged (Machine.recording inTurn) o r attempt left s answers events verdict s')
    (hv : ∀ e, verdict = .error e → e.isRetryable = false) (t : Outcomes) :
    ∃ a events', Tries logged (Machine.recording inTurn) (withoutRetries o) r 0 0
      (Download.decisive (answers.map Answer.outcome) ++ₛ t) [a] events' verdict t := by
  obtain ⟨x, hx, rfl⟩ := h.decisive hv
  rw [hx]
  exact ⟨⟨x, [.request r x]⟩, _, .last rfl (.inl rfl)⟩

/-- The visits of a download without retries, on the stream of the decisive outcomes. -/
theorem Days.plain {entries : List (Nat × Date)}
    (h : Days logged (Machine.recording inTurn) o c today entries d s visits events result d' s')
    (hresult : ∀ e, result = .error e → e.isRetryable = false) (t : Outcomes) :
    ∃ visits' events',
      Days logged (Machine.recording inTurn) (withoutRetries o) c today entries d
        (decisive (visits.flatMap Visit.outcomes) ++ₛ t) visits' events' result d' t ∧
      visits'.map Visit.day = visits.map Visit.day ∧ ∀ v ∈ visits', v.answers.length = 1 := by
  induction h with
  | done => exact ⟨_, _, .done, rfl, by simp⟩
  | unreleased early => exact ⟨_, _, .unreleased early, rfl, by simp⟩
  | refused out tries =>
    obtain ⟨a, events', tries'⟩ := tries.plain (fun e he => hresult e (by cases he; rfl)) t
    rw [List.flatMap_singleton]
    exact ⟨_, _, .refused out tries', rfl, by simp⟩
  | unwritten out tries failed =>
    obtain ⟨a, events', tries'⟩ := tries.plain nofun t
    rw [List.flatMap_singleton]
    exact ⟨_, _, .unwritten out tries' failed, rfl, by simp⟩
  | written out tries wrote days ih =>
    obtain ⟨visits', events', days', hdays, hone⟩ := ih fun e he => hresult e (by rw [he]; rfl)
    -- for this day, the tail of the stream is what the days after it take their outcomes from
    obtain ⟨a, events₁, tries'⟩ := tries.plain nofun (decisive (List.flatMap Visit.outcomes _) ++ₛ t)
    rw [List.flatMap_cons, decisive_append, Stream'.append_append_stream]
    refine ⟨_, _, .written out tries' wrote days', by simp [hdays], fun v hv => ?_⟩
    rcases List.mem_cons.mp hv with rfl | hv
    · rfl
    · exact hone v hv

theorem Course.plain
    (h : Course logged (Machine.recording inTurn) o c today d s visits events result d' s')
    (hresult : ∀ e, result = .error e → e.isRetryable = false) (t : Outcomes) :
    ∃ visits' events',
      Course logged (Machine.recording inTurn) (withoutRetries o) c today d
        (decisive (visits.flatMap Visit.outcomes) ++ₛ t) visits' events' result d' t ∧
      visits'.map Visit.day = visits.map Visit.day ∧ ∀ v ∈ visits', v.answers.length = 1 := by
  cases h with
  | noSchedule schedule => exact ⟨_, _, .noSchedule schedule, rfl, by simp⟩
  | noDirectory schedule out failed => exact ⟨_, _, .noDirectory schedule out failed, rfl, by simp⟩
  | begun schedule out made days =>
    obtain ⟨visits', events', days', hsame⟩ := days.plain hresult t
    exact ⟨_, _, .begun schedule out made days', hsame⟩
  | early schedule notOut days =>
    obtain ⟨visits', events', days', hsame⟩ := days.plain hresult t
    exact ⟨_, _, .early schedule notOut days', hsame⟩

theorem Course.dropRetryable
    (h : Course Machine.logging (Machine.recording inTurn) o c today d s visits events result d' s') :
    s.dropRetryable (requestsIn events).length = decisive (visits.flatMap Visit.outcomes) ++ₛ s' := by
  have hlen : (requestsIn events).length = (visits.flatMap Visit.outcomes).length := by
    simp [h.requests, Visit.requests, List.length_flatMap]
  rw [Outcomes.dropRetryable, hlen, h.consumed, Stream'.take_append_of_le_length _ _ _ (Nat.le_refl _),
    List.take_length, Stream'.drop_append_stream]

/-- A request is made for each visit, and with one answer each there are no others. -/
theorem map_fst_requests {visits : List Visit} (h : ∀ v ∈ visits, v.answers.length = 1) :
    (visits.flatMap (Visit.requests o c)).map Prod.fst = (visits.map Visit.day).map (request o c) := by
  induction visits with
  | nil => rfl
  | cons v visits ih =>
    obtain ⟨a, ha⟩ := List.length_eq_one_iff.mp (h v List.mem_cons_self)
    rw [List.flatMap_cons, List.map_append, ih fun u hu => h u (List.mem_cons_of_mem _ hu)]
    simp [Visit.requests, Visit.outcomes, ha]

theorem mem_map_fst_requests {visits : List Visit} (h : ∀ v ∈ visits, v.answers ≠ []) (r : Request) :
    r ∈ (visits.flatMap (Visit.requests o c)).map Prod.fst ↔
      r ∈ (visits.map Visit.day).map (request o c) := by
  simp only [List.mem_map, List.mem_flatMap, Visit.requests, Visit.outcomes]
  constructor
  · rintro ⟨p, ⟨v, hv, x, -, rfl⟩, rfl⟩
    exact ⟨v.day, ⟨v, hv, rfl⟩, rfl⟩
  · rintro ⟨day, ⟨v, hv, rfl⟩, rfl⟩
    obtain ⟨a, ha⟩ := List.exists_mem_of_ne_nil v.answers (h v hv)
    exact ⟨(request o c v.day, a.outcome), ⟨v, hv, a.outcome, ⟨a, ha, rfl⟩, rfl⟩, rfl⟩

/-- The download without retries that ends at `w''`, beside the one from `w` to `w'`. -/
structure PlainRun (o : Options) (c : Credential) (today : Date) (w w' : Machine Outcomes)
    (result : Except Failure Report) (w'' : Machine Outcomes) : Prop where
  /-- It has the same result, once the failures that were tried again are taken out of the stream. -/
  run_eq : (fetchInputs Machine.host (Machine.transport inTurn) (withoutRetries o) c today).run
    (w.withNet (w.net.dropRetryable (requestsIn (w.eventsSince w')).length)) = (result, w'')
  disk_eq : w''.disk = w'.disk
  /-- The days are asked for in order, each once. -/
  once : ∃ m, (requestsIn (w.eventsSince w'')).map Prod.fst = (List.range' 1 m).map (request o c)
  /-- They are the days that were asked for with retries. -/
  same_requests : ∀ r, r ∈ (requestsIn (w.eventsSince w'')).map Prod.fst ↔
    r ∈ (requestsIn (w.eventsSince w')).map Prod.fst

/-- A download that its retries brought to a decision does the same without them. -/
theorem fetchInputs_without_retries {w w' : Machine Outcomes}
    (h : (fetchInputs Machine.host (Machine.transport inTurn) o c today).run w = (result, w'))
    (hresult : ∀ e, result = .error e → e.isRetryable = false) :
    ∃ w'', PlainRun o c today w w' result w'' := by
  obtain ⟨visits, course⟩ := course_of_fetchInputs h
  obtain ⟨visits', events', course', hdays, hone⟩ := course.plain hresult w'.net
  rw [← course.dropRetryable] at course'
  have hrun := course'.run_eq (w.withNet (w.net.dropRetryable (requestsIn (w.eventsSince w')).length))
    rfl rfl
  rw [← Machine.host_eq_hostLogging, ← Machine.transport_eq_attach] at hrun
  have hevents : ∀ t, w.eventsSince ((w.withNet t).advance events' w'.disk w'.net) = events' :=
    fun t => Machine.eventsSince_advance (w.withNet t) _ _ _
  have hrequests : (requestsIn events').map Prod.fst = (visits.map Visit.day).map (request o c) := by
    rw [course'.requests, ← hdays]
    exact map_fst_requests hone
  refine ⟨_, hrun, rfl, ⟨visits.length, ?_⟩, fun r => ?_⟩
  · rw [hevents, hrequests, course.days_eq.1]
  · rw [hevents, hrequests, course.requests, mem_map_fst_requests course.tried]

/-- The answers of `busyOnce`, and none after them. -/
def busyStream : Machine Outcomes :=
  trialMachine (busyOnce.net ++ₛ Stream'.const (.error (.transport "" "no answer")))

theorem fetchInputs_without_retries_busyStream :
    ∃ report w', (fetchInputs Machine.host (Machine.transport inTurn) trialOptions ⟨"tok"⟩
        december2).run busyStream = (.ok report, w') ∧
      (requestsIn (busyStream.eventsSince w')).length = 3 ∧
      (∀ e, (Except.ok report : Except Failure Report) = .error e → e.isRetryable = false) ∧
      ∃ w'', PlainRun trialOptions ⟨"tok"⟩ december2 busyStream w' (.ok report) w'' := by
  have hok : ((fetchInputs Machine.host (Machine.transport inTurn) trialOptions ⟨"tok"⟩
      december2).run busyStream).1 =
        .ok ⟨[⟨"out/2018/input_01"⟩, ⟨"out/2018/input_02"⟩], some 3⟩ := by decide +kernel
  have hthree : (requestsIn (busyStream.eventsSince ((fetchInputs Machine.host
      (Machine.transport inTurn) trialOptions ⟨"tok"⟩ december2).run busyStream).2)).length = 3 := by
    decide +kernel
  obtain ⟨result, w', hrun⟩ := exists_run (fetchInputs Machine.host (Machine.transport inTurn)
    trialOptions ⟨"tok"⟩ december2) busyStream
  rw [hrun] at hok hthree
  subst hok
  exact ⟨_, w', hrun, hthree, nofun, fetchInputs_without_retries hrun nofun⟩

end Laws

end PuzzleInputs.Download
