import Mathlib
import PuzzleInputs.Proofs.EventOrder
import PuzzleInputs.Proofs.Outcome

/-!
# Downloads that go further

Two downloads from the same machine, of which the second may go on where the first stops. With more
tries per day the steps of the first begin those of the second, and a result that no further try
would change stays (`fetchInputs_more_retries`). At a later date the visits of the first begin those
of the second, and a download that failed fails the same way (`fetchInputs_later_date`).

The disk is a `Disk`, which has no links and on which a write can only fail to open its file. So no two
days have one file, and the files of the first download are still there after the second.
-/

namespace PuzzleInputs

/-- The pause of an event. -/
def Event.pause? : Event → Option Pause
  | .wait pause => some pause
  | _ => none

/-- The pauses among the events. -/
def waitsIn (events : List Event) : List Pause := events.filterMap Event.pause?

theorem waitsIn_steps (events : List Event) : waitsIn (steps events) = waitsIn events :=
  filterMap_steps (fun _ => rfl) events

namespace Download

/-! ## More tries -/

/-- The same options with so many further tries per day. -/
def withRetries (o : Options) (n : Nat) : Options := { o with retries := n }

/-- No further try would change the result: it is a success, or a failure that is not worth one. -/
def Settled {α : Type} (result : Except Failure α) : Prop :=
  ∀ e, result = .error e → e.isRetryable = false

/-- The steps of `events` begin those of `events'`, and if the first result is settled, nothing
follows them and both come to the same end. -/
structure Continues {α β : Type} (events events' : List Event) (result result' : Except Failure α)
    (left left' : β) : Prop where
  steps : steps events <+: steps events'
  same : Settled result →
    PuzzleInputs.steps events' = PuzzleInputs.steps events ∧ result' = result ∧ left' = left

theorem Continues.of_eq {α β : Type} {events events' : List Event} (result : Except Failure α)
    (left : β) (h : PuzzleInputs.steps events' = PuzzleInputs.steps events) :
    Continues events events' result result left left :=
  ⟨h ▸ List.prefix_rfl, fun _ => ⟨h, rfl, rfl⟩⟩

/-- The same steps before both. -/
theorem Continues.prepend {α β : Type} {events events' whole whole' : List Event}
    {result result' : Except Failure α} {left left' : β}
    (h : Continues events events' result result' left left') (before : List Event)
    (hw : PuzzleInputs.steps whole = before ++ PuzzleInputs.steps events)
    (hw' : PuzzleInputs.steps whole' = before ++ PuzzleInputs.steps events') :
    Continues whole whole' result result' left left' where
  steps := by
    rw [hw, hw', List.prefix_append_right_inj]
    exact h.steps
  same hsettled := by
    obtain ⟨hsteps, hend⟩ := h.same hsettled
    exact ⟨by rw [hw, hw', hsteps], hend⟩

theorem Continues.map {α β γ : Type} {events events' : List Event} {result result' : Except Failure α}
    {left left' : β} (h : Continues events events' result result' left left') (f : α → γ) :
    Continues events events' (result.map f) (result'.map f) left left' where
  steps := h.steps
  same hsettled := by
    have hresult : Settled result := by
      intro e he
      exact hsettled e (by rw [he]; rfl)
    obtain ⟨hsteps, rfl, rfl⟩ := h.same hresult
    exact ⟨hsteps, rfl, rfl⟩

@[simp] theorem progress_withRetries (o : Options) (n day : Nat) :
    progress (withRetries o n) day = progress o day := rfl

@[simp] theorem file_withRetries (o : Options) (n day : Nat) :
    file (withRetries o n) day = file o day := rfl

theorem settled_ok {α : Type} (a : α) : Settled (.ok a : Except Failure α) := nofun

section Runs

variable {σ : Type} {answer : Request → σ → Except Failure Response × σ} {o : Options}
  {c : Credential} {today : Date} {d d' : Disk} {s s' : σ} {visits : List Visit} {events : List Event}
  {result : Except Failure Report}

theorem Tries.continues {r : Request} {attempt left left' : Nat} {answers : List Answer}
    {verdict : Except Failure ByteArray}
    (h : Tries Machine.logging (Machine.recording answer) o r attempt left s answers events verdict s')
    (hle : left ≤ left') (n : Nat) :
    ∃ answers' events' verdict' s'',
      Tries Machine.logging (Machine.recording answer) (withRetries o n) r attempt left' s answers'
        events' verdict' s'' ∧
      Continues events events' verdict verdict' s' s'' := by
  induction h generalizing left' with
  | @last attempt left s s' a asked final =>
    by_cases hfinal : left' = 0 ∨ isRetryable a.outcome = false
    · exact ⟨_, _, _, _, .last asked hfinal, .of_eq _ _ rfl⟩
    · -- the larger number of tries is not used up, and the outcome asks for another
      rw [not_or, Bool.not_eq_false] at hfinal
      obtain ⟨hleft, hr⟩ := hfinal
      obtain ⟨more, rfl⟩ := Nat.exists_eq_succ_of_ne_zero hleft
      obtain ⟨e, failed, retryable⟩ := (isRetryable_iff r.url a.outcome).mp hr
      obtain ⟨answers', events', verdict', s'', rest⟩ := exists_tries Machine.logging
        (Machine.recording answer) (withRetries o n) r (attempt + 1) more s'
      refine ⟨_, _, _, _, .again asked failed retryable rest, ?_, fun hsettled => ?_⟩
      · exact (List.prefix_append _ _).filter _
      · rw [hsettled e failed] at retryable
        cases retryable
  | @again attempt left s s' s'' a e answers events verdict asked failed retryable rest ih =>
    obtain ⟨more, rfl⟩ : ∃ more, left' = more + 1 := ⟨left' - 1, by omega⟩
    obtain ⟨answers', events', verdict', t, rest', hc⟩ := ih (Nat.le_of_succ_le_succ hle)
    refine ⟨_, _, _, _, .again asked failed retryable rest', hc.prepend
      [.request r a.outcome, .wait (o.backoff.backoff (attempt + 1))] ?_ ?_⟩
    · rw [recording_noted asked]
      rfl
    · rw [recording_noted asked]
      rfl

theorem Days.continues {entries : List (Nat × Date)}
    (h : Days Machine.logging (Machine.recording answer) o c today entries d s visits events result
      d' s') {n : Nat} (hle : o.retries ≤ n) :
    ∃ visits' events' result' d'' s'',
      Days Machine.logging (Machine.recording answer) (withRetries o n) c today entries d s visits'
        events' result' d'' s'' ∧
      Continues events events' result result' (d', s') (d'', s'') := by
  induction h with
  | done => exact ⟨_, _, _, _, _, .done, .of_eq _ _ rfl⟩
  | unreleased early => exact ⟨_, _, _, _, _, .unreleased early, .of_eq _ _ rfl⟩
  | @refused day release rest d s s' answers events e out tries =>
    obtain ⟨answers', events', verdict', s'', tries', hc⟩ := tries.continues hle n
    cases hr : e.isRetryable with
    | false =>
      have hsettled : Settled (.error e : Except Failure ByteArray) := by
        intro e' he
        cases he
        exact hr
      obtain ⟨hsteps, rfl, rfl⟩ := hc.same hsettled
      exact ⟨_, _, _, _, _, .refused out tries', .of_eq _ _ (by simp [hsteps])⟩
    | true =>
      -- the tries ran out here; with more of them anything may follow
      obtain ⟨visits', events'', result', d'', s'', days, hbegin⟩ := tries'.exists_days out d
        (exists_days Machine.logging (Machine.recording answer) (withRetries o n) c today rest)
      have hsteps : steps (progress o day ++ events) <+: steps (progress o day ++ events') := by
        simpa [List.prefix_append_right_inj] using hc.steps
      refine ⟨_, _, _, _, _, days, hsteps.trans (hbegin.filter _), fun hsettled => ?_⟩
      rw [hsettled e rfl] at hr
      cases hr
  | unwritten out tries failed =>
    obtain ⟨answers', events', verdict', s'', tries', hc⟩ := tries.continues hle n
    obtain ⟨hsteps, rfl, rfl⟩ := hc.same (settled_ok _)
    exact ⟨_, _, _, _, _, .unwritten out tries' failed, .of_eq _ _ (by simp [hsteps])⟩
  | @written day release rest d d' d'' s s' s'' answers events events' body visits result out tries
      wrote days ih =>
    obtain ⟨answers', events₁, verdict', t, tries', hc⟩ := tries.continues hle n
    obtain ⟨hsteps, rfl, rfl⟩ := hc.same (settled_ok body)
    obtain ⟨visits', events₂, result', d₂, s₂, days', hrest⟩ := ih
    refine ⟨_, _, _, _, _, .written out tries' wrote days', (hrest.map _).prepend
      (progress o day ++ (steps events ++ [.write (file o day) body (.ok ())])) ?_ ?_⟩
    · simp
    · simp [hsteps]

theorem Course.continues
    (h : Course Machine.logging (Machine.recording answer) o c today d s visits events result d' s')
    {n : Nat} (hle : o.retries ≤ n) :
    ∃ visits' events' result' d'' s'',
      Course Machine.logging (Machine.recording answer) (withRetries o n) c today d s visits' events'
        result' d'' s'' ∧
      Continues events events' result result' (d', s') (d'', s'') := by
  cases h with
  | noSchedule schedule => exact ⟨_, _, _, _, _, .noSchedule schedule, .of_eq _ _ rfl⟩
  | noDirectory schedule out failed =>
    exact ⟨_, _, _, _, _, .noDirectory schedule out failed, .of_eq _ _ rfl⟩
  | begun schedule out made days =>
    obtain ⟨visits', events', result', d'', s'', days', hc⟩ := days.continues hle
    exact ⟨_, _, _, _, _, .begun schedule out made days',
      hc.prepend [.makeDirectories o.outputDir (.ok ())] rfl rfl⟩
  | early schedule notOut days =>
    obtain ⟨visits', events', result', d'', s'', days', hc⟩ := days.continues hle
    exact ⟨_, _, _, _, _, .early schedule notOut days', hc⟩

/-- The run with more tries per day beside the one with fewer, both from `w`. -/
structure TriedFurther (w : Machine σ) (fewer more : Except Failure Report × Machine σ) : Prop where
  requests : requestsIn (w.eventsSince fewer.2) <+: requestsIn (w.eventsSince more.2)
  waits : waitsIn (w.eventsSince fewer.2) <+: waitsIn (w.eventsSince more.2)
  /-- Where a further try would not have helped, the runs are the same. -/
  same : Settled fewer.1 → more.1 = fewer.1 ∧
    requestsIn (w.eventsSince more.2) = requestsIn (w.eventsSince fewer.2) ∧
    waitsIn (w.eventsSince more.2) = waitsIn (w.eventsSince fewer.2) ∧
    more.2.disk = fewer.2.disk

/-- More tries per day lead as far as fewer, and change nothing where fewer are enough. -/
theorem fetchInputs_more_retries (answer : Request → σ → Except Failure Response × σ) (o : Options)
    (c : Credential) (today : Date) (w : Machine σ) {n : Nat} (hle : o.retries ≤ n) :
    TriedFurther w ((fetchInputs Machine.host (Machine.transport answer) o c today).run w)
      ((fetchInputs Machine.host (Machine.transport answer) (withRetries o n) c today).run w) := by
  obtain ⟨visits, events, result, d', s', course⟩ :=
    exists_course Machine.logging (Machine.recording answer) o c today w.disk w.net
  obtain ⟨visits', events', result', d'', s'', course', hc⟩ := course.continues hle
  rw [course.fetchInputs_run, course'.fetchInputs_run]
  refine ⟨?_, ?_, fun hsettled => ?_⟩ <;> simp only [Machine.eventsSince_advance, Machine.disk_advance]
  · rw [← requestsIn_steps events, ← requestsIn_steps events']
    exact hc.steps.filterMap _
  · rw [← waitsIn_steps events, ← waitsIn_steps events']
    exact hc.steps.filterMap _
  · obtain ⟨hsteps, hresult, hleft⟩ := hc.same hsettled
    refine ⟨hresult, ?_, ?_, congrArg Prod.fst hleft⟩
    · rw [← requestsIn_steps, hsteps, requestsIn_steps]
    · rw [← waitsIn_steps, hsteps, waitsIn_steps]

end Runs

/-- Day 1 is answered at the third try, day 2 at the first. -/
def busyTwice : Machine (List (Except Failure Response)) :=
  trialMachine [.ok ⟨503, "".toUTF8⟩, .ok ⟨503, "".toUTF8⟩, .ok ⟨200, "one".toUTF8⟩,
    .ok ⟨200, "two".toUTF8⟩]

/-- A second further try gets a download through that fails with one. -/
theorem fetchInputs_more_retries_busyTwice :
    trialOptions.retries ≤ 2 ∧
    (trial.run busyTwice).1 = .error (.status "http://aoc.test/2018/day/1/input" 503) ∧
    ((fetchInputs Machine.host (Machine.transport scripted) (withRetries trialOptions 2) ⟨"tok"⟩
      december2).run busyTwice).1 =
        .ok ⟨[⟨"out/2018/input_01"⟩, ⟨"out/2018/input_02"⟩], some 3⟩ ∧
    TriedFurther busyTwice (trial.run busyTwice)
      ((fetchInputs Machine.host (Machine.transport scripted) (withRetries trialOptions 2) ⟨"tok"⟩
        december2).run busyTwice) := by
  have hle : trialOptions.retries ≤ 2 := by decide
  refine ⟨hle, ?_, ?_, fetchInputs_more_retries scripted trialOptions ⟨"tok"⟩ december2 busyTwice hle⟩
  · decide +kernel
  · decide +kernel

/-! ## Later dates -/

section Dates

variable {σ : Type} {logged : Log.Entry → List Event} {reply : Replier σ} {o : Options}
  {c : Credential} {today today' : Date} {d d' : Disk} {s s' : σ} {visits : List Visit}
  {events : List Event} {result : Except Failure Report}

/-- The visits at a date begin those at a later one, and a failure ends both. -/
theorem Days.later_date {entries : List (Nat × Date)}
    (h : Days logged reply o c today entries d s visits events result d' s') (hle : today ≤ today') :
    ∃ visits' events' result' d'' s'',
      Days logged reply o c today' entries d s visits' events' result' d'' s'' ∧
      visits <+: visits' ∧
      ∀ e, result = .error e → events' = events ∧ result' = result ∧ d'' = d' ∧ s'' = s' := by
  induction h with
  | done => exact ⟨_, _, _, _, _, .done, List.prefix_rfl, nofun⟩
  | unreleased early =>
    obtain ⟨visits', events', result', d'', s'', days⟩ :=
      exists_days logged reply o c today' (_ :: _) _ _
    exact ⟨_, _, _, _, _, days, List.nil_prefix, nofun⟩
  | refused out tries =>
    exact ⟨_, _, _, _, _, .refused (Date.not_lt_of_le hle out) tries, List.prefix_rfl,
      fun _ _ => ⟨rfl, rfl, rfl, rfl⟩⟩
  | unwritten out tries failed =>
    exact ⟨_, _, _, _, _, .unwritten (Date.not_lt_of_le hle out) tries failed, List.prefix_rfl,
      fun _ _ => ⟨rfl, rfl, rfl, rfl⟩⟩
  | @written day release rest d d' d'' s s' s'' answers events events' body visits result out tries
      wrote days ih =>
    obtain ⟨visits', events', result', d₂, s₂, days', hvisits, hsame⟩ := ih
    refine ⟨_, _, _, _, _, .written (Date.not_lt_of_le hle out) tries wrote days',
      (List.prefix_cons_inj _).mpr hvisits, fun e he => ?_⟩
    cases result with
    | ok report => cases he
    | error e' =>
      obtain ⟨rfl, rfl, rfl, rfl⟩ := hsame e' rfl
      exact ⟨rfl, rfl, rfl, rfl⟩

theorem Course.later_date (h : Course logged reply o c today d s visits events result d' s')
    (hle : today ≤ today') :
    ∃ visits' events' result' d'' s'',
      Course logged reply o c today' d s visits' events' result' d'' s'' ∧
      visits <+: visits' ∧
      ∀ e, result = .error e → events' = events ∧ result' = result ∧ d'' = d' ∧ s'' = s' := by
  cases h with
  | noSchedule schedule =>
    exact ⟨_, _, _, _, _, .noSchedule schedule, List.prefix_rfl, fun _ _ => ⟨rfl, rfl, rfl, rfl⟩⟩
  | noDirectory schedule out failed =>
    rw [Puzzle.head_schedule schedule] at out
    have hout := (Puzzle.head_schedule schedule).trans (Puzzle.isReleased_mono hle out)
    exact ⟨_, _, _, _, _, .noDirectory schedule hout failed, List.prefix_rfl,
      fun _ _ => ⟨rfl, rfl, rfl, rfl⟩⟩
  | begun schedule out made days =>
    rw [Puzzle.head_schedule schedule] at out
    have hout := (Puzzle.head_schedule schedule).trans (Puzzle.isReleased_mono hle out)
    obtain ⟨visits', events', result', d₂, s₂, days', hvisits, hsame⟩ := days.later_date hle
    refine ⟨_, _, _, _, _, .begun schedule hout made days', hvisits, fun e he => ?_⟩
    obtain ⟨rfl, hend⟩ := hsame e he
    exact ⟨rfl, hend⟩
  | early schedule notOut days =>
    -- nothing was visited, and whatever happens later begins with that
    have hr : Puzzle.isReleased o.year today 1 = false := by
      rw [← Puzzle.head_schedule schedule, notOut]
    obtain ⟨rfl, rfl, -⟩ := (Course.early schedule notOut days).of_unreleased schedule hr
    obtain ⟨visits', events', result', d₂, s₂, course⟩ := exists_course logged reply o c today' d s
    exact ⟨_, _, _, _, _, course, List.nil_prefix, nofun⟩

/-- The run at a later date beside that at an earlier one, both from `w`. -/
structure Prolongs (w : Machine σ) (earlier later : Except Failure Report × Machine σ) : Prop where
  requests : requestsIn (w.eventsSince earlier.2) <+: requestsIn (w.eventsSince later.2)
  /-- A run that fails is the same at both dates, with all that it leaves behind. -/
  of_error : ∀ e, earlier.1 = .error e → later = earlier
  /-- Of two runs that succeed, the later one writes more files after those of the earlier one,
  which read the same. -/
  of_ok : ∀ report report', earlier.1 = .ok report → later.1 = .ok report' →
    report.written <+: report'.written ∧
    ∀ p ∈ report.written, ∃ bytes,
      earlier.2.disk.read p = .ok bytes ∧ later.2.disk.read p = .ok bytes

/-- At a later date a download does what it did before, and then goes on. -/
theorem fetchInputs_later_date (answer : Request → σ → Except Failure Response × σ) (o : Options)
    (c : Credential) (w : Machine σ) (hle : today ≤ today') :
    Prolongs w ((fetchInputs Machine.host (Machine.transport answer) o c today).run w)
      ((fetchInputs Machine.host (Machine.transport answer) o c today').run w) := by
  obtain ⟨visits, events, result, d', s', course⟩ :=
    exists_course Machine.logging (Machine.recording answer) o c today w.disk w.net
  obtain ⟨visits', events', result', d'', s'', course', hvisits, hsame⟩ := course.later_date hle
  rw [course.fetchInputs_run, course'.fetchInputs_run]
  refine ⟨?_, ?_, ?_⟩
  · rw [Machine.eventsSince_advance, Machine.eventsSince_advance, course.requests, course'.requests]
    obtain ⟨more, rfl⟩ := hvisits
    rw [List.flatMap_append]
    exact List.prefix_append _ _
  · rintro e rfl
    obtain ⟨rfl, rfl, rfl, rfl⟩ := hsame e rfl
    rfl
  · rintro report report' rfl rfl
    obtain ⟨-, hwritten, hall, -⟩ := course.of_ok
    obtain ⟨-, hwritten', -⟩ := course'.of_ok
    rw [hwritten, hwritten']
    refine ⟨hvisits.map _, fun p hp => ?_⟩
    obtain ⟨v, hv, rfl⟩ := List.mem_map.mp hp
    obtain ⟨body, hb⟩ := hall v hv
    exact ⟨body, course.read hv hb, course'.read (hvisits.subset hv) hb⟩

end Dates

def december1 : Date := ⟨2018, 12, 1, by decide, by decide⟩

/-- On the second day of the event a download goes on after the file of the first. -/
theorem fetchInputs_later_date_busyOnce :
    december1 ≤ december2 ∧
    ((fetchInputs Machine.host (Machine.transport scripted) trialOptions ⟨"tok"⟩ december1).run
      busyOnce).1 = .ok ⟨[⟨"out/2018/input_01"⟩], some 2⟩ ∧
    (trial.run busyOnce).1 = .ok ⟨[⟨"out/2018/input_01"⟩, ⟨"out/2018/input_02"⟩], some 3⟩ ∧
    Prolongs busyOnce
      ((fetchInputs Machine.host (Machine.transport scripted) trialOptions ⟨"tok"⟩ december1).run
        busyOnce) (trial.run busyOnce) := by
  have hle : december1 ≤ december2 := by decide
  refine ⟨hle, ?_, ?_, fetchInputs_later_date scripted trialOptions ⟨"tok"⟩ busyOnce hle⟩
  · decide +kernel
  · decide +kernel

end Download

end PuzzleInputs
