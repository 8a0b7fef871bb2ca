import Mathlib
import PuzzleInputs.Proofs.Course
import PuzzleInputs.Proofs.Disk
import PuzzleInputs.Proofs.Puzzle

/-!
# The visits of a download

What the derivations of `Proofs.Course` have in common. A day is asked for until an answer decides
(`Tries.exists_last`); the days are visited in order from the first (`Days.days_eq`), and every visit
but the last of a failed download ends with the day's file written (`Days.of_ok`, `Days.of_error`).
On the disk only the files of the delivered days change (`Days.alters`), and each of them reads as
the body that was received for it (`Days.read`).
-/

namespace PuzzleInputs

/-- The request of an event, with its outcome. -/
def Event.asked? : Event → Option (Request × Except Failure Response)
  | .request r outcome => some (r, outcome)
  | _ => none

/-- The requests among the events, with their outcomes. -/
def requestsIn (events : List Event) : List (Request × Except Failure Response) :=
  events.filterMap Event.asked?

/-- The outcomes of the requests to an address, in order. -/
def outcomesOf (url : String) (events : List Event) : List (Except Failure Response) :=
  ((requestsIn events).filter fun p => p.1.url = url).map Prod.snd

@[simp] theorem requestsIn_nil : requestsIn [] = [] := rfl

@[simp] theorem requestsIn_append (es es' : List Event) :
    requestsIn (es ++ es') = requestsIn es ++ requestsIn es' := List.filterMap_append

@[simp] theorem requestsIn_request (r : Request) (x : Except Failure Response) (es : List Event) :
    requestsIn (.request r x :: es) = (r, x) :: requestsIn es := rfl

@[simp] theorem requestsIn_wait (p : Pause) (es : List Event) :
    requestsIn (.wait p :: es) = requestsIn es := rfl

@[simp] theorem requestsIn_write (p : Path) (b : ByteArray) (x : Except IoFault Unit)
    (es : List Event) : requestsIn (.write p b x :: es) = requestsIn es := rfl

@[simp] theorem requestsIn_makeDirectories (p : Path) (x : Except IoFault Unit) (es : List Event) :
    requestsIn (.makeDirectories p x :: es) = requestsIn es := rfl

namespace Download

/-- The outcomes of the requests for the day, in order. -/
def Visit.outcomes (v : Visit) : List (Except Failure Response) := v.answers.map Answer.outcome

/-- The requests of a day after `attempt` others, with the pauses between them. -/
def asking (o : Options) (attempt : Nat) : List Answer → List Event
  | [] => []
  | [a] => a.noted
  | a :: answers =>
    a.noted ++ .wait (o.backoff.backoff (attempt + 1)) :: asking o (attempt + 1) answers

/-- All that happens at a visit, the log aside. -/
def Visit.events (o : Options) (v : Visit) : List Event :=
  progress o v.day ++ (asking o 0 v.answers ++
    (v.written.map fun x => Event.write (file o v.day) x.1 x.2).toList)

/-- The visit ended with `body` in the day's file: the last answer had status 200 and that body. -/
structure Visit.Delivers (v : Visit) (body : ByteArray) : Prop where
  written : v.written = some (body, .ok ())
  outcome : v.outcomes.getLast? = some (.ok ⟨200, body⟩)

/-- The visit ended with the failure `e`: the last answer was no input, or writing it failed. -/
def Visit.Fails (o : Options) (v : Visit) (e : Failure) : Prop :=
  ∃ outcome, v.outcomes.getLast? = some outcome ∧
    ((v.written = none ∧ accept (Puzzle.address o.baseUrl o.year v.day) outcome = .error e) ∨
      ∃ body cause, v.written = some (body, .error cause) ∧ outcome = .ok ⟨200, body⟩ ∧
        e = .write (file o v.day) cause)

/-- The day of the visit, if its file was written. -/
def Visit.deliveredDay? (v : Visit) : Option Nat :=
  match v.written with
  | some (_, .ok ()) => some v.day
  | _ => none

theorem accept_ok {url : String} {outcome : Except Failure Response} {body : ByteArray}
    (h : accept url outcome = .ok body) : outcome = .ok ⟨200, body⟩ := by
  cases outcome with
  | error e => cases h
  | ok response =>
    obtain ⟨status, bytes⟩ := response
    by_cases hs : status = 200
    · simp only [accept, hs, if_true, Except.ok.injEq] at h
      rw [hs, h]
    · simp [accept, hs] at h

section Laws

variable {σ : Type} {logged : Log.Entry → List Event} {reply : Replier σ} {o : Options}
  {c : Credential} {today : Date}

/-! ## The requests for a day -/

theorem Tries.exists_last {r : Request} {attempt left : Nat} {s s' : σ} {answers : List Answer}
    {events : List Event} {verdict : Except Failure ByteArray}
    (h : Tries logged reply o r attempt left s answers events verdict s') :
    ∃ init a, answers = init ++ [a] ∧ verdict = accept r.url a.outcome ∧
      ∀ b ∈ init, isRetryable b.outcome = true := by
  induction h with
  | last asked final => exact ⟨[], _, rfl, rfl, by simp⟩
  | @again attempt left s s' s'' a e answers events verdict asked failed retryable rest ih =>
    obtain ⟨init, b, rfl, hv, hinit⟩ := ih
    refine ⟨a :: init, b, rfl, hv, fun x hx => ?_⟩
    rcases List.mem_cons.mp hx with rfl | hx
    · exact (isRetryable_iff r.url _).mpr ⟨e, failed, retryable⟩
    · exact hinit x hx

theorem Tries.answers_ne_nil {r : Request} {attempt left : Nat} {s s' : σ} {answers : List Answer}
    {events : List Event} {verdict : Except Failure ByteArray}
    (h : Tries logged reply o r attempt left s answers events verdict s') : answers ≠ [] := by
  obtain ⟨init, a, rfl, -⟩ := h.exists_last
  simp

theorem Tries.length_le {r : Request} {attempt left : Nat} {s s' : σ} {answers : List Answer}
    {events : List Event} {verdict : Except Failure ByteArray}
    (h : Tries logged reply o r attempt left s answers events verdict s') :
    answers.length ≤ left + 1 := by
  induction h with
  | last asked final => simp
  | again asked failed retryable rest ih => simpa using ih

/-- The last outcome decides what comes of the day. -/
theorem Tries.getLast? {r : Request} {attempt left : Nat} {s s' : σ} {answers : List Answer}
    {events : List Event} {verdict : Except Failure ByteArray}
    (h : Tries logged reply o r attempt left s answers events verdict s') :
    ∃ outcome, (answers.map Answer.outcome).getLast? = some outcome ∧
      verdict = accept r.url outcome := by
  obtain ⟨init, a, rfl, hv, -⟩ := h.exists_last
  exact ⟨a.outcome, by simp, hv⟩

/-! ## The days in turn -/

variable {entries : List (Nat × Date)} {d d' : Disk} {s s' : σ} {visits : List Visit}
  {events : List Event} {result : Except Failure Report}

theorem Days.days_eq (h : Days logged reply o c today entries d s visits events result d' s') :
    visits.map Visit.day = (entries.map Prod.fst).take visits.length := by
  induction h with
  | done => rfl
  | unreleased early => rfl
  | refused out tries => rfl
  | unwritten out tries failed => rfl
  | written out tries wrote days ih => simp [ih]

theorem Days.released (h : Days logged reply o c today entries d s visits events result d' s') :
    ∀ v ∈ visits, ∃ release, (v.day, release) ∈ entries ∧ ¬ today < release := by
  induction h with
  | done => simp
  | unreleased early => simp
  | refused out tries => simpa using .inl out
  | unwritten out tries failed => simpa using .inl out
  | written out tries wrote days ih =>
    intro v hv
    rcases List.mem_cons.mp hv with rfl | hv
    · exact ⟨_, List.mem_cons_self, out⟩
    · obtain ⟨release, hm, hout⟩ := ih v hv
      exact ⟨release, List.mem_cons_of_mem _ hm, hout⟩

theorem Days.tried (h : Days logged reply o c today entries d s visits events result d' s') :
    ∀ v ∈ visits, v.answers ≠ [] := by
  induction h with
  | done => simp
  | unreleased early => simp
  | refused out tries => simpa using tries.answers_ne_nil
  | unwritten out tries failed => simpa using tries.answers_ne_nil
  | written out tries wrote days ih =>
    intro v hv
    rcases List.mem_cons.mp hv with rfl | hv
    · exact tries.answers_ne_nil
    · exact ih v hv

/-- A download that succeeds delivers every day it visits, and stops where the schedule or the
released days end. -/
theorem Days.of_ok {report : Report}
    (h : Days logged reply o c today entries d s visits events (.ok report) d' s') :
    report.written = visits.map (fun v => file o v.day) ∧
      (∀ v ∈ visits, ∃ body, v.Delivers body) ∧
      report.unreleased = (entries[visits.length]?).map Prod.fst ∧
      ∀ e, entries[visits.length]? = some e → today < e.2 := by
  generalize hr : (Except.ok report : Except Failure Report) = result at h
  induction h generalizing report with
  | done => cases hr; simp
  | unreleased early => cases hr; simpa using early
  | refused out tries => cases hr
  | unwritten out tries failed => cases hr
  | @written day release rest d d' d'' s s' s'' answers events events' body visits result out tries
      wrote days ih =>
    cases result with
    | error e => cases hr
    | ok report' =>
      cases hr
      obtain ⟨hw, hall, hun, hlate⟩ := ih rfl
      refine ⟨by simp [Report.cons, hw], fun v hv => ?_, by simpa [Report.cons] using hun,
        by simpa using hlate⟩
      rcases List.mem_cons.mp hv with rfl | hv
      · obtain ⟨outcome, hlast, hv⟩ := tries.getLast?
        exact ⟨body, rfl, by rw [Visit.outcomes, hlast, accept_ok hv.symm]⟩
      · exact hall v hv

/-- A download that fails delivers every day it visits but the last, and there it fails. -/
theorem Days.of_error {e : Failure}
    (h : Days logged reply o c today entries d s visits events (.error e) d' s') :
    ∃ init v, visits = init ++ [v] ∧ (∀ u ∈ init, ∃ body, u.Delivers body) ∧ v.Fails o e := by
  generalize hr : (Except.error e : Except Failure Report) = result at h
  induction h generalizing e with
  | done => cases hr
  | unreleased early => cases hr
  | refused out tries =>
    cases hr
    obtain ⟨outcome, hlast, hv⟩ := tries.getLast?
    exact ⟨[], _, rfl, by simp, outcome, hlast, .inl ⟨rfl, hv.symm⟩⟩
  | unwritten out tries failed =>
    cases hr
    obtain ⟨outcome, hlast, hv⟩ := tries.getLast?
    exact ⟨[], _, rfl, by simp, outcome, hlast, .inr ⟨_, _, rfl, accept_ok hv.symm, rfl⟩⟩
  | @written day release rest d d' d'' s s' s'' answers events events' body visits result out tries
      wrote days ih =>
    cases result with
    | ok report => cases hr
    | error e' =>
      cases hr
      obtain ⟨init, v, rfl, hall, hfail⟩ := ih rfl
      refine ⟨_ :: init, v, rfl, fun u hu => ?_, hfail⟩
      rcases List.mem_cons.mp hu with rfl | hu
      · obtain ⟨outcome, hlast, hv⟩ := tries.getLast?
        exact ⟨body, rfl, by rw [Visit.outcomes, hlast, accept_ok hv.symm]⟩
      · exact hall u hu

/-! ## The disk -/

/-- The days whose files were written. -/
def deliveredDays (visits : List Visit) : List Nat := visits.filterMap Visit.deliveredDay?

theorem deliveredDays_eq {visits : List Visit} (h : ∀ v ∈ visits, ∃ body, v.Delivers body) :
    deliveredDays visits = visits.map Visit.day := by
  induction visits with
  | nil => rfl
  | cons v visits ih =>
    obtain ⟨body, hb⟩ := h v List.mem_cons_self
    have hv : v.deliveredDay? = some v.day := by rw [Visit.deliveredDay?, hb.written]
    rw [deliveredDays, List.filterMap_cons_some hv, List.map_cons]
    exact congrArg (v.day :: ·) (ih fun u hu => h u (List.mem_cons_of_mem _ hu))

theorem Visit.Fails.deliveredDay? {v : Visit} {e : Failure} (h : v.Fails o e) :
    v.deliveredDay? = none := by
  obtain ⟨outcome, -, ⟨hw, -⟩ | ⟨body, cause, hw, -⟩⟩ := h
  · rw [Visit.deliveredDay?, hw]
  · rw [Visit.deliveredDay?, hw]

/-- Only the files of the delivered days change. -/
theorem Days.alters (h : Days logged reply o c today entries d s visits events result d' s')
    (hdays : ∀ e ∈ entries, e.1 ∈ Puzzle.days) :
    Disk.Alters d d' ((deliveredDays visits).map (file o)) [] := by
  induction h with
  | done => exact .refl _
  | unreleased early => exact .refl _
  | refused out tries => exact .refl _
  | unwritten out tries failed => exact .refl _
  | written out tries wrote days ih =>
    have hn := Puzzle.fileName_isName (hdays _ List.mem_cons_self)
    have hrest := ih fun e he => hdays e (List.mem_cons_of_mem _ he)
    exact (Disk.write_child_alters hn wrote).1.trans hrest

theorem Days.day_mem (h : Days logged reply o c today entries d s visits events result d' s') :
    ∀ v ∈ visits, v.day ∈ entries.map Prod.fst := by
  intro v hv
  have hm := List.mem_map_of_mem (f := Visit.day) hv
  rw [h.days_eq] at hm
  exact List.mem_of_mem_take hm

theorem mem_deliveredDays {day : Nat} (h : day ∈ deliveredDays visits) :
    ∃ v ∈ visits, v.day = day := by
  obtain ⟨v, hv, hd⟩ := List.mem_filterMap.mp h
  refine ⟨v, hv, ?_⟩
  unfold Visit.deliveredDay? at hd
  split at hd
  · exact Option.some.inj hd
  · cases hd

/-- The files of other days do not touch that of a day. -/
theorem read_file_of_alters {a b : Disk} {written : List Nat} {dirs : List Path} {day : Nat}
    {bytes : ByteArray} (h : Disk.Alters a b (written.map (file o)) dirs)
    (hdays : ∀ day' ∈ written, day' ∈ Puzzle.days) (hday : day ∈ Puzzle.days) (hnot : day ∉ written)
    (hr : a.read (file o day) = .ok bytes) : b.read (file o day) = .ok bytes := by
  refine h.read hr fun l hl q hq hql => ?_
  obtain ⟨day', hday', rfl⟩ := List.mem_map.mp hq
  have hname := Disk.name_eq_of_locate (Puzzle.fileName_isName hday)
    (Puzzle.fileName_isName (hdays day' hday')) hl hql
  exact hnot (Puzzle.fileName_injective hname ▸ hday')

/-- Each delivered file holds the body that was received for its day. -/
theorem Days.read (h : Days logged reply o c today entries d s visits events result d' s')
    (hdays : ∀ e ∈ entries, e.1 ∈ Puzzle.days) (hnodup : (entries.map Prod.fst).Nodup)
    {v : Visit} {body : ByteArray} (hv : v ∈ visits) (hb : v.Delivers body) :
    d'.read (file o v.day) = .ok body := by
  induction h with
  | done => cases hv
  | unreleased early => cases hv
  | refused out tries =>
    rw [List.mem_singleton] at hv
    subst hv
    cases hb.written
  | unwritten out tries failed =>
    rw [List.mem_singleton] at hv
    subst hv
    cases hb.written
  | @written day release rest d d' d'' s s' s'' answers events events' bytes visits result out tries
      wrote days ih =>
    have hdays' : ∀ e ∈ rest, e.1 ∈ Puzzle.days := fun e he => hdays e (List.mem_cons_of_mem _ he)
    rw [List.map_cons, List.nodup_cons] at hnodup
    rcases List.mem_cons.mp hv with rfl | hv
    · have hday := hdays (day, release) List.mem_cons_self
      have hlater : ∀ day' ∈ deliveredDays visits, day' ∈ rest.map Prod.fst := by
        intro day' hd
        obtain ⟨u, hu, rfl⟩ := mem_deliveredDays hd
        exact days.day_mem u hu
      cases hb.written
      -- the days that follow write to other files
      refine read_file_of_alters (days.alters hdays') (fun day' hd => ?_) hday
        (fun hd => hnodup.1 (hlater day hd))
        (Disk.write_child_alters (Puzzle.fileName_isName hday) wrote).2
      obtain ⟨e, he, rfl⟩ := List.mem_map.mp (hlater day' hd)
      exact hdays' e he
    · exact ih hdays' hnodup.2 hv

/-! ## The history -/

variable {answer : Request → σ → Except Failure Response × σ}

theorem recording_noted {r : Request} {s s' : σ} {a : Answer}
    (h : Machine.recording answer r s = (a, s')) : a.noted = [.request r a.outcome] := by
  cases h
  rfl

@[simp] theorem requestsIn_progress (o : Options) (day : Nat) : requestsIn (progress o day) = [] := by
  unfold progress
  split <;> rfl

theorem asking_cons {o : Options} {attempt : Nat} {a : Answer} {answers : List Answer}
    (h : answers ≠ []) :
    asking o attempt (a :: answers) =
      a.noted ++ .wait (o.backoff.backoff (attempt + 1)) :: asking o (attempt + 1) answers := by
  cases answers with
  | nil => exact absurd rfl h
  | cons b answers => rfl

section View

variable {β : Type} {view : Event → Option β}

/-- What is not read off the log can be read off the requests and pauses of a day. -/
theorem Tries.filterMap_events {r : Request} {attempt left : Nat} {s s' : σ} {answers : List Answer}
    {events : List Event} {verdict : Except Failure ByteArray}
    (h : Tries logged reply o r attempt left s answers events verdict s')
    (hlog : ∀ e, (logged e).filterMap view = []) :
    events.filterMap view = (asking o attempt answers).filterMap view := by
  induction h with
  | last asked final => simp [hlog, asking]
  | again asked failed retryable rest ih =>
    rw [asking_cons rest.answers_ne_nil]
    simp [hlog, List.filterMap_append, List.filterMap_cons, ih]

theorem Days.filterMap_events
    (h : Days logged reply o c today entries d s visits events result d' s')
    (hlog : ∀ e, (logged e).filterMap view = []) :
    events.filterMap view = (visits.flatMap (Visit.events o)).filterMap view := by
  induction h with
  | done => rfl
  | unreleased early => simp [hlog]
  | refused out tries => simp [Visit.events, tries.filterMap_events hlog]
  | unwritten out tries failed => simp [Visit.events, tries.filterMap_events hlog]
  | written out tries wrote days ih =>
    simp [Visit.events, tries.filterMap_events hlog, hlog, ih, List.filterMap_cons]

end View

/-- Each answer of a visit is a reply to the request for its day. -/
theorem Tries.replied {r : Request} {attempt left : Nat} {s s' : σ} {answers : List Answer}
    {events : List Event} {verdict : Except Failure ByteArray}
    (h : Tries logged reply o r attempt left s answers events verdict s') :
    ∀ a ∈ answers, ∃ t t', reply r t = (a, t') := by
  induction h with
  | last asked final =>
    intro a ha
    rw [List.mem_singleton.mp ha]
    exact ⟨_, _, asked⟩
  | again asked failed retryable rest ih =>
    intro a ha
    rcases List.mem_cons.mp ha with rfl | ha
    · exact ⟨_, _, asked⟩
    · exact ih a ha

theorem Days.replied (h : Days logged reply o c today entries d s visits events result d' s') :
    ∀ v ∈ visits, ∀ a ∈ v.answers, ∃ t t', reply (request o c v.day) t = (a, t') := by
  induction h with
  | done => simp
  | unreleased early => simp
  | refused out tries => simpa using tries.replied
  | unwritten out tries failed => simpa using tries.replied
  | written out tries wrote days ih =>
    intro v hv
    rcases List.mem_cons.mp hv with rfl | hv
    · exact tries.replied
    · exact ih v hv

/-- Each request is written down once, with its outcome, and the log holds none. -/
structure Recorded (logged : Log.Entry → List Event) (reply : Replier σ) : Prop where
  log : ∀ e, requestsIn (logged e) = []
  noted : ∀ r s, requestsIn (reply r s).1.noted = [(r, (reply r s).1.outcome)]

theorem recorded_recording (answer : Request → σ → Except Failure Response × σ) :
    Recorded Machine.logging (Machine.recording answer) :=
  ⟨fun _ => rfl, fun _ _ => rfl⟩

/-- The requests of a visit, with their outcomes. -/
def Visit.requests (o : Options) (c : Credential) (v : Visit) :
    List (Request × Except Failure Response) := v.outcomes.map fun x => (request o c v.day, x)

theorem requestsIn_asking (o : Options) (attempt : Nat) (answers : List Answer) :
    requestsIn (asking o attempt answers) = answers.flatMap fun a => requestsIn a.noted := by
  induction answers generalizing attempt with
  | nil => rfl
  | cons a answers ih =>
    cases answers with
    | nil => simp [asking]
    | cons b answers =>
      rw [asking_cons (List.cons_ne_nil b answers), requestsIn_append, requestsIn_wait, ih]
      rfl

theorem Visit.requestsIn_events {v : Visit}
    (h : ∀ a ∈ v.answers, requestsIn a.noted = [(request o c v.day, a.outcome)]) :
    requestsIn (v.events o) = v.requests o c := by
  have hanswers : v.answers.flatMap (fun a => requestsIn a.noted) = v.requests o c := by
    rw [Visit.requests, Visit.outcomes, List.map_map, List.map_eq_flatMap]
    exact List.flatMap_congr h
  have hwritten : requestsIn (v.written.map fun x => Event.write (file o v.day) x.1 x.2).toList = [] := by
    cases v.written <;> rfl
  rw [Visit.events, requestsIn_append, requestsIn_append, requestsIn_progress, requestsIn_asking,
    hanswers, hwritten, List.nil_append, List.append_nil]

theorem Days.requestsIn_eq (h : Days logged reply o c today entries d s visits events result d' s')
    (hr : Recorded logged reply) : requestsIn events = visits.flatMap (Visit.requests o c) := by
  have hevents : requestsIn events = requestsIn (visits.flatMap (Visit.events o)) :=
    h.filterMap_events hr.log
  rw [hevents, requestsIn, List.filterMap_flatMap]
  refine List.flatMap_congr fun v hv => Visit.requestsIn_events fun a ha => ?_
  obtain ⟨t, t', ht⟩ := h.replied v hv a ha
  have hnoted := hr.noted (request o c v.day) t
  rwa [ht] at hnoted

theorem Visit.filter_requests_self (o : Options) (c : Credential) (v : Visit) :
    (v.requests o c).filter (fun p => p.1.url = Puzzle.address o.baseUrl o.year v.day) =
      v.requests o c := by
  rw [List.filter_eq_self]
  intro p hp
  obtain ⟨x, -, rfl⟩ := List.mem_map.mp hp
  simp [request]

theorem Visit.filter_requests_of_ne (o : Options) (c : Credential) {u : Visit} {day : Nat}
    (h : u.day ≠ day) :
    (u.requests o c).filter (fun p => p.1.url = Puzzle.address o.baseUrl o.year day) = [] := by
  rw [List.filter_eq_nil_iff]
  intro p hp
  obtain ⟨x, -, rfl⟩ := List.mem_map.mp hp
  rw [decide_eq_true_eq]
  exact fun he => h (Puzzle.address_inj he)

/-- Days have addresses of their own, so the requests of a visit are told by the address. -/
theorem filter_requests (hnodup : (visits.map Visit.day).Nodup) {v : Visit} (hv : v ∈ visits) :
    (visits.flatMap (Visit.requests o c)).filter
      (fun p => p.1.url = Puzzle.address o.baseUrl o.year v.day) = v.requests o c := by
  induction visits with
  | nil => cases hv
  | cons u visits ih =>
    rw [List.map_cons, List.nodup_cons] at hnodup
    rw [List.flatMap_cons, List.filter_append]
    rcases List.mem_cons.mp hv with rfl | hv
    · have hrest : (visits.flatMap (Visit.requests o c)).filter
          (fun p => p.1.url = Puzzle.address o.baseUrl o.year v.day) = [] := by
        rw [List.filter_flatMap, List.flatMap_eq_nil_iff]
        intro u hu
        exact u.filter_requests_of_ne o c fun he => hnodup.1 (he ▸ List.mem_map_of_mem hu)
      rw [v.filter_requests_self, hrest, List.append_nil]
    · have hne : u.day ≠ v.day := fun he => hnodup.1 (he ▸ List.mem_map_of_mem hv)
      rw [u.filter_requests_of_ne o c hne, List.nil_append, ih hnodup.2 hv]

/-! ## The whole download -/

/-- The directories that a download may create. -/
def newDirectories (o : Options) (today : Date) : List Path :=
  if Puzzle.isReleased o.year today 1 then o.outputDir :: o.outputDir.parents else []

/-- A download fails before its first request, or goes through the days of the schedule. -/
theorem Course.cases_days (h : Course logged reply o c today d s visits events result d' s') :
    (visits = [] ∧ (∃ e, result = .error e) ∧ requestsIn events = [] ∧
      Disk.Alters d d' [] (newDirectories o today)) ∨
    ∃ entries d₁ events', Puzzle.schedule o.year = .ok entries ∧
      Disk.Alters d d₁ [] (newDirectories o today) ∧ requestsIn events = requestsIn events' ∧
      Days logged reply o c today entries d₁ s visits events' result d' s' := by
  cases h with
  | noSchedule schedule =>
    exact .inl ⟨rfl, ⟨_, rfl⟩, rfl, (Disk.Alters.refl _).mono (by simp) (by simp)⟩
  | noDirectory schedule out failed =>
    have hm := Disk.makeDirectories_alters d o.outputDir
    rw [failed] at hm
    rw [Puzzle.head_schedule schedule] at out
    exact .inl ⟨rfl, ⟨_, rfl⟩, rfl, by rwa [newDirectories, if_pos out]⟩
  | begun schedule out made days =>
    have hm := Disk.makeDirectories_alters d o.outputDir
    rw [made] at hm
    rw [Puzzle.head_schedule schedule] at out
    exact .inr ⟨_, _, _, schedule, by rwa [newDirectories, if_pos out],
      requestsIn_makeDirectories _ _ _, days⟩
  | early schedule notOut days =>
    exact .inr ⟨_, _, _, schedule, (Disk.Alters.refl _).mono (by simp) (by simp), rfl, days⟩

/-- Before the first day of the event a download does nothing but tell the log. -/
theorem Course.of_unreleased (h : Course logged reply o c today d s visits events result d' s')
    (hs : Puzzle.schedule o.year = .ok entries) (hr : Puzzle.isReleased o.year today 1 = false) :
    visits = [] ∧ result = .ok ⟨[], some 1⟩ ∧ d' = d ∧ s' = s ∧ ∃ entry, events = logged entry := by
  cases h with
  | noSchedule schedule => rw [hs] at schedule; cases schedule
  | noDirectory schedule out failed => rw [Puzzle.head_schedule schedule, hr] at out; cases out
  | begun schedule out made days => rw [Puzzle.head_schedule schedule, hr] at out; cases out
  | early schedule notOut days =>
    cases hs.symm.trans schedule
    obtain ⟨release, rest, rfl⟩ := Puzzle.schedule_eq_cons hs
    cases days with
    | unreleased early => exact ⟨rfl, rfl, rfl, rfl, _, rfl⟩
    | refused out tries => exact absurd out (of_decide_eq_false notOut)
    | unwritten out tries failed => exact absurd out (of_decide_eq_false notOut)
    | written out tries wrote days => exact absurd out (of_decide_eq_false notOut)

theorem Course.alters (h : Course logged reply o c today d s visits events result d' s') :
    Disk.Alters d d' ((deliveredDays visits).map (file o)) (newDirectories o today) := by
  rcases h.cases_days with ⟨rfl, -, -, ha⟩ | ⟨entries, d₁, events', hs, ha, -, days⟩
  · exact ha
  · have := ha.trans (days.alters (Puzzle.mem_days_of_schedule hs))
    rwa [List.nil_append, List.append_nil] at this

theorem Course.days_eq (h : Course logged reply o c today d s visits events result d' s') :
    visits.map Visit.day = List.range' 1 visits.length ∧ visits.length ≤ 25 := by
  rcases h.cases_days with ⟨rfl, -⟩ | ⟨entries, d₁, events', hs, -, -, days⟩
  · exact ⟨rfl, Nat.zero_le _⟩
  · have hd := days.days_eq
    rw [(Puzzle.schedule_ok hs).1] at hd
    have hlen : visits.length ≤ 25 := by
      have := congrArg List.length hd
      simp [Puzzle.days] at this
      omega
    rw [Puzzle.days, List.take_range'_of_length_ge hlen] at hd
    exact ⟨hd, hlen⟩

theorem Course.mem_days (h : Course logged reply o c today d s visits events result d' s') {v : Visit}
    (hv : v ∈ visits) : v.day ∈ Puzzle.days ∧ v.day ≤ visits.length := by
  have hm := List.mem_map_of_mem (f := Visit.day) hv
  rw [h.days_eq.1, List.mem_range'_1] at hm
  have := h.days_eq.2
  rw [Puzzle.mem_days]
  omega

theorem Course.released (h : Course logged reply o c today d s visits events result d' s') {v : Visit}
    (hv : v ∈ visits) : Puzzle.isReleased o.year today v.day = true := by
  rcases h.cases_days with ⟨rfl, -⟩ | ⟨entries, d₁, events', hs, -, -, days⟩
  · cases hv
  · obtain ⟨release, hm, hout⟩ := days.released v hv
    exact (Puzzle.isReleased_of_mem_schedule hs hm).mpr hout

theorem Course.tried (h : Course logged reply o c today d s visits events result d' s') :
    ∀ v ∈ visits, v.answers ≠ [] := by
  rcases h.cases_days with ⟨rfl, -⟩ | ⟨entries, d₁, events', hs, -, -, days⟩
  · simp
  · exact days.tried

theorem Course.read (h : Course logged reply o c today d s visits events result d' s') {v : Visit}
    {body : ByteArray} (hv : v ∈ visits) (hb : v.Delivers body) :
    d'.read (file o v.day) = .ok body := by
  rcases h.cases_days with ⟨rfl, -⟩ | ⟨entries, d₁, events', hs, -, -, days⟩
  · cases hv
  · exact days.read (Puzzle.mem_days_of_schedule hs) (Puzzle.nodup_days_of_schedule hs) hv hb

theorem Course.length_le (h : Course logged reply o c today d s visits events result d' s') :
    visits.length ≤ Puzzle.releasedCount o.year today := by
  rcases Nat.eq_zero_or_pos visits.length with hz | hpos
  · rw [hz]; exact Nat.zero_le _
  · have hlast : visits.length ∈ visits.map Visit.day := by
      rw [h.days_eq.1, List.mem_range'_1]
      omega
    obtain ⟨v, hv, hday⟩ := List.mem_map.mp hlast
    rw [← hday, ← Puzzle.isReleased_iff_le (h.mem_days hv).1]
    exact h.released hv

/-- A download that succeeds visits exactly the released days. -/
theorem Course.of_ok {report : Report}
    (h : Course logged reply o c today d s visits events (.ok report) d' s') :
    visits.length = Puzzle.releasedCount o.year today ∧
      report.written = visits.map (fun v => file o v.day) ∧
      (∀ v ∈ visits, ∃ body, v.Delivers body) ∧
      report.unreleased = if visits.length < 25 then some (visits.length + 1) else none := by
  have hle := h.length_le
  rcases h.cases_days with ⟨-, ⟨e, he⟩, -⟩ | ⟨entries, d₁, events', hs, -, -, days⟩
  · cases he
  · obtain ⟨hw, hall, hun, hlate⟩ := days.of_ok
    have hnext : (entries[visits.length]?).map Prod.fst =
        if visits.length < 25 then some (visits.length + 1) else none := by
      rw [← List.getElem?_map, (Puzzle.schedule_ok hs).1, Puzzle.days]
      split
      · rename_i hlt
        rw [List.getElem?_range' hlt, Nat.one_mul, Nat.add_comm]
      · rename_i hge
        exact List.getElem?_eq_none (by simpa using hge)
    refine ⟨Nat.le_antisymm hle (Nat.not_lt.mp fun hlt => ?_), hw, hall, hun.trans hnext⟩
    -- a released day after the last visit contradicts the stop there
    have hcount := Puzzle.releasedCount_le o.year today
    rw [if_pos (by omega)] at hnext
    obtain ⟨e, he, hday⟩ := Option.map_eq_some_iff.mp hnext
    have hmem : e.1 ∈ Puzzle.days := Puzzle.mem_days_of_schedule hs e (List.mem_of_getElem? he)
    have hout : Puzzle.isReleased o.year today e.1 = true :=
      (Puzzle.isReleased_iff_le hmem).mpr (by omega)
    exact (Puzzle.isReleased_of_mem_schedule hs (List.mem_of_getElem? he)).mp hout (hlate e he)

theorem Course.of_error {e : Failure}
    (h : Course logged reply o c today d s visits events (.error e) d' s') :
    visits = [] ∨
      ∃ init v, visits = init ++ [v] ∧ (∀ u ∈ init, ∃ body, u.Delivers body) ∧ v.Fails o e := by
  rcases h.cases_days with ⟨hv, -⟩ | ⟨entries, d₁, events', hs, -, -, days⟩
  · exact .inl hv
  · exact .inr days.of_error

theorem Course.replied (h : Course logged reply o c today d s visits events result d' s') {v : Visit}
    (hv : v ∈ visits) : ∀ a ∈ v.answers, ∃ t t', reply (request o c v.day) t = (a, t') := by
  rcases h.cases_days with ⟨rfl, -⟩ | ⟨entries, d₁, events', hs, -, -, days⟩
  · cases hv
  · exact days.replied v hv

/-- What is read off neither the log nor the output directory can be read off the visits. -/
theorem Course.filterMap_events {β : Type} {view : Event → Option β}
    (h : Course logged reply o c today d s visits events result d' s')
    (hlog : ∀ e, (logged e).filterMap view = [])
    (hmade : ∀ path x, view (.makeDirectories path x) = none) :
    events.filterMap view = (visits.flatMap (Visit.events o)).filterMap view := by
  cases h with
  | noSchedule schedule => rfl
  | noDirectory schedule out failed => simp [hmade]
  | begun schedule out made days => simp [hmade, days.filterMap_events hlog]
  | early schedule notOut days => exact days.filterMap_events hlog

theorem Course.requestsIn_eq (h : Course logged reply o c today d s visits events result d' s')
    (hr : Recorded logged reply) : requestsIn events = visits.flatMap (Visit.requests o c) := by
  rcases h.cases_days with ⟨rfl, -, hnone, -⟩ | ⟨entries, d₁, events', hs, -, hsame, days⟩
  · exact hnone
  · rw [hsame, days.requestsIn_eq hr]

theorem Course.outcomesOf_eq (h : Course logged reply o c today d s visits events result d' s')
    (hr : Recorded logged reply) {v : Visit} (hv : v ∈ visits) :
    outcomesOf (Puzzle.address o.baseUrl o.year v.day) events = v.outcomes := by
  have hnodup : (visits.map Visit.day).Nodup := by
    rw [h.days_eq.1]
    exact List.nodup_range'
  rw [outcomesOf, h.requestsIn_eq hr, filter_requests hnodup hv, Visit.requests, List.map_map]
  simp

theorem Course.requests
    (h : Course Machine.logging (Machine.recording answer) o c today d s visits events result d' s') :
    requestsIn events = visits.flatMap (Visit.requests o c) :=
  h.requestsIn_eq (recorded_recording answer)

theorem Course.outcomesOf
    (h : Course Machine.logging (Machine.recording answer) o c today d s visits events result d' s')
    {v : Visit} (hv : v ∈ visits) :
    outcomesOf (Puzzle.address o.baseUrl o.year v.day) events = v.outcomes :=
  h.outcomesOf_eq (recorded_recording answer) hv

end Laws

end Download

end PuzzleInputs
