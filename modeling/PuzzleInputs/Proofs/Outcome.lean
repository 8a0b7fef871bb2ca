import Mathlib
import PuzzleInputs.Proofs.Visits

/-!
# Downloads that succeed and downloads that fail

A download that succeeds has delivered every released day and touched nothing else
(`fetchInputs_ok_delivers`). One that fails after a request has delivered the days before that of
its last request, failed at that day for a reason that its last answer or its file gives, and left
all the rest as it was (`fetchInputs_error_keeps`).
-/

namespace PuzzleInputs

/-- The address that a failed request names. -/
def Failure.url? : Failure → Option String
  | .status url _ => some url
  | .transport url _ => some url
  | .body url _ => some url
  | _ => none

namespace Download

variable {σ : Type} {answer : Request → σ → Except Failure Response × σ} {o : Options}
  {c : Credential} {today : Date} {w w' : Machine σ}

theorem newDirectories_eq (o : Options) (today : Date) :
    newDirectories o today =
      if Puzzle.releasedCount o.year today = 0 then [] else o.outputDir :: o.outputDir.parents := by
  unfold newDirectories
  cases hr : Puzzle.isReleased o.year today 1 with
  | false => rw [if_pos (Puzzle.releasedCount_eq_zero.mpr hr), if_neg Bool.false_ne_true]
  | true =>
    have hne : Puzzle.releasedCount o.year today ≠ 0 := by
      rw [ne_eq, Puzzle.releasedCount_eq_zero, hr]
      exact Bool.noConfusion
    rw [if_neg hne, if_pos rfl]

/-- Every day up to the last visit has its visit. -/
theorem Course.exists_visit {logged : Log.Entry → List Event} {reply : Replier σ} {d d' : Disk}
    {s s' : σ} {visits : List Visit} {events : List Event} {result : Except Failure Report}
    (h : Course logged reply o c today d s visits events result d' s') {day : Nat} (h1 : 1 ≤ day)
    (hle : day ≤ visits.length) : ∃ v ∈ visits, v.day = day := by
  have hm : day ∈ visits.map Visit.day := by
    rw [h.days_eq.1, List.mem_range'_1]
    omega
  exact List.mem_map.mp hm

/-- What a download that succeeds has done between the machines `w` and `w'`. -/
structure Delivered (o : Options) (today : Date) (w w' : Machine σ) (report : Report) : Prop where
  /-- The files of the released days are written, in order. -/
  written : report.written = (List.range' 1 (Puzzle.releasedCount o.year today)).map (file o)
  /-- The day after them is reported. -/
  unreleased : report.unreleased = if Puzzle.releasedCount o.year today < 25
    then some (Puzzle.releasedCount o.year today + 1) else none
  /-- Each file holds the body of the last answer for its day, which had status 200. -/
  content : ∀ day, 1 ≤ day → day ≤ Puzzle.releasedCount o.year today → ∃ body,
    (outcomesOf (Puzzle.address o.baseUrl o.year day) (w.eventsSince w')).getLast? =
      some (.ok ⟨200, body⟩) ∧
    w'.disk.read (file o day) = .ok body
  /-- Apart from these files, only the output directory and those above it are new. -/
  disk : Disk.Alters w.disk w'.disk
    ((List.range' 1 (Puzzle.releasedCount o.year today)).map (file o))
    (if Puzzle.releasedCount o.year today = 0 then [] else o.outputDir :: o.outputDir.parents)

/-- A download that succeeds has delivered the released days and touched nothing else. -/
theorem fetchInputs_ok_delivers {report : Report}
    (h : (fetchInputs Machine.host (Machine.transport answer) o c today).run w =
      (.ok report, w')) : Delivered o today w w' report := by
  obtain ⟨visits, course⟩ := course_of_fetchInputs h
  obtain ⟨hlen, hwritten, hall, hun⟩ := course.of_ok
  have hfiles : visits.map (fun v => file o v.day) =
      (List.range' 1 (Puzzle.releasedCount o.year today)).map (file o) := by
    rw [← hlen, ← course.days_eq.1, List.map_map]
    rfl
  refine ⟨hwritten.trans hfiles, by rw [hun, hlen], fun day h1 hle => ?_, ?_⟩
  · obtain ⟨v, hv, rfl⟩ := course.exists_visit h1 (hlen ▸ hle)
    obtain ⟨body, hb⟩ := hall v hv
    exact ⟨body, by rw [course.outcomesOf hv, hb.outcome], course.read hv hb⟩
  · have ha := course.alters
    rw [deliveredDays_eq hall, course.days_eq.1, hlen, newDirectories_eq] at ha
    exact ha

/-- Answers read off a list; after its end no answer comes. -/
def scripted (r : Request) :
    List (Except Failure Response) → Except Failure Response × List (Except Failure Response)
  | [] => (.error (.transport r.url "no answer"), [])
  | x :: rest => (x, rest)

/-- Options with one more try per day. -/
def trialOptions : Options where
  year := 2018
  baseUrl := "http://aoc.test/"
  userAgent := "ua"
  outputDir := ⟨"out/2018"⟩
  retries := 1
  backoff := Options.defaultBackoff
  quiet := false

/-- A machine with an old input of day 1 where the new one goes. -/
def trialMachine {σ : Type} (net : σ) : Machine σ where
  disk :=
    { workingDirectory := ["home"]
      entries := [(["home"], .directory), (["home", "out"], .directory),
        (["home", "out", "2018"], .directory),
        (["home", "out", "2018", "input_01"], .file "old and longer".toUTF8)] }
  clock := .epoch
  net := net

def december2 : Date := ⟨2018, 12, 2, by decide, by decide⟩

/-- Day 1 is answered at the second try, day 2 at the first. -/
def busyOnce : Machine (List (Except Failure Response)) :=
  trialMachine [.ok ⟨503, "busy".toUTF8⟩, .ok ⟨200, "one".toUTF8⟩, .ok ⟨200, "two".toUTF8⟩]

/-- Day 1 is answered; day 2 meets a failure of the server, then its refusal. -/
def refusedOnce : Machine (List (Except Failure Response)) :=
  trialMachine [.ok ⟨200, "one".toUTF8⟩, .ok ⟨503, "".toUTF8⟩, .ok ⟨404, "".toUTF8⟩]

/-- The download on the second day of the event. -/
abbrev trial : StateM (Machine (List (Except Failure Response))) (Except Failure Report) :=
  fetchInputs Machine.host (Machine.transport scripted) trialOptions ⟨"tok"⟩ december2

theorem fetchInputs_ok_delivers_busyOnce :
    ∃ report w', trial.run busyOnce = (.ok report, w') ∧
      report = ⟨[⟨"out/2018/input_01"⟩, ⟨"out/2018/input_02"⟩], some 3⟩ ∧
      Delivered trialOptions december2 busyOnce w' report := by
  have hok : (trial.run busyOnce).1 =
      .ok ⟨[⟨"out/2018/input_01"⟩, ⟨"out/2018/input_02"⟩], some 3⟩ := by decide +kernel
  obtain ⟨result, w', hrun⟩ := exists_run trial busyOnce
  rw [hrun] at hok
  subst hok
  exact ⟨_, w', hrun, rfl, fetchInputs_ok_delivers hrun⟩

/-! ## Failures -/

theorem Tries.answered {r : Request} {attempt left : Nat} {s s' : σ} {answers : List Answer}
    {events : List Event} {verdict : Except Failure ByteArray}
    (h : Tries Machine.logging (Machine.recording answer) o r attempt left s answers events verdict s') :
    ∀ a ∈ answers, ∃ t, a.outcome = (answer r t).1 := by
  intro a ha
  obtain ⟨t, t', ht⟩ := h.replied a ha
  cases ht
  exact ⟨t, rfl⟩

section

variable {entries : List (Nat × Date)} {d d' : Disk} {s s' : σ} {visits : List Visit}
  {events : List Event} {result : Except Failure Report}

/-- Each outcome is one that the transport gave to a request for that day. -/
theorem Course.answered
    (h : Course Machine.logging (Machine.recording answer) o c today d s visits events result d' s')
    {v : Visit} (hv : v ∈ visits) :
    ∀ x ∈ v.outcomes, ∃ t, x = (answer (request o c v.day) t).1 := by
  intro x hx
  obtain ⟨a, ha, rfl⟩ := List.mem_map.mp hx
  obtain ⟨t, t', ht⟩ := h.replied hv a ha
  cases ht
  exact ⟨t, rfl⟩

/-- The visits before the last are those of the days before its day. -/
theorem Course.days_concat {logged : Log.Entry → List Event} {reply : Replier σ} {init : List Visit}
    {v : Visit} (h : Course logged reply o c today d s (init ++ [v]) events result d' s') :
    init.map Visit.day = List.range' 1 (v.day - 1) ∧ v.day = init.length + 1 := by
  have hd := h.days_eq.1
  rw [List.map_append, List.length_append, List.length_singleton, List.range'_concat] at hd
  obtain ⟨hinit, hv⟩ := List.append_inj' hd rfl
  have hday : v.day = init.length + 1 := by
    have := (List.cons.inj hv).1
    omega
  exact ⟨by rw [hinit, hday, Nat.add_sub_cancel], hday⟩

/-- The last request is the last of the last visit. -/
theorem Course.getLast?_requests {init : List Visit} {v : Visit} {outcome : Except Failure Response}
    (h : Course Machine.logging (Machine.recording answer) o c today d s (init ++ [v]) events result
      d' s') (hlast : v.outcomes.getLast? = some outcome) :
    (requestsIn events).getLast? = some (request o c v.day, outcome) := by
  rw [h.requests, List.flatMap_append, List.flatMap_singleton, List.getLast?_append, Visit.requests,
    List.getLast?_map, hlast]
  rfl

theorem Course.mem_requests {p : Request × Except Failure Response}
    (h : Course Machine.logging (Machine.recording answer) o c today d s visits events result d' s')
    (hp : p ∈ requestsIn events) : ∃ v ∈ visits, p.1 = request o c v.day := by
  rw [h.requests] at hp
  obtain ⟨v, hv, hpv⟩ := List.mem_flatMap.mp hp
  obtain ⟨x, -, rfl⟩ := List.mem_map.mp hpv
  exact ⟨v, hv, rfl⟩

end

/-- A file at the end of a path that was not written is as it was. -/
theorem file_unchanged {before after : Disk} {days : List Nat} {dirs : List Path} {day : Nat}
    (h : Disk.Alters before after (days.map (file o)) dirs) (hdays : ∀ d ∈ days, d ∈ Puzzle.days)
    (hday : day ∈ Puzzle.days) (hnot : day ∉ days) {l : Location}
    (hl : after.locate (file o day) = .ok l) (bytes : ByteArray) :
    after.node? l = some (.file bytes) ↔ before.node? l = some (.file bytes) := by
  rcases h.node l with he | ⟨-, p, hp, hpl⟩ | ⟨hnone, hdir, -⟩
  · rw [he]
  · obtain ⟨d, hd, rfl⟩ := List.mem_map.mp hp
    have hname := Disk.name_eq_of_locate (Puzzle.fileName_isName hday)
      (Puzzle.fileName_isName (hdays d hd)) hl hpl
    exact (hnot (Puzzle.fileName_injective hname ▸ hd)).elim
  · rw [hnone, hdir]
    simp

/-- The failure at the last visit, as the user sees it. -/
theorem Visit.Fails.cases {v : Visit} {e : Failure} (h : v.Fails o e) :
    ∃ outcome, v.outcomes.getLast? = some outcome ∧
      ((outcome = .error e ∨ ∃ status body, outcome = .ok ⟨status, body⟩ ∧ status ≠ 200 ∧
          e = .status (Puzzle.address o.baseUrl o.year v.day) status) ∨
        ∃ body cause, outcome = .ok ⟨200, body⟩ ∧ e = .write (file o v.day) cause) := by
  obtain ⟨outcome, hlast, ⟨-, ha⟩ | ⟨body, cause, -, hx, he⟩⟩ := h
  · refine ⟨outcome, hlast, .inl ?_⟩
    cases outcome with
    | error e' =>
      cases ha
      exact .inl rfl
    | ok response =>
      obtain ⟨status, body⟩ := response
      by_cases hs : status = 200
      · simp [accept, hs] at ha
      · simp only [accept, hs, if_false, Except.error.injEq] at ha
        exact .inr ⟨status, body, rfl, hs, ha.symm⟩
  · exact ⟨outcome, hlast, .inr ⟨body, cause, hx, he⟩⟩

/-- What a download that fails with `e` has done between the machines `w` and `w'`, if its last
request was for `day` and had this outcome. -/
structure FailedAt (answer : Request → σ → Except Failure Response × σ) (o : Options) (c : Credential)
    (today : Date) (w w' : Machine σ) (e : Failure) (day : Nat) (outcome : Except Failure Response) :
    Prop where
  mem_days : day ∈ Puzzle.days
  released : Puzzle.isReleased o.year today day = true
  last_request : (requestsIn (w.eventsSince w')).getLast? = some (request o c day, outcome)
  /-- The days before hold the bodies received for them, with status 200. -/
  earlier : ∀ d, 1 ≤ d → d < day → ∃ body,
    (outcomesOf (Puzzle.address o.baseUrl o.year d) (w.eventsSince w')).getLast? =
      some (.ok ⟨200, body⟩) ∧
    w'.disk.read (file o d) = .ok body
  /-- All requests were for days up to this one. -/
  asked : ∀ p ∈ requestsIn (w.eventsSince w'), ∃ d, 1 ≤ d ∧ d ≤ day ∧ p.1 = request o c d
  not_asked : ∀ d, day < d →
    outcomesOf (Puzzle.address o.baseUrl o.year d) (w.eventsSince w') = []
  /-- The files of this day and of those after it are as they were. -/
  later : ∀ d ∈ Puzzle.days, day ≤ d → ∀ l, w'.disk.locate (file o d) = .ok l → ∀ bytes,
    (w'.disk.node? l = some (.file bytes) ↔ w.disk.node? l = some (.file bytes))
  /-- Apart from the days before, only the output directory and those above it are new. -/
  disk : Disk.Alters w.disk w'.disk ((List.range' 1 (day - 1)).map (file o))
    (o.outputDir :: o.outputDir.parents)
  /-- The last answer was the failure or had another status than 200, or its body could not be
  written. -/
  cause : (outcome = .error e ∨ ∃ status body, outcome = .ok ⟨status, body⟩ ∧ status ≠ 200 ∧
      e = .status (Puzzle.address o.baseUrl o.year day) status) ∨
    ∃ body cause, outcome = .ok ⟨200, body⟩ ∧ e = .write (file o day) cause
  /-- If the failures of the transport name the address asked for, this one names that of the day. -/
  names_address : (∀ r s e', (answer r s).1 = .error e' → ∀ url ∈ e'.url?, url = r.url) →
    ∀ url ∈ e.url?, url = Puzzle.address o.baseUrl o.year day

section

variable {logged : Log.Entry → List Event} {reply : Replier σ} {d d' : Disk} {s s' : σ}
  {init : List Visit} {v : Visit} {events : List Event} {e : Failure}

/-- Of a download that failed at its last visit, the files of the days before remain. -/
theorem Course.alters_of_fails
    (h : Course logged reply o c today d s (init ++ [v]) events (.error e) d' s')
    (hall : ∀ u ∈ init, ∃ body, u.Delivers body) (hfail : v.Fails o e) :
    Disk.Alters d d' ((List.range' 1 (v.day - 1)).map (file o))
      (o.outputDir :: o.outputDir.parents) := by
  have hv : v ∈ init ++ [v] := List.mem_append_right _ (List.mem_singleton_self v)
  have hfirst : Puzzle.isReleased o.year today 1 = true :=
    Puzzle.isReleased_of_le (Nat.le_refl 1) (Puzzle.mem_days.mp (h.mem_days hv).1).1 (h.released hv)
  have hdays : deliveredDays (init ++ [v]) = List.range' 1 (v.day - 1) := by
    rw [deliveredDays, List.filterMap_append, List.filterMap_cons_none hfail.deliveredDay?,
      List.filterMap_nil, List.append_nil, ← deliveredDays, deliveredDays_eq hall, h.days_concat.1]
  have ha := h.alters
  rw [hdays, newDirectories, if_pos hfirst] at ha
  exact ha

/-- No day after that of the last visit is asked for. -/
theorem Course.asked_le
    (h : Course Machine.logging (Machine.recording answer) o c today d s (init ++ [v]) events (.error e)
      d' s') :
    ∀ p ∈ requestsIn events, ∃ day, 1 ≤ day ∧ day ≤ v.day ∧ p.1 = request o c day := by
  intro p hp
  obtain ⟨u, hu, hpu⟩ := h.mem_requests hp
  obtain ⟨hmem, hle⟩ := h.mem_days hu
  rw [List.length_append, List.length_singleton, ← h.days_concat.2] at hle
  exact ⟨u.day, (Puzzle.mem_days.mp hmem).1, hle, hpu⟩

theorem outcomesOf_eq_nil {day day' : Nat}
    (h : ∀ p ∈ requestsIn events, ∃ d, 1 ≤ d ∧ d ≤ day ∧ p.1 = request o c d) (hlt : day < day') :
    outcomesOf (Puzzle.address o.baseUrl o.year day') events = [] := by
  rw [outcomesOf, List.map_eq_nil_iff, List.filter_eq_nil_iff]
  intro p hp
  obtain ⟨d, -, hle, hreq⟩ := h p hp
  rw [decide_eq_true_eq, hreq]
  intro haddr
  have := Puzzle.address_inj haddr
  omega

end

/-- A download that fails after a request has delivered the days before that of its last request,
and failed there. -/
theorem fetchInputs_error_keeps {e : Failure}
    (h : (fetchInputs Machine.host (Machine.transport answer) o c today).run w = (.error e, w'))
    (hasked : requestsIn (w.eventsSince w') ≠ []) :
    ∃ day outcome, FailedAt answer o c today w w' e day outcome := by
  obtain ⟨visits, course⟩ := course_of_fetchInputs h
  rcases course.of_error with rfl | ⟨init, v, rfl, hall, hfail⟩
  · exact (hasked course.requests).elim
  have hv : v ∈ init ++ [v] := List.mem_append_right _ (List.mem_singleton_self v)
  have hmem := (course.mem_days hv).1
  have halters := course.alters_of_fails hall hfail
  obtain ⟨outcome, hlast, hcause⟩ := hfail.cases
  refine ⟨v.day, outcome, hmem, course.released hv, course.getLast?_requests hlast, ?_,
    course.asked_le, fun d hlt => outcomesOf_eq_nil course.asked_le hlt, ?_, halters, hcause, ?_⟩
  · intro d h1 hlt
    have hd : d ∈ init.map Visit.day := by
      rw [course.days_concat.1, List.mem_range'_1]
      omega
    obtain ⟨u, hu, rfl⟩ := List.mem_map.mp hd
    obtain ⟨body, hb⟩ := hall u hu
    have hu' : u ∈ init ++ [v] := List.mem_append_left _ hu
    exact ⟨body, by rw [course.outcomesOf hu', hb.outcome], course.read hu' hb⟩
  · intro d hd hle l hl bytes
    refine file_unchanged halters (fun d' hd' => ?_) hd (fun hin => ?_) hl bytes
    · rw [List.mem_range'_1] at hd'
      rw [Puzzle.mem_days] at hmem ⊢
      omega
    · rw [List.mem_range'_1] at hin
      omega
  · intro hnames url hurl
    rcases hcause with (rfl | ⟨status, body, -, -, rfl⟩) | ⟨body, cause, -, rfl⟩
    · obtain ⟨t, ht⟩ := course.answered hv _ (List.mem_of_getLast? hlast)
      exact hnames _ t e ht.symm url hurl
    · exact (Option.some.inj hurl).symm
    · cases hurl

theorem fetchInputs_error_keeps_refusedOnce :
    ∃ e w', trial.run refusedOnce = (.error e, w') ∧
      e = .status "http://aoc.test/2018/day/2/input" 404 ∧
      requestsIn (refusedOnce.eventsSince w') ≠ [] ∧
      ∃ day outcome, FailedAt scripted trialOptions ⟨"tok"⟩ december2 refusedOnce w' e day outcome := by
  have herror : (trial.run refusedOnce).1 =
      .error (.status "http://aoc.test/2018/day/2/input" 404) := by decide +kernel
  have hthree : (requestsIn (refusedOnce.eventsSince (trial.run refusedOnce).2)).length = 3 := by
    decide +kernel
  obtain ⟨result, w', hrun⟩ := exists_run trial refusedOnce
  rw [hrun] at herror hthree
  subst herror
  have hasked := List.ne_nil_of_length_eq_add_one hthree
  exact ⟨_, w', hrun, rfl, hasked, fetchInputs_error_keeps hrun hasked⟩

end Download

end PuzzleInputs
