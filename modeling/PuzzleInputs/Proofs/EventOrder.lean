import Mathlib
import PuzzleInputs.Proofs.Program
import PuzzleInputs.Proofs.Visits

/-!
# The order of events

The log aside, a download creates the output directory, then stays at one day after the other: a line
for the user, the requests with a pause between each two, and the file. `Requests` and `InOrder` are
the grammar of these steps. What a reader of the history wants to know follows from the grammar alone
(`InOrder.split_request`, `InOrder.split_write`), and every run keeps to it (`runs_in_order`).
-/

namespace PuzzleInputs

/-- Whether the event is an entry of the log. -/
def Event.isLog : Event → Bool
  | .log _ => true
  | _ => false

/-- The events that are not entries of the log. -/
def steps (events : List Event) : List Event := events.filter fun e => !e.isLog

@[simp] theorem steps_nil : steps [] = [] := rfl

@[simp] theorem steps_append (es es' : List Event) : steps (es ++ es') = steps es ++ steps es' :=
  List.filter_append es es'

@[simp] theorem steps_logging (e : Log.Entry) : steps (Machine.logging e) = [] := rfl

@[simp] theorem steps_write (p : Path) (b : ByteArray) (x : Except IoFault Unit) (es : List Event) :
    steps (.write p b x :: es) = .write p b x :: steps es := rfl

@[simp] theorem steps_makeDirectories (p : Path) (x : Except IoFault Unit) (es : List Event) :
    steps (.makeDirectories p x :: es) = .makeDirectories p x :: steps es := rfl

/-- What is not read off the log can be read off the steps. -/
theorem filterMap_steps {α : Type} {f : Event → Option α} (h : ∀ entry, f (.log entry) = none)
    (events : List Event) : (steps events).filterMap f = events.filterMap f := by
  induction events with
  | nil => rfl
  | cons e events ih =>
    unfold steps at ih ⊢
    cases e with
    | log entry =>
      rw [List.filter_cons_of_neg (by simp [Event.isLog]), ih, List.filterMap_cons_none (h entry)]
    | _ => rw [List.filter_cons_of_pos rfl, List.filterMap_cons, List.filterMap_cons, ih]

theorem requestsIn_steps (events : List Event) : requestsIn (steps events) = requestsIn events :=
  filterMap_steps (fun _ => rfl) events

theorem outcomesOf_steps (url : String) (events : List Event) :
    outcomesOf url (steps events) = outcomesOf url events := by
  rw [outcomesOf, outcomesOf, requestsIn_steps]

/-- A cut of `as ++ bs` at an element is one of `as` or one of `bs`. -/
theorem split_of_append_eq {α : Type} {as bs before after : List α} {a : α}
    (h : as ++ bs = before ++ a :: after) :
    (∃ after', as = before ++ a :: after' ∧ after = after' ++ bs) ∨
      ∃ before', before = as ++ before' ∧ bs = before' ++ a :: after := by
  rcases List.append_eq_append_iff.mp h with ⟨before', hb, hbs⟩ | ⟨as', ha, hafter⟩
  · exact .inr ⟨before', hb, hbs⟩
  · rcases List.cons_eq_append_iff.mp hafter with ⟨rfl, hbs⟩ | ⟨as'', rfl, hrest⟩
    · exact .inr ⟨[], by simpa using ha.symm, hbs⟩
    · exact .inl ⟨as'', ha, hrest⟩

theorem mem_or_of_append_eq {α : Type} {as bs before after : List α} {a : α}
    (h : as ++ bs = before ++ a :: after) :
    a ∈ as ∨ ∃ before', before = as ++ before' ∧ bs = before' ++ a :: after := by
  rcases split_of_append_eq h with ⟨after', rfl, -⟩ | hcut
  · exact .inl (by simp)
  · exact .inr hcut

namespace Download

@[simp] theorem steps_progress (o : Options) (day : Nat) : steps (progress o day) = progress o day := by
  unfold progress
  split <;> rfl

theorem file_inj {o : Options} {d d' : Nat} (hd : d ∈ Puzzle.days) (hd' : d' ∈ Puzzle.days)
    (h : file o d = file o d') : d = d' :=
  Puzzle.fileName_injective
    (Path.child_inj (Puzzle.fileName_isName hd) (Puzzle.fileName_isName hd') h)

/-! ## The grammar -/

/-- `Requests o r attempt n es`: after `attempt` others, `n` requests with a pause between each two. -/
inductive Requests (o : Options) (r : Request) : Nat → Nat → List Event → Prop
  | one {attempt : Nat} (outcome : Except Failure Response) :
      Requests o r attempt 1 [.request r outcome]
  | more {attempt n : Nat} {es : List Event} (outcome : Except Failure Response)
      (rest : Requests o r (attempt + 1) n es) :
      Requests o r attempt (n + 1)
        (.request r outcome :: .wait (o.backoff.backoff (attempt + 1)) :: es)

/-- `InOrder o c day m complete es`: the stays at the `m` days from `day` on, one after the other;
`complete` if the last day has its file written like the others. -/
inductive InOrder (o : Options) (c : Credential) : Nat → Nat → Bool → List Event → Prop
  | none {day : Nat} : InOrder o c day 0 true []
  | unanswered {day n : Nat} {es : List Event} (asked : Requests o (request o c day) 0 n es)
      (tries : n ≤ o.retries + 1) : InOrder o c day 1 false (progress o day ++ es)
  | unwritten {day n : Nat} {es : List Event} (asked : Requests o (request o c day) 0 n es)
      (tries : n ≤ o.retries + 1) (body : ByteArray) (cause : IoFault) :
      InOrder o c day 1 false
        (progress o day ++ (es ++ [.write (file o day) body (.error cause)]))
  | written {day n m : Nat} {complete : Bool} {es es' : List Event}
      (asked : Requests o (request o c day) 0 n es) (tries : n ≤ o.retries + 1) (body : ByteArray)
      (rest : InOrder o c (day + 1) m complete es') :
      InOrder o c day (m + 1) complete
        (progress o day ++ (es ++ .write (file o day) body (.ok ()) :: es'))

/-- The first step, once a day is released. -/
def opening (o : Options) (today : Date) (made : Except IoFault Unit) : List Event :=
  if Puzzle.isReleased o.year today 1 then [.makeDirectories o.outputDir made] else []

section Grammar

variable {o : Options} {c : Credential} {r : Request} {attempt n day m : Nat} {complete : Bool}
  {es : List Event}

theorem Requests.length_requestsIn (h : Requests o r attempt n es) :
    (requestsIn es).length = n := by
  induction h with
  | one outcome => rfl
  | more outcome rest ih => simp [ih]

/-- The stay at a day has no other step before its file is written. -/
theorem Requests.mem (h : Requests o r attempt n es) {e : Event} (he : e ∈ es) :
    (∃ x, e = .request r x) ∨ ∃ p, e = .wait p := by
  induction h with
  | one outcome => exact .inl ⟨outcome, List.mem_singleton.mp he⟩
  | more outcome rest ih =>
    rcases List.mem_cons.mp he with rfl | he
    · exact .inl ⟨outcome, rfl⟩
    · rcases List.mem_cons.mp he with rfl | he
      · exact .inr ⟨_, rfl⟩
      · exact ih he

theorem mem_opening {today : Date} {made : Except IoFault Unit} {e : Event}
    (h : e ∈ opening o today made) : e = .makeDirectories o.outputDir made := by
  unfold opening at h
  split at h
  · exact List.mem_singleton.mp h
  · cases h

@[simp] theorem requestsIn_opening (o : Options) (today : Date) (made : Except IoFault Unit) :
    requestsIn (opening o today made) = [] := by
  unfold opening
  split <;> rfl

theorem mem_progress {e : Event} (h : e ∈ progress o day) : ∃ line, e = .print line := by
  unfold progress at h
  split at h
  · cases h
  · exact ⟨_, List.mem_singleton.mp h⟩

theorem mem_requestsIn {p : Request × Except Failure Response} :
    p ∈ requestsIn es ↔ .request p.1 p.2 ∈ es := by
  rw [requestsIn, List.mem_filterMap]
  constructor
  · rintro ⟨e, he, ha⟩
    cases e <;> cases ha
    exact he
  · intro h
    exact ⟨_, h, rfl⟩

theorem Requests.eq_of_mem_progress_append (h : Requests o (request o c day) attempt n es)
    {x : Except Failure Response} (hr : Event.request r x ∈ progress o day ++ es) :
    r = request o c day := by
  rcases List.mem_append.mp hr with hr | hr
  · obtain ⟨line, hline⟩ := mem_progress hr
    cases hline
  · rcases h.mem hr with ⟨x', hx⟩ | ⟨p, hp⟩
    · cases hx
      rfl
    · cases hp

theorem Requests.write_not_mem (h : Requests o (request o c day) attempt n es)
    {p : Path} {body : ByteArray} {x : Except IoFault Unit} :
    Event.write p body x ∉ progress o day ++ es := by
  intro hw
  rcases List.mem_append.mp hw with hw | hw
  · obtain ⟨line, hline⟩ := mem_progress hw
    cases hline
  · rcases h.mem hw with ⟨x', hx⟩ | ⟨p', hp⟩
    · cases hx
    · cases hp

/-- Only the days of the sequence are asked for. -/
theorem InOrder.request_mem (h : InOrder o c day m complete es) {x : Except Failure Response}
    (hr : Event.request r x ∈ es) : ∃ d, day ≤ d ∧ d < day + m ∧ r = request o c d := by
  induction h with
  | none => cases hr
  | unanswered asked tries => exact ⟨_, Nat.le_refl _, by omega, asked.eq_of_mem_progress_append hr⟩
  | unwritten asked tries body cause =>
    rw [← List.append_assoc] at hr
    rcases List.mem_append.mp hr with hr | hr
    · exact ⟨_, Nat.le_refl _, by omega, asked.eq_of_mem_progress_append hr⟩
    · cases List.mem_singleton.mp hr
  | written asked tries body rest ih =>
    rw [← List.append_assoc] at hr
    rcases List.mem_append.mp hr with hr | hr
    · exact ⟨_, Nat.le_refl _, by omega, asked.eq_of_mem_progress_append hr⟩
    · obtain ⟨d, hle, hlt, hd⟩ := ih ((List.mem_cons.mp hr).resolve_left nofun)
      exact ⟨d, by omega, by omega, hd⟩

/-- When a day is asked for, the files of the days before it are written. -/
theorem InOrder.split_request (h : InOrder o c day m complete es) {before after : List Event}
    {x : Except Failure Response} (hs : es = before ++ .request r x :: after) :
    ∃ d, r = request o c d ∧
      ∀ d', day ≤ d' → d' < d → ∃ body, .write (file o d') body (.ok ()) ∈ before := by
  induction h generalizing before with
  | none => simp at hs
  | unanswered asked tries =>
    have hr := asked.eq_of_mem_progress_append (List.mem_iff_append.mpr ⟨_, _, hs⟩)
    exact ⟨_, hr, fun d' hle hlt => by omega⟩
  | unwritten asked tries body cause =>
    rw [← List.append_assoc] at hs
    rcases mem_or_of_append_eq hs with hr | ⟨before', -, hs'⟩
    · exact ⟨_, asked.eq_of_mem_progress_append hr, fun d' hle hlt => by omega⟩
    · cases List.mem_singleton.mp (List.mem_iff_append.mpr ⟨_, _, hs'⟩)
  | @written day n m complete es es' asked tries body rest ih =>
    rw [← List.append_assoc] at hs
    rcases mem_or_of_append_eq hs with hr | ⟨before', rfl, hs'⟩
    · exact ⟨_, asked.eq_of_mem_progress_append hr, fun d' hle hlt => by omega⟩
    · rcases List.cons_eq_append_iff.mp hs' with ⟨-, hne⟩ | ⟨before'', rfl, hrest⟩
      · cases hne
      · obtain ⟨d, hr, hbefore⟩ := ih hrest
        refine ⟨d, hr, fun d' hle hlt => ?_⟩
        rcases Nat.eq_or_lt_of_le hle with rfl | hlt'
        · exact ⟨body, by simp⟩
        · obtain ⟨body', hmem⟩ := hbefore d' hlt' hlt
          exact ⟨body', by simp [hmem]⟩

/-- After a day's file is written, only later days are asked for. -/
theorem InOrder.split_write (h : InOrder o c day m complete es) {before after : List Event} {p : Path}
    {body : ByteArray} {x : Except IoFault Unit} (hs : es = before ++ .write p body x :: after) :
    ∃ d, day ≤ d ∧ d < day + m ∧ p = file o d ∧
      ∀ q ∈ requestsIn after, ∃ d', d < d' ∧ q.1 = request o c d' := by
  induction h generalizing before with
  | none => simp at hs
  | unanswered asked tries => exact absurd (List.mem_iff_append.mpr ⟨_, _, hs⟩) asked.write_not_mem
  | @unwritten day n es asked tries body' cause =>
    rw [← List.append_assoc] at hs
    rcases mem_or_of_append_eq hs with hw | ⟨before', -, hs'⟩
    · exact absurd hw asked.write_not_mem
    · rcases List.cons_eq_append_iff.mp hs' with ⟨-, heq⟩ | ⟨before'', -, hnil⟩
      · cases heq
        exact ⟨day, Nat.le_refl _, by omega, rfl, by simp⟩
      · simp at hnil
  | @written day n m complete es es' asked tries body' rest ih =>
    rw [← List.append_assoc] at hs
    rcases mem_or_of_append_eq hs with hw | ⟨before', -, hs'⟩
    · exact absurd hw asked.write_not_mem
    · rcases List.cons_eq_append_iff.mp hs' with ⟨-, heq⟩ | ⟨before'', -, hrest⟩
      · cases heq
        refine ⟨day, Nat.le_refl _, by omega, rfl, fun q hq => ?_⟩
        obtain ⟨d', hle, -, hd'⟩ := rest.request_mem (mem_requestsIn.mp hq)
        exact ⟨d', hle, hd'⟩
      · obtain ⟨d, hle, hlt, hp, hafter⟩ := ih hrest
        exact ⟨d, by omega, by omega, hp, hafter⟩

theorem InOrder.length_requestsIn_le (h : InOrder o c day m complete es) :
    (requestsIn es).length ≤ m * (o.retries + 1) := by
  induction h with
  | none => simp
  | unanswered asked tries => simpa [asked.length_requestsIn] using tries
  | unwritten asked tries body cause => simpa [asked.length_requestsIn] using tries
  | written asked tries body rest ih =>
    simp only [requestsIn_append, requestsIn_progress, requestsIn_write, List.length_append,
      List.length_nil, asked.length_requestsIn]
    rw [Nat.succ_mul]
    omega

end Grammar

/-! ## Every run keeps to the grammar -/

theorem isOk_map {α β : Type} (f : α → β) (result : Except Failure α) :
    (result.map f).isOk = result.isOk := by
  cases result <;> rfl

theorem exists_of_isOk {result : Except Failure Report} (h : result.isOk = false) :
    ∃ e, result = .error e := by
  cases result with
  | error e => exact ⟨e, rfl⟩
  | ok report => cases h

section Runs

variable {σ : Type} {answer : Request → σ → Except Failure Response × σ} {o : Options}
  {c : Credential} {today : Date} {d d' : Disk} {s s' : σ} {visits : List Visit} {events : List Event}
  {result : Except Failure Report}

theorem Tries.inOrder {r : Request} {attempt left : Nat} {answers : List Answer}
    {verdict : Except Failure ByteArray}
    (h : Tries Machine.logging (Machine.recording answer) o r attempt left s answers events verdict s') :
    Requests o r attempt answers.length (steps events) := by
  induction h with
  | last asked final =>
    rw [recording_noted asked]
    exact .one _
  | again asked failed retryable rest ih =>
    rw [recording_noted asked]
    exact .more _ ih

theorem Days.inOrder {entries : List (Nat × Date)}
    (h : Days Machine.logging (Machine.recording answer) o c today entries d s visits events result
      d' s') {day n : Nat} (hdays : entries.map Prod.fst = List.range' day n) :
    InOrder o c day visits.length result.isOk (steps events) := by
  induction h generalizing day n with
  | done => exact .none
  | unreleased early => exact .none
  | refused out tries =>
    obtain ⟨rfl, -⟩ := List.range'_eq_cons_iff.mp hdays.symm
    simpa using .unanswered tries.inOrder tries.length_le
  | unwritten out tries failed =>
    obtain ⟨rfl, -⟩ := List.range'_eq_cons_iff.mp hdays.symm
    simpa using .unwritten tries.inOrder tries.length_le _ _
  | @written day release rest d d' d'' s s' s'' answers events events' body visits result out tries
      wrote days ih =>
    obtain ⟨rfl, -, hrest⟩ := List.range'_eq_cons_iff.mp hdays.symm
    rw [isOk_map]
    simpa using .written tries.inOrder tries.length_le body (ih hrest)

/-- The output directory is created first, once a day is released. -/
theorem Course.inOrder
    (h : Course Machine.logging (Machine.recording answer) o c today d s visits events result d' s') :
    ∃ made days complete,
      steps events = opening o today made ++ days ∧
      InOrder o c 1 visits.length complete days ∧ (complete = false → ∃ e, result = .error e) := by
  cases h with
  | noSchedule schedule =>
    exact ⟨.ok (), [], true, by simp [opening, Puzzle.isReleased_of_no_schedule schedule], .none, nofun⟩
  | noDirectory schedule out failed =>
    rw [Puzzle.head_schedule schedule] at out
    exact ⟨_, [], true, by simp only [opening, out]; rfl, .none, nofun⟩
  | begun schedule out made days =>
    rw [Puzzle.head_schedule schedule] at out
    exact ⟨.ok (), _, _, by simp [opening, out], days.inOrder (Puzzle.schedule_ok schedule).1, exists_of_isOk⟩
  | early schedule notOut days =>
    rw [Puzzle.head_schedule schedule] at notOut
    exact ⟨.ok (), _, _, by simp [opening, notOut], days.inOrder (Puzzle.schedule_ok schedule).1, exists_of_isOk⟩

/-- The steps of a download with this result, in order. -/
structure Ordered (o : Options) (c : Credential) (today : Date) (result : Except Failure Report)
    (es : List Event) : Prop where
  /-- The output directory, then the days from the first on; a last day without its file is an
  error. -/
  form : ∃ made days m complete,
    es = opening o today made ++ days ∧
    m ≤ Puzzle.releasedCount o.year today ∧ InOrder o c 1 m complete days ∧
    (complete = false → ∃ e, result = .error e)
  /-- No day is asked for before the file of the day before is written. -/
  written_before : ∀ before r x after day, es = before ++ .request r x :: after → 1 ≤ day →
    r.url = Puzzle.address o.baseUrl o.year (day + 1) →
    ∃ body, .write (file o day) body (.ok ()) ∈ before
  /-- No day is asked for again. -/
  not_again : ∀ before day body x after, es = before ++ .write (file o day) body x :: after →
    day ∈ Puzzle.days → ∀ q ∈ requestsIn after, q.1.url ≠ Puzzle.address o.baseUrl o.year day
  requests_le : (requestsIn es).length ≤ 25 * (o.retries + 1)
  /-- All requests carry the credential. -/
  carried : ∀ q ∈ requestsIn es, q.1.token = c.token ∧ q.1.userAgent = o.userAgent

/-- The grammar says it all. -/
theorem InOrder.ordered {made : Except IoFault Unit} {days : List Event} {m : Nat} {complete : Bool}
    (h : InOrder o c 1 m complete days) (hm : m ≤ Puzzle.releasedCount o.year today)
    (hresult : complete = false → ∃ e, result = .error e) :
    Ordered o c today result (opening o today made ++ days) := by
  have hcount := Puzzle.releasedCount_le o.year today
  refine ⟨⟨made, days, m, complete, rfl, hm, h, hresult⟩, ?_, ?_, ?_, ?_⟩
  · intro before r x after day hs h1 hurl
    obtain ⟨before', rfl, hdays⟩ := (mem_or_of_append_eq hs).resolve_left fun he => by
      cases mem_opening he
    obtain ⟨day', rfl, hwritten⟩ := h.split_request hdays
    have hday : day' = day + 1 := Puzzle.address_inj hurl
    obtain ⟨body, hbody⟩ := hwritten day h1 (by omega)
    exact ⟨body, List.mem_append_right _ hbody⟩
  · intro before day body x after hs hday q hq hurl
    obtain ⟨before', -, hdays⟩ := (mem_or_of_append_eq hs).resolve_left fun he => by
      cases mem_opening he
    obtain ⟨day', hle, hlt, hfile, hlater⟩ := h.split_write hdays
    obtain ⟨day'', hlt', hreq⟩ := hlater q hq
    rw [hreq] at hurl
    have hday'' : day'' = day := Puzzle.address_inj hurl
    have hday' : day = day' := file_inj hday (Puzzle.mem_days.mpr (by omega)) hfile
    omega
  · rw [requestsIn_append, requestsIn_opening, List.nil_append]
    exact h.length_requestsIn_le.trans (Nat.mul_le_mul_right _ (hm.trans hcount))
  · intro q hq
    rw [requestsIn_append, requestsIn_opening, List.nil_append] at hq
    obtain ⟨day, -, -, hreq⟩ := h.request_mem (mem_requestsIn.mp hq)
    rw [hreq]
    exact ⟨rfl, rfl⟩

theorem Course.ordered
    (h : Course Machine.logging (Machine.recording answer) o c today d s visits events result d' s') :
    Ordered o c today result (steps events) := by
  obtain ⟨made, days, complete, hsteps, horder, hresult⟩ := h.inOrder
  rw [hsteps]
  exact horder.ordered h.length_le hresult

theorem fetchInputs_ordered (o : Options) (c : Credential) (today : Date) (w : Machine σ) :
    let run := (fetchInputs Machine.host (Machine.transport answer) o c today).run w
    Ordered o c today run.1 (steps (w.eventsSince run.2)) := by
  intro run
  obtain ⟨result, w', hrun⟩ :=
    exists_run (fetchInputs Machine.host (Machine.transport answer) o c today) w
  obtain ⟨visits, course⟩ := course_of_fetchInputs hrun
  simp only [run, hrun]
  exact course.ordered

/-- The steps of a run of the program from `w`: none where a check fails, else those of a download with
the credential that was loaded first. -/
def RunOrdered (env : Environment) (config : Config) (args : Arguments) (w : Machine σ)
    (result : Except Failure Report) (es : List Event) : Prop :=
  (es = [] ∧ ∃ e, result = .error e) ∨
    ∃ zone credential, Zone.parse args.timezone = .ok zone ∧
      ((Credential.load Machine.host config.accounts (args.credentialSource env)).run w).1 =
        .ok credential ∧
      Ordered (Options.ofArguments args) credential (w.clock.today zone) result es

theorem run_ordered (env : Environment) (config : Config) (args : Arguments) (w : Machine σ) :
    let run := (Program.run Machine.host (Machine.transport answer) env config args).run w
    RunOrdered env config args w run.1 (steps (w.eventsSince run.2)) := by
  intro run
  simp only [RunOrdered, run, Machine.host_eq_hostLogging, Machine.transport_eq_attach,
    Credential.load_run]
  rcases Program.run_cases w with ⟨e, -, hrun⟩ | ⟨zone, e, -, -, hrun⟩ | ⟨zone, c, hz, hc, hrun⟩
  · refine .inl ?_
    rw [hrun]
    exact ⟨by simp, e, rfl⟩
  · refine .inl ?_
    rw [hrun]
    exact ⟨by simp, e, rfl⟩
  · refine .inr ⟨zone, c, hz, hc, ?_⟩
    obtain ⟨visits, events, result, d', s', course⟩ := exists_course Machine.logging
      (Machine.recording answer) (Options.ofArguments args) c (w.clock.today zone) w.disk w.net
    rw [hrun, course.run_eq (w.advance _ w.disk w.net) rfl rfl, Machine.advance_advance,
      Machine.eventsSince_advance]
    simpa using course.ordered

/-- Downloads and runs of the program keep to the order. -/
theorem runs_in_order (answer : Request → σ → Except Failure Response × σ) :
    (∀ (o : Options) (c : Credential) (today : Date) (w : Machine σ),
      let run := (fetchInputs Machine.host (Machine.transport answer) o c today).run w
      Ordered o c today run.1 (steps (w.eventsSince run.2))) ∧
    ∀ (env : Environment) (config : Config) (args : Arguments) (w : Machine σ),
      let run := (Program.run Machine.host (Machine.transport answer) env config args).run w
      RunOrdered env config args w run.1 (steps (w.eventsSince run.2)) :=
  ⟨fetchInputs_ordered, run_ordered⟩

end Runs

/-- A machine whose cookie file is where the input of day 1 goes, on the second day of the event. -/
def cookieInTheWay : Machine Unit where
  disk :=
    { workingDirectory := ["home"]
      entries := [(["home"], .directory), (["home", "input_01"], .file "tok".toUTF8)] }
  clock := .inUtc (17867 * 86400) (by decide)
  net := ()

example :
    let run := (Program.run Machine.host (Machine.transport fun _ s => (.ok ⟨200, "new".toUTF8⟩, s)) {} {}
      { year := 2018, sessionFile := some ⟨"input_01"⟩ }).run cookieInTheWay
    (requestsIn (cookieInTheWay.eventsSince run.2)).map (·.1.token) = ["tok", "tok"] ∧
      (run.2.disk.read ⟨"input_01"⟩).toOption.map (·.toList) = some "new".toUTF8.toList := by
  decide +kernel

end Download

end PuzzleInputs
