import Mathlib
import PuzzleInputs.Proofs.Program
import PuzzleInputs.Proofs.Visits
import PuzzleInputs.Proofs.Wire

/-!
# The checks before the first request

A run of the program looks at the zone, the credential, the year, the date and the output directory,
in this order. The first of them that stands in the way decides the result, and until all are passed
nothing happens but entries of the log and, at the last check, new directories above the output
directory. After them day 1 is asked for (`run_checks_in_order`).
-/

namespace PuzzleInputs

open Download

namespace Download

section Courses

variable {σ : Type} {logged : Log.Entry → List Event} {reply : Replier σ} {o : Options}
  {c : Credential} {today : Date} {d d' : Disk} {s s' : σ} {visits : List Visit} {events : List Event}
  {result : Except Failure Report}

/-- All that is written down with the first answer is in the history. -/
theorem Tries.first_noted {r : Request} {attempt left : Nat} {answers : List Answer}
    {verdict : Except Failure ByteArray}
    (h : Tries logged reply o r attempt left s answers events verdict s') :
    ∀ e ∈ (reply r s).1.noted, e ∈ events := by
  intro e he
  cases h with
  | last asked final =>
    rw [asked] at he
    exact List.mem_append_right _ he
  | again asked failed retryable rest =>
    rw [asked] at he
    exact List.mem_append_left _ (List.mem_append_right _ he)

theorem Days.first_noted {day : Nat} {release : Date} {rest : List (Nat × Date)}
    (h : Days logged reply o c today ((day, release) :: rest) d s visits events result d' s')
    (hout : ¬ today < release) : ∀ e ∈ (reply (request o c day) s).1.noted, e ∈ events := by
  intro e he
  cases h with
  | unreleased early => exact absurd early hout
  | refused out tries => exact List.mem_append_right _ (tries.first_noted e he)
  | unwritten out tries failed =>
    exact List.mem_append_right _ (List.mem_append_left _ (tries.first_noted e he))
  | written out tries wrote days =>
    exact List.mem_append_right _ (List.mem_append_left _ (tries.first_noted e he))

theorem Course.of_no_schedule {e : Failure}
    (h : Course logged reply o c today d s visits events result d' s')
    (hs : Puzzle.schedule o.year = .error e) :
    result = .error e ∧ events = [] ∧ d' = d ∧ s' = s := by
  cases h with
  | noSchedule schedule =>
    cases hs.symm.trans schedule
    exact ⟨rfl, rfl, rfl, rfl⟩
  | noDirectory schedule out failed => cases hs.symm.trans schedule
  | begun schedule out made days => cases hs.symm.trans schedule
  | early schedule notOut days => cases hs.symm.trans schedule

theorem Course.of_no_directory {d₁ : Disk} {cause : IoFault}
    (h : Course logged reply o c today d s visits events result d' s')
    (hr : Puzzle.isReleased o.year today 1 = true)
    (hm : d.makeDirectories o.outputDir = (.error cause, d₁)) :
    result = .error (.outputDirectory o.outputDir cause) ∧
      events = [.makeDirectories o.outputDir (.error cause)] ∧ d' = d₁ ∧ s' = s := by
  cases h with
  | noSchedule schedule => rw [Puzzle.isReleased_of_no_schedule schedule] at hr; cases hr
  | noDirectory schedule out failed =>
    cases hm.symm.trans failed
    exact ⟨rfl, rfl, rfl, rfl⟩
  | begun schedule out made days => cases hm.symm.trans made
  | early schedule notOut days => rw [Puzzle.head_schedule schedule, hr] at notOut; cases notOut

/-- Once the output directory stands, day 1 is asked for. -/
theorem Course.first_noted {d₁ : Disk}
    (h : Course logged reply o c today d s visits events result d' s')
    (hr : Puzzle.isReleased o.year today 1 = true)
    (hm : d.makeDirectories o.outputDir = (.ok (), d₁)) :
    ∀ e ∈ (reply (request o c 1) s).1.noted, e ∈ events := by
  intro e he
  cases h with
  | noSchedule schedule => rw [Puzzle.isReleased_of_no_schedule schedule] at hr; cases hr
  | noDirectory schedule out failed => cases hm.symm.trans failed
  | early schedule notOut days => rw [Puzzle.head_schedule schedule, hr] at notOut; cases notOut
  | begun schedule out made days =>
    obtain ⟨release, rest, rfl⟩ := Puzzle.schedule_eq_cons schedule
    exact List.mem_cons_of_mem _ (days.first_noted (of_decide_eq_true out) e he)

end Courses

end Download

namespace Program

variable {σ : Type}

/-- The run ended with `result`, and all it did was to tell the log. -/
def Untouched (w : Machine σ) (run : Except Failure Report × Machine σ)
    (result : Except Failure Report) : Prop :=
  ∃ entries : List Log.Entry, run = (result, w.advance (entries.map .log) w.disk w.net)

/-- The run ended when `path` could not be created: no file is new, changed or gone, and what is new
are directories above `path`. -/
structure Unopened (w : Machine σ) (run : Except Failure Report × Machine σ) (path : Path)
    (cause : IoFault) : Prop where
  result : run.1 = .error (.outputDirectory path cause)
  machine : ∃ entries : List Log.Entry, run.2 =
    w.advance (entries.map .log ++ [.makeDirectories path (.error cause)]) run.2.disk w.net
  files : ∀ l bytes, run.2.disk.node? l = some (.file bytes) ↔ w.disk.node? l = some (.file bytes)
  directories : Disk.Alters w.disk run.2.disk [] path.parents

/-- The arguments stand for the zone and the credential. -/
structure Resolved (env : Environment) (config : Config) (args : Arguments) (w : Machine σ)
    (zone : Zone) (credential : Credential) : Prop where
  zone : Zone.parse args.timezone = .ok zone
  credential :
    ((Credential.load Machine.host config.accounts (args.credentialSource env)).run w).1 =
      .ok credential

/-- What a run from `w` comes to, by the first check that stands in its way. -/
structure Checked (env : Environment) (config : Config) (args : Arguments) (w : Machine σ)
    (run : Except Failure Report × Machine σ) : Prop where
  zone : ∀ e, Zone.parse args.timezone = .error e → Untouched w run (.error e)
  credential : ∀ zone e, Zone.parse args.timezone = .ok zone →
    ((Credential.load Machine.host config.accounts (args.credentialSource env)).run w).1 = .error e →
    Untouched w run (.error e)
  year : ∀ zone credential, Resolved env config args w zone credential →
    ¬ (-262143 ≤ args.year ∧ args.year ≤ 262142) →
    Untouched w run (.error (.yearInvalid args.year 1))
  date : ∀ zone credential, Resolved env config args w zone credential →
    -262143 ≤ args.year ∧ args.year ≤ 262142 →
    Puzzle.isReleased args.year (w.clock.today zone) 1 = false →
    Untouched w run (.ok ⟨[], some 1⟩)
  directory : ∀ zone credential, Resolved env config args w zone credential →
    Puzzle.isReleased args.year (w.clock.today zone) 1 = true →
    ∀ cause, (w.disk.makeDirectories (Options.ofArguments args).outputDir).1 = .error cause →
    Unopened w run (Options.ofArguments args).outputDir cause
  /-- With no check in the way. -/
  asked : ∀ zone credential, Resolved env config args w zone credential →
    Puzzle.isReleased args.year (w.clock.today zone) 1 = true →
    (w.disk.makeDirectories (Options.ofArguments args).outputDir).1 = .ok () →
    ∃ outcome, .request (request (Options.ofArguments args) credential 1) outcome ∈
      w.eventsSince run.2

section Runs

variable {reply : Replier σ} {env : Environment} {config : Config} {args : Arguments}
  {w : Machine σ} {zone : Zone} {credential : Credential}

theorem untouched_of_zone {transport : Transport (StateM (Machine σ))} {e : Failure}
    (h : Zone.parse args.timezone = .error e) :
    Untouched w ((run Machine.host transport env config args).run w) (.error e) := by
  rw [Machine.host_eq_hostLogging]
  rcases run_cases w with ⟨e', hz, hrun⟩ | ⟨zone, e', hz, -, -⟩ | ⟨zone, c, hz, -, -⟩
  · cases hz.symm.trans h
    exact ⟨[], by rw [hrun, List.map_nil, Machine.advance_nil]⟩
  · cases hz.symm.trans h
  · cases hz.symm.trans h

theorem untouched_of_credential {transport : Transport (StateM (Machine σ))} {e : Failure}
    (hz : Zone.parse args.timezone = .ok zone)
    (hc : ((Credential.load Machine.host config.accounts (args.credentialSource env)).run w).1 =
      .error e) :
    Untouched w ((run Machine.host transport env config args).run w) (.error e) := by
  rw [Machine.host_eq_hostLogging] at hc ⊢
  rw [Credential.load_run] at hc
  rcases run_cases w with ⟨e', hz', -⟩ | ⟨zone', e', -, hc', hrun⟩ | ⟨zone', c, -, hc', -⟩
  · cases hz'.symm.trans hz
  · cases hc'.symm.trans hc
    exact ⟨[(args.credentialSource env).entry], hrun⟩
  · cases hc'.symm.trans hc

/-- With the arguments resolved, the run is a download after two entries of the log. -/
theorem Resolved.exists_course (h : Resolved env config args w zone credential)
    (reply : Replier σ) :
    ∃ (entries : List Log.Entry) (visits : List Visit) (events : List Event)
      (result : Except Failure Report) (d' : Disk) (s' : σ),
      Course Machine.logging reply (Options.ofArguments args) credential
        (w.clock.today zone) w.disk w.net visits events result d' s' ∧
      (run Machine.host (Machine.attach reply) env config args).run w =
        (result, w.advance (entries.map .log ++ events) d' s') := by
  obtain ⟨visits, events, result, d', s', course⟩ := Download.exists_course Machine.logging reply
    (Options.ofArguments args) credential (w.clock.today zone) w.disk w.net
  refine ⟨[(args.credentialSource env).entry, startEntry (Options.ofArguments args) zone], visits,
    events, result, d', s', course, ?_⟩
  have hc := h.credential
  rw [Machine.host_eq_hostLogging, Credential.load_run] at hc
  rw [Machine.host_eq_hostLogging]
  rcases run_cases w with ⟨e, hz, -⟩ | ⟨zone', e, -, hc', -⟩ | ⟨zone', c, hz, hc', hrun⟩
  · cases hz.symm.trans h.zone
  · cases hc'.symm.trans hc
  · cases hz.symm.trans h.zone
    cases hc'.symm.trans hc
    rw [hrun, course.run_eq (w.advance _ w.disk w.net) rfl rfl, Machine.advance_advance]
    rfl

theorem Resolved.year_invalid (h : Resolved env config args w zone credential)
    (hy : ¬ (Calendar.minYear ≤ args.year ∧ args.year ≤ Calendar.maxYear)) :
    Untouched w ((run Machine.host (Machine.attach reply) env config args).run w)
      (.error (.yearInvalid args.year 1)) := by
  obtain ⟨entries, visits, events, result, d', s', course, hrun⟩ := h.exists_course reply
  obtain ⟨rfl, rfl, rfl, rfl⟩ := course.of_no_schedule (Puzzle.schedule_of_year_invalid hy)
  refine ⟨entries, ?_⟩
  rw [hrun, List.append_nil]
  rfl

theorem Resolved.unreleased (h : Resolved env config args w zone credential)
    (hy : Calendar.minYear ≤ args.year ∧ args.year ≤ Calendar.maxYear)
    (hr : Puzzle.isReleased args.year (w.clock.today zone) 1 = false) :
    Untouched w ((run Machine.host (Machine.attach reply) env config args).run w)
      (.ok ⟨[], some 1⟩) := by
  obtain ⟨entries, visits, events, result, d', s', course, hrun⟩ := h.exists_course reply
  obtain ⟨schedule, hs⟩ := Puzzle.exists_schedule hy
  obtain ⟨-, rfl, rfl, rfl, stop, rfl⟩ := course.of_unreleased hs hr
  refine ⟨entries ++ [stop], ?_⟩
  rw [hrun, List.map_append]
  rfl

theorem Resolved.unopened (h : Resolved env config args w zone credential)
    (hr : Puzzle.isReleased args.year (w.clock.today zone) 1 = true) {cause : IoFault}
    (hm : (w.disk.makeDirectories (Options.ofArguments args).outputDir).1 = .error cause) :
    Unopened w ((run Machine.host (Machine.attach reply) env config args).run w)
      (Options.ofArguments args).outputDir cause := by
  obtain ⟨entries, visits, events, result, d', s', course, hrun⟩ := h.exists_course reply
  obtain ⟨rfl, rfl, rfl, rfl⟩ := course.of_no_directory hr (Prod.ext hm rfl)
  have halters := Disk.makeDirectories_error_alters (Prod.ext hm rfl)
  rw [hrun]
  exact ⟨rfl, ⟨entries, rfl⟩, halters.file_iff, halters⟩

theorem Resolved.asks (h : Resolved env config args w zone credential)
    (hr : Puzzle.isReleased args.year (w.clock.today zone) 1 = true)
    (hm : (w.disk.makeDirectories (Options.ofArguments args).outputDir).1 = .ok ()) :
    ∃ outcome, .request (request (Options.ofArguments args) credential 1) outcome ∈
      w.eventsSince
        ((run Machine.host (Machine.attach (Machine.noting reply)) env config args).run w).2 := by
  obtain ⟨entries, visits, events, result, d', s', course, hrun⟩ :=
    h.exists_course (Machine.noting reply)
  have hfirst := course.first_noted hr (Prod.ext hm rfl) _
    (Machine.request_mem_noting reply (request (Options.ofArguments args) credential 1) w.net)
  rw [hrun, Machine.eventsSince_advance]
  exact ⟨_, List.mem_append_right _ hfirst⟩

/-- The checks come in order, and nothing else happens before they are passed. -/
theorem run_checks_in_order (decode : Http.Decoder)
    (serve : Http.Message → σ → Except Http.Fault Http.Reply × σ) (env : Environment)
    (config : Config) (args : Arguments) (w : Machine σ) :
    let transport := Machine.recorded (Http.transport decode (Machine.wire serve))
    Checked env config args w ((run Machine.host transport env config args).run w) := by
  intro transport
  obtain ⟨reply, hreply⟩ := Machine.exists_reply_of_wire decode serve
  have htransport : transport = Machine.attach (Machine.noting reply) := hreply
  rw [htransport]
  exact {
    zone := fun e hz => untouched_of_zone hz
    credential := fun zone e hz hc => untouched_of_credential hz hc
    year := fun zone credential h hy => h.year_invalid hy
    date := fun zone credential h hy hr => h.unreleased hy hr
    directory := fun zone credential h hr cause hm => h.unopened hr hm
    asked := fun zone credential h hr hm => h.asks hr hm }

end Runs

-- the way to the output directory is made before its end turns out to be the cookie file
example :
    let transport := Machine.recorded
      (Http.transport Http.Reply.payload (Machine.wire fun _ s => (.error .disconnected, s)))
    let run := (run Machine.host transport {} {}
      { year := 2018, sessionFile := some ⟨"cookie"⟩, outputDir := some ⟨"new/../cookie"⟩ }).run
        (firstMorning ())
    run.1.isOk = false ∧ (requestsIn ((firstMorning ()).eventsSince run.2)).length = 0 ∧
      run.2.disk.entries.map Prod.fst = [["home"], ["home", "cookie"], ["home", "new"]] := by
  decide +kernel

end Program

end PuzzleInputs
