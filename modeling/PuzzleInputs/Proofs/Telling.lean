import Mathlib
import PuzzleInputs.Proofs.Parallel
import PuzzleInputs.Proofs.Traffic

/-!
# What the user is told

The lines of a program agree with what it did: one for each day it asked for, and after a success how
many files it wrote and which day comes next; after a failure the last complaint is the failure. The
exit code is that of the result. A quiet program does the same and prints nothing
(`execute_tells`).
-/

namespace PuzzleInputs

/-- The line for the user. -/
def Event.printed? : Event → Option String
  | .print line => some line
  | _ => none

/-- The line of warnings or errors. -/
def Event.complaint? : Event → Option String
  | .complain line => some line
  | _ => none

/-- The file that was written. -/
def Event.writtenFile? : Event → Option Path
  | .write path _ (.ok ()) => some path
  | _ => none

def Event.isPrint : Event → Bool
  | .print _ => true
  | _ => false

def printedIn (events : List Event) : List String := events.filterMap Event.printed?

def complaintsIn (events : List Event) : List String := events.filterMap Event.complaint?

def writtenIn (events : List Event) : List Path := events.filterMap Event.writtenFile?

/-- A view of the history that shows nothing of the log, of warnings and of the traffic. -/
structure Unconcerned {β : Type} (view : Event → Option β) : Prop where
  complaint : ∀ line, view (.complain line) = none
  directories : ∀ path x, view (.makeDirectories path x) = none
  pause : ∀ pause, view (.wait pause) = none
  traffic : ∀ e, Download.isTraffic e = true → view e = none

theorem unconcerned_printed? : Unconcerned Event.printed? where
  complaint _ := rfl
  directories _ _ := rfl
  pause _ := rfl
  traffic e he := by cases e <;> first | rfl | cases he

theorem unconcerned_writtenFile? : Unconcerned Event.writtenFile? where
  complaint _ := rfl
  directories _ _ := rfl
  pause _ := rfl
  traffic e he := by cases e <;> first | rfl | cases he

section Views

variable {β : Type} {view : Event → Option β}

theorem filterMap_shown (h : ∀ line, view (.complain line) = none) (filter : Log.Filter)
    (entry : Log.Entry) : (filter.shown entry).filterMap view = [] := by
  rw [List.filterMap_eq_nil_iff]
  intro e he
  obtain ⟨line, rfl⟩ := Program.mem_shown he
  exact h line

theorem filterMap_preface (h : ∀ line, view (.complain line) = none) (rejected : List Path)
    (filter : Log.Filter) (entries : List Log.Entry) :
    (Program.warnings rejected ++ entries.flatMap filter.shown).filterMap view = [] := by
  rw [List.filterMap_eq_nil_iff]
  intro e he
  obtain ⟨line, rfl⟩ := Program.mem_preface he
  exact h line

theorem filterMap_conclusion (hprint : ∀ line, view (.print line) = none)
    (hcomplain : ∀ line, view (.complain line) = none) (args : Arguments)
    (result : Except Failure Report) : (Program.conclusion args result).filterMap view = [] := by
  rw [List.filterMap_eq_nil_iff]
  intro e he
  rcases Program.mem_conclusion he with ⟨line, rfl⟩ | ⟨line, rfl⟩
  · exact hprint line
  · exact hcomplain line

/-- What is not said is what the run between the preface and the conclusion did. -/
theorem filterMap_between (hprint : ∀ line, view (.print line) = none)
    (hcomplain : ∀ line, view (.complain line) = none) (rejected : List Path) (filter : Log.Filter)
    (entries : List Log.Entry) (events : List Event) (args : Arguments)
    (result : Except Failure Report) :
    (Program.warnings rejected ++ entries.flatMap filter.shown ++ events ++
      Program.conclusion args result).filterMap view = events.filterMap view := by
  rw [List.filterMap_append, List.filterMap_append, filterMap_preface hcomplain,
    filterMap_conclusion hprint hcomplain, List.nil_append, List.append_nil]

end Views

namespace Download

section Courses

variable {σ β : Type} {view : Event → Option β} {decode : Http.Decoder} {serve : Http.Server σ}
  {o : Options} {c : Credential} {today : Date} {d d' : Disk} {s s' : σ} {visits : List Visit}
  {events : List Event}
  {result : Except Failure Report} {filter : Log.Filter} {v : Visit}

theorem Visit.Wired.filterMap_events (h : v.Wired decode serve o c) (hview : Unconcerned view) :
    (v.events o).filterMap view = (progress o v.day).filterMap view ++
      (v.written.map fun x => Event.write (file o v.day) x.1 x.2).toList.filterMap view := by
  have hasking : (asking o 0 v.answers).filterMap view = [] := by
    rw [List.filterMap_eq_nil_iff]
    intro e he
    rcases mem_asking he with ⟨a, ha, he⟩ | ⟨pause, rfl⟩
    · exact hview.traffic e (h.isTraffic ha he)
    · exact hview.pause pause
  rw [Visit.events, List.filterMap_append, List.filterMap_append, hasking, List.nil_append]

theorem Course.filterMap_eq
    (h : Course filter.shown (Machine.noting (Machine.replies decode serve)) o c today d s visits
      events result d' s') (hview : Unconcerned view) :
    events.filterMap view = visits.flatMap fun v => (progress o v.day).filterMap view ++
      (v.written.map fun x => Event.write (file o v.day) x.1 x.2).toList.filterMap view := by
  rw [h.filterMap_events (filterMap_shown hview.complaint filter) hview.directories,
    List.filterMap_flatMap]
  exact List.flatMap_congr fun v hv => (h.wired hv).filterMap_events hview

/-- The line of a day. -/
def progressLine (year : Int) (day : Nat) : String :=
  s!"Getting input for {day}/{Puzzle.month}/{year}..."

theorem Course.printedIn
    (h : Course filter.shown (Machine.noting (Machine.replies decode serve)) o c today d s visits
      events result d' s') :
    printedIn events =
      if o.quiet then [] else (List.range' 1 visits.length).map (progressLine o.year) := by
  have hvisit : ∀ v : Visit, (progress o v.day).filterMap Event.printed? ++
      (v.written.map fun x => Event.write (file o v.day) x.1 x.2).toList.filterMap Event.printed? =
      if o.quiet then [] else [progressLine o.year v.day] := by
    intro v
    have hwritten : (v.written.map fun x =>
        Event.write (file o v.day) x.1 x.2).toList.filterMap Event.printed? = [] := by
      cases v.written <;> rfl
    rw [hwritten, List.append_nil, progress]
    split <;> rfl
  rw [PuzzleInputs.printedIn, h.filterMap_eq unconcerned_printed?,
    List.flatMap_congr fun v _ => hvisit v]
  by_cases hq : o.quiet = true
  · simp [hq]
  · simp only [if_neg hq]
    rw [← h.days_eq.1, List.map_map, List.map_eq_flatMap]
    rfl

theorem Course.writtenIn
    (h : Course filter.shown (Machine.noting (Machine.replies decode serve)) o c today d s visits
      events result d' s') (hall : ∀ v ∈ visits, ∃ body, v.Delivers body) :
    writtenIn events = (List.range' 1 visits.length).map (file o) := by
  rw [PuzzleInputs.writtenIn, h.filterMap_eq unconcerned_writtenFile?, ← h.days_eq.1, List.map_map,
    List.map_eq_flatMap]
  refine List.flatMap_congr fun v hv => ?_
  obtain ⟨body, hb⟩ := hall v hv
  have hprogress : (progress o v.day).filterMap Event.writtenFile? = [] := by
    rw [progress]
    split <;> rfl
  rw [hprogress, hb.written]
  rfl

theorem recorded_shown (filter : Log.Filter) (decode : Http.Decoder) (serve : Http.Server σ) :
    Recorded filter.shown (Machine.noting (Machine.replies decode serve)) := by
  refine Machine.recorded_noting_replies fun e => ?_
  exact filterMap_shown (fun _ => rfl) filter e

/-- The days that are asked for are those of the visits. -/
theorem Course.mem_urls
    (h : Course filter.shown (Machine.noting (Machine.replies decode serve)) o c today d s visits
      events result d' s') (url : String) :
    url ∈ (requestsIn events).map (·.1.url) ↔
      ∃ day, 1 ≤ day ∧ day ≤ visits.length ∧ url = Puzzle.address o.baseUrl o.year day := by
  rw [h.requestsIn_eq (recorded_shown filter decode serve)]
  constructor
  · intro hm
    obtain ⟨q, hq, rfl⟩ := List.mem_map.mp hm
    obtain ⟨v, hv, hqv⟩ := List.mem_flatMap.mp hq
    obtain ⟨x, -, rfl⟩ := List.mem_map.mp hqv
    have hday := h.mem_days hv
    exact ⟨v.day, (Puzzle.mem_days.mp hday.1).1, hday.2, rfl⟩
  · rintro ⟨day, h1, hle, rfl⟩
    have hday : day ∈ visits.map Visit.day := by
      rw [h.days_eq.1, List.mem_range'_1]
      omega
    obtain ⟨v, hv, rfl⟩ := List.mem_map.mp hday
    obtain ⟨a, ha⟩ := List.exists_mem_of_ne_nil _ (h.tried v hv)
    have hrequest : (request o c v.day, a.outcome) ∈ v.requests o c :=
      List.mem_map_of_mem (List.mem_map_of_mem ha)
    exact List.mem_map.mpr ⟨_, List.mem_flatMap.mpr ⟨v, hv, hrequest⟩, rfl⟩

end Courses

end Download

namespace Program

open Download

/-- What is printed about the days `1` to `m`. -/
def said (year : Int) (m : Nat) (success : Bool) : List String :=
  (List.range' 1 m).map (progressLine year) ++
    if success then
      s!"Fetched {m} input(s) for {year}" ::
        if m < 25 then [s!"Day {m + 1} of {year} is not available yet"] else []
    else []

/-- A program whose run had this result ended with the exit code and the events, and told about them. -/
structure Told (o : Options) (result : Except Failure Report) (code : Nat) (es : List Event) :
    Prop where
  success : code = 0 ↔ ∃ report, result = .ok report
  failure : code = 1 ↔ ∃ e, result = .error e
  /-- The last complaint is the failure. -/
  complaint : ∀ e, result = .error e → (complaintsIn es).getLast? = some e.message
  /-- The lines are about the days that were asked for and, after a success, the files written. -/
  lines : ∃ m,
    (∀ url, url ∈ (requestsIn es).map (·.1.url) ↔
      ∃ day, 1 ≤ day ∧ day ≤ m ∧ url = Puzzle.address o.baseUrl o.year day) ∧
    (∀ report, result = .ok report →
      report.written = (List.range' 1 m).map (file o) ∧ writtenIn es = report.written) ∧
    printedIn es = if o.quiet then [] else said o.year m result.isOk

section Programs

variable {σ : Type} {decode : Http.Decoder} {serve : Http.Server σ} {env : Environment}
  {args : Arguments} {w : Machine σ}

theorem exitCode_eq_zero {result : Except Failure Report} :
    exitCode result = 0 ↔ ∃ report, result = .ok report := by
  cases result <;> simp [exitCode]

theorem exitCode_eq_one {result : Except Failure Report} :
    exitCode result = 1 ↔ ∃ e, result = .error e := by
  cases result <;> simp [exitCode]

/-- A failure is the last thing that is said. -/
theorem getLast?_complaintsIn {result : Except Failure Report} {es : List Event} {e : Failure}
    (h : result = .error e) :
    (complaintsIn (es ++ conclusion args result)).getLast? = some e.message := by
  rw [h, complaintsIn, List.filterMap_append]
  exact List.getLast?_concat

theorem printedIn_conclusion_error (args : Arguments) (e : Failure) :
    printedIn (conclusion args (.error e)) = [] := rfl

theorem printedIn_conclusion_ok {report : Report} {m : Nat} (hm : report.written.length = m)
    (hnext : report.unreleased = if m < 25 then some (m + 1) else none) :
    printedIn (conclusion args (.ok report)) =
      if args.quiet then []
      else s!"Fetched {m} input(s) for {args.year}" ::
        if m < 25 then [s!"Day {m + 1} of {args.year} is not available yet"] else [] := by
  rw [conclusion, hm, hnext]
  by_cases hq : args.quiet = true
  · rw [if_pos hq, if_pos hq]
    rfl
  · rw [if_neg hq, if_neg hq]
    by_cases hlt : m < 25
    · rw [if_pos hlt, if_pos hlt]
      rfl
    · rw [if_neg hlt, if_neg hlt]
      rfl

/-- A program that fails before its download asks for no day. -/
theorem told_of_error (o : Options) (e : Failure) (rejected : List Path) (filter : Log.Filter)
    (entries : List Log.Entry) :
    Told o (.error e) (exitCode (.error e))
      (warnings rejected ++ entries.flatMap filter.shown ++ conclusion args (.error e)) where
  success := exitCode_eq_zero
  failure := exitCode_eq_one
  complaint _ he := getLast?_complaintsIn he
  lines := by
    refine ⟨0, fun url => ?_, nofun, ?_⟩
    · rw [requestsIn_append, requestsIn, filterMap_preface (fun _ => rfl)]
      constructor
      · intro hm
        cases hm
      · rintro ⟨day, h1, h0, -⟩
        omega
    · rw [printedIn, List.filterMap_append, filterMap_preface (fun _ => rfl)]
      split <;> rfl

/-- A program that comes to its download tells about its visits. -/
theorem told_of_course {filter : Log.Filter} {c : Credential} {today : Date} {d d' : Disk} {s s' : σ}
    {visits : List Visit} {events : List Event} {result : Except Failure Report}
    (course : Course filter.shown (Machine.noting (Machine.replies decode serve))
      (Options.ofArguments args) c today d s visits events result d' s')
    (rejected : List Path) (entries : List Log.Entry) :
    Told (Options.ofArguments args) result (exitCode result)
      (warnings rejected ++ entries.flatMap filter.shown ++ events ++ conclusion args result) where
  success := exitCode_eq_zero
  failure := exitCode_eq_one
  complaint _ he := getLast?_complaintsIn he
  lines := by
    refine ⟨visits.length, fun url => ?_, fun report hr => ?_, ?_⟩
    · rw [requestsIn, filterMap_between (fun _ => rfl) (fun _ => rfl)]
      exact course.mem_urls url
    · subst hr
      obtain ⟨-, hwritten, hall, -⟩ := course.of_ok
      have hreport : report.written =
          (List.range' 1 visits.length).map (file (Options.ofArguments args)) := by
        rw [hwritten, ← course.days_eq.1, List.map_map]
        rfl
      refine ⟨hreport, ?_⟩
      rw [writtenIn, filterMap_between (fun _ => rfl) (fun _ => rfl), hreport]
      exact course.writtenIn hall
    · have hlines : printedIn (warnings rejected ++ entries.flatMap filter.shown ++ events ++
          conclusion args result) = printedIn events ++ printedIn (conclusion args result) := by
        rw [printedIn, List.filterMap_append, List.filterMap_append, filterMap_preface (fun _ => rfl),
          List.nil_append]
        rfl
      rw [hlines, course.printedIn]
      cases result with
      | error e =>
        rw [printedIn_conclusion_error, List.append_nil]
        split
        · rfl
        · rw [said]
          exact (List.append_nil _).symm
      | ok report =>
        obtain ⟨-, hwritten, -, hnext⟩ := course.of_ok
        rw [printedIn_conclusion_ok (by rw [hwritten, List.length_map]) hnext]
        have hquiet : (Options.ofArguments args).quiet = args.quiet := rfl
        rw [hquiet]
        by_cases hq : args.quiet = true
        · rw [if_pos hq, if_pos hq, if_pos hq]
          rfl
        · rw [if_neg hq, if_neg hq, if_neg hq]
          rfl

theorem execute_told (decode : Http.Decoder) (serve : Http.Server σ) (env : Environment)
    {tokens : List String} (hread : CommandLine.read tokens = .ok args) (w : Machine σ) :
    let transport := Machine.recorded (Http.transport decode (Machine.wire serve))
    let config := ((Config.load Machine.host env.configFiles).run w).1.config
    let ended := (execute Machine.host transport env tokens).run w
    Told (Options.ofArguments (args.withConfig config)) (mainRun transport env args w).1 ended.1
      (w.eventsSince ended.2) := by
  intro transport config ended
  simp only [transport, config, ended, Machine.recorded_transport]
  rcases mainRun_course (Machine.noting (Machine.replies decode serve)) env args w with
    ⟨entries, e, hrun⟩ | ⟨entries, zone, c, visits, events, result, d', s', -, course, hrun⟩
  · rw [execute_run hread hrun, hrun, Machine.eventsSince_advance]
    exact told_of_error _ _ _ _ _
  · rw [execute_run hread hrun, hrun, Machine.eventsSince_advance]
    exact told_of_course course _ _

/-! ## Quiet programs -/

theorem parallel_quiet (o : Options) (c : Credential) (reply : Replier σ) :
    Parallel (Option.guard fun e => !e.isPrint) o true c c reply reply where
  progress day := by
    have hquiet : progress (o.withQuiet true) day = [] := rfl
    rw [hquiet, progress]
    split <;> rfl
  asked _ _ a _ h := ⟨a, h, rfl, rfl⟩

/-- A quiet run does the same. -/
theorem mainRun_quiet (reply : Replier σ) (env : Environment) (args : Arguments) (w : Machine σ) :
    ∃ result events events' d s,
      mainRun (Machine.attach reply) env args w = (result, w.advance events d s) ∧
      mainRun (Machine.attach reply) env (args.withQuiet true) w = (result, w.advance events' d s) ∧
      events'.filter (fun e => !e.isPrint) = events.filter (fun e => !e.isPrint) := by
  obtain ⟨result, events, events', d, d', s, hrun, hrun', hevents, rfl⟩ :=
    mainRun_parallel Disk.lasting_eq env args true (rfl : w.disk = _) rfl rfl
      (Credentials.same (fun c => parallel_quiet _ c reply) _)
  rw [List.filterMap_eq_filter] at hevents
  exact ⟨result, events, events', d, s, hrun, hrun', hevents⟩

theorem filter_conclusion_withQuiet (args : Arguments) (result : Except Failure Report) :
    (conclusion (args.withQuiet true) result).filter (fun e => !e.isPrint) =
      (conclusion args result).filter (fun e => !e.isPrint) := by
  cases result with
  | error e => rfl
  | ok report =>
    have hquiet : conclusion (args.withQuiet true) (.ok report) = [] := rfl
    rw [hquiet, conclusion]
    split
    · rfl
    · cases report.unreleased <;> rfl

theorem filter_eq_self_of_printedIn {es : List Event} (h : printedIn es = []) :
    es.filter (fun e => !e.isPrint) = es := by
  rw [List.filter_eq_self]
  intro e he
  have hnone := List.filterMap_eq_nil_iff.mp h e he
  cases e with
  | print line => cases hnone
  | _ => rfl

/-- The user is told what happened, and a quiet program does the same without the lines. -/
theorem execute_tells (decode : Http.Decoder) (serve : Http.Server σ) (env : Environment)
    {tokens : List String} (hread : CommandLine.read tokens = .ok args) (w : Machine σ) :
    let transport := Machine.recorded (Http.transport decode (Machine.wire serve))
    let config := ((Config.load Machine.host env.configFiles).run w).1.config
    let ended := fun tokens => (execute Machine.host transport env tokens).run w
    Told (Options.ofArguments (args.withConfig config)) (mainRun transport env args w).1
      (ended tokens).1 (w.eventsSince (ended tokens).2) ∧
    ∀ tokens', CommandLine.read tokens' = .ok { args with quiet := true } →
      (ended tokens').1 = (ended tokens).1 ∧ (ended tokens').2.disk = (ended tokens).2.disk ∧
      w.eventsSince (ended tokens').2 =
        (w.eventsSince (ended tokens).2).filter (fun e => !e.isPrint) := by
  intro transport config ended
  refine ⟨execute_told decode serve env hread w, fun tokens' hread' => ?_⟩
  have hread' : CommandLine.read tokens' = .ok (args.withQuiet true) := hread'
  have hsilent : printedIn (w.eventsSince (ended tokens').2) = [] := by
    obtain ⟨m, -, -, hprinted⟩ := (execute_told decode serve env hread' w).lines
    exact hprinted
  obtain ⟨result, events, events', d, s, hrun, hrun', hevents⟩ :=
    mainRun_quiet (Machine.noting (Machine.replies decode serve)) env args w
  rw [← Machine.recorded_transport] at hrun hrun'
  rw [← filter_eq_self_of_printedIn hsilent]
  simp only [ended]
  rw [execute_run hread hrun, execute_run hread' hrun', Machine.eventsSince_advance,
    Machine.eventsSince_advance, List.filter_append, List.filter_append, hevents]
  exact ⟨rfl, rfl, congrArg _ (filter_conclusion_withQuiet (args.withConfig config) result)⟩

end Programs

/-- A server that has an input for everyone. -/
def generous : Http.Server Unit := fun _ s => (.ok ⟨200, [], "1721\n".toUTF8⟩, s)

/-- On the first morning one input is there to be told about. -/
theorem execute_tells_firstMorning :
    let tokens := ["2018", "--session-file", "cookie", "--base-url", "http://aoc.test"]
    let args : Arguments :=
      { year := 2018, sessionFile := some ⟨"cookie"⟩, baseUrl := some "http://aoc.test" }
    let transport := Machine.recorded (Http.transport Http.Reply.payload (Machine.wire generous))
    let ended := fun tokens => (execute Machine.host transport {} tokens).run (firstMorning ())
    CommandLine.read tokens = .ok args ∧
    Told (Options.ofArguments args) (mainRun transport {} args (firstMorning ())).1 (ended tokens).1
      ((firstMorning ()).eventsSince (ended tokens).2) ∧
    printedIn ((firstMorning ()).eventsSince (ended tokens).2) =
      ["Getting input for 1/12/2018...", "Fetched 1 input(s) for 2018",
        "Day 2 of 2018 is not available yet"] ∧
    (ended ("-q" :: tokens)).1 = (ended tokens).1 := by
  intro tokens args transport ended
  have hread : CommandLine.read tokens = .ok args := by decide +kernel
  obtain ⟨htold, hquiet⟩ := execute_tells Http.Reply.payload generous {} hread (firstMorning ())
  exact ⟨hread, htold, by decide +kernel, (hquiet ("-q" :: tokens) (by decide +kernel)).1⟩

end Program

end PuzzleInputs
