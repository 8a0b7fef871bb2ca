import Mathlib
import PuzzleInputs.Proofs.Program

/-!
# The whole program on a machine

What `execute` does with a command line that can be read: warnings about config files, the run with the
log as far as the filter shows it (`mainRun`), and the closing words with the exit code
(`execute_run`).
-/

namespace PuzzleInputs

open Download (run_bind log_run)

variable {σ : Type} {logged : Log.Entry → List Event}

namespace Config

/-- The config that a disk has. -/
def found (disk : Disk) : List Path → Loaded
  | [] => ⟨{}, []⟩
  | path :: rest =>
    match disk.readText path with
    | .error _ => found disk rest
    | .ok text =>
      match parse? path text with
      | some config => ⟨config, []⟩
      | none => { found disk rest with rejected := path :: (found disk rest).rejected }

/-- Loading a config only reads. -/
theorem load_run (paths : List Path) (w : Machine σ) :
    (load (Machine.hostLogging logged) paths).run w = (found w.disk paths, w) := by
  induction paths with
  | nil => rfl
  | cons path rest ih =>
    rw [load, run_bind, readText_run, found]
    cases w.disk.readText path with
    | error e => exact ih
    | ok text =>
      cases hp : parse? path text with
      | some config => simp only [hp]; rfl
      | none =>
        simp only [hp]
        rw [run_bind, ih]
        rfl

end Config

/-- The log as a filter shows it. -/
def Log.Filter.shown (filter : Log.Filter) (e : Log.Entry) : List Event :=
  if filter.shows e then [.complain e.shownLine] else []

theorem Machine.withFilter_eq_hostLogging (filter : Log.Filter) :
    (host : Host (StateM (Machine σ))).withFilter filter = hostLogging filter.shown := by
  have hlog : ∀ e, (if filter.shows e then (host : Host (StateM (Machine σ))).complain e.shownLine
      else pure ()) = fun w => ((), w.advance (filter.shown e) w.disk w.net) := by
    intro e
    funext w
    unfold Log.Filter.shown
    split
    · exact congrArg (Prod.mk ()) (record_eq_advance _ _)
    · rw [advance_nil]
      rfl
  rw [Host.withFilter, hostLogging, funext hlog]

namespace Program

/-! ## Before and after the run -/

def warnings (rejected : List Path) : List Event :=
  rejected.map fun path => .complain s!"Warning: Failed to parse {path.text}"

theorem warnRejected_run (rejected : List Path) (w : Machine σ) :
    (warnRejected Machine.host rejected).run w = ((), w.advance (warnings rejected) w.disk w.net) := by
  induction rejected generalizing w with
  | nil =>
    rw [warnings, List.map_nil, Machine.advance_nil]
    rfl
  | cons path rest ih =>
    have hline : (Machine.host.complain s!"Warning: Failed to parse {path.text}").run w = ((), _) :=
      congrArg (Prod.mk ()) (Machine.record_eq_advance _ w)
    rw [warnRejected, run_bind, hline, ih, Machine.advance_advance]
    rfl

/-- What the log is told about the config. -/
def configEntries (config : Config) : List Log.Entry :=
  (config.loadedFrom.map fun path => ⟨.debug, .program, s!"loaded config from {path.text}"⟩).toList

def exitCode : Except Failure Report → Nat
  | .error _ => 1
  | .ok _ => 0

/-- The closing words. -/
def conclusion (args : Arguments) : Except Failure Report → List Event
  | .error e => [.complain e.message]
  | .ok report =>
    if args.quiet then []
    else .print s!"Fetched {report.written.length} input(s) for {args.year}" ::
      (report.unreleased.map fun day =>
        Event.print s!"Day {day} of {args.year} is not available yet").toList

theorem mem_shown {filter : Log.Filter} {entry : Log.Entry} {e : Event} (h : e ∈ filter.shown entry) :
    ∃ line, e = .complain line := by
  unfold Log.Filter.shown at h
  split at h
  · exact ⟨_, List.mem_singleton.mp h⟩
  · cases h

/-- Before the run there are complaints only. -/
theorem mem_preface {rejected : List Path} {entries : List Log.Entry} {filter : Log.Filter} {e : Event}
    (h : e ∈ warnings rejected ++ entries.flatMap filter.shown) : ∃ line, e = .complain line := by
  rcases List.mem_append.mp h with h | h
  · obtain ⟨path, -, rfl⟩ := List.mem_map.mp h
    exact ⟨_, rfl⟩
  · obtain ⟨entry, -, h⟩ := List.mem_flatMap.mp h
    exact mem_shown h

/-- After the run there are words only. -/
theorem mem_conclusion {args : Arguments} {result : Except Failure Report} {e : Event}
    (h : e ∈ conclusion args result) : (∃ line, e = .print line) ∨ ∃ line, e = .complain line := by
  cases result with
  | error failure => exact .inr ⟨_, List.mem_singleton.mp h⟩
  | ok report =>
    rw [conclusion] at h
    split at h
    · cases h
    · rcases List.mem_cons.mp h with rfl | h
      · exact .inl ⟨_, rfl⟩
      · obtain ⟨day, -, rfl⟩ := Option.mem_map.mp (Option.mem_toList.mp h)
        exact .inl ⟨_, rfl⟩

theorem record_record (e e' : Event) (w : Machine σ) :
    (w.record e).record e' = w.advance [e, e'] w.disk w.net := by
  rw [Machine.record_eq_advance, Machine.record_eq_advance]
  exact Machine.advance_advance ..

theorem conclude_run (args : Arguments) (result : Except Failure Report) (w : Machine σ) :
    (conclude (Machine.hostLogging logged) args result).run w =
      (exitCode result, w.advance (conclusion args result) w.disk w.net) := by
  cases result with
  | error e => exact congrArg (Prod.mk 1) (Machine.record_eq_advance _ w)
  | ok report =>
    rw [conclude, conclusion]
    cases args.quiet with
    | true => exact congrArg (Prod.mk 0) (Machine.advance_nil w).symm
    | false =>
      cases report.unreleased with
      | none => exact congrArg (Prod.mk 0) (Machine.record_eq_advance _ w)
      | some day => exact congrArg (Prod.mk 0) (record_record _ _ w)

theorem load_eq_found (env : Environment) (w : Machine σ) :
    (Config.load Machine.host env.configFiles).run w = (Config.found w.disk env.configFiles, w) := by
  rw [Machine.host_eq_hostLogging]
  exact Config.load_run env.configFiles w

/-! ## The run in between -/

/-- The run of a program with these arguments: its config is that of the machine, and its log is shown
as the filter says. -/
def mainRun (transport : Transport (StateM (Machine σ))) (env : Environment) (args : Arguments)
    (w : Machine σ) : Except Failure Report × Machine σ :=
  let loaded := ((Config.load Machine.host env.configFiles).run w).1
  let merged := args.withConfig loaded.config
  let filter := Log.Filter.choose env.logFilter merged.verbose
  (run (Machine.host.withFilter filter) transport env loaded.config merged).run
    (w.advance (warnings loaded.rejected ++ (configEntries loaded.config).flatMap filter.shown) w.disk
      w.net)

theorem mainRun_eq (transport : Transport (StateM (Machine σ))) (env : Environment)
    (args : Arguments) (w : Machine σ) {config : Config} {rejected : List Path}
    (hfound : Config.found w.disk env.configFiles = ⟨config, rejected⟩) :
    let filter := Log.Filter.choose env.logFilter (args.withConfig config).verbose
    mainRun transport env args w =
      (run (Machine.hostLogging filter.shown) transport env config (args.withConfig config)).run
        (w.advance (warnings rejected ++ (configEntries config).flatMap filter.shown) w.disk w.net) := by
  intro filter
  simp only [mainRun, load_eq_found, hfound, Machine.withFilter_eq_hostLogging]
  rfl

/-- The run has warnings and something to tell the log, and then fails or is a download. -/
theorem mainRun_course (reply : Replier σ) (env : Environment) (args : Arguments) (w : Machine σ) :
    let loaded := ((Config.load Machine.host env.configFiles).run w).1
    let merged := args.withConfig loaded.config
    let filter := Log.Filter.choose env.logFilter merged.verbose
    (∃ (entries : List Log.Entry) (e : Failure),
      mainRun (Machine.attach reply) env args w = (.error e,
        w.advance (warnings loaded.rejected ++ entries.flatMap filter.shown) w.disk w.net)) ∨
    ∃ (entries : List Log.Entry) (zone : Zone) (credential : Credential)
      (visits : List Download.Visit) (events : List Event) (result : Except Failure Report)
      (d' : Disk) (s' : σ),
      Credential.stored w.disk loaded.config.accounts (merged.credentialSource env) =
        .ok credential ∧
      Download.Course filter.shown reply (Options.ofArguments merged) credential
        (w.clock.today zone) w.disk w.net visits events result d' s' ∧
      mainRun (Machine.attach reply) env args w = (result,
        w.advance (warnings loaded.rejected ++ entries.flatMap filter.shown ++ events) d' s') := by
  intro loaded merged filter
  simp only [mainRun, Machine.withFilter_eq_hostLogging]
  rcases run_course filter.shown reply env loaded.config merged (w.advance (warnings loaded.rejected ++
      (configEntries loaded.config).flatMap filter.shown) w.disk w.net) with
    ⟨entries, e, hrun⟩ | ⟨entries, zone, c, visits, events, result, d', s', -, hc, course, hrun⟩
  · refine .inl ⟨configEntries loaded.config ++ entries, e, hrun.trans ?_⟩
    rw [Machine.advance_advance, List.flatMap_append, ← List.append_assoc]
    rfl
  · refine .inr ⟨configEntries loaded.config ++ entries, zone, c, visits, events, result, d', s', hc,
      course, hrun.trans ?_⟩
    rw [Machine.advance_advance, List.flatMap_append, ← List.append_assoc, ← List.append_assoc]

/-- A program whose command line can be read is its run, with the closing words after it. -/
theorem execute_run {transport : Transport (StateM (Machine σ))} {env : Environment}
    {tokens : List String} {args : Arguments} (hread : CommandLine.read tokens = .ok args)
    {w : Machine σ} {result : Except Failure Report} {events : List Event} {d : Disk} {s : σ}
    (hrun : mainRun transport env args w = (result, w.advance events d s)) :
    let config := ((Config.load Machine.host env.configFiles).run w).1.config
    (execute Machine.host transport env tokens).run w =
      (exitCode result, w.advance (events ++ conclusion (args.withConfig config) result) d s) := by
  intro config
  have hload := load_eq_found env w
  simp only [config, mainRun, hload] at hrun ⊢
  generalize Config.found w.disk env.configFiles = loaded at hload hrun ⊢
  rw [Machine.withFilter_eq_hostLogging] at hrun
  rw [execute, run_bind, hload]
  simp only
  rw [run_bind, warnRejected_run]
  simp only [hread, Machine.withFilter_eq_hostLogging]
  -- only a config that was loaded from somewhere is mentioned in the log
  cases hfrom : loaded.config.loadedFrom with
  | none =>
    simp only [configEntries, hfrom, Option.map_none, Option.toList_none, List.flatMap_nil,
      List.append_nil] at hrun
    rw [run_bind, hrun, conclude_run]
    exact congrArg (Prod.mk _) (Machine.advance_advance ..)
  | some path =>
    simp only [configEntries, hfrom, Option.map_some, Option.toList_some,
      List.flatMap_singleton] at hrun
    rw [run_bind, Host.debug, log_run, run_bind]
    simp only [Machine.advance_advance, Machine.disk_advance, Machine.net_advance]
    rw [hrun, conclude_run]
    exact congrArg (Prod.mk _) (Machine.advance_advance ..)

end Program

end PuzzleInputs
