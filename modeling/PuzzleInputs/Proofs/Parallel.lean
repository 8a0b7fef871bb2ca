import Mathlib
import PuzzleInputs.Proofs.Disk.Overwriting
import PuzzleInputs.Proofs.Execution

/-!
# Downloads side by side

Two downloads that get the same outcomes to their requests, one after the other, take the same course:
the results are the same, the disks stay related, and the histories agree in all that `view` shows of
them, if it shows no difference between the requests and the lines of progress (`Parallel`). The runs
that lead to them agree likewise (`run_parallel`), and so do whole programs whose configs differ in the
accounts at most (`mainRun_parallel`).
-/

namespace PuzzleInputs

namespace Disk

/-- A relation of disks that lasts through all that a download does to them. -/
structure Lasting (related : Disk → Disk → Prop) : Prop where
  write : ∀ {d d' : Disk}, related d d' → ∀ path bytes,
    Matching related (d.write path bytes) (d'.write path bytes)
  makeDirectories : ∀ {d d' : Disk}, related d d' → ∀ path,
    (d'.makeDirectories path).1 = (d.makeDirectories path).1 ∧
      related (d.makeDirectories path).2 (d'.makeDirectories path).2

theorem lasting_eq : Lasting Eq where
  write := by
    rintro d d' rfl path bytes
    cases d.write path bytes with
    | ok d₁ => exact .ok rfl
    | error e => exact .error e
  makeDirectories := by
    rintro d d' rfl path
    exact ⟨rfl, rfl⟩

theorem lasting_alikeBut (files : List Path) : Lasting (AlikeBut files) where
  write h := h.write
  makeDirectories h := h.makeDirectories

end Disk

/-- The options with the lines of progress switched off or on. -/
def Options.withQuiet (o : Options) (quiet : Bool) : Options := { o with quiet }

def Arguments.withQuiet (args : Arguments) (quiet : Bool) : Arguments := { args with quiet }

namespace Download

variable {σ β : Type}

/-- Two downloads with these options, credentials and transports, between which `view` does not tell.
The second is as quiet as `quiet` says. -/
structure Parallel (view : Event → Option β) (o : Options) (quiet : Bool) (c c' : Credential)
    (reply reply' : Replier σ) : Prop where
  progress : ∀ day, (progress (o.withQuiet quiet) day).filterMap view = (progress o day).filterMap view
  asked : ∀ day s a s', reply (request o c day) s = (a, s') →
    ∃ a', reply' (request o c' day) s = (a', s') ∧ a'.outcome = a.outcome ∧
      a'.noted.filterMap view = a.noted.filterMap view

section Courses

variable {view : Event → Option β} {logged : Log.Entry → List Event} {reply reply' : Replier σ}
  {o : Options} {quiet : Bool} {c c' : Credential} {today : Date}

theorem Tries.parallel (hp : Parallel view o quiet c c' reply reply') {day attempt left : Nat}
    {s s' : σ} {answers : List Answer} {events : List Event} {verdict : Except Failure ByteArray}
    (h : Tries logged reply o (request o c day) attempt left s answers events verdict s') :
    ∃ answers' events',
      Tries logged reply' (o.withQuiet quiet) (request o c' day) attempt left s answers' events' verdict
        s' ∧
      events'.filterMap view = events.filterMap view := by
  induction h with
  | last asked final =>
    obtain ⟨a', asked', hout, hnoted⟩ := hp.asked _ _ _ _ asked
    rw [← hout] at final ⊢
    refine ⟨_, _, .last asked' final, ?_⟩
    rw [List.filterMap_append, List.filterMap_append, hnoted]
    rfl
  | again asked failed retryable rest ih =>
    obtain ⟨answers', events', rest', hevents⟩ := ih
    obtain ⟨a', asked', hout, hnoted⟩ := hp.asked _ _ _ _ asked
    refine ⟨_, _, .again asked' (hout ▸ failed) retryable rest', ?_⟩
    simp only [List.filterMap_append, hnoted, List.filterMap_cons, hevents]
    rfl

variable {related : Disk → Disk → Prop}

theorem Days.parallel (hp : Parallel view o quiet c c' reply reply') (hr : Disk.Lasting related)
    {entries : List (Nat × Date)} {d d₁ : Disk} {s s' : σ} {visits : List Visit} {events : List Event}
    {result : Except Failure Report}
    (h : Days logged reply o c today entries d s visits events result d₁ s') {d' : Disk}
    (hd : related d d') :
    ∃ visits' events' d₁',
      Days logged reply' (o.withQuiet quiet) c' today entries d' s visits' events' result d₁' s' ∧
      events'.filterMap view = events.filterMap view ∧ related d₁ d₁' := by
  induction h generalizing d' with
  | done => exact ⟨_, _, _, .done, rfl, hd⟩
  | unreleased early => exact ⟨_, _, _, .unreleased early, rfl, hd⟩
  | refused out tries =>
    obtain ⟨answers', events', tries', hevents⟩ := tries.parallel hp
    refine ⟨_, _, _, .refused out tries', ?_, hd⟩
    rw [List.filterMap_append, List.filterMap_append, hp.progress, hevents]
  | @unwritten day release rest d s s' answers events body cause out tries failed =>
    obtain ⟨answers', events', tries', hevents⟩ := tries.parallel hp
    -- the other disk fails with the same fault
    have hwrite := hr.write hd (file o day) body
    rw [failed] at hwrite
    generalize hfailed : d'.write (file o day) body = written at hwrite
    cases hwrite
    refine ⟨_, _, _, .unwritten out tries' hfailed, ?_, hd⟩
    simp only [List.filterMap_append, hp.progress, hevents]
    rfl
  | @written day release rest d d₁ d₂ s s' s'' answers events events₁ body visits result out tries wrote
      days ih =>
    obtain ⟨answers', events', tries', hevents⟩ := tries.parallel hp
    have hwrite := hr.write hd (file o day) body
    rw [wrote] at hwrite
    generalize hwrote : d'.write (file o day) body = written at hwrite
    cases hwrite with
    | ok hd₁ =>
      obtain ⟨visits', events₁', d₂', days', hevents₁, hd₂⟩ := ih hd₁
      refine ⟨_, _, _, .written out tries' hwrote days', ?_, hd₂⟩
      simp only [List.filterMap_append, List.filterMap_cons, hp.progress, hevents, hevents₁]
      rfl

/-- The second download takes the course of the first. -/
theorem Course.parallel (hp : Parallel view o quiet c c' reply reply') (hr : Disk.Lasting related)
    {d d₁ : Disk} {s s' : σ} {visits : List Visit} {events : List Event}
    {result : Except Failure Report}
    (h : Course logged reply o c today d s visits events result d₁ s') {d' : Disk}
    (hd : related d d') :
    ∃ visits' events' d₁',
      Course logged reply' (o.withQuiet quiet) c' today d' s visits' events' result d₁' s' ∧
      events'.filterMap view = events.filterMap view ∧ related d₁ d₁' := by
  rcases hmade : d'.makeDirectories o.outputDir with ⟨made, d₂⟩
  have hmake := hr.makeDirectories hd o.outputDir
  rw [hmade] at hmake
  cases h with
  | noSchedule schedule => exact ⟨_, _, _, .noSchedule schedule, rfl, hd⟩
  | noDirectory schedule out failed =>
    rw [failed] at hmake
    obtain ⟨rfl, hd₂⟩ := hmake
    exact ⟨_, _, _, .noDirectory schedule out hmade, rfl, hd₂⟩
  | begun schedule out made days =>
    rw [made] at hmake
    obtain ⟨rfl, hd₂⟩ := hmake
    obtain ⟨visits', events', d₁', days', hevents, hd₁⟩ := days.parallel hp hr hd₂
    refine ⟨_, _, _, .begun schedule out hmade days', ?_, hd₁⟩
    rw [List.filterMap_cons, List.filterMap_cons, hevents]
    rfl
  | early schedule notOut days =>
    obtain ⟨visits', events', d₁', days', hevents, hd₁⟩ := days.parallel hp hr hd
    exact ⟨_, _, _, .early schedule notOut days', hevents, hd₁⟩

end Courses

end Download

namespace Program

open Download

/-- The credentials that two runs load: the same failure, or two between which `view` does not tell. -/
inductive Credentials {σ β : Type} (view : Event → Option β) (o : Options) (quiet : Bool)
    (reply reply' : Replier σ) : Except Failure Credential → Except Failure Credential → Prop
  | failed (e : Failure) : Credentials view o quiet reply reply' (.error e) (.error e)
  | loaded {c c' : Credential} (parallel : Parallel view o quiet c c' reply reply') :
      Credentials view o quiet reply reply' (.ok c) (.ok c')

theorem Credentials.same {σ β : Type} {view : Event → Option β} {o : Options} {quiet : Bool}
    {reply reply' : Replier σ} (h : ∀ c, Parallel view o quiet c c reply reply')
    (stored : Except Failure Credential) : Credentials view o quiet reply reply' stored stored := by
  cases stored with
  | error e => exact .failed e
  | ok c => exact .loaded (h c)

/-- Two runs, from machines that differ by their disks, are the same to `view`. -/
theorem run_parallel {σ β : Type} {view : Event → Option β} {reply reply' : Replier σ}
    {related : Disk → Disk → Prop} (hr : Disk.Lasting related) (logged : Log.Entry → List Event)
    (env : Environment) (config config' : Config) (args : Arguments) (quiet : Bool) {w : Machine σ}
    {disk : Disk} (hd : related w.disk disk)
    (hc : Credentials view (Options.ofArguments args) quiet reply reply'
      (Credential.stored w.disk config.accounts (args.credentialSource env))
      (Credential.stored disk config'.accounts (args.credentialSource env))) :
    ∃ result events events' d d' s,
      (run (Machine.hostLogging logged) (Machine.attach reply) env config args).run w =
        (result, w.advance events d s) ∧
      (run (Machine.hostLogging logged) (Machine.attach reply') env config' (args.withQuiet quiet)).run
        (w.withDisk disk) = (result, (w.withDisk disk).advance events' d' s) ∧
      events'.filterMap view = events.filterMap view ∧ related d d' := by
  cases hz : Zone.parse args.timezone with
  | error e =>
    have hz' : Zone.parse (args.withQuiet quiet).timezone = .error e := hz
    refine ⟨.error e, [], [], w.disk, disk, w.net, ?_, ?_, rfl, hd⟩
    · rw [run_of_zone_error hz, Machine.advance_nil]
    · rw [run_of_zone_error hz']
      exact congrArg (Prod.mk _) (Machine.advance_nil _).symm
  | ok zone =>
    have hz' : Zone.parse (args.withQuiet quiet).timezone = .ok zone := hz
    generalize hs : Credential.stored w.disk config.accounts (args.credentialSource env) = stored,
      hs' : Credential.stored disk config'.accounts (args.credentialSource env) = stored' at hc
    have hs' : Credential.stored (w.withDisk disk).disk config'.accounts
        ((args.withQuiet quiet).credentialSource env) = stored' := hs'
    cases hc with
    | failed e =>
      refine ⟨.error e, _, logged (args.credentialSource env).entry, w.disk, disk, w.net,
        run_of_credential_error hz hs, ?_, rfl, hd⟩
      exact run_of_credential_error hz' hs'
    | @loaded c c' parallel =>
      obtain ⟨visits, events, result, d, s, course⟩ := exists_course logged reply
        (Options.ofArguments args) c (w.clock.today zone) w.disk w.net
      obtain ⟨visits', events', d', course', hevents, hd'⟩ := course.parallel parallel hr hd
      refine ⟨result, _, logged (args.credentialSource env).entry ++
        logged (startEntry (Options.ofArguments args) zone) ++ events', d, d', s,
        run_of_course hz hs course, ?_, ?_, hd'⟩
      · exact run_of_course hz' hs' course'
      · rw [List.filterMap_append, hevents, ← List.filterMap_append]

/-- Two programs, on machines that differ by their disks, are the same to `view` up to their closing
words. -/
theorem mainRun_parallel {σ β : Type} {view : Event → Option β} {reply reply' : Replier σ}
    {related : Disk → Disk → Prop} (hr : Disk.Lasting related) (env : Environment) (args : Arguments)
    (quiet : Bool) {w : Machine σ} {disk : Disk} (hd : related w.disk disk) {config : Config}
    {rejected : List Path} {accounts : List (String × String)}
    (hfound : Config.found w.disk env.configFiles = ⟨config, rejected⟩)
    (hfound' : Config.found disk env.configFiles = ⟨{ config with accounts }, rejected⟩)
    (hc : Credentials view (Options.ofArguments (args.withConfig config)) quiet reply reply'
      (Credential.stored w.disk config.accounts ((args.withConfig config).credentialSource env))
      (Credential.stored disk accounts ((args.withConfig config).credentialSource env))) :
    ∃ result events events' d d' s,
      mainRun (Machine.attach reply) env args w = (result, w.advance events d s) ∧
      mainRun (Machine.attach reply') env (args.withQuiet quiet) (w.withDisk disk) =
        (result, (w.withDisk disk).advance events' d' s) ∧
      events'.filterMap view = events.filterMap view ∧ related d d' := by
  let filter := Log.Filter.choose env.logFilter (args.withConfig config).verbose
  let before := warnings rejected ++ (configEntries config).flatMap filter.shown
  have hd₀ : related (w.advance before w.disk w.net).disk disk := hd
  obtain ⟨result, events, events', d, d', s, hrun, hrun', hevents, hd'⟩ :=
    run_parallel hr filter.shown env config { config with accounts } (args.withConfig config) quiet
      hd₀ hc
  refine ⟨result, before ++ events, before ++ events', d, d', s, ?_, ?_, ?_, hd'⟩
  · rw [mainRun_eq _ _ _ _ hfound]
    exact hrun.trans (congrArg (Prod.mk _) (Machine.advance_advance ..))
  · rw [mainRun_eq _ _ _ (w.withDisk disk) hfound']
    exact hrun'.trans (congrArg (Prod.mk _)
      (Machine.advance_advance (w.withDisk disk) before events' disk d' w.net s))
  · generalize before = es
    rw [List.filterMap_append, List.filterMap_append, hevents]

end Program

end PuzzleInputs
