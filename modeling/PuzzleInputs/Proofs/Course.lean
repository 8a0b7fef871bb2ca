import Mathlib
import PuzzleInputs.Download
import PuzzleInputs.Machine

/-!
# The course of a download

All that a download can do on a machine, as derivations: `Tries` are the requests for one day, `Days`
the days in turn, `Course` the whole. Each relates the disk and the state of `net` before and after,
what was asked and written (`Visit`), what went into the history, and the result. A download runs
through exactly one course (`Course.run_eq`, `exists_course`), so a law of courses is a law of runs.

The machine writes its log down as `logged` says, and its transport is a function `reply` on the
state of `net` that may write down more than the request.
-/

namespace PuzzleInputs

/-- What came of a request, and what was written down meanwhile. -/
structure Answer where
  outcome : Except Failure Response
  noted : List Event

/-- The report with one more file in front. -/
def Report.cons (path : Path) (report : Report) : Report :=
  { report with written := path :: report.written }

abbrev Replier (σ : Type) := Request → σ → Answer × σ

namespace Machine

variable {σ : Type}

/-- The machine after `events`, with the disk and the state that they left. -/
def advance (w : Machine σ) (events : List Event) (disk : Disk) (net : σ) : Machine σ :=
  { w with disk, net, history := w.history ++ events.toArray }

/-- The machine connected to something else. -/
def withNet (w : Machine σ) (net : σ) : Machine σ := { w with net }

/-- The machine with another disk. -/
def withDisk (w : Machine σ) (disk : Disk) : Machine σ := { w with disk }

/-- What was asked of the machine since it was `w`. -/
def eventsSince (w w' : Machine σ) : List Event := w'.history.toList.drop w.history.size

/-- The log as `Machine.host` writes it down. -/
def logging (e : Log.Entry) : List Event := [.log e]

/-- The machine as a host whose log is written down as `logged` says. -/
def hostLogging (logged : Log.Entry → List Event) : Host (StateM (Machine σ)) :=
  { host with log := fun e w => ((), w.advance (logged e) w.disk w.net) }

/-- The transport that replies from the state of `net`. -/
def attach (reply : Replier σ) : Transport (StateM (Machine σ)) := fun r w =>
  ((reply r w.net).1.outcome, w.advance (reply r w.net).1.noted w.disk (reply r w.net).2)

/-- The replies of `Machine.transport`: each request is written down with its outcome. -/
def recording (answer : Request → σ → Except Failure Response × σ) : Replier σ := fun r s =>
  (⟨(answer r s).1, [.request r (answer r s).1]⟩, (answer r s).2)

@[simp] theorem disk_advance (w : Machine σ) (es : List Event) (d : Disk) (s : σ) :
    (w.advance es d s).disk = d := rfl

@[simp] theorem net_advance (w : Machine σ) (es : List Event) (d : Disk) (s : σ) :
    (w.advance es d s).net = s := rfl

@[simp] theorem advance_advance (w : Machine σ) (es es' : List Event) (d d' : Disk) (s s' : σ) :
    (w.advance es d s).advance es' d' s' = w.advance (es ++ es') d' s' := by
  simp [advance]

@[simp] theorem advance_nil (w : Machine σ) : w.advance [] w.disk w.net = w := by
  simp [advance]

@[simp] theorem eventsSince_advance (w : Machine σ) (es : List Event) (d : Disk) (s : σ) :
    w.eventsSince (w.advance es d s) = es := by
  simp [eventsSince, advance]

@[simp] theorem eventsSince_self (w : Machine σ) : w.eventsSince w = [] :=
  List.drop_eq_nil_of_le (Nat.le_of_eq (Array.length_toList))

theorem record_eq_advance (e : Event) (w : Machine σ) : w.record e = w.advance [e] w.disk w.net := by
  simp [record, advance]

theorem host_eq_hostLogging :
    (host : Host (StateM (Machine σ))) = hostLogging logging := by
  simp only [hostLogging, logging, ← record_eq_advance]
  rfl

theorem transport_eq_attach (answer : Request → σ → Except Failure Response × σ) :
    transport answer = attach (recording answer) := by
  funext r w
  simp [transport, recorded, attach, recording, record, advance]

end Machine

namespace Download

/-! ## What is asked and said for a day -/

def request (o : Options) (c : Credential) (day : Nat) : Request :=
  { url := Puzzle.address o.baseUrl o.year day, token := c.token, userAgent := o.userAgent }

/-- The file of a day's input. -/
def file (o : Options) (day : Nat) : Path := o.outputDir.child (Puzzle.fileName day)

def progress (o : Options) (day : Nat) : List Event :=
  if o.quiet then [] else [.print s!"Getting input for {day}/{Puzzle.month}/{o.year}..."]

def askEntry (r : Request) (attempt : Nat) : Log.Entry :=
  ⟨.debug, .download, s!"GET {r.url} (attempt {attempt + 1})"⟩

def retryEntry (o : Options) (e : Failure) (attempt : Nat) : Log.Entry :=
  ⟨.warn, .download, s!"{e.message}; retrying ({attempt}/{o.retries})"⟩

def stopEntry (day : Nat) (release today : Date) : Log.Entry :=
  ⟨.debug, .download, s!"day {day} unlocks on {release.text}, today is {today.text}; stopping"⟩

def wroteEntry (path : Path) : Log.Entry := ⟨.debug, .download, s!"wrote {path.text}"⟩

/-- Whether an outcome is a failure that is worth another try. -/
def isRetryable : Except Failure Response → Bool
  | .error e => e.isRetryable
  | .ok response => 500 ≤ response.status

theorem isRetryable_iff (url : String) (outcome : Except Failure Response) :
    isRetryable outcome = true ↔ ∃ e, accept url outcome = .error e ∧ e.isRetryable = true := by
  cases outcome with
  | error e => simp [isRetryable, accept]
  | ok response =>
    by_cases h : response.status = 200
    · simp [isRetryable, accept, h]
    · simp [isRetryable, accept, h, Failure.isRetryable]

/-- The stay at one day: the answers to its requests, and what was written if it came to that. -/
structure Visit where
  day : Nat
  answers : List Answer
  written : Option (ByteArray × Except IoFault Unit)

section Derivations

variable {σ : Type} (logged : Log.Entry → List Event) (reply : Replier σ)

/-- `Tries attempt left s answers events verdict s'`: after `attempt` tries, with `left` to spare
beyond the next, the request is made once for each of the answers. -/
inductive Tries (o : Options) (r : Request) :
    Nat → Nat → σ → List Answer → List Event → Except Failure ByteArray → σ → Prop
  /-- The answer decides, or no try is left. -/
  | last {attempt left : Nat} {s s' : σ} {a : Answer} (asked : reply r s = (a, s'))
      (final : left = 0 ∨ isRetryable a.outcome = false) :
      Tries o r attempt left s [a] (logged (askEntry r attempt) ++ a.noted)
        (accept r.url a.outcome) s'
  | again {attempt left : Nat} {s s' s'' : σ} {a : Answer} {e : Failure} {answers : List Answer}
      {events : List Event} {verdict : Except Failure ByteArray} (asked : reply r s = (a, s'))
      (failed : accept r.url a.outcome = .error e) (retryable : e.isRetryable = true)
      (rest : Tries o r (attempt + 1) left s' answers events verdict s'') :
      Tries o r attempt (left + 1) s (a :: answers)
        (logged (askEntry r attempt) ++ a.noted ++
          (logged (retryEntry o e (attempt + 1)) ++ .wait (o.backoff.backoff (attempt + 1)) :: events))
        verdict s''

/-- `Days entries d s visits events result d' s'`: the days of `entries`, in turn. -/
inductive Days (o : Options) (c : Credential) (today : Date) :
    List (Nat × Date) → Disk → σ → List Visit → List Event → Except Failure Report → Disk → σ → Prop
  | done {d : Disk} {s : σ} : Days o c today [] d s [] [] (.ok ⟨[], none⟩) d s
  | unreleased {day : Nat} {release : Date} {rest : List (Nat × Date)} {d : Disk} {s : σ}
      (early : today < release) :
      Days o c today ((day, release) :: rest) d s [] (logged (stopEntry day release today))
        (.ok ⟨[], some day⟩) d s
  | refused {day : Nat} {release : Date} {rest : List (Nat × Date)} {d : Disk} {s s' : σ}
      {answers : List Answer} {events : List Event} {e : Failure} (out : ¬ today < release)
      (tries : Tries logged reply o (request o c day) 0 o.retries s answers events (.error e) s') :
      Days o c today ((day, release) :: rest) d s [⟨day, answers, none⟩] (progress o day ++ events)
        (.error e) d s'
  | unwritten {day : Nat} {release : Date} {rest : List (Nat × Date)} {d : Disk} {s s' : σ}
      {answers : List Answer} {events : List Event} {body : ByteArray} {cause : IoFault}
      (out : ¬ today < release)
      (tries : Tries logged reply o (request o c day) 0 o.retries s answers events (.ok body) s')
      (failed : d.write (file o day) body = .error cause) :
      Days o c today ((day, release) :: rest) d s [⟨day, answers, some (body, .error cause)⟩]
        (progress o day ++ (events ++ [.write (file o day) body (.error cause)]))
        (.error (.write (file o day) cause)) d s'
  | written {day : Nat} {release : Date} {rest : List (Nat × Date)} {d d' d'' : Disk}
      {s s' s'' : σ} {answers : List Answer} {events events' : List Event} {body : ByteArray}
      {visits : List Visit} {result : Except Failure Report} (out : ¬ today < release)
      (tries : Tries logged reply o (request o c day) 0 o.retries s answers events (.ok body) s')
      (wrote : d.write (file o day) body = .ok d')
      (days : Days o c today rest d' s' visits events' result d'' s'') :
      Days o c today ((day, release) :: rest) d s (⟨day, answers, some (body, .ok ())⟩ :: visits)
        (progress o day ++ (events ++ (.write (file o day) body (.ok ()) ::
          (logged (wroteEntry (file o day)) ++ events'))))
        (result.map (Report.cons (file o day))) d'' s''

/-- `Course d s visits events result d' s'`: a download, from the disk `d` and the state `s`. -/
inductive Course (o : Options) (c : Credential) (today : Date) :
    Disk → σ → List Visit → List Event → Except Failure Report → Disk → σ → Prop
  | noSchedule {d : Disk} {s : σ} {e : Failure} (schedule : Puzzle.schedule o.year = .error e) :
      Course o c today d s [] [] (.error e) d s
  | noDirectory {d d' : Disk} {s : σ} {entries : List (Nat × Date)} {cause : IoFault}
      (schedule : Puzzle.schedule o.year = .ok entries)
      (out : (entries.head?.any fun (_, release) => release ≤ today) = true)
      (failed : d.makeDirectories o.outputDir = (.error cause, d')) :
      Course o c today d s [] [.makeDirectories o.outputDir (.error cause)]
        (.error (.outputDirectory o.outputDir cause)) d' s
  | begun {d d' d'' : Disk} {s s' : σ} {entries : List (Nat × Date)} {visits : List Visit}
      {events : List Event} {result : Except Failure Report}
      (schedule : Puzzle.schedule o.year = .ok entries)
      (out : (entries.head?.any fun (_, release) => release ≤ today) = true)
      (made : d.makeDirectories o.outputDir = (.ok (), d'))
      (days : Days logged reply o c today entries d' s visits events result d'' s') :
      Course o c today d s visits (.makeDirectories o.outputDir (.ok ()) :: events) result d'' s'
  | early {d d' : Disk} {s s' : σ} {entries : List (Nat × Date)} {visits : List Visit}
      {events : List Event} {result : Except Failure Report}
      (schedule : Puzzle.schedule o.year = .ok entries)
      (notOut : (entries.head?.any fun (_, release) => release ≤ today) = false)
      (days : Days logged reply o c today entries d s visits events result d' s') :
      Course o c today d s visits events result d' s'

end Derivations

/-! ## Runs are courses -/

section Runs

variable {σ : Type} {logged : Log.Entry → List Event} {reply : Replier σ} {o : Options}
  {c : Credential} {today : Date}

theorem run_bind {S α β : Type} (x : StateM S α) (f : α → StateM S β) (w : S) :
    (x >>= f).run w = (f (x.run w).1).run (x.run w).2 := rfl

theorem exists_run {S α : Type} (x : StateM S α) (w : S) : ∃ a w', x.run w = (a, w') := ⟨_, _, rfl⟩

theorem pauseBefore_run (e : Failure) (attempt : Nat) (w : Machine σ) :
    (pauseBefore (Machine.hostLogging logged) o e attempt).run w =
      ((), w.advance (logged (retryEntry o e attempt) ++ [.wait (o.backoff.backoff attempt)])
        w.disk w.net) := by
  rw [← Machine.advance_advance w _ _ w.disk w.disk w.net w.net]
  rw [pauseBefore, run_bind]
  exact congrArg (Prod.mk ()) (Machine.record_eq_advance _ _)

theorem write_run (path : Path) (bytes : ByteArray) (w : Machine σ) :
    ((Machine.hostLogging logged : Host (StateM (Machine σ))).write path bytes).run w =
      match w.disk.write path bytes with
      | .ok d => (.ok (), w.advance [.write path bytes (.ok ())] d w.net)
      | .error e => (.error e, w.advance [.write path bytes (.error e)] w.disk w.net) := by
  change (match w.disk.write path bytes with
    | .ok disk => (_, Machine.record _ _)
    | .error e => (_, Machine.record _ _)) = _
  cases w.disk.write path bytes with
  | ok d => exact congrArg (Prod.mk _) (Machine.record_eq_advance _ _)
  | error e => exact congrArg (Prod.mk _) (Machine.record_eq_advance _ _)

theorem log_run (e : Log.Entry) (w : Machine σ) :
    ((Machine.hostLogging logged).log e).run w = ((), w.advance (logged e) w.disk w.net) := rfl

theorem ask_run (r : Request) (attempt : Nat) (w : Machine σ) :
    (ask (Machine.hostLogging logged) (Machine.attach reply) r attempt).run w =
      (accept r.url (reply r w.net).1.outcome,
        w.advance (logged (askEntry r attempt) ++ (reply r w.net).1.noted) w.disk
          (reply r w.net).2) := by
  rw [← Machine.advance_advance w _ _ w.disk w.disk w.net]
  rfl

theorem Tries.run_eq {r : Request} {attempt left : Nat} {s s' : σ} {answers : List Answer}
    {events : List Event} {verdict : Except Failure ByteArray}
    (h : Tries logged reply o r attempt left s answers events verdict s') (w : Machine σ)
    (hs : w.net = s) :
    (tryDay (Machine.hostLogging logged) (Machine.attach reply) o r attempt left).run w =
      (verdict, w.advance events w.disk s') := by
  induction h generalizing w with
  | @last attempt left s s' a asked final =>
    subst hs
    cases left with
    | zero => rw [tryDay, ask_run, asked]
    | succ left =>
      rw [tryDay, run_bind, ask_run, asked]
      have hr : isRetryable a.outcome = false := final.resolve_left (Nat.succ_ne_zero left)
      cases hv : accept r.url a.outcome with
      | ok body => rfl
      | error e =>
        have he : e.isRetryable = false := by
          rw [Bool.eq_false_iff] at hr ⊢
          exact fun he => hr ((isRetryable_iff r.url a.outcome).mpr ⟨e, hv, he⟩)
        simp only [he]
        rfl
  | again asked failed retryable rest ih =>
    subst hs
    rw [tryDay, run_bind, ask_run, asked]
    simp only [failed, retryable, if_true]
    rw [run_bind, pauseBefore_run, ih _ rfl]
    simp

theorem exists_tries (logged : Log.Entry → List Event) (reply : Replier σ) (o : Options)
    (r : Request) (attempt left : Nat) (s : σ) :
    ∃ answers events verdict s', Tries logged reply o r attempt left s answers events verdict s' := by
  induction left generalizing attempt s with
  | zero => exact ⟨_, _, _, _, .last rfl (.inl rfl)⟩
  | succ left ih =>
    by_cases hr : isRetryable (reply r s).1.outcome = true
    · obtain ⟨e, failed, retryable⟩ := (isRetryable_iff r.url _).mp hr
      obtain ⟨answers, events, verdict, s', rest⟩ := ih (attempt + 1) (reply r s).2
      exact ⟨_, _, _, _, .again rfl failed retryable rest⟩
    · exact ⟨_, _, _, _, .last rfl (.inr (Bool.eq_false_iff.mpr hr))⟩

/-- What follows the requests for a released day. -/
def finishDay {m : Type → Type} [Monad m] (host : Host m) (transport : Transport m) (o : Options)
    (c : Credential) (today : Date) (rest : List (Nat × Date)) (day : Nat) :
    Except Failure ByteArray → m (Except Failure Report)
  | .error e => return .error e
  | .ok body => do
    match ← host.write (file o day) body with
    | .error cause => return .error (.write (file o day) cause)
    | .ok () =>
      host.log (wroteEntry (file o day))
      match ← fetchDays host transport o c today rest with
      | .error e => return .error e
      | .ok report => return .ok (report.cons (file o day))

theorem fetchDays_run_of_out {transport : Transport (StateM (Machine σ))} {day : Nat}
    {release : Date} (rest : List (Nat × Date)) (out : ¬ today < release) (w : Machine σ) :
    (fetchDays (Machine.hostLogging logged) transport o c today ((day, release) :: rest)).run w =
      (fetchDay (Machine.hostLogging logged) transport o (request o c day) >>=
        finishDay (Machine.hostLogging logged) transport o c today rest day).run
          (w.advance (progress o day) w.disk w.net) := by
  rw [fetchDays, if_neg out, progress]
  cases o.quiet with
  | true =>
    simp only [if_true, Machine.advance_nil]
    rfl
  | false =>
    simp only [Bool.false_eq_true, if_false]
    rw [← Machine.record_eq_advance]
    rfl

theorem finishDay_run_ok {transport : Transport (StateM (Machine σ))} (rest : List (Nat × Date))
    (day : Nat) (body : ByteArray) (w : Machine σ) :
    (finishDay (Machine.hostLogging logged) transport o c today rest day (.ok body)).run w =
      match w.disk.write (file o day) body with
      | .error cause =>
        (.error (.write (file o day) cause),
          w.advance [.write (file o day) body (.error cause)] w.disk w.net)
      | .ok d =>
        let next := (fetchDays (Machine.hostLogging logged) transport o c today rest).run
          (w.advance (.write (file o day) body (.ok ()) :: logged (wroteEntry (file o day))) d w.net)
        (next.1.map (Report.cons (file o day)), next.2) := by
  rw [finishDay, run_bind, write_run]
  cases w.disk.write (file o day) body with
  | error cause => rfl
  | ok d =>
    simp only [run_bind, log_run, Machine.advance_advance, Machine.disk_advance,
      Machine.net_advance, List.singleton_append]
    generalize (fetchDays (Machine.hostLogging logged) transport o c today rest).run _ = next
    obtain ⟨result, w'⟩ := next
    cases result <;> rfl

theorem Days.run_eq {entries : List (Nat × Date)} {d d' : Disk} {s s' : σ} {visits : List Visit}
    {events : List Event} {result : Except Failure Report}
    (h : Days logged reply o c today entries d s visits events result d' s') (w : Machine σ)
    (hd : w.disk = d) (hs : w.net = s) :
    (fetchDays (Machine.hostLogging logged) (Machine.attach reply) o c today entries).run w =
      (result, w.advance events d' s') := by
  induction h generalizing w with
  | done =>
    subst hd hs
    rw [Machine.advance_nil]
    rfl
  | unreleased early =>
    subst hd hs
    rw [fetchDays, if_pos early]
    rfl
  | refused out tries =>
    subst hd hs
    rw [fetchDays_run_of_out _ out, run_bind, fetchDay,
      tries.run_eq (w.advance (progress o _) w.disk w.net) rfl, Machine.advance_advance]
    rfl
  | unwritten out tries failed =>
    subst hd hs
    rw [fetchDays_run_of_out _ out, run_bind, fetchDay,
      tries.run_eq (w.advance (progress o _) w.disk w.net) rfl, finishDay_run_ok]
    simp [failed]
  | written out tries wrote days ih =>
    subst hd hs
    rw [fetchDays_run_of_out _ out, run_bind, fetchDay,
      tries.run_eq (w.advance (progress o _) w.disk w.net) rfl, finishDay_run_ok]
    simp only [Machine.disk_advance, wrote]
    rw [ih _ rfl rfl]
    simp

/-- The requests for a released day begin the days from it on, however these go on. -/
theorem Tries.exists_days {day : Nat} {release : Date} {rest : List (Nat × Date)} {s s' : σ}
    {answers : List Answer} {events : List Event} {verdict : Except Failure ByteArray}
    (tries : Tries logged reply o (request o c day) 0 o.retries s answers events verdict s')
    (out : ¬ today < release) (d : Disk)
    (hrest : ∀ d s, ∃ visits events result d' s',
      Days logged reply o c today rest d s visits events result d' s') :
    ∃ visits events' result d' s'',
      Days logged reply o c today ((day, release) :: rest) d s visits events' result d' s'' ∧
      progress o day ++ events <+: events' := by
  cases verdict with
  | error e => exact ⟨_, _, _, _, _, .refused out tries, List.prefix_rfl⟩
  | ok body =>
    cases hw : d.write (file o day) body with
    | error cause =>
      refine ⟨_, _, _, _, _, .unwritten out tries hw, ?_⟩
      rw [← List.append_assoc]
      exact List.prefix_append _ _
    | ok d' =>
      obtain ⟨visits, events', result, d'', s'', days⟩ := hrest d' s'
      refine ⟨_, _, _, _, _, .written out tries hw days, ?_⟩
      rw [← List.append_assoc]
      exact List.prefix_append _ _

theorem exists_days (logged : Log.Entry → List Event) (reply : Replier σ) (o : Options)
    (c : Credential) (today : Date) (entries : List (Nat × Date)) (d : Disk) (s : σ) :
    ∃ visits events result d' s',
      Days logged reply o c today entries d s visits events result d' s' := by
  induction entries generalizing d s with
  | nil => exact ⟨_, _, _, _, _, .done⟩
  | cons entry rest ih =>
    obtain ⟨day, release⟩ := entry
    by_cases early : today < release
    · exact ⟨_, _, _, _, _, .unreleased early⟩
    · obtain ⟨answers, events, verdict, s', tries⟩ :=
        exists_tries logged reply o (request o c day) 0 o.retries s
      obtain ⟨visits, events', result, d', s'', days, -⟩ := tries.exists_days early d ih
      exact ⟨visits, events', result, d', s'', days⟩

theorem makeDirectories_run (path : Path) (w : Machine σ) :
    ((Machine.hostLogging logged : Host (StateM (Machine σ))).makeDirectories path).run w =
      ((w.disk.makeDirectories path).1,
        w.advance [.makeDirectories path (w.disk.makeDirectories path).1]
          (w.disk.makeDirectories path).2 w.net) :=
  congrArg (Prod.mk _) (Machine.record_eq_advance _ _)

/-- A course is what the download does. -/
theorem Course.run_eq {d d' : Disk} {s s' : σ} {visits : List Visit} {events : List Event}
    {result : Except Failure Report}
    (h : Course logged reply o c today d s visits events result d' s') (w : Machine σ)
    (hd : w.disk = d) (hs : w.net = s) :
    (fetchInputs (Machine.hostLogging logged) (Machine.attach reply) o c today).run w =
      (result, w.advance events d' s') := by
  subst hd hs
  unfold fetchInputs
  cases h with
  | noSchedule schedule =>
    rw [schedule, Machine.advance_nil]
    rfl
  | noDirectory schedule out failed =>
    simp only [schedule, out, if_true]
    rw [run_bind, makeDirectories_run, failed]
    rfl
  | begun schedule out made days =>
    simp only [schedule, out, if_true]
    rw [run_bind, makeDirectories_run, made]
    simp only
    rw [days.run_eq (w.advance _ _ w.net) rfl rfl, Machine.advance_advance]
    rfl
  | early schedule notOut days =>
    simp only [schedule, notOut, Bool.false_eq_true, if_false]
    exact days.run_eq w rfl rfl

/-- Every download has a course. -/
theorem exists_course (logged : Log.Entry → List Event) (reply : Replier σ) (o : Options)
    (c : Credential) (today : Date) (d : Disk) (s : σ) :
    ∃ visits events result d' s',
      Course logged reply o c today d s visits events result d' s' := by
  cases schedule : Puzzle.schedule o.year with
  | error e => exact ⟨_, _, _, _, _, .noSchedule schedule⟩
  | ok entries =>
    cases out : entries.head?.any fun (_, release) => decide (release ≤ today) with
    | false =>
      obtain ⟨visits, events, result, d', s', days⟩ :=
        exists_days logged reply o c today entries d s
      exact ⟨_, _, _, _, _, .early schedule out days⟩
    | true =>
      rcases hm : d.makeDirectories o.outputDir with ⟨r, d₁⟩
      cases r with
      | error cause => exact ⟨_, _, _, _, _, .noDirectory schedule out hm⟩
      | ok u =>
        obtain ⟨visits, events, result, d', s', days⟩ :=
          exists_days logged reply o c today entries d₁ s
        exact ⟨_, _, _, _, _, .begun schedule out hm days⟩

theorem course_of_run {w w' : Machine σ} {result : Except Failure Report}
    (h : (fetchInputs (Machine.hostLogging logged) (Machine.attach reply) o c today).run w =
      (result, w')) :
    ∃ visits, Course logged reply o c today w.disk w.net visits (w.eventsSince w') result w'.disk
      w'.net := by
  obtain ⟨visits, events, result', d', s', course⟩ :=
    exists_course logged reply o c today w.disk w.net
  rw [course.run_eq w rfl rfl] at h
  cases h
  exact ⟨visits, by simpa using course⟩

/-- The run of a download on a machine is a course. -/
theorem course_of_fetchInputs {answer : Request → σ → Except Failure Response × σ}
    {w w' : Machine σ} {result : Except Failure Report}
    (h : (fetchInputs Machine.host (Machine.transport answer) o c today).run w = (result, w')) :
    ∃ visits, Course Machine.logging (Machine.recording answer) o c today w.disk w.net visits
      (w.eventsSince w') result w'.disk w'.net := by
  rw [Machine.host_eq_hostLogging, Machine.transport_eq_attach] at h
  exact course_of_run h

/-- A course from the disk and the state of a machine is the run of the download there. -/
theorem Course.fetchInputs_run {answer : Request → σ → Except Failure Response × σ} {w : Machine σ}
    {visits : List Visit} {events : List Event} {result : Except Failure Report} {d' : Disk} {s' : σ}
    (h : Course Machine.logging (Machine.recording answer) o c today w.disk w.net visits events result
      d' s') :
    (fetchInputs Machine.host (Machine.transport answer) o c today).run w =
      (result, w.advance events d' s') := by
  rw [Machine.host_eq_hostLogging, Machine.transport_eq_attach]
  exact h.run_eq w rfl rfl

end Runs

end Download

end PuzzleInputs
