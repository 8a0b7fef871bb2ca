import Mathlib
import PuzzleInputs.Program
import PuzzleInputs.Proofs.Course

/-!
# The run of the program

What `Program.run` does on a machine before the download: the zone is read off the arguments and the
credential off the disk, and nothing but the log is touched (`run_cases`). `Credential.stored` is the
credential as the disk and the config have it.
-/

namespace PuzzleInputs

open Download (run_bind log_run)

variable {σ : Type} {logged : Log.Entry → List Event}

/-- The file as text. -/
def Disk.readText (disk : Disk) (path : Path) : Except IoFault String :=
  match disk.read path with
  | .error e => .error e
  | .ok bytes =>
    match String.fromUTF8? bytes with
    | some text => .ok text
    | none => .error .invalidUtf8

theorem fromUTF8?_eq_some {bytes : ByteArray} {text : String} :
    String.fromUTF8? bytes = some text ↔ bytes = text.toUTF8 := by
  constructor
  · intro h
    unfold String.fromUTF8? at h
    split at h
    · cases h
      rfl
    · cases h
  · rintro rfl
    exact dif_pos text.isValidUTF8

theorem Disk.readText_eq_ok {disk : Disk} {path : Path} {text : String} :
    disk.readText path = .ok text ↔ disk.read path = .ok text.toUTF8 := by
  unfold Disk.readText
  cases disk.read path with
  | error e => simp
  | ok bytes =>
    simp only [Except.ok.injEq, ← fromUTF8?_eq_some]
    cases String.fromUTF8? bytes <;> simp

theorem readText_run (path : Path) (w : Machine σ) :
    ((Machine.hostLogging logged).readText path).run w = (w.disk.readText path, w) := by
  have hread : ((Machine.hostLogging logged).read path).run w = (w.disk.read path, w) := rfl
  rw [Host.readText, run_bind, hread, Disk.readText]
  cases w.disk.read path with
  | error e => rfl
  | ok bytes => cases hs : String.fromUTF8? bytes <;> simp only [hs] <;> rfl

namespace Credential

/-- The credential that a source stands for. -/
def stored (disk : Disk) (accounts : List (String × String)) :
    Source → Except Failure Credential
  | .file path =>
    match disk.readText path with
    | .error cause => .error (.credentialUnreadable path cause)
    | .ok text => ofFile path text
  | .account label =>
    match accounts.lookup label with
    | none => .error (.accountUnknown label)
    | some token => ofAccount label token

def Source.entry : Source → Log.Entry
  | .file path => ⟨.debug, .credential, s!"reading session cookie from {path.text}"⟩
  | .account label => ⟨.debug, .credential, s!"using session cookie of account \"{label}\""⟩

/-- Loading a credential only reads. -/
theorem load_run (accounts : List (String × String)) (source : Source) (w : Machine σ) :
    (load (Machine.hostLogging logged) accounts source).run w =
      (stored w.disk accounts source, w.advance (logged source.entry) w.disk w.net) := by
  cases source with
  | file path =>
    rw [load, Host.debug, run_bind, log_run, run_bind, readText_run, stored]
    cases hr : w.disk.readText path <;> simp only [Machine.disk_advance, hr] <;> rfl
  | account label =>
    rw [load, Host.debug, run_bind, log_run, stored]
    cases accounts.lookup label <;> rfl

end Credential

namespace Program

variable {transport : Transport (StateM (Machine σ))} {env : Environment} {config : Config}
  {args : Arguments}

def startEntry (o : Options) (zone : Zone) : Log.Entry :=
  ⟨.debug, .session,
    s!"fetching {o.year} into {o.outputDir.text} (timezone {zone.describe})"⟩

theorem run_of_zone_error {e : Failure} (hz : Zone.parse args.timezone = .error e) (w : Machine σ) :
    (run (Machine.hostLogging logged) transport env config args).run w = (.error e, w) := by
  rw [run, hz]
  rfl

theorem run_of_credential_error {zone : Zone} {e : Failure}
    (hz : Zone.parse args.timezone = .ok zone) {w : Machine σ}
    (hc : Credential.stored w.disk config.accounts (args.credentialSource env) = .error e) :
    (run (Machine.hostLogging logged) transport env config args).run w =
      (.error e, w.advance (logged (args.credentialSource env).entry) w.disk w.net) := by
  have hload : (Credential.load (Machine.hostLogging logged) config.accounts
      (args.credentialSource env)).run w = _ := Credential.load_run _ _ w
  rw [run, hz]
  simp only
  rw [run_bind, hload, hc]
  rfl

theorem run_of_credential {zone : Zone} {credential : Credential}
    (hz : Zone.parse args.timezone = .ok zone) {w : Machine σ}
    (hc : Credential.stored w.disk config.accounts (args.credentialSource env) = .ok credential) :
    (run (Machine.hostLogging logged) transport env config args).run w =
      (Download.fetchInputs (Machine.hostLogging logged) transport (Options.ofArguments args)
        credential (w.clock.today zone)).run
        (w.advance (logged (args.credentialSource env).entry ++
          logged (startEntry (Options.ofArguments args) zone)) w.disk w.net) := by
  have hload : (Credential.load (Machine.hostLogging logged) config.accounts
      (args.credentialSource env)).run w = _ := Credential.load_run _ _ w
  rw [run, hz]
  simp only
  rw [run_bind, hload, hc]
  simp only
  rw [Host.debug, run_bind, log_run, Machine.advance_advance]
  rfl

/-- A run ends with the zone, ends with the credential, or is a download. -/
theorem run_cases (w : Machine σ) :
    (∃ e, Zone.parse args.timezone = .error e ∧
      (run (Machine.hostLogging logged) transport env config args).run w = (.error e, w)) ∨
    (∃ zone e, Zone.parse args.timezone = .ok zone ∧
      Credential.stored w.disk config.accounts (args.credentialSource env) = .error e ∧
      (run (Machine.hostLogging logged) transport env config args).run w =
        (.error e, w.advance (logged (args.credentialSource env).entry) w.disk w.net)) ∨
    ∃ zone credential, Zone.parse args.timezone = .ok zone ∧
      Credential.stored w.disk config.accounts (args.credentialSource env) = .ok credential ∧
      (run (Machine.hostLogging logged) transport env config args).run w =
        (Download.fetchInputs (Machine.hostLogging logged) transport (Options.ofArguments args)
          credential (w.clock.today zone)).run
          (w.advance (logged (args.credentialSource env).entry ++
            logged (startEntry (Options.ofArguments args) zone)) w.disk w.net) := by
  cases hz : Zone.parse args.timezone with
  | error e => exact .inl ⟨e, rfl, run_of_zone_error hz w⟩
  | ok zone =>
    cases hc : Credential.stored w.disk config.accounts (args.credentialSource env) with
    | error e => exact .inr (.inl ⟨zone, e, rfl, rfl, run_of_credential_error hz hc⟩)
    | ok credential => exact .inr (.inr ⟨zone, credential, rfl, rfl, run_of_credential hz hc⟩)

/-- The course of the download, after what the log is told before it, is the run. -/
theorem run_of_course {reply : Replier σ} {zone : Zone} {credential : Credential}
    (hz : Zone.parse args.timezone = .ok zone) {w : Machine σ}
    (hc : Credential.stored w.disk config.accounts (args.credentialSource env) = .ok credential)
    {visits : List Download.Visit} {events : List Event} {result : Except Failure Report}
    {d' : Disk} {s' : σ}
    (course : Download.Course logged reply (Options.ofArguments args) credential
      (w.clock.today zone) w.disk w.net visits events result d' s') :
    (run (Machine.hostLogging logged) (Machine.attach reply) env config args).run w =
      (result, w.advance (logged (args.credentialSource env).entry ++
        logged (startEntry (Options.ofArguments args) zone) ++ events) d' s') := by
  rw [run_of_credential hz hc, course.run_eq (w.advance _ w.disk w.net) rfl rfl,
    Machine.advance_advance]

/-- A run has something to tell the log, and then fails or is a download. -/
theorem run_course (logged : Log.Entry → List Event) (reply : Replier σ) (env : Environment)
    (config : Config) (args : Arguments) (w : Machine σ) :
    (∃ (entries : List Log.Entry) (e : Failure),
      (run (Machine.hostLogging logged) (Machine.attach reply) env config args).run w =
        (.error e, w.advance (entries.flatMap logged) w.disk w.net)) ∨
    ∃ (entries : List Log.Entry) (zone : Zone) (credential : Credential)
      (visits : List Download.Visit) (events : List Event) (result : Except Failure Report)
      (d' : Disk) (s' : σ),
      Zone.parse args.timezone = .ok zone ∧
      Credential.stored w.disk config.accounts (args.credentialSource env) = .ok credential ∧
      Download.Course logged reply (Options.ofArguments args) credential
        (w.clock.today zone) w.disk w.net visits events result d' s' ∧
      (run (Machine.hostLogging logged) (Machine.attach reply) env config args).run w =
        (result, w.advance (entries.flatMap logged ++ events) d' s') := by
  rcases run_cases w with ⟨e, -, hrun⟩ | ⟨zone, e, -, -, hrun⟩ | ⟨zone, credential, hz, hc, -⟩
  · refine .inl ⟨[], e, ?_⟩
    rw [hrun, List.flatMap_nil, Machine.advance_nil]
  · refine .inl ⟨[(args.credentialSource env).entry], e, ?_⟩
    rw [hrun, List.flatMap_singleton]
  · obtain ⟨visits, events, result, d', s', course⟩ := Download.exists_course logged reply
      (Options.ofArguments args) credential (w.clock.today zone) w.disk w.net
    refine .inr ⟨[(args.credentialSource env).entry, startEntry (Options.ofArguments args) zone],
      zone, credential, visits, events, result, d', s', hz, hc, course, ?_⟩
    rw [run_of_course hz hc course]
    simp

/-- A machine with a cookie file, on the first day of the event of 2018. -/
def firstMorning (net : σ) : Machine σ where
  disk :=
    { workingDirectory := ["home"]
      entries := [(["home"], .directory), (["home", "cookie"], .file "tok".toUTF8)] }
  clock := .inUtc (17866 * 86400) (by decide)
  net

end Program

end PuzzleInputs
