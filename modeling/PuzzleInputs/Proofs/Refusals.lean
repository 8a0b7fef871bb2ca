import Mathlib
import PuzzleInputs.Proofs.Checks
import PuzzleInputs.Proofs.Extension
import PuzzleInputs.Proofs.Traffic

/-!
# Requests that cannot be sent

The client refuses a request whose header fields hold a control character or whose address is not an
HTTP one (`Refused`), without a word to any server. Its failure is told like one of the network, and so
a run tries such a request again until its tries are used up: `retries + 1` times the same request with
the same failure, a pause before each but the first, and nothing on the wire (`run_repeats_refused`).
-/

namespace PuzzleInputs

/-- The message of an event, with what came of it. -/
def Event.exchanged? : Event → Option (Http.Message × Except Http.Fault Http.Reply)
  | .exchange message outcome => some (message, outcome)
  | _ => none

/-- The messages on the wire among the events. -/
def exchangesIn (events : List Event) : List (Http.Message × Except Http.Fault Http.Reply) :=
  events.filterMap Event.exchanged?

namespace Http

/-- A control character other than the tab. -/
def IsControl (c : Char) : Prop := c ≠ '\t' ∧ (c.toNat < 0x20 ∨ c.toNat = 0x7F)

/-- An address that can be read and whose scheme is `http` or `https`. -/
def IsHttp (url : String) : Prop :=
  ∃ u scheme, Uri.parse url = .ok u ∧ u.scheme = some scheme ∧
    (sameAsciiLetters scheme "http" = true ∨ sameAsciiLetters scheme "https" = true)

/-- A request that the client refuses before it connects to anything. -/
inductive Refused (r : Request) : Prop
  | token {c : Char} (mem : c ∈ r.token.toList) (control : IsControl c)
  | userAgent {c : Char} (mem : c ∈ r.userAgent.toList) (control : IsControl c)
  | address (bad : ¬ IsHttp r.url)

theorem not_isControl_of_isFieldValue {value : String} (h : isFieldValue value = true) {c : Char}
    (hc : c ∈ value.toList) : ¬ IsControl c := by
  rintro ⟨htab, hcontrol⟩
  have hchar := List.all_eq_true.mp h c hc
  simp only [Bool.or_eq_true, beq_iff_eq, htab, false_or, Bool.and_eq_true, decide_eq_true_eq,
    bne_iff_ne] at hchar
  omega

theorem isHttp_of_checkScheme {url : String} {u : Uri} (hu : Uri.parse url = .ok u)
    (h : checkScheme u = .ok ()) : IsHttp url := by
  unfold checkScheme at h
  split at h
  · cases h
  · next scheme hscheme =>
    split at h
    · next hletters => exact ⟨u, scheme, hu, hscheme, (Bool.or_eq_true _ _).mp hletters⟩
    · cases h

theorem isFieldValue_of_compose {r : Request} {message : Message} (h : compose r = .ok message) :
    isFieldValue ("session=" ++ r.token) = true ∧ isFieldValue r.userAgent = true := by
  unfold compose at h
  simp only [(compose_ok h).1, Except.mapError, bind, Except.bind] at h
  split at h
  · cases h
  · next hvalues => simpa using hvalues

/-- Nothing is exchanged for a refused request, and it always fails the same way. -/
theorem Refused.exists_asked {r : Request} (h : Refused r) :
    ∃ reason, ∀ {σ : Type} (decode : Decoder) (serve : Server σ) (s : σ),
      Asked decode serve r s ⟨.error (.transport r.url reason), []⟩ s := by
  cases composed : compose r with
  | error e => exact ⟨e.message, fun decode serve s => .unfit composed⟩
  | ok message =>
    obtain ⟨hcookie, hagent⟩ := isFieldValue_of_compose composed
    cases scheme : checkScheme message.uri with
    | error e => exact ⟨e.message, fun decode serve s => .failed composed (.failed (.refused scheme))⟩
    | ok u =>
      cases h with
      | token mem control =>
        rw [isFieldValue, String.toList_append, List.all_append, Bool.and_eq_true] at hcookie
        exact absurd control (not_isControl_of_isFieldValue hcookie.2 mem)
      | userAgent mem control => exact absurd control (not_isControl_of_isFieldValue hagent mem)
      | address bad => exact absurd (isHttp_of_checkScheme (compose_ok composed).1 scheme) bad

end Http

namespace Download

/-! ## The same answer every time -/

theorem waitsIn_append (es es' : List Event) : waitsIn (es ++ es') = waitsIn es ++ waitsIn es' :=
  List.filterMap_append

/-- The pauses of a day, one between each two answers. -/
theorem waitsIn_asking (o : Options) (attempt : Nat) {answers : List Answer}
    (h : ∀ a ∈ answers, waitsIn a.noted = []) :
    waitsIn (asking o attempt answers) =
      (List.range' (attempt + 1) (answers.length - 1)).map o.backoff.backoff := by
  induction answers generalizing attempt with
  | nil => rfl
  | cons a answers ih =>
    have ha := h a List.mem_cons_self
    cases answers with
    | nil => exact ha
    | cons b answers =>
      have hrest := ih (attempt + 1) fun x hx => h x (List.mem_cons_of_mem _ hx)
      rw [asking_cons (List.cons_ne_nil b answers), waitsIn_append, ha, List.nil_append]
      show _ :: waitsIn (asking o (attempt + 1) (b :: answers)) = _
      rw [hrest]
      rfl

/-- The answer to a request that fails with `f` before anything is sent. -/
def unsent (r : Request) (f : Failure) : Answer := ⟨.error f, [.request r (.error f)]⟩

section Unsent

variable (o : Options) (r : Request) (f : Failure) (attempt n : Nat)

theorem requestsIn_asking_unsent :
    requestsIn (asking o attempt (List.replicate n (unsent r f))) =
      List.replicate n (r, .error f) := by
  rw [requestsIn_asking]
  induction n with
  | zero => rfl
  | succ n ih =>
    rw [List.replicate_succ, List.flatMap_cons, ih]
    rfl

theorem waitsIn_asking_unsent :
    waitsIn (asking o attempt (List.replicate n (unsent r f))) =
      (List.range' (attempt + 1) (n - 1)).map o.backoff.backoff := by
  rw [waitsIn_asking, List.length_replicate]
  intro a ha
  rw [List.eq_of_mem_replicate ha]
  rfl

theorem exchangesIn_asking_unsent :
    exchangesIn (asking o attempt (List.replicate n (unsent r f))) = [] := by
  rw [exchangesIn, List.filterMap_eq_nil_iff]
  intro e he
  rcases mem_asking he with ⟨a, ha, he⟩ | ⟨pause, rfl⟩
  · rw [List.eq_of_mem_replicate ha] at he
    rw [List.mem_singleton.mp he]
    rfl
  · rfl

end Unsent

section Stuck

variable {σ : Type} {logged : Log.Entry → List Event} {reply : Replier σ} {o : Options}
  {c : Credential} {today : Date} {d d' : Disk} {s s' : σ} {visits : List Visit}
  {events : List Event} {result : Except Failure Report} {a : Answer} {f : Failure}

/-- A failure that no try changes uses up all tries. -/
theorem Tries.of_stuck {r : Request} {attempt left : Nat} {answers : List Answer}
    {verdict : Except Failure ByteArray}
    (h : Tries logged reply o r attempt left s answers events verdict s')
    (hreply : ∀ s, reply r s = (a, s)) (ha : a.outcome = .error f) (hf : f.isRetryable = true) :
    answers = List.replicate (left + 1) a ∧ verdict = .error f ∧ s' = s := by
  induction h with
  | last asked final =>
    cases (hreply _).symm.trans asked
    rw [ha] at final ⊢
    -- the failure asks for another try, so none was left
    have hleft := final.resolve_right (by rw [isRetryable, hf]; exact Bool.noConfusion)
    subst hleft
    exact ⟨rfl, rfl, rfl⟩
  | again asked failed retryable rest ih =>
    cases (hreply _).symm.trans asked
    obtain ⟨rfl, rfl, rfl⟩ := ih
    exact ⟨rfl, rfl, rfl⟩

theorem Days.of_stuck {day : Nat} {release : Date} {rest : List (Nat × Date)}
    (h : Days logged reply o c today ((day, release) :: rest) d s visits events result d' s')
    (hout : ¬ today < release) (hreply : ∀ s, reply (request o c day) s = (a, s))
    (ha : a.outcome = .error f) (hf : f.isRetryable = true) :
    visits = [⟨day, List.replicate (o.retries + 1) a, none⟩] ∧ result = .error f ∧ s' = s := by
  cases h with
  | unreleased early => exact absurd early hout
  | refused out tries =>
    obtain ⟨rfl, hverdict, rfl⟩ := tries.of_stuck hreply ha hf
    cases hverdict
    exact ⟨rfl, rfl, rfl⟩
  | unwritten out tries failed => cases (tries.of_stuck hreply ha hf).2.1
  | written out tries wrote days => cases (tries.of_stuck hreply ha hf).2.1

/-- Day 1 is as far as the download gets. -/
theorem Course.of_stuck {d₁ : Disk}
    (h : Course logged reply o c today d s visits events result d' s')
    (hr : Puzzle.isReleased o.year today 1 = true)
    (hm : d.makeDirectories o.outputDir = (.ok (), d₁))
    (hreply : ∀ s, reply (request o c 1) s = (a, s)) (ha : a.outcome = .error f)
    (hf : f.isRetryable = true) :
    visits = [⟨1, List.replicate (o.retries + 1) a, none⟩] ∧ result = .error f ∧ s' = s := by
  cases h with
  | noSchedule schedule => rw [Puzzle.isReleased_of_no_schedule schedule] at hr; cases hr
  | noDirectory schedule out failed => cases hm.symm.trans failed
  | early schedule notOut days => rw [Puzzle.head_schedule schedule, hr] at notOut; cases notOut
  | begun schedule out made days =>
    obtain ⟨release, rest, rfl⟩ := Puzzle.schedule_eq_cons schedule
    exact days.of_stuck (of_decide_eq_true out) hreply ha hf

end Stuck

end Download

namespace Program

open Download

variable {σ : Type}

/-- The run failed with `f` after so many requests, which all failed with it, a pause before each but
the first; no server heard of them. -/
structure FailsUnheard (o : Options) (r : Request) (tries : Nat) (w : Machine σ)
    (run : Except Failure Report × Machine σ) (f : Failure) : Prop where
  result : run.1 = .error f
  requests : requestsIn (w.eventsSince run.2) = List.replicate tries (r, .error f)
  waits : waitsIn (w.eventsSince run.2) = (List.range' 1 (tries - 1)).map o.backoff.backoff
  exchanges : exchangesIn (w.eventsSince run.2) = []
  net : run.2.net = w.net

/-- What becomes of a run whose request for day 1 the client refuses. -/
structure Exhausts (o : Options) (c : Credential) (w : Machine σ)
    (run : Except Failure Report × Machine σ) : Prop where
  /-- Without the output directory it does not come to a request. -/
  unopened : ∀ cause, (w.disk.makeDirectories o.outputDir).1 = .error cause →
    FailsUnheard o (request o c 1) 0 w run (.outputDirectory o.outputDir cause)
  /-- With it, all tries are used up. -/
  exhausted : (w.disk.makeDirectories o.outputDir).1 = .ok () → ∃ reason,
    FailsUnheard o (request o c 1) (o.retries + 1) w run (.transport (request o c 1).url reason)

/-- A view of the history that shows nothing of the log, of the output directory and of what is said. -/
structure Aside {β : Type} (view : Event → Option β) : Prop where
  log : ∀ entry, view (.log entry) = none
  directories : ∀ path x, view (.makeDirectories path x) = none
  print : ∀ line, view (.print line) = none

section Runs

variable {reply : Replier σ} {env : Environment} {config : Config} {args : Arguments}
  {w : Machine σ} {zone : Zone} {credential : Credential} {f : Failure}

theorem failsUnheard_of_views {o : Options} {r : Request} {tries : Nat}
    {run : Except Failure Report × Machine σ} (hresult : run.1 = .error f) (hnet : run.2.net = w.net)
    (hviews : ∀ {β : Type} {view : Event → Option β}, Aside view →
      (w.eventsSince run.2).filterMap view =
        (asking o 0 (List.replicate tries (unsent r f))).filterMap view) :
    FailsUnheard o r tries w run f where
  result := hresult
  requests := (hviews ⟨fun _ => rfl, fun _ _ => rfl, fun _ => rfl⟩).trans
    (requestsIn_asking_unsent o r f 0 tries)
  waits := (hviews ⟨fun _ => rfl, fun _ _ => rfl, fun _ => rfl⟩).trans
    (waitsIn_asking_unsent o r f 0 tries)
  exchanges := (hviews ⟨fun _ => rfl, fun _ _ => rfl, fun _ => rfl⟩).trans
    (exchangesIn_asking_unsent o r f 0 tries)
  net := hnet

theorem Unopened.failsUnheard {o : Options} {run : Except Failure Report × Machine σ}
    {cause : IoFault} (h : Unopened w run o.outputDir cause) (r : Request) :
    FailsUnheard o r 0 w run (.outputDirectory o.outputDir cause) := by
  obtain ⟨entries, hmachine⟩ := h.machine
  refine failsUnheard_of_views h.result (by rw [hmachine]; rfl) fun hview => ?_
  rw [hmachine, Machine.eventsSince_advance]
  simp [hview.log, hview.directories, asking]

/-- A run whose request for day 1 always fails in the same way before it is sent. -/
theorem Resolved.failsUnheard (h : Resolved env config args w zone credential)
    (hr : Puzzle.isReleased args.year (w.clock.today zone) 1 = true)
    (hm : (w.disk.makeDirectories (Options.ofArguments args).outputDir).1 = .ok ())
    (hf : f.isRetryable = true)
    (hreply : ∀ s, reply (request (Options.ofArguments args) credential 1) s =
      (unsent (request (Options.ofArguments args) credential 1) f, s)) :
    FailsUnheard (Options.ofArguments args) (request (Options.ofArguments args) credential 1)
      ((Options.ofArguments args).retries + 1) w
      ((run Machine.host (Machine.attach reply) env config args).run w) f := by
  obtain ⟨entries, visits, events, result, d', s', course, hrun⟩ := h.exists_course reply
  obtain ⟨rfl, rfl, rfl⟩ := course.of_stuck hr (Prod.ext hm rfl) hreply rfl hf
  rw [hrun]
  refine failsUnheard_of_views rfl rfl fun {β view} hview => ?_
  have hentries : (entries.map Event.log).filterMap view = [] := by
    simp [hview.log]
  have hprogress : (progress (Options.ofArguments args) 1).filterMap view = [] := by
    rw [List.filterMap_eq_nil_iff]
    intro e he
    obtain ⟨line, rfl⟩ := mem_progress he
    exact hview.print line
  rw [Machine.eventsSince_advance, List.filterMap_append, hentries, List.nil_append,
    course.filterMap_events (fun e => by simp [Machine.logging, hview.log]) hview.directories,
    List.flatMap_singleton, Visit.events, List.filterMap_append, hprogress]
  simp

/-- No try is spared for a request that cannot be sent. -/
theorem run_repeats_refused (decode : Http.Decoder) (serve : Http.Server σ)
    (h : Resolved env config args w zone credential)
    (hr : Puzzle.isReleased args.year (w.clock.today zone) 1 = true)
    (hrefused : Http.Refused (request (Options.ofArguments args) credential 1)) :
    let transport := Machine.recorded (Http.transport decode (Machine.wire serve))
    Exhausts (Options.ofArguments args) credential w
      ((run Machine.host transport env config args).run w) := by
  intro transport
  have htransport : transport = Machine.attach (Machine.noting (Machine.replies decode serve)) :=
    Machine.recorded_transport decode serve
  rw [htransport]
  obtain ⟨reason, hasked⟩ := hrefused.exists_asked
  refine ⟨fun cause hm => (h.unopened hr hm).failsUnheard _, fun hm => ⟨reason, ?_⟩⟩
  exact h.failsUnheard hr hm rfl fun s => Machine.noting_of_asked (hasked decode serve s)

/-- The first morning with a bell in the cookie file. -/
def bellInToken : Machine Unit :=
  (firstMorning ()).withDisk
    ((firstMorning ()).disk.insert ["home", "cookie"] (.file "to\x07k\n".toUTF8))

def bellArguments : Arguments :=
  { year := 2018, sessionFile := some ⟨"cookie"⟩, baseUrl := some "http://aoc.test",
    retries := some 2 }

theorem resolved_bellInToken :
    Resolved {} {} bellArguments bellInToken .here ⟨"to\x07k"⟩ where
  zone := by decide +kernel
  credential := by decide +kernel

theorem refused_bellInToken :
    Http.Refused (request (Options.ofArguments bellArguments) ⟨"to\x07k"⟩ 1) := by
  have hbell : Http.IsControl '\x07' := by
    unfold Http.IsControl
    decide
  exact .token (by decide) hbell

theorem released_bellInToken :
    Puzzle.isReleased bellArguments.year (bellInToken.clock.today .here) 1 = true := by
  decide +kernel

/-- The token with the bell is tried as often as a server that does not answer would be. -/
theorem run_repeats_refused_bellInToken :
    let o := Options.ofArguments bellArguments
    let transport := Machine.recorded
      (Http.transport Http.Reply.payload (Machine.wire fun _ s => (.error .disconnected, s)))
    Resolved {} {} bellArguments bellInToken .here ⟨"to\x07k"⟩ ∧
      Puzzle.isReleased bellArguments.year (bellInToken.clock.today .here) 1 = true ∧
      Http.Refused (request o ⟨"to\x07k"⟩ 1) ∧
      (bellInToken.disk.makeDirectories o.outputDir).1 = .ok () ∧
      Exhausts o ⟨"to\x07k"⟩ bellInToken
        ((run Machine.host transport {} {} bellArguments).run bellInToken) :=
  ⟨resolved_bellInToken, released_bellInToken, refused_bellInToken, by decide +kernel,
    run_repeats_refused _ _ resolved_bellInToken released_bellInToken refused_bellInToken⟩

/-- One try is not all that a refused request gets: here it gets three, with two pauses. -/
theorem refused_request_is_tried_again :
    let o := Options.ofArguments bellArguments
    let transport := Machine.recorded
      (Http.transport Http.Reply.payload (Machine.wire fun _ s => (.error .disconnected, s)))
    let ended := (run Machine.host transport {} {} bellArguments).run bellInToken
    Http.Refused (request o ⟨"to\x07k"⟩ 1) ∧
      (requestsIn (bellInToken.eventsSince ended.2)).length = 3 ∧
      (waitsIn (bellInToken.eventsSince ended.2)).map Pause.toNanos = [250000000, 500000000] ∧
      ¬ ∃ f, FailsUnheard o (request o ⟨"to\x07k"⟩ 1) 1 bellInToken ended f := by
  intro o transport ended
  have hthree : (requestsIn (bellInToken.eventsSince ended.2)).length = 3 := by decide +kernel
  refine ⟨refused_bellInToken, hthree, by decide +kernel, ?_⟩
  rintro ⟨f, hf⟩
  rw [hf.requests] at hthree
  cases hthree

end Runs

end Program

end PuzzleInputs
