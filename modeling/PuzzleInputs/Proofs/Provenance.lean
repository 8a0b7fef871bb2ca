import Mathlib
import PuzzleInputs.Proofs.Traffic

/-!
# Where the bytes of a file come from

What a run writes for a day is the body of a reply with status 200 to which the address of the day
leads, along redirects if need be; what came in an encoding has been through the decoder. Where the last
request for a day leads to another status, nothing is written for the day and the run fails
(`run_sourced`). Only if nothing is redirected is it the address of the day itself that gave the body: a
page to which that address is redirected is taken for the input (`login_page_is_written`).
-/

namespace PuzzleInputs

namespace Download

open Http (Message Reply Leads Uri isRedirect)

/-- The last request to an address has the last of the outcomes there. -/
theorem getLast?_outcomesOf {es before after : List Event} {r : Request}
    {outcome : Except Failure Response} (hs : es = before ++ .request r outcome :: after)
    (hlast : ∀ q ∈ requestsIn after, q.1.url ≠ r.url) :
    (outcomesOf r.url es).getLast? = some outcome := by
  have hafter : (requestsIn after).filter (fun p => p.1.url = r.url) = [] := by
    rw [List.filter_eq_nil_iff]
    intro q hq
    simpa using hlast q hq
  rw [hs, outcomesOf, requestsIn_append, requestsIn_request, List.filter_append,
    List.filter_cons_of_pos (by simp), hafter, List.map_append]
  exact List.getLast?_concat

/-- Whatever is written for a day was the body of a reply with status 200 to its own address. -/
def OwnReplies (decode : Http.Decoder) (o : Options) (es : List Event) : Prop :=
  ∀ day ∈ Puzzle.days, ∀ body x, .write (file o day) body x ∈ es →
    ∃ message reply, .exchange message (.ok reply) ∈ es ∧
      Uri.parse (Puzzle.address o.baseUrl o.year day) = .ok message.uri ∧
      reply.status = 200 ∧ reply.content decode = .ok body

/-- The steps of a download with this result, by where the bytes of its files come from. -/
structure Sourced (decode : Http.Decoder) (o : Options) (result : Except Failure Report)
    (es : List Event) : Prop where
  /-- Every file is that of a day and is written right after the exchanges that led from the address
  of the day to its bytes. -/
  written : ∀ path body x, .write path body x ∈ es →
    ∃ day ∈ Puzzle.days, path = file o day ∧ ∃ r message chain reply,
      r.url = Puzzle.address o.baseUrl o.year day ∧ Uri.parse r.url = .ok message.uri ∧
      Leads message chain reply ∧ reply.status = 200 ∧ reply.content decode = .ok body ∧
      chain ++ [.request r (.ok ⟨200, body⟩), .write path body x] <:+: es
  own : (∀ message reply, .exchange message (.ok reply) ∈ es → isRedirect reply.status = false) →
    OwnReplies decode o es
  /-- A day whose last request ends with a reply of another status has no file from this run. -/
  refused : ∀ day before message reply r outcome after,
    es = before ++ .exchange message (.ok reply) :: .request r outcome :: after →
    r.url = Puzzle.address o.baseUrl o.year day →
    (∀ q ∈ requestsIn after, q.1.url ≠ r.url) → reply.status ≠ 200 →
    (∃ e, result = .error e) ∧ ∀ body x, .write (file o day) body x ∉ es

section Courses

variable {σ : Type} {decode : Http.Decoder} {serve : Http.Server σ} {o : Options} {c : Credential}
  {today : Date} {d d' : Disk} {s s' : σ} {visits : List Visit} {events : List Event}
  {result : Except Failure Report}

theorem Course.visit_of_request {logged : Log.Entry → List Event} {reply : Replier σ}
    (h : Course logged reply o c today d s visits events result d' s') (hr : Recorded logged reply)
    {r : Request} {outcome : Except Failure Response} (hm : .request r outcome ∈ events) :
    ∃ v ∈ visits, r = request o c v.day := by
  have hq : (r, outcome) ∈ requestsIn events := mem_requestsIn.mpr hm
  rw [h.requestsIn_eq hr] at hq
  obtain ⟨v, hv, hqv⟩ := List.mem_flatMap.mp hq
  obtain ⟨x, -, hx⟩ := List.mem_map.mp hqv
  exact ⟨v, hv, (congrArg Prod.fst hx).symm⟩

theorem Course.visit_of_outcome {logged : Log.Entry → List Event} {reply : Replier σ}
    (h : Course logged reply o c today d s visits events result d' s') (hr : Recorded logged reply)
    {day : Nat} {outcome : Except Failure Response}
    (hm : outcome ∈ PuzzleInputs.outcomesOf (Puzzle.address o.baseUrl o.year day) events) :
    ∃ v ∈ visits, v.day = day := by
  obtain ⟨q, hq, -⟩ := List.mem_map.mp hm
  obtain ⟨hq, hurl⟩ := List.mem_filter.mp hq
  obtain ⟨v, hv, hrequest⟩ := h.visit_of_request hr (mem_requestsIn.mp hq)
  have haddress : Puzzle.address o.baseUrl o.year v.day = Puzzle.address o.baseUrl o.year day := by
    rw [← of_decide_eq_true hurl, hrequest]
    rfl
  exact ⟨v, hv, Puzzle.address_inj haddress⟩

theorem mem_of_mem_steps {e : Event} {es : List Event} (h : e ∈ steps es) : e ∈ es :=
  (List.mem_filter.mp h).1

theorem Course.written_sourced
    (h : Course Machine.logging (Machine.noting (Machine.replies decode serve)) o c today d s visits
      events result d' s') {path : Path} {body : ByteArray} {x : Except IoFault Unit}
    (hm : .write path body x ∈ steps events) :
    ∃ day ∈ Puzzle.days, path = file o day ∧ ∃ r message chain reply,
      r.url = Puzzle.address o.baseUrl o.year day ∧ Uri.parse r.url = .ok message.uri ∧
      Leads message chain reply ∧ reply.status = 200 ∧ reply.content decode = .ok body ∧
      chain ++ [.request r (.ok ⟨200, body⟩), .write path body x] <:+: steps events := by
  obtain ⟨v, hv, rfl, hw⟩ := h.visit_of_write hm
  obtain ⟨chain, t, t', hinfix, hasked⟩ := h.infix_of_written hv hw
  obtain ⟨message, reply, huri, hleads, hstatus, hcontent⟩ := hasked.of_ok
  exact ⟨v.day, (h.mem_days hv).1, rfl, request o c v.day, message, chain, reply, rfl, huri, hleads,
    hstatus, hcontent, hinfix⟩

theorem Course.ownReplies
    (h : Course Machine.logging (Machine.noting (Machine.replies decode serve)) o c today d s visits
      events result d' s')
    (hnone : ∀ message reply, .exchange message (.ok reply) ∈ steps events →
      isRedirect reply.status = false) : OwnReplies decode o (steps events) := by
  intro day hday body x hm
  obtain ⟨day', hday', hfile, r, message, chain, reply, hurl, huri, hleads, hstatus, hcontent,
    hinfix⟩ := h.written_sourced hm
  obtain rfl := file_inj hday hday' hfile
  have hchain : ∀ e ∈ chain, e ∈ steps events := fun e he =>
    hinfix.subset (List.mem_append_left _ he)
  have heq := hleads.eq_singleton fun m reply' he => hnone m reply' (hchain _ he)
  refine ⟨message, reply, hchain _ ?_, hurl ▸ huri, hstatus, hcontent⟩
  rw [heq]
  exact List.mem_singleton_self _

/-- The last request for a day decides about its file. -/
theorem Course.refused
    (h : Course Machine.logging (Machine.noting (Machine.replies decode serve)) o c today d s visits
      events result d' s') {day : Nat} {before after : List Event} {message : Message} {reply : Reply}
    {r : Request} {outcome : Except Failure Response}
    (hs : steps events = before ++ .exchange message (.ok reply) :: .request r outcome :: after)
    (hurl : r.url = Puzzle.address o.baseUrl o.year day)
    (hlast : ∀ q ∈ requestsIn after, q.1.url ≠ r.url) (hstatus : reply.status ≠ 200) :
    (∃ e, result = .error e) ∧ ∀ body x, .write (file o day) body x ∉ steps events := by
  have hrecorded : Recorded Machine.logging (Machine.noting (Machine.replies decode serve)) :=
    Machine.recorded_noting_replies fun _ => rfl
  obtain ⟨v, hv, hr⟩ := h.visit_of_request hrecorded
    (mem_of_mem_steps (e := .request r outcome) (by rw [hs]; simp))
  obtain rfl : v.day = day := Puzzle.address_inj (hr ▸ hurl)
  have hno : ∀ body, outcome ≠ .ok ⟨200, body⟩ := by
    obtain ⟨-, chain, t, t', hasked, hchain⟩ := h.explained_steps.last_exchange hs
    exact hasked.not_ok hchain hstatus
  have hdecides : v.outcomes.getLast? = some outcome := by
    rw [← h.outcomesOf_eq hrecorded hv, ← hurl, ← outcomesOf_steps]
    exact getLast?_outcomesOf (hs.trans (List.append_cons ..)) hlast
  constructor
  · cases result with
    | error e => exact ⟨e, rfl⟩
    | ok report =>
      obtain ⟨-, -, hall, -⟩ := h.of_ok
      obtain ⟨body, hb⟩ := hall v hv
      exact absurd (Option.some.inj (hdecides.symm.trans hb.outcome)) (hno body)
  · intro body x hm
    obtain ⟨u, hu, hfile, hw⟩ := h.visit_of_write hm
    have hday : v.day = u.day := file_inj (h.mem_days hv).1 (h.mem_days hu).1 hfile
    have hbody := h.outcome_of_written hu hw
    rw [← h.outcomesOf_eq hrecorded hu, ← hday, h.outcomesOf_eq hrecorded hv, hdecides] at hbody
    exact hno body (Option.some.inj hbody)

theorem Course.sourced
    (h : Course Machine.logging (Machine.noting (Machine.replies decode serve)) o c today d s visits
      events result d' s') : Sourced decode o result (steps events) where
  written _ _ _ hm := h.written_sourced hm
  own := h.ownReplies
  refused _ _ _ _ _ _ _ hs hurl hlast hstatus := h.refused hs hurl hlast hstatus

theorem sourced_nil (decode : Http.Decoder) (o : Options) (e : Failure) :
    Sourced decode o (.error e) [] where
  written _ _ _ hm := by cases hm
  own _ _ _ _ _ hm := by cases hm
  refused _ _ _ _ _ _ _ hs := by simp at hs

end Courses

end Download

namespace Program

open Download Http

/-- All that a run writes is the body of a reply with status 200 that the address of its day led to. -/
theorem run_sourced {σ : Type} (decode : Decoder) (serve : Server σ) (env : Environment)
    (config : Config) (args : Arguments) (w : Machine σ) :
    let run := (run Machine.host (Machine.recorded (transport decode (Machine.wire serve))) env config
      args).run w
    Sourced decode (Options.ofArguments args) run.1 (steps (w.eventsSince run.2)) := by
  intro run
  rcases run_steps decode serve env config args w with
    ⟨e, hresult, -, hsteps⟩ | ⟨c, today, visits, events, s', course, hsteps⟩
  · rw [hsteps, hresult]
    exact sourced_nil _ _ _
  · rw [hsteps]
    exact course.sourced

/-- A server that sends everyone to its login page. -/
def loginFirst : Server Unit := fun message s =>
  if message.uri.target = "/login" then (.ok ⟨200, [], "Log in to get your input".toUTF8⟩, s)
  else (.ok ⟨302, [("Location", "/login")], ByteArray.empty⟩, s)

/-- The steps of a run against that server. -/
def loggedOutSteps : List Event :=
  let w := firstMorning ()
  let transport := Machine.recorded (transport Reply.payload (Machine.wire loginFirst))
  let args : Arguments :=
    { year := 2018, sessionFile := some ⟨"cookie"⟩, baseUrl := some "http://aoc.test" }
  let run := (run Machine.host transport {} {} args).run w
  steps (w.eventsSince run.2)

/-- Whether the event puts these bytes into the file. -/
def isWriteOf (path : Path) (bytes : List UInt8) : Event → Bool
  | .write p body (.ok ()) => decide (p = path) && decide (body.data.toList = bytes)
  | _ => false

/-- Whether the event is no reply with status 200 from the address. -/
def isNoInputFrom (url : String) : Event → Bool
  | .exchange message (.ok reply) =>
    decide (reply.status ≠ 200) || decide (Uri.parse url ≠ .ok message.uri)
  | _ => true

/-- The login page is written as the input of day 1, whose own address answered with a redirect. -/
theorem login_page_is_written :
    let o := Options.ofArguments { year := 2018, baseUrl := some "http://aoc.test" }
    loggedOutSteps.any (isWriteOf (file o 1) "Log in to get your input".toUTF8.data.toList) = true ∧
      ¬ OwnReplies Reply.payload o loggedOutSteps := by
  intro o
  have hwrite : loggedOutSteps.any
      (isWriteOf (file o 1) "Log in to get your input".toUTF8.data.toList) = true := by
    decide +kernel
  have hnone : loggedOutSteps.all (isNoInputFrom (Puzzle.address o.baseUrl o.year 1)) = true := by
    decide +kernel
  refine ⟨hwrite, fun hown => ?_⟩
  obtain ⟨e, hmem, he⟩ := List.any_eq_true.mp hwrite
  obtain ⟨body, x, rfl⟩ : ∃ body x, e = .write (file o 1) body x := by
    unfold isWriteOf at he
    split at he
    · rw [Bool.and_eq_true, decide_eq_true_eq] at he
      rw [he.1]
      exact ⟨_, _, rfl⟩
    · cases he
  obtain ⟨message, reply, hexchange, huri, hstatus, -⟩ :=
    hown 1 (Puzzle.mem_days.mpr ⟨by decide, by decide⟩) body x hmem
  have hno := List.all_eq_true.mp hnone _ hexchange
  simp [isNoInputFrom, huri, hstatus] at hno

end Program

end PuzzleInputs
