import Mathlib
import PuzzleInputs.Proofs.EventOrder
import PuzzleInputs.Proofs.Redirects

/-!
# The traffic of a download

The history of a download over the wire: each request stands right after the messages it took
(`Explained`), and a file right after the request that brought its bytes
(`Course.infix_of_written`).
-/

namespace PuzzleInputs

open Download

namespace Machine

variable {σ : Type} {decode : Http.Decoder} {serve : Http.Server σ}

/-- Each request is written down right after its exchanges. -/
theorem noting_replies {r : Request} {s s' : σ} {a : Answer}
    (h : noting (replies decode serve) r s = (a, s')) :
    ∃ chain, a.noted = chain ++ [.request r a.outcome] ∧
      Http.Asked decode serve r s ⟨a.outcome, chain⟩ s' := by
  cases h
  exact ⟨_, rfl, asked_replies decode serve r s⟩

theorem noting_of_asked {r : Request} {s s' : σ} {answer : Answer}
    (h : Http.Asked decode serve r s answer s') :
    noting (replies decode serve) r s =
      (⟨answer.outcome, answer.noted ++ [.request r answer.outcome]⟩, s') := by
  rw [noting, replies_eq h]

theorem requestsIn_of_isExchange {es : List Event} (h : ∀ e ∈ es, e.isExchange = true) :
    requestsIn es = [] := by
  rw [requestsIn, List.filterMap_eq_nil_iff]
  intro e he
  have hx := h e he
  cases e with
  | exchange message x => rfl
  | _ => cases hx

theorem recorded_noting_replies {logged : Log.Entry → List Event}
    (hlog : ∀ e, requestsIn (logged e) = []) : Recorded logged (noting (replies decode serve)) where
  log := hlog
  noted r s := by
    show requestsIn ((replies decode serve r s).1.noted ++ [_]) = _
    rw [requestsIn_append, requestsIn_of_isExchange (asked_replies decode serve r s).isExchange]
    rfl

end Machine

namespace Download

/-- Whether the event is a request or a message on the wire. -/
def isTraffic : Event → Bool
  | .request _ _ => true
  | .exchange _ _ => true
  | _ => false

/-- Every request in the list is one of those that are `asked`, and stands right after the messages it
took; no other message is on the wire. -/
inductive Explained {σ : Type} (decode : Http.Decoder) (serve : Http.Server σ)
    (asked : Request → Prop) : List Event → Prop
  | nil : Explained decode serve asked []
  | other {e : Event} {es : List Event} (notTraffic : isTraffic e = false)
      (rest : Explained decode serve asked es) : Explained decode serve asked (e :: es)
  | request {r : Request} {s s' : σ} {outcome : Except Failure Response} {chain es : List Event}
      (made : asked r) (took : Http.Asked decode serve r s ⟨outcome, chain⟩ s')
      (rest : Explained decode serve asked es) :
      Explained decode serve asked (chain ++ .request r outcome :: es)

section Explanation

variable {σ : Type} {decode : Http.Decoder} {serve : Http.Server σ} {asked : Request → Prop}
  {as bs es : List Event}

theorem Explained.append (ha : Explained decode serve asked as) (hb : Explained decode serve asked bs) :
    Explained decode serve asked (as ++ bs) := by
  induction ha with
  | nil => exact hb
  | other notTraffic rest ih => exact .other notTraffic ih
  | request made took rest ih =>
    rw [List.append_assoc, List.cons_append]
    exact .request made took ih

theorem explained_of_not_traffic (h : ∀ e ∈ es, isTraffic e = false) :
    Explained decode serve asked es := by
  induction es with
  | nil => exact .nil
  | cons e es ih =>
    exact .other (h e List.mem_cons_self) (ih fun x hx => h x (List.mem_cons_of_mem _ hx))

/-- A message on the wire is one of those that the request after it took. -/
theorem Explained.split_exchange (h : Explained decode serve asked es) {before after : List Event}
    {m : Http.Message} {x : Except Http.Fault Http.Reply}
    (hs : es = before ++ .exchange m x :: after) :
    ∃ rest chain chain' r outcome after' s s', before = rest ++ chain ∧
      after = chain' ++ .request r outcome :: after' ∧ asked r ∧
      Http.Asked decode serve r s ⟨outcome, chain ++ .exchange m x :: chain'⟩ s' := by
  induction h generalizing before with
  | nil => simp at hs
  | @other e es notTraffic rest ih =>
    rcases List.cons_eq_append_iff.mp hs with ⟨-, he⟩ | ⟨before', rfl, hs'⟩
    · cases he
      cases notTraffic
    · obtain ⟨rest', chain, chain', r, outcome, after', s, s', rfl, hafter, hasked⟩ := ih hs'
      exact ⟨e :: rest', chain, chain', r, outcome, after', s, s', rfl, hafter, hasked⟩
  | @request r s s' outcome chain es made took rest ih =>
    -- one of the messages of this request, or a later one
    rcases split_of_append_eq hs with ⟨chain', rfl, hafter⟩ | ⟨before', rfl, hs'⟩
    · exact ⟨[], before, chain', r, outcome, es, s, s', rfl, hafter, made, took⟩
    · rcases List.cons_eq_append_iff.mp hs' with ⟨-, he⟩ | ⟨before'', rfl, hrest⟩
      · cases he
      · obtain ⟨rest', chain₁, chain', r₁, outcome₁, after', t, t', rfl, hafter, hasked⟩ := ih hrest
        refine ⟨chain ++ .request r outcome :: rest', chain₁, chain', r₁, outcome₁, after', t, t', ?_,
          hafter, hasked⟩
        rw [List.append_assoc, List.cons_append]

/-- The message right before a request is the last one it took. -/
theorem Explained.last_exchange (h : Explained decode serve asked es) {before after : List Event}
    {m : Http.Message} {x : Except Http.Fault Http.Reply} {r : Request}
    {outcome : Except Failure Response}
    (hs : es = before ++ .exchange m x :: .request r outcome :: after) :
    asked r ∧ ∃ chain s s', Http.Asked decode serve r s ⟨outcome, chain⟩ s' ∧
      chain.getLast? = some (.exchange m x) := by
  obtain ⟨rest, chain, chain', r', outcome', after', s, s', -, hafter, hmade, htook⟩ :=
    h.split_exchange hs
  rcases List.cons_eq_append_iff.mp hafter with ⟨rfl, heq⟩ | ⟨chain'', rfl, -⟩
  · cases heq
    exact ⟨hmade, _, s, s', htook, List.getLast?_concat⟩
  · have hx : Event.isExchange (.request r outcome) = true := htook.isExchange _ (by simp)
    cases hx

theorem Explained.served (h : Explained decode serve asked es) {m : Http.Message} {reply : Http.Reply}
    (hm : .exchange m (.ok reply) ∈ es) : ∃ t t', serve m t = (.ok reply, t') := by
  obtain ⟨before, after, hs⟩ := List.append_of_mem hm
  obtain ⟨rest, chain, chain', r, outcome, after', s, s', -, -, -, htook⟩ := h.split_exchange hs
  exact htook.served (by simp)

/-- The log does not stand between a request and its messages. -/
theorem Explained.steps (h : Explained decode serve asked es) :
    Explained decode serve asked (steps es) := by
  induction h with
  | nil => exact .nil
  | @other e es notTraffic rest ih =>
    rw [PuzzleInputs.steps, List.filter_cons]
    split
    · exact .other notTraffic ih
    · exact ih
  | @request r s s' outcome chain es made took rest ih =>
    have hchain : PuzzleInputs.steps chain = chain := by
      rw [PuzzleInputs.steps, List.filter_eq_self]
      intro e he
      have hx := took.isExchange e he
      cases e with
      | log entry => cases hx
      | _ => rfl
    rw [steps_append, hchain]
    exact .request made took ih

end Explanation

section Courses

variable {σ : Type} {decode : Http.Decoder} {serve : Http.Server σ} {asked : Request → Prop}
  {logged : Log.Entry → List Event} {o : Options} {c : Credential} {today : Date}

theorem Tries.explained (hlog : ∀ entry, ∀ e ∈ logged entry, isTraffic e = false) {r : Request}
    (hr : asked r) {attempt left : Nat} {s s' : σ} {answers : List Answer} {events : List Event}
    {verdict : Except Failure ByteArray}
    (h : Tries logged (Machine.noting (Machine.replies decode serve)) o r attempt left s answers
      events verdict s') : Explained decode serve asked events := by
  induction h with
  | last got final =>
    obtain ⟨chain, hnoted, took⟩ := Machine.noting_replies got
    rw [hnoted]
    exact (explained_of_not_traffic (hlog _)).append (.request hr took .nil)
  | again got failed retryable rest ih =>
    obtain ⟨chain, hnoted, took⟩ := Machine.noting_replies got
    rw [hnoted]
    refine ((explained_of_not_traffic (hlog _)).append (.request hr took .nil)).append ?_
    exact (explained_of_not_traffic (hlog _)).append (.other rfl ih)

theorem explained_progress (o : Options) (day : Nat) :
    Explained decode serve asked (progress o day) := by
  refine explained_of_not_traffic fun e he => ?_
  obtain ⟨line, rfl⟩ := mem_progress he
  rfl

theorem Days.explained (hlog : ∀ entry, ∀ e ∈ logged entry, isTraffic e = false)
    {entries : List (Nat × Date)} {d d' : Disk} {s s' : σ} {visits : List Visit} {events : List Event}
    {result : Except Failure Report}
    (h : Days logged (Machine.noting (Machine.replies decode serve)) o c today entries d s visits
      events result d' s') (hr : ∀ e ∈ entries, asked (request o c e.1)) :
    Explained decode serve asked events := by
  induction h with
  | done => exact .nil
  | unreleased early => exact explained_of_not_traffic (hlog _)
  | refused out tries =>
    exact (explained_progress _ _).append (tries.explained hlog (hr _ List.mem_cons_self))
  | unwritten out tries failed =>
    refine (explained_progress _ _).append ?_
    exact (tries.explained hlog (hr _ List.mem_cons_self)).append (.other rfl .nil)
  | written out tries wrote days ih =>
    have hrest := ih fun e he => hr e (List.mem_cons_of_mem _ he)
    refine (explained_progress _ _).append ?_
    refine (tries.explained hlog (hr _ List.mem_cons_self)).append (.other rfl ?_)
    exact (explained_of_not_traffic (hlog _)).append hrest

/-- The requests that a download can make. -/
def ForDays (o : Options) (c : Credential) (r : Request) : Prop :=
  ∃ day ∈ Puzzle.days, r = request o c day

/-- All messages of a download are for its days. -/
theorem Course.explained (hlog : ∀ entry, ∀ e ∈ logged entry, isTraffic e = false)
    {d d' : Disk} {s s' : σ} {visits : List Visit} {events : List Event}
    {result : Except Failure Report}
    (h : Course logged (Machine.noting (Machine.replies decode serve)) o c today d s visits events
      result d' s') : Explained decode serve (ForDays o c) events := by
  have hasked : ∀ {entries}, Puzzle.schedule o.year = .ok entries →
      ∀ e ∈ entries, ForDays o c (request o c e.1) := fun hs e he =>
    ⟨e.1, Puzzle.mem_days_of_schedule hs e he, rfl⟩
  cases h with
  | noSchedule schedule => exact .nil
  | noDirectory schedule out failed => exact .other rfl .nil
  | begun schedule out made days => exact .other rfl (days.explained hlog (hasked schedule))
  | early schedule notOut days => exact days.explained hlog (hasked schedule)

end Courses

theorem mem_asking {attempt : Nat} {answers : List Answer} {e : Event} {o : Options}
    (h : e ∈ asking o attempt answers) :
    (∃ a ∈ answers, e ∈ a.noted) ∨ ∃ pause, e = .wait pause := by
  induction answers generalizing attempt with
  | nil => cases h
  | cons a answers ih =>
    by_cases hrest : answers = []
    · subst hrest
      exact .inl ⟨a, List.mem_singleton_self a, h⟩
    · rw [asking_cons hrest] at h
      rcases List.mem_append.mp h with h | h
      · exact .inl ⟨a, List.mem_cons_self, h⟩
      · rcases List.mem_cons.mp h with rfl | h
        · exact .inr ⟨_, rfl⟩
        · rcases ih h with ⟨b, hb, he⟩ | hwait
          · exact .inl ⟨b, List.mem_cons_of_mem _ hb, he⟩
          · exact .inr hwait

/-- The requests of a day end with the last answer. -/
theorem suffix_asking {o : Options} {attempt : Nat} {answers : List Answer} {a : Answer}
    (h : answers.getLast? = some a) : a.noted <:+ asking o attempt answers := by
  induction answers generalizing attempt with
  | nil => cases h
  | cons b answers ih =>
    by_cases hrest : answers = []
    · subst hrest
      cases h
      exact List.suffix_rfl
    · rw [List.getLast?_cons_of_ne_nil hrest] at h
      rw [asking_cons hrest]
      exact ((ih h).trans (List.suffix_cons _ _)).trans (List.suffix_append _ _)

section Wire

variable {σ : Type} {decode : Http.Decoder} {serve : Http.Server σ} {o : Options} {c : Credential}
  {today : Date} {d d' : Disk} {s s' : σ} {visits : List Visit} {events : List Event}
  {result : Except Failure Report}

/-- A visit whose answers came over the wire. -/
def Visit.Wired (decode : Http.Decoder) (serve : Http.Server σ) (o : Options) (c : Credential)
    (v : Visit) : Prop :=
  ∀ a ∈ v.answers, ∃ chain t t', a.noted = chain ++ [.request (request o c v.day) a.outcome] ∧
    Http.Asked decode serve (request o c v.day) t ⟨a.outcome, chain⟩ t'

variable {v : Visit}

theorem Visit.Wired.isTraffic (h : v.Wired decode serve o c) {a : Answer} (ha : a ∈ v.answers)
    {e : Event} (he : e ∈ a.noted) : isTraffic e = true := by
  obtain ⟨chain, t, t', hnoted, hasked⟩ := h a ha
  rw [hnoted, List.mem_append, List.mem_singleton] at he
  rcases he with he | rfl
  · have hx := hasked.isExchange e he
    cases e with
    | exchange message x => rfl
    | _ => cases hx
  · rfl

/-- All that can happen at a visit, the log aside. -/
theorem Visit.mem_events {e : Event} (he : e ∈ v.events o) :
    (∃ line, e = .print line) ∨ (∃ a ∈ v.answers, e ∈ a.noted) ∨ (∃ pause, e = .wait pause) ∨
      ∃ x, v.written = some x ∧ e = .write (file o v.day) x.1 x.2 := by
  unfold Visit.events at he
  rcases List.mem_append.mp he with he | he
  · exact .inl (mem_progress he)
  rcases List.mem_append.mp he with he | he
  · exact .inr ((mem_asking he).imp_right .inl)
  · refine .inr (.inr (.inr ?_))
    cases hw : v.written with
    | none => rw [hw] at he; cases he
    | some x =>
      rw [hw] at he
      exact ⟨x, rfl, List.mem_singleton.mp he⟩

theorem Visit.Wired.write_mem (h : v.Wired decode serve o c) {path : Path} {body : ByteArray}
    {x : Except IoFault Unit} (hm : .write path body x ∈ v.events o) :
    path = file o v.day ∧ v.written = some (body, x) := by
  rcases v.mem_events hm with ⟨line, he⟩ | ⟨a, ha, he⟩ | ⟨pause, he⟩ | ⟨y, hw, he⟩
  · cases he
  · cases h.isTraffic ha he
  · cases he
  · cases he
    exact ⟨rfl, hw⟩

theorem Visit.Wired.steps_events (h : v.Wired decode serve o c) : steps (v.events o) = v.events o := by
  rw [steps, List.filter_eq_self]
  intro e hm
  rcases v.mem_events hm with ⟨line, rfl⟩ | ⟨a, ha, he⟩ | ⟨pause, rfl⟩ | ⟨y, hw, rfl⟩
  · rfl
  · have ht := h.isTraffic ha he
    cases e with
    | log entry => cases ht
    | _ => rfl
  · rfl
  · rfl

theorem Course.wired {logged : Log.Entry → List Event}
    (h : Course logged (Machine.noting (Machine.replies decode serve)) o c today d s visits events result
      d' s') (hv : v ∈ visits) : v.Wired decode serve o c := by
  intro a ha
  obtain ⟨t, t', ht⟩ := h.replied hv a ha
  obtain ⟨chain, hnoted, hasked⟩ := Machine.noting_replies ht
  exact ⟨chain, t, t', hnoted, hasked⟩

/-- The steps of a download over the wire are those of its visits, after the output directory. -/
theorem Course.steps_eq
    (h : Course Machine.logging (Machine.noting (Machine.replies decode serve)) o c today d s visits
      events result d' s') :
    ∃ made, steps events = opening o today made ++ visits.flatMap (Visit.events o) := by
  have hvisits : steps (visits.flatMap (Visit.events o)) = visits.flatMap (Visit.events o) := by
    rw [steps, List.filter_flatMap]
    exact List.flatMap_congr fun v hv => (h.wired hv).steps_events
  have hdays : ∀ {entries d₁ events'},
      Days Machine.logging (Machine.noting (Machine.replies decode serve)) o c today entries d₁ s
        visits events' result d' s' →
      steps events' = visits.flatMap (Visit.events o) := by
    intro entries d₁ events' days
    rw [← hvisits, steps, steps, ← List.filterMap_eq_filter]
    exact days.filterMap_events fun e => rfl
  cases h with
  | noSchedule schedule =>
    exact ⟨.ok (), by simp [opening, Puzzle.isReleased_of_no_schedule schedule]⟩
  | noDirectory schedule out failed =>
    rw [Puzzle.head_schedule schedule] at out
    exact ⟨(d.makeDirectories o.outputDir).1, by simp [opening, out, failed]⟩
  | begun schedule out made days =>
    rw [Puzzle.head_schedule schedule] at out
    exact ⟨.ok (), by simp [opening, out, hdays days]⟩
  | early schedule notOut days =>
    rw [Puzzle.head_schedule schedule] at notOut
    exact ⟨.ok (), by simp [opening, notOut, hdays days]⟩

theorem Course.explained_steps
    (h : Course Machine.logging (Machine.noting (Machine.replies decode serve)) o c today d s visits
      events result d' s') :
    Explained decode serve (ForDays o c) (steps events) := by
  refine (h.explained fun entry e he => ?_).steps
  rw [List.mem_singleton.mp he]
  rfl

/-- What is written at a visit is the body of its last answer. -/
theorem Course.outcome_of_written {logged : Log.Entry → List Event} {reply : Replier σ}
    (h : Course logged reply o c today d s visits events result d' s') (hv : v ∈ visits)
    {body : ByteArray} {x : Except IoFault Unit} (hw : v.written = some (body, x)) :
    v.outcomes.getLast? = some (.ok ⟨200, body⟩) := by
  have hdelivers : ∀ bytes, v.Delivers bytes → v.outcomes.getLast? = some (.ok ⟨200, body⟩) := by
    intro bytes hb
    cases hw.symm.trans hb.written
    exact hb.outcome
  cases result with
  | ok report =>
    obtain ⟨-, -, hall, -⟩ := h.of_ok
    obtain ⟨bytes, hb⟩ := hall v hv
    exact hdelivers bytes hb
  | error e =>
    rcases h.of_error with rfl | ⟨init, u, rfl, hall, hfail⟩
    · cases hv
    · rcases List.mem_append.mp hv with hv | hv
      · obtain ⟨bytes, hb⟩ := hall v hv
        exact hdelivers bytes hb
      · -- a visit that fails after all writes only if it is the disk that fails
        rw [List.mem_singleton.mp hv] at hw ⊢
        obtain ⟨outcome, hlast, ⟨hnone, -⟩ | ⟨bytes, cause, hsome, hok, -⟩⟩ := hfail
        · rw [hw] at hnone; cases hnone
        · cases hw.symm.trans hsome
          rw [hlast, hok]

/-- What is written at a visit stands right after the request that brought it. -/
theorem Course.infix_of_written
    (h : Course Machine.logging (Machine.noting (Machine.replies decode serve)) o c today d s visits
      events result d' s') (hv : v ∈ visits) {body : ByteArray} {x : Except IoFault Unit}
    (hw : v.written = some (body, x)) :
    ∃ chain t t',
      chain ++ [.request (request o c v.day) (.ok ⟨200, body⟩), .write (file o v.day) body x] <:+:
        steps events ∧
      Http.Asked decode serve (request o c v.day) t ⟨.ok ⟨200, body⟩, chain⟩ t' := by
  obtain ⟨made, hsteps⟩ := h.steps_eq
  obtain ⟨a, ha, haout⟩ : ∃ a, v.answers.getLast? = some a ∧ a.outcome = .ok ⟨200, body⟩ := by
    have hlast := h.outcome_of_written hv hw
    rw [Visit.outcomes, List.getLast?_map] at hlast
    exact Option.map_eq_some_iff.mp hlast
  obtain ⟨chain, t, t', hnoted, hasked⟩ := h.wired hv a (List.mem_of_getLast? ha)
  rw [haout] at hnoted hasked
  refine ⟨chain, t, t', ?_, hasked⟩
  have hend : a.noted ++ [.write (file o v.day) body x] <:+ v.events o := by
    obtain ⟨before, hbefore⟩ := (suffix_asking ha).trans (List.suffix_append (progress o v.day) _)
    refine ⟨before, ?_⟩
    rw [Visit.events, hw, ← List.append_assoc, hbefore, ← List.append_assoc]
    rfl
  rw [hnoted, List.append_assoc] at hend
  have hvisit : v.events o <:+: visits.flatMap (Visit.events o) :=
    List.infix_of_mem_flatten (List.mem_map_of_mem hv)
  rw [hsteps]
  exact (hend.isInfix.trans hvisit).trans (List.suffix_append _ _).isInfix

theorem Course.visit_of_write
    (h : Course Machine.logging (Machine.noting (Machine.replies decode serve)) o c today d s visits
      events result d' s') {path : Path} {body : ByteArray} {x : Except IoFault Unit}
    (hm : .write path body x ∈ steps events) :
    ∃ v ∈ visits, path = file o v.day ∧ v.written = some (body, x) := by
  obtain ⟨made, hsteps⟩ := h.steps_eq
  rw [hsteps] at hm
  obtain ⟨v, hv, hmv⟩ : ∃ v ∈ visits, .write path body x ∈ v.events o := by
    rcases List.mem_append.mp hm with hm | hm
    · cases mem_opening hm
    · exact List.mem_flatMap.mp hm
  obtain ⟨hpath, hw⟩ := (h.wired hv).write_mem hmv
  exact ⟨v, hv, hpath, hw⟩

theorem steps_flatMap_logging (entries : List Log.Entry) :
    steps (entries.flatMap Machine.logging) = [] := by
  rw [steps, List.filter_flatMap, List.flatMap_eq_nil_iff]
  exact fun e _ => rfl

end Wire

end Download

namespace Program

/-- A run over the wire fails before it does anything, or its steps are those of a download. -/
theorem run_steps {σ : Type} (decode : Http.Decoder) (serve : Http.Server σ) (env : Environment)
    (config : Config) (args : Arguments) (w : Machine σ) :
    let run := (run Machine.host (Machine.recorded (Http.transport decode (Machine.wire serve))) env
      config args).run w
    (∃ e, run.1 = .error e ∧ run.2.disk = w.disk ∧ steps (w.eventsSince run.2) = []) ∨
      ∃ c today visits events s',
        Course Machine.logging (Machine.noting (Machine.replies decode serve))
          (Options.ofArguments args) c today w.disk w.net visits events run.1 run.2.disk s' ∧
        steps (w.eventsSince run.2) = steps events := by
  intro run
  simp only [run, Machine.host_eq_hostLogging, Machine.recorded_transport]
  rcases run_course Machine.logging (Machine.noting (Machine.replies decode serve)) env config args
    w with
    ⟨entries, e, hrun⟩ | ⟨entries, zone, c, visits, events, result, d', s', -, -, course, hrun⟩
  · refine .inl ⟨e, ?_⟩
    rw [hrun, Machine.eventsSince_advance, steps_flatMap_logging]
    exact ⟨rfl, rfl, rfl⟩
  · refine .inr ⟨c, w.clock.today zone, visits, events, s', ?_⟩
    rw [hrun, Machine.eventsSince_advance, steps_append, steps_flatMap_logging]
    exact ⟨course, rfl⟩

end Program

end PuzzleInputs
