import Mathlib
import PuzzleInputs.Proofs.Extension
import PuzzleInputs.Proofs.Retries

/-!
# How often a day is asked for

The outcomes of the requests come one after the other off a stream. A day is asked for until an outcome
is final (`IsFinal`) or the further tries are used up; `DecidesAt` says which outcome that is. What is
asked, waited for, left on the stream and returned follows from its place (`fetchDay_persists`).
-/

namespace PuzzleInputs.Download

/-- The failure that an outcome amounts to: its own, or a status other than 200. -/
inductive FailsWith (url : String) : Except Failure Response → Failure → Prop
  | own (e : Failure) : FailsWith url (.error e) e
  | status {code : Nat} (body : ByteArray) (other : code ≠ 200) :
      FailsWith url (.ok ⟨code, body⟩) (.status url code)

/-- A failure of the network or of the server, which may be over at the next try. -/
inductive Passing : Failure → Prop
  | transport (url reason : String) : Passing (.transport url reason)
  | body (url reason : String) : Passing (.body url reason)
  | server (url : String) {code : Nat} (h : 500 ≤ code) : Passing (.status url code)

/-- No further try is made after the outcome: it has an input, or a failure that does not pass. -/
def IsFinal (url : String) (outcome : Except Failure Response) : Prop :=
  (∃ body, outcome = .ok ⟨200, body⟩) ∨ ∃ e, FailsWith url outcome e ∧ ¬ Passing e

/-- The outcome number `i` of the stream decides: the first final one, if there is one among the
`retries + 1` outcomes that may be asked for, else the last of these. -/
structure DecidesAt (url : String) (s : Outcomes) (retries i : Nat) : Prop where
  of_final : (∃ k ≤ retries, IsFinal url (s.get k)) →
    IsLeast {k | k ≤ retries ∧ IsFinal url (s.get k)} i
  of_none : (¬ ∃ k ≤ retries, IsFinal url (s.get k)) → i = retries

/-! ## Final outcomes -/

theorem failsWith_iff {url : String} {outcome : Except Failure Response} {e : Failure} :
    FailsWith url outcome e ↔ accept url outcome = .error e := by
  constructor
  · intro h
    cases h with
    | own e => rfl
    | status body other => exact if_neg other
  · intro h
    cases outcome with
    | error e' =>
      cases h
      exact .own e
    | ok response =>
      obtain ⟨code, body⟩ := response
      by_cases hcode : code = 200
      · simp [accept, hcode] at h
      · simp only [accept, hcode, if_false, Except.error.injEq] at h
        subst h
        exact .status body hcode

theorem passing_iff {e : Failure} : Passing e ↔ e.isRetryable = true := by
  constructor
  · intro h
    cases h with
    | transport url reason => rfl
    | body url reason => rfl
    | server url h => exact decide_eq_true h
  · intro h
    cases e with
    | transport url reason => exact .transport url reason
    | body url reason => exact .body url reason
    | status url code => exact .server url (of_decide_eq_true h)
    | _ => cases h

theorem isFinal_iff {url : String} {outcome : Except Failure Response} :
    IsFinal url outcome ↔ isRetryable outcome = false := by
  rw [← Bool.not_eq_true, isRetryable_iff url]
  constructor
  · rintro (⟨body, rfl⟩ | ⟨e, hfails, hpassing⟩) ⟨e', haccept, hretry⟩
    · cases haccept
    · cases (failsWith_iff.mp hfails).symm.trans haccept
      exact hpassing (passing_iff.mpr hretry)
  · intro h
    cases haccept : accept url outcome with
    | ok body => exact .inl ⟨body, accept_ok haccept⟩
    | error e =>
      refine .inr ⟨e, failsWith_iff.mpr haccept, fun hpassing => h ?_⟩
      exact ⟨e, haccept, passing_iff.mp hpassing⟩

theorem decidesAt_of {url : String} {s : Outcomes} {retries i : Nat} (hle : i ≤ retries)
    (hbefore : ∀ k < i, ¬ IsFinal url (s.get k)) (hlast : i = retries ∨ IsFinal url (s.get i)) :
    DecidesAt url s retries i where
  of_final := by
    rintro ⟨k, hk, hfinal⟩
    have hleast : ∀ j, IsFinal url (s.get j) → i ≤ j := by
      intro j hj
      by_contra hlt
      exact hbefore j (by omega) hj
    refine ⟨⟨hle, ?_⟩, fun j hj => hleast j hj.2⟩
    rcases hlast with rfl | hi
    · rwa [Nat.le_antisymm (hleast k hfinal) hk]
    · exact hi
  of_none hnone := hlast.resolve_right fun hi => hnone ⟨i, hle, hi⟩

/-! ## The tries, one after the other -/

/-- After `attempt` tries, with `left` to spare beyond the next, the outcomes of the stream up to
number `i` were asked for, and that one gave the verdict. -/
structure TriedUpTo (o : Options) (r : Request) (attempt left : Nat) (s : Outcomes) (i : Nat)
    (events : List Event) (verdict : Except Failure ByteArray) (s' : Outcomes) : Prop where
  le : i ≤ left
  before : ∀ k < i, isRetryable (s.get k) = true
  last : i = left ∨ isRetryable (s.get i) = false
  verdict : verdict = accept r.url (s.get i)
  rest : s' = s.drop (i + 1)
  requests : requestsIn events = (List.range (i + 1)).map fun k => (r, s.get k)
  waits : waitsIn events = (List.range' (attempt + 1) i).map o.backoff.backoff
  entries : ∀ entry, Event.log entry ∈ events →
    (∃ k, attempt ≤ k ∧ k ≤ attempt + i ∧ entry = askEntry r k) ∨
      ∃ k e, attempt < k ∧ k ≤ attempt + i ∧ entry = retryEntry o e k

section Tries

variable {o : Options} {r : Request} {attempt left i : Nat} {s s' : Outcomes} {events : List Event}
  {verdict : Except Failure ByteArray}

/-- The first outcome decides. -/
theorem triedUpTo_zero (final : left = 0 ∨ isRetryable s.head = false) :
    TriedUpTo o r attempt left s 0
      (Machine.logging (askEntry r attempt) ++ [.request r s.head]) (accept r.url s.head) s.tail where
  le := Nat.zero_le left
  before := nofun
  last := final.imp_left Eq.symm
  verdict := rfl
  rest := rfl
  requests := rfl
  waits := rfl
  entries entry he := by
    simp only [Machine.logging, List.singleton_append, List.mem_cons, Event.log.injEq, reduceCtorEq,
      List.not_mem_nil, or_false] at he
    exact .inl ⟨attempt, Nat.le_refl _, Nat.le_refl _, he⟩

/-- One more try before those on the rest of the stream. -/
theorem TriedUpTo.again {e : Failure} (hretry : isRetryable s.head = true)
    (h : TriedUpTo o r (attempt + 1) left s.tail i events verdict s') :
    TriedUpTo o r attempt (left + 1) s (i + 1)
      (Machine.logging (askEntry r attempt) ++ [.request r s.head] ++
        (Machine.logging (retryEntry o e (attempt + 1)) ++
          .wait (o.backoff.backoff (attempt + 1)) :: events)) verdict s' where
  le := Nat.succ_le_succ h.le
  before k hk := by
    cases k with
    | zero => exact hretry
    | succ k => exact h.before k (Nat.lt_of_succ_lt_succ hk)
  last := h.last.imp_left (congrArg Nat.succ)
  verdict := h.verdict
  rest := h.rest
  requests := by
    rw [List.range_succ_eq_map, List.map_cons, List.map_map]
    exact congrArg ((r, s.head) :: ·) h.requests
  waits := by
    rw [List.range'_succ, List.map_cons]
    exact congrArg (o.backoff.backoff (attempt + 1) :: ·) h.waits
  entries entry he := by
    simp only [Machine.logging, List.cons_append, List.nil_append, List.mem_cons, Event.log.injEq,
      reduceCtorEq, false_or] at he
    rcases he with rfl | rfl | he
    · exact .inl ⟨attempt, Nat.le_refl _, by omega, rfl⟩
    · exact .inr ⟨attempt + 1, e, by omega, by omega, rfl⟩
    · rcases h.entries entry he with ⟨k, hmin, hmax, rfl⟩ | ⟨k, e, hmin, hmax, rfl⟩
      · exact .inl ⟨k, by omega, by omega, rfl⟩
      · exact .inr ⟨k, e, by omega, by omega, rfl⟩

theorem Tries.exists_triedUpTo {answers : List Answer}
    (h : Tries Machine.logging (Machine.recording inTurn) o r attempt left s answers events verdict s') :
    ∃ i, TriedUpTo o r attempt left s i events verdict s' := by
  induction h with
  | last asked final =>
    cases asked
    exact ⟨0, triedUpTo_zero final⟩
  | again asked failed retryable rest ih =>
    cases asked
    obtain ⟨i, hi⟩ := ih
    exact ⟨i + 1, hi.again ((isRetryable_iff r.url _).mpr ⟨_, failed, retryable⟩)⟩

end Tries

/-! ## A day -/

/-- The run asked for the outcomes of the stream up to number `i`, and returned what this one is. -/
structure Persists (o : Options) (r : Request) (w : Machine Outcomes) (i : Nat)
    (run : Except Failure ByteArray × Machine Outcomes) : Prop where
  /-- The same request each time, once for each outcome. -/
  requests : requestsIn (w.eventsSince run.2) = (List.range (i + 1)).map fun k => (r, w.net.get k)
  /-- The pauses grow with the tries. -/
  waits : waitsIn (w.eventsSince run.2) = (List.range' 1 i).map o.backoff.backoff
  /-- The outcomes after it are still on the stream. -/
  unread : run.2.net = w.net.drop (i + 1)
  input : ∀ body, w.net.get i = .ok ⟨200, body⟩ → run.1 = .ok body
  failure : ∀ e, FailsWith r.url (w.net.get i) e → run.1 = .error e
  within : i ≤ o.retries
  /-- The log counts no further than to the number of retries. -/
  counted : ∀ entry, Event.log entry ∈ w.eventsSince run.2 →
    (∃ k ≤ o.retries, entry = askEntry r k) ∨
      ∃ k e, 1 ≤ k ∧ k ≤ o.retries ∧ entry = retryEntry o e k

theorem TriedUpTo.persists {o : Options} {r : Request} {w : Machine Outcomes} {i : Nat}
    {events : List Event} {verdict : Except Failure ByteArray} {s' : Outcomes}
    (h : TriedUpTo o r 0 o.retries w.net i events verdict s') :
    Persists o r w i (verdict, w.advance events w.disk s') := by
  have hle := h.le
  refine ⟨?_, ?_, h.rest, fun body hbody => ?_, fun e he => ?_, hle, fun entry he => ?_⟩
  · rw [Machine.eventsSince_advance, h.requests]
  · rw [Machine.eventsSince_advance, h.waits]
  · rw [h.verdict, hbody]
    rfl
  · rw [h.verdict, failsWith_iff.mp he]
  · rw [Machine.eventsSince_advance] at he
    rcases h.entries entry he with ⟨k, -, hmax, rfl⟩ | ⟨k, e, hmin, hmax, rfl⟩
    · exact .inl ⟨k, by omega, rfl⟩
    · exact .inr ⟨k, e, by omega, by omega, rfl⟩

/-- A day is asked for up to the outcome that decides, and no further. -/
theorem fetchDay_persists (o : Options) (r : Request) (w : Machine Outcomes) :
    ∃ i, DecidesAt r.url w.net o.retries i ∧
      Persists o r w i ((fetchDay Machine.host (Machine.transport inTurn) o r).run w) := by
  obtain ⟨answers, events, verdict, s', tries⟩ :=
    exists_tries Machine.logging (Machine.recording inTurn) o r 0 o.retries w.net
  have hrun := tries.run_eq w rfl
  rw [← Machine.host_eq_hostLogging, ← Machine.transport_eq_attach] at hrun
  obtain ⟨i, hi⟩ := tries.exists_triedUpTo
  refine ⟨i, decidesAt_of hi.le (fun k hk => ?_) (hi.last.imp_right isFinal_iff.mpr), ?_⟩
  · rw [isFinal_iff, hi.before k hk]
    exact Bool.noConfusion
  · rw [fetchDay, hrun]
    exact hi.persists

-- two of three failures of the server are tried again, and the third is the result
example :
    let run := (fetchDay Machine.host (Machine.transport inTurn) (withRetries trialOptions 2)
      ⟨"u", "tok", "ua"⟩).run (trialMachine (Stream'.const (.ok ⟨503, "".toUTF8⟩)))
    run.1.toOption = none ∧ (requestsIn run.2.history.toList).length = 3 ∧
      (waitsIn run.2.history.toList).map Pause.toNanos = [250000000, 500000000] := by
  decide +kernel

end PuzzleInputs.Download
