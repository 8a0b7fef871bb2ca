import Mathlib
import PuzzleInputs.Proofs.Wire

/-!
# Redirects

`Leads message chain reply`: the exchanges from `message` along the redirects to the first reply that
is none. An answer with status 200 is the content of such a reply (`Asked.of_ok`), and a request whose
last reply has another status has no such answer (`Asked.not_ok`).
-/

namespace PuzzleInputs

/-- Whether the event is a message on the wire. -/
def Event.isExchange : Event → Bool
  | .exchange _ _ => true
  | _ => false

namespace Http

/-! ## Chains of redirects -/

/-- The exchanges from `message` along the redirects to the reply that is none. -/
inductive Leads : Message → List Event → Reply → Prop
  | there {message : Message} {reply : Reply} (final : isRedirect reply.status = false) :
      Leads message [.exchange message (.ok reply)] reply
  | onward {message next : Message} {reply last : Reply} {chain : List Event}
      (redirect : isRedirect reply.status = true) (onward : redirected message reply = .ok next)
      (rest : Leads next chain last) :
      Leads message (.exchange message (.ok reply) :: chain) last

/-- Without a redirect, the reply is the one to the message itself. -/
theorem Leads.eq_singleton {message : Message} {chain : List Event} {reply : Reply}
    (h : Leads message chain reply)
    (hnone : ∀ m x, .exchange m (.ok x) ∈ chain → isRedirect x.status = false) :
    chain = [.exchange message (.ok reply)] := by
  cases h with
  | there final => rfl
  | onward redirect onward rest =>
    rw [hnone _ _ List.mem_cons_self] at redirect
    cases redirect

variable {σ : Type} {serve : Server σ} {message : Message} {s s' : σ} {events : List Event}
  {left : Nat} {result : Except Fault Reply}

theorem map_framing_ok {reply reply' : Reply}
    (h : reply.framing.map (fun _ => reply) = .ok reply') : reply' = reply := by
  cases hf : reply.framing with
  | error e => rw [hf] at h; cases h
  | ok f =>
    rw [hf] at h
    exact (Except.ok.inj h).symm

theorem map_framing_error {reply : Reply} {e : Fault}
    (h : reply.framing.map (fun _ => reply) = .error e) : reply.framing = .error e := by
  cases hf : reply.framing with
  | error e' =>
    rw [hf] at h
    cases h
    rfl
  | ok f => rw [hf] at h; cases h

theorem Sent.eq_of_ok (h : Sent serve message s events result s') {reply : Reply}
    (hr : result = .ok reply) : events = [.exchange message (.ok reply)] := by
  cases h with
  | refused scheme => cases hr
  | lost scheme served => cases hr
  | replied scheme served => rw [map_framing_ok hr]

theorem Sent.of_ok {reply : Reply} (h : Sent serve message s events (.ok reply) s') :
    events = [.exchange message (.ok reply)] := h.eq_of_ok rfl

/-- A message that was answered and has no result has a body whose end cannot be told. -/
theorem Sent.framing_of_error (h : Sent serve message s events result s') {e : Fault}
    (hr : result = .error e) {m : Message} {reply : Reply}
    (hlast : events.getLast? = some (.exchange m (.ok reply))) : reply.framing = .error e := by
  cases h with
  | refused scheme => cases hlast
  | lost scheme served => cases hlast
  | replied scheme served =>
    cases hlast
    exact map_framing_error hr

theorem Sent.isExchange (h : Sent serve message s events result s') :
    ∀ e ∈ events, e.isExchange = true := by
  cases h with
  | refused scheme => simp
  | lost scheme served => simp [Event.isExchange]
  | replied scheme served => simp [Event.isExchange]

theorem Sent.served (h : Sent serve message s events result s') {m : Message} {reply : Reply}
    (hm : .exchange m (.ok reply) ∈ events) : ∃ t t', serve m t = (.ok reply, t') := by
  cases h with
  | refused scheme => cases hm
  | lost scheme served => cases List.mem_singleton.mp hm
  | replied scheme served =>
    cases List.mem_singleton.mp hm
    exact ⟨_, _, served⟩

theorem Exchanges.isExchange (h : Exchanges serve left message s events result s') :
    ∀ e ∈ events, e.isExchange = true := by
  induction h with
  | failed sent => exact sent.isExchange
  | answered sent final => exact sent.isExchange
  | stopped sent redirect => exact sent.isExchange
  | astray sent redirect nowhere => exact sent.isExchange
  | followed sent redirect onward rest ih =>
    intro e he
    rcases List.mem_append.mp he with he | he
    · exact sent.isExchange e he
    · exact ih e he

/-- Every reply on the wire is one of the server's. -/
theorem Exchanges.served (h : Exchanges serve left message s events result s') {m : Message}
    {reply : Reply} (hm : .exchange m (.ok reply) ∈ events) : ∃ t t', serve m t = (.ok reply, t') := by
  induction h with
  | failed sent => exact sent.served hm
  | answered sent final => exact sent.served hm
  | stopped sent redirect => exact sent.served hm
  | astray sent redirect nowhere => exact sent.served hm
  | followed sent redirect onward rest ih =>
    rcases List.mem_append.mp hm with hm | hm
    · exact sent.served hm
    · exact ih hm

theorem Exchanges.leads {reply : Reply}
    (h : Exchanges serve left message s events (.ok reply) s') : Leads message events reply := by
  generalize hr : (Except.ok reply : Except Fault Reply) = result at h
  induction h with
  | failed sent => cases hr
  | answered sent final =>
    cases hr
    rw [sent.of_ok]
    exact .there final
  | stopped sent redirect => cases hr
  | astray sent redirect nowhere => cases hr
  | followed sent redirect onward rest ih =>
    rw [sent.of_ok]
    exact .onward redirect onward (ih hr)

/-- Nothing is exchanged only if the address of the message says to nowhere. -/
theorem Exchanges.of_nil (h : Exchanges serve left message s [] result s') :
    ∃ e, result = .error e := by
  generalize he : ([] : List Event) = events at h
  cases h with
  | failed sent => exact ⟨_, rfl⟩
  | answered sent final => rw [sent.of_ok] at he; cases he
  | stopped sent redirect => exact ⟨_, rfl⟩
  | astray sent redirect nowhere => exact ⟨_, rfl⟩
  | followed sent redirect onward rest => rw [sent.of_ok] at he; cases he

/-- The last reply is the result, unless its body has no end that can be told, or it is one redirect
too many. -/
theorem Exchanges.last_reply (h : Exchanges serve left message s events result s') {m : Message}
    {reply : Reply} (hlast : events.getLast? = some (.exchange m (.ok reply))) :
    result = .ok reply ∨
      ∃ e, result = .error e ∧ (reply.framing = .error e ∨ isRedirect reply.status = true) := by
  induction h with
  | failed sent => exact .inr ⟨_, rfl, .inl (sent.framing_of_error rfl hlast)⟩
  | answered sent final =>
    rw [sent.of_ok] at hlast
    cases hlast
    exact .inl rfl
  | stopped sent redirect =>
    rw [sent.of_ok] at hlast
    cases hlast
    exact .inr ⟨_, rfl, .inr redirect⟩
  | astray sent redirect nowhere =>
    rw [sent.of_ok] at hlast
    cases hlast
    exact .inr ⟨_, rfl, .inr redirect⟩
  | @followed left message next s s' s'' events events' reply' result sent redirect onward rest ih =>
    rw [List.getLast?_append] at hlast
    cases hrest : events'.getLast? with
    | some e =>
      rw [hrest] at hlast
      exact ih (hrest.trans hlast)
    | none =>
      -- the redirect leads to an address that nothing can be sent to
      rw [hrest, sent.of_ok] at hlast
      cases hlast
      rw [List.getLast?_eq_none_iff] at hrest
      subst hrest
      obtain ⟨e, he⟩ := rest.of_nil
      exact .inr ⟨e, he, .inr redirect⟩

/-! ## Requests -/

variable {decode : Decoder} {r : Request} {answer : Answer}

theorem compose_ok (h : compose r = .ok message) :
    Uri.parse r.url = .ok message.uri ∧
      message.fields = [("Cookie", "session=" ++ r.token), ("User-Agent", r.userAgent)] := by
  unfold compose at h
  cases hp : Uri.parse r.url with
  | error e => rw [hp] at h; cases h
  | ok uri =>
    simp only [hp, Except.mapError, bind, Except.bind] at h
    split at h
    · cases h
    · cases h
      exact ⟨rfl, rfl⟩

theorem Asked.isExchange (h : Asked decode serve r s answer s') :
    ∀ e ∈ answer.noted, e.isExchange = true := by
  cases h with
  | unfit composed => simp
  | failed composed exchanges => exact exchanges.isExchange
  | received composed exchanges => exact exchanges.isExchange

theorem Asked.served (h : Asked decode serve r s answer s') {m : Message} {reply : Reply}
    (hm : .exchange m (.ok reply) ∈ answer.noted) : ∃ t t', serve m t = (.ok reply, t') := by
  cases h with
  | unfit composed => cases hm
  | failed composed exchanges => exact exchanges.served hm
  | received composed exchanges => exact exchanges.served hm

theorem receive_eq_ok {url : String} {reply : Reply} {body : ByteArray}
    (h : receive decode url reply = .ok ⟨200, body⟩) :
    reply.status = 200 ∧ reply.content decode = .ok body := by
  unfold receive at h
  by_cases hs : reply.status = 200
  · rw [if_pos hs] at h
    cases hp : reply.content decode with
    | error e => rw [hp] at h; cases h
    | ok bytes =>
      rw [hp] at h
      cases h
      exact ⟨hs, rfl⟩
  · rw [if_neg hs] at h
    exact absurd (congrArg Response.status (Except.ok.inj h)) hs

/-- An answer with status 200 comes from a reply with status 200 to which the address leads. -/
theorem Asked.of_ok {chain : List Event} {body : ByteArray}
    (h : Asked decode serve r s ⟨.ok ⟨200, body⟩, chain⟩ s') :
    ∃ message reply, Uri.parse r.url = .ok message.uri ∧ Leads message chain reply ∧
      reply.status = 200 ∧ reply.content decode = .ok body := by
  generalize ha : (⟨.ok ⟨200, body⟩, chain⟩ : Answer) = answer at h
  cases h with
  | unfit composed => cases ha
  | failed composed exchanges => cases ha
  | received composed exchanges =>
    obtain ⟨hreceive, rfl⟩ := Answer.mk.inj ha
    obtain ⟨hstatus, hcontent⟩ := receive_eq_ok hreceive.symm
    exact ⟨_, _, (compose_ok composed).1, exchanges.leads, hstatus, hcontent⟩

/-- The last reply decides the outcome, unless the request failed with it. -/
theorem Asked.last_reply (h : Asked decode serve r s answer s') {m : Message} {reply : Reply}
    (hlast : answer.noted.getLast? = some (.exchange m (.ok reply))) :
    answer.outcome = receive decode r.url reply ∨
      ∃ e, answer.outcome = .error (.transport r.url e.message) ∧
        (reply.framing = .error e ∨ isRedirect reply.status = true) := by
  cases h with
  | unfit composed => cases hlast
  | failed composed exchanges =>
    rcases exchanges.last_reply hlast with hr | ⟨e, hr, hwhy⟩
    · cases hr
    · cases hr
      exact .inr ⟨_, rfl, hwhy⟩
  | received composed exchanges =>
    rcases exchanges.last_reply hlast with hr | ⟨e, hr, -⟩
    · cases hr
      exact .inl rfl
    · cases hr

/-- A last reply with another status than 200 is no input. -/
theorem Asked.not_ok (h : Asked decode serve r s answer s') {m : Message} {reply : Reply}
    (hlast : answer.noted.getLast? = some (.exchange m (.ok reply))) (hstatus : reply.status ≠ 200)
    (body : ByteArray) : answer.outcome ≠ .ok ⟨200, body⟩ := by
  intro hok
  rcases h.last_reply hlast with hr | ⟨e, hr, -⟩
  · exact hstatus (receive_eq_ok (hr.symm.trans hok)).1
  · cases hr.symm.trans hok

end Http

end PuzzleInputs
