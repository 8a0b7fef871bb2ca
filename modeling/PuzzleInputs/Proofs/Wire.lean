import Mathlib
import PuzzleInputs.Proofs.Course

/-!
# The HTTP transport of a machine

All that the client can do over the wire of a machine, as derivations: `Sent` is one message with what
came of it, `Exchanges` the messages from the first one along the redirects, `Asked` a request for an
input. Each relates the state of `net` before and after, and what went into the history. The transport
does nothing else (`Asked.run_eq`, `exists_asked`), so its replies depend on the state of `net` alone
(`transport_eq_attach_replies`) and the laws of downloads hold of it.
-/

namespace PuzzleInputs

open Download (run_bind)

namespace Http

/-- What the servers at the other end of a wire make of a message. -/
abbrev Server (σ : Type) := Message → σ → Except Fault Reply × σ

variable {σ : Type} (decode : Decoder) (serve : Server σ)

/-- `Sent message s events result s'`: the message is sent, unless its address says to nowhere. -/
inductive Sent (message : Message) : σ → List Event → Except Fault Reply → σ → Prop
  | refused {s : σ} {e : Fault} (scheme : checkScheme message.uri = .error e) :
      Sent message s [] (.error e) s
  | lost {s s' : σ} {e : Fault} (scheme : checkScheme message.uri = .ok ())
      (served : serve message s = (.error e, s')) :
      Sent message s [.exchange message (.error e)] (.error e) s'
  | replied {s s' : σ} {reply : Reply} (scheme : checkScheme message.uri = .ok ())
      (served : serve message s = (.ok reply, s')) :
      Sent message s [.exchange message (.ok reply)] (reply.framing.map fun _ => reply) s'

/-- `Exchanges left message s events result s'`: the messages from this one on, each but the first
being what a redirect asks for, and `left` of them at most after the first. -/
inductive Exchanges : Nat → Message → σ → List Event → Except Fault Reply → σ → Prop
  | failed {left : Nat} {message : Message} {s s' : σ} {events : List Event} {e : Fault}
      (sent : Sent serve message s events (.error e) s') :
      Exchanges left message s events (.error e) s'
  | answered {left : Nat} {message : Message} {s s' : σ} {events : List Event} {reply : Reply}
      (sent : Sent serve message s events (.ok reply) s')
      (final : isRedirect reply.status = false) :
      Exchanges left message s events (.ok reply) s'
  | stopped {message : Message} {s s' : σ} {events : List Event} {reply : Reply}
      (sent : Sent serve message s events (.ok reply) s')
      (redirect : isRedirect reply.status = true) :
      Exchanges 0 message s events (.error .tooManyRedirects) s'
  | astray {left : Nat} {message : Message} {s s' : σ} {events : List Event} {reply : Reply}
      {e : Fault} (sent : Sent serve message s events (.ok reply) s')
      (redirect : isRedirect reply.status = true)
      (nowhere : redirected message reply = .error e) :
      Exchanges (left + 1) message s events (.error e) s'
  | followed {left : Nat} {message next : Message} {s s' s'' : σ} {events events' : List Event}
      {reply : Reply} {result : Except Fault Reply}
      (sent : Sent serve message s events (.ok reply) s')
      (redirect : isRedirect reply.status = true) (onward : redirected message reply = .ok next)
      (rest : Exchanges left next s' events' result s'') :
      Exchanges (left + 1) message s (events ++ events') result s''

/-- `Asked r s answer s'`: the request is made, as far as it can be put into a message. -/
inductive Asked (r : Request) : σ → Answer → σ → Prop
  | unfit {s : σ} {e : Fault} (composed : compose r = .error e) :
      Asked r s ⟨.error (.transport r.url e.message), []⟩ s
  | failed {s s' : σ} {message : Message} {events : List Event} {e : Fault}
      (composed : compose r = .ok message)
      (exchanges : Exchanges serve redirectLimit message s events (.error e) s') :
      Asked r s ⟨.error (.transport r.url e.message), events⟩ s'
  | received {s s' : σ} {message : Message} {events : List Event} {reply : Reply}
      (composed : compose r = .ok message)
      (exchanges : Exchanges serve redirectLimit message s events (.ok reply) s') :
      Asked r s ⟨receive decode r.url reply, events⟩ s'

end Http

/-! ## The transport does what is derived -/

namespace Http

variable {σ : Type} {decode : Decoder} {serve : Server σ}

theorem wire_run (message : Message) (w : Machine σ) :
    (Machine.wire serve message).run w =
      ((serve message w.net).1,
        w.advance [.exchange message (serve message w.net).1] w.disk (serve message w.net).2) :=
  congrArg (Prod.mk _) (Machine.record_eq_advance _ _)

theorem Sent.run_eq {message : Message} {s s' : σ} {events : List Event} {result : Except Fault Reply}
    (h : Sent serve message s events result s') (w : Machine σ) (hs : w.net = s) :
    (send (Machine.wire serve) message).run w = (result, w.advance events w.disk s') := by
  subst hs
  unfold send
  cases h with
  | refused scheme =>
    rw [scheme, Machine.advance_nil]
    rfl
  | lost scheme served =>
    rw [scheme]
    simp only
    rw [run_bind, wire_run, served]
    rfl
  | replied scheme served =>
    rw [scheme]
    simp only
    rw [run_bind, wire_run, served]
    rfl

theorem exists_sent (serve : Server σ) (message : Message) (s : σ) :
    ∃ events result s', Sent serve message s events result s' := by
  cases scheme : checkScheme message.uri with
  | error e => exact ⟨_, _, _, .refused scheme⟩
  | ok u =>
    rcases served : serve message s with ⟨outcome, s'⟩
    cases outcome with
    | error e => exact ⟨_, _, _, .lost scheme served⟩
    | ok reply => exact ⟨_, _, _, .replied scheme served⟩

theorem Exchanges.run_eq {left : Nat} {message : Message} {s s' : σ} {events : List Event}
    {result : Except Fault Reply} (h : Exchanges serve left message s events result s')
    (w : Machine σ) (hs : w.net = s) :
    (exchange (Machine.wire serve) left message).run w = (result, w.advance events w.disk s') := by
  induction h generalizing w with
  | @failed left message s s' events e sent =>
    cases left <;> rw [exchange, run_bind, sent.run_eq w hs] <;> rfl
  | @answered left message s s' events reply sent final =>
    cases left <;> rw [exchange, run_bind, sent.run_eq w hs] <;> simp only [final] <;> rfl
  | stopped sent redirect =>
    rw [exchange, run_bind, sent.run_eq w hs]
    simp only [redirect, if_true]
    rfl
  | astray sent redirect nowhere =>
    rw [exchange, run_bind, sent.run_eq w hs]
    simp only [redirect, if_true, nowhere]
    rfl
  | followed sent redirect onward rest ih =>
    rw [exchange, run_bind, sent.run_eq w hs]
    simp only [redirect, if_true, onward]
    rw [ih _ rfl, Machine.advance_advance, Machine.disk_advance]

theorem exists_exchanges (serve : Server σ) (left : Nat)
    (message : Message) (s : σ) :
    ∃ events result s', Exchanges serve left message s events result s' := by
  induction left generalizing message s with
  | zero =>
    obtain ⟨events, result, s', sent⟩ := exists_sent serve message s
    cases result with
    | error e => exact ⟨_, _, _, .failed sent⟩
    | ok reply =>
      cases redirect : isRedirect reply.status with
      | false => exact ⟨_, _, _, .answered sent redirect⟩
      | true => exact ⟨_, _, _, .stopped sent redirect⟩
  | succ left ih =>
    obtain ⟨events, result, s', sent⟩ := exists_sent serve message s
    cases result with
    | error e => exact ⟨_, _, _, .failed sent⟩
    | ok reply =>
      cases redirect : isRedirect reply.status with
      | false => exact ⟨_, _, _, .answered sent redirect⟩
      | true =>
        cases onward : redirected message reply with
        | error e => exact ⟨_, _, _, .astray sent redirect onward⟩
        | ok next =>
          obtain ⟨events', result, s'', rest⟩ := ih next s'
          exact ⟨_, _, _, .followed sent redirect onward rest⟩

theorem Asked.run_eq {r : Request} {s s' : σ} {answer : Answer} (h : Asked decode serve r s answer s')
    (w : Machine σ) (hs : w.net = s) :
    (transport decode (Machine.wire serve) r).run w =
      (answer.outcome, w.advance answer.noted w.disk s') := by
  unfold transport
  cases h with
  | unfit composed =>
    subst hs
    rw [composed, Machine.advance_nil]
    rfl
  | failed composed exchanges =>
    rw [composed]
    simp only
    rw [run_bind, exchanges.run_eq w hs]
    rfl
  | received composed exchanges =>
    rw [composed]
    simp only
    rw [run_bind, exchanges.run_eq w hs]
    rfl

theorem exists_asked (decode : Decoder) (serve : Server σ) (r : Request) (s : σ) :
    ∃ answer s', Asked decode serve r s answer s' := by
  cases composed : compose r with
  | error e => exact ⟨_, _, .unfit composed⟩
  | ok message =>
    obtain ⟨events, result, s', exchanges⟩ := exists_exchanges serve redirectLimit message s
    cases result with
    | error e => exact ⟨_, _, .failed composed exchanges⟩
    | ok reply => exact ⟨_, _, .received composed exchanges⟩

end Http

/-! ## Replies of the transport -/

namespace Machine

variable {σ : Type}

/-- The replies of the HTTP transport: what it does on a machine with nothing on it but this `net`. -/
def replies (decode : Http.Decoder) (serve : Http.Server σ) : Replier σ := fun r s =>
  let w : Machine σ := { disk := ⟨[], []⟩, clock := .epoch, net := s }
  let run := (Http.transport decode (wire serve) r).run w
  (⟨run.1, w.eventsSince run.2⟩, run.2.net)

theorem replies_eq {decode : Http.Decoder} {serve : Http.Server σ} {r : Request}
    {s s' : σ} {answer : Answer} (h : Http.Asked decode serve r s answer s') :
    replies decode serve r s = (answer, s') := by
  simp only [replies]
  rw [h.run_eq _ rfl, eventsSince_advance, net_advance]

/-- What the transport does is derived. -/
theorem asked_replies (decode : Http.Decoder) (serve : Http.Server σ) (r : Request)
    (s : σ) : Http.Asked decode serve r s (replies decode serve r s).1 (replies decode serve r s).2 := by
  obtain ⟨answer, s', h⟩ := Http.exists_asked decode serve r s
  rw [replies_eq h]
  exact h

theorem transport_eq_attach_replies (decode : Http.Decoder) (serve : Http.Server σ) :
    Http.transport decode (wire serve) = attach (replies decode serve) := by
  funext r w
  exact (asked_replies decode serve r w.net).run_eq w rfl

/-- The replies with each request written down after what they write down themselves. -/
def noting (reply : Replier σ) : Replier σ := fun r s =>
  (⟨(reply r s).1.outcome, (reply r s).1.noted ++ [.request r (reply r s).1.outcome]⟩, (reply r s).2)

theorem request_mem_noting (reply : Replier σ) (r : Request) (s : σ) :
    .request r (reply r s).1.outcome ∈ (noting reply r s).1.noted :=
  List.mem_append_right _ (List.mem_singleton.mpr rfl)

theorem recorded_attach (reply : Replier σ) : recorded (attach reply) = attach (noting reply) := by
  funext r w
  show (_, record _ _) = _
  rw [record_eq_advance]
  exact congrArg (Prod.mk _) (advance_advance _ _ _ _ _ _ _)

theorem recorded_transport (decode : Http.Decoder) (serve : Http.Server σ) :
    recorded (Http.transport decode (wire serve)) = attach (noting (replies decode serve)) := by
  rw [transport_eq_attach_replies, recorded_attach]

/-- The HTTP transport over the wire of a machine replies from the state of `net`. -/
theorem exists_reply_of_wire (decode : Http.Decoder) (serve : Http.Server σ) :
    ∃ reply, recorded (Http.transport decode (wire serve)) = attach (noting reply) :=
  ⟨replies decode serve, recorded_transport decode serve⟩

end Machine

end PuzzleInputs
