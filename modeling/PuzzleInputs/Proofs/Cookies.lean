import Mathlib
import PuzzleInputs.Proofs.Parallel
import PuzzleInputs.Proofs.Traffic

/-!
# Where the cookie goes

The message that a request begins with carries the session cookie, once and as it is; the messages that
follow a redirect carry none (`CookieSent`, `Explained.cookieSent`). To a server that does not look at
cookies, requests with two different tokens are the same, and so are the downloads that make them
(`parallel_tokens`).
-/

namespace PuzzleInputs

namespace Http

/-! ## The cookie of a message -/

theorem redirected_fields {sent next : Message} {reply : Reply} (h : redirected sent reply = .ok next) :
    next.fields = sent.fields.filter fun f => f.1 != "Cookie" := by
  unfold redirected at h
  cases hp : reply.payload with
  | error e => rw [hp] at h; cases h
  | ok body =>
    simp only [hp, bind, Except.bind] at h
    split at h
    · cases h
    · split at h
      · cases h
      · cases h
        rfl

variable {σ : Type} {decode : Decoder} {serve : Server σ} {message : Message} {s s' : σ}
  {events : List Event} {result : Except Fault Reply} {left : Nat}

theorem Sent.eq_message (h : Sent serve message s events result s') {chain chain' : List Event}
    {m : Message} {x : Except Fault Reply} (hs : events = chain ++ .exchange m x :: chain') :
    chain = [] ∧ m = message := by
  cases h with
  | refused scheme => simp at hs
  | lost scheme served =>
    rcases List.cons_eq_append_iff.mp hs with ⟨rfl, heq⟩ | ⟨rest, -, hnil⟩
    · cases heq
      exact ⟨rfl, rfl⟩
    · simp at hnil
  | replied scheme served =>
    rcases List.cons_eq_append_iff.mp hs with ⟨rfl, heq⟩ | ⟨rest, -, hnil⟩
    · cases heq
      exact ⟨rfl, rfl⟩
    · simp at hnil

/-- A message is the first one, or follows a redirect and leaves out the cookie of the first one. -/
theorem Exchanges.split (h : Exchanges serve left message s events result s')
    {chain chain' : List Event} {m : Message} {x : Except Fault Reply}
    (hs : events = chain ++ .exchange m x :: chain') :
    (chain = [] ∧ m = message) ∨
      ((∃ init m' reply, chain = init ++ [.exchange m' (.ok reply)] ∧
        isRedirect reply.status = true ∧ redirected m' reply = .ok m) ∧
        m.fields = message.fields.filter fun f => f.1 != "Cookie") := by
  induction h generalizing chain with
  | failed sent => exact .inl (sent.eq_message hs)
  | answered sent final => exact .inl (sent.eq_message hs)
  | stopped sent redirect => exact .inl (sent.eq_message hs)
  | astray sent redirect nowhere => exact .inl (sent.eq_message hs)
  | @followed left message next s s' s'' events events' reply result sent redirect onward rest ih =>
    rw [sent.of_ok] at hs
    rcases List.cons_eq_append_iff.mp hs with ⟨rfl, heq⟩ | ⟨chain₁, rfl, hrest⟩
    · cases heq
      exact .inl ⟨rfl, rfl⟩
    · refine .inr ?_
      rcases ih hrest with ⟨rfl, rfl⟩ | ⟨⟨init, m', reply', rfl, hredirect, honward⟩, hfields⟩
      · exact ⟨⟨[], message, reply, rfl, redirect, onward⟩, redirected_fields onward⟩
      · refine ⟨⟨_ :: init, m', reply', rfl, hredirect, honward⟩, ?_⟩
        rw [hfields, redirected_fields onward, List.filter_filter]
        simp

theorem Asked.split {r : Request} {answer : Answer} (h : Asked decode serve r s answer s')
    {chain chain' : List Event} {m : Message} {x : Except Fault Reply}
    (hs : answer.noted = chain ++ .exchange m x :: chain') :
    ∃ first, compose r = .ok first ∧ ((chain = [] ∧ m = first) ∨
      ((∃ init m' reply, chain = init ++ [.exchange m' (.ok reply)] ∧
        isRedirect reply.status = true ∧ redirected m' reply = .ok m) ∧
        m.fields = first.fields.filter fun f => f.1 != "Cookie")) := by
  cases h with
  | unfit composed => simp at hs
  | failed composed exchanges => exact ⟨_, composed, exchanges.split hs⟩
  | received composed exchanges => exact ⟨_, composed, exchanges.split hs⟩

end Http

namespace Download

open Http (Message Reply Uri isRedirect redirected)

/-- Each message is for a day and carries the token as its only cookie, or follows a redirect and
carries no cookie. -/
def CookieSent (o : Options) (token : String) (es : List Event) : Prop :=
  ∀ before m x after, es = before ++ .exchange m x :: after →
    (m.fields.getAll "cookie" = ["session=" ++ token] ∧
      ∃ day ∈ Puzzle.days, Uri.parse (Puzzle.address o.baseUrl o.year day) = .ok m.uri) ∨
    (m.fields.getAll "cookie" = [] ∧
      ∃ init m' reply, before = init ++ [.exchange m' (.ok reply)] ∧
        isRedirect reply.status = true ∧ redirected m' reply = .ok m)

theorem Explained.cookieSent {σ : Type} {decode : Http.Decoder} {serve : Http.Server σ}
    {o : Options} {c : Credential} {es : List Event} (h : Explained decode serve (ForDays o c) es) :
    CookieSent o c.token es := by
  intro before m x after hs
  obtain ⟨rest, chain, chain', r, outcome, after', s, s', rfl, -, ⟨day, hday, rfl⟩, took⟩ :=
    h.split_exchange hs
  obtain ⟨first, composed, hcase⟩ := took.split rfl
  obtain ⟨huri, hfields⟩ := Http.compose_ok composed
  rcases hcase with ⟨rfl, rfl⟩ | ⟨⟨init, m', reply, rfl, hredirect, honward⟩, hm⟩
  · refine .inl ⟨?_, day, hday, huri⟩
    rw [hfields]
    rfl
  · refine .inr ⟨?_, rest ++ init, m', reply, (List.append_assoc ..).symm, hredirect, honward⟩
    rw [hm, hfields]
    rfl

end Download

/-! ## Servers that do not look at cookies -/

namespace Http

/-- The message without its cookies. -/
def Message.withoutCookie (m : Message) : Message :=
  { m with fields := m.fields.filter fun f => !sameAsciiLetters f.1 "cookie" }

/-- The server answers all the same with another cookie. -/
def Server.IgnoresCookies {σ : Type} (serve : Server σ) : Prop :=
  ∀ m m' s, m.withoutCookie = m'.withoutCookie → serve m s = serve m' s

end Http

/-- The event without the session token. -/
def Event.redact : Event → Event
  | .request r outcome => .request { r with token := "" } outcome
  | .exchange message outcome => .exchange message.withoutCookie outcome
  | e => e

namespace Http

variable {σ : Type} {decode : Decoder} {serve : Server σ} {m m' : Message} {s s' : σ}
  {events : List Event} {result : Except Fault Reply} {left : Nat}

/-- The messages differ by their session cookies at most. -/
structure SameButCookie (m m' : Message) : Prop where
  uri : m'.uri = m.uri
  fields : m'.fields.filter (fun f => f.1 != "Cookie") = m.fields.filter fun f => f.1 != "Cookie"

theorem SameButCookie.withoutCookie (h : SameButCookie m m') : m'.withoutCookie = m.withoutCookie := by
  have hdrop : ∀ fields : Fields, fields.filter (fun f => !sameAsciiLetters f.1 "cookie") =
      (fields.filter fun f => f.1 != "Cookie").filter fun f => !sameAsciiLetters f.1 "cookie" := by
    intro fields
    rw [List.filter_filter]
    refine List.filter_congr fun f _ => ?_
    by_cases hf : f.1 = "Cookie"
    · rw [hf]
      decide
    · simp [hf]
  rw [Message.withoutCookie, Message.withoutCookie, h.uri, hdrop m.fields, hdrop m'.fields, h.fields]

theorem SameButCookie.redirected (h : SameButCookie m m') (reply : Reply) :
    redirected m' reply = redirected m reply := by
  unfold Http.redirected
  rw [h.uri, h.fields]

theorem Sent.recookied (h : Sent serve m s events result s') (hserve : serve.IgnoresCookies)
    (hm : SameButCookie m m') :
    ∃ events', Sent serve m' s events' result s' ∧
      events'.map Event.redact = events.map Event.redact := by
  have hsame := hserve m' m s hm.withoutCookie
  cases h with
  | refused scheme => exact ⟨_, .refused (by rw [hm.uri, scheme]), rfl⟩
  | lost scheme served =>
    refine ⟨_, .lost (by rw [hm.uri, scheme]) (hsame.trans served), ?_⟩
    simp only [List.map_cons, Event.redact, hm.withoutCookie, List.map_nil]
  | replied scheme served =>
    refine ⟨_, .replied (by rw [hm.uri, scheme]) (hsame.trans served), ?_⟩
    simp only [List.map_cons, Event.redact, hm.withoutCookie, List.map_nil]

/-- After the first message the two go the same way. -/
theorem Exchanges.recookied (h : Exchanges serve left m s events result s')
    (hserve : serve.IgnoresCookies) (hm : SameButCookie m m') :
    ∃ events', Exchanges serve left m' s events' result s' ∧
      events'.map Event.redact = events.map Event.redact := by
  cases h with
  | failed sent =>
    obtain ⟨events', sent', hevents⟩ := sent.recookied hserve hm
    exact ⟨events', .failed sent', hevents⟩
  | answered sent final =>
    obtain ⟨events', sent', hevents⟩ := sent.recookied hserve hm
    exact ⟨events', .answered sent' final, hevents⟩
  | stopped sent redirect =>
    obtain ⟨events', sent', hevents⟩ := sent.recookied hserve hm
    exact ⟨events', .stopped sent' redirect, hevents⟩
  | astray sent redirect nowhere =>
    obtain ⟨events', sent', hevents⟩ := sent.recookied hserve hm
    exact ⟨events', .astray sent' redirect (by rw [hm.redirected, nowhere]), hevents⟩
  | followed sent redirect onward rest =>
    obtain ⟨events', sent', hevents⟩ := sent.recookied hserve hm
    -- no cookie goes along with a redirect, so the next message is the same
    refine ⟨_, .followed sent' redirect (by rw [hm.redirected, onward]) rest, ?_⟩
    rw [List.map_append, List.map_append, hevents]

/-- Requests that differ by tokens that can both be sent become messages that differ by cookies, or
neither can be sent. -/
theorem compose_withToken {r r' : Request} (hurl : r'.url = r.url)
    (hagent : r'.userAgent = r.userAgent) (hfit : isFieldValue ("session=" ++ r.token) = true)
    (hfit' : isFieldValue ("session=" ++ r'.token) = true) :
    (∃ e, compose r = .error e ∧ compose r' = .error e) ∨
      ∃ m m', compose r = .ok m ∧ compose r' = .ok m' ∧ SameButCookie m m' := by
  unfold compose
  simp only [hurl, hagent, hfit, hfit', Bool.not_true, Bool.false_or]
  cases Uri.parse r.url with
  | error e => exact .inl ⟨.address e, rfl, rfl⟩
  | ok uri =>
    cases isFieldValue r.userAgent with
    | false => exact .inl ⟨.headerValue, rfl, rfl⟩
    | true => exact .inr ⟨_, _, rfl, rfl, rfl, rfl⟩

theorem Asked.recookied {r : Request} {answer : Answer} (h : Asked decode serve r s answer s')
    (r' : Request) (hserve : serve.IgnoresCookies) (hurl : r'.url = r.url)
    (hagent : r'.userAgent = r.userAgent)
    (hfit : isFieldValue ("session=" ++ r.token) = true)
    (hfit' : isFieldValue ("session=" ++ r'.token) = true) :
    ∃ answer', Asked decode serve r' s answer' s' ∧ answer'.outcome = answer.outcome ∧
      answer'.noted.map Event.redact = answer.noted.map Event.redact := by
  rcases compose_withToken hurl hagent hfit hfit' with ⟨e, he, he'⟩ | ⟨m, m', hm, hm', hsame⟩
  · cases h with
    | unfit composed =>
      cases composed.symm.trans he
      refine ⟨_, .unfit he', ?_, rfl⟩
      rw [hurl]
    | failed composed exchanges => cases composed.symm.trans he
    | received composed exchanges => cases composed.symm.trans he
  · cases h with
    | unfit composed => cases composed.symm.trans hm
    | failed composed exchanges =>
      cases composed.symm.trans hm
      obtain ⟨events', exchanges', hevents⟩ := exchanges.recookied hserve hsame
      refine ⟨_, .failed hm' exchanges', ?_, hevents⟩
      rw [hurl]
    | received composed exchanges =>
      cases composed.symm.trans hm
      obtain ⟨events', exchanges', hevents⟩ := exchanges.recookied hserve hsame
      refine ⟨_, .received hm' exchanges', ?_, hevents⟩
      rw [hurl]

end Http

namespace Download

/-- Downloads with two tokens are the same but for the tokens. -/
theorem parallel_tokens {σ : Type} {decode : Http.Decoder} {serve : Http.Server σ}
    (hserve : serve.IgnoresCookies) (o : Options) {c c' : Credential}
    (hfit : Http.isFieldValue ("session=" ++ c.token) = true)
    (hfit' : Http.isFieldValue ("session=" ++ c'.token) = true) :
    Parallel (fun e => some e.redact) o o.quiet c c' (Machine.noting (Machine.replies decode serve))
      (Machine.noting (Machine.replies decode serve)) where
  progress _ := rfl
  asked day t a t' h := by
    obtain ⟨chain, hnoted, hasked⟩ := Machine.noting_replies h
    have hagain := hasked.recookied (request o c' day) hserve rfl rfl hfit hfit'
    obtain ⟨answer, hasked', houtcome, hevents⟩ := hagain
    refine ⟨_, Machine.noting_of_asked hasked', houtcome, ?_⟩
    rw [List.filterMap_eq_map', hnoted, List.map_append, List.map_append, hevents, houtcome]
    rfl

end Download

end PuzzleInputs
