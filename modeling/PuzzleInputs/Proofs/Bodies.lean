import Mathlib
import PuzzleInputs.Proofs.Parallel
import PuzzleInputs.Proofs.Provenance

/-!
# Whole bodies

A server that gives plain replies redirects nothing and sends its bodies as they are. Whatever it says,
each file that a run leaves on the disk was there before or is the whole body of a reply with status 200
to the day's own address. A reply cut off before its declared length is a failure that is worth another
try, and what is in a reply with another status does not matter (`run_leaves_whole_bodies`).

The disk is a `Disk`, which has no links and on which a write can only fail to open its file. So no two
days have one file, and a write that fails leaves no part of a body behind.
-/

namespace PuzzleInputs

namespace Http

/-! ## Plain replies -/

/-- A final reply that sends nobody elsewhere, with its body as it is. -/
structure Reply.IsPlain (reply : Reply) : Prop where
  final : 200 ≤ reply.status
  direct : isRedirect reply.status = false
  transfer : reply.fields.get? "transfer-encoding" = none
  content : reply.fields.get? "content-encoding" = none

/-- The reply says that its body has `n` bytes. -/
def Reply.Declares (reply : Reply) (n : Nat) : Prop :=
  (reply.fields.get? "content-length").map (Decimal.readNat Word.max64) = some (.ok n)

/-- The whole body of a plain reply: as many bytes as it declares, or else all up to the close. -/
inductive Reply.Whole (reply : Reply) : ByteArray → Prop
  | declared {n : Nat} (length : reply.Declares n) (enough : n ≤ reply.bytes.size) :
      Whole reply (reply.bytes.extract 0 n)
  | undeclared (none : reply.fields.get? "content-length" = none) : Whole reply reply.bytes

variable {reply : Reply} {body : ByteArray} {n : Nat}

theorem Reply.IsPlain.isChunked (h : reply.IsPlain) : reply.isChunked = false := by
  rw [Reply.isChunked, h.transfer]

theorem Reply.IsPlain.framing_declared (h : reply.IsPlain) (hn : reply.Declares n) :
    reply.framing = .ok (.length n) := by
  rw [Reply.framing, hn, h.isChunked]
  rfl

theorem Reply.IsPlain.whole (h : reply.IsPlain) (hp : reply.payload = .ok body) :
    reply.Whole body := by
  unfold Reply.payload at hp
  cases hlength : reply.fields.get? "content-length" with
  | none =>
    have hframing : reply.framing = .ok .close := by
      rw [Reply.framing, hlength, h.isChunked]
      rfl
    rw [hframing] at hp
    cases hp
    exact .undeclared hlength
  | some text =>
    cases hread : Decimal.readNat Word.max64 text with
    | error e =>
      have hframing : reply.framing = .error .contentLength := by
        rw [Reply.framing, hlength, Option.map_some, hread]
      rw [hframing] at hp
      cases hp
    | ok n =>
      have hn : reply.Declares n := by rw [Reply.Declares, hlength, Option.map_some, hread]
      rw [h.framing_declared hn] at hp
      simp only [bind, Except.bind] at hp
      split at hp
      · cases hp
        exact .declared hn (by assumption)
      · cases hp

theorem Reply.IsPlain.payload_of_cut (h : reply.IsPlain) (hn : reply.Declares n)
    (hcut : reply.bytes.size < n) : reply.payload = .error .disconnected := by
  rw [Reply.payload, h.framing_declared hn]
  exact if_neg (Nat.not_le.mpr hcut)

theorem Reply.IsPlain.content_eq (h : reply.IsPlain) (decode : Decoder) :
    reply.content decode = reply.payload := by
  rw [Reply.content, h.content]

theorem framing_error {e : Fault} (h : reply.framing = .error e) : e = .contentLength := by
  unfold Reply.framing at h
  split at h
  · exact (Except.error.inj h).symm
  · cases h
  · cases h

/-! ## Servers of plain replies -/

variable {σ : Type} {serve serve' : Server σ}

/-- Every reply of the server is plain. -/
def Server.IsPlain (serve : Server σ) : Prop :=
  ∀ message s reply s', serve message s = (.ok reply, s') → reply.IsPlain

/-- The same outcome as far as a run can tell: of a reply with another status than 200 it sees that
status only, and whether the end of the body can be told. -/
inductive SameButBody : Except Fault Reply → Except Fault Reply → Prop
  | same (outcome : Except Fault Reply) : SameButBody outcome outcome
  | refused {reply reply' : Reply} (status : reply'.status = reply.status)
      (noInput : reply.status ≠ 200) (framed : reply'.framing.isOk = reply.framing.isOk) :
      SameButBody (.ok reply) (.ok reply')

/-- A server that says the same as another, with other bodies in its replies of other statuses than
200. -/
structure Server.Rebodied (serve serve' : Server σ) : Prop where
  outcome : ∀ message s, SameButBody (serve message s).1 (serve' message s).1
  net : ∀ message s, (serve' message s).2 = (serve message s).2

end Http

/-- The event with no more of a reply than its status. -/
def Event.hideReply : Event → Event
  | .exchange message (.ok reply) => .exchange message (.ok ⟨reply.status, [], ByteArray.empty⟩)
  | e => e

namespace Http

variable {σ : Type} {decode : Decoder} {serve serve' : Server σ} {message : Message} {s s' : σ}
  {events : List Event} {result : Except Fault Reply}

theorem Server.IsPlain.direct (h : serve.IsPlain) {reply : Reply}
    (sent : Sent serve message s events (.ok reply) s') : isRedirect reply.status = false := by
  have hmem : .exchange message (.ok reply) ∈ events := by
    rw [sent.of_ok]
    exact List.mem_singleton_self _
  obtain ⟨t, t', served⟩ := sent.served hmem
  exact (h _ _ _ _ served).direct

/-- Nothing is sent after the first message. -/
theorem Exchanges.sent {left : Nat} (h : Exchanges serve left message s events result s')
    (hplain : serve.IsPlain) : Sent serve message s events result s' := by
  cases h with
  | failed sent => exact sent
  | answered sent final => exact sent
  | stopped sent redirect => cases (hplain.direct sent).symm.trans redirect
  | astray sent redirect nowhere => cases (hplain.direct sent).symm.trans redirect
  | followed sent redirect onward rest => cases (hplain.direct sent).symm.trans redirect

theorem Sent.length_le (h : Sent serve message s events result s') : events.length ≤ 1 := by
  cases h with
  | refused scheme => exact Nat.zero_le 1
  | lost scheme served => exact Nat.le_refl 1
  | replied scheme served => exact Nat.le_refl 1

/-- The same result as far as a run can tell. -/
theorem Sent.rebodied (h : Sent serve message s events result s') (hr : serve.Rebodied serve') :
    ∃ events' result', Sent serve' message s events' result' s' ∧
      events'.map Event.hideReply = events.map Event.hideReply ∧
      (result' = result ∨ ∃ reply reply', result = .ok reply ∧ result' = .ok reply' ∧
        reply'.status = reply.status ∧ reply.status ≠ 200) := by
  have houtcome := hr.outcome message s
  have hnet := hr.net message s
  rcases hserved' : serve' message s with ⟨outcome', t'⟩
  rw [hserved'] at houtcome hnet
  cases h with
  | refused scheme => exact ⟨_, _, .refused scheme, rfl, .inl rfl⟩
  | lost scheme served =>
    rw [served] at houtcome hnet
    obtain rfl : t' = s' := hnet
    cases houtcome with
    | same => exact ⟨_, _, .lost scheme hserved', rfl, .inl rfl⟩
  | @replied _ reply scheme served =>
    rw [served] at houtcome hnet
    obtain rfl : t' = s' := hnet
    cases houtcome with
    | same => exact ⟨_, _, .replied scheme hserved', rfl, .inl rfl⟩
    | @refused _ reply' status noInput framed =>
      refine ⟨_, _, .replied scheme hserved', ?_, ?_⟩
      · simp only [List.map_cons, Event.hideReply, status, List.map_nil]
      · cases hf : reply.framing with
        | error e =>
          cases hf' : reply'.framing with
          | error e' =>
            rw [framing_error hf, framing_error hf']
            exact .inl rfl
          | ok f' => rw [hf, hf'] at framed; cases framed
        | ok f =>
          cases hf' : reply'.framing with
          | error e' => rw [hf, hf'] at framed; cases framed
          | ok f' => exact .inr ⟨reply, reply', rfl, rfl, status, noInput⟩

theorem receive_of_status {url : String} {reply reply' : Reply} (h : reply'.status = reply.status)
    (hno : reply.status ≠ 200) : receive decode url reply' = receive decode url reply := by
  rw [receive, receive, if_neg hno, if_neg (h ▸ hno), h]

theorem Asked.length_le {r : Request} {answer : Answer} (h : Asked decode serve r s answer s')
    (hplain : serve.IsPlain) : answer.noted.length ≤ 1 := by
  cases h with
  | unfit composed => exact Nat.zero_le 1
  | failed composed exchanges => exact (exchanges.sent hplain).length_le
  | received composed exchanges => exact (exchanges.sent hplain).length_le

/-- A request has the same outcome. -/
theorem Asked.rebodied {r : Request} {answer : Answer} (h : Asked decode serve r s answer s')
    (hplain : serve.IsPlain) (hr : serve.Rebodied serve') :
    ∃ answer', Asked decode serve' r s answer' s' ∧ answer'.outcome = answer.outcome ∧
      answer'.noted.map Event.hideReply = answer.noted.map Event.hideReply := by
  cases h with
  | unfit composed => exact ⟨_, .unfit composed, rfl, rfl⟩
  | failed composed exchanges =>
    obtain ⟨events', result', sent', hevents, hresult⟩ := (exchanges.sent hplain).rebodied hr
    rcases hresult with rfl | ⟨reply, reply', hok, -⟩
    · exact ⟨_, .failed composed (.failed sent'), rfl, hevents⟩
    · cases hok
  | received composed exchanges =>
    have hsent := exchanges.sent hplain
    obtain ⟨events', result', sent', hevents, hresult⟩ := hsent.rebodied hr
    have hdirect := hplain.direct hsent
    rcases hresult with rfl | ⟨_, reply', hok, rfl, hstatus, hno⟩
    · exact ⟨_, .received composed (.answered sent' hdirect), rfl, hevents⟩
    · cases hok
      refine ⟨_, .received composed (.answered sent' ?_), receive_of_status hstatus hno, hevents⟩
      rw [hstatus]
      exact hdirect

end Http

namespace Download

variable {σ : Type} {decode : Http.Decoder} {serve serve' : Http.Server σ} {o : Options}
  {c : Credential} {today : Date} {d d' : Disk} {s s' : σ} {visits : List Visit}
  {events : List Event} {result : Except Failure Report}

theorem parallel_rebodied (hplain : serve.IsPlain) (hr : serve.Rebodied serve') (o : Options)
    (c : Credential) :
    Parallel (fun e => some e.hideReply) o o.quiet c c (Machine.noting (Machine.replies decode serve))
      (Machine.noting (Machine.replies decode serve')) where
  progress _ := rfl
  asked day t a t' h := by
    obtain ⟨chain, hnoted, hasked⟩ := Machine.noting_replies h
    obtain ⟨answer, hasked', houtcome, hevents⟩ := hasked.rebodied hplain hr
    refine ⟨_, Machine.noting_of_asked hasked', houtcome, ?_⟩
    rw [List.filterMap_eq_map', hnoted, List.map_append, List.map_append, hevents, houtcome]

/-! ## Further tries -/

section Retries

variable {logged : Log.Entry → List Event} {reply : Replier σ}

/-- A failure that is worth another try gets one, as long as one is left. -/
theorem Tries.retried {r : Request} {attempt left : Nat} {answers : List Answer}
    {verdict : Except Failure ByteArray}
    (h : Tries logged reply o r attempt left s answers events verdict s') {k : Nat} {e : Failure}
    (hk : (answers.map Answer.outcome)[k]? = some (.error e)) (he : e.isRetryable = true) :
    k ≤ left ∧ (k < left → k + 1 < answers.length) ∧ (k = left → verdict = .error e) := by
  induction h generalizing k with
  | @last attempt left s s' a asked final =>
    obtain rfl : k = 0 := by
      have hlt := (List.getElem?_eq_some_iff.mp hk).1
      simpa using hlt
    have ha : a.outcome = .error e := Option.some.inj hk
    rw [ha] at final ⊢
    obtain rfl : left = 0 := final.resolve_right (by simp [isRetryable, he])
    exact ⟨Nat.le_refl 0, fun hlt => absurd hlt (Nat.lt_irrefl 0), fun _ => rfl⟩
  | again asked failed retryable rest ih =>
    cases k with
    | zero =>
      have hpos := List.length_pos_iff.mpr rest.answers_ne_nil
      refine ⟨Nat.zero_le _, fun _ => by simpa using hpos, fun heq => ?_⟩
      cases heq
    | succ k =>
      obtain ⟨hle, hmore, hlast⟩ := ih hk
      refine ⟨by omega, fun hlt => ?_, fun heq => hlast (by omega)⟩
      have := hmore (by omega)
      simpa using this

/-- What comes of a failure at a visit that is worth another try. -/
def Visit.Retried (o : Options) (result : Except Failure Report) (v : Visit) : Prop :=
  ∀ k e, v.outcomes[k]? = some (.error e) → e.isRetryable = true →
    k ≤ o.retries ∧ (k < o.retries → k + 1 < v.outcomes.length) ∧
      (k = o.retries → result = .error e)

theorem Days.retried {entries : List (Nat × Date)}
    (h : Days logged reply o c today entries d s visits events result d' s') :
    ∀ v ∈ visits, v.Retried o result := by
  induction h with
  | done => simp
  | unreleased early => simp
  | refused out tries =>
    intro v hv k e hk he
    rw [List.mem_singleton.mp hv] at hk ⊢
    obtain ⟨hle, hmore, hlast⟩ := tries.retried hk he
    refine ⟨hle, by simpa [Visit.outcomes] using hmore, fun heq => ?_⟩
    cases hlast heq
    rfl
  | unwritten out tries failed =>
    intro v hv k e hk he
    rw [List.mem_singleton.mp hv] at hk ⊢
    obtain ⟨hle, hmore, hlast⟩ := tries.retried hk he
    refine ⟨hle, by simpa [Visit.outcomes] using hmore, fun heq => ?_⟩
    cases hlast heq
  | written out tries wrote days ih =>
    intro v hv k e hk he
    rcases List.mem_cons.mp hv with rfl | hv
    · obtain ⟨hle, hmore, hlast⟩ := tries.retried hk he
      refine ⟨hle, by simpa [Visit.outcomes] using hmore, fun heq => ?_⟩
      cases hlast heq
    · obtain ⟨hle, hmore, hlast⟩ := ih v hv k e hk he
      refine ⟨hle, hmore, fun heq => ?_⟩
      rw [hlast heq]
      rfl

theorem Course.retried (h : Course logged reply o c today d s visits events result d' s') {v : Visit}
    (hv : v ∈ visits) : v.Retried o result := by
  rcases h.cases_days with ⟨rfl, -⟩ | ⟨entries, d₁, events', hs, -, -, days⟩
  · cases hv
  · exact days.retried v hv

end Retries

/-! ## What is on the disk -/

/-- The body was given with status 200 at the address of the day, whole, and right then it was written
to the day's file. -/
def Fetched (o : Options) (es : List Event) (day : Nat) (body : ByteArray) : Prop :=
  ∃ (r : Request) (message : Http.Message) (reply : Http.Reply),
    r.url = Puzzle.address o.baseUrl o.year day ∧ Http.Uri.parse r.url = .ok message.uri ∧
    reply.status = 200 ∧ reply.Whole body ∧
    [.exchange message (.ok reply), .request r (.ok ⟨200, body⟩),
      .write (file o day) body (.ok ())] <:+: es

/-- A download with this result, from the disk `before` to the disk `after` with the steps `es`, has
whole bodies only. -/
structure WholeBodies (o : Options) (before after : Disk) (result : Except Failure Report)
    (es : List Event) : Prop where
  /-- What was written for a day stays on the disk, and is a whole body for that day. -/
  written : ∀ path body, .write path body (.ok ()) ∈ es →
    after.read path = .ok body ∧ ∃ day ∈ Puzzle.days, path = file o day ∧ Fetched o es day body
  /-- Every file was there before or was written for its day. -/
  files : ∀ l bytes, after.node? l = some (.file bytes) →
    before.node? l = some (.file bytes) ∨
      ∃ day ∈ Puzzle.days, after.locate (file o day) = .ok l ∧ Fetched o es day bytes
  /-- A reply cut off before its declared length is a failure that names the address of the day. -/
  cut : ∀ prior message reply later n, es = prior ++ .exchange message (.ok reply) :: later →
    reply.status = 200 → reply.Declares n → reply.bytes.size < n →
    ∃ day ∈ Puzzle.days, ∃ r later', r.url = Puzzle.address o.baseUrl o.year day ∧
      later = .request r (.error (.body r.url Http.Fault.disconnected.message)) :: later'
  /-- Such a failure is followed by another try as long as one is left, like one of the network. -/
  retried : ∀ day k e, (outcomesOf (Puzzle.address o.baseUrl o.year day) es)[k]? = some (.error e) →
    (∃ url reason, e = .body url reason ∨ e = .transport url reason) →
    k ≤ o.retries ∧
      (k < o.retries → k + 1 < (outcomesOf (Puzzle.address o.baseUrl o.year day) es).length) ∧
      (k = o.retries → result = .error e)

theorem Course.reply_isPlain (hplain : serve.IsPlain)
    (h : Course Machine.logging (Machine.noting (Machine.replies decode serve)) o c today d s visits
      events result d' s') {m : Http.Message} {reply : Http.Reply}
    (hm : .exchange m (.ok reply) ∈ steps events) : reply.IsPlain := by
  obtain ⟨t, t', served⟩ := h.explained_steps.served hm
  exact hplain _ _ _ _ served

theorem Course.fetched (hplain : serve.IsPlain)
    (h : Course Machine.logging (Machine.noting (Machine.replies decode serve)) o c today d s visits
      events result d' s') {v : Visit} (hv : v ∈ visits) {body : ByteArray}
    (hw : v.written = some (body, .ok ())) : Fetched o (steps events) v.day body := by
  obtain ⟨chain, t, t', hinfix, hasked⟩ := h.infix_of_written hv hw
  obtain ⟨message, reply, huri, hleads, hstatus, hcontent⟩ := hasked.of_ok
  have hmem : ∀ e ∈ chain, e ∈ steps events := fun e he =>
    hinfix.subset (List.mem_append_left _ he)
  have hchain := hleads.eq_singleton fun m reply' he => (h.reply_isPlain hplain (hmem _ he)).direct
  subst hchain
  have hreply := h.reply_isPlain hplain (hmem _ (List.mem_singleton_self _))
  rw [hreply.content_eq] at hcontent
  exact ⟨request o c v.day, message, reply, rfl, huri, hstatus, hreply.whole hcontent, hinfix⟩

theorem Course.delivers_of_written {logged : Log.Entry → List Event} {reply : Replier σ}
    (h : Course logged reply o c today d s visits events result d' s') {v : Visit} (hv : v ∈ visits)
    {body : ByteArray} (hw : v.written = some (body, .ok ())) : v.Delivers body :=
  ⟨hw, h.outcome_of_written hv hw⟩

/-- Nothing else gets into a file. -/
theorem Course.files_fetched (hplain : serve.IsPlain)
    (h : Course Machine.logging (Machine.noting (Machine.replies decode serve)) o c today d s visits
      events result d' s') {l : Location} {bytes : ByteArray}
    (hnode : d'.node? l = some (.file bytes)) :
    d.node? l = some (.file bytes) ∨
      ∃ day ∈ Puzzle.days, d'.locate (file o day) = .ok l ∧ Fetched o (steps events) day bytes := by
  rcases h.alters.node l with he | ⟨-, p, hp, hl⟩ | ⟨-, hdir, -⟩
  · exact .inl (he ▸ hnode)
  · obtain ⟨day, hday, rfl⟩ := List.mem_map.mp hp
    obtain ⟨v, hv, hdelivered⟩ := List.mem_filterMap.mp hday
    obtain ⟨body, rfl, hw⟩ : ∃ body, day = v.day ∧ v.written = some (body, .ok ()) := by
      unfold Visit.deliveredDay? at hdelivered
      split at hdelivered
      · exact ⟨_, (Option.some.inj hdelivered).symm, by assumption⟩
      · cases hdelivered
    obtain ⟨l', hl', hnode'⟩ :=
      Disk.read_eq_ok.mp (h.read hv (h.delivers_of_written hv hw))
    cases hl.symm.trans hl'
    cases hnode.symm.trans hnode'
    exact .inr ⟨v.day, (h.mem_days hv).1, hl, h.fetched hplain hv hw⟩
  · cases hnode.symm.trans hdir

theorem Course.cut (hplain : serve.IsPlain)
    (h : Course Machine.logging (Machine.noting (Machine.replies decode serve)) o c today d s visits
      events result d' s') {prior later : List Event} {message : Http.Message} {reply : Http.Reply}
    {n : Nat}
    (hs : steps events = prior ++ .exchange message (.ok reply) :: later)
    (hstatus : reply.status = 200) (hn : reply.Declares n) (hcut : reply.bytes.size < n) :
    ∃ day ∈ Puzzle.days, ∃ r later', r.url = Puzzle.address o.baseUrl o.year day ∧
      later = .request r (.error (.body r.url Http.Fault.disconnected.message)) :: later' := by
  have hreply : reply.IsPlain := h.reply_isPlain hplain (m := message) (by rw [hs]; simp)
  obtain ⟨rest, chain, chain', r, outcome, later', t, t', -, rfl, ⟨day, hday, rfl⟩, htook⟩ :=
    h.explained_steps.split_exchange hs
  -- a plain server is sent one message for each request
  obtain ⟨rfl, rfl⟩ : chain = [] ∧ chain' = [] := by
    have hlength := htook.length_le hplain
    simp only [List.length_append, List.length_cons] at hlength
    exact ⟨List.length_eq_zero_iff.mp (by omega), List.length_eq_zero_iff.mp (by omega)⟩
  refine ⟨day, hday, request o c day, later', rfl, ?_⟩
  rcases htook.last_reply rfl with hreceived | ⟨e, -, hframing | hredirect⟩
  · rw [Http.receive, if_pos hstatus, hreply.content_eq, hreply.payload_of_cut hn hcut] at hreceived
    exact congrArg (fun x => Event.request (request o c day) x :: later') hreceived
  · cases hframing.symm.trans (hreply.framing_declared hn)
  · cases hreply.direct.symm.trans hredirect

theorem Course.wholeBodies (hplain : serve.IsPlain)
    (h : Course Machine.logging (Machine.noting (Machine.replies decode serve)) o c today d s visits
      events result d' s') : WholeBodies o d d' result (steps events) where
  written path body hm := by
    obtain ⟨v, hv, rfl, hw⟩ := h.visit_of_write hm
    exact ⟨h.read hv (h.delivers_of_written hv hw), v.day, (h.mem_days hv).1, rfl,
      h.fetched hplain hv hw⟩
  files _ _ := h.files_fetched hplain
  cut _ _ _ _ _ := h.cut hplain
  retried day k e hk he := by
    have hrecorded : Recorded Machine.logging (Machine.noting (Machine.replies decode serve)) :=
      Machine.recorded_noting_replies fun _ => rfl
    rw [outcomesOf_steps] at hk ⊢
    obtain ⟨v, hv, rfl⟩ := h.visit_of_outcome hrecorded (List.mem_of_getElem? hk)
    rw [h.outcomesOf_eq hrecorded hv] at hk ⊢
    refine h.retried hv k e hk ?_
    obtain ⟨url, reason, rfl | rfl⟩ := he
    · rfl
    · rfl

theorem wholeBodies_nil (o : Options) (d : Disk) (e : Failure) : WholeBodies o d d (.error e) [] where
  written _ _ hm := by cases hm
  files _ _ hnode := .inl hnode
  cut _ _ _ _ _ hs := by simp at hs
  retried _ _ _ hk := by simp [outcomesOf] at hk

end Download

namespace Program

open Download Http

/-- A run against a server of plain replies leaves whole bodies on the disk, and what is in replies of
other statuses than 200 does not matter to it. -/
theorem run_leaves_whole_bodies {σ : Type} (decode : Decoder) (serve : Server σ)
    (hplain : serve.IsPlain) (env : Environment) (config : Config) (args : Arguments) (w : Machine σ) :
    let runOver := fun serve =>
      (run Machine.host (Machine.recorded (transport decode (Machine.wire serve))) env config args).run w
    WholeBodies (Options.ofArguments args) w.disk (runOver serve).2.disk (runOver serve).1
      (steps (w.eventsSince (runOver serve).2)) ∧
    ∀ serve', serve.Rebodied serve' →
      (runOver serve').1 = (runOver serve).1 ∧ (runOver serve').2.disk = (runOver serve).2.disk ∧
      (w.eventsSince (runOver serve').2).map Event.hideReply =
        (w.eventsSince (runOver serve).2).map Event.hideReply := by
  intro runOver
  constructor
  · rcases run_steps decode serve env config args w with
      ⟨e, hresult, hdisk, hsteps⟩ | ⟨c, today, visits, events, s', course, hsteps⟩
    · rw [hsteps, hresult, hdisk]
      exact wholeBodies_nil _ _ _
    · rw [hsteps]
      exact course.wholeBodies hplain
  · intro serve' hr
    simp only [runOver, Machine.host_eq_hostLogging, Machine.recorded_transport]
    obtain ⟨result, events, events', d, d', s, hrun, hrun', hevents, rfl⟩ :=
      run_parallel Disk.lasting_eq Machine.logging env config config args args.quiet (rfl : w.disk = _)
        (Credentials.same (fun c => parallel_rebodied hplain hr _ c) _)
    have hrun' : (run (Machine.hostLogging Machine.logging)
        (Machine.attach (Machine.noting (Machine.replies decode serve'))) env config args).run w =
        (result, w.advance events' d s) := hrun'
    rw [hrun, hrun', Machine.eventsSince_advance, Machine.eventsSince_advance]
    rw [List.filterMap_eq_map'] at hevents
    exact ⟨rfl, rfl, hevents⟩

/-- A server that is busy first, then breaks off a reply, and then has an input that is no text. -/
def patchy (busy : Reply) : Server Nat := fun _ s =>
  match s with
  | 0 => (.ok busy, 1)
  | 1 => (.ok ⟨200, [("Content-Length", "9")], "cut".toUTF8⟩, 2)
  | s => (.ok ⟨200, [], ⟨#[0xFF, 0x0A]⟩⟩, s)

/-- With two tries more the input is in the file of day 1, whatever the server says while it is busy. -/
theorem run_leaves_whole_bodies_patchy :
    let busy : Reply := ⟨503, [("Content-Length", "9")], "later".toUTF8⟩
    let silent : Reply := ⟨503, [], ByteArray.empty⟩
    let args : Arguments :=
      { year := 2018, sessionFile := some ⟨"cookie"⟩, baseUrl := some "http://aoc.test",
        retries := some 2 }
    let runOver := fun serve =>
      (run Machine.host (Machine.recorded (transport Reply.payload (Machine.wire serve))) {} {} args).run
        (firstMorning 0)
    (Server.IsPlain (patchy busy) ∧
      WholeBodies (Options.ofArguments args) (firstMorning 0).disk (runOver (patchy busy)).2.disk
        (runOver (patchy busy)).1 (steps ((firstMorning 0).eventsSince (runOver (patchy busy)).2))) ∧
    (Server.Rebodied (patchy busy) (patchy silent) ∧
      (runOver (patchy silent)).2.disk = (runOver (patchy busy)).2.disk) ∧
    ((runOver (patchy busy)).2.disk.read ⟨"./input_01"⟩).toOption.map (·.toList) =
      some [0xFF, 0x0A] := by
  intro busy silent args runOver
  have hplain : Server.IsPlain (patchy busy) := by
    intro message s reply s' hserved
    unfold patchy at hserved
    split at hserved <;> cases hserved <;> exact ⟨by decide, by decide, by decide, by decide⟩
  have hrebodied : Server.Rebodied (patchy busy) (patchy silent) := by
    constructor
    · intro message s
      unfold patchy
      split
      · exact .refused rfl (by decide) (by decide)
      · exact .same _
      · exact .same _
    · intro message s
      unfold patchy
      split <;> rfl
  obtain ⟨hwhole, hother⟩ :=
    run_leaves_whole_bodies Reply.payload (patchy busy) hplain {} {} args (firstMorning 0)
  exact ⟨⟨hplain, hwhole⟩, ⟨hrebodied, (hother _ hrebodied).2.1⟩, by decide +kernel⟩

end Program

end PuzzleInputs
