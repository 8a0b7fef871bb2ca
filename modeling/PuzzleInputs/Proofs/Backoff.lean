import Mathlib
import PuzzleInputs.Proofs.Refusals

/-!
# Growing pauses

The pause before a further try is the base once for each try so far. Two limits cut it off: the tries
are counted with 32 bits, and no pause is longer than `Pause.longest`. In nanoseconds it is the smaller
of the product and the longest pause (`toNanos_backoff`), so that it never shrinks when the base or the
tries grow. Below the limits the pauses of a day add up to a sum of the first numbers
(`sum_toNanos_backoff`), whatever the transport answers (`pauses_add_up`).
-/

namespace PuzzleInputs

namespace Pause

/-- Pauses are compared by their seconds, and by their nanoseconds where these are the same. -/
def NoLonger (p q : Pause) : Prop :=
  p.seconds < q.seconds ∨ p.seconds = q.seconds ∧ p.nanos ≤ q.nanos

theorem noLonger_iff {p q : Pause} : NoLonger p q ↔ p.toNanos ≤ q.toNanos := by
  have hp := p.nanos_lt
  have hq := q.nanos_lt
  unfold NoLonger toNanos
  omega

/-! ## Saturation -/

/-- The nanoseconds are multiplied within 64 bits. -/
theorem nanos_mul_lt (p : Pause) {k : Nat} (hk : k ≤ Word.max32) : p.nanos * k < 2 ^ 64 := by
  have hnanos : p.nanos ≤ 999999999 := Nat.le_of_lt_succ p.nanos_lt
  calc p.nanos * k ≤ 999999999 * Word.max32 := Nat.mul_le_mul hnanos hk
    _ < 2 ^ 64 := by decide

/-- Nothing is lost when nanoseconds are carried over to the seconds. -/
theorem toNanos_times (p : Pause) (k : Nat) :
    (p.times k).toNanos = min (p.toNanos * k) longest.toNanos := by
  have hproduct : p.toNanos * k = p.seconds * k * 1000000000 + p.nanos * k := by
    unfold toNanos
    ring
  have hlongest : longest.toNanos = Word.max64 * 1000000000 + 999999999 := rfl
  rw [hproduct, hlongest]
  unfold times
  dsimp only
  split
  · next hfits =>
    show (p.seconds * k + p.nanos * k / 1000000000) * 1000000000 + p.nanos * k % 1000000000 = _
    generalize Word.max64 = limit at hfits ⊢
    omega
  · next hfits =>
    rw [hlongest]
    generalize Word.max64 = limit at hfits ⊢
    omega

theorem toNanos_backoff (base : Pause) (attempt : Nat) :
    (base.backoff attempt).toNanos =
      min (base.toNanos * min attempt Word.max32) longest.toNanos := by
  rw [backoff, toNanos_times, min_def attempt]

theorem backoff_noLonger {base base' : Pause} {attempt attempt' : Nat}
    (hbase : base.NoLonger base') (hattempt : attempt ≤ attempt') :
    (base.backoff attempt).NoLonger (base'.backoff attempt') := by
  rw [noLonger_iff] at hbase ⊢
  rw [toNanos_backoff, toNanos_backoff]
  have hcount : min attempt Word.max32 ≤ min attempt' Word.max32 := min_le_min_right _ hattempt
  exact min_le_min_right _ (Nat.mul_le_mul hbase hcount)

/-! ## Sums -/

/-- Below both limits the pause is a plain product. -/
theorem toNanos_backoff_of_le {base : Pause} {attempt : Nat} (hcount : attempt ≤ Word.max32)
    (hlong : base.toNanos * attempt ≤ longest.toNanos) :
    (base.backoff attempt).toNanos = base.toNanos * attempt := by
  rw [toNanos_backoff, min_eq_left hcount, min_eq_left hlong]

/-- The pauses of a day below both limits. -/
theorem sum_toNanos_backoff {base : Pause} {n : Nat} (hcount : n ≤ Word.max32)
    (hlong : base.toNanos * n ≤ longest.toNanos) :
    2 * (((List.range' 1 n).map base.backoff).map toNanos).sum = base.toNanos * (n * (n + 1)) := by
  induction n with
  | zero => rfl
  | succ n ih =>
    have hlong' : base.toNanos * n ≤ longest.toNanos :=
      (Nat.mul_le_mul_left _ (Nat.le_succ n)).trans hlong
    have hlast : (base.backoff (1 + n)).toNanos = base.toNanos * (n + 1) := by
      rw [Nat.add_comm 1 n]
      exact toNanos_backoff_of_le hcount hlong
    rw [List.range'_1_concat, List.map_append, List.map_append, List.sum_append, Nat.mul_add,
      ih (Nat.le_of_succ_le hcount) hlong']
    simp only [List.map_cons, List.map_nil, List.sum_singleton, hlast]
    ring

/-- What the limits make of a pause that grows with the tries. -/
structure Saturates (base : Pause) (attempt : Nat) : Prop where
  nanos : (base.backoff attempt).toNanos =
    min (base.toNanos * min attempt (2 ^ 32 - 1)) ((2 ^ 64 - 1) * 10 ^ 9 + 999999999)
  /-- The product of the nanoseconds is a number of 64 bits. -/
  fits : base.nanos * min attempt (2 ^ 32 - 1) < 2 ^ 64
  /-- A longer base or more tries never make a shorter pause. -/
  grows : ∀ base' attempt', base.NoLonger base' → attempt ≤ attempt' →
    (base.backoff attempt).NoLonger (base'.backoff attempt')

theorem saturates (base : Pause) (attempt : Nat) : Saturates base attempt where
  nanos := toNanos_backoff base attempt
  fits := nanos_mul_lt base (Nat.min_le_right _ _)
  grows _ _ := backoff_noLonger

end Pause

namespace Download

/-! ## The pauses of a day -/

section Tries

variable {σ : Type} {logged : Log.Entry → List Event} {reply : Replier σ} {o : Options}
  {r : Request} {attempt left : Nat} {s s' : σ} {answers : List Answer} {events : List Event}
  {verdict : Except Failure ByteArray}

/-- No pause is made but by the download itself. -/
structure Unpaused (logged : Log.Entry → List Event) (reply : Replier σ) : Prop where
  log : ∀ e, waitsIn (logged e) = []
  noted : ∀ r s, waitsIn (reply r s).1.noted = []

theorem Tries.waitsIn_eq (h : Tries logged reply o r attempt left s answers events verdict s')
    (hu : Unpaused logged reply) :
    waitsIn events = (List.range' (attempt + 1) (answers.length - 1)).map o.backoff.backoff := by
  have hevents : waitsIn events = waitsIn (asking o attempt answers) := h.filterMap_events hu.log
  rw [hevents]
  refine waitsIn_asking o attempt fun a ha => ?_
  obtain ⟨t, t', ht⟩ := h.replied a ha
  have hnoted := hu.noted r t
  rwa [ht] at hnoted

theorem Tries.length_requestsIn (h : Tries logged reply o r attempt left s answers events verdict s')
    (hr : Recorded logged reply) : (requestsIn events).length = answers.length := by
  have hevents : requestsIn events = requestsIn (asking o attempt answers) :=
    h.filterMap_events hr.log
  have hone : ∀ a ∈ answers, (requestsIn a.noted).length = 1 := by
    intro a ha
    obtain ⟨t, t', ht⟩ := h.replied a ha
    have hnoted := hr.noted r t
    rw [ht] at hnoted
    rw [hnoted]
    rfl
  rw [hevents, requestsIn_asking, List.length_flatMap, List.map_congr_left hone]
  simp

end Tries

/-- The pauses of a day over the transport, whatever it answers. -/
structure PausesAddUp {σ : Type} (transport : Transport (StateM (Machine σ))) (o : Options)
    (r : Request) (w : Machine σ) (retries : Nat) : Prop where
  within : retries ≤ o.retries
  requests : (requestsIn (w.eventsSince ((fetchDay Machine.host transport o r).run w).2)).length =
    retries + 1
  waits : waitsIn (w.eventsSince ((fetchDay Machine.host transport o r).run w).2) =
    (List.range' 1 retries).map o.backoff.backoff
  /-- With the usual base of 250 milliseconds. -/
  sum : o.backoff = Options.defaultBackoff → retries < 2 ^ 32 →
    ((waitsIn (w.eventsSince ((fetchDay Machine.host transport o r).run w).2)).map
      Pause.toNanos).sum = 125 * retries * (retries + 1) * 10 ^ 6

theorem sum_defaultBackoff {retries : Nat} (h : retries < 2 ^ 32) :
    (((List.range' 1 retries).map Options.defaultBackoff.backoff).map Pause.toNanos).sum =
      125 * retries * (retries + 1) * 10 ^ 6 := by
  have hbase : Options.defaultBackoff.toNanos = 250000000 := rfl
  have hlongest : Pause.longest.toNanos = (2 ^ 64 - 1) * 10 ^ 9 + 999999999 := rfl
  have hcount : retries ≤ Word.max32 := Nat.le_of_lt_succ h
  have hlong : Options.defaultBackoff.toNanos * retries ≤ Pause.longest.toNanos := by
    rw [hbase, hlongest]
    omega
  have hsum := Pause.sum_toNanos_backoff hcount hlong
  rw [hbase] at hsum
  apply Nat.eq_of_mul_eq_mul_left Nat.two_pos
  rw [hsum]
  ring

theorem exists_pausesAddUp {σ : Type} {reply : Replier σ} (hr : Recorded Machine.logging reply)
    (hu : Unpaused Machine.logging reply) (o : Options) (r : Request) (w : Machine σ) :
    ∃ retries, PausesAddUp (Machine.attach reply) o r w retries := by
  obtain ⟨answers, events, verdict, s', tries⟩ :=
    exists_tries Machine.logging reply o r 0 o.retries w.net
  have hrun := tries.run_eq w rfl
  rw [← Machine.host_eq_hostLogging] at hrun
  have hevents : w.eventsSince ((fetchDay Machine.host (Machine.attach reply) o r).run w).2 =
      events := by
    rw [fetchDay, hrun, Machine.eventsSince_advance]
  have hwaits := tries.waitsIn_eq hu
  have hlength := List.length_pos_of_ne_nil tries.answers_ne_nil
  have hle := tries.length_le
  refine ⟨answers.length - 1, by omega, ?_, ?_, fun hbase hfew => ?_⟩
  · rw [hevents, tries.length_requestsIn hr]
    omega
  · rw [hevents, hwaits]
  · rw [hevents, hwaits, hbase]
    exact sum_defaultBackoff hfew

theorem waitsIn_of_isExchange {es : List Event} (h : ∀ e ∈ es, e.isExchange = true) :
    waitsIn es = [] := by
  rw [waitsIn, List.filterMap_eq_nil_iff]
  intro e he
  have hx := h e he
  cases e with
  | exchange message x => rfl
  | _ => cases hx

theorem unpaused_noting_replies {σ : Type} (decode : Http.Decoder) (serve : Http.Server σ) :
    Unpaused Machine.logging (Machine.noting (Machine.replies decode serve)) where
  log _ := rfl
  noted r s := by
    show waitsIn ((Machine.replies decode serve r s).1.noted ++ [_]) = []
    rw [waitsIn_append, waitsIn_of_isExchange (Machine.asked_replies decode serve r s).isExchange]
    rfl

/-- Pauses saturate at their two limits, and those of a day add up, over any transport that answers
from a state and over the HTTP transport. -/
theorem pauses_add_up :
    (∀ base attempt, Pause.Saturates base attempt) ∧
      ∀ {σ : Type} (o : Options) (r : Request) (w : Machine σ),
        (∀ answer : Request → σ → Except Failure Response × σ, ∃ retries,
          PausesAddUp (Machine.transport answer) o r w retries) ∧
        ∀ (decode : Http.Decoder) (serve : Http.Server σ), ∃ retries,
          PausesAddUp (Machine.recorded (Http.transport decode (Machine.wire serve))) o r w retries := by
  refine ⟨Pause.saturates, fun o r w => ⟨fun answer => ?_, fun decode serve => ?_⟩⟩
  · rw [Machine.transport_eq_attach]
    exact exists_pausesAddUp (recorded_recording answer) ⟨fun _ => rfl, fun _ _ => rfl⟩ o r w
  · rw [Machine.recorded_transport]
    exact exists_pausesAddUp (Machine.recorded_noting_replies fun _ => rfl)
      (unpaused_noting_replies decode serve) o r w

-- the tries reach their limit before the seconds do, and the other way round
example :
    ((⟨4294967296, 0, by decide, by decide⟩ : Pause).backoff 4294967295).seconds =
        18446744069414584320 ∧
      (⟨4294967296, 0, by decide, by decide⟩ : Pause).backoff 4294967296 =
        (⟨4294967296, 0, by decide, by decide⟩ : Pause).backoff 4294967295 ∧
      (⟨4294967297, 999999999, by decide, by decide⟩ : Pause).backoff 4294967295 = Pause.longest := by
  decide +kernel

end Download

end PuzzleInputs
