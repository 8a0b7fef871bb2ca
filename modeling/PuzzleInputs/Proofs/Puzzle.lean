import Mathlib
import PuzzleInputs.Proofs.Names
import PuzzleInputs.Proofs.Path
import PuzzleInputs.Puzzle

/-!
# Released days

`isReleased year today day` says that the puzzle of December `day` is out, and `releasedCount` counts
the days of the event that are. Release dates grow with the days, so the released days are the days
up to the count (`isReleased_iff_le`). Each day has a name that a file can have, and an address of its
own.
-/

namespace PuzzleInputs.Date

theorem le_refl (a : Date) : a ≤ a := by
  change ¬ Before a a
  unfold Before
  omega

/-- A date that has come stays behind. -/
theorem not_lt_of_le {a b c : Date} (hab : a ≤ b) (h : ¬ a < c) : ¬ b < c := by
  change ¬ Before b a at hab
  change ¬ Before a c at h
  show ¬ Before b c
  unfold Before at *
  omega

end PuzzleInputs.Date

namespace PuzzleInputs.Puzzle

/-- Whether the puzzle of December `day` is out on `today`. -/
def isReleased (year : Int) (today : Date) (day : Nat) : Bool :=
  match releaseDate year day with
  | .ok release => release ≤ today
  | .error _ => false

/-- The number of days of the event that are released. -/
def releasedCount (year : Int) (today : Date) : Nat := days.countP (isReleased year today)

theorem mem_days {day : Nat} : day ∈ days ↔ 1 ≤ day ∧ day ≤ 25 := by
  rw [days, List.mem_range'_1]
  omega

/-! ## The schedule -/

theorem releaseDate_ok {year : Int} {day : Nat} {release : Date}
    (h : releaseDate year day = .ok release) :
    (Calendar.minYear ≤ year ∧ year ≤ Calendar.maxYear) ∧ (1 ≤ day ∧ day ≤ 31) ∧
      release.year = year ∧ release.month = month ∧ release.day = day := by
  unfold releaseDate Date.of? at h
  split at h
  · rename_i date hd
    split at hd
    · rename_i hc
      cases hd
      cases h
      exact ⟨hc.1, hc.2, rfl, rfl, rfl⟩
    · cases hd
  · cases h

theorem exists_releaseDate {year : Int} {day : Nat}
    (hy : Calendar.minYear ≤ year ∧ year ≤ Calendar.maxYear) (hd : 1 ≤ day ∧ day ≤ 31) :
    ∃ release, releaseDate year day = .ok release := by
  have hc : (Calendar.minYear ≤ year ∧ year ≤ Calendar.maxYear) ∧
      1 ≤ day ∧ day ≤ Calendar.monthLength year month := ⟨hy, hd⟩
  exact ⟨⟨year, month, day, hc.2.1, hc.2.2⟩, by simp [releaseDate, Date.of?, hc]⟩

/-- A day that is out has its release date on or before `today`. -/
theorem isReleased_of_ok {year : Int} {today release : Date} {day : Nat}
    (h : releaseDate year day = .ok release) :
    isReleased year today day = true ↔ ¬ today < release := by
  rw [isReleased, h]
  exact decide_eq_true_iff

theorem exists_of_isReleased {year : Int} {today : Date} {day : Nat}
    (h : isReleased year today day = true) : ∃ release, releaseDate year day = .ok release := by
  cases hr : releaseDate year day with
  | error e => rw [isReleased, hr] at h; cases h
  | ok release => exact ⟨release, rfl⟩

theorem mapM_releaseDate_ok {year : Int} {ds : List Nat} {entries : List (Nat × Date)}
    (h : (ds.mapM fun day => (releaseDate year day).map (day, ·)) = .ok entries) :
    entries.map Prod.fst = ds ∧ ∀ e ∈ entries, releaseDate year e.1 = .ok e.2 := by
  induction ds generalizing entries with
  | nil => cases h; simp
  | cons day ds ih =>
    rw [List.mapM_cons] at h
    cases hd : releaseDate year day with
    | error e => rw [hd] at h; cases h
    | ok release =>
      cases hr : ds.mapM fun day => (releaseDate year day).map (day, ·) with
      | error e => rw [hd, hr] at h; cases h
      | ok rest =>
        rw [hd, hr] at h
        cases h
        obtain ⟨hmap, hall⟩ := ih hr
        refine ⟨by simp [hmap], fun e he => ?_⟩
        rcases List.mem_cons.mp he with rfl | he
        · exact hd
        · exact hall e he

/-- The schedule lists the days of the event, each with its release date. -/
theorem schedule_ok {year : Int} {entries : List (Nat × Date)}
    (h : schedule year = .ok entries) :
    entries.map Prod.fst = days ∧ ∀ e ∈ entries, releaseDate year e.1 = .ok e.2 :=
  mapM_releaseDate_ok h

theorem exists_mapM_releaseDate {year : Int} {ds : List Nat}
    (h : ∀ day ∈ ds, ∃ release, releaseDate year day = .ok release) :
    ∃ entries, (ds.mapM fun day => (releaseDate year day).map (day, ·)) = .ok entries := by
  induction ds with
  | nil => exact ⟨[], rfl⟩
  | cons day ds ih =>
    obtain ⟨release, hr⟩ := h day List.mem_cons_self
    obtain ⟨entries, he⟩ := ih fun d hd => h d (List.mem_cons_of_mem _ hd)
    rw [List.mapM_cons, hr, he]
    exact ⟨_, rfl⟩

/-- Every year of the calendar has a schedule. -/
theorem exists_schedule {year : Int} (hy : Calendar.minYear ≤ year ∧ year ≤ Calendar.maxYear) :
    ∃ entries, schedule year = .ok entries := by
  refine exists_mapM_releaseDate fun day hd => exists_releaseDate hy ?_
  rw [mem_days] at hd
  omega

/-- A year outside the calendar has none, for want of a first day. -/
theorem schedule_of_year_invalid {year : Int}
    (h : ¬ (Calendar.minYear ≤ year ∧ year ≤ Calendar.maxYear)) :
    schedule year = .error (.yearInvalid year 1) := by
  have hfirst : releaseDate year 1 = .error (.yearInvalid year 1) := by
    cases hr : releaseDate year 1 with
    | ok release => exact absurd (releaseDate_ok hr).1 h
    | error e =>
      unfold releaseDate at hr
      split at hr
      · cases hr
      · exact hr.symm
  rw [schedule, days, List.range'_succ, List.mapM_cons, hfirst]
  rfl

theorem mem_days_of_schedule {year : Int} {entries : List (Nat × Date)}
    (h : schedule year = .ok entries) : ∀ e ∈ entries, e.1 ∈ days := by
  intro e he
  rw [← (schedule_ok h).1]
  exact List.mem_map_of_mem he

theorem nodup_days_of_schedule {year : Int} {entries : List (Nat × Date)}
    (h : schedule year = .ok entries) : (entries.map Prod.fst).Nodup := by
  rw [(schedule_ok h).1]
  exact List.nodup_range'

theorem isReleased_of_mem_schedule {year : Int} {today : Date} {entries : List (Nat × Date)}
    (h : schedule year = .ok entries) {e : Nat × Date} (he : e ∈ entries) :
    isReleased year today e.1 = true ↔ ¬ today < e.2 :=
  isReleased_of_ok ((schedule_ok h).2 e he)

/-- In a year without a schedule no day is released. -/
theorem isReleased_of_no_schedule {year : Int} {today : Date} {e : Failure}
    (h : schedule year = .error e) (day : Nat) : isReleased year today day = false := by
  rw [Bool.eq_false_iff]
  intro hr
  obtain ⟨release, hd⟩ := exists_of_isReleased hr
  obtain ⟨entries, hs⟩ := exists_schedule (releaseDate_ok hd).1
  rw [hs] at h
  cases h

/-- The schedule begins with day 1. -/
theorem schedule_eq_cons {year : Int} {entries : List (Nat × Date)}
    (h : schedule year = .ok entries) : ∃ release rest, entries = (1, release) :: rest := by
  have hdays := (schedule_ok h).1
  cases entries with
  | nil => exact absurd hdays (by decide)
  | cons e rest =>
    obtain ⟨day, release⟩ := e
    have hfirst : day = 1 := (List.cons.inj hdays).1
    exact ⟨release, rest, by rw [hfirst]⟩

/-- The first release date decides whether day 1 is released. -/
theorem head_schedule {year : Int} {today : Date} {entries : List (Nat × Date)}
    (h : schedule year = .ok entries) :
    (entries.head?.any fun (_, release) => release ≤ today) = isReleased year today 1 := by
  obtain ⟨release, rest, rfl⟩ := schedule_eq_cons h
  have hr : isReleased year today 1 = true ↔ ¬ today < release :=
    isReleased_of_mem_schedule h List.mem_cons_self
  rw [Bool.eq_iff_iff, hr]
  exact decide_eq_true_iff

/-! ## How many days are released -/

/-- The day before a released one is released. -/
theorem isReleased_of_le {year : Int} {today : Date} {d d' : Nat} (hd : 1 ≤ d) (hle : d ≤ d')
    (h : isReleased year today d' = true) : isReleased year today d = true := by
  obtain ⟨release', hr'⟩ := exists_of_isReleased h
  obtain ⟨hy, hbound, hy', hm', hd'⟩ := releaseDate_ok hr'
  obtain ⟨release, hr⟩ := exists_releaseDate hy ⟨hd, hle.trans hbound.2⟩
  obtain ⟨-, -, hy₀, hm₀, hd₀⟩ := releaseDate_ok hr
  have hlate := (isReleased_of_ok hr').mp h
  rw [isReleased_of_ok hr]
  intro hearly
  apply hlate
  change Date.Before today release'
  change Date.Before today release at hearly
  simp only [Date.Before, hy', hm', hd', hy₀, hm₀, hd₀] at hearly ⊢
  omega

/-- Where the days that satisfy `p` come first, they are the days up to their number. -/
theorem countP_range'_of_initial {p : Nat → Bool} :
    ∀ {n : Nat}, (∀ d d', 1 ≤ d → d ≤ d' → d' ≤ n → p d' = true → p d = true) →
      ∀ d, 1 ≤ d → d ≤ n → (p d = true ↔ d ≤ (List.range' 1 n).countP p)
  | 0, _, d, h1, h2 => by omega
  | n + 1, hp, d, h1, h2 => by
    have ih := countP_range'_of_initial (n := n)
      fun d d' h1 h2 h3 => hp d d' h1 h2 (by omega)
    have hle : (List.range' 1 n).countP p ≤ n := by
      simpa using List.countP_le_length (p := p) (l := List.range' 1 n)
    rw [List.range'_concat, List.countP_append, List.countP_singleton]
    by_cases hlast : p (1 + 1 * n) = true
    · -- the last day is in, so all are
      have hall : (List.range' 1 n).countP p = n := by
        rcases Nat.eq_zero_or_pos n with rfl | hn
        · rfl
        · have := (ih n hn (Nat.le_refl n)).mp (hp n (1 + 1 * n) hn (by omega) (by omega) hlast)
          omega
      simp only [hlast, hall, if_true]
      exact ⟨fun _ => h2, fun _ => hp d (1 + 1 * n) h1 (by omega) (by omega) hlast⟩
    · simp only [hlast, Nat.add_zero, Bool.false_eq_true, if_false]
      rcases Nat.lt_or_ge d (n + 1) with hd | hd
      · exact ih d h1 (by omega)
      · have hdn : d = 1 + 1 * n := by omega
        subst hdn
        simp only [hlast, Bool.false_eq_true, false_iff]
        omega

/-- The released days of the event are those up to the count. -/
theorem isReleased_iff_le {year : Int} {today : Date} {day : Nat} (h : day ∈ days) :
    isReleased year today day = true ↔ day ≤ releasedCount year today := by
  rw [mem_days] at h
  exact countP_range'_of_initial (fun _ _ h1 h2 _ => isReleased_of_le h1 h2) day h.1 h.2

theorem releasedCount_le (year : Int) (today : Date) : releasedCount year today ≤ 25 := by
  simpa [releasedCount, days] using List.countP_le_length (p := isReleased year today) (l := days)

theorem releasedCount_eq_zero {year : Int} {today : Date} :
    releasedCount year today = 0 ↔ isReleased year today 1 = false := by
  have h : isReleased year today 1 = true ↔ 1 ≤ releasedCount year today :=
    isReleased_iff_le (by decide)
  rw [← Bool.not_eq_true, h]
  omega

/-- The days up to the first one that is not released. -/
theorem takeWhile_isReleased (year : Int) (today : Date) :
    days.takeWhile (isReleased year today) = List.range' 1 (releasedCount year today) := by
  have hle := releasedCount_le year today
  have hsplit : days = List.range' 1 (releasedCount year today) ++
      List.range' (1 + releasedCount year today) (25 - releasedCount year today) := by
    rw [days, List.range'_append_1]
    congr 1
    omega
  have hout : ∀ day ∈ List.range' 1 (releasedCount year today), isReleased year today day = true := by
    intro day hd
    rw [List.mem_range'_1] at hd
    exact (isReleased_iff_le (mem_days.mpr (by omega))).mpr (by omega)
  rw [hsplit, List.takeWhile_append_of_pos hout, List.append_right_eq_self]
  cases hrest : 25 - releasedCount year today with
  | zero => rfl
  | succ n =>
    have hnext : ¬ isReleased year today (1 + releasedCount year today) = true := by
      rw [isReleased_iff_le (mem_days.mpr (by omega))]
      omega
    rw [List.range'_succ, List.takeWhile_cons_of_neg hnext]

/-! ## Later dates -/

theorem isReleased_mono {year : Int} {today today' : Date} {day : Nat} (hle : today ≤ today')
    (h : isReleased year today day = true) : isReleased year today' day = true := by
  obtain ⟨release, hr⟩ := exists_of_isReleased h
  rw [isReleased_of_ok hr] at h ⊢
  exact Date.not_lt_of_le hle h

theorem releasedCount_mono (year : Int) {today today' : Date} (hle : today ≤ today') :
    releasedCount year today ≤ releasedCount year today' :=
  List.countP_mono_left fun _ _ => isReleased_mono hle

/-! ## Names of a day -/

theorem fileName_isName {day : Nat} (h : day ∈ days) : Path.IsName (fileName day) := by
  have hne : ∀ d ∈ days, fileName d ≠ "" := by decide +kernel
  have hs : ∀ d ∈ days, '/' ∉ (fileName d).toList := by decide +kernel
  have hdot : ∀ d ∈ days, fileName d ≠ "." ∧ fileName d ≠ ".." := by decide +kernel
  have hsize : ∀ d ∈ days, (fileName d).utf8ByteSize ≤ 255 := by decide +kernel
  exact ⟨hne day h, hs day h, (hdot day h).1, (hdot day h).2, hsize day h⟩

/-- Different days of a year have different addresses. -/
theorem address_inj {base : String} {year : Int} {d d' : Nat}
    (h : address base year d = address base year d') : d = d' :=
  (address_eq_iff.mp h).2.2

end PuzzleInputs.Puzzle
