import Mathlib
import PuzzleInputs.Proofs.Calendar
import PuzzleInputs.Proofs.Visits

/-!
# The schedule of an event

The schedule of a year lists the days 1 to 25 with consecutive dates, and there is one for every year
of the calendar (`schedule_of_year`). Since the dates grow, to stop at the first date that is still to
come is to take all that have come; how many these are can be told from the fields of the date
(`isReleased_iff_fields`).
-/

namespace PuzzleInputs.Puzzle

/-- The entries before the first one whose date is still to come. -/
def untilFuture (today : Date) (entries : List (Nat × Date)) : List (Nat × Date) :=
  entries.takeWhile fun e => !decide (today < e.2)

/-! ## The dates of the schedule -/

theorem releaseDate_lt {year : Int} {d d' : Nat} {release release' : Date}
    (h : releaseDate year d = .ok release) (h' : releaseDate year d' = .ok release') (hlt : d < d') :
    release < release' := by
  obtain ⟨-, -, hyear, hmonth, hday⟩ := releaseDate_ok h
  obtain ⟨-, -, hyear', hmonth', hday'⟩ := releaseDate_ok h'
  change Date.Before release release'
  unfold Date.Before
  omega

/-- December has 31 days, so no release is the last day of its month. -/
theorem releaseDate_succ {year : Int} {d : Nat} {release release' : Date}
    (h : releaseDate year d = .ok release) (h' : releaseDate year (d + 1) = .ok release') :
    release' = release.next := by
  obtain ⟨-, -, hyear, hmonth, hday⟩ := releaseDate_ok h
  obtain ⟨-, -, hyear', hmonth', hday'⟩ := releaseDate_ok h'
  rw [← Date.dayNumber_inj, Date.dayNumber_next, Date.dayNumber, Date.dayNumber, hyear', hmonth',
    hday', hyear, hmonth, hday]
  omega

section Entries

variable {year : Int} {today : Date} {entries : List (Nat × Date)}

theorem isChain_dates {day n : Nat} (hdays : entries.map Prod.fst = List.range' day n)
    (hall : ∀ e ∈ entries, releaseDate year e.1 = .ok e.2) :
    (entries.map Prod.snd).IsChain fun a b => b = a.next := by
  induction entries generalizing day n with
  | nil => exact .nil
  | cons e rest ih =>
    obtain ⟨-, -, hrest⟩ := List.range'_eq_cons_iff.mp hdays.symm
    have hchain := ih hrest fun e he => hall e (List.mem_cons_of_mem _ he)
    cases rest with
    | nil => exact .singleton _
    | cons e' rest =>
      obtain ⟨hsecond, -, -⟩ := List.range'_eq_cons_iff.mp hrest.symm
      have h := hall e List.mem_cons_self
      have h' := hall e' (List.mem_cons_of_mem _ List.mem_cons_self)
      rw [← hsecond] at h'
      exact .cons_cons (releaseDate_succ h h') hchain

theorem pairwise_dates (h : schedule year = .ok entries) :
    entries.Pairwise fun e e' => e.2 < e'.2 := by
  obtain ⟨hdays, hall⟩ := schedule_ok h
  have hsorted : (entries.map Prod.fst).Pairwise (· < ·) := by
    rw [hdays]
    exact List.pairwise_lt_range'
  refine (List.pairwise_map.mp hsorted).imp_of_mem fun he he' hlt => ?_
  exact releaseDate_lt (hall _ he) (hall _ he') hlt

/-! ## The days that have come -/

/-- Where nothing that fails `p` comes before something that satisfies it, stopping at the first
failure loses nothing. -/
theorem takeWhile_eq_filter {α : Type} {p : α → Bool} {l : List α}
    (h : l.Pairwise fun a b => p b = true → p a = true) : l.takeWhile p = l.filter p := by
  induction l with
  | nil => rfl
  | cons a l ih =>
    obtain ⟨hfirst, hrest⟩ := List.pairwise_cons.mp h
    by_cases ha : p a = true
    · rw [List.takeWhile_cons_of_pos ha, List.filter_cons_of_pos ha, ih hrest]
    · rw [List.takeWhile_cons_of_neg ha, List.filter_cons_of_neg ha, eq_comm, List.filter_eq_nil_iff]
      exact fun b hb hpb => ha (hfirst b hb hpb)

theorem untilFuture_eq_filter (h : schedule year = .ok entries) (today : Date) :
    untilFuture today entries = entries.filter fun e => e.2 ≤ today := by
  have hsame : (fun e : Nat × Date => !decide (today < e.2)) = fun e => decide (e.2 ≤ today) :=
    funext fun e => decide_not.symm
  rw [untilFuture, hsame]
  refine takeWhile_eq_filter ((pairwise_dates h).imp fun {e e'} hlt hle => ?_)
  rw [decide_eq_true_eq, Date.le_iff_dayNumber_le] at hle ⊢
  rw [Date.lt_iff_dayNumber_lt] at hlt
  omega

theorem map_fst_untilFuture (h : schedule year = .ok entries) (today : Date) :
    (untilFuture today entries).map Prod.fst = List.range' 1 (releasedCount year today) := by
  have hreleased : ∀ e ∈ entries, decide (e.2 ≤ today) = isReleased year today e.1 := by
    intro e he
    rw [Bool.eq_iff_iff, isReleased_of_mem_schedule h he]
    exact decide_eq_true_iff
  have hinitial : days.Pairwise fun d d' => isReleased year today d' = true →
      isReleased year today d = true :=
    (List.pairwise_lt_range' (s := 1) (n := 25)).imp_of_mem fun hd _ hlt =>
      isReleased_of_le (mem_days.mp hd).1 (Nat.le_of_lt hlt)
  calc (untilFuture today entries).map Prod.fst
      = (entries.filter fun e => isReleased year today e.1).map Prod.fst := by
        rw [untilFuture_eq_filter h, List.filter_congr hreleased]
    _ = days.filter (isReleased year today) := by
        rw [← (schedule_ok h).1, List.filter_map]
        rfl
    _ = days.takeWhile (isReleased year today) := (takeWhile_eq_filter hinitial).symm
    _ = List.range' 1 (releasedCount year today) := takeWhile_isReleased year today

/-- Within the calendar, a day of the event is out in later years, and in its own from its day of
December on. -/
theorem isReleased_iff_fields (hy : Calendar.minYear ≤ year ∧ year ≤ Calendar.maxYear) {day : Nat}
    (hday : day ∈ days) :
    isReleased year today day = true ↔
      year < today.year ∨ today.year = year ∧ today.month = 12 ∧ day ≤ today.day := by
  rw [mem_days] at hday
  obtain ⟨release, hr⟩ := exists_releaseDate hy ⟨hday.1, by omega⟩
  obtain ⟨-, -, hyear, hmonth, hday'⟩ := releaseDate_ok hr
  have htoday := today.month_bounds
  rw [isReleased_of_ok hr]
  change ¬ Date.Before today release ↔ _
  rw [Date.Before, hyear, hday', show release.month = 12 from hmonth]
  omega

/-- How many days are out follows from which are. -/
theorem releasedCount_eq (hy : Calendar.minYear ≤ year ∧ year ≤ Calendar.maxYear) {n : Nat}
    (hn : n ≤ 25) (h : ∀ day, 1 ≤ day → day ≤ 25 →
      (year < today.year ∨ today.year = year ∧ today.month = 12 ∧ day ≤ today.day ↔ day ≤ n)) :
    releasedCount year today = n := by
  have hle := releasedCount_le year today
  have hout : ∀ day, 1 ≤ day → day ≤ 25 → (day ≤ releasedCount year today ↔ day ≤ n) := by
    intro day hfirst hlast
    have hday : day ∈ days := mem_days.mpr ⟨hfirst, hlast⟩
    rw [← isReleased_iff_le hday, isReleased_iff_fields hy hday, h day hfirst hlast]
  rcases Nat.lt_trichotomy (releasedCount year today) n with hlt | heq | hgt
  · have := (hout n (by omega) hn).mpr (Nat.le_refl n)
    omega
  · exact heq
  · have := (hout (releasedCount year today) (by omega) hle).mp (Nat.le_refl _)
    omega

end Entries

/-! ## The law -/

/-- The days of December, each with its date. -/
structure IsDecember (year : Int) (entries : List (Nat × Date)) : Prop where
  days : entries.map Prod.fst = List.range' 1 25
  dates : ∀ e ∈ entries, e.2.year = year ∧ e.2.month = 12 ∧ e.2.day = e.1
  increasing : (entries.map Prod.snd).Pairwise (· < ·)
  successive : (entries.map Prod.snd).IsChain fun a b => b = a.next

/-- The entries before the first one to come, on the date `today`. -/
structure Selects (year : Int) (entries : List (Nat × Date)) (today : Date) : Prop where
  /-- None of the entries that have come stands after one that has not. -/
  filter : untilFuture today entries = entries.filter fun e => e.2 ≤ today
  /-- They are the days that a download visits. -/
  download : ∀ {σ : Type} (answer : Request → σ → Except Failure Response × σ) (o : Options)
    (c : Credential) (w w' : Machine σ) (report : Report), o.year = year →
    (Download.fetchInputs Machine.host (Machine.transport answer) o c today).run w =
      (.ok report, w') →
    report.written = (untilFuture today entries).map fun e => Download.file o e.1
  later_year : year < today.year → (untilFuture today entries).length = 25
  earlier_year : today.year < year → (untilFuture today entries).length = 0
  before_december : today.year = year → today.month < 12 → (untilFuture today entries).length = 0
  december : today.year = year → today.month = 12 →
    (untilFuture today entries).length = min today.day 25

section Law

variable {year : Int} {entries : List (Nat × Date)}

theorem isDecember_of_schedule (h : schedule year = .ok entries) : IsDecember year entries where
  days := (schedule_ok h).1
  dates e he := by
    obtain ⟨-, -, hfields⟩ := releaseDate_ok ((schedule_ok h).2 e he)
    exact hfields
  increasing := List.pairwise_map.mpr (pairwise_dates h)
  successive := isChain_dates (schedule_ok h).1 (schedule_ok h).2

theorem written_of_schedule (h : schedule year = .ok entries) {σ : Type}
    {answer : Request → σ → Except Failure Response × σ} {o : Options} {c : Credential} {today : Date}
    {w w' : Machine σ} {report : Report} (hyear : o.year = year)
    (hrun : (Download.fetchInputs Machine.host (Machine.transport answer) o c today).run w =
      (.ok report, w')) :
    report.written = (untilFuture today entries).map fun e => Download.file o e.1 := by
  obtain ⟨visits, course⟩ := Download.course_of_fetchInputs hrun
  obtain ⟨hlen, hwritten, -⟩ := course.of_ok
  have hdays : visits.map Download.Visit.day = (untilFuture today entries).map Prod.fst := by
    rw [course.days_eq.1, hlen, hyear, map_fst_untilFuture h]
  have hfiles := congrArg (List.map (Download.file o)) hdays
  rw [List.map_map, List.map_map] at hfiles
  exact hwritten.trans hfiles

theorem selects_of_schedule (hy : Calendar.minYear ≤ year ∧ year ≤ Calendar.maxYear)
    (h : schedule year = .ok entries) (today : Date) : Selects year entries today := by
  have hlength : (untilFuture today entries).length = releasedCount year today := by
    simpa using congrArg List.length (map_fst_untilFuture h today)
  refine ⟨untilFuture_eq_filter h today,
    fun _ _ _ _ _ _ hyear hrun => written_of_schedule h hyear hrun, ?_, ?_, ?_, ?_⟩
  all_goals rw [hlength]
  · intro hlater
    exact releasedCount_eq hy (Nat.le_refl 25) fun day hfirst hlast => by omega
  · intro hearlier
    exact releasedCount_eq hy (Nat.zero_le 25) fun day hfirst hlast => by omega
  · intro hsame hbefore
    exact releasedCount_eq hy (Nat.zero_le 25) fun day hfirst hlast => by omega
  · intro hsame hmonth
    exact releasedCount_eq hy (Nat.min_le_right _ 25) fun day hfirst hlast => by omega

/-- Every year of the calendar has its schedule, and on every date a beginning of it has come. -/
theorem schedule_of_year (year : Int) :
    ((∃ entries, schedule year = .ok entries) ↔ -262143 ≤ year ∧ year ≤ 262142) ∧
    (¬ (-262143 ≤ year ∧ year ≤ 262142) → schedule year = .error (.yearInvalid year 1)) ∧
    ∀ entries, schedule year = .ok entries →
      IsDecember year entries ∧ ∀ today, Selects year entries today := by
  have hyear : ∀ entries, schedule year = .ok entries → -262143 ≤ year ∧ year ≤ 262142 := by
    intro entries h
    by_contra hno
    cases h.symm.trans (schedule_of_year_invalid hno)
  refine ⟨⟨fun ⟨entries, h⟩ => hyear entries h, exists_schedule⟩, schedule_of_year_invalid, ?_⟩
  intro entries h
  exact ⟨isDecember_of_schedule h, selects_of_schedule (hyear entries h) h⟩

end Law

end PuzzleInputs.Puzzle
