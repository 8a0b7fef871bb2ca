import Mathlib
import PuzzleInputs.Proofs.Disk.Overwriting
import PuzzleInputs.Proofs.Extension

/-!
# Downloads that are repeated

A transport is steady if it has one answer for each address, and that is an input. What a download
then does to the disk is told without it: `Filed` is the output directory and the files of the
released days, in turn (`filed_of_run`, `run_of_filed`). To do this up to an earlier date first changes
nothing (`Filed.split`), and neither does what the files held before (`Filed.alike`), so a download
can be made again, or in parts, with the same end (`fetchInputs_catch_up`).
-/

namespace PuzzleInputs.Download

/-! ## Files of days -/

/-- Writes the files of the days in turn. -/
def fileDays (o : Options) (content : Nat → ByteArray) (d : Disk) (days : List Nat) :
    Except IoFault Disk := days.foldlM (fun d day => d.write (file o day) (content day)) d

/-- The output directory has been created, if a day is released. -/
def Opened (o : Options) (today : Date) (d d' : Disk) : Prop :=
  if Puzzle.isReleased o.year today 1 then d.makeDirectories o.outputDir = (.ok (), d') else d' = d

/-- The files of all released days have been written. -/
def Filed (o : Options) (content : Nat → ByteArray) (today : Date) (d d' : Disk) : Prop :=
  ∃ d₁, Opened o today d d₁ ∧
    fileDays o content d₁ (List.range' 1 (Puzzle.releasedCount o.year today)) = .ok d'

section Files

variable {o : Options} {content : Nat → ByteArray} {today today' : Date} {d d' e e' : Disk}
  {days : List Nat}

theorem mem_days_of_le {n : Nat} (hn : n ≤ 25) : ∀ day ∈ List.range' 1 n, day ∈ Puzzle.days := by
  intro day hd
  rw [List.mem_range'_1] at hd
  rw [Puzzle.mem_days]
  omega

@[simp] theorem fileDays_nil : fileDays o content d [] = .ok d := rfl

theorem fileDays_cons (day : Nat) :
    fileDays o content d (day :: days) =
      (d.write (file o day) (content day)).bind fun d => fileDays o content d days :=
  List.foldlM_cons

theorem fileDays_append (days' : List Nat) :
    fileDays o content d (days ++ days') =
      (fileDays o content d days).bind fun d => fileDays o content d days' :=
  List.foldlM_append

/-- The files hold what was written to them, and nothing else has changed. -/
theorem fileDays_ok (h : fileDays o content d days = .ok d')
    (hdays : ∀ day ∈ days, day ∈ Puzzle.days) (hnodup : days.Nodup) :
    Disk.Alters d d' (days.map (file o)) [] ∧
      ∀ day ∈ days, d'.read (file o day) = .ok (content day) := by
  induction days generalizing d with
  | nil =>
    cases h
    exact ⟨.refl _, by simp⟩
  | cons day days ih =>
    rw [fileDays_cons] at h
    cases hw : d.write (file o day) (content day) with
    | error cause => rw [hw] at h; cases h
    | ok d₁ =>
      rw [hw] at h
      rw [List.nodup_cons] at hnodup
      have hday := hdays day List.mem_cons_self
      have hrest : ∀ day' ∈ days, day' ∈ Puzzle.days := fun x hx => hdays x (List.mem_cons_of_mem _ hx)
      obtain ⟨hwrote, hread⟩ := Disk.write_child_alters (Puzzle.fileName_isName hday) hw
      obtain ⟨halters, hreads⟩ := ih h hrest hnodup.2
      refine ⟨hwrote.trans halters, fun x hx => ?_⟩
      rcases List.mem_cons.mp hx with rfl | hx
      · exact read_file_of_alters halters hrest hday hnodup.1 hread
      · exact hreads x hx

/-- Files that hold their contents already are not changed by writing them. -/
theorem fileDays_same (hdays : ∀ day ∈ days, day ∈ Puzzle.days)
    (hreads : ∀ day ∈ days, d.read (file o day) = .ok (content day)) :
    fileDays o content d days = .ok d := by
  induction days with
  | nil => rfl
  | cons day days ih =>
    have hn := Puzzle.fileName_isName (hdays day List.mem_cons_self)
    have hw : d.write (file o day) (content day) = .ok d :=
      Disk.write_child_same hn (hreads day List.mem_cons_self)
    rw [fileDays_cons, hw]
    exact ih (fun x hx => hdays x (List.mem_cons_of_mem _ hx))
      fun x hx => hreads x (List.mem_cons_of_mem _ hx)

theorem fileDays_alike {files : List Path} (ha : Disk.AlikeBut files d e)
    (h : fileDays o content d days = .ok d') :
    ∃ e', fileDays o content e days = .ok e' ∧ Disk.AlikeBut files d' e' := by
  induction days generalizing d e with
  | nil =>
    cases h
    exact ⟨e, rfl, ha⟩
  | cons day days ih =>
    have hw := ha.write (file o day) (content day)
    rw [fileDays_cons] at h
    generalize d.write (file o day) (content day) = wrote at h hw
    cases hw' : e.write (file o day) (content day) with
    | error cause =>
      rw [hw'] at hw
      cases hw
      cases h
    | ok e₁ =>
      rw [hw'] at hw
      cases hw with
      | ok ha₁ =>
        rw [fileDays_cons, hw']
        exact ih ha₁ h

theorem opened_iff_of_out (hr : Puzzle.isReleased o.year today 1 = true) :
    Opened o today d d' ↔ d.makeDirectories o.outputDir = (.ok (), d') := by
  rw [Opened, if_pos hr]

theorem opened_iff_of_early (hr : Puzzle.isReleased o.year today 1 = false) :
    Opened o today d d' ↔ d' = d := by
  rw [Opened, if_neg (by simp [hr])]

theorem Opened.unique (h : Opened o today d d') (h' : Opened o today d e) : d' = e := by
  cases hr : Puzzle.isReleased o.year today 1 with
  | false =>
    rw [opened_iff_of_early hr] at h h'
    rw [h, h']
  | true =>
    rw [opened_iff_of_out hr] at h h'
    exact congrArg Prod.snd (h.symm.trans h')

theorem Opened.alike {files : List Path} (ha : Disk.AlikeBut files d e) (h : Opened o today d d') :
    ∃ e', Opened o today e e' ∧ Disk.AlikeBut files d' e' := by
  cases hr : Puzzle.isReleased o.year today 1 with
  | false =>
    rw [opened_iff_of_early hr] at h
    subst h
    exact ⟨e, (opened_iff_of_early hr).mpr rfl, ha⟩
  | true =>
    rw [opened_iff_of_out hr] at h
    obtain ⟨hresult, hdisk⟩ := ha.makeDirectories o.outputDir
    rw [h] at hresult hdisk
    exact ⟨(e.makeDirectories o.outputDir).2, (opened_iff_of_out hr).mpr (Prod.ext hresult rfl), hdisk⟩

/-- The file of each released day holds its content. -/
theorem Filed.read (h : Filed o content today d d') :
    ∀ day ∈ List.range' 1 (Puzzle.releasedCount o.year today),
      d'.read (file o day) = .ok (content day) := by
  obtain ⟨d₁, -, hf⟩ := h
  exact (fileDays_ok hf (mem_days_of_le (Puzzle.releasedCount_le _ _)) List.nodup_range').2

/-- To file the days up to an earlier date first makes no difference. -/
theorem Filed.split (hle : today ≤ today') (h : Filed o content today' d d') :
    ∃ e, Filed o content today d e ∧ Filed o content today' e d' := by
  have hcount := Puzzle.releasedCount_mono o.year hle
  have hmax := Puzzle.releasedCount_le o.year today'
  cases hr : Puzzle.isReleased o.year today 1 with
  | false =>
    have hzero : Puzzle.releasedCount o.year today = 0 := Puzzle.releasedCount_eq_zero.mpr hr
    exact ⟨d, ⟨d, (opened_iff_of_early hr).mpr rfl, by rw [hzero]; rfl⟩, h⟩
  | true =>
    obtain ⟨d₁, ho, hf⟩ := h
    have hr' := Puzzle.isReleased_mono hle hr
    rw [opened_iff_of_out hr'] at ho
    obtain ⟨more, hmore⟩ := Nat.exists_eq_add_of_le hcount
    rw [hmore, ← List.range'_append_1, fileDays_append] at hf
    cases hfirst : fileDays o content d₁ (List.range' 1 (Puzzle.releasedCount o.year today)) with
    | error cause => rw [hfirst] at hf; cases hf
    | ok e =>
      rw [hfirst] at hf
      have hdays := mem_days_of_le (hcount.trans hmax)
      obtain ⟨halters, hreads⟩ := fileDays_ok hfirst hdays List.nodup_range'
      refine ⟨e, ⟨d₁, (opened_iff_of_out hr).mpr ho, hfirst⟩, e, ?_, ?_⟩
      · -- the directory stands since the first time
        rw [opened_iff_of_out hr']
        exact Disk.makeDirectories_again ho halters.keeps
      · -- and the first files hold their contents
        rw [hmore, ← List.range'_append_1, fileDays_append, fileDays_same hdays hreads]
        exact hf

/-- What the files hold before makes no difference. -/
theorem Filed.alike {files : List Path} (ha : Disk.AlikeBut files d e)
    (h : Filed o content today d d') :
    ∃ e', Filed o content today e e' ∧ Disk.AlikeBut files d' e' := by
  obtain ⟨d₁, ho, hf⟩ := h
  obtain ⟨e₁, ho', ha₁⟩ := ho.alike ha
  obtain ⟨e', hf', ha'⟩ := fileDays_alike ha₁ hf
  exact ⟨e', ⟨e₁, ho', hf'⟩, ha'⟩

/-- Of disks that differ in the contents of the released days only, the same comes. -/
theorem Filed.node?_eq (h : Filed o content today d d') (h' : Filed o content today e e')
    (ha : Disk.AlikeBut ((List.range' 1 (Puzzle.releasedCount o.year today)).map (file o)) d' e')
    (l : Location) : e'.node? l = d'.node? l := by
  rcases ha.node l with he | ⟨bytes, bytes', hd, he, p, hp, hl⟩
  · exact he
  · obtain ⟨day, hday, rfl⟩ := List.mem_map.mp hp
    obtain ⟨l₁, hl₁, hn₁⟩ := Disk.read_eq_ok.mp (h.read day hday)
    obtain ⟨l₂, hl₂, hn₂⟩ := Disk.read_eq_ok.mp (h'.read day hday)
    rw [ha.locate] at hl₂
    cases hl.symm.trans hl₁
    cases hl.symm.trans hl₂
    rw [hn₁, hn₂]

end Files

/-! ## Steady transports -/

section Steady

variable {σ : Type} {answer : Request → σ → Except Failure Response × σ} {body : String → ByteArray}
  {o : Options} {c : Credential} {today today' : Date} {d d' : Disk} {s s' : σ} {visits : List Visit}
  {events : List Event} {result : Except Failure Report}

/-- Every request is answered with status 200 and the body that its address has. -/
def Steady (answer : Request → σ → Except Failure Response × σ) (body : String → ByteArray) : Prop :=
  ∀ r s, (answer r s).1 = .ok ⟨200, body r.url⟩

/-- The input of a day. -/
def input (o : Options) (body : String → ByteArray) (day : Nat) : ByteArray :=
  body (Puzzle.address o.baseUrl o.year day)

/-- The report of a download that succeeds. -/
def fullReport (o : Options) (today : Date) : Report where
  written := (List.range' 1 (Puzzle.releasedCount o.year today)).map (file o)
  unreleased := if Puzzle.releasedCount o.year today < 25
    then some (Puzzle.releasedCount o.year today + 1) else none

theorem Course.report_eq {report : Report} {logged : Log.Entry → List Event} {reply : Replier σ}
    (h : Course logged reply o c today d s visits events (.ok report) d' s') :
    report = fullReport o today := by
  obtain ⟨hlen, hwritten, -, hun⟩ := h.of_ok
  have hfiles : visits.map (fun v => file o v.day) = (visits.map Visit.day).map (file o) := by
    rw [List.map_map]
    rfl
  rw [hfiles, h.days_eq.1, hlen] at hwritten
  rw [hlen] at hun
  calc report = ⟨report.written, report.unreleased⟩ := rfl
    _ = fullReport o today := by rw [hwritten, hun, fullReport]

theorem Tries.steady (hs : Steady answer body) {r : Request} {attempt left : Nat}
    {answers : List Answer} {verdict : Except Failure ByteArray}
    (h : Tries Machine.logging (Machine.recording answer) o r attempt left s answers events verdict s') :
    verdict = .ok (body r.url) := by
  obtain ⟨init, a, rfl, rfl, -⟩ := h.exists_last
  obtain ⟨t, ht⟩ := h.answered a (by simp)
  rw [ht, hs, accept, if_pos rfl]

/-- The days in turn write the files of those before the first that is not released. -/
theorem Days.steady (hs : Steady answer body) {entries : List (Nat × Date)}
    (h : Days Machine.logging (Machine.recording answer) o c today entries d s visits events result
      d' s')
    (hout : ∀ e ∈ entries, Puzzle.isReleased o.year today e.1 = true ↔ ¬ today < e.2) (x : Disk) :
    fileDays o (input o body) d ((entries.map Prod.fst).takeWhile (Puzzle.isReleased o.year today)) =
        .ok x ↔ result.isOk = true ∧ d' = x := by
  induction h with
  | done => simp [Except.isOk, Except.toBool]
  | unreleased early =>
    have hnot := (not_congr (hout _ List.mem_cons_self)).mpr (not_not.mpr early)
    rw [List.map_cons, List.takeWhile_cons_of_neg hnot]
    simp [Except.isOk, Except.toBool]
  | refused out tries => cases tries.steady hs
  | unwritten out tries failed =>
    cases tries.steady hs
    have hday := (hout _ List.mem_cons_self).mpr out
    rw [List.map_cons, List.takeWhile_cons_of_pos hday, fileDays_cons, input]
    simp only [request] at failed
    rw [failed]
    simp [Except.bind, Except.isOk, Except.toBool]
  | written out tries wrote days ih =>
    cases tries.steady hs
    have hday := (hout _ List.mem_cons_self).mpr out
    rw [List.map_cons, List.takeWhile_cons_of_pos hday, fileDays_cons, input]
    simp only [request] at wrote
    rw [wrote, isOk_map]
    exact ih fun e he => hout e (List.mem_cons_of_mem _ he)

/-- Once the output directory is there, the days file what they have. -/
theorem Days.filed_iff (hs : Steady answer body) {entries : List (Nat × Date)} {d₁ : Disk}
    (schedule : Puzzle.schedule o.year = .ok entries) (ho : Opened o today d d₁)
    (h : Days Machine.logging (Machine.recording answer) o c today entries d₁ s visits events result
      d' s') (x : Disk) : Filed o (input o body) today d x ↔ result.isOk = true ∧ d' = x := by
  have hdays := h.steady hs (fun e he => Puzzle.isReleased_of_mem_schedule schedule he) x
  rw [(Puzzle.schedule_ok schedule).1, Puzzle.takeWhile_isReleased] at hdays
  rw [← hdays]
  constructor
  · rintro ⟨d₂, ho', hf⟩
    rw [ho.unique ho']
    exact hf
  · intro hf
    exact ⟨d₁, ho, hf⟩

/-- What a download from a steady transport does to the disk, unless it fails. -/
theorem Course.filed_iff (hs : Steady answer body)
    (h : Course Machine.logging (Machine.recording answer) o c today d s visits events result d' s')
    {entries : List (Nat × Date)} (hyear : Puzzle.schedule o.year = .ok entries) (x : Disk) :
    Filed o (input o body) today d x ↔ result.isOk = true ∧ d' = x := by
  cases h with
  | noSchedule schedule => rw [hyear] at schedule; cases schedule
  | noDirectory schedule out failed =>
    rw [Puzzle.head_schedule schedule] at out
    constructor
    · rintro ⟨d₁, ho, -⟩
      rw [opened_iff_of_out out, failed] at ho
      cases ho
    · rintro ⟨hok, -⟩
      cases hok
  | begun schedule out made days =>
    rw [Puzzle.head_schedule schedule] at out
    exact days.filed_iff hs schedule ((opened_iff_of_out out).mpr made) x
  | early schedule notOut days =>
    rw [Puzzle.head_schedule schedule] at notOut
    exact days.filed_iff hs schedule ((opened_iff_of_early notOut).mpr rfl) x

theorem Course.exists_schedule {logged : Log.Entry → List Event} {reply : Replier σ} {report : Report}
    (h : Course logged reply o c today d s visits events (.ok report) d' s') :
    ∃ entries, Puzzle.schedule o.year = .ok entries := by
  rcases h.cases_days with ⟨-, ⟨e, he⟩, -⟩ | ⟨entries, d₁, events', hyear, -⟩
  · cases he
  · exact ⟨entries, hyear⟩

variable {w w' : Machine σ} {report : Report}

theorem filed_of_run (hs : Steady answer body)
    (h : (fetchInputs Machine.host (Machine.transport answer) o c today).run w = (.ok report, w')) :
    (∃ entries, Puzzle.schedule o.year = .ok entries) ∧ report = fullReport o today ∧
      Filed o (input o body) today w.disk w'.disk := by
  obtain ⟨visits, course⟩ := course_of_fetchInputs h
  obtain ⟨entries, hyear⟩ := course.exists_schedule
  exact ⟨⟨entries, hyear⟩, course.report_eq, (course.filed_iff hs hyear w'.disk).mpr ⟨rfl, rfl⟩⟩

theorem run_of_filed (hs : Steady answer body) (hyear : ∃ entries, Puzzle.schedule o.year = .ok entries)
    (h : Filed o (input o body) today w.disk d') :
    ∃ w', (fetchInputs Machine.host (Machine.transport answer) o c today).run w =
      (.ok (fullReport o today), w') ∧ w'.disk = d' := by
  obtain ⟨entries, hyear⟩ := hyear
  obtain ⟨result, w', hrun⟩ :=
    exists_run (fetchInputs Machine.host (Machine.transport answer) o c today) w
  obtain ⟨visits, course⟩ := course_of_fetchInputs hrun
  obtain ⟨hok, hdisk⟩ := (course.filed_iff hs hyear d').mp h
  cases result with
  | error e => cases hok
  | ok report =>
    rw [course.report_eq] at hrun
    exact ⟨w', hrun, hdisk⟩

/-- What follows if the download `run today'` from `w` ends at `w'` with this report. -/
structure CaughtUp (run : Date → StateM (Machine σ) (Except Failure Report)) (o : Options)
    (body : String → ByteArray) (today today' : Date) (w w' : Machine σ) (report : Report) : Prop where
  /-- A download at the earlier date and one at the later date after it come to the same. -/
  in_two : ∃ report₁ w₁ w₂, (run today).run w = (.ok report₁, w₁) ∧
    (run today').run w₁ = (.ok report, w₂) ∧ w₂.disk = w'.disk
  /-- Made again, the download changes nothing. -/
  again : ∃ w₂, (run today').run w' = (.ok report, w₂) ∧ w₂.disk = w'.disk
  /-- The files hold the inputs, all of them and no more. -/
  content : ∀ day, 1 ≤ day → day ≤ Puzzle.releasedCount o.year today' →
    w'.disk.read (file o day) = .ok (input o body day)
  /-- From a machine on which these files held something else, the same comes. -/
  no_trace : ∀ u : Machine σ, Disk.AlikeBut
    ((List.range' 1 (Puzzle.releasedCount o.year today')).map (file o)) w.disk u.disk →
    ∃ u', (run today').run u = (.ok report, u') ∧
      u'.disk.workingDirectory = w'.disk.workingDirectory ∧
      ∀ l, u'.disk.node? l = w'.disk.node? l

/-- Where every address has its input, a download can be made in two parts or again, and old files
do not matter. -/
theorem fetchInputs_catch_up (hs : Steady answer body) (hle : today ≤ today')
    (h : (fetchInputs Machine.host (Machine.transport answer) o c today').run w = (.ok report, w')) :
    CaughtUp (fetchInputs Machine.host (Machine.transport answer) o c) o body today today' w w'
      report := by
  obtain ⟨hyear, rfl, hfiled⟩ := filed_of_run hs h
  have htwo : ∀ today₁, today₁ ≤ today' → ∃ w₁ w₂,
      (fetchInputs Machine.host (Machine.transport answer) o c today₁).run w =
        (.ok (fullReport o today₁), w₁) ∧
      (fetchInputs Machine.host (Machine.transport answer) o c today').run w₁ =
        (.ok (fullReport o today'), w₂) ∧ w₂.disk = w'.disk := by
    intro today₁ hle₁
    obtain ⟨d₁, hfirst, hsecond⟩ := hfiled.split hle₁
    obtain ⟨w₁, hrun₁, rfl⟩ := run_of_filed (c := c) hs hyear hfirst
    obtain ⟨w₂, hrun₂, hdisk⟩ := run_of_filed (c := c) hs hyear hsecond
    exact ⟨w₁, w₂, hrun₁, hrun₂, hdisk⟩
  refine ⟨?_, ?_, fun day h1 hday => ?_, fun u hu => ?_⟩
  · obtain ⟨w₁, w₂, htwo⟩ := htwo today hle
    exact ⟨_, w₁, w₂, htwo⟩
  · -- the first of two downloads at the same date is the one that was made
    obtain ⟨w₁, w₂, hrun₁, hrun₂, hdisk⟩ := htwo today' (Date.le_refl today')
    rw [h] at hrun₁
    cases hrun₁
    exact ⟨w₂, hrun₂, hdisk⟩
  · exact hfiled.read day (List.mem_range'_1.mpr (by omega))
  · obtain ⟨d₁, hfiled', halike⟩ := hfiled.alike hu
    obtain ⟨u', hrun, rfl⟩ := run_of_filed (c := c) hs hyear hfiled'
    exact ⟨u', hrun, halike.workingDirectory, hfiled.node?_eq hfiled' halike⟩

end Steady

/-- Each address has its own text for an input. -/
def echo (r : Request) (s : Unit) : Except Failure Response × Unit := (.ok ⟨200, r.url.toUTF8⟩, s)

theorem fetchInputs_catch_up_echo :
    Steady echo String.toUTF8 ∧ december1 ≤ december2 ∧
    ∃ report w', (fetchInputs Machine.host (Machine.transport echo) trialOptions ⟨"tok"⟩
        december2).run (trialMachine ()) = (.ok report, w') ∧
      report = ⟨[⟨"out/2018/input_01"⟩, ⟨"out/2018/input_02"⟩], some 3⟩ ∧
      CaughtUp (fetchInputs Machine.host (Machine.transport echo) trialOptions ⟨"tok"⟩) trialOptions
        String.toUTF8 december1 december2 (trialMachine ()) w' report := by
  have hsteady : Steady echo String.toUTF8 := fun _ _ => rfl
  have hle : december1 ≤ december2 := by decide
  have hok : ((fetchInputs Machine.host (Machine.transport echo) trialOptions ⟨"tok"⟩ december2).run
      (trialMachine ())).1 = .ok ⟨[⟨"out/2018/input_01"⟩, ⟨"out/2018/input_02"⟩], some 3⟩ := by
    decide +kernel
  obtain ⟨result, w', hrun⟩ := exists_run
    (fetchInputs Machine.host (Machine.transport echo) trialOptions ⟨"tok"⟩ december2) (trialMachine ())
  rw [hrun] at hok
  subst hok
  exact ⟨hsteady, hle, _, w', hrun, rfl, fetchInputs_catch_up hsteady hle hrun⟩

end PuzzleInputs.Download
