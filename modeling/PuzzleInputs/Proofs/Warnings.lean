import Mathlib
import PuzzleInputs.Proofs.ConfigFiles
import PuzzleInputs.Proofs.Telling

/-!
# Warnings about config files

A config file that is text and is passed over has a warning of its own, once, whatever the program goes
on to do; no other line of the program is a warning (`execute_announces`). A file that is not text is
passed over without a word (`passes_over_silently`).
-/

namespace PuzzleInputs

/-- There is a file with these bytes at the path. -/
def Disk.HasFile (d : Disk) (p : Path) (bytes : ByteArray) : Prop :=
  ∃ l, d.locate p = .ok l ∧ d.node? l = some (.file bytes)

theorem Disk.HasFile.unique {d : Disk} {p : Path} {bytes bytes' : ByteArray}
    (h : d.HasFile p bytes) (h' : d.HasFile p bytes') : bytes = bytes' := by
  have hread := Disk.read_eq_ok.mpr h
  rw [Disk.read_eq_ok.mpr h'] at hread
  exact (Except.ok.inj hread).symm

/-! ## Lines that are warnings -/

/-- The warning about a config file. -/
def warningOf (p : Path) : String := s!"Warning: Failed to parse {p.text}"

/-- The line of an event, if it is a warning. -/
def Event.warning? : Event → Option String
  | .complain line => if "Warning: ".toList <+: line.toList then some line else none
  | _ => none

/-- The warnings among the events. -/
def warningsIn (events : List Event) : List String := events.filterMap Event.warning?

theorem toList_warningOf (p : Path) :
    (warningOf p).toList = "Warning: Failed to parse ".toList ++ p.text.toList :=
  String.toList_append

theorem warningOf_injective : Function.Injective warningOf := by
  intro p q h
  have hlists := congrArg String.toList h
  rw [toList_warningOf, toList_warningOf, List.append_cancel_left_eq, String.toList_inj] at hlists
  exact congrArg Path.mk hlists

theorem warning?_warningOf (p : Path) :
    Event.warning? (.complain (warningOf p)) = some (warningOf p) := by
  refine if_pos ?_
  rw [toList_warningOf]
  have hwords : "Warning: ".toList <+: "Warning: Failed to parse ".toList := by decide
  exact hwords.trans (List.prefix_append _ _)

/-- The first two characters of a line, which tell a warning from all other lines. -/
def firstTwo (line : String) : List Char := line.toList.take 2

theorem firstTwo_append {a b : String} {x y : Char} (h : firstTwo a = [x, y]) :
    firstTwo (a ++ b) = [x, y] := by
  have hlen : 2 ≤ a.toList.length := by
    have := congrArg List.length h
    simp only [firstTwo, List.length_take, List.length_cons, List.length_nil] at this
    omega
  rw [firstTwo, String.toList_append, List.take_append_of_le_length hlen]
  exact h

theorem warning?_of_firstTwo {line : String} (h : firstTwo line ≠ ['W', 'a']) :
    Event.warning? (.complain line) = none := by
  refine if_neg fun hprefix => h ?_
  obtain ⟨rest, hrest⟩ := hprefix
  rw [firstTwo, ← hrest]
  rfl

theorem Failure.warning?_message (e : Failure) : Event.warning? (.complain e.message) = none := by
  have hfirst : ∃ cs ∈ [['C', 'o'], ['I', 'n'], ['S', 'e'], ['U', 'n']], firstTwo e.message = cs := by
    cases e with
    | credentialUnreadable | outputDirectory | transport | body | write =>
      exact ⟨['C', 'o'], by decide, firstTwo_append (firstTwo_append (firstTwo_append rfl))⟩
    | status =>
      refine ⟨['C', 'o'], by decide, ?_⟩
      exact firstTwo_append (firstTwo_append (firstTwo_append (firstTwo_append rfl)))
    | credentialEmpty | accountEmpty =>
      exact ⟨['S', 'e'], by decide, firstTwo_append (firstTwo_append rfl)⟩
    | accountUnknown => exact ⟨['U', 'n'], by decide, firstTwo_append (firstTwo_append rfl)⟩
    | yearInvalid =>
      refine ⟨['I', 'n'], by decide, ?_⟩
      exact firstTwo_append (firstTwo_append (firstTwo_append (firstTwo_append rfl)))
    | zoneUnknown => exact ⟨['I', 'n'], by decide, firstTwo_append rfl⟩
  obtain ⟨cs, hcs, heq⟩ := hfirst
  refine warning?_of_firstTwo fun hw => ?_
  rw [heq] at hw
  subst hw
  exact absurd hcs (by decide)

/-- The levels of the log are in capitals. -/
theorem Log.Entry.warning?_shownLine (e : Log.Entry) :
    Event.warning? (.complain e.shownLine) = none := by
  have hname : ∃ y, y ≠ 'a' ∧ ∃ x, firstTwo e.level.name = [x, y] := by
    cases e.level with
    | error => exact ⟨'R', by decide, _, rfl⟩
    | warn => exact ⟨'A', by decide, _, rfl⟩
    | info => exact ⟨'N', by decide, _, rfl⟩
    | debug => exact ⟨'E', by decide, _, rfl⟩
    | trace => exact ⟨'R', by decide, _, rfl⟩
  obtain ⟨y, hy, x, hxy⟩ := hname
  refine warning?_of_firstTwo ?_
  rw [Log.Entry.shownLine, firstTwo_append (firstTwo_append hxy)]
  simp [hy]

/-! ## Files that are passed over -/

namespace Config

/-- The path is one of the list and comes before the one that was loaded, if any was. -/
def PassedOver (paths : List Path) (config : Config) (p : Path) : Prop :=
  ∃ before after, paths = before ++ p :: after ∧ ∀ q, config.loadedFrom = some q → q ∈ after

variable {d : Disk} {paths rest : List Path} {config : Config} {p q x : Path}

theorem passedOver_cons : PassedOver (x :: rest) config p ↔
    (p = x ∧ ∀ q, config.loadedFrom = some q → q ∈ rest) ∨ PassedOver rest config p := by
  constructor
  · rintro ⟨before, after, hpaths, hlater⟩
    rcases List.cons_eq_append_iff.mp hpaths with ⟨-, heq⟩ | ⟨before', rfl, hrest⟩
    · cases heq
      exact .inl ⟨rfl, hlater⟩
    · exact .inr ⟨before', after, hrest, hlater⟩
  · rintro (⟨rfl, hlater⟩ | ⟨before, after, rfl, hlater⟩)
    · exact ⟨[], rest, rfl, hlater⟩
    · exact ⟨x :: before, after, rfl, hlater⟩

/-- All that can come of the first file of a list. -/
theorem found_cons_cases (d : Disk) (x : Path) (rest : List Path) :
    ((∀ text : String, ¬ d.HasFile x text.toUTF8) ∧ found d (x :: rest) = found d rest) ∨
    (∃ config, config.loadedFrom = some x ∧ found d (x :: rest) = ⟨config, []⟩) ∨
    ((∃ text : String, d.HasFile x text.toUTF8) ∧
      found d (x :: rest) = { found d rest with rejected := x :: (found d rest).rejected }) := by
  rw [found]
  cases hread : d.readText x with
  | error e =>
    refine .inl ⟨fun text hfile => ?_, rfl⟩
    rw [Disk.readText_eq_ok.mpr (Disk.read_eq_ok.mpr hfile)] at hread
    cases hread
  | ok text =>
    have hfile : d.HasFile x text.toUTF8 := Disk.read_eq_ok.mp (Disk.readText_eq_ok.mp hread)
    cases hparse : parse? x text with
    | some config => exact .inr (.inl ⟨config, parse?_loadedFrom hparse, by simp only [hparse]⟩)
    | none => exact .inr (.inr ⟨⟨text, hfile⟩, by simp only [hparse]⟩)

/-- What is loaded comes from the list. -/
theorem mem_of_loadedFrom (h : (found d paths).config.loadedFrom = some q) : q ∈ paths := by
  induction paths with
  | nil => cases h
  | cons x rest ih =>
    rcases found_cons_cases d x rest with ⟨-, hfound⟩ | ⟨config, hfrom, hfound⟩ | ⟨-, hfound⟩
    · rw [hfound] at h
      exact List.mem_cons_of_mem x (ih h)
    · rw [hfound] at h
      cases hfrom.symm.trans h
      exact List.mem_cons_self
    · rw [hfound] at h
      exact List.mem_cons_of_mem x (ih h)

theorem rejected_sublist (d : Disk) (paths : List Path) : (found d paths).rejected.Sublist paths := by
  induction paths with
  | nil => exact List.Sublist.slnil
  | cons x rest ih =>
    rcases found_cons_cases d x rest with ⟨-, hfound⟩ | ⟨config, -, hfound⟩ | ⟨-, hfound⟩
    · rw [hfound]
      exact ih.cons x
    · rw [hfound]
      exact List.nil_sublist _
    · rw [hfound]
      exact ih.cons_cons x

/-- The rejected files are those that are text and were passed over. -/
theorem mem_rejected (hnodup : paths.Nodup) : p ∈ (found d paths).rejected ↔
    PassedOver paths (found d paths).config p ∧ ∃ text : String, d.HasFile p text.toUTF8 := by
  induction paths with
  | nil =>
    constructor
    · intro h
      cases h
    · rintro ⟨⟨before, after, hpaths, -⟩, -⟩
      simp at hpaths
  | cons x rest ih =>
    rw [List.nodup_cons] at hnodup
    obtain ⟨hx, hrest⟩ := hnodup
    have hlater : ∀ q, (found d rest).config.loadedFrom = some q → q ∈ rest :=
      fun q => mem_of_loadedFrom
    rcases found_cons_cases d x rest with ⟨hnone, hfound⟩ | ⟨config, hfrom, hfound⟩ | ⟨hfile, hfound⟩
    · rw [hfound, ih hrest, passedOver_cons]
      constructor
      · exact fun ⟨hover, htext⟩ => ⟨.inr hover, htext⟩
      · rintro ⟨⟨rfl, -⟩ | hover, htext⟩
        · exact absurd htext (not_exists.mpr hnone)
        · exact ⟨hover, htext⟩
    · -- the first file was loaded, and nothing comes before it
      rw [hfound]
      constructor
      · intro h
        cases h
      · rintro ⟨hover, -⟩
        rcases passedOver_cons.mp hover with ⟨-, hq⟩ | ⟨before, after, rfl, hq⟩
        · exact absurd (hq x hfrom) hx
        · exact absurd (List.mem_append_right _ (List.mem_cons_of_mem _ (hq x hfrom))) hx
    · rw [hfound, List.mem_cons, ih hrest, passedOver_cons]
      constructor
      · rintro (rfl | ⟨hover, htext⟩)
        · exact ⟨.inl ⟨rfl, hlater⟩, hfile⟩
        · exact ⟨.inr hover, htext⟩
      · rintro ⟨⟨rfl, -⟩ | hover, htext⟩
        · exact .inl rfl
        · exact .inr ⟨hover, htext⟩

end Config

theorem Environment.nodup_configFiles (env : Environment) : env.configFiles.Nodup := by
  refine env.distinct_configFiles.imp fun {p q} hsame heq => ?_
  rw [heq, Path.same_refl] at hsame
  cases hsame

/-! ## The warnings of a program -/

namespace Download

variable {σ : Type} {decode : Http.Decoder} {serve : Http.Server σ} {o : Options} {c : Credential}
  {today : Date} {d d' : Disk} {s s' : σ} {visits : List Visit} {events : List Event}
  {result : Except Failure Report} {filter : Log.Filter} {v : Visit}

theorem warningsIn_shown (filter : Log.Filter) (entry : Log.Entry) :
    warningsIn (filter.shown entry) = [] := by
  unfold Log.Filter.shown
  split
  · exact List.filterMap_cons_none entry.warning?_shownLine
  · rfl

theorem Visit.Wired.warningsIn_events (h : v.Wired decode serve o c) : warningsIn (v.events o) = [] := by
  rw [warningsIn, List.filterMap_eq_nil_iff]
  intro e he
  rcases v.mem_events he with ⟨line, rfl⟩ | ⟨a, ha, he⟩ | ⟨pause, rfl⟩ | ⟨x, -, rfl⟩
  · rfl
  · have htraffic := h.isTraffic ha he
    cases e with
    | request r outcome => rfl
    | exchange message outcome => rfl
    | _ => cases htraffic
  · rfl
  · rfl

/-- A download warns of nothing. -/
theorem Course.warningsIn
    (h : Course filter.shown (Machine.noting (Machine.replies decode serve)) o c today d s visits
      events result d' s') : warningsIn events = [] := by
  rw [PuzzleInputs.warningsIn, h.filterMap_events (warningsIn_shown filter) fun _ _ => rfl,
    List.filterMap_flatMap, List.flatMap_eq_nil_iff]
  exact fun v hv => (h.wired hv).warningsIn_events

end Download

namespace Program

open Download

variable {σ : Type}

theorem warningsIn_append (es es' : List Event) :
    warningsIn (es ++ es') = warningsIn es ++ warningsIn es' :=
  List.filterMap_append

theorem warningsIn_warnings (rejected : List Path) :
    warningsIn (warnings rejected) = rejected.map warningOf := by
  induction rejected with
  | nil => rfl
  | cons p rejected ih =>
    show List.filterMap Event.warning? (.complain (warningOf p) :: warnings rejected) = _
    rw [List.filterMap_cons_some (warning?_warningOf p), List.map_cons]
    exact congrArg _ ih

theorem warningsIn_preface (rejected : List Path) (filter : Log.Filter) (entries : List Log.Entry) :
    warningsIn (warnings rejected ++ entries.flatMap filter.shown) = rejected.map warningOf := by
  have hlog : warningsIn (entries.flatMap filter.shown) = [] := by
    rw [warningsIn, List.filterMap_flatMap, List.flatMap_eq_nil_iff]
    exact fun entry _ => warningsIn_shown filter entry
  rw [warningsIn_append, hlog, warningsIn_warnings, List.append_nil]

theorem warningsIn_conclusion (args : Arguments) (result : Except Failure Report) :
    warningsIn (conclusion args result) = [] := by
  cases result with
  | error e => exact List.filterMap_cons_none e.warning?_message
  | ok report =>
    rw [conclusion]
    split
    · rfl
    · cases report.unreleased <;> rfl

/-- What is said in place of a run. -/
def explanation (usage : CommandLine.Usage) : Event :=
  match usage with
  | .notice _ => .print usage.message
  | _ => .complain usage.message

theorem warning?_explanation (usage : CommandLine.Usage) :
    Event.warning? (explanation usage) = none := by
  have hfirst : ∀ text, firstTwo text = ['e', 'r'] → Event.warning? (.complain text) = none := by
    intro text htext
    refine warning?_of_firstTwo ?_
    rw [htext]
    decide
  cases usage with
  | notice n => rfl
  | missingYear => exact hfirst _ rfl
  | unknownArgument | missingValue | repeated =>
    exact hfirst _ (firstTwo_append (firstTwo_append rfl))
  | conflict | unexpectedValue =>
    exact hfirst _ (firstTwo_append (firstTwo_append (firstTwo_append (firstTwo_append rfl))))
  | invalidValue =>
    refine hfirst _ ?_
    exact firstTwo_append (firstTwo_append (firstTwo_append (firstTwo_append (firstTwo_append rfl))))

/-- A program whose command line cannot be read says why, after the warnings. -/
theorem execute_explains {transport : Transport (StateM (Machine σ))} {env : Environment}
    {tokens : List String} {usage : CommandLine.Usage}
    (hread : CommandLine.read tokens = .error usage) (w : Machine σ) :
    (execute Machine.host transport env tokens).run w = (usage.exitCode, w.advance
      (warnings (Config.found w.disk env.configFiles).rejected ++ [explanation usage]) w.disk
      w.net) := by
  rw [execute, run_bind, load_eq_found]
  simp only
  rw [run_bind, warnRejected_run]
  simp only [hread]
  rw [← Machine.advance_advance w _ _ w.disk w.disk w.net w.net]
  cases usage with
  | notice n => exact congrArg (Prod.mk _) (Machine.record_eq_advance _ _)
  | _ => exact congrArg (Prod.mk _) (Machine.record_eq_advance _ _)

/-- The warnings of a program are those of the files it rejected, in order. -/
theorem warningsIn_execute (decode : Http.Decoder) (serve : Http.Server σ) (env : Environment)
    (tokens : List String) (w : Machine σ) :
    let transport := Machine.recorded (Http.transport decode (Machine.wire serve))
    warningsIn (w.eventsSince ((execute Machine.host transport env tokens).run w).2) =
      (Config.found w.disk env.configFiles).rejected.map warningOf := by
  intro transport
  cases hread : CommandLine.read tokens with
  | error usage =>
    rw [execute_explains hread, Machine.eventsSince_advance, warningsIn_append, warningsIn_warnings]
    have hexplanation : warningsIn [explanation usage] = [] :=
      List.filterMap_cons_none (warning?_explanation usage)
    rw [hexplanation, List.append_nil]
  | ok args =>
    have hload : ((Config.load Machine.host env.configFiles).run w).1 =
        Config.found w.disk env.configFiles := Config.load_result w env.configFiles
    simp only [transport, Machine.recorded_transport]
    rcases mainRun_course (Machine.noting (Machine.replies decode serve)) env args w with
      ⟨entries, e, hrun⟩ | ⟨entries, zone, c, visits, events, result, d', s', -, course, hrun⟩
    · rw [execute_run hread hrun, Machine.eventsSince_advance, warningsIn_append, warningsIn_preface,
        warningsIn_conclusion, List.append_nil, hload]
    · rw [execute_run hread hrun, Machine.eventsSince_advance, warningsIn_append, warningsIn_append,
        warningsIn_preface, course.warningsIn, warningsIn_conclusion, List.append_nil,
        List.append_nil, hload]

/-- Each config file that is text and was passed over has one warning, and nothing else has one. -/
structure Announces (d : Disk) (paths : List Path) (config : Config) (es : List Event) : Prop where
  warned : ∀ p (text : String), Config.PassedOver paths config p → d.HasFile p text.toUTF8 →
    (warningsIn es).count (warningOf p) = 1
  only : ∀ line ∈ warningsIn es, ∃ p, line = warningOf p ∧ Config.PassedOver paths config p ∧
    ∃ text : String, d.HasFile p text.toUTF8
  /-- A path without a file. -/
  absent : ∀ p, (∀ bytes, ¬ d.HasFile p bytes) → warningOf p ∉ warningsIn es
  /-- A file that is not text. -/
  silent : ∀ p bytes, d.HasFile p bytes → (∀ text : String, bytes ≠ text.toUTF8) →
    warningOf p ∉ warningsIn es

theorem announces_of_rejected {d : Disk} {paths rejected : List Path} {config : Config}
    {es : List Event} (hlines : warningsIn es = rejected.map warningOf) (hnodup : rejected.Nodup)
    (hmem : ∀ p, p ∈ rejected ↔
      Config.PassedOver paths config p ∧ ∃ text : String, d.HasFile p text.toUTF8) :
    Announces d paths config es := by
  have hwarned : ∀ p, warningOf p ∈ warningsIn es ↔ p ∈ rejected := by
    intro p
    rw [hlines]
    exact List.mem_map_of_injective warningOf_injective
  refine ⟨fun p text hover hfile => ?_, fun line hline => ?_, fun p hnone hp => ?_,
    fun p bytes hfile hbytes hp => ?_⟩
  · refine List.count_eq_one_of_mem ?_ ((hwarned p).mpr ((hmem p).mpr ⟨hover, text, hfile⟩))
    rw [hlines]
    exact hnodup.map warningOf_injective
  · rw [hlines] at hline
    obtain ⟨p, hp, rfl⟩ := List.mem_map.mp hline
    exact ⟨p, rfl, (hmem p).mp hp⟩
  · obtain ⟨-, text, htext⟩ := (hmem p).mp ((hwarned p).mp hp)
    exact hnone _ htext
  · obtain ⟨-, text, htext⟩ := (hmem p).mp ((hwarned p).mp hp)
    exact hbytes text (hfile.unique htext)

/-- The user is warned of the texts that are not used as a config, of each once. -/
theorem execute_announces (decode : Http.Decoder) (serve : Http.Server σ) (env : Environment)
    (tokens : List String) (w : Machine σ) :
    let transport := Machine.recorded (Http.transport decode (Machine.wire serve))
    let config := ((Config.load Machine.host env.configFiles).run w).1.config
    Announces w.disk env.configFiles config
      (w.eventsSince ((execute Machine.host transport env tokens).run w).2) := by
  intro transport config
  have hconfig : config = (Config.found w.disk env.configFiles).config :=
    congrArg Config.Loaded.config (Config.load_result w env.configFiles)
  rw [hconfig]
  refine announces_of_rejected (warningsIn_execute decode serve env tokens w) ?_ fun p => ?_
  · exact env.nodup_configFiles.sublist (Config.rejected_sublist _ _)
  · exact Config.mem_rejected env.nodup_configFiles

/-- A machine whose only candidate for a config is a byte that is no text. -/
def strayByte : Machine Unit where
  disk :=
    { workingDirectory := ["home"]
      entries := [(["home"], .directory), (["home", ".aocfetch.toml"], .file ⟨#[0xFF]⟩)] }
  clock := .epoch
  net := ()

/-- A file that was passed over, with nothing said about it or about anything else. -/
theorem passes_over_silently :
    let env : Environment := { home := some "/home" }
    let transport := Machine.recorded
      (Http.transport Http.Reply.payload (Machine.wire fun _ s => (.error .disconnected, s)))
    let config := ((Config.load Machine.host env.configFiles).run strayByte).1.config
    let es := strayByte.eventsSince ((execute Machine.host transport env ["--version"]).run strayByte).2
    config.loadedFrom = none ∧ complaintsIn es = [] ∧
      ¬ ∀ p bytes, Config.PassedOver env.configFiles config p → strayByte.disk.HasFile p bytes →
        warningOf p ∈ warningsIn es := by
  intro env transport config es
  have hnone : config.loadedFrom = none := by decide +kernel
  have hfiles : env.configFiles =
      [⟨"/home/.config/aocfetch/config.toml"⟩, ⟨"/home/.aocfetch.toml"⟩] := by decide +kernel
  have hover : Config.PassedOver env.configFiles config ⟨"/home/.aocfetch.toml"⟩ := by
    refine ⟨[_], [], hfiles, fun q hq => ?_⟩
    rw [hnone] at hq
    cases hq
  have hfile : strayByte.disk.HasFile ⟨"/home/.aocfetch.toml"⟩ ⟨#[0xFF]⟩ :=
    ⟨["home", ".aocfetch.toml"], by decide +kernel, by rfl⟩
  have hsilent : warningsIn es = [] := by decide +kernel
  refine ⟨hnone, by decide +kernel, fun hall => ?_⟩
  have hwarned := hall _ _ hover hfile
  rw [hsilent] at hwarned
  cases hwarned

end Program

end PuzzleInputs
