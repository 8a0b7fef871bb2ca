import Mathlib
import PuzzleInputs.Proofs.Disk
import PuzzleInputs.Proofs.Execution

/-!
# Which config file counts

`Usable d path config` says that the file at `path` is text, and that the text is `config`. Of a list
of paths the first with a usable file is loaded, and it alone: what the files before it hold, as long
as they are of no use, and what comes after it, does not matter (`LoadsFirst`).

The candidates of a run follow from two variables of its environment and from the account of the user,
whose home counts where none is set (`CandidatesOf`). No two of them are the same path.
-/

namespace PuzzleInputs

/-! ## One file more or less -/

namespace Disk

/-- The disks are the same but for what stands at `l`, and neither has a directory there. -/
structure ApartAt (d d' : Disk) (l : Location) : Prop where
  workingDirectory : d'.workingDirectory = d.workingDirectory
  elsewhere : ∀ l', l' ≠ l → d'.node? l' = d.node? l'
  noDirectory : d.node? l ≠ some .directory
  noDirectory' : d'.node? l ≠ some .directory

namespace ApartAt

variable {d d' : Disk} {l : Location}

theorem symm (h : ApartAt d d' l) : ApartAt d' d l where
  workingDirectory := h.workingDirectory.symm
  elsewhere l' hne := (h.elsewhere l' hne).symm
  noDirectory := h.noDirectory'
  noDirectory' := h.noDirectory

theorem keeps (h : ApartAt d d' l) : Keeps d d' where
  workingDirectory := h.workingDirectory
  directory l' hdir := by
    have hne : l' ≠ l := by
      rintro rfl
      exact h.noDirectory hdir
    rw [h.elsewhere l' hne, hdir]

theorem read (h : ApartAt d d' l) {p : Path} (hp : d.locate p ≠ .ok l) {bytes : ByteArray}
    (hr : d.read p = .ok bytes) : d'.read p = .ok bytes := by
  obtain ⟨l', hl', hnode⟩ := read_eq_ok.mp hr
  have hne : l' ≠ l := by
    rintro rfl
    exact hp hl'
  exact read_eq_ok.mpr ⟨l', h.keeps.locate hl', by rw [h.elsewhere l' hne, hnode]⟩

theorem read_iff (h : ApartAt d d' l) {p : Path} (hp : d.locate p ≠ .ok l) {bytes : ByteArray} :
    d'.read p = .ok bytes ↔ d.read p = .ok bytes := by
  constructor
  · apply h.symm.read
    intro hl
    exact hp (h.symm.keeps.locate hl)
  · exact h.read hp

end ApartAt

end Disk

/-! ## Loading -/

namespace Config

variable {σ : Type} {d d' : Disk} {path : Path} {config : Config}

theorem ofTable_path (p q : Path) (table : Toml.Table) :
    ofTable q table = (ofTable p table).map fun config => { config with loadedFrom := some q } := by
  simp [ofTable, Option.map_bind]

theorem parse?_path (p q : Path) (text : String) :
    parse? q text = (parse? p text).map fun config => { config with loadedFrom := some q } := by
  rw [parse?, parse?]
  cases Toml.parse? text with
  | none => rfl
  | some table => exact ofTable_path p q table

theorem parse?_loadedFrom {p : Path} {text : String} {config : Config}
    (h : parse? p text = some config) : config.loadedFrom = some p := by
  rw [parse?_path p p, Option.map_eq_some_iff] at h
  obtain ⟨config', -, rfl⟩ := h
  rfl

/-- The file at `path` is text, and the text is `config`. -/
def Usable (d : Disk) (path : Path) (config : Config) : Prop :=
  ∃ text : String, d.read path = .ok text.toUTF8 ∧ parse? path text = some config

theorem Usable.loadedFrom (h : Usable d path config) : config.loadedFrom = some path := by
  obtain ⟨text, -, hparse⟩ := h
  exact parse?_loadedFrom hparse

theorem found_of_usable (h : Usable d path config) (rest : List Path) :
    found d (path :: rest) = ⟨config, []⟩ := by
  obtain ⟨text, hread, hparse⟩ := h
  simp only [found, Disk.readText_eq_ok.mpr hread, hparse]

theorem found_of_unusable (h : ∀ config, ¬ Usable d path config) (rest : List Path) :
    (found d (path :: rest)).config = (found d rest).config := by
  rw [found]
  cases hread : d.readText path with
  | error e => rfl
  | ok text =>
    cases hparse : parse? path text with
    | some config => exact absurd ⟨text, Disk.readText_eq_ok.mp hread, hparse⟩ (h config)
    | none => simp only [hparse]

/-- Files of no use are passed over. -/
theorem found_append {before : List Path} (h : ∀ p ∈ before, ∀ config, ¬ Usable d p config)
    (rest : List Path) : (found d (before ++ rest)).config = (found d rest).config := by
  induction before with
  | nil => rfl
  | cons p before ih =>
    rw [List.cons_append, found_of_unusable (h p List.mem_cons_self)]
    exact ih fun q hq => h q (List.mem_cons_of_mem p hq)

theorem found_eq_default {paths : List Path} (h : ∀ p ∈ paths, ∀ config, ¬ Usable d p config) :
    (found d paths).config = {} := by
  have hnil := found_append h []
  rw [List.append_nil] at hnil
  exact hnil

/-- Only the files up to the one that is loaded are looked at. -/
theorem found_of_same {before after after' : List Path} (husable : Usable d path config)
    (h : ∀ p ∈ before ++ [path], ∀ text : String,
      d'.read p = .ok text.toUTF8 ↔ d.read p = .ok text.toUTF8) :
    found d' (before ++ path :: after') = found d (before ++ path :: after) := by
  induction before with
  | nil =>
    have husable' : Usable d' path config := by
      obtain ⟨text, hread, hparse⟩ := husable
      exact ⟨text, (h path (List.mem_singleton_self path) text).mpr hread, hparse⟩
    rw [List.nil_append, List.nil_append, found_of_usable husable, found_of_usable husable']
  | cons p before ih =>
    have hrest := ih fun q hq => h q (List.mem_cons_of_mem p hq)
    have hp := h p List.mem_cons_self
    simp only [← Disk.readText_eq_ok] at hp
    rw [List.cons_append, List.cons_append, found, found, hrest]
    cases hread : d.readText p with
    | ok text => rw [(hp text).mpr hread]
    | error e =>
      -- the fault may be another one, but the file is passed over all the same
      cases hread' : d'.readText p with
      | ok text =>
        rw [(hp text).mp hread'] at hread
        cases hread
      | error e' => rfl

/-- What is loaded on the machine from a list of paths. -/
structure LoadsFirst (w : Machine σ) (paths : List Path) : Prop where
  first : ∀ before path after config, paths = before ++ path :: after →
    (∀ p ∈ before, ∀ c, ¬ Usable w.disk p c) → Usable w.disk path config →
    ((load Machine.host paths).run w).1.config = config ∧ config.loadedFrom = some path
  default : (∀ p ∈ paths, ∀ c, ¬ Usable w.disk p c) →
    ((load Machine.host paths).run w).1.config = {}
  /-- Other files of no use in front of the one that is loaded. -/
  earlier : ∀ before path after config, paths = before ++ path :: after →
    (∀ p ∈ before, ∀ c, ¬ Usable w.disk p c) → Usable w.disk path config →
    ∀ w' : Machine σ, (∀ p ∈ before, ∀ c, ¬ Usable w'.disk p c) →
    w'.disk.read path = w.disk.read path →
    ((load Machine.host paths).run w').1.config = ((load Machine.host paths).run w).1.config
  /-- Other paths, and other files, behind the one that is loaded. -/
  later : ∀ before path after config, paths = before ++ path :: after → Usable w.disk path config →
    ∀ (after' : List Path) (w' : Machine σ),
    (∀ p ∈ before ++ [path], w'.disk.read p = w.disk.read p) →
    ((load Machine.host (before ++ path :: after')).run w').1 = ((load Machine.host paths).run w).1
  /-- A file is added, changed or deleted to which none of the paths so far leads. -/
  laterFile : ∀ before path after config, paths = before ++ path :: after →
    Usable w.disk path config → ∀ (w' : Machine σ) (l : Location),
    Disk.ApartAt w.disk w'.disk l → (∀ p ∈ before ++ [path], w.disk.locate p ≠ .ok l) →
    ((load Machine.host paths).run w').1 = ((load Machine.host paths).run w).1

/-- What comes of loading is what is found. -/
theorem load_result (w : Machine σ) (paths : List Path) :
    ((load Machine.host paths).run w).1 = found w.disk paths := by
  rw [Machine.host_eq_hostLogging, load_run]

theorem loadsFirst (w : Machine σ) (paths : List Path) : LoadsFirst w paths := by
  have hfirst : ∀ (w : Machine σ) before path after config,
      (∀ p ∈ before, ∀ c, ¬ Usable w.disk p c) → Usable w.disk path config →
      (found w.disk (before ++ path :: after)).config = config := by
    intro w before path after config hbefore husable
    rw [found_append hbefore, found_of_usable husable]
  refine ⟨?_, ?_, ?_, ?_, ?_⟩
  · rintro before path after config rfl hbefore husable
    rw [load_result]
    exact ⟨hfirst w _ _ _ _ hbefore husable, husable.loadedFrom⟩
  · intro h
    rw [load_result]
    exact found_eq_default h
  · rintro before path after config rfl hbefore husable w' hbefore' hread
    have husable' : Usable w'.disk path config := by
      obtain ⟨text, htext, hparse⟩ := husable
      exact ⟨text, hread.trans htext, hparse⟩
    rw [load_result, load_result, hfirst w _ _ _ _ hbefore husable,
      hfirst w' _ _ _ _ hbefore' husable']
  · rintro before path after config rfl husable after' w' hread
    rw [load_result, load_result]
    refine found_of_same husable fun p hp text => ?_
    rw [hread p hp]
  · rintro before path after config rfl husable w' l hapart hlocate
    rw [load_result, load_result]
    exact found_of_same husable fun p hp text => hapart.read_iff (hlocate p hp)

end Config

/-! ## Candidates -/

namespace Environment

variable {env : Environment} {home dir : Path}

/-- The text is there and names the directory. -/
def Names (text? : Option String) (dir : Path) : Prop := text? = some dir.text ∧ dir.text ≠ ""

/-- A home directory is set, or none is set and the account has one. -/
inductive HasHome (env : Environment) (home : Path) : Prop
  | set (named : Names env.home home) : HasHome env home
  | account (unset : ∀ dir, ¬ Names env.home dir) (named : Names env.accountHome home) :
      HasHome env home

/-- A config directory is set, and where it is does not hang on the working directory. -/
def HasConfigHome (env : Environment) (dir : Path) : Prop :=
  env.configHome = some dir.text ∧ dir.isAbsolute = true

def configFile (dir : Path) : Path := (dir.child "aocfetch").child "config.toml"

def hiddenFile (home : Path) : Path := home.child ".aocfetch.toml"

/-- The paths are the candidates, in order, whatever the two variables and the account are. -/
structure CandidatesOf (env : Environment) (paths : List Path) : Prop where
  neither : (∀ home, ¬ HasHome env home) → (∀ dir, ¬ HasConfigHome env dir) → paths = []
  configHome : (∀ home, ¬ HasHome env home) → ∀ dir, HasConfigHome env dir →
    paths = [configFile dir]
  home : ∀ home, HasHome env home → (∀ dir, ¬ HasConfigHome env dir) →
    paths = [configFile (home.child ".config"), hiddenFile home]
  both : ∀ home dir, HasHome env home → HasConfigHome env dir →
    (configFile (home.child ".config")).same (configFile dir) = false →
    paths = [configFile (home.child ".config"), configFile dir, hiddenFile home]
  bothSame : ∀ home dir, HasHome env home → HasConfigHome env dir →
    (configFile (home.child ".config")).same (configFile dir) = true →
    paths = [configFile (home.child ".config"), hiddenFile home]
  distinct : paths.Pairwise fun p q => p.same q = false

theorem directory?_eq_some {text? : Option String} :
    directory? text? = some dir ↔ Names text? dir := by
  cases text? with
  | none => simp [directory?, Names]
  | some text =>
    rw [directory?, Option.ite_none_left_eq_some, Option.some.injEq, String.isEmpty_iff]
    constructor
    · rintro ⟨hne, rfl⟩
      exact ⟨rfl, hne⟩
    · rintro ⟨htext, hne⟩
      cases htext
      exact ⟨hne, rfl⟩

theorem directory?_eq_none {text? : Option String} :
    directory? text? = none ↔ ∀ dir, ¬ Names text? dir := by
  rw [Option.eq_none_iff_forall_ne_some]
  exact forall_congr' fun dir => not_congr directory?_eq_some

theorem homeDirectory?_eq_some : env.homeDirectory? = some home ↔ HasHome env home := by
  rw [homeDirectory?, Option.or_eq_some_iff, directory?_eq_some, directory?_eq_none,
    directory?_eq_some]
  constructor
  · rintro (hset | ⟨hunset, hown⟩)
    · exact .set hset
    · exact .account hunset hown
  · rintro (hset | ⟨hunset, hown⟩)
    · exact .inl hset
    · exact .inr ⟨hunset, hown⟩

theorem homeDirectory?_of_none (h : ∀ home, ¬ HasHome env home) : env.homeDirectory? = none :=
  Option.eq_none_iff_forall_ne_some.mpr fun home hhome => h home (homeDirectory?_eq_some.mp hhome)

theorem configDirectory?_of_hasConfigHome (h : HasConfigHome env dir) :
    env.configDirectory? = some dir := by
  obtain ⟨hdir, habsolute⟩ := h
  have habsolute' : (Path.mk dir.text).isAbsolute = true := habsolute
  simp [configDirectory?, hdir, habsolute']

theorem configDirectory?_of_none (h : ∀ dir, ¬ HasConfigHome env dir) :
    env.configDirectory? = env.homeDirectory?.map (·.child ".config") := by
  unfold configDirectory?
  split
  · next text htext =>
    rw [if_neg fun habsolute => h ⟨text⟩ ⟨htext, habsolute⟩]
  · rfl

theorem configFiles_of_no_home (hhome : env.homeDirectory? = none) :
    env.configFiles = (env.configDirectory?.map configFile).toList := by
  unfold configFiles
  rw [hhome]
  cases env.configDirectory? <;> rfl

/-- The file of the config directory is left out if it is the one of the home directory. -/
theorem configFiles_of_home (hhome : env.homeDirectory? = some home)
    (hdir : env.configDirectory? = some dir) :
    env.configFiles = configFile (home.child ".config") ::
      (if (configFile (home.child ".config")).same (configFile dir) = true then [hiddenFile home]
        else [configFile dir, hiddenFile home]) := by
  have hcandidates : env.configFiles = configFile (home.child ".config") ::
      ((some (configFile dir)).filter fun path =>
        !(configFile (home.child ".config")).same path).toList ++ [hiddenFile home] := by
    have hname : "." ++ "aocfetch" ++ ".toml" = ".aocfetch.toml" := by decide +kernel
    simp only [configFiles, applicationName, hhome, hdir, hname, Option.map_some, Option.any_some,
      Option.toList_some, List.singleton_append, configFile, hiddenFile]
  rw [hcandidates, Option.filter_some]
  cases (configFile (home.child ".config")).same (configFile dir) <;> rfl

theorem configFile_same_hiddenFile (dir home : Path) :
    (configFile dir).same (hiddenFile home) = false := by
  rw [← Bool.not_eq_true]
  intro hs
  have hconfig : Path.IsName "config.toml" :=
    ⟨by decide, by decide, by decide, by decide, by decide +kernel⟩
  have hhidden : Path.IsName ".aocfetch.toml" :=
    ⟨by decide, by decide, by decide, by decide, by decide +kernel⟩
  exact absurd (Path.name_eq_of_same hconfig hhidden hs) (by decide)

theorem distinct_configFiles (env : Environment) :
    env.configFiles.Pairwise fun p q => p.same q = false := by
  cases hhome : env.homeDirectory? with
  | none =>
    rw [configFiles_of_no_home hhome]
    cases env.configDirectory? <;> simp
  | some home =>
    obtain ⟨dir, hdir⟩ : ∃ dir, env.configDirectory? = some dir := by
      by_cases hset : ∃ dir, HasConfigHome env dir
      · obtain ⟨dir, hset⟩ := hset
        exact ⟨dir, configDirectory?_of_hasConfigHome hset⟩
      · rw [configDirectory?_of_none (not_exists.mp hset), hhome]
        exact ⟨_, rfl⟩
    rw [configFiles_of_home hhome hdir]
    split
    · simp [configFile_same_hiddenFile]
    · next hsame => simpa [configFile_same_hiddenFile] using hsame

theorem candidatesOf_configFiles (env : Environment) : CandidatesOf env env.configFiles where
  neither hhome hdir := by
    have hnone := homeDirectory?_of_none hhome
    rw [configFiles_of_no_home hnone, configDirectory?_of_none hdir, hnone]
    rfl
  configHome hhome dir hdir := by
    rw [configFiles_of_no_home (homeDirectory?_of_none hhome),
      configDirectory?_of_hasConfigHome hdir]
    rfl
  home home hhome hdir := by
    have hsome := homeDirectory?_eq_some.mpr hhome
    have hown : env.configDirectory? = some (home.child ".config") := by
      rw [configDirectory?_of_none hdir, hsome]
      rfl
    rw [configFiles_of_home hsome hown, if_pos (Path.same_refl _)]
  both home dir hhome hdir hsame := by
    rw [configFiles_of_home (homeDirectory?_eq_some.mpr hhome)
      (configDirectory?_of_hasConfigHome hdir), hsame, if_neg Bool.false_ne_true]
  bothSame home dir hhome hdir hsame := by
    rw [configFiles_of_home (homeDirectory?_eq_some.mpr hhome)
      (configDirectory?_of_hasConfigHome hdir), if_pos hsame]
  distinct := distinct_configFiles env

-- an empty variable leaves the home to the account
example : configFiles { home := some "", accountHome := some "/root" } =
    [⟨"/root/.config/aocfetch/config.toml"⟩, ⟨"/root/.aocfetch.toml"⟩] := by
  decide +kernel

-- the same directory twice, written in two ways
example : configFiles { home := some "/home/", configHome := some "/home//./.config" } =
    [⟨"/home/.config/aocfetch/config.toml"⟩, ⟨"/home/.aocfetch.toml"⟩] := by
  decide +kernel

end Environment

/-- Of the candidates of an environment, and of any list of paths, the first with a usable file is
loaded. -/
theorem Config.load_first_usable {σ : Type} (w : Machine σ) :
    (∀ paths, LoadsFirst w paths) ∧
      ∀ env : Environment, Environment.CandidatesOf env env.configFiles :=
  ⟨loadsFirst w, Environment.candidatesOf_configFiles⟩

namespace Config

/-- A machine on which the first candidate has a wrong type in it and the second is in order. -/
def wrongTypeFirst : Machine Unit where
  disk :=
    { workingDirectory := ["home"]
      entries := [(["home"], .directory), (["home", ".config"], .directory),
        (["home", ".config", "aocfetch"], .directory),
        (["home", ".config", "aocfetch", "config.toml"],
          .file "account = \"main\"\nretries = \"many\"".toUTF8),
        (["home", ".aocfetch.toml"], .file "retries = 1".toUTF8)] }
  clock := .epoch
  net := ()

theorem unusable_wrongType (config : Config) :
    ¬ Usable wrongTypeFirst.disk ⟨"/home/.config/aocfetch/config.toml"⟩ config := by
  rintro ⟨text, hread, hparse⟩
  have hfile : wrongTypeFirst.disk.read ⟨"/home/.config/aocfetch/config.toml"⟩ =
      .ok "account = \"main\"\nretries = \"many\"".toUTF8 := by decide +kernel
  obtain rfl : text = "account = \"main\"\nretries = \"many\"" :=
    String.toByteArray_inj.mp (Except.ok.inj (hread.symm.trans hfile))
  have hnone : parse? ⟨"/home/.config/aocfetch/config.toml"⟩
      "account = \"main\"\nretries = \"many\"" = none := by decide +kernel
  rw [hnone] at hparse
  cases hparse

/-- Nothing is left of the account in the file that was passed over. -/
theorem load_first_usable_wrongTypeFirst :
    let paths := Environment.configFiles { home := some "/home" }
    ((load Machine.host paths).run wrongTypeFirst).1.config =
      { retries := some 1, loadedFrom := some ⟨"/home/.aocfetch.toml"⟩ } := by
  intro paths
  have hpaths : paths =
      [⟨"/home/.config/aocfetch/config.toml"⟩, ⟨"/home/.aocfetch.toml"⟩] := by decide +kernel
  have husable : Usable wrongTypeFirst.disk ⟨"/home/.aocfetch.toml"⟩
      { retries := some 1, loadedFrom := some ⟨"/home/.aocfetch.toml"⟩ } :=
    ⟨"retries = 1", by decide +kernel, by decide +kernel⟩
  refine (((load_first_usable wrongTypeFirst).1 _).first [_] _ [] _ hpaths ?_ husable).1
  intro p hp
  rw [List.mem_singleton.mp hp]
  exact unusable_wrongType

end Config

end PuzzleInputs
