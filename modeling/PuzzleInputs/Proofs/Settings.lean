import Mathlib
import PuzzleInputs.Program

/-!
# The layers of the settings

A setting comes from the command line, else from the config, else it is built in (`FromLayers`).
The two ways to name a credential are one setting: a layer that names one keeps those after it out
(`ChosenSource`). That leaves no doubt, as no command line names both (`read_exclusive`).

`Config.over` puts one config on top of another. To fill up arguments from one config and then from
another is to fill them up from the two as one.
-/

namespace PuzzleInputs

/-! ## One credential on a command line -/

namespace CommandLine

theorem read_ok {tokens : List String} {args : Arguments} (h : read tokens = .ok args) :
    ∃ done, checkCredential done = .ok () ∧ assemble done = .ok args := by
  unfold read at h
  cases hs : tokens.foldlM State.take {} with
  | error e => rw [hs] at h; cases h
  | ok s =>
    rw [hs] at h
    cases hf : s.flush with
    | error e => simp [hf, bind, Except.bind] at h
    | ok done =>
      cases hc : checkCredential done with
      | error e => simp [hf, hc, bind, Except.bind] at h
      | ok u => exact ⟨done, hc, by simpa [hf, hc, bind, Except.bind] using h⟩

/-- What passes the check does not hold both. -/
theorem checkCredential_ok {done : List Setting} (h : checkCredential done = .ok ()) (path : Path)
    (label : String) : .sessionFile path ∉ done ∨ .account label ∉ done := by
  by_contra hboth
  simp only [not_or, not_not] at hboth
  unfold checkCredential at h
  generalize hcredentials : done.filterMap _ = credentials at h
  have hfile : Valued.sessionFile ∈ credentials := by
    rw [← hcredentials]
    exact List.mem_filterMap.mpr ⟨_, hboth.1, rfl⟩
  have haccount : Valued.account ∈ credentials := by
    rw [← hcredentials]
    exact List.mem_filterMap.mpr ⟨_, hboth.2, rfl⟩
  -- two that differ are at least two
  rcases credentials with _ | ⟨first, _ | ⟨second, rest⟩⟩
  · cases hfile
  · rw [List.mem_singleton] at hfile haccount
    cases hfile.trans haccount.symm
  · cases h

/-- The credentials of the arguments are among the items. -/
theorem assemble_credentials {done : List Setting} {args : Arguments}
    (h : assemble done = .ok args) :
    (∀ path, args.sessionFile = some path → .sessionFile path ∈ done) ∧
      ∀ label, args.account = some label → .account label ∈ done := by
  unfold assemble at h
  split at h
  · cases h
  · cases h
    constructor
    · intro path hfile
      obtain ⟨setting, hmem, hpath⟩ := List.exists_of_findSome?_eq_some hfile
      split at hpath
      · cases hpath
        exact hmem
      · cases hpath
    · intro label haccount
      obtain ⟨setting, hmem, hlabel⟩ := List.exists_of_findSome?_eq_some haccount
      split at hlabel
      · cases hlabel
        exact hmem
      · cases hlabel

/-- No command line names a file and an account. -/
theorem read_exclusive {tokens : List String} {args : Arguments} (h : read tokens = .ok args) :
    args.sessionFile = none ∨ args.account = none := by
  obtain ⟨done, hcheck, hdone⟩ := read_ok h
  obtain ⟨hfiles, haccounts⟩ := assemble_credentials hdone
  cases hfile : args.sessionFile with
  | none => exact .inl rfl
  | some path =>
    cases haccount : args.account with
    | none => exact .inr rfl
    | some label =>
      rcases checkCredential_ok hcheck path label with hmem | hmem
      · exact absurd (hfiles path hfile) hmem
      · exact absurd (haccounts label haccount) hmem

end CommandLine

/-! ## Layers -/

/-- The value of the first of three layers that has one. -/
inductive FromLayers {α : Type} (given configured : Option α) (builtIn : α) : α → Prop where
  | given {v : α} : given = some v → FromLayers given configured builtIn v
  | configured {v : α} : given = none → configured = some v → FromLayers given configured builtIn v
  | builtIn : given = none → configured = none → FromLayers given configured builtIn builtIn

theorem fromLayers_getD {α : Type} (given configured : Option α) (builtIn : α) :
    FromLayers given configured builtIn ((given <|> configured).getD builtIn) := by
  cases given with
  | some v => exact .given rfl
  | none =>
    cases configured with
    | some v => exact .configured rfl rfl
    | none => exact .builtIn rfl rfl

theorem orElse_assoc {α : Type} (a b c : Option α) : ((a <|> b) <|> c) = (a <|> b <|> c) := by
  simp [Option.or_assoc]

/-- The source of the credential, layer by layer. -/
inductive ChosenSource (env : Environment) (args : Arguments) (config : Config) :
    Credential.Source → Prop where
  | givenAccount {label : String} : args.account = some label →
      ChosenSource env args config (.account label)
  | givenFile {path : Path} : args.sessionFile = some path →
      ChosenSource env args config (.file path)
  | configuredAccount {label : String} : args.account = none → args.sessionFile = none →
      config.account = some label → ChosenSource env args config (.account label)
  | configuredFile {path : Path} : args.account = none → args.sessionFile = none →
      config.account = none → config.sessionFile = some path →
      ChosenSource env args config (.file path)
  | usual : args.account = none → args.sessionFile = none → config.account = none →
      config.sessionFile = none → ChosenSource env args config (.file env.sessionFile)

/-- The two configs as one: the second counts where the first says nothing. The two ways to name a
credential are not taken apart. -/
def Config.over (first second : Config) : Config :=
  let named := first.sessionFile.isSome || first.account.isSome
  { first with
    sessionFile := if named then first.sessionFile else second.sessionFile
    account := if named then first.account else second.account
    outputDir := first.outputDir <|> second.outputDir
    timezone := first.timezone <|> second.timezone
    baseUrl := first.baseUrl <|> second.baseUrl
    userAgent := first.userAgent <|> second.userAgent
    retries := first.retries <|> second.retries
    verbose := first.verbose || second.verbose }

namespace Arguments

variable {env : Environment} {args : Arguments} {config : Config}

theorem withConfig_exclusive (h : args.sessionFile = none ∨ args.account = none) (config : Config) :
    (args.withConfig config).sessionFile = none ∨ (args.withConfig config).account = none := by
  cases hfile : args.sessionFile with
  | some path =>
    have haccount : args.account = none := by simpa [hfile] using h
    exact .inr (by simp [withConfig, hfile, haccount])
  | none =>
    cases haccount : args.account with
    | some label => exact .inl (by simp [withConfig, hfile, haccount])
    | none =>
      cases hconfig : config.account with
      | some label => exact .inl (by simp [withConfig, hfile, haccount, hconfig])
      | none => exact .inr (by simp [withConfig, hfile, haccount, hconfig])

theorem exists_chosenSource (env : Environment) (args : Arguments) (config : Config) :
    ∃ source, ChosenSource env args config source := by
  cases haccount : args.account with
  | some label => exact ⟨_, .givenAccount haccount⟩
  | none =>
    cases hfile : args.sessionFile with
    | some path => exact ⟨_, .givenFile hfile⟩
    | none =>
      cases haccount' : config.account with
      | some label => exact ⟨_, .configuredAccount haccount hfile haccount'⟩
      | none =>
        cases hfile' : config.sessionFile with
        | some path => exact ⟨_, .configuredFile haccount hfile haccount' hfile'⟩
        | none => exact ⟨_, .usual haccount hfile haccount' hfile'⟩

theorem credentialSource_of_chosen (h : args.sessionFile = none ∨ args.account = none)
    {source : Credential.Source} (hs : ChosenSource env args config source) :
    (args.withConfig config).credentialSource env = source := by
  cases hs with
  | givenAccount haccount => simp [credentialSource, withConfig, haccount]
  | givenFile hfile =>
    -- here an account beside the file would win
    have haccount : args.account = none := by simpa [hfile] using h
    simp [credentialSource, withConfig, haccount, hfile]
  | configuredAccount haccount hfile haccount' =>
    simp [credentialSource, withConfig, haccount, hfile, haccount']
  | configuredFile haccount hfile haccount' hfile' =>
    simp [credentialSource, withConfig, haccount, hfile, haccount', hfile']
  | usual haccount hfile haccount' hfile' =>
    simp [credentialSource, withConfig, haccount, hfile, haccount', hfile']

theorem credentialSource_iff (h : args.sessionFile = none ∨ args.account = none)
    {source : Credential.Source} :
    (args.withConfig config).credentialSource env = source ↔ ChosenSource env args config source := by
  constructor
  · rintro rfl
    obtain ⟨source, hs⟩ := exists_chosenSource env args config
    rw [credentialSource_of_chosen h hs]
    exact hs
  · exact credentialSource_of_chosen h

/-- A named credential keeps those of the config out. -/
theorem withConfig_of_named (h : args.sessionFile ≠ none ∨ args.account ≠ none) (config : Config)
    (sessionFile : Option Path) (account : Option String) :
    args.withConfig { config with sessionFile, account } = args.withConfig config := by
  have hnamed : (args.sessionFile.isSome || args.account.isSome) = true := by
    simpa [Option.isSome_iff_ne_none] using h
  simp [withConfig, hnamed]

/-- The credential is that of the first layer of the three that names one. -/
theorem withConfig_withConfig_credential (args : Arguments) (first second : Config) :
    ((args.withConfig first).withConfig second).sessionFile =
        (args.withConfig (first.over second)).sessionFile ∧
      ((args.withConfig first).withConfig second).account =
        (args.withConfig (first.over second)).account := by
  cases hfile : args.sessionFile with
  | some path => simp [withConfig, hfile]
  | none =>
    cases haccount : args.account with
    | some label => simp [withConfig, hfile, haccount]
    | none =>
      cases haccount' : first.account with
      | some label => simp [withConfig, Config.over, hfile, haccount, haccount']
      | none =>
        cases hfile' : first.sessionFile with
        | some path => simp [withConfig, Config.over, hfile, haccount, haccount', hfile']
        | none => simp [withConfig, Config.over, hfile, haccount, haccount', hfile']

/-- Filling up from one config and then from another is filling up from the two as one. -/
theorem withConfig_withConfig (args : Arguments) (first second : Config) :
    (args.withConfig first).withConfig second = args.withConfig (first.over second) := by
  obtain ⟨hfile, haccount⟩ := withConfig_withConfig_credential args first second
  unfold withConfig
  rw [Arguments.mk.injEq]
  exact ⟨rfl, hfile, haccount, orElse_assoc .., orElse_assoc .., orElse_assoc .., orElse_assoc ..,
    orElse_assoc .., Bool.or_assoc .., rfl⟩

theorem over_self (config : Config) : config.over config = config := by
  simp [Config.over]

/-- The zone of no text is the one that the text `local` means. -/
theorem parse_timezone (given configured : Option String) :
    ∃ text, FromLayers given configured "local" text ∧
      Zone.parse (given <|> configured) = Zone.parse (some text) := by
  refine ⟨_, fromLayers_getD given configured "local", ?_⟩
  cases given <|> configured with
  | some text => rfl
  | none => rfl

/-! ## All settings -/

/-- What the arguments and the config make of a run. -/
structure Layered (env : Environment) (args : Arguments) (config : Config) : Prop where
  exclusive : (args.withConfig config).sessionFile = none ∨ (args.withConfig config).account = none
  source : ∀ source, (args.withConfig config).credentialSource env = source ↔
    ChosenSource env args config source
  /-- Once a credential is given, those of the config do not matter. -/
  unaffected : args.sessionFile ≠ none ∨ args.account ≠ none →
    ∀ (sessionFile : Option Path) (account : Option String),
    args.withConfig { config with sessionFile, account } = args.withConfig config ∧
    ∀ {m : Type → Type} [Monad m] (host : Host m) (transport : Transport m),
      Program.run host transport env { config with sessionFile, account }
          (args.withConfig { config with sessionFile, account }) =
        Program.run host transport env config (args.withConfig config)
  outputDir : FromLayers args.outputDir config.outputDir ⟨"."⟩
    (Options.ofArguments (args.withConfig config)).outputDir
  timezone : ∃ text, FromLayers args.timezone config.timezone "local" text ∧
    Zone.parse (args.withConfig config).timezone = Zone.parse (some text)
  baseUrl : FromLayers args.baseUrl config.baseUrl "https://adventofcode.com"
    (Options.ofArguments (args.withConfig config)).baseUrl
  userAgent : FromLayers args.userAgent config.userAgent "aocfetch"
    (Options.ofArguments (args.withConfig config)).userAgent
  retries : FromLayers args.retries config.retries 0
    (Options.ofArguments (args.withConfig config)).retries
  verbose : (args.withConfig config).verbose = (args.verbose || config.verbose)
  year : (Options.ofArguments (args.withConfig config)).year = args.year
  quiet : (Options.ofArguments (args.withConfig config)).quiet = args.quiet
  again : (args.withConfig config).withConfig config = args.withConfig config
  further : ∀ second, (args.withConfig config).withConfig second =
    args.withConfig (config.over second)

/-- Every setting of a run is that of the first layer that has it. -/
theorem read_layered {tokens : List String} {args : Arguments}
    (h : CommandLine.read tokens = .ok args) (env : Environment) (config : Config) :
    Layered env args config := by
  have hone := CommandLine.read_exclusive h
  exact {
    exclusive := withConfig_exclusive hone config
    source := fun source => credentialSource_iff hone
    unaffected := fun hnamed sessionFile account => by
      have hsame := withConfig_of_named hnamed config sessionFile account
      refine ⟨hsame, fun host transport => ?_⟩
      rw [hsame]
      rfl
    outputDir := fromLayers_getD ..
    timezone := parse_timezone ..
    baseUrl := fromLayers_getD ..
    userAgent := fromLayers_getD ..
    retries := fromLayers_getD ..
    verbose := rfl
    year := rfl
    quiet := rfl
    again := by rw [withConfig_withConfig, over_self]
    further := withConfig_withConfig args config }

/-- A command line with a file and little else, over a config with an account. -/
theorem read_layered_sessionFile :
    let args : Arguments := { year := 2018, sessionFile := some ⟨"cookie"⟩, quiet := true }
    CommandLine.read ["-q", "--session-file", "cookie", "2018"] = .ok args ∧
      Layered {} args { account := some "alt", retries := some 3, verbose := true } := by
  intro args
  have hread : CommandLine.read ["-q", "--session-file", "cookie", "2018"] = .ok args := by
    decide +kernel
  exact ⟨hread, read_layered hread _ _⟩

end Arguments

end PuzzleInputs
