import Mathlib
import PuzzleInputs.Proofs.ConfigFiles
import PuzzleInputs.Proofs.Cookies

/-!
# The session token stays secret

Two programs on disks that differ in the session token alone do the same, to everyone but the server:
the same lines, complaints, pauses and files, and the same messages apart from their cookies
(`execute_keeps_secret`). The token goes out as the cookie of the messages that the requests for the
days begin with; the client leaves it out where it follows a redirect, be it back to the address of a
day (`redirect_drops_cookie`).
-/

namespace PuzzleInputs

/-! ## Files in other places -/

namespace Disk

variable {secret p q : Path} {d d' : Disk}

theorem AlikeBut.read (h : AlikeBut [secret] d d')
    (hp : ∀ l, d.locate p = .ok l → d.locate secret ≠ .ok l) : d'.read p = d.read p := by
  unfold Disk.read
  rw [h.locate]
  cases hl : d.locate p with
  | error e => rfl
  | ok l =>
    simp only [bind, Except.bind]
    rcases h.node l with he | ⟨bytes, bytes', -, -, q, hq, hql⟩
    · rw [he]
    · rw [List.mem_singleton.mp hq] at hql
      exact absurd hql (hp l hl)

theorem AlikeBut.readText (h : AlikeBut [secret] d d')
    (hp : ∀ l, d.locate p = .ok l → d.locate secret ≠ .ok l) : d'.readText p = d.readText p := by
  rw [Disk.readText, Disk.readText, h.read hp]

/-- A disk with something else in a file. -/
theorem alikeBut_insert {l : Location} {bytes : ByteArray} (hl : d.locate p = .ok l)
    (hnode : d.node? l = some (.file bytes)) (bytes' : ByteArray) :
    AlikeBut [p] d (d.insert l (.file bytes')) := by
  have hne : l ≠ [] := by
    rintro rfl
    cases hnode
  refine ⟨rfl, fun l' => ?_⟩
  rw [node?_insert]
  by_cases hl' : l' = l
  · subst hl'
    rw [if_neg hne, if_pos rfl]
    exact .inr ⟨bytes, bytes', hnode, rfl, p, List.mem_singleton_self _, hl⟩
  · rw [if_neg hl']
    refine .inl ?_
    split
    · next hroot => rw [hroot]; rfl
    · rfl

theorem readText_of_locate (h : d.locate p = d.locate q) : d.readText p = d.readText q := by
  rw [Disk.readText, Disk.readText, Disk.read, Disk.read, h]

end Disk

/-! ## The config around the token -/

namespace Config

variable {secret : Path} {d d' : Disk} {paths : List Path}

/-- The file that a config was loaded from can be read and used. -/
theorem found_loadedFrom {p : Path} (h : (found d paths).config.loadedFrom = some p) :
    ∃ text config, d.readText p = .ok text ∧ parse? p text = some config := by
  induction paths with
  | nil => cases h
  | cons path rest ih =>
    rw [found] at h
    cases hr : d.readText path with
    | error e =>
      rw [hr] at h
      exact ih h
    | ok text =>
      rw [hr] at h
      cases hp : parse? path text with
      | some config =>
        simp only [hp] at h
        cases (parse?_loadedFrom hp).symm.trans h
        exact ⟨text, config, hr, hp⟩
      | none =>
        simp only [hp] at h
        exact ih h

/-- What stands in another file does not matter. -/
theorem found_of_apart (h : Disk.AlikeBut [secret] d d')
    (hp : ∀ p ∈ paths, ∀ l, d.locate p = .ok l → d.locate secret ≠ .ok l) :
    found d' paths = found d paths := by
  induction paths with
  | nil => rfl
  | cons path rest ih =>
    have hrest := ih fun p hm => hp p (List.mem_cons_of_mem _ hm)
    rw [found, found, h.readText (hp path List.mem_cons_self), hrest]

/-- Where the same file is loaded from both disks, the same files were of no use before it. -/
theorem found_rejected (h : Disk.AlikeBut [secret] d d')
    (hfrom : (found d paths).config.loadedFrom = some secret)
    (hfrom' : (found d' paths).config.loadedFrom = some secret) :
    (found d' paths).rejected = (found d paths).rejected := by
  induction paths with
  | nil => rfl
  | cons path rest ih =>
    by_cases hsame : d.locate path = d.locate secret
    · -- the file itself, by this path or another, is the one that is loaded
      have hfirst : ∀ disk : Disk, disk.locate path = disk.locate secret →
          (found disk (path :: rest)).config.loadedFrom = some secret →
          (found disk (path :: rest)).rejected = [] := by
        intro disk hlocate hloaded
        obtain ⟨text, config, hread, hparse⟩ := found_loadedFrom hloaded
        rw [← Disk.readText_of_locate hlocate] at hread
        rw [found, hread]
        simp only [parse?_path secret path text, hparse, Option.map_some]
      rw [hfirst d hsame hfrom, hfirst d' (by rw [h.locate, h.locate, hsame]) hfrom']
    · have hread : d'.readText path = d.readText path :=
        h.readText fun l hl hs => hsame (hl.trans hs.symm)
      rw [found] at hfrom
      rw [found, hread] at hfrom'
      rw [found, found, hread]
      cases hr : d.readText path with
      | error e =>
        rw [hr] at hfrom hfrom'
        exact ih hfrom hfrom'
      | ok text =>
        rw [hr] at hfrom hfrom'
        cases hp : parse? path text with
        | some config => simp only [hp]
        | none =>
          simp only [hp] at hfrom hfrom' ⊢
          rw [ih hfrom hfrom']

end Config

namespace Program

open Download

variable {σ : Type}

/-- The config that a program finds on a machine. -/
def configOf (env : Environment) (w : Machine σ) : Config :=
  ((Config.load Machine.host env.configFiles).run w).1.config

/-- The credential that a program loads on a machine. -/
def credentialOf (env : Environment) (args : Arguments) (w : Machine σ) : Except Failure Credential :=
  ((Credential.load Machine.host (configOf env w).accounts
    ((args.withConfig (configOf env w)).credentialSource env)).run w).1

/-- The token of a program stands in the file `secret`: as a cookie file that is no config file, or
under the label of an account in the config, which `disk` has otherwise the same. -/
inductive TokenAt (env : Environment) (args : Arguments) (w : Machine σ) (disk : Disk)
    (secret : Path) : Prop
  | file (source : (args.withConfig (configOf env w)).credentialSource env = .file secret)
      (apart : ∀ p ∈ env.configFiles, ∀ l, w.disk.locate p = .ok l → w.disk.locate secret ≠ .ok l)
  | account {label : String} {accounts : List (String × String)}
      (source : (args.withConfig (configOf env w)).credentialSource env = .account label)
      (loaded : (configOf env w).loadedFrom = some secret)
      (same : configOf env (w.withDisk disk) = { configOf env w with accounts })

/-- A machine and another disk for it, which differ in the session token alone: `c` on the machine and
`c'` with the other disk. Both can be sent, and the server looks at neither. -/
structure Twins (serve : Http.Server σ) (env : Environment) (args : Arguments) (w : Machine σ)
    (disk : Disk) (secret : Path) (c c' : Credential) : Prop where
  alike : Disk.AlikeBut [secret] w.disk disk
  place : TokenAt env args w disk secret
  token : credentialOf env args w = .ok c
  token' : credentialOf env args (w.withDisk disk) = .ok c'
  fits : Http.isFieldValue ("session=" ++ c.token) = true
  fits' : Http.isFieldValue ("session=" ++ c'.token) = true
  noFilter : env.logFilter = none
  ignores : serve.IgnoresCookies

section Runs

variable {decode : Http.Decoder} {serve : Http.Server σ} {env : Environment} {args : Arguments}
  {w : Machine σ} {disk : Disk} {secret : Path} {c c' : Credential}

theorem configOf_eq (env : Environment) (w : Machine σ) :
    configOf env w = (Config.found w.disk env.configFiles).config := by
  rw [configOf, load_eq_found]

theorem credentialOf_eq (env : Environment) (args : Arguments) (w : Machine σ) :
    credentialOf env args w = Credential.stored w.disk (configOf env w).accounts
      ((args.withConfig (configOf env w)).credentialSource env) := by
  rw [credentialOf, Machine.host_eq_hostLogging, Credential.load_run]

/-- The configs of the two differ in their accounts at most. -/
theorem Twins.found (h : Twins serve env args w disk secret c c') :
    ∃ accounts, Config.found disk env.configFiles =
      { config := { (Config.found w.disk env.configFiles).config with accounts }
        rejected := (Config.found w.disk env.configFiles).rejected } := by
  cases h.place with
  | file source apart =>
    refine ⟨(Config.found w.disk env.configFiles).config.accounts, ?_⟩
    exact Config.found_of_apart h.alike apart
  | @account label accounts source loaded same =>
    rw [configOf_eq, configOf_eq] at same
    rw [configOf_eq] at loaded
    have same : (Config.found disk env.configFiles).config =
        { (Config.found w.disk env.configFiles).config with accounts } := same
    -- the same file is loaded from both disks, though with another token in it
    have hrejected := Config.found_rejected h.alike loaded (by rw [same]; exact loaded)
    refine ⟨accounts, ?_⟩
    rw [← same, ← hrejected]

/-- The two runs are the same but for the token. -/
theorem Twins.mainRun (h : Twins serve env args w disk secret c c') :
    ∃ result events events' d d' s,
      Program.mainRun (Machine.attach (Machine.noting (Machine.replies decode serve))) env args w =
        (result, w.advance events d s) ∧
      Program.mainRun (Machine.attach (Machine.noting (Machine.replies decode serve))) env args
        (w.withDisk disk) = (result, (w.withDisk disk).advance events' d' s) ∧
      events'.map Event.redact = events.map Event.redact ∧ Disk.AlikeBut [secret] d d' := by
  obtain ⟨accounts, hfound'⟩ := h.found
  have htoken := h.token
  have htoken' := h.token'
  rw [credentialOf_eq, configOf_eq] at htoken htoken'
  rcases hfound : Config.found w.disk env.configFiles with ⟨config, rejected⟩
  rw [hfound] at hfound' htoken
  have hfound' : Config.found (w.withDisk disk).disk env.configFiles =
      ⟨{ config with accounts }, rejected⟩ := hfound'
  rw [hfound'] at htoken'
  have hcredentials : Credentials (fun e => some e.redact) (Options.ofArguments (args.withConfig config))
      (args.withConfig config).quiet (Machine.noting (Machine.replies decode serve))
      (Machine.noting (Machine.replies decode serve))
      (Credential.stored w.disk config.accounts ((args.withConfig config).credentialSource env))
      (Credential.stored disk accounts ((args.withConfig config).credentialSource env)) := by
    have htoken' : Credential.stored disk accounts
        ((args.withConfig config).credentialSource env) = .ok c' := htoken'
    rw [htoken, htoken']
    exact .loaded (parallel_tokens h.ignores _ h.fits h.fits')
  obtain ⟨result, events, events', d, d', s, hrun, hrun', hevents, hd⟩ :=
    mainRun_parallel (Disk.lasting_alikeBut [secret]) env args args.quiet h.alike hfound hfound'
      hcredentials
  rw [List.filterMap_eq_map'] at hevents
  exact ⟨result, events, events', d, d', s, hrun, hrun', hevents, hd⟩

/-- All messages of a program are for its days, with its own credential. -/
theorem mainRun_explained (hc : credentialOf env args w = .ok c)
    {result : Except Failure Report} {events : List Event} {d : Disk} {s : σ}
    (hrun : mainRun (Machine.attach (Machine.noting (Machine.replies decode serve))) env args w =
      (result, w.advance events d s)) :
    Explained decode serve (ForDays (Options.ofArguments (args.withConfig (configOf env w))) c)
      events := by
  have hevents : ∀ {result' events' d' s'}, mainRun (Machine.attach
      (Machine.noting (Machine.replies decode serve))) env args w = (result', w.advance events' d' s') →
      events = events' := by
    intro result' events' d' s' hrun'
    have hpair := congrArg (fun x => w.eventsSince x.2) (hrun.symm.trans hrun')
    simpa using hpair
  have hpreface : ∀ (rejected : List Path) (entries : List Log.Entry) (filter : Log.Filter),
      Explained decode serve (ForDays (Options.ofArguments (args.withConfig (configOf env w))) c)
        (warnings rejected ++ entries.flatMap filter.shown) := by
    intro rejected entries filter
    refine explained_of_not_traffic fun e he => ?_
    obtain ⟨line, rfl⟩ := mem_preface he
    rfl
  rcases mainRun_course (Machine.noting (Machine.replies decode serve)) env args w with
    ⟨entries, e, hrun'⟩ | ⟨entries, zone, c₁, visits, events', result', d', s', hstored, course, hrun'⟩
  · rw [hevents hrun']
    exact hpreface _ _ _
  · obtain rfl : c₁ = c := by
      rw [credentialOf_eq] at hc
      exact Except.ok.inj (hstored.symm.trans hc)
    rw [hevents hrun']
    refine (hpreface _ _ _).append (course.explained fun entry e he => ?_)
    obtain ⟨line, rfl⟩ := mem_shown he
    rfl

theorem execute_cookieSent {tokens : List String} (hread : CommandLine.read tokens = .ok args)
    (hc : credentialOf env args w = .ok c) {result : Except Failure Report} {events : List Event}
    {d : Disk} {s : σ}
    (hrun : mainRun (Machine.attach (Machine.noting (Machine.replies decode serve))) env args w =
      (result, w.advance events d s)) :
    CookieSent (Options.ofArguments (args.withConfig (configOf env w))) c.token
      (w.eventsSince ((execute Machine.host
        (Machine.attach (Machine.noting (Machine.replies decode serve))) env tokens).run w).2) := by
  rw [execute_run hread hrun, Machine.eventsSince_advance]
  refine ((mainRun_explained hc hrun).append ?_).cookieSent
  refine explained_of_not_traffic fun e he => ?_
  rcases mem_conclusion he with ⟨line, rfl⟩ | ⟨line, rfl⟩
  · rfl
  · rfl

/-- The token shows in the cookies of the messages that the requests for the days begin with, and
nowhere else. -/
theorem execute_keeps_secret {tokens : List String} (hread : CommandLine.read tokens = .ok args)
    (h : Twins serve env args w disk secret c c') :
    let transport := Machine.recorded (Http.transport decode (Machine.wire serve))
    let ended := (execute Machine.host transport env tokens).run w
    let w' := w.withDisk disk
    let ended' := (execute Machine.host transport env tokens).run w'
    let o := Options.ofArguments (args.withConfig (configOf env w))
    (mainRun transport env args w').1 = (mainRun transport env args w).1 ∧ ended'.1 = ended.1 ∧
      (w'.eventsSince ended'.2).map Event.redact = (w.eventsSince ended.2).map Event.redact ∧
      Disk.AlikeBut [secret] ended.2.disk ended'.2.disk ∧
      CookieSent o c.token (w.eventsSince ended.2) ∧
      CookieSent o c'.token (w'.eventsSince ended'.2) := by
  intro transport ended w' ended' o
  obtain ⟨result, events, events', d, d', s, hrun, hrun', hevents, hd⟩ := h.mainRun
  obtain ⟨accounts, hfound⟩ := h.found
  have hsettings : args.withConfig (configOf env w') = args.withConfig (configOf env w) := by
    have hfound : configOf env w' = { configOf env w with accounts } := by
      rw [configOf_eq, configOf_eq]
      exact congrArg Config.Loaded.config hfound
    rw [hfound]
    rfl
  have hcookie := execute_cookieSent hread h.token hrun
  have hcookie' := execute_cookieSent hread h.token' hrun'
  rw [hsettings] at hcookie'
  have htransport : transport = Machine.attach (Machine.noting (Machine.replies decode serve)) :=
    Machine.recorded_transport decode serve
  simp only [ended, ended', w', htransport]
  refine ⟨by rw [hrun, hrun'], ?_, ?_, ?_, hcookie, hcookie'⟩
  · rw [execute_run hread hrun, execute_run hread hrun']
  · rw [execute_run hread hrun, execute_run hread hrun', Machine.eventsSince_advance,
      Machine.eventsSince_advance, List.map_append, List.map_append, hevents]
    exact congrArg (fun args => _ ++ (conclusion args result).map Event.redact) hsettings
  · rw [execute_run hread hrun, execute_run hread hrun']
    exact hd

end Runs

/-- Whatever goes to the address of a day carries the token as its only cookie. -/
def CookieAlways (o : Options) (token : String) (es : List Event) : Prop :=
  ∀ m x, .exchange m x ∈ es →
    (∃ day ∈ Puzzle.days, Http.Uri.parse (Puzzle.address o.baseUrl o.year day) = .ok m.uri) →
    m.fields.getAll "cookie" = ["session=" ++ token]

/-- A server that has the first message sent to the same address once more. -/
def onceMore : Http.Server Nat := fun _ s =>
  match s with
  | 0 => (.ok ⟨302, [("Location", "/2018/day/1/input")], ByteArray.empty⟩, 1)
  | s => (.ok ⟨200, [], "1721\n".toUTF8⟩, s)

/-- The disk of the first morning with another token. -/
def otherToken : Disk :=
  (firstMorning 0).disk.insert ["home", "cookie"] (.file "kot".toUTF8)

def onceMoreTokens : List String :=
  ["2018", "--session-file", "cookie", "--base-url", "http://aoc.test", "--verbose"]

def onceMoreArguments : Arguments :=
  { year := 2018, sessionFile := some ⟨"cookie"⟩, baseUrl := some "http://aoc.test", verbose := true }

theorem read_onceMore : CommandLine.read onceMoreTokens = .ok onceMoreArguments := by
  decide +kernel

theorem twins_onceMore :
    Twins onceMore {} onceMoreArguments (firstMorning 0) otherToken ⟨"cookie"⟩ ⟨"tok"⟩ ⟨"kot"⟩ where
  alike := Disk.alikeBut_insert (by decide +kernel) rfl _
  place := .file (by decide +kernel) (by
    intro p hp
    cases hp)
  token := by decide +kernel
  token' := by decide +kernel
  fits := by decide +kernel
  fits' := by decide +kernel
  noFilter := rfl
  ignores _ _ _ _ := rfl

/-- The first morning with an account in the config. -/
def accountMorning : Machine Nat :=
  (firstMorning 0).withDisk
    { workingDirectory := ["home"]
      entries := [(["home"], .directory),
        (["home", ".aocfetch.toml"], .file "[accounts]\nmain = \"tok\"\n".toUTF8)] }

def otherAccount : Disk :=
  accountMorning.disk.insert ["home", ".aocfetch.toml"] (.file "[accounts]\nmain = \"kot\"\n".toUTF8)

def accountTokens : List String := ["2018", "--account", "main", "--base-url", "http://aoc.test"]

def accountArguments : Arguments :=
  { year := 2018, account := some "main", baseUrl := some "http://aoc.test" }

theorem read_account : CommandLine.read accountTokens = .ok accountArguments := by
  decide +kernel

theorem twins_account :
    Twins onceMore { home := some "/home" } accountArguments accountMorning otherAccount
      ⟨"/home/.aocfetch.toml"⟩ ⟨"tok"⟩ ⟨"kot"⟩ where
  alike := Disk.alikeBut_insert (by decide +kernel) rfl _
  place := by
    have source : (accountArguments.withConfig (configOf { home := some "/home" }
        accountMorning)).credentialSource { home := some "/home" } = .account "main" := by
      decide +kernel
    have same : configOf { home := some "/home" } (accountMorning.withDisk otherAccount) =
        { configOf { home := some "/home" } accountMorning with accounts := [("main", "kot")] } := by
      decide +kernel
    exact .account source (by decide +kernel) same
  token := by decide +kernel
  token' := by decide +kernel
  fits := by decide +kernel
  fits' := by decide +kernel
  noFilter := rfl
  ignores _ _ _ _ := rfl

/-- The token is kept through the redirect of the first day, be it from a file or of an account. -/
theorem execute_keeps_secret_onceMore :
    let transport := Machine.recorded (Http.transport Http.Reply.payload (Machine.wire onceMore))
    let w := firstMorning 0
    let ended := (execute Machine.host transport {} onceMoreTokens).run w
    let w' := w.withDisk otherToken
    let ended' := (execute Machine.host transport {} onceMoreTokens).run w'
    let o := Options.ofArguments (onceMoreArguments.withConfig (configOf {} w))
    (CommandLine.read onceMoreTokens = .ok onceMoreArguments ∧
      Twins onceMore {} onceMoreArguments w otherToken ⟨"cookie"⟩ ⟨"tok"⟩ ⟨"kot"⟩ ∧
      (mainRun transport {} onceMoreArguments w').1 = (mainRun transport {} onceMoreArguments w).1 ∧
      ended'.1 = ended.1 ∧
      (w'.eventsSince ended'.2).map Event.redact = (w.eventsSince ended.2).map Event.redact ∧
      Disk.AlikeBut [⟨"cookie"⟩] ended.2.disk ended'.2.disk ∧
      CookieSent o "tok" (w.eventsSince ended.2) ∧ CookieSent o "kot" (w'.eventsSince ended'.2)) ∧
    (CommandLine.read accountTokens = .ok accountArguments ∧
      Twins onceMore { home := some "/home" } accountArguments accountMorning otherAccount
        ⟨"/home/.aocfetch.toml"⟩ ⟨"tok"⟩ ⟨"kot"⟩ ∧
      (mainRun transport { home := some "/home" } accountArguments
        (accountMorning.withDisk otherAccount)).1 =
        (mainRun transport { home := some "/home" } accountArguments accountMorning).1) :=
  ⟨⟨read_onceMore, twins_onceMore, execute_keeps_secret read_onceMore twins_onceMore⟩,
    read_account, twins_account, (execute_keeps_secret read_account twins_account).1⟩

/-- Whether the event is a message without cookies to the address. -/
def isBareTo (url : String) : Event → Bool
  | .exchange m _ => decide (Http.Uri.parse url = .ok m.uri) && (m.fields.getAll "cookie").isEmpty
  | _ => false

/-- The redirect from the address of day 1 to itself is followed without the token. -/
theorem redirect_drops_cookie :
    let transport := Machine.recorded (Http.transport Http.Reply.payload (Machine.wire onceMore))
    let w := firstMorning 0
    let ended := (execute Machine.host transport {} onceMoreTokens).run w
    let o := Options.ofArguments (onceMoreArguments.withConfig (configOf {} w))
    CommandLine.read onceMoreTokens = .ok onceMoreArguments ∧
      Twins onceMore {} onceMoreArguments w otherToken ⟨"cookie"⟩ ⟨"tok"⟩ ⟨"kot"⟩ ∧
      ¬ CookieAlways o "tok" (w.eventsSince ended.2) := by
  intro transport w ended o
  have hbare : (w.eventsSince ended.2).any (isBareTo (Puzzle.address o.baseUrl o.year 1)) = true := by
    decide +kernel
  refine ⟨read_onceMore, twins_onceMore, fun halways => ?_⟩
  obtain ⟨e, hmem, he⟩ := List.any_eq_true.mp hbare
  unfold isBareTo at he
  split at he
  · next m x =>
    rw [Bool.and_eq_true, decide_eq_true_eq, List.isEmpty_iff] at he
    have hcookie := halways m x hmem ⟨1, Puzzle.mem_days.mpr ⟨by decide, by decide⟩, he.1⟩
    rw [he.2] at hcookie
    cases hcookie
  · cases he

end Program

end PuzzleInputs
