import Mathlib
import PuzzleInputs.Proofs.Disk

/-!
# Calls that are made again

A directory that stands is not created again (`makeDirectories_again`), and a file is not changed by
writing what it holds (`write_child_same`). What a file held before it was written does not matter:
on two disks that differ in the contents of some files only (`AlikeBut`), every call has the same
result and leaves two such disks behind.
-/

namespace PuzzleInputs.Disk

/-! ## The same content -/

theorem put_of_lookup {loc : Location} {node : Node} {es : List (Location × Node)}
    (h : es.lookup loc = some node) : put loc node es = es := by
  induction es with
  | nil => cases h
  | cons e rest ih =>
    obtain ⟨k, n⟩ := e
    by_cases hk : k = loc
    · subst hk
      simp only [List.lookup_cons_self, Option.some.injEq] at h
      rw [put, if_pos rfl, h]
    · have hb : (loc == k) = false := by simpa using Ne.symm hk
      rw [List.lookup_cons, hb] at h
      rw [put, if_neg hk, ih h]

theorem insert_of_node? {d : Disk} {loc : Location} {node : Node} (hl : loc ≠ [])
    (h : d.node? loc = some node) : d.insert loc node = d := by
  rw [node?, if_neg hl] at h
  rw [insert, put_of_lookup h]

theorem locateEntry_of_locate_child {d : Disk} {dir : Path} {name : String} {l : Location}
    (hn : Path.IsName name) (h : d.locate (dir.child name) = .ok l) :
    d.locateEntry (dir.child name) = .ok (some l) := by
  obtain ⟨hc, loc, ho, rfl⟩ := (locate_child hn).mp h
  have hstep := step_isName hn ho.directory
  unfold locateEntry
  rw [start_child d hn, Path.segments_child hn, hc]
  simp [ho.walk, hstep, hn.ne_dot, hn.ne_dotdot, bind, Except.bind]

/-- Writing what a file holds changes nothing. -/
theorem write_child_same {d : Disk} {dir : Path} {name : String} {bytes : ByteArray}
    (hn : Path.IsName name) (h : d.read (dir.child name) = .ok bytes) :
    d.write (dir.child name) bytes = .ok d := by
  obtain ⟨l, hl, hnode⟩ := read_eq_ok.mp h
  have hne : l ≠ [] := by
    obtain ⟨-, loc, -, rfl⟩ := (locate_child hn).mp hl
    simp
  unfold write
  rw [locateEntry_of_locate_child hn hl]
  simp only [bind, Except.bind, Path.endsInSlash_child hn, hnode, insert_of_node? hne hnode]
  rfl

/-! ## Directories that stand -/

theorem isDirectory_iff {d : Disk} {p : Path} :
    d.isDirectory p = true ↔ ∃ l, d.locate p = .ok l ∧ d.node? l = some .directory := by
  unfold isDirectory
  cases d.locate p with
  | error e => simp
  | ok l =>
    simp only [Except.ok.injEq, exists_eq_left']
    cases d.node? l with
    | none => simp
    | some node => cases node <;> simp

theorem Keeps.isDirectory {a b : Disk} (h : Keeps a b) {p : Path} (hp : a.isDirectory p = true) :
    b.isDirectory p = true := by
  obtain ⟨l, hl, hdir⟩ := isDirectory_iff.mp hp
  exact isDirectory_iff.mpr ⟨l, h.locate hl, h.directory l hdir⟩

/-- The slash at the end of a path leads no further. -/
theorem walk_of_locate {d : Disk} {p : Path} {l : Location} (h : d.locate p = .ok l) :
    checkText p = .ok () ∧ d.walk (d.start p) p.segments = .ok l := by
  unfold locate at h
  cases hc : checkText p with
  | error e => rw [hc] at h; cases h
  | ok u =>
    refine ⟨rfl, ?_⟩
    cases hw : d.walk (d.start p) p.segments with
    | error e => simp [hc, hw, bind, Except.bind] at h
    | ok loc =>
      simp only [hc, hw, bind, Except.bind] at h
      by_cases hs : p.endsInSlash = true
      · rw [if_pos hs] at h
        have hdir := step_ok_directory h
        rw [step_dot hdir] at h
        exact h
      · rw [if_neg hs] at h
        exact h

theorem makeDirectory_of_isDirectory {d : Disk} {p : Path} (h : d.isDirectory p = true) :
    d.makeDirectory p = .error .fileExists := by
  obtain ⟨l, hl, hdir⟩ := isDirectory_iff.mp h
  obtain ⟨hc, hw⟩ := walk_of_locate hl
  unfold makeDirectory locateEntry
  rw [hc]
  cases hlast : p.segments.getLast? with
  | none => rfl
  | some last =>
    obtain ⟨init, hseg⟩ := List.getLast?_eq_some_iff.mp hlast
    rw [hseg, walk_concat] at hw
    cases hi : d.walk (d.start p) init with
    | error e => rw [hi] at hw; cases hw
    | ok dir =>
      rw [hi, Except.bind] at hw
      by_cases hdots : last = "." ∨ last = ".."
      · simp [hseg, hi, hw, hdots, bind, Except.bind]
      · simp [hseg, hi, hw, hdots, hdir, bind, Except.bind]

theorem makeDirectory_isDirectory {d d' : Disk} {p : Path} (h : d.makeDirectory p = .ok d') :
    d'.isDirectory p = true := by
  obtain ⟨l, -, -, hdir, hl⟩ := makeDirectory_new h
  exact isDirectory_iff.mpr ⟨l, hl, hdir⟩

theorem descend_ok {d d' : Disk} {ps : List Path} (h : d.descend ps = (.ok (), d')) :
    ∀ p ∈ ps, d'.isDirectory p = true := by
  induction ps generalizing d with
  | nil => simp
  | cons p rest ih =>
    have hkeeps : ∀ a : Disk, a.descend rest = (.ok (), d') → Keeps a d' := by
      intro a ha
      have := (descend_alters a rest).keeps
      rwa [ha] at this
    intro q hq
    rcases descend_cons_cases d p rest with ⟨d₁, hm, he⟩ | ⟨hdir, he⟩ | ⟨e, he⟩
    · rw [he] at h
      rcases List.mem_cons.mp hq with rfl | hq
      · exact (hkeeps d₁ h).isDirectory (makeDirectory_isDirectory hm)
      · exact ih h q hq
    · rw [he] at h
      rcases List.mem_cons.mp hq with rfl | hq
      · exact (hkeeps d h).isDirectory hdir
      · exact ih h q hq
    · rw [he] at h
      cases h

/-- A path with components is a directory once it has been created. -/
theorem makeDirectories_isDirectory {d d' : Disk} {p : Path}
    (h : d.makeDirectories p = (.ok (), d')) :
    p.components.isEmpty = true ∨ d'.isDirectory p = true := by
  rcases makeDirectories_cases d p with ⟨hp, -⟩ | ⟨d₁, hm, he⟩ | ⟨hdir, he⟩ | ⟨e, he⟩ |
    ⟨d₁, missing, -, he⟩
  · exact .inl hp
  · rw [he] at h
    cases h
    exact .inr (makeDirectory_isDirectory hm)
  · rw [he] at h
    cases h
    exact .inr hdir
  · rw [he] at h
    cases h
  · rw [he] at h
    exact .inr (descend_ok h p (by simp))

/-- As long as its directories stay, a path that was created is not created again. -/
theorem makeDirectories_again {d d' e : Disk} {p : Path} (h : d.makeDirectories p = (.ok (), d'))
    (hk : Keeps d' e) : e.makeDirectories p = (.ok (), e) := by
  rcases makeDirectories_isDirectory h with hp | hdir
  · rw [makeDirectories, if_pos hp]
  · have hstands := hk.isDirectory hdir
    have hne : IoFault.fileExists ≠ IoFault.noSuchFile := by decide
    rw [makeDirectories, climb, makeDirectory_of_isDirectory hstands]
    simp [hstands, hne, descend]

/-! ## Other contents -/

/-- The disks differ in the contents of the files at the ends of `files` only. -/
structure AlikeBut (files : List Path) (d d' : Disk) : Prop where
  workingDirectory : d'.workingDirectory = d.workingDirectory
  node : ∀ l, d'.node? l = d.node? l ∨
    ∃ bytes bytes', d.node? l = some (.file bytes) ∧ d'.node? l = some (.file bytes') ∧
      ∃ p ∈ files, d.locate p = .ok l

/-- The same fault, or results that are related. -/
inductive Matching {α β : Type} (related : α → β → Prop) : Except IoFault α → Except IoFault β → Prop
  | ok {a : α} {b : β} (h : related a b) : Matching related (.ok a) (.ok b)
  | error (e : IoFault) : Matching related (.error e) (.error e)

namespace AlikeBut

variable {files : List Path} {d d' : Disk}

/-- A walk does not see what is in a file. -/
theorem step (h : AlikeBut files d d') (loc : Location) (name : String) :
    d'.step loc name = d.step loc name := by
  unfold Disk.step
  rcases h.node loc with he | ⟨bytes, bytes', hd, hd', -⟩
  · rw [he]
  · rw [hd, hd']

theorem walk (h : AlikeBut files d d') (loc : Location) (names : List String) :
    d'.walk loc names = d.walk loc names := by
  induction names generalizing loc with
  | nil => rfl
  | cons name names ih =>
    unfold Disk.walk
    rw [h.step]
    cases d.step loc name with
    | ok next => exact ih next
    | error e => rfl

theorem start (h : AlikeBut files d d') (p : Path) : d'.start p = d.start p := by
  rw [Disk.start, Disk.start, h.workingDirectory]

theorem locate (h : AlikeBut files d d') (p : Path) : d'.locate p = d.locate p := by
  unfold Disk.locate
  simp only [h.start, h.walk, h.step]

theorem locateEntry (h : AlikeBut files d d') (p : Path) : d'.locateEntry p = d.locateEntry p := by
  unfold Disk.locateEntry
  simp only [h.start, h.walk, h.step]

theorem isDirectory (h : AlikeBut files d d') (p : Path) : d'.isDirectory p = d.isDirectory p := by
  unfold Disk.isDirectory
  rw [h.locate]
  cases d.locate p with
  | error e => rfl
  | ok l =>
    rcases h.node l with he | ⟨bytes, bytes', hd, hd', -⟩
    · simp only [he]
    · simp only [hd, hd']

theorem insert (h : AlikeBut files d d') {l : Location} (node : Node)
    (hl : d.node? l ≠ some .directory) : AlikeBut files (d.insert l node) (d'.insert l node) where
  workingDirectory := h.workingDirectory
  node q := by
    by_cases hq : q = l
    · left
      rw [node?_insert, node?_insert, if_pos hq, if_pos hq]
    · rw [node?_insert_of_ne d hq, node?_insert_of_ne d' hq]
      rcases h.node q with he | ⟨bytes, bytes', hd, hd', p, hp, hpq⟩
      · exact .inl he
      · exact .inr ⟨bytes, bytes', hd, hd', p, hp, (keeps_insert node hl).locate hpq⟩

theorem makeDirectory (h : AlikeBut files d d') (p : Path) :
    Matching (AlikeBut files) (d.makeDirectory p) (d'.makeDirectory p) := by
  unfold Disk.makeDirectory
  rw [h.locateEntry]
  cases d.locateEntry p with
  | error e => exact .error e
  | ok entry =>
    cases entry with
    | none => exact .error _
    | some l =>
      simp only [bind, Except.bind]
      rcases h.node l with he | ⟨bytes, bytes', hd, hd', -⟩
      · rw [he]
        cases hnode : d.node? l with
        | none => exact .ok (h.insert .directory (by simp [hnode]))
        | some node => exact .error _
      · rw [hd, hd']
        exact .error _

theorem write (h : AlikeBut files d d') (p : Path) (bytes : ByteArray) :
    Matching (AlikeBut files) (d.write p bytes) (d'.write p bytes) := by
  unfold Disk.write
  rw [h.locateEntry]
  cases d.locateEntry p with
  | error e => exact .error e
  | ok entry =>
    cases entry with
    | none => exact .error _
    | some l =>
      simp only [bind, Except.bind]
      by_cases hs : p.endsInSlash = true
      · rw [if_pos hs, if_pos hs]
        exact .error _
      · rw [if_neg hs, if_neg hs]
        rcases h.node l with he | ⟨old, old', hd, hd', -⟩
        · rw [he]
          cases hnode : d.node? l with
          | none => exact .ok (h.insert (.file bytes) (by simp [hnode]))
          | some node =>
            cases node with
            | directory => exact .error _
            | file old => exact .ok (h.insert (.file bytes) (by simp [hnode]))
        · rw [hd, hd']
          exact .ok (h.insert (.file bytes) (by simp [hd]))

theorem climb (h : AlikeBut files d d') (ps : List Path) :
    Matching (fun x x' => AlikeBut files x.1 x'.1 ∧ x'.2 = x.2) (d.climb ps) (d'.climb ps) := by
  induction ps with
  | nil => exact .ok ⟨h, rfl⟩
  | cons p above ih =>
    have hm := h.makeDirectory p
    unfold Disk.climb
    rw [h.isDirectory]
    generalize d.makeDirectory p = made, d'.makeDirectory p = made' at hm
    cases hm with
    | ok h₁ => exact .ok ⟨h₁, rfl⟩
    | error e =>
      simp only
      split
      · generalize d.climb above = left, d'.climb above = left' at ih
        cases ih with
        | ok hleft => exact .ok ⟨hleft.1, congrArg (p :: ·) hleft.2⟩
        | error e => exact .error e
      · split
        · exact .ok ⟨h, rfl⟩
        · exact .error e

theorem descend (h : AlikeBut files d d') (ps : List Path) :
    (d'.descend ps).1 = (d.descend ps).1 ∧ AlikeBut files (d.descend ps).2 (d'.descend ps).2 := by
  induction ps generalizing d d' with
  | nil => exact ⟨rfl, h⟩
  | cons p rest ih =>
    have hm := h.makeDirectory p
    unfold Disk.descend
    rw [h.isDirectory]
    generalize d.makeDirectory p = made, d'.makeDirectory p = made' at hm
    cases hm with
    | ok h₁ => exact ih h₁
    | error e =>
      simp only
      split
      · exact ih h
      · exact ⟨rfl, h⟩

theorem makeDirectories (h : AlikeBut files d d') (p : Path) :
    (d'.makeDirectories p).1 = (d.makeDirectories p).1 ∧
      AlikeBut files (d.makeDirectories p).2 (d'.makeDirectories p).2 := by
  have hc := h.climb (p :: p.parents)
  unfold Disk.makeDirectories
  split
  · exact ⟨rfl, h⟩
  · generalize d.climb (p :: p.parents) = left, d'.climb (p :: p.parents) = left' at hc
    cases hc with
    | error e => exact ⟨rfl, h⟩
    | @ok x x' hx =>
      obtain ⟨d₁, missing⟩ := x
      obtain ⟨d₁', missing'⟩ := x'
      obtain ⟨h₁, rfl⟩ := hx
      exact AlikeBut.descend h₁ missing'.reverse

end AlikeBut

end PuzzleInputs.Disk
