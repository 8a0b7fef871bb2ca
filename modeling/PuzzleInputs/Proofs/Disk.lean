import Mathlib
import PuzzleInputs.Disk
import PuzzleInputs.Proofs.Path

/-!
# What the system calls change

`Alters before after files dirs`: apart from the files at the ends of `files`, and new directories at
the ends of `dirs`, the two disks are the same. `write` and `makeDirectories` are such changes, they
compose, and a walk that succeeds before one ends in the same place after it.

`Opens d dir loc` says that the names of `dir` lead to the directory at `loc`; the entry `name` of
`dir` then stands at `loc ++ [name]`.
-/

namespace PuzzleInputs.Disk

/-! ## Walks -/

theorem step_ok_directory {d : Disk} {loc l : Location} {name : String}
    (h : d.step loc name = .ok l) : d.node? loc = some .directory := by
  unfold step at h
  split at h
  · cases h
  · cases h
  · assumption

theorem step_dot {d : Disk} {loc : Location} (h : d.node? loc = some .directory) :
    d.step loc "." = .ok loc := by
  simp [step, h]

theorem step_isName {d : Disk} {loc : Location} {name : String} (hn : Path.IsName name)
    (h : d.node? loc = some .directory) : d.step loc name = .ok (loc ++ [name]) := by
  have hsize : ¬ name.utf8ByteSize > 255 := Nat.not_lt.mpr hn.size_le
  simp [step, h, hn.ne_dot, hn.ne_dotdot, hsize]

theorem walk_concat (d : Disk) (loc : Location) (names : List String) (name : String) :
    d.walk loc (names ++ [name]) = (d.walk loc names).bind fun l => d.step l name := by
  induction names generalizing loc with
  | nil =>
    simp only [List.nil_append, walk, Except.bind]
    cases d.step loc name <;> rfl
  | cons n names ih =>
    simp only [List.cons_append, walk]
    cases d.step loc n with
    | error e => rfl
    | ok next => exact ih next

/-- The names of `dir` lead to the directory at `loc`. -/
structure Opens (d : Disk) (dir : Path) (loc : Location) : Prop where
  walk : d.walk (d.start dir) dir.segments = .ok loc
  directory : d.node? loc = some .directory

theorem Opens.unique {d : Disk} {dir : Path} {loc loc' : Location} (h : d.Opens dir loc)
    (h' : d.Opens dir loc') : loc = loc' :=
  Except.ok.inj (h.walk.symm.trans h'.walk)

/-! ## Entries of a directory -/

section Child

variable {d d' : Disk} {dir : Path} {name : String} {l : Location} {bytes : ByteArray}

theorem start_child (d : Disk) (hn : Path.IsName name) : d.start (dir.child name) = d.start dir := by
  rw [start, start, Path.isAbsolute_child hn]

/-- The walk to an entry is the walk to its directory and one more step. -/
theorem walk_child (hn : Path.IsName name) :
    d.walk (d.start (dir.child name)) (dir.child name).segments = .ok l ↔
      ∃ loc, d.Opens dir loc ∧ l = loc ++ [name] := by
  rw [start_child d hn, Path.segments_child hn, walk_concat]
  constructor
  · intro h
    cases hw : d.walk (d.start dir) dir.segments with
    | error e => rw [hw] at h; cases h
    | ok loc =>
      rw [hw, Except.bind] at h
      have hdir := step_ok_directory h
      rw [step_isName hn hdir] at h
      exact ⟨loc, ⟨hw, hdir⟩, (Except.ok.inj h).symm⟩
  · rintro ⟨loc, ho, rfl⟩
    rw [ho.walk]
    exact step_isName hn ho.directory

theorem locate_child (hn : Path.IsName name) :
    d.locate (dir.child name) = .ok l ↔
      checkText (dir.child name) = .ok () ∧ ∃ loc, d.Opens dir loc ∧ l = loc ++ [name] := by
  rw [← walk_child hn]
  unfold locate
  cases checkText (dir.child name) with
  | error e => simp [bind, Except.bind]
  | ok u =>
    cases d.walk (d.start (dir.child name)) (dir.child name).segments with
    | error e => simp [bind, Except.bind]
    | ok loc => simp [Path.endsInSlash_child hn, bind, Except.bind]

/-- Different names of one directory lead to different places. -/
theorem name_eq_of_locate {name' : String} (hn : Path.IsName name) (hn' : Path.IsName name')
    (h : d.locate (dir.child name) = .ok l) (h' : d.locate (dir.child name') = .ok l) :
    name = name' := by
  obtain ⟨-, loc, ho, rfl⟩ := (locate_child hn).mp h
  obtain ⟨-, loc', ho', he⟩ := (locate_child hn').mp h'
  rw [ho.unique ho'] at he
  simpa using he

theorem locateEntry_child (hn : Path.IsName name) (h : d.locateEntry (dir.child name) = .ok (some l)) :
    d.locate (dir.child name) = .ok l := by
  rw [locate_child hn]
  unfold locateEntry at h
  rw [start_child d hn, Path.segments_child hn] at h
  cases hc : checkText (dir.child name) with
  | error e => rw [hc] at h; cases h
  | ok u =>
    refine ⟨rfl, ?_⟩
    cases hw : d.walk (d.start dir) dir.segments with
    | error e => simp [hc, hw, bind, Except.bind] at h
    | ok loc =>
      cases hs : d.step loc name with
      | error e => simp [hc, hw, hs, bind, Except.bind] at h
      | ok next =>
        have hdir := step_ok_directory hs
        rw [step_isName hn hdir] at hs
        cases hs
        simp [hc, hw, step_isName hn hdir, hn.ne_dot, hn.ne_dotdot, bind, Except.bind] at h
        exact ⟨loc, ⟨hw, hdir⟩, h.symm⟩

/-- A write that succeeds puts the bytes where the path leads; no directory was there. -/
theorem write_child_ok (hn : Path.IsName name) (h : d.write (dir.child name) bytes = .ok d') :
    ∃ l, d.locate (dir.child name) = .ok l ∧ l ≠ [] ∧ d.node? l ≠ some .directory ∧
      d' = d.insert l (.file bytes) := by
  unfold write at h
  cases he : d.locateEntry (dir.child name) with
  | error e => rw [he] at h; cases h
  | ok entry =>
    rw [he] at h
    cases entry with
    | none => cases h
    | some l =>
      have hl := locateEntry_child hn he
      have hne : l ≠ [] := by
        obtain ⟨-, loc, -, rfl⟩ := (locate_child hn).mp hl
        simp
      simp only [Path.endsInSlash_child hn, bind, Except.bind] at h
      cases hnode : d.node? l with
      | none =>
        rw [hnode] at h
        exact ⟨l, hl, hne, by simp [hnode], (Except.ok.inj h).symm⟩
      | some node =>
        rw [hnode] at h
        cases node with
        | directory => cases h
        | file old => exact ⟨l, hl, hne, by simp [hnode], (Except.ok.inj h).symm⟩

end Child

theorem read_eq_ok {d : Disk} {p : Path} {bytes : ByteArray} :
    d.read p = .ok bytes ↔ ∃ l, d.locate p = .ok l ∧ d.node? l = some (.file bytes) := by
  unfold read
  cases d.locate p with
  | error e => simp [bind, Except.bind]
  | ok l =>
    simp only [bind, Except.bind, Except.ok.injEq, exists_eq_left']
    cases d.node? l with
    | none => simp
    | some node =>
      cases node with
      | directory => simp
      | file b => simp

/-! ## Changes of a disk -/

/-- All directories of `before` are directories of `after`, and relative paths start in the same
place. -/
structure Keeps (before after : Disk) : Prop where
  workingDirectory : after.workingDirectory = before.workingDirectory
  directory : ∀ l, before.node? l = some .directory → after.node? l = some .directory

namespace Keeps

variable {a b : Disk}

theorem start (h : Keeps a b) (p : Path) : b.start p = a.start p := by
  rw [Disk.start, Disk.start, h.workingDirectory]

theorem step (h : Keeps a b) {loc l : Location} {name : String} (hs : a.step loc name = .ok l) :
    b.step loc name = .ok l := by
  have ha := step_ok_directory hs
  unfold Disk.step at hs ⊢
  rw [ha] at hs
  rw [h.directory _ ha]
  exact hs

theorem walk (h : Keeps a b) {loc l : Location} {names : List String}
    (hw : a.walk loc names = .ok l) : b.walk loc names = .ok l := by
  induction names generalizing loc with
  | nil => exact hw
  | cons name names ih =>
    unfold Disk.walk at hw ⊢
    cases hs : a.step loc name with
    | error e => rw [hs] at hw; cases hw
    | ok next =>
      rw [hs] at hw
      rw [h.step hs]
      exact ih hw

/-- A path that leads somewhere leads to the same place afterwards. -/
theorem locate (h : Keeps a b) {p : Path} {l : Location} (hl : a.locate p = .ok l) :
    b.locate p = .ok l := by
  unfold Disk.locate at hl ⊢
  rw [h.start]
  cases hc : checkText p with
  | error e => rw [hc] at hl; cases hl
  | ok u =>
    rw [hc] at hl
    cases hw : a.walk (a.start p) p.segments with
    | error e => rw [hw] at hl; cases hl
    | ok loc =>
      simp only [hw, bind, Except.bind] at hl
      simp only [h.walk hw, bind, Except.bind]
      by_cases hs : p.endsInSlash = true
      · rw [if_pos hs] at hl ⊢
        exact h.step hl
      · rw [if_neg hs] at hl ⊢
        exact hl

end Keeps

/-- Apart from the files at the ends of `files`, none of which was a directory, and new directories
at the ends of `dirs`, `after` is `before`. -/
structure Alters (before after : Disk) (files dirs : List Path) : Prop where
  workingDirectory : after.workingDirectory = before.workingDirectory
  node : ∀ l, after.node? l = before.node? l ∨
    (before.node? l ≠ some .directory ∧ ∃ p ∈ files, after.locate p = .ok l) ∨
    (before.node? l = none ∧ after.node? l = some .directory ∧ ∃ p ∈ dirs, after.locate p = .ok l)

namespace Alters

variable {a b c : Disk} {files files' dirs dirs' : List Path}

theorem refl (d : Disk) : Alters d d [] [] := ⟨rfl, fun _ => .inl rfl⟩

theorem keeps (h : Alters a b files dirs) : Keeps a b where
  workingDirectory := h.workingDirectory
  directory l hl := by
    rcases h.node l with he | ⟨hne, -⟩ | ⟨hnone, -⟩
    · rw [he, hl]
    · exact (hne hl).elim
    · rw [hl] at hnone; cases hnone

theorem mono (h : Alters a b files dirs) (hf : ∀ p ∈ files, p ∈ files')
    (hd : ∀ p ∈ dirs, p ∈ dirs') : Alters a b files' dirs' where
  workingDirectory := h.workingDirectory
  node l := by
    rcases h.node l with he | ⟨hne, p, hp, hl⟩ | ⟨hnone, hdir, p, hp, hl⟩
    · exact .inl he
    · exact .inr (.inl ⟨hne, p, hf p hp, hl⟩)
    · exact .inr (.inr ⟨hnone, hdir, p, hd p hp, hl⟩)

/-- Changes in turn are one change. -/
theorem trans (h : Alters a b files dirs) (h' : Alters b c files' dirs') :
    Alters a c (files ++ files') (dirs ++ dirs') where
  workingDirectory := h'.workingDirectory.trans h.workingDirectory
  node l := by
    rcases h.node l with he | ⟨hne, p, hp, hl⟩ | ⟨hnone, hdir, p, hp, hl⟩
    · rw [← he]
      rcases h'.node l with he' | ⟨hne', q, hq, hl'⟩ | ⟨hnone', hdir', q, hq, hl'⟩
      · exact .inl he'
      · exact .inr (.inl ⟨hne', q, List.mem_append_right _ hq, hl'⟩)
      · exact .inr (.inr ⟨hnone', hdir', q, List.mem_append_right _ hq, hl'⟩)
    · exact .inr (.inl ⟨hne, p, List.mem_append_left _ hp, h'.keeps.locate hl⟩)
    · exact .inr (.inr ⟨hnone, h'.keeps.directory l hdir, p, List.mem_append_left _ hp,
        h'.keeps.locate hl⟩)

/-- Where only directories are new, no file is created, changed or removed. -/
theorem file_iff (h : Alters a b [] dirs) (l : Location) (bytes : ByteArray) :
    b.node? l = some (.file bytes) ↔ a.node? l = some (.file bytes) := by
  rcases h.node l with he | ⟨-, p, hp, -⟩ | ⟨hnone, hdir, -⟩
  · rw [he]
  · cases hp
  · rw [hnone, hdir]
    simp

/-- A file that none of `files` leads to reads the same. -/
theorem read (h : Alters a b files dirs) {p : Path} {bytes : ByteArray} (hr : a.read p = .ok bytes)
    (hother : ∀ l, b.locate p = .ok l → ∀ q ∈ files, b.locate q ≠ .ok l) :
    b.read p = .ok bytes := by
  obtain ⟨l, hl, hnode⟩ := read_eq_ok.mp hr
  have hb := h.keeps.locate hl
  refine read_eq_ok.mpr ⟨l, hb, ?_⟩
  rcases h.node l with he | ⟨-, q, hq, hql⟩ | ⟨hnone, -⟩
  · rw [he, hnode]
  · exact (hother l hb q hq hql).elim
  · rw [hnode] at hnone; cases hnone

end Alters

/-! ## System calls as changes -/

theorem node?_insert_self (d : Disk) {l : Location} (hl : l ≠ []) (node : Node) :
    (d.insert l node).node? l = some node := by
  simp [node?_insert, hl]

theorem node?_insert_of_ne (d : Disk) {l l' : Location} (h : l' ≠ l) (node : Node) :
    (d.insert l node).node? l' = d.node? l' := by
  rw [node?_insert, if_neg h]
  by_cases hl : l' = []
  · simp [hl, node?]
  · simp [hl]

theorem keeps_insert {d : Disk} {l : Location} (node : Node) (h : d.node? l ≠ some .directory) :
    Keeps d (d.insert l node) where
  workingDirectory := rfl
  directory q hq := by
    have hne : q ≠ l := fun he => h (he ▸ hq)
    rw [node?_insert_of_ne d hne, hq]

/-- Writing an entry changes that entry only, which then holds the bytes. -/
theorem write_child_alters {d d' : Disk} {dir : Path} {name : String} {bytes : ByteArray}
    (hn : Path.IsName name) (h : d.write (dir.child name) bytes = .ok d') :
    Alters d d' [dir.child name] [] ∧ d'.read (dir.child name) = .ok bytes := by
  obtain ⟨l, hl, hne, hnode, rfl⟩ := write_child_ok hn h
  have hl' := (keeps_insert (.file bytes) hnode).locate hl
  refine ⟨⟨rfl, fun q => ?_⟩, read_eq_ok.mpr ⟨l, hl', node?_insert_self d hne _⟩⟩
  by_cases hq : q = l
  · subst hq
    exact .inr (.inl ⟨hnode, _, List.mem_singleton_self _, hl'⟩)
  · exact .inl (node?_insert_of_ne d hq _)

theorem makeDirectory_ok {d d' : Disk} {p : Path} (h : d.makeDirectory p = .ok d') :
    ∃ l, d.locateEntry p = .ok (some l) ∧ d.node? l = none ∧ d' = d.insert l .directory := by
  unfold makeDirectory at h
  cases he : d.locateEntry p with
  | error e => rw [he] at h; cases h
  | ok entry =>
    rw [he] at h
    cases entry with
    | none => cases h
    | some l =>
      simp only [bind, Except.bind] at h
      cases hnode : d.node? l with
      | none => rw [hnode] at h; exact ⟨l, rfl, hnode, (Except.ok.inj h).symm⟩
      | some node => rw [hnode] at h; cases h

/-- Once a directory stands at the place of an entry, its path leads there. -/
theorem locate_of_locateEntry {d d' : Disk} {p : Path} {l : Location} (hk : Keeps d d')
    (h : d.locateEntry p = .ok (some l)) (hdir : d'.node? l = some .directory) :
    d'.locate p = .ok l := by
  unfold locateEntry at h
  unfold locate
  rw [hk.start]
  cases hc : checkText p with
  | error e => rw [hc] at h; cases h
  | ok u =>
    rw [hc] at h
    cases hlast : p.segments.getLast? with
    | none => simp only [hlast, bind, Except.bind] at h; cases h
    | some last =>
      obtain ⟨init, hseg⟩ := List.getLast?_eq_some_iff.mp hlast
      simp only [hseg, List.getLast?_concat, List.dropLast_concat] at h
      cases hw : d.walk (d.start p) init with
      | error e => simp [hw, bind, Except.bind] at h
      | ok dir =>
        cases hs : d.step dir last with
        | error e => simp [hw, hs, bind, Except.bind] at h
        | ok next =>
          have hnext : next = l := by
            simp only [hw, hs, bind, Except.bind, Except.ok.injEq] at h
            split at h
            · cases h
            · exact Option.some.inj h
          subst hnext
          have hwalk : d'.walk (d.start p) p.segments = .ok next := by
            rw [hseg, walk_concat, hk.walk hw]
            exact hk.step hs
          simp only [hwalk, bind, Except.bind]
          by_cases hslash : p.endsInSlash = true
          · rw [if_pos hslash]; exact step_dot hdir
          · rw [if_neg hslash]

/-- A new directory stands where its path leads. -/
theorem makeDirectory_new {d d' : Disk} {p : Path} (h : d.makeDirectory p = .ok d') :
    ∃ l, d.node? l = none ∧ d' = d.insert l .directory ∧ d'.node? l = some .directory ∧
      d'.locate p = .ok l := by
  obtain ⟨l, hl, hnone, rfl⟩ := makeDirectory_ok h
  have hne : l ≠ [] := by
    intro he
    rw [he] at hnone
    cases hnone
  have hdir := node?_insert_self d hne .directory
  have hk : Keeps d (d.insert l .directory) := keeps_insert .directory (by rw [hnone]; simp)
  exact ⟨l, hnone, rfl, hdir, locate_of_locateEntry hk hl hdir⟩

theorem makeDirectory_alters {d d' : Disk} {p : Path} (h : d.makeDirectory p = .ok d') :
    Alters d d' [] [p] := by
  obtain ⟨l, hnone, rfl, hdir, hl⟩ := makeDirectory_new h
  refine ⟨rfl, fun q => ?_⟩
  by_cases hq : q = l
  · subst hq
    exact .inr (.inr ⟨hnone, hdir, p, List.mem_singleton_self p, hl⟩)
  · exact .inl (node?_insert_of_ne d hq _)

theorem climb_alters {d d' : Disk} {ps missing : List Path} (h : d.climb ps = .ok (d', missing)) :
    Alters d d' [] ps ∧ ∀ p ∈ missing, p ∈ ps := by
  induction ps generalizing missing with
  | nil => cases h; exact ⟨.refl d, by simp⟩
  | cons p above ih =>
    unfold climb at h
    cases hm : d.makeDirectory p with
    | ok d₁ =>
      rw [hm] at h
      cases h
      exact ⟨(makeDirectory_alters hm).mono (by simp) (by simp), by simp⟩
    | error e =>
      rw [hm] at h
      simp only at h
      split at h
      · cases hc : d.climb above with
        | error e => rw [hc] at h; cases h
        | ok r =>
          rw [hc] at h
          cases h
          obtain ⟨ha, hsub⟩ := ih hc
          refine ⟨ha.mono (by simp) fun q hq => List.mem_cons_of_mem _ hq, fun q hq => ?_⟩
          rcases List.mem_cons.mp hq with rfl | hq
          · exact List.mem_cons_self
          · exact List.mem_cons_of_mem _ (hsub q hq)
      · split at h
        · cases h
          exact ⟨(Alters.refl d).mono (by simp) (by simp), by simp⟩
        · cases h

/-- The first of the directories is created, stands already, or cannot be created. -/
theorem descend_cons_cases (d : Disk) (p : Path) (rest : List Path) :
    (∃ d', d.makeDirectory p = .ok d' ∧ d.descend (p :: rest) = d'.descend rest) ∨
    (d.isDirectory p = true ∧ d.descend (p :: rest) = d.descend rest) ∨
    ∃ e, d.descend (p :: rest) = (.error e, d) := by
  rw [descend]
  cases hm : d.makeDirectory p with
  | ok d' => exact .inl ⟨d', rfl, rfl⟩
  | error e =>
    by_cases hdir : e = .fileExists ∧ d.isDirectory p = true
    · exact .inr (.inl ⟨hdir.2, if_pos hdir⟩)
    · exact .inr (.inr ⟨e, if_neg hdir⟩)

theorem descend_alters (d : Disk) (ps : List Path) : Alters d (d.descend ps).2 [] ps := by
  induction ps generalizing d with
  | nil => exact .refl d
  | cons p rest ih =>
    rcases descend_cons_cases d p rest with ⟨d₁, hm, he⟩ | ⟨-, he⟩ | ⟨e, he⟩
    · rw [he]
      exact (makeDirectory_alters hm).trans (ih d₁)
    · rw [he]
      exact (ih d).mono (by simp) fun q hq => List.mem_cons_of_mem _ hq
    · rw [he]
      exact (Alters.refl d).mono (by simp) (by simp)

/-- If the last of the directories cannot be created, only those before it are new. -/
theorem descend_error_alters {d d' : Disk} {ps : List Path} {p : Path} {e : IoFault}
    (h : d.descend (ps ++ [p]) = (.error e, d')) : Alters d d' [] ps := by
  induction ps generalizing d with
  | nil =>
    rw [List.nil_append] at h
    rcases descend_cons_cases d p [] with ⟨d₁, -, he⟩ | ⟨-, he⟩ | ⟨e', he⟩
    · rw [he] at h; cases h
    · rw [he] at h; cases h
    · rw [he] at h
      cases h
      exact .refl _
  | cons q rest ih =>
    rw [List.cons_append] at h
    rcases descend_cons_cases d q (rest ++ [p]) with ⟨d₁, hm, he⟩ | ⟨-, he⟩ | ⟨e', he⟩
    · rw [he] at h
      exact (makeDirectory_alters hm).trans (ih h)
    · rw [he] at h
      exact (ih h).mono (by simp) fun x hx => List.mem_cons_of_mem _ hx
    · rw [he] at h
      cases h
      exact (Alters.refl _).mono (by simp) (by simp)

/-- A directory is nothing to create, is created at once, stands already, cannot be created, or is
created after those above it. -/
theorem makeDirectories_cases (d : Disk) (p : Path) :
    (p.components.isEmpty = true ∧ d.makeDirectories p = (.ok (), d)) ∨
    (∃ d', d.makeDirectory p = .ok d' ∧ d.makeDirectories p = (.ok (), d')) ∨
    (d.isDirectory p = true ∧ d.makeDirectories p = (.ok (), d)) ∨
    (∃ e, d.makeDirectories p = (.error e, d)) ∨
    ∃ d₁ missing, d.climb p.parents = .ok (d₁, missing) ∧
      d.makeDirectories p = d₁.descend (missing.reverse ++ [p]) := by
  unfold makeDirectories
  by_cases hp : p.components.isEmpty = true
  · exact .inl ⟨hp, if_pos hp⟩
  · rw [if_neg hp, climb]
    cases hm : d.makeDirectory p with
    | ok d' => exact .inr (.inl ⟨d', rfl, rfl⟩)
    | error e =>
      simp only
      by_cases hmissing : e = .noSuchFile
      · rw [if_pos hmissing]
        cases hc : d.climb p.parents with
        | error e' => exact .inr (.inr (.inr (.inl ⟨e', rfl⟩)))
        | ok r =>
          obtain ⟨d₁, missing⟩ := r
          refine .inr (.inr (.inr (.inr ⟨d₁, missing, rfl, ?_⟩)))
          simp [Except.map]
      · rw [if_neg hmissing]
        by_cases hdir : e = .fileExists ∧ d.isDirectory p = true
        · rw [if_pos hdir]
          exact .inr (.inr (.inl ⟨hdir.2, rfl⟩))
        · rw [if_neg hdir]
          exact .inr (.inr (.inr (.inl ⟨e, rfl⟩)))

/-- Creating a directory adds directories at its path and the paths above it, and changes nothing
else, whether or not it succeeds. -/
theorem makeDirectories_alters (d : Disk) (p : Path) :
    Alters d (d.makeDirectories p).2 [] (p :: p.parents) := by
  have hsame : Alters d d [] (p :: p.parents) := (Alters.refl d).mono (by simp) (by simp)
  rcases makeDirectories_cases d p with ⟨-, he⟩ | ⟨d₁, hm, he⟩ | ⟨-, he⟩ | ⟨e, he⟩ |
    ⟨d₁, missing, hc, he⟩
  · rwa [he]
  · rw [he]
    exact (makeDirectory_alters hm).mono (by simp) (by simp)
  · rwa [he]
  · rwa [he]
  · obtain ⟨halters, hsub⟩ := climb_alters hc
    rw [he]
    refine (halters.trans (descend_alters d₁ (missing.reverse ++ [p]))).mono (by simp) fun q hq => ?_
    simp only [List.mem_append, List.mem_reverse, List.mem_singleton] at hq
    rcases hq with hq | hq | rfl
    · exact List.mem_cons_of_mem _ hq
    · exact List.mem_cons_of_mem _ (hsub q hq)
    · exact List.mem_cons_self

/-- A path that cannot be created is not there afterwards: only directories above it are new. -/
theorem makeDirectories_error_alters {d d' : Disk} {p : Path} {e : IoFault}
    (h : d.makeDirectories p = (.error e, d')) : Alters d d' [] p.parents := by
  rcases makeDirectories_cases d p with ⟨-, he⟩ | ⟨d₁, -, he⟩ | ⟨-, he⟩ | ⟨e', he⟩ |
    ⟨d₁, missing, hc, he⟩
  · rw [he] at h; cases h
  · rw [he] at h; cases h
  · rw [he] at h; cases h
  · rw [he] at h
    cases h
    exact (Alters.refl _).mono (by simp) (by simp)
  · obtain ⟨halters, hsub⟩ := climb_alters hc
    rw [he] at h
    refine (halters.trans (descend_error_alters h)).mono (by simp) fun q hq => ?_
    rcases List.mem_append.mp hq with hq | hq
    · exact hq
    · exact hsub q (List.mem_reverse.mp hq)

end PuzzleInputs.Disk
