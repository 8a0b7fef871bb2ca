import Mathlib
import PuzzleInputs.Path

/-!
# Paths of directory entries

`IsName name` says that `name` can be the name of an entry: it holds no slash, is neither empty nor
one of the two dots, and a file system takes it. The path `dir.child name` of such an entry starts
where `dir` starts, walks the names of `dir` and then `name`, and does not end in a slash.
-/

namespace PuzzleInputs

theorem pieces_ne_nil (sep : Char) (cs : List Char) : pieces sep cs ≠ [] := by
  cases cs with
  | nil => simp [pieces]
  | cons c cs =>
    simp only [pieces]
    split
    · simp
    · split <;> simp

/-- A separator divides the pieces before it from those after it. -/
theorem pieces_append_sep (sep : Char) (a b : List Char) :
    pieces sep (a ++ sep :: b) = pieces sep a ++ pieces sep b := by
  induction a with
  | nil => simp [pieces]
  | cons c a ih =>
    rw [List.cons_append, pieces, pieces, ih]
    by_cases h : c = sep
    · simp [h]
    · simp only [h, ↓reduceIte]
      cases hp : pieces sep a with
      | nil => exact (pieces_ne_nil sep a hp).elim
      | cons first rest => rfl

theorem pieces_of_notMem {sep : Char} {cs : List Char} (h : sep ∉ cs) : pieces sep cs = [cs] := by
  induction cs with
  | nil => rfl
  | cons c cs ih =>
    rw [List.mem_cons, not_or] at h
    rw [pieces, if_neg (Ne.symm h.1), ih h.2]

namespace Path

/-- A name that an entry of a directory can have. -/
structure IsName (name : String) : Prop where
  ne_empty : name ≠ ""
  no_slash : '/' ∉ name.toList
  ne_dot : name ≠ "."
  ne_dotdot : name ≠ ".."
  size_le : name.utf8ByteSize ≤ 255

variable {dir : Path} {name : String}

theorem IsName.toList_ne_nil (h : IsName name) : name.toList ≠ [] := by
  intro he
  exact h.ne_empty (String.toList_inj.mp (by simpa using he))

theorem IsName.pieces (h : IsName name) :
    ((pieces '/' name.toList).filter (!·.isEmpty)).map String.ofList = [name] := by
  rw [pieces_of_notMem h.no_slash]
  simp [h.toList_ne_nil]

/-- The text of a child: the slash stands between the two parts unless nothing or a slash is before
it already. -/
theorem text_child (dir : Path) (name : String) :
    (dir.text = "" ∧ dir.child name = ⟨name⟩) ∨
    (∃ init, dir.text.toList = init ++ ['/'] ∧
      (dir.child name).text.toList = init ++ '/' :: name.toList) ∨
    (dir.text ≠ "" ∧ (dir.child name).text.toList = dir.text.toList ++ '/' :: name.toList) := by
  by_cases he : dir.text = ""
  · exact .inl ⟨he, by simp [child, he]⟩
  · right
    by_cases hs : dir.endsInSlash = true
    · left
      obtain ⟨init, hi⟩ : ∃ init, dir.text.toList = init ++ ['/'] := by
        simp only [endsInSlash, beq_iff_eq] at hs
        exact List.getLast?_eq_some_iff.mp hs
      exact ⟨init, hi, by simp [child, hs, hi]⟩
    · right
      refine ⟨he, ?_⟩
      simp [child, hs, he]

theorem segments_child (h : IsName name) : (dir.child name).segments = dir.segments ++ [name] := by
  unfold segments
  rcases text_child dir name with ⟨he, hc⟩ | ⟨init, hd, hc⟩ | ⟨_, hc⟩
  · rw [hc, h.pieces, he]
    simp [pieces]
  · rw [hc, hd, pieces_append_sep, pieces_append_sep, List.filter_append, List.map_append, h.pieces]
    simp [pieces]
  · rw [hc, pieces_append_sep, List.filter_append, List.map_append, h.pieces]

theorem isAbsolute_child (h : IsName name) : (dir.child name).isAbsolute = dir.isAbsolute := by
  unfold isAbsolute
  rcases text_child dir name with ⟨he, hc⟩ | ⟨init, hd, hc⟩ | ⟨he, hc⟩
  · rw [hc, he]
    have hslash : name.toList.head? ≠ some '/' := fun hh => h.no_slash (List.mem_of_head? hh)
    simp only [String.toList_empty, List.head?_nil]
    rw [beq_eq_false_iff_ne.mpr hslash]
    rfl
  · rw [hc, hd]
    cases init <;> rfl
  · rw [hc]
    cases hl : dir.text.toList with
    | nil => exact (he (String.toList_inj.mp (by simpa using hl))).elim
    | cons c cs => rfl

theorem endsInSlash_child (h : IsName name) : (dir.child name).endsInSlash = false := by
  have hlast : (dir.child name).text.toList.getLast? = name.toList.getLast? := by
    rcases text_child dir name with ⟨_, hc⟩ | ⟨init, _, hc⟩ | ⟨_, hc⟩
    · rw [hc]
    · rw [hc, List.getLast?_append_cons, List.getLast?_cons_of_ne_nil h.toList_ne_nil]
    · rw [hc, List.getLast?_append_cons, List.getLast?_cons_of_ne_nil h.toList_ne_nil]
  rw [endsInSlash, hlast, beq_eq_false_iff_ne]
  intro hs
  exact h.no_slash (List.mem_of_getLast? hs)

theorem child_inj {name' : String} (h : IsName name) (h' : IsName name')
    (he : dir.child name = dir.child name') : name = name' := by
  have hs := congrArg segments he
  rw [segments_child h, segments_child h'] at hs
  simpa using hs

theorem getLast?_components_child (h : IsName name) :
    (dir.child name).components.getLast? = some name := by
  have hkept : [name].filter (· != ".") = [name] := by simp [h.ne_dot]
  unfold components
  rw [segments_child h]
  cases dir.segments with
  | nil => simp [h.ne_dot]
  | cons first rest =>
    simp only [List.cons_append, List.filter_append, hkept]
    split
    · rw [List.getLast?_concat]
    · rw [← List.cons_append, List.getLast?_concat]

theorem same_refl (p : Path) : p.same p = true := by
  simp [same]

/-- Entries that are the same path have the same name, whatever their directories. -/
theorem name_eq_of_same {dir' : Path} {name' : String} (h : IsName name) (h' : IsName name')
    (hs : (dir.child name).same (dir'.child name') = true) : name = name' := by
  unfold same at hs
  rw [Bool.and_eq_true, beq_iff_eq, beq_iff_eq] at hs
  have hlast := congrArg List.getLast? hs.2
  rw [getLast?_components_child h, getLast?_components_child h'] at hlast
  exact Option.some.inj hlast

end Path

end PuzzleInputs
