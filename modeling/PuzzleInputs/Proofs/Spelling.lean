import Mathlib
import PuzzleInputs.Proofs.CommandLine
import PuzzleInputs.Proofs.Settings

/-!
# Command lines in any order

Arguments can be written down in many ways: each item in one of its spellings, and the items in any
order (`Spells`). All of them are read as the same arguments (`read_spelled`). The reader keeps to this
invariant: once the tokens of some items are taken, completing the pending one gives just these items
(`Stands`).
-/

namespace PuzzleInputs

/-- Arguments that the program can have: words of their sizes, paths that are not empty, and one
credential at most. -/
structure Arguments.Proper (a : Arguments) : Prop where
  year : -2 ^ 31 ≤ a.year ∧ a.year ≤ 2 ^ 31 - 1
  retries : ∀ n, a.retries = some n → n ≤ 2 ^ 64 - 1
  sessionFile : ∀ p, a.sessionFile = some p → p.text ≠ ""
  outputDir : ∀ p, a.outputDir = some p → p.text ≠ ""
  credential : a.sessionFile = none ∨ a.account = none

namespace CommandLine

/-- The groups write the arguments: each item once, in an allowed spelling, in any order, but a
negative year at the end. -/
structure Spells (groups : List Group) (a : Arguments) : Prop where
  items : (groups.map Group.setting).Perm a.settings
  allowed : ∀ g ∈ groups, g.allowed = true
  negative : a.year < 0 → (groups.map Group.setting).getLast? = some (.year a.year)

/-! ## Items -/

/-- The item has a value that can be read back. -/
def Setting.Proper : Setting → Prop
  | .year n => minYear ≤ n ∧ n ≤ maxYear
  | .sessionFile p => p.text ≠ ""
  | .outputDir p => p.text ≠ ""
  | .retries n => n ≤ Word.max64
  | _ => True

theorem readYear_toString {n : Int} (h : (Setting.year n).Proper) :
    readYear (toString n) = .ok (.year n) :=
  readYear_eq_ok.mpr ⟨n, Decimal.isSigned_toString n, h.1, h.2, rfl⟩

/-- The text of a value is read as the item. -/
theorem readValue_of_value? {x : Setting} (hx : x.Proper) {o : Valued} {text : String}
    (h : x.value? = some (o, text)) : readValue o text = .ok x ∧ x.key = .valued o := by
  cases x with
  | year n => cases h
  | switch f => cases h
  | sessionFile p =>
    cases h
    have hempty : p.text.isEmpty = false := by simpa [Setting.Proper] using hx
    simp [readValue, hempty, Setting.key]
  | outputDir p =>
    cases h
    have hempty : p.text.isEmpty = false := by simpa [Setting.Proper] using hx
    simp [readValue, hempty, Setting.key]
  | retries n =>
    cases h
    exact ⟨readRetries_eq_ok.mpr ⟨n, Decimal.isUnsigned_toString n, hx, rfl⟩, rfl⟩
  | account label => cases h; exact ⟨rfl, rfl⟩
  | timezone text => cases h; exact ⟨rfl, rfl⟩
  | baseUrl url => cases h; exact ⟨rfl, rfl⟩
  | userAgent text => cases h; exact ⟨rfl, rfl⟩

theorem head?_toString {n : Int} (h : 0 ≤ n) : (toString n).toList.head? ≠ some '-' := by
  rw [Int.toString_eq_repr, Int.repr_eq_if, if_pos h]
  have hdigits := Decimal.isNumeral_toString n.toNat
  rw [← Nat.toString_eq_repr]
  intro hhead
  have hmem := List.mem_of_head? hhead
  exact absurd (hdigits.ascii _ hmem) (by decide)

/-- A value can stand alone if it is not empty and is not taken for an option. -/
theorem isDetachable_iff {text : String} :
    isDetachable text = true ↔
      (text = "-" ∨ text.toList.head? ≠ some '-') ∧ text ≠ "" := by
  unfold isDetachable
  by_cases hdash : text = "-"
  · simp [hdash]
  · simp [hdash, and_comm]

theorem Group.tokens_of_year {g : Group} {n : Int} (h : g.setting = .year n) :
    g.tokens = if n < 0 then ["--", toString n] else [toString n] := by
  obtain ⟨setting, style⟩ := g
  cases h
  rfl

theorem Group.tokens_of_value? {g : Group} {o : Valued} {text : String}
    (h : g.setting.value? = some (o, text)) :
    g.tokens = match g.style with
      | .attached => ["--" ++ o.name ++ "=" ++ text]
      | .detached => ["--" ++ o.name, text]
      | .letter => ["-o", text] := by
  obtain ⟨setting, style⟩ := g
  cases setting <;> cases h <;> cases style <;> rfl

/-! ## The reader between two groups -/

/-- The items so far are `done`, with the pending one completed, and any option may follow. -/
structure State.Stands (s : State) (done : List Setting) : Prop where
  flush : s.flush = .ok done
  literal : s.literal = false

namespace State.Stands

variable {s : State} {done : List Setting}

theorem not_awaiting (h : s.Stands done) (o : Valued) : s.pending ≠ .awaiting o := by
  intro hp
  have hflush := h.flush
  rw [State.flush, hp] at hflush
  cases hflush

/-- A word that is not the value of an option is the year. -/
theorem takeWord_eq (h : s.Stands done) (token : String) : s.takeWord token = s.takeYear token := by
  unfold takeWord
  split
  · next o hp => exact absurd hp (h.not_awaiting o)
  · rfl

theorem year (h : s.Stands done) {n : Int} (hn : (Setting.year n).Proper) (hpos : 0 ≤ n)
    (hnew : ∀ x ∈ done, x.key ≠ .year) :
    ∃ s', s.take (toString n) = .ok s' ∧ s'.Stands (done ++ [.year n]) := by
  refine ⟨{ s with done, pending := .year (toString n) }, ?_, ?_, h.literal⟩
  · rw [take_word h.literal (.inr (head?_toString hpos)), h.takeWord_eq, takeYear_eq h.flush hnew]
  · show complete done .year (readYear (toString n)) = _
    rw [readYear_toString hn, complete_eq hnew]

/-- Behind two dashes any year will do. -/
theorem literalYear (h : s.Stands done) {n : Int} (hn : (Setting.year n).Proper)
    (hnew : ∀ x ∈ done, x.key ≠ .year) :
    ∃ s', ["--", toString n].foldlM take s = .ok s' ∧ s'.flush = .ok (done ++ [.year n]) := by
  let opened : State := { s with literal := true }
  have hdashes : s.take "--" = .ok opened := by
    rw [take, h.literal]
    rfl
  have hflush : opened.flush = .ok done := h.flush
  have hyear : opened.take (toString n) = .ok { opened with done, pending := .year (toString n) } :=
    takeYear_eq hflush hnew (toString n)
  refine ⟨{ opened with done, pending := .year (toString n) }, ?_, ?_⟩
  · rw [List.foldlM_cons, hdashes]
    show opened.take (toString n) >>= _ = _
    rw [hyear]
    rfl
  · show complete done .year (readYear (toString n)) = _
    rw [readYear_toString hn, complete_eq hnew]

theorem switch (h : s.Stands done) {f : Switch} (hnew : ∀ x ∈ done, x.key ≠ .switch f)
    {token : String} (htoken : token = f.letter ∨ token = "--" ++ f.name) :
    ∃ s', s.take token = .ok s' ∧ s'.Stands (done ++ [.switch f]) := by
  refine ⟨{ s with done := done ++ [.switch f], pending := .nothing }, ?_, rfl, h.literal⟩
  rcases htoken with rfl | rfl
  · rw [take_letter h.literal, takeSwitch_eq h.flush hnew]
  · rw [take_switch h.literal, takeSwitch_eq h.flush hnew]

theorem attached (h : s.Stands done) {o : Valued} (hnew : ∀ x ∈ done, x.key ≠ .valued o)
    {text : String} {x : Setting} (hread : readValue o text = .ok x) :
    ∃ s', s.take ("--" ++ o.name ++ "=" ++ text) = .ok s' ∧ s'.Stands (done ++ [x]) := by
  refine ⟨{ s with done := done ++ [x], pending := .nothing }, ?_, rfl, h.literal⟩
  rw [take_attached h.literal, takeAttached_eq h.flush hnew hread]

/-- An option takes the next word as its value, which stays pending. -/
theorem detached (h : s.Stands done) {o : Valued} (hnew : ∀ x ∈ done, x.key ≠ .valued o)
    {text : String} {x : Setting} (hread : readValue o text = .ok x)
    (hword : text = "-" ∨ text.toList.head? ≠ some '-') {token : String}
    (htoken : s.take token = s.takeOption o) :
    ∃ s', [token, text].foldlM take s = .ok s' ∧ s'.Stands (done ++ [x]) := by
  let awaiting : State := { s with done, pending := .awaiting o }
  have hoption : s.take token = .ok awaiting := by rw [htoken, takeOption_eq h.flush]
  have hliteral : awaiting.literal = false := h.literal
  have hvalue : awaiting.take text = .ok { s with done, pending := .value o text } := by
    rw [take_word hliteral hword]
    rfl
  refine ⟨{ s with done, pending := .value o text }, ?_, ?_, h.literal⟩
  · rw [List.foldlM_cons, hoption]
    show awaiting.take text >>= _ = _
    rw [hvalue]
    rfl
  · show complete done (.valued o) (readValue o text) = _
    rw [hread, complete_eq hnew]

/-! ## Groups -/

/-- The tokens of one more group add its item. -/
theorem group (h : s.Stands done) {g : Group} (hallowed : g.allowed = true)
    (hproper : g.setting.Proper) (hpos : ∀ n, g.setting = .year n → 0 ≤ n)
    (hnew : ∀ x ∈ done, x.key ≠ g.setting.key) :
    ∃ s', g.tokens.foldlM take s = .ok s' ∧ s'.Stands (done ++ [g.setting]) := by
  cases hvalue : g.setting.value? with
  | none =>
    obtain ⟨token, htokens, s', htake, hstands⟩ : ∃ token, g.tokens = [token] ∧
        ∃ s', s.take token = .ok s' ∧ s'.Stands (done ++ [g.setting]) := by
      obtain ⟨setting, style⟩ := g
      cases setting with
      | year n =>
        have hn := hpos n rfl
        exact ⟨_, if_neg (by omega), h.year hproper hn hnew⟩
      | switch f =>
        cases style with
        | letter => exact ⟨_, rfl, h.switch hnew (.inl rfl)⟩
        | attached => exact ⟨_, rfl, h.switch hnew (.inr rfl)⟩
        | detached => exact ⟨_, rfl, h.switch hnew (.inr rfl)⟩
      | _ => cases hvalue
    exact ⟨s', by rw [htokens, List.foldlM_cons, htake]; rfl, hstands⟩
  | some v =>
    obtain ⟨o, text⟩ := v
    obtain ⟨hread, hkey⟩ := readValue_of_value? hproper hvalue
    rw [hkey] at hnew
    rw [Group.tokens_of_value? hvalue]
    cases hstyle : g.style with
    | attached =>
      obtain ⟨s', htake, hstands⟩ := h.attached hnew hread
      exact ⟨s', by rw [List.foldlM_cons, htake]; rfl, hstands⟩
    | detached =>
      have hword : isDetachable text = true := by simpa [Group.allowed, hvalue, hstyle] using hallowed
      exact h.detached hnew hread (isDetachable_iff.mp hword).1 (take_option h.literal o)
    | letter =>
      have hword : o = .outputDir ∧ isDetachable text = true := by
        simpa [Group.allowed, hvalue, hstyle] using hallowed
      obtain ⟨rfl, hword⟩ := hword
      exact h.detached hnew hread (isDetachable_iff.mp hword).1 (take_letter_outputDir h.literal)

/-- Group after group, the items come to be those of the groups. -/
theorem groups {groups : List Group} (h : s.Stands done)
    (hallowed : ∀ g ∈ groups, g.allowed = true) (hproper : ∀ g ∈ groups, g.setting.Proper)
    (hpos : ∀ g ∈ groups, ∀ n, g.setting = .year n → 0 ≤ n)
    (hnodup : ((done ++ groups.map Group.setting).map Setting.key).Nodup) :
    ∃ s', (groups.flatMap Group.tokens).foldlM take s = .ok s' ∧
      s'.Stands (done ++ groups.map Group.setting) := by
  induction groups generalizing s done with
  | nil => exact ⟨s, rfl, by simpa using h⟩
  | cons g groups ih =>
    have hnew : ∀ x ∈ done, x.key ≠ g.setting.key := by
      intro x hx hkey
      rw [List.map_append, List.nodup_append] at hnodup
      exact hnodup.2.2 _ (List.mem_map_of_mem hx) _ (by simp) hkey
    obtain ⟨s₁, htake, hstands⟩ := h.group (hallowed g List.mem_cons_self)
      (hproper g List.mem_cons_self) (hpos g List.mem_cons_self) hnew
    obtain ⟨s₂, hrest, hstands'⟩ := ih hstands
      (fun g' hg' => hallowed g' (List.mem_cons_of_mem g hg'))
      (fun g' hg' => hproper g' (List.mem_cons_of_mem g hg'))
      (fun g' hg' => hpos g' (List.mem_cons_of_mem g hg')) (by simpa using hnodup)
    refine ⟨s₂, ?_, by simpa using hstands'⟩
    rw [List.flatMap_cons, List.foldlM_append, htake]
    exact hrest

end State.Stands

/-! ## The items as arguments -/

/-- Looking for the items of one kind finds the value that they have, if they all have one value. -/
theorem findSome?_select {α β : Type} {l : List α} {select : α → Option β} {o : Option β}
    (item : β → α) (hselect : ∀ x v, select x = some v ↔ x = item v)
    (ho : ∀ v, item v ∈ l ↔ o = some v) : l.findSome? select = o := by
  cases hfind : l.findSome? select with
  | some v =>
    obtain ⟨x, hx, hv⟩ := List.exists_of_findSome?_eq_some hfind
    rw [(hselect x v).mp hv] at hx
    exact ((ho v).mp hx).symm
  | none =>
    cases o with
    | none => rfl
    | some v =>
      have hnone := List.findSome?_eq_none_iff.mp hfind (item v) ((ho v).mpr rfl)
      rw [(hselect (item v) v).mpr rfl] at hnone
      cases hnone

theorem mem_settings {a : Arguments} {x : Setting} :
    x ∈ a.settings ↔ match x with
      | .year n => a.year = n
      | .sessionFile p => a.sessionFile = some p
      | .account label => a.account = some label
      | .outputDir p => a.outputDir = some p
      | .timezone text => a.timezone = some text
      | .baseUrl url => a.baseUrl = some url
      | .userAgent text => a.userAgent = some text
      | .retries n => a.retries = some n
      | .switch .verbose => a.verbose = true
      | .switch .quiet => a.quiet = true := by
  unfold Arguments.settings
  cases x with
  | switch f => cases f <;> simp
  | year n => simp [eq_comm (a := n)]
  | _ => simp

/-- In any order, the items of the arguments are put together to the arguments. -/
theorem assemble_of_perm {done : List Setting} {a : Arguments} (h : done.Perm a.settings) :
    assemble done = .ok a := by
  have hitem : ∀ x, x ∈ done ↔ _ := fun x => h.mem_iff.trans mem_settings
  have hyear : ∀ select : Setting → Option Int, (∀ x v, select x = some v ↔ x = .year v) →
      done.findSome? select = some a.year := fun select hselect =>
    findSome?_select .year hselect fun v => (hitem (.year v)).trans Option.some_inj.symm
  have hverbose : done.contains (.switch .verbose) = a.verbose := by
    rw [Bool.eq_iff_iff, List.contains_iff_mem, hitem]
  have hquiet : done.contains (.switch .quiet) = a.quiet := by
    rw [Bool.eq_iff_iff, List.contains_iff_mem, hitem]
  unfold assemble
  split
  · next hnone => cases hnone.symm.trans (hyear _ fun x v => by cases x <;> simp)
  · next year hsome =>
    obtain rfl : year = a.year :=
      Option.some.inj (hsome.symm.trans (hyear _ fun x v => by cases x <;> simp))
    rw [Except.ok.injEq, Arguments.mk.injEq]
    refine ⟨rfl, ?_, ?_, ?_, ?_, ?_, ?_, ?_, hverbose, hquiet⟩
    · exact findSome?_select .sessionFile (fun x v => by cases x <;> simp) fun v => hitem (.sessionFile v)
    · exact findSome?_select .account (fun x v => by cases x <;> simp) fun v => hitem (.account v)
    · exact findSome?_select .outputDir (fun x v => by cases x <;> simp) fun v => hitem (.outputDir v)
    · exact findSome?_select .timezone (fun x v => by cases x <;> simp) fun v => hitem (.timezone v)
    · exact findSome?_select .baseUrl (fun x v => by cases x <;> simp) fun v => hitem (.baseUrl v)
    · exact findSome?_select .userAgent (fun x v => by cases x <;> simp) fun v => hitem (.userAgent v)
    · exact findSome?_select .retries (fun x v => by cases x <;> simp) fun v => hitem (.retries v)

theorem filterMap_toList_map {α β : Type} (o : Option α) (item : α → Setting)
    (select : Setting → Option β) :
    (o.map item).toList.filterMap select = (o.bind fun v => select (item v)).toList := by
  cases o with
  | none => rfl
  | some v => cases h : select (item v) <;> simp [h]

/-- A file or an account alone passes the check, wherever it stands. -/
theorem checkCredential_of_perm {done : List Setting} {a : Arguments} (h : done.Perm a.settings)
    (hone : a.sessionFile = none ∨ a.account = none) : checkCredential done = .ok () := by
  unfold checkCredential
  split
  · next first second rest hcredentials =>
    have hlength := (congrArg List.length hcredentials).symm.trans (h.filterMap _).length_eq
    simp only [Arguments.settings, List.filterMap_append, filterMap_toList_map,
      apply_ite (List.filterMap _)] at hlength
    -- of the items only the two credentials count, and one of them is missing
    rcases hone with hnone | hnone
    · cases haccount : a.account <;> simp [hnone, haccount] at hlength
    · cases hfile : a.sessionFile <;> simp [hnone, hfile] at hlength
  · rfl

theorem nodup_keys (a : Arguments) : (a.settings.map Setting.key).Nodup := by
  have hone : ∀ {α : Type} (o : Option α) (item : α → Setting) (key : Key),
      (∀ v, (item v).key = key) → ((o.map item).toList.map Setting.key).Sublist [key] := by
    intro α o item key hkey
    cases o with
    | none => exact List.nil_sublist _
    | some v => simp [hkey]
  have hflag : ∀ (b : Bool) (f : Switch),
      ((if b then [Setting.switch f] else []).map Setting.key).Sublist [.switch f] := by
    intro b f
    cases b <;> simp [Setting.key]
  simp only [Arguments.settings, List.map_append]
  have hall : ([Key.year] ++ [Key.valued .sessionFile] ++ [Key.valued .account] ++
      [Key.valued .outputDir] ++ [Key.valued .timezone] ++ [Key.valued .baseUrl] ++
      [Key.valued .userAgent] ++ [Key.valued .retries] ++ [Key.switch .verbose] ++
      [Key.switch .quiet]).Nodup := by decide
  refine hall.sublist ?_
  refine List.Sublist.append ?_ (hflag a.quiet .quiet)
  refine List.Sublist.append ?_ (hflag a.verbose .verbose)
  refine List.Sublist.append ?_ (hone a.retries _ _ fun _ => rfl)
  refine List.Sublist.append ?_ (hone a.userAgent _ _ fun _ => rfl)
  refine List.Sublist.append ?_ (hone a.baseUrl _ _ fun _ => rfl)
  refine List.Sublist.append ?_ (hone a.timezone _ _ fun _ => rfl)
  refine List.Sublist.append ?_ (hone a.outputDir _ _ fun _ => rfl)
  refine List.Sublist.append ?_ (hone a.account _ _ fun _ => rfl)
  refine List.Sublist.append ?_ (hone a.sessionFile _ _ fun _ => rfl)
  exact List.Sublist.refl _

theorem proper_of_mem {a : Arguments} (ha : a.Proper) {x : Setting} (hx : x ∈ a.settings) :
    x.Proper := by
  rw [mem_settings] at hx
  cases x with
  | year n =>
    cases hx
    exact ha.year
  | sessionFile p => exact ha.sessionFile p hx
  | outputDir p => exact ha.outputDir p hx
  | retries n => exact ha.retries n hx
  | _ => trivial

/-! ## Whole command lines -/

section Spelled

variable {groups : List Group} {a : Arguments}

theorem Spells.mem (h : Spells groups a) {g : Group} (hg : g ∈ groups) : g.setting ∈ a.settings :=
  h.items.mem_iff.mp (List.mem_map_of_mem hg)

theorem Spells.nodup (h : Spells groups a) :
    ((groups.map Group.setting).map Setting.key).Nodup :=
  (h.items.map Setting.key).nodup_iff.mpr (nodup_keys a)

theorem Spells.exists_last (h : Spells groups a) (hneg : a.year < 0) :
    ∃ front last, groups = front ++ [last] ∧ last.setting = .year a.year := by
  have hlast := h.negative hneg
  rw [List.getLast?_map, Option.map_eq_some_iff] at hlast
  obtain ⟨last, hlast, hyear⟩ := hlast
  obtain ⟨front, hfront⟩ := List.getLast?_eq_some_iff.mp hlast
  exact ⟨front, last, hfront, hyear⟩

/-- All groups are taken, and their items are there, in the order of the groups. -/
theorem Spells.exists_state (h : Spells groups a) (ha : a.Proper) :
    ∃ s, (groups.flatMap Group.tokens).foldlM State.take {} = .ok s ∧
      s.flush = .ok (groups.map Group.setting) := by
  have hempty : State.Stands {} [] := ⟨rfl, rfl⟩
  have hproper : ∀ g ∈ groups, g.setting.Proper := fun g hg => proper_of_mem ha (h.mem hg)
  have hnodup := h.nodup
  by_cases hneg : a.year < 0
  · obtain ⟨front, last, rfl, hlast⟩ := h.exists_last hneg
    -- the year is at the end, and so nowhere before it
    have hnew : ∀ x ∈ front.map Group.setting, x.key ≠ .year := by
      intro x hx hkey
      rw [List.map_append, List.map_append, List.nodup_append] at hnodup
      refine hnodup.2.2 _ (List.mem_map_of_mem hx) _ ?_ hkey
      simp [hlast, Setting.key]
    have hpos : ∀ g ∈ front, ∀ n, g.setting = .year n → 0 ≤ n := by
      intro g hg n hn
      exact absurd (congrArg Setting.key hn) (hnew _ (List.mem_map_of_mem hg))
    obtain ⟨s, htake, hstands⟩ := hempty.groups
      (fun g hg => h.allowed g (List.mem_append_left _ hg))
      (fun g hg => hproper g (List.mem_append_left _ hg)) hpos
      (hnodup.sublist (by simp))
    have hyear : (Setting.year a.year).Proper := ha.year
    obtain ⟨s', htake', hflush⟩ := hstands.literalYear hyear hnew
    have htokens : last.tokens = ["--", toString a.year] := by
      rw [Group.tokens_of_year hlast, if_pos hneg]
    refine ⟨s', ?_, ?_⟩
    · rw [List.flatMap_append, List.flatMap_singleton, htokens, List.foldlM_append, htake]
      exact htake'
    · rw [hflush, List.map_append, List.map_singleton, hlast, List.nil_append]
  · have hpos : ∀ g ∈ groups, ∀ n, g.setting = .year n → 0 ≤ n := by
      intro g hg n hn
      have hyear : a.year = n := mem_settings.mp (hn ▸ h.mem hg)
      omega
    obtain ⟨s, htake, hstands⟩ := hempty.groups h.allowed hproper hpos hnodup
    exact ⟨s, htake, hstands.flush⟩

theorem Spells.read_eq (h : Spells groups a) (ha : a.Proper) :
    read (groups.flatMap Group.tokens) = .ok a := by
  obtain ⟨s, htake, hflush⟩ := h.exists_state ha
  have hcheck := checkCredential_of_perm h.items ha.credential
  have hassemble := assemble_of_perm h.items
  simp only [read, htake, hflush, hcheck, hassemble, bind, Except.bind]

end Spelled

/-- Whichever way arguments are written down, they are read back; and no command line names a file and
an account. -/
theorem read_spelled :
    (∀ (a : Arguments) (groups : List Group), a.Proper → Spells groups a →
      read (groups.flatMap Group.tokens) = .ok a) ∧
    ∀ (tokens : List String) (a : Arguments), read tokens = .ok a →
      ¬ (a.sessionFile ≠ none ∧ a.account ≠ none) := by
  refine ⟨fun a groups ha hspells => hspells.read_eq ha, fun tokens a hread => ?_⟩
  rintro ⟨hfile, haccount⟩
  rcases read_exclusive hread with hnone | hnone
  · exact hfile hnone
  · exact haccount hnone

/-- Values that look like options or like an option with its value, and a negative year. -/
theorem read_spelled_awkward :
    let a : Arguments :=
      { year := -44, account := some "--quiet", outputDir := some ⟨"-"⟩, userAgent := some "a=b --c",
        retries := some 18446744073709551615, verbose := true }
    let groups : List Group :=
      [⟨.outputDir ⟨"-"⟩, .letter⟩, ⟨.account "--quiet", .attached⟩, ⟨.switch .verbose, .letter⟩,
        ⟨.retries 18446744073709551615, .detached⟩, ⟨.userAgent "a=b --c", .detached⟩,
        ⟨.year (-44), .detached⟩]
    a.Proper ∧ Spells groups a ∧
      read ["-o", "-", "--account=--quiet", "-v", "--retries", "18446744073709551615",
        "--user-agent", "a=b --c", "--", "-44"] = .ok a := by
  intro a groups
  have hproper : a.Proper := by
    refine ⟨by decide, ?_, nofun, ?_, .inl rfl⟩
    · intro n hn
      cases hn
      decide
    · intro p hp
      cases hp
      decide
  have hspells : Spells groups a := ⟨by decide +kernel, by decide +kernel, fun _ => rfl⟩
  have htokens : groups.flatMap Group.tokens =
      ["-o", "-", "--account=--quiet", "-v", "--retries", "18446744073709551615",
        "--user-agent", "a=b --c", "--", "-44"] := by decide +kernel
  have hread := read_spelled.1 a groups hproper hspells
  rw [htokens] at hread
  exact ⟨hproper, hspells, hread⟩

end CommandLine

end PuzzleInputs
