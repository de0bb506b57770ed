import EditorBridge.FileTree

/-!
Places that paths lead to, and what making directories does to a tree of files. A path leads to the
place that its steps name, whatever is there; and making a directory puts directories where nothing
was, at its place and at places above it, and leaves all else as it is.
-/

namespace EditorBridge

/-! ### The steps of a path -/

private def addToNames (c : Char) (found : List Char × List (List Char)) :
    List Char × List (List Char) :=
  if c = '/' then ([], found.1 :: found.2) else (c :: found.1, found.2)

private theorem pathNames_eq (s : List Char) :
    pathNames s = ((s.foldr addToNames ([], [])).1 :: (s.foldr addToNames ([], [])).2).filter
      fun name => !name.isEmpty := rfl

private theorem foldr_addToNames (s : List Char) (names : List (List Char)) :
    s.foldr addToNames ([], names) =
      ((s.foldr addToNames ([], [])).1, (s.foldr addToNames ([], [])).2 ++ names) := by
  induction s with
  | nil => rfl
  | cons c s ih =>
    simp only [List.foldr_cons, ih]
    by_cases hc : c = '/' <;> simp [addToNames, hc]

/-- The names on both sides of a slash. -/
theorem pathNames_append (s t : List Char) :
    pathNames (s ++ '/' :: t) = pathNames s ++ pathNames t := by
  have ht : ('/' :: t).foldr addToNames ([], []) =
      ([], (t.foldr addToNames ([], [])).1 :: (t.foldr addToNames ([], [])).2) := rfl
  rw [pathNames_eq, pathNames_eq, pathNames_eq, List.foldr_append, ht, foldr_addToNames,
    ← List.cons_append, List.filter_append]

/-- A text without slashes is one name. -/
theorem pathNames_whole {s : List Char} (h : '/' ∉ s) (hn : s ≠ []) : pathNames s = [s] := by
  have hf : s.foldr addToNames ([], []) = (s, []) := by
    clear hn
    induction s with
    | nil => rfl
    | cons c s ih =>
      obtain ⟨hc, hs⟩ := not_or.mp fun hm => h (List.mem_cons.mpr hm)
      simp [ih hs, addToNames, Ne.symm hc]
  simp [pathNames_eq, hf, hn]

/-- The path of a name in a directory goes one step beyond the directory. -/
theorem pathSteps_joinPath (directory : String) {name : String} (h : '/' ∉ name.toList)
    (hn : name ≠ "") : pathSteps (joinPath directory name) = pathSteps directory ++ [name] := by
  have hw : pathNames name.toList = [name.toList] :=
    pathNames_whole h fun he => hn (String.toList_eq_nil_iff.mp he)
  unfold joinPath
  split
  · rename_i hd
    obtain rfl | hl := by simpa using hd
    · have he : pathSteps "" = [] := rfl
      rw [String.empty_append, he, pathSteps, hw, List.map_singleton, String.ofList_toList,
        List.nil_append]
    · obtain ⟨front, hf⟩ := List.getLast?_eq_some_iff.mp hl
      have he : pathNames [] = [] := rfl
      simp [pathSteps, String.toList_append, hf, pathNames_append, hw, he]
  · simp [pathSteps, String.toList_append, pathNames_append, hw]

namespace FileTree

theorem start_joinPath (tree : FileTree) (directory : String) {name : String}
    (h : '/' ∉ name.toList) : tree.start (joinPath directory name) = tree.start directory := by
  have hn : name.toList.head? ≠ some '/' := fun he => h (List.mem_of_head? he)
  unfold joinPath start
  by_cases hd : directory = ""
  · simp [hd, hn]
  · have hl : directory.toList ≠ [] := fun he => hd (String.toList_eq_nil_iff.mp he)
    obtain ⟨c, rest, hc⟩ := List.exists_cons_of_ne_nil hl
    split <;> simp only [String.toList_append, hc, List.cons_append, List.head?_cons]

def along (place : Place) : List String → Place
  | [] => place
  | name :: rest =>
    along (if name = "." then place else if name = ".." then place.dropLast else place ++ [name]) rest

theorem along_append (place : Place) (steps more : List String) :
    along place (steps ++ more) = along (along place steps) more := by
  induction steps generalizing place with
  | nil => rfl
  | cons name rest ih => exact ih _

/-- Steps that stay where they are do not count. -/
theorem along_filter (place : Place) (steps : List String) :
    along place (steps.filter fun name => name != ".") = along place steps := by
  induction steps generalizing place with
  | nil => rfl
  | cons name rest ih =>
    by_cases hn : name = "."
    · simp [hn, along, ih]
    · simp [hn, along, ih]

theorem step_ok {place next : Place} {name : String} (h : step place name = .ok next) :
    next = if name = "." then place else if name = ".." then place.dropLast else place ++ [name] := by
  unfold step at h
  split at h
  · rename_i hn
    simpa [hn] using h.symm
  · split at h
    · rename_i hn hd
      simpa [hn, hd] using h.symm
    · split at h
      · simp at h
      · rename_i hn hd hl
        simpa [hn, hd] using h.symm

/-- Where steps can be followed, they lead to the place that they name. -/
theorem follow_ok {tree : FileTree} {place found : Place} {steps : List String}
    (h : tree.follow place steps = .ok found) : found = along place steps := by
  induction steps generalizing place with
  | nil => simpa [follow, along] using h.symm
  | cons name rest ih =>
    unfold follow at h
    split at h
    · simp at h
    · split at h
      · simp at h
      · rename_i next hs
        rw [ih h, step_ok hs, along]

/-- The last step that is followed leads on from a directory. -/
theorem follow_concat_ok {tree : FileTree} {place found : Place} {steps : List String}
    {name : String} (h : tree.follow place (steps ++ [name]) = .ok found) :
    tree.at? (along place steps) = some .directory := by
  induction steps generalizing place with
  | nil =>
    simp only [List.nil_append, follow] at h
    split at h
    · simp at h
    · rename_i he
      unfold entering at he
      split at he <;> simp_all [along]
  | cons first rest ih =>
    simp only [List.cons_append, follow] at h
    split at h
    · simp at h
    · split at h
      · simp at h
      · rename_i next hs
        rw [along, ← step_ok hs]
        exact ih h

/-! ### Making directories -/

/-- Whether a tree differs from another one at most in directories where nothing was, at places of
some kind. -/
structure OnlyMakes (allowed : Place → Prop) (tree made : FileTree) : Prop where
  workingDirectory : made.workingDirectory = tree.workingDirectory
  entry (place : Place) : made.at? place = tree.at? place ∨
    allowed place ∧ tree.at? place = none ∧ made.at? place = some .directory

section

variable {allowed : Place → Prop} {tree made later : FileTree}

theorem OnlyMakes.refl (tree : FileTree) : OnlyMakes allowed tree tree :=
  ⟨rfl, fun _ => .inl rfl⟩

theorem OnlyMakes.trans (h : OnlyMakes allowed tree made) (h' : OnlyMakes allowed made later) :
    OnlyMakes allowed tree later := by
  refine ⟨h'.workingDirectory.trans h.workingDirectory, fun place => ?_⟩
  obtain he' | ⟨ha', hn', hd'⟩ := h'.entry place
  · rw [he']
    exact h.entry place
  · obtain he | ⟨-, -, hd⟩ := h.entry place
    · exact .inr ⟨ha', he ▸ hn', hd'⟩
    · exact absurd (hn'.symm.trans hd) (by simp)

theorem onlyMakes_put {place : Place} (ha : allowed place) (hn : tree.at? place = none) :
    OnlyMakes allowed tree (tree.put place .directory) := by
  refine ⟨rfl, fun other => ?_⟩
  by_cases ho : other = place
  · subst ho
    have hr : other ≠ [] := by
      rintro rfl
      simp at hn
    exact .inr ⟨ha, hn, at?_put_same tree .directory hr⟩
  · exact .inl (at?_put_other tree .directory ho)

theorem makeDirectory_ok {place : Place} {steps : List String}
    (h : tree.makeDirectory place steps = .ok made) (ha : allowed (along place steps)) :
    OnlyMakes allowed tree made := by
  unfold makeDirectory at h
  split at h
  · simp at h
  · rename_i found hf
    split at h
    · simp at h
    · rename_i hn
      obtain rfl : tree.put found .directory = made := by simpa using h
      rw [← follow_ok hf] at ha
      exact onlyMakes_put ha (by simpa using hn)

theorem settle_makes {place : Place} {steps : List String} (ha : allowed (along place steps)) :
    OnlyMakes allowed tree (tree.settle place steps (tree.makeDirectory place steps)).1 := by
  cases h : tree.makeDirectory place steps with
  | error e => exact .refl tree
  | ok made => exact makeDirectory_ok h ha

/-- A directory is made, and those above it as far as they are missing. -/
theorem ensureDirectory_makes {place : Place} {names : List String}
    (hn : ∀ steps, steps <+: names → allowed (along place steps)) {above steps : List String}
    (ha : above.reverse <+: names) (hs : allowed (along place steps)) (tree : FileTree) :
    OnlyMakes allowed tree (ensureDirectory place above steps tree).1 := by
  induction above generalizing steps tree with
  | nil =>
    unfold ensureDirectory
    split
    · exact .refl tree
    · exact settle_makes hs
  | cons name higher ih =>
    unfold ensureDirectory
    have hh : higher.reverse <+: names := by
      rw [List.reverse_cons] at ha
      exact (List.prefix_append _ _).trans ha
    have hi := ih hh (hn _ ha) tree
    split
    · dsimp only
      split
      · rename_i made e he
        rwa [he] at hi
      · rename_i made he
        rw [he] at hi
        exact hi.trans (settle_makes hs)
    · exact settle_makes hs

/-- Whether a place is that of a path, or one that the path passes through. -/
def IsOnPath (tree : FileTree) (path : String) (place : Place) : Prop :=
  ∃ steps, steps <+: pathSteps path ∧ place = along (tree.start path) steps

/-- Names in front of others are in front of them among all names. -/
theorem exists_prefix_of_filter {p : String → Bool} {names steps : List String}
    (h : steps <+: names.filter p) : ∃ front, front <+: names ∧ front.filter p = steps := by
  induction names generalizing steps with
  | nil => exact ⟨[], List.prefix_refl _, (List.prefix_nil.mp h).symm⟩
  | cons name names ih =>
    by_cases hp : p name = true
    · rw [List.filter_cons_of_pos hp] at h
      cases steps with
      | nil => exact ⟨[], by simp, rfl⟩
      | cons s steps =>
        obtain ⟨rfl, hr⟩ := List.cons_prefix_cons.mp h
        obtain ⟨front, hf, rfl⟩ := ih hr
        exact ⟨s :: front, List.cons_prefix_cons.mpr ⟨rfl, hf⟩, by simp [hp]⟩
    · rw [List.filter_cons_of_neg hp] at h
      obtain ⟨front, hf, rfl⟩ := ih h
      exact ⟨name :: front, List.cons_prefix_cons.mpr ⟨rfl, hf⟩, by simp [hp]⟩

/-- Making the directory of a path makes directories on the path alone. -/
theorem makeDirectories_makes (tree : FileTree) (path : String) :
    OnlyMakes (tree.IsOnPath path) tree (tree.makeDirectories path).1 := by
  unfold makeDirectories
  split
  · exact .refl tree
  · split
    · exact .refl tree
    · have hp : ∀ steps, steps <+: (pathSteps path).filter (fun name => name != ".") →
          tree.IsOnPath path (along (tree.start path) steps) := by
        intro steps hs
        obtain ⟨front, hf, rfl⟩ := exists_prefix_of_filter hs
        exact ⟨front, hf, along_filter _ _⟩
      refine ensureDirectory_makes hp ?_ ⟨pathSteps path, List.prefix_refl _, rfl⟩ tree
      rw [List.reverse_reverse]
      exact List.dropLast_prefix _

end

/-! ### Writing a file -/

/-- A file that is written is at the place that its path leads to, inside a directory. -/
theorem write_ok {tree written : FileTree} {path content : String}
    (h : tree.write path content = .ok written) :
    (∀ steps name, pathSteps path = steps ++ [name] →
        tree.at? (along (tree.start path) steps) = some .directory) ∧
      tree.at? (along (tree.start path) (pathSteps path)) ≠ some .directory ∧
      written = tree.put (along (tree.start path) (pathSteps path)) (.file content) := by
  unfold write at h
  split at h
  · simp at h
  · split at h
    · simp at h
    · rename_i found hf
      have hp : ∀ steps name, pathSteps path = steps ++ [name] →
          tree.at? (along (tree.start path) steps) = some .directory :=
        fun steps name hs => follow_concat_ok (hs ▸ hf)
      obtain rfl := follow_ok hf
      split at h
      · simp at h
      · rename_i hd
        exact ⟨hp, hd, by simpa using h.symm⟩

end FileTree

end EditorBridge
