import KernelScope.ObjectPath

/-!
# Absolute paths

`absoluteNames` takes a path apart exactly when the path is spelled by one or more names that are
not empty, each with one separator in front of it; the names are then those of the spelling.
-/

set_option autoImplicit false

namespace KernelScope.ObjectPath

/-- The path is a separator and then the names, with single separators between them. -/
structure IsAbsolute (path : String) (names : List String) : Prop where
  names_ne_nil : names ≠ []
  name_ne_empty : ∀ name ∈ names, name ≠ ""
  separator_notMem : ∀ name ∈ names, separator ∉ name.toList
  spelled : path = root ++ ofNames names

theorem toList_ofNames (names : List String) :
    (ofNames names).toList = [separator].intercalate (names.map String.toList) := by
  simp [ofNames, String.toList_intercalate]

theorem toList_root_append (text : String) :
    (root ++ text).toList = separator :: text.toList := by
  simp [root]

theorem map_toList_map_ofList (segments : List (List Char)) :
    (segments.map String.ofList).map String.toList = segments := by
  simp [Function.comp_def]

/-- What a text is cut into does not hold what it is cut at. -/
theorem notMem_of_mem_splitOn {c : Char} {text segment : List Char}
    (hsegment : segment ∈ text.splitOn c) : c ∉ segment := by
  induction text generalizing segment with
  | nil =>
    rw [List.splitOn_nil, List.mem_singleton] at hsegment
    simp [hsegment]
  | cons head rest ih =>
    rw [List.splitOn_cons_eq_if_modifyHead] at hsegment
    split at hsegment
    · rcases List.mem_cons.1 hsegment with rfl | hrest
      · simp
      · exact ih hrest
    next hhead =>
      cases hsplit : rest.splitOn c with
      | nil => exact absurd hsplit (List.splitOn_ne_nil c rest)
      | cons first others =>
        rw [hsplit] at hsegment ih
        rw [List.modifyHead_cons] at hsegment
        rcases List.mem_cons.1 hsegment with rfl | hother
        · have hfirst : c ∉ first := ih List.mem_cons_self
          have hne : c ≠ head := fun heq => hhead (by simp [heq])
          simp [hne, hfirst]
        · exact ih (List.mem_cons_of_mem _ hother)

theorem isAbsolute_of_absoluteNames {path : String} {names : List String}
    (h : absoluteNames path = .ok names) : IsAbsolute path names := by
  unfold absoluteNames at h
  split at h
  · cases h
  next first rest hpath =>
    split at h
    · cases h
    next hfirst =>
      simp only at h
      split at h
      · cases h
      next hsegments =>
        have hfirst : first = separator := Classical.not_not.1 hfirst
        have hnames : (rest.splitOn separator).map String.ofList = names := Except.ok.inj h
        subst hnames hfirst
        refine ⟨by simp [List.splitOn_ne_nil], ?_, ?_, ?_⟩
        · rintro name hname rfl
          obtain ⟨segment, hsegment, hempty⟩ := List.mem_map.1 hname
          have hnil : segment = [] := by simpa using congrArg String.toList hempty
          exact hsegments (List.any_eq_true.2 ⟨segment, hsegment, by simp [hnil]⟩)
        · intro name hname
          obtain ⟨segment, hsegment, rfl⟩ := List.mem_map.1 hname
          rw [String.toList_ofList]
          exact notMem_of_mem_splitOn hsegment
        · apply String.toList_injective
          rw [toList_root_append, toList_ofNames, map_toList_map_ofList,
            List.intercalate_splitOn, hpath]

theorem absoluteNames_of_isAbsolute {path : String} {names : List String}
    (h : IsAbsolute path names) : absoluteNames path = .ok names := by
  have hsplit : (ofNames names).toList.splitOn separator = names.map String.toList := by
    rw [toList_ofNames]
    apply List.splitOn_intercalate
    · simpa using h.separator_notMem
    · simpa using h.names_ne_nil
  have hnonempty : ((names.map String.toList).any List.isEmpty) = false := by
    rw [List.any_eq_false]
    intro segment hsegment
    obtain ⟨name, hname, rfl⟩ := List.mem_map.1 hsegment
    simpa using h.name_ne_empty name hname
  rw [absoluteNames, h.spelled, toList_root_append]
  simp only [hsplit, hnonempty, ne_eq, not_true_eq_false, if_false, Bool.false_eq_true]
  simp [Function.comp_def]

/-- A path has a flaw exactly if no names spell it. -/
theorem absoluteNames_eq_error_iff (path : String) :
    (∃ flaw, absoluteNames path = .error flaw) ↔ ¬ ∃ names, IsAbsolute path names := by
  constructor
  · rintro ⟨flaw, hflaw⟩ ⟨names, hnames⟩
    rw [absoluteNames_of_isAbsolute hnames] at hflaw
    cases hflaw
  · intro hnone
    cases hnames : absoluteNames path with
    | error flaw => exact ⟨flaw, rfl⟩
    | ok names => exact absurd ⟨names, isAbsolute_of_absoluteNames hnames⟩ hnone

/-! ## Joined paths -/

theorem names_ne_nil (path : String) : names path ≠ [] := by
  simp [names, List.splitOn_ne_nil]

/-- A path is the text of its names. -/
theorem ofNames_names (path : String) : ofNames (names path) = path := by
  apply String.toList_injective
  rw [toList_ofNames, names, map_toList_map_ofList, List.intercalate_splitOn]

theorem ofNames_append {before after : List String} (hbefore : before ≠ []) (hafter : after ≠ []) :
    ofNames (before ++ after) = ofNames before ++ root ++ ofNames after := by
  rw [ofNames, String.intercalate_append_of_ne_nil hbefore hafter]
  simp [ofNames, root]

/-- The names of two paths with a separator between them are those of both. -/
theorem names_append (path rest : String) :
    names (path ++ root ++ rest) = names path ++ names rest := by
  have hsplit : (path.toList ++ separator :: rest.toList).splitOn separator =
      path.toList.splitOn separator ++ rest.toList.splitOn separator :=
    List.splitOnP_append_cons _ _ (beq_self_eq_true separator)
  rw [names, names, names, String.append_assoc, String.toList_append, toList_root_append, hsplit,
    List.map_append]

/-- Only the empty path has nothing but an empty name. -/
theorem names_ne_empty {path : String} (hpath : path ≠ "") : names path ≠ [""] := by
  intro hnames
  apply hpath
  rw [← ofNames_names path, hnames]
  rfl

/-- Behind its first name, a path that does not end with a separator does not end with an empty
one. -/
theorem getLast?_tail_names {path : String} (hpath : path.toList.getLast? ≠ some separator) :
    (names path).tail.getLast? ≠ some "" := by
  intro hlast
  obtain ⟨first, others, hnames⟩ := List.exists_cons_of_ne_nil (names_ne_nil path)
  rw [hnames, List.tail_cons] at hlast
  obtain ⟨between, rfl⟩ := List.getLast?_eq_some_iff.1 hlast
  have hspelled : path = ofNames (first :: between) ++ root := by
    rw [← ofNames_names path, hnames, ← List.cons_append,
      ofNames_append (List.cons_ne_nil _ _) (List.cons_ne_nil _ _)]
    simp [ofNames]
  apply hpath
  rw [hspelled, String.toList_append]
  simp [root]

/-- The last name of a path. -/
def lastName (path : String) : String := (names path).getLast (names_ne_nil path)

/-! ## Absolute paths by their names -/

/-- Whether a path is absolute, and what is wrong with it, is told from its names. -/
theorem absoluteNames_eq_of_names {path first : String} {others : List String}
    (h : names path = first :: others) :
    absoluteNames path =
      if first ≠ "" then .error .relative
      else if others = [] then .error .empty
      else if "" ∈ others then .error .emptyName else .ok others := by
  unfold absoluteNames
  unfold names at h
  cases hpath : path.toList with
  | nil =>
    have hnames : first = "" ∧ others = [] := by simpa [hpath, eq_comm] using h
    simp [hnames.1, hnames.2]
  | cons c rest =>
    rw [hpath, List.splitOn_cons_eq_if_modifyHead] at h
    by_cases hc : c = separator
    · have hnames : "" = first ∧ (rest.splitOn separator).map String.ofList = others := by
        simpa [hc] using h
      obtain ⟨rfl, rfl⟩ := hnames
      have hnil : (rest.splitOn separator).map String.ofList ≠ [] := by
        simp [List.splitOn_ne_nil]
      have hempty : (rest.splitOn separator).any List.isEmpty = true ↔
          "" ∈ (rest.splitOn separator).map String.ofList := by
        simp [List.any_eq_true, ← String.toList_eq_nil_iff]
      simp only [hc, ne_eq, not_true_eq_false, if_false, if_neg hnil, hempty]
    · obtain ⟨front, behind, hsplit⟩ := List.exists_cons_of_ne_nil
        (List.splitOn_ne_nil separator rest)
      have hnames : String.ofList (c :: front) = first ∧ behind.map String.ofList = others := by
        simpa [hc, hsplit] using h
      have hfirst : first ≠ "" := by
        rw [← hnames.1, ne_eq, ← String.toList_eq_nil_iff, String.toList_ofList]
        exact List.cons_ne_nil c front
      simp only [ne_eq, hc, not_false_eq_true, if_true, hfirst]

/-! ## One name more -/

/-- The path of a name below the object at a path. -/
def below (path name : String) : String :=
  if path = root then path ++ name else path ++ root ++ name

/-- An absolute path is not that of the root. -/
theorem IsAbsolute.ne_root {path : String} {names : List String} (h : IsAbsolute path names) :
    path ≠ root := by
  rintro rfl
  have hnames : absoluteNames root = .ok names := absoluteNames_of_isAbsolute h
  have hflaw : absoluteNames root = .error .emptyName := rfl
  rw [hflaw] at hnames
  cases hnames

theorem IsAbsolute.below {path name : String} {names : List String} (h : IsAbsolute path names)
    (hname : name ≠ "") (hseparator : separator ∉ name.toList) :
    IsAbsolute (below path name) (names ++ [name]) where
  names_ne_nil := by simp
  name_ne_empty := by
    intro other hother
    rcases List.mem_append.1 hother with hearlier | hlast
    · exact h.name_ne_empty other hearlier
    · exact List.mem_singleton.1 hlast ▸ hname
  separator_notMem := by
    intro other hother
    rcases List.mem_append.1 hother with hearlier | hlast
    · exact h.separator_notMem other hearlier
    · exact List.mem_singleton.1 hlast ▸ hseparator
  spelled := by
    have hjoined : ofNames (names ++ [name]) = ofNames names ++ root ++ name := by
      rw [ofNames_append h.names_ne_nil (List.cons_ne_nil _ _)]
      simp [ofNames]
    rw [ObjectPath.below, if_neg h.ne_root, hjoined, h.spelled]
    simp only [String.append_assoc]

end KernelScope.ObjectPath
