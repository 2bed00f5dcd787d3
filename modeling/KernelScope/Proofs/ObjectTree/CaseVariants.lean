import KernelScope.ObjectTree.Table
import KernelScope.Proofs.ObjectTree.Lookup
import KernelScope.Proofs.Text.LowerCase

/-!
# Paths in another case

Two paths whose names have the same lower cases lead to the same object, or both to none, or meet
the same error; only the refusals repeat the path in its own case (`lookup_caseVariants`).  Paths
that differ in the case of ASCII letters only are of this kind, whatever else stands in them.
-/

set_option autoImplicit false

namespace KernelScope

open ObjectPath (names ofNames ofNames_names absoluteNames separator)

/-! ## The same names -/

/-- The names are the same but for case. -/
def SameName (name other : String) : Prop := Text.lowerCase name = Text.lowerCase other

instance (name other : String) : Decidable (SameName name other) :=
  inferInstanceAs (Decidable (Text.lowerCase name = Text.lowerCase other))

/-- As many names, each the same but for case. -/
abbrev SameNames : List String → List String → Prop := List.Forall₂ SameName

/-- The paths have the same names between their separators, but for case. -/
def CaseVariants (path other : String) : Prop := SameNames (names path) (names other)

instance (path other : String) : Decidable (CaseVariants path other) :=
  inferInstanceAs (Decidable (SameNames (names path) (names other)))

theorem SameName.eq_empty_iff {name other : String} (h : SameName name other) :
    name = "" ↔ other = "" := by
  rw [← Text.lowerCase_eq_empty_iff name, h, Text.lowerCase_eq_empty_iff]

theorem SameNames.eq_nil_iff {names others : List String} (h : SameNames names others) :
    names = [] ↔ others = [] := by
  cases h <;> simp

theorem SameNames.empty_mem_iff {names others : List String} (h : SameNames names others) :
    "" ∈ names ↔ "" ∈ others := by
  induction h with
  | nil => rfl
  | cons hname _ ih => rw [List.mem_cons, List.mem_cons, ih, eq_comm, hname.eq_empty_iff, eq_comm]

theorem SameNames.goesOn_iff {names others : List String} (h : SameNames names others) :
    ObjectTree.GoesOn names ↔ ObjectTree.GoesOn others := by
  cases h with
  | nil => rfl
  | cons hname hrest =>
    simp only [ObjectTree.GoesOn, ne_eq, List.cons_ne_nil, not_false_eq_true, true_and,
      List.cons.injEq, hname.eq_empty_iff, SameNames.eq_nil_iff hrest]

/-! ## The case of ASCII letters -/

theorem splitOn_map {α : Type} [DecidableEq α] {f : α → α} {c : α} (hf : ∀ d, f d = c ↔ d = c)
    (text : List α) : (text.map f).splitOn c = (text.splitOn c).map (List.map f) := by
  induction text with
  | nil => simp
  | cons d rest ih =>
    rw [List.map_cons, List.splitOn_cons_eq_if_modifyHead, List.splitOn_cons_eq_if_modifyHead, ih]
    by_cases hd : d = c
    · simp [hd, (hf c).2 rfl]
    · obtain ⟨front, behind, hsplit⟩ := List.exists_cons_of_ne_nil (List.splitOn_ne_nil c rest)
      simp [hd, (hf d).not.2 hd, hsplit]

/-- A separator has no other case. -/
theorem toLower_eq_separator_iff (c : Char) : c.toLower = separator ↔ c = separator := by
  have hcapital : ∀ n < 26, (Char.ofNat (0x41 + n)).toLower ≠ separator ∧
      Char.ofNat (0x41 + n) ≠ separator := by decide
  rcases Text.toLower_eq_or_capital c with hsmall | ⟨n, hn, rfl⟩
  · rw [hsmall]
  · exact iff_of_false (hcapital n hn).1 (hcapital n hn).2

theorem names_toLower (path : String) : names path.toLower = (names path).map String.toLower := by
  rw [names, names, Text.toList_toLower, splitOn_map toLower_eq_separator_iff, List.map_map,
    List.map_map]
  refine List.map_congr_left fun segment _ => ?_
  apply String.toList_injective
  simp [Text.toList_toLower]

theorem sameNames_of_toLower {names others : List String}
    (h : names.map String.toLower = others.map String.toLower) : SameNames names others := by
  rw [← List.forall₂_eq_eq_eq, List.forall₂_map_left_iff, List.forall₂_map_right_iff] at h
  refine h.imp fun name other hname => ?_
  rw [SameName, ← Text.lowerCase_toLower name, hname, Text.lowerCase_toLower]

/-- Paths that differ in the case of ASCII letters only are case variants. -/
theorem caseVariants_of_toLower {path other : String} (h : path.toLower = other.toLower) :
    CaseVariants path other := by
  apply sameNames_of_toLower
  rw [← names_toLower, h, names_toLower]

/-! ## The same outcome -/

/-- The refusals say the same, each in the case of its own path. -/
inductive LookupError.Alike : LookupError → LookupError → Prop where
  | invalidPath {path other : String} (flaw : ObjectPath.Flaw) (hpath : CaseVariants path other) :
      Alike (.invalidPath path flaw) (.invalidPath other flaw)
  | notDirectory {name other : String} {remaining left : List String} (hname : SameName name other)
      (hrest : SameNames remaining left) :
      Alike (.notDirectory name (ofNames remaining)) (.notDirectory other (ofNames left))
  | chainTooLong (bucket limit : Nat) :
      Alike (.chainTooLong bucket limit) (.chainTooLong bucket limit)

/-- Two lookups come to the same object, or to none, or are refused alike, or meet the same
error. -/
inductive SameOutcome {ε : Type} : Except ε (Except LookupError (Option Address)) →
    Except ε (Except LookupError (Option Address)) → Prop where
  | answered (found : Option Address) : SameOutcome (.ok (.ok found)) (.ok (.ok found))
  | refused {refusal other : LookupError} (halike : refusal.Alike other) :
      SameOutcome (.ok (.error refusal)) (.ok (.error other))
  | failed (error : ε) : SameOutcome (.error error) (.error error)

/-- A path and its variant are both absolute, or have the same flaw. -/
theorem CaseVariants.absoluteNames {path other : String} (h : CaseVariants path other) :
    (∃ flaw, absoluteNames path = .error flaw ∧ absoluteNames other = .error flaw) ∨
      ∃ names others, absoluteNames path = .ok names ∧ absoluteNames other = .ok others ∧
        SameNames names others := by
  obtain ⟨first, rest, hnames⟩ := List.exists_cons_of_ne_nil (ObjectPath.names_ne_nil path)
  obtain ⟨first', rest', hothers⟩ := List.exists_cons_of_ne_nil (ObjectPath.names_ne_nil other)
  rw [CaseVariants, hnames, hothers] at h
  obtain ⟨hfirst, hrest⟩ := List.forall₂_cons.1 h
  rw [ObjectPath.absoluteNames_eq_of_names hnames, ObjectPath.absoluteNames_eq_of_names hothers]
  simp only [ne_eq, hfirst.eq_empty_iff, SameNames.eq_nil_iff hrest, SameNames.empty_mem_iff hrest]
  by_cases hrelative : first' = ""
  · by_cases hempty : rest' = []
    · exact .inl ⟨.empty, by simp [hrelative, hempty]⟩
    · by_cases hname : "" ∈ rest'
      · exact .inl ⟨.emptyName, by simp [hrelative, hempty, hname]⟩
      · exact .inr ⟨rest, rest', by simp [hrelative, hempty, hname], by
          simp [hrelative, hempty, hname], hrest⟩
  · exact .inl ⟨.relative, by simp [hrelative]⟩

namespace ObjectTree

variable {ε : Type} (tree : ObjectTree (Except ε)) (limit : Nat)

/-- A name is found where its variant is. -/
theorem find_of_sameName (directory : Address) {name other : String} (h : SameName name other) :
    tree.find limit directory name = tree.find limit directory other := by
  rw [find, find, h]

theorem scan_iff_of_sameName (directory object : Address) {name other : String}
    (h : SameName name other) :
    Scan tree limit directory name object ↔ Scan tree limit directory other object := by
  rw [← (find_outcome tree limit directory name).1, find_of_sameName tree limit directory h,
    (find_outcome tree limit directory other).1]

theorem resolveNames_of_sameNames (directory : Address) {names others : List String}
    (h : SameNames names others) :
    SameOutcome (tree.resolveNames limit directory names).run
      (tree.resolveNames limit directory others).run := by
  induction h generalizing directory with
  | nil => exact .answered none
  | @cons name other rest left hname hrest ih =>
    -- both names make one scan, so only what is left over behind it can differ, and that in case
    have hfind := find_of_sameName tree limit directory hname
    rcases scan_ends tree limit directory other with
      ⟨object, hscan⟩ | habsent | ⟨bucket, htooLong⟩ | ⟨error, hfails⟩
    · have hsame := (scan_iff_of_sameName tree limit directory object hname).2 hscan
      by_cases hgoesOn : GoesOn left
      · have hgoesOn' := (SameNames.goesOn_iff hrest).2 hgoesOn
        rw [resolveNames_scan hgoesOn' hsame, resolveNames_scan hgoesOn hscan]
        rcases tree.isDirectory object with error | answer
        · exact .failed error
        · cases answer with
          | false => exact .refused (.notDirectory hname hrest)
          | true => exact ih object
      · have hends := (SameNames.goesOn_iff hrest).not.2 hgoesOn
        rw [resolveNames_ends hends hsame, resolveNames_ends hgoesOn hscan]
        exact .answered (some object)
    · have hnone := find_of_absent habsent
      rw [resolveNames, resolveNames, hfind, run_bind_ok hnone, run_bind_ok hnone]
      exact .answered none
    · have hrefused := find_of_tooLong htooLong
      rw [resolveNames, resolveNames, hfind, run_bind_refused hrefused, run_bind_refused hrefused]
      exact .refused (.chainTooLong bucket limit)
    · have herror := find_of_scanFails hfails
      rw [resolveNames, resolveNames, hfind, run_bind_error herror, run_bind_error herror]
      exact .failed error

/-- Looking up two paths that are the same but for case comes to the same object, or to none, or to
the same error, whose text repeats the path that was given.  So it does for paths that differ in the
case of ASCII letters only, whatever stands between them. -/
theorem lookup_caseVariants (path other : String) :
    (CaseVariants path other →
      SameOutcome (tree.lookup limit path).run (tree.lookup limit other).run) ∧
    (path.toLower = other.toLower → CaseVariants path other ∧
      SameOutcome (tree.lookup limit path).run (tree.lookup limit other).run) := by
  have hvariants : CaseVariants path other →
      SameOutcome (tree.lookup limit path).run (tree.lookup limit other).run := by
    intro h
    rcases h.absoluteNames with ⟨flaw, hpath, hother⟩ | ⟨names, others, hpath, hother, hnames⟩
    · rw [lookup_of_flaw hpath, lookup_of_flaw hother]
      exact .refused (.invalidPath flaw h)
    · cases hroot : tree.root with
      | error error =>
        rw [lookup_of_rootless hpath hroot, lookup_of_rootless hother hroot]
        exact .failed error
      | ok root =>
        rw [lookup_of_root hpath hroot, lookup_of_root hother hroot]
        exact resolveNames_of_sameNames tree limit root hnames
  refine ⟨hvariants, fun h => ?_⟩
  have hcase := caseVariants_of_toLower h
  exact ⟨hcase, hvariants hcase⟩

/-- A root directory with one object, whose name ends with a final sigma. -/
def sigmaTable : ObjectTable where
  root := some 1
  directoryType := some 7
  objects := .ofList [(1, ⟨none, 7, .ofList [(0, 0x10)]⟩), (2, ⟨some "aς", 8, .empty⟩)]
  links := .ofList [(0x10, ⟨2, none⟩)]

set_option maxRecDepth 4000 in
/-- A capital sigma stands for the final one behind a letter of either case. -/
theorem lookup_caseVariants_sigmaTable :
    (sigmaTable.tree.lookup 1 "\\AΣ").run = .ok (.ok (some 2)) ∧
      CaseVariants "\\aς" "\\AΣ" ∧
      SameOutcome (sigmaTable.tree.lookup 1 "\\aς").run (sigmaTable.tree.lookup 1 "\\AΣ").run ∧
      "\\aΣ\\x".toLower = "\\AΣ\\X".toLower ∧
      SameOutcome (sigmaTable.tree.lookup 1 "\\aΣ\\x").run
        (sigmaTable.tree.lookup 1 "\\AΣ\\X").run := by
  have hvariants : CaseVariants "\\aς" "\\AΣ" := by decide +kernel
  have hletters : "\\aΣ\\x".toLower = "\\AΣ\\X".toLower := by
    apply String.toList_injective
    rw [Text.toList_toLower, Text.toList_toLower]
    decide
  exact ⟨rfl, hvariants, (lookup_caseVariants sigmaTable.tree 1 _ _).1 hvariants, hletters,
    ((lookup_caseVariants sigmaTable.tree 1 _ _).2 hletters).2⟩

end ObjectTree

end KernelScope
