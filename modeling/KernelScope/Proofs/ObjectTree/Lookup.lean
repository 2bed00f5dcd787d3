import KernelScope.Proofs.ObjectPath
import KernelScope.Proofs.ObjectTree.Scan

/-!
# Looking up a path

Looking up the names of a path is a descent: each name but the last is scanned for in the directory
before it and has to lead to a directory.  `Descends` says so without the resolver.  A lookup has as
many ways to end as the scan it ends in, and two more where names are left over behind an object
that is no directory, or of which that cannot be told.  `lookup_outcome` says for every path when it
ends in which way.
-/

set_option autoImplicit false

namespace KernelScope.ObjectTree

variable {ε : Type}

section Ways

variable (tree : ObjectTree (Except ε)) (limit : Nat)

/-! ## Ways to end -/

/-- The header of the object can be read, and tells whether the object is a directory. -/
def Tells (object : Address) (answer : Bool) : Prop :=
  ∃ header, tree.header object = .ok header ∧ tree.isDirectoryType header.type = .ok answer

/-- It cannot be told whether the object is a directory. -/
def Untold (object : Address) (error : ε) : Prop :=
  tree.header object = .error error ∨
    ∃ header, tree.header object = .ok header ∧ tree.isDirectoryType header.type = .error error

/-- The names lead from one directory to another through directories only. -/
inductive Descends : Address → List String → Address → Prop where
  | here (directory : Address) : Descends directory [] directory
  | into {directory object last : Address} {name : String} {names : List String}
      (hscan : Scan tree limit directory name object) (htells : Tells tree object true)
      (hrest : Descends object names last) : Descends directory (name :: names) last

/-- Some of the names lead to a directory where `ends` holds of the next name and of those left
over behind it. -/
def EndsWhere (directory : Address) (names : List String)
    (ends : Address → String → List String → Prop) : Prop :=
  ∃ before name after last, names = before ++ name :: after ∧
    Descends tree limit directory before last ∧ ends last name after

/-- The names lead to an object: the last one is found where the others lead. -/
def LeadsTo (directory : Address) (names : List String) (object : Address) : Prop :=
  EndsWhere tree limit directory names fun last name after =>
    after = [] ∧ Scan tree limit last name object

/-- The names lead to a directory that lacks the next one. -/
def LeadsNowhere (directory : Address) (names : List String) : Prop :=
  EndsWhere tree limit directory names fun last name _ => Absent tree limit last name

/-- The scan for a name meets too long a chain, or names are left over behind an object that is no
directory. -/
def Refuses (directory : Address) (names : List String) (refusal : LookupError) : Prop :=
  EndsWhere tree limit directory names fun last name after =>
    (∃ bucket, TooLong tree limit last name bucket ∧ refusal = .chainTooLong bucket limit) ∨
      ∃ object, after ≠ [] ∧ Scan tree limit last name object ∧ Tells tree object false ∧
        refusal = .notDirectory name (ObjectPath.ofNames after)

/-- The scan for a name fails, or names are left over behind an object of which it cannot be told
whether it is a directory. -/
def Fails (directory : Address) (names : List String) (error : ε) : Prop :=
  EndsWhere tree limit directory names fun last name after =>
    ScanFails tree limit last name error ∨
      ∃ object, after ≠ [] ∧ Scan tree limit last name object ∧ Untold tree object error

end Ways

/-! ## Directories -/

section Names

variable {tree : ObjectTree (Except ε)} {limit : Nat}

theorem isDirectory_of_tells {object : Address} {answer : Bool}
    (h : Tells tree object answer) : tree.isDirectory object = .ok answer := by
  obtain ⟨header, hheader, hanswer⟩ := h
  rw [isDirectory, hheader]
  exact hanswer

theorem isDirectory_of_untold {object : Address} {error : ε}
    (h : Untold tree object error) : tree.isDirectory object = .error error := by
  rcases h with hheader | ⟨header, hheader, hfails⟩
  · rw [isDirectory, hheader]
    rfl
  · rw [isDirectory, hheader]
    exact hfails

theorem tells_or_untold (tree : ObjectTree (Except ε)) (object : Address) :
    (∃ answer, Tells tree object answer) ∨ ∃ error, Untold tree object error := by
  cases hheader : tree.header object with
  | error error => exact .inr ⟨error, .inl hheader⟩
  | ok header =>
    cases htype : tree.isDirectoryType header.type with
    | error error => exact .inr ⟨error, .inr ⟨header, hheader, htype⟩⟩
    | ok answer => exact .inl ⟨answer, header, hheader, htype⟩

/-! ## One name -/

theorem resolveNames_absent {directory : Address} {name : String} (after : List String)
    (habsent : Absent tree limit directory name) :
    (tree.resolveNames limit directory (name :: after)).run = .ok (.ok none) := by
  rw [resolveNames, run_bind_ok (find_of_absent habsent)]
  rfl

theorem resolveNames_tooLong {directory : Address} {name : String} {bucket : Nat}
    (after : List String) (htooLong : TooLong tree limit directory name bucket) :
    (tree.resolveNames limit directory (name :: after)).run =
      .ok (.error (.chainTooLong bucket limit)) := by
  rw [resolveNames, run_bind_refused (find_of_tooLong htooLong)]

theorem resolveNames_scanFails {directory : Address} {name : String} {error : ε}
    (after : List String) (hfails : ScanFails tree limit directory name error) :
    (tree.resolveNames limit directory (name :: after)).run = .error error := by
  rw [resolveNames, run_bind_error (find_of_scanFails hfails)]

/-- Names are left over behind an object: more than an empty last one. -/
def GoesOn (after : List String) : Prop := after ≠ [] ∧ after ≠ [""]

/-- With no names left over, what is found is what was looked up. -/
theorem resolveNames_ends {directory object : Address} {name : String} {after : List String}
    (hafter : ¬ GoesOn after) (hscan : Scan tree limit directory name object) :
    (tree.resolveNames limit directory (name :: after)).run = .ok (.ok (some object)) := by
  have hends : after = [] ∨ after = [""] :=
    Classical.or_iff_not_imp_left.2 fun hnil =>
      Classical.not_not.1 fun hempty => hafter ⟨hnil, hempty⟩
  rw [resolveNames, run_bind_ok (find_of_scan hscan)]
  simp only [hends, if_true]
  rfl

theorem resolveNames_last {directory object : Address} {name : String}
    (hscan : Scan tree limit directory name object) :
    (tree.resolveNames limit directory [name]).run = .ok (.ok (some object)) :=
  resolveNames_ends (fun hgoesOn => hgoesOn.1 rfl) hscan

theorem goesOn_of_ne_nil {after : List String} (hnil : after ≠ [])
    (hnames : ∀ name ∈ after, name ≠ "") : GoesOn after := by
  refine ⟨hnil, ?_⟩
  rintro rfl
  exact hnames "" List.mem_cons_self rfl

/-- With names left over, what is found has to be a directory, and they are looked up in it. -/
theorem resolveNames_scan {directory object : Address} {name : String} {after : List String}
    (hafter : GoesOn after) (hscan : Scan tree limit directory name object) :
    (tree.resolveNames limit directory (name :: after)).run =
      match tree.isDirectory object with
      | .ok true => (tree.resolveNames limit object after).run
      | .ok false => .ok (.error (.notDirectory name (ObjectPath.ofNames after)))
      | .error error => .error error := by
  obtain ⟨hnil, hempty⟩ := hafter
  rw [resolveNames, run_bind_ok (find_of_scan hscan)]
  simp only [hnil, hempty, or_self, if_false]
  cases tree.isDirectory object with
  | error error => rfl
  | ok answer => cases answer <;> rfl

/-- Names that lead from one directory to another are done with. -/
theorem resolveNames_append {directory last : Address} {before after : List String} {name : String}
    (hdescends : Descends tree limit directory before last)
    (hnames : ∀ other ∈ before ++ name :: after, other ≠ "") :
    (tree.resolveNames limit directory (before ++ name :: after)).run =
      (tree.resolveNames limit last (name :: after)).run := by
  induction hdescends with
  | here => rfl
  | @into directory object last first names hscan htells _ ih =>
    have hrest : ∀ other ∈ names ++ name :: after, other ≠ "" := fun other hother =>
      hnames other (List.mem_cons_of_mem _ hother)
    have hgoesOn : GoesOn (names ++ name :: after) := goesOn_of_ne_nil (by simp) hrest
    rw [List.cons_append, resolveNames_scan hgoesOn hscan, isDirectory_of_tells htells, ih hrest]

/-! ## The names end in the way that holds -/

section Ends

variable {directory : Address} {names : List String} (hnames : ∀ name ∈ names, name ≠ "")

include hnames

theorem resolveNames_of_leadsTo {object : Address}
    (h : LeadsTo tree limit directory names object) :
    (tree.resolveNames limit directory names).run = .ok (.ok (some object)) := by
  obtain ⟨before, name, after, last, rfl, hdescends, rfl, hscan⟩ := h
  rw [resolveNames_append hdescends hnames, resolveNames_last hscan]

theorem resolveNames_of_leadsNowhere (h : LeadsNowhere tree limit directory names) :
    (tree.resolveNames limit directory names).run = .ok (.ok none) := by
  obtain ⟨before, name, after, last, rfl, hdescends, habsent⟩ := h
  rw [resolveNames_append hdescends hnames, resolveNames_absent after habsent]

theorem goesOn_of_append {before after : List String} {name : String}
    (hsplit : names = before ++ name :: after) (hnil : after ≠ []) : GoesOn after :=
  goesOn_of_ne_nil hnil fun other hother => hnames other (by rw [hsplit]; simp [hother])

theorem resolveNames_of_refuses {refusal : LookupError}
    (h : Refuses tree limit directory names refusal) :
    (tree.resolveNames limit directory names).run = .ok (.error refusal) := by
  obtain ⟨before, name, after, last, hsplit, hdescends, hends⟩ := h
  rw [hsplit, resolveNames_append hdescends (by rwa [← hsplit])]
  rcases hends with ⟨bucket, htooLong, rfl⟩ | ⟨object, hnil, hscan, htells, rfl⟩
  · exact resolveNames_tooLong after htooLong
  · rw [resolveNames_scan (goesOn_of_append hnames hsplit hnil) hscan,
      isDirectory_of_tells htells]

theorem resolveNames_of_fails {error : ε} (h : Fails tree limit directory names error) :
    (tree.resolveNames limit directory names).run = .error error := by
  obtain ⟨before, name, after, last, hsplit, hdescends, hends⟩ := h
  rw [hsplit, resolveNames_append hdescends (by rwa [← hsplit])]
  rcases hends with hfails | ⟨object, hnil, hscan, huntold⟩
  · exact resolveNames_scanFails after hfails
  · rw [resolveNames_scan (goesOn_of_append hnames hsplit hnil) hscan,
      isDirectory_of_untold huntold]

omit hnames in
theorem EndsWhere.into {object : Address} {name : String}
    {ends : Address → String → List String → Prop} (hscan : Scan tree limit directory name object)
    (htells : Tells tree object true) (h : EndsWhere tree limit object names ends) :
    EndsWhere tree limit directory (name :: names) ends := by
  obtain ⟨before, next, after, last, rfl, hdescends, hends⟩ := h
  exact ⟨name :: before, next, after, last, rfl, .into hscan htells hdescends, hends⟩

omit hnames in
theorem EndsWhere.here {name : String} {ends : Address → String → List String → Prop}
    (h : ends directory name names) : EndsWhere tree limit directory (name :: names) ends :=
  ⟨[], name, names, directory, rfl, .here directory, h⟩

omit hnames in
/-- Names of which there is at least one end in one of the four ways. -/
theorem names_end (tree : ObjectTree (Except ε)) (limit : Nat) (directory : Address)
    (names : List String) (hnil : names ≠ []) :
    (∃ object, LeadsTo tree limit directory names object) ∨
      LeadsNowhere tree limit directory names ∨
        (∃ refusal, Refuses tree limit directory names refusal) ∨
          ∃ error, Fails tree limit directory names error := by
  induction names generalizing directory with
  | nil => exact absurd rfl hnil
  | cons name after ih =>
    rcases scan_ends tree limit directory name with
      ⟨object, hscan⟩ | habsent | ⟨bucket, htooLong⟩ | ⟨error, hfails⟩
    · by_cases hafter : after = []
      · exact .inl ⟨object, .here ⟨hafter, hscan⟩⟩
      · rcases tells_or_untold tree object with ⟨answer, htells⟩ | ⟨error, huntold⟩
        · cases answer with
          | false =>
            exact .inr (.inr (.inl ⟨_, .here (.inr ⟨object, hafter, hscan, htells, rfl⟩)⟩))
          | true =>
            rcases ih object hafter with ⟨last, h⟩ | h | ⟨refusal, h⟩ | ⟨error, h⟩
            · exact .inl ⟨last, EndsWhere.into hscan htells h⟩
            · exact .inr (.inl (EndsWhere.into hscan htells h))
            · exact .inr (.inr (.inl ⟨refusal, EndsWhere.into hscan htells h⟩))
            · exact .inr (.inr (.inr ⟨error, EndsWhere.into hscan htells h⟩))
        · exact .inr (.inr (.inr ⟨error, .here (.inr ⟨object, hafter, hscan, huntold⟩)⟩))
    · exact .inr (.inl (.here habsent))
    · exact .inr (.inr (.inl ⟨_, .here (.inl ⟨bucket, htooLong, rfl⟩)⟩))
    · exact .inr (.inr (.inr ⟨error, .here (.inl hfails)⟩))

/-- Looking up names that are not empty ends in just the way that holds. -/
theorem resolveNames_outcome (hnil : names ≠ []) :
    (∀ object, (tree.resolveNames limit directory names).run = .ok (.ok (some object)) ↔
      LeadsTo tree limit directory names object) ∧
    ((tree.resolveNames limit directory names).run = .ok (.ok none) ↔
      LeadsNowhere tree limit directory names) ∧
    (∀ refusal, (tree.resolveNames limit directory names).run = .ok (.error refusal) ↔
      Refuses tree limit directory names refusal) ∧
    (∀ error, (tree.resolveNames limit directory names).run = .error error ↔
      Fails tree limit directory names error) := by
  apply outcome_iff
  · intro object
    exact resolveNames_of_leadsTo hnames
  · exact resolveNames_of_leadsNowhere hnames
  · intro refusal
    exact resolveNames_of_refuses hnames
  · intro error
    exact resolveNames_of_fails hnames
  · exact names_end tree limit directory names hnil

end Ends

/-! ## One name more -/

/-- A single name resolves to what is found for it. -/
theorem resolveNames_single (directory : Address) (name : String) :
    (tree.resolveNames limit directory [name]).run = (tree.find limit directory name).run := by
  rw [resolveNames]
  cases hfind : (tree.find limit directory name).run with
  | error error => rw [run_bind_error hfind]
  | ok result =>
    cases result with
    | error refusal => rw [run_bind_refused hfind]
    | ok found =>
      rw [run_bind_ok hfind]
      cases found <;> rfl

theorem tells_of_isDirectory {object : Address} {answer : Bool}
    (h : tree.isDirectory object = .ok answer) : Tells tree object answer := by
  rcases tells_or_untold tree object with ⟨other, htells⟩ | ⟨error, huntold⟩
  · rw [isDirectory_of_tells htells] at h
    cases h
    exact htells
  · rw [isDirectory_of_untold huntold] at h
    cases h

theorem lookup_of_flaw {path : String} {flaw : ObjectPath.Flaw}
    (hpath : ObjectPath.absoluteNames path = .error flaw) :
    (tree.lookup limit path).run = .ok (.error (.invalidPath path flaw)) := by
  rw [lookup, hpath]
  rfl

theorem lookup_of_root {path : String} {names : List String} {root : Address}
    (hpath : ObjectPath.absoluteNames path = .ok names) (hroot : tree.root = .ok root) :
    (tree.lookup limit path).run = (tree.resolveNames limit root names).run := by
  rw [lookup, hpath]
  exact run_ask_ok hroot _

theorem lookup_of_rootless {path : String} {names : List String} {error : ε}
    (hpath : ObjectPath.absoluteNames path = .ok names) (hroot : tree.root = .error error) :
    (tree.lookup limit path).run = .error error := by
  rw [lookup, hpath]
  exact run_ask_error hroot _

end Names

section Below

variable {tree : ObjectTree (Except ε)} {limit : Nat} {directory : Address} {path name : String}
  (hname : name ≠ "") (hseparator : ObjectPath.separator ∉ name.toList)

include hname hseparator

end Below

section Paths

variable (tree : ObjectTree (Except ε)) (limit : Nat) (path : String)

/-- Looking up an absolute path ends in just the way in which its names end below the root, and
fails where there is no root. -/
theorem lookup_of_isAbsolute {names : List String} (hnames : ObjectPath.IsAbsolute path names) :
    (∀ object, (tree.lookup limit path).run = .ok (.ok (some object)) ↔
      ∃ root, tree.root = .ok root ∧ LeadsTo tree limit root names object) ∧
    ((tree.lookup limit path).run = .ok (.ok none) ↔
      ∃ root, tree.root = .ok root ∧ LeadsNowhere tree limit root names) ∧
    (∀ refusal, (tree.lookup limit path).run = .ok (.error refusal) ↔
      ∃ root, tree.root = .ok root ∧ Refuses tree limit root names refusal) ∧
    (∀ error, (tree.lookup limit path).run = .error error ↔
      tree.root = .error error ∨
        ∃ root, tree.root = .ok root ∧ Fails tree limit root names error) := by
  have hpath := ObjectPath.absoluteNames_of_isAbsolute hnames
  cases hroot : tree.root with
  | error error =>
    rw [lookup_of_rootless hpath hroot]
    simp
  | ok root =>
    rw [lookup_of_root hpath hroot]
    simpa using resolveNames_outcome hnames.name_ne_empty hnames.names_ne_nil

/-- What is refused behind an absolute path is never the path. -/
theorem ne_invalidPath_of_refuses {directory : Address} {names : List String}
    {refusal : LookupError} (h : Refuses tree limit directory names refusal)
    (flaw : ObjectPath.Flaw) : refusal ≠ .invalidPath path flaw := by
  obtain ⟨_, _, _, _, _, _, ⟨bucket, _, rfl⟩ | ⟨object, _, _, _, rfl⟩⟩ := h <;> simp

theorem lookup_eq_invalidPath_iff :
    (∃ flaw, (tree.lookup limit path).run = .ok (.error (.invalidPath path flaw))) ↔
      ¬ ∃ names, ObjectPath.IsAbsolute path names := by
  constructor
  · rintro ⟨flaw, hflaw⟩ ⟨names, hnames⟩
    obtain ⟨_, _, hrefuses, _⟩ := lookup_of_isAbsolute tree limit path hnames
    obtain ⟨root, _, h⟩ := (hrefuses _).1 hflaw
    exact ne_invalidPath_of_refuses tree limit path h flaw rfl
  · intro hnone
    obtain ⟨flaw, hflaw⟩ := (ObjectPath.absoluteNames_eq_error_iff path).2 hnone
    exact ⟨flaw, lookup_of_flaw hflaw⟩

/-- A path is refused as invalid exactly if no names that are not empty spell it, whatever the tree
would answer.  Otherwise the lookup finds an object exactly if the names lead there from the root;
it finds nothing exactly if they lead to a directory with no entry for the next name; it is refused
exactly if they lead to too long a chain or to an object in their midst that is no directory; and it
fails exactly if the tree fails to answer one of the questions on that way. -/
theorem lookup_outcome :
    ((∃ flaw, (tree.lookup limit path).run = .ok (.error (.invalidPath path flaw))) ↔
      ¬ ∃ names, ObjectPath.IsAbsolute path names) ∧
    ∀ names, ObjectPath.IsAbsolute path names →
      (∀ object, (tree.lookup limit path).run = .ok (.ok (some object)) ↔
        ∃ root, tree.root = .ok root ∧ LeadsTo tree limit root names object) ∧
      ((tree.lookup limit path).run = .ok (.ok none) ↔
        ∃ root, tree.root = .ok root ∧ LeadsNowhere tree limit root names) ∧
      (∀ refusal, (tree.lookup limit path).run = .ok (.error refusal) ↔
        ∃ root, tree.root = .ok root ∧ Refuses tree limit root names refusal) ∧
      (∀ error, (tree.lookup limit path).run = .error error ↔
        tree.root = .error error ∨
          ∃ root, tree.root = .ok root ∧ Fails tree limit root names error) :=
  ⟨lookup_eq_invalidPath_iff tree limit path,
    fun _ hnames => lookup_of_isAbsolute tree limit path hnames⟩

end Paths

end KernelScope.ObjectTree
