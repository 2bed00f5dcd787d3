import KernelScope.ObjectTree.Table
import KernelScope.Proofs.ObjectTree.Coupling
import KernelScope.Proofs.ObjectTree.Lookup
import KernelScope.Proofs.Text.LowerCase

/-!
# Where a lookup descends

An object without a name cannot be reached by a path.  The names of an absolute path are not empty,
and only the empty text has an empty lower case; so each directory that a lookup goes into, and the
object that it comes to, has a name, which is the one in the path but for case
(`answersTo_of_lookup`).

Which directories a lookup goes into is told by the questions that it asks.  A scan begins with the
first bucket, so `traced` is the tree that keeps the directories of which it is asked that one.
-/

set_option autoImplicit false

namespace KernelScope.ObjectTree

variable {ε α β : Type}

/-! ## Names of objects -/

/-- The object has the name; that of an object without one is empty. -/
def HasName (tree : ObjectTree (Except ε)) (object : Address) (name : String) : Prop :=
  ∃ header, tree.header object = .ok header ∧ tree.name header = .ok name

/-- The object has a name, which is this one but for case. -/
def AnswersTo (tree : ObjectTree (Except ε)) (name : String) (object : Address) : Prop :=
  ∃ text, HasName tree object text ∧ text ≠ "" ∧ Text.lowerCase text = Text.lowerCase name

section Names

variable {tree : ObjectTree (Except ε)} {limit : Nat} {directory object : Address} {name : String}

/-- The empty name matches just the entries of objects without a name. -/
theorem matches_empty_iff (entry : Entry) : Matches "" entry ↔ entry.name = "" := by
  rw [Matches, (Text.lowerCase_eq_empty_iff "").2 rfl, Text.lowerCase_eq_empty_iff]

/-- What is found for a name has that name but for case. -/
theorem exists_hasName_of_scan (h : Scan tree limit directory name object) :
    ∃ text, HasName tree object text ∧ Text.lowerCase text = Text.lowerCase name := by
  obtain ⟨bucket, taken, address, entry, -, -, hread, hname, rfl⟩ := h
  cases hread with
  | intro hlink hheader htext => exact ⟨_, ⟨_, hheader, htext⟩, hname⟩

/-- What is found for a name that is not empty does not lack a name. -/
theorem answersTo_of_scan (hname : name ≠ "") (h : Scan tree limit directory name object) :
    AnswersTo tree name object := by
  obtain ⟨text, htext, hlower⟩ := exists_hasName_of_scan h
  refine ⟨text, htext, ?_, hlower⟩
  rintro rfl
  rw [(Text.lowerCase_eq_empty_iff "").2 rfl, eq_comm, Text.lowerCase_eq_empty_iff] at hlower
  exact hname hlower

/-- What is found for the empty name lacks a name. -/
theorem hasName_empty_of_scan (h : Scan tree limit directory "" object) :
    HasName tree object "" := by
  obtain ⟨text, htext, hlower⟩ := exists_hasName_of_scan h
  rw [(Text.lowerCase_eq_empty_iff "").2 rfl, Text.lowerCase_eq_empty_iff] at hlower
  rwa [← hlower]

end Names

/-! ## Traces -/

/-- Answers that may fail, and the directories looked into so far, which are kept also then. -/
abbrev Tracing (ε : Type) : Type → Type := ExceptT ε (StateM (List Address))

/-- The tree, keeping the directories of which it is asked the first bucket. -/
def traced (tree : ObjectTree (Except ε)) : ObjectTree (Tracing ε) where
  root := liftM tree.root
  bucketHead directory bucket := do
    if bucket = 0 then modify (· ++ [directory])
    liftM (tree.bucketHead directory bucket)
  link address := liftM (tree.link address)
  header object := liftM (tree.header object)
  isDirectoryType type := liftM (tree.isDirectoryType type)
  name header := liftM (tree.name header)

/-- The traced walk comes to the same as the plain one, and looks into these directories. -/
def Traces (plain : ExceptT LookupError (Except ε) α) (traced : ExceptT LookupError (Tracing ε) α)
    (visited : List Address) : Prop :=
  ∀ before, traced.run.run.run before = (plain.run, before ++ visited)

/-- The traced computation comes to the same as the plain one, and looks into no directory. -/
def idle : Coupling (Except ε) (Tracing ε) where
  Pairs Meets plain traced :=
    (∀ a, plain = .ok a → Meets a) ∧ ∀ before, traced.run.run before = (plain, before)
  pairs_pure := by
    rintro α Meets a ha
    refine ⟨fun other hother => ?_, fun before => rfl⟩
    cases hother
    exact ha
  pairs_bind := by
    rintro α β Between Meets x y next other ⟨hbetween, hfirst⟩ hnext
    cases x with
    | error error =>
      refine ⟨fun b hb => (by cases hb), fun before => ?_⟩
      simp only [ExceptT.run_bind, StateT.run_bind, hfirst before]
      rfl
    | ok a =>
      obtain ⟨hmeets, hrest⟩ := hnext a (hbetween a rfl)
      refine ⟨hmeets, fun before => ?_⟩
      simp only [ExceptT.run_bind, StateT.run_bind, hfirst before]
      exact hrest before

section Rules

variable {first : ExceptT LookupError (Except ε) α} {second : ExceptT LookupError (Tracing ε) α}
  {next : α → ExceptT LookupError (Except ε) β} {other : α → ExceptT LookupError (Tracing ε) β}
  {visited : List Address}

theorem pairs_liftM (answer : Except ε α) :
    idle.Pairs (fun _ => True) answer (liftM answer) :=
  ⟨fun _ _ => trivial, fun _ => rfl⟩

theorem traces_of_walks (h : idle.Walks (fun _ => True) first second) :
    Traces first second [] := by
  intro before
  rw [List.append_nil]
  exact h.2 before

theorem Traces.bind_ok {a : α} {more : List Address} (h : Traces first second visited)
    (hfirst : first.run = .ok (.ok a)) (hrest : Traces (next a) (other a) more) :
    Traces (first >>= next) (second >>= other) (visited ++ more) := by
  intro before
  rw [run_bind_ok hfirst, ← List.append_assoc, ← hrest]
  simp only [ExceptT.run_bind, StateT.run_bind, h before, hfirst]
  rfl

theorem Traces.bind_stops (h : Traces first second visited)
    (hfirst : ∀ a, first.run ≠ .ok (.ok a)) :
    Traces (first >>= next) (second >>= other) visited := by
  intro before
  cases hrun : first.run with
  | error error =>
    rw [run_bind_error hrun]
    simp only [ExceptT.run_bind, StateT.run_bind, h before, hrun]
    rfl
  | ok result =>
    cases result with
    | error refusal =>
      rw [run_bind_refused hrun]
      simp only [ExceptT.run_bind, StateT.run_bind, h before, hrun]
      rfl
    | ok a => exact absurd hrun (hfirst a)

/-- The first directories are looked into before what follows, which looks into none. -/
theorem Traces.bind_of_walks (h : Traces first second visited)
    (hrest : ∀ a, idle.Walks (fun _ => True) (next a) (other a)) :
    Traces (first >>= next) (second >>= other) visited := by
  by_cases hstops : ∀ a, first.run ≠ .ok (.ok a)
  · exact h.bind_stops hstops
  · simp only [ne_eq, not_forall, not_not] at hstops
    obtain ⟨a, ha⟩ := hstops
    have hall := h.bind_ok ha (traces_of_walks (hrest a))
    rwa [List.append_nil] at hall

end Rules

/-! ## Directories that are looked into -/

section Walks

variable (tree : ObjectTree (Except ε)) (wanted : String)

theorem pairs_entry (address : Address) :
    idle.Pairs (fun _ => True) (tree.entry address) (tree.traced.entry address) := by
  refine idle.pairs_bind (pairs_liftM (tree.link address)) fun link _ => ?_
  refine idle.pairs_bind (pairs_liftM (tree.header link.object)) fun header _ => ?_
  refine idle.pairs_bind (pairs_liftM (tree.name header)) fun name _ => ?_
  exact idle.pairs_pure trivial

theorem pairs_isDirectory (object : Address) :
    idle.Pairs (fun _ => True) (tree.isDirectory object) (tree.traced.isDirectory object) := by
  refine idle.pairs_bind (pairs_liftM (tree.header object)) fun header _ => ?_
  exact pairs_liftM (tree.isDirectoryType header.type)

theorem pairs_visitName (found : Option Address) (bucket : Nat) (entry : Entry) :
    idle.Pairs (fun _ => True) (visitName (m := Except ε) wanted found bucket entry)
      (visitName wanted found bucket entry) :=
  idle.pairs_pure trivial

/-- Along a chain no directory is looked into. -/
theorem walks_walkChain (limit bucket room : Nat) (start found : Option Address) :
    idle.Walks (fun _ => True)
      (tree.walkChain (visitName wanted) limit bucket room start found)
      (tree.traced.walkChain (visitName wanted) limit bucket room start found) := by
  induction room generalizing start found with
  | zero =>
    cases start with
    | none => exact Coupling.walks_pure trivial
    | some address => exact Coupling.walks_throw _
  | succ room ih =>
    cases start with
    | none => exact Coupling.walks_pure trivial
    | some address =>
      refine Coupling.walks_lift_bind (pairs_entry tree address) fun entry _ => ?_
      refine Coupling.walks_lift_bind (pairs_visitName wanted found bucket entry) fun step _ => ?_
      cases step with
      | done last => exact Coupling.walks_pure trivial
      | yield next => exact ih entry.next next

theorem traces_bucketHead (directory : Address) :
    Traces (liftM (tree.bucketHead directory 0) : ExceptT LookupError (Except ε) (Option Address))
      (liftM (tree.traced.bucketHead directory 0)) [directory] := by
  intro before
  simp only [traced, if_true]
  cases tree.bucketHead directory 0 <;> rfl

/-- Behind the first bucket no directory is looked into. -/
theorem walks_walkBuckets (limit : Nat) (directory : Address) {buckets : List Nat}
    (hbuckets : ∀ bucket ∈ buckets, bucket ≠ 0) (found : Option Address) :
    idle.Walks (fun _ => True)
      (tree.walkBuckets (visitName wanted) limit directory buckets found)
      (tree.traced.walkBuckets (visitName wanted) limit directory buckets found) := by
  induction buckets generalizing found with
  | nil => exact Coupling.walks_pure trivial
  | cons bucket buckets ih =>
    have hhead : idle.Pairs (fun _ => True) (tree.bucketHead directory bucket)
        (tree.traced.bucketHead directory bucket) := by
      refine ⟨fun _ _ => trivial, fun before => ?_⟩
      simp only [traced, hbuckets bucket List.mem_cons_self, if_false]
      rfl
    refine Coupling.walks_lift_bind hhead fun head _ => ?_
    refine Coupling.walks_bind (walks_walkChain tree wanted limit bucket limit head found) ?_
    intro step _
    cases step with
    | done last => exact Coupling.walks_pure trivial
    | yield next =>
      exact ih (fun other hother => hbuckets other (List.mem_cons_of_mem _ hother)) next

/-- To find a name in a directory, that directory is looked into and no other. -/
theorem traces_find (limit : Nat) (directory : Address) (name : String) :
    Traces (tree.find limit directory name) (tree.traced.find limit directory name)
      [directory] := by
  have hrange : List.range bucketCount = 0 :: (List.range (bucketCount - 1)).map Nat.succ := by
    rw [← List.range_succ_eq_map]
    rfl
  rw [find, find, walk, walk, hrange]
  refine (traces_bucketHead tree directory).bind_of_walks fun head => ?_
  refine Coupling.walks_bind (walks_walkChain tree _ limit 0 limit head none) fun step _ => ?_
  cases step with
  | done last => exact Coupling.walks_pure trivial
  | yield next => exact walks_walkBuckets tree _ limit directory (by simp) next

end Walks

/-! ## Objects that answer to names -/

/-- The walk looks into the directory first and then into objects that answer to the names, in turn.
If it finds an object, this is the one that answers to the last of them. -/
def GoesBy (tree : ObjectTree (Except ε)) (directory : Address) (names : List String)
    (plain : ExceptT LookupError (Except ε) (Option Address))
    (traced : ExceptT LookupError (Tracing ε) (Option Address)) : Prop :=
  ∃ objects, Traces plain traced (directory :: objects) ∧
    (∃ before, before <+: names ∧ List.Forall₂ (AnswersTo tree) before objects) ∧
    ∀ object, plain.run = .ok (.ok (some object)) →
      List.Forall₂ (AnswersTo tree) names (objects ++ [object])

section Names

variable {tree : ObjectTree (Except ε)} {limit : Nat} {directory : Address} {names : List String}
  {plain : ExceptT LookupError (Except ε) (Option Address)}
  {traced : ExceptT LookupError (Tracing ε) (Option Address)}

/-- A walk that goes into an object that answers to the first name. -/
theorem GoesBy.into {object : Address} {name : String}
    {first : ExceptT LookupError (Except ε) (Option Address)}
    {second : ExceptT LookupError (Tracing ε) (Option Address)} (hname : AnswersTo tree name object)
    (hrun : first.run = plain.run)
    (htraces : ∀ {visited}, Traces plain traced visited →
      Traces first second (directory :: visited))
    (h : GoesBy tree object names plain traced) :
    GoesBy tree directory (name :: names) first second := by
  obtain ⟨objects, hvisited, ⟨before, hprefix, hbefore⟩, hfound⟩ := h
  refine ⟨object :: objects, htraces hvisited, ?_, fun found hobject => ?_⟩
  · exact ⟨name :: before, List.cons_prefix_cons.2 ⟨rfl, hprefix⟩, .cons hname hbefore⟩
  · exact .cons hname (hfound found (hrun ▸ hobject))

/-- What is found for the first name is a directory, and the other names are looked up in it. -/
theorem traces_resolveNames_into {object : Address} {name : String} {visited : List Address}
    (hafter : GoesOn names) (hscan : Scan tree limit directory name object)
    (hdirectory : tree.isDirectory object = .ok true)
    (h : Traces (tree.resolveNames limit object names)
      (tree.traced.resolveNames limit object names) visited) :
    Traces (tree.resolveNames limit directory (name :: names))
      (tree.traced.resolveNames limit directory (name :: names)) (directory :: visited) := by
  obtain ⟨hnil, hempty⟩ := hafter
  rw [resolveNames, resolveNames]
  refine (traces_find tree limit directory name).bind_ok (find_of_scan hscan) ?_
  simp only [hnil, hempty, or_self, if_false]
  have hasked := traces_of_walks (Coupling.walks_lift (pairs_isDirectory tree object))
  refine hasked.bind_ok (a := true) ?_ h
  rw [hdirectory]
  rfl

/-- Unless a directory is found for the first name, only the one it is looked up in is looked
into. -/
theorem traces_resolveNames_stops {name : String}
    (hstops : names = [] ∨
      ∀ object, Scan tree limit directory name object → tree.isDirectory object ≠ .ok true) :
    Traces (tree.resolveNames limit directory (name :: names))
      (tree.traced.resolveNames limit directory (name :: names)) [directory] := by
  rw [resolveNames, resolveNames]
  have hfind := traces_find tree limit directory name
  by_cases hfails : ∀ found, (tree.find limit directory name).run ≠ .ok (.ok found)
  · exact hfind.bind_stops hfails
  obtain ⟨found, hrun⟩ : ∃ found, (tree.find limit directory name).run = .ok (.ok found) := by
    simpa using hfails
  change Traces _ _ ([directory] ++ [])
  refine hfind.bind_ok hrun ?_
  cases found with
  | none => exact traces_of_walks (Coupling.walks_pure trivial)
  | some object =>
    by_cases hlast : names = [] ∨ names = [""]
    · simp only [if_pos hlast]
      exact traces_of_walks (Coupling.walks_pure trivial)
    · simp only [if_neg hlast]
      have hscan := ((find_outcome tree limit directory name).1 object).1 hrun
      have hdirectory := hstops.resolve_left (fun h => hlast (.inl h)) object hscan
      have hasked := traces_of_walks (Coupling.walks_lift (pairs_isDirectory tree object))
      cases hanswer : tree.isDirectory object with
      | error error =>
        rw [hanswer] at hasked
        exact hasked.bind_stops fun answer h => by cases h
      | ok answer =>
        cases answer with
        | true => exact absurd hanswer hdirectory
        | false =>
          rw [hanswer] at hasked
          exact hasked.bind_ok (a := false) rfl (traces_of_walks (Coupling.walks_throw _))

theorem goesBy_resolveNames (hnil : names ≠ []) (hnames : ∀ name ∈ names, name ≠ "") :
    GoesBy tree directory names (tree.resolveNames limit directory names)
      (tree.traced.resolveNames limit directory names) := by
  induction names generalizing directory with
  | nil => exact absurd rfl hnil
  | cons name rest ih =>
    have hname : name ≠ "" := hnames name List.mem_cons_self
    have hrest : ∀ other ∈ rest, other ≠ "" := fun other hother =>
      hnames other (List.mem_cons_of_mem _ hother)
    by_cases hinto : ∃ object, rest ≠ [] ∧ Scan tree limit directory name object ∧
        tree.isDirectory object = .ok true
    · obtain ⟨object, hmore, hscan, hdirectory⟩ := hinto
      have hgoesOn := goesOn_of_ne_nil hmore hrest
      refine .into (answersTo_of_scan hname hscan) ?_
        (traces_resolveNames_into hgoesOn hscan hdirectory) (ih hmore hrest)
      rw [resolveNames_scan hgoesOn hscan, hdirectory]
    · have hstops : rest = [] ∨
          ∀ object, Scan tree limit directory name object → tree.isDirectory object ≠ .ok true :=
        Classical.or_iff_not_imp_left.2 fun hmore object hscan hdirectory =>
          hinto ⟨object, hmore, hscan, hdirectory⟩
      refine ⟨[], traces_resolveNames_stops hstops, ⟨[], List.nil_prefix, .nil⟩, ?_⟩
      intro object hobject
      obtain ⟨hfound, -⟩ := resolveNames_outcome hnames hnil
      obtain ⟨before, last, after, middle, hsplit, hdescends, rfl, hscan⟩ :=
        (hfound object).1 hobject
      cases hdescends with
      | here =>
        obtain ⟨rfl, rfl⟩ := List.cons.inj hsplit
        exact .cons (answersTo_of_scan hname hscan) .nil
      | into hfirst htells _ =>
        obtain ⟨rfl, rfl⟩ := List.cons.inj hsplit
        exact absurd ⟨_, by simp, hfirst, isDirectory_of_tells htells⟩ hinto

end Names

/-! ## Absolute paths -/

section Paths

variable (tree : ObjectTree (Except ε)) (limit : Nat) {path : String} {names : List String}
  (hpath : ObjectPath.IsAbsolute path names)

include hpath

theorem goesBy_lookup {root : Address} (hroot : tree.root = .ok root) :
    GoesBy tree root names (tree.lookup limit path) (tree.traced.lookup limit path) := by
  have hnames := ObjectPath.absoluteNames_of_isAbsolute hpath
  have hgoes : GoesBy tree root names (tree.resolveNames limit root names)
      (tree.traced.resolveNames limit root names) :=
    goesBy_resolveNames hpath.names_ne_nil hpath.name_ne_empty
  obtain ⟨objects, htraces, hbefore, hfound⟩ := hgoes
  refine ⟨objects, ?_, hbefore, by rwa [lookup_of_root hnames hroot]⟩
  have hasked := traces_of_walks (Coupling.walks_lift (pairs_liftM tree.root))
  rw [lookup, lookup, hnames]
  refine hasked.bind_ok (a := root) ?_ htraces
  rw [hroot]
  rfl

theorem traces_lookup_of_rootless {error : ε} (hroot : tree.root = .error error) :
    Traces (tree.lookup limit path) (tree.traced.lookup limit path) [] := by
  have hasked := traces_of_walks (Coupling.walks_lift (pairs_liftM tree.root))
  rw [lookup, lookup, ObjectPath.absoluteNames_of_isAbsolute hpath]
  refine hasked.bind_stops fun root hrun => ?_
  rw [hroot] at hrun
  cases hrun

end Paths

/-- A path that is not refused has names that are not empty.  Behind the root, its lookup goes into
objects that answer to these names in turn, and to the last of them answers what it finds; whatever
is found for one of them, in any directory, has a name.  The empty path, which is not absolute,
resolves in a directory to the first object there that is without one. -/
theorem answersTo_of_lookup (tree : ObjectTree (Except ε)) (limit : Nat) (path : String)
    (haccepted : ∀ flaw, (tree.lookup limit path).run ≠ .ok (.error (.invalidPath path flaw))) :
    (∃ names, ObjectPath.IsAbsolute path names ∧
      (∀ root, tree.root = .ok root →
        GoesBy tree root names (tree.lookup limit path) (tree.traced.lookup limit path)) ∧
      (∀ error, tree.root = .error error →
        Traces (tree.lookup limit path) (tree.traced.lookup limit path) []) ∧
      ∀ name ∈ names, ∀ directory object,
        (tree.find limit directory name).run = .ok (.ok (some object)) →
          AnswersTo tree name object) ∧
    (∀ entry, Matches "" entry ↔ entry.name = "") ∧
    ∀ directory object,
      ((tree.resolve limit directory "").run = .ok (.ok (some object)) ↔
        Scan tree limit directory "" object) ∧
      (Scan tree limit directory "" object → HasName tree object "") := by
  refine ⟨?_, matches_empty_iff, ?_⟩
  · have habsolute : ∃ names, ObjectPath.IsAbsolute path names := by
      by_contra hnone
      obtain ⟨flaw, hflaw⟩ := (lookup_eq_invalidPath_iff tree limit path).2 hnone
      exact haccepted flaw hflaw
    obtain ⟨names, hpath⟩ := habsolute
    refine ⟨names, hpath, fun root => goesBy_lookup tree limit hpath,
      fun error => traces_lookup_of_rootless tree limit hpath, ?_⟩
    intro name hname directory object hfound
    have hscan := ((find_outcome tree limit directory name).1 object).1 hfound
    exact answersTo_of_scan (hpath.name_ne_empty name hname) hscan
  · intro directory object
    refine ⟨?_, hasName_empty_of_scan⟩
    rw [resolve, show ObjectPath.names "" = [""] by simp [ObjectPath.names], resolveNames_single]
    exact (find_outcome tree limit directory "").1 object

/-- A root with a named directory, in which an object without a name comes first. -/
def unnamedTable : ObjectTable where
  root := some 1
  directoryType := some 7
  objects := .ofList [(1, ⟨none, 7, .ofList [(3, 0x10)]⟩),
    (2, ⟨some "Device", 7, .ofList [(0, 0x20)]⟩), (3, ⟨none, 8, .empty⟩)]
  links := .ofList [(0x10, ⟨2, none⟩), (0x20, ⟨3, none⟩)]

set_option maxRecDepth 2000 in
/-- The directory answers to its name, and the object in it is what the empty path resolves to
there. -/
theorem answersTo_of_lookup_unnamedTable :
    (unnamedTable.tree.lookup 1 "\\device").run = .ok (.ok (some 2)) ∧
    (∃ names objects, ObjectPath.IsAbsolute "\\device" names ∧
      List.Forall₂ (AnswersTo unnamedTable.tree) names (objects ++ [2])) ∧
    (unnamedTable.tree.resolve 1 2 "").run = .ok (.ok (some 3)) ∧
    HasName unnamedTable.tree 3 "" := by
  have hfound : (unnamedTable.tree.lookup 1 "\\device").run = .ok (.ok (some 2)) := rfl
  have hempty : (unnamedTable.tree.resolve 1 2 "").run = .ok (.ok (some 3)) := rfl
  obtain ⟨⟨names, hpath, hgoes, -⟩, -, hunnamed⟩ :=
    answersTo_of_lookup unnamedTable.tree 1 "\\device" (by simp [hfound])
  obtain ⟨objects, -, -, hobject⟩ := hgoes 1 rfl
  obtain ⟨hresolve, hname⟩ := hunnamed 2 3
  exact ⟨hfound, ⟨names, objects, hpath, hobject 2 hfound⟩, hempty, hname (hresolve.1 hempty)⟩

end KernelScope.ObjectTree
