import KernelScope.ObjectTree.Table
import KernelScope.Proofs.ObjectTree.Lookup

/-!
# Joined paths

Looking up two paths with a separator between them is looking up the first, and then, if this leads
to a directory, the second in that directory (`resolve_append`).  The first path must not end with a
separator and the second must not be empty, because an empty last name asks for nothing.
-/

set_option autoImplicit false

namespace KernelScope

open ObjectPath (names names_ne_nil ofNames ofNames_append lastName separator)

/-- The refusal of a path that goes on: what is left over goes on as well. -/
def LookupError.extend (rest : String) : LookupError → LookupError
  | .notDirectory name remaining => .notDirectory name (remaining ++ ObjectPath.root ++ rest)
  | refusal => refusal

namespace ObjectTree

variable {ε : Type}

theorem goesOn_of_getLast? {names : List String} (hnil : names ≠ [])
    (hlast : names.getLast? ≠ some "") : GoesOn names := by
  refine ⟨hnil, ?_⟩
  rintro rfl
  exact hlast rfl

theorem GoesOn.append {names after : List String} (hafter : GoesOn after) (hnil : names ≠ []) :
    GoesOn (names ++ after) := by
  refine ⟨List.append_ne_nil_of_left_ne_nil hnil after, ?_⟩
  intro hempty
  rcases List.append_eq_singleton_iff.1 hempty with ⟨hnames, -⟩ | ⟨-, hrest⟩
  · exact hnil hnames
  · exact hafter.1 hrest

theorem goesOn_names {path : String} (hpath : path ≠ "") : GoesOn (names path) :=
  ⟨names_ne_nil path, ObjectPath.names_ne_empty hpath⟩

/-- Names are looked up in what the names before them lead to. -/
theorem resolveNames_names_append (tree : ObjectTree (Except ε)) (limit : Nat)
    (directory : Address) {first after : List String} (hafter : GoesOn after) (hnil : first ≠ [])
    (hlast : first.tail.getLast? ≠ some "") :
    (tree.resolveNames limit directory (first ++ after)).run =
      match (tree.resolveNames limit directory first).run with
      | .error error => .error error
      | .ok (.error refusal) => .ok (.error (refusal.extend (ofNames after)))
      | .ok (.ok none) => .ok (.ok none)
      | .ok (.ok (some object)) =>
        match tree.isDirectory object with
        | .ok true => (tree.resolveNames limit object after).run
        | .ok false => .ok (.error (.notDirectory (first.getLast hnil) (ofNames after)))
        | .error error => .error error := by
  -- only behind the first name an empty last one would be passed over: `[""]` may stand alone
  induction first generalizing directory with
  | nil => exact absurd rfl hnil
  | cons name others ih =>
    rcases scan_ends tree limit directory name with
      ⟨object, hscan⟩ | habsent | ⟨bucket, htooLong⟩ | ⟨error, hfails⟩
    · by_cases hothers : others = []
      · subst hothers
        rw [resolveNames_last hscan, List.singleton_append, resolveNames_scan hafter hscan]
        rfl
      · have hfirst : GoesOn others := goesOn_of_getLast? hothers hlast
        rw [List.cons_append, resolveNames_scan (hafter.append hothers) hscan,
          resolveNames_scan hfirst hscan]
        rcases tree.isDirectory object with error | answer
        · rfl
        · cases answer with
          | false =>
            simp only [LookupError.extend]
            rw [ofNames_append hothers hafter.1]
          | true =>
            have hothersLast : others.tail.getLast? ≠ some "" := by
              rw [List.getLast?_tail]
              split
              · exact nofun
              · exact hlast
            rw [List.getLast_cons hothers]
            exact ih object hothers hothersLast
    · rw [List.cons_append, resolveNames_absent _ habsent, resolveNames_absent _ habsent]
    · rw [List.cons_append, resolveNames_tooLong _ htooLong, resolveNames_tooLong _ htooLong]
      rfl
    · rw [List.cons_append, resolveNames_scanFails _ hfails, resolveNames_scanFails _ hfails]

/-- Looking up a path that goes on, with a separator and more behind it, looks up the rest in the
directory that the first part leads to.  The first part comes to nothing where it would alone, and
if it leads to what is no directory or does not tell, that is where the lookup ends. -/
theorem resolve_append (tree : ObjectTree (Except ε)) (limit : Nat) (directory : Address)
    {path rest : String} (hpath : path.toList.getLast? ≠ some separator) (hrest : rest ≠ "") :
    (tree.resolve limit directory (path ++ ObjectPath.root ++ rest)).run =
      match (tree.resolve limit directory path).run with
      | .error error => .error error
      | .ok (.error refusal) => .ok (.error (refusal.extend rest))
      | .ok (.ok none) => .ok (.ok none)
      | .ok (.ok (some object)) =>
        match tree.isDirectory object with
        | .ok true => (tree.resolve limit object rest).run
        | .ok false => .ok (.error (.notDirectory (lastName path) rest))
        | .error error => .error error := by
  have hnames := resolveNames_names_append tree limit directory (goesOn_names hrest)
    (names_ne_nil path) (ObjectPath.getLast?_tail_names hpath)
  rw [ObjectPath.ofNames_names] at hnames
  rw [resolve, ObjectPath.names_append]
  exact hnames

/-- A root directory that holds a directory, and this one object that is none. -/
def driverTable : ObjectTable where
  root := some 1
  directoryType := some 7
  objects := .ofList [(1, ⟨none, 7, .ofList [(3, 0x10)]⟩),
    (2, ⟨some "Driver", 7, .ofList [(0, 0x20)]⟩), (3, ⟨some "afd", 8, .empty⟩)]
  links := .ofList [(0x10, ⟨2, none⟩), (0x20, ⟨3, none⟩)]

set_option maxRecDepth 4000 in
/-- The object is found in its directory, and nothing below it: what is left over is told from its
name on. -/
theorem resolve_append_driverTable :
    (driverTable.tree.resolve 1 1 ("driver" ++ ObjectPath.root ++ "AFD")).run =
        .ok (.ok (some 3)) ∧
      (driverTable.tree.resolve 1 1 ("Driver\\afd" ++ ObjectPath.root ++ "x\\y")).run =
        .ok (.error (.notDirectory "afd" "x\\y")) ∧
      (driverTable.tree.resolve 1 1 ("Driver\\afd\\x" ++ ObjectPath.root ++ "y")).run =
        .ok (.error (.notDirectory "afd" "x\\y")) := by
  refine ⟨?_, ?_, ?_⟩
  · rw [resolve_append driverTable.tree 1 1 (by decide) (by decide)]
    rfl
  · rw [resolve_append driverTable.tree 1 1 (by decide) (by decide)]
    rfl
  · rw [resolve_append driverTable.tree 1 1 (by decide) (by decide)]
    rfl

end ObjectTree

end KernelScope
