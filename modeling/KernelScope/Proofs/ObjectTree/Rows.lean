import Mathlib.Data.List.Forall2
import KernelScope.Proofs.ObjectTree.LinkCount
import KernelScope.Proofs.ObjectTree.Listing
import KernelScope.Proofs.Success

/-!
# The ways a listing ends

A listing goes through the buckets in order, and through each bucket link by link.  It comes to rows
if every bucket ends within the limit and every answer on the way succeeds; otherwise it ends with
the first thing that goes wrong in that order: a link that may not be taken any more, or an answer
that fails.  The walk and its visitor report what goes wrong in different ways, so the ways to end
are said here without either, and `list_outcome` says that a listing ends in the way that holds, and
how many links it may ask for.
-/

set_option autoImplicit false

namespace KernelScope.ObjectTree

variable {ε : Type}

section Ways

variable (tree : ObjectTree (Except ε)) (limit : Nat) (directory : Address)

/-! ## Ways to end -/

/-- The row shows the entry of a bucket, and whether its object is a directory. -/
structure Shows (entry : Nat × Entry) (row : Row) : Prop where
  bucket : row.bucket = entry.1
  name : row.name = entry.2.name
  object : row.object = entry.2.object
  tells : Tells tree entry.2.object row.isDirectory

/-- The rows show the entries of all buckets, one each, in the order of buckets and then of
links. -/
def Lists (rows : List Row) : Prop :=
  ∃ entries, Enumerates tree limit directory entries ∧ List.Forall₂ (Shows tree) entries rows

/-- All of a bucket is within the limit and can be read, and of every object in it, it can be told
whether it is a directory. -/
def Listable (bucket : Nat) : Prop :=
  ∃ entries, Fills tree limit directory bucket entries ∧
    ∀ entry ∈ entries, ∃ flag, Tells tree entry.object flag

/-- The buckets before this one can be listed, and in this one `taken` entries that can be listed
lead to `stop`. -/
def ListsTo (bucket taken : Nat) (stop : Option Address) : Prop :=
  bucket < bucketCount ∧ (∀ earlier < bucket, Listable tree limit directory earlier) ∧
    ∃ head entries, tree.bucketHead directory bucket = .ok head ∧ Chain tree head entries stop ∧
      entries.length = taken ∧ ∀ entry ∈ entries, ∃ flag, Tells tree entry.object flag

/-- A bucket still has a link behind as many entries as may be taken from it. -/
def Overlong (bucket : Nat) : Prop :=
  ∃ address, ListsTo tree limit directory bucket limit (some address)

/-- The head of a bucket, or an entry that may be taken from it, cannot be read, or it cannot be
told whether its object is a directory. -/
def ListFails (error : ε) : Prop :=
  ∃ bucket < bucketCount, (∀ earlier < bucket, Listable tree limit directory earlier) ∧
    (tree.bucketHead directory bucket = .error error ∨
      ∃ taken address, ListsTo tree limit directory bucket taken (some address) ∧ taken < limit ∧
        (Unreadable tree address error ∨
          ∃ entry, Reads tree address entry ∧ Untold tree entry.object error))

end Ways

section Listings

variable {tree : ObjectTree (Except ε)} {limit : Nat} {directory : Address}

/-! ## Rows -/

theorem rowOf_eq_ok_iff (entry : Nat × Entry) (row : Row) :
    tree.rowOf entry = .ok row ↔ Shows tree entry row := by
  constructor
  · intro h
    obtain ⟨flag, hflag, rfl⟩ := map_eq_ok h
    exact ⟨rfl, rfl, rfl, tells_of_isDirectory hflag⟩
  · obtain ⟨bucket, name, object, flag⟩ := row
    rintro ⟨rfl, rfl, rfl, htells⟩
    rw [rowOf, isDirectory_of_tells htells]
    rfl

/-- Rows come about exactly if they show the entries. -/
theorem mapM_rowOf_eq_ok_iff (entries : List (Nat × Entry)) (rows : List Row) :
    entries.mapM tree.rowOf = .ok rows ↔ List.Forall₂ (Shows tree) entries rows := by
  constructor
  · intro h
    induction entries generalizing rows with
    | nil =>
      cases h
      exact .nil
    | cons entry entries ih =>
      obtain ⟨row, others, hrow, hothers, rfl⟩ := mapM_cons_eq_ok h
      exact .cons ((rowOf_eq_ok_iff entry row).1 hrow) (ih others hothers)
  · intro h
    induction h with
    | nil => rfl
    | @cons entry row entries rows hrow _ ih =>
      rw [List.mapM_cons, (rowOf_eq_ok_iff entry row).2 hrow, ih]
      rfl

/-- A listing succeeds with just the rows that show the entries of the directory. -/
theorem list_eq_ok_iff (rows : List Row) :
    (tree.list limit directory).run = .ok (.ok rows) ↔ Lists tree limit directory rows := by
  constructor
  · intro h
    obtain ⟨entries, hentries, hrows⟩ := enumerates_of_list h
    exact ⟨entries, hentries, (mapM_rowOf_eq_ok_iff entries rows).1 hrows⟩
  · rintro ⟨entries, hentries, hrows⟩
    rw [list_of_enumerates hentries, (mapM_rowOf_eq_ok_iff entries rows).2 hrows]
    rfl

/-! ## One bucket -/

theorem visitRow_of_tells {entry : Entry} {flag : Bool} (h : Tells tree entry.object flag)
    (rows : Array Row) (bucket : Nat) :
    tree.visitRow rows bucket entry =
      .ok (.yield (rows.push ⟨bucket, entry.name, entry.object, flag⟩)) := by
  rw [visitRow, isDirectory_of_tells h]
  rfl

theorem visitRow_of_untold {entry : Entry} {error : ε} (h : Untold tree entry.object error)
    (rows : Array Row) (bucket : Nat) : tree.visitRow rows bucket entry = .error error := by
  rw [visitRow, isDirectory_of_untold h]
  rfl

/-- Listing passes the entries whose objects tell whether they are directories. -/
theorem passes_visitRow_iff {bucket : Nat} {entries : List Entry} {rows : Array Row} :
    (∃ next, Passes tree.visitRow bucket rows entries next) ↔
      ∀ entry ∈ entries, ∃ flag, Tells tree entry.object flag := by
  induction entries generalizing rows with
  | nil => simpa using ⟨rows, Passes.nil rows⟩
  | cons entry entries ih =>
    constructor
    · rintro ⟨next, hpasses⟩
      cases hpasses with
      | @cons _ middle _ _ _ hvisit hrest =>
        have hothers := ih.1 ⟨next, hrest⟩
        rcases tells_or_untold tree entry.object with htells | ⟨error, huntold⟩
        · exact List.forall_mem_cons.2 ⟨htells, hothers⟩
        · rw [visitRow_of_untold huntold] at hvisit
          cases hvisit
    · intro htell
      obtain ⟨⟨flag, htells⟩, hothers⟩ := List.forall_mem_cons.1 htell
      obtain ⟨next, hrest⟩ := ih.2 hothers
      exact ⟨next, .cons (visitRow_of_tells htells rows bucket) hrest⟩

/-- Listing passes a bucket that can be listed, whatever rows there are. -/
theorem passesBucket_of_listable {bucket : Nat} (h : Listable tree limit directory bucket) :
    PassesBucket tree tree.visitRow limit directory (fun _ => True) bucket := by
  obtain ⟨entries, ⟨head, hhead, hchain, hlength⟩, htell⟩ := h
  refine ⟨head, entries, hhead, hchain, hlength, fun rows _ => ?_⟩
  obtain ⟨next, hpasses⟩ := passes_visitRow_iff.2 htell
  exact ⟨next, trivial, hpasses⟩

/-- A listing comes to any bucket before which all can be listed. -/
theorem list_eq_walkBuckets {bucket : Nat} (hbucket : bucket < bucketCount)
    (hearlier : ∀ earlier < bucket, Listable tree limit directory earlier) :
    ∃ rows later, (tree.walk tree.visitRow limit directory #[]).run =
      (tree.walkBuckets tree.visitRow limit directory (bucket :: later) rows).run := by
  obtain ⟨rows, later, -, hwalk⟩ := walk_eq_walkBuckets hbucket
    (fun earlier hlt => passesBucket_of_listable (hearlier earlier hlt)) trivial
  exact ⟨rows, later, hwalk⟩

/-! ## The listing ends in the way that holds -/

theorem list_of_walk_error {error : ε}
    (h : (tree.walk tree.visitRow limit directory #[]).run = .error error) :
    (tree.list limit directory).run = .error error := by
  rw [list, run_bind_error h]

theorem list_of_overlong {bucket : Nat} (h : Overlong tree limit directory bucket) :
    (tree.list limit directory).run = .ok (.error (.chainTooLong bucket limit)) := by
  obtain ⟨address, hbucket, hearlier, head, entries, hhead, hchain, hlength, htell⟩ := h
  obtain ⟨rows, later, hwalk⟩ := list_eq_walkBuckets hbucket hearlier
  obtain ⟨next, hpasses⟩ := passes_visitRow_iff.2 htell
  rw [list, run_bind_refused (walk_of_exhausted hwalk hhead hpasses hchain hlength)]

theorem list_of_listFails {error : ε} (h : ListFails tree limit directory error) :
    (tree.list limit directory).run = .error error := by
  obtain ⟨bucket, hbucket, hearlier, hhead | ⟨taken, address, hlists, htaken, hentry⟩⟩ := h
  · obtain ⟨rows, later, hwalk⟩ := list_eq_walkBuckets hbucket hearlier
    exact list_of_walk_error (walk_of_head_error hwalk hhead)
  · obtain ⟨_, _, head, entries, hhead, hchain, rfl, htell⟩ := hlists
    obtain ⟨rows, later, hwalk⟩ := list_eq_walkBuckets hbucket hearlier
    obtain ⟨next, hpasses⟩ := passes_visitRow_iff.2 htell
    rcases hentry with hunreadable | ⟨entry, hread, huntold⟩
    · exact list_of_walk_error
        (walk_of_unreadable hwalk hhead hpasses hchain htaken hunreadable)
    · exact list_of_walk_error (walk_of_visit_error hwalk hhead hpasses hchain htaken hread
        (visitRow_of_untold huntold next bucket))

/-- In a bucket that cannot be listed the listing ends, in one of the two other ways. -/
theorem ends_of_not_listable {bucket : Nat} (hbucket : bucket < bucketCount)
    (hearlier : ∀ earlier < bucket, Listable tree limit directory earlier)
    (hhere : ¬ Listable tree limit directory bucket) :
    Overlong tree limit directory bucket ∨ ∃ error, ListFails tree limit directory error := by
  cases hhead : tree.bucketHead directory bucket with
  | error error => exact .inr ⟨error, bucket, hbucket, hearlier, .inl hhead⟩
  | ok head =>
    obtain ⟨entries, stop, next, left, hchain, hpasses, hroom, hrest⟩ :=
      exists_atRest tree tree.visitRow bucket limit head #[]
    have htell := passes_visitRow_iff.1 ⟨next, hpasses⟩
    have hlists : ListsTo tree limit directory bucket entries.length stop :=
      ⟨hbucket, hearlier, head, entries, hhead, hchain, rfl, htell⟩
    cases hrest with
    | ended => exact absurd ⟨entries, ⟨head, hhead, hchain, by omega⟩, htell⟩ hhere
    | exhausted address =>
      rw [show entries.length = limit from by omega] at hlists
      exact .inl ⟨address, hlists⟩
    | @unreadable room _ address error hentry =>
      exact .inr ⟨error, bucket, hbucket, hearlier,
        .inr ⟨entries.length, address, hlists, by omega, .inl hentry⟩⟩
    | @stopped room address _ entry hread hstops =>
      rcases tells_or_untold tree entry.object with ⟨flag, htells⟩ | ⟨error, huntold⟩
      · exact absurd (visitRow_of_tells htells next bucket) (hstops _)
      · exact .inr ⟨error, bucket, hbucket, hearlier,
          .inr ⟨entries.length, address, hlists, by omega, .inr ⟨entry, hread, huntold⟩⟩⟩

/-- A directory of which all buckets can be listed is listed. -/
theorem exists_list_of_listable
    (h : ∀ bucket < bucketCount, Listable tree limit directory bucket) :
    ∃ rows, (tree.list limit directory).run = .ok (.ok rows) := by
  obtain ⟨rows, -, hwalk⟩ := walk_of_passesBuckets
    (fun bucket hbucket => passesBucket_of_listable (h bucket hbucket)) trivial
  exact ⟨rows.toList, by rw [list, run_bind_ok hwalk]; rfl⟩

theorem tells_of_shows {entries : List (Nat × Entry)} {rows : List Row}
    (h : List.Forall₂ (Shows tree) entries rows) :
    ∀ entry ∈ entries, ∃ flag, Tells tree entry.2.object flag := by
  have hboth : List.Forall₂ (fun entry row =>
      (∃ flag, Tells tree entry.2.object flag) ∧ Shows tree entry row) entries rows :=
    h.imp fun _ row hshows => ⟨⟨row.isDirectory, hshows.tells⟩, hshows⟩
  exact ((List.forall₂_and_left entries rows).1 hboth).1

theorem listable_of_lists {rows : List Row} (h : Lists tree limit directory rows) {bucket : Nat}
    (hbucket : bucket < bucketCount) : Listable tree limit directory bucket := by
  obtain ⟨_, ⟨held, hfills, rfl⟩, hrows⟩ := h
  refine ⟨held bucket, hfills bucket hbucket, fun entry hentry => ?_⟩
  have hmem : (bucket, entry) ∈ numbered held (List.range bucketCount) :=
    List.mem_flatMap.2 ⟨bucket, List.mem_range.2 hbucket, List.mem_map.2 ⟨entry, hentry, rfl⟩⟩
  exact tells_of_shows hrows (bucket, entry) hmem

/-- Every listing ends in one of the three ways. -/
theorem list_ends (tree : ObjectTree (Except ε)) (limit : Nat) (directory : Address) :
    (∃ rows, Lists tree limit directory rows) ∨
      (∃ bucket, Overlong tree limit directory bucket) ∨
        ∃ error, ListFails tree limit directory error := by
  rcases all_or_first (Listable tree limit directory) bucketCount with
    hall | ⟨bucket, hbucket, hhere, hearlier⟩
  · obtain ⟨rows, hrows⟩ := exists_list_of_listable hall
    exact .inl ⟨rows, (list_eq_ok_iff rows).1 hrows⟩
  · exact .inr ((ends_of_not_listable hbucket hearlier hhere).imp_left fun h => ⟨bucket, h⟩)

end Listings

/-- A directory is listed exactly if every bucket of it can be listed, and then with a row for each
of its entries, in the order of buckets and then of links.  Otherwise the listing ends with the
first thing that goes wrong in that order: it is refused exactly where a bucket has one link more
than may be taken from it, and fails exactly where an answer on the way fails.  It never asks for
more links than may be taken from all buckets. -/
theorem list_outcome (tree : ObjectTree (Except ε)) (limit : Nat) (directory : Address) :
    ((∃ rows, (tree.list limit directory).run = .ok (.ok rows)) ↔
      ∀ bucket < bucketCount, Listable tree limit directory bucket) ∧
    (∀ rows, (tree.list limit directory).run = .ok (.ok rows) ↔
      Lists tree limit directory rows) ∧
    (∀ refusal, (tree.list limit directory).run = .ok (.error refusal) ↔
      ∃ bucket, Overlong tree limit directory bucket ∧ refusal = .chainTooLong bucket limit) ∧
    (∀ error, (tree.list limit directory).run = .error error ↔
      ListFails tree limit directory error) ∧
    ∃ asked ≤ bucketCount * limit,
      (tree.counted.list limit directory).run.run.run 0 =
        ((tree.list limit directory).run, asked) := by
  have hends : (∃ rows, Lists tree limit directory rows) ∨
      (∃ refusal bucket, Overlong tree limit directory bucket ∧
        refusal = LookupError.chainTooLong bucket limit) ∨
          ∃ error, ListFails tree limit directory error := by
    rcases list_ends tree limit directory with h | ⟨bucket, h⟩ | h
    · exact .inl h
    · exact .inr (.inl ⟨_, bucket, h, rfl⟩)
    · exact .inr (.inr h)
  obtain ⟨hlists, hrefuses, hfails⟩ := result_iff
    (fun rows => (list_eq_ok_iff rows).2)
    (fun refusal ⟨bucket, h, hrefusal⟩ => (list_of_overlong h).trans (by rw [hrefusal]))
    (fun error => list_of_listFails) hends
  obtain ⟨asked, hasked, hrun⟩ := asksInWalk_list tree limit directory 0
  refine ⟨⟨?_, exists_list_of_listable⟩, hlists, hrefuses, hfails, asked, hasked, ?_⟩
  · rintro ⟨rows, hrows⟩ bucket hbucket
    exact listable_of_lists ((hlists rows).1 hrows) hbucket
  · rw [hrun, Nat.zero_add]

/-- A root directory with one object, whose link leads back to itself. -/
def cyclicTable : ObjectTable where
  root := some 1
  directoryType := some 7
  objects := .ofList [(1, ⟨none, 7, .ofList [(5, 0x10)]⟩), (2, ⟨some "Device", 7, .empty⟩)]
  links := .ofList [(0x10, ⟨2, some 0x10⟩)]

example : (cyclicTable.tree.list 3 1).run = .ok (.error (.chainTooLong 5 3)) := rfl

end KernelScope.ObjectTree
