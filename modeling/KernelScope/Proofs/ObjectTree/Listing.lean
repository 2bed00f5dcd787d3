import KernelScope.ObjectTree.Table
import KernelScope.Proofs.ObjectTree.Lookup

/-!
# Listing a directory

A directory whose buckets can all be read, and end within the limit, is a list of entries.  A walk
over it does what its visitor does over that list, one entry after the other
(`walk_of_enumerates`).  `find` and `list` walk with different visitors and stop for different
reasons, so both are led back to the list: what `find` finds is the first of the entries with the
name (`find_of_enumerates`), and a listing has a row for each entry (`list_of_enumerates`).
-/

set_option autoImplicit false

namespace KernelScope.ObjectTree

variable {ε σ : Type}

/-! ## The entries of a directory -/

/-- The entries of several buckets, each with the number of its bucket. -/
def numbered (held : Nat → List Entry) (buckets : List Nat) : List (Nat × Entry) :=
  buckets.flatMap fun bucket => (held bucket).map fun entry => (bucket, entry)

section Entries

variable (tree : ObjectTree (Except ε)) (limit : Nat) (directory : Address)

/-- All of a bucket can be read and is within the limit, and these are its entries. -/
def Fills (bucket : Nat) (entries : List Entry) : Prop :=
  ∃ head, tree.bucketHead directory bucket = .ok head ∧ Chain tree head entries none ∧
    entries.length ≤ limit

/-- All buckets of a directory can be read and are within the limit, and these are their entries,
in the order of buckets and then of links. -/
def Enumerates (entries : List (Nat × Entry)) : Prop :=
  ∃ held, (∀ bucket < bucketCount, Fills tree limit directory bucket (held bucket)) ∧
    entries = numbered held (List.range bucketCount)

/-- The row of a listing for an entry. -/
def rowOf (entry : Nat × Entry) : Except ε Row :=
  (tree.isDirectory entry.2.object).map fun isDirectory =>
    ⟨entry.1, entry.2.name, entry.2.object, isDirectory⟩

end Entries

section Reading

variable {tree : ObjectTree (Except ε)} {limit : Nat} {directory : Address}

/-- Every entry of a chain has been read at an address. -/
theorem Chain.exists_reads {start stop : Option Address} {entries : List Entry} {entry : Entry}
    (hchain : Chain tree start entries stop) (hentry : entry ∈ entries) :
    ∃ address, Reads tree address entry := by
  induction hchain with
  | nil => cases hentry
  | @cons address first _ _ hread _ ih =>
    rcases List.mem_cons.1 hentry with rfl | hlater
    · exact ⟨address, hread⟩
    · exact ih hlater

/-- The header of the object of every entry can be read. -/
theorem Enumerates.exists_header {entries : List (Nat × Entry)}
    (h : Enumerates tree limit directory entries) {entry : Nat × Entry} (hentry : entry ∈ entries) :
    ∃ header, tree.header entry.2.object = .ok header := by
  obtain ⟨held, hfills, rfl⟩ := h
  obtain ⟨bucket, hbucket, hmem⟩ := List.mem_flatMap.1 hentry
  obtain ⟨held', hheld, rfl⟩ := List.mem_map.1 hmem
  obtain ⟨head, -, hchain, -⟩ := hfills bucket (List.mem_range.1 hbucket)
  obtain ⟨address, hread⟩ := hchain.exists_reads hheld
  cases hread with
  | intro hlink hheader hname => exact ⟨_, hheader⟩

/-- Buckets that can each be read to their end make up the entries of a directory. -/
theorem exists_enumerates
    (h : ∀ bucket < bucketCount, ∃ entries, Fills tree limit directory bucket entries) :
    ∃ entries, Enumerates tree limit directory entries := by
  have hfills : ∀ bucket, ∃ entries,
      bucket < bucketCount → Fills tree limit directory bucket entries := by
    intro bucket
    by_cases hbucket : bucket < bucketCount
    · obtain ⟨entries, hentries⟩ := h bucket hbucket
      exact ⟨entries, fun _ => hentries⟩
    · exact ⟨[], fun hlt => absurd hlt hbucket⟩
  obtain ⟨held, hheld⟩ := Classical.skolem.1 hfills
  exact ⟨_, held, hheld, rfl⟩

/-- A directory that lacks a name has been read to its end. -/
theorem enumerates_of_absent {name : String} (h : Absent tree limit directory name) :
    ∃ entries, Enumerates tree limit directory entries := by
  apply exists_enumerates
  intro bucket hbucket
  obtain ⟨head, entries, hhead, hchain, hlength, -⟩ := h bucket hbucket
  exact ⟨entries, head, hhead, hchain, hlength⟩

end Reading

/-! ## Visits to a list of entries -/

/-- What a visitor does over a list of entries. -/
def visitEntries (visit : Visitor (Except ε) σ) :
    σ → List (Nat × Entry) → Except ε (ForInStep σ)
  | state, [] => .ok (.yield state)
  | state, entry :: entries =>
    match visit state entry.1 entry.2 with
    | .error error => .error error
    | .ok (.done last) => .ok (.done last)
    | .ok (.yield next) => visitEntries visit next entries

section Visits

variable {tree : ObjectTree (Except ε)} {visit : Visitor (Except ε) σ} {limit : Nat}
  {directory : Address}

/-- A list is visited to its end only if the visitor goes on behind its first part. -/
theorem visitEntries_append (front back : List (Nat × Entry)) (state : σ) :
    visitEntries visit state (front ++ back) =
      match visitEntries visit state front with
      | .error error => .error error
      | .ok (.done last) => .ok (.done last)
      | .ok (.yield next) => visitEntries visit next back := by
  induction front generalizing state with
  | nil => rfl
  | cons entry front ih =>
    rw [List.cons_append, visitEntries, visitEntries]
    cases visit state entry.1 entry.2 with
    | error error => rfl
    | ok step =>
      cases step with
      | done last => rfl
      | yield next => exact ih next

/-- A walk over a chain that can be read to its end visits its entries. -/
theorem walkChain_of_chain {bucket room : Nat} {start : Option Address} {entries : List Entry}
    (hchain : Chain tree start entries none) (hroom : entries.length ≤ room) (state : σ) :
    (tree.walkChain visit limit bucket room start state).run =
      (visitEntries visit state (entries.map fun entry => (bucket, entry))).map .ok := by
  induction entries generalizing room start state with
  | nil =>
    cases hchain
    exact walkChain_none tree visit limit bucket room state
  | cons entry entries ih =>
    cases hchain with
    | cons hread hrest =>
      obtain ⟨left, rfl⟩ := Nat.exists_eq_succ_of_ne_zero
        (Nat.ne_of_gt (Nat.lt_of_lt_of_le (Nat.succ_pos _) hroom))
      have hleft : entries.length ≤ left := Nat.le_of_succ_le_succ hroom
      rw [List.map_cons, visitEntries]
      cases hvisit : visit state bucket entry with
      | error error =>
        rw [walkChain, run_ask_ok ((entry_eq_ok_iff tree _ entry).2 hread), run_ask_error hvisit]
        rfl
      | ok step =>
        cases step with
        | done last => exact walkChain_done limit hread hvisit
        | yield next => rw [walkChain_yield limit hread hvisit, ih hrest hleft]

/-- A walk over buckets that can be read to their ends visits their entries. -/
theorem walkBuckets_of_fills {held : Nat → List Entry} {buckets : List Nat}
    (hfills : ∀ bucket ∈ buckets, Fills tree limit directory bucket (held bucket)) (state : σ) :
    (tree.walkBuckets visit limit directory buckets state).run =
      (visitEntries visit state (numbered held buckets)).map fun step => .ok step.value := by
  induction buckets generalizing state with
  | nil => rfl
  | cons bucket buckets ih =>
    obtain ⟨head, hhead, hchain, hlength⟩ := hfills bucket List.mem_cons_self
    have hwalk : (tree.walkChain visit limit bucket limit head state).run =
        (visitEntries visit state ((held bucket).map fun entry => (bucket, entry))).map .ok :=
      walkChain_of_chain hchain hlength state
    have hrest := ih fun other hother => hfills other (List.mem_cons_of_mem _ hother)
    rw [numbered, List.flatMap_cons, visitEntries_append, walkBuckets, run_ask_ok hhead]
    cases hvisit : visitEntries visit state
        ((held bucket).map fun entry => (bucket, entry)) with
    | error error =>
      rw [hvisit] at hwalk
      rw [run_bind_error hwalk]
      rfl
    | ok step =>
      rw [hvisit] at hwalk
      rw [run_bind_ok hwalk]
      cases step with
      | done last => rfl
      | yield next => exact hrest next

/-- A walk over a directory that can be read to its end visits its entries. -/
theorem walk_of_enumerates {entries : List (Nat × Entry)}
    (h : Enumerates tree limit directory entries) (state : σ) :
    (tree.walk visit limit directory state).run =
      (visitEntries visit state entries).map fun step => .ok step.value := by
  obtain ⟨held, hfills, rfl⟩ := h
  exact walkBuckets_of_fills (fun bucket hmem => hfills bucket (List.mem_range.1 hmem)) state

/-- A visitor that never ends a walk leads it through all buckets, and these can be read to their
ends. -/
theorem fills_of_walkBuckets
    (hgoesOn : ∀ state bucket entry last, visit state bucket entry ≠ .ok (.done last))
    {buckets : List Nat} {state last : σ}
    (hwalk : (tree.walkBuckets visit limit directory buckets state).run = .ok (.ok last)) :
    ∀ bucket ∈ buckets, ∃ entries, Fills tree limit directory bucket entries := by
  induction buckets generalizing state with
  | nil => simp
  | cons bucket buckets ih =>
    cases hhead : tree.bucketHead directory bucket with
    | error error =>
      rw [walkBuckets, run_ask_error hhead] at hwalk
      cases hwalk
    | ok head =>
      obtain ⟨entries, stop, next, left, hchain, hpasses, hroom, hrest⟩ :=
        exists_atRest tree visit bucket limit head state
      have hbehind := walkChain_append limit hchain hpasses left
      rw [hroom] at hbehind
      rw [walkBuckets, run_ask_ok hhead] at hwalk
      cases hrest with
      | ended =>
        rw [walkChain_none] at hbehind
        rw [run_bind_ok hbehind] at hwalk
        intro other hother
        rcases List.mem_cons.1 hother with rfl | hlater
        · exact ⟨entries, head, hhead, hchain, by omega⟩
        · exact ih hwalk other hlater
      | exhausted address =>
        rw [walkChain_zero] at hbehind
        rw [run_bind_refused hbehind] at hwalk
        cases hwalk
      | unreadable room _ hentry =>
        rw [walkChain_unreadable limit hentry] at hbehind
        rw [run_bind_error hbehind] at hwalk
        cases hwalk
      | @stopped room address _ entry hread hstops =>
        cases hvisit : visit next bucket entry with
        | error error =>
          rw [walkChain, run_ask_ok ((entry_eq_ok_iff tree _ entry).2 hread),
            run_ask_error hvisit] at hbehind
          rw [run_bind_error hbehind] at hwalk
          cases hwalk
        | ok step =>
          cases step with
          | done final => exact absurd hvisit (hgoesOn next bucket entry final)
          | yield after => exact absurd hvisit (hstops after)

end Visits

/-! ## Finding and listing -/

section Finding

variable {tree : ObjectTree (Except ε)} {limit : Nat} {directory : Address}

/-- Looking for a name ends at the first entry that has it. -/
theorem visitEntries_seek (name : String) (entries : List (Nat × Entry)) :
    visitEntries (seek (ε := ε) name) none entries =
      .ok (match entries.find? fun entry => Text.lowerCase entry.2.name = Text.lowerCase name with
        | some entry => .done (some entry.2.object)
        | none => .yield none) := by
  induction entries with
  | nil => rfl
  | cons entry entries ih =>
    rw [visitEntries]
    by_cases hname : Matches name entry.2
    · have hfirst : Text.lowerCase entry.2.name = Text.lowerCase name := hname
      rw [seek_of_matches hname, List.find?_cons, decide_eq_true hfirst]
    · have hother : ¬ Text.lowerCase entry.2.name = Text.lowerCase name := hname
      rw [seek_of_not_matches hname, List.find?_cons, decide_eq_false hother]
      exact ih

/-- What is found in a directory is the first of its entries with the name. -/
theorem find_of_enumerates {entries : List (Nat × Entry)}
    (h : Enumerates tree limit directory entries) (name : String) :
    (tree.find limit directory name).run =
      .ok (.ok ((entries.find? fun entry =>
        Text.lowerCase entry.2.name = Text.lowerCase name).map fun entry => entry.2.object)) := by
  rw [find, walk_of_enumerates h, visitEntries_seek]
  cases entries.find? fun entry => Text.lowerCase entry.2.name = Text.lowerCase name <;> rfl

/-- Listing adds a row for each entry, up to the first of which it cannot be told whether it is a
directory. -/
theorem visitEntries_visitRow (entries : List (Nat × Entry)) (rows : Array Row) :
    visitEntries tree.visitRow rows entries =
      (entries.mapM tree.rowOf).map fun more => .yield (rows ++ more.toArray) := by
  induction entries generalizing rows with
  | nil => simp [visitEntries, pure, Except.pure, Except.map]
  | cons entry entries ih =>
    rw [visitEntries, List.mapM_cons, visitRow, rowOf]
    cases tree.isDirectory entry.2.object with
    | error error => rfl
    | ok isDirectory =>
      change visitEntries tree.visitRow
        (rows.push ⟨entry.1, entry.2.name, entry.2.object, isDirectory⟩) entries = _
      rw [ih]
      cases entries.mapM tree.rowOf with
      | error error => rfl
      | ok more => simp [bind, Except.bind, pure, Except.pure, Except.map]

/-- A listing of a directory has a row for each entry, or fails at the first of which it cannot be
told whether it is a directory. -/
theorem list_of_enumerates {entries : List (Nat × Entry)}
    (h : Enumerates tree limit directory entries) :
    (tree.list limit directory).run = (entries.mapM tree.rowOf).map .ok := by
  have hwalk : (tree.walk tree.visitRow limit directory #[]).run =
      (visitEntries tree.visitRow #[] entries).map fun step => .ok step.value :=
    walk_of_enumerates h #[]
  rw [visitEntries_visitRow] at hwalk
  rw [list]
  cases hrows : entries.mapM tree.rowOf with
  | error error =>
    rw [hrows] at hwalk
    rw [run_bind_error hwalk]
    rfl
  | ok rows =>
    rw [hrows] at hwalk
    rw [run_bind_ok hwalk]
    simp [ForInStep.value, Except.map, pure, ExceptT.pure, ExceptT.mk, ExceptT.run, Except.pure]

/-- Listing never ends a walk. -/
theorem visitRow_ne_done (rows : Array Row) (bucket : Nat) (entry : Entry) (last : Array Row) :
    tree.visitRow rows bucket entry ≠ .ok (.done last) := by
  unfold visitRow
  cases tree.isDirectory entry.object <;> simp [bind, Except.bind, pure, Except.pure]

/-- A directory that can be listed has been read to its end. -/
theorem enumerates_of_list {rows : List Row}
    (h : (tree.list limit directory).run = .ok (.ok rows)) :
    ∃ entries, Enumerates tree limit directory entries ∧ entries.mapM tree.rowOf = .ok rows := by
  cases hwalk : (tree.walk tree.visitRow limit directory #[]).run with
  | error error =>
    rw [list, run_bind_error hwalk] at h
    cases h
  | ok result =>
    cases result with
    | error refusal =>
      rw [list, run_bind_refused hwalk] at h
      cases h
    | ok last =>
      have hfills := fills_of_walkBuckets visitRow_ne_done hwalk
      obtain ⟨entries, henumerates⟩ := exists_enumerates
        fun bucket hbucket => hfills bucket (List.mem_range.2 hbucket)
      refine ⟨entries, henumerates, ?_⟩
      rw [list_of_enumerates henumerates] at h
      cases hrows : entries.mapM tree.rowOf with
      | error error =>
        rw [hrows] at h
        cases h
      | ok others =>
        rw [hrows] at h
        cases h
        rfl

end Finding

/-! ## Rows and entries -/

section Rows

variable {tree : ObjectTree (Except ε)} {limit : Nat} {directory : Address}

theorem mapM_cons_eq_ok {α β : Type} {f : α → Except ε β} {a : α} {rest : List α}
    {results : List β} (h : (a :: rest).mapM f = .ok results) :
    ∃ result others, f a = .ok result ∧ rest.mapM f = .ok others ∧ results = result :: others := by
  rw [List.mapM_cons] at h
  cases hfirst : f a with
  | error error =>
    rw [hfirst] at h
    cases h
  | ok result =>
    cases hrest : rest.mapM f with
    | error error =>
      rw [hfirst, hrest] at h
      cases h
    | ok others =>
      rw [hfirst, hrest] at h
      cases h
      exact ⟨result, others, rfl, rfl, rfl⟩

/-- Where not every item has a result, one of them has the error. -/
theorem exists_error_of_mapM {α β : Type} {f : α → Except ε β} {items : List α} {error : ε}
    (h : items.mapM f = .error error) : ∃ item ∈ items, f item = .error error := by
  induction items with
  | nil => cases h
  | cons a rest ih =>
    rw [List.mapM_cons] at h
    cases hfirst : f a with
    | error other =>
      rw [hfirst] at h
      cases h
      exact ⟨a, List.mem_cons_self, hfirst⟩
    | ok result =>
      rw [hfirst] at h
      cases hrest : rest.mapM f with
      | error other =>
        rw [hrest] at h
        cases h
        obtain ⟨item, hitem, hfails⟩ := ih hrest
        exact ⟨item, List.mem_cons_of_mem _ hitem, hfails⟩
      | ok others =>
        rw [hrest] at h
        cases h

/-- The row of an entry shows the entry, and whether its object is a directory. -/
theorem rowOf_eq_ok {entry : Nat × Entry} {row : Row} (h : tree.rowOf entry = .ok row) :
    row.name = entry.2.name ∧ row.object = entry.2.object ∧
      tree.isDirectory row.object = .ok row.isDirectory := by
  unfold rowOf at h
  cases hanswer : tree.isDirectory entry.2.object with
  | error error =>
    rw [hanswer] at h
    cases h
  | ok isDirectory =>
    rw [hanswer] at h
    cases h
    exact ⟨rfl, rfl, hanswer⟩

/-- It cannot be told whether an object with a header is a directory only where its type does not
tell. -/
theorem rowOf_eq_error {entry : Nat × Entry} {header : ObjectHeader} {error : ε}
    (hheader : tree.header entry.2.object = .ok header) (h : tree.rowOf entry = .error error) :
    tree.isDirectoryType header.type = .error error := by
  rw [rowOf, isDirectory, hheader] at h
  change (tree.isDirectoryType header.type).map _ = _ at h
  cases htype : tree.isDirectoryType header.type with
  | error other =>
    rw [htype] at h
    cases h
    rfl
  | ok answer =>
    rw [htype] at h
    cases h

/-- The first row with a name is the row of the first entry with the name. -/
theorem find?_rows {entries : List (Nat × Entry)} {rows : List Row}
    (h : entries.mapM tree.rowOf = .ok rows) (name : String) :
    (entries.find? fun entry =>
        Text.lowerCase entry.2.name = Text.lowerCase name).map (fun entry => entry.2.object) =
      (rows.find? fun row => Text.lowerCase row.name = Text.lowerCase name).map (·.object) := by
  induction entries generalizing rows with
  | nil =>
    cases h
    rfl
  | cons entry entries ih =>
    obtain ⟨row, others, hrow, hothers, rfl⟩ := mapM_cons_eq_ok h
    obtain ⟨hname, hobject, -⟩ := rowOf_eq_ok hrow
    rw [List.find?_cons, List.find?_cons, hname]
    by_cases hfirst : Text.lowerCase entry.2.name = Text.lowerCase name
    · simp [hfirst, hobject]
    · simpa [hfirst] using ih hothers

/-- What is found in a directory that can be listed is the object of the first row with the
name. -/
theorem find_of_list {rows : List Row} (h : (tree.list limit directory).run = .ok (.ok rows))
    (name : String) :
    (tree.find limit directory name).run =
      .ok (.ok ((rows.find? fun row =>
        Text.lowerCase row.name = Text.lowerCase name).map (·.object))) := by
  obtain ⟨entries, henumerates, hrows⟩ := enumerates_of_list h
  rw [find_of_enumerates henumerates, find?_rows hrows]

/-- A listing of a directory that has been read to its end succeeds, or it fails as the type of an
entry does. -/
theorem list_ends_of_enumerates {entries : List (Nat × Entry)}
    (h : Enumerates tree limit directory entries) :
    (∃ rows, (tree.list limit directory).run = .ok (.ok rows)) ∨
      ∃ entry ∈ entries, ∃ header error, tree.header entry.2.object = .ok header ∧
        tree.isDirectoryType header.type = .error error ∧
          (tree.list limit directory).run = .error error := by
  rw [list_of_enumerates h]
  cases hrows : entries.mapM tree.rowOf with
  | ok rows => exact .inl ⟨rows, rfl⟩
  | error error =>
    obtain ⟨entry, hentry, hfails⟩ := exists_error_of_mapM hrows
    obtain ⟨header, hheader⟩ := h.exists_header hentry
    exact .inr ⟨entry, hentry, header, error, hheader, rowOf_eq_error hheader hfails, rfl⟩

/-! ## One name -/

/-- A path without separators is a single name. -/
theorem resolve_of_separator_notMem {name : String} (hname : ObjectPath.separator ∉ name.toList) :
    (tree.resolve limit directory name).run = (tree.find limit directory name).run := by
  have hnames : ObjectPath.names name = [name] := by
    have hsplit : name.toList.splitOn ObjectPath.separator = [name.toList] := by
      apply List.splitOnP_eq_singleton
      intro c hc
      rw [beq_eq_false_iff_ne]
      rintro rfl
      exact hname hc
    rw [ObjectPath.names, hsplit, List.map_singleton, String.ofList_toList]
  rw [resolve, hnames, resolveNames_single]

end Rows

/-- Resolving a single name agrees with the listing of the directory.  Where the listing succeeds,
the name resolves to the object of its first row with the name, or to nothing without such a row.
Where the name resolves to nothing, all buckets have been read to their ends within the limit, and
the listing succeeds, or else fails with what the type of some entry fails with. -/
theorem resolve_agrees_with_list (tree : ObjectTree (Except ε)) (limit : Nat) (directory : Address)
    {name : String} (hname : ObjectPath.separator ∉ name.toList) :
    (∀ rows, (tree.list limit directory).run = .ok (.ok rows) →
      (tree.resolve limit directory name).run =
        .ok (.ok ((rows.find? fun row =>
          Text.lowerCase row.name = Text.lowerCase name).map (·.object)))) ∧
    ((tree.resolve limit directory name).run = .ok (.ok none) →
      ∃ entries, Enumerates tree limit directory entries ∧
        ((∃ rows, (tree.list limit directory).run = .ok (.ok rows)) ∨
          ∃ entry ∈ entries, ∃ header error, tree.header entry.2.object = .ok header ∧
            tree.isDirectoryType header.type = .error error ∧
              (tree.list limit directory).run = .error error)) := by
  rw [resolve_of_separator_notMem hname]
  constructor
  · intro rows hlist
    exact find_of_list hlist name
  · intro hfind
    have habsent := (find_outcome tree limit directory name).2.1.1 hfind
    obtain ⟨entries, henumerates⟩ := enumerates_of_absent habsent
    exact ⟨entries, henumerates, list_ends_of_enumerates henumerates⟩

/-- A root with one directory in its fourth bucket. -/
def rootTable : ObjectTable where
  root := some 1
  directoryType := some 7
  objects := .ofList [(1, ⟨none, 7, .ofList [(3, 0x10)]⟩), (2, ⟨some "Device", 7, .empty⟩)]
  links := .ofList [(0x10, ⟨2, none⟩)]

set_option maxRecDepth 2000 in
/-- The directory of the table resolves as it is listed, and another name to nothing. -/
theorem resolve_agrees_with_list_rootTable :
    (rootTable.tree.resolve 1 1 "device").run = .ok (.ok (some 2)) ∧
      ∃ entries, Enumerates rootTable.tree 1 1 entries := by
  have hlist : (rootTable.tree.list 1 1).run = .ok (.ok [⟨3, "Device", 2, true⟩]) := rfl
  refine ⟨(resolve_agrees_with_list rootTable.tree 1 1 (by decide)).1 _ hlist, ?_⟩
  obtain ⟨entries, hentries, -⟩ := (resolve_agrees_with_list rootTable.tree 1 1
    (by decide : ObjectPath.separator ∉ "Driver".toList)).2 rfl
  exact ⟨entries, hentries⟩

end KernelScope.ObjectTree
