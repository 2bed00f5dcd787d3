import KernelScope.Proofs.ObjectTree.Walk

/-!
# Scanning a directory for a name

A scan goes through the buckets in order, and through each bucket link by link.  It has four ways to
end: at an entry with the name, behind the last bucket, at a link that may not be taken any more, or
at a question that the tree cannot answer.  Each is a relation on the tree, said without `find`, and
`find` ends in the way that holds (`find_outcome`).
-/

set_option autoImplicit false

namespace KernelScope.ObjectTree

variable {ε : Type}

/-- The name of the entry is the given one, without regard to case. -/
def Matches (name : String) (entry : Entry) : Prop :=
  Text.lowerCase entry.name = Text.lowerCase name

section Ways

variable (tree : ObjectTree (Except ε)) (limit : Nat) (directory : Address) (name : String)

/-! ## Ways to end -/

/-- All of a bucket is within the limit and can be read, and no entry in it has the name. -/
def Lacks (bucket : Nat) : Prop :=
  ∃ head entries, tree.bucketHead directory bucket = .ok head ∧ Chain tree head entries none ∧
    entries.length ≤ limit ∧ ∀ entry ∈ entries, ¬ Matches name entry

/-- The buckets before this one lack the name, and in this one `taken` entries that do not have the
name lead to `stop`. -/
def Reaches (bucket taken : Nat) (stop : Option Address) : Prop :=
  bucket < bucketCount ∧ (∀ earlier < bucket, Lacks tree limit directory name earlier) ∧
    ∃ head entries, tree.bucketHead directory bucket = .ok head ∧ Chain tree head entries stop ∧
      entries.length = taken ∧ ∀ entry ∈ entries, ¬ Matches name entry

/-- The first entry with the name leads to the object, and is among the first links of its
bucket. -/
def Scan (object : Address) : Prop :=
  ∃ bucket taken address entry, Reaches tree limit directory name bucket taken (some address) ∧
    taken < limit ∧ Reads tree address entry ∧ Matches name entry ∧ entry.object = object

/-- All buckets lack the name. -/
def Absent : Prop := ∀ bucket < bucketCount, Lacks tree limit directory name bucket

/-- A bucket still has a link behind as many entries as may be taken from it. -/
def TooLong (bucket : Nat) : Prop :=
  ∃ address, Reaches tree limit directory name bucket limit (some address)

/-- The head of a bucket, or an entry that may be taken from it, cannot be read. -/
def ScanFails (error : ε) : Prop :=
  ∃ bucket < bucketCount, (∀ earlier < bucket, Lacks tree limit directory name earlier) ∧
    (tree.bucketHead directory bucket = .error error ∨
      ∃ taken address, Reaches tree limit directory name bucket taken (some address) ∧
        taken < limit ∧ Unreadable tree address error)

end Ways

/-! ## One bucket -/

section Bucket

variable {tree : ObjectTree (Except ε)} {limit : Nat} {directory : Address} {name : String}

/-- The visitor that looks for a name. -/
abbrev seek (name : String) : Visitor (Except ε) (Option Address) :=
  visitName (Text.lowerCase name)

theorem seek_of_matches {entry : Entry} (hname : Matches name entry) (bucket : Nat)
    (found : Option Address) :
    seek (ε := ε) name found bucket entry = .ok (.done (some entry.object)) := by
  unfold Matches at hname
  simp [visitName, hname, pure, Except.pure]

theorem seek_of_not_matches {entry : Entry} (hname : ¬ Matches name entry) (bucket : Nat)
    (found : Option Address) : seek (ε := ε) name found bucket entry = .ok (.yield found) := by
  unfold Matches at hname
  simp [visitName, hname, pure, Except.pure]

theorem passes_seek_iff {bucket : Nat} {entries : List Entry} {found next : Option Address} :
    Passes (seek (ε := ε) name) bucket found entries next ↔
      next = found ∧ ∀ entry ∈ entries, ¬ Matches name entry := by
  induction entries with
  | nil =>
    constructor
    · rintro ⟨⟩
      simp
    · rintro ⟨rfl, _⟩
      exact .nil _
  | cons entry entries ih =>
    constructor
    · intro hpasses
      cases hpasses with
      | cons hvisit hrest =>
        by_cases hname : Matches name entry
        · rw [seek_of_matches hname] at hvisit
          cases hvisit
        · rw [seek_of_not_matches hname] at hvisit
          cases hvisit
          obtain ⟨hnext, hentries⟩ := ih.1 hrest
          exact ⟨hnext, by simpa [hname] using hentries⟩
    · rintro ⟨hnext, hentries⟩
      have hname : ¬ Matches name entry := hentries entry List.mem_cons_self
      have hrest := ih.2 ⟨hnext, fun other hother => hentries other (List.mem_cons_of_mem _ hother)⟩
      exact .cons (seek_of_not_matches hname bucket found) hrest

/-- A bucket that lacks the name is passed with nothing found. -/
theorem passesBucket_of_lacks {bucket : Nat} (h : Lacks tree limit directory name bucket) :
    PassesBucket tree (seek name) limit directory (· = none) bucket := by
  obtain ⟨head, entries, hhead, hchain, hlength, hentries⟩ := h
  refine ⟨head, entries, hhead, hchain, hlength, ?_⟩
  rintro state rfl
  exact ⟨none, rfl, passes_seek_iff.2 ⟨rfl, hentries⟩⟩

/-- A scan of all buckets comes to any bucket before which the name is lacking. -/
theorem find_eq_walkBuckets {bucket : Nat} (hbucket : bucket < bucketCount)
    (hearlier : ∀ earlier < bucket, Lacks tree limit directory name earlier) :
    ∃ later, (tree.walk (seek name) limit directory none).run =
      (tree.walkBuckets (seek name) limit directory (bucket :: later) none).run := by
  obtain ⟨_, later, rfl, hwalk⟩ := walk_eq_walkBuckets hbucket
    (fun earlier hlt => passesBucket_of_lacks (hearlier earlier hlt)) rfl
  exact ⟨later, hwalk⟩

/-! ## The scan ends in the way that holds -/

theorem find_of_scan {object : Address} (h : Scan tree limit directory name object) :
    (tree.find limit directory name).run = .ok (.ok (some object)) := by
  obtain ⟨bucket, taken, address, entry, hreaches, htaken, hread, hname, rfl⟩ := h
  obtain ⟨hbucket, hearlier, head, entries, hhead, hchain, rfl, hentries⟩ := hreaches
  obtain ⟨later, hwalk⟩ := find_eq_walkBuckets hbucket hearlier
  exact walk_of_done hwalk hhead (passes_seek_iff.2 ⟨rfl, hentries⟩) hchain htaken hread
    (seek_of_matches hname bucket none)

theorem find_of_absent (h : Absent tree limit directory name) :
    (tree.find limit directory name).run = .ok (.ok none) := by
  obtain ⟨_, rfl, hwalk⟩ := walk_of_passesBuckets
    (fun bucket hbucket => passesBucket_of_lacks (h bucket hbucket)) rfl
  exact hwalk

theorem find_of_tooLong {bucket : Nat} (h : TooLong tree limit directory name bucket) :
    (tree.find limit directory name).run = .ok (.error (.chainTooLong bucket limit)) := by
  obtain ⟨address, hbucket, hearlier, head, entries, hhead, hchain, hlength, hentries⟩ := h
  obtain ⟨later, hwalk⟩ := find_eq_walkBuckets hbucket hearlier
  exact walk_of_exhausted hwalk hhead (passes_seek_iff.2 ⟨rfl, hentries⟩) hchain hlength

theorem find_of_scanFails {error : ε} (h : ScanFails tree limit directory name error) :
    (tree.find limit directory name).run = .error error := by
  obtain ⟨bucket, hbucket, hearlier, hhead | ⟨taken, address, hreaches, htaken, hentry⟩⟩ := h
  · obtain ⟨later, hwalk⟩ := find_eq_walkBuckets hbucket hearlier
    exact walk_of_head_error hwalk hhead
  · obtain ⟨_, _, head, entries, hhead, hchain, rfl, hentries⟩ := hreaches
    obtain ⟨later, hwalk⟩ := find_eq_walkBuckets hbucket hearlier
    exact walk_of_unreadable hwalk hhead (passes_seek_iff.2 ⟨rfl, hentries⟩) hchain htaken hentry

/-- In a bucket that does not lack the name the scan ends, in one of the other three ways. -/
theorem ends_of_not_lacks {bucket : Nat} (hbucket : bucket < bucketCount)
    (hearlier : ∀ earlier < bucket, Lacks tree limit directory name earlier)
    (hhere : ¬ Lacks tree limit directory name bucket) :
    (∃ object, Scan tree limit directory name object) ∨
      TooLong tree limit directory name bucket ∨
        ∃ error, ScanFails tree limit directory name error := by
  cases hhead : tree.bucketHead directory bucket with
  | error error => exact .inr (.inr ⟨error, bucket, hbucket, hearlier, .inl hhead⟩)
  | ok head =>
    obtain ⟨entries, stop, next, left, hchain, hpasses, hroom, hrest⟩ :=
      exists_atRest tree (seek name) bucket limit head none
    obtain ⟨rfl, hentries⟩ := passes_seek_iff.1 hpasses
    have hreaches : Reaches tree limit directory name bucket entries.length stop :=
      ⟨hbucket, hearlier, head, entries, hhead, hchain, rfl, hentries⟩
    cases hrest with
    | ended =>
      exact absurd ⟨head, entries, hhead, hchain, by omega, hentries⟩ hhere
    | exhausted address =>
      rw [show entries.length = limit from by omega] at hreaches
      exact .inr (.inl ⟨address, hreaches⟩)
    | @unreadable room _ address error hentry =>
      exact .inr (.inr ⟨error, bucket, hbucket, hearlier,
        .inr ⟨entries.length, address, hreaches, by omega, hentry⟩⟩)
    | @stopped room address _ entry hread hvisit =>
      by_cases hname : Matches name entry
      · exact .inl ⟨entry.object, bucket, entries.length, address, entry, hreaches, by omega,
          hread, hname, rfl⟩
      · exact absurd (seek_of_not_matches hname bucket none) (hvisit none)

/-- Every scan ends in one of the four ways. -/
theorem scan_ends (tree : ObjectTree (Except ε)) (limit : Nat) (directory : Address)
    (name : String) :
    (∃ object, Scan tree limit directory name object) ∨ Absent tree limit directory name ∨
      (∃ bucket, TooLong tree limit directory name bucket) ∨
        ∃ error, ScanFails tree limit directory name error := by
  rcases all_or_first (Lacks tree limit directory name) bucketCount with
    habsent | ⟨bucket, hbucket, hhere, hearlier⟩
  · exact .inr (.inl habsent)
  · rcases ends_of_not_lacks hbucket hearlier hhere with hscan | htooLong | hfails
    · exact .inl hscan
    · exact .inr (.inr (.inl ⟨bucket, htooLong⟩))
    · exact .inr (.inr (.inr hfails))

/-- `find` ends in just the way that the scan does. -/
theorem find_outcome (tree : ObjectTree (Except ε)) (limit : Nat) (directory : Address)
    (name : String) :
    (∀ object, (tree.find limit directory name).run = .ok (.ok (some object)) ↔
      Scan tree limit directory name object) ∧
    ((tree.find limit directory name).run = .ok (.ok none) ↔
      Absent tree limit directory name) ∧
    (∀ refusal, (tree.find limit directory name).run = .ok (.error refusal) ↔
      ∃ bucket, TooLong tree limit directory name bucket ∧
        refusal = .chainTooLong bucket limit) ∧
    (∀ error, (tree.find limit directory name).run = .error error ↔
      ScanFails tree limit directory name error) := by
  apply outcome_iff
  · intro object
    exact find_of_scan
  · exact find_of_absent
  · rintro refusal ⟨bucket, htooLong, rfl⟩
    exact find_of_tooLong htooLong
  · intro error
    exact find_of_scanFails
  · rcases scan_ends tree limit directory name with h | h | ⟨bucket, h⟩ | h
    · exact .inl h
    · exact .inr (.inl h)
    · exact .inr (.inr (.inl ⟨_, bucket, h, rfl⟩))
    · exact .inr (.inr (.inr h))

end Bucket

end KernelScope.ObjectTree
