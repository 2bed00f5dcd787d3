import KernelScope.ObjectTree.Lookup

/-!
# Walks over chains and buckets

Which entries a chain holds is a relation, `Chain`, that does not mention walks.  A walk over a
chain passes the entries at which its visitor goes on (`walkChain_append`) and comes to rest behind
them (`exists_atRest`); the two together decide what any walk does.

The trees here answer at once or fail, so they answer a question the same way each time.
-/

set_option autoImplicit false

namespace KernelScope.ObjectTree

variable {ε σ : Type}

/-! ## Answers in a walk -/

section Answers

variable {α β : Type}

theorem run_ask_ok {answer : Except ε α} {a : α} (h : answer = .ok a)
    (rest : α → ExceptT LookupError (Except ε) β) :
    ExceptT.run (liftM answer >>= rest) = (rest a).run := by
  subst h
  rfl

theorem run_ask_error {answer : Except ε α} {error : ε} (h : answer = .error error)
    (rest : α → ExceptT LookupError (Except ε) β) :
    ExceptT.run (liftM answer >>= rest) = .error error := by
  subst h
  rfl

theorem run_bind_ok {first : ExceptT LookupError (Except ε) α} {a : α}
    (h : first.run = .ok (.ok a)) (rest : α → ExceptT LookupError (Except ε) β) :
    (first >>= rest).run = (rest a).run := by
  rw [ExceptT.run_bind, h]
  rfl

theorem run_bind_refused {first : ExceptT LookupError (Except ε) α} {refusal : LookupError}
    (h : first.run = .ok (.error refusal)) (rest : α → ExceptT LookupError (Except ε) β) :
    (first >>= rest).run = .ok (.error refusal) := by
  rw [ExceptT.run_bind, h]
  rfl

theorem run_bind_error {first : ExceptT LookupError (Except ε) α} {error : ε}
    (h : first.run = .error error) (rest : α → ExceptT LookupError (Except ε) β) :
    (first >>= rest).run = .error error := by
  rw [ExceptT.run_bind, h]
  rfl

/-- Ways to end that each force their result, and of which one always holds, are what the results
mean: a result comes about exactly when its way holds. -/
theorem result_iff {result : Except ε (Except LookupError α)} {Comes : α → Prop}
    {Refuses : LookupError → Prop} {Fails : ε → Prop}
    (hcomes : ∀ a, Comes a → result = .ok (.ok a))
    (hrefuses : ∀ refusal, Refuses refusal → result = .ok (.error refusal))
    (hfails : ∀ error, Fails error → result = .error error)
    (hends : (∃ a, Comes a) ∨ (∃ refusal, Refuses refusal) ∨ ∃ error, Fails error) :
    (∀ a, result = .ok (.ok a) ↔ Comes a) ∧
      (∀ refusal, result = .ok (.error refusal) ↔ Refuses refusal) ∧
        ∀ error, result = .error error ↔ Fails error := by
  refine ⟨fun a => ⟨fun h => ?_, hcomes a⟩, fun refusal => ⟨fun h => ?_, hrefuses refusal⟩,
    fun error => ⟨fun h => ?_, hfails error⟩⟩
  all_goals
    rcases hends with ⟨a', hway⟩ | ⟨refusal', hway⟩ | ⟨error', hway⟩
  · have heq : a' = a := by simpa [hcomes a' hway] using h
    exact heq ▸ hway
  · simp [hrefuses refusal' hway] at h
  · simp [hfails error' hway] at h
  · simp [hcomes a' hway] at h
  · have heq : refusal' = refusal := by simpa [hrefuses refusal' hway] using h
    exact heq ▸ hway
  · simp [hfails error' hway] at h
  · simp [hcomes a' hway] at h
  · simp [hrefuses refusal' hway] at h
  · have heq : error' = error := by simpa [hfails error' hway] using h
    exact heq ▸ hway

/-- A search comes to something, or to nothing. -/
def Found (Finds : α → Prop) (Misses : Prop) : Option α → Prop
  | some a => Finds a
  | none => Misses

/-- The same of a search, which may also find nothing. -/
theorem outcome_iff {result : Except ε (Except LookupError (Option α))} {Finds : α → Prop}
    {Misses : Prop} {Refuses : LookupError → Prop} {Fails : ε → Prop}
    (hfinds : ∀ a, Finds a → result = .ok (.ok (some a)))
    (hmisses : Misses → result = .ok (.ok none))
    (hrefuses : ∀ refusal, Refuses refusal → result = .ok (.error refusal))
    (hfails : ∀ error, Fails error → result = .error error)
    (hends : (∃ a, Finds a) ∨ Misses ∨ (∃ refusal, Refuses refusal) ∨ ∃ error, Fails error) :
    (∀ a, result = .ok (.ok (some a)) ↔ Finds a) ∧ (result = .ok (.ok none) ↔ Misses) ∧
      (∀ refusal, result = .ok (.error refusal) ↔ Refuses refusal) ∧
        ∀ error, result = .error error ↔ Fails error := by
  have hcomes : ∀ found, Found Finds Misses found → result = .ok (.ok found) := by
    intro found hfound
    cases found with
    | some a => exact hfinds a hfound
    | none => exact hmisses hfound
  have hends : (∃ found, Found Finds Misses found) ∨ (∃ refusal, Refuses refusal) ∨
      ∃ error, Fails error := by
    rcases hends with ⟨a, hway⟩ | hway | hway
    · exact .inl ⟨some a, hway⟩
    · exact .inl ⟨none, hway⟩
    · exact .inr hway
  obtain ⟨hfound, hrefused, hfailed⟩ := result_iff hcomes hrefuses hfails hends
  exact ⟨fun a => hfound (some a), hfound none, hrefused, hfailed⟩

end Answers

/-! ## Entries -/

/-- The link at the address, the header of its object and the object's name can all be read. -/
inductive Reads (tree : ObjectTree (Except ε)) : Address → Entry → Prop where
  | intro {address : Address} {link : Link} {header : ObjectHeader} {name : String}
      (hlink : tree.link address = .ok link) (hheader : tree.header link.object = .ok header)
      (hname : tree.name header = .ok name) :
      Reads tree address ⟨name, link.object, link.next⟩

/-- One of the three reads fails, and those before it do not. -/
inductive Unreadable (tree : ObjectTree (Except ε)) (address : Address) (error : ε) : Prop where
  | link (hlink : tree.link address = .error error)
  | header {link : Link} (hlink : tree.link address = .ok link)
      (hheader : tree.header link.object = .error error)
  | name {link : Link} {header : ObjectHeader} (hlink : tree.link address = .ok link)
      (hheader : tree.header link.object = .ok header) (hname : tree.name header = .error error)

theorem entry_eq_ok_iff (tree : ObjectTree (Except ε)) (address : Address) (entry : Entry) :
    tree.entry address = .ok entry ↔ Reads tree address entry := by
  constructor
  · intro h
    unfold ObjectTree.entry at h
    cases hlink : tree.link address with
    | error error => rw [hlink] at h; cases h
    | ok link =>
      rw [hlink] at h
      cases hheader : tree.header link.object with
      | error error => simp [bind, Except.bind, hheader] at h
      | ok header =>
        cases hname : tree.name header with
        | error error => simp [bind, Except.bind, hheader, hname] at h
        | ok name =>
          have hentry : (⟨name, link.object, link.next⟩ : Entry) = entry := by
            simpa [bind, Except.bind, pure, Except.pure, hheader, hname] using h
          exact hentry ▸ .intro hlink hheader hname
  · rintro ⟨hlink, hheader, hname⟩
    simp [ObjectTree.entry, bind, Except.bind, pure, Except.pure, hlink, hheader, hname]

theorem entry_eq_error_iff (tree : ObjectTree (Except ε)) (address : Address) (error : ε) :
    tree.entry address = .error error ↔ Unreadable tree address error := by
  constructor
  · intro h
    unfold ObjectTree.entry at h
    cases hlink : tree.link address with
    | error other =>
      rw [hlink] at h
      cases h
      exact .link hlink
    | ok link =>
      rw [hlink] at h
      cases hheader : tree.header link.object with
      | error other =>
        have hother : other = error := by simpa [bind, Except.bind, hheader] using h
        exact .header hlink (hother ▸ hheader)
      | ok header =>
        cases hname : tree.name header with
        | error other =>
          have hother : other = error := by simpa [bind, Except.bind, hheader, hname] using h
          exact .name hlink hheader (hother ▸ hname)
        | ok name => simp [bind, Except.bind, pure, Except.pure, hheader, hname] at h
  · rintro (hlink | ⟨hlink, hheader⟩ | ⟨hlink, hheader, hname⟩)
    · simp [ObjectTree.entry, bind, Except.bind, hlink]
    · simp [ObjectTree.entry, bind, Except.bind, hlink, hheader]
    · simp [ObjectTree.entry, bind, Except.bind, hlink, hheader, hname]

/-! ## Chains -/

/-- Following the links from `start` leads over the entries to `stop`. -/
inductive Chain (tree : ObjectTree (Except ε)) : Option Address → List Entry → Option Address → Prop
    where
  | nil (start : Option Address) : Chain tree start [] start
  | cons {address : Address} {entry : Entry} {entries : List Entry} {stop : Option Address}
      (hread : Reads tree address entry) (hrest : Chain tree entry.next entries stop) :
      Chain tree (some address) (entry :: entries) stop

/-- The visitor goes on at each of the entries, and its state becomes `next`. -/
inductive Passes (visit : Visitor (Except ε) σ) (bucket : Nat) : σ → List Entry → σ → Prop where
  | nil (state : σ) : Passes visit bucket state [] state
  | cons {state middle next : σ} {entry : Entry} {entries : List Entry}
      (hvisit : visit state bucket entry = .ok (.yield middle))
      (hrest : Passes visit bucket middle entries next) :
      Passes visit bucket state (entry :: entries) next

/-- A walk that may take `room` more links goes no further: the chain is at its end, or no link may
be taken, or the next entry cannot be read, or the visitor does not go on there. -/
inductive AtRest (tree : ObjectTree (Except ε)) (visit : Visitor (Except ε) σ) (bucket : Nat) :
    Nat → Option Address → σ → Prop where
  | ended (room : Nat) (state : σ) : AtRest tree visit bucket room none state
  | exhausted (address : Address) (state : σ) : AtRest tree visit bucket 0 (some address) state
  | unreadable (room : Nat) (state : σ) {address : Address} {error : ε}
      (hentry : Unreadable tree address error) :
      AtRest tree visit bucket (room + 1) (some address) state
  | stopped (room : Nat) {address : Address} {state : σ} {entry : Entry}
      (hread : Reads tree address entry)
      (hvisit : ∀ next, visit state bucket entry ≠ .ok (.yield next)) :
      AtRest tree visit bucket (room + 1) (some address) state

section Chains

variable (tree : ObjectTree (Except ε)) (visit : Visitor (Except ε) σ) (limit bucket : Nat)

theorem walkChain_none (room : Nat) (state : σ) :
    (tree.walkChain visit limit bucket room none state).run = .ok (.ok (.yield state)) := by
  cases room <;> rfl

theorem walkChain_zero (address : Address) (state : σ) :
    (tree.walkChain visit limit bucket 0 (some address) state).run =
      .ok (.error (.chainTooLong bucket limit)) := rfl

variable {tree visit bucket}

theorem walkChain_unreadable {room : Nat} {address : Address} {state : σ} {error : ε}
    (hentry : Unreadable tree address error) :
    (tree.walkChain visit limit bucket (room + 1) (some address) state).run = .error error := by
  rw [walkChain, run_ask_error ((entry_eq_error_iff tree address error).2 hentry)]

theorem walkChain_done {room : Nat} {address : Address} {state last : σ} {entry : Entry}
    (hread : Reads tree address entry) (hvisit : visit state bucket entry = .ok (.done last)) :
    (tree.walkChain visit limit bucket (room + 1) (some address) state).run =
      .ok (.ok (.done last)) := by
  rw [walkChain, run_ask_ok ((entry_eq_ok_iff tree address entry).2 hread), run_ask_ok hvisit]
  rfl

theorem walkChain_yield {room : Nat} {address : Address} {state next : σ} {entry : Entry}
    (hread : Reads tree address entry) (hvisit : visit state bucket entry = .ok (.yield next)) :
    (tree.walkChain visit limit bucket (room + 1) (some address) state).run =
      (tree.walkChain visit limit bucket room entry.next next).run := by
  rw [walkChain, run_ask_ok ((entry_eq_ok_iff tree address entry).2 hread), run_ask_ok hvisit]

/-- A walk goes on behind the entries that its visitor passes, with as much less room. -/
theorem walkChain_append {start stop : Option Address} {entries : List Entry} {state next : σ}
    (hchain : Chain tree start entries stop) (hpasses : Passes visit bucket state entries next)
    (room : Nat) :
    (tree.walkChain visit limit bucket (entries.length + room) start state).run =
      (tree.walkChain visit limit bucket room stop next).run := by
  induction hchain generalizing state with
  | nil start =>
    cases hpasses
    simp
  | @cons address entry entries stop hread _ ih =>
    cases hpasses with
    | cons hvisit hrest =>
      have hroom : (entry :: entries).length + room = (entries.length + room) + 1 := by
        simp only [List.length_cons]
        omega
      rw [hroom, walkChain_yield limit hread hvisit, ih hrest]

/-- Behind fewer entries than may be taken, another one is. -/
theorem walkChain_of_room {head stop : Option Address} {entries : List Entry} {state next : σ}
    (hchain : Chain tree head entries stop) (hpasses : Passes visit bucket state entries next)
    {limit : Nat} (hlength : entries.length < limit) :
    ∃ room, (tree.walkChain visit limit bucket limit head state).run =
      (tree.walkChain visit limit bucket (room + 1) stop next).run := by
  obtain ⟨room, hroom⟩ := Nat.exists_eq_add_of_lt hlength
  refine ⟨room, ?_⟩
  rw [← walkChain_append limit hchain hpasses, ← Nat.add_assoc, ← hroom]

variable (tree visit bucket)

/-- Every walk over a chain comes to rest behind entries that it has passed. -/
theorem exists_atRest (room : Nat) (start : Option Address) (state : σ) :
    ∃ (entries : List Entry) (stop : Option Address) (next : σ) (left : Nat),
      Chain tree start entries stop ∧ Passes visit bucket state entries next ∧
        entries.length + left = room ∧ AtRest tree visit bucket left stop next := by
  induction room generalizing start state with
  | zero =>
    cases start with
    | none => exact ⟨[], none, state, 0, .nil _, .nil _, rfl, .ended _ _⟩
    | some address => exact ⟨[], some address, state, 0, .nil _, .nil _, rfl, .exhausted _ _⟩
  | succ room ih =>
    cases start with
    | none => exact ⟨[], none, state, room + 1, .nil _, .nil _, by simp, .ended _ _⟩
    | some address =>
      cases hentry : tree.entry address with
      | error error =>
        have hfails := (entry_eq_error_iff tree address error).1 hentry
        exact ⟨[], some address, state, room + 1, .nil _, .nil _, by simp,
          .unreadable room state hfails⟩
      | ok entry =>
        have hread := (entry_eq_ok_iff tree address entry).1 hentry
        by_cases hvisit : ∃ next, visit state bucket entry = .ok (.yield next)
        · obtain ⟨middle, hmiddle⟩ := hvisit
          obtain ⟨entries, stop, next, left, hchain, hpasses, hroom, hrest⟩ :=
            ih entry.next middle
          refine ⟨entry :: entries, stop, next, left, .cons hread hchain, .cons hmiddle hpasses,
            ?_, hrest⟩
          simp only [List.length_cons]
          omega
        · have hstops : ∀ next, visit state bucket entry ≠ .ok (.yield next) := fun next hnext =>
            hvisit ⟨next, hnext⟩
          exact ⟨[], some address, state, room + 1, .nil _, .nil _, by simp,
            .stopped room hread hstops⟩

end Chains

/-! ## Buckets -/

/-- Either all of the first numbers have a property, or one is the first that does not. -/
theorem all_or_first (Holds : Nat → Prop) (count : Nat) :
    (∀ n < count, Holds n) ∨ ∃ n < count, ¬ Holds n ∧ ∀ earlier < n, Holds earlier := by
  induction count with
  | zero => exact .inl fun n hn => absurd hn (Nat.not_lt_zero n)
  | succ count ih =>
    rcases ih with hall | ⟨n, hn, hhere⟩
    · by_cases hlast : Holds count
      · refine .inl fun n hn => ?_
        rcases Nat.lt_succ_iff_lt_or_eq.1 hn with hbefore | rfl
        · exact hall n hbefore
        · exact hlast
      · exact .inr ⟨count, Nat.lt_succ_self count, hlast, hall⟩
    · exact .inr ⟨n, Nat.lt_succ_of_lt hn, hhere⟩

/-- The numbers before any one stand in front of it. -/
theorem range_eq_append {n count : Nat} (h : n < count) :
    ∃ later, List.range count = List.range n ++ n :: later := by
  obtain ⟨more, rfl⟩ := Nat.exists_eq_add_of_lt h
  rw [Nat.add_assoc, List.range_add, List.range_succ_eq_map, List.map_cons, Nat.add_zero]
  exact ⟨_, rfl⟩

section Buckets

variable {tree : ObjectTree (Except ε)} {visit : Visitor (Except ε) σ} {limit : Nat}
  {directory : Address}

/-- A bucket that the visitor passes to its end leads on to the next one. -/
theorem walkBuckets_of_passes {bucket : Nat} {head : Option Address} {entries : List Entry}
    {state next : σ} (hhead : tree.bucketHead directory bucket = .ok head)
    (hchain : Chain tree head entries none) (hlength : entries.length ≤ limit)
    (hpasses : Passes visit bucket state entries next) (buckets : List Nat) :
    (tree.walkBuckets visit limit directory (bucket :: buckets) state).run =
      (tree.walkBuckets visit limit directory buckets next).run := by
  have hyield := walkChain_append limit hchain hpasses (limit - entries.length)
  rw [Nat.add_sub_cancel' hlength, walkChain_none] at hyield
  rw [walkBuckets, run_ask_ok hhead, run_bind_ok hyield]

variable (tree visit limit directory) in
/-- All of a bucket is within the limit and can be read, and the visitor passes it, in any state of
a kind and to another one of that kind. -/
def PassesBucket (Kind : σ → Prop) (bucket : Nat) : Prop :=
  ∃ head entries, tree.bucketHead directory bucket = .ok head ∧ Chain tree head entries none ∧
    entries.length ≤ limit ∧
    ∀ state, Kind state → ∃ next, Kind next ∧ Passes visit bucket state entries next

variable {Kind : σ → Prop}

/-- So do any number of them. -/
theorem walkBuckets_append {passed : List Nat}
    (hpassed : ∀ bucket ∈ passed, PassesBucket tree visit limit directory Kind bucket) {state : σ}
    (hstate : Kind state) :
    ∃ next, Kind next ∧ ∀ buckets : List Nat,
      (tree.walkBuckets visit limit directory (passed ++ buckets) state).run =
        (tree.walkBuckets visit limit directory buckets next).run := by
  induction passed generalizing state with
  | nil => exact ⟨state, hstate, fun _ => rfl⟩
  | cons bucket passed ih =>
    obtain ⟨⟨head, entries, hhead, hchain, hlength, hkind⟩, hothers⟩ :=
      List.forall_mem_cons.1 hpassed
    obtain ⟨middle, hmiddle, hpasses⟩ := hkind state hstate
    obtain ⟨next, hnext, hrest⟩ := ih hothers hmiddle
    refine ⟨next, hnext, fun buckets => ?_⟩
    rw [List.cons_append, walkBuckets_of_passes hhead hchain hlength hpasses, hrest]

/-- A walk whose visitor passes all buckets ends behind the last one. -/
theorem walk_of_passesBuckets
    (hall : ∀ bucket < bucketCount, PassesBucket tree visit limit directory Kind bucket) {first : σ}
    (hfirst : Kind first) :
    ∃ last, Kind last ∧ (tree.walk visit limit directory first).run = .ok (.ok last) := by
  obtain ⟨last, hlast, hwalk⟩ := walkBuckets_append
    (fun bucket hmem => hall bucket (List.mem_range.1 hmem)) hfirst
  refine ⟨last, hlast, ?_⟩
  have hend := hwalk []
  rwa [List.append_nil] at hend

/-- The walk comes to the bucket: its visitor passes those before it. -/
theorem walk_eq_walkBuckets {bucket : Nat} (hbucket : bucket < bucketCount)
    (hearlier : ∀ earlier < bucket, PassesBucket tree visit limit directory Kind earlier)
    {first : σ} (hfirst : Kind first) :
    ∃ state later, Kind state ∧ (tree.walk visit limit directory first).run =
      (tree.walkBuckets visit limit directory (bucket :: later) state).run := by
  obtain ⟨later, hsplit⟩ := range_eq_append hbucket
  obtain ⟨state, hstate, hwalk⟩ := walkBuckets_append
    (fun earlier hmem => hearlier earlier (List.mem_range.1 hmem)) hfirst
  refine ⟨state, later, hstate, ?_⟩
  rw [walk, hsplit, hwalk]

/-! ## One bucket

A walk that comes to a bucket ends in it where its visitor does not go on. -/

section Bucket

variable {bucket : Nat} {later : List Nat} {first state next : σ} {head : Option Address}
  {entries : List Entry} {address : Address} {error : ε}
  (hwalk : (tree.walk visit limit directory first).run =
    (tree.walkBuckets visit limit directory (bucket :: later) state).run)

include hwalk

theorem walk_of_head_error (hhead : tree.bucketHead directory bucket = .error error) :
    (tree.walk visit limit directory first).run = .error error := by
  rw [hwalk, walkBuckets, run_ask_error hhead]

variable (hhead : tree.bucketHead directory bucket = .ok head)
  (hpasses : Passes visit bucket state entries next)

include hhead hpasses

theorem walk_of_exhausted (hchain : Chain tree head entries (some address))
    (hlength : entries.length = limit) :
    (tree.walk visit limit directory first).run = .ok (.error (.chainTooLong bucket limit)) := by
  have hrefused := walkChain_append limit hchain hpasses 0
  rw [Nat.add_zero, hlength, walkChain_zero] at hrefused
  rw [hwalk, walkBuckets, run_ask_ok hhead, run_bind_refused hrefused]

variable (hchain : Chain tree head entries (some address)) (hlength : entries.length < limit)

include hchain hlength

theorem walk_of_unreadable (hentry : Unreadable tree address error) :
    (tree.walk visit limit directory first).run = .error error := by
  obtain ⟨room, hroom⟩ := walkChain_of_room hchain hpasses hlength
  rw [walkChain_unreadable limit hentry] at hroom
  rw [hwalk, walkBuckets, run_ask_ok hhead, run_bind_error hroom]

theorem walk_of_visit_error {entry : Entry} (hread : Reads tree address entry)
    (hvisit : visit next bucket entry = .error error) :
    (tree.walk visit limit directory first).run = .error error := by
  obtain ⟨room, hroom⟩ := walkChain_of_room hchain hpasses hlength
  rw [walkChain, run_ask_ok ((entry_eq_ok_iff tree address entry).2 hread),
    run_ask_error hvisit] at hroom
  rw [hwalk, walkBuckets, run_ask_ok hhead, run_bind_error hroom]

theorem walk_of_done {entry : Entry} {last : σ} (hread : Reads tree address entry)
    (hvisit : visit next bucket entry = .ok (.done last)) :
    (tree.walk visit limit directory first).run = .ok (.ok last) := by
  obtain ⟨room, hroom⟩ := walkChain_of_room hchain hpasses hlength
  rw [walkChain_done limit hread hvisit] at hroom
  rw [hwalk, walkBuckets, run_ask_ok hhead, run_bind_ok hroom]
  rfl

end Bucket

end Buckets

end KernelScope.ObjectTree
