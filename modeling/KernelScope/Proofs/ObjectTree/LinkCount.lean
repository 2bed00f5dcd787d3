import KernelScope.ObjectTree.Lookup

/-!
# How many links a walk asks for

A chain may lead back into itself, so it is no measure for a walk; what bounds the walk is the number
of links that may be taken from one bucket.  `counted` is a tree that counts the links it is asked
for.  A walk over it comes to the same as one over the tree itself, and asks for at most the limit
in each bucket (`asksInWalk_walk`).
-/

set_option autoImplicit false

namespace KernelScope.ObjectTree

variable {ε : Type}

/-- Answers that may fail, and a count that is kept also when one does. -/
abbrev Counting (ε : Type) : Type → Type := ExceptT ε (StateM Nat)

/-- The tree, counting the links that it is asked for, whether they can be read or not. -/
def counted (tree : ObjectTree (Except ε)) : ObjectTree (Counting ε) where
  root := liftM tree.root
  bucketHead directory bucket := liftM (tree.bucketHead directory bucket)
  link address := do
    modify (· + 1)
    liftM (tree.link address)
  header object := liftM (tree.header object)
  isDirectoryType type := liftM (tree.isDirectoryType type)
  name header := liftM (tree.name header)

/-! ## Bounds -/

/-- The counting computation comes to the same as the plain one, and asks for at most so many
links. -/
def Asks {α : Type} (bound : Nat) (plain : Except ε α) (counting : Counting ε α) : Prop :=
  ∀ before, ∃ asked ≤ bound, counting.run.run before = (plain, before + asked)

/-- The same of two walks, which may also come to nothing. -/
def AsksInWalk {α : Type} (bound : Nat) (plain : ExceptT LookupError (Except ε) α)
    (counting : ExceptT LookupError (Counting ε) α) : Prop := Asks bound plain.run counting.run

section Rules

variable {α β : Type} {first second : Nat}

theorem asks_liftM (answer : Except ε α) : Asks 0 answer (liftM answer) :=
  fun _ => ⟨0, Nat.le_refl 0, rfl⟩

theorem asks_link (tree : ObjectTree (Except ε)) (address : Address) :
    Asks 1 (tree.link address) (tree.counted.link address) :=
  fun _ => ⟨1, Nat.le_refl 1, rfl⟩

/-- Behind an error nothing more is asked, behind a value what follows asks. -/
theorem Asks.bind {plain : Except ε α} {counting : Counting ε α} {next : α → Except ε β}
    {counts : α → Counting ε β} (h : Asks first plain counting)
    (hnext : ∀ a, Asks second (next a) (counts a)) :
    Asks (second + first) (plain >>= next) (counting >>= counts) := by
  intro before
  obtain ⟨asked, hasked, hrun⟩ := h before
  cases plain with
  | error error =>
    refine ⟨asked, Nat.le_trans hasked (Nat.le_add_left first second), ?_⟩
    simp only [ExceptT.run_bind, StateT.run_bind, hrun]
    rfl
  | ok a =>
    obtain ⟨more, hmore, hrest⟩ := hnext a (before + asked)
    refine ⟨more + asked, Nat.add_le_add hmore hasked, ?_⟩
    rw [Nat.add_comm more asked, ← Nat.add_assoc]
    simp only [ExceptT.run_bind, StateT.run_bind, hrun]
    exact hrest

theorem Asks.mono {plain : Except ε α} {counting : Counting ε α} (h : Asks first plain counting)
    (hle : first ≤ second) : Asks second plain counting := by
  intro before
  obtain ⟨asked, hasked, hrun⟩ := h before
  exact ⟨asked, Nat.le_trans hasked hle, hrun⟩

theorem asksInWalk_pure (a : α) :
    AsksInWalk first (pure a : ExceptT LookupError (Except ε) α) (pure a) :=
  (asks_liftM _).mono (Nat.zero_le first)

theorem asksInWalk_throw (refusal : LookupError) :
    AsksInWalk first (throw refusal : ExceptT LookupError (Except ε) α) (throw refusal) :=
  (asks_liftM _).mono (Nat.zero_le first)

theorem AsksInWalk.bind {plain : ExceptT LookupError (Except ε) α}
    {counting : ExceptT LookupError (Counting ε) α}
    {next : α → ExceptT LookupError (Except ε) β}
    {counts : α → ExceptT LookupError (Counting ε) β} (h : AsksInWalk first plain counting)
    (hnext : ∀ a, AsksInWalk second (next a) (counts a)) :
    AsksInWalk (second + first) (plain >>= next) (counting >>= counts) := by
  refine Asks.bind h fun result => ?_
  cases result with
  | error refusal => exact asksInWalk_throw refusal
  | ok a => exact hnext a

/-- A walk that asks the tree first and then goes on. -/
theorem Asks.bindInWalk {plain : Except ε α} {counting : Counting ε α}
    {next : α → ExceptT LookupError (Except ε) β}
    {counts : α → ExceptT LookupError (Counting ε) β} (h : Asks first plain counting)
    (hnext : ∀ a, AsksInWalk second (next a) (counts a)) :
    AsksInWalk (second + first) (liftM plain >>= next) (liftM counting >>= counts) := by
  refine AsksInWalk.bind ?_ hnext
  change Asks first (Except.ok <$> plain) (Except.ok <$> counting)
  rw [map_eq_pure_bind, map_eq_pure_bind, ← Nat.zero_add first]
  exact h.bind fun a => asks_liftM _

end Rules

/-! ## Walks -/

section Walks

variable (tree : ObjectTree (Except ε))

/-- An entry is one link, and the answers about its object. -/
theorem asks_entry (address : Address) :
    Asks 1 (tree.entry address) (tree.counted.entry address) := by
  refine (asks_link tree address).bind fun link => ?_
  refine (asks_liftM (tree.header link.object)).bind fun header => ?_
  exact (asks_liftM (tree.name header)).bind fun name => asks_liftM _

theorem asks_isDirectory (object : Address) :
    Asks 0 (tree.isDirectory object) (tree.counted.isDirectory object) :=
  (asks_liftM (tree.header object)).bind fun header => asks_liftM (tree.isDirectoryType header.type)

variable {tree} {σ : Type} {visit : Visitor (Except ε) σ} {visitCounted : Visitor (Counting ε) σ}
  (hvisit : ∀ state bucket entry,
    Asks 0 (visit state bucket entry) (visitCounted state bucket entry))

include hvisit

/-- In one chain at most as many links are asked for as there is room, wherever they lead. -/
theorem asksInWalk_walkChain (limit bucket room : Nat) (start : Option Address) (state : σ) :
    AsksInWalk room (tree.walkChain visit limit bucket room start state)
      (tree.counted.walkChain visitCounted limit bucket room start state) := by
  induction room generalizing start state with
  | zero =>
    cases start with
    | none => exact asksInWalk_pure _
    | some address => exact asksInWalk_throw _
  | succ room ih =>
    cases start with
    | none => exact asksInWalk_pure _
    | some address =>
      refine (asks_entry tree address).bindInWalk fun entry => ?_
      refine (hvisit state bucket entry).bindInWalk fun step => ?_
      cases step with
      | done last => exact asksInWalk_pure _
      | yield next => exact ih entry.next next

theorem asksInWalk_walkBuckets (limit : Nat) (directory : Address) (buckets : List Nat)
    (state : σ) :
    AsksInWalk (buckets.length * limit) (tree.walkBuckets visit limit directory buckets state)
      (tree.counted.walkBuckets visitCounted limit directory buckets state) := by
  induction buckets generalizing state with
  | nil => exact asksInWalk_pure _
  | cons bucket buckets ih =>
    rw [List.length_cons, Nat.succ_mul]
    refine (asks_liftM (tree.bucketHead directory bucket)).bindInWalk fun head => ?_
    refine (asksInWalk_walkChain hvisit limit bucket limit head state).bind fun step => ?_
    cases step with
    | done last => exact asksInWalk_pure _
    | yield next => exact ih next

/-- A walk over a directory asks for at most the limit in each of its buckets. -/
theorem asksInWalk_walk (limit : Nat) (directory : Address) (state : σ) :
    AsksInWalk (bucketCount * limit) (tree.walk visit limit directory state)
      (tree.counted.walk visitCounted limit directory state) := by
  have hlength : bucketCount * limit = (List.range bucketCount).length * limit := by
    rw [List.length_range]
  rw [hlength]
  exact asksInWalk_walkBuckets hvisit limit directory (List.range bucketCount) state

end Walks

/-- A listing asks for no more links than the walk behind it. -/
theorem asksInWalk_list (tree : ObjectTree (Except ε)) (limit : Nat) (directory : Address) :
    AsksInWalk (bucketCount * limit) (tree.list limit directory)
      (tree.counted.list limit directory) := by
  rw [← Nat.zero_add (bucketCount * limit)]
  refine (asksInWalk_walk ?_ limit directory #[]).bind fun rows => asksInWalk_pure _
  intro rows bucket entry
  exact (asks_isDirectory tree entry.object).bind fun flag => asks_liftM _

end KernelScope.ObjectTree
