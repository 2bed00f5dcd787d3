import KernelScope.ObjectTree.Lookup

/-!
# Two trees side by side

The same walk over two trees asks both the same questions, as long as they give the same answers.
Their monads may differ.  What has to be known of these is when a computation of the one goes with
one of the other, with values that meet a condition, and that this goes through sequencing.

The conditions are on places: what a tree answers about a directory, a link or an object that a walk
has come to leads to places of the right kind again (`Places`).
-/

set_option autoImplicit false

namespace KernelScope

/-- When computations of two monads go together: they come to the same values, and these meet a
condition. -/
structure Coupling (m n : Type → Type) [Monad m] [Monad n] where
  Pairs : {α : Type} → (α → Prop) → m α → n α → Prop
  pairs_pure : ∀ {α : Type} {Meets : α → Prop} {a : α}, Meets a → Pairs Meets (pure a) (pure a)
  pairs_bind : ∀ {α β : Type} {Between : α → Prop} {Meets : β → Prop} {x : m α} {y : n α}
    {next : α → m β} {other : α → n β}, Pairs Between x y →
      (∀ a, Between a → Pairs Meets (next a) (other a)) → Pairs Meets (x >>= next) (y >>= other)

namespace Coupling

variable {m n : Type → Type} [Monad m] [Monad n] (coupling : Coupling m n) {α β : Type}

/-- Two walks go together: they come to nothing for the same reason, or to the same value. -/
def Walks (Meets : α → Prop) (x : ExceptT LookupError m α) (y : ExceptT LookupError n α) : Prop :=
  coupling.Pairs (fun result => ∀ a, result = .ok a → Meets a) x.run y.run

variable {coupling} {Between : α → Prop} {Meets : β → Prop}

theorem walks_pure {b : β} (h : Meets b) : coupling.Walks Meets (pure b) (pure b) := by
  refine coupling.pairs_pure fun other hother => ?_
  cases hother
  exact h

theorem walks_throw (error : LookupError) :
    coupling.Walks Meets (throw error) (throw error) := by
  refine coupling.pairs_pure fun other hother => ?_
  cases hother

theorem walks_bind {x : ExceptT LookupError m α} {y : ExceptT LookupError n α}
    {next : α → ExceptT LookupError m β} {other : α → ExceptT LookupError n β}
    (hwalks : coupling.Walks Between x y)
    (hnext : ∀ a, Between a → coupling.Walks Meets (next a) (other a)) :
    coupling.Walks Meets (x >>= next) (y >>= other) := by
  refine coupling.pairs_bind hwalks fun result hresult => ?_
  cases result with
  | error error => exact walks_throw error
  | ok a => exact hnext a (hresult a rfl)

/-- Two computations that ask their trees. -/
theorem walks_lift [LawfulMonad m] [LawfulMonad n] {x : m α} {y : n α}
    (hpairs : coupling.Pairs Between x y) :
    coupling.Walks Between (liftM x) (liftM y) := by
  change coupling.Pairs _ (Except.ok <$> x) (Except.ok <$> y)
  rw [map_eq_pure_bind, map_eq_pure_bind]
  refine coupling.pairs_bind hpairs fun a ha => coupling.pairs_pure fun other hother => ?_
  cases hother
  exact ha

/-- Two computations that ask their trees first and then go on. -/
theorem walks_lift_bind [LawfulMonad m] [LawfulMonad n] {x : m α} {y : n α}
    {next : α → ExceptT LookupError m β} {other : α → ExceptT LookupError n β}
    (hpairs : coupling.Pairs Between x y)
    (hnext : ∀ a, Between a → coupling.Walks Meets (next a) (other a)) :
    coupling.Walks Meets (liftM x >>= next) (liftM y >>= other) :=
  walks_bind (walks_lift hpairs) hnext

end Coupling

namespace ObjectTree

/-! ## Places -/

/-- What is known of the places that a walk comes to. -/
structure Places where
  Directory : Address → Prop
  Link : Address → Prop
  Object : Address → Prop
  /-- the header is that of the object -/
  Heads : (object : Address) → ObjectHeader → Prop

/-- Every place is as good as another. -/
def Places.everywhere : Places := ⟨fun _ => True, fun _ => True, fun _ => True, fun _ _ => True⟩

/-- Two trees answer alike about the places that a walk comes to, and lead it to such places. -/
structure Couples {m n : Type → Type} [Monad m] [Monad n] (coupling : Coupling m n)
    (tree : ObjectTree m) (other : ObjectTree n) (places : Places) : Prop where
  root : coupling.Pairs places.Directory tree.root other.root
  bucketHead : ∀ {directory : Address}, places.Directory directory → ∀ bucket : Nat,
    coupling.Pairs (fun head => ∀ address ∈ head, places.Link address)
      (tree.bucketHead directory bucket) (other.bucketHead directory bucket)
  link : ∀ {address : Address}, places.Link address →
    coupling.Pairs (fun link => places.Object link.object ∧ ∀ next ∈ link.next, places.Link next)
      (tree.link address) (other.link address)
  header : ∀ {object : Address}, places.Object object →
    coupling.Pairs (places.Heads object) (tree.header object) (other.header object)
  isDirectoryType : ∀ {object : Address} {header : ObjectHeader}, places.Heads object header →
    coupling.Pairs (fun flag => flag = true → places.Directory object)
      (tree.isDirectoryType header.type) (other.isDirectoryType header.type)
  name : ∀ {object : Address} {header : ObjectHeader}, places.Heads object header →
    coupling.Pairs (fun _ => True) (tree.name header) (other.name header)

/-- A step of a walk leads to a state of the given kind. -/
def StepMeets {σ : Type} (Meets : σ → Prop) : ForInStep σ → Prop
  | .done state => Meets state
  | .yield state => Meets state

namespace Couples

variable {m n : Type → Type} [Monad m] [Monad n] {coupling : Coupling m n}
  {tree : ObjectTree m} {other : ObjectTree n} {places : Places}
  (h : tree.Couples coupling other places)

include h

theorem entry {address : Address} (hlink : places.Link address) :
    coupling.Pairs (fun entry => places.Object entry.object ∧ ∀ next ∈ entry.next, places.Link next)
      (tree.entry address) (other.entry address) := by
  refine coupling.pairs_bind (h.link hlink) fun link hlink => ?_
  refine coupling.pairs_bind (h.header hlink.1) fun header hheads => ?_
  refine coupling.pairs_bind (h.name hheads) fun name _ => ?_
  exact coupling.pairs_pure hlink

theorem isDirectory {object : Address} (hobject : places.Object object) :
    coupling.Pairs (fun flag => flag = true → places.Directory object)
      (tree.isDirectory object) (other.isDirectory object) :=
  coupling.pairs_bind (h.header hobject) fun _ hheads => h.isDirectoryType hheads

/-! ## Walks -/

variable [LawfulMonad m] [LawfulMonad n] {σ : Type} {Meets : σ → Prop} {visit : Visitor m σ}
  {visitOther : Visitor n σ}
  (hvisit : ∀ {state : σ} {entry : Entry}, Meets state → places.Object entry.object →
    ∀ bucket : Nat, coupling.Pairs (StepMeets Meets) (visit state bucket entry)
      (visitOther state bucket entry))

include hvisit

theorem walkChain (limit bucket room : Nat) {head : Option Address} {state : σ}
    (hhead : ∀ address ∈ head, places.Link address) (hstate : Meets state) :
    coupling.Walks (StepMeets Meets) (tree.walkChain visit limit bucket room head state)
      (other.walkChain visitOther limit bucket room head state) := by
  induction room generalizing head state with
  | zero =>
    cases head with
    | none => exact Coupling.walks_pure hstate
    | some address => exact Coupling.walks_throw _
  | succ room ih =>
    cases head with
    | none => exact Coupling.walks_pure hstate
    | some address =>
      refine Coupling.walks_lift_bind (h.entry (hhead address rfl)) fun entry hentry => ?_
      refine Coupling.walks_lift_bind (hvisit hstate hentry.1 bucket) fun step hstep => ?_
      cases step with
      | done state => exact Coupling.walks_pure hstep
      | yield state => exact ih hentry.2 hstep

theorem walkBuckets (limit : Nat) {directory : Address} (hdirectory : places.Directory directory)
    (buckets : List Nat) {state : σ} (hstate : Meets state) :
    coupling.Walks Meets (tree.walkBuckets visit limit directory buckets state)
      (other.walkBuckets visitOther limit directory buckets state) := by
  induction buckets generalizing state with
  | nil => exact Coupling.walks_pure hstate
  | cons bucket buckets ih =>
    refine Coupling.walks_lift_bind (h.bucketHead hdirectory bucket) fun head hhead => ?_
    refine Coupling.walks_bind (h.walkChain hvisit limit bucket limit hhead hstate) ?_
    intro step hstep
    cases step with
    | done state => exact Coupling.walks_pure hstep
    | yield state => exact ih hstep

end Couples

/-! ## Lookups and listings -/

namespace Couples

variable {m n : Type → Type} [Monad m] [Monad n] [LawfulMonad m] [LawfulMonad n]
  {coupling : Coupling m n} {tree : ObjectTree m} {other : ObjectTree n} {places : Places}
  (h : tree.Couples coupling other places)

include h

theorem find (limit : Nat) {directory : Address} (hdirectory : places.Directory directory)
    (name : String) :
    coupling.Walks (fun found => ∀ object ∈ found, places.Object object)
      (tree.find limit directory name) (other.find limit directory name) := by
  refine h.walkBuckets (fun {found entry} hfound hentry bucket => ?_) limit hdirectory _ (by simp)
  refine coupling.pairs_pure ?_
  split
  · simpa [StepMeets] using hentry
  · exact hfound

theorem resolveNames (limit : Nat) {directory : Address} (hdirectory : places.Directory directory)
    (names : List String) :
    coupling.Walks (fun found => ∀ object ∈ found, places.Object object)
      (tree.resolveNames limit directory names) (other.resolveNames limit directory names) := by
  induction names generalizing directory with
  | nil => exact Coupling.walks_pure (by simp)
  | cons name rest ih =>
    refine Coupling.walks_bind (h.find limit hdirectory name) fun found hfound => ?_
    cases found with
    | none => exact Coupling.walks_pure (by simp)
    | some object =>
      have hobject : places.Object object := hfound object rfl
      by_cases hlast : rest = [] ∨ rest = [""]
      · simp only [if_pos hlast]
        exact Coupling.walks_pure hfound
      · simp only [if_neg hlast]
        refine Coupling.walks_lift_bind (h.isDirectory hobject) fun flag hflag => ?_
        cases flag with
        | false => exact Coupling.walks_throw _
        | true => exact ih (hflag rfl)

theorem lookup (limit : Nat) (path : String) :
    coupling.Walks (fun found => ∀ object ∈ found, places.Object object)
      (tree.lookup limit path) (other.lookup limit path) := by
  unfold ObjectTree.lookup
  cases ObjectPath.absoluteNames path with
  | error flaw => exact Coupling.walks_throw _
  | ok names =>
    exact Coupling.walks_lift_bind h.root fun root hroot => h.resolveNames limit hroot names

theorem list (limit : Nat) {directory : Address} (hdirectory : places.Directory directory) :
    coupling.Walks (fun _ => True) (tree.list limit directory) (other.list limit directory) := by
  have hwalk : coupling.Walks (fun _ => True) (tree.walk tree.visitRow limit directory #[])
      (other.walk other.visitRow limit directory #[]) := by
    refine h.walkBuckets (fun _ hentry bucket => ?_) limit hdirectory _ trivial
    refine coupling.pairs_bind (h.isDirectory hentry) fun flag _ => ?_
    exact coupling.pairs_pure trivial
  exact Coupling.walks_bind hwalk fun rows _ => Coupling.walks_pure trivial

end Couples

end ObjectTree

end KernelScope
