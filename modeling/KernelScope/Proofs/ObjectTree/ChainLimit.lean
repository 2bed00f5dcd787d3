import KernelScope.Proofs.ObjectTree.Listing

/-!
# Higher chain limits

How many links may be taken from a bucket decides only whether a walk gives up.  A walk that does not
give up comes to the same under any higher limit, be it a value, a refusal or an error of the tree
(`run_eq_of_limit_le`).  A lookup is several walks in a row, of which an earlier one may be the one
that gives up; so what is kept from step to step is `Outlasts`, which says the same of any part of
it.
-/

set_option autoImplicit false

namespace KernelScope.ObjectTree

variable {ε α β σ : Type}

/-- The walk has given up on a bucket with more than `limit` links. -/
def GivesUp (limit : Nat) (result : Except ε (Except LookupError α)) : Prop :=
  ∃ bucket, result = .ok (.error (.chainTooLong bucket limit))

theorem not_givesUp_ok (limit : Nat) (a : α) :
    ¬ GivesUp limit (.ok (.ok a) : Except ε (Except LookupError α)) := by
  rintro ⟨bucket, h⟩
  cases h

/-! ## Outlasting -/

/-- The second walk comes to what the first one does, unless that gives up. -/
def Outlasts (limit : Nat) (first second : ExceptT LookupError (Except ε) α) : Prop :=
  GivesUp limit first.run ∨ second.run = first.run

theorem Outlasts.refl (limit : Nat) (walk : ExceptT LookupError (Except ε) α) :
    Outlasts limit walk walk := .inr rfl

/-- Where the first walk goes on, so does the second, with the same value. -/
theorem Outlasts.bind {limit : Nat} {first second : ExceptT LookupError (Except ε) α}
    {next other : α → ExceptT LookupError (Except ε) β} (h : Outlasts limit first second)
    (hnext : ∀ a, Outlasts limit (next a) (other a)) :
    Outlasts limit (first >>= next) (second >>= other) := by
  rcases h with ⟨bucket, hgivesUp⟩ | hsame
  · exact .inl ⟨bucket, run_bind_refused hgivesUp next⟩
  · cases hfirst : first.run with
    | error error =>
      have hsecond := hsame.trans hfirst
      exact .inr ((run_bind_error hsecond other).trans (run_bind_error hfirst next).symm)
    | ok result =>
      have hsecond := hsame.trans hfirst
      cases result with
      | error refusal =>
        exact .inr ((run_bind_refused hsecond other).trans (run_bind_refused hfirst next).symm)
      | ok a =>
        rw [Outlasts, run_bind_ok hfirst, run_bind_ok hsecond]
        exact hnext a

/-! ## Walks -/

section Walks

variable (tree : ObjectTree (Except ε)) (visit : Visitor (Except ε) σ) {limit higher : Nat}

/-- More room in a chain is of use only to a walk that runs out of it. -/
theorem outlasts_walkChain (bucket : Nat) {room more : Nat} (hroom : room ≤ more)
    (start : Option Address) (state : σ) :
    Outlasts limit (tree.walkChain visit limit bucket room start state)
      (tree.walkChain visit higher bucket more start state) := by
  induction room generalizing more start state with
  | zero =>
    cases start with
    | none =>
      right
      rw [walkChain_none, walkChain_none]
    | some address => exact .inl ⟨bucket, walkChain_zero tree visit limit bucket address state⟩
  | succ room ih =>
    obtain ⟨left, rfl⟩ := Nat.exists_eq_add_of_le' (Nat.le_of_lt_succ (Nat.lt_succ_of_le hroom))
    cases start with
    | none =>
      right
      rw [walkChain_none, walkChain_none]
    | some address =>
      refine (Outlasts.refl limit (liftM (tree.entry address))).bind fun entry => ?_
      refine (Outlasts.refl limit (liftM (visit state bucket entry))).bind fun step => ?_
      cases step with
      | done last => exact .refl limit (pure (ForInStep.done last))
      | yield next => exact ih (Nat.le_add_left room left) entry.next next

variable (hle : limit ≤ higher)

include hle

theorem outlasts_walkBuckets (directory : Address) (buckets : List Nat) (state : σ) :
    Outlasts limit (tree.walkBuckets visit limit directory buckets state)
      (tree.walkBuckets visit higher directory buckets state) := by
  induction buckets generalizing state with
  | nil => exact .refl limit (pure state)
  | cons bucket buckets ih =>
    refine (Outlasts.refl limit (liftM (tree.bucketHead directory bucket))).bind fun head => ?_
    refine (outlasts_walkChain tree visit bucket hle head state).bind fun step => ?_
    cases step with
    | done last => exact .refl limit (pure last)
    | yield next => exact ih next

theorem outlasts_walk (directory : Address) (state : σ) :
    Outlasts limit (tree.walk visit limit directory state)
      (tree.walk visit higher directory state) :=
  outlasts_walkBuckets tree visit hle directory (List.range bucketCount) state

/-! ## Listings and lookups -/

theorem outlasts_list (directory : Address) :
    Outlasts limit (tree.list limit directory) (tree.list higher directory) :=
  (outlasts_walk tree tree.visitRow hle directory #[]).bind fun rows =>
    .refl limit (pure rows.toList)

theorem outlasts_find (directory : Address) (name : String) :
    Outlasts limit (tree.find limit directory name) (tree.find higher directory name) :=
  outlasts_walk tree (seek name) hle directory none

theorem outlasts_resolveNames (directory : Address) (names : List String) :
    Outlasts limit (tree.resolveNames limit directory names)
      (tree.resolveNames higher directory names) := by
  induction names generalizing directory with
  | nil => exact .refl limit (pure none)
  | cons name rest ih =>
    rw [resolveNames, resolveNames]
    refine (outlasts_find tree hle directory name).bind fun found => ?_
    cases found with
    | none => exact .refl limit (pure none)
    | some object =>
      by_cases hlast : rest = [] ∨ rest = [""]
      · simp only [if_pos hlast]
        exact .refl limit (pure (some object))
      · simp only [if_neg hlast]
        refine (Outlasts.refl limit (liftM (tree.isDirectory object))).bind fun answer => ?_
        cases answer with
        | false =>
          exact .refl limit (throw (LookupError.notDirectory name (ObjectPath.ofNames rest)))
        | true => exact ih object

theorem outlasts_lookup (path : String) :
    Outlasts limit (tree.lookup limit path) (tree.lookup higher path) := by
  unfold ObjectTree.lookup
  cases ObjectPath.absoluteNames path with
  | error flaw => exact .refl limit (throw (LookupError.invalidPath path flaw))
  | ok names =>
    refine (Outlasts.refl limit (liftM tree.root)).bind fun root => ?_
    exact outlasts_resolveNames tree hle root names

end Walks

/-- What a lookup, a resolution or a listing comes to without giving up on a bucket, it comes to
under any higher limit as well: the same object, the same rows, nothing, the same refusal, or the
same error. -/
theorem run_eq_of_limit_le (tree : ObjectTree (Except ε)) {limit higher : Nat}
    (hle : limit ≤ higher) :
    (∀ path, ¬ GivesUp limit (tree.lookup limit path).run →
      (tree.lookup higher path).run = (tree.lookup limit path).run) ∧
    (∀ directory path, ¬ GivesUp limit (tree.resolve limit directory path).run →
      (tree.resolve higher directory path).run = (tree.resolve limit directory path).run) ∧
    ∀ directory, ¬ GivesUp limit (tree.list limit directory).run →
      (tree.list higher directory).run = (tree.list limit directory).run := by
  refine ⟨fun path hends => ?_, fun directory path hends => ?_, fun directory hends => ?_⟩
  · exact (outlasts_lookup tree hle path).resolve_left hends
  · exact (outlasts_resolveNames tree hle directory (ObjectPath.names path)).resolve_left hends
  · exact (outlasts_list tree hle directory).resolve_left hends

set_option maxRecDepth 2000 in
/-- One link may be taken from each bucket of the table, or any number more: its directory is found,
another name is not, and it is listed. -/
theorem run_eq_of_limit_le_rootTable :
    1 ≤ defaultChainLimit ∧
    (rootTable.tree.lookup defaultChainLimit "\\device").run = .ok (.ok (some 2)) ∧
    (rootTable.tree.resolve defaultChainLimit 1 "Driver").run = .ok (.ok none) ∧
    (rootTable.tree.list defaultChainLimit 1).run = .ok (.ok [⟨3, "Device", 2, true⟩]) := by
  have hle : 1 ≤ defaultChainLimit := by decide
  obtain ⟨hlookup, hresolve, hlist⟩ := run_eq_of_limit_le rootTable.tree hle
  have hfound : (rootTable.tree.lookup 1 "\\device").run = .ok (.ok (some 2)) := rfl
  have hmissing : (rootTable.tree.resolve 1 1 "Driver").run = .ok (.ok none) := rfl
  have hrows : (rootTable.tree.list 1 1).run = .ok (.ok [⟨3, "Device", 2, true⟩]) := rfl
  refine ⟨hle, ?_, ?_, ?_⟩
  · rw [hlookup "\\device" (hfound ▸ not_givesUp_ok 1 _), hfound]
  · rw [hresolve 1 "Driver" (hmissing ▸ not_givesUp_ok 1 _), hmissing]
  · rw [hlist 1 (hrows ▸ not_givesUp_ok 1 _), hrows]

end KernelScope.ObjectTree
