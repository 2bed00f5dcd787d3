import KernelScope.Proofs.ObjectTree.Space

/-!
# Walks over a tree and over a space

A walk over a tree that answers as a space does visits the objects of the space, bucket by bucket.
This is shown once, for any visitor; that the visits then find or list what the space has is about
lists of objects only.
-/

set_option autoImplicit false

namespace KernelScope

variable {ι σ : Type}

namespace ObjectSpace

/-! ## Visits -/

/-- Visits the objects of a bucket, of which at most `room` more may be visited. -/
def visitBucket (step : σ → Fin bucketCount → ι → ForInStep σ) (limit : Nat)
    (bucket : Fin bucketCount) : (room : Nat) → List ι → σ → Except LookupError (ForInStep σ)
  | _, [], state => .ok (.yield state)
  | 0, _ :: _, _ => .error (.chainTooLong bucket limit)
  | room + 1, object :: objects, state =>
    match step state bucket object with
    | .done state => .ok (.done state)
    | .yield state => visitBucket step limit bucket room objects state

/-- Visits the objects of the given buckets. -/
def visitBuckets (step : σ → Fin bucketCount → ι → ForInStep σ) (limit : Nat) (all : Buckets ι) :
    List (Fin bucketCount) → σ → Except LookupError σ
  | [], state => .ok state
  | bucket :: rest, state =>
    match visitBucket step limit bucket limit (all bucket) state with
    | .error error => .error error
    | .ok (.done state) => .ok state
    | .ok (.yield state) => visitBuckets step limit all rest state

variable (space : ObjectSpace ι) (place : Placement ι)

/-- Ends at the first object whose name has the lower case `wanted`. -/
def stepFind (wanted : String) (found : Option Address) (_ : Fin bucketCount) (object : ι) :
    ForInStep (Option Address) :=
  if Text.lowerCase (space.display object) = wanted then .done (some (place.body object))
  else .yield found

theorem visitBucket_find (limit : Nat) (wanted : String) (bucket : Fin bucketCount) (room : Nat)
    (objects : List ι) :
    visitBucket (space.stepFind place wanted) limit bucket room objects none =
      match (objects.take room).find? fun object =>
          Text.lowerCase (space.display object) = wanted with
      | some object => .ok (.done (some (place.body object)))
      | none =>
        if room < objects.length then .error (.chainTooLong bucket limit)
        else .ok (.yield none) := by
  induction objects generalizing room with
  | nil => cases room <;> rfl
  | cons object objects ih =>
    cases room with
    | zero => simp [visitBucket]
    | succ room =>
      by_cases hname : Text.lowerCase (space.display object) = wanted
      · simp [visitBucket, stepFind, hname]
      · have hother : decide (Text.lowerCase (space.display object) = wanted) = false :=
          decide_eq_false hname
        simp only [visitBucket, stepFind, if_neg hname, List.take_succ_cons, List.find?_cons,
          hother, List.length_cons, Nat.add_lt_add_iff_right]
        exact ih room

theorem visitBuckets_find (limit : Nat) (wanted : String) (all : Buckets ι)
    (buckets : List (Fin bucketCount)) :
    visitBuckets (space.stepFind place wanted) limit all buckets none =
      (space.findIn limit wanted all buckets).map (Option.map place.body) := by
  induction buckets with
  | nil => rfl
  | cons bucket rest ih =>
    rw [visitBuckets, visitBucket_find, findIn, findAmong]
    cases ((all bucket).take limit).find? fun object =>
        Text.lowerCase (space.display object) = wanted with
    | some object => rfl
    | none =>
      by_cases hlong : limit < (all bucket).length
      · simp only [if_pos hlong]
        rfl
      · simp only [if_neg hlong]
        exact ih

/-- The row of a listing for an object. -/
def row (bucket : Fin bucketCount) (object : ι) : ObjectTree.Row :=
  ⟨bucket, space.display object, place.body object, space.isDirectory object⟩

/-- Adds a row, and goes on. -/
def stepList (rows : Array ObjectTree.Row) (bucket : Fin bucketCount) (object : ι) :
    ForInStep (Array ObjectTree.Row) :=
  .yield (rows.push (space.row place bucket object))

theorem visitBucket_list (limit : Nat) (bucket : Fin bucketCount) (room : Nat) (objects : List ι)
    (rows : Array ObjectTree.Row) :
    visitBucket (space.stepList place) limit bucket room objects rows =
      if room < objects.length then .error (.chainTooLong bucket limit)
      else .ok (.yield (rows ++ (objects.map (space.row place bucket)).toArray)) := by
  induction objects generalizing room rows with
  | nil => cases room <;> simp [visitBucket]
  | cons object objects ih =>
    cases room with
    | zero => simp [visitBucket]
    | succ room =>
      simp only [visitBucket, stepList, List.length_cons, Nat.add_lt_add_iff_right]
      rw [ih]
      simp

theorem visitBuckets_list (limit : Nat) (all : Buckets ι) (buckets : List (Fin bucketCount))
    (rows : Array ObjectTree.Row) :
    visitBuckets (space.stepList place) limit all buckets rows =
      match buckets.find? fun bucket => limit < (all bucket).length with
      | some bucket => .error (.chainTooLong bucket limit)
      | none =>
        .ok (rows ++ (buckets.flatMap fun bucket =>
          (all bucket).map (space.row place bucket)).toArray) := by
  induction buckets generalizing rows with
  | nil => simp [visitBuckets]
  | cons bucket rest ih =>
    rw [visitBuckets, visitBucket_list]
    by_cases hlong : limit < (all bucket).length
    · simp [hlong]
    · simp only [if_neg hlong, List.find?_cons, decide_eq_false hlong]
      rw [ih]
      simp

end ObjectSpace

/-! ## Walks -/

namespace ObjectTree.Answers

open ObjectSpace

variable {m : Type → Type} [Monad m] [LawfulMonad m] {ev : Evaluation m} {tree : ObjectTree m}
  {space : ObjectSpace ι} {place : Placement ι} (h : tree.Answers ev space place)

include h

omit [LawfulMonad m] in
theorem yields_entry {directory : ι} {all : Buckets ι} (hall : space.buckets directory = some all)
    {bucket : Fin bucketCount} {position : Nat} {object : ι}
    (hobject : (all bucket)[position]? = some object) :
    ev.Yields (tree.entry (place.link directory bucket position))
      ⟨space.display object, place.body object,
        place.link? directory bucket (all bucket).length (position + 1)⟩ := by
  refine ev.yields_bind (h.link hall hobject) ?_
  refine ev.yields_bind (h.header object) ?_
  refine ev.yields_bind (h.name object) ?_
  exact ev.yields_pure _

omit [LawfulMonad m] in
theorem yields_isDirectory (object : ι) :
    ev.Yields (tree.isDirectory (place.body object)) (space.isDirectory object) := by
  have hflag : ((place.header object).type == place.directoryType) = space.isDirectory object := by
    rw [Bool.eq_iff_iff, beq_iff_eq]
    exact h.types object
  refine ev.yields_bind (h.header object) ?_
  rw [← hflag]
  exact h.isDirectoryType _

/-- A walk over a chain visits the objects of the bucket from its position on. -/
theorem comes_walkChain {visit : Visitor m σ} {step : σ → Fin bucketCount → ι → ForInStep σ}
    (hvisit : ∀ state (bucket : Fin bucketCount) object next,
      ev.Yields (visit state bucket ⟨space.display object, place.body object, next⟩)
        (step state bucket object))
    {directory : ι} {all : Buckets ι} (hall : space.buckets directory = some all)
    (bucket : Fin bucketCount) (limit room position : Nat) (state : σ) (objects : List ι)
    (hobjects : (all bucket).drop position = objects) :
    ev.Comes
      (tree.walkChain visit limit bucket room
        (place.link? directory bucket (all bucket).length position) state)
      (visitBucket step limit bucket room objects state) := by
  induction objects generalizing room position state with
  | nil =>
    have hend : ¬ position < (all bucket).length := by
      rw [List.drop_eq_nil_iff] at hobjects
      omega
    rw [Placement.link?, if_neg hend]
    cases room <;> exact Evaluation.comes_pure _
  | cons object objects ih =>
    have hinside : position < (all bucket).length := by
      refine Nat.lt_of_not_le fun hle => ?_
      rw [List.drop_eq_nil_of_le hle] at hobjects
      cases hobjects
    have hsplit := List.drop_eq_getElem_cons hinside
    rw [hobjects] at hsplit
    obtain ⟨hobject, hrest⟩ := List.cons.inj hsplit
    have hget : (all bucket)[position]? = some object := by
      rw [List.getElem?_eq_getElem hinside, hobject]
    rw [Placement.link?, if_pos hinside]
    cases room with
    | zero => exact Evaluation.comes_throw _
    | succ room =>
      rw [ObjectTree.walkChain, visitBucket]
      refine Evaluation.comes_lift_bind (h.yields_entry hall hget) ?_
      refine Evaluation.comes_lift_bind (hvisit state bucket object _) ?_
      cases step state bucket object with
      | done state => exact Evaluation.comes_pure _
      | yield state => exact ih room (position + 1) state hrest.symm

/-- A walk over a directory visits its buckets. -/
theorem comes_walkBuckets {visit : Visitor m σ} {step : σ → Fin bucketCount → ι → ForInStep σ}
    (hvisit : ∀ state (bucket : Fin bucketCount) object next,
      ev.Yields (visit state bucket ⟨space.display object, place.body object, next⟩)
        (step state bucket object))
    {directory : ι} {all : Buckets ι} (hall : space.buckets directory = some all) (limit : Nat)
    (buckets : List (Fin bucketCount)) (state : σ) :
    ev.Comes
      (tree.walkBuckets visit limit (place.body directory) (buckets.map Fin.val) state)
      (visitBuckets step limit all buckets state) := by
  induction buckets generalizing state with
  | nil => exact Evaluation.comes_pure _
  | cons bucket rest ih =>
    have hchain := h.comes_walkChain hvisit hall bucket limit limit 0 state (all bucket) rfl
    rw [List.map_cons, ObjectTree.walkBuckets, visitBuckets]
    refine Evaluation.comes_lift_bind (h.bucketHead hall bucket) ?_
    cases hvisited : visitBucket step limit bucket limit (all bucket) state with
    | error error =>
      rw [hvisited] at hchain
      exact Evaluation.comes_bind_error hchain
    | ok after =>
      rw [hvisited] at hchain
      refine Evaluation.comes_bind hchain ?_
      cases after with
      | done state => exact Evaluation.comes_pure _
      | yield state => exact ih state

theorem comes_walk {visit : Visitor m σ} {step : σ → Fin bucketCount → ι → ForInStep σ}
    (hvisit : ∀ state (bucket : Fin bucketCount) object next,
      ev.Yields (visit state bucket ⟨space.display object, place.body object, next⟩)
        (step state bucket object))
    {directory : ι} {all : Buckets ι} (hall : space.buckets directory = some all) (limit : Nat)
    (state : σ) :
    ev.Comes (tree.walk visit limit (place.body directory) state)
      (visitBuckets step limit all (List.finRange bucketCount) state) := by
  have hrange : List.range bucketCount = (List.finRange bucketCount).map Fin.val := by decide
  rw [ObjectTree.walk, hrange]
  exact h.comes_walkBuckets hvisit hall limit _ state

/-! ## Answers -/

theorem comes_find {directory : ι} {all : Buckets ι} (hall : space.buckets directory = some all)
    (limit : Nat) (name : String) :
    ev.Comes (tree.find limit (place.body directory) name)
      ((space.find limit all name).map (Option.map place.body)) := by
  rw [ObjectSpace.find, ← visitBuckets_find]
  refine h.comes_walk (fun state bucket object next => ?_) hall limit none
  exact ev.yields_pure _

theorem comes_resolveNames {directory : ι} {all : Buckets ι}
    (hall : space.buckets directory = some all) (limit : Nat) (names : List String) :
    ev.Comes (tree.resolveNames limit (place.body directory) names)
      ((space.resolveNames limit all names).map (Option.map place.body)) := by
  induction names generalizing directory all with
  | nil => exact Evaluation.comes_pure _
  | cons name rest ih =>
    have hfind := h.comes_find hall limit name
    rw [ObjectTree.resolveNames, ObjectSpace.resolveNames]
    cases hfound : space.find limit all name with
    | error error =>
      rw [hfound] at hfind
      exact Evaluation.comes_bind_error hfind
    | ok found =>
      rw [hfound] at hfind
      refine Evaluation.comes_bind hfind ?_
      cases found with
      | none => exact Evaluation.comes_pure _
      | some object =>
        by_cases hlast : rest = [] ∨ rest = [""]
        · simp only [Option.map_some, if_pos hlast]
          exact Evaluation.comes_pure _
        · simp only [Option.map_some, if_neg hlast]
          refine Evaluation.comes_lift_bind (h.yields_isDirectory object) ?_
          unfold ObjectSpace.isDirectory
          cases hinner : space.buckets object with
          | none => exact Evaluation.comes_throw _
          | some inner => exact ih hinner

theorem comes_lookup (limit : Nat) (path : String) :
    ev.Comes (tree.lookup limit path) ((space.lookup limit path).map (Option.map place.body)) := by
  rw [ObjectTree.lookup, ObjectSpace.lookup]
  cases ObjectPath.absoluteNames path with
  | error flaw => exact Evaluation.comes_throw _
  | ok names =>
    refine Evaluation.comes_lift_bind h.root ?_
    exact h.comes_resolveNames space.buckets_root limit names

theorem comes_list {directory : ι} {all : Buckets ι} (hall : space.buckets directory = some all)
    (limit : Nat) :
    ev.Comes (tree.list limit (place.body directory))
      ((ObjectSpace.list limit all).map fun rows =>
        rows.map fun row => space.row place row.1 row.2) := by
  have hwalk : ev.Comes (tree.walk tree.visitRow limit (place.body directory) #[])
      (visitBuckets (space.stepList place) limit all (List.finRange bucketCount) #[]) := by
    refine h.comes_walk (fun rows bucket object next => ?_) hall limit #[]
    exact ev.yields_bind (h.yields_isDirectory object) (ev.yields_pure _)
  rw [visitBuckets_list] at hwalk
  rw [ObjectTree.list, ObjectSpace.list]
  cases hlong : (List.finRange bucketCount).find? fun bucket => limit < (all bucket).length with
  | some bucket =>
    rw [hlong] at hwalk
    exact Evaluation.comes_bind_error hwalk
  | none =>
    rw [hlong] at hwalk
    refine Evaluation.comes_bind hwalk ?_
    have hrows : (#[] ++ ((List.finRange bucketCount).flatMap fun bucket =>
        (all bucket).map (space.row place bucket)).toArray).toList =
          ((List.finRange bucketCount).flatMap fun bucket =>
            (all bucket).map fun object => (bucket, object)).map fun row =>
              space.row place row.1 row.2 := by
      simp [List.map_flatMap, Function.comp_def]
    rw [hrows]
    exact Evaluation.comes_pure _

/-- A tree that answers its single questions as a space does answers every question so. -/
theorem comes_ask {question : Question} {answer : Except LookupError Answer}
    (hreplies : space.Replies place question answer) : ev.Comes (tree.ask question) answer := by
  cases hreplies with
  | root => exact Evaluation.comes_lift_bind h.root (Evaluation.comes_pure _)
  | bucketHead hall bucket =>
    exact Evaluation.comes_lift_bind (h.bucketHead hall bucket) (Evaluation.comes_pure _)
  | link hall hobject =>
    exact Evaluation.comes_lift_bind (h.link hall hobject) (Evaluation.comes_pure _)
  | header object =>
    exact Evaluation.comes_lift_bind (h.header object) (Evaluation.comes_pure _)
  | isDirectoryType type =>
    exact Evaluation.comes_lift_bind (h.isDirectoryType type) (Evaluation.comes_pure _)
  | name object =>
    refine Evaluation.comes_lift_bind (h.header object) ?_
    exact Evaluation.comes_lift_bind (h.name object) (Evaluation.comes_pure _)
  | lookup limit path =>
    have hfound := Evaluation.comes_map (h.comes_lookup limit path) Answer.found
    cases hresult : space.lookup limit path <;> rw [hresult] at hfound <;> exact hfound
  | @resolve _ all hall limit path =>
    have hfound := Evaluation.comes_map
      (h.comes_resolveNames hall limit (ObjectPath.names path)) Answer.found
    cases hresult : space.resolve limit all path <;>
      rw [ObjectSpace.resolve] at hresult <;> rw [hresult] at hfound <;> exact hfound
  | @list _ all hall limit =>
    have hrows := Evaluation.comes_map (h.comes_list hall limit) Answer.rows
    cases hresult : ObjectSpace.list limit all <;> rw [hresult] at hrows <;> exact hrows

end ObjectTree.Answers

end KernelScope
