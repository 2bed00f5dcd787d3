import KernelScope.ObjectManager
import KernelScope.ObjectTree.Question
import KernelScope.Proofs.ObjectTree.Coupling

/-!
# The type of directories that is kept

A tree that keeps the type of directories reads it at most once, and only for a query that comes to
the question for it.  Which queries do is told by a tree without such a type (`typelessTree`): they
are those it cannot answer for want of it.

Three couplings say the rest.  With a type known, the tree answers as one that is given the type, and
keeps it (`givenType`).  With none known, it answers as the tree without a type does; where that one
ends for want of the type, it goes on as if the type in memory had been known before, or ends as the
read of it does (`wantedType`).  And while memory does not change, the tree answers as one that
reads the type anew each time (`currentType`).
-/

set_option autoImplicit false

namespace KernelScope

open ObjectTree

/-! ## Queries -/

/-- A question to an object tree, or the name of an object whose header is at hand. -/
inductive ObjectTree.Query where
  | question (question : Question)
  | displayName (header : ObjectHeader)
  deriving DecidableEq, Repr

/-- Poses a query to a tree. -/
def ObjectTree.Query.pose {m : Type → Type} [Monad m] (tree : ObjectTree m) :
    Query → ExceptT LookupError m Answer
  | .question asked => tree.ask asked
  | .displayName header => return .name (← tree.name header)

/-- Trees that answer alike about every place give any query the same answer. -/
theorem ObjectTree.Couples.pose {m n : Type → Type} [Monad m] [Monad n] [LawfulMonad m]
    [LawfulMonad n] {coupling : Coupling m n} {tree : ObjectTree m} {other : ObjectTree n}
    (h : tree.Couples coupling other .everywhere) (query : Query) :
    coupling.Walks (fun _ => True) (query.pose tree) (query.pose other) := by
  have hname (header : ObjectHeader) :
      coupling.Pairs (fun _ => True) (tree.name header) (other.name header) :=
    h.name (show Places.everywhere.Heads 0 header from trivial)
  have hpure {answer : Answer} :
      coupling.Walks (fun _ => True) (pure answer) (pure answer) := Coupling.walks_pure trivial
  cases query with
  | displayName header => exact Coupling.walks_lift_bind (hname header) fun _ _ => hpure
  | question question =>
    cases question with
    | root => exact Coupling.walks_lift_bind h.root fun _ _ => hpure
    | bucketHead directory bucket =>
      exact Coupling.walks_lift_bind (h.bucketHead trivial bucket) fun _ _ => hpure
    | link address => exact Coupling.walks_lift_bind (h.link trivial) fun _ _ => hpure
    | header object => exact Coupling.walks_lift_bind (h.header trivial) fun _ _ => hpure
    | isDirectoryType type =>
      have htype := h.isDirectoryType (show Places.everywhere.Heads 0 ⟨0, type, none⟩ from trivial)
      exact Coupling.walks_lift_bind htype fun _ _ => hpure
    | name object =>
      refine Coupling.walks_lift_bind (h.header trivial) fun header _ => ?_
      exact Coupling.walks_lift_bind (hname header) fun _ _ => hpure
    | lookup limit path => exact Coupling.walks_bind (h.lookup limit path) fun _ _ => hpure
    | resolve limit directory path =>
      exact Coupling.walks_bind (h.resolveNames limit trivial _) fun _ _ => hpure
    | list limit directory =>
      exact Coupling.walks_bind (h.list limit trivial) fun _ _ => hpure

namespace ObjectManager

/-! ## Trees of one target -/

/-- Two trees of one target answer alike if errors and the type of directories go together. -/
theorem couples_treeIn {m n : Type → Type} [Monad m] [Monad n] {coupling : Coupling m n}
    (manager : ObjectManager) (target : Target) {raise : {α : Type} → Except ObjectError α → m α}
    {other : {α : Type} → Except ObjectError α → n α} {type : m Address} {otherType : n Address}
    (hraise : ∀ {α : Type} (result : Except ObjectError α) {Meets : α → Prop},
      (∀ a, Meets a) → coupling.Pairs Meets (raise result) (other result))
    (htype : coupling.Pairs (fun _ => True) type otherType) :
    (manager.treeIn target raise type).Couples coupling (manager.treeIn target other otherType)
      .everywhere where
  root := hraise _ fun _ => trivial
  bucketHead _ _ := hraise _ fun _ _ _ => trivial
  link _ := hraise _ fun _ => ⟨trivial, fun _ _ => trivial⟩
  header _ := hraise _ fun _ => trivial
  isDirectoryType _ := coupling.pairs_bind htype fun _ _ => coupling.pairs_pure fun _ => trivial
  name _ := hraise _ fun _ => trivial

/-- What a computation comes to, with what is kept behind it. -/
def kept {α : Type} (known : Option Address) :
    Except ObjectError α → EStateM.Result ObjectError (Option Address) α
  | .ok a => .ok a known
  | .error error => .error error known

theorem run_raise {α : Type} (result : Except ObjectError α) (known : Option Address) :
    (CacheM.raise result).run known = kept known result := by
  cases result <;> rfl

/-! ## A type that is known -/

/-- With the type known, a computation comes to what another one comes to, and keeps the type. -/
def givenType (type : Address) : Coupling CacheM (Except ObjectError) where
  Pairs Meets x y := (∀ a, y = .ok a → Meets a) ∧ x.run (some type) = kept (some type) y
  pairs_pure := by
    intro _ Meets a ha
    refine ⟨fun other hother => ?_, rfl⟩
    cases hother
    exact ha
  pairs_bind := by
    intro _ _ _ _ x y next other hx hnext
    obtain ⟨hbetween, hrun⟩ := hx
    rw [EStateM.run_bind, hrun]
    cases y with
    | error error =>
      refine ⟨fun b hb => ?_, rfl⟩
      cases hb
    | ok a => exact hnext a (hbetween a rfl)

theorem couples_givenType (manager : ObjectManager) (target : Target) (type : Address) :
    (manager.cachedTree target).Couples (givenType type) (manager.treeIn target id (.ok type))
      .everywhere :=
  couples_treeIn manager target
    (fun result _ hmeets => ⟨fun a _ => hmeets a, run_raise result (some type)⟩)
    ⟨fun _ _ => trivial, rfl⟩

/-- With the type known, a query is answered by it, and it stays known. -/
theorem run_pose_of_known (manager : ObjectManager) (target : Target) (query : Query)
    (type : Address) :
    (query.pose (manager.cachedTree target)).run.run (some type) =
      kept (some type) (query.pose (manager.treeIn target id (.ok type))).run :=
  ((couples_givenType manager target type).pose query).2

/-! ## A type that is wanted -/

/-- The tree without a type of directories: the question for it ends in the error `none`. -/
def typelessTree (manager : ObjectManager) (target : Target) :
    ObjectTree (Except (Option ObjectError)) :=
  manager.treeIn target (Except.mapError some) (.error none)

/-- The query comes to the question for the type of directories. -/
def WantsType (manager : ObjectManager) (target : Target) (query : Query) : Prop :=
  (query.pose (manager.typelessTree target)).run = .error none

/-- Either a computation does without the type, whatever is known of it, or it goes on as if the
type in memory had been known before; if that cannot be read, it ends there. -/
inductive Follows (target : Target) {α : Type} (Meets : α → Prop) (x : CacheM α) :
    Except (Option ObjectError) α → Prop where
  | comes {a : α} (hmeets : Meets a) (hrun : ∀ known, x.run known = .ok a known) :
      Follows target Meets x (.ok a)
  | fails {error : ObjectError} (hrun : ∀ known, x.run known = .error error known) :
      Follows target Meets x (.error (some error))
  | reads {type : Address} (hread : readDirectoryType target = .ok type)
      (hrun : x.run none = x.run (some type)) : Follows target Meets x (.error none)
  | stops {error : TargetError} (hread : readDirectoryType target = .error error)
      (hrun : x.run none = .error (.target error) none) : Follows target Meets x (.error none)

/-- What goes with a computation that lacks the type follows it as far as it goes. -/
def wantedType (target : Target) : Coupling CacheM (Except (Option ObjectError)) where
  Pairs Meets x y := Follows target Meets x y
  pairs_pure ha := .comes ha fun _ => rfl
  pairs_bind := by
    intro _ _ _ Meets x y next other hx hnext
    cases hx with
    | fails hrun =>
      refine .fails fun known => ?_
      rw [EStateM.run_bind, hrun known]
    | reads hread hrun =>
      refine .reads hread ?_
      rw [EStateM.run_bind, EStateM.run_bind, hrun]
    | stops hread hrun =>
      refine .stops hread ?_
      rw [EStateM.run_bind, hrun]
    | @comes a hmeets hrun =>
      have hbind : ∀ known, (x >>= next).run known = (next a).run known := by
        intro known
        rw [EStateM.run_bind, hrun known]
      have hfollows : Follows target Meets (next a) (other a) := hnext a hmeets
      change Follows target Meets (x >>= next) (other a)
      generalize other a = result at hfollows ⊢
      cases hfollows with
      | comes hmeets hrun => exact .comes hmeets fun known => (hbind known).trans (hrun known)
      | fails hrun => exact .fails fun known => (hbind known).trans (hrun known)
      | reads hread hrun => exact .reads hread (by rw [hbind, hbind, hrun])
      | stops hread hrun => exact .stops hread ((hbind none).trans hrun)

theorem couples_wantedType (manager : ObjectManager) (target : Target) :
    (manager.cachedTree target).Couples (wantedType target) (manager.typelessTree target)
      .everywhere := by
  refine couples_treeIn manager target (fun result _ hmeets => ?_) ?_
  · cases result with
    | ok a => exact .comes (hmeets a) fun _ => rfl
    | error error => exact .fails fun _ => rfl
  · cases hread : readDirectoryType target with
    | ok type =>
      refine .reads hread ?_
      simp only [cachedDirectoryType, hread]
      rfl
    | error error =>
      refine .stops hread ?_
      simp only [cachedDirectoryType, hread]
      rfl

section Queries

variable {manager : ObjectManager} {target : Target} {query : Query}

/-- A query that does not want the type is answered whatever is known of it, and keeps that. -/
theorem run_pose_of_not_wantsType (h : ¬ manager.WantsType target query) :
    ∃ result, ∀ known, (query.pose (manager.cachedTree target)).run.run known =
      kept known result := by
  have hfollows : Follows target _ _ (query.pose (manager.typelessTree target)).run :=
    (couples_wantedType manager target).pose query
  unfold WantsType at h
  generalize (query.pose (manager.typelessTree target)).run = wanting at h hfollows
  cases hfollows with
  | comes _ hrun => exact ⟨.ok _, hrun⟩
  | fails hrun => exact ⟨.error _, hrun⟩
  | reads => exact absurd rfl h
  | stops => exact absurd rfl h

/-- A query that wants the type goes on as if the type in memory had been known. -/
theorem run_pose_of_reads (h : manager.WantsType target query) {type : Address}
    (hread : readDirectoryType target = .ok type) :
    (query.pose (manager.cachedTree target)).run.run none =
      (query.pose (manager.cachedTree target)).run.run (some type) := by
  have hfollows : Follows target _ _ (query.pose (manager.typelessTree target)).run :=
    (couples_wantedType manager target).pose query
  rw [h] at hfollows
  cases hfollows with
  | reads hother hrun =>
    obtain rfl := Except.ok.inj (hread.symm.trans hother)
    exact hrun
  | stops hother => cases hread.symm.trans hother

/-- A query that wants the type, where it cannot be read, ends as the read does. -/
theorem run_pose_of_stops (h : manager.WantsType target query) {error : TargetError}
    (hread : readDirectoryType target = .error error) :
    (query.pose (manager.cachedTree target)).run.run none = .error (.target error) none := by
  have hfollows : Follows target _ _ (query.pose (manager.typelessTree target)).run :=
    (couples_wantedType manager target).pose query
  rw [h] at hfollows
  cases hfollows with
  | reads hother => cases hread.symm.trans hother
  | stops hother hrun =>
    obtain rfl := Except.error.inj (hread.symm.trans hother)
    exact hrun

end Queries

/-! ## A type that is current -/

/-- What is known of the type, if anything is, is what memory holds. -/
def Current (target : Target) (known : Option Address) : Prop :=
  ∀ type ∈ known, readDirectoryType target = .ok type

theorem current_none (target : Target) : Current target none := by simp [Current]

theorem current_some {target : Target} {type : Address}
    (hread : readDirectoryType target = .ok type) : Current target (some type) := by
  simpa [Current] using hread

/-- While what is known is what memory holds, a computation comes to what another one comes to that
reads the type anew, and again nothing else is known. -/
def currentType (target : Target) : Coupling CacheM (Except ObjectError) where
  Pairs Meets x y := (∀ a, y = .ok a → Meets a) ∧
    ∀ known, Current target known → ∃ later, Current target later ∧ x.run known = kept later y
  pairs_pure := by
    intro _ Meets a ha
    refine ⟨fun other hother => ?_, fun known hknown => ⟨known, hknown, rfl⟩⟩
    cases hother
    exact ha
  pairs_bind := by
    intro _ _ _ _ x y next other hx hnext
    obtain ⟨hbetween, hrun⟩ := hx
    cases y with
    | error error =>
      refine ⟨fun b hb => ?_, fun known hknown => ?_⟩
      · cases hb
      · obtain ⟨later, hlater, hfirst⟩ := hrun known hknown
        refine ⟨later, hlater, ?_⟩
        rw [EStateM.run_bind, hfirst]
        rfl
    | ok a =>
      obtain ⟨hmeets, hthen⟩ := hnext a (hbetween a rfl)
      refine ⟨hmeets, fun known hknown => ?_⟩
      obtain ⟨between, hcurrent, hfirst⟩ := hrun known hknown
      obtain ⟨later, hlater, hsecond⟩ := hthen between hcurrent
      refine ⟨later, hlater, ?_⟩
      rw [EStateM.run_bind, hfirst]
      exact hsecond

theorem couples_currentType (manager : ObjectManager) (target : Target) :
    (manager.cachedTree target).Couples (currentType target) (manager.tree target) .everywhere := by
  refine couples_treeIn manager target (fun result _ hmeets => ?_) ⟨fun _ _ => trivial, ?_⟩
  · exact ⟨fun a _ => hmeets a, fun known hknown => ⟨known, hknown, run_raise result known⟩⟩
  · intro known hknown
    cases known with
    | some type =>
      refine ⟨some type, hknown, ?_⟩
      rw [hknown type rfl]
      rfl
    | none =>
      cases hread : readDirectoryType target with
      | ok type =>
        refine ⟨some type, current_some hread, ?_⟩
        simp only [cachedDirectoryType, hread]
        rfl
      | error error =>
        refine ⟨none, current_none target, ?_⟩
        simp only [cachedDirectoryType, hread]
        rfl

/-- Whether what memory holds is known before or not, a query is answered in the same way, and again
nothing else is known. -/
theorem run_pose_of_current (manager : ObjectManager) {target : Target} (query : Query)
    {known : Option Address} (hknown : Current target known) :
    ∃ result after later, Current target later ∧
      (query.pose (manager.cachedTree target)).run.run none = kept after result ∧
      (query.pose (manager.cachedTree target)).run.run known = kept later result := by
  obtain ⟨-, hrun⟩ := (couples_currentType manager target).pose query
  obtain ⟨after, -, hnone⟩ := hrun none (current_none target)
  obtain ⟨later, hlater, hcurrent⟩ := hrun known hknown
  exact ⟨_, after, later, hlater, hnone, hcurrent⟩

end ObjectManager

end KernelScope
