import KernelScope.Command.Error
import KernelScope.Proofs.Success

/-!
# Targets that answer alike

Two targets of one profile may read alike but for some reads, which one of them refuses.  Nothing
that is computed from their reads goes on behind a read that was refused: the refusal is wrapped as
it is handed on, and stays what it is.  So a computation comes to the same on both targets, unless
it ends on one of them by a read that this one refuses (`AgreeUnless`).
-/

set_option autoImplicit false

namespace KernelScope

/-! ## Errors of memory -/

/-- The error of memory behind the error, if there is one. -/
def TargetError.memory? : TargetError → Option MemoryError
  | .memory error => some error
  | _ => none

/-- The error of memory behind the error, if there is one. -/
def ObjectError.memory? : ObjectError → Option MemoryError
  | .target error => error.memory?
  | .bucketOutOfRange _ => none

/-- The error of memory behind the error, if there is one. -/
def ServiceError.memory? : ServiceError → Option MemoryError
  | .target error => error.memory?
  | .implausibleCount _ => none

/-- The error of memory behind the error, if there is one. -/
def CommandError.memory? : CommandError → Option MemoryError
  | .object error => error.memory?
  | .service error => error.memory?
  | _ => none

/-! ## Computations -/

section Computations

variable {ε δ α β : Type}

/-- The computation ends in an error that has one of memory of the given kind behind it; `memory?`
is how its errors tell. -/
def EndsBy (memory? : ε → Option MemoryError) (Kind : MemoryError → Prop)
    (x : Except ε α) : Prop :=
  ∃ error cause, x = .error error ∧ memory? error = some cause ∧ Kind cause

/-- Two computations come to the same, unless one of them ends by an error of its own kind. -/
def AgreeUnless (memory? : ε → Option MemoryError) (Left Right : MemoryError → Prop)
    (x y : Except ε α) : Prop :=
  x = y ∨ EndsBy memory? Left x ∨ EndsBy memory? Right y

variable {memory? : ε → Option MemoryError} {told? : δ → Option MemoryError}
  {Kind Left Right : MemoryError → Prop} {x y : Except ε α}

/-- What ends does not go on. -/
theorem EndsBy.bind (h : EndsBy memory? Kind x) (next : α → Except ε β) :
    EndsBy memory? Kind (x >>= next) := by
  obtain ⟨error, cause, rfl, hcause, hkind⟩ := h
  exact ⟨error, cause, rfl, hcause, hkind⟩

/-- Errors may be wrapped, as long as the wrapped ones tell of the same errors of memory. -/
theorem EndsBy.mapError (h : EndsBy memory? Kind x) {f : ε → δ}
    (htold : ∀ error, told? (f error) = memory? error) : EndsBy told? Kind (x.mapError f) := by
  obtain ⟨error, cause, rfl, hcause, hkind⟩ := h
  exact ⟨f error, cause, rfl, (htold error).trans hcause, hkind⟩

namespace AgreeUnless

theorem of_eq (h : x = y) : AgreeUnless memory? Left Right x y := .inl h

theorem refl (x : Except ε α) : AgreeUnless memory? Left Right x x := .inl rfl

/-- Where both computations go on, they do with the same value. -/
theorem bind {next other : α → Except ε β} (h : AgreeUnless memory? Left Right x y)
    (hnext : ∀ a, x = .ok a → AgreeUnless memory? Left Right (next a) (other a)) :
    AgreeUnless memory? Left Right (x >>= next) (y >>= other) := by
  rcases h with rfl | hleft | hright
  · cases x with
    | error error => exact .refl (.error error)
    | ok a => exact hnext a rfl
  · exact .inr (.inl (hleft.bind next))
  · exact .inr (.inr (hright.bind other))

theorem map (h : AgreeUnless memory? Left Right x y) (f : α → β) :
    AgreeUnless memory? Left Right (x.map f) (y.map f) := by
  rcases h with rfl | ⟨error, cause, rfl, htells⟩ | ⟨error, cause, rfl, htells⟩
  · exact .refl _
  · exact .inr (.inl ⟨error, cause, rfl, htells⟩)
  · exact .inr (.inr ⟨error, cause, rfl, htells⟩)

theorem mapError (h : AgreeUnless memory? Left Right x y) {f : ε → δ}
    (htold : ∀ error, told? (f error) = memory? error) :
    AgreeUnless told? Left Right (x.mapError f) (y.mapError f) := by
  rcases h with rfl | hleft | hright
  · exact .refl _
  · exact .inr (.inl (hleft.mapError htold))
  · exact .inr (.inr (hright.mapError htold))

theorem target {x y : Except MemoryError α} (h : AgreeUnless some Left Right x y) :
    AgreeUnless TargetError.memory? Left Right (liftM x : Except TargetError α) (liftM y) :=
  h.mapError fun _ => rfl

theorem object {x y : Except TargetError α} (h : AgreeUnless TargetError.memory? Left Right x y) :
    AgreeUnless ObjectError.memory? Left Right (liftM x : Except ObjectError α) (liftM y) :=
  h.mapError fun _ => rfl

theorem service {x y : Except TargetError α} (h : AgreeUnless TargetError.memory? Left Right x y) :
    AgreeUnless ServiceError.memory? Left Right (liftM x : Except ServiceError α) (liftM y) :=
  h.mapError fun _ => rfl

end AgreeUnless

end Computations

/-! ## Targets -/

namespace Target

/-- The targets have one profile, and any read agrees on them. -/
structure Alike (Left Right : MemoryError → Prop) (target other : Target) : Prop where
  profile : target.profile = other.profile
  read : ∀ address length,
    AgreeUnless some Left Right (target.read address length) (other.read address length)

namespace Alike

variable {Left Right : MemoryError → Prop} {target other : Target}
  (h : target.Alike Left Right other)

include h

/-! ### What the profile tells -/

theorem pointerSize : target.pointerSize = other.pointerSize :=
  congrArg Profile.pointerSize h.profile

theorem symbol (name : String) : target.symbol name = other.symbol name := by
  rw [Target.symbol, Target.symbol, h.profile]

theorem fieldOffset? (type field : String) :
    target.fieldOffset? type field = other.fieldOffset? type field := by
  rw [Target.fieldOffset?, Target.fieldOffset?, Target.layout, Target.layout, h.profile]

theorem fieldOffset (type field : String) :
    target.fieldOffset type field = other.fieldOffset type field := by
  rw [Target.fieldOffset, Target.fieldOffset, h.fieldOffset?]

theorem describe : target.describe = other.describe := by
  funext address
  rw [Target.describe, Target.describe, h.profile]

/-! ### What is read -/

theorem readNat (address : Address) (width : Nat) :
    AgreeUnless some Left Right (target.readNat address width) (other.readNat address width) :=
  (h.read address width).map _

theorem readU8 (address : Address) :
    AgreeUnless some Left Right (target.readU8 address) (other.readU8 address) :=
  (h.readNat address 1).map _

theorem readU16 (address : Address) :
    AgreeUnless some Left Right (target.readU16 address) (other.readU16 address) :=
  (h.readNat address 2).map _

theorem readPointer (address : Address) :
    AgreeUnless some Left Right (target.readPointer address) (other.readPointer address) := by
  unfold Target.readPointer
  rw [h.pointerSize]
  split
  · exact ((h.readNat address 4).map _).map _
  · exact (h.readNat address 8).map _

theorem readNats (address : Address) (count width : Nat) :
    AgreeUnless some Left Right (target.readNats address count width)
      (other.readNats address count width) := by
  refine (AgreeUnless.refl (liftM (bufferSize count width))).bind fun size _ => ?_
  exact (h.read address size).bind fun bytes _ => .refl _

theorem readU32s (address : Address) (count : Nat) :
    AgreeUnless some Left Right (target.readU32s address count) (other.readU32s address count) :=
  (h.readNats address count 4).map _

theorem readI32s (address : Address) (count : Nat) :
    AgreeUnless some Left Right (target.readI32s address count) (other.readI32s address count) :=
  (h.readU32s address count).map _

theorem readU64s (address : Address) (count : Nat) :
    AgreeUnless some Left Right (target.readU64s address count) (other.readU64s address count) :=
  (h.readNats address count 8).map _

theorem readPointers (address : Address) (count : Nat) :
    AgreeUnless some Left Right (target.readPointers address count)
      (other.readPointers address count) := by
  unfold Target.readPointers
  rw [h.pointerSize]
  split
  · exact (h.readU32s address count).map _
  · exact h.readU64s address count

theorem readUnicodeString (address : Address) :
    AgreeUnless some Left Right (target.readUnicodeString address)
      (other.readUnicodeString address) := by
  unfold Target.readUnicodeString
  rw [h.pointerSize]
  refine (h.readU16 address).bind fun length _ => ?_
  refine (AgreeUnless.refl (liftM (addWords address other.pointerSize))).bind fun slot _ => ?_
  refine (h.readPointer slot).bind fun buffer _ => ?_
  split
  · exact .refl _
  · exact (h.read _ _).bind fun bytes _ => .refl _

end Alike

end Target

end KernelScope
