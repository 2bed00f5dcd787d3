import KernelScope.Proofs.Target
import KernelScope.ServiceTable

/-!
# Faults of arithmetic

A sum, a product or the size of a buffer may not fit its word, and an operation that forms one stops
there.  `FaultsBy` says of a computation that this happens only with sums, and only for a given
cause.  A target with pointers of a known width whose memory itself never fails so (`Regular`) forms
no product and no buffer that is too large; what is left is one sum in each counted string.
-/

set_option autoImplicit false

namespace KernelScope

/-! ## Computations -/

/-- If arithmetic fails in the computation, then in a sum, and for the given cause; `fault?` is how
its errors tell. -/
def FaultsBy {ε α : Type} (fault? : ε → Option Overflow) (Cause : Prop) (x : Except ε α) : Prop :=
  ∀ error fault, x = .error error → fault? error = some fault → fault = .addition ∧ Cause

section Computations

variable {ε δ α β : Type} {fault? : ε → Option Overflow} {Cause Reason : Prop} {x : Except ε α}

theorem faultsBy_ok (a : α) : FaultsBy fault? Cause (.ok a : Except ε α) := by
  intro error fault herror
  cases herror

theorem faultsBy_error {error : ε} (h : fault? error = none) :
    FaultsBy fault? Cause (.error error : Except ε α) := by
  intro other fault hother hfault
  cases hother
  rw [h] at hfault
  cases hfault

theorem FaultsBy.mono (h : FaultsBy fault? Cause x) (hreason : Cause → Reason) :
    FaultsBy fault? Reason x := fun error fault herror hfault =>
  (h error fault herror hfault).imp_right hreason

/-- What follows on a value may use that the value was come to. -/
theorem FaultsBy.bind {next : α → Except ε β} (h : FaultsBy fault? Cause x)
    (hnext : ∀ a, x = .ok a → FaultsBy fault? Cause (next a)) :
    FaultsBy fault? Cause (x >>= next) := by
  cases x with
  | error error =>
    intro other fault hother
    cases hother
    exact h error fault rfl
  | ok a => exact hnext a rfl

theorem FaultsBy.map (h : FaultsBy fault? Cause x) (f : α → β) :
    FaultsBy fault? Cause (x.map f) := by
  cases x with
  | error error =>
    intro other fault hother
    cases hother
    exact h error fault rfl
  | ok a => exact faultsBy_ok (f a)

/-- Errors may be wrapped, as long as the wrapped ones tell of the same faults. -/
theorem FaultsBy.mapError {f : ε → δ} {told? : δ → Option Overflow} (h : FaultsBy fault? Cause x)
    (htold : ∀ error, told? (f error) = fault? error) :
    FaultsBy told? Cause (x.mapError f) := by
  cases x with
  | error error =>
    intro other fault hother hfault
    cases hother
    exact h error fault rfl ((htold error).symm.trans hfault)
  | ok a => exact faultsBy_ok a

theorem FaultsBy.memory {x : Except Overflow α} (h : FaultsBy some Cause x) :
    FaultsBy MemoryError.overflow? Cause (liftM x : Except MemoryError α) := h.mapError fun _ => rfl

theorem FaultsBy.target {x : Except MemoryError α} (h : FaultsBy MemoryError.overflow? Cause x) :
    FaultsBy TargetError.overflow? Cause (liftM x : Except TargetError α) := h.mapError fun _ => rfl

theorem FaultsBy.object {x : Except TargetError α} (h : FaultsBy TargetError.overflow? Cause x) :
    FaultsBy ObjectError.overflow? Cause (liftM x : Except ObjectError α) := h.mapError fun _ => rfl

theorem FaultsBy.service {x : Except TargetError α} (h : FaultsBy TargetError.overflow? Cause x) :
    FaultsBy ServiceError.overflow? Cause (liftM x : Except ServiceError α) :=
  h.mapError fun _ => rfl

end Computations

/-! ## Sums and products -/

section Words

variable {Cause : Prop} {a b c : UInt64}

theorem addWords_eq_error (hwraps : wordLimit ≤ a.toNat + b.toNat) :
    addWords a b = .error .addition := if_neg (Nat.not_lt.2 hwraps)

theorem faultsBy_addWords (hcause : wordLimit ≤ a.toNat + b.toNat → Cause) :
    FaultsBy some Cause (addWords a b) := by
  by_cases hwraps : wordLimit ≤ a.toNat + b.toNat
  · rw [addWords_eq_error hwraps]
    rintro error fault ⟨⟩ ⟨⟩
    exact ⟨rfl, hcause hwraps⟩
  · rw [addWords, if_pos (Nat.lt_of_not_le hwraps)]
    exact faultsBy_ok _

theorem add_of_addWords (h : addWords a b = .ok c) : a + b = c := by
  unfold addWords at h
  split at h <;> cases h
  rfl

theorem faultsBy_multiplyWords (hfits : a.toNat * b.toNat < wordLimit) :
    FaultsBy some Cause (multiplyWords a b) := by
  rw [multiplyWords, if_pos hfits]
  exact faultsBy_ok _

theorem mul_of_multiplyWords (h : multiplyWords a b = .ok c) : a * b = c := by
  unfold multiplyWords at h
  split at h <;> cases h
  rfl

theorem faultsBy_bufferSize {count width : Nat} (hfits : count * width ≤ bufferLimit) :
    FaultsBy some Cause (bufferSize count width) := by
  rw [bufferSize_eq_ok hfits]
  exact faultsBy_ok _

end Words

/-! ## Targets -/

/-- Reading captured memory forms no sum that could wrap. -/
theorem Memory.faultsBy_read {Cause : Prop} (memory : Memory) (address : Address) (length : Nat) :
    FaultsBy MemoryError.overflow? Cause (memory.read address length) := by
  unfold Memory.read
  split
  · exact faultsBy_error rfl
  · dsimp only
    split
    · exact faultsBy_error rfl
    · split
      · exact faultsBy_error rfl
      · exact faultsBy_ok _

namespace Target

/-- Pointers are four or eight bytes wide, and reading bytes never fails for arithmetic. -/
structure Regular (target : Target) : Prop where
  width : target.pointerSize = 4 ∨ target.pointerSize = 8
  read : ∀ {Cause : Prop} (address : Address) (length : Nat),
    FaultsBy MemoryError.overflow? Cause (target.read address length)

section Names

variable {Cause : Prop} (target : Target)

theorem faultsBy_symbol (name : String) :
    FaultsBy TargetError.overflow? Cause (target.symbol name) := by
  unfold symbol
  split
  · exact faultsBy_ok _
  · exact faultsBy_error rfl

theorem faultsBy_fieldOffset? (type field : String) :
    FaultsBy TargetError.overflow? Cause (target.fieldOffset? type field) := by
  refine FaultsBy.map ?_ _
  unfold Target.layout
  split
  · exact faultsBy_ok _
  · exact faultsBy_error rfl

theorem faultsBy_fieldOffset (type field : String) :
    FaultsBy TargetError.overflow? Cause (target.fieldOffset type field) := by
  refine (target.faultsBy_fieldOffset? type field).bind fun offset? _ => ?_
  cases offset? with
  | some offset => exact faultsBy_ok _
  | none => exact faultsBy_error rfl

end Names

namespace Regular

variable {target : Target} (h : target.Regular) {Cause : Prop}

include h

theorem width_le : target.pointerSize.toNat ≤ 8 := by
  rcases h.width with hwidth | hwidth <;> rw [hwidth] <;> decide

theorem readNat (address : Address) (width : Nat) :
    FaultsBy MemoryError.overflow? Cause (target.readNat address width) :=
  (h.read address width).map _

theorem readU8 (address : Address) :
    FaultsBy MemoryError.overflow? Cause (target.readU8 address) := (h.readNat address 1).map _

theorem readU16 (address : Address) :
    FaultsBy MemoryError.overflow? Cause (target.readU16 address) := (h.readNat address 2).map _

theorem readPointer (address : Address) :
    FaultsBy MemoryError.overflow? Cause (target.readPointer address) := by
  unfold Target.readPointer
  split
  · exact ((h.readNat address 4).map _).map _
  · exact (h.readNat address 8).map _

theorem readNats (address : Address) {count width : Nat} (hfits : count * width ≤ bufferLimit) :
    FaultsBy MemoryError.overflow? Cause (target.readNats address count width) := by
  refine (faultsBy_bufferSize hfits).memory.bind fun size _ => ?_
  refine (h.read address size).bind fun bytes _ => ?_
  exact faultsBy_ok _

/-- Arrays of words of at most eight bytes are read, as long as they have few enough items. -/
theorem readPointers (address : Address) {count : Nat} (hfits : count * 8 ≤ bufferLimit) :
    FaultsBy MemoryError.overflow? Cause (target.readPointers address count) := by
  have hhalf : count * 4 ≤ bufferLimit := by omega
  unfold Target.readPointers
  split
  · exact ((h.readNats address hhalf).map _).map _
  · exact (h.readNats address hfits).map _

/-- A counted string forms one sum: the place of the address of its units. -/
theorem readUnicodeString {address : Address}
    (hcause : wordLimit ≤ address.toNat + target.pointerSize.toNat → Cause) :
    FaultsBy MemoryError.overflow? Cause (target.readUnicodeString address) := by
  refine (h.readU16 address).bind fun length _ => ?_
  refine (faultsBy_addWords hcause).memory.bind fun slot _ => ?_
  refine (h.readPointer slot).bind fun buffer _ => ?_
  split
  · exact faultsBy_ok _
  · refine (h.read _ _).bind fun bytes _ => ?_
    exact faultsBy_ok _

end Regular

/-- A captured target whose profile is valid is regular. -/
theorem regular_ofMemory {profile : Profile} (hvalid : profile.validate = .ok ())
    (memory : Memory) : (Target.ofMemory profile memory).Regular where
  width := by
    unfold Profile.validate at hvalid
    split at hvalid
    next hwidth => exact hwidth
    · cases hvalid
  read := memory.faultsBy_read

end Target

end KernelScope
