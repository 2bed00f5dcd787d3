import KernelScope.ObjectManager

/-!
# Success

A computation goes on behind one that succeeds, and success is the same whichever errors it has been
lifted to.
-/

set_option autoImplicit false

namespace KernelScope

variable {α : Type}

@[simp] theorem ok_bind {ε β : Type} (a : α) (next : α → Except ε β) :
    (Except.ok a >>= next) = next a := rfl

/-- A sequence succeeds only if both parts do. -/
theorem bind_eq_ok {ε β : Type} {x : Except ε α} {next : α → Except ε β} {b : β}
    (h : (x >>= next) = .ok b) : ∃ a, x = .ok a ∧ next a = .ok b := by
  cases x with
  | error error => cases h
  | ok a => exact ⟨a, rfl, h⟩

/-- Whether a computation comes to a value can be told without comparing errors. -/
theorem toOption_eq_some_iff {ε : Type} {x : Except ε α} {a : α} :
    x.toOption = some a ↔ x = .ok a := by
  cases x <;> simp [Except.toOption]

theorem map_eq_ok {ε β : Type} {x : Except ε α} {f : α → β} {b : β} (h : x.map f = .ok b) :
    ∃ a, x = .ok a ∧ f a = b := by
  cases x with
  | error error => cases h
  | ok a => exact ⟨a, rfl, Except.ok.inj h⟩

/-- What is done to each value of a list, twice in a row, can be done at once. -/
theorem map_map_list {ε β γ : Type} (x : Except ε (List α)) (f : α → β) (g : β → γ) :
    (x.map (List.map f)).map (List.map g) = x.map (List.map fun a => g (f a)) := by
  cases x with
  | error error => rfl
  | ok items => simp [Except.map]

/-- What a computation comes to does not depend on how its errors are wrapped. -/
theorem ok_of_mapError {ε δ : Type} {x : Except ε α} {f : ε → δ} {a : α}
    (h : x.mapError f = .ok a) : x = .ok a := by
  cases x with
  | error error => cases h
  | ok other =>
    cases h
    rfl

@[simp] theorem mapError_ok {ε δ : Type} (f : ε → δ) (a : α) :
    (Except.ok a : Except ε α).mapError f = .ok a := rfl

@[simp] theorem liftM_memory_profile (a : α) :
    (liftM (Except.ok a : Except MemoryError α) : Except ProfileError α) = .ok a := rfl

@[simp] theorem liftM_overflow_memory (a : α) :
    (liftM (Except.ok a : Except Overflow α) : Except MemoryError α) = .ok a := rfl

@[simp] theorem liftM_memory_target (a : α) :
    (liftM (Except.ok a : Except MemoryError α) : Except TargetError α) = .ok a := rfl

@[simp] theorem liftM_overflow_target (a : α) :
    (liftM (Except.ok a : Except Overflow α) : Except TargetError α) = .ok a := rfl

@[simp] theorem liftM_target_object (a : α) :
    (liftM (Except.ok a : Except TargetError α) : Except ObjectError α) = .ok a := rfl

@[simp] theorem liftM_memory_object (a : α) :
    (liftM (Except.ok a : Except MemoryError α) : Except ObjectError α) = .ok a := rfl

@[simp] theorem liftM_overflow_object (a : α) :
    (liftM (Except.ok a : Except Overflow α) : Except ObjectError α) = .ok a := rfl

end KernelScope
