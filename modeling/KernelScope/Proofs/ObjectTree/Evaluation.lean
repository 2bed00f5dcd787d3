import KernelScope.ObjectTree.Lookup

/-!
# What a computation comes to

A tree answers in a monad of its own, and so does a walk over it.  All that has to be known of the
monad is when one of its computations comes to a value, and that this goes through sequencing.
-/

set_option autoImplicit false

namespace KernelScope

/-- When a computation of a monad comes to a value. -/
structure Evaluation (m : Type → Type) [Monad m] where
  Yields : {α : Type} → m α → α → Prop
  yields_pure : ∀ {α : Type} (a : α), Yields (pure a) a
  yields_bind : ∀ {α β : Type} {x : m α} {next : α → m β} {a : α} {b : β},
    Yields x a → Yields (next a) b → Yields (x >>= next) b

namespace Evaluation

/-- A computation that may fail comes to a value if it succeeds with it. -/
def ofExcept (ε : Type) : Evaluation (Except ε) where
  Yields x a := x = .ok a
  yields_pure _ := rfl
  yields_bind := by
    rintro _ _ _ _ _ _ rfl h
    exact h

variable {m : Type → Type} [Monad m] (ev : Evaluation m) {α β : Type}

/-- A walk comes to a result, which may be that it came to nothing. -/
def Comes (x : ExceptT LookupError m α) (result : Except LookupError α) : Prop :=
  ev.Yields x.run result

variable {ev}

theorem comes_pure (a : α) : ev.Comes (pure a) (.ok a) := ev.yields_pure _

theorem comes_throw (error : LookupError) :
    ev.Comes (throw error : ExceptT LookupError m α) (.error error) := ev.yields_pure _

theorem comes_lift [LawfulMonad m] {x : m α} {a : α} (h : ev.Yields x a) :
    ev.Comes (liftM x : ExceptT LookupError m α) (.ok a) := by
  change ev.Yields (Except.ok <$> x) (.ok a)
  rw [map_eq_pure_bind]
  exact ev.yields_bind h (ev.yields_pure _)

theorem comes_bind {x : ExceptT LookupError m α} {next : α → ExceptT LookupError m β} {a : α}
    {result : Except LookupError β} (hx : ev.Comes x (.ok a)) (hnext : ev.Comes (next a) result) :
    ev.Comes (x >>= next) result :=
  ev.yields_bind hx hnext

theorem comes_bind_error {x : ExceptT LookupError m α} {next : α → ExceptT LookupError m β}
    {error : LookupError} (hx : ev.Comes x (.error error)) :
    ev.Comes (x >>= next) (.error error) :=
  ev.yields_bind hx (ev.yields_pure _)

/-- A computation that asks the tree first and then goes on. -/
theorem comes_lift_bind [LawfulMonad m] {x : m α} {next : α → ExceptT LookupError m β} {a : α}
    {result : Except LookupError β} (hx : ev.Yields x a) (hnext : ev.Comes (next a) result) :
    ev.Comes (liftM x >>= next) result :=
  comes_bind (comes_lift hx) hnext

theorem comes_map {x : ExceptT LookupError m α} {result : Except LookupError α}
    (h : ev.Comes x result) (f : α → β) :
    ev.Comes (x >>= fun a => pure (f a)) (result.map f) := by
  cases result with
  | error error => exact comes_bind_error h
  | ok a => exact comes_bind h (comes_pure _)

end Evaluation

end KernelScope
