import KernelScope.Command.Error
import KernelScope.Proofs.Success
import KernelScope.Report

/-!
# Reports in sequence

A report that writes nothing and succeeds leaves what follows as it is, and a sequence of reports
ends as their outcomes do in sequence.  Questions to a target are reports that write nothing.
-/

set_option autoImplicit false

namespace KernelScope.Report

variable {ε α β : Type}

/-! ## Sequences -/

@[simp] theorem ofExcept_ok_bind (a : α) (next : α → Report ε β) :
    (ofExcept (.ok a) >>= next) = next a := by
  change (⟨"" ++ (next a).text, (next a).outcome⟩ : Report ε β) = next a
  rw [String.empty_append]

/-- A sequence ends as the outcomes do in sequence. -/
theorem outcome_bind (first : Report ε α) (next : α → Report ε β) :
    (first >>= next).outcome = first.outcome >>= fun a => (next a).outcome := by
  obtain ⟨text, outcome⟩ := first
  cases outcome <;> rfl

theorem bind_of_ok {first : Report ε α} {a : α} (h : first.outcome = .ok a)
    (next : α → Report ε β) : first >>= next = ⟨first.text ++ (next a).text, (next a).outcome⟩ := by
  obtain ⟨text, outcome⟩ := first
  obtain rfl : outcome = .ok a := h
  rfl

theorem bind_of_error {first : Report ε α} {error : ε} (h : first.outcome = .error error)
    (next : α → Report ε β) : first >>= next = ⟨first.text, .error error⟩ := by
  obtain ⟨text, outcome⟩ := first
  obtain rfl : outcome = .error error := h
  rfl

instance : LawfulMonad (Report ε) := by
  refine .mk' _ (fun report => ?_) (fun a next => ofExcept_ok_bind a next) fun first next last => ?_
  · obtain ⟨text, outcome⟩ := report
    cases outcome with
    | error error => rfl
    | ok a => exact congrArg (Report.mk · _) (String.append_empty)
  · obtain ⟨text, outcome⟩ := first
    cases outcome with
    | error error => rfl
    | ok a =>
      rw [bind_of_ok (a := a) rfl, bind_of_ok (a := a) rfl]
      obtain ⟨nextText, nextOutcome⟩ := next a
      cases nextOutcome with
      | error error => rfl
      | ok b => exact congrArg (Report.mk · _) (String.append_assoc)

/-! ## Runs over a list -/

section Runs

variable {step : α → Report ε Unit}

/-- What a run has written where no step fails. -/
theorem forM_of_ok {items : List α} (h : ∀ item ∈ items, (step item).outcome = .ok ()) :
    forM items step = ⟨String.join (items.map fun item => (step item).text), .ok ()⟩ := by
  induction items with
  | nil => rfl
  | cons item items ih =>
    obtain ⟨hitem, hitems⟩ := List.forall_mem_cons.1 h
    rw [List.forM_cons, bind_of_ok hitem, ih hitems, List.map_cons, String.join_cons]

/-- What a run has written where a step fails: what it wrote before, and what the step wrote before
it failed. -/
theorem forM_of_error {before after : List α} {item : α} {error : ε}
    (hbefore : ∀ earlier ∈ before, (step earlier).outcome = .ok ())
    (hitem : (step item).outcome = .error error) :
    forM (before ++ item :: after) step =
      ⟨String.join ((before ++ [item]).map fun item => (step item).text), .error error⟩ := by
  have hrest : forM (item :: after) step = ⟨(step item).text, .error error⟩ := by
    rw [List.forM_cons, bind_of_error hitem]
  rw [List.forM_append, forM_of_ok hbefore, hrest, List.map_append, String.join_append,
    List.map_singleton, String.join_cons, String.join_nil, String.append_empty]
  rfl

end Runs

/-! ## Questions -/

theorem liftM_command (result : Except CommandError α) :
    (liftM result : Report CommandError α) = ofExcept result := rfl

theorem liftM_target (result : Except TargetError α) :
    (liftM result : Report CommandError α) =
      ofExcept ((result.mapError ServiceError.target).mapError .service) := rfl

theorem liftM_object (result : Except ObjectError α) :
    (liftM result : Report CommandError α) = ofExcept (result.mapError .object) := rfl

end KernelScope.Report
