import KernelScope.Command.Inspect
import KernelScope.Proofs.ObjectManager.Cache
import KernelScope.Proofs.Report

/-!
# Several drivers in a row

The routines of several drivers are shown through objects that are opened once, and the type of
directories is read for the first driver that needs it.  Since a target does not change, it stays
what memory holds (`Current`): every lookup comes to what it would come to with no type kept
(`lookup_of_current`).  So the drivers are shown as if each was looked up anew (`drivers_eq`), and
that is as if each was shown by itself (`drivers_eq_forM`).
-/

set_option autoImplicit false

namespace KernelScope

open ObjectManager (Current current_none)

/-! ## What is known stays current -/

/-- Shows the routines of a driver that is looked up with no type of directories kept. -/
def Inspect.driverAnew (manager : ObjectManager) (target : Target) (name : String) : Output Unit :=
  majorFunctions target (driverPath name) (lookup manager target (driverPath name))

section Current

variable (manager : ObjectManager) {target : Target} {known : Option Address}
  (hcurrent : Current target known)

include hcurrent

/-- A lookup finds what a lookup in memory finds, and what is known after it is current again. -/
theorem OpenObjects.lookup_of_current (path : String) :
    ∃ later, Current target later ∧ (OpenObjects.mk manager known).lookup target path =
      (Inspect.lookup manager target path, ⟨manager, later⟩) := by
  have hwalks := (ObjectManager.couples_currentType manager target).lookup defaultChainLimit path
  obtain ⟨later, hlater, hrun⟩ := hwalks.2 known hcurrent
  refine ⟨later, hlater, ?_⟩
  rw [lookup, OpenObjects.run, hrun, Inspect.lookup]
  cases ((manager.tree target).lookup defaultChainLimit path).run with
  | ok result => rfl
  | error error => rfl

namespace Inspect

theorem driver_of_current (name : String) :
    ∃ later, Current target later ∧ driver target ⟨manager, known⟩ name = (do
      driverAnew manager target name
      return ⟨manager, later⟩) := by
  obtain ⟨later, hlater, hlookup⟩ :=
    OpenObjects.lookup_of_current manager hcurrent (driverPath name)
  refine ⟨later, hlater, ?_⟩
  simp only [driver, hlookup]
  rfl

/-- What one driver leaves known is current for the next one. -/
theorem foldlM_driver_of_current (names : List String) :
    discard (names.foldlM (driver target) ⟨manager, known⟩) =
      forM names (driverAnew manager target) := by
  induction names generalizing known with
  | nil => rfl
  | cons name names ih =>
    obtain ⟨later, hlater, hdriver⟩ := driver_of_current manager hcurrent name
    rw [List.foldlM_cons, hdriver, List.forM_cons, ← ih hlater]
    simp only [discard, LawfulFunctor.map_const, Function.comp_apply, map_bind, bind_assoc,
      pure_bind]

end Inspect

end Current

/-! ## Drivers in a row -/

namespace Inspect

/-- The drivers are shown as each is with no type of directories kept from the ones before. -/
theorem drivers_eq (target : Target) (names : List String) :
    drivers target names = (do
      let manager ← ObjectManager.probe target
      forM names (driverAnew manager target)) := by
  have hrest (manager : ObjectManager) :=
    foldlM_driver_of_current manager (current_none target) names
  simp only [drivers, hrest]

section Probed

variable {target : Target} {manager : ObjectManager}
  (hprobe : ObjectManager.probe target = .ok manager)

include hprobe

theorem drivers_of_probe (names : List String) :
    drivers target names = forM names (driverAnew manager target) := by
  rw [drivers_eq, hprobe]
  exact Report.ofExcept_ok_bind manager _

theorem drivers_singleton_of_probe (name : String) :
    drivers target [name] = driverAnew manager target name := by
  rw [drivers_of_probe hprobe, List.forM_cons, List.forM_nil, bind_pure_unit]

end Probed

/-- Several drivers are shown as each is shown by itself, up to the first that cannot be shown. -/
theorem drivers_eq_forM (target : Target) {names : List String} (hne : names ≠ []) :
    drivers target names = forM names fun name => drivers target [name] := by
  cases hprobe : ObjectManager.probe target with
  | ok manager =>
    have hsingle : (fun name => drivers target [name]) = driverAnew manager target :=
      funext (drivers_singleton_of_probe hprobe)
    rw [drivers_of_probe hprobe, hsingle]
  | error error =>
    -- no driver is shown, so the first one ends the run as it ends by itself
    have hnone : ∀ names,
        drivers target names = .ofExcept (.error (.service (.target error))) := by
      intro names
      rw [drivers_eq, hprobe]
      rfl
    obtain ⟨name, rest, rfl⟩ := List.exists_cons_of_ne_nil hne
    rw [hnone, List.forM_cons, hnone]
    rfl

end Inspect

end KernelScope
