import KernelScope.Proofs.Drivers
import KernelScope.Proofs.Inspect
import KernelScope.Proofs.ObjectManager.Image

/-!
# Samples and the commands they stand for

The sample for drivers opens the objects of a target once and shows driver after driver; the command
for a driver opens them for itself.  As drivers in a row are shown as each is by itself, the sample
is the commands for its drivers run one after another (`output_run_drivers`).  What such a run has
written, and how it ends, is said for runs over any list.
-/

set_option autoImplicit false

namespace KernelScope

/-- The drivers that the sample shows: those named, or the usual ones if none is. -/
def Sample.shownDrivers (names : List String) : List String :=
  if names = [] then ["afd", "ntfs"] else names

namespace Command

open Sample (shownDrivers)

variable {target : Target} {coloured : Bool}

/-! ## Commands that are executed -/

theorem text_execute (command : Command) :
    (command.execute target coloured).text = (command.output target coloured).text := by
  rw [execute_eq]

theorem outcome_of_execute_ok {command : Command}
    (h : ∃ flow, (command.execute target coloured).outcome = .ok flow) :
    (command.output target coloured).outcome = .ok () := by
  obtain ⟨flow, hflow⟩ := h
  rw [execute_eq] at hflow
  obtain ⟨⟨⟩, houtput, -⟩ := map_eq_ok hflow
  exact houtput

theorem outcome_of_execute_error {command : Command} {error : CommandError}
    (h : (command.execute target coloured).outcome = .error error) :
    (command.output target coloured).outcome = .error error := by
  rw [execute_eq] at h
  cases houtput : (command.output target coloured).outcome with
  | ok value =>
    rw [houtput] at h
    cases h
  | error other =>
    rw [houtput] at h
    cases h
    rfl

/-! ## Samples -/

section Kernel

variable (hkernel : target.profile.kernel = true)

include hkernel

theorem output_run_drivers (names : List String) :
    (run "km.drvobj" names).output target coloured =
      forM (shownDrivers names) fun name => (driver name).output target coloured := by
  have hnamed : Sample.named "km.drvobj" = .ok .drivers := by decide
  have hshown : (if names.isEmpty then Sample.defaultDrivers else names) = shownDrivers names := by
    cases names <;> rfl
  have hne : shownDrivers names ≠ [] := by
    cases names <;> simp [shownDrivers]
  change Sample.run target "km.drvobj" names =
    forM (shownDrivers names) fun name => Inspect.drivers target [name]
  rw [Sample.run, hnamed, Report.liftM_command, Report.ofExcept_ok_bind, if_pos hkernel,
    Sample.runOn, hshown]
  exact Inspect.drivers_eq_forM target hne

theorem output_run_services (arguments : List String) :
    (run "km.ssdt" arguments).output target coloured = services.output target coloured := by
  have hnamed : Sample.named "km.ssdt" = .ok .services := by decide
  change Sample.run target "km.ssdt" arguments = Inspect.services target
  rw [Sample.run, hnamed, Report.liftM_command, Report.ofExcept_ok_bind, if_pos hkernel,
    Sample.runOn]

end Kernel

theorem output_run_of_not_kernel (hkernel : target.profile.kernel = false) (sample : Sample)
    (arguments : List String) :
    (run sample.name arguments).output target coloured = .write "not a kernel debugging\n" := by
  have hnamed : Sample.named sample.name = .ok sample := by cases sample <;> decide
  change Sample.run target sample.name arguments = _
  rw [Sample.run, hnamed, Report.liftM_command, Report.ofExcept_ok_bind, hkernel]
  rfl

variable (target coloured) in
/-- On a kernel the sample for drivers shows what the command for a driver shows for the names in
order.  Where all of these commands succeed the sample does, and otherwise it stops at the first
that fails, with what that one has shown and its error.  The sample for services is the command for
services, whatever it is given.  On another target both only say that it is no kernel. -/
theorem execute_run (names : List String) :
    (target.profile.kernel = true →
      ((∀ name ∈ shownDrivers names,
          ∃ flow, ((driver name).execute target coloured).outcome = .ok flow) →
        (run "km.drvobj" names).execute target coloured =
          ⟨String.join ((shownDrivers names).map fun name =>
            ((driver name).execute target coloured).text), .ok .goOn⟩) ∧
      (∀ before name after error, shownDrivers names = before ++ name :: after →
        (∀ earlier ∈ before,
          ∃ flow, ((driver earlier).execute target coloured).outcome = .ok flow) →
        ((driver name).execute target coloured).outcome = .error error →
        (run "km.drvobj" names).execute target coloured =
          ⟨String.join ((before ++ [name]).map fun shown =>
            ((driver shown).execute target coloured).text), .error error⟩) ∧
      ∀ arguments,
        (run "km.ssdt" arguments).execute target coloured = services.execute target coloured) ∧
    (target.profile.kernel = false → ∀ sample ∈ ["km.drvobj", "km.ssdt"], ∀ arguments,
      (run sample arguments).execute target coloured =
        ⟨"not a kernel debugging\n", .ok .goOn⟩) := by
  simp only [text_execute]
  refine ⟨fun hkernel => ⟨fun hall => ?_, ?_, fun arguments => ?_⟩, fun hkernel => ?_⟩
  · have hrun := Report.forM_of_ok fun name hname => outcome_of_execute_ok (hall name hname)
    rw [execute_eq, output_run_drivers hkernel, hrun]
    rfl
  · intro before name after error hshown hbefore herror
    have hearlier : ∀ earlier ∈ before,
        ((driver earlier).output target coloured).outcome = .ok () :=
      fun earlier hmem => outcome_of_execute_ok (hbefore earlier hmem)
    rw [execute_eq, output_run_drivers hkernel, hshown,
      Report.forM_of_error hearlier (outcome_of_execute_error herror)]
    rfl
  · rw [execute_eq, execute_eq, output_run_services hkernel]
    rfl
  · intro name hname arguments
    obtain ⟨sample, rfl⟩ : ∃ sample : Sample, name = sample.name := by
      rcases List.mem_cons.1 hname with rfl | hlast
      · exact ⟨.drivers, rfl⟩
      · exact ⟨.services, List.mem_singleton.1 hlast⟩
    exact execute_of_output (output_run_of_not_kernel hkernel sample arguments) (by simp)

/-! ## A directory in itself -/

/-- An image of a root called `Driver` whose only entry is the root: the two symbols, the record of
the name, the name, the header of the root, its buckets, and the link. -/
def loopBytes : List UInt8 :=
  [0x24, 0x10, 0, 0, 0x77, 0, 0, 0] ++ [12, 0, 12, 0, 0x10, 0x10, 0, 0] ++
    [0x44, 0, 0x72, 0, 0x69, 0, 0x76, 0, 0x65, 0, 0x72, 0] ++ [20, 0, 0, 0, 0x77, 0, 0, 0] ++
    [0xB8, 0x10, 0, 0] ++ List.replicate 144 0 ++ [0, 0, 0, 0, 0x24, 0x10, 0, 0]

/-- A kernel with that image from 0x1000 on, whose drivers have no known layout. -/
def loopTarget : Target :=
  .ofMemory ObjectManager.smallProfile (.run [.map 0x1000 loopBytes.toArray])

/-- Below the root in itself `afd` and `ntfs` are not found, and the root is found as a driver whose
routines cannot be read. -/
theorem execute_run_loop :
    (run "km.drvobj" []).execute loopTarget false =
        ⟨"object not found\nobject not found\n", .ok .goOn⟩ ∧
      (run "km.drvobj" ["afd", "driver", "ntfs"]).execute loopTarget false =
        ⟨"object not found\n\\Driver\\driver 1024\n",
          .error (.service (.target (.unknownType "nt!_DRIVER_OBJECT")))⟩ ∧
      (run "km.ssdt" ["afd"]).execute loopTarget false = services.execute loopTarget false ∧
      (run "km.ssdt" []).execute (.ofMemory (.ofPointerSize 8 false) .empty) false =
        ⟨"not a kernel debugging\n", .ok .goOn⟩ := by
  have hmissing : ∀ name ∈ ["afd", "ntfs"],
      ((driver name).execute loopTarget false).text = Inspect.notFoundLine ∧
        ((driver name).execute loopTarget false).outcome = .ok .goOn := by
    decide +kernel
  have hroot : ((driver "driver").execute loopTarget false).text = "\\Driver\\driver 1024\n" ∧
      ((driver "driver").execute loopTarget false).outcome =
        .error (.service (.target (.unknownType "nt!_DRIVER_OBJECT"))) := by
    decide +kernel
  obtain ⟨hdefault, -⟩ := execute_run loopTarget false []
  obtain ⟨hthree, -⟩ := execute_run loopTarget false ["afd", "driver", "ntfs"]
  obtain ⟨-, hprocess⟩ := execute_run (.ofMemory (.ofPointerSize 8 false) .empty) false []
  obtain ⟨hall, -, hservices⟩ := hdefault rfl
  obtain ⟨-, hfirst, -⟩ := hthree rfl
  refine ⟨?_, ?_, hservices ["afd"], hprocess rfl "km.ssdt" (by simp) []⟩
  · rw [hall fun name hname => ⟨.goOn, (hmissing name hname).2⟩]
    simp [shownDrivers, hmissing, Inspect.notFoundLine]
  · rw [hfirst ["afd"] "driver" ["ntfs"] _ rfl (by simp [hmissing]) hroot.2]
    simp [hmissing, hroot, Inspect.notFoundLine]

end Command

end KernelScope
