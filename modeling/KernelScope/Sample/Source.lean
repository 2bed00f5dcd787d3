/-!
# Sources of the samples

The text that is shown for each sample.  These lines are output, and are written out exactly.
-/

set_option autoImplicit false

namespace KernelScope.Sample

/-- The text of some lines. -/
def ofLines (lines : List String) : String := String.join (lines.map (· ++ "\n"))

/-- The source of the sample that shows the service table. -/
def serviceSource : String :=
  ofLines [
    "//! Dump the kernel system service table with symbols.",
    "",
    "use std::io::Write;",
    "",
    "use anyhow::Result;",
    "",
    "use crate::debug::DebugTarget;",
    "use crate::kernel::ssdt::ServiceTable;",
    "",
    "pub fn run(target: &dyn DebugTarget, out: &mut dyn Write, _args: &[String]) -> Result<()> \x7b",
    "    let table = ServiceTable::read(target)?;",
    "    table.print(target, out)?;",
    "    Ok(())",
    "\x7d"
  ]

/-- The source of the sample that shows the routines of drivers. -/
def driverSource : String :=
  ofLines [
    "//! Print the IRP dispatch table of named drivers.",
    "//!",
    "//! Usage: `run km.drvobj [driver ...]` (defaults to `afd` and `ntfs`)",
    "",
    "use std::io::Write;",
    "",
    "use anyhow::Result;",
    "",
    "use crate::debug::DebugTarget;",
    "use crate::kernel::driver::print_major_table;",
    "use crate::kernel::object::KernelObjects;",
    "",
    "const DEFAULT_DRIVERS: [&str; 2] = [\"afd\", \"ntfs\"];",
    "",
    "pub fn run(target: &dyn DebugTarget, out: &mut dyn Write, args: &[String]) -> Result<()> \x7b",
    "    let objects = KernelObjects::new(target)?;",
    "",
    "    if args.is_empty() \x7b",
    "        for name in DEFAULT_DRIVERS \x7b",
    "            print_major_table(&objects, out, name)?;",
    "        \x7d",
    "    \x7d else \x7b",
    "        for name in args \x7b",
    "            print_major_table(&objects, out, name)?;",
    "        \x7d",
    "    \x7d",
    "    Ok(())",
    "\x7d"
  ]

end KernelScope.Sample
