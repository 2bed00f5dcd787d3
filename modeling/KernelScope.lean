import KernelScope.Main
import KernelScope.ObjectTree.Table
import KernelScope.Session
import KernelScope.Proofs.Memory.Invariant
import KernelScope.Proofs.ObjectPath
import KernelScope.Proofs.ObjectTree.Scan
import KernelScope.Proofs.ObjectTree.Lookup
import KernelScope.Proofs.ObjectTree.Listing
import KernelScope.Proofs.ObjectTree.Composition
import KernelScope.Proofs.Json.Scanner
import KernelScope.Proofs.Json.RoundTrip
import KernelScope.Proofs.Folder
import KernelScope.Proofs.Json.Record
import KernelScope.Proofs.Snapshot
import KernelScope.Proofs.Memory.Read
import KernelScope.Proofs.Construction
import KernelScope.Proofs.Memory.Outcome
import KernelScope.Proofs.Memory.Regions
import KernelScope.Proofs.Target
import KernelScope.Proofs.ObjectTree.Evaluation
import KernelScope.Proofs.ObjectTree.Simulation
import KernelScope.Proofs.ObjectManager.Image
import KernelScope.Proofs.ObjectManager.Answers
import KernelScope.Proofs.Report
import KernelScope.Proofs.Inspect
import KernelScope.Proofs.ObjectManager.Cache
import KernelScope.Proofs.Session
import KernelScope.Proofs.ObjectManager.Overflow
import KernelScope.Proofs.Command.Overflow
import KernelScope.Proofs.Command.Line
import KernelScope.Proofs.ObjectTree.LinkCount
import KernelScope.Proofs.ObjectTree.Rows
import KernelScope.Proofs.ObjectTree.CaseVariants
import KernelScope.Proofs.ObjectManager.Header
import KernelScope.Proofs.Memory.Exact
import KernelScope.Proofs.Memory.Patch
import KernelScope.Proofs.Memory.Placement
import KernelScope.Proofs.CountedString
import KernelScope.Proofs.Memory.Unmapped
import KernelScope.Proofs.Symbols
import KernelScope.Proofs.Address.Text
import KernelScope.Proofs.Sample
import KernelScope.Proofs.Dump
import KernelScope.Proofs.WordArrays
import KernelScope.Proofs.ObjectTree.Descent
import KernelScope.Proofs.ObjectTree.ChainLimit
import KernelScope.Proofs.Command.Seams
