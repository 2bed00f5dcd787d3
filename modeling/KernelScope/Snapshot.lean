import KernelScope.Json.Printer
import KernelScope.Profile

/-!
# Snapshots

A snapshot is a profile together with captured memory, so that a target can be examined without
being there.  Its regions are kept as hexadecimal text and become memory one by one, in the order in
which they are given.
-/

set_option autoImplicit false

namespace KernelScope

/-- A captured region: its base and its bytes, two digits each. -/
structure Region where
  base : Address
  bytes : String
  deriving DecidableEq, Repr

namespace Region

/-- Reads a region from JSON. -/
def ofJson? (json : Json) : Option Region := do
  match ← json.record? ["base", "bytes"] with
  | [some base, some bytes] => return ⟨← base.word?, ← bytes.text?⟩
  | _ => none

/-- A region in JSON. -/
def toJson (region : Region) : Json :=
  .ofRecord [("base", .ofWord region.base), ("bytes", .ofText region.bytes)]

end Region

/-- A profile and captured regions. -/
structure Snapshot where
  profile : Profile
  regions : List Region
  deriving DecidableEq, Repr

namespace Snapshot

/-- The snapshot of a profile and a memory. -/
def capture (profile : Profile) (memory : Memory) : Snapshot where
  profile := profile
  regions := memory.toList.map fun region => ⟨region.1, Hex.ofBytes region.2.toList⟩

/-- Maps a region into memory. -/
def addRegion (memory : Memory) (region : Region) : Except ProfileError Memory := do
  let bytes ← (Hex.toBytes region.bytes).mapError (.regionBytes region.base)
  memory.map region.base bytes.toArray

/-- The memory that the regions describe. -/
def memory (snapshot : Snapshot) : Except ProfileError Memory :=
  snapshot.regions.foldlM addRegion .empty

/-- Reads a snapshot from JSON; it may have no regions. -/
def ofJson? (json : Json) : Option Snapshot := do
  match ← json.record? ["profile", "regions"] with
  | [some profile, regions] =>
    return {
      profile := ← Profile.ofJson? profile
      regions := ← Json.optional (fun json => json.items? >>= List.mapM Region.ofJson?) [] regions }
  | _ => none

/-- A snapshot in JSON. -/
def toJson (snapshot : Snapshot) : Json :=
  .ofRecord [
    ("profile", snapshot.profile.toJson),
    ("regions", .array (snapshot.regions.map Region.toJson))]

/-- Reads a snapshot with a valid profile from a text. -/
def ofText (text : String) : Except ProfileError Snapshot := do
  match (Json.parse? text).bind ofJson? with
  | none => .error .malformed
  | some snapshot =>
    snapshot.profile.validate
    return snapshot

/-- The text of a snapshot. -/
def text (snapshot : Snapshot) : String := snapshot.toJson.pretty

/-- Loads the snapshot at a path; `readText` is how files are read. -/
def load (readText : String → Except FileError String) (path : String) :
    Except ProfileError Snapshot := do
  ofText (← (readText path).mapError (.file path))

/-- The folder after the snapshot is saved at a path. -/
def save (snapshot : Snapshot) (folder : Folder) (path : String) : Except ProfileError Folder :=
  (folder.writeText path snapshot.text).mapError (.file path)

end Snapshot

end KernelScope
