import KernelScope.Proofs.Folder
import KernelScope.Proofs.Json.Record
import KernelScope.Proofs.Memory.Invariant
import KernelScope.Proofs.Success
import KernelScope.Snapshot

/-!
# Snapshots saved and loaded

A snapshot that is saved and loaded again is the same snapshot, as long as its pointers are four or
eight bytes wide.  Its regions become the captured memory again because they are kept in the order
of their bases and none reaches into the next: each of them finds only regions below it that end at
or before its base.
-/

set_option autoImplicit false

namespace KernelScope

open Json

/-! ## Layouts and profiles in JSON -/

theorem TypeLayout.lossless : Lossless TypeLayout.ofJson? TypeLayout.toJson := by
  intro layout
  have hsize := lossless_word layout.size
  have hfields := lossless_table lossless_word layout.fields
  constructor
  · refine wellFormed_ofRecord ?_
    simpa using ⟨hsize.1, hfields.1⟩
  · have hrecord : layout.toJson.record? ["size", "fields"] =
        some [some (ofWord layout.size), some (ofTable ofWord layout.fields)] := by
      exact record?_ofRecord (by simp)
    simp [ofJson?, hrecord, Json.optional, hsize.2, hfields.2]

theorem Profile.lossless : Lossless Profile.ofJson? Profile.toJson := by
  intro profile
  have hsize := lossless_word profile.pointerSize
  have hsymbols := lossless_table lossless_word profile.symbols
  have htypes := lossless_table TypeLayout.lossless profile.types
  constructor
  · refine wellFormed_ofRecord ?_
    simpa using ⟨hsize.1, .bool profile.kernel, hsymbols.1, htypes.1⟩
  · have hrecord : profile.toJson.record? ["pointer_size", "kernel", "symbols", "types"] =
        some [some (ofWord profile.pointerSize), some (.bool profile.kernel),
          some (ofTable ofWord profile.symbols),
          some (ofTable TypeLayout.toJson profile.types)] := by
      exact record?_ofRecord (by simp)
    simp [ofJson?, hrecord, Json.optional, flag?, hsize.2, hsymbols.2, htypes.2]

/-! ## Snapshots in JSON -/

theorem Region.lossless : Lossless Region.ofJson? Region.toJson := by
  intro region
  have hbase := lossless_word region.base
  have hbytes := lossless_text region.bytes
  constructor
  · refine wellFormed_ofRecord ?_
    simpa using ⟨hbase.1, hbytes.1⟩
  · have hrecord : region.toJson.record? ["base", "bytes"] =
        some [some (ofWord region.base), some (ofText region.bytes)] := by
      exact record?_ofRecord (by simp)
    simp [ofJson?, hrecord, hbase.2, hbytes.2]

namespace Snapshot

theorem lossless : Lossless ofJson? toJson := by
  intro snapshot
  have hprofile := Profile.lossless snapshot.profile
  have hregions := lossless_array Region.lossless snapshot.regions
  constructor
  · refine wellFormed_ofRecord ?_
    simpa using ⟨hprofile.1, hregions.1⟩
  · have hrecord : snapshot.toJson.record? ["profile", "regions"] =
        some [some snapshot.profile.toJson,
          some (.array (snapshot.regions.map Region.toJson))] := by
      exact record?_ofRecord (by simp)
    have hread : (Json.array (snapshot.regions.map Region.toJson)).items?.bind
        (List.mapM Region.ofJson?) = some snapshot.regions := hregions.2
    simp [ofJson?, hrecord, Json.optional, hprofile.2, hread]

/-- The text of a snapshot is read as the snapshot if its profile is valid, and refused for its
profile otherwise. -/
theorem ofText_text (snapshot : Snapshot) :
    ofText snapshot.text = snapshot.profile.validate.map fun _ => snapshot := by
  obtain ⟨hwellFormed, hread⟩ := lossless snapshot
  unfold ofText text
  rw [parse?_pretty hwellFormed, Option.bind_some, hread]
  cases hvalid : snapshot.profile.validate with
  | error error => simp [hvalid, bind, Except.bind, Except.map]
  | ok _ => simp [hvalid, bind, Except.bind, Except.map, pure, Except.pure]

theorem save_eq_ok_iff (snapshot : Snapshot) (folder saved : Folder) (path : String) :
    snapshot.save folder path = .ok saved ↔
      folder.writeText path snapshot.text = .ok saved := by
  unfold save
  generalize folder.writeText path snapshot.text = written
  cases written with
  | error error => exact ⟨fun h => (nomatch h), fun h => (nomatch h)⟩
  | ok written => rw [mapError_ok, Except.ok.injEq, Except.ok.injEq]

/-- A snapshot can be saved wherever a path leads to a file that may have its name. -/
theorem exists_save (snapshot : Snapshot) {folder : Folder} {path base name : String}
    (hplace : folder.locate path = .ok (.file base name))
    (hshort : name.utf8ByteSize ≤ Folder.nameLimit) :
    ∃ saved, snapshot.save folder path = .ok saved := by
  have hwrite := (Folder.writeText_eq_ok_iff folder _ path snapshot.text).2
    ⟨base, name, hplace, hshort, rfl⟩
  exact ⟨_, (save_eq_ok_iff _ _ _ _).2 hwrite⟩

/-- A saved snapshot is read as its text. -/
theorem readText_of_save {snapshot : Snapshot} {folder saved : Folder} {path : String}
    (h : snapshot.save folder path = .ok saved) : saved.readText path = .ok snapshot.text :=
  Folder.readText_of_writeText ((save_eq_ok_iff _ _ _ _).1 h)

theorem load_of_save {snapshot : Snapshot} {folder saved : Folder} {path : String}
    (h : snapshot.save folder path = .ok saved) :
    load saved.readText path = snapshot.profile.validate.map fun _ => snapshot := by
  simp only [load, readText_of_save h, mapError_ok, ok_bind]
  exact ofText_text snapshot

/-- The profile of a snapshot that is loaded is valid. -/
theorem validate_of_load {readText : String → Except FileError String} {path : String}
    {snapshot : Snapshot} (hload : load readText path = .ok snapshot) :
    snapshot.profile.validate = .ok () := by
  obtain ⟨text, -, htext⟩ := bind_eq_ok hload
  unfold ofText at htext
  split at htext
  · cases htext
  next found hfound =>
    obtain ⟨⟨⟩, hvalid, hsame⟩ := bind_eq_ok htext
    cases hsame
    exact hvalid

/-- The text of a snapshot with a valid profile is loaded as the snapshot. -/
theorem load_text {snapshot : Snapshot} (hvalid : snapshot.profile.validate = .ok ())
    (path : String) : load (fun _ => .ok snapshot.text) path = .ok snapshot := by
  simp only [load, mapError_ok, ok_bind, ofText_text, hvalid]
  rfl

/-! ## Captured memory -/

/-- The regions of a memory that lie behind those already mapped can be mapped one after the other.
Each of them finds only regions below it, and these end at or before its base. -/
theorem foldlM_addRegion {memory : Memory} (hmem : memory.WellFormed)
    (later : List (Address × Array UInt8)) (current : Memory) (hcurrent : current.WellFormed)
    (hsplit : memory.toList = current.toList ++ later) :
    (later.map fun region => (⟨region.1, Hex.ofBytes region.2.toList⟩ : Region)).foldlM
      addRegion current = .ok memory := by
  induction later generalizing current with
  | nil =>
    rw [List.append_nil] at hsplit
    have hregions : current.regions = memory.regions := OrderedMap.ext hsplit.symm
    have hsame : current = memory := by
      cases current
      cases memory
      exact congrArg Memory.mk hregions
    rw [hsame]
    rfl
  | cons region later ih =>
    have hregion : region ∈ memory.toList := by
      rw [hsplit]
      exact List.mem_append_right _ List.mem_cons_self
    have hbelow : ∀ other ∈ current.toList,
        other.1 < region.1 ∧ other.1.toNat + other.2.size ≤ region.1.toNat := by
      intro other hother
      have hmember : other ∈ memory.toList := by
        rw [hsplit]
        exact List.mem_append_left _ hother
      have hincreasing := memory.bases_increasing
      rw [hsplit, List.pairwise_append] at hincreasing
      have hbefore := hincreasing.2.2 other hother region List.mem_cons_self
      exact ⟨hbefore, hmem.apart other hmember region hregion hbefore⟩
    obtain ⟨changed, hmap, hchanged⟩ := hcurrent.map_above (hmem.ends region hregion) hbelow
    have hadd : addRegion current ⟨region.1, Hex.ofBytes region.2.toList⟩ = .ok changed := by
      simp only [addRegion, Hex.toBytes_ofBytes, mapError_ok, ok_bind, Array.toArray_toList, hmap,
        liftM_memory_profile]
    have hrest : memory.toList = changed.toList ++ later := by
      rw [hchanged, hsplit, List.append_assoc, List.singleton_append]
    rw [List.map_cons, List.foldlM_cons, hadd]
    exact ih changed (hcurrent.wellFormed_of_map hmap) hrest

/-- The regions of a captured memory become that memory again. -/
theorem memory_capture (profile : Profile) {memory : Memory} (hmem : memory.WellFormed) :
    (capture profile memory).memory = .ok memory :=
  foldlM_addRegion hmem memory.toList .empty Memory.wellFormed_empty rfl

/-- A captured target that is saved can be loaded exactly if its pointers are four or eight bytes
wide, and is refused for their width otherwise.  What is loaded has the same profile, and its memory
has the same regions as the memory at the end of the run that was captured, so that capturing it
again gives the same text. -/
theorem load_of_save_capture (profile : Profile) (operations : List Memory.Operation)
    {folder saved : Folder} {path : String}
    (hsave : (capture profile (.run operations)).save folder path = .ok saved) :
    ((∃ loaded, load saved.readText path = .ok loaded) ↔
      profile.pointerSize = 4 ∨ profile.pointerSize = 8) ∧
    (¬ (profile.pointerSize = 4 ∨ profile.pointerSize = 8) →
      load saved.readText path = .error (.pointerSize profile.pointerSize)) ∧
    ∀ loaded, load saved.readText path = .ok loaded →
      loaded.profile = profile ∧
      ∃ memory, loaded.memory = .ok memory ∧
        memory.toList = (Memory.run operations).toList ∧
        (capture loaded.profile memory).text = (capture profile (.run operations)).text ∧
        ∀ folder' path' saved', (capture loaded.profile memory).save folder' path' = .ok saved' →
          saved'.readText path' = saved.readText path := by
  have hload := load_of_save hsave
  have hmemory := memory_capture profile (Memory.wellFormed_run operations)
  rw [hload]
  by_cases hwidth : profile.pointerSize = 4 ∨ profile.pointerSize = 8
  · have hvalid : (capture profile (.run operations)).profile.validate = .ok () := if_pos hwidth
    rw [hvalid]
    refine ⟨⟨fun _ => hwidth, fun _ => ⟨_, rfl⟩⟩, fun hnot => absurd hwidth hnot, ?_⟩
    rintro loaded ⟨⟩
    refine ⟨rfl, .run operations, hmemory, rfl, rfl, ?_⟩
    intro folder' path' saved' hagain
    rw [readText_of_save hsave, readText_of_save hagain]
    rfl
  · have hinvalid : (capture profile (.run operations)).profile.validate =
        .error (.pointerSize profile.pointerSize) := if_neg hwidth
    rw [hinvalid]
    refine ⟨⟨?_, fun h => absurd h hwidth⟩, fun _ => rfl, ?_⟩
    · rintro ⟨loaded, hloaded⟩
      cases hloaded
    · rintro loaded hloaded
      cases hloaded

/-- A profile of which no name can be written without an escape. -/
def escapedProfile : Profile where
  pointerSize := 8
  kernel := true
  symbols := .ofList [("nt!\"Root\"", 0x1000), ("nt!Root\n", 0xFFFFF80000001000)]
  types := .ofList [("nt!\\Type", (TypeLayout.ofSize 8).withField "\x01" 4)]

/-- With such a profile, two touching regions, of which one is empty, are saved to a new file and
loaded. -/
theorem load_of_save_capture_touching :
    ∃ saved,
      (capture escapedProfile
        (.run [.map 16 #[0xde, 0xad], .map 18 #[]])).save .empty "a" = .ok saved ∧
      ∃ loaded, load saved.readText "a" = .ok loaded ∧ loaded.profile = escapedProfile := by
  have hparts : List.splitOn '/' ['a'] = [['a']] := by decide
  have hshort : ¬ Folder.pathLimit < "a".utf8ByteSize := by decide
  have hplace : Folder.empty.locate "a" = .ok (.file "" "a") := by
    simp [Folder.locate, Folder.follow, hparts, hshort]
  obtain ⟨saved, hsave⟩ := exists_save
    (capture escapedProfile (.run [.map 16 #[0xde, 0xad], .map 18 #[]])) hplace (by decide)
  obtain ⟨hloads, -, hsame⟩ := load_of_save_capture _ _ hsave
  obtain ⟨loaded, hloaded⟩ := hloads.2 (.inr rfl)
  exact ⟨saved, hsave, loaded, hloaded, (hsame loaded hloaded).1⟩

end Snapshot

end KernelScope
