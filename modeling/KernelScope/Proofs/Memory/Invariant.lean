import Mathlib.Algebra.Group.Nat.Defs
import KernelScope.Memory
import KernelScope.Proofs.OrderedMap

/-!
# The invariant of captured memory

Mapping looks at the nearest region on each side only.  That this keeps all regions apart, however
many there are, is an invariant of whole runs: every region ends at an address, and ends at or
before the base of any later region (`wellFormed_run`).  What a single successful step does to the
regions is said by `mem_toList_of_map` and `extents_of_write`.
-/

set_option autoImplicit false

namespace KernelScope.Memory

/-! ## Runs -/

/-- A change to a memory. -/
inductive Operation where
  | map (base : Address) (bytes : Array UInt8)
  | write (address : Address) (bytes : Array UInt8)

/-- What an operation on a memory comes to. -/
def apply (memory : Memory) : Operation → Except MemoryError Memory
  | .map base bytes => memory.map base bytes
  | .write address bytes => memory.write address bytes

/-- The memory behind an operation; one that fails leaves the memory as it was. -/
def after (memory : Memory) (operation : Operation) : Memory :=
  match memory.apply operation with
  | .ok changed => changed
  | .error _ => memory

/-- The memory behind a run of operations, of which any may fail. -/
def run (operations : List Operation) : Memory := operations.foldl after empty

theorem after_of_ok {memory changed : Memory} {operation : Operation}
    (h : memory.apply operation = .ok changed) : memory.after operation = changed := by
  rw [after, h]

theorem after_of_error {memory : Memory} {operation : Operation} {error : MemoryError}
    (h : memory.apply operation = .error error) : memory.after operation = memory := by
  rw [after, h]

theorem run_append_singleton (operations : List Operation) (operation : Operation) :
    run (operations ++ [operation]) = (run operations).after operation := by
  simp [run]

/-! ## The invariant -/

/-- A region and the addresses of its bytes. -/
def Covers (region : Address × Array UInt8) (address : Nat) : Prop :=
  region.1.toNat ≤ address ∧ address < region.1.toNat + region.2.size

/-- Every region ends at an address, and at or before the base of any later one. -/
structure WellFormed (memory : Memory) : Prop where
  ends : ∀ region ∈ memory.toList, region.1.toNat + region.2.size < wordLimit
  apart : ∀ low ∈ memory.toList, ∀ high ∈ memory.toList, low.1 < high.1 →
    low.1.toNat + low.2.size ≤ high.1.toNat

/-- Where the regions lie and how long they are. -/
def extents (memory : Memory) : List (Address × Nat) :=
  memory.toList.map fun region => (region.1, region.2.size)

theorem keyBefore_iff (low high : Address × Array UInt8) :
    KeyBefore low high ↔ low.1 < high.1 := Std.compare_eq_lt

/-- The regions stand in the order of their bases, and no base is there twice. -/
theorem bases_increasing (memory : Memory) :
    memory.toList.Pairwise fun low high => low.1 < high.1 :=
  memory.regions.increasing.imp fun {low high} h => (keyBefore_iff low high).1 h

/-- The invariant is about the extents of the regions, not about their bytes. -/
theorem wellFormed_iff_extents (memory : Memory) :
    memory.WellFormed ↔
      (∀ extent ∈ memory.extents, extent.1.toNat + extent.2 < wordLimit) ∧
        ∀ low ∈ memory.extents, ∀ high ∈ memory.extents, low.1 < high.1 →
          low.1.toNat + low.2 ≤ high.1.toNat := by
  simp only [extents, List.forall_mem_map]
  exact ⟨fun h => ⟨h.ends, h.apart⟩, fun h => ⟨h.1, h.2⟩⟩

/-- A sum that is an address does not wrap. -/
theorem toNat_add_ofNat {address : Address} {distance : Nat}
    (h : address.toNat + distance < wordLimit) :
    (address + UInt64.ofNat distance).toNat = address.toNat + distance := by
  have hdistance : distance < UInt64.size := Nat.lt_of_le_of_lt (Nat.le_add_left _ _) h
  rw [UInt64.toNat_add, UInt64.toNat_ofNat_of_lt' hdistance]
  exact Nat.mod_eq_of_lt h

namespace WellFormed

variable {memory : Memory} (hmem : memory.WellFormed)

include hmem

/-- No address belongs to two regions. -/
theorem eq_of_covers {r s : Address × Array UInt8} (hr : r ∈ memory.toList)
    (hs : s ∈ memory.toList) {address : Nat} (hra : Covers r address) (hsa : Covers s address) :
    r = s := by
  obtain ⟨hrlow, hrhigh⟩ := hra
  obtain ⟨hslow, hshigh⟩ := hsa
  rcases OrderedMap.keyBefore_or_eq memory.regions.increasing hr hs with h | h | h
  · have hapart := hmem.apart r hr s hs ((keyBefore_iff r s).1 h)
    omega
  · exact h
  · have hapart := hmem.apart s hs r hr ((keyBefore_iff s r).1 h)
    omega

/-- The length of a region is a word. -/
theorem toNat_size {region : Address × Array UInt8} (hregion : region ∈ memory.toList) :
    (UInt64.ofNat region.2.size).toNat = region.2.size := by
  have hend := hmem.ends region hregion
  exact UInt64.toNat_ofNat_of_lt' (by unfold wordLimit at hend; simp only [UInt64.size]; omega)

/-- The end of a region is an address. -/
theorem toNat_end {region : Address × Array UInt8} (hregion : region ∈ memory.toList) :
    (region.1 + UInt64.ofNat region.2.size).toNat = region.1.toNat + region.2.size :=
  toNat_add_ofNat (hmem.ends region hregion)

/-- The checked sum for the end of a region never fails. -/
theorem regionEnd_eq_ok {region : Address × Array UInt8} (hregion : region ∈ memory.toList) :
    ∃ stop, regionEnd region = .ok stop ∧ stop.toNat = region.1.toNat + region.2.size := by
  refine ⟨region.1 + UInt64.ofNat region.2.size, ?_, hmem.toNat_end hregion⟩
  rw [regionEnd, addWords, hmem.toNat_size hregion, if_pos (hmem.ends region hregion)]

/-- No region at or below `base` reaches past it exactly if the last of them does not. -/
theorem reachesPast_eq_false_iff (base : Address) :
    memory.reachesPast base = false ↔
      ∀ region ∈ memory.toList, region.1 ≤ base →
        region.1.toNat + region.2.size ≤ base.toNat := by
  unfold reachesPast
  cases hfloor : memory.regions.floor? base with
  | none =>
    have hnone := (OrderedMap.floor?_eq_none_iff _ _).1 hfloor
    simp only [true_iff]
    intro region hregion hle
    exact absurd (Std.isLE_compare.2 hle) (hnone region hregion)
  | some last =>
    obtain ⟨hlast, hle, hgreatest⟩ := (OrderedMap.floor?_eq_some_iff _ _ _).1 hfloor
    obtain ⟨stop, hstop, hstopNat⟩ := hmem.regionEnd_eq_ok hlast
    simp only [hstop, decide_eq_false_iff_not, UInt64.not_lt, UInt64.le_iff_toNat_le, hstopNat]
    constructor
    · intro hend region hregion hbelow
      rcases hgreatest region hregion (Std.isLE_compare.2 hbelow) with rfl | hbefore
      · exact hend
      · have hapart := hmem.apart region hregion last hlast ((keyBefore_iff _ _).1 hbefore)
        have hbase : last.1.toNat ≤ base.toNat := UInt64.le_iff_toNat_le.1 (Std.isLE_compare.1 hle)
        exact Nat.le_trans hapart hbase
    · intro hall
      exact hall last hlast (UInt64.le_iff_toNat_le.1 (Std.isLE_compare.1 hle))

omit hmem in
/-- No region begins from `base` on before `limit` exactly if the first of them does not. -/
theorem beginsBefore_eq_false_iff (base : Address) (limit : Nat) :
    memory.beginsBefore base limit = false ↔
      ∀ region ∈ memory.toList, base ≤ region.1 → limit ≤ region.1.toNat := by
  unfold beginsBefore
  cases hceiling : memory.regions.ceiling? base with
  | none =>
    have hnone := (OrderedMap.ceiling?_eq_none_iff _ _).1 hceiling
    simp only [true_iff]
    intro region hregion hle
    exact absurd (Std.isLE_compare.2 hle) (hnone region hregion)
  | some first =>
    obtain ⟨hfirst, hle, hleast⟩ := memory.regions.ceiling?_eq_some hceiling
    simp only [decide_eq_false_iff_not, Nat.not_lt]
    constructor
    · intro hlimit region hregion habove
      have hafter := hleast region hregion (Std.isLE_compare.2 habove)
      rw [keyBefore_iff, UInt64.not_lt, UInt64.le_iff_toNat_le] at hafter
      exact Nat.le_trans hlimit hafter
    · intro hall
      exact hall first hfirst (Std.isLE_compare.1 hle)

/-! ## Mapping -/

/-- A region can be mapped exactly if it ends at an address and no region stands in its way, and
then it is inserted. -/
theorem map_eq_ok_iff (base : Address) (bytes : Array UInt8) (changed : Memory) :
    memory.map base bytes = .ok changed ↔
      base.toNat + bytes.size < wordLimit ∧
        (∀ region ∈ memory.toList, region.1 ≤ base →
          region.1.toNat + region.2.size ≤ base.toNat) ∧
        (∀ region ∈ memory.toList, base ≤ region.1 →
          base.toNat + bytes.size ≤ region.1.toNat) ∧
        changed = ⟨memory.regions.insert base bytes⟩ := by
  rw [← hmem.reachesPast_eq_false_iff, ← beginsBefore_eq_false_iff, map]
  by_cases hwraps : wordLimit ≤ base.toNat + bytes.size
  · rw [if_pos hwraps]
    simp [Nat.not_lt.2 hwraps]
  · rw [if_neg hwraps]
    have hfits : base.toNat + bytes.size < wordLimit := Nat.not_le.1 hwraps
    cases hpast : memory.reachesPast base <;>
      cases hbefore : memory.beginsBefore base (base.toNat + bytes.size) <;>
      simp [hfits, eq_comm]

/-- A successful mapping adds its own region, and leaves every other as it was.  An empty region may
be mapped again where it is. -/
theorem mem_toList_of_map {base : Address} {bytes : Array UInt8} {changed : Memory}
    (hmap : memory.map base bytes = .ok changed) (region : Address × Array UInt8) :
    region ∈ changed.toList ↔ region = (base, bytes) ∨ region ∈ memory.toList := by
  obtain ⟨_, hbelow, habove, rfl⟩ := (hmem.map_eq_ok_iff base bytes changed).1 hmap
  have hsame : ∀ other ∈ memory.toList, other.1 = base → other = (base, bytes) := by
    rintro ⟨otherBase, otherBytes⟩ hother rfl
    have hotherEmpty := hbelow _ hother UInt64.le_rfl
    have hnewEmpty := habove _ hother UInt64.le_rfl
    simp only at hotherEmpty hnewEmpty
    have hotherSize : otherBytes.size = 0 := by omega
    have hnewSize : bytes.size = 0 := by omega
    rw [Array.size_eq_zero_iff.1 hotherSize, Array.size_eq_zero_iff.1 hnewSize]
  show region ∈ (memory.regions.insert base bytes).toList ↔ _
  rw [OrderedMap.mem_insert_iff]
  constructor
  · rintro (hnew | ⟨hold, _⟩)
    · exact .inl hnew
    · exact .inr hold
  · rintro (hnew | hold)
    · exact .inl hnew
    · by_cases hbase : region.1 = base
      · exact .inl (hsame region hold hbase)
      · exact .inr ⟨hold, hbase⟩

/-- A region that lies above all others can be mapped, and then is the last. -/
theorem map_above {region : Address × Array UInt8}
    (hfits : region.1.toNat + region.2.size < wordLimit)
    (habove : ∀ other ∈ memory.toList,
      other.1 < region.1 ∧ other.1.toNat + other.2.size ≤ region.1.toNat) :
    ∃ changed, memory.map region.1 region.2 = .ok changed ∧
      changed.toList = memory.toList ++ [region] := by
  refine ⟨_, (hmem.map_eq_ok_iff _ _ _).2 ⟨hfits, ?_, ?_, rfl⟩, ?_⟩
  · intro other hother _
    exact (habove other hother).2
  · intro other hother hle
    exact absurd hle (UInt64.not_le.2 (habove other hother).1)
  · have hlast : ∀ other ∈ memory.regions.toList, compare other.1 region.1 = .lt :=
      fun other hother => Std.compare_eq_lt.2 (habove other hother).1
    rw [toList, OrderedMap.toList_insert, OrderedMap.insertPair_eq_append _ hlast]
    rfl

/-- Mapping keeps the invariant. -/
theorem wellFormed_of_map {base : Address} {bytes : Array UInt8} {changed : Memory}
    (hmap : memory.map base bytes = .ok changed) : changed.WellFormed := by
  have hmembers := hmem.mem_toList_of_map hmap
  obtain ⟨hends, hbelow, habove, _⟩ := (hmem.map_eq_ok_iff base bytes changed).1 hmap
  constructor
  · intro region hregion
    rcases (hmembers region).1 hregion with rfl | hold
    · exact hends
    · exact hmem.ends region hold
  · intro low hlow high hhigh hlt
    rcases (hmembers low).1 hlow with rfl | hlowOld
    · rcases (hmembers high).1 hhigh with rfl | hhighOld
      · exact absurd hlt (UInt64.lt_irrefl _)
      · exact habove high hhighOld (UInt64.le_of_lt hlt)
    · rcases (hmembers high).1 hhigh with rfl | hhighOld
      · exact hbelow low hlowOld (UInt64.le_of_lt hlt)
      · exact hmem.apart low hlowOld high hhighOld hlt

end WellFormed

/-! ## Writing -/

/-- Bytes put inside a region leave its length as it was. -/
theorem size_overwrite {region bytes : Array UInt8} {start : Nat}
    (hfits : start + bytes.size ≤ region.size) :
    (overwrite region start bytes).size = region.size := by
  simp only [overwrite, Array.size_append, Array.size_extract]
  omega

/-- A write succeeds exactly if the last region at or below the address holds all bytes, and then it
gives that region new bytes. -/
theorem write_eq_ok_iff (memory : Memory) (address : Address) (bytes : Array UInt8)
    (changed : Memory) :
    memory.write address bytes = .ok changed ↔
      ∃ region, memory.regions.floor? address = some region ∧
        address.toNat - region.1.toNat + bytes.size < wordLimit ∧
        address.toNat - region.1.toNat + bytes.size ≤ region.2.size ∧
        changed = ⟨memory.regions.insert region.1
          (overwrite region.2 (address.toNat - region.1.toNat) bytes)⟩ := by
  unfold write
  cases hfloor : memory.regions.floor? address with
  | none => simp
  | some region =>
    simp only [Option.some.injEq, exists_eq_left']
    split
    next hwraps => simp [Nat.not_lt.2 hwraps]
    next hfits =>
      split
      next hshort => simp [Nat.not_le.2 hshort]
      next hholds => simp [Nat.not_le.1 hfits, Nat.not_lt.1 hholds, eq_comm]

/-- A successful write changes no base and no length. -/
theorem extents_of_write {memory changed : Memory} {address : Address} {bytes : Array UInt8}
    (hwrite : memory.write address bytes = .ok changed) : changed.extents = memory.extents := by
  obtain ⟨region, hfloor, _, hfits, rfl⟩ := (write_eq_ok_iff _ _ _ _).1 hwrite
  obtain ⟨hregion, _, _⟩ := (OrderedMap.floor?_eq_some_iff _ _ _).1 hfloor
  simp only [extents, toList, OrderedMap.toList_insert]
  rw [OrderedMap.insertPair_eq_map _ memory.regions.increasing hregion, List.map_map]
  apply List.map_congr_left
  intro other hother
  simp only [Function.comp_apply]
  split
  next hsame =>
    have hkey : region.1 = other.1 := Std.LawfulEqCmp.eq_of_compare hsame
    rw [memory.regions.eq_of_key_eq hregion hother hkey] at hfits ⊢
    rw [size_overwrite hfits]
  · rfl

/-! ## Whole runs -/

/-- A memory in which nothing is mapped has no regions to be apart. -/
theorem wellFormed_empty : empty.WellFormed := by
  constructor <;> simp [empty, toList, OrderedMap.empty]

/-- An operation keeps the invariant, whether it succeeds or fails. -/
theorem WellFormed.after {memory : Memory} (hmem : memory.WellFormed) (operation : Operation) :
    (memory.after operation).WellFormed := by
  cases happly : memory.apply operation with
  | error error => rwa [after_of_error happly]
  | ok changed =>
    rw [after_of_ok happly]
    cases operation with
    | map base bytes => exact hmem.wellFormed_of_map happly
    | write address bytes =>
      rw [wellFormed_iff_extents, extents_of_write happly]
      exact (wellFormed_iff_extents memory).1 hmem

/-- Every run of operations ends in a memory with the invariant. -/
theorem wellFormed_run (operations : List Operation) : (run operations).WellFormed :=
  List.foldlRecOn operations Memory.after wellFormed_empty
    fun _ hmem operation _ => hmem.after operation

/-- Behind any run of operations, the bases of the regions increase, each region ends at an address
and at or before the base of any later one, and so no address is in two regions.  A next operation
that maps adds just its own region, one that writes changes neither a base nor a length, and one
that fails changes nothing.  The end of the last region below a new one can always be formed. -/
theorem regions_of_run (operations : List Operation) :
    ((run operations).toList.Pairwise fun low high => low.1 < high.1) ∧
    (∀ region ∈ (run operations).toList, region.1.toNat + region.2.size ≤ 2 ^ 64 - 1) ∧
    ((run operations).toList.Pairwise fun low high =>
      low.1.toNat + low.2.size ≤ high.1.toNat) ∧
    (∀ r ∈ (run operations).toList, ∀ s ∈ (run operations).toList, ∀ address,
      Covers r address → Covers s address → r = s) ∧
    (∀ base bytes changed, (run operations).map base bytes = .ok changed →
      run (operations ++ [.map base bytes]) = changed ∧
        ∀ region, region ∈ changed.toList ↔
          region = (base, bytes) ∨ region ∈ (run operations).toList) ∧
    (∀ address bytes changed, (run operations).write address bytes = .ok changed →
      run (operations ++ [.write address bytes]) = changed ∧
        changed.toList.map (fun region => (region.1, region.2.size)) =
          (run operations).toList.map fun region => (region.1, region.2.size)) ∧
    (∀ operation error, (run operations).apply operation = .error error →
      run (operations ++ [operation]) = run operations) ∧
    (∀ base region, (run operations).regions.floor? base = some region →
      ∃ stop, regionEnd region = .ok stop ∧
        stop.toNat = region.1.toNat + region.2.size) := by
  have hmem := wellFormed_run operations
  refine ⟨bases_increasing _, ?_, ?_, ?_, ?_, ?_, ?_, ?_⟩
  · intro region hregion
    have hend := hmem.ends region hregion
    unfold wordLimit at hend
    omega
  · exact (bases_increasing _).imp_of_mem fun hlow hhigh hlt => hmem.apart _ hlow _ hhigh hlt
  · intro r hr s hs address
    exact hmem.eq_of_covers hr hs
  · intro base bytes changed hmap
    rw [run_append_singleton]
    exact ⟨after_of_ok hmap, hmem.mem_toList_of_map hmap⟩
  · intro address bytes changed hwrite
    rw [run_append_singleton]
    exact ⟨after_of_ok hwrite, extents_of_write hwrite⟩
  · intro operation error hfails
    rw [run_append_singleton]
    exact after_of_error hfails
  · intro base region hfloor
    exact hmem.regionEnd_eq_ok ((OrderedMap.floor?_eq_some_iff _ _ _).1 hfloor).1

end KernelScope.Memory
