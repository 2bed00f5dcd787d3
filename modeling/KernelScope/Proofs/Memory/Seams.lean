import KernelScope.Proofs.Memory.Exact
import KernelScope.Proofs.Memory.Outcome

/-!
# Seams

The same bytes at the same addresses can be mapped as one region or as several that touch.  A read
stays in the region of its address, so it can tell: where a region ends and another one begins there
is a seam, and a read ends at the first seam behind its address although the next byte is mapped.
That is all it can tell (`read_eq_or_stops`).  Two memories with the same bytes answer a read in the
same way, unless one of them stops at a seam of its own; and what one of them reads the other reads
as well, unless a seam of the other lies inside the window (`read_iff_not_cuts`).
-/

set_option autoImplicit false

namespace KernelScope.Memory

/-! ## Bytes and seams -/

/-- The memories map the same byte at the same addresses. -/
def SameBytes (memory other : Memory) : Prop :=
  ∀ address, memory.byte? address = other.byte? address

/-- A region with bytes ends at the address, and another one begins there. -/
def SeamAt (memory : Memory) (address : Nat) : Prop :=
  ∃ low ∈ memory.toList, ∃ high ∈ memory.toList, low.2 ≠ #[] ∧ high.2 ≠ #[] ∧
    low.1.toNat + low.2.size = address ∧ high.1.toNat = address

instance (memory : Memory) (address : Nat) : Decidable (memory.SeamAt address) :=
  inferInstanceAs (Decidable (∃ low ∈ memory.toList, ∃ high ∈ memory.toList, _))

/-- A seam lies inside the window, so that bytes on either side of it are asked for. -/
def Cuts (memory : Memory) (address : Address) (length : Nat) : Prop :=
  ∃ seam, address.toNat < seam ∧ seam < address.toNat + length ∧ memory.SeamAt seam

/-- A seam is the base of a region, so only these have to be looked at. -/
theorem cuts_iff (memory : Memory) (address : Address) (length : Nat) :
    memory.Cuts address length ↔ ∃ high ∈ memory.toList, address.toNat < high.1.toNat ∧
      high.1.toNat < address.toNat + length ∧ memory.SeamAt high.1.toNat := by
  constructor
  · rintro ⟨seam, hfirst, hlast, low, hlow, high, hhigh, hlowBytes, hhighBytes, hend, rfl⟩
    exact ⟨high, hhigh, hfirst, hlast, low, hlow, high, hhigh, hlowBytes, hhighBytes, hend, rfl⟩
  · rintro ⟨high, -, hinside⟩
    exact ⟨high.1.toNat, hinside⟩

instance (memory : Memory) (address : Address) (length : Nat) :
    Decidable (memory.Cuts address length) := decidable_of_iff' _ (memory.cuts_iff address length)

/-- The error of a read that got bytes up to a seam, and wanted more. -/
inductive StopsAtSeam (memory : Memory) : MemoryError → Prop where
  | shortRead {address : Address} {length got : Nat} (hgot : 0 < got) (hwanted : got < length)
      (hseam : memory.SeamAt (address.toNat + got)) :
      StopsAtSeam memory (.shortRead address length got)

theorem SameBytes.symm {memory other : Memory} (h : memory.SameBytes other) :
    other.SameBytes memory := fun address => (h address).symm

/-- A region that holds an address has bytes. -/
theorem ne_empty_of_covers {region : Address × Array UInt8} {address : Nat}
    (hcovers : Covers region address) : region.2 ≠ #[] := by
  intro hempty
  obtain ⟨base, bytes⟩ := region
  obtain rfl : bytes = #[] := hempty
  exact not_covers_empty base address hcovers

/-- A read that stops at a seam is short, and got what lies before the seam. -/
theorem shortRead_of_stopsAtSeam {memory : Memory} {address : Address} {length : Nat}
    {error : MemoryError} (hread : memory.read address length = .error error)
    (hstops : memory.StopsAtSeam error) :
    ∃ got, 0 < got ∧ got < length ∧ memory.SeamAt (address.toNat + got) ∧
      memory.read address length = .error (.shortRead address length got) := by
  cases hstops with
  | shortRead hgot hwanted hseam =>
    rcases read_eq_error hread with hunmapped | ⟨got, -, hshort⟩
    · cases hunmapped
    · cases hshort
      exact ⟨_, hgot, hwanted, hseam, hread⟩

/-- So it is cut by the seam. -/
theorem cuts_of_stopsAtSeam {memory : Memory} {address : Address} {length : Nat}
    {error : MemoryError} (hread : memory.read address length = .error error)
    (hstops : memory.StopsAtSeam error) : memory.Cuts address length := by
  obtain ⟨got, hgot, hwanted, hseam, -⟩ := shortRead_of_stopsAtSeam hread hstops
  exact ⟨_, Nat.lt_add_of_pos_right hgot, Nat.add_lt_add_left hwanted _, hseam⟩

namespace WellFormed

variable {memory : Memory} (hmem : memory.WellFormed)

include hmem

/-- Where a region ends and the next byte is mapped, there is a seam. -/
theorem seamAt_end {region next : Address × Array UInt8} (hregion : region ∈ memory.toList)
    (hne : region.2 ≠ #[]) (hnext : next ∈ memory.toList)
    (hcovers : Covers next (region.1.toNat + region.2.size)) :
    memory.SeamAt (region.1.toNat + region.2.size) := by
  refine ⟨region, hregion, next, hnext, hne, ne_empty_of_covers hcovers, rfl, ?_⟩
  -- the next region holds the address, and begins no earlier: regions are apart
  obtain ⟨hlow, hhigh⟩ := hcovers
  rcases OrderedMap.keyBefore_or_eq memory.regions.increasing hnext hregion with h | rfl | h
  · have hapart := hmem.apart next hnext region hregion ((keyBefore_iff _ _).1 h)
    omega
  · omega
  · have hapart := hmem.apart region hregion next hnext ((keyBefore_iff _ _).1 h)
    omega

/-- No seam lies inside a window that lies inside one region. -/
theorem not_cuts_of_read {address : Address} {length : Nat} {row : List UInt8}
    (hread : memory.read address length = .ok row) : ¬ memory.Cuts address length := by
  rintro ⟨seam, hfirst, hlast, low, -, high, hhigh, -, hbytes, -, hseam⟩
  obtain ⟨region, hregion, ⟨hlow, -⟩, hfits, -⟩ := hmem.slice_of_read hread
  have hsize : 0 < high.2.size := Array.size_pos_iff.2 hbytes
  have hsame : region = high :=
    hmem.eq_of_covers hregion hhigh ⟨by omega, by omega⟩ ⟨Nat.le_of_eq hseam, by omega⟩
  rw [hsame] at hlow
  omega

/-- A read is cut short by the end of its region; where the next byte is mapped, by a seam. -/
theorem stops_of_covers {region next : Address × Array UInt8} (hregion : region ∈ memory.toList)
    {address : Address} (hcovers : Covers region address.toNat) (hnext : next ∈ memory.toList)
    (hnextCovers : Covers next (region.1.toNat + region.2.size)) {length : Nat}
    (hshort : region.1.toNat + region.2.size < address.toNat + length) :
    ∃ error, memory.read address length = .error error ∧ memory.StopsAtSeam error := by
  have hread := hmem.read_of_covers hregion hcovers length
  have hne := ne_empty_of_covers hcovers
  have hhigh : address.toNat < region.1.toNat + region.2.size := hcovers.2
  rw [if_pos (by omega)] at hread
  refine ⟨_, hread, .shortRead (by omega) (by omega) ?_⟩
  rw [Nat.add_sub_cancel' (Nat.le_of_lt hhigh)]
  exact hmem.seamAt_end hregion hne hnext hnextCovers

end WellFormed

/-! ## Reads of two memories -/

section SameBytes

variable {memory other : Memory} (hmem : memory.WellFormed) (hother : other.WellFormed)
  (hsame : memory.SameBytes other)

include hmem hsame

/-- An address that belongs to a region of the one memory belongs to one of the other. -/
theorem SameBytes.exists_covers {region : Address × Array UInt8} (hregion : region ∈ memory.toList)
    {address : Nat} (hcovers : Covers region address) :
    ∃ twin ∈ other.toList, Covers twin address := by
  rcases covered_or_uncovered other address with hcovered | huncovered
  · exact hcovered
  · have hnone := (hsame address).trans (WellFormed.byte?_of_uncovered huncovered)
    rw [hmem.byte?_of_covers hregion hcovers] at hnone
    have hbehind := Array.getElem?_eq_none_iff.1 hnone
    obtain ⟨hlow, hhigh⟩ := hcovers
    omega

include hother

/-- What both memories can read is the same. -/
theorem SameBytes.row_eq {address : Address} {length : Nat} {row twin : List UInt8}
    (hrow : memory.read address length = .ok row) (htwin : other.read address length = .ok twin) :
    row = twin := by
  have hrowLength := hmem.length_of_read hrow
  have htwinLength := hother.length_of_read htwin
  refine List.ext_getElem? fun i => ?_
  by_cases hi : i < length
  · rw [hmem.getElem?_of_read hrow hi, hother.getElem?_of_read htwin hi, hsame]
  · rw [List.getElem?_eq_none (by omega), List.getElem?_eq_none (by omega)]

/-- Of two regions that hold the address, the one that ends first is read to its end; if the other
one goes on, that end is a seam. -/
theorem SameBytes.read_eq_or_stops_of_le {region twin : Address × Array UInt8}
    (hregion : region ∈ memory.toList) (htwin : twin ∈ other.toList) {address : Address}
    (hcovers : Covers region address.toNat) (htwinCovers : Covers twin address.toNat)
    (hle : region.1.toNat + region.2.size ≤ twin.1.toNat + twin.2.size) (length : Nat) :
    memory.read address length = other.read address length ∨
      ∃ error, memory.read address length = .error error ∧ memory.StopsAtSeam error := by
  have hread := hmem.read_of_covers hregion hcovers length
  have htwinRead := hother.read_of_covers htwin htwinCovers length
  have hhigh : address.toNat < region.1.toNat + region.2.size := hcovers.2
  by_cases hshort : region.1.toNat + region.2.size < address.toNat + length
  · -- both get the same bytes only if both regions end at one address
    rcases Nat.eq_or_lt_of_le hle with heq | hlt
    · left
      rw [hread, htwinRead, heq, if_pos (by omega), if_pos (by omega)]
    · right
      have hbehind : Covers twin (region.1.toNat + region.2.size) :=
        ⟨Nat.le_of_lt (Nat.lt_of_le_of_lt htwinCovers.1 hhigh), hlt⟩
      obtain ⟨next, hnext, hnextCovers⟩ := hsame.symm.exists_covers hother htwin hbehind
      exact hmem.stops_of_covers hregion hcovers hnext hnextCovers hshort
  · left
    rw [if_neg (by omega)] at hread htwinRead
    rw [hread, htwinRead, hsame.row_eq hmem hother hread htwinRead]

/-- Two memories with the same bytes come to the same when they are read, or the read of one of them
stops at a seam. -/
theorem SameBytes.read_eq_or_stops (address : Address) (length : Nat) :
    memory.read address length = other.read address length ∨
      (∃ error, memory.read address length = .error error ∧ memory.StopsAtSeam error) ∨
      ∃ error, other.read address length = .error error ∧ other.StopsAtSeam error := by
  rcases covered_or_uncovered memory address.toNat with ⟨region, hregion, hcovers⟩ | huncovered
  · obtain ⟨twin, htwin, htwinCovers⟩ := hsame.exists_covers hmem hregion hcovers
    rcases Nat.le_total (region.1.toNat + region.2.size) (twin.1.toNat + twin.2.size) with
      hle | hle
    · exact (hsame.read_eq_or_stops_of_le hmem hother hregion htwin hcovers htwinCovers hle
        length).imp_right .inl
    · exact (hsame.symm.read_eq_or_stops_of_le hother hmem htwin hregion htwinCovers hcovers hle
        length).imp Eq.symm .inr
  · have htwinUncovered : ∀ twin ∈ other.toList, ¬ Covers twin address.toNat := by
      intro twin htwin htwinCovers
      obtain ⟨region, hregion, hcovers⟩ := hsame.symm.exists_covers hother htwin htwinCovers
      exact huncovered region hregion hcovers
    exact .inl ((read_of_uncovered huncovered length).trans
      (read_of_uncovered htwinUncovered length).symm)

/-- Where no seam of either memory lies inside the window, both come to the same, be it bytes or an
error. -/
theorem SameBytes.read_eq_of_not_cuts {address : Address} {length : Nat}
    (hwhole : ¬ memory.Cuts address length) (hotherWhole : ¬ other.Cuts address length) :
    memory.read address length = other.read address length := by
  rcases hsame.read_eq_or_stops hmem hother address length with
    heq | ⟨error, herror, hstops⟩ | ⟨error, herror, hstops⟩
  · exact heq
  · exact absurd (cuts_of_stopsAtSeam herror hstops) hwhole
  · exact absurd (cuts_of_stopsAtSeam herror hstops) hotherWhole

/-- What one memory reads the other one reads as well, unless a seam of its own lies inside the
window; then it gets the bytes up to a seam. -/
theorem SameBytes.read_iff_not_cuts {address : Address} {length : Nat} {row : List UInt8}
    (hread : memory.read address length = .ok row) :
    (other.read address length = .ok row ↔ ¬ other.Cuts address length) ∧
      (other.Cuts address length → ∃ got, 0 < got ∧ got < length ∧
        other.SeamAt (address.toNat + got) ∧
        other.read address length = .error (.shortRead address length got)) := by
  rcases hsame.read_eq_or_stops hmem hother address length with
    heq | ⟨error, herror, -⟩ | ⟨error, herror, hstops⟩
  · have hwhole := hother.not_cuts_of_read (heq.symm.trans hread)
    exact ⟨iff_of_true (heq.symm.trans hread) hwhole, fun hcuts => absurd hcuts hwhole⟩
  · cases hread.symm.trans herror
  · refine ⟨iff_of_false (fun hok => ?_) (not_not_intro (cuts_of_stopsAtSeam herror hstops)),
      fun _ => shortRead_of_stopsAtSeam herror hstops⟩
    cases hok.symm.trans herror

end SameBytes

/-! ## A row in two pieces -/

/-- A row holds the addresses of the two pieces that it can be cut into. -/
theorem covers_append_iff {base : Address} {low high : Array UInt8}
    (hfits : base.toNat + (low ++ high).size < wordLimit) (address : Nat) :
    Covers (base, low ++ high) address ↔
      Covers (base, low) address ∨ Covers (base + UInt64.ofNat low.size, high) address := by
  rw [Array.size_append] at hfits
  have hseam : (base + UInt64.ofNat low.size).toNat = base.toNat + low.size :=
    toNat_add_ofNat (by omega)
  simp only [Covers, Array.size_append, hseam]
  omega

/-- Whether a row is mapped at once or in two pieces that touch, the bytes are the same. -/
theorem WellFormed.sameBytes_of_pieces {memory whole first both : Memory} (hmem : memory.WellFormed)
    {base : Address} {low high : Array UInt8}
    (hwhole : memory.map base (low ++ high) = .ok whole) (hfirst : memory.map base low = .ok first)
    (hboth : first.map (base + UInt64.ofNat low.size) high = .ok both) :
    whole.SameBytes both := by
  have hfirstMem := hmem.wellFormed_of_map hfirst
  have hbothMem := hfirstMem.wellFormed_of_map hboth
  have hwholeMem := hmem.wellFormed_of_map hwhole
  have hrow := (hmem.mem_toList_of_map hwhole (base, low ++ high)).2 (.inl rfl)
  have hfits := ((hmem.map_eq_ok_iff _ _ _).1 hwhole).1
  have hseam : (base + UInt64.ofNat low.size).toNat = base.toNat + low.size :=
    toNat_add_ofNat (by rw [Array.size_append] at hfits; omega)
  intro address
  have hcut := covers_append_iff hfits address
  -- an address is followed from the pieces to the row, where its byte is found again
  rcases covered_or_uncovered both address with ⟨region, hregion, hcovers⟩ | huncovered
  · rw [hbothMem.byte?_of_covers hregion hcovers]
    rcases (hfirstMem.mem_toList_of_map hboth region).1 hregion with rfl | hbefore
    · rw [hwholeMem.byte?_of_covers hrow (hcut.2 (.inr hcovers))]
      obtain ⟨hbegin, -⟩ := hcovers
      simp only [hseam] at hbegin ⊢
      rw [Array.getElem?_append_right (by omega), Nat.sub_sub]
    · rcases (hmem.mem_toList_of_map hfirst region).1 hbefore with rfl | hold
      · rw [hwholeMem.byte?_of_covers hrow (hcut.2 (.inl hcovers))]
        obtain ⟨hbegin, hend⟩ := hcovers
        simp only at hbegin hend ⊢
        rw [Array.getElem?_append_left (by omega)]
      · have hkept := (hmem.mem_toList_of_map hwhole region).2 (.inr hold)
        exact hwholeMem.byte?_of_covers hkept hcovers
  · rw [byte?_of_uncovered huncovered]
    refine byte?_of_uncovered fun region hregion hcovers => ?_
    have hbefore (old) (hold : old ∈ first.toList) : ¬ Covers old address :=
      huncovered old ((hfirstMem.mem_toList_of_map hboth old).2 (.inr hold))
    rcases (hmem.mem_toList_of_map hwhole region).1 hregion with rfl | hold
    · rcases hcut.1 hcovers with hlow | hhigh
      · exact hbefore _ ((hmem.mem_toList_of_map hfirst _).2 (.inl rfl)) hlow
      · exact huncovered _ ((hfirstMem.mem_toList_of_map hboth _).2 (.inl rfl)) hhigh
    · exact hbefore _ ((hmem.mem_toList_of_map hfirst _).2 (.inr hold)) hcovers

end KernelScope.Memory
