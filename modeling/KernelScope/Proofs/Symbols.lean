import KernelScope.Proofs.OrderedMap
import KernelScope.Proofs.Text.Utf8
import KernelScope.Target

/-!
# Names of addresses

An address is called by the nearest symbol at or below it.  Only one pass over the symbols is needed
to find it, but what it finds is best said by an index of the symbols by address
(`Profile.byAddress`): of several symbols at one address the index has the last, and the nearest one
is the floor of the address in the index.
-/

set_option autoImplicit false

namespace KernelScope

open Text (utf8 utf8_le_iff)

/-! ## The index by address -/

namespace Profile

/-- The name of each address that has symbols; of several names the last. -/
def byAddress (profile : Profile) : OrderedMap Address String :=
  .ofList (profile.symbols.toList.map Prod.swap)

/-- One pass over the symbols finds the floor in their index. -/
theorem nearestSymbol?_eq_floor? (profile : Profile) (address : Address) :
    profile.nearestSymbol? address = (profile.byAddress.floor? address).map Prod.swap := by
  unfold nearestSymbol? byAddress
  induction profile.symbols.toList using List.reverseRecOn with
  | nil => rfl
  | append_singleton symbols symbol ih =>
    rw [List.foldl_append, List.foldl_cons, List.foldl_nil, ih, List.map_append, List.map_singleton,
      OrderedMap.ofList_append_singleton, OrderedMap.floor?_insert]
    simp only [Prod.fst_swap, Prod.snd_swap, Std.isLE_compare]
    cases (OrderedMap.ofList (symbols.map Prod.swap)).floor? address with
    | none => by_cases hle : symbol.2 ≤ address <;> simp [hle]
    | some best =>
      by_cases hle : symbol.2 ≤ address ∧ best.1 ≤ symbol.2 <;> simp [hle]

/-- The symbols stand in the order of their names. -/
theorem keyBefore_symbol_iff (low high : String × Address) : KeyBefore low high ↔ low.1 < high.1 :=
  compareOfLessAndEq_eq_lt

/-- The name of an address in the index is the last of its names. -/
theorem mem_byAddress_iff (profile : Profile) (name : String) (base : Address) :
    (base, name) ∈ profile.byAddress.toList ↔
      (name, base) ∈ profile.symbols.toList ∧
        ∀ other, (other, base) ∈ profile.symbols.toList → other ≤ name := by
  rw [byAddress, OrderedMap.mem_ofList_iff]
  have hsorted := profile.symbols.increasing
  constructor
  · rintro ⟨front, back, hsplit, hback⟩
    obtain ⟨before, rest, hsymbols, rfl, hrest⟩ := List.map_eq_append_iff.1 hsplit
    obtain ⟨symbol, after, rfl, hswap, rfl⟩ := List.map_eq_cons_iff.1 hrest
    obtain rfl : symbol = (name, base) := by rw [← Prod.swap_swap symbol, hswap]; rfl
    rw [hsymbols] at hsorted ⊢
    refine ⟨by simp, fun other hother => ?_⟩
    rcases List.mem_append.1 hother with hbefore | hlater
    · have hlt := (List.pairwise_append.1 hsorted).2.2 _ hbefore (name, base) (by simp)
      exact Std.le_of_lt ((keyBefore_symbol_iff _ _).1 hlt)
    · rcases List.mem_cons.1 hlater with hself | hafter
      · exact Std.le_of_eq (Prod.mk.inj hself).1
      · exact absurd rfl (hback (base, other) (List.mem_map.2 ⟨(other, base), hafter, rfl⟩))
  · rintro ⟨hmem, hlast⟩
    obtain ⟨before, after, hsymbols⟩ := List.append_of_mem hmem
    refine ⟨before.map Prod.swap, after.map Prod.swap, by rw [hsymbols]; simp, ?_⟩
    rw [List.forall_mem_map]
    rintro ⟨later, place⟩ hafter (rfl : place = base)
    rw [hsymbols] at hsorted hlast
    have hlt := (List.pairwise_cons.1 (List.pairwise_append.1 hsorted).2.1).1 _ hafter
    exact hlast later (by simp [hafter]) ((keyBefore_symbol_iff _ _).1 hlt)

/-- Every address that has symbols is in the index. -/
theorem exists_mem_byAddress (profile : Profile) {name : String} {base : Address}
    (hmem : (name, base) ∈ profile.symbols.toList) :
    ∃ last, (base, last) ∈ profile.byAddress.toList :=
  OrderedMap.exists_mem_ofList (List.mem_map.2 ⟨(name, base), hmem, rfl⟩)

end Profile

/-! ## The nearest symbol -/

namespace Target

theorem symbol_eq_ok_iff (target : Target) (name : String) (base : Address) :
    target.symbol name = .ok base ↔ (name, base) ∈ target.profile.symbols.toList := by
  rw [← OrderedMap.get?_eq_some_iff, symbol]
  cases target.profile.symbols.get? name <;> simp

/-- An address is called by `name`, a symbol at `base`: no symbol lies between `base` and the
address, and of the names of `base` this one is the last in the order of bytes. -/
structure CalledBy (target : Target) (address : Address) (name : String) (base : Address) :
    Prop where
  named : target.symbol name = .ok base
  below : base ≤ address
  nearest : ∀ other place, target.symbol other = .ok place → place ≤ address → place ≤ base
  last : ∀ other, target.symbol other = .ok base → utf8 other ≤ utf8 name

/-- An address is called by its floor in the index. -/
theorem calledBy_iff (target : Target) (address : Address) (name : String) (base : Address) :
    target.CalledBy address name base ↔
      target.profile.nearestSymbol? address = some (name, base) := by
  have hindex : target.profile.nearestSymbol? address = some (name, base) ↔
      target.profile.byAddress.floor? address = some (base, name) := by
    rw [Profile.nearestSymbol?_eq_floor?, Option.map_eq_some_iff]
    constructor
    · rintro ⟨pair, hfloor, hswap⟩
      rw [hfloor, ← Prod.swap_swap pair, hswap, Prod.swap_prod_mk]
    · exact fun hfloor => ⟨(base, name), hfloor, rfl⟩
  rw [hindex, OrderedMap.floor?_eq_some_iff]
  constructor
  · rintro ⟨hnamed, hbelow, hnearest, hlast⟩
    have hmem : (base, name) ∈ target.profile.byAddress.toList := by
      refine (Profile.mem_byAddress_iff ..).2 ⟨(symbol_eq_ok_iff ..).1 hnamed, ?_⟩
      exact fun other hother => (utf8_le_iff _ _).1 (hlast other ((symbol_eq_ok_iff ..).2 hother))
    refine ⟨hmem, Std.isLE_compare.2 hbelow, ?_⟩
    rintro ⟨place, other⟩ hother hplace
    have hsymbol := ((Profile.mem_byAddress_iff ..).1 hother).1
    have hle := hnearest other place ((symbol_eq_ok_iff ..).2 hsymbol) (Std.isLE_compare.1 hplace)
    rcases Std.le_iff_lt_or_eq.1 hle with hlt | rfl
    · exact .inr (Std.compare_eq_lt.2 hlt)
    · exact .inl (target.profile.byAddress.eq_of_key_eq hother hmem rfl)
  · rintro ⟨hmem, hle, hgreatest⟩
    obtain ⟨hnamed, hlast⟩ := (Profile.mem_byAddress_iff ..).1 hmem
    refine ⟨(symbol_eq_ok_iff ..).2 hnamed, Std.isLE_compare.1 hle, ?_, ?_⟩
    · intro other place hother hplace
      obtain ⟨found, hfound⟩ := target.profile.exists_mem_byAddress ((symbol_eq_ok_iff ..).1 hother)
      rcases hgreatest _ hfound (Std.isLE_compare.2 hplace) with hsame | hbefore
      · exact Std.le_of_eq (Prod.mk.inj hsame).1
      · exact Std.le_of_lt (Std.compare_eq_lt.1 hbefore)
    · intro other hother
      exact (utf8_le_iff _ _).2 (hlast other ((symbol_eq_ok_iff ..).1 hother))

/-- Of the symbols at or below an address, if there are any, one names it. -/
theorem exists_calledBy (target : Target) {address : Address} {name : String} {base : Address}
    (hnamed : target.symbol name = .ok base) (hbelow : base ≤ address) :
    ∃ found place, target.CalledBy address found place := by
  obtain ⟨last, hlast⟩ := target.profile.exists_mem_byAddress ((symbol_eq_ok_iff ..).1 hnamed)
  cases hnearest : target.profile.nearestSymbol? address with
  | some symbol => exact ⟨symbol.1, symbol.2, (calledBy_iff ..).2 hnearest⟩
  | none =>
    rw [Profile.nearestSymbol?_eq_floor?, Option.map_eq_none_iff,
      OrderedMap.floor?_eq_none_iff] at hnearest
    exact absurd (Std.isLE_compare.2 hbelow) (hnearest _ hlast)

/-- The text of an address that has a name. -/
theorem describe_of_calledBy {target : Target} {address : Address} {name : String} {base : Address}
    (h : target.CalledBy address name base) :
    ∃ distance, base.toNat + distance = address.toNat ∧
      target.describe address =
        if base = address then name else name ++ "+0x" ++ Hex.digits distance := by
  have hle : base.toNat ≤ address.toNat := UInt64.le_iff_toNat_le.1 h.below
  have hdistance : (address - base).toNat = address.toNat - base.toNat :=
    UInt64.toNat_sub_of_le _ _ h.below
  refine ⟨(address - base).toNat, by omega, ?_⟩
  have hprefix : "+" ++ Hex.prefixed (address - base).toNat =
      "+0x" ++ Hex.digits (address - base).toNat := by
    rw [Hex.prefixed, ← String.append_assoc]
    rfl
  rw [describe, (calledBy_iff ..).1 h]
  dsimp only
  rw [String.append_assoc, hprefix, String.append_assoc]

/-- Below all symbols an address is only a number. -/
theorem describe_of_below {target : Target} {address : Address}
    (hbelow : ∀ name base, target.symbol name = .ok base → address < base) :
    target.describe address = Hex.digits address.toNat := by
  cases hnearest : target.profile.nearestSymbol? address with
  | none => rw [describe, hnearest, Address.digits]
  | some symbol =>
    have hcalled : target.CalledBy address symbol.1 symbol.2 := (calledBy_iff ..).2 hnearest
    exact absurd (hbelow _ _ hcalled.named) (Std.not_lt.2 hcalled.below)

/-- The address of a symbol has the last of its names. -/
theorem describe_symbol {target : Target} {name : String} {base : Address}
    (hnamed : target.symbol name = .ok base) :
    ∃ last, target.CalledBy base last base ∧ target.describe base = last := by
  obtain ⟨last, place, hcalled⟩ := target.exists_calledBy hnamed (Std.le_refl base)
  obtain rfl : place = base :=
    Std.le_antisymm hcalled.below (hcalled.nearest name base hnamed (Std.le_refl base))
  obtain ⟨_, -, htext⟩ := describe_of_calledBy hcalled
  exact ⟨last, hcalled, htext.trans (if_pos rfl)⟩

/-- An address is shown as the nearest symbol at or below it and the distance from there, and as a
bare number if there is no such symbol.  So the address of a symbol is shown as a symbol with that
address, and as this one unless another with the same address is later in the order of names. -/
theorem describe_nearest (target : Target) (address : Address) :
    ((∀ name base, target.symbol name = .ok base → address < base) →
      target.describe address = Hex.digits address.toNat) ∧
    ((∃ name base, target.symbol name = .ok base ∧ base ≤ address) →
      ∃ name base, target.CalledBy address name base ∧
        ∃ distance, base.toNat + distance = address.toNat ∧
          target.describe address =
            if base = address then name else name ++ "+0x" ++ Hex.digits distance) ∧
    ∀ name, target.symbol name = .ok address →
      target.symbol (target.describe address) = .ok address ∧
      (target.describe address = name ↔
        ¬ ∃ other, target.symbol other = .ok address ∧ utf8 name < utf8 other) := by
  refine ⟨describe_of_below, ?_, fun name hnamed => ?_⟩
  · rintro ⟨name, base, hnamed, hbelow⟩
    obtain ⟨found, place, hcalled⟩ := target.exists_calledBy hnamed hbelow
    exact ⟨found, place, hcalled, describe_of_calledBy hcalled⟩
  · obtain ⟨last, hcalled, htext⟩ := describe_symbol hnamed
    rw [htext]
    refine ⟨hcalled.named, ?_⟩
    constructor
    · rintro rfl ⟨other, hother, hlater⟩
      exact hcalled.last other hother hlater
    · intro hnone
      have hle : utf8 last ≤ utf8 name := fun hlater => hnone ⟨last, hcalled.named, hlater⟩
      have hge : utf8 name ≤ utf8 last := hcalled.last name hnamed
      exact String.le_antisymm ((utf8_le_iff _ _).1 hle) ((utf8_le_iff _ _).1 hge)

/-- A target with two names for one address. -/
def twoNames : Target :=
  .ofMemory ⟨8, true, .ofList [("nt!Ki", 0x1000), ("nt!Ké", 0x1000), ("nt!Mm", 0x2000)], .empty⟩
    .empty

theorem describe_nearest_twoNames :
    twoNames.describe 0xFFF = "fff" ∧
      (∃ name base, twoNames.CalledBy 0x101F name base) ∧ twoNames.describe 0x101F = "nt!Ké+0x1f" ∧
      twoNames.symbol (twoNames.describe 0x1000) = .ok 0x1000 ∧
      twoNames.describe 0x1000 ≠ "nt!Ki" := by
  have hsymbols : ∀ name base, twoNames.symbol name = .ok base → 0xFFF < base := by
    have hall : ∀ symbol ∈ twoNames.profile.symbols.toList, 0xFFF < symbol.2 := by decide
    exact fun name base hnamed => hall (name, base) ((symbol_eq_ok_iff ..).1 hnamed)
  obtain ⟨hbelow, -, -⟩ := describe_nearest twoNames 0xFFF
  obtain ⟨-, hbetween, -⟩ := describe_nearest twoNames 0x101F
  obtain ⟨-, -, hat⟩ := describe_nearest twoNames 0x1000
  obtain ⟨hnamed, hlast⟩ := hat "nt!Ki" rfl
  refine ⟨hbelow hsymbols, ?_, by decide, hnamed, ?_⟩
  · obtain ⟨name, base, hcalled, -⟩ := hbetween ⟨"nt!Ki", 0x1000, rfl, by decide⟩
    exact ⟨name, base, hcalled⟩
  · exact fun htext => hlast.1 htext ⟨"nt!Ké", rfl, by decide⟩

end Target

end KernelScope
