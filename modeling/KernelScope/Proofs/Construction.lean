import Mathlib.Data.List.Perm.Basic
import Mathlib.Data.List.Nodup
import KernelScope.Proofs.Memory.Regions
import KernelScope.Proofs.Snapshot

/-!
# The order of construction

A profile is made of symbols and types that are put into it one after the other, each type from its
fields in the same way, and a memory of the regions of a snapshot.  A target does not show in which
order that was done: items with names of their own give the same profile in any order
(`ofItems_of_rearranged`), and regions the same memory, or no memory in either order
(`memory_of_perm`).
-/

set_option autoImplicit false

namespace KernelScope

/-! ## Layouts and profiles -/

/-- Items with different keys may be put in place in any order if any two of them may. -/
theorem foldl_perm_of_keys {α σ κ : Type} {put : σ → α → σ} (key : α → κ)
    (hput : ∀ state item other, key item ≠ key other →
      put (put state item) other = put (put state other) item)
    {items permuted : List α} (hkeys : (items.map key).Nodup) (h : items.Perm permuted)
    (state : σ) : items.foldl put state = permuted.foldl put state := by
  refine h.foldl_eq' ?_ state
  intro item hitem other hother state
  by_cases hsame : item = other
  · rw [hsame]
  · apply hput
    intro hkey
    exact hsame (List.inj_on_of_nodup_map hkeys hitem hother hkey)

/-- The layout of a type with the fields, which are added one after the other. -/
def TypeLayout.ofFields (size : UInt64) (fields : List (String × UInt64)) : TypeLayout :=
  fields.foldl (fun layout field => layout.withField field.1 field.2) (.ofSize size)

/-- Fields with different names may be added in either order. -/
theorem TypeLayout.withField_comm (layout : TypeLayout) {field other : String} (hne : field ≠ other)
    (offset otherOffset : UInt64) :
    (layout.withField field offset).withField other otherOffset =
      (layout.withField other otherOffset).withField field offset := by
  simp only [withField, OrderedMap.insert_comm _ hne]

theorem TypeLayout.ofFields_perm (size : UInt64) {fields permuted : List (String × UInt64)}
    (hnames : (fields.map Prod.fst).Nodup) (h : fields.Perm permuted) :
    ofFields size fields = ofFields size permuted := by
  apply foldl_perm_of_keys Prod.fst _ hnames h
  intro layout field other hne
  exact layout.withField_comm hne _ _

namespace Profile

/-- What a profile is made of. -/
inductive Item where
  | symbol (name : String) (address : Address)
  | type (name : String) (size : UInt64) (fields : List (String × UInt64))

/-- The name of an item.  A symbol and a type may have the same one. -/
def Item.name : Item → String ⊕ String
  | .symbol name _ => .inl name
  | .type name _ _ => .inr name

/-- The profile with one more item, which takes the place of any other of its name. -/
def put (profile : Profile) : Item → Profile
  | .symbol name address => { profile with symbols := profile.symbols.insert name address }
  | .type name size fields =>
    { profile with types := profile.types.insert name (.ofFields size fields) }

/-- The profile of the items, which are put into it one after the other. -/
def ofItems (pointerSize : UInt64) (kernel : Bool) (items : List Item) : Profile :=
  items.foldl put (.ofPointerSize pointerSize kernel)

/-- The items have names of their own, and so do the fields of each type. -/
structure Distinct (items : List Item) : Prop where
  names : (items.map Item.name).Nodup
  fields : ∀ name size fields, .type name size fields ∈ items → (fields.map Prod.fst).Nodup

/-- The items are the same, up to the order of fields. -/
inductive Item.Same : Item → Item → Prop where
  | symbol (name : String) (address : Address) : Same (.symbol name address) (.symbol name address)
  | type (name : String) (size : UInt64) {fields permuted : List (String × UInt64)}
      (hfields : fields.Perm permuted) : Same (.type name size fields) (.type name size permuted)

/-- The items are the same, up to their order and that of fields. -/
def Rearranged (items others : List Item) : Prop :=
  ∃ permuted, items.Perm permuted ∧ List.Forall₂ Item.Same permuted others

/-- Items with different names may be put into a profile in either order. -/
theorem put_comm (profile : Profile) {item other : Item} (hne : item.name ≠ other.name) :
    (profile.put item).put other = (profile.put other).put item := by
  cases item with
  | symbol name address =>
    cases other with
    | symbol otherName otherAddress =>
      have hnames : name ≠ otherName := fun heq => hne (congrArg Sum.inl heq)
      simp only [put, OrderedMap.insert_comm _ hnames]
    | type => rfl
  | type name size fields =>
    cases other with
    | symbol => rfl
    | type otherName otherSize otherFields =>
      have hnames : name ≠ otherName := fun heq => hne (congrArg Sum.inr heq)
      simp only [put, OrderedMap.insert_comm _ hnames]

theorem foldl_put_perm (profile : Profile) {items permuted : List Item}
    (hnames : (items.map Item.name).Nodup) (h : items.Perm permuted) :
    items.foldl put profile = permuted.foldl put profile := by
  apply foldl_perm_of_keys Item.name _ hnames h
  intro profile item other hne
  exact profile.put_comm hne

theorem foldl_put_same (profile : Profile) {items others : List Item}
    (hfields : ∀ name size fields, .type name size fields ∈ items → (fields.map Prod.fst).Nodup)
    (h : List.Forall₂ Item.Same items others) :
    items.foldl put profile = others.foldl put profile := by
  induction h generalizing profile with
  | nil => rfl
  | @cons item other items others hsame hrest ih =>
    have hput : profile.put item = profile.put other := by
      cases hsame with
      | symbol name address => rfl
      | type name size hperm =>
        have hnames := hfields name size _ List.mem_cons_self
        rw [put, put, TypeLayout.ofFields_perm size hnames hperm]
    rw [List.foldl_cons, List.foldl_cons, hput]
    exact ih _ fun name size fields hmem => hfields name size fields (List.mem_cons_of_mem _ hmem)

/-- Distinct items give the same profile in any order. -/
theorem ofItems_of_rearranged (pointerSize : UInt64) (kernel : Bool) {items others : List Item}
    (hdistinct : Distinct items) (h : Rearranged items others) :
    ofItems pointerSize kernel items = ofItems pointerSize kernel others := by
  obtain ⟨permuted, hperm, hsame⟩ := h
  have hfields : ∀ name size fields, .type name size fields ∈ permuted →
      (fields.map Prod.fst).Nodup := fun name size fields hmem =>
    hdistinct.fields name size fields (hperm.mem_iff.2 hmem)
  calc ofItems pointerSize kernel items
      = permuted.foldl put (.ofPointerSize pointerSize kernel) :=
        foldl_put_perm _ hdistinct.names hperm
    _ = ofItems pointerSize kernel others := foldl_put_same _ hfields hsame

end Profile

/-! ## Memory -/

namespace Snapshot

/-- The region as it is mapped: its base and the bytes that its text stands for. -/
def Decodes (region : Region) (row : Address × Array UInt8) : Prop :=
  row.1 = region.base ∧ Hex.toBytes region.bytes = .ok row.2.toList

theorem addRegion_eq_ok_iff (memory changed : Memory) (region : Region) :
    addRegion memory region = .ok changed ↔
      ∃ row, Decodes region row ∧ memory.map row.1 row.2 = .ok changed := by
  constructor
  · intro h
    obtain ⟨bytes, hbytes, hmap⟩ := bind_eq_ok h
    exact ⟨(region.base, bytes.toArray), ⟨rfl, ok_of_mapError hbytes⟩, ok_of_mapError hmap⟩
  · rintro ⟨⟨base, bytes⟩, ⟨rfl, hbytes⟩, hmap⟩
    simp only [addRegion, hbytes, mapError_ok, ok_bind, Array.toArray_toList]
    rw [hmap]
    rfl

/-- Regions are added one after the other by mapping what they stand for. -/
theorem foldlM_addRegion_eq_ok_iff (memory changed : Memory) (regions : List Region) :
    regions.foldlM addRegion memory = .ok changed ↔
      ∃ rows, List.Forall₂ Decodes regions rows ∧ memory.mapAll rows = .ok changed := by
  induction regions generalizing memory with
  | nil => simp [Memory.mapAll_nil, pure, Except.pure]
  | cons region regions ih =>
    rw [List.foldlM_cons]
    constructor
    · intro h
      obtain ⟨middle, hadd, hrest⟩ := bind_eq_ok h
      obtain ⟨row, hrow, hmap⟩ := (addRegion_eq_ok_iff _ _ _).1 hadd
      obtain ⟨rows, hrows, hmapAll⟩ := (ih middle).1 hrest
      exact ⟨row :: rows, .cons hrow hrows,
        (Memory.mapAll_cons _ _ _ _).2 ⟨middle, hmap, hmapAll⟩⟩
    · rintro ⟨_, hall, hmapAll⟩
      cases hall with
      | @cons _ row _ rows hrow hrows =>
        obtain ⟨middle, hmap, hrest⟩ := (Memory.mapAll_cons _ _ _ _).1 hmapAll
        rw [(addRegion_eq_ok_iff _ _ _).2 ⟨row, hrow, hmap⟩]
        exact (ih middle).2 ⟨rows, hrows, hrest⟩

/-- Regions that make a memory make the same memory in any order. -/
theorem memory_of_perm {regions permuted : List Region} (h : regions.Perm permuted)
    {memory : Memory} (profile other : Profile)
    (hmemory : (Snapshot.mk profile regions).memory = .ok memory) :
    (Snapshot.mk other permuted).memory = .ok memory := by
  obtain ⟨rows, hrows, hmapAll⟩ := (foldlM_addRegion_eq_ok_iff _ _ _).1 hmemory
  obtain ⟨permutedRows, hpermuted, hperm⟩ := List.perm_comp_forall₂ h.symm hrows
  exact (foldlM_addRegion_eq_ok_iff _ _ _).2 ⟨permutedRows, hpermuted,
    (Memory.wellFormed_empty.mapAll_perm hperm _).2 hmapAll⟩

/-- A target does not show in which order it was built.  Distinct symbols, types and fields in any
order make the same profile; regions in any order make a memory or make none, and the memory is the
same.  So what is captured of both targets is saved as the same text, and both describe every
address and read all bytes alike. -/
theorem target_of_rearranged (pointerSize : UInt64) (kernel : Bool)
    {items others : List Profile.Item} (hdistinct : Profile.Distinct items)
    (hitems : Profile.Rearranged items others) {regions permuted : List Region}
    (hregions : regions.Perm permuted) :
    let profile := Profile.ofItems pointerSize kernel items
    let other := Profile.ofItems pointerSize kernel others
    profile = other ∧
    (∀ any another memory, (Snapshot.mk any regions).memory = .ok memory ↔
      (Snapshot.mk another permuted).memory = .ok memory) ∧
    ∀ memory memory', (Snapshot.mk profile regions).memory = .ok memory →
      (Snapshot.mk other permuted).memory = .ok memory' →
        memory = memory' ∧
        (capture profile memory).text = (capture other memory').text ∧
        (∀ folder path,
          (capture profile memory).save folder path = (capture other memory').save folder path) ∧
        (∀ address, (Target.ofMemory profile memory).describe address =
          (Target.ofMemory other memory').describe address) ∧
        ∀ address length, (Target.ofMemory profile memory).read address length =
          (Target.ofMemory other memory').read address length := by
  intro profile other
  have hprofile : profile = other :=
    Profile.ofItems_of_rearranged pointerSize kernel hdistinct hitems
  refine ⟨hprofile, fun any another memory => ?_, fun memory memory' hmemory hmemory' => ?_⟩
  · exact ⟨memory_of_perm hregions any another, memory_of_perm hregions.symm another any⟩
  · have hpermuted := memory_of_perm hregions profile other hmemory
    obtain rfl : memory = memory' := Except.ok.inj (hpermuted.symm.trans hmemory')
    rw [hprofile]
    exact ⟨rfl, rfl, fun _ _ => rfl, fun _ => rfl, fun _ _ => rfl⟩

/-- Two symbols at one address and a type with two fields. -/
def smallItems : List Profile.Item :=
  [.symbol "nt!A" 16, .symbol "nt!B" 16, .type "nt!A" 8 [("First", 0), ("Second", 4)]]

/-- The same items in the opposite order, and so the fields. -/
def smallItemsReversed : List Profile.Item :=
  [.type "nt!A" 8 [("Second", 4), ("First", 0)], .symbol "nt!B" 16, .symbol "nt!A" 16]

/-- Regions that touch, the last of them empty. -/
def smallRegions : List Region := [⟨16, "aAbb"⟩, ⟨18, ""⟩, ⟨12, "01020304"⟩]

/-- The small target can be built in either order. -/
theorem target_of_rearranged_small :
    ∃ memory, (Snapshot.mk (.ofItems 8 true smallItems) smallRegions).memory = .ok memory ∧
      (Snapshot.mk (.ofItems 8 true smallItemsReversed) smallRegions.reverse).memory = .ok memory ∧
      (capture (.ofItems 8 true smallItems) memory).text =
        (capture (.ofItems 8 true smallItemsReversed) memory).text := by
  have hdistinct : Profile.Distinct smallItems := by
    constructor
    · decide
    · intro name size fields hmem
      simp only [smallItems, List.mem_cons, Profile.Item.type.injEq, reduceCtorEq, false_or,
        List.not_mem_nil, or_false] at hmem
      obtain ⟨-, -, rfl⟩ := hmem
      decide
  have hitems : Profile.Rearranged smallItems smallItemsReversed :=
    ⟨smallItems.reverse, smallItems.reverse_perm.symm,
      .cons (.type _ _ (.swap _ _ _)) (.cons (.symbol _ _) (.cons (.symbol _ _) .nil))⟩
  have hmemory : (Snapshot.mk (.ofItems 8 true smallItems) smallRegions).memory =
      .ok (.run [.map 16 #[0xAA, 0xBB], .map 18 #[], .map 12 #[1, 2, 3, 4]]) := rfl
  obtain ⟨-, hmemories, halike⟩ :=
    target_of_rearranged 8 true hdistinct hitems smallRegions.reverse_perm.symm
  have hreversed := (hmemories _ (.ofItems 8 true smallItemsReversed) _).1 hmemory
  exact ⟨_, hmemory, hreversed, (halike _ _ hmemory hreversed).2.1⟩

end Snapshot

end KernelScope
