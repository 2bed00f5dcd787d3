import KernelScope.OrderedMap
import Mathlib.Data.List.Induction

/-!
# Neighbours and members of ordered maps

What `insert` leaves in a map, which pairs `floor?` and `ceiling?` find, and that a map is put
together again from its own pairs.  Everything is said through membership: since the keys increase,
the members of a map decide the map.
-/

set_option autoImplicit false

namespace KernelScope.OrderedMap

variable {κ ν : Type} [Ord κ]

/-! ## Members -/

/-- Of two pairs in increasing order one comes first, or they are the same pair. -/
theorem keyBefore_or_eq {pairs : List (κ × ν)} (hpairs : pairs.Pairwise KeyBefore)
    {p q : κ × ν} (hp : p ∈ pairs) (hq : q ∈ pairs) : KeyBefore p q ∨ p = q ∨ KeyBefore q p := by
  induction pairs with
  | nil => simp at hp
  | cons head rest ih =>
    obtain ⟨hhead, hrest⟩ := List.pairwise_cons.1 hpairs
    rcases List.mem_cons.1 hp with rfl | hp'
    · rcases List.mem_cons.1 hq with rfl | hq'
      · exact .inr (.inl rfl)
      · exact .inl (hhead q hq')
    · rcases List.mem_cons.1 hq with rfl | hq'
      · exact .inr (.inr (hhead p hp'))
      · exact ih hrest hp' hq'

/-- A key stands before no pair with the same key. -/
theorem not_keyBefore_of_key_eq [Std.TransOrd κ] {p q : κ × ν} (hkey : p.1 = q.1) :
    ¬ KeyBefore p q := by
  intro hbefore
  have hself : compare q.1 q.1 = .eq := Std.ReflCmp.compare_self
  rw [KeyBefore, hkey, hself] at hbefore
  cases hbefore

/-- A map gives a key to one pair only. -/
theorem eq_of_key_eq [Std.TransOrd κ] (map : OrderedMap κ ν) {p q : κ × ν} (hp : p ∈ map.toList)
    (hq : q ∈ map.toList) (hkey : p.1 = q.1) : p = q := by
  rcases keyBefore_or_eq map.increasing hp hq with h | h | h
  · exact absurd h (not_keyBefore_of_key_eq hkey)
  · exact h
  · exact absurd h (not_keyBefore_of_key_eq hkey.symm)

/-- The value of a key is the one that its pair has. -/
theorem get?_eq_some_iff [Std.TransOrd κ] [Std.LawfulEqOrd κ] (map : OrderedMap κ ν) (key : κ)
    (value : ν) : map.get? key = some value ↔ (key, value) ∈ map.toList := by
  simp only [get?, Option.map_eq_some_iff]
  constructor
  · rintro ⟨pair, hfind, rfl⟩
    have hkey : pair.1 = key := by simpa using List.find?_some hfind
    subst hkey
    exact List.mem_of_find?_eq_some hfind
  · intro hmem
    cases hfind : map.toList.find? fun pair => compare pair.1 key == .eq with
    | none => simpa using List.find?_eq_none.1 hfind _ hmem
    | some pair =>
      have hkey : pair.1 = key := by simpa using List.find?_some hfind
      have hpair := map.eq_of_key_eq (List.mem_of_find?_eq_some hfind) hmem hkey
      exact ⟨pair, rfl, by rw [hpair]⟩

/-! ## Insertion -/

/-- The new pair is among the pairs after an insertion. -/
theorem self_mem_insertPair (key : κ) (value : ν) (pairs : List (κ × ν)) :
    (key, value) ∈ insertPair key value pairs := by
  induction pairs with
  | nil => simp [insertPair]
  | cons head rest ih =>
    unfold insertPair
    split
    · simp
    · simp
    · exact List.mem_cons_of_mem _ ih

/-- A pair with another key is still among the pairs after an insertion. -/
theorem mem_insertPair_of_ne [Std.LawfulEqOrd κ] {key : κ} (value : ν) {pairs : List (κ × ν)}
    {pair : κ × ν} (hmem : pair ∈ pairs) (hne : pair.1 ≠ key) :
    pair ∈ insertPair key value pairs := by
  induction pairs with
  | nil => simp at hmem
  | cons head rest ih =>
    unfold insertPair
    split
    · exact List.mem_cons_of_mem _ hmem
    next hsame =>
      rcases List.mem_cons.1 hmem with rfl | hmem
      · exact absurd (Std.LawfulEqCmp.eq_of_compare hsame).symm hne
      · exact List.mem_cons_of_mem _ hmem
    · rcases List.mem_cons.1 hmem with rfl | hmem
      · exact List.mem_cons_self
      · exact List.mem_cons_of_mem _ (ih hmem)

/-- After an insertion a map has the new pair, and the former pairs with other keys. -/
theorem mem_insert_iff [Std.TransOrd κ] [Std.LawfulEqOrd κ] (map : OrderedMap κ ν) (key : κ)
    (value : ν) (pair : κ × ν) :
    pair ∈ (map.insert key value).toList ↔
      pair = (key, value) ∨ (pair ∈ map.toList ∧ pair.1 ≠ key) := by
  rw [toList_insert]
  constructor
  · intro hmem
    by_cases hkey : pair.1 = key
    · have hnew : (key, value) ∈ (map.insert key value).toList :=
        self_mem_insertPair key value map.toList
      exact .inl ((map.insert key value).eq_of_key_eq hmem hnew hkey)
    · rcases mem_insertPair hmem with rfl | hmem
      · exact .inl rfl
      · exact .inr ⟨hmem, hkey⟩
  · rintro (rfl | ⟨hmem, hne⟩)
    · exact self_mem_insertPair key value map.toList
    · exact mem_insertPair_of_ne value hmem hne

/-- A pair behind all others is put at the end. -/
theorem insertPair_eq_append [Std.TransOrd κ] {key : κ} (value : ν) {pairs : List (κ × ν)}
    (hlast : ∀ pair ∈ pairs, compare pair.1 key = .lt) :
    insertPair key value pairs = pairs ++ [(key, value)] := by
  induction pairs with
  | nil => rfl
  | cons head rest ih =>
    have hgt : compare key head.1 = .gt :=
      Std.OrientedCmp.gt_of_lt (hlast head List.mem_cons_self)
    rw [insertPair, hgt]
    exact congrArg (head :: ·) (ih fun pair hpair => hlast pair (List.mem_cons_of_mem _ hpair))

/-- A new value for a key that is there leaves the keys and their order as they are. -/
theorem insertPair_eq_map [Std.TransOrd κ] {key : κ} (value : ν) {old : ν} {pairs : List (κ × ν)}
    (hpairs : pairs.Pairwise KeyBefore) (hmem : (key, old) ∈ pairs) :
    insertPair key value pairs =
      pairs.map fun pair => if compare key pair.1 = .eq then (key, value) else pair := by
  induction pairs with
  | nil => simp at hmem
  | cons head rest ih =>
    obtain ⟨hhead, hrest⟩ := List.pairwise_cons.1 hpairs
    rcases List.mem_cons.1 hmem with rfl | hmem
    · have hlater : ∀ pair ∈ rest,
          (if compare key pair.1 = .eq then (key, value) else pair) = pair := by
        intro pair hpair
        have hlt : compare key pair.1 = .lt := hhead pair hpair
        simp [hlt]
      simp [insertPair, List.map_congr_left hlater]
    · have hgt : compare key head.1 = .gt := Std.OrientedCmp.gt_of_lt (hhead _ hmem)
      simp [insertPair, hgt, ih hrest hmem]

/-- Maps with the same members are the same map. -/
theorem ext_mem [Std.TransOrd κ] {a b : OrderedMap κ ν}
    (h : ∀ pair, pair ∈ a.toList ↔ pair ∈ b.toList) : a = b := by
  have hdistinct : ∀ map : OrderedMap κ ν, map.toList.Nodup := fun map =>
    map.increasing.imp fun {low high} hbefore heq =>
      not_keyBefore_of_key_eq (congrArg Prod.fst heq) hbefore
  have hperm : a.toList.Perm b.toList :=
    (List.perm_ext_iff_of_nodup (hdistinct a) (hdistinct b)).2 h
  refine ext (hperm.eq_of_pairwise ?_ a.increasing b.increasing)
  intro low high _ _ hbefore hafter
  have hcycle : KeyBefore low low := Std.TransCmp.lt_trans hbefore hafter
  exact absurd hcycle (not_keyBefore_of_key_eq rfl)

/-- Pairs with different keys may be inserted in either order. -/
theorem insert_comm [Std.TransOrd κ] [Std.LawfulEqOrd κ] (map : OrderedMap κ ν) {key other : κ}
    (hne : key ≠ other) (value otherValue : ν) :
    (map.insert key value).insert other otherValue =
      (map.insert other otherValue).insert key value := by
  apply ext_mem
  intro pair
  simp only [mem_insert_iff]
  constructor
  · rintro (rfl | ⟨rfl | ⟨hmem, hkey⟩, hother⟩)
    · exact .inr ⟨.inl rfl, hne.symm⟩
    · exact .inl rfl
    · exact .inr ⟨.inr ⟨hmem, hother⟩, hkey⟩
  · rintro (rfl | ⟨rfl | ⟨hmem, hother⟩, hkey⟩)
    · exact .inr ⟨.inl rfl, hne⟩
    · exact .inl rfl
    · exact .inr ⟨.inr ⟨hmem, hkey⟩, hother⟩

/-- Of two values inserted for a key, the last one counts. -/
theorem insert_insert [Std.TransOrd κ] [Std.LawfulEqOrd κ] (map : OrderedMap κ ν) (key : κ)
    (value later : ν) : (map.insert key value).insert key later = map.insert key later := by
  apply ext_mem
  intro pair
  simp only [mem_insert_iff]
  constructor
  · rintro (rfl | ⟨rfl | hold, hkey⟩)
    · exact .inl rfl
    · exact absurd rfl hkey
    · exact .inr hold
  · rintro (rfl | ⟨hmem, hkey⟩)
    · exact .inl rfl
    · exact .inr ⟨.inr ⟨hmem, hkey⟩, hkey⟩

/-! ## Neighbours -/

/-- Among increasing pairs, the first ones up to a key are all pairs up to it. -/
theorem mem_takeWhile_iff [Std.TransOrd κ] {pairs : List (κ × ν)}
    (hpairs : pairs.Pairwise KeyBefore) (key : κ) (pair : κ × ν) :
    pair ∈ pairs.takeWhile (fun pair => (compare pair.1 key).isLE) ↔
      pair ∈ pairs ∧ (compare pair.1 key).isLE := by
  induction pairs with
  | nil => simp
  | cons head rest ih =>
    obtain ⟨hhead, hrest⟩ := List.pairwise_cons.1 hpairs
    by_cases hle : (compare head.1 key).isLE
    · rw [List.takeWhile_cons, if_pos hle]
      simp only [List.mem_cons, ih hrest]
      constructor
      · rintro (rfl | ⟨hmem, hpair⟩)
        · exact ⟨.inl rfl, hle⟩
        · exact ⟨.inr hmem, hpair⟩
      · rintro ⟨rfl | hmem, hpair⟩
        · exact .inl rfl
        · exact .inr ⟨hmem, hpair⟩
    · rw [List.takeWhile_cons, if_neg hle]
      simp only [List.not_mem_nil, false_iff, not_and]
      intro hmem hpair
      rcases List.mem_cons.1 hmem with rfl | hmem
      · exact hle hpair
      · have hlt : (compare head.1 pair.1).isLE := by
          rw [show compare head.1 pair.1 = .lt from hhead pair hmem]
          rfl
        exact hle (Std.TransCmp.isLE_trans hlt hpair)

/-- `floor?` finds the last pair up to a key. -/
theorem floor?_eq_some_iff [Std.TransOrd κ] (map : OrderedMap κ ν) (key : κ) (pair : κ × ν) :
    map.floor? key = some pair ↔
      pair ∈ map.toList ∧ (compare pair.1 key).isLE ∧
        ∀ other ∈ map.toList, (compare other.1 key).isLE → other = pair ∨ KeyBefore other pair := by
  have hmem := mem_takeWhile_iff map.increasing key
  have hsorted : (map.toList.takeWhile fun pair => (compare pair.1 key).isLE).Pairwise KeyBefore :=
    map.increasing.sublist (List.takeWhile_sublist _)
  unfold floor?
  constructor
  · intro hlast
    obtain ⟨front, hfront⟩ := List.getLast?_eq_some_iff.1 hlast
    rw [hfront] at hmem hsorted
    obtain ⟨hpair, hle⟩ := (hmem pair).1 (by simp)
    refine ⟨hpair, hle, fun other hother hotherle => ?_⟩
    have hsplit := (hmem other).2 ⟨hother, hotherle⟩
    rcases List.mem_append.1 hsplit with hfirst | hself
    · exact .inr ((List.pairwise_append.1 hsorted).2.2 other hfirst pair (by simp))
    · exact .inl (by simpa using hself)
  · rintro ⟨hpair, hle, hgreatest⟩
    have hin := (hmem pair).2 ⟨hpair, hle⟩
    cases hlast : (map.toList.takeWhile fun pair => (compare pair.1 key).isLE).getLast? with
    | none =>
      rw [List.getLast?_eq_none_iff.1 hlast] at hin
      simp at hin
    | some last =>
      obtain ⟨front, hfront⟩ := List.getLast?_eq_some_iff.1 hlast
      rw [hfront] at hin hsorted hmem
      rcases List.mem_append.1 hin with hfirst | hself
      · have hbefore : KeyBefore pair last :=
          (List.pairwise_append.1 hsorted).2.2 pair hfirst last (by simp)
        obtain ⟨hlastMem, hlastLe⟩ := (hmem last).1 (by simp)
        rcases hgreatest last hlastMem hlastLe with rfl | hafter
        · rfl
        · have hcycle : KeyBefore pair pair := Std.TransCmp.lt_trans hbefore hafter
          exact absurd hcycle (not_keyBefore_of_key_eq rfl)
      · rw [List.mem_singleton.1 hself]

/-- `floor?` finds nothing when every pair is behind the key. -/
theorem floor?_eq_none_iff [Std.TransOrd κ] (map : OrderedMap κ ν) (key : κ) :
    map.floor? key = none ↔ ∀ pair ∈ map.toList, ¬ (compare pair.1 key).isLE := by
  have hmem := mem_takeWhile_iff map.increasing key
  unfold floor?
  rw [List.getLast?_eq_none_iff, List.eq_nil_iff_forall_not_mem]
  constructor
  · intro hnone pair hpair hle
    exact hnone pair ((hmem pair).2 ⟨hpair, hle⟩)
  · intro hnone pair hpair
    exact hnone pair ((hmem pair).1 hpair).1 ((hmem pair).1 hpair).2

/-- `ceiling?` finds the first pair from a key on. -/
theorem ceiling?_eq_some [Std.TransOrd κ] (map : OrderedMap κ ν) {key : κ} {pair : κ × ν}
    (hceiling : map.ceiling? key = some pair) :
    pair ∈ map.toList ∧ (compare key pair.1).isLE ∧
      ∀ other ∈ map.toList, (compare key other.1).isLE → ¬ KeyBefore other pair := by
  unfold ceiling? at hceiling
  obtain ⟨hle, front, back, hsplit, hfront⟩ := List.find?_eq_some_iff_append.1 hceiling
  refine ⟨List.mem_of_find?_eq_some hceiling, hle, fun other hother hotherle hbefore => ?_⟩
  have hsorted := map.increasing
  rw [hsplit] at hsorted hother
  rcases List.mem_append.1 hother with hfirst | hlater
  · simpa [hotherle] using hfront other hfirst
  · rcases List.mem_cons.1 hlater with rfl | hback
    · exact not_keyBefore_of_key_eq rfl hbefore
    · have hafter : KeyBefore pair other :=
        (List.pairwise_cons.1 (List.pairwise_append.1 hsorted).2.1).1 other hback
      have hcycle : KeyBefore other other := Std.TransCmp.lt_trans hbefore hafter
      exact not_keyBefore_of_key_eq rfl hcycle

/-- `ceiling?` finds nothing when every pair is before the key. -/
theorem ceiling?_eq_none_iff (map : OrderedMap κ ν) (key : κ) :
    map.ceiling? key = none ↔ ∀ pair ∈ map.toList, ¬ (compare key pair.1).isLE := by
  simp only [ceiling?, List.find?_eq_none]

/-- Of the pairs up to a limit, a new pair is the last one if no other one comes behind it. -/
theorem floor?_insert [Std.TransOrd κ] [Std.LawfulEqOrd κ] (map : OrderedMap κ ν) (key : κ)
    (value : ν) (limit : κ) :
    (map.insert key value).floor? limit =
      if (compare key limit).isLE ∧ ∀ last ∈ map.floor? limit, (compare last.1 key).isLE then
        some (key, value)
      else map.floor? limit := by
  split
  next hlast =>
    obtain ⟨hle, hbefore⟩ := hlast
    refine (floor?_eq_some_iff _ _ _).2 ⟨(mem_insert_iff ..).2 (.inl rfl), hle, ?_⟩
    intro other hother hotherle
    rcases (mem_insert_iff ..).1 hother with rfl | ⟨hold, hne⟩
    · exact .inl rfl
    · right
      have hotherKey : (compare other.1 key).isLE := by
        cases hfloor : map.floor? limit with
        | none => exact absurd hotherle ((floor?_eq_none_iff _ _).1 hfloor other hold)
        | some last =>
          obtain ⟨-, -, hgreatest⟩ := (floor?_eq_some_iff _ _ _).1 hfloor
          rcases hgreatest other hold hotherle with rfl | hkey
          · exact hbefore other hfloor
          · exact Std.TransCmp.isLE_trans (Ordering.isLE_of_eq_lt hkey) (hbefore last hfloor)
      rcases Ordering.isLE_iff_eq_lt_or_eq_eq.1 hotherKey with hlt | hsame
      · exact hlt
      · exact absurd (Std.LawfulEqCmp.eq_of_compare hsame) hne
  next hnot =>
    cases hfloor : map.floor? limit with
    | none =>
      refine (floor?_eq_none_iff _ _).2 fun other hother => ?_
      rcases (mem_insert_iff ..).1 hother with rfl | ⟨hold, -⟩
      · exact fun hle => hnot ⟨hle, by simp [hfloor]⟩
      · exact (floor?_eq_none_iff _ _).1 hfloor other hold
    | some last =>
      obtain ⟨hmem, hle, hgreatest⟩ := (floor?_eq_some_iff _ _ _).1 hfloor
      -- the new pair is not up to the limit, or before the last pair that is
      have hnew : (compare key limit).isLE → compare key last.1 = .lt := by
        intro hkey
        refine Std.OrientedCmp.lt_of_not_isLE fun hlast => ?_
        exact hnot ⟨hkey, by simpa [hfloor] using hlast⟩
      have hne : last.1 ≠ key := by
        rintro rfl
        exact absurd (hnew hle) (by simp)
      refine (floor?_eq_some_iff _ _ _).2 ⟨(mem_insert_iff ..).2 (.inr ⟨hmem, hne⟩), hle, ?_⟩
      intro other hother hotherle
      rcases (mem_insert_iff ..).1 hother with rfl | ⟨hold, -⟩
      · exact .inr (hnew hotherle)
      · exact hgreatest other hold hotherle

/-! ## Putting a map together -/

theorem ofList_append_singleton [Std.TransOrd κ] (pairs : List (κ × ν)) (pair : κ × ν) :
    ofList (pairs ++ [pair]) = (ofList pairs).insert pair.1 pair.2 := by
  rw [ofList, List.foldl_append]
  rfl

/-- A map has those of its pairs that no later one with the same key replaces. -/
theorem mem_ofList_iff [Std.TransOrd κ] [Std.LawfulEqOrd κ] (pairs : List (κ × ν)) (pair : κ × ν) :
    pair ∈ (ofList pairs).toList ↔
      ∃ front back, pairs = front ++ pair :: back ∧ ∀ later ∈ back, later.1 ≠ pair.1 := by
  induction pairs using List.reverseRecOn with
  | nil => simp [ofList, empty]
  | append_singleton pairs last ih =>
    rw [ofList_append_singleton, mem_insert_iff]
    constructor
    · rintro (rfl | ⟨hold, hne⟩)
      · exact ⟨pairs, [], rfl, by simp⟩
      · obtain ⟨front, back, rfl, hback⟩ := ih.1 hold
        refine ⟨front, back ++ [last], by simp, ?_⟩
        rw [List.forall_mem_append, List.forall_mem_singleton]
        exact ⟨hback, hne.symm⟩
    · rintro ⟨front, back, hsplit, hback⟩
      cases back using List.reverseRecOn with
      | nil =>
        obtain ⟨-, hlast⟩ := List.append_inj' hsplit rfl
        exact .inl (List.singleton_inj.1 hlast).symm
      | append_singleton back later =>
        rw [← List.cons_append, ← List.append_assoc] at hsplit
        obtain ⟨rfl, hlast⟩ := List.append_inj' hsplit rfl
        obtain rfl := List.singleton_inj.1 hlast
        obtain ⟨hfront, hkey⟩ := List.forall_mem_append.1 hback
        exact .inr ⟨ih.2 ⟨front, back, rfl, hfront⟩, (hkey last (by simp)).symm⟩

/-- A map has every key of its pairs. -/
theorem exists_mem_ofList [Std.TransOrd κ] [Std.LawfulEqOrd κ] {pairs : List (κ × ν)} {key : κ}
    {value : ν} (hmem : (key, value) ∈ pairs) : ∃ last, (key, last) ∈ (ofList pairs).toList := by
  induction pairs using List.reverseRecOn generalizing value with
  | nil => simp at hmem
  | append_singleton pairs pair ih =>
    rw [ofList_append_singleton]
    by_cases hkey : key = pair.1
    · exact ⟨pair.2, (mem_insert_iff ..).2 (.inl (by rw [hkey]))⟩
    · rcases List.mem_append.1 hmem with hold | hself
      · obtain ⟨last, hlast⟩ := ih hold
        exact ⟨last, (mem_insert_iff ..).2 (.inr ⟨hlast, hkey⟩)⟩
      · exact absurd (congrArg Prod.fst (List.mem_singleton.1 hself)) hkey

/-- Adding increasing pairs behind those of a map appends them. -/
theorem foldl_insert_toList [Std.TransOrd κ] (later : List (κ × ν)) (map : OrderedMap κ ν)
    (hsorted : (map.toList ++ later).Pairwise KeyBefore) :
    (later.foldl (fun map pair => map.insert pair.1 pair.2) map).toList = map.toList ++ later := by
  induction later generalizing map with
  | nil => simp
  | cons pair rest ih =>
    have hlast : ∀ former ∈ map.toList, compare former.1 pair.1 = .lt := fun former hformer =>
      (List.pairwise_append.1 hsorted).2.2 former hformer pair List.mem_cons_self
    have hinsert : (map.insert pair.1 pair.2).toList = map.toList ++ [pair] :=
      insertPair_eq_append pair.2 hlast
    rw [List.foldl_cons, ih _ (by rw [hinsert]; simpa using hsorted), hinsert]
    simp

/-- A map is made again from its own pairs. -/
theorem ofList_toList [Std.TransOrd κ] (map : OrderedMap κ ν) : ofList map.toList = map :=
  ext (foldl_insert_toList map.toList empty (by simpa [empty] using map.increasing))

end KernelScope.OrderedMap
