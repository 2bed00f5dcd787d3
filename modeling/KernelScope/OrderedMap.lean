/-!
# Maps in key order

Symbols, fields, types and memory regions are all kept by key, and all of them are shown in key
order.  `OrderedMap` is a list of pairs whose keys increase, so two maps with the same pairs are
equal however they were built.  Strings are ordered by code point, which is also the order of their
UTF-8 bytes.
-/

set_option autoImplicit false

namespace KernelScope

/-- The order of two pairs by their keys. -/
def KeyBefore {κ ν : Type} [Ord κ] (a b : κ × ν) : Prop := compare a.1 b.1 = .lt

/-- A finite map, as its pairs in increasing order of keys. -/
structure OrderedMap (κ ν : Type) [Ord κ] where
  toList : List (κ × ν)
  increasing : toList.Pairwise KeyBefore
  deriving DecidableEq, Repr

namespace OrderedMap

variable {κ ν : Type} [Ord κ]

/-! ## Insertion -/

/-- Puts a pair in its place among pairs in key order, instead of a pair with the same key. -/
def insertPair (key : κ) (value : ν) : List (κ × ν) → List (κ × ν)
  | [] => [(key, value)]
  | pair :: rest =>
    match compare key pair.1 with
    | .lt => (key, value) :: pair :: rest
    | .eq => (key, value) :: rest
    | .gt => pair :: insertPair key value rest

/-- Every pair after an insertion is the new one or was there before. -/
theorem mem_insertPair {key : κ} {value : ν} {pairs : List (κ × ν)} {pair : κ × ν}
    (h : pair ∈ insertPair key value pairs) : pair = (key, value) ∨ pair ∈ pairs := by
  induction pairs with
  | nil => simpa [insertPair] using h
  | cons head rest ih =>
    unfold insertPair at h
    split at h <;> simp only [List.mem_cons] at h ⊢
    · exact h
    · exact h.imp id Or.inr
    · rcases h with h | h
      · exact .inr (.inl h)
      · exact (ih h).imp id Or.inr

/-- Insertion keeps the keys increasing. -/
theorem pairwise_insertPair [Std.TransOrd κ] (key : κ) (value : ν) {pairs : List (κ × ν)}
    (h : pairs.Pairwise KeyBefore) : (insertPair key value pairs).Pairwise KeyBefore := by
  induction pairs with
  | nil => simp [insertPair]
  | cons head rest ih =>
    obtain ⟨headBefore, restOrdered⟩ := List.pairwise_cons.1 h
    unfold insertPair
    split
    next before =>
      refine List.pairwise_cons.2 ⟨fun pair mem => ?_, h⟩
      rcases List.mem_cons.1 mem with rfl | mem
      · exact before
      · exact Std.TransCmp.lt_trans before (headBefore pair mem)
    next same =>
      refine List.pairwise_cons.2 ⟨fun pair mem => ?_, restOrdered⟩
      exact Std.TransCmp.lt_of_eq_of_lt same (headBefore pair mem)
    next after =>
      refine List.pairwise_cons.2 ⟨fun pair mem => ?_, ih restOrdered⟩
      rcases mem_insertPair mem with rfl | mem
      · exact Std.OrientedCmp.lt_of_gt after
      · exact headBefore pair mem

/-- The map without pairs. -/
def empty : OrderedMap κ ν := ⟨[], .nil⟩

/-- The map in which `key` has `value`, whatever it had before. -/
def insert [Std.TransOrd κ] (map : OrderedMap κ ν) (key : κ) (value : ν) : OrderedMap κ ν :=
  ⟨insertPair key value map.toList, pairwise_insertPair key value map.increasing⟩

/-- The map of the pairs, of which the last with a key counts. -/
def ofList [Std.TransOrd κ] (pairs : List (κ × ν)) : OrderedMap κ ν :=
  pairs.foldl (fun map pair => map.insert pair.1 pair.2) empty

/-! ## Access -/

/-- The value of `key`. -/
def get? (map : OrderedMap κ ν) (key : κ) : Option ν :=
  (map.toList.find? fun pair => compare pair.1 key == .eq).map (·.2)

/-- The pair with the greatest key that is at most `key`. -/
def floor? (map : OrderedMap κ ν) (key : κ) : Option (κ × ν) :=
  (map.toList.takeWhile fun pair => (compare pair.1 key).isLE).getLast?

/-- The pair with the least key that is at least `key`. -/
def ceiling? (map : OrderedMap κ ν) (key : κ) : Option (κ × ν) :=
  map.toList.find? fun pair => (compare key pair.1).isLE

/-- Two maps with the same pairs are equal. -/
@[ext] theorem ext {a b : OrderedMap κ ν} (h : a.toList = b.toList) : a = b := by
  cases a
  cases b
  simpa using h

@[simp] theorem toList_insert [Std.TransOrd κ] (map : OrderedMap κ ν) (key : κ) (value : ν) :
    (map.insert key value).toList = insertPair key value map.toList := rfl

end OrderedMap

end KernelScope
