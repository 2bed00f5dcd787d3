import KernelScope.Json.Record
import KernelScope.Proofs.Json.RoundTrip
import KernelScope.Proofs.OrderedMap

/-!
# Data written to JSON and read back

Words, texts, tables and records are read back as they were written.  A record keeps each of its
fields because no two of them have one name, and a table keeps its pairs because its keys increase.
-/

set_option autoImplicit false

namespace KernelScope.Json

/-- Whatever is written is well formed, and is read back. -/
def Lossless {α : Type} (read : Json → Option α) (write : α → Json) : Prop :=
  ∀ a, WellFormed (write a) ∧ read (write a) = some a

/-! ## Words -/

theorem takeWhile_eq_self_of_all {p : Char → Bool} {cs : List Char} (h : ∀ c ∈ cs, p c = true) :
    cs.takeWhile p = cs ∧ cs.dropWhile p = [] := by
  induction cs with
  | nil => exact ⟨rfl, rfl⟩
  | cons c cs ih =>
    have hc : p c = true := h c List.mem_cons_self
    obtain ⟨htake, hdrop⟩ := ih fun d hd => h d (List.mem_cons_of_mem c hd)
    rw [List.takeWhile_cons_of_pos hc, List.dropWhile_cons_of_pos hc, htake, hdrop]
    exact ⟨rfl, rfl⟩

theorem isDigit_toDigits (n : Nat) : ∀ c ∈ Nat.toDigits 10 n, c.isDigit = true :=
  fun _ hc => Nat.isDigit_of_mem_toDigits (by decide) (by decide) hc

/-- A number above zero does not begin with a zero. -/
theorem head_toDigits_ne_zero {n : Nat} (hpos : 0 < n) :
    ∃ c cs, Nat.toDigits 10 n = c :: cs ∧ c ≠ '0' := by
  induction n using Nat.strongRecOn with
  | _ n ih =>
    rw [Nat.toDigits_eq_if (by decide)]
    split
    next hlt =>
      have hchar : ∀ m < 10, 0 < m → Nat.digitChar m ≠ '0' := by decide
      exact ⟨_, [], rfl, hchar n hlt hpos⟩
    next hle =>
      obtain ⟨c, cs, hdigits, hne⟩ := ih (n / 10) (by omega) (by omega)
      exact ⟨c, cs ++ [Nat.digitChar (n % 10)], by rw [hdigits, List.cons_append], hne⟩

theorem isWholePart_toDigits (n : Nat) : isWholePart (Nat.toDigits 10 n) = true := by
  rcases Nat.eq_zero_or_pos n with rfl | hpos
  · rfl
  · obtain ⟨c, cs, hdigits, hne⟩ := head_toDigits_ne_zero hpos
    have hall : (Nat.toDigits 10 n).all Char.isDigit = true :=
      List.all_eq_true.2 (isDigit_toDigits n)
    rw [hdigits] at hall ⊢
    unfold isWholePart
    split
    next heq => exact absurd heq (by simp)
    next heq => exact absurd (List.cons.inj heq).1 hne
    next => exact hall

theorem isNumber_toDigits (n : Nat) : isNumber (Nat.toDigits 10 n) = true := by
  have hdigits := isDigit_toDigits n
  obtain ⟨htake, hdrop⟩ := takeWhile_eq_self_of_all hdigits
  unfold isNumber
  split
  next heq =>
    -- a sign is no digit
    rw [heq] at hdigits
    exact absurd (hdigits '-' List.mem_cons_self) (by decide)
  next =>
    change (isWholePart ((Nat.toDigits 10 n).takeWhile Char.isDigit) &&
      isFractionPart ((Nat.toDigits 10 n).dropWhile Char.isDigit)) = true
    rw [htake, hdrop, isWholePart_toDigits]
    rfl

theorem natural?_toDigits (n : Nat) : natural? (Nat.toDigits 10 n) = some n := by
  unfold natural?
  rw [if_pos (List.all_eq_true.2 (isDigit_toDigits n)), Nat.ofDigitChars_ten_toDigits]

theorem lossless_word : Lossless word? ofWord := by
  intro word
  have hlt : word.toNat < wordLimit := word.toNat_lt
  constructor
  · refine .number ?_
    rw [String.toList_ofList]
    exact isNumber_toDigits word.toNat
  · unfold word? ofWord
    simp only [String.toList_ofList]
    rw [natural?_toDigits, Option.bind_some, if_pos hlt, UInt64.ofNat_toNat]

theorem lossless_text : Lossless text? ofText := fun text => ⟨.string (some text), rfl⟩

/-! ## Arrays and tables -/

theorem mapM_eq_some {α β : Type} {f : α → Option β} {g : α → β} {items : List α}
    (h : ∀ item ∈ items, f item = some (g item)) : items.mapM f = some (items.map g) := by
  induction items with
  | nil => rfl
  | cons item items ih =>
    have hitem := h item List.mem_cons_self
    have hitems := ih fun other hother => h other (List.mem_cons_of_mem item hother)
    rw [List.mapM_cons, hitem, hitems]
    rfl

theorem lossless_array {α : Type} {read : Json → Option α} {write : α → Json}
    (h : Lossless read write) :
    Lossless (fun json => json.items? >>= List.mapM read)
      fun items => .array (items.map write) := by
  intro items
  constructor
  · refine .array fun json hjson => ?_
    obtain ⟨item, -, rfl⟩ := List.mem_map.1 hjson
    exact (h item).1
  · change (items.map write).mapM read = some items
    have hread : ∀ item ∈ items, (read ∘ write) item = some item := fun item _ => (h item).2
    rw [List.mapM_map, mapM_eq_some hread, List.map_id']

theorem readableMembers?_map {α : Type} (key : α → String) (value : α → Json) (items : List α) :
    readableMembers? (items.map fun item => (some (key item), value item)) =
      some (items.map fun item => (key item, value item)) := by
  unfold readableMembers?
  rw [List.mapM_map]
  exact mapM_eq_some fun item _ => rfl

theorem lossless_table {α : Type} {read : Json → Option α} {write : α → Json}
    (h : Lossless read write) : Lossless (table? read) (ofTable write) := by
  intro table
  constructor
  · refine .object fun member hmember => ?_
    obtain ⟨pair, -, rfl⟩ := List.mem_map.1 hmember
    exact (h pair.2).1
  · have hpairs : (table.toList.map fun pair => (pair.1, write pair.2)).mapM
        (fun member => (read member.2).map fun value => (member.1, value)) =
          some table.toList := by
      rw [List.mapM_map, mapM_eq_some fun pair _ => by rw [Function.comp, (h pair.2).2]; rfl]
      exact congrArg some (List.map_id' table.toList)
    unfold table? ofTable
    simp only [readableMembers?_map, Option.bind_some, hpairs, Option.map_some,
      OrderedMap.ofList_toList]

/-! ## Records -/

theorem wellFormed_ofRecord {fields : List (String × Json)}
    (h : ∀ field ∈ fields, WellFormed field.2) : WellFormed (ofRecord fields) := by
  refine .object fun member hmember => ?_
  obtain ⟨field, hfield, rfl⟩ := List.mem_map.1 hmember
  exact h field hfield

theorem filter_eq_singleton {fields : List (String × Json)} (hnodup : (fields.map (·.1)).Nodup)
    {field : String × Json} (hfield : field ∈ fields) :
    (fields.filter fun member => member.1 == field.1) = [field] := by
  induction fields with
  | nil => exact absurd hfield (List.not_mem_nil)
  | cons head fields ih =>
    rw [List.map_cons, List.nodup_cons] at hnodup
    obtain ⟨hhead, hnodup⟩ := hnodup
    rcases List.mem_cons.1 hfield with rfl | hfield
    · have hnone : (fields.filter fun member => member.1 == field.1) = [] := by
        refine List.filter_eq_nil_iff.2 fun member hmember hname => hhead ?_
        rw [← beq_iff_eq.1 hname]
        exact List.mem_map_of_mem hmember
      rw [List.filter_cons_of_pos (by simp), hnone]
    · have hne : head.1 ≠ field.1 := by
        intro heq
        rw [heq] at hhead
        exact hhead (List.mem_map_of_mem hfield)
      rw [List.filter_cons_of_neg (by simpa using hne), ih hnodup hfield]

theorem fieldValue?_of_mem {fields : List (String × Json)} (hnodup : (fields.map (·.1)).Nodup)
    {field : String × Json} (hfield : field ∈ fields) :
    fieldValue? fields field.1 = some (some field.2) := by
  unfold fieldValue?
  rw [filter_eq_singleton hnodup hfield]

/-- A record gives each of its fields the value that it was written with. -/
theorem record?_ofRecord {fields : List (String × Json)} (hnodup : (fields.map (·.1)).Nodup) :
    record? (fields.map (·.1)) (ofRecord fields) = some (fields.map fun field => some field.2) := by
  have hmembers := readableMembers?_map Prod.fst Prod.snd fields
  rw [List.map_id'] at hmembers
  unfold record? ofRecord
  simp only [hmembers, Option.bind_some]
  rw [List.mapM_map]
  exact mapM_eq_some fun field hfield => fieldValue?_of_mem hnodup hfield

end KernelScope.Json
