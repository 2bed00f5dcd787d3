import KernelScope.Json.Reader
import KernelScope.Proofs.Json.Scanner

/-!
# Values printed and read back

The text of a value spells a row of tokens with blanks between them, and the reader makes the value
of the row again.  Both are shown for any characters and tokens that follow, inside any open arrays
and objects.
-/

set_option autoImplicit false

namespace KernelScope.Json

/-! ## Tokens of a value -/

mutual

/-- The tokens that spell a value. -/
def tokens : Json → List Token
  | .null => [.null]
  | .bool value => [.bool value]
  | .number literal => [.number literal]
  | .string text => [.string text]
  | .array [] => [.openArray, .closeArray]
  | .array (item :: items) => .openArray :: tokens item ++ itemTokens items ++ [.closeArray]
  | .object [] => [.openObject, .closeObject]
  | .object ((key, value) :: members) =>
    .openObject :: .string key :: .colon :: tokens value ++ memberTokens members ++ [.closeObject]

/-- The tokens of the items behind the first. -/
def itemTokens : List Json → List Token
  | [] => []
  | item :: items => .comma :: tokens item ++ itemTokens items

/-- The tokens of the members behind the first. -/
def memberTokens : List (Option String × Json) → List Token
  | [] => []
  | (key, value) :: members =>
    .comma :: .string key :: .colon :: tokens value ++ memberTokens members

end

/-- Every number in the value is written as JSON writes numbers. -/
inductive WellFormed : Json → Prop where
  | null : WellFormed .null
  | bool (value : Bool) : WellFormed (.bool value)
  | number {literal : String} (hnumber : isNumber literal.toList = true) :
      WellFormed (.number literal)
  | string (text : Option String) : WellFormed (.string text)
  | array {items : List Json} (hitems : ∀ item ∈ items, WellFormed item) :
      WellFormed (.array items)
  | object {members : List (Option String × Json)}
      (hmembers : ∀ member ∈ members, WellFormed member.2) : WellFormed (.object members)

/-! ## Printed values are scanned as their tokens -/

theorem scansAs_string (text : Option String) : ScansAs (quote text) [.string text] :=
  fun done rest _ => scan_quote text done rest

theorem endsWord_renderItems (depth : Nat) (items : List Json) {rest : List Char}
    (hrest : EndsWord rest) : EndsWord (renderItems depth items ++ rest) := by
  cases items with
  | nil => simpa [renderItems] using hrest
  | cons item items =>
    rw [renderItems]
    exact endsWord_cons (by decide) _

theorem endsWord_renderMembers (depth : Nat) (members : List (Option String × Json))
    {rest : List Char} (hrest : EndsWord rest) :
    EndsWord (renderMembers depth members ++ rest) := by
  cases members with
  | nil => simpa [renderMembers] using hrest
  | cons member members =>
    obtain ⟨key, value⟩ := member
    rw [renderMembers]
    exact endsWord_cons (by decide) _

theorem endsWord_newLine (depth : Nat) (cs : List Char) : EndsWord (newLine depth ++ cs) :=
  endsWord_cons (by decide) _

theorem scan_renderItems (depth : Nat) (items : List Json)
    (hitems : ∀ item ∈ items, ScansAs (render depth item) (tokens item)) (done : List Token)
    {rest : List Char} (hrest : EndsWord rest) :
    scanFrom ⟨done, .between⟩ (renderItems depth items ++ rest) =
      scanFrom ⟨(itemTokens items).reverse ++ done, .between⟩ rest := by
  induction items generalizing done with
  | nil => simp [renderItems, itemTokens]
  | cons item items ih =>
    have hitem := hitems item List.mem_cons_self
    have htail := ih fun other h => hitems other (List.mem_cons_of_mem item h)
    simp only [renderItems, itemTokens, List.cons_append, List.append_assoc]
    rw [scan_mark (c := ',') rfl, scan_newLine,
      hitem _ _ (endsWord_renderItems depth items hrest), htail]
    simp

theorem scan_renderMembers (depth : Nat) (members : List (Option String × Json))
    (hmembers : ∀ member ∈ members, ScansAs (render depth member.2) (tokens member.2))
    (done : List Token) {rest : List Char} (hrest : EndsWord rest) :
    scanFrom ⟨done, .between⟩ (renderMembers depth members ++ rest) =
      scanFrom ⟨(memberTokens members).reverse ++ done, .between⟩ rest := by
  induction members generalizing done with
  | nil => simp [renderMembers, memberTokens]
  | cons member members ih =>
    obtain ⟨key, value⟩ := member
    have hvalue := hmembers (key, value) List.mem_cons_self
    have htail := ih fun other h => hmembers other (List.mem_cons_of_mem _ h)
    simp only [renderMembers, memberTokens, List.cons_append, List.append_assoc, List.nil_append]
    rw [scan_mark (c := ',') rfl, scan_newLine, scan_quote, scan_mark (c := ':') rfl, scan_space,
      hvalue _ _ (endsWord_renderMembers depth members hrest), htail]
    simp

/-- A printed value is scanned as its tokens, at any depth. -/
theorem scansAs_render {value : Json} (h : WellFormed value) (depth : Nat) :
    ScansAs (render depth value) (tokens value) := by
  induction h generalizing depth with
  | null =>
    rw [render, tokens]
    exact scansAs_bare (by decide) (by decide) (by decide)
  | bool value =>
    cases value <;> rw [render, tokens] <;>
      exact scansAs_bare (by decide) (by decide) (by decide)
  | number hnumber =>
    rw [render, tokens]
    exact scansAs_number hnumber
  | string text =>
    rw [render, tokens]
    exact scansAs_string text
  | @array items _ ih =>
    intro done rest _
    cases items with
    | nil =>
      simp only [render, tokens, List.cons_append, List.nil_append]
      rw [scan_mark (c := '[') rfl, scan_mark (c := ']') rfl]
      simp
    | cons item items =>
      have hitem := ih item List.mem_cons_self (depth + 1)
      have hitems := fun other h => ih other (List.mem_cons_of_mem item h) (depth + 1)
      have hend : EndsWord (newLine depth ++ ']' :: rest) := endsWord_newLine depth _
      simp only [render, tokens, List.cons_append, List.append_assoc, List.nil_append]
      rw [scan_mark (c := '[') rfl, scan_newLine,
        hitem _ _ (endsWord_renderItems (depth + 1) items hend),
        scan_renderItems (depth + 1) items hitems _ hend, scan_newLine,
        scan_mark (c := ']') rfl]
      simp
  | @object members _ ih =>
    intro done rest _
    cases members with
    | nil =>
      simp only [render, tokens, List.cons_append, List.nil_append]
      rw [scan_mark (c := '{') rfl, scan_mark (c := '}') rfl]
      simp
    | cons member members =>
      obtain ⟨key, value⟩ := member
      have hvalue := ih (key, value) List.mem_cons_self (depth + 1)
      have hmembers := fun other h => ih other (List.mem_cons_of_mem _ h) (depth + 1)
      have hend : EndsWord (newLine depth ++ '}' :: rest) := endsWord_newLine depth _
      simp only [render, tokens, List.cons_append, List.append_assoc, List.nil_append]
      rw [scan_mark (c := '{') rfl, scan_newLine, scan_quote, scan_mark (c := ':') rfl, scan_space,
        hvalue _ _ (endsWord_renderMembers (depth + 1) members hend),
        scan_renderMembers (depth + 1) members hmembers _ hend, scan_newLine,
        scan_mark (c := '}') rfl]
      simp

/-! ## Tokens are read as their value -/

/-- What the reader makes of the tokens that are left. -/
def readFrom (reader : Reader) (spelled : List Token) : Option Json :=
  (spelled.foldlM Reader.step reader).bind Reader.finish

theorem readFrom_cons (reader : Reader) (token : Token) (spelled : List Token) :
    readFrom reader (token :: spelled) = (reader.step token).bind (readFrom · spelled) := by
  unfold readFrom
  rw [List.foldlM_cons]
  cases reader.step token <;> rfl

/-- Inside any frames, the tokens are read as the value. -/
def ReadsAs (spelled : List Token) (value : Json) : Prop :=
  ∀ (frames : List Frame) (rest : List Token),
    readFrom ⟨frames, .value⟩ (spelled ++ rest) =
      (Reader.give value frames).bind (readFrom · rest)

/-- No value begins with the end of an array. -/
theorem readFrom_firstItem (frames : List Frame) (value : Json) (rest : List Token) :
    readFrom ⟨frames, .firstItem⟩ (tokens value ++ rest) =
      readFrom ⟨frames, .value⟩ (tokens value ++ rest) := by
  cases value with
  | array items => cases items <;> simp [tokens, readFrom_cons, Reader.step]
  | object members => rcases members with _ | ⟨_, _⟩ <;> simp [tokens, readFrom_cons, Reader.step]
  | _ => simp [tokens, readFrom_cons, Reader.step]

theorem readFrom_itemTokens (items : List Json)
    (hitems : ∀ item ∈ items, ReadsAs (tokens item) item) (done : List Json)
    (frames : List Frame) (rest : List Token) :
    readFrom ⟨.items done :: frames, .separator⟩ (itemTokens items ++ .closeArray :: rest) =
      (Reader.give (.array (done.reverse ++ items)) frames).bind (readFrom · rest) := by
  induction items generalizing done with
  | nil =>
    rw [itemTokens, List.nil_append, readFrom_cons, List.append_nil]
    rfl
  | cons item items ih =>
    have hitem := hitems item List.mem_cons_self
    have htail := ih fun other h => hitems other (List.mem_cons_of_mem item h)
    rw [itemTokens]
    simp only [List.cons_append, List.append_assoc]
    rw [readFrom_cons]
    change readFrom ⟨.items done :: frames, .value⟩ _ = _
    rw [hitem]
    change readFrom ⟨.items (item :: done) :: frames, .separator⟩ _ = _
    rw [htail, List.reverse_cons, List.append_assoc, List.singleton_append]

theorem readFrom_memberTokens (members : List (Option String × Json))
    (hmembers : ∀ member ∈ members, ReadsAs (tokens member.2) member.2)
    (done : List (Option String × Json)) (frames : List Frame) (rest : List Token) :
    readFrom ⟨.members done :: frames, .separator⟩
        (memberTokens members ++ .closeObject :: rest) =
      (Reader.give (.object (done.reverse ++ members)) frames).bind (readFrom · rest) := by
  induction members generalizing done with
  | nil =>
    rw [memberTokens, List.nil_append, readFrom_cons, List.append_nil]
    rfl
  | cons member members ih =>
    obtain ⟨key, value⟩ := member
    have hvalue := hmembers (key, value) List.mem_cons_self
    have htail := ih fun other h => hmembers other (List.mem_cons_of_mem _ h)
    rw [memberTokens]
    simp only [List.cons_append, List.append_assoc]
    rw [readFrom_cons]
    change readFrom ⟨.members done :: frames, .key⟩ _ = _
    rw [readFrom_cons]
    change readFrom ⟨.member done key :: frames, .colon⟩ _ = _
    rw [readFrom_cons]
    change readFrom ⟨.member done key :: frames, .value⟩ _ = _
    rw [hvalue]
    change readFrom ⟨.members ((key, value) :: done) :: frames, .separator⟩ _ = _
    rw [htail, List.reverse_cons, List.append_assoc, List.singleton_append]

/-- The tokens of a value are read as the value, inside any open arrays and objects. -/
theorem readsAs_tokens {value : Json} (h : WellFormed value) : ReadsAs (tokens value) value := by
  induction h with
  | @array items _ ih =>
    intro frames rest
    cases items with
    | nil =>
      rw [tokens, List.cons_append, readFrom_cons]
      change readFrom ⟨.items [] :: frames, .firstItem⟩ _ = _
      rw [List.cons_append, readFrom_cons, List.nil_append]
      rfl
    | cons item items =>
      have hitem := ih item List.mem_cons_self
      have hitems := fun other h => ih other (List.mem_cons_of_mem item h)
      rw [tokens]
      simp only [List.cons_append, List.append_assoc, List.nil_append]
      rw [readFrom_cons]
      change readFrom ⟨.items [] :: frames, .firstItem⟩ _ = _
      rw [readFrom_firstItem, hitem]
      exact readFrom_itemTokens items hitems [item] frames rest
  | @object members _ ih =>
    intro frames rest
    cases members with
    | nil =>
      rw [tokens, List.cons_append, readFrom_cons]
      change readFrom ⟨.members [] :: frames, .firstKey⟩ _ = _
      rw [List.cons_append, readFrom_cons, List.nil_append]
      rfl
    | cons member members =>
      obtain ⟨key, value⟩ := member
      have hvalue := ih (key, value) List.mem_cons_self
      have hmembers := fun other h => ih other (List.mem_cons_of_mem _ h)
      rw [tokens]
      simp only [List.cons_append, List.append_assoc, List.nil_append]
      rw [readFrom_cons]
      change readFrom ⟨.members [] :: frames, .firstKey⟩ _ = _
      rw [readFrom_cons]
      change readFrom ⟨.member [] key :: frames, .colon⟩ _ = _
      rw [readFrom_cons]
      change readFrom ⟨.member [] key :: frames, .value⟩ _ = _
      rw [hvalue]
      exact readFrom_memberTokens members hmembers [(key, value)] frames rest
  | _ =>
    intro frames rest
    rw [tokens, List.singleton_append, readFrom_cons]
    rfl

/-! ## The round trip -/

theorem scan_render {value : Json} (h : WellFormed value) :
    scan (render 0 value) = some (tokens value) := by
  have hscan := scansAs_render h 0 [] [] endsWord_nil
  rw [List.append_nil, List.append_nil, scanFrom_nil] at hscan
  unfold scan
  change scanFrom ⟨[], .between⟩ (render 0 value) = _
  rw [hscan]
  simp [Scanner.finish]

theorem ofTokens?_tokens {value : Json} (h : WellFormed value) :
    ofTokens? (tokens value) = some value := by
  have hread := readsAs_tokens h [] []
  rw [List.append_nil] at hread
  unfold ofTokens?
  change readFrom ⟨[], .value⟩ (tokens value) = _
  rw [hread]
  rfl

/-- The text of a value is read as the value. -/
theorem parse?_pretty {value : Json} (h : WellFormed value) :
    parse? (pretty value) = some value := by
  unfold parse? pretty
  rw [String.toList_ofList, scan_render h, Option.bind_some, ofTokens?_tokens h]

end KernelScope.Json
