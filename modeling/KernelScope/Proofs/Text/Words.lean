import KernelScope.Text.Blank

/-!
# Words of a line

A line that spells words with blanks between them, and perhaps around them, is cut into just these
words (`words_of_spaced`), and without the blanks around them it is their spelling
(`trim_of_spaced`).  Which blanks they are, and how many, makes no difference.
-/

set_option autoImplicit false

namespace KernelScope.Text

/-! ## Lines -/

/-- The text has blanks only. -/
def AllBlank (text : String) : Prop := ∀ c ∈ text.toList, isBlank c = true

/-- The text has no blank. -/
def NoBlank (text : String) : Prop := ∀ c ∈ text.toList, isBlank c = false

/-- The text is not empty and has no blank. -/
structure IsWord (text : String) : Prop where
  ne_empty : text ≠ ""
  noBlank : NoBlank text

instance (text : String) : Decidable (AllBlank text) :=
  decidable_of_iff (text.toList.all isBlank = true) List.all_eq_true

instance (text : String) : Decidable (NoBlank text) :=
  decidable_of_iff (text.toList.any isBlank = false) (by simp [NoBlank])

instance (text : String) : Decidable (IsWord text) :=
  decidable_of_iff (text ≠ "" ∧ NoBlank text)
    ⟨fun ⟨hne, hplain⟩ => ⟨hne, hplain⟩, fun hword => ⟨hword.ne_empty, hword.noBlank⟩⟩

theorem IsWord.toList_ne_nil {word : String} (hword : IsWord word) : word.toList ≠ [] :=
  fun hnil => hword.ne_empty (String.toList_eq_nil_iff.1 hnil)

/-- The text spells the words one after the other, with one or more blanks between them. -/
inductive Spaced : List String → String → Prop where
  | single (word : String) : Spaced [word] word
  | cons {word gap text : String} {words : List String} (hgap : AllBlank gap) (hne : gap ≠ "")
      (hrest : Spaced words text) : Spaced (word :: words) (word ++ gap ++ text)

/-! ## Cutting at blanks -/

/-- The longest runs of characters that are not blank. -/
def runs (cs : List Char) : List (List Char) :=
  (cs.splitOnP isBlank).filter fun run => !run.isEmpty

theorem words_eq_map_runs (text : String) : words text = (runs text.toList).map String.ofList := rfl

/-- A blank ends the run before it. -/
theorem runs_append_cons {c : Char} (hblank : isBlank c = true) (front back : List Char) :
    runs (front ++ c :: back) = runs front ++ runs back := by
  rw [runs, List.splitOnP_append_cons front back hblank, List.filter_append]
  rfl

theorem runs_blanks_append {blanks : List Char} (hblanks : ∀ c ∈ blanks, isBlank c = true)
    (cs : List Char) : runs (blanks ++ cs) = runs cs := by
  induction blanks with
  | nil => rfl
  | cons c blanks ih =>
    have hrest := ih fun other hother => hblanks other (List.mem_cons_of_mem _ hother)
    have hfirst := runs_append_cons (hblanks c List.mem_cons_self) [] (blanks ++ cs)
    rw [List.cons_append, ← hrest]
    exact hfirst

theorem runs_append_blanks {blanks : List Char} (hblanks : ∀ c ∈ blanks, isBlank c = true)
    (cs : List Char) : runs (cs ++ blanks) = runs cs := by
  cases blanks with
  | nil => rw [List.append_nil]
  | cons c blanks =>
    have hrest : runs blanks = [] := by
      rw [← List.append_nil blanks,
        runs_blanks_append fun other hother => hblanks other (List.mem_cons_of_mem c hother)]
      rfl
    rw [runs_append_cons (hblanks c List.mem_cons_self), hrest, List.append_nil]

theorem runs_word {word : String} (hword : IsWord word) : runs word.toList = [word.toList] := by
  rw [runs, List.splitOnP_eq_singleton hword.noBlank]
  simp [hword.ne_empty]

/-- Words with blanks between them are the runs. -/
theorem runs_of_spaced {names : List String} {text : String} (hspaced : Spaced names text)
    (hnames : ∀ name ∈ names, IsWord name) : runs text.toList = names.map String.toList := by
  induction hspaced with
  | single word => exact runs_word (hnames word List.mem_cons_self)
  | @cons word gap text names hgap hne hrest ih =>
    have hword := runs_word (hnames word List.mem_cons_self)
    have hothers := ih fun name hname => hnames name (List.mem_cons_of_mem _ hname)
    obtain ⟨c, blanks, hcons⟩ := List.exists_cons_of_ne_nil
      fun hnil => hne (String.toList_eq_nil_iff.1 hnil)
    have hblanks : ∀ other ∈ c :: blanks, isBlank other = true := hcons ▸ hgap
    rw [String.toList_append, String.toList_append, hcons, List.append_assoc, List.cons_append,
      runs_append_cons (hblanks c List.mem_cons_self),
      runs_blanks_append fun other hother => hblanks other (List.mem_cons_of_mem _ hother),
      hword, hothers]
    rfl

/-! ## Blanks at the ends -/

theorem trimBlanks_append {lead cs trail : List Char} (hlead : ∀ c ∈ lead, isBlank c = true)
    (htrail : ∀ c ∈ trail, isBlank c = true)
    (hfirst : ∃ c rest, cs = c :: rest ∧ isBlank c = false)
    (hlast : ∃ front c, cs = front ++ [c] ∧ isBlank c = false) :
    trimBlanks (lead ++ cs ++ trail) = cs := by
  have hfront : (lead ++ cs ++ trail).dropWhile isBlank = cs ++ trail := by
    obtain ⟨c, rest, rfl, hplain⟩ := hfirst
    rw [List.append_assoc, List.dropWhile_append_of_pos hlead, List.cons_append,
      List.dropWhile_cons_of_neg (by simp [hplain])]
  have hback : (cs ++ trail).reverse.dropWhile isBlank = cs.reverse := by
    obtain ⟨front, c, rfl, hplain⟩ := hlast
    rw [List.reverse_append, List.dropWhile_append_of_pos fun other hother =>
      htrail other (List.mem_reverse.1 hother), List.reverse_concat,
      List.dropWhile_cons_of_neg (by simp [hplain])]
  rw [trimBlanks, hfront, hback, List.reverse_reverse]

/-- Words with blanks between them begin with a character that is no blank. -/
theorem exists_first_of_spaced {names : List String} {text : String} (hspaced : Spaced names text)
    (hnames : ∀ name ∈ names, IsWord name) :
    ∃ c rest, text.toList = c :: rest ∧ isBlank c = false := by
  cases hspaced with
  | single =>
    have hword := hnames text List.mem_cons_self
    obtain ⟨c, rest, hcons⟩ := List.exists_cons_of_ne_nil hword.toList_ne_nil
    exact ⟨c, rest, hcons, hword.noBlank c (hcons ▸ List.mem_cons_self)⟩
  | @cons word gap text =>
    have hword := hnames word List.mem_cons_self
    obtain ⟨c, rest, hcons⟩ := List.exists_cons_of_ne_nil hword.toList_ne_nil
    refine ⟨c, rest ++ gap.toList ++ text.toList, ?_, hword.noBlank c (hcons ▸ List.mem_cons_self)⟩
    simp [hcons]

/-- Words with blanks between them end with a character that is no blank. -/
theorem exists_last_of_spaced {names : List String} {text : String} (hspaced : Spaced names text)
    (hnames : ∀ name ∈ names, IsWord name) :
    ∃ front c, text.toList = front ++ [c] ∧ isBlank c = false := by
  induction hspaced with
  | single word =>
    have hword := hnames word List.mem_cons_self
    have hsplit := List.dropLast_concat_getLast hword.toList_ne_nil
    exact ⟨_, _, hsplit.symm, hword.noBlank _ (List.getLast_mem _)⟩
  | @cons word gap text names hgap hne hrest ih =>
    obtain ⟨front, c, hsplit, hplain⟩ :=
      ih fun name hname => hnames name (List.mem_cons_of_mem _ hname)
    refine ⟨word.toList ++ gap.toList ++ front, c, ?_, hplain⟩
    simp [hsplit]

/-! ## Lines -/

section Lines

variable {names : List String} {lead text trail : String} (hspaced : Spaced names text)
  (hnames : ∀ name ∈ names, IsWord name) (hlead : AllBlank lead) (htrail : AllBlank trail)

include hspaced hnames hlead htrail

/-- A line is cut into the words that it spells. -/
theorem words_of_spaced : words (lead ++ text ++ trail) = names := by
  rw [words_eq_map_runs, String.toList_append, String.toList_append, runs_append_blanks htrail,
    runs_blanks_append hlead, runs_of_spaced hspaced hnames]
  simp [Function.comp_def]

/-- Without the blanks around it, a line is the spelling of its words. -/
theorem trim_of_spaced : trim (lead ++ text ++ trail) = text := by
  rw [trim, String.toList_append, String.toList_append,
    trimBlanks_append hlead htrail (exists_first_of_spaced hspaced hnames)
      (exists_last_of_spaced hspaced hnames), String.ofList_toList]

end Lines

end KernelScope.Text
