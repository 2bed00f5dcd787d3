import KernelScope.Folder
import KernelScope.Proofs.OrderedMap

/-!
# Files written and read back

Where a path leads depends on its parts alone.  What a folder holds only decides in which way a path
that leads to no file fails.
-/

set_option autoImplicit false

namespace KernelScope.Folder

/-- A path leads to the same place in every folder. -/
theorem follow_eq_ok {folder : Folder} {base : String} {parts : List String} {place : Place}
    (h : folder.follow base parts = .ok place) (other : Folder) :
    other.follow base parts = .ok place := by
  induction parts generalizing base with
  | nil => exact h
  | cons part rest ih =>
    unfold follow at h ⊢
    split
    next hstay =>
      rw [if_pos hstay] at h
      exact ih h
    next hstay =>
      rw [if_neg hstay] at h
      split
      next habove =>
        rw [if_pos habove] at h
        exact ih h
      next habove =>
        rw [if_neg habove] at h
        split
        next hlast => rwa [if_pos hlast] at h
        next hlast =>
          rw [if_neg hlast] at h
          split
          next hslashes => rwa [if_pos hslashes] at h
          next hslashes => rw [if_neg hslashes] at h; cases h

theorem locate_eq_ok {folder : Folder} {path : String} {place : Place}
    (h : folder.locate path = .ok place) (other : Folder) : other.locate path = .ok place := by
  unfold locate at h ⊢
  split
  next hzero => rw [if_pos hzero] at h; cases h
  next hzero =>
    rw [if_neg hzero] at h
    split
    next hempty => rw [if_pos hempty] at h; cases h
    next hempty =>
      rw [if_neg hempty] at h
      split
      next hlong => rw [if_pos hlong] at h; cases h
      next hlong =>
        rw [if_neg hlong] at h
        exact follow_eq_ok h other

/-- A text can be written exactly to a file whose name is short enough, and then is all of it. -/
theorem writeText_eq_ok_iff (folder saved : Folder) (path text : String) :
    folder.writeText path text = .ok saved ↔
      ∃ base name, folder.locate path = .ok (.file base name) ∧
        name.utf8ByteSize ≤ nameLimit ∧
        saved = ⟨folder.files.insert (base ++ name) text.toUTF8⟩ := by
  unfold writeText
  cases hplace : folder.locate path with
  | error error => simp [bind, Except.bind]
  | ok place =>
    cases place with
    | folder => simp [bind, Except.bind]
    | slashed base name => simp [bind, Except.bind]
    | file base name =>
      by_cases hlong : nameLimit < name.utf8ByteSize
      · simp [bind, Except.bind, content?, hlong, Nat.not_le.2 hlong]
      · have hshort : name.utf8ByteSize ≤ nameLimit := Nat.not_lt.1 hlong
        simp only [bind, Except.bind, content?, if_neg hlong, pure, Except.pure, Except.ok.injEq,
          Place.file.injEq]
        constructor
        · rintro rfl
          exact ⟨base, name, ⟨rfl, rfl⟩, hshort, rfl⟩
        · rintro ⟨_, _, ⟨rfl, rfl⟩, _, rfl⟩
          rfl

theorem fromUTF8?_toUTF8 (text : String) : String.fromUTF8? text.toUTF8 = some text := by
  have hvalid : text.toUTF8.IsValidUTF8 := text.isValidUTF8
  unfold String.fromUTF8?
  rw [dif_pos hvalid]
  rfl

/-- A text that is written to a file is read back from it. -/
theorem readText_of_writeText {folder saved : Folder} {path text : String}
    (h : folder.writeText path text = .ok saved) : saved.readText path = .ok text := by
  obtain ⟨base, name, hplace, hshort, rfl⟩ := (writeText_eq_ok_iff _ _ _ _).1 h
  have hplace' := locate_eq_ok hplace ⟨folder.files.insert (base ++ name) text.toUTF8⟩
  have hfile : (folder.files.insert (base ++ name) text.toUTF8).get? (base ++ name) =
      some text.toUTF8 := by
    rw [OrderedMap.get?_eq_some_iff, OrderedMap.mem_insert_iff]
    exact .inl rfl
  simp only [readText, read, hplace', content?, if_neg (Nat.not_lt.2 hshort), hfile, bind,
    Except.bind, fromUTF8?_toUTF8]

end KernelScope.Folder
