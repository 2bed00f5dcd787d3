import KernelScope.Command.Execute
import KernelScope.Proofs.Drivers
import KernelScope.Proofs.Memory.Seams
import KernelScope.Proofs.ObjectManager.Agreement

/-!
# Commands on snapshots of the same memory

Two snapshots may hold the same bytes in regions that are cut at different places.  Whatever is
asked of them, they answer alike, as far as no read runs into a seam
(`Memory.agree_of_sameBytes`): a command shows the same on both, unless on one of them it ends by a
read that stopped at a seam there.  That does happen, so the seams of a snapshot can be told from
its answers (`Memory.read_differs_at_seam`).
-/

set_option autoImplicit false

namespace KernelScope

open Target (Alike)

variable {Left Right : MemoryError → Prop}

/-! ## Reports -/

namespace Report

variable {α β : Type}

/-- Two reports are the same, unless one of them ends by an error of its own kind. -/
def Agree (Left Right : MemoryError → Prop) (first second : Report CommandError α) : Prop :=
  first = second ∨ EndsBy CommandError.memory? Left first.outcome ∨
    EndsBy CommandError.memory? Right second.outcome

namespace Agree

theorem refl (report : Report CommandError α) : Agree Left Right report report := .inl rfl

/-- Where both reports go on, they have written the same, and do with the same value. -/
theorem bind {first second : Report CommandError α} {next other : α → Report CommandError β}
    (h : Agree Left Right first second) (hnext : ∀ a, Agree Left Right (next a) (other a)) :
    Agree Left Right (first >>= next) (second >>= other) := by
  rcases h with rfl | hleft | hright
  · cases houtcome : first.outcome with
    | error error =>
      left
      rw [bind_of_error houtcome, bind_of_error houtcome]
    | ok a =>
      rw [bind_of_ok houtcome, bind_of_ok houtcome]
      rcases hnext a with heq | hleft | hright
      · left
        rw [heq]
      · exact .inr (.inl hleft)
      · exact .inr (.inr hright)
  · refine .inr (.inl ?_)
    rw [outcome_bind]
    exact hleft.bind _
  · refine .inr (.inr ?_)
    rw [outcome_bind]
    exact hright.bind _

/-- Runs over one list agree if their steps do. -/
theorem forM {step other : α → Report CommandError Unit}
    (h : ∀ item, Agree Left Right (step item) (other item)) (items : List α) :
    Agree Left Right (forM items step) (forM items other) := by
  induction items with
  | nil => exact .refl _
  | cons item items ih =>
    rw [List.forM_cons, List.forM_cons]
    exact (h item).bind fun _ => ih

end Agree

end Report

namespace AgreeUnless

variable {α : Type}

theorem report {x y : Except CommandError α}
    (h : AgreeUnless CommandError.memory? Left Right x y) :
    Report.Agree Left Right (liftM x : Report CommandError α) (liftM y) :=
  h.imp_left (congrArg Report.ofExcept)

theorem serviceReport {x y : Except ServiceError α}
    (h : AgreeUnless ServiceError.memory? Left Right x y) :
    Report.Agree Left Right (liftM x : Report CommandError α) (liftM y) :=
  report (h.mapError fun _ => rfl)

theorem targetReport {x y : Except TargetError α}
    (h : AgreeUnless TargetError.memory? Left Right x y) :
    Report.Agree Left Right (liftM x : Report CommandError α) (liftM y) :=
  h.service.serviceReport

theorem objectReport {x y : Except ObjectError α}
    (h : AgreeUnless ObjectError.memory? Left Right x y) :
    Report.Agree Left Right (liftM x : Report CommandError α) (liftM y) :=
  report (h.mapError fun _ => rfl)

/-- That a walk comes to nothing is the same on both sides. -/
theorem ofWalk {walked other : Except ObjectError (Except LookupError α)}
    (h : AgreeUnless ObjectError.memory? Left Right walked other) :
    AgreeUnless CommandError.memory? Left Right (CommandError.ofWalk walked)
      (CommandError.ofWalk other) := by
  rcases h with rfl | ⟨error, cause, rfl, htells⟩ | ⟨error, cause, rfl, htells⟩
  · exact .refl _
  · exact .inr (.inl ⟨.object error, cause, rfl, htells⟩)
  · exact .inr (.inr ⟨.object error, cause, rfl, htells⟩)

end AgreeUnless

/-! ## What the commands show -/

variable {target other : Target} (h : target.Alike Left Right other)

include h

namespace Inspect

open Report (Agree)

section Objects

variable (manager : ObjectManager)

theorem agree_lookup (path : String) :
    AgreeUnless CommandError.memory? Left Right (lookup manager target path)
      (lookup manager other path) :=
  ((ObjectManager.couples_agreement h manager).lookup defaultChainLimit path).2.ofWalk

theorem agree_directoryAt (path : String) :
    AgreeUnless CommandError.memory? Left Right (directoryAt manager target path)
      (directoryAt manager other path) := by
  unfold directoryAt
  split
  · exact ((ObjectManager.couples_agreement h manager).root.2.map some).mapError fun _ => rfl
  · exact agree_lookup h manager path

theorem agree_isDirectory (object : Address) :
    AgreeUnless ObjectError.memory? Left Right ((manager.tree target).isDirectory object)
      ((manager.tree other).isDirectory object) :=
  ((ObjectManager.couples_agreement h manager).isDirectory trivial).2

theorem agree_list (directory : Address) :
    AgreeUnless ObjectError.memory? Left Right
      ((manager.tree target).list defaultChainLimit directory).run
      ((manager.tree other).list defaultChainLimit directory).run :=
  ((ObjectManager.couples_agreement h manager).list defaultChainLimit trivial).2

theorem agree_driverAnew (name : String) :
    Agree Left Right (driverAnew manager target name) (driverAnew manager other name) := by
  refine (agree_lookup h manager _).report.bind fun found => ?_
  cases found with
  | none => exact .refl _
  | some object =>
    refine (Agree.refl _).bind fun _ => ?_
    refine (DriverObject.agree_read h object).targetReport.bind fun driver => ?_
    rw [DriverObject.text_eq h]
    exact .refl _

end Objects

theorem agree_object (path : String) :
    Agree Left Right (object target path) (object other path) := by
  refine (ObjectManager.agree_probe h).targetReport.bind fun manager => ?_
  refine (agree_lookup h manager path).report.bind fun found => ?_
  cases found with
  | none => exact .refl _
  | some object => exact (agree_isDirectory h manager object).objectReport.bind fun _ => .refl _

theorem agree_directory (path : String) :
    Agree Left Right (directory target path) (directory other path) := by
  refine (ObjectManager.agree_probe h).targetReport.bind fun manager => ?_
  refine (agree_directoryAt h manager path).report.bind fun found => ?_
  cases found with
  | none => exact .refl _
  | some object =>
    have hrows := (agree_list h manager object).ofWalk.report.bind fun rows =>
      Agree.refl (.write (String.join (rows.map rowLine)))
    refine (agree_isDirectory h manager object).objectReport.bind fun flag => ?_
    cases flag with
    | false => exact (Agree.refl _).bind fun _ => (Agree.refl _).bind fun _ => hrows
    | true => exact (Agree.refl _).bind fun _ => hrows

theorem agree_drivers (names : List String) :
    Agree Left Right (drivers target names) (drivers other names) := by
  rw [drivers_eq, drivers_eq]
  refine (ObjectManager.agree_probe h).targetReport.bind fun manager => ?_
  exact .forM (agree_driverAnew h manager) names

theorem agree_services : Agree Left Right (services target) (services other) := by
  refine (ServiceTable.agree_read h).serviceReport.bind fun table => ?_
  rw [ServiceTable.text_eq h]
  exact .refl _

theorem agree_dump (address : Address) (length : UInt64) :
    Agree Left Right (dump target address length) (dump other address length) := by
  have hbytes := (h.read address length.toNat).target.targetReport.bind fun bytes =>
    Agree.refl (.write (dumpText address bytes))
  unfold dump
  split
  · exact (Agree.refl _).bind fun _ => hbytes
  · exact hbytes

end Inspect

/-! ## Commands -/

namespace Command

theorem agree_execute (command : Command) (coloured : Bool) :
    Report.Agree Left Right (command.execute target coloured)
      (command.execute other coloured) := by
  refine Report.Agree.bind ?_ fun _ => .refl _
  cases command with
  | run name arguments =>
    refine (AgreeUnless.refl (Sample.named name)).report.bind fun sample => ?_
    rw [h.profile]
    split
    · cases sample with
      | services => exact Inspect.agree_services h
      | drivers => exact Inspect.agree_drivers h _
    · exact .refl _
  | object path => exact Inspect.agree_object h path
  | list path => exact Inspect.agree_directory h _
  | services => exact Inspect.agree_services h
  | driver name => exact Inspect.agree_drivers h [name]
  | symbol address =>
    have hsymbol : Inspect.symbol target address = Inspect.symbol other address := by
      rw [Inspect.symbol, Inspect.symbol, h.describe]
    exact .inl hsymbol
  | dump address length => exact Inspect.agree_dump h address length
  | samples | source | help | quit | unknown => exact .refl _

end Command

omit h

/-! ## Snapshots with the same bytes -/

/-- Snapshots with the same bytes answer alike, as far as no read stops at a seam. -/
theorem Target.alike_ofMemory {memory other : Memory} (hmem : memory.WellFormed)
    (hother : other.WellFormed) (hsame : memory.SameBytes other) (profile : Profile) :
    (Target.ofMemory profile memory).Alike memory.StopsAtSeam other.StopsAtSeam
      (.ofMemory profile other) where
  profile := rfl
  read address length := by
    rcases hsame.read_eq_or_stops hmem hother address length with
      heq | ⟨error, herror, hstops⟩ | ⟨error, herror, hstops⟩
    · exact .of_eq heq
    · exact .inr (.inl ⟨error, error, herror, rfl, hstops⟩)
    · exact .inr (.inr ⟨error, error, herror, rfl, hstops⟩)

/-- Behind any two runs of operations that map the same byte at the same addresses, what can be read
from the one memory can be read from the other, and is the same, exactly if no seam of the other
lies inside the window; if one does, the read gets the bytes up to a seam.  Where no seam of either
lies inside the window, both reads end in the same way.  A command shows the same on both memories,
and ends in the same way, unless on one of them it ends by a read that stopped at a seam there. -/
theorem Memory.agree_of_sameBytes (operations others : List Memory.Operation)
    (hsame : (run operations).SameBytes (run others)) :
    (∀ address length row, (run operations).read address length = .ok row →
      ((run others).read address length = .ok row ↔ ¬ (run others).Cuts address length) ∧
        ((run others).Cuts address length → ∃ got, 0 < got ∧ got < length ∧
          (run others).SeamAt (address.toNat + got) ∧
          (run others).read address length = .error (.shortRead address length got))) ∧
    (∀ address length, ¬ (run operations).Cuts address length →
      ¬ (run others).Cuts address length →
        (run operations).read address length = (run others).read address length) ∧
    ∀ (profile : Profile) (command : Command) (coloured : Bool),
      command.execute (.ofMemory profile (run operations)) coloured =
          command.execute (.ofMemory profile (run others)) coloured ∨
        EndsBy CommandError.memory? (run operations).StopsAtSeam
          (command.execute (.ofMemory profile (run operations)) coloured).outcome ∨
        EndsBy CommandError.memory? (run others).StopsAtSeam
          (command.execute (.ofMemory profile (run others)) coloured).outcome := by
  have hmem := wellFormed_run operations
  have hother := wellFormed_run others
  refine ⟨?_, ?_, ?_⟩
  · intro address length row hread
    exact hsame.read_iff_not_cuts hmem hother hread
  · intro address length hwhole hotherWhole
    exact hsame.read_eq_of_not_cuts hmem hother hwhole hotherWhole
  · intro profile command coloured
    exact Command.agree_execute (Target.alike_ofMemory hmem hother hsame profile) command coloured

/-! ## A service table in two pieces -/

/-- A 32-bit kernel of which only the description of the service table is known. -/
def serviceProfile : Profile where
  pointerSize := 4
  kernel := true
  symbols := .ofList [("nt!KeServiceDescriptorTable", 0x1000)]
  types := .empty

/-- The description of a table that starts right behind it and has one service, and the table. -/
def serviceBytes : List UInt8 :=
  [0x10, 0x10, 0, 0, 0, 0, 0, 0, 1, 0, 0, 0, 0, 0, 0, 0] ++ [0, 0x10, 0, 0]

/-- Maps these bytes at once. -/
def wholeRun : List Memory.Operation := [.map 0x1000 serviceBytes.toArray]

/-- Maps them in two pieces that touch. -/
def piecesRun (place : Nat) : List Memory.Operation :=
  [.map 0x1000 (serviceBytes.take place).toArray,
    .map (0x1000 + UInt64.ofNat place) (serviceBytes.drop place).toArray]

theorem sameBytes_piecesRun :
    ∀ place ∈ [8, 16], (Memory.run wholeRun).SameBytes (.run (piecesRun place)) := by
  have hwhole (place : Nat) : Memory.empty.map 0x1000
      ((serviceBytes.take place).toArray ++ (serviceBytes.drop place).toArray) =
        .ok (.run wholeRun) := by
    rw [List.append_toArray, List.take_append_drop]
    rfl
  intro place hplace
  simp only [List.mem_cons, List.not_mem_nil, or_false] at hplace
  rcases hplace with rfl | rfl
  · exact Memory.wellFormed_empty.sameBytes_of_pieces (hwhole 8) rfl rfl
  · exact Memory.wellFormed_empty.sameBytes_of_pieces (hwhole 16) rfl rfl

/-- The seam lies between the description and the table, which are read one after the other: the
services are listed as if the bytes were mapped at once, and a read across the seam gets less. -/
theorem Memory.agree_of_sameBytes_tableBehind :
    (run wholeRun).SameBytes (run (piecesRun 16)) ∧
    (run (piecesRun 16)).read 0x1000 16 = .ok (serviceBytes.take 16) ∧
    (∃ got, 0 < got ∧ got < 20 ∧ (run (piecesRun 16)).SeamAt (0x1000 + got) ∧
      (run (piecesRun 16)).read 0x1000 20 = .error (.shortRead 0x1000 20 got)) ∧
    Command.services.execute (.ofMemory serviceProfile (run wholeRun)) false =
      Command.services.execute (.ofMemory serviceProfile (run (piecesRun 16))) false := by
  have hsame : (run wholeRun).SameBytes (run (piecesRun 16)) :=
    sameBytes_piecesRun 16 (by decide)
  obtain ⟨hread, -, hexecute⟩ := agree_of_sameBytes wholeRun (piecesRun 16) hsame
  have hdescription : (run wholeRun).read 0x1000 16 = .ok (serviceBytes.take 16) := rfl
  have hall : (run wholeRun).read 0x1000 20 = .ok serviceBytes := rfl
  have hinside : ¬ (run (piecesRun 16)).Cuts 0x1000 16 := by decide +kernel
  have hacross : (run (piecesRun 16)).Cuts 0x1000 20 := by decide +kernel
  refine ⟨hsame, (hread _ _ _ hdescription).1.2 hinside, (hread _ _ _ hall).2 hacross, ?_⟩
  rcases hexecute serviceProfile .services false with heq | hleft | hright
  · exact heq
  · have hok : (Command.services.execute (.ofMemory serviceProfile (run wholeRun)) false).outcome =
        .ok .goOn := by decide +kernel
    obtain ⟨error, -, herror, -⟩ := hleft
    cases hok.symm.trans herror
  · have hok : (Command.services.execute (.ofMemory serviceProfile (run (piecesRun 16)))
        false).outcome = .ok .goOn := by decide +kernel
    obtain ⟨error, -, herror, -⟩ := hright
    cases hok.symm.trans herror

/-- The description of the table is read at once.  A seam inside it stops that read, so the services
are not listed, as they are where the same bytes are mapped at once. -/
theorem Memory.read_differs_at_seam :
    (run wholeRun).SameBytes (run (piecesRun 8)) ∧
    (run wholeRun).read 0x1000 16 = .ok (serviceBytes.take 16) ∧
    (run (piecesRun 8)).read 0x1000 16 = .error (.shortRead 0x1000 16 8) ∧
    (Command.services.execute (.ofMemory serviceProfile (run wholeRun)) false).outcome =
      .ok .goOn ∧
    (Command.services.execute (.ofMemory serviceProfile (run (piecesRun 8))) false).outcome =
      .error (.service (.target (.memory (.shortRead 0x1000 16 8)))) :=
  ⟨sameBytes_piecesRun 8 (by decide), rfl, rfl, by decide +kernel, by decide +kernel⟩

end KernelScope
