import KernelScope.Command.Execute
import KernelScope.Proofs.Drivers
import KernelScope.Proofs.Inspect
import KernelScope.Proofs.ServiceTable

/-!
# Commands in which arithmetic fails

A command on a captured target can end in a fault of arithmetic.  It does so only where a walk over
the objects forms a sum that leaves the address space (`Command.overflow_of_load`); no other sum,
no product and no buffer is to blame, whatever the profile says and the memory holds.  There are
snapshots on which this happens (`exists_overflow`).
-/

set_option autoImplicit false

namespace KernelScope

open ObjectTree ObjectManager

/-! ## Reports and walks -/

section Reports

variable {α β : Type} {Cause : Prop}

theorem Report.faultsBy_bind {first : Report CommandError α} {next : α → Report CommandError β}
    (h : FaultsBy CommandError.overflow? Cause first.outcome)
    (hnext : ∀ a, first.outcome = .ok a →
      FaultsBy CommandError.overflow? Cause (next a).outcome) :
    FaultsBy CommandError.overflow? Cause (first >>= next).outcome := by
  rw [Report.outcome_bind]
  exact h.bind hnext

theorem Report.faultsBy_write (text : String) :
    FaultsBy CommandError.overflow? Cause (Report.write text).outcome := faultsBy_ok ()

theorem FaultsBy.serviceReport {x : Except ServiceError α}
    (h : FaultsBy ServiceError.overflow? Cause x) :
    FaultsBy CommandError.overflow? Cause (liftM x : Report CommandError α).outcome :=
  h.mapError fun _ => rfl

theorem FaultsBy.targetReport {x : Except TargetError α}
    (h : FaultsBy TargetError.overflow? Cause x) :
    FaultsBy CommandError.overflow? Cause (liftM x : Report CommandError α).outcome :=
  h.service.serviceReport

theorem FaultsBy.objectReport {x : Except ObjectError α}
    (h : FaultsBy ObjectError.overflow? Cause x) :
    FaultsBy CommandError.overflow? Cause (liftM x : Report CommandError α).outcome :=
  h.mapError fun _ => rfl

/-- That a walk comes to nothing is no fault of arithmetic. -/
theorem FaultsBy.ofWalk {walked : Except ObjectError (Except LookupError α)}
    (h : FaultsBy ObjectError.overflow? Cause walked) :
    FaultsBy CommandError.overflow? Cause (CommandError.ofWalk walked) := by
  rcases walked with error | refusal | a
  · intro other fault hother
    cases hother
    exact h error fault rfl
  · exact faultsBy_error rfl
  · exact faultsBy_ok a

end Reports

/-! ## What the commands show -/

/-- A sum about the objects of the target leaves the address space. -/
def Target.Escapes (target : Target) : Prop :=
  ∃ manager, probe target = .ok manager ∧ manager.Escapes target

namespace Inspect

variable {target : Target} (hregular : target.Regular)

include hregular

section Objects

variable {manager : ObjectManager}

theorem faultsBy_lookup (path : String) :
    FaultsBy CommandError.overflow? (manager.Escapes target) (lookup manager target path) :=
  ((couples_faultCoupling manager hregular).lookup defaultChainLimit path).2.ofWalk

/-- What a path leads to is reached. -/
theorem reached_of_lookup {path : String} {object : Address}
    (hlookup : lookup manager target path = .ok (some object)) :
    Reached (manager.tree target) (.object object) :=
  ((couples_faultCoupling manager hregular).lookup defaultChainLimit path).1 _
    (CommandError.ofWalk_eq_ok hlookup) _ rfl object rfl

theorem faultsBy_directoryAt (path : String) :
    FaultsBy CommandError.overflow? (manager.Escapes target)
      (directoryAt manager target path) := by
  unfold directoryAt
  split
  · exact ((couples_faultCoupling manager hregular).root.2.map some).mapError fun _ => rfl
  · exact faultsBy_lookup hregular path

theorem reached_of_directoryAt {path : String} {object : Address}
    (hlookup : directoryAt manager target path = .ok (some object)) :
    Reached (manager.tree target) (.object object) := by
  unfold directoryAt at hlookup
  split at hlookup
  · obtain ⟨root, hanswer, ⟨⟩⟩ := map_eq_ok (ok_of_mapError hlookup)
    exact .rootObject hanswer
  · exact reached_of_lookup hregular hlookup

theorem faultsBy_isDirectory {object : Address}
    (hobject : Reached (manager.tree target) (.object object)) :
    FaultsBy ObjectError.overflow? (manager.Escapes target)
      ((manager.tree target).isDirectory object) :=
  ((couples_faultCoupling manager hregular).isDirectory hobject).2

theorem faultsBy_list {directory : Address}
    (hdirectory : Reached (manager.tree target) (.directory directory)) :
    FaultsBy ObjectError.overflow? (manager.Escapes target)
      ((manager.tree target).list defaultChainLimit directory).run :=
  ((couples_faultCoupling manager hregular).list defaultChainLimit hdirectory).2

theorem faultsBy_readDriver {object : Address}
    (hobject : Reached (manager.tree target) (.object object)) :
    FaultsBy TargetError.overflow? (manager.Escapes target) (DriverObject.read target object) := by
  refine (target.faultsBy_fieldOffset _ _).bind fun table htable => ?_
  have hforms := Forms.routines hobject htable
  refine (faultsBy_addWords hforms.escapes).memory.target.bind fun address _ => ?_
  have hfits : DriverObject.majorFunctionCount * 8 ≤ bufferLimit := by decide
  exact (hregular.readPointers address hfits).target.bind fun routines _ => faultsBy_ok _

theorem faultsBy_driverAnew (name : String) :
    FaultsBy CommandError.overflow? (manager.Escapes target)
      (driverAnew manager target name).outcome := by
  refine Report.faultsBy_bind (faultsBy_lookup hregular _) fun found hfound => ?_
  cases found with
  | none => exact Report.faultsBy_write _
  | some object =>
    refine Report.faultsBy_bind (Report.faultsBy_write _) fun _ _ => ?_
    have hread := faultsBy_readDriver hregular (reached_of_lookup hregular hfound)
    exact Report.faultsBy_bind hread.targetReport fun routines _ => Report.faultsBy_write _

end Objects

/-! ## Commands -/

theorem faultsBy_withManager {next : ObjectManager → Report CommandError Unit}
    (hnext : ∀ manager, FaultsBy CommandError.overflow? (ObjectManager.Escapes manager target)
      (next manager).outcome) :
    FaultsBy CommandError.overflow? target.Escapes
      (do next (← probe target) : Report CommandError Unit).outcome := by
  refine Report.faultsBy_bind (faultsBy_probe hregular).targetReport fun manager hprobe => ?_
  have hprobe : probe target = .ok manager := ok_of_mapError (ok_of_mapError hprobe)
  exact (hnext manager).mono fun hescapes => ⟨manager, hprobe, hescapes⟩

theorem faultsBy_object (path : String) :
    FaultsBy CommandError.overflow? target.Escapes (object target path).outcome := by
  refine faultsBy_withManager hregular fun manager => ?_
  refine Report.faultsBy_bind (faultsBy_lookup hregular path) fun found hfound => ?_
  cases found with
  | none => exact Report.faultsBy_write _
  | some object =>
    have hflag := faultsBy_isDirectory hregular (reached_of_lookup hregular hfound)
    exact Report.faultsBy_bind hflag.objectReport fun flag _ => Report.faultsBy_write _

theorem faultsBy_directory (path : String) :
    FaultsBy CommandError.overflow? target.Escapes (directory target path).outcome := by
  refine faultsBy_withManager hregular fun manager => ?_
  refine Report.faultsBy_bind (faultsBy_directoryAt hregular path) fun found hfound => ?_
  cases found with
  | none => exact Report.faultsBy_write _
  | some object =>
    have hobject := reached_of_directoryAt hregular hfound
    have hflag := (faultsBy_isDirectory hregular hobject).objectReport
    refine Report.faultsBy_bind hflag fun flag hdirectory => ?_
    cases flag with
    | false => exact faultsBy_error rfl
    | true =>
      have hdirectory := Reached.directory hobject (ok_of_mapError hdirectory)
      refine Report.faultsBy_bind (Report.faultsBy_write _) fun _ _ => ?_
      refine Report.faultsBy_bind (faultsBy_list hregular hdirectory).ofWalk fun rows _ => ?_
      exact Report.faultsBy_write _

theorem faultsBy_drivers (names : List String) :
    FaultsBy CommandError.overflow? target.Escapes (drivers target names).outcome := by
  rw [drivers_eq]
  refine faultsBy_withManager hregular fun manager => ?_
  induction names with
  | nil => exact faultsBy_ok ()
  | cons name names ih =>
    exact Report.faultsBy_bind (faultsBy_driverAnew hregular name) fun _ _ => ih

theorem faultsBy_services {Cause : Prop} :
    FaultsBy CommandError.overflow? Cause (services target).outcome :=
  Report.faultsBy_bind (ServiceTable.faultsBy_read hregular).serviceReport fun _ _ =>
    Report.faultsBy_write _

theorem faultsBy_dump {Cause : Prop} (address : Address) (length : UInt64) :
    FaultsBy CommandError.overflow? Cause (dump target address length).outcome := by
  have hrest : FaultsBy CommandError.overflow? Cause (do
      let bytes ← target.read address length.toNat
      .write (dumpText address bytes) : Report CommandError Unit).outcome :=
    Report.faultsBy_bind (hregular.read address _).target.targetReport fun bytes _ =>
      Report.faultsBy_write _
  unfold dump
  split
  · exact Report.faultsBy_bind (faultsBy_error rfl) fun _ _ => hrest
  · exact hrest

end Inspect

namespace Command

/-- The commands that walk over the objects of a kernel. -/
def WalksObjects : Command → Prop
  | .object _ | .list _ | .driver _ => True
  | .run name _ => name = Sample.drivers.name
  | _ => False

theorem faultsBy_named {Cause : Prop} (name : String) :
    FaultsBy CommandError.overflow? Cause (Sample.named name) := by
  unfold Sample.named
  split
  · exact faultsBy_ok _
  · exact faultsBy_error rfl

theorem name_of_named {name : String} {sample : Sample} (h : Sample.named name = .ok sample) :
    name = sample.name := by
  unfold Sample.named at h
  split at h
  next found hfound =>
    cases h
    have hmatches := List.find?_some hfound
    exact (of_decide_eq_true hmatches).symm
  · cases h

variable {target : Target} (hregular : target.Regular)

include hregular

/-- Whatever the command, arithmetic fails only in a walk over the objects, and where a sum about
these escapes. -/
theorem faultsBy_execute (command : Command) (coloured : Bool) :
    FaultsBy CommandError.overflow? (command.WalksObjects ∧ target.Escapes)
      (command.execute target coloured).outcome := by
  refine Report.faultsBy_bind ?_ fun _ _ => faultsBy_ok _
  cases command with
  | samples => exact Report.faultsBy_write _
  | run name arguments =>
    refine Report.faultsBy_bind (faultsBy_named name) fun sample hsample => ?_
    split
    · cases sample with
      | services => exact Inspect.faultsBy_services hregular
      | drivers =>
        have hname : name = Sample.drivers.name := name_of_named hsample
        exact (Inspect.faultsBy_drivers hregular _).mono fun hescapes => ⟨hname, hescapes⟩
    · exact Report.faultsBy_write _
  | source name =>
    exact Report.faultsBy_bind (faultsBy_named name) fun sample _ => Report.faultsBy_write _
  | object path =>
    exact (Inspect.faultsBy_object hregular path).mono fun hescapes => ⟨trivial, hescapes⟩
  | list path =>
    exact (Inspect.faultsBy_directory hregular _).mono fun hescapes => ⟨trivial, hescapes⟩
  | services => exact Inspect.faultsBy_services hregular
  | driver name =>
    exact (Inspect.faultsBy_drivers hregular [name]).mono fun hescapes => ⟨trivial, hescapes⟩
  | symbol address => exact Report.faultsBy_write _
  | dump address length => exact Inspect.faultsBy_dump hregular address length
  | help => exact Report.faultsBy_write _
  | quit => exact Report.faultsBy_write _
  | unknown line => exact Report.faultsBy_write _

end Command

/-! ## Loaded snapshots -/

/-- The line that lists the root. -/
theorem Command.ofLine_ls : Command.ofLine "ls" = .list none := by decide

/-- Listing the root ends in a fault of arithmetic if the field of its header that is read first
lies beyond the address space. -/
theorem Command.overflow_of_root {target : Target} {manager : ObjectManager} {root : Address}
    (hprobe : probe target = .ok manager) (hroot : readRoot target = .ok root)
    (hwraps : wordLimit ≤
      (manager.headerAddress root).toNat + manager.layout.typeOffset.toNat) (coloured : Bool) :
    ((Command.list none).execute target coloured).outcome =
      .error (.object (.target (.memory (.overflow .addition)))) := by
  have hlookup : Inspect.directoryAt manager target ObjectPath.root = .ok (some root) := by
    rw [Inspect.directoryAt, if_pos rfl]
    exact congrArg (fun root => ((root.mapError ObjectError.target).map some).mapError
      CommandError.object) hroot
  have hdirectory : (Inspect.directory target ObjectPath.root).outcome =
      .error (.object (.target (.memory (.overflow .addition)))) := by
    simp only [Inspect.directory, Report.liftM_target, Report.liftM_command, Report.liftM_object,
      hprobe, hlookup, isDirectory_of_wraps hwraps, mapError_ok, Report.ofExcept_ok_bind]
    rfl
  have houtput : (Command.list none).output target coloured =
      Inspect.directory target ObjectPath.root := rfl
  rw [Command.execute, Report.outcome_bind, houtput, hdirectory]
  rfl

/-- A command on a loaded snapshot ends in a fault of arithmetic only if it walks over objects, and
one of the sums that are formed about those it can reach leaves the address space.  It does so
indeed when the root is listed and the first field of its header lies beyond the address space. -/
theorem Command.overflow_of_load {readText : String → Except FileError String} {path : String}
    {snapshot : Snapshot} (hload : Snapshot.load readText path = .ok snapshot) (memory : Memory) :
    (∀ line coloured error fault,
      ((Command.ofLine line).execute (.ofMemory snapshot.profile memory) coloured).outcome =
        .error error →
      error.overflow? = some fault →
        fault = .addition ∧ (Command.ofLine line).WalksObjects ∧
          (Target.ofMemory snapshot.profile memory).Escapes) ∧
      ∀ manager root, probe (.ofMemory snapshot.profile memory) = .ok manager →
        readRoot (.ofMemory snapshot.profile memory) = .ok root →
        wordLimit ≤ (manager.headerAddress root).toNat + manager.layout.typeOffset.toNat →
        ∀ coloured, ∃ error,
          ((Command.ofLine "ls").execute (.ofMemory snapshot.profile memory) coloured).outcome =
            .error error ∧ error.overflow? = some .addition := by
  have hregular := Target.regular_ofMemory (Snapshot.validate_of_load hload) memory
  constructor
  · intro line coloured error fault herror hfault
    exact Command.faultsBy_execute hregular _ coloured error fault herror hfault
  · intro manager root hprobe hroot hwraps coloured
    rw [Command.ofLine_ls]
    exact ⟨_, Command.overflow_of_root hprobe hroot hwraps coloured, rfl⟩

/-! ## A root that lies too low -/

/-- Memory in which the root is said to lie below its own header. -/
def lowRootMemory : Memory := .run [.map 0x1000 [4, 0, 0, 0].toArray]

theorem readRoot_lowRoot : readRoot (.ofMemory smallProfile lowRootMemory) = .ok 4 := by
  have hmem : lowRootMemory.WellFormed := Memory.wellFormed_run _
  have hholds : lowRootMemory.HoldsPointer 4 0x1000 4 :=
    ⟨by decide, Memory.holds_run_map (by decide) (by decide) (by decide) (by decide)⟩
  have hroot : smallProfile.HasSymbol "nt!ObpRootDirectoryObject" 0x1000 := rfl
  have hread : (Target.ofMemory smallProfile lowRootMemory).readPointer 0x1000 = .ok 4 :=
    Target.readPointer_of_holds hmem (.inl rfl) hholds
  rw [readRoot, Target.symbol_of_hasSymbol hroot, ok_bind, hread]
  rfl

theorem probe_small (memory : Memory) :
    probe (.ofMemory smallProfile memory) = .ok ⟨.direct 0 4, 8, none⟩ := rfl

theorem load_lowRoot :
    Snapshot.load (fun _ => .ok (Snapshot.capture smallProfile lowRootMemory).text)
      "snapshot.json" = .ok (.capture smallProfile lowRootMemory) := Snapshot.load_text rfl _

/-- Where the root lies too low, listing it fails, and a sum is to blame. -/
theorem overflow_of_load_lowRoot :
    (∃ error, ((Command.ofLine "ls").execute (.ofMemory smallProfile lowRootMemory) false).outcome =
      .error error ∧ error.overflow? = some .addition) ∧
      (Target.ofMemory smallProfile lowRootMemory).Escapes := by
  obtain ⟨honly, hlisted⟩ := Command.overflow_of_load load_lowRoot lowRootMemory
  obtain ⟨error, herror, hfault⟩ :=
    hlisted _ _ (probe_small lowRootMemory) readRoot_lowRoot (by decide) false
  exact ⟨⟨error, herror, hfault⟩, (honly "ls" false error .addition herror hfault).2.2⟩

/-- A snapshot can be loaded on which a command ends in a fault of arithmetic. -/
theorem exists_overflow :
    ∃ snapshot memory error,
      Snapshot.load (fun _ => .ok (Snapshot.capture smallProfile lowRootMemory).text)
        "snapshot.json" = .ok snapshot ∧
      snapshot.memory = .ok memory ∧
      ((Command.ofLine "ls").execute (.ofMemory snapshot.profile memory) false).outcome =
        .error error ∧
      error.overflow? = some .addition := by
  have hmemory : (Snapshot.capture smallProfile lowRootMemory).memory = .ok lowRootMemory :=
    Snapshot.memory_capture _ (Memory.wellFormed_run _)
  refine ⟨_, _, .object (.target (.memory (.overflow .addition))), load_lowRoot, hmemory, ?_, rfl⟩
  rw [Command.ofLine_ls]
  exact Command.overflow_of_root (probe_small lowRootMemory) readRoot_lowRoot (by decide) false

end KernelScope
