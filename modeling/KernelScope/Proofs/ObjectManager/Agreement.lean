import KernelScope.DriverObject
import KernelScope.Proofs.Agreement
import KernelScope.Proofs.ObjectTree.Coupling

/-!
# Walkers on targets that answer alike

What a kernel is found to hold, its object manager, its objects, its drivers and its services, is
the same on two targets that answer alike, unless a read that one of them refuses gets in the way.
Each walker is led through once, read by read; walks over whole trees follow from the answers of the
two trees (`couples_agreement`).
-/

set_option autoImplicit false

namespace KernelScope

variable {Left Right : MemoryError → Prop} {target other : Target}

namespace ObjectManager

open Target (Alike)

section Questions

variable (h : target.Alike Left Right other)

include h

/-! ## Probing -/

theorem agree_buildNumber :
    AgreeUnless TargetError.memory? Left Right (buildNumber target) (buildNumber other) :=
  (AgreeUnless.of_eq (h.symbol _)).bind fun address _ => (h.readU16 address).target

theorem agree_probeCookie (layout : HeaderLayout) :
    AgreeUnless TargetError.memory? Left Right (probeCookie target layout)
      (probeCookie other layout) := by
  cases layout with
  | direct nameInfoOffset type => exact .refl _
  | indexed infoMask typeIndex =>
    refine (agree_buildNumber h).bind fun build _ => ?_
    split
    · refine (AgreeUnless.of_eq (h.symbol _)).bind fun address _ => ?_
      exact (h.readU8 address).target.bind fun cookie _ => .refl _
    · exact .refl _

theorem probeLayout_eq : probeLayout target = probeLayout other := by
  simp only [probeLayout, h.fieldOffset?, h.fieldOffset]

theorem agree_probe :
    AgreeUnless TargetError.memory? Left Right (probe target) (probe other) := by
  refine (AgreeUnless.of_eq (h.fieldOffset _ _)).bind fun bodyOffset _ => ?_
  refine (AgreeUnless.of_eq (probeLayout_eq h)).bind fun layout _ => ?_
  exact (agree_probeCookie h layout).bind fun cookie _ => .refl _

/-! ## Objects -/

variable (manager : ObjectManager)

theorem agree_objectType (header : Address) :
    AgreeUnless TargetError.memory? Left Right (manager.objectType target header)
      (manager.objectType other header) := by
  unfold objectType
  cases manager.layout with
  | direct nameInfoOffset type =>
    exact (AgreeUnless.refl _).bind fun address _ => (h.readPointer address).target
  | indexed infoMask typeIndex =>
    refine (AgreeUnless.refl _).bind fun address _ => ?_
    refine (h.readU8 address).target.bind fun stored _ => ?_
    refine (AgreeUnless.of_eq (h.symbol _)).bind fun table _ => ?_
    refine (AgreeUnless.of_eq (by rw [h.pointerSize])).bind fun distance _ => ?_
    exact (AgreeUnless.refl _).bind fun slot _ => (h.readPointer slot).target

theorem agree_nameDistance (header : Address) :
    AgreeUnless TargetError.memory? Left Right (manager.nameDistance target header)
      (manager.nameDistance other header) := by
  unfold nameDistance
  cases manager.layout with
  | direct nameInfoOffset type =>
    exact (AgreeUnless.refl _).bind fun address _ => (h.readU8 address).target
  | indexed infoMask typeIndex =>
    refine (AgreeUnless.refl _).bind fun address _ => ?_
    refine (h.readU8 address).target.bind fun mask _ => ?_
    split
    · exact .refl _
    · refine (AgreeUnless.of_eq (h.symbol _)).bind fun table _ => ?_
      exact (AgreeUnless.refl _).bind fun slot _ => (h.readU8 slot).target

theorem agree_readHeader (object : Address) :
    AgreeUnless TargetError.memory? Left Right (manager.readHeader target object)
      (manager.readHeader other object) := by
  refine (agree_objectType h manager _).bind fun type _ => ?_
  exact (agree_nameDistance h manager _).bind fun distance _ => .refl _

omit manager

theorem agree_readName (header : ObjectHeader) :
    AgreeUnless TargetError.memory? Left Right (readName target header)
      (readName other header) := by
  unfold readName
  cases header.nameInfo with
  | none => exact .refl _
  | some nameInfo =>
    refine (AgreeUnless.of_eq (h.fieldOffset _ _)).bind fun name _ => ?_
    exact (AgreeUnless.refl _).bind fun address _ => (h.readUnicodeString address).target

/-! ## Directories -/

theorem agree_readPointerAt (symbol : String) :
    AgreeUnless TargetError.memory? Left Right
      (do target.readPointer (← target.symbol symbol) : Except TargetError Address)
      (do other.readPointer (← other.symbol symbol)) :=
  (AgreeUnless.of_eq (h.symbol symbol)).bind fun address _ => (h.readPointer address).target

theorem agree_readBucketHead (directory : Address) (bucket : Nat) :
    AgreeUnless ObjectError.memory? Left Right (readBucketHead target directory bucket)
      (readBucketHead other directory bucket) := by
  unfold readBucketHead
  split
  · exact .refl _
  · refine (AgreeUnless.of_eq (h.fieldOffset _ _)).object.bind fun buckets _ => ?_
    refine (AgreeUnless.refl _).bind fun first _ => ?_
    refine (AgreeUnless.of_eq (by rw [h.pointerSize])).bind fun distance _ => ?_
    refine (AgreeUnless.refl _).bind fun slot _ => ?_
    exact (h.readPointer slot).target.object.bind fun head _ => .refl _

theorem agree_readLink (link : Address) :
    AgreeUnless TargetError.memory? Left Right (readLink target link) (readLink other link) := by
  refine (AgreeUnless.of_eq (h.fieldOffset _ _)).bind fun chain _ => ?_
  refine (AgreeUnless.of_eq (h.fieldOffset _ _)).bind fun object _ => ?_
  refine (AgreeUnless.refl _).bind fun slot _ => ?_
  refine (h.readPointer slot).target.bind fun next _ => ?_
  refine (AgreeUnless.refl _).bind fun slot _ => ?_
  exact (h.readPointer slot).target.bind fun object _ => .refl _

end Questions

/-! ## Trees -/

/-- Two computations go together where they agree. -/
def agreement (Left Right : MemoryError → Prop) :
    Coupling (Except ObjectError) (Except ObjectError) where
  Pairs Meets x y := (∀ a, x = .ok a → Meets a) ∧ AgreeUnless ObjectError.memory? Left Right x y
  pairs_pure := by
    intro _ _ a ha
    refine ⟨fun other hother => ?_, .refl _⟩
    cases hother
    exact ha
  pairs_bind := by
    intro _ _ _ _ x y next other hx hnext
    refine ⟨fun b hb => ?_, hx.2.bind fun a ha => (hnext a (hx.1 a ha)).2⟩
    obtain ⟨a, ha, hb⟩ := bind_eq_ok hb
    exact (hnext a (hx.1 a ha)).1 b hb

/-- The trees of two targets that answer alike answer alike. -/
theorem couples_agreement (h : target.Alike Left Right other) (manager : ObjectManager) :
    (manager.tree target).Couples (agreement Left Right) (manager.tree other) .everywhere where
  root := ⟨fun _ _ => trivial, (agree_readPointerAt h _).object⟩
  bucketHead _ bucket := ⟨fun _ _ _ _ => trivial, agree_readBucketHead h _ bucket⟩
  link _ := ⟨fun _ _ => ⟨trivial, fun _ _ => trivial⟩, (agree_readLink h _).object⟩
  header _ := ⟨fun _ _ => trivial, (agree_readHeader h manager _).object⟩
  isDirectoryType _ := by
    refine ⟨fun _ _ _ => trivial, ?_⟩
    exact (agree_readPointerAt h _).object.bind fun type _ => .refl _
  name _ := ⟨fun _ _ => trivial, (agree_readName h _).object⟩

end ObjectManager

/-! ## Drivers and services -/

section Tables

variable (h : target.Alike Left Right other)

include h

theorem DriverObject.agree_read (address : Address) :
    AgreeUnless TargetError.memory? Left Right (DriverObject.read target address)
      (DriverObject.read other address) := by
  refine (AgreeUnless.of_eq (h.fieldOffset _ _)).bind fun table _ => ?_
  refine (AgreeUnless.refl _).bind fun first _ => ?_
  exact (h.readPointers first majorFunctionCount).target.bind fun routines _ => .refl _

/-- Routines are named by the profile. -/
theorem DriverObject.text_eq (driver : DriverObject) : driver.text target = driver.text other := by
  unfold DriverObject.text routineLine
  rw [h.describe]

namespace ServiceTable

theorem agree_readWide (descriptor : Address) :
    AgreeUnless ServiceError.memory? Left Right (readWide target descriptor)
      (readWide other descriptor) := by
  refine (h.readU64s descriptor 4).target.service.bind fun words _ => ?_
  refine (AgreeUnless.refl _).bind fun count _ => ?_
  refine (ObjectManager.agree_buildNumber h).service.bind fun build _ => ?_
  refine AgreeUnless.bind ?_ fun entries _ => .refl _
  exact (h.readI32s _ count).target.service

theorem agree_readNarrow (descriptor : Address) :
    AgreeUnless ServiceError.memory? Left Right (readNarrow target descriptor)
      (readNarrow other descriptor) := by
  refine (h.readU32s descriptor 4).target.service.bind fun words _ => ?_
  refine (AgreeUnless.refl _).bind fun count _ => ?_
  refine AgreeUnless.bind ?_ fun routines _ => .refl _
  exact (h.readPointers _ count).target.service

theorem agree_read :
    AgreeUnless ServiceError.memory? Left Right (read target) (read other) := by
  unfold read
  rw [h.pointerSize]
  refine (AgreeUnless.of_eq (h.symbol _)).service.bind fun descriptor _ => ?_
  split
  · exact agree_readWide h descriptor
  · exact agree_readNarrow h descriptor

theorem text_eq (table : ServiceTable) : table.text target = table.text other := by
  unfold text routineLine
  rw [h.describe]

end ServiceTable

end Tables

end KernelScope
