import KernelScope.Proofs.ObjectManager.Header

/-!
# Questions over a memory image

Each operation of the object manager, over memory that lays out a space, gives what the space has
there.  The operations are put together to a tree with the type of directories read anew each time
or kept, and both trees answer every question as the space does.
-/

set_option autoImplicit false

namespace KernelScope.ObjectManager

variable {ι : Type} {profile : Profile} {memory : Memory} {generation : Generation}
  {offsets : Offsets} {space : ObjectSpace ι} {place : Placement ι}

/-- What an image holds as a header with an index is one. -/
theorem indexedHeader_of_holds (hmem : memory.WellFormed)
    (hwidth : profile.pointerSize = 4 ∨ profile.pointerSize = 8) {infoMask typeIndex : UInt64}
    {build : UInt16} {cookie : UInt8} {header type : Address} {nameInfo : Option Address}
    (htype : (Generation.indexed infoMask typeIndex build cookie).HoldsType profile memory header
      type)
    (hinfo : (Generation.indexed infoMask typeIndex build cookie).HoldsNameInfo profile memory
      header nameInfo) :
    ∃ index low distance, IndexedHeader (.ofMemory profile memory) infoMask typeIndex header
        ((Generation.indexed infoMask typeIndex build cookie).storedIndex header index) index type
        low distance ∧
      nameInfo = Generation.nameInfoAt header (if low &&& 2 = 0 then 0 else distance) := by
  obtain ⟨table, index, hsymbol, hstored, hslot⟩ := htype
  obtain ⟨mask, hmask, hcases⟩ := hinfo
  have hstored := Target.hasByte_of_holds hmem profile hstored
  have hmask := Target.hasByte_of_holds hmem profile hmask
  have hslot := Target.hasSlot_of_holds hmem hwidth hslot
  have htable : (Target.ofMemory profile memory).symbol "nt!ObTypeIndexTable" = .ok table :=
    Target.symbol_of_hasSymbol hsymbol
  have htwo : mask &&& 2 = (mask &&& 3) &&& 2 := and_two_of_low rfl
  rw [htwo] at hcases
  rcases hcases with ⟨hclear, hnone⟩ | ⟨hset, distances, distance, hdistances, hentry, hplace⟩
  · refine ⟨index, mask &&& 3, 0, ⟨hstored, ⟨table, htable, hslot⟩, ⟨mask, hmask, rfl⟩,
      fun hset => absurd hclear hset⟩, ?_⟩
    rw [ite_self, hnone]
    rfl
  · rw [← UInt8.toNat_toUInt64] at hentry
    refine ⟨index, mask &&& 3, distance, ⟨hstored, ⟨table, htable, hslot⟩, ⟨mask, hmask, rfl⟩,
      fun _ => ⟨distances, Target.symbol_of_hasSymbol hdistances,
        Target.hasByte_of_holds hmem profile hentry⟩⟩, ?_⟩
    rw [if_neg hset, hplace]

namespace LaysOut

variable (h : LaysOut profile memory generation offsets space place) (hmem : memory.WellFormed)

include h hmem

/-! ## Headers -/

/-- The image tells of which generation its kernel is. -/
theorem told : generation.Told (.ofMemory profile memory) := by
  have hknown := h.known
  cases generation with
  | direct nameInfoOffset type =>
    exact ⟨Target.fieldOffset?_of_hasField hknown.1, Target.fieldOffset_of_hasField hknown.2⟩
  | indexed infoMask typeIndex build cookie =>
    obtain ⟨hlacks, hmask, hindex, ⟨buildAddress, hbuildSymbol, hbuildHolds⟩, hcookie⟩ := hknown
    refine ⟨Target.fieldOffset?_of_lacksField hlacks, Target.fieldOffset_of_hasField hmask,
      Target.fieldOffset_of_hasField hindex, ?_, fun hscrambles => ?_⟩
    · simp only [buildNumber, Target.symbol_of_hasSymbol hbuildSymbol,
        Target.readU16_of_holds hmem hbuildHolds, ok_bind, liftM_memory_target]
    · obtain ⟨cookieAddress, hcookieSymbol, hcookieHolds⟩ := hcookie hscrambles
      simp only [readCookie, Target.symbol_of_hasSymbol hcookieSymbol,
        Target.readU8_of_holds hmem hcookieHolds, ok_bind, liftM_memory_target]

/-- The layout of the target's objects is found out. -/
theorem probe_eq_ok :
    probe (.ofMemory profile memory) = .ok (generation.manager offsets) :=
  probe_of_told (h.told hmem) (Target.fieldOffset_of_hasField h.bodyField)

theorem readHeader_eq_ok (object : ι) :
    (generation.manager offsets).readHeader (.ofMemory profile memory) (place.body object) =
      .ok (place.header object) := by
  have haddress : place.body object - (generation.manager offsets).bodyOffset =
      (place.header object).address := (h.header object).symm
  have htype := h.type object
  have hinfo := h.nameInfo object
  cases generation with
  | direct nameInfoOffset type =>
    obtain ⟨distance, hstored, hplace⟩ := hinfo
    have hheader : DirectHeader (.ofMemory profile memory) nameInfoOffset type
        (place.header object).address (place.header object).type distance :=
      ⟨Target.hasPointer_of_holds hmem h.width htype, Target.hasByte_of_holds hmem profile hstored⟩
    rw [← haddress] at hheader
    rw [readHeader_of_direct rfl hheader, haddress, ← hplace]
  | indexed infoMask typeIndex build cookie =>
    obtain ⟨index, low, distance, hheader, hplace⟩ :=
      indexedHeader_of_holds hmem h.width htype hinfo
    rw [← haddress] at hheader
    rw [readHeader_of_indexed rfl (plainIndex_storedIndex rfl _ _) hheader, haddress, ← hplace]

theorem readName_eq_ok (object : ι) :
    readName (.ofMemory profile memory) (place.header object) = .ok (space.display object) := by
  unfold readName ObjectSpace.display
  cases hname : space.name object with
  | none =>
    rw [h.unnamed object hname]
    rfl
  | some text =>
    obtain ⟨nameInfo, hnameInfo, htext⟩ := h.named object text hname
    obtain ⟨slot, hsum, hread⟩ := Target.readUnicodeString_at hmem h.width htext
    simp only [hnameInfo, Target.fieldOffset_of_hasField h.nameField, hsum, hread, ok_bind,
      liftM_overflow_target, liftM_memory_target]
    rfl

/-! ## Directories -/

theorem readRoot_eq_ok :
    readRoot (.ofMemory profile memory) = .ok (place.body space.root) := by
  obtain ⟨address, hsymbol, hholds⟩ := h.root
  simp only [readRoot, Target.symbol_of_hasSymbol hsymbol,
    Target.readPointer_of_holds hmem h.width hholds, ok_bind, liftM_memory_target]

theorem readDirectoryType_eq_ok :
    readDirectoryType (.ofMemory profile memory) = .ok place.directoryType := by
  obtain ⟨address, hsymbol, hholds⟩ := h.directoryType
  simp only [readDirectoryType, Target.symbol_of_hasSymbol hsymbol,
    Target.readPointer_of_holds hmem h.width hholds, ok_bind, liftM_memory_target]

omit hmem in
/-- A slot that holds the address of a link, or zero, leads to that link, or to none. -/
theorem nonNull_link? {directory : ι} {all : Buckets ι}
    (hall : space.buckets directory = some all) (bucket : Fin bucketCount) (position : Nat) :
    nonNull ((place.link? directory bucket (all bucket).length position).getD 0) =
      place.link? directory bucket (all bucket).length position := by
  unfold Placement.link?
  by_cases hinside : position < (all bucket).length
  · rw [if_pos hinside]
    exact if_neg (h.link_ne_zero hall bucket position hinside)
  · rw [if_neg hinside]
    rfl

theorem readBucketHead_eq_ok {directory : ι} {all : Buckets ι}
    (hall : space.buckets directory = some all) (bucket : Fin bucketCount) :
    readBucketHead (.ofMemory profile memory) (place.body directory) bucket =
      .ok (place.link? directory bucket (all bucket).length 0) := by
  have hsize : (Target.ofMemory profile memory).pointerSize = profile.pointerSize := rfl
  have hholds := h.head hall bucket
  have hlt := hmem.lt_wordLimit_of_holds (Target.pointerBytes_ne_nil h.width _) hholds.2
  have hbucket : (UInt64.ofNat bucket).toNat = bucket := by
    have hbound : bucketCount < 2 ^ 64 := by decide
    exact UInt64.toNat_ofNat_of_lt' (Nat.lt_trans bucket.isLt hbound)
  obtain ⟨first, hfirst, hfirstNat⟩ := addWords_eq_ok
    (Nat.lt_of_le_of_lt (Nat.le_add_right _ _) hlt)
  have hplace : memory.HoldsPointer profile.pointerSize
      (first.toNat + profile.pointerSize.toNat * (UInt64.ofNat bucket).toNat)
      ((place.link? directory bucket (all bucket).length 0).getD 0) := by
    rw [hfirstNat, hbucket]
    exact hholds
  obtain ⟨distance, slot, hdistance, hslot, hread⟩ := Target.readPointer_slot hmem h.width hplace
  rw [multiplyWords_comm] at hdistance
  rw [readBucketHead, if_neg (Nat.not_le.2 bucket.isLt)]
  simp only [Target.fieldOffset_of_hasField h.bucketsField, hsize, hfirst, hdistance, hslot, hread,
    h.nonNull_link? hall bucket 0, ok_bind, liftM_target_object, liftM_memory_object,
    liftM_overflow_object]
  rfl

omit h hmem in
/-- No directory has more buckets. -/
theorem readBucketHead_eq_error (directory : Address) {bucket : Nat}
    (hbucket : bucketCount ≤ bucket) :
    readBucketHead (.ofMemory profile memory) directory bucket =
      .error (.bucketOutOfRange bucket) := by
  rw [readBucketHead, if_pos hbucket]
  rfl

theorem readLink_eq_ok {directory : ι} {all : Buckets ι}
    (hall : space.buckets directory = some all) {bucket : Fin bucketCount} {position : Nat}
    {object : ι} (hobject : (all bucket)[position]? = some object) :
    readLink (.ofMemory profile memory) (place.link directory bucket position) =
      .ok ⟨place.body object,
        place.link? directory bucket (all bucket).length (position + 1)⟩ := by
  obtain ⟨hnextHolds, hobjectHolds⟩ := h.link hall bucket position object hobject
  have hnext := Target.hasPointer_of_holds hmem h.width hnextHolds
  have hslot := Target.hasPointer_of_holds hmem h.width hobjectHolds
  simp only [readLink, Target.fieldOffset_of_hasField h.chainField,
    Target.fieldOffset_of_hasField h.objectField, hnext.addWords, hnext.2,
    hslot.addWords, hslot.2, h.nonNull_link? hall bucket (position + 1), ok_bind,
    liftM_memory_target, liftM_overflow_target]
  rfl

/-! ## Trees -/

/-- A tree over the image answers as the space does, in any monad in which success goes on and the
type of directories can be had. -/
theorem answers_treeIn {m : Type → Type} [Monad m] (ev : Evaluation m)
    {raise : {α : Type} → Except ObjectError α → m α} {typeOfDirectories : m Address}
    (hraise : ∀ {α : Type} (a : α), ev.Yields (raise (.ok a)) a)
    (htype : ev.Yields typeOfDirectories place.directoryType) :
    ((generation.manager offsets).treeIn (.ofMemory profile memory) raise
      typeOfDirectories).Answers ev space place where
  root := by
    simp only [treeIn, h.readRoot_eq_ok hmem]
    exact hraise _
  bucketHead := by
    intro directory all hall bucket
    simp only [treeIn, h.readBucketHead_eq_ok hmem hall bucket]
    exact hraise _
  link := by
    intro directory all hall bucket position object hobject
    simp only [treeIn, h.readLink_eq_ok hmem hall hobject]
    exact hraise _
  header object := by
    simp only [treeIn, h.readHeader_eq_ok hmem object]
    exact hraise _
  isDirectoryType type := ev.yields_bind htype (ev.yields_pure _)
  types := h.types
  name object := by
    simp only [treeIn, h.readName_eq_ok hmem object]
    exact hraise _

/-- The tree of the image as it is answers as the space does. -/
theorem answers_tree :
    ((generation.manager offsets).tree (.ofMemory profile memory)).Answers (.ofExcept ObjectError)
      space place := by
  refine h.answers_treeIn hmem (.ofExcept ObjectError) (fun _ => rfl) ?_
  rw [h.readDirectoryType_eq_ok hmem]
  rfl

end LaysOut

/-! ## The type that is kept -/

/-- What is kept as the type of directories, if anything is, is that type. -/
def Keeps (type : Address) (cache : Option Address) : Prop := ∀ kept ∈ cache, kept = type

theorem keeps_some (type : Address) : Keeps type (some type) := by simp [Keeps]

/-- A computation comes to a value if it does so whatever is kept, and keeps nothing else. -/
def evaluationOfCache (type : Address) : Evaluation CacheM where
  Yields x a := ∀ cache, Keeps type cache →
    ∃ after, Keeps type after ∧ x.run cache = .ok a after
  yields_pure a cache hcache := ⟨cache, hcache, rfl⟩
  yields_bind := by
    intro _ _ x next a b hx hnext cache hcache
    obtain ⟨between, hbetween, hrun⟩ := hx cache hcache
    obtain ⟨after, hafter, hrest⟩ := hnext between hbetween
    refine ⟨after, hafter, ?_⟩
    rw [EStateM.run_bind, hrun]
    exact hrest

theorem yields_raise (type : Address) {α : Type} (a : α) :
    (evaluationOfCache type).Yields (CacheM.raise (.ok a)) a :=
  (evaluationOfCache type).yields_pure a

/-- The type of directories can be had, whether it is kept or has to be read. -/
theorem yields_cachedDirectoryType {target : Target} {type : Address}
    (hread : readDirectoryType target = .ok type) :
    (evaluationOfCache type).Yields (cachedDirectoryType target) type := by
  intro cache hcache
  refine ⟨some type, keeps_some type, ?_⟩
  cases cache with
  | none =>
    simp only [cachedDirectoryType, hread]
    rfl
  | some kept =>
    rw [hcache kept rfl]
    rfl

/-! ## The simulation -/

/-- Over memory that any run of operations has led to and that lays out a space, the object manager
is found out, and every question to it is answered as the space replies: with the type of
directories read anew each time, and also with it kept, whatever has been asked before. -/
theorem ask_of_laysOut {ι : Type} {profile : Profile} {operations : List Memory.Operation}
    {generation : Generation} {offsets : Offsets} {space : ObjectSpace ι} {place : Placement ι}
    (h : LaysOut profile (.run operations) generation offsets space place) :
    probe (.ofMemory profile (.run operations)) = .ok (generation.manager offsets) ∧
      (∀ question answer, space.Replies place question answer →
        (((generation.manager offsets).tree (.ofMemory profile (.run operations))).ask
          question).run = .ok answer) ∧
      (∀ question answer, space.Replies place question answer →
        ∀ cache, Keeps place.directoryType cache →
          ∃ after, Keeps place.directoryType after ∧
            (((generation.manager offsets).cachedTree (.ofMemory profile (.run operations))).ask
              question).run.run cache = .ok answer after) ∧
      ∀ directory bucket, bucketCount ≤ bucket →
        ((generation.manager offsets).tree (.ofMemory profile (.run operations))).bucketHead
            directory bucket = .error (.bucketOutOfRange bucket) ∧
          ∀ cache,
            (((generation.manager offsets).cachedTree (.ofMemory profile
              (.run operations))).bucketHead directory bucket).run cache =
                .error (.bucketOutOfRange bucket) cache := by
  have hmem := Memory.wellFormed_run operations
  have htype := h.readDirectoryType_eq_ok hmem
  refine ⟨h.probe_eq_ok hmem, ?_, ?_, ?_⟩
  · intro question answer hreplies
    exact (h.answers_tree hmem).comes_ask hreplies
  · intro question answer hreplies
    have hanswers := h.answers_treeIn hmem (evaluationOfCache place.directoryType)
      (yields_raise place.directoryType) (yields_cachedDirectoryType htype)
    exact hanswers.comes_ask hreplies
  · intro directory bucket hbucket
    have herror : readBucketHead (.ofMemory profile (.run operations)) directory bucket =
        .error (.bucketOutOfRange bucket) := LaysOut.readBucketHead_eq_error directory hbucket
    constructor
    · exact herror
    · intro cache
      simp only [cachedTree, treeIn, herror]
      rfl

/-- The object of the small image is found by its path, without regard to case. -/
theorem ask_of_laysOut_small :
    ((((Generation.direct 0 4).manager ⟨8, 0, 0, 0, 4⟩).tree (.ofMemory smallProfile
      (.run [.map 0x1000 smallBytes.toArray]))).ask (.lookup 4 "\\A")).run =
        .ok (.ok (.found (some 0x10C0))) := by
  have hfound : smallSpace.lookup 4 "\\A" = .ok (some true) := rfl
  have hreplies : smallSpace.Replies smallPlacement _ _ := .lookup 4 "\\A"
  rw [hfound] at hreplies
  exact (ask_of_laysOut laysOut_small).2.1 _ _ hreplies

end KernelScope.ObjectManager
