import KernelScope.Proofs.Memory.Invariant
import KernelScope.Proofs.ObjectManager.Answers
import KernelScope.Proofs.ObjectManager.Cache
import KernelScope.Proofs.Success
import KernelScope.Session

/-!
# What a session keeps

Open objects are asked while the memory under them is patched.  The layout and the cookie are those
found when the objects were opened.  Of what is found later only the type of directories is kept,
from the first query that comes to the question for it and can read it (`FirstRead`).  Nothing else
is remembered: sessions that agree on the memory, the cookie and that type go on alike, and as long
as memory stays as it is, objects opened anew answer alike (`staleness_of_openObjects`).
-/

set_option autoImplicit false

namespace KernelScope

open ObjectTree ObjectManager

/-! ## Probing -/

/-- The layout of headers comes of the profile alone, and so does all that is probed but for the
cookie. -/
theorem ObjectManager.probe_congr {target other : Target} {manager found : ObjectManager}
    (hprofile : target.profile = other.profile) (hprobe : probe target = .ok manager)
    (hfound : probe other = .ok found) (hcookie : manager.cookie = found.cookie) :
    manager = found := by
  have hlayout : probeLayout target = probeLayout other := by
    simp only [probeLayout, Target.fieldOffset, Target.fieldOffset?, Target.layout, hprofile]
  have hbody : target.fieldOffset headerType "Body" = other.fieldOffset headerType "Body" := by
    simp only [Target.fieldOffset, Target.fieldOffset?, Target.layout, hprofile]
  obtain ⟨bodyOffset, hreads, hprobe⟩ := bind_eq_ok hprobe
  obtain ⟨layout, hlays, hprobe⟩ := bind_eq_ok hprobe
  obtain ⟨cookie, -, hprobe⟩ := bind_eq_ok hprobe
  obtain ⟨bodyOffset', hreads', hfound⟩ := bind_eq_ok hfound
  obtain ⟨layout', hlays', hfound⟩ := bind_eq_ok hfound
  obtain ⟨cookie', -, hfound⟩ := bind_eq_ok hfound
  obtain rfl : bodyOffset = bodyOffset' := Except.ok.inj (hreads.symm.trans (hbody.trans hreads'))
  obtain rfl : layout = layout' := Except.ok.inj (hlays.symm.trans (hlayout.trans hlays'))
  obtain rfl : ⟨layout, bodyOffset, cookie⟩ = manager := Except.ok.inj hprobe
  obtain rfl : ⟨layout, bodyOffset, cookie'⟩ = found := Except.ok.inj hfound
  obtain rfl : cookie = cookie' := hcookie
  rfl

namespace Session

/-! ## Events -/

/-- Poses a query to the open objects; there is no answer if none are open. -/
def pose (session : Session) (query : Query) : Option (Except CommandError Answer × Session) :=
  session.objects.map fun objects =>
    let (answer, after) := objects.run (query.pose (objects.manager.cachedTree session.target))
    (answer, { session with objects := some after })

example (session : Session) (question : Question) :
    session.pose (.question question) = session.ask question := rfl

/-- The answer to a query, if objects are open. -/
def answer (session : Session) (query : Query) : Option (Except CommandError Answer) :=
  (session.pose query).map Prod.fst

/-- Patches the memory. -/
def patch (session : Session) : Memory.Operation → Except MemoryError Session
  | .map base bytes => session.map base bytes
  | .write address bytes => session.write address bytes

/-- What happens to a session after its objects have been opened. -/
inductive Event where
  | patch (operation : Memory.Operation)
  | pose (query : Query)

/-- The session behind an event; a patch that fails leaves it as it was. -/
def after (session : Session) : Event → Session
  | .patch operation =>
    match session.patch operation with
    | .ok patched => patched
    | .error _ => session
  | .pose query =>
    match session.pose query with
    | some (_, posed) => posed
    | none => session

/-- The session behind a run of events. -/
def run (session : Session) (events : List Event) : Session := events.foldl after session

theorem run_cons (session : Session) (event : Event) (events : List Event) :
    session.run (event :: events) = (session.after event).run events := rfl

theorem run_append (session : Session) (events later : List Event) :
    session.run (events ++ later) = (session.run events).run later := List.foldl_append

/-- The event is a query that comes to the question for the type of directories, and that type can
be read from memory. -/
def Reads (session : Session) (event : Event) (type : Address) : Prop :=
  ∃ objects query, session.objects = some objects ∧ event = .pose query ∧
    objects.manager.WantsType session.target query ∧ readDirectoryType session.target = .ok type

/-- The first event of a run that reads the type of directories finds it to be `type`. -/
inductive FirstRead : Session → List Event → Address → Prop where
  | now {session : Session} {event : Event} {later : List Event} {type : Address}
      (hreads : Reads session event type) : FirstRead session (event :: later) type
  | later {session : Session} {event : Event} {later : List Event} {type : Address}
      (hnone : ∀ other, ¬ Reads session event other)
      (hlater : FirstRead (session.after event) later type) :
      FirstRead session (event :: later) type

/-! ## Steps -/

section Steps

variable (profile : Profile) (memory : Memory) (manager : ObjectManager)

/-- A patch changes the memory and nothing else. -/
theorem after_patch (objects : Option OpenObjects) (operation : Memory.Operation) :
    (⟨profile, memory, objects⟩ : Session).after (.patch operation) =
      ⟨profile, memory.after operation, objects⟩ := by
  cases operation with
  | map base bytes =>
    simp only [after, patch, map, Memory.after, Memory.apply]
    cases memory.map base bytes <;> rfl
  | write address bytes =>
    simp only [after, patch, write, Memory.after, Memory.apply]
    cases memory.write address bytes <;> rfl

/-- A query is answered, and changes at most what is known of the type. -/
theorem pose_of_run {known after : Option Address} {query : Query}
    {result : Except ObjectError (Except LookupError Answer)}
    (hrun : (query.pose (manager.cachedTree (.ofMemory profile memory))).run.run known =
      kept after result) :
    (⟨profile, memory, some ⟨manager, known⟩⟩ : Session).pose query =
      some (CommandError.ofWalk result, ⟨profile, memory, some ⟨manager, after⟩⟩) := by
  have hrun' : OpenObjects.run ⟨manager, known⟩
      (query.pose (manager.cachedTree (.ofMemory profile memory))) =
        (CommandError.ofWalk result, ⟨manager, after⟩) := by
    simp only [OpenObjects.run, hrun]
    cases result <;> rfl
  simp only [pose, target, Option.map_some, hrun']

theorem reads_pose_iff (known : Option Address) (query : Query) (type : Address) :
    Reads ⟨profile, memory, some ⟨manager, known⟩⟩ (.pose query) type ↔
      manager.WantsType (.ofMemory profile memory) query ∧
        readDirectoryType (.ofMemory profile memory) = .ok type := by
  constructor
  · rintro ⟨objects, asked, hobjects, hevent, hwants, hread⟩
    cases hobjects
    cases hevent
    exact ⟨hwants, hread⟩
  · rintro ⟨hwants, hread⟩
    exact ⟨_, _, rfl, rfl, hwants, hread⟩

/-- A type that is known stays known. -/
theorem after_of_known (type : Address) (event : Event) :
    ∃ later, (⟨profile, memory, some ⟨manager, some type⟩⟩ : Session).after event =
      ⟨profile, later, some ⟨manager, some type⟩⟩ := by
  cases event with
  | patch operation => exact ⟨_, after_patch profile memory _ operation⟩
  | pose query =>
    refine ⟨memory, ?_⟩
    rw [after, pose_of_run _ _ _ (run_pose_of_known manager _ query type)]

/-- No type is known before an event reads it, and then it is the one in memory. -/
theorem after_of_unknown (event : Event) :
    ∃ later known, (⟨profile, memory, some ⟨manager, none⟩⟩ : Session).after event =
        ⟨profile, later, some ⟨manager, known⟩⟩ ∧
      ∀ type, known = some type ↔ Reads ⟨profile, memory, some ⟨manager, none⟩⟩ event type := by
  cases event with
  | patch operation =>
    refine ⟨_, none, after_patch profile memory _ operation, fun type => ?_⟩
    constructor
    · intro hknown
      cases hknown
    · rintro ⟨objects, query, -, hevent, -⟩
      cases hevent
  | pose query =>
    simp only [reads_pose_iff, after]
    by_cases hwants : manager.WantsType (.ofMemory profile memory) query
    · cases hread : readDirectoryType (.ofMemory profile memory) with
      | ok type =>
        have hrun := (run_pose_of_reads hwants hread).trans
          (run_pose_of_known manager _ query type)
        refine ⟨memory, some type, ?_, fun other => ?_⟩
        · rw [pose_of_run _ _ _ hrun]
        · simp [hwants]
      | error error =>
        have hrun : _ = kept none (.error (.target error)) := run_pose_of_stops hwants hread
        refine ⟨memory, none, ?_, fun other => ?_⟩
        · rw [pose_of_run _ _ _ hrun]
        · simp
    · obtain ⟨result, hrun⟩ := run_pose_of_not_wantsType hwants
      refine ⟨memory, none, ?_, fun other => ?_⟩
      · rw [pose_of_run _ _ _ (hrun none)]
      · simp [hwants]

/-- A query leaves what is known current, and is answered as if nothing were known. -/
theorem pose_of_current {known : Option Address}
    (hknown : Current (.ofMemory profile memory) known) (query : Query) :
    (∃ later, Current (.ofMemory profile memory) later ∧
      (⟨profile, memory, some ⟨manager, known⟩⟩ : Session).after (.pose query) =
        ⟨profile, memory, some ⟨manager, later⟩⟩) ∧
      (⟨profile, memory, some ⟨manager, known⟩⟩ : Session).answer query =
        (⟨profile, memory, some ⟨manager, none⟩⟩ : Session).answer query := by
  obtain ⟨result, after, later, hlater, hnone, hrun⟩ :=
    run_pose_of_current manager query hknown
  have hposed := pose_of_run _ _ _ hrun
  have hfresh := pose_of_run _ _ _ hnone
  refine ⟨⟨later, hlater, ?_⟩, ?_⟩
  · rw [Session.after, hposed]
  · rw [answer, answer, hposed, hfresh]
    rfl

/-! ## Runs -/

theorem run_of_known (type : Address) (events : List Event) :
    ∃ later, (⟨profile, memory, some ⟨manager, some type⟩⟩ : Session).run events =
      ⟨profile, later, some ⟨manager, some type⟩⟩ := by
  induction events generalizing memory with
  | nil => exact ⟨memory, rfl⟩
  | cons event events ih =>
    obtain ⟨between, hafter⟩ := after_of_known profile memory manager type event
    rw [run_cons, hafter]
    exact ih between

theorem run_of_unknown (events : List Event) :
    ∃ later known, (⟨profile, memory, some ⟨manager, none⟩⟩ : Session).run events =
        ⟨profile, later, some ⟨manager, known⟩⟩ ∧
      ∀ type, known = some type ↔
        FirstRead ⟨profile, memory, some ⟨manager, none⟩⟩ events type := by
  induction events generalizing memory with
  | nil =>
    refine ⟨memory, none, rfl, fun type => ?_⟩
    constructor <;> intro h <;> cases h
  | cons event events ih =>
    obtain ⟨between, known, hafter, hreads⟩ := after_of_unknown profile memory manager event
    rw [run_cons, hafter]
    cases known with
    | none =>
      have hnone : ∀ other, ¬ Reads _ event other := fun other hother =>
        nomatch (hreads other).2 hother
      obtain ⟨later, known, hrun, hfirst⟩ := ih between
      rw [← hafter] at hfirst
      refine ⟨later, known, hrun, fun type => (hfirst type).trans ?_⟩
      constructor
      · exact .later hnone
      · rintro (hnow | ⟨-, hlater⟩)
        · exact absurd hnow (hnone type)
        · exact hlater
    | some type =>
      have hnow : Reads _ event type := (hreads type).1 rfl
      obtain ⟨later, hrun⟩ := run_of_known profile between manager type events
      refine ⟨later, some type, hrun, fun other => ?_⟩
      constructor
      · rintro ⟨rfl⟩
        exact .now hnow
      · rintro (hother | ⟨hnone, -⟩)
        · exact (hreads other).2 hother
        · exact absurd hnow (hnone type)

/-- While memory stays as it is, what is known is current. -/
theorem run_of_current {known : Option Address} (hknown : Current (.ofMemory profile memory) known)
    (queries : List Query) :
    ∃ later, Current (.ofMemory profile memory) later ∧
      (⟨profile, memory, some ⟨manager, known⟩⟩ : Session).run (queries.map .pose) =
        ⟨profile, memory, some ⟨manager, later⟩⟩ := by
  induction queries generalizing known with
  | nil => exact ⟨known, hknown, rfl⟩
  | cons query queries ih =>
    obtain ⟨⟨between, hbetween, hafter⟩, -⟩ := pose_of_current profile memory manager hknown query
    rw [List.map_cons, run_cons, hafter]
    exact ih hbetween

end Steps

/-! ## Staleness -/

/-- What the open objects remember of memory as it was: the cookie, and the type of directories if
it is known. -/
def remembered (session : Session) : Option (Option UInt8 × Option Address) :=
  session.objects.map fun objects => (objects.manager.cookie, objects.directoryType)

theorem openObjects_of_probe (session : Session) {manager : ObjectManager}
    (hprobe : probe session.target = .ok manager) :
    session.openObjects = (.ok (), ⟨session.profile, session.memory, some ⟨manager, none⟩⟩) := by
  rw [openObjects, hprobe]

theorem probe_of_openObjects {session opened : Session}
    (hopen : session.openObjects = (.ok (), opened)) :
    ∃ manager, probe session.target = .ok manager ∧
      opened = ⟨session.profile, session.memory, some ⟨manager, none⟩⟩ := by
  cases hprobe : probe session.target with
  | error error =>
    rw [openObjects, hprobe] at hopen
    cases hopen
  | ok manager =>
    rw [openObjects_of_probe session hprobe] at hopen
    cases hopen
    exact ⟨manager, rfl, rfl⟩

/-- Objects that are opened stay as they were probed, whatever is asked of them and however memory
is patched meanwhile.  The type of directories is known from the first event that reads it on, as
memory held it then, and does not change again.  Two such sessions over one profile that agree on
memory and on what they remember answer alike from then on.  While memory is not patched, every
query is answered as by objects opened anew. -/
theorem staleness_of_openObjects {session opened : Session}
    (hopen : session.openObjects = (.ok (), opened)) :
    ∃ manager, probe session.target = .ok manager ∧
      (∀ events, ∃ known, (opened.run events).profile = session.profile ∧
        (opened.run events).objects = some ⟨manager, known⟩ ∧
          ∀ type, known = some type ↔ FirstRead opened events type) ∧
      (∀ events type, (opened.run events).objects = some ⟨manager, some type⟩ →
        ∀ later, (opened.run (events ++ later)).objects = some ⟨manager, some type⟩) ∧
      (∀ other reopened : Session, other.openObjects = (.ok (), reopened) →
        other.profile = session.profile → ∀ events others,
          (opened.run events).memory = (reopened.run others).memory →
          (opened.run events).remembered = (reopened.run others).remembered →
          ∀ later query, ((opened.run events).run later).answer query =
            ((reopened.run others).run later).answer query) ∧
      ∀ (queries : List Query) query, (opened.run (queries.map .pose)).answer query =
        (opened.run (queries.map .pose)).openObjects.2.answer query := by
  obtain ⟨manager, hprobe, rfl⟩ := probe_of_openObjects hopen
  refine ⟨manager, hprobe, ?_, ?_, ?_, ?_⟩
  · intro events
    obtain ⟨memory, known, hrun, hfirst⟩ := run_of_unknown session.profile session.memory manager
      events
    rw [hrun]
    exact ⟨known, rfl, rfl, hfirst⟩
  · intro events type hknown later
    obtain ⟨memory, known, hrun, -⟩ := run_of_unknown session.profile session.memory manager events
    rw [hrun] at hknown
    cases hknown
    obtain ⟨after, hafter⟩ := run_of_known session.profile memory manager type later
    rw [run_append, hrun, hafter]
  · intro other reopened hreopen hprofile events others hmemory hknown later query
    obtain ⟨found, hfound, rfl⟩ := probe_of_openObjects hreopen
    obtain ⟨memory, known, hrun, -⟩ := run_of_unknown session.profile session.memory manager events
    obtain ⟨memory', known', hrun', -⟩ := run_of_unknown other.profile other.memory found others
    rw [hrun, hrun'] at hmemory hknown ⊢
    obtain ⟨hcookie, rfl⟩ : manager.cookie = found.cookie ∧ known = known' := by
      simpa [remembered] using hknown
    obtain rfl : manager = found := ObjectManager.probe_congr hprofile.symm hprobe hfound hcookie
    obtain rfl : memory = memory' := hmemory
    rw [hprofile]
  · intro queries query
    obtain ⟨known, hknown, hrun⟩ := run_of_current session.profile session.memory manager
      (current_none _) queries
    have hanew :=
      openObjects_of_probe ⟨session.profile, session.memory, some ⟨manager, known⟩⟩ hprobe
    rw [hrun, hanew]
    exact (pose_of_current session.profile session.memory manager hknown query).2

/-- In the small image the type that the first query reads stays known when it is overwritten. -/
theorem staleness_of_openObjects_small :
    ∃ opened,
      (Session.ofMemory smallProfile (.run [.map 0x1000 smallBytes.toArray])).openObjects =
        (.ok (), opened) ∧
      (opened.run [.pose (.question (.isDirectoryType 0x66)),
        .patch (.write 0x1004 #[0, 0, 0, 0])]).remembered.map Prod.snd = some (some 0x77) := by
  have hlaid := laysOut_small
  have hmem := Memory.wellFormed_run [.map 0x1000 smallBytes.toArray]
  generalize Memory.run [.map 0x1000 smallBytes.toArray] = memory at hlaid hmem ⊢
  have hopen := openObjects_of_probe (.ofMemory smallProfile memory) (hlaid.probe_eq_ok hmem)
  have hread : readDirectoryType (.ofMemory smallProfile memory) = .ok 0x77 :=
    hlaid.readDirectoryType_eq_ok hmem
  obtain ⟨manager, -, hruns, -⟩ := staleness_of_openObjects hopen
  obtain ⟨known, -, hobjects, hknown⟩ := hruns [.pose (.question (.isDirectoryType 0x66)),
    .patch (.write 0x1004 #[0, 0, 0, 0])]
  have htype : known = some 0x77 :=
    (hknown 0x77).2 (.now ((reads_pose_iff _ _ _ _ _ _).2 ⟨rfl, hread⟩))
  refine ⟨_, hopen, ?_⟩
  rw [remembered, hobjects, htype]
  rfl

end Session

end KernelScope
