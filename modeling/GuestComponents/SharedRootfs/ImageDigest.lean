import GuestComponents.Lib.Sha2
import GuestComponents.Lib.Transition
import GuestComponents.SharedRootfs.Store

/-! The digest of an image file and the side-car that keeps it with the size and the modification
time that it was computed for. Builds, preparations and requests for one path run one after the
other, and the file may be rewritten between any two of their operations. Times before the epoch are
all written as zero; where no two contents of one size are both that old, and a file is hashed while
it has the size and the time that are noted with its digest, every digest that is returned is the
one of the file (`sidecar_sound`). -/
namespace GuestComponents.SharedRootfs.ImageDigest
open Lib Lib.Text

/-- A content of the path, with its modification time in nanoseconds after the epoch, or before it. -/
structure ImageFile where
  content : List UInt8
  mtime : Int
  deriving DecidableEq

/-- `system_time_unix_nanos`: `unwrap_or(0)` for a time before the epoch. -/
def systemTimeUnixNanos (time : Int) : Nat := time.toNat

/-- `fs_size_and_modified_unix_nanos`. -/
def ImageFile.stat (file : ImageFile) : Nat × Nat := (file.content.length, systemTimeUnixNanos file.mtime)

/-- `sha256_file`, of what was read. -/
def sha256Text (content : List UInt8) : Text := hexEncode (Sha2.sha256.digest content)

/-- A side-car file: the JSON of one, or anything else. -/
inductive SidecarFile where
  | sidecar (sidecar : DigestSidecar)
  | other
  deriving DecidableEq

/-- `read_rootfs_digest_sidecar`, of a file that can be read. -/
def readRootfsDigestSidecar (file : Option SidecarFile) (size modified : Nat) : Option Text :=
  match file with
  | some (.sidecar sidecar) =>
    if sidecar.size ≠ size ∨ sidecar.modifiedUnixNanos ≠ modified ∨ sidecar.sha256.length ≠ 64 then none
    else some sidecar.sha256
  | _ => none

/-- The operation that a run is at: of `prepare_shared_rootfs_image`, of `build_rootfs_image`, and of
`rootfs_digest_for_image` for a size and a time. -/
inductive Phase where
  | idle
  | prepare (hashImage : Bool)
  | createDir (hashImage : Bool)
  | removeImage (hashImage : Bool)
  | removeSidecar (hashImage : Bool)
  | command (hashImage : Bool)
  | stat (hashImage : Bool)
  | readSidecar (size modified : Nat)
  | sha256File (size modified : Nat)
  | writeTmp (size modified : Nat) (sha256 : Text)
  | rename (size modified : Nat) (sha256 : Text)
  deriving DecidableEq

/-- A digest that was returned, for which size and time, and the file at that moment. -/
structure Returned where
  size : Nat
  modified : Nat
  digest : Text
  image : Option ImageFile
  deriving DecidableEq

/-- The path, its side-car and the temporary file of it, all that the path has held, and the digests
that were returned. -/
structure World where
  image : Option ImageFile
  sidecar : Option SidecarFile
  tmp : Option SidecarFile
  held : List ImageFile
  phase : Phase
  returned : List Returned

/-- What a run is asked for. -/
inductive Run where
  | build (hashImage : Bool)
  | prepare (hashImage : Bool)
  | digest (size modified : Nat)

inductive Label where
  | begin (run : Run)
  /-- The file is written or removed, from outside or by the command of a build. -/
  | rewrite (image : Option ImageFile)
  /-- The next operation of the run works. -/
  | works
  /-- `Path::exists` is false where `stat` fails. -/
  | unseen
  /-- The hash reads this, since the file is rewritten meanwhile. -/
  | torn (read : List UInt8)
  /-- The next operation fails, and a write leaves this. -/
  | fails (leaves : Option SidecarFile)

namespace World

def begin (world : World) : Run → World
  | .build hashImage => { world with phase := .createDir hashImage }
  | .prepare hashImage => { world with phase := .prepare hashImage }
  | .digest size modified => { world with phase := .readSidecar size modified }

def rewrite (world : World) (image : Option ImageFile) : World :=
  { world with image := image, held := image.toList ++ world.held }

/-- The run ends, with a digest. -/
def finish (world : World) (size modified : Nat) (digest : Text) : World :=
  { world with phase := .idle, returned := ⟨size, modified, digest, world.image⟩ :: world.returned }

/-- The next operation of the run, where it works. -/
def works (world : World) : Option World :=
  match world.phase with
  | .idle => none
  | .prepare hashImage =>
    some { world with phase := if world.image.isSome then .stat hashImage else .createDir hashImage }
  | .createDir hashImage => some { world with phase := .removeImage hashImage }
  | .removeImage hashImage => some { world with image := none, phase := .removeSidecar hashImage }
  | .removeSidecar hashImage => some { world with sidecar := none, phase := .command hashImage }
  | .command hashImage => some { world with phase := .stat hashImage }
  | .stat hashImage =>
    match world.image with
    | none => some { world with phase := .idle }
    | some file => some { world with phase := if hashImage then .readSidecar file.stat.1 file.stat.2 else .idle }
  | .readSidecar size modified =>
    match readRootfsDigestSidecar world.sidecar size modified with
    | some sha256 => some (world.finish size modified sha256)
    | none => some { world with phase := .sha256File size modified }
  | .sha256File size modified =>
    match world.image with
    | none => some { world with phase := .idle }
    | some file => some { world with phase := .writeTmp size modified (sha256Text file.content) }
  | .writeTmp size modified sha256 =>
    some { world with tmp := some (.sidecar ⟨size, modified, sha256⟩), phase := .rename size modified sha256 }
  | .rename size modified sha256 =>
    some ({ world with sidecar := world.tmp, tmp := none }.finish size modified sha256)

/-- The next operation of the run, where it fails: only the removal of the side-car is not minded. -/
def fails (world : World) (leaves : Option SidecarFile) : Option World :=
  match world.phase with
  | .idle => none
  | .removeSidecar hashImage => some { world with phase := .command hashImage }
  | .writeTmp _ _ _ => some { world with tmp := leaves, phase := .idle }
  | _ => some { world with phase := .idle }

end World

/-- Runs for one path, from a path without a side-car. -/
def history : System World Label where
  start world := world.sidecar = none ∧ world.held = world.image.toList ∧ world.phase = .idle ∧ world.returned = []
  step world
    | .begin run => if world.phase = .idle then some (world.begin run) else none
    | .rewrite image => some (world.rewrite image)
    | .works => world.works
    | .unseen =>
      match world.phase with
      | .prepare hashImage => some { world with phase := .createDir hashImage }
      | .removeImage hashImage => some { world with phase := .removeSidecar hashImage }
      | _ => none
    | .torn read =>
      match world.phase with
      | .sha256File size modified => some { world with phase := .writeTmp size modified (sha256Text read) }
      | _ => none
    | .fails leaves => world.fails leaves

/-- A digest that was returned for what the file's size and time were is the digest of the file. -/
def Sound (world : World) : Prop :=
  ∀ one ∈ world.returned, ∀ file, one.image = some file → file.stat = (one.size, one.modified) →
    one.digest = sha256Text file.content

/-- Contents that differ have other sizes or modification times. -/
def Distinct (world : World) : Label → Prop
  | .rewrite (some file) => ∀ other ∈ world.held, other.content ≠ file.content →
      (other.content.length, other.mtime) ≠ (file.content.length, file.mtime)
  | _ => True

/-- A file that is hashed has the size and the time that the digest is asked for. -/
def HashedCurrent (world : World) : Prop :=
  match world.phase, world.image with
  | .sha256File size modified, some file => file.stat = (size, modified)
  | _, _ => True

/-- Moreover, no two contents of one size are both from before the epoch, and a file is hashed while it has the size
and the time that the digest is asked for. -/
def Careful (world : World) (label : Label) : Prop :=
  Distinct world label ∧
    match label with
    | .rewrite (some file) => ∀ other ∈ world.held, other.content ≠ file.content →
        other.content.length = file.content.length → 0 < other.mtime ∨ 0 < file.mtime
    | .works => HashedCurrent world
    | .torn _ => False
    | _ => True

section Soundness

variable {world next : World} {label : Label}

/-- The digest is the one of a content that the path has held, with this size and time. -/
def Known (world : World) (size modified : Nat) (sha256 : Text) : Prop :=
  ∃ file ∈ world.held, file.stat = (size, modified) ∧ sha256 = sha256Text file.content

/-- What a run has computed, at its phase. -/
def PhaseKnown (world : World) : Prop :=
  match world.phase with
  | .writeTmp size modified sha256 => Known world size modified sha256
  | .rename size modified sha256 =>
    Known world size modified sha256 ∧ world.tmp = some (.sidecar ⟨size, modified, sha256⟩)
  | _ => True

structure Inv (world : World) : Prop where
  one : ∀ file ∈ world.held, ∀ other ∈ world.held, file.stat = other.stat → file.content = other.content
  image : ∀ file, world.image = some file → file ∈ world.held
  sidecar : ∀ sidecar, world.sidecar = some (.sidecar sidecar) →
    Known world sidecar.size sidecar.modifiedUnixNanos sidecar.sha256
  phase : PhaseKnown world
  sound : Sound world

theorem Known.later {held : List ImageFile} {size modified : Nat} {sha256 : Text}
    (known : Known world size modified sha256)
    (more : ∀ file ∈ world.held, file ∈ held) (same : next.held = held) : Known next size modified sha256 := by
  obtain ⟨file, listed, stat, digest⟩ := known
  exact ⟨file, same ▸ more file listed, stat, digest⟩

/-- A run goes on to a phase with nothing new to know. -/
theorem Inv.goes (inv : Inv world) (phase : Phase) (known : PhaseKnown { world with phase := phase }) :
    Inv { world with phase := phase } :=
  ⟨inv.one, inv.image, inv.sidecar, known, inv.sound⟩

/-- A run returns the digest of a content with this size and time. -/
theorem Inv.finish (inv : Inv world) {size modified : Nat} {digest : Text} (known : Known world size modified digest) :
    Inv (world.finish size modified digest) := by
  refine ⟨inv.one, inv.image, inv.sidecar, trivial, ?_⟩
  intro one listed file present stat
  rcases List.mem_cons.mp listed with rfl | earlier
  · obtain ⟨other, held, stat', rfl⟩ := known
    rw [inv.one other held file (inv.image file present) (stat'.trans stat.symm)]
  · exact inv.sound one earlier file present stat

/-- What a side-car that is read says is known. -/
theorem readRootfsDigestSidecar_some {file : Option SidecarFile} {size modified : Nat} {sha256 : Text}
    (read : readRootfsDigestSidecar file size modified = some sha256) :
    file = some (.sidecar ⟨size, modified, sha256⟩) := by
  unfold readRootfsDigestSidecar at read
  split at read
  · rename_i sidecar
    split at read
    · cases read
    · rename_i matching
      rw [not_or, not_or, not_not, not_not] at matching
      obtain ⟨rfl, rfl, _⟩ := matching
      cases read
      rfl
  · cases read

theorem works_inv (inv : Inv world) (current : HashedCurrent world) (ran : world.works = some next) : Inv next := by
  unfold World.works at ran
  split at ran
  · cases ran
  · cases ran
    exact inv.goes _ (by split <;> trivial)
  · cases ran
    exact inv.goes _ trivial
  · cases ran
    exact ⟨inv.one, nofun, inv.sidecar, trivial, inv.sound⟩
  · cases ran
    exact ⟨inv.one, inv.image, nofun, trivial, inv.sound⟩
  · cases ran
    exact inv.goes _ trivial
  · split at ran
    · cases ran
      exact inv.goes _ trivial
    · cases ran
      exact inv.goes _ (by split <;> trivial)
  · rename_i size modified _
    split at ran
    · rename_i sha256 read
      cases ran
      exact inv.finish (inv.sidecar _ (readRootfsDigestSidecar_some read))
    · cases ran
      exact inv.goes _ trivial
  · rename_i size modified phase
    split at ran
    · cases ran
      exact inv.goes _ trivial
    · rename_i file present
      cases ran
      rw [HashedCurrent, phase, present] at current
      exact inv.goes _ ⟨file, inv.image file present, current, rfl⟩
  · rename_i size modified sha256 phase
    cases ran
    have known := inv.phase
    rw [PhaseKnown, phase] at known
    exact ⟨inv.one, inv.image, inv.sidecar, ⟨known, rfl⟩, inv.sound⟩
  · rename_i size modified sha256 phase
    cases ran
    have known := inv.phase
    rw [PhaseKnown, phase] at known
    have renamed : Inv { world with sidecar := world.tmp, tmp := none, phase := .idle } := by
      refine ⟨inv.one, inv.image, ?_, trivial, inv.sound⟩
      intro sidecar there
      rw [known.2] at there
      cases there
      exact known.1
    exact renamed.finish known.1

theorem fails_inv {leaves : Option SidecarFile} (inv : Inv world) (ran : world.fails leaves = some next) : Inv next := by
  unfold World.fails at ran
  split at ran
  · cases ran
  · cases ran
    exact inv.goes _ trivial
  · cases ran
    exact ⟨inv.one, inv.image, inv.sidecar, trivial, inv.sound⟩
  · cases ran
    exact inv.goes _ trivial

/-- Contents that differ have other sizes and times as they are noted. -/
theorem content_of_stat {file other : ImageFile}
    (distinct : other.content ≠ file.content →
      (other.content.length, other.mtime) ≠ (file.content.length, file.mtime))
    (recent : other.content ≠ file.content → other.content.length = file.content.length →
      0 < other.mtime ∨ 0 < file.mtime)
    (same : other.stat = file.stat) : other.content = file.content := by
  by_contra differs
  obtain ⟨sizes, times⟩ := Prod.mk.inj same
  refine distinct differs (Prod.ext sizes ?_)
  have late := recent differs sizes
  unfold systemTimeUnixNanos at times
  change other.mtime = file.mtime
  omega

theorem rewrite_inv {image : Option ImageFile} (inv : Inv world) (careful : Careful world (.rewrite image)) :
    Inv (world.rewrite image) := by
  have more : ∀ file ∈ world.held, file ∈ image.toList ++ world.held :=
    fun file listed => List.mem_append_right _ listed
  refine ⟨?_, ?_, ?_, ?_, inv.sound⟩
  · cases image with
    | none => exact inv.one
    | some new =>
      have fresh : ∀ file ∈ world.held, file.stat = new.stat → file.content = new.content :=
        fun file listed same =>
        content_of_stat (careful.1 file listed) (careful.2 file listed) same
      intro file listed other listed' same
      rcases List.mem_cons.mp listed with rfl | held
      · rcases List.mem_cons.mp listed' with rfl | held'
        · rfl
        · exact (fresh other held' same.symm).symm
      · rcases List.mem_cons.mp listed' with rfl | held'
        · exact fresh file held same
        · exact inv.one file held other held' same
  · intro file present
    change image = some file at present
    rw [present]
    exact List.mem_cons_self
  · intro sidecar there
    exact (inv.sidecar sidecar there).later more rfl
  · have known := inv.phase
    unfold PhaseKnown at known ⊢
    change match world.phase with
      | .writeTmp size modified sha256 => Known (world.rewrite image) size modified sha256
      | .rename size modified sha256 => Known (world.rewrite image) size modified sha256 ∧
          world.tmp = some (.sidecar ⟨size, modified, sha256⟩)
      | _ => True
    split
    · rename_i size modified sha256 phase
      rw [phase] at known
      exact known.later more rfl
    · rename_i size modified sha256 phase
      rw [phase] at known
      exact ⟨known.1.later more rfl, known.2⟩
    · trivial

/-- The step lemma. -/
theorem step_inv (inv : Inv world) (careful : Careful world label) (ran : history.step world label = some next) :
    Inv next := by
  cases label with
  | begin run =>
    simp only [history] at ran
    split at ran
    · cases ran
      cases run <;> exact inv.goes _ trivial
    · cases ran
  | rewrite image =>
    cases ran
    exact rewrite_inv inv careful
  | works => exact works_inv inv careful.2 ran
  | unseen =>
    simp only [history] at ran
    split at ran
    · cases ran
      exact inv.goes _ trivial
    · cases ran
      exact inv.goes _ trivial
    · cases ran
  | torn read => exact careful.2.elim
  | fails leaves => exact fails_inv inv ran

/-- In every careful run, the digests that are returned are those of the file. -/
theorem sidecar_sound (reached : history.Reachable Careful world) : Sound world := by
  have inv : Inv world := reached.invariant
    (by
      rintro world ⟨missing, held, phase, fresh⟩
      refine ⟨?_, ?_, ?_, ?_, ?_⟩
      · intro file listed other listed' _
        rw [held, Option.mem_toList] at listed listed'
        rw [Option.mem_def.mp listed] at listed'
        cases listed'
        rfl
      · intro file present
        rw [held, present]
        exact List.mem_cons_self
      · intro sidecar there
        rw [missing] at there
        cases there
      · rw [PhaseKnown, phase]
        trivial
      · intro one listed
        rw [fresh] at listed
        exact absurd listed List.not_mem_nil)
    (fun _ _ _ inv careful ran => step_inv inv careful ran)
  exact inv.sound

instance (world : World) : (label : Label) → Decidable (Distinct world label)
  | .rewrite (some file) => inferInstanceAs (Decidable (∀ other ∈ world.held, other.content ≠ file.content →
      (other.content.length, other.mtime) ≠ (file.content.length, file.mtime)))
  | .rewrite none | .begin _ | .works | .unseen | .torn _ | .fails _ => .isTrue trivial

instance (world : World) : Decidable (HashedCurrent world) := by
  unfold HashedCurrent
  split <;> infer_instance

instance (world : World) : (label : Label) → Decidable (Careful world label)
  | .rewrite (some file) => inferInstanceAs (Decidable (Distinct world (.rewrite (some file)) ∧
      ∀ other ∈ world.held, other.content ≠ file.content → other.content.length = file.content.length →
        0 < other.mtime ∨ 0 < file.mtime))
  | .works => inferInstanceAs (Decidable (True ∧ HashedCurrent world))
  | .torn _ => .isFalse fun careful => careful.2
  | .rewrite none | .begin _ | .unseen | .fails _ => .isTrue ⟨trivial, trivial⟩

def emptyPath : World := ⟨none, none, none, [], .idle, []⟩

/-- A preparation that finds the file and computes its digest. -/
def prepared : List Label := [.begin (.prepare true), .works, .works, .works, .works, .works, .works]

/-- A preparation that finds the file and a side-car for it. -/
def preparedAgain : List Label := [.begin (.prepare true), .works, .works, .works]

def oldFile : ImageFile := ⟨[1], -2⟩

def otherOldFile : ImageFile := ⟨[2], -1⟩

def recentFile : ImageFile := ⟨[1], 5⟩

def otherFile : ImageFile := ⟨[2], 6⟩

/-- Two files from before the epoch. -/
def bothOld : List Label := .rewrite (some oldFile) :: prepared ++ .rewrite (some otherOldFile) :: preparedAgain

/-- A file that is rewritten after its size and time were read, and is put back later. -/
def rewrittenMeanwhile : List Label :=
  [.rewrite (some recentFile), .begin (.prepare true), .works, .works, .rewrite (some otherFile), .works, .works, .works,
    .works, .rewrite (some recentFile)] ++ preparedAgain

theorem emptyPath_start : history.start emptyPath := ⟨rfl, rfl, rfl, rfl⟩

/-- What is read of the side-car is the digest of the other file. -/
theorem digest_of_other_file :
    (∃ world, history.Reachable Distinct world ∧ ¬ Sound world) ∧
      ∃ world, history.Reachable Distinct world ∧ ¬ Sound world ∧ ∀ file ∈ world.held, 0 < file.mtime := by
  have run : ∀ labels world,
    history.execIf (fun world label => decide (Distinct world label)) emptyPath labels = some world →
      history.Reachable Distinct world := fun labels world ran =>
    (System.Reachable.start emptyPath_start).execIf (fun _ _ _ passed => of_decide_eq_true passed) ran
  constructor
  · obtain ⟨world, ran⟩ : ∃ world,
      history.execIf (fun world label => decide (Distinct world label)) emptyPath bothOld =
        some world := Option.isSome_iff_exists.mp (by decide +kernel)
    refine ⟨world, run _ _ ran, fun sound => ?_⟩
    have last : (history.execIf (fun world label => decide (Distinct world label)) emptyPath bothOld).map (fun world =>
        decide (⟨1, 0, sha256Text [1], some otherOldFile⟩ ∈ world.returned)) = some true := by decide +kernel
    rw [ran] at last
    have digest := sound _ (of_decide_eq_true (Option.some.inj last)) otherOldFile rfl rfl
    exact absurd digest (by decide +kernel)
  · obtain ⟨world, ran⟩ : ∃ world, history.execIf (fun world label => decide (Distinct world label)) emptyPath
        rewrittenMeanwhile = some world := Option.isSome_iff_exists.mp (by decide +kernel)
    have last : (history.execIf (fun world label => decide (Distinct world label)) emptyPath rewrittenMeanwhile).map
        (fun world => decide (⟨1, 5, sha256Text [2], some recentFile⟩ ∈ world.returned ∧
          ∀ file ∈ world.held, 0 < file.mtime)) =
        some true := by decide +kernel
    rw [ran] at last
    obtain ⟨among, late⟩ := of_decide_eq_true (Option.some.inj last)
    refine ⟨world, run _ _ ran, fun sound => ?_, late⟩
    have digest := sound _ among recentFile rfl rfl
    exact absurd digest (by decide +kernel)

/-- A digest that was computed, and is read for the file that has it. -/
theorem recent_digest_sound : ∃ world, history.Reachable Careful world ∧
    world.returned.map Returned.digest = [sha256Text [1], sha256Text [1]] ∧ Sound world := by
  obtain ⟨world, ran⟩ : ∃ world, history.execIf (fun world label => decide (Careful world label)) emptyPath
      (.rewrite (some recentFile) :: prepared ++ preparedAgain) = some world :=
        Option.isSome_iff_exists.mp (by decide +kernel)
  have reached : history.Reachable Careful world :=
    (System.Reachable.start emptyPath_start).execIf (fun _ _ _ passed => of_decide_eq_true passed) ran
  have digests : (history.execIf (fun world label => decide (Careful world label)) emptyPath
      (.rewrite (some recentFile) :: prepared ++ preparedAgain)).map (fun world => world.returned.map Returned.digest) =
      some [sha256Text [1], sha256Text [1]] := by decide +kernel
  rw [ran] at digests
  exact ⟨world, reached, Option.some.inj digests, sidecar_sound reached⟩

end Soundness

end GuestComponents.SharedRootfs.ImageDigest
