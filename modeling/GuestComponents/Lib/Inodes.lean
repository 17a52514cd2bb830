import Mathlib.Logic.Function.Basic

/-! Regular files as the kernel keeps them: names that stand for inodes, and the
bytes of each inode. An open file is an inode, so it outlives its name. No hard
links are made, so an inode has at most one name. A name may be temporary: a
file is written there and then renamed. An inode without a temporary name is
settled, and no writer of temporary files can change it any more. -/
namespace GuestComponents.Lib

/-- Files by name. The inodes in use are those below `unused`. -/
structure Inodes (Name : Type) where
  inodeOf : Name → Option Nat
  content : Nat → List UInt8
  unused : Nat
  used : ∀ name inode, inodeOf name = some inode → inode < unused
  single : ∀ name other inode, inodeOf name = some inode → inodeOf other = some inode → name = other

namespace Inodes

variable {Name : Type}

/-- No file. -/
def empty : Inodes Name where
  inodeOf _ := none
  content _ := []
  unused := 0
  used _ _ found := by cases found
  single _ _ _ found := by cases found

/-- One byte written at an offset, with zeros before it where the file ends earlier. -/
def putByte (data : List UInt8) (offset : Nat) (byte : UInt8) : List UInt8 :=
  data.take offset ++ List.replicate (offset - data.length) 0 ++ byte :: data.drop (offset + 1)

/-- `write` of one byte to an open file. -/
def write (files : Inodes Name) (inode offset : Nat) (byte : UInt8) : Inodes Name :=
  { files with content := Function.update files.content inode (putByte (files.content inode) offset byte) }

/-- A read of one byte from an open file, `none` at its end. -/
def read (files : Inodes Name) (inode offset : Nat) : Option UInt8 := (files.content inode)[offset]?

section Write

variable {files : Inodes Name} {inode offset : Nat} {byte : UInt8}

theorem write_content_self : (files.write inode offset byte).content inode =
    putByte (files.content inode) offset byte := Function.update_self ..

theorem write_content_ne {other : Nat} (differs : other ≠ inode) :
    (files.write inode offset byte).content other = files.content other :=
  Function.update_of_ne differs ..

/-- A byte at the end of a file lengthens it. -/
theorem putByte_end (data : List UInt8) : putByte data data.length byte = data ++ [byte] := by
  simp [putByte]

end Write

/-- An inode that exists and has no temporary name. -/
def Settled (temporary : Name → Prop) (files : Inodes Name) (inode : Nat) : Prop :=
  inode < files.unused ∧ ∀ name, files.inodeOf name = some inode → ¬ temporary name

/-- Every settled file is settled afterwards, with the same bytes. -/
def Keeps (temporary : Name → Prop) (files after : Inodes Name) : Prop :=
  ∀ inode, files.Settled temporary inode →
    after.Settled temporary inode ∧ after.content inode = files.content inode

section Settled

variable {temporary : Name → Prop} {files after : Inodes Name} {name : Name}
  {inode offset : Nat} {byte : UInt8}

theorem Keeps.refl : files.Keeps temporary files := fun _ settled => ⟨settled, rfl⟩

theorem Keeps.trans {last : Inodes Name} (first : files.Keeps temporary after)
    (second : after.Keeps temporary last) : files.Keeps temporary last := by
  intro inode settled
  obtain ⟨settled', same⟩ := first inode settled
  obtain ⟨settled'', same'⟩ := second inode settled'
  exact ⟨settled'', same'.trans same⟩

/-- What a lasting name stands for is settled. -/
theorem settled_of_name (found : files.inodeOf name = some inode) (lasting : ¬ temporary name) :
    files.Settled temporary inode := by
  refine ⟨files.used name inode found, fun other found' => ?_⟩
  rw [files.single other name inode found' found]
  exact lasting

theorem settled_ne (settled : files.Settled temporary inode) {other : Nat}
    (found : files.inodeOf name = some other) (temp : temporary name) : inode ≠ other := by
  rintro rfl
  exact settled.2 name found temp

/-- Writing to a file with a temporary name. -/
theorem write_keeps {written : Nat} (found : files.inodeOf name = some written) (temp : temporary name) :
    files.Keeps temporary (files.write written offset byte) := by
  intro inode settled
  exact ⟨settled, write_content_ne (settled_ne settled found temp)⟩

end Settled

variable [DecidableEq Name]

private theorem used_fresh {files : Inodes Name} {name other : Name} {inode : Nat}
    (found : Function.update files.inodeOf name (some files.unused) other = some inode) :
    inode < files.unused + 1 := by
  by_cases same : other = name
  · subst same
    rw [Function.update_self] at found
    cases found
    omega
  · rw [Function.update_of_ne same] at found
    have below := files.used other inode found
    omega

private theorem single_fresh {files : Inodes Name} {name one other : Name} {inode : Nat}
    (found : Function.update files.inodeOf name (some files.unused) one = some inode)
    (found' : Function.update files.inodeOf name (some files.unused) other = some inode) :
    one = other := by
  have old : ∀ other, other ≠ name → files.inodeOf other ≠ some files.unused := by
    intro other _ known
    exact Nat.lt_irrefl _ (files.used other _ known)
  by_cases same : one = name <;> by_cases same' : other = name
  · rw [same, same']
  · rw [same, Function.update_self] at found
    rw [Function.update_of_ne same'] at found'
    exact absurd (found'.trans found.symm) (old other same')
  · rw [same', Function.update_self] at found'
    rw [Function.update_of_ne same] at found
    exact absurd (found.trans found'.symm) (old one same)
  · rw [Function.update_of_ne same] at found
    rw [Function.update_of_ne same'] at found'
    exact files.single one other inode found found'

/-- `open` for writing, with creation and truncation: the inode, and the files
after it. -/
def create (files : Inodes Name) (name : Name) : Nat × Inodes Name :=
  match files.inodeOf name with
  | some inode => (inode, { files with content := Function.update files.content inode [] })
  | none => (files.unused,
    { inodeOf := Function.update files.inodeOf name (some files.unused)
      content := Function.update files.content files.unused []
      unused := files.unused + 1
      used := fun _ _ found => used_fresh found
      single := fun _ _ _ found found' => single_fresh found found' })

private theorem moved_cases {files : Inodes Name} {source target other : Name} {inode moved : Nat}
    (found : Function.update (Function.update files.inodeOf source none) target (some moved) other =
      some inode) :
    (other = target ∧ inode = moved) ∨
      (other ≠ target ∧ other ≠ source ∧ files.inodeOf other = some inode) := by
  by_cases atTarget : other = target
  · subst atTarget
    rw [Function.update_self] at found
    cases found
    exact .inl ⟨rfl, rfl⟩
  · rw [Function.update_of_ne atTarget] at found
    by_cases atSource : other = source
    · subst atSource
      rw [Function.update_self] at found
      cases found
    · rw [Function.update_of_ne atSource] at found
      exact .inr ⟨atTarget, atSource, found⟩

private theorem single_moved {files : Inodes Name} {source target one other : Name} {moved inode : Nat}
    (known : files.inodeOf source = some moved)
    (found : Function.update (Function.update files.inodeOf source none) target (some moved) one =
      some inode)
    (found' : Function.update (Function.update files.inodeOf source none) target (some moved) other =
      some inode) : one = other := by
  rcases moved_cases found with ⟨rfl, rfl⟩ | ⟨_, apart, old⟩ <;>
    rcases moved_cases found' with ⟨rfl, moves⟩ | ⟨_, apart', old'⟩
  · rfl
  · exact absurd (files.single _ _ _ old' known) apart'
  · subst moves
    exact absurd (files.single _ _ _ old known) apart
  · exact files.single _ _ _ old old'

/-- `rename`, `none` where there is no such file. What the target named before
has no name then. -/
def rename (files : Inodes Name) (source target : Name) : Option (Inodes Name) :=
  match known : files.inodeOf source with
  | none => none
  | some moved => some
    { files with
      inodeOf := Function.update (Function.update files.inodeOf source none) target (some moved)
      used := fun other inode found => by
        rcases moved_cases found with ⟨_, rfl⟩ | ⟨_, _, old⟩
        · exact files.used source inode known
        · exact files.used other inode old
      single := fun _ _ _ found found' => single_moved known found found' }

section Frame

variable {files : Inodes Name} {name source target other : Name}

theorem create_inodeOf_self : (files.create name).2.inodeOf name = some (files.create name).1 := by
  unfold create
  split
  · assumption
  · exact Function.update_self ..

theorem create_inodeOf_ne (differs : other ≠ name) :
    (files.create name).2.inodeOf other = files.inodeOf other := by
  unfold create
  split
  · rfl
  · exact Function.update_of_ne differs ..

theorem create_content_self : (files.create name).2.content (files.create name).1 = [] := by
  unfold create
  split <;> exact Function.update_self ..

theorem create_content_ne {other : Nat} (differs : other ≠ (files.create name).1) :
    (files.create name).2.content other = files.content other := by
  revert differs
  unfold create
  split <;> exact fun differs => Function.update_of_ne differs ..

theorem create_unused : files.unused ≤ (files.create name).2.unused := by
  unfold create
  split
  · exact Nat.le_refl _
  · exact Nat.le_succ _

/-- The file that is opened was there under this name, or is new. -/
theorem create_fst : files.inodeOf name = some (files.create name).1 ∨
    (files.create name).1 = files.unused := by
  unfold create
  split
  · exact .inl (by assumption)
  · exact .inr rfl

theorem rename_some {moved : Nat} (known : files.inodeOf source = some moved) :
    ∃ after, files.rename source target = some after ∧ after.content = files.content ∧
      after.unused = files.unused ∧ after.inodeOf =
        Function.update (Function.update files.inodeOf source none) target (some moved) := by
  unfold rename
  split
  · rename_i missing
    rw [known] at missing
    cases missing
  · rename_i moved' found
    rw [known] at found
    cases found
    exact ⟨_, rfl, rfl, rfl, rfl⟩

end Frame

section Keeps

variable {temporary : Name → Prop} {files after : Inodes Name} {name source target : Name}

/-- Opening a temporary file. -/
theorem create_keeps (temp : temporary name) : files.Keeps temporary (files.create name).2 := by
  intro inode settled
  have differs : inode ≠ (files.create name).1 := by
    rcases @create_fst _ _ files name with found | fresh
    · exact settled_ne settled found temp
    · rw [fresh]
      exact Nat.ne_of_lt settled.1
  refine ⟨⟨Nat.lt_of_lt_of_le settled.1 create_unused, ?_⟩, create_content_ne differs⟩
  intro other found
  by_cases same : other = name
  · subst same
    rw [create_inodeOf_self] at found
    cases found
    exact absurd rfl differs
  · rw [create_inodeOf_ne same] at found
    exact settled.2 other found

/-- Renaming to a lasting name. -/
theorem rename_keeps (lasting : ¬ temporary target) (renamed : files.rename source target = some after) :
    files.Keeps temporary after := by
  intro inode settled
  unfold rename at renamed
  split at renamed
  · cases renamed
  · cases renamed
    refine ⟨⟨settled.1, ?_⟩, rfl⟩
    intro other found
    rcases moved_cases found with ⟨rfl, _⟩ | ⟨_, _, old⟩
    · exact lasting
    · exact settled.2 other old

end Keeps

end Inodes

end GuestComponents.Lib
