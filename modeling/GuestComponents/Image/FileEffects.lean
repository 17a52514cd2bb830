import GuestComponents.Image.Unpack
import GuestComponents.Lib.LinkedTree

/-! What the operations of `unpack.rs` do to the files: a path is followed through the symbolic
links that are there, and the places are noted at which a file is created, or at which its owner,
mode, times or attributes are changed. What the operating system refuses and what the archive crate
does within the directory is left open. -/
namespace GuestComponents.Image.Unpack
open Lib Lib.Text

abbrev Files := LinkedTree Text

/-- What a part of a path means to the operating system. -/
def part (text : Text) : LinkedTree.Part Text :=
  if text = [] ∨ text = ['.'] then .here else if text = ['.', '.'] then .up else .name text

def parts (path : Text) : List (LinkedTree.Part Text) := (split '/' path).map part

/-- The place that a path leads to from the working directory; 40 links are followed. -/
def Files.leads (files : Files) (cwd : List Text) (follow : Bool) (path : Text) : Option (List Text) :=
  if path = [] ∨ '\x00' ∈ path then none
  else LinkedTree.walk files follow 41 (if path.head? = some '/' then [] else cwd) (parts path)

/-- The files, and the places at which the process has created one or changed its owner, mode, times
or attributes. That the times of a directory change with the names in it does not count. -/
structure Machine where
  files : Files
  touched : List (List Text)
  /-- How many operations there were: what is left open may depend on it. -/
  moment : Nat

/-- What the archive crate makes of an entry: it changes nothing but what is in the directory. -/
structure Unpacked (files : Files) (directory : List Text) where
  result : Except String Unit
  after : Files
  touched : List (List Text)
  beside : ∀ place, ¬ directory <+: place ∨ place = directory → after place = files place
  inside : ∀ place ∈ touched, directory <+: place

/-- What the files do not decide: whether an operation is refused, and what the crate does. -/
structure Choice where
  refused : Option String
  unpackIn : (files : Files) → (directory : List Text) → Unpacked files directory

namespace Machine

variable (machine : Machine) (cwd : List Text)

def touch (place : List Text) : Machine := { machine with touched := machine.touched ++ [place] }

def create (place : List Text) (node : LinkedTree.Node Text) : Machine :=
  { machine with files := machine.files.insert place node, touched := machine.touched ++ [place] }

/-- An operation on the file that a path leads to. -/
def onFile (follow : Bool) (path : Text)
    (act : List Text → LinkedTree.Node Text → Except String Unit × Machine) : Except String Unit × Machine :=
  match machine.files.leads cwd follow path with
  | none => (.error "No such file or directory", machine)
  | some place =>
    match machine.files place with
    | none => (.error "No such file or directory", machine)
    | some node => act place node

/-- Creates a file of this kind where there is none. -/
def make (path : Text) (node : LinkedTree.Node Text) : Except String Unit × Machine :=
  match machine.files.leads cwd false path with
  | none => (.error "No such file or directory", machine)
  | some place =>
    match machine.files place with
    | none => (.ok (), machine.create place node)
    | some _ => (.error "File exists", machine)

/-- `mkdir`, and `Path::is_dir` where there is something already. -/
def makeDir (path : Text) : Except String Unit × Machine :=
  match machine.make cwd path .directory with
  | (.ok (), made) => (.ok (), made)
  | (.error error, _) => machine.onFile cwd true path fun _ node =>
    (if node = .directory then .ok () else .error error, machine)

/-- `DirBuilder::create_dir_all` on a path and its ancestors, the longest first. -/
def createDirAll : List Text → Except String Unit × Machine
  | [] => (.error "failed to create whole tree", machine)
  | path :: above =>
    if path = [] then (.ok (), machine)
    else if (machine.files.leads cwd false path).isSome then machine.makeDir cwd path
    else match createDirAll above with
      | (.ok (), machine) => machine.makeDir cwd path
      | (.error error, machine) => (.error error, machine)

end Machine

/-- `Path::ancestors`. -/
def ancestors (path : Text) : List Text :=
  path :: ((components path).inits.dropLast.reverse.filter fun above =>
    path.head? ≠ some '/' || !above.isEmpty).map asPath

/-- What an operation does when it is not refused. -/
def act (cwd : List Text) (op : FileOp) (choice : Choice) (machine : Machine) : Except String Unit × Machine :=
  match op.act with
  | .pathExists => machine.onFile cwd true op.path fun _ _ => (.ok (), machine)
  | .openFile write => machine.onFile cwd true op.path fun _ node =>
    (if write && node ≠ .file then .error "Is a directory" else .ok (), machine)
  | .removeDirAll => machine.onFile cwd false op.path fun place node =>
    if node = .file then (.error "Not a directory", machine)
    else (.ok (), { machine with files := machine.files.without place })
  | .createDirAll => machine.createDirAll cwd (ancestors op.path)
  -- A file that was opened before is still what its path leads to: nothing happens in between.
  | .setXattr _ | .lchown _ _ => machine.onFile cwd false op.path fun place _ => (.ok (), machine.touch place)
  | .fchown _ _ | .setPermissions _ | .setFileTimes _ | .utimes _ =>
    machine.onFile cwd true op.path fun place _ => (.ok (), machine.touch place)
  | .mknod => machine.make cwd op.path .file
  | .unpackIn _ _ => machine.onFile cwd true op.path fun place node =>
    if node = .directory then
      let done := choice.unpackIn machine.files place
      (done.result, { machine with files := done.after, touched := machine.touched ++ done.touched })
    else (.error "Not a directory", machine)

/-- Every operation may be refused, but not the question whether there is something at a path. -/
def attempt (cwd : List Text) (op : FileOp) (choice : Choice) (machine : Machine) : Except String Unit × Machine :=
  match op.act, choice.refused with
  | .pathExists, _ | _, none => act cwd op choice machine
  | _, some error => (.error error, machine)

/-- The operating system, for one process in this working directory. -/
def system (cwd : List Text) : Service FileOp Answer Machine Choice Unit where
  perform _ machine op choice :=
    ((attempt cwd op choice machine).1,
      { (attempt cwd op choice machine).2 with moment := machine.moment + 1 })
  began _ _ machine := machine
  died _ machine := machine

section Files

variable {cwd directory : List Text} {files larger : Files} {place : List Text} {path : Text}

theorem leads_mono (within : LinkedTree.Within files larger) (leads : files.leads cwd false path = some place) :
    larger.leads cwd false path = some place := by
  unfold Files.leads at leads ⊢
  split at leads
  · cases leads
  · rename_i proper
    rw [if_neg proper]
    exact LinkedTree.walk_mono within leads

theorem leads_follow (leads : files.leads cwd false path = some place)
    (plain : ∀ absolute target, files place ≠ some (.link absolute target)) :
    files.leads cwd true path = some place := by
  unfold Files.leads at leads ⊢
  split at leads
  · cases leads
  · rename_i proper
    rw [if_neg proper]
    exact LinkedTree.walk_follow leads plain

/-- An operation on a file does nothing where there is none. -/
theorem onFile_cases (cwd : List Text) (path : Text) (machine : Machine) (follow : Bool)
    (act : List Text → LinkedTree.Node Text → Except String Unit × Machine) :
    ((∀ place, machine.files.leads cwd follow path = some place → machine.files place = none) ∧
        ∃ error, machine.onFile cwd follow path act = (.error error, machine)) ∨
      ∃ place node, machine.files.leads cwd follow path = some place ∧ machine.files place = some node ∧
        machine.onFile cwd follow path act = act place node := by
  unfold Machine.onFile
  cases leads : machine.files.leads cwd follow path with
  | none => exact .inl ⟨(fun _ same => by cases same), _, rfl⟩
  | some place =>
    dsimp only
    cases found : machine.files place with
    | none => exact .inl ⟨fun _ same => Option.some.inj same ▸ found, _, rfl⟩
    | some node => exact .inr ⟨place, node, rfl, found, rfl⟩

theorem make_cases (cwd : List Text) (path : Text) (machine : Machine) (node : LinkedTree.Node Text) :
    ((∀ place, machine.files.leads cwd false path = some place → machine.files place ≠ none) ∧
        ∃ error, machine.make cwd path node = (.error error, machine)) ∨
      ∃ place, machine.files.leads cwd false path = some place ∧ machine.files place = none ∧
        machine.make cwd path node = (.ok (), machine.create place node) := by
  unfold Machine.make
  cases leads : machine.files.leads cwd false path with
  | none => exact .inl ⟨(fun _ same => by cases same), _, rfl⟩
  | some place =>
    dsimp only
    cases found : machine.files place with
    | some _ => exact .inl ⟨fun _ same => by simp [← Option.some.inj same, found], _, rfl⟩
    | none => exact .inr ⟨place, rfl, found, rfl⟩

theorem attempt_cases (op : FileOp) (choice : Choice) (machine : Machine) :
    attempt cwd op choice machine = act cwd op choice machine ∨
      ∃ error, attempt cwd op choice machine = (.error error, machine) := by
  unfold attempt
  split
  · exact .inl rfl
  · exact .inl rfl
  · exact .inr ⟨_, rfl⟩

end Files

end GuestComponents.Image.Unpack
