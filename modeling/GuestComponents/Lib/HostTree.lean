import GuestComponents.Lib.AllOrNothing
import Mathlib.Data.List.Basic
import Mathlib.Data.List.Induction
import Mathlib.Data.List.TakeWhile

/-! Directory trees and the calls that make directories and write files in them. Every call
may be refused for a path. `createDirs_node` says what is left of a list of directories to
be made when one of them cannot be: those before it that were missing. -/
namespace GuestComponents.Lib

inductive HostNode (Content : Type) where
  | dir
  | file (content : Content)
  deriving DecidableEq

/-- What stands at each path. What has something below it is a directory. -/
structure HostTree (Name Content : Type) where
  node : List Name → Option (HostNode Content)
  root : node [] = some .dir
  closed : ∀ path name, node (path ++ [name]) ≠ none → node path = some .dir

namespace HostTree

variable {Name Content : Type} [DecidableEq Name] [DecidableEq Content]

/-- The tree with this at the path, where no directory is. -/
def insert (tree : HostTree Name Content) (path : List Name) (new : HostNode Content)
    (free : tree.node path ≠ some .dir) (parent : tree.node path.dropLast = some .dir) :
    HostTree Name Content where
  node other := if other = path then some new else tree.node other
  root := by
    split
    · rename_i same
      rw [← same] at free
      exact absurd tree.root free
    · exact tree.root
  closed other name there := by
    have above : tree.node other = some .dir := by
      by_cases same : other ++ [name] = path
      · rw [← same, List.dropLast_concat] at parent
        exact parent
      · rw [if_neg same] at there
        exact tree.closed other name there
    split
    · rename_i same
      rw [same] at above
      exact absurd above free
    · exact above

/-- A root directory with nothing in it. -/
def empty : HostTree Name Content where
  node path := if path = [] then some .dir else none
  root := rfl
  closed path name there := absurd (if_neg (by simp)) there

/-- `mkdir`. -/
def mkdir (refused : Option String) (path : List Name) : Action (HostTree Name Content) String Unit :=
  fun tree =>
    if place : tree.node path = none ∧ tree.node path.dropLast = some .dir then
      match refused with
      | some error => (.error error, tree)
      | none => (.ok (), tree.insert path .dir (by simp [place.1]) place.2)
    else (.error "File exists, or no such directory", tree)

/-- A directory that is made unless it is there. -/
def createDir (refused : Option String) (path : List Name) : Action (HostTree Name Content) String Unit :=
  fun tree => if tree.node path = some .dir then (.ok (), tree) else mkdir refused path tree

/-- The paths of the directories on the way from one below this one. -/
def prefixesFrom (before : List Name) : List Name → List (List Name)
  | [] => []
  | name :: rest => (before ++ [name]) :: prefixesFrom (before ++ [name]) rest

/-- The paths of the directories on the way to a path, from the root down. -/
def prefixes (path : List Name) : List (List Name) := prefixesFrom [] path

/-- The directories one after the other. -/
def createDirs (refuse : List Name → Option String) :
    List (List Name) → Action (HostTree Name Content) String Unit
  | [] => pure ()
  | path :: paths => do
    createDir (refuse path) path
    createDirs refuse paths

/-- `create_dir_all`. -/
def createDirAll (refuse : List Name → Option String) (path : List Name) :
    Action (HostTree Name Content) String Unit := createDirs refuse (prefixes path)

/-- `if !path.exists() { create_dir_all(path) }`. -/
def createMissing (refuse : List Name → Option String) (path : List Name) :
    Action (HostTree Name Content) String Unit :=
  fun tree => if (tree.node path).isSome then (.ok (), tree) else createDirAll refuse path tree

/-- `fs::write`: the file is opened, and empty then, and is written up to where it is cut off. -/
def writeFile (opened : Option String) (cut : Option (Content × String)) (path : List Name) (content : Content) :
    Action (HostTree Name Content) String Unit :=
  fun tree =>
    if place : tree.node path ≠ some .dir ∧ tree.node path.dropLast = some .dir then
      match opened, cut with
      | some error, _ => (.error error, tree)
      | none, some (part, error) => (.error error, tree.insert path (.file part) place.1 place.2)
      | none, none => (.ok (), tree.insert path (.file content) place.1 place.2)
    else (.error "Is a directory, or no such directory", tree)

/-- The tree without the file at the path. -/
def remove (tree : HostTree Name Content) (path : List Name) (file : tree.node path ≠ some .dir) :
    HostTree Name Content where
  node other := if other = path then none else tree.node other
  root := by
    split
    · rename_i same
      rw [← same] at file
      exact absurd tree.root file
    · exact tree.root
  closed other name there := by
    split at there
    · exact absurd rfl there
    · have above := tree.closed other name there
      split
      · rename_i same
        rw [same] at above
        exact absurd above file
      · exact above

/-- `let _ = fs::remove_file(path)`, where it works or not. -/
def removeFile (works : Bool) (path : List Name) (tree : HostTree Name Content) : HostTree Name Content :=
  if file : tree.node path ≠ some .dir then if works then tree.remove path file else tree else tree

/-- A directory cannot be here: a file is, or it is missing and refused. -/
def blocked (refuse : List Name → Option String) (tree : HostTree Name Content) (path : List Name) : Bool :=
  match tree.node path with
  | some .dir => false
  | some (.file _) => true
  | none => (refuse path).isSome

/-- Those of the directories that are made: the missing ones before the first that cannot be. -/
def made (refuse : List Name → Option String) (tree : HostTree Name Content) (paths : List (List Name)) :
    List (List Name) :=
  (paths.takeWhile fun path => !blocked refuse tree path).filter fun path => (tree.node path).isNone

/-- The tree has these directories then, and is otherwise as before. -/
def Adds (before after : HostTree Name Content) (dirs : List (List Name)) : Prop :=
  ∀ path, (path ∈ dirs → after.node path = some .dir) ∧ (path ∉ dirs → after.node path = before.node path)

/-- A file can be written here. -/
def Writable (tree : HostTree Name Content) (path : List Name) : Prop :=
  tree.node path ≠ some .dir ∧ tree.node path.dropLast = some .dir

/-- Each path is one step below one that is known or comes before it. -/
def Climbs (known : List Name → Prop) : List (List Name) → Prop
  | [] => True
  | path :: paths => known path.dropLast ∧ Climbs (fun other => known other ∨ other = path) paths

omit [DecidableEq Name] [DecidableEq Content]

section Climbs

variable {known known' : List Name → Prop} {paths rest : List (List Name)}

theorem Climbs.weaken (climbs : Climbs known paths) (implies : ∀ path, known path → known' path) :
    Climbs known' paths := by
  induction paths generalizing known known' with
  | nil => trivial
  | cons path paths ih =>
    obtain ⟨here, later⟩ := climbs
    refine ⟨implies _ here, ih later ?_⟩
    rintro other (before | same)
    · exact .inl (implies other before)
    · exact .inr same

theorem Climbs.append (climbs : Climbs known paths) (later : Climbs known rest) : Climbs known (paths ++ rest) := by
  induction paths generalizing known with
  | nil => exact later
  | cons path paths ih => exact ⟨climbs.1, ih climbs.2 (later.weaken fun _ => .inl)⟩

theorem climbs_prefixesFrom {before : List Name} (there : known before) (path : List Name) :
    Climbs known (prefixesFrom before path) := by
  induction path generalizing before known with
  | nil => trivial
  | cons name path ih =>
    constructor
    · rwa [List.dropLast_concat]
    · exact ih (.inr rfl)

theorem climbs_prefixes (path : List Name) : Climbs (fun other => other = []) (prefixes path) :=
  @climbs_prefixesFrom _ (fun other => other = []) [] rfl path

theorem mem_prefixesFrom {before path other : List Name} :
    other ∈ prefixesFrom before path ↔ ∃ rest, rest ≠ [] ∧ rest <+: path ∧ other = before ++ rest := by
  induction path generalizing before with
  | nil =>
    constructor
    · intro impossible
      cases impossible
    · rintro ⟨rest, some, none, _⟩
      exact absurd (List.prefix_nil.mp none) some
  | cons name path ih =>
    rw [prefixesFrom, List.mem_cons, ih]
    constructor
    · rintro (rfl | ⟨rest, _, inside, rfl⟩)
      · exact ⟨[name], by simp, by simp, rfl⟩
      · refine ⟨name :: rest, by simp, ?_, by simp⟩
        exact (List.cons_prefix_cons).mpr ⟨rfl, inside⟩
    · rintro ⟨rest, some, inside, rfl⟩
      cases rest with
      | nil => exact absurd rfl some
      | cons first rest =>
        obtain ⟨rfl, below⟩ := List.cons_prefix_cons.mp inside
        cases rest with
        | nil => exact .inl rfl
        | cons second rest => exact .inr ⟨second :: rest, by simp, below, by simp⟩

theorem mem_prefixes {path other : List Name} : other ∈ prefixes path ↔ other ≠ [] ∧ other <+: path := by
  rw [prefixes, mem_prefixesFrom]
  simp

theorem prefixes_append (path rest : List Name) :
    prefixes (path ++ rest) = prefixes path ++ prefixesFrom path rest := by
  have general : ∀ before, prefixesFrom before (path ++ rest) =
      prefixesFrom before path ++ prefixesFrom (before ++ path) rest := by
    induction path with
    | nil =>
      intro before
      rw [List.append_nil]
      rfl
    | cons name path ih =>
      intro before
      rw [List.cons_append, prefixesFrom, prefixesFrom, ih, List.cons_append, List.append_assoc]
      rfl
  exact general []

end Climbs

section Dirs

variable [DecidableEq Name] [DecidableEq Content] {refuse : List Name → Option String}
  {tree after : HostTree Name Content} {path other : List Name} {paths : List (List Name)}
  {known : List Name → Prop}

omit [DecidableEq Content] in
theorem node_insert {new : HostNode Content} {free : tree.node path ≠ some .dir}
    {parent : tree.node path.dropLast = some .dir} (other : List Name) :
    (tree.insert path new free parent).node other = if other = path then some new else tree.node other := rfl

/-- A directory that can be made is there then, and nothing else has changed. -/
theorem createDir_ok (parent : tree.node path.dropLast = some .dir) (free : blocked refuse tree path = false) :
    ∃ after, createDir (refuse path) path tree = (.ok (), after) ∧
      ∀ other, after.node other = if other = path then some .dir else tree.node other := by
  rw [createDir]
  cases here : tree.node path with
  | none =>
    have allowed : refuse path = none := by
      simpa [blocked, here] using free
    rw [if_neg nofun, mkdir, dif_pos ⟨here, parent⟩, allowed]
    exact ⟨_, rfl, node_insert⟩
  | some node =>
    cases node with
    | dir =>
      refine ⟨tree, if_pos rfl, ?_⟩
      intro other
      split
      · rename_i same
        rw [same, here]
      · rfl
    | file content => simp [blocked, here] at free

/-- One that cannot be made changes nothing. -/
theorem createDir_fails (blocks : blocked refuse tree path = true) :
    ∃ error, createDir (refuse path) path tree = (.error error, tree) := by
  rw [createDir]
  cases here : tree.node path with
  | none =>
    rw [if_neg nofun, mkdir]
    split
    · cases refused : refuse path with
      | none => simp [blocked, here, refused] at blocks
      | some error => exact ⟨error, rfl⟩
    · exact ⟨_, rfl⟩
  | some node =>
    cases node with
    | dir => simp [blocked, here] at blocks
    | file content =>
      rw [if_neg (by simp), mkdir, dif_neg (by simp [here])]
      exact ⟨_, rfl⟩

omit [DecidableEq Content] in
/-- Making a directory does not block another one. -/
theorem blocked_after (free : blocked refuse tree path = false)
    (node : ∀ other, after.node other = if other = path then some .dir else tree.node other) :
    blocked refuse after = blocked refuse tree := by
  funext other
  by_cases same : other = path
  · subst same
    rw [free, blocked, node, if_pos rfl]
  · rw [blocked, blocked, node, if_neg same]

omit [DecidableEq Name] [DecidableEq Content] in
theorem mem_made : other ∈ made refuse tree paths ↔
    other ∈ paths.takeWhile (fun path => !blocked refuse tree path) ∧ tree.node other = none := by
  rw [made, List.mem_filter, Option.isNone_iff_eq_none]

/-- What comes of a list of directories, each below one that is there or comes before it. -/
theorem createDirs_node (refuse : List Name → Option String) (climbs : Climbs known paths)
    (there : ∀ path, known path → tree.node path = some .dir) :
    ∃ result after, createDirs refuse paths tree = (result, after) ∧
      (result = .ok () ↔ ∀ path ∈ paths, blocked refuse tree path = false) ∧
      Adds tree after (made refuse tree paths) := by
  induction paths generalizing tree known with
  | nil => exact ⟨.ok (), tree, rfl, by simp, fun other => ⟨by simp [made], fun _ => rfl⟩⟩
  | cons path paths ih =>
    obtain ⟨parent, climbs⟩ := climbs
    cases blocks : blocked refuse tree path with
    | true =>
      obtain ⟨error, failed⟩ := createDir_fails blocks
      refine ⟨.error error, tree, Action.bind_error failed, ?_, ?_⟩
      · simp [blocks]
      · intro other
        exact ⟨by simp [made, blocks], fun _ => rfl⟩
    | false =>
      obtain ⟨next, ran, node⟩ := createDir_ok (there _ parent) blocks
      have there' : ∀ other, known other ∨ other = path → next.node other = some .dir := by
        rintro other (before | rfl)
        · rw [node]
          split
          · rfl
          · exact there other before
        · rw [node, if_pos rfl]
      obtain ⟨result, after, rest, success, later⟩ := ih climbs there'
      have unblocked := blocked_after blocks node
      rw [unblocked] at success
      refine ⟨result, after, (Action.bind_ok ran).trans rest, ?_, ?_⟩
      · rw [success, List.forall_mem_cons]
        simp [blocks]
      · intro other
        have first : (path :: paths).takeWhile (fun path => !blocked refuse tree path) =
            path :: paths.takeWhile fun path => !blocked refuse tree path := by
          simp [blocks]
        obtain ⟨added, kept⟩ := later other
        by_cases same : other = path
        · subst same
          have there : after.node other = some .dir := by
            by_cases again : other ∈ made refuse next paths
            · exact added again
            · rw [kept again, node, if_pos rfl]
          refine ⟨fun _ => there, ?_⟩
          intro old
          cases here : tree.node other with
          | none => exact absurd (mem_made.mpr ⟨by simp [first], here⟩) old
          | some found =>
            cases found with
            | dir => exact there
            | file content => simp [blocked, here] at blocks
        · have mem : other ∈ made refuse tree (path :: paths) ↔ other ∈ made refuse next paths := by
            rw [mem_made, mem_made, unblocked, first, List.mem_cons, node, if_neg same]
            simp [same]
          rw [node, if_neg same] at kept
          exact ⟨fun listed => added (mem.mp listed), fun old => kept fun listed => old (mem.mpr listed)⟩

omit [DecidableEq Name] [DecidableEq Content] in
/-- What is above something is a directory. -/
theorem above_dir (there : tree.node path ≠ none) (above : other <+: path) (differs : other ≠ path) :
    tree.node other = some .dir := by
  obtain ⟨rest, rfl⟩ := above
  induction rest using List.reverseRecOn with
  | nil => simp at differs
  | append_singleton rest name ih =>
    rw [← List.append_assoc] at there
    have parent := tree.closed _ _ there
    cases rest with
    | nil =>
      rw [List.append_nil] at parent
      exact parent
    | cons first rest =>
      apply ih
      · rw [parent]
        simp
      · simp

theorem createDirs_append (paths rest : List (List Name)) :
    (createDirs refuse (paths ++ rest) : Action (HostTree Name Content) String Unit) =
      (createDirs refuse paths >>= fun _ => createDirs refuse rest) := by
  induction paths with
  | nil => rfl
  | cons path paths ih =>
    rw [List.cons_append, createDirs, createDirs, ih, bind_assoc]

/-- Where all the directories are, nothing is done. -/
theorem createDirs_there (there : ∀ path ∈ paths, tree.node path = some .dir) :
    createDirs refuse paths tree = (.ok (), tree) := by
  induction paths with
  | nil => rfl
  | cons path paths ih =>
    obtain ⟨here, later⟩ := List.forall_mem_cons.mp there
    have first : createDir (refuse path) path tree = (.ok (), tree) := if_pos here
    exact (Action.bind_ok first).trans (ih later)

/-- Where all the directories have been made, they are there. -/
theorem createDirs_ok (climbs : Climbs known paths) (known_dirs : ∀ path, known path → tree.node path = some .dir)
    (ran : createDirs refuse paths tree = (.ok (), after)) : ∀ path ∈ paths, after.node path = some .dir := by
  obtain ⟨result, after', ran', success, node⟩ := createDirs_node refuse climbs known_dirs
  rw [ran] at ran'
  cases ran'
  have free := success.mp rfl
  intro path listed
  by_cases old : path ∈ made refuse tree paths
  · exact (node path).1 old
  · rw [(node path).2 old]
    cases here : tree.node path with
    | none =>
      have all : paths.takeWhile (fun path => !blocked refuse tree path) = paths :=
        List.takeWhile_eq_self_iff.mpr fun other listed => by simp [free other listed]
      exact absurd (mem_made.mpr ⟨by rwa [all], here⟩) old
    | some found =>
      cases found with
      | dir => rfl
      | file content =>
        have blocks := free path listed
        simp [blocked, here] at blocks

/-- Where nothing blocks, all the directories are there then, and nothing else has changed. -/
theorem createDirs_free (climbs : Climbs known paths) (known_dirs : ∀ path, known path → tree.node path = some .dir)
    (free : ∀ path ∈ paths, blocked refuse tree path = false) :
    ∃ after, createDirs refuse paths tree = (.ok (), after) ∧ (∀ path ∈ paths, after.node path = some .dir) ∧
      ∀ path, path ∉ paths → after.node path = tree.node path := by
  obtain ⟨result, after, ran, success, node⟩ := createDirs_node refuse climbs known_dirs
  obtain rfl := success.mpr free
  refine ⟨after, ran, createDirs_ok climbs known_dirs ran, ?_⟩
  intro path outside
  apply (node path).2
  intro made
  exact outside ((List.takeWhile_sublist _).subset (mem_made.mp made).1)

/-- Where something blocks, the call fails. -/
theorem createDirs_blocked (climbs : Climbs known paths)
    (known_dirs : ∀ path, known path → tree.node path = some .dir)
    (blocks : ¬ ∀ path ∈ paths, blocked refuse tree path = false) :
    ∃ error after, createDirs refuse paths tree = (.error error, after) ∧
      Adds tree after (made refuse tree paths) := by
  obtain ⟨result, after, ran, success, node⟩ := createDirs_node refuse climbs known_dirs
  cases result with
  | ok => exact absurd (success.mp rfl) blocks
  | error error => exact ⟨error, after, ran, node⟩

omit [DecidableEq Name] [DecidableEq Content] in
theorem root_known (tree : HostTree Name Content) : ∀ path, path = [] → tree.node path = some .dir := by
  rintro _ rfl
  exact tree.root

theorem writeFile_ok (content : Content) (writable : Writable tree path) :
    ∃ after, writeFile none none path content tree = (.ok (), after) ∧
      ∀ other, after.node other = if other = path then some (.file content) else tree.node other := by
  rw [writeFile, dif_pos (show tree.node path ≠ _ ∧ _ from writable)]
  exact ⟨_, rfl, node_insert⟩

/-- A file that is cut off while it is written stays as far as it was written. -/
theorem writeFile_cut (content part : Content) (error : String) (writable : Writable tree path) :
    ∃ after, writeFile none (some (part, error)) path content tree = (.error error, after) ∧
      ∀ other, after.node other = if other = path then some (.file part) else tree.node other := by
  rw [writeFile, dif_pos (show tree.node path ≠ _ ∧ _ from writable)]
  exact ⟨_, rfl, node_insert⟩

theorem writeFile_fails {opened : Option String} (cut : Option (Content × String)) (content : Content)
    (closed : ¬ (Writable tree path ∧ opened = none)) :
    ∃ error, writeFile opened cut path content tree = (.error error, tree) := by
  rw [writeFile]
  split
  · rename_i writable
    cases opened with
    | none => exact absurd ⟨writable, rfl⟩ closed
    | some error => exact ⟨error, rfl⟩
  · exact ⟨_, rfl⟩

/-- What is missing is made with all that is above it. -/
theorem createMissing_eq (refuse : List Name → Option String)
    (notFile : ∀ content, tree.node path ≠ some (.file content)) :
    createMissing refuse path tree = createDirAll refuse path tree := by
  rw [createMissing]
  split
  · rename_i there
    have dirs : ∀ other ∈ prefixes path, tree.node other = some .dir := by
      intro other listed
      obtain ⟨_, above⟩ := mem_prefixes.mp listed
      by_cases same : other = path
      · cases here : tree.node path with
        | none => simp [here] at there
        | some node =>
          cases node with
          | dir => rw [same, here]
          | file content => exact absurd here (notFile content)
      · apply above_dir _ above same
        intro missing
        simp [missing] at there
    exact (createDirs_there dirs).symm
  · rfl

theorem createMissing_file {content : Content} (file : tree.node path = some (.file content)) :
    createMissing refuse path tree = (.ok (), tree) := by
  rw [createMissing, file]
  rfl

/-- A directory need not be made before one below it is. -/
theorem createMissing_above (path rest : List Name) :
    (createMissing refuse path >>= fun _ => createDirAll refuse (path ++ rest) :
      Action (HostTree Name Content) String Unit) = createDirAll refuse (path ++ rest) := by
  funext tree
  by_cases file : ∃ content, tree.node path = some (.file content)
  · obtain ⟨content, file⟩ := file
    exact Action.bind_ok (createMissing_file file)
  · have notFile : ∀ content, tree.node path ≠ some (.file content) := fun content here => file ⟨content, here⟩
    rw [createDirAll, prefixes_append, createDirs_append]
    obtain ⟨result, after, ran, _, _⟩ := createDirs_node refuse (climbs_prefixes path)
      (root_known tree)
    have first := (createMissing_eq refuse notFile).trans ran
    cases result with
    | error error => rw [Action.bind_error first, Action.bind_error ran]
    | ok =>
      rw [Action.bind_ok first, Action.bind_ok ran]
      exact Action.bind_ok (createDirs_there (createDirs_ok (climbs_prefixes path) (root_known _) ran))

/-- Where a file is in the place of the last directory, all above it are there. -/
theorem createDirAll_file {content : Content} (refuse : List Name → Option String) (some_name : path ≠ [])
    (file : tree.node path = some (.file content)) :
    ∃ error, createDirAll refuse path tree = (.error error, tree) := by
  obtain ⟨before, name, rfl⟩ : ∃ before name, path = before ++ [name] :=
    ⟨_, _, (List.dropLast_append_getLast some_name).symm⟩
  have dirs : ∀ other ∈ prefixes before, tree.node other = some .dir := by
    intro other listed
    obtain ⟨_, above⟩ := mem_prefixes.mp listed
    have parent := tree.closed before name (by rw [file]; nofun)
    by_cases same : other = before
    · rw [same, parent]
    · exact above_dir (by rw [parent]; nofun) above same
  rw [createDirAll, prefixes_append, createDirs_append, Action.bind_ok (createDirs_there dirs)]
  apply Action.bind_fails
  have blocks : blocked refuse tree (before ++ [name]) = true := by simp [blocked, file]
  exact createDir_fails blocks

/-- A last directory that is only made where nothing is comes to the same, except that a
file in its place goes unnoticed. -/
theorem createMissing_last {result : Except String Unit} (some_name : path ≠ [])
    (ran : createDirs refuse (paths ++ prefixes path) tree = (result, after)) :
    ∃ outcome, (createDirs refuse paths >>= fun _ => createMissing refuse path) tree = (outcome, after) ∧
      (outcome = result ∨ outcome = .ok () ∧ ∃ content, after.node path = some (.file content)) := by
  rw [createDirs_append] at ran
  rcases first : createDirs refuse paths tree with ⟨error | value, next⟩
  · rw [Action.bind_error first] at ran
    cases ran
    exact ⟨_, Action.bind_error first, .inl rfl⟩
  · rw [Action.bind_ok first] at ran
    rw [Action.bind_ok first]
    by_cases file : ∃ content, next.node path = some (.file content)
    · obtain ⟨content, file⟩ := file
      obtain ⟨error, failed⟩ := createDirAll_file refuse some_name file
      have same : createDirs refuse (prefixes path) next = (.error error, next) := failed
      rw [same] at ran
      cases ran
      exact ⟨_, createMissing_file file, .inr ⟨rfl, content, file⟩⟩
    · refine ⟨result, ?_, .inl rfl⟩
      rw [createMissing_eq refuse fun content here => file ⟨content, here⟩]
      exact ran

end Dirs

end HostTree
end GuestComponents.Lib
