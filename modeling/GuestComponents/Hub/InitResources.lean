import GuestComponents.Lib.HostTree
import GuestComponents.Lib.Text
import Mathlib.Data.List.Perm.Basic

/-! The resources that the hub gets when it starts (`auth/kbs.rs`): each goes to a path of the
configuration, after all paths were checked. The check compares the beginning of a path as text, so
that directories beside the hub's pass it whose names begin like that of the hub's. -/
namespace GuestComponents.Hub.InitResources
open Lib

/-- A path from the root, by its names. -/
abbrev Names := List Text

abbrev GuestFiles := HostTree Text (List UInt8)

def KBS_RESOURCE_STORAGE_DIR : Text := "/run/confidential-containers/cdh".toList

/-- One more component of a path. -/
def enter (names : Names) (component : Text) : Names :=
  if component = [] ∨ component = ['.'] then names
  else if component = ['.', '.'] then names.dropLast
  else names ++ [component]

/-- The names of a path, its dot components resolved. -/
def resolvePath (path : Text) : Names := (path.splitOn '/').foldl enter []

/-- `is_path_valid`. -/
def isPathValid (path : Text) : Bool :=
  KBS_RESOURCE_STORAGE_DIR.isPrefixOf path && !(path.splitOn '/').any fun it => it = ['.', '.'] || it = ['.']

/-- The guest's files, and those that were opened to be written. -/
structure Machine where
  tree : GuestFiles
  written : List Names

/-- What the KBS and the file system answer. -/
structure InitAnswers where
  newClient : Except String Unit
  getSecret : Text → Except String (List UInt8)
  mkdir : Names → Option String
  openFile : Names → Option String
  cut : Names → Option (List UInt8 × String)

section Calls

variable (answers : InitAnswers)

/-- `fs::create_dir_all`, which takes no NUL in a name. -/
def createDirAll (path : Names) : Action Machine String Unit :=
  if path.any (·.contains '\x00') then Action.fail "file name contained an unexpected NUL byte"
  else Action.zoom Machine.tree (fun machine tree => { machine with tree := tree })
    (HostTree.createDirAll answers.mkdir path)

/-- The file is opened by `fs::write`. -/
def opens (path : Names) (tree : GuestFiles) : Bool :=
  decide (tree.node path ≠ some .dir) && decide (tree.node path.dropLast = some .dir) && (answers.openFile path).isNone

/-- `fs::write`, which takes no NUL, and no file for a path that ends with a slash. -/
def write (path : Text) (content : List UInt8) : Action Machine String Unit := fun machine =>
  let names := resolvePath path
  if path.contains '\x00' then (.error "file name contained an unexpected NUL byte", machine)
  else if path.getLast? = some '/' then (.error "Is a directory", machine)
  else
    let ran := HostTree.writeFile (answers.openFile names) (answers.cut names) names content machine.tree
    (ran.1, ⟨ran.2, if opens answers names machine.tree then names :: machine.written else machine.written⟩)

/-- The directories above a path, if it has a parent. -/
def createParent (path : Names) : Action Machine String Unit :=
  if path = [] then pure ()
  else Action.mapError (s!"create dir failed: {·}") (createDirAll answers path.dropLast)

/-- What is done for one credential. -/
def putResource (path uri : Text) : Action Machine String Unit := do
  let content ← Action.ofExcept ((answers.getSecret uri).mapError (s!"kbs client get resource failed: {·}"))
  createParent answers (resolvePath path)
  Action.mapError (s!"write kbs initialization file failed: {·}") (write answers path content)

def putResources : List (Text × Text) → Action Machine String Unit
  | [] => pure ()
  | (path, uri) :: rest => do
    putResource answers path uri
    putResources rest

/-- The hub's directory. -/
def createStorage : Action Machine String Unit :=
  Action.mapError (s!"Create {String.ofList KBS_RESOURCE_STORAGE_DIR} dir failed {·}.")
    (createDirAll answers (resolvePath KBS_RESOURCE_STORAGE_DIR))

/-- `Hub::init_kbs_resources`, on the credentials in the order in which their map is walked. -/
def initKbsResources (credentials : List (Text × Text)) : Action Machine String Unit := do
  match credentials.find? fun credential => !isPathValid credential.1 with
  | some (k, _) => Action.fail s!"illegal path to put credential : {String.ofList k}"
  | none =>
    Action.ofExcept (answers.newClient.mapError (s!"kbs client creation failed: {·}"))
    createStorage answers
    putResources answers credentials

end Calls

def storageDir : Names := resolvePath KBS_RESOURCE_STORAGE_DIR

/-- The path lies in the hub's directory. -/
def InStorageDir (path : Text) : Prop :=
  path.head? = some '/' ∧ storageDir <+: resolvePath path ∧ resolvePath path ≠ storageDir

/-- No file can be at the path: it contains a NUL, ends with a slash, or is the hub's directory or one above it. -/
def NoFile (path : Text) : Prop :=
  path.contains '\x00' = true ∨ path.getLast? = some '/' ∨ resolvePath path <+: storageDir

/-- Whatever the order of the map, the KBS and the file system: what is written lies in the hub's directory, and
nothing is written if a path lies outside. -/
structure Confined (credentials : List (Text × Text)) : Prop where
  inside : ∀ order, order.Perm credentials → ∀ answers machine, machine.written = [] →
    ∀ path ∈ (initKbsResources answers order machine).2.written, storageDir <+: path ∧ path ≠ storageDir
  refused : ∀ order, order.Perm credentials → ∀ answers machine, machine.written = [] →
    (∃ credential ∈ credentials, ¬ InStorageDir credential.1) →
    (∃ error, (initKbsResources answers order machine).1 = .error error) ∧
      (initKbsResources answers order machine).2.written = []

section Paths

variable {path rest : Text} {name : Text} {names : Names}

theorem mem_of_mem_splitOn {c : Char} (listed : name ∈ path.splitOn '/') (inside : c ∈ name) : c ∈ path := by
  induction path generalizing name with
  | nil =>
    cases List.mem_singleton.mp listed
    cases inside
  | cons x path ih =>
    rw [List.splitOn_cons_eq_if_modifyHead] at listed
    split at listed
    · rcases List.mem_cons.mp listed with rfl | later
      · cases inside
      · exact .tail _ (ih later inside)
    · obtain ⟨first, others, parts⟩ := List.exists_cons_of_ne_nil (List.splitOn_ne_nil '/' path)
      rw [parts] at listed
      rcases List.mem_cons.mp listed with rfl | later
      · rcases List.mem_cons.mp inside with rfl | inside
        · exact .head _
        · exact .tail _ (ih (parts ▸ List.mem_cons_self) inside)
      · exact .tail _ (ih (parts ▸ List.mem_cons_of_mem _ later) inside)

/-- What stands before the first slash goes to the first component. -/
theorem splitOn_append {first : Text} (absent : '/' ∉ first) (rest : Text) :
    (first ++ rest).splitOn '/' = (rest.splitOn '/').modifyHead (first ++ ·) := by
  induction first with
  | nil =>
    obtain ⟨part, others, parts⟩ := List.exists_cons_of_ne_nil (List.splitOn_ne_nil '/' rest)
    rw [List.nil_append, parts]
    rfl
  | cons c first ih =>
    rw [List.mem_cons, not_or] at absent
    obtain ⟨part, others, parts⟩ := List.exists_cons_of_ne_nil (List.splitOn_ne_nil '/' rest)
    rw [List.cons_append, List.splitOn_cons_eq_if_modifyHead, if_neg (by simpa using Ne.symm absent.1),
      ih absent.2, parts]
    rfl

theorem mem_foldl_enter {components : List Text} (listed : name ∈ components.foldl enter names) :
    name ∈ names ∨ name ∈ components := by
  induction components generalizing names with
  | nil => exact .inl listed
  | cons component components ih =>
    rcases ih listed with before | later
    · unfold enter at before
      split at before
      · exact .inl before
      · split at before
        · exact .inl (List.dropLast_subset _ before)
        · rcases List.mem_append.mp before with old | new
          · exact .inl old
          · exact .inr (List.mem_cons.mpr (.inl (List.mem_singleton.mp new)))
    · exact .inr (.tail _ later)

/-- The names of a path are made of its characters. -/
theorem mem_of_mem_resolvePath {c : Char} (listed : name ∈ resolvePath path) (inside : c ∈ name) : c ∈ path := by
  rcases mem_foldl_enter listed with impossible | component
  · cases impossible
  · exact mem_of_mem_splitOn component inside

/-- Without dot components the names of a path are its components that are not empty. -/
theorem resolvePath_of_clean (clean : (path.splitOn '/').any (fun it => it = ['.', '.'] || it = ['.']) = false) :
    resolvePath path = (path.splitOn '/').filter (· ≠ []) := by
  have from_ : ∀ components : List Text, components.any (fun it => it = ['.', '.'] || it = ['.']) = false →
      ∀ names, components.foldl enter names = names ++ components.filter (· ≠ []) := by
    intro components
    induction components with
    | nil => simp
    | cons component components ih =>
      intro clean names
      rw [List.any_cons, Bool.or_eq_false_iff] at clean
      rw [List.foldl_cons, ih clean.2]
      simp only [Bool.or_eq_false_iff, decide_eq_false_iff_not] at clean
      by_cases empty : component = []
      · simp [enter, empty]
      · simp [enter, empty, clean.1]
  exact from_ _ clean []

/-- What the check lets through: a name that begins like that of the directory, in the place of the directory. -/
theorem isPathValid_names (valid : isPathValid path = true) :
    ∃ beyond names,
      resolvePath path = ["run".toList, "confidential-containers".toList, "cdh".toList ++ beyond] ++ names := by
  rw [isPathValid, Bool.and_eq_true, Bool.not_eq_true'] at valid
  obtain ⟨begins, clean⟩ := valid
  obtain ⟨rest, rfl⟩ := List.isPrefixOf_iff_prefix.mp begins
  rw [resolvePath_of_clean clean]
  have split : (KBS_RESOURCE_STORAGE_DIR ++ rest).splitOn '/' =
      [] :: "run".toList :: "confidential-containers".toList :: (rest.splitOn '/').modifyHead ("cdh".toList ++ ·) := by
    have written : KBS_RESOURCE_STORAGE_DIR ++ rest =
        [] ++ '/' :: ("run".toList ++ '/' :: ("confidential-containers".toList ++ '/' :: ("cdh".toList ++ rest))) := rfl
    rw [written, List.splitOn_append_cons_self_of_not_mem List.not_mem_nil,
      List.splitOn_append_cons_self_of_not_mem (by decide), List.splitOn_append_cons_self_of_not_mem (by decide),
      splitOn_append (by decide)]
  obtain ⟨beyond, names, parts⟩ := List.exists_cons_of_ne_nil (List.splitOn_ne_nil '/' rest)
  rw [split, parts]
  exact ⟨beyond, names.filter (· ≠ []), by simp⟩

/-- A path that passes the check lies in the directory or beside it: it lies in it where its name
does not go on behind that of the directory, and there is more of the path. -/
theorem inStorageDir_of_valid (valid : isPathValid path = true) : ∃ beyond names,
    resolvePath path = ["run".toList, "confidential-containers".toList, "cdh".toList ++ beyond] ++ names ∧
      (InStorageDir path ↔ beyond = [] ∧ names ≠ []) := by
  obtain ⟨beyond, names, resolved⟩ := isPathValid_names valid
  have absolute : path.head? = some '/' := by
    rw [isPathValid, Bool.and_eq_true] at valid
    obtain ⟨rest, rfl⟩ := List.isPrefixOf_iff_prefix.mp valid.1
    rfl
  have directory : storageDir = ["run".toList, "confidential-containers".toList, "cdh".toList] := by rfl
  refine ⟨beyond, names, resolved, ?_⟩
  rw [InStorageDir, resolved, directory, and_iff_right absolute]
  constructor
  · rintro ⟨⟨rest, same⟩, differs⟩
    obtain ⟨names', tail⟩ := List.cons.inj (List.cons.inj (List.cons.inj same).2).2
    have none : beyond = [] := List.self_eq_append_right.mp names'
    subst none
    refine ⟨rfl, ?_⟩
    rintro rfl
    exact differs (by simp)
  · rintro ⟨rfl, more⟩
    refine ⟨⟨names, by simp⟩, fun same => more ?_⟩
    simpa using same

end Paths

section Runs

variable {answers : InitAnswers} {path uri : Text} {content : List UInt8} {credentials : List (Text × Text)}
  {machine : Machine} {names : Names}

/-- Making directories opens no file, and what is a directory stays one. -/
theorem createDirAll_keeps (answers : InitAnswers) (names : Names) (machine : Machine) :
    (createDirAll answers names machine).2.written = machine.written ∧
      ∀ other, machine.tree.node other = some .dir →
        (createDirAll answers names machine).2.tree.node other = some .dir := by
  rw [createDirAll]
  split
  · exact ⟨rfl, fun _ => id⟩
  · obtain ⟨result, after, ran, _, adds⟩ := HostTree.createDirs_node answers.mkdir (HostTree.climbs_prefixes names)
      (HostTree.root_known machine.tree)
    have lifted : Action.zoom Machine.tree (fun machine tree => { machine with tree := tree })
        (HostTree.createDirAll answers.mkdir names) machine = (result, { machine with tree := after }) :=
      Action.zoom_eq ran
    rw [lifted]
    refine ⟨rfl, fun other dir => ?_⟩
    by_cases made : other ∈ HostTree.made answers.mkdir machine.tree (HostTree.prefixes names)
    · exact (adds other).1 made
    · rw [← dir]
      exact (adds other).2 made

/-- Directories that were made are there, with those above them. -/
theorem createDirAll_ok {after : Machine} (ran : createDirAll answers names machine = (.ok (), after)) :
    ∀ other, other <+: names → after.tree.node other = some .dir := by
  unfold createDirAll at ran
  split at ran
  · cases ran
  · rcases made : HostTree.createDirAll answers.mkdir names machine.tree with ⟨result, tree⟩
    rw [Action.zoom_eq made] at ran
    cases ran
    intro other above
    by_cases root : other = []
    · rw [root]
      exact tree.root
    · exact HostTree.createDirs_ok (HostTree.climbs_prefixes names) (HostTree.root_known machine.tree) made other
        (HostTree.mem_prefixes.mpr ⟨root, above⟩)

theorem mapError_eq {change : String → String} {action : Action Machine String Unit} {result : Except String Unit}
    {after : Machine} (ran : action machine = (result, after)) :
    Action.mapError change action machine = (result.mapError change, after) := by
  rw [Action.mapError, ran]

theorem written_mapError {change : String → String} {action : Action Machine String Unit} :
    (Action.mapError change action machine).2 = (action machine).2 := rfl

/-- A credential fails before its file is written, or it is written over the directories that were made. -/
theorem putResource_cases (answers : InitAnswers) (path uri : Text) (machine : Machine) :
    ∃ before, before.written = machine.written ∧
      (∀ other, machine.tree.node other = some .dir → before.tree.node other = some .dir) ∧
      ((∃ error, putResource answers path uri machine = (.error error, before)) ∨
        ∃ content, putResource answers path uri machine =
          Action.mapError (s!"write kbs initialization file failed: {·}") (write answers path content) before) := by
  unfold putResource
  cases answers.getSecret uri with
  | error error => exact ⟨machine, rfl, fun _ => id, .inl ⟨_, Action.bind_error rfl⟩⟩
  | ok content =>
    have keeps : (createParent answers (resolvePath path) machine).2.written = machine.written ∧
        ∀ other, machine.tree.node other = some .dir →
          (createParent answers (resolvePath path) machine).2.tree.node other = some .dir := by
      rw [createParent]
      split
      · exact ⟨rfl, fun _ => id⟩
      · exact createDirAll_keeps answers _ machine
    rcases made : createParent answers (resolvePath path) machine with ⟨error | value, before⟩
    · rw [made] at keeps
      exact ⟨before, keeps.1, keeps.2, .inl ⟨error, (Action.bind_ok rfl).trans (Action.bind_error made)⟩⟩
    · rw [made] at keeps
      exact ⟨before, keeps.1, keeps.2, .inr ⟨content, (Action.bind_ok rfl).trans (Action.bind_ok made)⟩⟩

/-- A call of `write` opens no file but its own. -/
theorem written_write :
    (write answers path content machine).2.written = machine.written ∨
      (write answers path content machine).2.written = resolvePath path :: machine.written := by
  unfold write
  split
  · exact .inl rfl
  · split
    · exact .inl rfl
    · dsimp only
      split
      · exact .inr rfl
      · exact .inl rfl

theorem written_putResource (answers : InitAnswers) (path uri : Text) (machine : Machine) :
    (putResource answers path uri machine).2.written = machine.written ∨
      (putResource answers path uri machine).2.written = resolvePath path :: machine.written := by
  obtain ⟨before, same, _, ⟨error, failed⟩ | ⟨content, ran⟩⟩ := putResource_cases answers path uri machine
  · rw [failed]
    exact .inl same
  · rw [ran, ← same]
    exact written_write

/-- What is written is written for the credentials, and what was written before stays so. -/
theorem written_putResources (answers : InitAnswers) (credentials : List (Text × Text)) (machine : Machine) :
    (∀ names ∈ (putResources answers credentials machine).2.written,
        names ∈ machine.written ∨ ∃ credential ∈ credentials, names = resolvePath credential.1) ∧
      ∀ names ∈ machine.written, names ∈ (putResources answers credentials machine).2.written := by
  induction credentials generalizing machine with
  | nil => exact ⟨fun _ => .inl, fun _ => id⟩
  | cons credential credentials ih =>
    obtain ⟨path, uri⟩ := credential
    have one := written_putResource answers path uri machine
    have grows : ∀ names ∈ machine.written, names ∈ (putResource answers path uri machine).2.written := by
      intro names listed
      rcases one with same | more
      · rwa [same]
      · rw [more]
        exact .tail _ listed
    have own : ∀ names ∈ (putResource answers path uri machine).2.written,
        names ∈ machine.written ∨ ∃ credential ∈ (path, uri) :: credentials,
          names = resolvePath credential.1 := by
      intro names listed
      rcases one with same | more
      · rw [same] at listed
        exact .inl listed
      · rw [more] at listed
        rcases List.mem_cons.mp listed with rfl | before
        · exact .inr ⟨(path, uri), .head _, rfl⟩
        · exact .inl before
    rcases ran : putResource answers path uri machine with ⟨error | value, next⟩
    · rw [ran] at grows own
      rw [putResources, Action.bind_error ran]
      exact ⟨own, grows⟩
    · rw [ran] at grows own
      rw [putResources, Action.bind_ok ran]
      obtain ⟨later, kept⟩ := ih next
      refine ⟨fun names listed => ?_, fun names listed => kept names (grows names listed)⟩
      rcases later names listed with before | ⟨other, listed, same⟩
      · exact own names before
      · exact .inr ⟨other, .tail _ listed, same⟩

/-- The hub's directory is there. -/
def HasStorage (machine : Machine) : Prop := ∀ names, names <+: storageDir → machine.tree.node names = some .dir

theorem write_noFile (noFile : NoFile path) (there : HasStorage machine) :
    ∃ error after, write answers path content machine = (.error error, after) ∧ after.written = machine.written := by
  unfold write
  split
  · exact ⟨_, machine, rfl, rfl⟩
  · rename_i clean
    split
    · exact ⟨_, machine, rfl, rfl⟩
    · rename_i name
      rcases noFile with nul | slash | above
      · exact absurd nul clean
      · exact absurd slash name
      · have dir := there _ above
        obtain ⟨error, failed⟩ := HostTree.writeFile_fails (answers.cut (resolvePath path)) content
          (fun ⟨writable, _⟩ => writable.1 dir : ¬ (HostTree.Writable machine.tree (resolvePath path) ∧
            answers.openFile (resolvePath path) = none))
        dsimp only
        rw [failed]
        refine ⟨error, _, rfl, if_neg ?_⟩
        simp [opens, dir]

/-- Where no file can be at the path of the first credential, the loop fails and writes nothing. -/
theorem putResources_noFile {credential : Text × Text} (noFile : NoFile credential.1) (there : HasStorage machine) :
    ∃ error after, putResources answers (credential :: credentials) machine = (.error error, after) ∧
      after.written = machine.written := by
  obtain ⟨path, uri⟩ := credential
  obtain ⟨before, same, kept, ⟨error, failed⟩ | ⟨content, ran⟩⟩ := putResource_cases answers path uri machine
  · exact ⟨error, before, Action.bind_error failed, same⟩
  · obtain ⟨error, after, failed, unwritten⟩ := @write_noFile answers path content before noFile
      fun names above => kept names (there names above)
    exact ⟨_, after, Action.bind_error (ran.trans (mapError_eq failed)), unwritten.trans same⟩

/-- After the checks: a failure that writes nothing, or the loop over a machine with the hub's directory. -/
theorem init_cases (answers : InitAnswers) (machine : Machine)
    (valid : ∀ credential ∈ credentials, isPathValid credential.1 = true) :
    (∃ error after, initKbsResources answers credentials machine = (.error error, after) ∧
        after.written = machine.written) ∨
      ∃ next, HasStorage next ∧ next.written = machine.written ∧
        initKbsResources answers credentials machine = putResources answers credentials next := by
  have unfound : credentials.find? (fun credential => !isPathValid credential.1) = none :=
    List.find?_eq_none.mpr fun credential listed => by simp [valid credential listed]
  unfold initKbsResources
  rw [unfound]
  dsimp only
  cases answers.newClient with
  | error error => exact .inl ⟨_, machine, Action.bind_error rfl, rfl⟩
  | ok =>
    have keeps := createDirAll_keeps answers (resolvePath KBS_RESOURCE_STORAGE_DIR) machine
    rcases made : createDirAll answers (resolvePath KBS_RESOURCE_STORAGE_DIR) machine with ⟨error | value, next⟩
    · rw [made] at keeps
      exact .inl ⟨_, next, (Action.bind_ok rfl).trans (Action.bind_error (mapError_eq made)), keeps.1⟩
    · rw [made] at keeps
      exact .inr ⟨next, createDirAll_ok made, keeps.1,
        (Action.bind_ok rfl).trans (Action.bind_ok (mapError_eq made))⟩

/-- A path that the check refuses ends the call at once. -/
theorem init_invalid (answers : InitAnswers) (machine : Machine)
    (invalid : ∃ credential ∈ credentials, isPathValid credential.1 = false) :
    ∃ error, initKbsResources answers credentials machine = (.error error, machine) := by
  unfold initKbsResources
  cases found : credentials.find? fun credential => !isPathValid credential.1 with
  | none =>
    obtain ⟨credential, listed, refused⟩ := invalid
    have valid := List.find?_eq_none.mp found credential listed
    simp [refused] at valid
  | some credential => exact ⟨_, rfl⟩

/-- The KBS answers every question, and the file system every call. -/
def smooth : InitAnswers := ⟨.ok (), fun _ => .ok [], fun _ => none, fun _ => none, fun _ => none⟩

def FileFree (machine : Machine) : Prop := ∀ names content, machine.tree.node names ≠ some (.file content)

/-- Among directories alone all others can be made. -/
theorem createDirAll_smooth (free : FileFree machine) (clean : names.any (·.contains '\x00') = false) :
    ∃ after, createDirAll smooth names machine = (.ok (), after) ∧ FileFree after ∧
      ∀ other, after.tree.node other =
        if other <+: names then some .dir else machine.tree.node other := by
  have unblocked : ∀ path ∈ HostTree.prefixes names, HostTree.blocked smooth.mkdir machine.tree path = false := by
    intro path _
    rw [HostTree.blocked]
    cases here : machine.tree.node path with
    | none => rfl
    | some node =>
      cases node with
      | dir => rfl
      | file content => exact absurd here (free path content)
  obtain ⟨after, ran, dirs, others⟩ := HostTree.createDirs_free (HostTree.climbs_prefixes names)
    (HostTree.root_known machine.tree) unblocked
  have node : ∀ other, after.node other = if other <+: names then some .dir else machine.tree.node other := by
    intro other
    by_cases root : other = []
    · rw [root, after.root, if_pos List.nil_prefix]
    · split
      · rename_i above
        exact dirs other (HostTree.mem_prefixes.mpr ⟨root, above⟩)
      · rename_i beside
        exact others other fun listed => beside (HostTree.mem_prefixes.mp listed).2
  refine ⟨{ machine with tree := after }, ?_, ?_, node⟩
  · rw [createDirAll, if_neg (Bool.eq_false_iff.mp clean)]
    exact Action.zoom_eq ran
  · intro other content there
    rw [show _ = _ from node other] at there
    split at there
    · cases there
    · exact free other content there

/-- A file that can be is written, where it comes first. -/
theorem putResource_smooth (free : FileFree machine) (file : ¬ NoFile path)
    (above : ∀ other, machine.tree.node other = some .dir → other <+: storageDir) :
    resolvePath path ∈ (putResource smooth path uri machine).2.written := by
  simp only [NoFile, not_or] at file
  obtain ⟨nul, slash, beside⟩ := file
  have some_name : resolvePath path ≠ [] := by
    intro none
    rw [none] at beside
    exact beside List.nil_prefix
  have clean : (resolvePath path).dropLast.any (·.contains '\x00') = false := by
    rw [List.any_eq_false]
    intro name listed inside
    refine nul (List.contains_iff_mem.mpr ?_)
    exact mem_of_mem_resolvePath (List.dropLast_subset _ listed) (List.contains_iff_mem.mp inside)
  obtain ⟨before, made, free', node⟩ := createDirAll_smooth free clean
  have parent : createParent smooth (resolvePath path) machine = (.ok (), before) := by
    rw [createParent, if_neg some_name]
    exact mapError_eq made
  have ran : putResource smooth path uri machine =
      Action.mapError (s!"write kbs initialization file failed: {·}") (write smooth path []) before :=
    (Action.bind_ok rfl).trans (Action.bind_ok parent)
  have longer : ¬ resolvePath path <+: (resolvePath path).dropLast := by
    intro shorter
    have lengths := shorter.length_le
    rw [List.length_dropLast] at lengths
    have positive := List.length_pos_of_ne_nil some_name
    omega
  have here : before.tree.node (resolvePath path) ≠ some .dir := by
    rw [node, if_neg longer]
    exact fun dir => beside (above _ dir)
  have there : before.tree.node (resolvePath path).dropLast = some .dir := by
    rw [node, if_pos List.prefix_rfl]
  have opened : opens smooth (resolvePath path) before.tree = true := by
    simp only [opens, here, there, ne_eq, not_false_iff, decide_true, Bool.true_and, smooth, Option.isNone_none]
  rw [ran, written_mapError]
  unfold write
  rw [if_neg nul, if_neg slash]
  dsimp only
  rw [if_pos opened]
  exact .head _

/-- On a machine with nothing on it the loop is reached. -/
theorem init_smooth (valid : ∀ credential ∈ credentials, isPathValid credential.1 = true) :
    ∃ next, FileFree next ∧ (∀ other, next.tree.node other = some .dir → other <+: storageDir) ∧
      initKbsResources smooth credentials ⟨.empty, []⟩ = putResources smooth credentials next := by
  have unfound : credentials.find? (fun credential => !isPathValid credential.1) = none :=
    List.find?_eq_none.mpr fun credential listed => by simp [valid credential listed]
  have free : FileFree ⟨.empty, []⟩ := by
    intro names content there
    rw [HostTree.empty] at there
    dsimp only at there
    split at there <;> cases there
  obtain ⟨next, made, free', node⟩ :=
    createDirAll_smooth free (show storageDir.any (·.contains '\x00') = false from rfl)
  refine ⟨next, free', fun other dir => ?_, ?_⟩
  · rw [node] at dir
    split at dir
    · rename_i above
      exact above
    · rw [HostTree.empty] at dir
      dsimp only at dir
      split at dir
      · rename_i root
        rw [root]
        exact List.nil_prefix
      · cases dir
  · unfold initKbsResources
    rw [unfound]
    exact (Action.bind_ok rfl).trans (Action.bind_ok (mapError_eq made))

/-- Nothing is written outside the hub's directory, and nothing at all if a path lies outside of it, exactly
where the check refuses a path, or all paths lie in the directory, or no file can be at any of them. -/
theorem confined_iff (credentials : List (Text × Text)) : Confined credentials ↔
    (∃ credential ∈ credentials, isPathValid credential.1 = false) ∨
      (∀ credential ∈ credentials, InStorageDir credential.1) ∨ ∀ credential ∈ credentials,
        NoFile credential.1 := by
  constructor
  · intro confined
    by_contra fails
    simp only [not_or, not_exists, not_and, Bool.not_eq_false, not_forall] at fails
    obtain ⟨valid, ⟨outside, listed, out⟩, ⟨first, own, file⟩⟩ := fails
    -- The map may be walked with the path first at which a file can be.
    have order := (List.perm_cons_erase own).symm
    obtain ⟨next, free, above, ran⟩ := init_smooth fun credential listed =>
      valid credential (order.mem_iff.mp listed)
    have unwritten := (confined.refused _ order smooth ⟨.empty, []⟩ rfl ⟨outside, listed, out⟩).2
    have written : resolvePath first.1 ∈ (putResources smooth (first :: credentials.erase first) next).2.written := by
      have one := @putResource_smooth first.1 first.2 next free file above
      rcases put : putResource smooth first.1 first.2 next with ⟨error | value, after⟩
      · rw [put] at one
        rw [putResources, Action.bind_error put]
        exact one
      · rw [put] at one
        rw [putResources, Action.bind_ok put]
        exact (written_putResources smooth _ after).2 _ one
    rw [ran] at unwritten
    rw [unwritten] at written
    cases written
  · intro condition
    by_cases invalid : ∃ credential ∈ credentials, isPathValid credential.1 = false
    · have fails : ∀ order, order.Perm credentials → ∀ answers machine,
          ∃ error, initKbsResources answers order machine = (.error error, machine) := by
        intro order permuted answers machine
        obtain ⟨credential, listed, refused⟩ := invalid
        exact init_invalid answers machine ⟨credential, permuted.mem_iff.mpr listed, refused⟩
      refine ⟨fun order permuted answers machine clean path written => ?_,
        fun order permuted answers machine clean _ => ?_⟩
      · obtain ⟨error, failed⟩ := fails order permuted answers machine
        rw [failed, clean] at written
        cases written
      · obtain ⟨error, failed⟩ := fails order permuted answers machine
        rw [failed]
        exact ⟨⟨error, rfl⟩, clean⟩
    · have valid : ∀ order : List (Text × Text), order.Perm credentials → ∀ credential ∈ order,
          isPathValid credential.1 = true := by
        intro order permuted credential listed
        by_contra refused
        exact invalid ⟨credential, permuted.mem_iff.mp listed, Bool.not_eq_true _ ▸ refused⟩
      have own : ∀ order, order.Perm credentials → ∀ answers machine, machine.written = [] →
          ∀ path ∈ (initKbsResources answers order machine).2.written, ∃ credential ∈ credentials,
            path = resolvePath credential.1 := by
        intro order permuted answers machine clean path written
        rcases init_cases answers machine (valid order permuted) with
          ⟨error, after, failed, same⟩ | ⟨next, _, same, ran⟩
        · rw [failed, same, clean] at written
          cases written
        · rw [ran] at written
          rcases (written_putResources answers order next).1 path written with before | ⟨credential, listed, rfl⟩
          · rw [same, clean] at before
            cases before
          · exact ⟨credential, permuted.mem_iff.mp listed, rfl⟩
      rcases condition with refused | inside | noFile
      · exact absurd refused invalid
      · refine ⟨fun order permuted answers machine clean path written => ?_,
          fun order permuted answers machine clean ⟨credential, listed, out⟩ =>
            absurd (inside credential listed) out⟩
        obtain ⟨credential, listed, rfl⟩ := own order permuted answers machine clean path written
        exact (inside credential listed).2
      · have unwritten : ∀ order, order.Perm credentials → ∀ answers machine, machine.written = [] →
            (initKbsResources answers order machine).2.written = [] ∧
              (order ≠ [] → ∃ error, (initKbsResources answers order machine).1 = .error error) := by
          intro order permuted answers machine clean
          rcases init_cases answers machine (valid order permuted) with
            ⟨error, after, failed, same⟩ | ⟨next, there, same, ran⟩
          · rw [failed]
            exact ⟨same.trans clean, fun _ => ⟨error, rfl⟩⟩
          · cases order with
            | nil =>
              rw [ran]
              exact ⟨same.trans clean, fun some => absurd rfl some⟩
            | cons credential rest =>
              have first := noFile credential (permuted.mem_iff.mp (.head _))
              obtain ⟨error, after, failed, kept⟩ := @putResources_noFile answers rest next credential first there
              rw [ran, failed]
              exact ⟨kept.trans (same.trans clean), fun _ => ⟨error, rfl⟩⟩
        refine ⟨fun order permuted answers machine clean path written => ?_,
          fun order permuted answers machine clean ⟨credential, listed, _⟩ => ?_⟩
        · rw [(unwritten order permuted answers machine clean).1] at written
          cases written
        · obtain ⟨none, fails⟩ := unwritten order permuted answers machine clean
          exact ⟨fails (List.ne_nil_of_mem (permuted.mem_iff.mpr listed)), none⟩

end Runs

/-- A path beside the hub's directory, whose name goes on behind that of the directory. -/
def besideStorage : Text := "/run/confidential-containers/cdh-other/file".toList

/-- A file is written beside the hub's directory. -/
theorem sibling_written : (initKbsResources smooth [(besideStorage, "kbs:///a/b/c".toList)] ⟨.empty, []⟩).2.written =
      [["run".toList, "confidential-containers".toList, "cdh-other".toList, "file".toList]] ∧
    ¬ Confined [(besideStorage, "kbs:///a/b/c".toList)] := by
  have written : (initKbsResources smooth [(besideStorage, "kbs:///a/b/c".toList)] ⟨.empty, []⟩).2.written =
      [["run".toList, "confidential-containers".toList, "cdh-other".toList, "file".toList]] := by
    decide +kernel
  refine ⟨written, fun confined => ?_⟩
  have inside := (confined.inside _ (.refl _) smooth ⟨.empty, []⟩ rfl _ (by rw [written]; exact .head _)).1
  exact absurd inside (by decide)

end GuestComponents.Hub.InitResources
