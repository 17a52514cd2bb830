import GuestComponents.Image.FileEffects

/-! Where the unpacking of a layer creates and changes files. In every run in which no entry leads
out of the layer's directory when it is come to, everything that is created or changed is in that
directory (`unpack_confined`); and a path that does not lead above the directory leaves it only
through a symbolic link (`inside_of_within`). -/
namespace GuestComponents.Image.Unpack
open Lib Lib.Text

section Condition

variable (cwd directory : List Text)

/-- Where the path leads to something of this kind, it leads into the directory. -/
def Files.Inside (files : Files) (follow : Bool) (path : Text) (kind : Option (LinkedTree.Node Text) → Prop) : Prop :=
  ∀ place, files.leads cwd follow path = some place → kind (files place) → directory <+: place

/-- What is done at the entry's place is done in the directory. -/
def TarEntry.Inside (attrAvailable : Bool) (destination : Text) (entry : TarEntry) (files : Files) : Prop :=
  let place := entry.place attrAvailable destination
  if attrAvailable && isWhiteout entry.name then
    if entry.name = whiteoutOpaqueDir then files.Inside cwd directory false place (· ≠ none)
    else files.Inside cwd directory false place (· = none)
  else if entry.isDirectory then
    files.Inside cwd directory false place (· ≠ none) ∧
      (entry.mode.isSome → files.Inside cwd directory true place (· ≠ none))
  else files.Inside cwd directory true place (· = some .file)

/-- The times of directories are set one after the other, up to one that is not there. -/
def TimesInside (files : Files) : List (Sigma fun _ : Text => Int64) → Prop
  | [] => True
  | ⟨path, _⟩ :: rest =>
    files.Inside cwd directory true path (· ≠ none) ∧
      ((∃ place, files.leads cwd true path = some place ∧ files place ≠ none) → TimesInside files rest)

variable (env : Machine → FileOp → Choice) (order : HashOrder) (attrAvailable : Bool) (destination : Text)

/-- The entry is inside as the files are when the code itself acts for it: a whiteout when it is
come to, any other when the archive crate has unpacked it. -/
def TarEntry.StaysInside (entry : TarEntry) (machine : Machine) : Prop :=
  entry.acts attrAvailable destination = true →
    if attrAvailable && isWhiteout entry.name then
      entry.Inside cwd directory attrAvailable destination machine.files
    else ∀ after, (system cwd).alone 0 env (call (.unpackIn entry.path attrAvailable) destination).run machine =
      (.ok (), after) → entry.Inside cwd directory attrAvailable destination after.files

/-- All entries that are come to stay inside, and at the end the directories do whose times are set. -/
def EntriesInside : Dirs → List (Except String TarEntry) → Machine → Prop
  | dirs, [], machine => TimesInside cwd directory machine.files (order.walk dirs.entries)
  | _, .error _ :: _, _ => True
  | dirs, .ok entry :: rest, machine =>
    entry.StaysInside cwd directory env attrAvailable destination machine ∧
      ∀ dirs' after, (system cwd).alone 0 env (unpackEntry attrAvailable destination dirs entry).run machine =
        (.ok dirs', after) → EntriesInside dirs' rest after

/-- Without what is at the destination already, its path leads to the directory, in one that is
there; and the entries stay inside from when the destination is ready. -/
structure Confined (entries : List (Except String TarEntry)) (machine : Machine) : Prop where
  made : Files.leads (machine.files.without directory) cwd false destination = some directory
  stays : ∀ removed, (system cwd).alone 0 env (removeOld destination).run machine = (.ok (), removed) →
    ∀ created, (system cwd).alone 0 env (call .createDirAll destination).run removed = (.ok (), created) →
    ∀ attrAvailable ready,
      (system cwd).alone 0 env (isAttrAvailable destination).run created = (.ok attrAvailable, ready) →
    EntriesInside cwd directory env order attrAvailable destination ∅ entries ready

end Condition

section Run

variable {cwd directory : List Text} {base files : Files} {env : Machine → FileOp → Choice} {order : HashOrder}
  {attrAvailable : Bool} {destination path : Text} {entry : TarEntry} {uid gid : UInt32} {mode : Option UInt32}
  {touched : List (List Text)} {op : FileOp} {α : Type}

/-- The directory is where it was made, and what was touched is in it. -/
structure Kept (directory : List Text) (base files : Files) (touched : List (List Text)) : Prop where
  within : (base.insert directory .directory).Within files
  inside : ∀ place ∈ touched, directory <+: place

theorem Kept.touch (kept : Kept directory base files touched) {place : List Text} (inside : directory <+: place) :
    Kept directory base files (touched ++ [place]) where
  within := kept.within
  inside := List.forall_mem_append.mpr ⟨kept.inside, List.forall_mem_singleton.mpr inside⟩

theorem Kept.create (kept : Kept directory base files touched) {place : List Text} {node : LinkedTree.Node Text}
    (free : files place = none) (inside : directory <+: place) :
    Kept directory base (files.insert place node) (touched ++ [place]) where
  within := kept.within.trans (LinkedTree.within_insert free)
  inside := (kept.touch inside).inside

/-- The archive crate leaves everything but what is in the directory. -/
theorem Kept.unpackIn (kept : Kept directory base files touched)
    (bare : ∀ place, directory <+: place → base place = none) (done : Unpacked files directory) :
    Kept directory base done.after (touched ++ done.touched) where
  within place node found := by
    have before := kept.within place node found
    by_cases same : place = directory
    · exact (done.beside place (.inr same)).trans before
    · refine (done.beside place (.inl fun below => ?_)).trans before
      rw [LinkedTree.insert, if_neg same, bare place below] at found
      cases found
  inside := List.forall_mem_append.mpr ⟨kept.inside, done.inside⟩

/-- The destination is found where it was made. -/
theorem Kept.made (kept : Kept directory base files touched)
    (leads : base.leads cwd false destination = some directory) (free : base directory = none) :
    files directory = some .directory ∧ files.leads cwd false destination = some directory ∧
      files.leads cwd true destination = some directory := by
  have isDir : files directory = some .directory := kept.within directory _ (if_pos rfl)
  have leads := leads_mono ((LinkedTree.within_insert free).trans kept.within) leads
  refine ⟨isDir, leads, leads_follow leads fun absolute target => ?_⟩
  rw [isDir]
  intro impossible
  cases impossible

/-- With these files, the operation leaves them and touches nothing outside. -/
def Touches (cwd directory : List Text) (files : Files) (op : FileOp) : Prop :=
  ∀ choice machine, machine.files = files → (∀ place ∈ machine.touched, directory <+: place) →
    (attempt cwd op choice machine).2.files = files ∧
      ∀ place ∈ (attempt cwd op choice machine).2.touched, directory <+: place

theorem touches_of_onFile {follow : Bool}
    (is : ∀ choice machine, act cwd op choice machine =
      machine.onFile cwd follow op.path fun place _ => (.ok (), machine.touch place))
    (inside : files.Inside cwd directory follow op.path (· ≠ none)) : Touches cwd directory files op := by
  intro choice machine same before
  rcases attempt_cases op choice machine with acted | ⟨error, refused⟩
  · rw [acted, is]
    rcases onFile_cases cwd op.path machine follow (fun place _ => (.ok (), machine.touch place)) with
      ⟨_, error, failed⟩ | ⟨place, node, leads, found, ran⟩
    · rw [failed]
      exact ⟨same, before⟩
    · rw [ran]
      subst same
      have below := inside place leads (by simp [found])
      exact ⟨rfl, List.forall_mem_append.mpr ⟨before, List.forall_mem_singleton.mpr below⟩⟩
  · rw [refused]
    exact ⟨same, before⟩

theorem touches_openFile : Touches cwd directory files ⟨.openFile false, path⟩ := by
  intro choice machine same before
  have is : (attempt cwd ⟨.openFile false, path⟩ choice machine).2 = machine := by
    rcases attempt_cases ⟨.openFile false, path⟩ choice machine with acted | ⟨error, refused⟩
    · rw [acted]
      rcases onFile_cases cwd path machine true (fun _ node =>
        (if false && node ≠ .file then .error "Is a directory" else .ok (), machine)) with
        ⟨_, error, failed⟩ | ⟨place, node, leads, found, opened⟩
      · exact congrArg Prod.snd failed
      · exact congrArg Prod.snd opened
    · rw [refused]
  rw [is]
  exact ⟨same, before⟩

/-- The layer's directory is kept, with these files. -/
def At (directory : List Text) (base files : Files) (machine : Machine) : Prop :=
  Kept directory base machine.files machine.touched ∧ machine.files = files

theorem ends_touches {program : Prog α} (only : Program.Only (Touches cwd directory files) program.run) :
    (system cwd).Ends 0 env (At directory base files) program.run fun _ => At directory base files := by
  refine Service.Ends.only only ?_
  rintro op machine touches ⟨kept, same⟩
  obtain ⟨after, inside⟩ := touches (env machine op) machine same kept.inside
  refine ⟨⟨?_, inside⟩, after⟩
  have within := kept.within
  rw [same, ← after] at within
  exact within

theorem touches_setPermsOwnerships {chown : ChownType} {follow : Bool}
    (follows : follow = match chown with | .fChown => true | .lChown => false)
    (owner : files.Inside cwd directory follow path (· ≠ none))
    (perms : mode.isSome → files.Inside cwd directory true path (· ≠ none)) :
    Program.Only (Touches cwd directory files) (setPermsOwnerships path chown uid gid mode).run := by
  subst follows
  have chmods (mode' : UInt32) (given : mode = some mode') :
      Touches cwd directory files ⟨.setPermissions mode', path⟩ :=
    touches_of_onFile (fun _ _ => rfl) (perms (by simp [given]))
  unfold setPermsOwnerships
  cases chown with
  | lChown =>
    refine Fallible.only_bind.mpr ⟨only_call.mpr (touches_of_onFile (fun _ _ => rfl) owner), fun _ _ => ?_⟩
    cases mode with
    | none => exact Program.only_pure
    | some mode' => exact only_call.mpr (chmods mode' rfl)
  | fChown =>
    refine Fallible.only_bind.mpr ⟨only_call.mpr (touches_of_onFile (fun _ _ => rfl) owner), fun _ _ => ?_⟩
    cases mode with
    | none => exact Program.only_pure
    | some mode' => exact only_call.mpr (chmods mode' rfl)

theorem ends_call {act' : Act} {pre : Machine → Prop} {post : Except String Unit → Machine → Prop}
    (refused : ∀ error machine, pre machine → post (.error error) { machine with moment := machine.moment + 1 })
    (acted : ∀ choice machine, pre machine → post (act cwd ⟨act', path⟩ choice machine).1
      { (act cwd ⟨act', path⟩ choice machine).2 with moment := machine.moment + 1 }) :
    (system cwd).Ends 0 env pre (call act' path).run post := by
  intro machine holds
  change post (attempt cwd ⟨act', path⟩ (env machine ⟨act', path⟩) machine).1
    { (attempt cwd ⟨act', path⟩ (env machine ⟨act', path⟩) machine).2 with moment := machine.moment + 1 }
  rcases attempt_cases ⟨act', path⟩ (env machine ⟨act', path⟩) machine with acts | ⟨error, fails⟩
  · rw [acts]
    exact acted _ machine holds
  · rw [fails]
    exact refused error machine holds

theorem ends_bind {β : Type} {first : Prog β} {rest : β → Prog α} {pre : Machine → Prop}
    {post : Except String α → Machine → Prop} (middle : β → Machine → Prop)
    (one : (system cwd).Ends 0 env pre first.run fun result machine =>
      (∀ error, result = .error error → post (.error error) machine) ∧
        ∀ value, result = .ok value → middle value machine)
    (two : ∀ value, (system cwd).Ends 0 env (middle value) (rest value).run post) :
    (system cwd).Ends 0 env pre (first >>= rest).run post := by
  refine Service.Ends.bind_fallible middle (Service.Ends.consequence one (fun _ holds => holds) ?_) two
  rintro (error | value) machine ⟨fails, goesOn⟩
  · exact fails error rfl
  · exact goesOn value rfl

theorem ends_andThen {β : Type} {first : Prog β} {rest : β → Prog α} {pre keeps : Machine → Prop}
    (one : (system cwd).Ends 0 env pre first.run fun _ => keeps)
    (two : ∀ value, (system cwd).Ends 0 env keeps (rest value).run fun _ => keeps) :
    (system cwd).Ends 0 env pre (first >>= rest).run fun _ => keeps :=
  ends_bind (fun _ => keeps) (fun machine holds => ⟨fun _ _ => one machine holds, fun _ _ => one machine holds⟩) two

/-- A special file is made inside, where nothing was; its owner and mode are set there. -/
theorem ends_mknod (inside : files.Inside cwd directory false path (· = none)) :
    (system cwd).Ends 0 env (At directory base files) (call .mknod path).run fun result machine =>
      Kept directory base machine.files machine.touched ∧ ∀ made, result = .ok made →
        machine.files.Inside cwd directory false path (· ≠ none) ∧
          machine.files.Inside cwd directory true path (· ≠ none) := by
  refine ends_call (fun error machine holds => ⟨holds.1, fun _ same => by cases same⟩) ?_
  rintro choice machine ⟨kept, rfl⟩
  rw [show act cwd ⟨.mknod, path⟩ choice machine = machine.make cwd path .file from rfl]
  rcases make_cases cwd path machine .file with
    ⟨_, error, failed⟩ | ⟨place, leads, free, made⟩
  · rw [failed]
    exact ⟨kept, fun _ same => by cases same⟩
  · rw [made]
    have below := inside place leads free
    have leads' : Files.leads (machine.files.insert place .file) cwd false path = some place :=
      leads_mono (LinkedTree.within_insert free) leads
    have is : (machine.files.insert place .file) place = some .file := if_pos rfl
    refine ⟨kept.create free below, fun _ _ => ⟨?_, ?_⟩⟩
    · intro other found _
      rw [Machine.create, leads'] at found
      cases found
      exact below
    · intro other found _
      rw [Machine.create, leads_follow leads' (by simp [is])] at found
      cases found
      exact below

theorem ends_cString {rest : Unit → Prog α} {pre : Machine → Prop} {post : Except String α → Machine → Prop}
    (fails : ∀ error machine, pre machine → post (.error error) machine)
    (goesOn : path.contains '\x00' = false → (system cwd).Ends 0 env pre (rest ()).run post) :
    (system cwd).Ends 0 env pre (cString path >>= rest).run post := by
  unfold cString
  split
  · exact fails _
  · rename_i clean
    exact goesOn (Bool.eq_false_iff.mpr clean)

theorem ends_ofExcept {β : Type} {result : Except String β} {rest : β → Prog α} {pre : Machine → Prop}
    {post : Except String α → Machine → Prop}
    (fails : ∀ error machine, pre machine → post (.error error) machine)
    (goesOn : ∀ value, result = .ok value → (system cwd).Ends 0 env pre (rest value).run post) :
    (system cwd).Ends 0 env pre (ofExcept result >>= rest).run post := by
  cases result with
  | error error => exact fails error
  | ok value => exact goesOn value rfl

theorem ends_convertWhiteout (hides : isWhiteout entry.name = true)
    (inside : entry.name = whiteoutOpaqueDir ∨ (entry.place true destination).contains '\x00' = false →
      entry.Inside cwd directory true destination files) :
    (system cwd).Ends 0 env (At directory base files)
      (convertWhiteout entry.name entry.path uid gid entry.mode destination).run
      fun _ machine => Kept directory base machine.files machine.touched := by
  obtain ⟨above, found, place⟩ := @place_of_isWhiteout destination entry hides
  unfold convertWhiteout
  rw [found]
  dsimp only
  unfold TarEntry.Inside at inside
  rw [if_pos (by simp [hides]), place] at inside
  by_cases marks : entry.name = whiteoutOpaqueDir
  · rw [if_pos marks]
    simp only [if_pos marks] at inside
    intro machine holds
    refine (ends_touches (only_call.mpr ?_) machine holds).1
    exact touches_of_onFile (fun _ _ => rfl) (inside (.inl marks))
  · rw [if_neg marks, dropPrefix_of_isWhiteout hides]
    simp only [if_neg marks] at inside
    dsimp only
    generalize destination ++ '/' :: join above (entry.name.drop whiteoutPrefix.length) = path at inside ⊢
    refine ends_cString (fun _ _ holds => holds.1) fun clean => ?_
    refine ends_bind (fun _ machine => Kept directory base machine.files machine.touched ∧
      machine.files.Inside cwd directory false path (· ≠ none) ∧
      machine.files.Inside cwd directory true path (· ≠ none))
      (Service.Ends.consequence (ends_mknod (inside (.inr clean))) (fun _ holds => holds) ?_) fun _ => ?_
    · rintro result machine ⟨kept, made⟩
      exact ⟨fun _ _ => kept, fun value same => ⟨kept, made value same⟩⟩
    · rintro machine ⟨kept, owner, perms⟩
      refine (ends_touches ?_ machine ⟨kept, rfl⟩).1
      exact touches_setPermsOwnerships rfl owner fun _ => perms

/-- What is done for an entry that is no whiteout, once it is unpacked. -/
theorem ends_setMetadata {mtime : Int64} {dirs : Dirs}
    (inside : (entry.isDirectory || !entry.isLink) = true →
      if entry.isDirectory then
        files.Inside cwd directory false path (· ≠ none) ∧
          (entry.mode.isSome → files.Inside cwd directory true path (· ≠ none))
      else files.Inside cwd directory true path (· = some .file)) :
    (system cwd).Ends 0 env (At directory base files) (setMetadata path entry uid gid mtime dirs).run
      fun _ machine => Kept directory base machine.files machine.touched := by
  unfold setMetadata
  cases isDir : entry.isDirectory with
  | true =>
    rw [isDir] at inside
    obtain ⟨owner, perms⟩ := inside rfl
    rw [if_pos rfl]
    intro machine holds
    refine (ends_touches ?_ machine holds).1
    exact Fallible.only_bind.mpr ⟨touches_setPermsOwnerships rfl owner perms, fun _ _ => Program.only_pure⟩
  | false =>
    rw [isDir] at inside
    rw [if_neg (by simp)]
    cases isLink : entry.isLink with
    | true =>
      rw [if_pos rfl]
      exact fun _ holds => holds.1
    | false =>
      rw [isLink] at inside
      have inside := inside rfl
      rw [if_neg (by simp)] at inside ⊢
      refine ends_bind (fun _ machine => At directory base files machine ∧
        files.Inside cwd directory true path (· ≠ none)) ?_ fun _ => ?_
      · refine ends_call (fun error machine holds => ⟨fun _ _ => holds.1, fun _ same => by cases same⟩) ?_
        rintro choice machine ⟨kept, rfl⟩
        rcases onFile_cases cwd path machine true (fun _ node =>
          (if true && node ≠ .file then .error "Is a directory" else .ok (), machine)) with
          ⟨_, error, failed⟩ | ⟨place, node, leads, found, opened⟩
        · rw [show act cwd ⟨.openFile true, path⟩ choice machine = _ from failed]
          exact ⟨fun _ _ => kept, fun _ same => by cases same⟩
        · rw [show act cwd ⟨.openFile true, path⟩ choice machine = _ from opened]
          refine ⟨fun _ _ => kept, fun _ ends => ⟨⟨kept, rfl⟩, ?_⟩⟩
          by_cases plain : node = .file
          · intro other leads' _
            exact inside other leads' (by rw [← Option.some.inj (leads.symm.trans leads'), found, plain])
          · rw [if_pos (by simp [plain])] at ends
            cases ends
      · rintro machine ⟨at', inside⟩
        refine (ends_touches ?_ machine at').1
        refine Fallible.only_bind.mpr ⟨touches_setPermsOwnerships rfl inside fun _ => inside, fun _ _ => ?_⟩
        refine Fallible.only_bind.mpr ⟨only_call.mpr ?_, fun _ _ => Program.only_pure⟩
        exact touches_of_onFile (fun _ _ => rfl) inside

/-- The path of the destination leads to the directory, with nothing at it or below. -/
structure Made (cwd directory : List Text) (base : Files) (destination : Text) : Prop where
  bare : ∀ place, directory <+: place → base place = none
  leads : base.leads cwd false destination = some directory

theorem ends_unpackIn (made : Made cwd directory base destination) (env : Machine → FileOp → Choice)
    (entryPath : Text) (xattrs : Bool) :
    (system cwd).Ends 0 env (fun machine => Kept directory base machine.files machine.touched)
      (call (.unpackIn entryPath xattrs) destination).run
      fun _ machine => Kept directory base machine.files machine.touched := by
  refine ends_call (fun _ _ holds => holds) ?_
  intro choice machine kept
  obtain ⟨isDir, _, leads⟩ := kept.made made.leads (made.bare _ List.prefix_rfl)
  rw [show act cwd ⟨.unpackIn entryPath xattrs, destination⟩ choice machine =
    ((choice.unpackIn machine.files directory).result,
      { machine with
        files := (choice.unpackIn machine.files directory).after
        touched := machine.touched ++ (choice.unpackIn machine.files directory).touched }) by
    simp [act, Machine.onFile, leads, isDir]]
  exact kept.unpackIn made.bare _

theorem ends_unpackFile {dirs : Dirs} {attrAvailable : Bool} (made : Made cwd directory base destination)
    (shows : (attrAvailable && isWhiteout entry.name) = false)
    (acts : (destination ++ '/' :: entry.path).contains '\x00' = false → ∀ mtime, entry.mtime = .ok mtime →
      (entry.isDirectory || !entry.isLink) = true → entry.acts attrAvailable destination = true) :
    (system cwd).Ends 0 env
      (fun machine => Kept directory base machine.files machine.touched ∧
        entry.StaysInside cwd directory env attrAvailable destination machine)
      (unpackFile attrAvailable destination dirs entry uid gid).run
      fun _ machine => Kept directory base machine.files machine.touched := by
  unfold unpackFile
  refine ends_bind (fun _ machine => Kept directory base machine.files machine.touched ∧
    (entry.acts attrAvailable destination = true →
      entry.Inside cwd directory attrAvailable destination machine.files)) ?_ fun _ => ?_
  · rintro machine ⟨kept, stays⟩
    have after := ends_unpackIn made env entry.path attrAvailable machine kept
    refine ⟨fun _ _ => after, fun _ ends => ⟨after, fun acts => ?_⟩⟩
    have stays := stays acts
    rw [if_neg (by simp [shows])] at stays
    exact stays _ (Prod.ext ends rfl)
  · refine ends_cString (fun _ _ holds => holds.1) fun clean => ?_
    refine ends_ofExcept (fun _ _ holds => holds.1) fun mtime read => ?_
    rintro machine ⟨kept, inside⟩
    refine ends_setMetadata (fun acting => ?_) machine ⟨kept, rfl⟩
    have inside := inside (acts clean mtime read acting)
    unfold TarEntry.Inside at inside
    rw [if_neg (by simp [shows]), place_of_file shows] at inside
    exact inside

theorem ends_unpackEntry {dirs : Dirs} (made : Made cwd directory base destination) :
    (system cwd).Ends 0 env
      (fun machine => Kept directory base machine.files machine.touched ∧
        entry.StaysInside cwd directory env attrAvailable destination machine)
      (unpackEntry attrAvailable destination dirs entry).run
      fun _ machine => Kept directory base machine.files machine.touched := by
  unfold unpackEntry
  refine ends_ofExcept (fun _ _ holds => holds.1) fun name named => ?_
  obtain ⟨unicode, rfl⟩ := unicodeName_eq_ok.mp named
  refine ends_ofExcept (fun _ _ holds => holds.1) fun owner owned => ?_
  dsimp only
  split
  · rename_i hides
    obtain ⟨rfl, hides'⟩ := Bool.and_eq_true_iff.mp hides
    refine ends_andThen ?_ fun _ _ kept => kept
    rintro machine ⟨kept, stays⟩
    refine ends_convertWhiteout hides' (fun made => ?_) machine ⟨kept, rfl⟩
    have passes := passes_iff.mpr ⟨unicode, ⟨owner, owned⟩, (if_pos hides).mpr made⟩
    have stays := stays (by simp [TarEntry.acts, passes, hides'])
    rw [if_pos hides] at stays
    exact stays
  · rename_i shows
    rw [Bool.not_eq_true] at shows
    refine ends_unpackFile made shows fun clean mtime read acting => ?_
    have passes : entry.passes attrAvailable destination = true := by
      rw [passes_iff, if_neg (by simp [shows]), place_of_file shows]
      exact ⟨unicode, ⟨owner, owned⟩, clean, mtime, read⟩
    rw [TarEntry.acts, passes, shows]
    simpa using acting

/-- By induction on the entries: what each is come to with is what the one before has left. -/
theorem ends_unpackEntries {dirs : Dirs} (made : Made cwd directory base destination)
    (entries : List (Except String TarEntry)) :
    (system cwd).Ends 0 env
      (fun machine => Kept directory base machine.files machine.touched ∧
        EntriesInside cwd directory env order attrAvailable destination dirs entries machine)
      (unpackEntries attrAvailable destination dirs entries).run
      fun result machine => Kept directory base machine.files machine.touched ∧ ∀ dirs', result = .ok dirs' →
        TimesInside cwd directory machine.files (order.walk dirs'.entries) := by
  induction entries generalizing dirs with
  | nil =>
    rintro machine ⟨kept, times⟩
    refine ⟨kept, fun _ same => ?_⟩
    cases same
    exact times
  | cons first rest ih =>
    cases first with
    | error error => exact fun machine holds => ⟨holds.1, fun _ same => by cases same⟩
    | ok entry =>
      refine ends_bind (fun dirs' machine => Kept directory base machine.files machine.touched ∧
        EntriesInside cwd directory env order attrAvailable destination dirs' rest machine) ?_ fun _ => ih
      rintro machine ⟨kept, stays, later⟩
      have after := @ends_unpackEntry _ _ _ _ _ _ entry dirs made machine ⟨kept, stays⟩
      exact ⟨fun _ _ => ⟨after, fun _ same => by cases same⟩,
        fun dirs' ends => ⟨after, later dirs' _ (Prod.ext ends rfl)⟩⟩

theorem ends_setTimes {times : List (Sigma fun _ : Text => Int64)} (inside : TimesInside cwd directory files times) :
    (system cwd).Ends 0 env (At directory base files) (setTimes times).run
      fun _ machine => Kept directory base machine.files machine.touched := by
  induction times with
  | nil => exact fun _ holds => holds.1
  | cons first rest ih =>
    obtain ⟨path, mtime⟩ := first
    refine ends_bind (fun _ machine => At directory base files machine ∧ TimesInside cwd directory files rest)
      (ends_call (fun error machine holds => ⟨fun _ _ => holds.1, fun _ same => by cases same⟩) ?_)
      fun _ machine holds => ih holds.2 machine holds.1
    rintro choice machine ⟨kept, rfl⟩
    rcases onFile_cases cwd path machine true (fun place _ => (.ok (), machine.touch place)) with
      ⟨_, error, failed⟩ | ⟨place, node, leads, found, ran⟩
    · rw [show act cwd ⟨.utimes mtime, path⟩ choice machine = _ from failed]
      exact ⟨fun _ _ => kept, fun _ same => by cases same⟩
    · rw [show act cwd ⟨.utimes mtime, path⟩ choice machine = _ from ran]
      have some : machine.files place ≠ none := by simp [found]
      refine ⟨(fun _ same => by cases same), fun _ _ => ⟨⟨?_, rfl⟩, inside.2 ⟨place, leads, some⟩⟩⟩
      exact kept.touch (inside.1 place leads some)

/-- The directory can be made: nothing is in its place, or nothing that the destination leads to. -/
structure Free (cwd directory : List Text) (base : Files) (destination : Text) (machine : Machine) : Prop where
  within : base.Within machine.files
  inside : ∀ place ∈ machine.touched, directory <+: place
  free : machine.files directory = none ∨
    ∀ place, machine.files.leads cwd true destination = some place → machine.files place = none

theorem ends_removeOld (made : Made cwd directory base destination) :
    (system cwd).Ends 0 env
      (fun machine => machine.files.without directory = base ∧ ∀ place ∈ machine.touched, directory <+: place)
      (removeOld destination).run fun result machine => (∀ place ∈ machine.touched, directory <+: place) ∧
        (result = .ok () → Free cwd directory base destination machine) := by
  unfold removeOld
  refine ends_bind (fun found machine => machine.files.without directory = base ∧
    (∀ place ∈ machine.touched, directory <+: place) ∧ (found = false →
      ∀ place, machine.files.leads cwd true destination = some place → machine.files place = none))
    ?_ fun found => ?_
  · rintro machine ⟨same, inside⟩
    have asked : (system cwd).alone 0 env (succeeds .pathExists destination).run machine =
        (.ok (machine.onFile cwd true destination fun _ _ => (.ok (), machine)).1.isOk,
          { (machine.onFile cwd true destination fun _ _ => (.ok (), machine)).2 with
            moment := machine.moment + 1 }) := rfl
    rw [asked]
    rcases onFile_cases cwd destination machine true fun _ _ => (.ok (), machine) with
      ⟨absent, error, failed⟩ | ⟨place, node, _, _, ran⟩
    · rw [failed]
      exact ⟨(fun _ same => by cases same), fun _ _ => ⟨same, inside, fun _ => absent⟩⟩
    · rw [ran]
      refine ⟨(fun _ same => by cases same), fun found is => ⟨same, inside, fun missing => ?_⟩⟩
      cases is
      cases missing
  · cases found with
    | false =>
      rintro machine ⟨rfl, inside, absent⟩
      exact ⟨inside, fun _ => ⟨LinkedTree.without_within, inside, .inr (absent rfl)⟩⟩
    | true =>
      refine ends_call (fun _ _ holds => ⟨holds.2.1, fun same => by cases same⟩) ?_
      rintro choice machine ⟨rfl, inside, _⟩
      rcases onFile_cases cwd destination machine false (fun place node =>
        if node = .file then (.error "Not a directory", machine)
        else (.ok (), { machine with files := machine.files.without place })) with
        ⟨_, error, failed⟩ | ⟨place, node, leads, found, ran⟩
      · rw [show act cwd ⟨.removeDirAll, destination⟩ choice machine = _ from failed]
        exact ⟨inside, fun same => by cases same⟩
      · rw [show act cwd ⟨.removeDirAll, destination⟩ choice machine = _ from ran]
        rw [leads_mono LinkedTree.without_within made.leads] at leads
        cases leads
        by_cases plain : node = .file
        · rw [if_pos plain]
          exact ⟨inside, fun same => by cases same⟩
        · rw [if_neg plain]
          exact ⟨inside, fun _ => ⟨fun _ _ => id, inside, .inl (made.bare directory List.prefix_rfl)⟩⟩

theorem ends_createDirAll (made : Made cwd directory base destination) :
    (system cwd).Ends 0 env (Free cwd directory base destination) (call .createDirAll destination).run
      fun result machine => (∀ place ∈ machine.touched, directory <+: place) ∧
        (result = .ok () → Kept directory base machine.files machine.touched) := by
  refine ends_call (fun _ _ holds => ⟨holds.inside, fun same => by cases same⟩) ?_
  rintro choice machine ⟨within, inside, free⟩
  have leads := leads_mono within made.leads
  have proper : destination ≠ [] := by
    rintro rfl
    cases leads
  have is : act cwd ⟨.createDirAll, destination⟩ choice machine = machine.makeDir cwd destination := by
    simp only [act, ancestors, Machine.createDirAll, if_neg proper, leads, Option.isSome_some, if_true]
  rw [is]
  unfold Machine.makeDir
  rcases make_cases cwd destination machine .directory with
    ⟨taken, error, failed⟩ | ⟨place, leads', empty, created⟩
  · rw [failed]
    dsimp only
    have free := free.resolve_left (taken directory leads)
    rcases onFile_cases cwd destination machine true (fun _ node =>
      (if node = .directory then .ok () else .error error, machine)) with
      ⟨_, error', failed'⟩ | ⟨place, node, leads', found, _⟩
    · rw [failed']
      exact ⟨inside, fun same => by cases same⟩
    · rw [free place leads'] at found
      cases found
  · rw [created]
    rw [leads] at leads'
    cases leads'
    have kept : Kept directory base (machine.files.insert directory .directory) (machine.touched ++ [directory]) :=
      ⟨within.insert .directory,
        List.forall_mem_append.mpr ⟨inside, List.forall_mem_singleton.mpr List.prefix_rfl⟩⟩
    exact ⟨kept.inside, fun _ => kept⟩

theorem ends_isAttrAvailable (made : Made cwd directory base destination) :
    (system cwd).Ends 0 env (fun machine => Kept directory base machine.files machine.touched)
      (isAttrAvailable destination).run fun _ machine => Kept directory base machine.files machine.touched := by
  intro machine kept
  obtain ⟨_, leads, _⟩ := kept.made made.leads (made.bare _ List.prefix_rfl)
  refine (ends_touches ?_ machine ⟨kept, rfl⟩).1
  refine Fallible.only_bind.mpr ⟨only_call.mpr touches_openFile, fun _ _ => only_succeeds.mpr ?_⟩
  refine touches_of_onFile (fun _ _ => rfl) fun place leads' _ => ?_
  rw [leads] at leads'
  cases leads'
  exact List.prefix_rfl

/-- By the rules above: what is touched before an entry, for it, and at the end is inside. -/
theorem inside_of_confined {entries : List (Except String TarEntry)} {machine : Machine} (fresh : machine.touched = [])
    (confined : Confined cwd directory env order destination entries machine) :
    ∀ place ∈ ((system cwd).alone 0 env (unpack order entries destination).run machine).2.touched,
      directory <+: place := by
  have made : Made cwd directory (machine.files.without directory) destination :=
    ⟨fun place below => if_pos below, confined.made⟩
  have start : ∀ place ∈ machine.touched, directory <+: place := by
    intro place touched
    rw [fresh] at touched
    cases touched
  have run : (system cwd).Ends 0 env (· = machine) (unpack order entries destination).run
      fun _ after => ∀ place ∈ after.touched, directory <+: place := by
    unfold unpack
    refine ends_bind (fun _ removed => Free cwd directory (machine.files.without directory) destination removed ∧
      ∀ created, (system cwd).alone 0 env (call .createDirAll destination).run removed = (.ok (), created) →
      ∀ attrAvailable ready,
        (system cwd).alone 0 env (isAttrAvailable destination).run created = (.ok attrAvailable, ready) →
      EntriesInside cwd directory env order attrAvailable destination ∅ entries ready) ?_ fun _ => ?_
    · rintro machine rfl
      obtain ⟨inside, free⟩ := ends_removeOld made machine ⟨rfl, start⟩
      exact ⟨fun _ _ => inside, fun _ ends => ⟨free ends, confined.stays _ (Prod.ext ends rfl)⟩⟩
    refine ends_bind (fun _ created => Kept directory (machine.files.without directory) created.files created.touched ∧
      ∀ attrAvailable ready,
        (system cwd).alone 0 env (isAttrAvailable destination).run created = (.ok attrAvailable, ready) →
      EntriesInside cwd directory env order attrAvailable destination ∅ entries ready) ?_ fun _ => ?_
    · rintro removed ⟨free, stays⟩
      obtain ⟨inside, kept⟩ := ends_createDirAll made removed free
      exact ⟨fun _ _ => inside, fun _ ends => ⟨kept ends, stays _ (Prod.ext ends rfl)⟩⟩
    refine ends_bind (fun attrAvailable ready =>
      Kept directory (machine.files.without directory) ready.files ready.touched ∧
        EntriesInside cwd directory env order attrAvailable destination ∅ entries ready) ?_ fun attrAvailable => ?_
    · rintro created ⟨kept, stays⟩
      have after := @ends_isAttrAvailable cwd directory _ env destination made created kept
      exact ⟨fun _ _ => after.inside, fun attrAvailable ends => ⟨after, stays _ _ (Prod.ext ends rfl)⟩⟩
    refine ends_bind (fun dirs machine' =>
      Kept directory (machine.files.without directory) machine'.files machine'.touched ∧
        TimesInside cwd directory machine'.files (order.walk dirs.entries)) ?_ fun dirs => ?_
    · rintro ready holds
      obtain ⟨kept, times⟩ := ends_unpackEntries made entries ready holds
      exact ⟨fun _ _ => kept.inside, fun dirs ends => ⟨kept, times dirs ends⟩⟩
    · rintro machine' ⟨kept, times⟩
      exact (ends_setTimes times machine' ⟨kept, rfl⟩).inside
  exact run machine rfl

end Run

section Links

variable {cwd directory : List Text} {files : Files} {destination path : Text}

/-- There are no symbolic links in the directory. -/
def Plain (directory : List Text) (files : Files) : Prop :=
  ∀ place, directory <+: place → ∀ absolute target, files place ≠ some (.link absolute target)

theorem walk_below (plain : Plain directory files) {follow : Bool} {links : Nat} {texts inner : List Text}
    {place : List Text} (below : staysBelow inner.length texts = true)
    (leads : LinkedTree.walk files follow links (directory ++ inner) (texts.map part) = some place) :
    directory <+: place := by
  cases links with
  | zero => cases leads
  | succ links =>
    rw [LinkedTree.walk] at leads
    induction texts generalizing inner with
    | nil =>
      cases leads
      exact List.prefix_append directory inner
    | cons text texts ih =>
      rw [staysBelow] at below
      rw [List.map_cons, part] at leads
      split at below
      · rename_i stays
        rw [if_pos stays] at leads
        exact ih below leads
      · rename_i moves
        rw [if_neg moves] at leads
        split at below
        · rename_i climbs
          rw [if_pos climbs] at leads
          obtain ⟨deep, below⟩ := Bool.and_eq_true_iff.mp below
          have some : inner ≠ [] := List.length_pos_iff.mp (of_decide_eq_true deep)
          refine @ih inner.dropLast (by rwa [List.length_dropLast]) ?_
          rw [LinkedTree.walkParts, List.dropLast_append_of_ne_nil some] at leads
          exact leads
        · rename_i enters
          rw [if_neg enters] at leads
          rw [LinkedTree.walkParts, List.append_assoc] at leads
          have within : directory <+: directory ++ (inner ++ [text]) := List.prefix_append _ _
          have ends {found : Option (List Text)} (stops : (if (texts.map part).isEmpty then
              some (directory ++ (inner ++ [text])) else none) = found) (is : found = some place) :
              directory <+: place := by
            subst is
            split at stops
            · cases stops
              exact within
            · cases stops
          cases found : files (directory ++ (inner ++ [text])) with
          | none =>
            rw [found] at leads
            exact ends rfl leads
          | some node =>
            rw [found] at leads
            cases node with
            | directory => exact @ih (inner ++ [text]) (by rwa [List.length_append]) leads
            | file => exact ends rfl leads
            | link absolute target => exact absurd found (plain _ within absolute target)

theorem split_ne_nil (text : Text) : split '/' text ≠ [] := by
  rw [split_eq_splitOn]
  exact List.splitOn_ne_nil '/' text

theorem split_append (first rest : Text) : split '/' (first ++ '/' :: rest) = split '/' first ++ split '/' rest := by
  induction first with
  | nil => rfl
  | cons c first ih =>
    rw [List.cons_append, split, split]
    split
    · rw [ih, List.cons_append]
    · rw [ih]
      cases parts : split '/' first with
      | nil => exact absurd parts (split_ne_nil first)
      | cons part parts => rfl

/-- A path that does not lead above the directory leaves it through a symbolic link only. -/
theorem inside_of_within (leads : files.leads cwd false destination = some directory)
    (plain : Plain directory files) (within : Within destination path)
    (follow : Bool) (kind : Option (LinkedTree.Node Text) → Prop) : files.Inside cwd directory follow path kind := by
  have leads' := leads_follow leads (plain directory List.prefix_rfl)
  rintro place found _
  rcases within with rfl | ⟨rest, rfl, below⟩
  · cases follow with
    | false =>
      rw [leads] at found
      cases found
      exact List.prefix_rfl
    | true =>
      rw [leads'] at found
      cases found
      exact List.prefix_rfl
  · unfold Files.leads at leads' found
    split at leads'
    · cases leads'
    rename_i proper
    rw [not_or] at proper
    split at found
    · cases found
    have head : (destination ++ '/' :: rest).head? = destination.head? := List.head?_append_of_ne_nil _ proper.1
    rw [head, parts, split_append, List.map_append] at found
    obtain ⟨left, found⟩ := LinkedTree.walk_append (by simp [split_ne_nil]) leads' found
    rw [← List.append_nil directory] at found
    exact @walk_below directory files plain follow left _ [] place below found

end Links

section Exact

variable {cwd directory : List Text} {env : Machine → FileOp → Choice} {order : HashOrder} {attrAvailable : Bool}
  {destination path : Text} {entry : TarEntry} {uid gid : UInt32} {mode : Option UInt32} {machine after : Machine}
  {place : List Text} {dirs dirs' : Dirs} {α β : Type}

/-- Something outside the directory was created or changed. -/
def Strayed (directory : List Text) (machine : Machine) : Prop := ∃ place ∈ machine.touched, ¬ directory <+: place

theorem Strayed.subset (strayed : Strayed directory machine) (more : machine.touched ⊆ after.touched) :
    Strayed directory after := by
  obtain ⟨place, touched, outside⟩ := strayed
  exact ⟨place, more touched, outside⟩

theorem touched_onFile (machine : Machine) {follow : Bool}
    {act : List Text → LinkedTree.Node Text → Except String Unit × Machine}
    (more : ∀ place node, machine.touched ⊆ (act place node).2.touched) :
    machine.touched ⊆ (machine.onFile cwd follow path act).2.touched := by
  rcases onFile_cases cwd path machine follow act with ⟨_, error, failed⟩ | ⟨place, node, _, _, ran⟩
  · rw [failed]
    exact List.Subset.refl _
  · rw [ran]
    exact more place node

theorem touched_make (machine : Machine) (node : LinkedTree.Node Text) :
    machine.touched ⊆ (machine.make cwd path node).2.touched := by
  rcases make_cases cwd path machine node with ⟨_, error, failed⟩ | ⟨place, _, _, made⟩
  · rw [failed]
    exact List.Subset.refl _
  · rw [made]
    exact List.subset_append_left _ _

theorem touched_makeDir (machine : Machine) : machine.touched ⊆ (machine.makeDir cwd path).2.touched := by
  unfold Machine.makeDir
  split
  · rename_i made same
    have more : machine.touched ⊆ (machine.make cwd path .directory).2.touched := touched_make machine .directory
    rwa [same] at more
  · exact touched_onFile machine fun _ _ => List.Subset.refl _

theorem touched_createDirAll (machine : Machine) (paths : List Text) :
    machine.touched ⊆ (machine.createDirAll cwd paths).2.touched := by
  induction paths with
  | nil => exact List.Subset.refl _
  | cons path above ih =>
    rw [Machine.createDirAll]
    split
    · exact List.Subset.refl _
    split
    · exact touched_makeDir machine
    · split
      · rename_i made same
        rw [same] at ih
        exact List.Subset.trans ih (touched_makeDir made)
      · rename_i error made same
        rwa [same] at ih

/-- Nothing that was touched is forgotten. -/
theorem touched_act (op : FileOp) (choice : Choice) (machine : Machine) :
    machine.touched ⊆ (act cwd op choice machine).2.touched := by
  unfold act
  split
  · exact touched_onFile machine fun _ _ => List.Subset.refl _
  · exact touched_onFile machine fun _ _ => List.Subset.refl _
  · refine touched_onFile machine fun _ _ => ?_
    split <;> exact List.Subset.refl _
  · exact touched_createDirAll machine _
  · exact touched_onFile machine fun _ _ => List.subset_append_left _ _
  · exact touched_onFile machine fun _ _ => List.subset_append_left _ _
  · exact touched_onFile machine fun _ _ => List.subset_append_left _ _
  · exact touched_onFile machine fun _ _ => List.subset_append_left _ _
  · exact touched_onFile machine fun _ _ => List.subset_append_left _ _
  · exact touched_onFile machine fun _ _ => List.subset_append_left _ _
  · exact touched_make machine _
  · refine touched_onFile machine fun _ _ => ?_
    split
    · exact List.subset_append_left _ _
    · exact List.Subset.refl _

theorem Strayed.run (strayed : Strayed directory machine) (program : Program FileOp Answer α) :
    Strayed directory ((system cwd).alone 0 env program machine).2 := by
  induction program generalizing machine with
  | done value => exact strayed
  | call op next ih =>
    refine ih _ (strayed.subset ?_)
    change machine.touched ⊆ (attempt cwd op (env machine op) machine).2.touched
    rcases attempt_cases op (env machine op) machine with acted | ⟨error, refused⟩
    · rw [acted]
      exact touched_act op _ machine
    · rw [refused]
      exact List.Subset.refl _

/-- What has strayed in the first part has in the whole. -/
theorem strayed_bind {first : Prog β} {rest : β → Prog α}
    (strayed : Strayed directory ((system cwd).alone 0 env first.run machine).2) :
    Strayed directory ((system cwd).alone 0 env (first >>= rest).run machine).2 := by
  have whole : (system cwd).alone 0 env (first >>= rest).run machine = _ :=
    Service.alone_bind first.run (ExceptT.bindCont rest) machine
  rw [whole]
  exact strayed.run _

theorem alone_bind_ok {first : Prog β} {rest : β → Prog α} {value : β}
    (ran : (system cwd).alone 0 env first.run machine = (.ok value, after)) :
    (system cwd).alone 0 env (first >>= rest).run machine = (system cwd).alone 0 env (rest value).run after := by
  have whole : (system cwd).alone 0 env (first >>= rest).run machine = _ :=
    Service.alone_bind first.run (ExceptT.bindCont rest) machine
  rw [ran] at whole
  exact whole

/-- No operation is refused. -/
def Willing (env : Machine → FileOp → Choice) : Prop := ∀ machine op, (env machine op).refused = none


theorem alone_call (willing : Willing env) (act' : Act) :
    (system cwd).alone 0 env (call act' path).run machine =
      ((act cwd ⟨act', path⟩ (env machine ⟨act', path⟩) machine).1,
        { (act cwd ⟨act', path⟩ (env machine ⟨act', path⟩) machine).2 with moment := machine.moment + 1 }) := by
  change ((attempt cwd ⟨act', path⟩ (env machine ⟨act', path⟩) machine).1,
    { (attempt cwd ⟨act', path⟩ (env machine ⟨act', path⟩) machine).2 with moment := machine.moment + 1 }) = _
  have same : attempt cwd ⟨act', path⟩ (env machine ⟨act', path⟩) machine =
      act cwd ⟨act', path⟩ (env machine ⟨act', path⟩) machine := by
    unfold attempt
    rw [willing]
    split
    · rfl
    · rfl
    · rename_i given _
      cases given
  rw [same]

theorem onFile_found {follow : Bool} {node : LinkedTree.Node Text}
    {act : List Text → LinkedTree.Node Text → Except String Unit × Machine}
    (leads : machine.files.leads cwd follow path = some place) (found : machine.files place = some node) :
    machine.onFile cwd follow path act = act place node := by
  simp [Machine.onFile, leads, found]

/-- An operation that changes what a path leads to. -/
theorem alone_touch (willing : Willing env) {act' : Act} {follow : Bool}
    (is : ∀ choice machine, act cwd ⟨act', path⟩ choice machine =
      machine.onFile cwd follow path fun place _ => (.ok (), machine.touch place))
    (leads : machine.files.leads cwd follow path = some place) (found : machine.files place ≠ none) :
    (system cwd).alone 0 env (call act' path).run machine =
      (.ok (), { machine.touch place with moment := machine.moment + 1 }) := by
  obtain ⟨node, found⟩ := Option.ne_none_iff_exists'.mp found
  rw [alone_call willing, is, onFile_found leads found]

theorem strayed_call (willing : Willing env) {act' : Act} {follow : Bool}
    (is : ∀ choice machine, act cwd ⟨act', path⟩ choice machine =
      machine.onFile cwd follow path fun place _ => (.ok (), machine.touch place))
    (leads : machine.files.leads cwd follow path = some place) (found : machine.files place ≠ none)
    (outside : ¬ directory <+: place) :
    Strayed directory ((system cwd).alone 0 env (call act' path).run machine).2 := by
  rw [alone_touch willing is leads found]
  exact ⟨place, List.mem_append_right _ List.mem_cons_self, outside⟩

theorem leads_link {files : Files} (leads : files.leads cwd true path = some place) :
    ∃ first, files.leads cwd false path = some first ∧
      (first = place ∨ ∃ absolute target, files first = some (.link absolute target)) := by
  unfold Files.leads at leads ⊢
  split at leads
  · cases leads
  · rename_i proper
    rw [if_neg proper]
    exact LinkedTree.walk_link leads

theorem alone_ofExcept {result : Except String β} {value : β} (is : result = .ok value) :
    (system cwd).alone 0 env (ofExcept result).run machine = (.ok value, machine) := by
  rw [is]
  rfl

theorem alone_cString (clean : path.contains '\x00' = false) :
    (system cwd).alone 0 env (cString path).run machine = (.ok (), machine) := by
  unfold cString
  rw [clean]
  rfl

theorem not_inside {files : Files} {follow : Bool} {kind : Option (LinkedTree.Node Text) → Prop}
    (leaves : ¬ files.Inside cwd directory follow path kind) :
    ∃ place, files.leads cwd follow path = some place ∧ kind (files place) ∧ ¬ directory <+: place := by
  simpa only [Files.Inside, not_forall, exists_prop] using leaves

theorem strayed_owner (willing : Willing env) {chown : ChownType} {follow : Bool}
    (follows : follow = match chown with | .fChown => true | .lChown => false)
    (leaves : ¬ machine.files.Inside cwd directory follow path (· ≠ none)) :
    Strayed directory ((system cwd).alone 0 env (setPermsOwnerships path chown uid gid mode).run machine).2 := by
  obtain ⟨place, leads, found, outside⟩ := not_inside leaves
  unfold setPermsOwnerships
  subst follows
  cases chown with
  | lChown =>
    exact strayed_bind (strayed_call willing (fun _ _ => rfl) leads found outside)
  | fChown =>
    exact strayed_bind (strayed_call willing (fun _ _ => rfl) leads found outside)

/-- The mode is set through a link, when the owner has been set of the link. -/
theorem strayed_perms (willing : Willing env) (given : mode.isSome = true)
    (leaves : ¬ machine.files.Inside cwd directory true path (· ≠ none)) :
    Strayed directory ((system cwd).alone 0 env (setPermsOwnerships path .lChown uid gid mode).run machine).2 := by
  obtain ⟨place, leads, found, outside⟩ := not_inside leaves
  obtain ⟨mode, rfl⟩ := Option.isSome_iff_exists.mp given
  obtain ⟨first, leads', is⟩ := leads_link leads
  have found' : machine.files first ≠ none := by
    rcases is with rfl | ⟨absolute, target, link⟩
    · exact found
    · simp [link]
  unfold setPermsOwnerships
  rw [alone_bind_ok (alone_touch willing (fun _ _ => rfl) leads' found')]
  exact strayed_call willing (fun _ _ => rfl) leads found outside

theorem strayed_convertWhiteout (willing : Willing env) (hides : isWhiteout entry.name = true)
    (fits : entry.name = whiteoutOpaqueDir ∨ (entry.place true destination).contains '\x00' = false)
    (leaves : ¬ entry.Inside cwd directory true destination machine.files) :
    Strayed directory ((system cwd).alone 0 env
      (convertWhiteout entry.name entry.path uid gid entry.mode destination).run machine).2 := by
  obtain ⟨above, found, place⟩ := @place_of_isWhiteout destination entry hides
  unfold convertWhiteout
  rw [found]
  dsimp only
  unfold TarEntry.Inside at leaves
  rw [if_pos (by simp [hides]), place] at leaves
  rw [place] at fits
  by_cases marks : entry.name = whiteoutOpaqueDir
  · rw [if_pos marks]
    simp only [if_pos marks] at leaves
    obtain ⟨place, leads, found, outside⟩ := not_inside leaves
    exact strayed_call willing (fun _ _ => rfl) leads found outside
  · rw [if_neg marks, dropPrefix_of_isWhiteout hides]
    simp only [if_neg marks] at leaves fits
    dsimp only
    generalize destination ++ '/' :: join above (entry.name.drop whiteoutPrefix.length) = path at leaves fits ⊢
    obtain ⟨place, leads, free, outside⟩ := not_inside leaves
    rw [alone_bind_ok (alone_cString (fits.resolve_left marks))]
    refine strayed_bind ?_
    rw [alone_call willing]
    refine ⟨place, ?_, outside⟩
    simp [act, Machine.make, leads, free, Machine.create]

theorem strayed_unpackFile (willing : Willing env)
    (shows : (attrAvailable && isWhiteout entry.name) = false) (acts : entry.acts attrAvailable destination = true)
    (unpacks : (system cwd).alone 0 env (call (.unpackIn entry.path attrAvailable) destination).run machine =
      (.ok (), after)) (leaves : ¬ entry.Inside cwd directory attrAvailable destination after.files) :
    Strayed directory
      ((system cwd).alone 0 env (unpackFile attrAvailable destination dirs entry uid gid).run machine).2 := by
  obtain ⟨passes, acting⟩ := Bool.and_eq_true_iff.mp acts
  obtain ⟨_, _, fits⟩ := passes_iff.mp passes
  rw [if_neg (by simp [shows]), place_of_file shows] at fits
  obtain ⟨clean, mtime, read⟩ := fits
  unfold TarEntry.Inside at leaves
  rw [if_neg (by simp [shows]), place_of_file shows] at leaves
  rw [shows, Bool.false_or] at acting
  unfold unpackFile
  rw [alone_bind_ok unpacks, alone_bind_ok (alone_cString clean), alone_bind_ok (alone_ofExcept read)]
  unfold setMetadata
  cases isDir : entry.isDirectory with
  | true =>
    rw [isDir, if_pos rfl, not_and_or] at leaves
    rw [if_pos rfl]
    refine strayed_bind ?_
    rcases leaves with owner | perms
    · exact strayed_owner willing rfl owner
    · obtain ⟨given, perms⟩ := Classical.not_imp.mp perms
      exact strayed_perms willing given perms
  | false =>
    rw [isDir, if_neg (by simp)] at leaves
    rw [isDir, Bool.false_or, Bool.not_eq_true'] at acting
    rw [if_neg (by simp), if_neg (by simp [acting])]
    obtain ⟨place, leads, found, outside⟩ := not_inside leaves
    have opens : (system cwd).alone 0 env (call (.openFile true) (destination ++ '/' :: entry.path)).run after =
        (.ok (), { after with moment := after.moment + 1 }) := by
      rw [alone_call willing]
      simp [act, onFile_found leads found]
    rw [alone_bind_ok opens]
    refine strayed_bind (strayed_owner willing rfl fun inside => outside (inside place leads ?_))
    rw [found]
    intro impossible
    cases impossible

theorem strayed_unpackEntry (willing : Willing env)
    (leaves : ¬ entry.StaysInside cwd directory env attrAvailable destination machine) :
    Strayed directory ((system cwd).alone 0 env (unpackEntry attrAvailable destination dirs entry).run machine).2 := by
  obtain ⟨acts, leaves⟩ := Classical.not_imp.mp leaves
  obtain ⟨passes, acting⟩ := Bool.and_eq_true_iff.mp acts
  obtain ⟨unicode, ⟨owner, owned⟩, fits⟩ := passes_iff.mp passes
  unfold unpackEntry
  rw [alone_bind_ok (alone_ofExcept (unicodeName_eq_ok.mpr ⟨unicode, rfl⟩)), alone_bind_ok (alone_ofExcept owned)]
  dsimp only
  split at leaves
  · rename_i hides
    rw [if_pos hides] at fits ⊢
    obtain ⟨rfl, hides⟩ := Bool.and_eq_true_iff.mp hides
    exact strayed_bind (strayed_convertWhiteout willing hides fits leaves)
  · rename_i shows
    rw [if_neg shows]
    rw [Bool.not_eq_true] at shows
    obtain ⟨after, leaves⟩ := not_forall.mp leaves
    obtain ⟨unpacks, leaves⟩ := Classical.not_imp.mp leaves
    exact strayed_unpackFile willing shows acts unpacks leaves

theorem strayed_setTimes (willing : Willing env) {times : List (Sigma fun _ : Text => Int64)}
    (leaves : ¬ TimesInside cwd directory machine.files times) :
    Strayed directory ((system cwd).alone 0 env (setTimes times).run machine).2 := by
  induction times generalizing machine with
  | nil => exact absurd trivial leaves
  | cons first rest ih =>
    obtain ⟨path, mtime⟩ := first
    rw [setTimes]
    rcases not_and_or.mp leaves with here | later
    · obtain ⟨place, leads, found, outside⟩ := not_inside here
      exact strayed_bind (strayed_call willing (fun _ _ => rfl) leads found outside)
    · obtain ⟨⟨place, leads, found⟩, later⟩ := Classical.not_imp.mp later
      rw [alone_bind_ok (alone_touch willing (fun _ _ => rfl) leads found)]
      exact ih later

/-- By induction on the entries: the first that leads out is come to, or the times at the end lead out. -/
theorem strayed_unpackEntries (willing : Willing env) {entries : List (Except String TarEntry)}
    (leaves : ¬ EntriesInside cwd directory env order attrAvailable destination dirs entries machine) :
    Strayed directory ((system cwd).alone 0 env (unpackEntries attrAvailable destination dirs entries).run machine).2 ∨
      ∃ dirs' after,
        (system cwd).alone 0 env (unpackEntries attrAvailable destination dirs entries).run machine =
          (.ok dirs', after) ∧ ¬ TimesInside cwd directory after.files (order.walk dirs'.entries) := by
  induction entries generalizing dirs machine with
  | nil => exact .inr ⟨dirs, machine, rfl, leaves⟩
  | cons first rest ih =>
    cases first with
    | error error => exact absurd trivial leaves
    | ok entry =>
      rw [unpackEntries]
      rcases not_and_or.mp leaves with here | later
      · exact .inl (strayed_bind (strayed_unpackEntry willing here))
      · obtain ⟨dirs', later⟩ := not_forall.mp later
        obtain ⟨after, later⟩ := not_forall.mp later
        obtain ⟨ran, later⟩ := Classical.not_imp.mp later
        rw [alone_bind_ok ran]
        exact ih later

theorem confined_of_inside (willing : Willing env) {entries : List (Except String TarEntry)}
    (made : Files.leads (machine.files.without directory) cwd false destination = some directory)
    (inside : ∀ place ∈ ((system cwd).alone 0 env (unpack order entries destination).run machine).2.touched,
      directory <+: place) : Confined cwd directory env order destination entries machine := by
  refine ⟨made, fun removed removes created creates attrAvailable ready probes => ?_⟩
  by_contra leaves
  unfold unpack at inside
  rw [alone_bind_ok removes, alone_bind_ok creates, alone_bind_ok probes] at inside
  suffices strayed : Strayed directory ((system cwd).alone 0 env (unpackEntries attrAvailable destination ∅ entries >>=
      fun dirs => setTimes (order.walk dirs.entries)).run ready).2 by
    obtain ⟨place, touched, outside⟩ := strayed
    exact outside (inside place touched)
  rcases strayed_unpackEntries willing leaves with strayed | ⟨dirs, after, ran, leaves⟩
  · exact strayed_bind strayed
  · rw [alone_bind_ok ran]
    exact strayed_setTimes willing leaves

/-- Whatever the operating system refuses and whatever the archive crate does in the directory of the
layer: in every run in which the condition holds, each place at which the unpacking creates a file,
or changes the owner, the mode, the times or the attributes of one, is in that directory. Where
nothing is refused, and the destination can be made, the condition holds in every such run. -/
theorem unpack_confined (cwd directory : List Text) (env : Machine → FileOp → Choice) (order : HashOrder)
    (entries : List (Except String TarEntry)) (destination : Text) (machine : Machine)
    (fresh : machine.touched = []) :
    let inside := ∀ place ∈ ((system cwd).alone 0 env (unpack order entries destination).run machine).2.touched,
      directory <+: place
    (Confined cwd directory env order destination entries machine → inside) ∧
      (Willing env → Files.leads (machine.files.without directory) cwd false destination = some directory →
        inside → Confined cwd directory env order destination entries machine) :=
  ⟨inside_of_confined fresh, fun willing => confined_of_inside willing⟩

end Exact

section Layers

/-- The directory of one layer, with a file of it. -/
def otherLayer : Machine where
  files place :=
    if place = ["layers".toList] ∨ place = ["layers".toList, ['1']] then some .directory
    else if place = ["layers".toList, ['1'], "shadow".toList] then some .file
    else none
  touched := []
  moment := 0

/-- The archive crate skips an entry, as it does one with `..`. -/
def skips : Machine → FileOp → Choice := fun _ _ =>
  ⟨none, fun files _ => ⟨.ok (), files, [], fun _ _ => rfl, by simp⟩⟩

/-- An entry for a file of another layer. -/
def neighbourEntry : TarEntry := ⟨"../1/shadow".toList, true, .regular, true, .ok 0, .ok 0, some 0o666, .ok 0⟩

theorem neighbour_touched : ¬ ∀ place ∈ ((system []).alone 0 skips
    (unpack ⟨id, fun _ => .refl _⟩ [.ok neighbourEntry] "/layers/0".toList).run otherLayer).2.touched,
      ["layers".toList, ['0']] <+: place := by
  decide

/-- The archive crate creates a file of the entry's name. -/
def creates : Machine → FileOp → Choice := fun _ op => ⟨none, fun files directory =>
  match op.act with
  | .unpackIn name _ =>
    { result := .ok ()
      after := files.insert (directory ++ [name]) .file
      touched := [directory ++ [name]]
      beside := by
        intro place beside
        refine if_neg ?_
        rintro rfl
        rcases beside with outside | same
        · exact outside (List.prefix_append _ _)
        · simp at same
      inside := by simp }
  | _ => ⟨.ok (), files, [], fun _ _ => rfl, by simp⟩⟩

def helloEntry : TarEntry := ⟨"hello".toList, true, .regular, true, .ok 0, .ok 0, some 0o644, .ok 0⟩

def helloUnpacked : Machine :=
  ((system []).alone 0 creates (unpack ⟨id, fun _ => .refl _⟩ [.ok helloEntry] "/layers/0".toList).run otherLayer).2

theorem hello_confined : ["layers".toList, ['0'], "hello".toList] ∈ helloUnpacked.touched ∧
    ∀ place ∈ helloUnpacked.touched, ["layers".toList, ['0']] <+: place := by
  refine ⟨by decide, (unpack_confined [] ["layers".toList, ['0']] creates ⟨id, fun _ => .refl _⟩ [.ok helloEntry]
    "/layers/0".toList otherLayer rfl).1 ⟨by decide, ?_⟩⟩
  intro removed removes created creation attrAvailable ready probes
  obtain rfl := congrArg Prod.snd removes
  obtain rfl := congrArg Prod.snd creation
  obtain rfl := congrArg Prod.snd probes
  obtain rfl : attrAvailable = true := (Except.ok.inj (congrArg Prod.fst probes)).symm
  refine ⟨fun _ => ?_, ?_⟩
  · rw [if_neg (by decide)]
    intro after done
    obtain rfl := congrArg Prod.snd done
    unfold TarEntry.Inside
    rw [if_neg (by decide), if_neg (by decide)]
    intro place leads _
    obtain rfl : place = ["layers".toList, ['0'], "hello".toList] := Option.some.inj (leads.symm.trans (by decide))
    decide
  · intro dirs' after done
    obtain rfl : dirs' = ∅ := (Except.ok.inj (congrArg Prod.fst done)).symm
    trivial

end Layers

end GuestComponents.Image.Unpack
