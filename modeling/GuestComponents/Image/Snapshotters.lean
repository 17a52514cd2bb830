import GuestComponents.Image.DuplicateLayers

/-! The two snapshotters on the same layer directories. The overlay is the kernel's union of them;
the Occlum snapshotter copies one after the other over an empty directory, from the lowest one
up. A copy adds and replaces and takes nothing away, and fails where a directory meets something
else, so the two show the same exactly as long as no layer hides what a lower one has or gives it
another kind (`snapshotters_agree_iff`). -/
namespace GuestComponents.Image.Snapshotters
open Lib Lib.Overlay

/-- What is no directory. -/
inductive Node (Content : Type) where
  | regular (content : Content)
  | symlink (target : Text)
  deriving DecidableEq

/-- A directory that a layer was unpacked to. Of directories there are no attributes but whether
they are opaque. -/
abbrev LayerDir (Content : Type) := Layer Text (Node Content) Unit

abbrev Rootfs (Content : Type) := Tree Text (Node Content) Unit

/-- dircpy's `CopyBuilder::new(layer, mount_path).overwrite(true).run()`. -/
abbrev CopyBuilder (Content : Type) := LayerDir Content → Rootfs Content → Except String (Rootfs Content)

variable {Content : Type}

/-- The loop of `Unionfs::mount` over the layers, once the directory has been cleared: the last
one is taken first. -/
def copyLayers (copy : CopyBuilder Content) (directories : Text → LayerDir Content) (layerPath : List Text) :
    Except String (Rootfs Content) :=
  layerPath.foldrM (fun layer tree => copy (directories layer) tree) .empty

/-- The file or directory that a layer has at a path. -/
def present (layer : LayerDir Content) : Rootfs Content := fun path => (layer path).bind Entry.object

def IsLink (object : Option (Object (Node Content) Unit)) : Prop := ∃ target, object = some (.file (.symlink target))

/-- Nothing is copied onto a symbolic link, or a link onto something else. -/
def Clear (layer : LayerDir Content) (tree : Rootfs Content) : Prop :=
  ∀ path ≠ [],
    (IsLink (tree path) → present layer path = none) ∧ (IsLink (present layer path) → tree path = none)

/-- A copy that succeeds has put every file and every directory of the layer into place, over
what was there, and left all else: it goes by files, directories and links, and removes nothing.
Where it meets a symbolic link it may do what it likes. -/
def Merges (copy : CopyBuilder Content) : Prop :=
  ∀ layer tree tree', copy layer tree = .ok tree' → Clear layer tree →
    ∀ path ≠ [], tree' path = (present layer path).or (tree path)

/-- A directory. -/
def IsDir (object : Object (Node Content) Unit) : Prop := object = .dir ()

/-- Where two have something at a path, it is a directory in both or in none. -/
def SameKinds (upper lower : Rootfs Content) : Prop :=
  ∀ path ≠ [], ∀ object under,
    upper path = some object → lower path = some under → (IsDir object ↔ IsDir under)

/-- A copy fails where it would make a directory of something else, or open a directory to
write to it, and nowhere else. -/
def Completes (copy : CopyBuilder Content) : Prop :=
  ∀ layer tree, Clear layer tree → ((∃ tree', copy layer tree = .ok tree') ↔ SameKinds (present layer) tree)

/-- What is below a directory of the layer is below a directory. -/
def WellFormed (layer : LayerDir Content) : Prop :=
  ∀ path name, path ≠ [] → (layer (path ++ [name])).isSome → ∃ isOpaque, layer path = some (.dir () isOpaque)

/-- Where a layer has a symbolic link, no other one has anything. -/
def LinksApart (layers : List (LayerDir Content)) : Prop :=
  layers.Pairwise fun upper lower => ∀ path ≠ [],
    (IsLink (present lower path) → present upper path = none) ∧
      (IsLink (present upper path) → present lower path = none)

/-- Where the topmost layer that mentions a path says that there is nothing, by a whiteout, an
opaque directory or something that is no directory above it, no layer below it has anything. -/
def NothingHidden (layers : List (LayerDir Content)) : Prop :=
  ∀ path ≠ [], ∀ upper layer lower, layers = upper ++ layer :: lower → layer.verdict path = some none →
    (∀ above ∈ upper, above.verdict path = none) → ∀ under ∈ lower, present under path = none

/-- No layer has a directory where another one has something else. -/
def KindsAgree (layers : List (LayerDir Content)) : Prop :=
  layers.Pairwise fun upper lower => SameKinds (present upper) (present lower)

section Layers

variable {layer : LayerDir Content} {layers : List (LayerDir Content)} {path : List Text}

theorem WellFormed.above (wellFormed : WellFormed layer) (below : path ≠ []) {more : List Text} (some_ : more ≠ [])
    (there : (layer (path ++ more)).isSome) : ∃ isOpaque, layer path = some (.dir () isOpaque) := by
  induction more using List.reverseRecOn with
  | nil => exact absurd rfl some_
  | append_singleton more name ih =>
    rw [← List.append_assoc] at there
    obtain ⟨isOpaque, parent⟩ := wellFormed (path ++ more) name (List.append_ne_nil_of_left_ne_nil below more) there
    by_cases last : more = []
    · subst last
      rw [List.append_nil] at parent
      exact ⟨isOpaque, parent⟩
    · exact ih last (by rw [parent]; rfl)

/-- A layer that has something at a path says so. -/
theorem verdict_of_entry (wellFormed : WellFormed layer) (below : path ≠ []) {entry : Entry (Node Content) Unit}
    (here : layer path = some entry) : layer.verdict path = some entry.object := by
  induction path generalizing layer with
  | nil => exact absurd rfl below
  | cons name rest ih =>
    cases rest with
    | nil => rw [Layer.verdict, here, Option.map_some]
    | cons next rest =>
      obtain ⟨isOpaque, parent⟩ := @WellFormed.above _ layer [name] wellFormed (List.cons_ne_nil _ _) (next :: rest)
        (List.cons_ne_nil _ _) (by rw [List.singleton_append, here]; rfl)
      have inner : WellFormed (layer.sub name) := fun path name' _ some_ =>
        wellFormed (name :: path) name' (List.cons_ne_nil _ _) some_
      rw [Layer.verdict, parent]
      simp only [ih inner (List.cons_ne_nil _ _) here]

theorem verdict_of_present (wellFormed : WellFormed layer) (below : path ≠ []) {object : Object (Node Content) Unit}
    (here : present layer path = some object) : layer.verdict path = some (some object) := by
  obtain ⟨entry, found, same⟩ := Option.bind_eq_some_iff.mp here
  rw [verdict_of_entry wellFormed below found, same]

/-- A layer that does not say what is there has nothing there. -/
theorem present_eq_none (wellFormed : WellFormed layer) (below : path ≠ [])
    (other : ∀ object, layer.verdict path ≠ some (some object)) : present layer path = none := by
  by_contra some_
  obtain ⟨object, found⟩ := Option.ne_none_iff_exists'.mp some_
  exact other object (verdict_of_present wellFormed below found)

/-- A layer has what it says is at a path. -/
theorem present_of_verdict {object : Object (Node Content) Unit} (told : layer.verdict path = some (some object)) :
    present layer path = some object := by
  induction path generalizing layer with
  | nil => cases told
  | cons name rest ih =>
    cases rest with
    | nil =>
      obtain ⟨entry, here, same⟩ := Option.map_eq_some_iff.mp told
      rw [present, here, Option.bind_some, same]
    | cons next rest =>
      rw [Layer.verdict] at told
      split at told
      · cases told
      · rename_i isOpaque parent
        split at told
        · rename_i inner
          cases told
          exact ih inner
        · cases isOpaque <;> cases told
      · cases told

/-- What copying gives: what the topmost layer has there that has anything. -/
def topmostPresent (layers : List (LayerDir Content)) (path : List Text) : Option (Object (Node Content) Unit) :=
  layers.findSome? fun layer => present layer path

theorem topmostPresent_cons :
    topmostPresent (layer :: layers) path = (present layer path).or (topmostPresent layers path) := by
  rw [topmostPresent, List.findSome?_cons]
  cases present layer path <;> rfl

/-- Over what the layers below give, the copy of a layer meets no link. -/
theorem clear_of_linksApart {tree : Rootfs Content} (apart : LinksApart (layer :: layers))
    (built : ∀ path ≠ [], tree path = topmostPresent layers path) : Clear layer tree := by
  intro path below
  have pairs := (List.pairwise_cons.mp apart).1
  rw [built path below]
  constructor
  · rintro ⟨target, found⟩
    obtain ⟨lower, listed, here⟩ := List.exists_of_findSome?_eq_some found
    exact (pairs lower listed path below).1 ⟨target, here⟩
  · intro link
    rw [topmostPresent, List.findSome?_eq_none_iff]
    intro lower listed
    exact (pairs lower listed path below).2 link

variable {copy : CopyBuilder Content} {directories : Text → LayerDir Content} {layerPath : List Text}
  {tree : Rootfs Content}

theorem copyLayers_eq (merges : Merges copy) (apart : LinksApart (layerPath.map directories))
    (built : copyLayers copy directories layerPath = .ok tree) :
    ∀ path ≠ [], tree path = topmostPresent (layerPath.map directories) path := by
  induction layerPath generalizing tree with
  | nil =>
    cases built
    intro path _
    rfl
  | cons name layerPath ih =>
    rw [List.map_cons] at apart
    rw [copyLayers, List.foldrM_cons, ← copyLayers] at built
    cases lower : copyLayers copy directories layerPath with
    | error error =>
      rw [lower] at built
      cases built
    | ok under =>
      rw [lower] at built
      have before := ih (List.pairwise_cons.mp apart).2 lower
      intro path below
      rw [merges _ _ _ built (clear_of_linksApart apart before) path below, before path below, List.map_cons,
        topmostPresent_cons]

theorem SameKinds.refl (tree : Rootfs Content) : SameKinds tree tree := by
  intro path _ object under here there
  cases here.symm.trans there
  exact Iff.rfl

theorem SameKinds.symm {upper lower : Rootfs Content} (same : SameKinds upper lower) : SameKinds lower upper :=
  fun path below object under here there => (same path below under object there here).symm

theorem topmostPresent_of_mem (listed : layer ∈ layers) {object : Object (Node Content) Unit}
    (here : present layer path = some object) :
    ∃ top ∈ layers, ∃ shown, present top path = some shown ∧ topmostPresent layers path = some shown := by
  cases found : topmostPresent layers path with
  | none =>
    have absent := List.findSome?_eq_none_iff.mp found layer listed
    exact absurd (here.symm.trans absent) (by simp)
  | some shown =>
    obtain ⟨top, among, there⟩ := List.exists_of_findSome?_eq_some found
    exact ⟨top, among, shown, there, rfl⟩

/-- A layer agrees with what the layers below it give when it agrees with each of them, as
they do among themselves. -/
theorem sameKinds_topmostPresent {tree : Rootfs Content} (agree : KindsAgree layers)
    (built : ∀ path ≠ [], tree path = topmostPresent layers path) :
    SameKinds (present layer) tree ↔ ∀ lower ∈ layers, SameKinds (present layer) (present lower) := by
  have symmetric : Std.Symm fun upper lower : LayerDir Content => SameKinds (present upper) (present lower) :=
    ⟨fun upper lower same => same.symm⟩
  have all : ∀ top ∈ layers, ∀ lower ∈ layers, SameKinds (present top) (present lower) := by
    intro top among lower listed
    exact agree.forall_of_forall (fun one _ => .refl _) among listed
  constructor
  · intro same lower listed path below object under here there
    obtain ⟨top, among, shown, topmost, found⟩ := topmostPresent_of_mem listed there
    rw [← built path below] at found
    exact (same path below object shown here found).trans
      (all top among lower listed path below shown under topmost there)
  · intro same path below object under here found
    rw [built path below] at found
    obtain ⟨lower, listed, there⟩ := List.exists_of_findSome?_eq_some found
    exact same lower listed path below object under here there

/-- The copying succeeds exactly if no layer gives anything another kind. -/
theorem copyLayers_ok_iff (merges : Merges copy) (completes : Completes copy)
    (apart : LinksApart (layerPath.map directories)) :
    (∃ tree, copyLayers copy directories layerPath = .ok tree) ↔ KindsAgree (layerPath.map directories) := by
  induction layerPath with
  | nil => exact iff_of_true ⟨_, rfl⟩ List.Pairwise.nil
  | cons name layerPath ih =>
    rw [List.map_cons] at apart
    have others := (List.pairwise_cons.mp apart).2
    rw [copyLayers, List.foldrM_cons, ← copyLayers, List.map_cons, KindsAgree, List.pairwise_cons, ← KindsAgree]
    cases lower : copyLayers copy directories layerPath with
    | error error =>
      refine iff_of_false (fun ⟨tree, built⟩ => by cases built) fun ⟨_, agree⟩ => ?_
      obtain ⟨tree, built⟩ := (ih others).mpr agree
      cases lower.symm.trans built
    | ok under =>
      have before := copyLayers_eq merges others lower
      have agree := (ih others).mp ⟨under, lower⟩
      refine (completes _ under (clear_of_linksApart apart before)).trans ?_
      rw [sameKinds_topmostPresent agree before, and_iff_left agree]

/-- What is hidden is the only difference between what copying gives and what the union shows. -/
theorem topmostPresent_eq_iff (wellFormed : ∀ layer ∈ layers, WellFormed layer) (below : path ≠ []) :
    topmostPresent layers path = (Layer.topmost layers path).join ↔
      ∀ upper layer lower, layers = upper ++ layer :: lower → layer.verdict path = some none →
        (∀ above ∈ upper, above.verdict path = none) → ∀ under ∈ lower, present under path = none := by
  induction layers with
  | nil =>
    refine iff_of_true rfl ?_
    intro upper _ _ same
    exact absurd same.symm (List.append_ne_nil_of_right_ne_nil upper (List.cons_ne_nil _ _))
  | cons layer lower ih =>
    obtain ⟨here, others⟩ := List.forall_mem_cons.mp wellFormed
    rw [topmostPresent_cons, Layer.topmost_cons]
    cases told : layer.verdict path with
    | none =>
      have nothing : present layer path = none := present_eq_none here below (by simp [told])
      rw [nothing, Option.none_or]
      refine (ih others).trans ?_
      constructor
      · intro hidden upper layer' lower' same
        cases upper with
        | nil =>
          cases same
          intro hides
          exact absurd (told.symm.trans hides) (by simp)
        | cons first upper =>
          cases same
          intro hides silent
          exact hidden upper layer' lower' rfl hides (List.forall_mem_cons.mp silent).2
      · rintro hidden upper layer' lower' rfl hides silent
        exact hidden (layer :: upper) layer' lower' rfl hides (List.forall_mem_cons.mpr ⟨told, silent⟩)
    | some said =>
      have first : ∀ upper layer' lower', layer :: lower = upper ++ layer' :: lower' →
          (∀ above ∈ upper, above.verdict path = none) → layer' = layer ∧ lower' = lower := by
        intro upper layer' lower' same silent
        cases upper with
        | nil =>
          cases same
          exact ⟨rfl, rfl⟩
        | cons above upper =>
          cases same
          exact absurd (told.symm.trans (List.forall_mem_cons.mp silent).1) (by simp)
      cases said with
      | none =>
        have nothing : present layer path = none := present_eq_none here below (by simp [told])
        rw [nothing, Option.none_or, topmostPresent, Option.join_some, List.findSome?_eq_none_iff]
        constructor
        · intro absent upper layer' lower' same _ silent
          obtain ⟨rfl, rfl⟩ := first upper layer' lower' same silent
          exact absent
        · intro hidden
          exact hidden [] layer lower rfl told (List.forall_mem_nil _)
      | some object =>
        rw [present_of_verdict told, Option.some_or]
        refine iff_of_true rfl ?_
        intro upper layer' lower' same hides silent
        obtain ⟨rfl, _⟩ := first upper layer' lower' same silent
        exact absurd (told.symm.trans hides) (by simp)

/-- **The two snapshotters agree** on layers whose symbolic links are apart exactly if no layer
hides anything, or has a directory where another one has something else. -/
theorem snapshotters_agree_iff (merges : Merges copy) (completes : Completes copy)
    (wellFormed : ∀ name ∈ layerPath, WellFormed (directories name))
    (apart : LinksApart (layerPath.map directories)) :
    (∃ tree, copyLayers copy directories layerPath = .ok tree ∧
      ∀ path ≠ [], tree path = overlayMount directories layerPath path) ↔
      NothingHidden (layerPath.map directories) ∧ KindsAgree (layerPath.map directories) := by
  have shown : ∀ {tree}, copyLayers copy directories layerPath = .ok tree →
      ((∀ path ≠ [], tree path = overlayMount directories layerPath path) ↔
        NothingHidden (layerPath.map directories)) := by
    intro tree built
    refine forall_congr' fun path => forall_congr' fun below => ?_
    rw [copyLayers_eq merges apart built path below, overlayMount, Layer.lookup_eq below, Layer.topmost_cons,
      Layer.blank_verdict]
    exact topmostPresent_eq_iff (List.forall_mem_map.mpr wellFormed) below
  rw [← copyLayers_ok_iff merges completes apart]
  constructor
  · rintro ⟨tree, built, agrees⟩
    exact ⟨(shown built).mp agrees, tree, built⟩
  · rintro ⟨nothing, tree, built⟩
    exact ⟨tree, built, (shown built).mpr nothing⟩

end Layers

section Examples

open Classical in
/-- A copy that meets no error of the disk. -/
noncomputable def mergeCopy : CopyBuilder Nat := fun layer tree =>
  if SameKinds (present layer) tree then .ok fun path => (present layer path).or (tree path)
  else .error "File exists"

theorem mergeCopy_merges : Merges mergeCopy := by
  intro layer tree tree' copied _ path _
  unfold mergeCopy at copied
  split at copied
  · cases copied
    rfl
  · cases copied

theorem mergeCopy_completes : Completes mergeCopy := by
  intro layer tree _
  unfold mergeCopy
  split
  · rename_i same
    exact iff_of_true ⟨_, rfl⟩ same
  · rename_i differs
    exact iff_of_false (fun ⟨_, copied⟩ => by cases copied) differs

/-- A directory with a file, below it the same directory with another file. -/
def twoFiles (name : Text) : LayerDir Nat := fun path =>
  if path = ["etc".toList] then some (.dir () false)
  else if path = ["etc".toList, name] then some (.file (.regular name.length)) else none

/-- The upper layer's directory is opaque. -/
def opaqueOver (name : Text) : LayerDir Nat := fun path =>
  if path = ["etc".toList] ∧ name = "upper".toList then some (.dir () true) else twoFiles name path

/-- What these two layers consist of. -/
def OneFile (name : Text) (layer : LayerDir Nat) : Prop :=
  ∀ path entry, layer path = some entry → (path = ["etc".toList] ∧ ∃ isOpaque, entry = .dir () isOpaque) ∨
    path = ["etc".toList, name] ∧ entry = .file (.regular name.length)

theorem twoFiles_oneFile (name : Text) : OneFile name (twoFiles name) := by
  intro path entry here
  unfold twoFiles at here
  split at here
  · cases here
    exact .inl ⟨‹_›, _, rfl⟩
  · split at here
    · cases here
      exact .inr ⟨‹_›, rfl⟩
    · cases here

theorem opaqueOver_oneFile (name : Text) : OneFile name (opaqueOver name) := by
  intro path entry here
  unfold opaqueOver at here
  split at here
  · rename_i upper
    cases here
    exact .inl ⟨upper.1, _, rfl⟩
  · exact twoFiles_oneFile name path entry here

theorem OneFile.present_eq {name : Text} {layer : LayerDir Nat} (one : OneFile name layer) {path : List Text}
    {object : Object (Node Nat) Unit} (here : present layer path = some object) :
    (path = ["etc".toList] ∧ object = .dir ()) ∨
      path = ["etc".toList, name] ∧ object = .file (.regular name.length) := by
  obtain ⟨entry, there, same⟩ := Option.bind_eq_some_iff.mp here
  rcases one path entry there with ⟨etc, _, rfl⟩ | ⟨file, rfl⟩
  · exact .inl ⟨etc, (Option.some.inj same).symm⟩
  · exact .inr ⟨file, (Option.some.inj same).symm⟩

theorem oneFile_linksApart {layers : Text → LayerDir Nat} (one : ∀ name, OneFile name (layers name))
    (names : List Text) : LinksApart (names.map layers) := by
  have none_ : ∀ name path, ¬ IsLink (present (layers name) path) := by
    rintro name path ⟨target, found⟩
    rcases (one name).present_eq found with ⟨_, same⟩ | ⟨_, same⟩ <;> cases same
  refine List.pairwise_map.mpr (List.pairwise_of_forall fun upper lower path _ => ?_)
  exact ⟨fun link => absurd link (none_ _ _), fun link => absurd link (none_ _ _)⟩

theorem oneFile_kindsAgree {layers : Text → LayerDir Nat} (one : ∀ name, OneFile name (layers name))
    (names : List Text) : KindsAgree (names.map layers) := by
  refine List.pairwise_map.mpr (List.pairwise_of_forall fun upper lower path _ object under here there => ?_)
  rcases (one upper).present_eq here with ⟨rfl, rfl⟩ | ⟨rfl, rfl⟩ <;>
    rcases (one lower).present_eq there with ⟨path, rfl⟩ | ⟨path, rfl⟩ <;> simp_all [IsDir]

theorem twoFiles_some {name : Text} {path : List Text} (there : (twoFiles name path).isSome) :
    path = ["etc".toList] ∨ path = ["etc".toList, name] := by
  obtain ⟨entry, here⟩ := Option.isSome_iff_exists.mp there
  exact (twoFiles_oneFile name path entry here).imp And.left And.left

theorem twoFiles_wellFormed (name : Text) : WellFormed (twoFiles name) := by
  intro path last below there
  rcases twoFiles_some there with one | two
  · obtain ⟨empty, _⟩ := @List.append_inj' _ path [last] [] ["etc".toList] one rfl
    exact absurd empty below
  · obtain ⟨rfl, _⟩ := @List.append_inj' _ path [last] ["etc".toList] [name] two rfl
    exact ⟨false, rfl⟩

theorem twoFiles_nothingHidden : NothingHidden (["upper".toList, "lower".toList].map twoFiles) := by
  intro path below upper layer lower same hides silent under listed
  by_contra some_
  obtain ⟨object, found⟩ := Option.ne_none_iff_exists'.mp some_
  match upper with
  | [] =>
    cases same
    obtain rfl := List.mem_singleton.mp listed
    obtain ⟨entry, there, _⟩ := Option.bind_eq_some_iff.mp found
    rcases twoFiles_some (by rw [there]; rfl) with rfl | rfl
    · exact absurd hides (by decide)
    · exact absurd hides (by decide)
  | [_] =>
    cases same
    cases listed
  | _ :: _ :: _ => simp at same

/-- `snapshotters_agree_iff` where both layers only add. -/
theorem additive_layers_agree : ∃ tree, copyLayers mergeCopy twoFiles ["upper".toList, "lower".toList] = .ok tree ∧
    ∀ path ≠ [], tree path = overlayMount twoFiles ["upper".toList, "lower".toList] path :=
  (snapshotters_agree_iff mergeCopy_merges mergeCopy_completes (fun name _ => twoFiles_wellFormed name)
    (oneFile_linksApart twoFiles_oneFile _)).mpr ⟨twoFiles_nothingHidden, oneFile_kindsAgree twoFiles_oneFile _⟩

/-- The lower layer's file is hidden by an opaque directory, and copied. -/
theorem hidden_file_copied : ∃ tree, copyLayers mergeCopy opaqueOver ["upper".toList, "lower".toList] = .ok tree ∧
    tree ["etc".toList, "lower".toList] ≠
      overlayMount opaqueOver ["upper".toList, "lower".toList] ["etc".toList, "lower".toList] := by
  have apart := oneFile_linksApart opaqueOver_oneFile ["upper".toList, "lower".toList]
  obtain ⟨tree, built⟩ := (copyLayers_ok_iff mergeCopy_merges mergeCopy_completes apart).mpr
    (oneFile_kindsAgree opaqueOver_oneFile _)
  refine ⟨tree, built, ?_⟩
  rw [copyLayers_eq mergeCopy_merges apart built _ (List.cons_ne_nil _ _)]
  decide

end Examples

end GuestComponents.Image.Snapshotters
