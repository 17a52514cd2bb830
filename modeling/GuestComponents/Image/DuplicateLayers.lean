import GuestComponents.Image.LayerIntegrity
import GuestComponents.Lib.Overlay

/-! Layers whose digest an image repeats. `create_image_meta` keeps the first of the
layers with one digest, which is the lowest of them in the mount, so what a repetition
higher up says of a path is lost where a layer between the two says something else
(`deduplicated_view_iff`, `repeated_layer_lost`). -/
namespace GuestComponents.Image
open Lib Lib.Overlay

variable {Name File Attrs : Type}

/-- The `layer_path` that `create_bundle` mounts: the directories of the image's layers,
the last one first. -/
def bundleLayerPath (image : ImageMeta) : List Text := (image.layerMetas.map LayerMeta.storePath).reverse

/-- What the directory shows that `OverlayFs::mount` mounts: the lower directories in the
order they are given, the first one on top, below a new upper directory. -/
def overlayMount (directories : Text → Layer Name File Attrs) (layerPath : List Text) :
    Tree Name File Attrs :=
  Layer.lookup (.blank :: layerPath.map directories)

/-- Whenever a repeated layer is the topmost one that mentions a path, the topmost one
that is kept below it and mentions the path says the same of it. The digests are those
of the manifest, the last one first. -/
def RepeatsTellNothingNew (content : Text → Layer Name File Attrs) (digests : List Text) : Prop :=
  ∀ path ≠ [], ∀ upper digest lower said, digests = upper ++ digest :: lower → digest ∈ lower →
    (content digest).verdict path = some said →
    (∀ above ∈ upper, (content above).verdict path = none) →
    Layer.topmost (lower.dedup.map content) path = some said

section Layers

variable {client : ImageClient} {id imageUrl : Text} {pulled : PulledManifest} {image : ImageMeta}
  {layers : List (OciDescriptor × Text)} {digests : List Text}

/-- Of the digests that are not known yet, the layers that are kept have the first
occurrence of each, which from above is the last one. -/
theorem uniqueLayers_digests (pairs : List (OciDescriptor × Text)) :
    ((uniqueLayers digests pairs).map fun pair => pair.1.digest).reverse =
      ((pairs.map fun pair => pair.1.digest).filter (· ∉ digests)).reverse.dedup := by
  induction pairs generalizing digests with
  | nil => rfl
  | cons pair rest ih =>
    obtain ⟨layer, diffId⟩ := pair
    rw [uniqueLayers, List.map_cons, List.filter_cons]
    by_cases known : layer.digest ∈ digests
    · rw [if_pos known, if_neg (by simpa using known)]
      exact ih
    · rw [if_neg known, if_pos (by simpa using known), List.map_cons, List.reverse_cons,
        List.reverse_cons, ih, dedup_concat, List.filter_reverse, List.filter_filter]
      congr 3
      apply List.filter_congr
      intro digest _
      simp [not_or]

/-- The digests of the layers that are kept of an image, from above. -/
theorem createImageMeta_digests (made : client.createImageMeta id imageUrl pulled = .ok (image, layers)) :
    (layers.map fun pair => pair.1.digest).reverse =
      (pulled.imageManifest.layers.map OciDescriptor.digest).reverse.dedup := by
  obtain ⟨_, counted, rfl⟩ := createImageMeta_ok made
  have whole : (pulled.imageManifest.layers.zip image.imageConfig.diffIds).map (fun pair => pair.1.digest) =
      pulled.imageManifest.layers.map OciDescriptor.digest := by
    show List.map (OciDescriptor.digest ∘ Prod.fst) _ = _
    rw [← List.map_map, List.map_fst_zip (Nat.le_of_eq counted)]
  rw [uniqueLayers_digests, whole]
  simp

variable {layerMetas : List LayerMeta} {directories content : Text → Layer Name File Attrs}

/-- The layers that a bundle mounts, from above. -/
theorem bundleLayerPath_content
    (made : client.createImageMeta id imageUrl pulled = .ok (image, layers))
    (stacked : layerMetas.map LayerMeta.compressedDigest = layers.map fun pair => pair.1.digest)
    (unpacked : ∀ layerMeta ∈ layerMetas,
      directories layerMeta.storePath = content layerMeta.compressedDigest) :
    (bundleLayerPath { image with layerMetas }).map directories =
      (pulled.imageManifest.layers.map OciDescriptor.digest).reverse.dedup.map content := by
  rw [← createImageMeta_digests made, ← stacked, bundleLayerPath, List.map_reverse, List.map_reverse,
    List.map_map, List.map_map]
  congr 1
  exact List.map_congr_left unpacked

/-- The mount of a bundle shows what the full list of the image's layers gives, applied
from the first one to the last, exactly if its repetitions tell nothing new. -/
theorem deduplicated_view_iff
    (made : client.createImageMeta id imageUrl pulled = .ok (image, layers))
    (stacked : layerMetas.map LayerMeta.compressedDigest = layers.map fun pair => pair.1.digest)
    (unpacked : ∀ layerMeta ∈ layerMetas,
      directories layerMeta.storePath = content layerMeta.compressedDigest) :
    (∀ path ≠ [], overlayMount directories (bundleLayerPath { image with layerMetas }) path =
        Layer.applyAll (pulled.imageManifest.layers.map fun layer => content layer.digest) path) ↔
      RepeatsTellNothingNew content (pulled.imageManifest.layers.map OciDescriptor.digest).reverse := by
  have listed : (pulled.imageManifest.layers.map fun layer => content layer.digest).reverse =
      (pulled.imageManifest.layers.map OciDescriptor.digest).reverse.map content := by
    rw [List.map_reverse, List.map_map]
    rfl
  have told : ∀ (digests : List Text) (path : List Name), Layer.topmost (digests.map content) path =
      digests.findSome? fun digest => (content digest).verdict path := by
    intro digests path
    rw [Layer.topmost, List.findSome?_map]
    rfl
  apply forall_congr'
  intro path
  apply forall_congr'
  intro below
  rw [overlayMount, Layer.lookup_eq below, Layer.topmost_cons, Layer.blank_verdict,
    Layer.applyAll_eq_lookup below, Layer.lookup_eq below, bundleLayerPath_content made stacked unpacked,
    listed, told, told]
  simp only [told]
  rw [join_dedup_iff, findSome?_dedup_iff]

end Layers

section Examples

/-- A client that reads every configuration as one of three layers, the last one with the
diff id of the first. -/
def repeatingClient : ImageClient :=
  { exampleImageClient none with fromReader := fun _ => .ok (linuxConfig [emptyDigest, zeroDigest, emptyDigest]) }

/-- An image whose third layer is its first one again. -/
def repeatingManifest : PulledManifest where
  imageManifest :=
    { config := ⟨"application/vnd.oci.image.config.v1+json".toList, zeroDigest, 0, []⟩
      layers := [⟨imageLayerMediaType, emptyDigest, 0, []⟩, ⟨imageLayerMediaType, zeroDigest, 0, []⟩,
        ⟨imageLayerMediaType, emptyDigest, 0, []⟩] }
  imageDigest := zeroDigest
  imageConfig := []

def repeatingImage : ImageMeta :=
  ⟨zeroDigest, zeroDigest, "x".toList, linuxConfig [emptyDigest, zeroDigest, emptyDigest], false, []⟩

def keptLayers : List (OciDescriptor × Text) :=
  [(⟨imageLayerMediaType, emptyDigest, 0, []⟩, emptyDigest),
    (⟨imageLayerMediaType, zeroDigest, 0, []⟩, zeroDigest)]

def keptMetas : List LayerMeta :=
  [⟨.gzip, false, emptyDigest, emptyDigest, "/l/0".toList⟩,
    ⟨.gzip, false, zeroDigest, zeroDigest, "/l/1".toList⟩]

theorem repeating_made : repeatingClient.createImageMeta zeroDigest "x".toList repeatingManifest =
    .ok (repeatingImage, keptLayers) := by decide +kernel

/-- A layer with one file. -/
def oneFile (name : Text) (file : Nat) : Layer Text Nat Unit :=
  fun path => if path = [name] then some (.file file) else none

theorem oneFile_silent {name first : Text} {file : Nat} {rest : List Text} (differs : first ≠ name) :
    (oneFile name file).verdict (first :: rest) = none := by
  cases rest <;> simp [Layer.verdict, oneFile, differs]

/-- The first layer has the file a, and the second one another file. -/
def layersApart (digest : Text) : Layer Text Nat Unit :=
  if digest = emptyDigest then oneFile "a".toList 1 else oneFile "b".toList 2

/-- Both layers have the file a. -/
def layersAlike (digest : Text) : Layer Text Nat Unit :=
  if digest = emptyDigest then oneFile "a".toList 1 else oneFile "a".toList 2

/-- The directories of the two layers. -/
def twoDirectories (content : Text → Layer Text Nat Unit) (storePath : Text) : Layer Text Nat Unit :=
  if storePath = "/l/0".toList then content emptyDigest else content zeroDigest

theorem twoDirectories_content (content : Text → Layer Text Nat Unit) : ∀ layerMeta ∈ keptMetas,
    twoDirectories content layerMeta.storePath = content layerMeta.compressedDigest := by
  simp [keptMetas, twoDirectories]

/-- `deduplicated_view_iff` where the layer between the repetitions is about another file. -/
theorem repeated_layer_kept :
    overlayMount (twoDirectories layersApart)
        (bundleLayerPath { repeatingImage with layerMetas := keptMetas }) ["a".toList] =
      Layer.applyAll (repeatingManifest.imageManifest.layers.map fun layer => layersApart layer.digest)
        ["a".toList] := by
  refine (deduplicated_view_iff repeating_made rfl (twoDirectories_content layersApart)).mpr ?_ _ (List.cons_ne_nil _ _)
  intro path below upper digest lower said whole again speaks _
  have stack : [emptyDigest, zeroDigest, emptyDigest] = upper ++ digest :: lower := whole
  have differs : zeroDigest ≠ emptyDigest := by decide +kernel
  obtain ⟨first, rest, rfl⟩ := List.exists_cons_of_ne_nil below
  match upper with
  | [] =>
    cases stack
    have kept : [zeroDigest, emptyDigest].dedup = [zeroDigest, emptyDigest] := by decide +kernel
    simp only [layersApart, ↓reduceIte] at speaks
    simp only [kept, List.map_cons, List.map_nil, layersApart, differs, ↓reduceIte, Layer.topmost_cons]
    by_cases ours : first = "a".toList
    · rw [oneFile_silent (by rw [ours]; decide), speaks]
    · rw [oneFile_silent ours] at speaks
      cases speaks
  | [_] =>
    cases stack
    simp [differs] at again
  | [_, _] =>
    cases stack
    cases again
  | _ :: _ :: _ :: _ => simp at stack

/-- The repetition is the topmost layer and is lost, so the file is that of the layer
between. -/
theorem repeated_layer_lost :
    repeatingClient.createImageMeta zeroDigest "x".toList repeatingManifest =
        .ok (repeatingImage, keptLayers) ∧
      ¬ ∀ path ≠ [], overlayMount (twoDirectories layersAlike)
          (bundleLayerPath { repeatingImage with layerMetas := keptMetas }) path =
        Layer.applyAll (repeatingManifest.imageManifest.layers.map fun layer => layersAlike layer.digest)
          path := by
  refine ⟨repeating_made, fun same => ?_⟩
  have shown := same ["a".toList] (List.cons_ne_nil _ _)
  have mounted : overlayMount (twoDirectories layersAlike)
      (bundleLayerPath { repeatingImage with layerMetas := keptMetas }) ["a".toList] = some (.file 2) := by
    decide +kernel
  have applied : Layer.applyAll (repeatingManifest.imageManifest.layers.map fun layer =>
      layersAlike layer.digest) ["a".toList] = some (.file 1) := by
    decide +kernel
  rw [mounted, applied] at shown
  cases shown

end Examples

end GuestComponents.Image
