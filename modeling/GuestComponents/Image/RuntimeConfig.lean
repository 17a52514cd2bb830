import GuestComponents.Lib.Text
import Mathlib.Data.List.AList

/-! `create_runtime_config`: the runtime configuration of an image, over the defaults of the
crate. A field of the image becomes an annotation unless a label has its key already; the
exposed ports do so without asking. The labels are all there, with their values, exactly where
none of them is overwritten by the ports (`runtime_config_follows_iff`). -/
namespace GuestComponents.Image.RuntimeConfig
open Lib Lib.Text

/-- A `HashMap` of texts. -/
abbrev TextMap := AList fun _ : Text => Text

instance : DecidableEq TextMap := fun first second =>
  decidable_of_iff (first.entries = second.entries) AList.ext_iff.symm

/-- `oci_spec::image::Config`. -/
structure Config where
  exposedPorts : Option (List Text)
  env : Option (List Text)
  entrypoint : Option (List Text)
  cmd : Option (List Text)
  volumes : Option (List Text)
  workingDir : Option Text
  labels : Option TextMap
  stopSignal : Option Text
  deriving DecidableEq

/-- `oci_spec::image::ImageConfiguration`, with the texts of its system and architecture. -/
structure ImageConfiguration where
  created : Option Text
  author : Option Text
  architecture : Text
  os : Text
  osVersion : Option Text
  osFeatures : Option (List Text)
  variant : Option Text
  config : Option Config

/-- `oci_spec::runtime::Mount`. -/
structure Mount where
  destination : Text
  typ : Option Text
  source : Option Text
  options : Option (List Text)

/-- `oci_spec::runtime::Process`. -/
structure Process where
  cwd : Text
  env : Option (List Text)
  args : Option (List Text)

/-- `oci_spec::runtime::Spec`. -/
structure Spec where
  hostname : Option Text
  process : Option Process
  mounts : Option (List Mount)
  annotations : Option TextMap

/-- The defaults of the crate, and the JSON text of a list of texts. -/
structure OciSpec where
  spec : Spec
  process : Process
  toJson : List Text → Option Text

def bundleHostname : Text := "image-rs".toList

def annotationOs : Text := "org.opencontainers.image.os".toList
def annotationOsVersion : Text := "org.opencontainers.image.os.version".toList
def annotationOsFeatures : Text := "org.opencontainers.image.os.features".toList
def annotationArch : Text := "org.opencontainers.image.architecture".toList
def annotationVariant : Text := "org.opencontainers.image.variant".toList
def annotationAuthor : Text := "org.opencontainers.image.author".toList
def annotationCreated : Text := "org.opencontainers.image.created".toList
def annotationStopSignal : Text := "org.opencontainers.image.stopSignal".toList
def annotationExposedPorts : Text := "org.opencontainers.image.exposedPorts".toList

section Code

variable (oci : OciSpec)

/-- `if !labels.contains_key(key) { if let Some(value) = value { annotations.insert(key, value); } }`. -/
def insertUnlessLabelled (labels : TextMap) (key : Text) (value : Option Text) (annotations : TextMap) : TextMap :=
  if key ∈ labels then annotations
  else match value with
    | some value => annotations.insert key value
    | none => annotations

def processOf (config : Config) : Process :=
  let args := config.entrypoint.getD [] ++ config.cmd.getD []
  { cwd := config.workingDir.getD oci.process.cwd
    env := config.env.orElse fun _ => oci.process.env
    args := if args = [] then oci.process.args else some args }

def volumeMount (volume : Text) : Mount where
  destination := volume
  typ := some "tmpfs".toList
  source := none
  options := some ["nosuid".toList, "noexec".toList, "nodev".toList, "relatime".toList, "rw".toList]

/-- The mounts with those for the volumes before them. -/
def mountsOf (config : Config) : Option (List Mount) :=
  match config.volumes.getD [] with
  | [] => oci.spec.mounts
  | volumes => some (volumes.map volumeMount ++ oci.spec.mounts.getD [])

def labelsOf (image : ImageConfiguration) : TextMap := (image.config.bind Config.labels).getD ∅

/-- `exposed_ports.join(",")`. -/
def portsText (ports : List Text) : Text := [','].intercalate ports

/-- The annotations from `config`: the labels, the stop signal and the exposed ports. -/
def configAnnotations (labels : TextMap) (config : Config) : TextMap :=
  let annotations := insertUnlessLabelled labels annotationStopSignal config.stopSignal labels
  match config.exposedPorts with
  | some ports => annotations.insert annotationExposedPorts (portsText ports)
  | none => annotations

/-- The annotations from the other fields of the image. -/
def imageAnnotations (image : ImageConfiguration) (labels annotations : TextMap) : TextMap :=
  insertUnlessLabelled labels annotationCreated image.created
    (insertUnlessLabelled labels annotationAuthor image.author
      (insertUnlessLabelled labels annotationVariant image.variant
        (insertUnlessLabelled labels annotationArch (some image.architecture)
          (insertUnlessLabelled labels annotationOsFeatures (image.osFeatures.bind oci.toJson)
            (insertUnlessLabelled labels annotationOsVersion image.osVersion
              (insertUnlessLabelled labels annotationOs (some image.os) annotations))))))

def annotationsOf (image : ImageConfiguration) : TextMap :=
  imageAnnotations oci image (labelsOf image) (image.config.elim ∅ (configAnnotations (labelsOf image)))

def runtimeSpec (image : ImageConfiguration) : Spec where
  hostname := some bundleHostname
  process := image.config.elim oci.spec.process fun config => some (processOf oci config)
  mounts := image.config.elim oci.spec.mounts (mountsOf oci)
  annotations := some (annotationsOf oci image)

/-- `create_runtime_config`, in a bundle that may have a configuration already. -/
def createRuntimeConfig (image : ImageConfiguration) (bundleConfigExists : Bool) (save : Spec → Except String Unit) :
    Except String Spec :=
  if bundleConfigExists then .error "OCI config file already exists"
  else do
    save (runtimeSpec oci image)
    pure (runtimeSpec oci image)

end Code

section Specification

/-- The verbatim fields of the image: the arguments are the entry point and then the command,
where these give any, and the environment and the directory are the image's. -/
structure TakesOver (config : Config) (process : Process) : Prop where
  args : config.entrypoint.getD [] ++ config.cmd.getD [] ≠ [] →
    process.args = some (config.entrypoint.getD [] ++ config.cmd.getD [])
  env : ∀ env, config.env = some env → process.env = some env
  cwd : ∀ workingDir, config.workingDir = some workingDir → process.cwd = workingDir

/-- The specification follows the conversion rules for the image. -/
structure FollowsConversion (image : ImageConfiguration) (spec : Spec) : Prop where
  process : ∀ config, image.config = some config → ∃ process,
    spec.process = some process ∧ TakesOver config process
  labels : ∀ config labels key value, image.config = some config → config.labels = some labels →
    labels.lookup key = some value → ∃ annotations, spec.annotations = some annotations ∧
      annotations.lookup key = some value

/-- A label with the key of the exposed ports says what these say. -/
def PortsAgree (image : ImageConfiguration) : Prop :=
  ∀ config labels ports value, image.config = some config → config.labels = some labels →
    config.exposedPorts = some ports → labels.lookup annotationExposedPorts = some value → value = portsText ports

end Specification

section Results

variable {oci : OciSpec} {labels annotations : TextMap} {key key' value : Text} {value' : Option Text}
  {image : ImageConfiguration} {config : Config}

/-- A label keeps what it has where an annotation asks first. -/
theorem lookup_insertUnlessLabelled (labelled : labels.lookup key = some value) :
    (insertUnlessLabelled labels key' value' annotations).lookup key = annotations.lookup key := by
  by_cases listed : key' ∈ labels
  · rw [insertUnlessLabelled.eq_def, if_pos listed]
  · have other : key ≠ key' := by
      rintro rfl
      exact listed (AList.lookup_isSome.mp (Option.isSome_of_eq_some labelled))
    rw [insertUnlessLabelled.eq_def, if_neg listed]
    cases value' with
    | none => rfl
    | some inserted => exact AList.lookup_insert_ne other

theorem lookup_imageAnnotations (labelled : labels.lookup key = some value) :
    (imageAnnotations oci image labels annotations).lookup key = annotations.lookup key := by
  simp only [imageAnnotations, lookup_insertUnlessLabelled labelled]

/-- Of the annotations for a label's key, only that of the exposed ports is not the label's. -/
theorem lookup_annotations (there : image.config = some config) (given : config.labels = some labels)
    (labelled : labels.lookup key = some value) : (annotationsOf oci image).lookup key =
      if key = annotationExposedPorts then some ((config.exposedPorts.map portsText).getD value) else some value := by
  have own : labelsOf image = labels := by
    rw [labelsOf, there, Option.bind_some, given]
    rfl
  rw [annotationsOf, own, lookup_imageAnnotations labelled, there]
  change (configAnnotations labels config).lookup key = _
  rw [configAnnotations]
  cases ports : config.exposedPorts with
  | none =>
    rw [lookup_insertUnlessLabelled labelled, labelled]
    split <;> rfl
  | some ports =>
    by_cases same : key = annotationExposedPorts
    · rw [if_pos same, same]
      exact AList.lookup_insert _
    · rw [if_neg same]
      exact (AList.lookup_insert_ne same).trans ((lookup_insertUnlessLabelled labelled).trans labelled)

theorem takesOver_processOf (config : Config) : TakesOver config (processOf oci config) where
  args given := by
    rw [processOf]
    exact if_neg given
  env env given := by
    rw [processOf, given]
    rfl
  cwd workingDir given := by
    rw [processOf, given]
    rfl

/-- In a bundle without a configuration, the image's one is made and saved, and it follows the
conversion rules exactly when no label differs from the exposed ports under their key. -/
theorem runtime_config_follows_iff (oci : OciSpec) (image : ImageConfiguration) :
    createRuntimeConfig oci image false (fun _ => .ok ()) = .ok (runtimeSpec oci image) ∧
      (FollowsConversion image (runtimeSpec oci image) ↔ PortsAgree image) := by
  refine ⟨rfl, ?_, ?_⟩
  · intro follows config labels ports value there given exposed labelled
    obtain ⟨annotations, made, found⟩ := follows.labels config labels _ value there given labelled
    cases made
    rw [lookup_annotations there given labelled, if_pos rfl, exposed] at found
    exact (Option.some.inj found).symm
  · intro agree
    refine ⟨?_, ?_⟩
    · intro config there
      refine ⟨processOf oci config, ?_, takesOver_processOf config⟩
      rw [runtimeSpec, there]
      rfl
    · intro config labels key value there given labelled
      refine ⟨_, rfl, ?_⟩
      rw [lookup_annotations there given labelled]
      split
      · rename_i same
        subst same
        cases exposed : config.exposedPorts with
        | none => rfl
        | some ports =>
          rw [agree config labels ports value there given exposed labelled]
          rfl
      · rfl

/-- An image that says in a label what its port is called. -/
def labelledPorts : ImageConfiguration where
  created := none
  author := none
  architecture := "amd64".toList
  os := "linux".toList
  osVersion := none
  osFeatures := none
  variant := none
  config := some
    { exposedPorts := some ["8080/tcp".toList]
      env := none
      entrypoint := some ["/bin/app".toList]
      cmd := none
      volumes := none
      workingDir := none
      labels := some (AList.insert annotationExposedPorts "http".toList ∅)
      stopSignal := none }

def exampleOci : OciSpec where
  spec := ⟨none, none, none, none⟩
  process := ⟨"/".toList, none, some ["sh".toList]⟩
  toJson _ := none

/-- The label is overwritten by the ports. -/
theorem label_overwritten : ¬ FollowsConversion labelledPorts (runtimeSpec exampleOci labelledPorts) := by
  intro follows
  obtain ⟨annotations, made, found⟩ := follows.labels _ _ annotationExposedPorts "http".toList rfl rfl
    (AList.lookup_insert _)
  cases made
  have overwritten : (annotationsOf exampleOci labelledPorts).lookup annotationExposedPorts =
      some "8080/tcp".toList := by
    decide +kernel
  rw [overwritten] at found
  exact absurd found (by decide)

end Results

end GuestComponents.Image.RuntimeConfig
