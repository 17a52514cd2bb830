import GuestComponents.Lib.Text
import Mathlib.Data.List.AList

/-! `layer_store.rs`: directories for layers. The next index is found from the names in
the data directory when a client is made, and only counted up from then on. -/
namespace GuestComponents.Image
open Lib Lib.Text

/-- What stands at a path. A layer's directory is as the unpacker left it: some of the
layer, or all of a stream. -/
inductive Content where
  | file
  | partially
  | unpacked (stream : List UInt8)
  deriving DecidableEq

def Content.isDir : Content → Bool
  | .file => false
  | _ => true

/-- The paths of the file system that layers are about. -/
abbrev Disk := AList fun _ : Text => Content

/-- `usize::MAX + 1`. -/
def usizeBound : Nat := 2 ^ 64

/-- `str::parse::<usize>`. -/
def parseUsize (text : Text) : Option Nat :=
  let digits := match text with
    | '+' :: rest => rest
    | _ => text
  if digits ≠ [] ∧ digits.all Char.isDigit ∧ Nat.ofDigitChars 10 digits 0 < usizeBound then
    some (Nat.ofDigitChars 10 digits 0)
  else none

/-- The names in a directory, with what stands there. -/
def readDir (disk : Disk) (dataDir : Text) : List (Text × Content) :=
  disk.entries.filterMap fun entry =>
    match entry.1.dropPrefix? (dataDir ++ ['/']) with
    | some name => if '/' ∈ name then none else some (name, entry.2)
    | none => none

structure LayerStore where
  dataDir : Text
  layersIndex : Nat

/-- One round of the loop over the names. The sum wraps; a debug build panics instead. -/
def nextIndex (next : Nat) (entry : Text × Content) : Nat :=
  if entry.2.isDir then
    match parseUsize entry.1 with
    | some n => if next ≤ n then (n + 1) % usizeBound else next
    | none => next
  else next

/-- `LayerStore::get_layer_index`. -/
def getLayerIndex (disk : Disk) (dataDir : Text) : Nat := (readDir disk dataDir).foldl nextIndex 0

/-- `LayerStore::new`, for the layers directory under the work directory. -/
def LayerStore.new (disk : Disk) (dataDir : Text) : LayerStore := ⟨dataDir, getLayerIndex disk dataDir⟩

/-- The directory of the layer with an index. -/
def layerPath (dataDir : Text) (index : Nat) : Text := dataDir ++ '/' :: Nat.toDigits 10 index

/-- `LayerStore::new_layer_store_path`; the addition is one atomic step. -/
def LayerStore.newLayerStorePath (store : LayerStore) : Text × LayerStore :=
  (layerPath store.dataDir store.layersIndex, { store with layersIndex := (store.layersIndex + 1) % usizeBound })

/-- There is no directory with the greatest index, after which there is none. -/
def IndexLeft (disk : Disk) (dataDir : Text) : Prop :=
  ∀ entry ∈ readDir disk dataDir, entry.2.isDir = true → ∀ n, parseUsize entry.1 = some n → n + 1 < usizeBound

theorem layerPath_injective {dataDir : Text} {n m : Nat} (same : layerPath dataDir n = layerPath dataDir m) :
    n = m := by
  have digits : Nat.toDigits 10 n = Nat.toDigits 10 m := by simpa [layerPath] using same
  have values := congrArg (Nat.ofDigitChars 10 · 0) digits
  simpa using values

theorem parseUsize_toDigits {n : Nat} (fits : n < usizeBound) : parseUsize (Nat.toDigits 10 n) = some n := by
  have digits : ∀ c ∈ Nat.toDigits 10 n, c.isDigit := fun c listed =>
    Nat.isDigit_of_mem_toDigits (by decide) (by decide) listed
  have plain : ∀ rest, Nat.toDigits 10 n ≠ '+' :: rest := by
    intro rest starts
    have digit := digits '+' (by simp [starts])
    exact absurd digit (by decide)
  unfold parseUsize
  split
  · rename_i rest starts
    exact absurd starts (plain rest)
  · simp [Nat.toDigits_ne_nil, fits, List.all_eq_true.mpr digits]

/-- A layer's directory is listed under its number. -/
theorem mem_readDir {disk : Disk} {dataDir : Text} {n : Nat} {content : Content}
    (stands : disk.lookup (layerPath dataDir n) = some content) :
    (Nat.toDigits 10 n, content) ∈ readDir disk dataDir := by
  have plain : '/' ∉ Nat.toDigits 10 n := by
    intro listed
    have digit := Nat.isDigit_of_mem_toDigits (b := 10) (by decide) (by decide) listed
    exact absurd digit (by decide)
  have dropped : (layerPath dataDir n).dropPrefix? (dataDir ++ ['/']) = some (Nat.toDigits 10 n) :=
    List.dropPrefix?_eq_some_iff.mpr ⟨dataDir ++ ['/'], by simp [layerPath], by simp⟩
  apply List.mem_filterMap.mpr
  refine ⟨⟨layerPath dataDir n, content⟩, AList.mem_lookup_iff.mp stands, ?_⟩
  simp [dropped, plain]

theorem nextIndex_ge {next : Nat} {entry : Text × Content}
    (left : entry.2.isDir = true → ∀ n, parseUsize entry.1 = some n → n + 1 < usizeBound) :
    next ≤ nextIndex next entry := by
  unfold nextIndex
  split
  · rename_i directory
    split
    · rename_i n parsed
      have small := left directory n parsed
      rw [Nat.mod_eq_of_lt small]
      split <;> omega
    · exact Nat.le_refl _
  · exact Nat.le_refl _

theorem nextIndex_gt {next n : Nat} {entry : Text × Content} (directory : entry.2.isDir = true)
    (parsed : parseUsize entry.1 = some n) (left : n + 1 < usizeBound) : n < nextIndex next entry := by
  simp only [nextIndex, directory, if_true, parsed, Nat.mod_eq_of_lt left]
  split <;> omega

/-- The loop ends above every number it has met, and where it started. -/
theorem foldl_nextIndex {entries : List (Text × Content)} {start : Nat}
    (left : ∀ entry ∈ entries, entry.2.isDir = true → ∀ n, parseUsize entry.1 = some n → n + 1 < usizeBound) :
    start ≤ entries.foldl nextIndex start ∧ ∀ entry ∈ entries, entry.2.isDir = true →
      ∀ n, parseUsize entry.1 = some n → n < entries.foldl nextIndex start := by
  induction entries generalizing start with
  | nil => simp
  | cons entry entries ih =>
    obtain ⟨first, others⟩ := List.forall_mem_cons.mp left
    obtain ⟨above, met⟩ := @ih (nextIndex start entry) others
    constructor
    · exact Nat.le_trans (nextIndex_ge first) above
    · intro other listed directory n parsed
      rcases List.mem_cons.mp listed with rfl | listed
      · exact Nat.lt_of_lt_of_le (nextIndex_gt directory parsed (first directory n parsed)) above
      · exact met other listed directory n parsed

/-- No layer of the data directory has the index that a new client starts from, or a
greater one. -/
theorem getLayerIndex_fresh {disk : Disk} {dataDir : Text} (left : IndexLeft disk dataDir) {n : Nat}
    (fits : n < usizeBound) {content : Content} (directory : content.isDir = true)
    (stands : disk.lookup (layerPath dataDir n) = some content) : n < getLayerIndex disk dataDir :=
  (foldl_nextIndex left).2 _ (mem_readDir stands) directory n (parseUsize_toDigits fits)

end GuestComponents.Image
