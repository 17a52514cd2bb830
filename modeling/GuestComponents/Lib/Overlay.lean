import Mathlib.Data.List.Dedup
import Mathlib.Data.List.Induction

/-! Stacks of directory layers. `Layer.lookup` finds a path as a union mount does: a
directory is merged from the layers that have it, from the topmost one down to the
first that is opaque or has something else there. `Layer.apply` puts one layer over a
tree, as an archive of changes is applied. Both say of a path what the topmost layer
says that mentions it (`Layer.verdict`), so a mount shows what applying its layers
from the bottom gives. -/
namespace GuestComponents.Lib.Overlay

/-- What a layer has at a path: a whiteout, something that is no directory, or a
directory, which may hide what is below it. -/
inductive Entry (File Attrs : Type) where
  | whiteout
  | file (file : File)
  | dir (attrs : Attrs) (isOpaque : Bool)
  deriving DecidableEq

/-- What is found at a path. -/
inductive Object (File Attrs : Type) where
  | file (file : File)
  | dir (attrs : Attrs)
  deriving DecidableEq

def Entry.object {File Attrs : Type} : Entry File Attrs → Option (Object File Attrs)
  | .whiteout => none
  | .file content => some (.file content)
  | .dir attrs _ => some (.dir attrs)

/-- The entries of a layer below its root. -/
abbrev Layer (Name File Attrs : Type) := List Name → Option (Entry File Attrs)

/-- The files and directories below a root. -/
abbrev Tree (Name File Attrs : Type) := List Name → Option (Object File Attrs)

variable {Name File Attrs : Type}

def Tree.empty : Tree Name File Attrs := fun _ => none

namespace Layer

/-- A layer with nothing in it. -/
def blank : Layer Name File Attrs := fun _ => none

/-- The layer that a directory of the layer is. -/
def sub (layer : Layer Name File Attrs) (name : Name) : Layer Name File Attrs :=
  fun path => layer (name :: path)

/-- The layers that are merged below a directory that has been found. -/
def mergedDirs (name : Name) : List (Layer Name File Attrs) → List (Layer Name File Attrs)
  | [] => []
  | layer :: below =>
    match layer [name] with
    | none => mergedDirs name below
    | some (.dir _ isOpaque) => layer.sub name :: if isOpaque then [] else mergedDirs name below
    | some _ => []

/-- The first of the layers, topmost first, that has this name: what it has there, and
the layers that the directory consists of if it is one. -/
def find (name : Name) : List (Layer Name File Attrs) →
    Option (Object File Attrs × List (Layer Name File Attrs))
  | [] => none
  | layer :: below =>
    match layer [name] with
    | none => find name below
    | some .whiteout => none
    | some (.file file) => some (.file file, [])
    | some (.dir attrs isOpaque) =>
      some (.dir attrs, layer.sub name :: if isOpaque then [] else mergedDirs name below)

/-- What the union of layers, topmost first, shows at a path below the root. -/
def lookup (layers : List (Layer Name File Attrs)) : Tree Name File Attrs
  | [] => none
  | [name] => (find name layers).map Prod.fst
  | name :: next :: rest =>
    match find name layers with
    | none => none
    | some (_, dirs) => lookup dirs (next :: rest)

/-- The tree that a layer makes of another one. A whiteout takes away what is there, an
opaque directory empties it, and what is no directory takes its place. -/
def apply (layer : Layer Name File Attrs) (tree : Tree Name File Attrs) : Tree Name File Attrs
  | [] => none
  | [name] =>
    match layer [name] with
    | none => tree [name]
    | some entry => entry.object
  | name :: next :: rest =>
    match layer [name] with
    | none => tree (name :: next :: rest)
    | some (.dir _ isOpaque) =>
      apply (layer.sub name) (if isOpaque then .empty else fun path => tree (name :: path)) (next :: rest)
    | some _ => none

/-- What a layer says of a path: nothing, that there is nothing, or what is there. -/
def verdict (layer : Layer Name File Attrs) : List Name → Option (Option (Object File Attrs))
  | [] => none
  | [name] => (layer [name]).map Entry.object
  | name :: next :: rest =>
    match layer [name] with
    | none => none
    | some (.dir _ isOpaque) =>
      match verdict (layer.sub name) (next :: rest) with
      | some said => some said
      | none => if isOpaque then some none else none
    | some _ => some none

/-- The topmost verdict of the layers on a path. -/
def topmost (layers : List (Layer Name File Attrs)) (path : List Name) :
    Option (Option (Object File Attrs)) :=
  layers.findSome? fun layer => layer.verdict path

variable {layer : Layer Name File Attrs} {layers : List (Layer Name File Attrs)} {name : Name}
  {path : List Name}

theorem topmost_cons : topmost (layer :: layers) path =
    match layer.verdict path with
    | some said => some said
    | none => topmost layers path := by
  rw [topmost, List.findSome?_cons]
  cases layer.verdict path <;> rfl

theorem blank_verdict : (blank : Layer Name File Attrs).verdict path = none := by
  match path with
  | [] | [_] | _ :: _ :: _ => rfl

/-- A layer decides where it says something, and else leaves the tree as it was. -/
theorem apply_eq {tree : Tree Name File Attrs} (below : path ≠ []) :
    layer.apply tree path = (layer.verdict path).getD (tree path) := by
  induction path generalizing layer tree with
  | nil => exact absurd rfl below
  | cons name rest ih =>
    cases rest with
    | nil =>
      simp only [apply, verdict]
      cases layer [name] <;> rfl
    | cons next rest =>
      simp only [apply, verdict, ih (List.cons_ne_nil next rest)]
      cases layer [name] with
      | none => rfl
      | some entry =>
        cases entry with
        | dir attrs isOpaque =>
          cases verdict (layer.sub name) (next :: rest) with
          | some said => rfl
          | none => cases isOpaque <;> rfl
        | _ => rfl

/-- Below a directory, the layers that are merged there say what the layers say. -/
theorem topmost_mergedDirs (next : Name) (rest : List Name) :
    (topmost (mergedDirs name layers) (next :: rest)).join =
      (topmost layers (name :: next :: rest)).join := by
  induction layers with
  | nil => rfl
  | cons layer lower ih =>
    simp only [topmost_cons, mergedDirs, verdict]
    cases layer [name] with
    | none => exact ih
    | some entry =>
      cases entry with
      | dir attrs isOpaque =>
        simp only [topmost_cons]
        cases verdict (layer.sub name) (next :: rest) with
        | some said => rfl
        | none =>
          cases isOpaque with
          | true => rfl
          | false => exact ih
      | _ => rfl

/-- The union shows what the topmost layer says that mentions the path. -/
theorem lookup_eq (below : path ≠ []) : lookup layers path = (topmost layers path).join := by
  induction path generalizing layers with
  | nil => exact absurd rfl below
  | cons name rest ih =>
    induction layers with
    | nil => cases rest <;> rfl
    | cons layer lower found =>
      cases rest with
      | nil =>
        simp only [lookup, topmost_cons, find, verdict] at found ⊢
        cases layer [name] with
        | none => exact found
        | some entry => cases entry <;> rfl
      | cons next rest =>
        simp only [lookup, topmost_cons, find, verdict] at found ⊢
        cases layer [name] with
        | none => exact found
        | some entry =>
          cases entry with
          | dir attrs isOpaque =>
            simp only [ih (List.cons_ne_nil next rest), topmost_cons]
            cases verdict (layer.sub name) (next :: rest) with
            | some said => rfl
            | none =>
              cases isOpaque with
              | true => rfl
              | false => exact topmost_mergedDirs next rest
          | file file => exact ih (List.cons_ne_nil next rest)
          | whiteout => rfl

/-- Layers applied to nothing, the first one first. -/
def applyAll (layers : List (Layer Name File Attrs)) : Tree Name File Attrs :=
  layers.foldl (fun tree layer => layer.apply tree) .empty

/-- Applying layers from the bottom gives what their union shows. -/
theorem applyAll_eq_lookup (below : path ≠ []) : applyAll layers path = lookup layers.reverse path := by
  rw [lookup_eq below]
  induction layers using List.reverseRecOn with
  | nil => rfl
  | append_singleton layers last ih =>
    rw [applyAll, List.foldl_append, List.foldl_cons, List.foldl_nil, apply_eq below,
      List.reverse_append, List.reverse_singleton, List.singleton_append, topmost_cons]
    cases last.verdict path with
    | some said => rfl
    | none => exact ih

end Layer

/-! ## Stacks with repetitions -/

section Repetitions

variable {Key Value : Type} [DecidableEq Key] {tells : Key → Option Value} {stack : List Key}

/-- Keys that say nothing make no difference on top of a stack. -/
theorem findSome?_dedup_silent {upper lower : List Key} (silent : ∀ key ∈ upper, tells key = none) :
    (upper ++ lower).dedup.findSome? tells = lower.dedup.findSome? tells := by
  induction upper with
  | nil => rfl
  | cons key upper ih =>
    obtain ⟨quiet, others⟩ := List.forall_mem_cons.mp silent
    rw [List.cons_append]
    by_cases again : key ∈ upper ++ lower
    · rw [List.dedup_cons_of_mem again]
      exact ih others
    · rw [List.dedup_cons_of_notMem again, List.findSome?_cons, quiet]
      exact ih others

/-- A stack without its upper repetitions says nothing exactly if the stack does. -/
theorem findSome?_dedup_none : stack.dedup.findSome? tells = none ↔ stack.findSome? tells = none := by
  simp only [List.findSome?_eq_none_iff, List.mem_dedup]

/-- Both say that there is nothing, or both say the same. -/
theorem join_dedup_iff {tells : Key → Option (Option Value)} :
    (stack.dedup.findSome? tells).join = (stack.findSome? tells).join ↔
      stack.dedup.findSome? tells = stack.findSome? tells := by
  constructor
  · intro same
    cases decided : stack.findSome? tells with
    | none => exact findSome?_dedup_none.mpr decided
    | some said =>
      cases kept : stack.dedup.findSome? tells with
      | none => exact absurd (findSome?_dedup_none.mp kept) (by simp [decided])
      | some told =>
        rw [decided, kept] at same
        exact congrArg some same
  · exact congrArg Option.join

/-- A stack says what it says without its upper repetitions, if every repetition that
decides says what is decided below it. -/
theorem findSome?_dedup_iff : stack.dedup.findSome? tells = stack.findSome? tells ↔
    ∀ upper key lower said, stack = upper ++ key :: lower → key ∈ lower → tells key = some said →
      (∀ above ∈ upper, tells above = none) → lower.dedup.findSome? tells = some said := by
  constructor
  · rintro same upper key lower said rfl again speaks silent
    rw [findSome?_dedup_silent silent, List.dedup_cons_of_mem again] at same
    rw [same]
    exact List.findSome?_eq_some_iff.mpr ⟨upper, key, lower, rfl, speaks, silent⟩
  · intro agrees
    cases decided : stack.findSome? tells with
    | none => exact findSome?_dedup_none.mpr decided
    | some said =>
      obtain ⟨upper, key, lower, rfl, speaks, silent⟩ := List.findSome?_eq_some_iff.mp decided
      rw [findSome?_dedup_silent silent]
      by_cases again : key ∈ lower
      · rw [List.dedup_cons_of_mem again]
        exact agrees upper key lower said rfl again speaks silent
      · rw [List.dedup_cons_of_notMem again, List.findSome?_cons, speaks]

/-- The last of a list is kept where it stands, and its other occurrences go. -/
theorem dedup_concat (list : List Key) (last : Key) :
    (list ++ [last]).dedup = (list.filter (· ≠ last)).dedup ++ [last] := by
  induction list with
  | nil => rfl
  | cons key rest ih =>
    rw [List.cons_append, List.filter_cons]
    by_cases same : key = last
    · rw [List.dedup_cons_of_mem (by simp [same]), ih]
      simp [same]
    · by_cases again : key ∈ rest
      · have kept : key ∈ rest.filter (· ≠ last) := List.mem_filter.mpr ⟨again, decide_eq_true same⟩
        rw [List.dedup_cons_of_mem (by simp [again]), ih, if_pos (decide_eq_true same),
          List.dedup_cons_of_mem kept]
      · have absent : key ∉ rest.filter (· ≠ last) := fun kept => again (List.mem_filter.mp kept).1
        rw [List.dedup_cons_of_notMem (by simp [again, same]), ih, if_pos (decide_eq_true same),
          List.dedup_cons_of_notMem absent, List.cons_append]

end Repetitions

end GuestComponents.Lib.Overlay
