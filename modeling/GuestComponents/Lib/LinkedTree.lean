import Mathlib.Logic.Basic

/-! File trees with symbolic links, and the places that paths lead to in them. A walk goes from
directory to directory and follows a limited number of links. What it finds it finds in every tree
that has this much in it (`walk_mono`), and following a link at the end of the path makes a
difference only where the path ends at one (`walk_follow`). -/
namespace GuestComponents.Lib

namespace LinkedTree

inductive Part (Name : Type) where
  | here
  | up
  | name (name : Name)
  deriving DecidableEq

inductive Node (Name : Type) where
  | directory
  | file
  | link (absolute : Bool) (target : List (Part Name))
  deriving DecidableEq

end LinkedTree

open LinkedTree

/-- What there is at each place: the names that lead to it from the root. -/
abbrev LinkedTree (Name : Type) := List Name → Option (Node Name)

namespace LinkedTree

variable {Name : Type}

/-- Walks up to the next link, and `again` from there. Whether a link at the end is followed is
given by `follow`. -/
def walkParts (tree : LinkedTree Name) (again : List Name → List (Part Name) → Option (List Name)) (follow : Bool) :
    List Name → List (Part Name) → Option (List Name)
  | place, [] => some place
  | place, .here :: rest => walkParts tree again follow place rest
  | place, .up :: rest => walkParts tree again follow place.dropLast rest
  | place, .name name :: rest =>
    match tree (place ++ [name]) with
    | some .directory => walkParts tree again follow (place ++ [name]) rest
    | some (.link absolute target) =>
      if rest.isEmpty && !follow then some (place ++ [name])
      else again (if absolute then [] else place) (target ++ rest)
    | _ => if rest.isEmpty then some (place ++ [name]) else none

/-- The place that a path leads to from a directory, with fewer than so many links on the way.
There may be nothing at it, but what it is in is a directory. -/
def walk (tree : LinkedTree Name) (follow : Bool) : Nat → List Name → List (Part Name) → Option (List Name)
  | 0, _, _ => none
  | links + 1, place, parts => walkParts tree (walk tree follow links) follow place parts

/-- Everything in the first tree is in the second. -/
def Within (tree larger : LinkedTree Name) : Prop :=
  ∀ place node, tree place = some node → larger place = some node

/-- The tree with nothing at this place or below it. -/
def without [DecidableEq Name] (tree : LinkedTree Name) (place : List Name) : LinkedTree Name := fun other =>
  if place <+: other then none else tree other

/-- The tree with this at the place. -/
def insert [DecidableEq Name] (tree : LinkedTree Name) (place : List Name) (node : Node Name) : LinkedTree Name :=
  fun other => if other = place then some node else tree other

section Lemmas

variable {tree larger largest : LinkedTree Name} {links : Nat} {start place : List Name} {parts : List (Part Name)}

theorem Within.trans (one : Within tree larger) (two : Within larger largest) : Within tree largest :=
  fun place node found => two place node (one place node found)

theorem Within.insert [DecidableEq Name] (within : Within tree larger) (node : Node Name) :
    Within (tree.insert place node) (larger.insert place node) := by
  intro other found
  unfold LinkedTree.insert
  split
  · exact id
  · exact within other found

theorem without_within [DecidableEq Name] : Within (tree.without place) tree := by
  intro other node found
  rw [without] at found
  split at found
  · cases found
  · exact found

theorem within_insert [DecidableEq Name] {node : Node Name} (free : tree place = none) :
    Within tree (tree.insert place node) := by
  intro other node found
  rw [insert, if_neg]
  · exact found
  · rintro rfl
    rw [free] at found
    cases found

theorem walk_mono (within : Within tree larger) (leads : walk tree false links start parts = some place) :
    walk larger false links start parts = some place := by
  induction links generalizing start parts with
  | zero => cases leads
  | succ links again =>
    rw [walk] at leads ⊢
    induction parts generalizing start with
    | nil => exact leads
    | cons part rest ih =>
      cases part with
      | here => exact ih leads
      | up => exact ih leads
      | name name =>
        rw [walkParts] at leads ⊢
        cases found : tree (start ++ [name]) with
        | some node =>
          rw [found] at leads
          rw [within _ _ found]
          cases node with
          | directory => exact ih leads
          | file => exact leads
          | link absolute target =>
            dsimp only at leads ⊢
            split at leads
            · rename_i ends
              rw [if_pos ends]
              exact leads
            · rename_i on
              rw [if_neg on]
              exact again leads
        | none =>
          rw [found] at leads
          dsimp only at leads
          cases rest with
          | cons _ _ => cases leads
          | nil =>
            cases larger (start ++ [name]) with
            | none => exact leads
            | some node => cases node <;> exact leads

theorem walk_follow (leads : walk tree false links start parts = some place)
    (plain : ∀ absolute target, tree place ≠ some (.link absolute target)) :
    walk tree true links start parts = some place := by
  induction links generalizing start parts with
  | zero => cases leads
  | succ links again =>
    rw [walk] at leads ⊢
    induction parts generalizing start with
    | nil => exact leads
    | cons part rest ih =>
      cases part with
      | here => exact ih leads
      | up => exact ih leads
      | name name =>
        rw [walkParts] at leads ⊢
        cases found : tree (start ++ [name]) with
        | none =>
          rw [found] at leads
          exact leads
        | some node =>
          rw [found] at leads
          cases node with
          | directory => exact ih leads
          | file => exact leads
          | link absolute target =>
            dsimp only at leads ⊢
            split at leads
            · cases leads
              exact absurd found (plain absolute target)
            · simp only [Bool.not_true, Bool.and_false, Bool.false_eq_true, if_false]
              exact again leads

/-- Where a link at the end was followed, there is the link or the place itself. -/
theorem walk_link (leads : walk tree true links start parts = some place) :
    ∃ first, walk tree false links start parts = some first ∧
      (first = place ∨ ∃ absolute target, tree first = some (.link absolute target)) := by
  induction links generalizing start parts with
  | zero => cases leads
  | succ links again =>
    rw [walk] at leads ⊢
    induction parts generalizing start with
    | nil => exact ⟨place, leads, .inl rfl⟩
    | cons part rest ih =>
      cases part with
      | here => exact ih leads
      | up => exact ih leads
      | name name =>
        rw [walkParts] at leads ⊢
        cases found : tree (start ++ [name]) with
        | none =>
          rw [found] at leads
          exact ⟨place, leads, .inl rfl⟩
        | some node =>
          rw [found] at leads
          cases node with
          | directory => exact ih leads
          | file => exact ⟨place, leads, .inl rfl⟩
          | link absolute target =>
            simp only [Bool.not_true, Bool.and_false, Bool.false_eq_true, if_false] at leads
            dsimp only
            split
            · exact ⟨start ++ [name], rfl, .inr ⟨absolute, target, found⟩⟩
            · exact again leads

/-- A path goes on from where its first part leads, with the links that are left. -/
theorem walk_append {follow : Bool} {rest : List (Part Name)} {last : List Name} (more : rest ≠ [])
    (leads : walk tree true links start parts = some place)
    (found : walk tree follow links start (parts ++ rest) = some last) :
    ∃ left, walk tree follow left place rest = some last := by
  induction links generalizing start parts with
  | zero => cases leads
  | succ links again =>
    rw [walk] at leads found
    induction parts generalizing start with
    | nil =>
      cases leads
      exact ⟨links + 1, found⟩
    | cons part parts ih =>
      cases part with
      | here => exact ih leads found
      | up => exact ih leads found
      | name name =>
        have longer : (parts ++ rest).isEmpty = false := by simp [more]
        rw [List.cons_append, walkParts] at found
        rw [walkParts] at leads
        rw [longer] at found
        cases is : tree (start ++ [name]) with
        | none =>
          rw [is] at found
          cases found
        | some node =>
          rw [is] at leads found
          cases node with
          | directory => exact ih leads found
          | file => cases found
          | link absolute target =>
            simp only [Bool.not_true, Bool.and_false, Bool.false_and, Bool.false_eq_true, if_false] at leads found
            rw [← List.append_assoc] at found
            exact again leads found

end Lemmas

end LinkedTree

end GuestComponents.Lib
