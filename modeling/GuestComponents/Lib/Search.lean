import Mathlib.Data.List.Basic
import Mathlib.Data.List.MinMax

/-! A search that takes the first element it does not pass over: `FirstOf` says
where it ends. A search by recursion meets it through `firstOf_cons`. A search for
a least element finds one (`exists_least`). -/
namespace GuestComponents.Lib

universe u

variable {α : Type u} {passes gives : α → Prop}

/-- The first element of the list that is not passed over is one that gives. -/
def FirstOf (passes gives : α → Prop) (list : List α) : Prop :=
  ∃ before x after, list = before ++ x :: after ∧ (∀ y ∈ before, passes y) ∧ gives x

@[simp] theorem firstOf_nil : ¬ FirstOf passes gives [] := by
  rintro ⟨before, x, after, whole, _⟩
  cases before <;> cases whole

theorem firstOf_cons {x : α} {list : List α} :
    FirstOf passes gives (x :: list) ↔ gives x ∨ passes x ∧ FirstOf passes gives list := by
  constructor
  · rintro ⟨before, y, after, whole, passed, given⟩
    cases before with
    | nil =>
      cases whole
      exact .inl given
    | cons first rest =>
      cases whole
      exact .inr ⟨passed x (by simp), rest, y, after, rfl, fun z member => passed z (by simp [member]),
        given⟩
  · rintro (given | ⟨pass, before, y, after, rfl, passed, given⟩)
    · exact ⟨[], x, list, rfl, by simp, given⟩
    · exact ⟨x :: before, y, after, rfl, by simpa using ⟨pass, passed⟩, given⟩

/-- What is found is there. -/
theorem FirstOf.exists {list : List α} (found : FirstOf passes gives list) :
    ∃ x ∈ list, gives x := by
  obtain ⟨before, x, after, rfl, _, given⟩ := found
  exact ⟨x, by simp, given⟩

/-- Where every element is passed over or gives, and one gives, the search finds one. -/
theorem FirstOf.of_forall {list : List α} (all : ∀ x ∈ list, passes x ∨ gives x)
    (some_ : ∃ x ∈ list, gives x) : FirstOf passes gives list := by
  induction list with
  | nil => simp at some_
  | cons x rest ih =>
    rw [firstOf_cons]
    rcases all x (by simp) with pass | given
    · obtain ⟨y, member, given⟩ := some_
      rcases List.mem_cons.mp member with rfl | later
      · exact .inl given
      · exact .inr ⟨pass, ih (fun z among => all z (by simp [among])) ⟨y, later, given⟩⟩
    · exact .inl given

/-- A search for a value is one for the first element that has one. -/
theorem findSome_firstOf {β : Type u} {f : α → Option β} {list : List α} {found : β} :
    list.findSome? f = some found ↔ FirstOf (fun x => f x = none) (fun x => f x = some found) list := by
  rw [List.findSome?_eq_some_iff]
  constructor
  · rintro ⟨before, x, after, whole, given, passed⟩
    exact ⟨before, x, after, whole, passed, given⟩
  · rintro ⟨before, x, after, whole, passed, given⟩
    exact ⟨before, x, after, whole, given, passed⟩

/-- A list that is not empty has an element with the least value. -/
theorem exists_least {β : Type u} [LinearOrder β] (f : α → β) {list : List α} (some_ : list ≠ []) :
    ∃ x ∈ list, ∀ y ∈ list, f x ≤ f y := by
  cases first : list.argmin f with
  | none => exact absurd (List.argmin_eq_none.mp first) some_
  | some x => exact ⟨x, List.argmin_mem first, fun y member => List.le_of_mem_argmin member first⟩

end GuestComponents.Lib
