import Mathlib.Data.List.Basic

/-! Partial maps that are gathered one by one, as long as none contradicts another. A fold that
takes a map in exactly when it agrees with what is there succeeds exactly when all of the maps
agree, and ends with their union (`Gathers.fold_ok_iff`, `Gathers.fold_union`), so that their
order is of no account. -/
namespace GuestComponents.Lib.PartialMap

universe u v w

variable {K : Type u} {V : Type v}

/-- No key has two values. -/
def Agree (one other : K → Option V) : Prop :=
  ∀ key value value', one key = some value → other key = some value' → value = value'

def AllAgree (maps : List (K → Option V)) : Prop := ∀ one ∈ maps, ∀ other ∈ maps, Agree one other

/-- One of the maps has the value for the key. -/
def Has (maps : List (K → Option V)) (key : K) (value : V) : Prop := ∃ map ∈ maps, map key = some value

/-- The map has what any of the maps has. -/
def UnionOf (maps : List (K → Option V)) (whole : K → Option V) : Prop :=
  ∀ key value, whole key = some value ↔ Has maps key value

/-- A map of one key. -/
def single [DecidableEq K] (key : K) (value : Option V) : K → Option V :=
  fun other => if other = key then value else none

variable {maps maps' : List (K → Option V)} {whole whole' map one other : K → Option V} {key : K} {value : V}

theorem has_nil : ¬ Has ([] : List (K → Option V)) key value := by
  rintro ⟨map, listed, _⟩
  cases listed

theorem has_cons : Has (map :: maps) key value ↔ map key = some value ∨ Has maps key value := by
  simp only [Has, List.mem_cons, exists_eq_or_imp]

theorem has_append : Has (maps ++ maps') key value ↔ Has maps key value ∨ Has maps' key value := by
  simp only [Has, List.mem_append, or_and_right, exists_or]

theorem allAgree_iff :
    AllAgree maps ↔ ∀ key value value', Has maps key value → Has maps key value' → value = value' := by
  constructor
  · rintro agree key value value' ⟨one, listed, here⟩ ⟨other, listed', there⟩
    exact agree one listed other listed' key value value' here there
  · intro agree one listed other listed' key value value' here there
    exact agree key value value' ⟨one, listed, here⟩ ⟨other, listed', there⟩

theorem allAgree_pair : AllAgree [one, other] ↔ Agree one other := by
  constructor
  · intro agree
    exact agree one List.mem_cons_self other (List.mem_cons_of_mem _ List.mem_cons_self)
  · intro agree
    rw [allAgree_iff]
    intro key value value' here there
    simp only [has_cons, has_nil, or_false] at here there
    rcases here with here | here
    · rcases there with there | there
      · exact Option.some.inj (here.symm.trans there)
      · exact agree key value value' here there
    · rcases there with there | there
      · exact (agree key value' value there here).symm
      · exact Option.some.inj (here.symm.trans there)

theorem AllAgree.of_has (agree : AllAgree maps) (within : ∀ key value, Has maps' key value → Has maps key value) :
    AllAgree maps' := by
  rw [allAgree_iff] at agree ⊢
  intro key value value' here there
  exact agree key value value' (within key value here) (within key value' there)

theorem UnionOf.allAgree (union : UnionOf maps whole) : AllAgree maps := by
  rw [allAgree_iff]
  intro key value value' here there
  exact Option.some.inj (((union key value).mpr here).symm.trans ((union key value').mpr there))

/-- There is one union of the same maps, in whatever order. -/
theorem UnionOf.unique (union : UnionOf maps whole) (union' : UnionOf maps' whole')
    (same : ∀ key value, Has maps key value ↔ Has maps' key value) : whole = whole' := by
  funext key
  apply Option.ext
  intro value
  exact (union key value).trans ((same key value).trans (union' key value).symm)

theorem unionOf_singleton (map : K → Option V) : UnionOf [map] map := by
  intro key value
  simp [Has]

/-- Among other maps, a union stands for the maps it is made of. -/
theorem UnionOf.has_cons_iff (union : UnionOf maps one) :
    Has (one :: maps') key value ↔ Has (maps ++ maps') key value := by
  rw [has_cons, has_append, union key value]

theorem UnionOf.append (first : UnionOf maps one) (second : UnionOf (one :: maps') whole) :
    UnionOf (maps ++ maps') whole :=
  fun key value => (second key value).trans first.has_cons_iff

section Fold

variable {State Item : Type w} {ε : Type} {step : State → Item → Except ε State} {view : State → K → Option V}
  {item : Item → K → Option V}

/-- What each step keeps holds at the end of a fold. -/
theorem foldlM_keeps {Inv : State → Prop} {items : List Item} {state final : State}
    (keeps : ∀ state input next, Inv state → step state input = .ok next → Inv next) (begins : Inv state)
    (folded : items.foldlM step state = .ok final) : Inv final := by
  induction items generalizing state with
  | nil =>
    cases folded
    exact begins
  | cons first rest ih =>
    rw [List.foldlM_cons] at folded
    cases stepped : step state first with
    | error error =>
      rw [stepped] at folded
      cases folded
    | ok next =>
      rw [stepped] at folded
      exact ih (keeps state first next begins stepped) folded

/-- A step takes in the map of an item when it agrees with what is there, and fails otherwise. -/
structure Gathers (step : State → Item → Except ε State) (view : State → K → Option V)
    (item : Item → K → Option V) :
    Prop where
  succeeds : ∀ state input, (∃ next, step state input = .ok next) ↔ Agree (view state) (item input)
  union : ∀ state input next, step state input = .ok next → UnionOf [view state, item input] (view next)

theorem Gathers.fold_union (gathers : Gathers step view item) {items : List Item} {state final : State}
    (folded : items.foldlM step state = .ok final) : UnionOf (view state :: items.map item) (view final) := by
  induction items generalizing state with
  | nil =>
    cases folded
    exact unionOf_singleton _
  | cons first rest ih =>
    rw [List.foldlM_cons] at folded
    cases stepped : step state first with
    | error error =>
      rw [stepped] at folded
      cases folded
    | ok next =>
      rw [stepped] at folded
      exact (gathers.union state first next stepped).append (ih folded)

theorem Gathers.fold_ok_iff (gathers : Gathers step view item) (items : List Item) (state : State) :
    (∃ final, items.foldlM step state = .ok final) ↔ AllAgree (view state :: items.map item) := by
  constructor
  · rintro ⟨final, folded⟩
    exact (gathers.fold_union folded).allAgree
  · induction items generalizing state with
    | nil =>
      intro _
      exact ⟨state, rfl⟩
    | cons first rest ih =>
      intro agree
      obtain ⟨next, stepped⟩ := (gathers.succeeds state first).mpr
        (agree _ List.mem_cons_self _ (List.mem_cons_of_mem _ List.mem_cons_self))
      rw [List.foldlM_cons, stepped]
      apply ih next
      exact agree.of_has fun key value has => (gathers.union state first next stepped).has_cons_iff.mp has

end Fold

end GuestComponents.Lib.PartialMap
