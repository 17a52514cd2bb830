import Mathlib.Data.List.Basic

/-! Maps that hold a list of values under each key, and grow at the end of those lists.
`Grows` says by how much one has grown under each key: growth composes, and to know what was
added under a key is to know what is there now (`Grows.values_eq_iff`). -/
namespace GuestComponents.Lib.MultiMap

universe u v

variable {K : Type u} {V : Type v} [DecidableEq K]

/-- What is under a key: nothing where the key is not there. -/
def values (map : List (K × List V)) (key : K) : List V := (map.lookup key).getD []

/-- More values at the end of those under the key, which is new if it is not there. -/
def extend (key : K) (more : List V) : List (K × List V) → List (K × List V)
  | [] => [(key, more)]
  | (other, held) :: map =>
    if other = key then (other, held ++ more) :: map else (other, held) :: extend key more map

/-- The additions of a list of entries under a key. -/
def under (entries : List (K × List V)) (key : K) : List V :=
  entries.flatMap fun entry => if entry.1 = key then entry.2 else []

/-- Under each key the second map has, after what the first one has, what was added. -/
def Grows (map : List (K × List V)) (added : K → List V) (map' : List (K × List V)) : Prop :=
  ∀ key, values map' key = values map key ++ added key

variable {map map' map'' : List (K × List V)} {added added' : K → List V} {key : K} {more : List V}

theorem values_cons (other : K) (held : List V) :
    values ((other, held) :: map) key = if other = key then held else values map key := by
  by_cases same : other = key
  · subst same
    simp [values]
  · rw [if_neg same, values, values, List.lookup_cons, beq_false_of_ne (Ne.symm same)]

theorem grows_extend (map : List (K × List V)) (key : K) (more : List V) :
    Grows map (fun other => if key = other then more else []) (extend key more map) := by
  intro other
  change values (extend key more map) other = values map other ++ if key = other then more else []
  induction map with
  | nil =>
    rw [extend, values_cons]
    rfl
  | cons entry map ih =>
    obtain ⟨first, held⟩ := entry
    rw [extend]
    by_cases here : first = key
    · subst here
      rw [if_pos rfl, values_cons, values_cons]
      by_cases same : first = other
      · rw [if_pos same, if_pos same, if_pos same]
      · rw [if_neg same, if_neg same, if_neg same, List.append_nil]
    · rw [if_neg here, values_cons, values_cons, ih]
      by_cases same : first = other
      · subst same
        rw [if_pos rfl, if_pos rfl, if_neg (Ne.symm here), List.append_nil]
      · rw [if_neg same, if_neg same]

theorem Grows.refl (map : List (K × List V)) : Grows map (fun _ => []) map := fun _ => (List.append_nil _).symm

theorem Grows.trans (first : Grows map added map') (second : Grows map' added' map'') :
    Grows map (fun key => added key ++ added' key) map'' := by
  intro key
  rw [second key, first key, List.append_assoc]

/-- Entries taken in one after the other. -/
theorem grows_foldl (entries : List (K × List V)) (map : List (K × List V)) :
    Grows map (under entries) (entries.foldl (fun held entry => extend entry.1 entry.2 held) map) := by
  induction entries generalizing map with
  | nil => exact .refl map
  | cons entry entries ih => exact (grows_extend map entry.1 entry.2).trans (ih _)

/-- Where it is known what was under a key, what was added decides what is there now. -/
theorem Grows.values_eq_iff {before : List V} (grows : Grows map added map') (known : values map key = before)
    (now : List V) :
    values map' key = before ++ now ↔ added key = now := by
  rw [grows key, known, List.append_cancel_left_eq]

/-- A map that has grown is not the one it was. -/
theorem Grows.ne (grows : Grows map added map') (some_ : added key ≠ []) : map' ≠ map := by
  rintro rfl
  exact some_ (List.self_eq_append_right.mp (grows key))

theorem under_of_absent {entries : List (K × List V)} (absent : key ∉ entries.map Prod.fst) :
    under entries key = [] := by
  rw [under, List.flatMap_eq_nil_iff]
  intro entry listed
  have other : entry.1 ≠ key := by
    rintro rfl
    exact absent (List.mem_map_of_mem listed)
  exact if_neg other

end GuestComponents.Lib.MultiMap
