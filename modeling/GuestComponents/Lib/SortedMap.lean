import Mathlib.Order.Defs.LinearOrder
import Mathlib.Data.List.Nodup
import Mathlib.Data.List.Sort

/-! Maps that are iterated in the order of their keys: a list of entries with
strictly increasing keys. Looking up after an insertion is all there is to know of
one (`get?_insert`), and a map that is filled from a list has its entries
(`entries_foldl_insert`). -/
namespace GuestComponents.Lib

universe u v

structure SortedMap (K : Type u) (V : Type v) [LinearOrder K] where
  entries : List (K × V)
  sorted : entries.Pairwise fun a b => a.1 < b.1

namespace SortedMap

variable {K : Type u} {V : Type v} [LinearOrder K]

def empty : SortedMap K V := ⟨[], .nil⟩

def get? (m : SortedMap K V) (key : K) : Option V := m.entries.lookup key

def contains (m : SortedMap K V) (key : K) : Bool := (m.get? key).isSome

def insertEntry (key : K) (value : V) : List (K × V) → List (K × V)
  | [] => [(key, value)]
  | entry :: rest =>
    if key < entry.1 then (key, value) :: entry :: rest
    else if entry.1 < key then entry :: insertEntry key value rest
    else (key, value) :: rest

theorem mem_insertEntry {key : K} {value : V} {entries : List (K × V)} {entry : K × V}
    (member : entry ∈ insertEntry key value entries) : entry = (key, value) ∨ entry ∈ entries := by
  induction entries with
  | nil => simpa [insertEntry] using member
  | cons first rest ih =>
    unfold insertEntry at member
    split at member
    · simpa using member
    · split at member
      · rcases List.mem_cons.mp member with rfl | later
        · simp
        · rcases ih later with new | old
          · exact .inl new
          · simp [old]
      · rcases List.mem_cons.mp member with new | old
        · exact .inl new
        · simp [old]

theorem insertEntry_sorted {key : K} {value : V} {entries : List (K × V)}
    (sorted : entries.Pairwise fun a b => a.1 < b.1) :
    (insertEntry key value entries).Pairwise fun a b => a.1 < b.1 := by
  induction entries with
  | nil => simp [insertEntry]
  | cons first rest ih =>
    obtain ⟨below, sortedRest⟩ := List.pairwise_cons.mp sorted
    unfold insertEntry
    split
    · rename_i before
      refine List.pairwise_cons.mpr ⟨fun entry member => ?_, sorted⟩
      rcases List.mem_cons.mp member with rfl | later
      · exact before
      · exact lt_trans before (below entry later)
    · split
      · rename_i after
        refine List.pairwise_cons.mpr ⟨fun entry member => ?_, ih sortedRest⟩
        rcases mem_insertEntry member with rfl | old
        · exact after
        · exact below entry old
      · rename_i notBefore notAfter
        have same : first.1 = key := le_antisymm (not_lt.mp notBefore) (not_lt.mp notAfter)
        refine List.pairwise_cons.mpr ⟨fun entry member => ?_, sortedRest⟩
        rw [← same]
        exact below entry member

def insert (m : SortedMap K V) (key : K) (value : V) : SortedMap K V :=
  ⟨insertEntry key value m.entries, insertEntry_sorted m.sorted⟩

/-- Looking up after an insertion. -/
theorem get?_insert (m : SortedMap K V) (key other : K) (value : V) :
    (m.insert key value).get? other = if other = key then some value else m.get? other := by
  obtain ⟨entries, sorted⟩ := m
  simp only [insert, get?]
  induction entries with
  | nil =>
    by_cases same : other = key
    · simp [insertEntry, same]
    · simp [insertEntry, List.lookup_cons, beq_eq_false_iff_ne.mpr same, same]
  | cons first rest ih =>
    have later := ih (List.pairwise_cons.mp sorted).2
    unfold insertEntry
    by_cases same : other = key
    · subst same
      rw [if_pos rfl] at later ⊢
      split
      · simp
      · split
        · rename_i after
          rw [List.lookup_cons, beq_eq_false_iff_ne.mpr (ne_of_gt after)]
          exact later
        · simp
    · rw [if_neg same] at later ⊢
      split
      · rw [List.lookup_cons, beq_eq_false_iff_ne.mpr same]
      · split
        · rw [List.lookup_cons, List.lookup_cons, later]
        · rename_i notBefore notAfter
          have here : first.1 = key := le_antisymm (not_lt.mp notBefore) (not_lt.mp notAfter)
          have elsewhere : (other == first.1) = false := by
            rw [here]
            exact beq_eq_false_iff_ne.mpr same
          rw [List.lookup_cons, List.lookup_cons, elsewhere, beq_eq_false_iff_ne.mpr same]

theorem get?_insert_self (m : SortedMap K V) (key : K) (value : V) :
    (m.insert key value).get? key = some value := by
  rw [get?_insert, if_pos rfl]

theorem get?_insert_of_ne (m : SortedMap K V) {key other : K} (value : V) (different : other ≠ key) :
    (m.insert key value).get? other = m.get? other := by
  rw [get?_insert, if_neg different]

@[simp] theorem get?_empty (key : K) : (empty : SortedMap K V).get? key = none := rfl

/-- An entry is what its key looks up. -/
theorem get?_eq_some {m : SortedMap K V} {key : K} {value : V} :
    m.get? key = some value ↔ (key, value) ∈ m.entries := by
  obtain ⟨entries, sorted⟩ := m
  simp only [get?]
  induction entries with
  | nil => simp
  | cons first rest ih =>
    obtain ⟨below, sortedRest⟩ := List.pairwise_cons.mp sorted
    rw [List.lookup_cons]
    by_cases here : key = first.1
    · have absent : (key, value) ∉ rest := fun member => by
        have above := below _ member
        rw [here] at above
        exact lt_irrefl _ above
      rw [here, beq_self_eq_true]
      rw [here] at absent
      constructor
      · intro same
        cases same
        exact List.mem_cons_self
      · intro member
        rcases List.mem_cons.mp member with same | later
        · rw [← same]
        · exact absurd later absent
    · rw [beq_eq_false_iff_ne.mpr here]
      simp only [ih sortedRest, List.mem_cons]
      constructor
      · exact .inr
      · rintro (same | later)
        · exact absurd (congrArg Prod.fst same) here
        · exact later

/-- The first entry whose key is the one that is looked for. -/
theorem find?_key (m : SortedMap K V) {key : K} {isKey : K → Bool}
    (decides : ∀ k, isKey k = true ↔ k = key) :
    (m.entries.find? fun entry => isKey entry.1).map (·.2) = m.get? key := by
  obtain ⟨entries, sorted⟩ := m
  simp only [get?]
  clear sorted
  induction entries with
  | nil => rfl
  | cons entry entries ih =>
    rw [List.find?_cons, List.lookup_cons]
    by_cases same : key = entry.1
    · rw [(decides entry.1).mpr same.symm, same, beq_self_eq_true]
      rfl
    · rw [beq_eq_false_iff_ne.mpr same, Bool.eq_false_iff.mpr fun is => same ((decides _).mp is).symm]
      exact ih

/-- The first entry with a property of its key is the one with the least such key. -/
theorem find?_eq_some {m : SortedMap K V} {p : K → Bool} {key : K} {value : V}
    (stored : m.get? key = some value) (has : p key = true)
    (least : ∀ other, p other = true → (m.get? other).isSome → key ≤ other) :
    m.entries.find? (fun entry => p entry.1) = some (key, value) := by
  rw [get?_eq_some] at stored
  have least' : ∀ entry ∈ m.entries, p entry.1 = true → key ≤ entry.1 := by
    intro entry member hasIt
    refine least entry.1 hasIt ?_
    rw [get?_eq_some.mpr member]
    rfl
  have sorted := m.sorted
  generalize m.entries = entries at stored least' sorted ⊢
  induction entries with
  | nil => cases stored
  | cons entry entries ih =>
    obtain ⟨below, sortedRest⟩ := List.pairwise_cons.mp sorted
    rw [List.find?_cons]
    rcases List.mem_cons.mp stored with same | later
    · rw [← same, has]
    · have before : entry.1 < key := below _ later
      have other : p entry.1 = false := by
        rw [Bool.eq_false_iff]
        intro hasIt
        exact absurd (least' entry (by simp) hasIt) (not_le.mpr before)
      rw [other]
      exact ih later (fun entry member => least' entry (by simp [member])) sortedRest

/-- What is looked up when pairs with keys of their own have been inserted. -/
theorem get?_foldl_insert {pairs : List (K × V)} {m : SortedMap K V} {key : K} {value : V}
    (distinct : (pairs.map Prod.fst).Nodup) (apart : ∀ key ∈ pairs.map Prod.fst, m.get? key = none) :
    (pairs.foldl (fun m pair => m.insert pair.1 pair.2) m).get? key = some value ↔
      (key, value) ∈ pairs ∨ m.get? key = some value := by
  induction pairs generalizing m with
  | nil => simp
  | cons pair pairs ih =>
    obtain ⟨absent, others⟩ := List.nodup_cons.mp distinct
    obtain ⟨fresh, later⟩ := List.forall_mem_cons.mp apart
    have apart' : ∀ key ∈ pairs.map Prod.fst, (m.insert pair.1 pair.2).get? key = none := by
      intro key listed
      have other : key ≠ pair.1 := by
        rintro rfl
        exact absent listed
      rw [get?_insert_of_ne m pair.2 other]
      exact later key listed
    rw [List.foldl_cons, ih others apart', get?_insert, List.mem_cons]
    by_cases here : key = pair.1
    · subst here
      have new : (pair.1, value) ∉ pairs := fun listed => absent (List.mem_map.mpr ⟨_, listed, rfl⟩)
      rw [if_pos rfl, fresh]
      simp [new, Prod.ext_iff, eq_comm]
    · rw [if_neg here]
      simp [here, Prod.ext_iff]

/-- A map that pairs with keys of their own were inserted into has them as its entries. -/
theorem entries_foldl_insert {pairs : List (K × V)} (distinct : (pairs.map Prod.fst).Nodup) :
    (pairs.foldl (fun m pair => m.insert pair.1 pair.2) (empty : SortedMap K V)).entries.Perm pairs := by
  have nodup (m : SortedMap K V) : m.entries.Nodup :=
    m.sorted.imp fun {one other} below same => by
      rw [same] at below
      exact lt_irrefl _ below
  refine (List.perm_ext_iff_of_nodup (nodup _) (List.Nodup.of_map _ distinct)).mpr fun pair => ?_
  rw [← get?_eq_some , get?_foldl_insert distinct fun _ _ => rfl, get?_empty]
  simp

/-- Sorting by keys that are all different has one result. -/
theorem insertionSort_of_perm {pairs sorted : List (K × V)} (ordered : sorted.Pairwise fun a b => a.1 < b.1)
    (perm : pairs.Perm sorted) : (pairs.insertionSort fun one other => one.1 ≤ other.1) = sorted := by
  have total : Std.Total fun one other : K × V => one.1 ≤ other.1 := ⟨fun one other => le_total one.1 other.1⟩
  have trans_ : IsTrans (K × V) fun one other => one.1 ≤ other.1 := ⟨fun _ _ _ => le_trans⟩
  have distinct : (sorted.map Prod.fst).Nodup := List.pairwise_map.mpr (ordered.imp fun below => ne_of_lt below)
  refine List.Perm.eq_of_pairwise (fun one other first second below above => ?_) (List.pairwise_insertionSort _ pairs)
    (ordered.imp fun below => le_of_lt below) ((List.perm_insertionSort _ pairs).trans perm)
  have member : one ∈ sorted := perm.mem_iff.mp ((List.mem_insertionSort _).mp first)
  exact List.inj_on_of_nodup_map distinct member second (le_antisymm below above)

end SortedMap

end GuestComponents.Lib
