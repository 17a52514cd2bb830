import GuestComponents.Lib.JsonText
import Mathlib.Data.List.Nodup

/-! The maps that serde_json collects the fields of an object in: of a key that is there twice, the last
value is kept, at the first one's place. What is collected has each key once, at any depth
(`distinct_collect`), and where that is so already nothing changes (`collect_of_distinct`). -/
namespace GuestComponents.Lib.JsonText
open Lib.Text

section Entries

variable {α : Type}

def insert : List (Text × α) → Text → α → List (Text × α)
  | [], key, value => [(key, value)]
  | (other, old) :: fields, key, value =>
    if other = key then (key, value) :: fields else (other, old) :: insert fields key value

def lastWins (fields : List (Text × α)) : List (Text × α) :=
  fields.foldl (fun kept entry => insert kept entry.1 entry.2) []

variable {fields : List (Text × α)} {key : Text} {value : α}

theorem keys_insert : (insert fields key value).map Prod.fst =
    if key ∈ fields.map Prod.fst then fields.map Prod.fst else fields.map Prod.fst ++ [key] := by
  induction fields with
  | nil => rfl
  | cons entry fields ih =>
    obtain ⟨other, old⟩ := entry
    rw [insert]
    by_cases same : other = key
    · simp [same]
    · rw [if_neg same, List.map_cons, ih]
      by_cases within : key ∈ fields.map Prod.fst
      · have whole : key ∈ ((other, old) :: fields).map Prod.fst := List.mem_cons_of_mem _ within
        rw [if_pos within, if_pos whole]
        rfl
      · have without : key ∉ ((other, old) :: fields).map Prod.fst := by
          simp only [List.map_cons, List.mem_cons, not_or]
          exact ⟨Ne.symm same, within⟩
        rw [if_neg within, if_neg without]
        rfl

theorem insert_new (new : key ∉ fields.map Prod.fst) : insert fields key value = fields ++ [(key, value)] := by
  induction fields with
  | nil => rfl
  | cons entry fields ih =>
    rw [List.map_cons, List.mem_cons, not_or] at new
    rw [insert, if_neg (Ne.symm new.1), ih new.2]
    rfl

theorem mem_insert {entry : Text × α} (listed : entry ∈ insert fields key value) :
    entry ∈ fields ∨ entry = (key, value) := by
  induction fields with
  | nil => exact .inr (List.mem_singleton.mp listed)
  | cons first fields ih =>
    rw [insert] at listed
    split at listed
    · rcases List.mem_cons.mp listed with here | later
      · exact .inr here
      · exact .inl (List.mem_cons_of_mem _ later)
    · rcases List.mem_cons.mp listed with rfl | later
      · exact .inl List.mem_cons_self
      · exact (ih later).imp_left (List.mem_cons_of_mem _)

theorem nodup_insert (once : (fields.map Prod.fst).Nodup) : ((insert fields key value).map Prod.fst).Nodup := by
  rw [keys_insert]
  split
  · exact once
  · rename_i new
    exact List.Nodup.append once (List.nodup_singleton key) (List.disjoint_singleton.mpr new)

theorem nodup_foldl {kept : List (Text × α)} (once : (kept.map Prod.fst).Nodup) :
    ((fields.foldl (fun kept entry => insert kept entry.1 entry.2) kept).map Prod.fst).Nodup := by
  induction fields generalizing kept with
  | nil => exact once
  | cons entry fields ih => exact ih (nodup_insert once)

theorem nodup_lastWins : ((lastWins fields).map Prod.fst).Nodup := nodup_foldl List.nodup_nil

theorem mem_foldl {kept : List (Text × α)} {entry : Text × α}
    (listed : entry ∈ fields.foldl (fun kept entry => insert kept entry.1 entry.2) kept) :
    entry ∈ kept ∨ entry ∈ fields := by
  induction fields generalizing kept with
  | nil => exact .inl listed
  | cons first fields ih =>
    rcases ih listed with before | later
    · rcases mem_insert before with earlier | rfl
      · exact .inl earlier
      · exact .inr List.mem_cons_self
    · exact .inr (List.mem_cons_of_mem _ later)

theorem mem_lastWins {entry : Text × α} (listed : entry ∈ lastWins fields) : entry ∈ fields :=
  (mem_foldl listed).resolve_left List.not_mem_nil

theorem foldl_insert {kept : List (Text × α)} (once : ((kept ++ fields).map Prod.fst).Nodup) :
    fields.foldl (fun kept entry => insert kept entry.1 entry.2) kept = kept ++ fields := by
  induction fields generalizing kept with
  | nil => exact (List.append_nil kept).symm
  | cons entry fields ih =>
    have new : entry.1 ∉ kept.map Prod.fst := by
      rw [List.map_append, List.map_cons] at once
      exact fun within => List.disjoint_of_nodup_append once within List.mem_cons_self
    have shape : kept ++ entry :: fields = kept ++ [entry] ++ fields := by simp
    rw [shape] at once ⊢
    rw [List.foldl_cons, insert_new new]
    exact ih once

/-- Where each key is there once, every entry is kept. -/
theorem lastWins_of_nodup (once : (fields.map Prod.fst).Nodup) : lastWins fields = fields := foldl_insert once

end Entries

section Collecting

variable {F : Type}

mutual
/-- A value as it is collected, with its maps. -/
def Value.collect : Value F → Value F
  | .array items => .array (collectItems items)
  | .object fields => .object (lastWins (collectFields fields))
  | .null => .null
  | .bool value => .bool value
  | .integer value => .integer value
  | .float value => .float value
  | .string value => .string value
def collectItems : List (Value F) → List (Value F)
  | [] => []
  | item :: items => item.collect :: collectItems items
def collectFields : List (Text × Value F) → List (Text × Value F)
  | [] => []
  | (key, value) :: fields => (key, value.collect) :: collectFields fields
end

mutual
/-- Each object has each of its keys once. -/
def Value.Distinct : Value F → Prop
  | .array items => DistinctItems items
  | .object fields => (fields.map Prod.fst).Nodup ∧ DistinctFields fields
  | _ => True
def DistinctItems : List (Value F) → Prop
  | [] => True
  | item :: items => item.Distinct ∧ DistinctItems items
def DistinctFields : List (Text × Value F) → Prop
  | [] => True
  | (_, value) :: fields => value.Distinct ∧ DistinctFields fields
end

theorem distinctFields_iff {fields : List (Text × Value F)} :
    DistinctFields fields ↔ ∀ entry ∈ fields, entry.2.Distinct := by
  induction fields with
  | nil => simp [DistinctFields]
  | cons entry fields ih => rw [DistinctFields, ih, List.forall_mem_cons]

mutual
theorem distinct_collect (value : Value F) : value.collect.Distinct := by
  cases value with
  | array items =>
    rw [Value.collect, Value.Distinct]
    exact distinct_collectItems items
  | object fields =>
    rw [Value.collect, Value.Distinct]
    refine ⟨nodup_lastWins, distinctFields_iff.mpr fun entry listed => ?_⟩
    exact distinctFields_iff.mp (distinct_collectFields fields) entry (mem_lastWins listed)
  | _ => exact trivial
theorem distinct_collectItems (items : List (Value F)) : DistinctItems (collectItems items) := by
  cases items with
  | nil => exact trivial
  | cons item items => exact ⟨distinct_collect item, distinct_collectItems items⟩
theorem distinct_collectFields (fields : List (Text × Value F)) : DistinctFields (collectFields fields) := by
  match fields with
  | [] => exact trivial
  | (key, value) :: fields => exact ⟨distinct_collect value, distinct_collectFields fields⟩
end

mutual
theorem collect_of_distinct (value : Value F) (distinct : value.Distinct) : value.collect = value := by
  cases value with
  | array items =>
    rw [Value.collect, collectItems_of_distinct items distinct]
  | object fields =>
    rw [Value.collect, collectFields_of_distinct fields distinct.2, lastWins_of_nodup distinct.1]
  | _ => rfl
theorem collectItems_of_distinct (items : List (Value F)) (distinct : DistinctItems items) :
    collectItems items = items := by
  cases items with
  | nil => rfl
  | cons item items =>
    rw [collectItems, collect_of_distinct item distinct.1, collectItems_of_distinct items distinct.2]
theorem collectFields_of_distinct (fields : List (Text × Value F)) (distinct : DistinctFields fields) :
    collectFields fields = fields := by
  match fields, distinct with
  | [], _ => rfl
  | (key, value) :: fields, distinct =>
    rw [collectFields, collect_of_distinct value distinct.1, collectFields_of_distinct fields distinct.2]
end

/-- `serde_json::Map<String, Value>`. -/
def Map (F : Type) : Type := { fields : List (Text × Value F) // (Value.object fields).Distinct }

def Map.collect (fields : List (Text × Value F)) : Map F :=
  ⟨lastWins (collectFields fields), distinct_collect (.object fields)⟩

def Map.value (map : Map F) : Value F := .object map.val

theorem Map.collect_val (map : Map F) : Map.collect map.val = map := by
  refine Subtype.ext ?_
  show lastWins (collectFields map.val) = map.val
  rw [collectFields_of_distinct map.val map.property.2, lastWins_of_nodup map.property.1]

def readMap : Value F → Option (Map F)
  | .object fields => some (Map.collect fields)
  | _ => none

theorem readMap_value (map : Map F) : readMap map.value = some map := congrArg some map.collect_val

end Collecting

end GuestComponents.Lib.JsonText
