import GuestComponents.Lib.Exclusive
import GuestComponents.Lib.SortedMap
import Mathlib.Data.List.Perm.Basic
import Mathlib.Data.Nat.Basic

/-! Programs that run side by side, at most so many at once, and whose results are
collected as they end, as `buffer_unordered` and `try_collect` do. The first failure ends
the whole; if all programs end well, their results are put into the order of the programs
by their numbers. `Collect.Sound` relates what is collected to the operations of each
program, whatever the order of the steps; `Collect.progress` and `Collect.exec_length`
say that the whole comes to an end. -/
namespace GuestComponents.Lib

variable {Op : Type} {Answer : Op → Type} {α ε : Type}

/-- An operation and its answer. -/
structure Event (Op : Type) (Answer : Op → Type) where
  op : Op
  answer : Answer op

namespace Program

/-- What is left of a program after these operations and answers. -/
inductive Leaves (program : Program Op Answer α) : List (Event Op Answer) → Program Op Answer α → Prop where
  | start : Leaves program [] program
  | step {events : List (Event Op Answer)} {op : Op} {next : Answer op → Program Op Answer α}
    (answer : Answer op) : Leaves program events (.call op next) →
    Leaves program (events ++ [⟨op, answer⟩]) (next answer)

variable {program left left' : Program Op Answer α} {events : List (Event Op Answer)} {n m : Nat}

theorem leaves_nil (leaves : program.Leaves [] left) : left = program := by
  generalize none : ([] : List (Event Op Answer)) = events at leaves
  cases leaves with
  | start => rfl
  | step answer before => simp at none

/-- The operations and answers say what is left. -/
theorem Leaves.unique (one : program.Leaves events left) (other : program.Leaves events left') :
    left = left' := by
  induction one generalizing left' with
  | start => exact (leaves_nil other).symm
  | @step events op next answer before ih =>
    generalize whole : events ++ [⟨op, answer⟩] = all at other
    cases other with
    | start => simp at whole
    | @step events' op' next' answer' before' =>
      obtain ⟨same, last⟩ := List.append_inj' whole rfl
      cases same
      cases last
      cases ih before'
      rfl

/-- Every operation counts against a bound of all operations. -/
theorem Leaves.atMost (bound : program.AtMost (fun _ => True) n) (leaves : program.Leaves events left) :
    ∃ m, left.AtMost (fun _ => True) m ∧ events.length + m ≤ n := by
  induction leaves with
  | start => exact ⟨n, bound, by simp⟩
  | @step events op next answer before ih =>
    obtain ⟨m, later, fits⟩ := ih
    rcases later with ⟨other, _⟩ | ⟨k, rfl, rest⟩
    · exact absurd trivial other
    · refine ⟨k, rest answer, ?_⟩
      simp only [List.length_append, List.length_cons, List.length_nil]
      omega

theorem leaves_done {value : α} (leaves : (done value : Program Op Answer α).Leaves events left) :
    events = [] ∧ left = .done value := by
  induction leaves with
  | start => exact ⟨rfl, rfl⟩
  | step answer _ ih => cases ih.2

theorem leaves_call {op : Op} {next : Answer op → Program Op Answer α}
    (leaves : (call op next).Leaves events left) :
    (events = [] ∧ left = .call op next) ∨
      ∃ answer rest, events = ⟨op, answer⟩ :: rest ∧ (next answer).Leaves rest left := by
  induction leaves with
  | start => exact .inl ⟨rfl, rfl⟩
  | step answer _ ih =>
    rcases ih with ⟨rfl, same⟩ | ⟨first, rest, rfl, later⟩
    · cases same
      exact .inr ⟨answer, [], rfl, .start⟩
    · exact .inr ⟨first, rest ++ [⟨_, answer⟩], rfl, .step answer later⟩

theorem Leaves.after_call {op : Op} {next : Answer op → Program Op Answer α} {answer : Answer op}
    (leaves : (next answer).Leaves events left) : (call op next).Leaves (⟨op, answer⟩ :: events) left := by
  induction leaves with
  | start => exact @Leaves.step _ _ _ _ [] _ _ answer .start
  | step later _ ih => exact .step later ih

/-- The operations of a sequence that has ended are those of its first part, up to a value,
and then those of what follows that value. -/
theorem Leaves.bind {β : Type} {first : Program Op Answer β} {rest : β → Program Op Answer α} {value : α}
    (leaves : (first >>= rest).Leaves events (.done value)) :
    ∃ before after given, events = before ++ after ∧ first.Leaves before (.done given) ∧
      (rest given).Leaves after (.done value) := by
  induction first generalizing events with
  | done given => exact ⟨[], events, given, rfl, .start, leaves⟩
  | call op next ih =>
    rcases leaves_call leaves with ⟨_, impossible⟩ | ⟨answer, later, rfl, continued⟩
    · cases impossible
    · obtain ⟨before, after, given, rfl, one, two⟩ := ih answer continued
      refine ⟨⟨op, answer⟩ :: before, after, given, rfl, ?_, two⟩
      exact one.after_call

end Program

namespace Collect

/-- One program: not taken yet, running, or collected. -/
inductive Task (Op : Type) (Answer : Op → Type) (ε α : Type) where
  | queued (program : Program Op Answer (Except ε α))
  | running (program : Program Op Answer (Except ε α))
  | ended

def Task.isRunning : Task Op Answer ε α → Bool
  | .running _ => true
  | _ => false

def Task.isQueued : Task Op Answer ε α → Bool
  | .queued _ => true
  | _ => false

structure State (Op : Type) (Answer : Op → Type) (ε α : Type) where
  tasks : List (Task Op Answer ε α)
  /-- The results in the order in which they came, with the numbers of their programs. -/
  collected : List (Nat × α)
  /-- The operations of each program. -/
  log : List (Nat × Event Op Answer)
  result : Option (Except ε (List α))

inductive Label (Op : Type) (Answer : Op → Type) where
  | start
  | answer (i : Nat) (answer : (op : Op) → Answer op)
  | collect (i : Nat)
  | finish

/-- The results by the numbers of their programs. -/
def ordered (collected : List (Nat × α)) : List α :=
  (collected.foldl (fun map entry => map.insert entry.1 entry.2) SortedMap.empty).entries.map (·.2)

def step (limit : Nat) (state : State Op Answer ε α) : Label Op Answer → Option (State Op Answer ε α)
  | .start =>
    match state.tasks.findIdx? Task.isQueued, state.result with
    | some i, none =>
      match state.tasks[i]? with
      | some (.queued program) =>
        if state.tasks.countP Task.isRunning < limit then
          some { state with tasks := state.tasks.set i (.running program) }
        else none
      | _ => none
    | _, _ => none
  | .answer i answer =>
    match state.tasks[i]?, state.result with
    | some (.running (.call op next)), none =>
      some { state with tasks := state.tasks.set i (.running (next (answer op)))
                        log := state.log ++ [(i, ⟨op, answer op⟩)] }
    | _, _ => none
  | .collect i =>
    match state.tasks[i]?, state.result with
    | some (.running (.done (.ok value))), none =>
      some { state with tasks := state.tasks.set i .ended
                        collected := state.collected ++ [(i, value)] }
    | some (.running (.done (.error error))), none => some { state with result := some (.error error) }
    | _, _ => none
  | .finish =>
    match state.result with
    | none =>
      if state.tasks.all (fun task => task matches .ended) then
        some { state with result := some (.ok (ordered state.collected)) }
      else none
    | some _ => none

/-- The runs of these programs, at most `limit` of them at once. -/
def system (limit : Nat) (jobs : List (Program Op Answer (Except ε α))) :
    System (State Op Answer ε α) (Label Op Answer) where
  start state := state = ⟨jobs.map .queued, [], [], none⟩
  step := step limit

/-- The operations of one program. -/
def State.events (state : State Op Answer ε α) (i : Nat) : List (Event Op Answer) :=
  (state.log.filter fun entry => entry.1 = i).map (·.2)

variable {limit : Nat} {jobs : List (Program Op Answer (Except ε α))} {state next : State Op Answer ε α}

theorem events_append {log : List (Nat × Event Op Answer)} {i j : Nat} {event : Event Op Answer}
    {tasks tasks' : List (Task Op Answer ε α)} {collected collected' : List (Nat × α)}
    {result result' : Option (Except ε (List α))} :
    State.events ⟨tasks, collected, log ++ [(j, event)], result⟩ i =
      State.events ⟨tasks', collected', log, result'⟩ i ++ if j = i then [event] else [] := by
  simp only [State.events, List.filter_append, List.map_append, List.filter_cons, List.filter_nil]
  by_cases same : j = i
  · simp [same]
  · simp [same]

/-- What a task says of its program: its operations have led from the program to what is left of it. -/
def Traced (job : Program Op Answer (Except ε α)) (events : List (Event Op Answer))
    (collected : Nat → α → Prop) (i : Nat) : Task Op Answer ε α → Prop
  | .queued program => program = job ∧ events = []
  | .running program => job.Leaves events program
  | .ended => ∃ value, collected i value

/-- What is collected are the results of the programs that have ended, one for each. -/
structure Sound (jobs : List (Program Op Answer (Except ε α))) (state : State Op Answer ε α) : Prop where
  length : state.tasks.length = jobs.length
  traced : ∀ i job task, jobs[i]? = some job → state.tasks[i]? = some task →
    Traced job (state.events i) (fun i value => (i, value) ∈ state.collected) i task
  once : (state.collected.map (·.1)).Nodup
  gathered : ∀ i value, (i, value) ∈ state.collected → state.tasks[i]? = some .ended ∧
    ∀ job, jobs[i]? = some job → job.Leaves (state.events i) (.done (.ok value))
  failed : ∀ error, state.result = some (.error error) →
    ∃ (i : Nat) (job : Program Op Answer (Except ε α)), jobs[i]? = some job ∧
      job.Leaves (state.events i) (.done (.error error))
  complete : ∀ values, state.result = some (.ok values) →
    (∀ task ∈ state.tasks, task = .ended) ∧ values = ordered state.collected

theorem sound_start (begins : (system limit jobs).start state) : Sound jobs state := by
  cases begins
  constructor
  · simp
  · intro i job task listed found
    rw [List.getElem?_map, listed] at found
    cases found
    exact ⟨rfl, rfl⟩
  · exact List.nodup_nil
  · intro i value impossible
    cases impossible
  · intro error impossible
    cases impossible
  · intro values impossible
    cases impossible

/-- All that a step can do. -/
inductive Moves (limit : Nat) (state : State Op Answer ε α) :
    Label Op Answer → State Op Answer ε α → Prop where
  | started {i : Nat} {program : Program Op Answer (Except ε α)} : state.result = none →
      state.tasks[i]? = some (.queued program) → state.tasks.countP Task.isRunning < limit →
      Moves limit state .start { state with tasks := state.tasks.set i (.running program) }
  | answered {i : Nat} {op : Op} {rest : Answer op → Program Op Answer (Except ε α)}
      {answer : (op : Op) → Answer op} : state.result = none →
      state.tasks[i]? = some (.running (.call op rest)) →
      Moves limit state (.answer i answer)
        { state with tasks := state.tasks.set i (.running (rest (answer op)))
                     log := state.log ++ [(i, ⟨op, answer op⟩)] }
  | collected {i : Nat} {value : α} : state.result = none →
      state.tasks[i]? = some (.running (.done (.ok value))) →
      Moves limit state (.collect i)
        { state with tasks := state.tasks.set i .ended, collected := state.collected ++ [(i, value)] }
  | failed {i : Nat} {error : ε} : state.result = none →
      state.tasks[i]? = some (.running (.done (.error error))) →
      Moves limit state (.collect i) { state with result := some (.error error) }
  | finished : state.result = none → (∀ task ∈ state.tasks, task = .ended) →
      Moves limit state .finish { state with result := some (.ok (ordered state.collected)) }

theorem step_moves {label : Label Op Answer} (stepped : step limit state label = some next) :
    Moves limit state label next := by
  unfold step at stepped
  split at stepped
  case h_1 =>
    split at stepped
    · rename_i i found none
      split at stepped
      · rename_i program queued
        split at stepped
        · rename_i room
          cases stepped
          exact .started none queued room
        · cases stepped
      · cases stepped
    · cases stepped
  case h_2 =>
    split at stepped
    · rename_i op rest runs none
      cases stepped
      exact .answered none runs
    · cases stepped
  case h_3 =>
    split at stepped
    · rename_i value ends none
      cases stepped
      exact .collected none ends
    · rename_i error ends none
      cases stepped
      exact .failed none ends
    · cases stepped
  case h_4 =>
    split at stepped
    · rename_i none
      split at stepped
      · rename_i ended
        cases stepped
        refine .finished none ?_
        intro task listed
        have matched := List.all_eq_true.mp ended task listed
        cases task with
        | ended => rfl
        | _ => cases matched
      · cases stepped
    · cases stepped

theorem getElem?_set_some {β : Type} {list : List β} {i j : Nat} {x y : β}
    (found : (list.set i x)[j]? = some y) : (j = i ∧ y = x) ∨ (i ≠ j ∧ list[j]? = some y) := by
  by_cases same : i = j
  · subst same
    have bound : i < (list.set i x).length := (List.getElem?_eq_some_iff.mp found).1
    rw [List.getElem?_set_self (by simpa using bound)] at found
    cases found
    exact .inl ⟨rfl, rfl⟩
  · rw [List.getElem?_set_ne same] at found
    exact .inr ⟨same, found⟩

/-- One step keeps what is collected sound. -/
theorem Sound.step {label : Label Op Answer} (sound : Sound jobs state)
    (stepped : Collect.step limit state label = some next) : Sound jobs next := by
  cases step_moves stepped with
  | @started i program none queued room =>
    constructor
    · rw [List.length_set]
      exact sound.length
    · intro j job task listed found
      rcases getElem?_set_some found with ⟨rfl, rfl⟩ | ⟨_, found⟩
      · obtain ⟨rfl, unlogged⟩ := sound.traced _ job _ listed queued
        show program.Leaves (state.events j) program
        rw [unlogged]
        exact .start
      · exact sound.traced j job task listed found
    · exact sound.once
    · intro j value gathered
      obtain ⟨ended, leaves⟩ := sound.gathered j value gathered
      refine ⟨?_, leaves⟩
      have differs : i ≠ j := by
        rintro rfl
        rw [queued] at ended
        cases ended
      rw [List.getElem?_set_ne differs]
      exact ended
    · intro error impossible
      rw [none] at impossible
      cases impossible
    · intro values impossible
      rw [none] at impossible
      cases impossible
  | @answered i op rest answer none runs =>
    have others : ∀ j, i ≠ j → State.events { state with log := state.log ++ [(i, ⟨op, answer op⟩)] } j =
        state.events j := by
      intro j differs
      rw [events_append, if_neg differs, List.append_nil]
    have own : State.events { state with log := state.log ++ [(i, ⟨op, answer op⟩)] } i =
        state.events i ++ [⟨op, answer op⟩] := by
      rw [events_append, if_pos rfl]
    constructor
    · rw [List.length_set]
      exact sound.length
    · intro j job task listed found
      rcases getElem?_set_some found with ⟨rfl, rfl⟩ | ⟨differs, found⟩
      · show job.Leaves (State.events { state with log := _ } j) _
        rw [own]
        exact .step _ (sound.traced _ job _ listed runs)
      · have before := sound.traced j job task listed found
        rw [← others j differs] at before
        exact before
    · exact sound.once
    · intro j value gathered
      obtain ⟨ended, leaves⟩ := sound.gathered j value gathered
      have differs : i ≠ j := by
        rintro rfl
        rw [runs] at ended
        cases ended
      constructor
      · rw [List.getElem?_set_ne differs]
        exact ended
      · rw [← others j differs] at leaves
        exact leaves
    · intro error impossible
      rw [none] at impossible
      cases impossible
    · intro values impossible
      rw [none] at impossible
      cases impossible
  | @collected i value none ends =>
    have fresh : ∀ value, (i, value) ∉ state.collected := by
      intro value gathered
      have ended := (sound.gathered i value gathered).1
      rw [ends] at ended
      cases ended
    constructor
    · rw [List.length_set]
      exact sound.length
    · intro j job task listed found
      rcases getElem?_set_some found with ⟨rfl, rfl⟩ | ⟨differs, found⟩
      · exact ⟨value, by simp⟩
      · have before := sound.traced j job task listed found
        cases task with
        | ended =>
          obtain ⟨value', gathered⟩ := before
          exact ⟨value', List.mem_append_left _ gathered⟩
        | _ => exact before
    · rw [List.map_append, List.nodup_append]
      refine ⟨sound.once, by simp, ?_⟩
      rintro j listed k added rfl
      obtain ⟨⟨k, value'⟩, gathered, rfl⟩ := List.mem_map.mp listed
      cases List.mem_singleton.mp added
      exact fresh value' gathered
    · intro j value' gathered
      rcases List.mem_append.mp gathered with old | new
      · obtain ⟨ended, leaves⟩ := sound.gathered j value' old
        have differs : i ≠ j := by
          rintro rfl
          exact fresh value' old
        refine ⟨?_, leaves⟩
        rw [List.getElem?_set_ne differs]
        exact ended
      · cases List.mem_singleton.mp new
        have bound : i < state.tasks.length := (List.getElem?_eq_some_iff.mp ends).1
        refine ⟨List.getElem?_set_self bound, ?_⟩
        intro job listed
        exact sound.traced _ job _ listed ends
    · intro error impossible
      rw [none] at impossible
      cases impossible
    · intro values impossible
      rw [none] at impossible
      cases impossible
  | @failed i error none ends =>
    refine ⟨sound.length, sound.traced, sound.once, sound.gathered, ?_, ?_⟩
    · rintro error' ⟨⟩
      have bound : i < jobs.length := by
        rw [← sound.length]
        exact (List.getElem?_eq_some_iff.mp ends).1
      have listed : jobs[i]? = some jobs[i] := List.getElem?_eq_getElem bound
      exact ⟨i, jobs[i], listed, sound.traced _ _ _ listed ends⟩
    · intro values impossible
      cases impossible
  | finished none ended =>
    refine ⟨sound.length, sound.traced, sound.once, sound.gathered, ?_, ?_⟩
    · intro error impossible
      cases impossible
    · rintro values ⟨⟩
      exact ⟨ended, rfl⟩

/-- What has been collected is sound in every run. -/
theorem sound_reachable (reached : (system limit jobs).Reachable System.Free state) : Sound jobs state :=
  reached.invariant (fun _ begins => sound_start begins)
    fun _ _ _ sound _ stepped => sound.step stepped

section Ordered

variable {collected : List (Nat × α)}

/-- Of results with different numbers, all are kept. -/
theorem mem_foldl_insert {map : SortedMap Nat α} (once : (collected.map (·.1)).Nodup)
    (apart : ∀ entry ∈ collected, map.get? entry.1 = none) {i : Nat} {value : α} :
    (i, value) ∈ (collected.foldl (fun map entry => map.insert entry.1 entry.2) map).entries ↔
      (i, value) ∈ map.entries ∨ (i, value) ∈ collected := by
  induction collected generalizing map with
  | nil => simp
  | cons entry rest ih =>
    rw [List.map_cons, List.nodup_cons] at once
    have apart' : ∀ other ∈ rest, (map.insert entry.1 entry.2).get? other.1 = none := by
      intro other listed
      have differs : other.1 ≠ entry.1 := by
        intro same
        exact once.1 (List.mem_map.mpr ⟨other, listed, same⟩)
      rw [SortedMap.get?_insert, if_neg differs]
      exact apart other (List.mem_cons_of_mem _ listed)
    rw [List.foldl_cons, ih once.2 apart', List.mem_cons, ← SortedMap.get?_eq_some, SortedMap.get?_insert,
      ← SortedMap.get?_eq_some]
    by_cases same : i = entry.1
    · subst same
      rw [if_pos rfl, apart entry List.mem_cons_self]
      constructor
      · rintro (new | later)
        · cases new
          exact .inr (.inl rfl)
        · exact .inr (.inr later)
      · rintro (old | new | later)
        · cases old
        · exact .inl (congrArg some (congrArg Prod.snd new).symm)
        · exact .inr later
    · rw [if_neg same]
      constructor
      · rintro (old | later)
        · exact .inl old
        · exact .inr (.inr later)
      · rintro (old | new | later)
        · exact .inl old
        · exact absurd (congrArg Prod.fst new) same
        · exact .inr later

/-- Results for all the first numbers, each once, come out in the order of their numbers. -/
theorem ordered_getElem? {n : Nat} (once : (collected.map (·.1)).Nodup)
    (range : ∀ i, (∃ value, (i, value) ∈ collected) ↔ i < n) :
    (ordered collected).length = n ∧
      ∀ i value, (i, value) ∈ collected → (ordered collected)[i]? = some value := by
  generalize made : collected.foldl (fun map entry => map.insert entry.1 entry.2) SortedMap.empty = map
  have mem : ∀ {i value}, (i, value) ∈ map.entries ↔ (i, value) ∈ collected := by
    intro i value
    rw [← made, mem_foldl_insert once fun entry _ => rfl]
    simp [SortedMap.empty]
  have increasing : (map.entries.map (·.1)).Pairwise (· < ·) := List.pairwise_map.mpr map.sorted
  have keys : map.entries.map (·.1) = List.range n := by
    have perm : (map.entries.map (·.1)).Perm (List.range n) := by
      rw [List.perm_ext_iff_of_nodup (increasing.imp Nat.ne_of_lt) List.nodup_range]
      intro i
      rw [List.mem_range, ← range i, List.mem_map]
      constructor
      · rintro ⟨⟨j, value⟩, listed, rfl⟩
        exact ⟨value, mem.mp listed⟩
      · rintro ⟨value, listed⟩
        exact ⟨(i, value), mem.mpr listed, rfl⟩
    exact perm.eq_of_pairwise (fun i j _ _ below above => absurd above (Nat.lt_asymm below)) increasing
      List.pairwise_lt_range
  have length : map.entries.length = n := by
    have lengths := congrArg List.length keys
    rwa [List.length_map, List.length_range] at lengths
  rw [ordered, made]
  refine ⟨by rw [List.length_map, length], ?_⟩
  intro i value listed
  have bound : i < map.entries.length := by
    rw [length]
    exact (range i).mp ⟨value, listed⟩
  have key : map.entries[i].1 = i := by
    have at_i : (map.entries.map (·.1))[i]? = some i := by
      rw [keys, List.getElem?_range (by omega)]
    rw [List.getElem?_map, List.getElem?_eq_getElem bound] at at_i
    exact Option.some.inj at_i
  have found : (i, map.entries[i].2) ∈ map.entries := by
    have same : map.entries[i] = (i, map.entries[i].2) := Prod.ext key rfl
    rw [← same]
    exact List.getElem_mem bound
  have one := SortedMap.get?_eq_some.mpr found
  have other := SortedMap.get?_eq_some.mpr (mem.mpr listed)
  rw [List.getElem?_map, List.getElem?_eq_getElem bound]
  exact one.symm.trans other

end Ordered

/-- The results of a run that has ended well are those of the programs, in their order. -/
theorem Sound.ok (sound : Sound jobs state) {values : List α} (ended : state.result = some (.ok values)) :
    values.length = jobs.length ∧ ∀ (i : Nat) (job : Program Op Answer (Except ε α)), jobs[i]? = some job →
      ∃ value, values[i]? = some value ∧ job.Leaves (state.events i) (.done (.ok value)) := by
  obtain ⟨all, rfl⟩ := sound.complete values ended
  have range : ∀ i, (∃ value, (i, value) ∈ state.collected) ↔ i < jobs.length := by
    intro i
    constructor
    · rintro ⟨value, gathered⟩
      rw [← sound.length]
      exact (List.getElem?_eq_some_iff.mp (sound.gathered i value gathered).1).1
    · intro bound
      have taskBound : i < state.tasks.length := by rwa [sound.length]
      have task : state.tasks[i]? = some .ended := by
        rw [List.getElem?_eq_getElem taskBound, all _ (List.getElem_mem taskBound)]
      exact sound.traced i _ _ (List.getElem?_eq_getElem bound) task
  obtain ⟨length, placed⟩ := ordered_getElem? sound.once range
  refine ⟨length, ?_⟩
  intro i job listed
  obtain ⟨value, gathered⟩ := (range i).mpr (List.getElem?_eq_some_iff.mp listed).1
  exact ⟨value, placed i value gathered, (sound.gathered i value gathered).2 job listed⟩

/-- A run that has ended is a success exactly if no program has failed. -/
theorem Sound.ends (sound : Sound jobs state) {result : Except ε (List α)} (ended : state.result = some result) :
    (∃ values, result = .ok values) ↔
      ∀ (i : Nat) (job : Program Op Answer (Except ε α)), jobs[i]? = some job →
        ∃ value, job.Leaves (state.events i) (.done (.ok value)) := by
  constructor
  · rintro ⟨values, rfl⟩ i job listed
    obtain ⟨value, _, leaves⟩ := (sound.ok ended).2 i job listed
    exact ⟨value, leaves⟩
  · intro succeeded
    cases result with
    | ok values => exact ⟨values, rfl⟩
    | error error =>
      obtain ⟨i, job, listed, leaves⟩ := sound.failed error ended
      obtain ⟨value, other⟩ := succeeded i job listed
      cases leaves.unique other

/-- Until there is a result, some step can be taken. -/
theorem progress (positive : 0 < limit) (some_answer : ∀ op, Nonempty (Answer op))
    (open_ : state.result = none) : ∃ label next, step limit state label = some next := by
  by_cases running : ∃ (i : Nat) (program : Program Op Answer (Except ε α)),
      state.tasks[i]? = some (.running program)
  · obtain ⟨i, program, runs⟩ := running
    cases program with
    | call op rest =>
      obtain ⟨answers⟩ : Nonempty (∀ op, Answer op) := ⟨fun op => (some_answer op).some⟩
      refine ⟨.answer i answers, ?_⟩
      simp [step, runs, open_]
    | done result =>
      refine ⟨.collect i, ?_⟩
      cases result <;> simp [step, runs, open_]
  · have idle : state.tasks.countP Task.isRunning = 0 := by
      rw [List.countP_eq_zero]
      intro task listed
      obtain ⟨i, found⟩ := List.mem_iff_getElem?.mp listed
      cases task with
      | running program => exact absurd ⟨i, program, found⟩ running
      | _ => simp [Task.isRunning]
    cases first : state.tasks.findIdx? Task.isQueued with
    | some i =>
      obtain ⟨bound, queued, _⟩ := List.findIdx?_eq_some_iff_getElem.mp first
      refine ⟨.start, ?_⟩
      cases task : state.tasks[i] with
      | queued program =>
        simp [step, first, open_, List.getElem?_eq_getElem bound, task, idle, positive]
      | _ =>
        rw [task] at queued
        cases queued
    | none =>
      have ended : ∀ task ∈ state.tasks, task = .ended := by
        intro task listed
        have notQueued := List.findIdx?_eq_none_iff.mp first task listed
        obtain ⟨i, found⟩ := List.mem_iff_getElem?.mp listed
        cases task with
        | ended => rfl
        | queued program => cases notQueued
        | running program => exact absurd ⟨i, program, found⟩ running
      have matched : (state.tasks.all fun task => task matches .ended) = true := by
        rw [List.all_eq_true]
        intro task listed
        rw [ended task listed]
      exact ⟨.finish, { state with result := some (.ok (ordered state.collected)) },
        by simp only [step, open_, matched, if_true]⟩

section Length

/-- How far a run has come. -/
def State.taken (state : State Op Answer ε α) : Nat :=
  state.log.length + state.tasks.countP (fun task => !task.isQueued) +
    state.tasks.countP (fun task => task matches .ended) + if state.result.isSome then 1 else 0

theorem taken_step {label : Label Op Answer} (stepped : step limit state label = some next) :
    next.taken = state.taken + 1 := by
  cases step_moves stepped with
  | @started i program none queued room =>
    obtain ⟨bound, here⟩ := List.getElem?_eq_some_iff.mp queued
    simp only [State.taken, List.countP_set bound, here, Task.isQueued]
    simp
    omega
  | @answered i op rest answer none runs =>
    obtain ⟨bound, here⟩ := List.getElem?_eq_some_iff.mp runs
    have begun : 0 < state.tasks.countP (fun task => !task.isQueued) :=
      List.countP_pos_iff.mpr ⟨_, List.getElem_mem bound, by rw [here]; rfl⟩
    have same : (state.tasks.set i (.running (rest (answer op)))).countP (fun task => !task.isQueued) =
        state.tasks.countP (fun task => !task.isQueued) := by
      rw [List.countP_set bound, here]
      exact Nat.sub_add_cancel begun
    simp only [State.taken, same, List.countP_set bound, here, List.length_append]
    simp
    omega
  | @collected i value none ends =>
    obtain ⟨bound, here⟩ := List.getElem?_eq_some_iff.mp ends
    have begun : 0 < state.tasks.countP (fun task => !task.isQueued) :=
      List.countP_pos_iff.mpr ⟨_, List.getElem_mem bound, by rw [here]; rfl⟩
    have same : (state.tasks.set i .ended).countP (fun task => !task.isQueued) =
        state.tasks.countP (fun task => !task.isQueued) := by
      rw [List.countP_set bound, here]
      exact Nat.sub_add_cancel begun
    simp only [State.taken, same, List.countP_set bound, here]
    simp
    omega
  | failed none _ => simp [State.taken, none]
  | finished none _ => simp [State.taken, none]

/-- Entries with few numbers, and few for each of them, are few. -/
theorem length_le_of_filter {β : Type} {log : List (Nat × β)} {n most : Nat}
    (numbers : ∀ entry ∈ log, entry.1 < n)
    (few : ∀ i, (log.filter fun entry => entry.1 = i).length ≤ most) : log.length ≤ n * most := by
  induction n generalizing log with
  | zero =>
    cases log with
    | nil => simp
    | cons entry _ => exact absurd (numbers entry List.mem_cons_self) (Nat.not_lt_zero _)
  | succ n ih =>
    have others : (log.filter fun entry => !decide (entry.1 = n)).length ≤ n * most := by
      apply ih
      · intro entry listed
        obtain ⟨listed, differs⟩ := List.mem_filter.mp listed
        have below := numbers entry listed
        simp at differs
        omega
      · intro i
        rw [List.filter_filter]
        refine le_trans ?_ (few i)
        rw [← List.countP_eq_length_filter, ← List.countP_eq_length_filter]
        refine List.countP_mono_left ?_
        intro entry _ both
        simp at both
        simp [both.1]
    have these := few n
    have whole := List.length_eq_length_filter_add (l := log) fun entry => decide (entry.1 = n)
    rw [Nat.succ_mul]
    omega

/-- The operations that have run belong to the programs. -/
theorem log_numbers (reached : (system limit jobs).Reachable System.Free state) :
    ∀ entry ∈ state.log, entry.1 < jobs.length := by
  induction reached with
  | start begins =>
    cases begins
    intro entry impossible
    cases impossible
  | @step state next label before _ stepped ih =>
    have length := (sound_reachable before).length
    cases step_moves stepped with
    | @answered i op rest answer none runs =>
      intro entry listed
      rcases List.mem_append.mp listed with old | new
      · exact ih entry old
      · cases List.mem_singleton.mp new
        rw [← length]
        exact (List.getElem?_eq_some_iff.mp runs).1
    | _ => exact ih

/-- A program of at most so many operations has run at most so many. -/
theorem events_length {most : Nat} (short : ∀ job ∈ jobs, job.AtMost (fun _ => True) most)
    (sound : Sound jobs state) (numbers : ∀ entry ∈ state.log, entry.1 < jobs.length) (i : Nat) :
    (state.events i).length ≤ most := by
  by_cases bound : i < jobs.length
  · have listed : jobs[i]? = some jobs[i] := List.getElem?_eq_getElem bound
    have within : ∀ left, jobs[i].Leaves (state.events i) left → (state.events i).length ≤ most := by
      intro left leaves
      obtain ⟨m, _, fits⟩ := leaves.atMost (short _ (List.getElem_mem bound))
      omega
    have taskBound : i < state.tasks.length := by rwa [sound.length]
    have found : state.tasks[i]? = some state.tasks[i] := List.getElem?_eq_getElem taskBound
    have traced := sound.traced i _ _ listed found
    cases task : state.tasks[i] with
    | queued program =>
      rw [task] at traced
      rw [traced.2]
      exact Nat.zero_le _
    | running program =>
      rw [task] at traced
      exact within _ traced
    | ended =>
      rw [task] at traced
      obtain ⟨value, gathered⟩ := traced
      exact within _ ((sound.gathered i value gathered).2 _ listed)
  · have none : state.events i = [] := by
      rw [State.events, List.map_eq_nil_iff, List.filter_eq_nil_iff]
      intro entry listed same
      have below := numbers entry listed
      simp at same
      omega
    rw [none]
    exact Nat.zero_le _

/-- Programs of at most so many operations each come to their result in so many steps. -/
theorem taken_le {most : Nat} (short : ∀ job ∈ jobs, job.AtMost (fun _ => True) most)
    (reached : (system limit jobs).Reachable System.Free state) :
    state.taken ≤ jobs.length * (most + 2) + 1 := by
  have sound := sound_reachable reached
  have few : ∀ i, (state.log.filter fun entry => entry.1 = i).length ≤ most := by
    intro i
    have events : (state.events i).length = (state.log.filter fun entry => entry.1 = i).length :=
      List.length_map _
    rw [← events]
    exact events_length short sound (log_numbers reached) i
  have log := length_le_of_filter (log_numbers reached) few
  have begun := List.countP_le_length (p := fun task => !task.isQueued) (l := state.tasks)
  have ended := List.countP_le_length (p := fun task : Task Op Answer ε α => task matches .ended)
    (l := state.tasks)
  rw [sound.length] at begun ended
  have result : (if state.result.isSome then 1 else 0) ≤ 1 := by split <;> omega
  rw [State.taken, Nat.mul_add]
  omega

/-- A run of programs of at most so many operations each has at most so many steps. -/
theorem exec_length {most : Nat} (short : ∀ job ∈ jobs, job.AtMost (fun _ => True) most)
    {labels : List (Label Op Answer)}
    (ran : (system limit jobs).exec ⟨jobs.map .queued, [], [], none⟩ labels = some state) :
    labels.length ≤ jobs.length * (most + 2) + 1 := by
  have counted : ∀ (labels : List (Label Op Answer)) (from_ : State Op Answer ε α),
      (system limit jobs).exec from_ labels = some state → state.taken = from_.taken + labels.length := by
    intro labels
    induction labels with
    | nil =>
      intro from_ ran
      cases ran
      rfl
    | cons label labels ih =>
      intro from_ ran
      simp only [System.exec] at ran
      split at ran
      · cases ran
      · rename_i next stepped
        rw [ih next ran, taken_step stepped, List.length_cons]
        omega
  have reached : (system limit jobs).Reachable System.Free state :=
    System.reachable_of_exec rfl (fun _ _ _ => trivial) ran
  have bound := taken_le short reached
  rw [counted labels _ ran] at bound
  omega

end Length

end Collect

end GuestComponents.Lib
