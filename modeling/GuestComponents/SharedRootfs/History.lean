import GuestComponents.SharedRootfs.Footprint

/-! What the history of a pool of calls says. A process records only its own
events, a process that has not begun has none, and one that has replied or died
adds no more. `calls_safe` carries a contract over the host's operations to
every state of the interleavings it considers. -/
namespace GuestComponents.SharedRootfs
open Lib

def Event.pid : Event → Nat
  | began pid _ => pid
  | did pid _ _ => pid
  | died pid => pid

/-- No event of this process. -/
def Fresh (pid : Nat) (history : List Event) : Prop := ∀ event ∈ history, event.pid ≠ pid

/-- The process has replied or died. -/
def Ended (pid : Nat) (history : List Event) : Prop :=
  Event.died pid ∈ history ∨ ∃ reply, Event.did pid (.reply reply) () ∈ history

/-- Only other processes acted between the two histories. -/
def Others (pid : Nat) (before after : List Event) : Prop :=
  ∃ events, after = events ++ before ∧ ∀ event ∈ events, event.pid ≠ pid

section Others

variable {pid other : Nat} {before after last history : List Event} {event : Event}

theorem Others.refl (pid : Nat) (history : List Event) : Others pid history history :=
  ⟨[], rfl, fun _ member => absurd member List.not_mem_nil⟩

theorem Others.trans (first : Others pid before after) (second : Others pid after last) :
    Others pid before last := by
  obtain ⟨early, rfl, foreign⟩ := first
  obtain ⟨late, rfl, foreign'⟩ := second
  refine ⟨late ++ early, (List.append_assoc ..).symm, ?_⟩
  intro event member
  rcases List.mem_append.mp member with new | old
  · exact foreign' event new
  · exact foreign event old

theorem Others.one (differs : event.pid ≠ pid) : Others pid history (event :: history) :=
  ⟨[event], rfl, fun _ member => List.mem_singleton.mp member ▸ differs⟩

/-- A process's own events stay as they are while others act. -/
theorem Others.own (others : Others pid before after) (own : event.pid = pid) :
    event ∈ after ↔ event ∈ before := by
  obtain ⟨events, rfl, foreign⟩ := others
  rw [List.mem_append]
  exact or_iff_right fun member => foreign event member own

theorem Others.grows (others : Others pid before after) (member : event ∈ before) : event ∈ after := by
  obtain ⟨events, rfl, _⟩ := others
  exact List.mem_append_right _ member

theorem Others.ended (others : Others pid before after) : Ended pid after ↔ Ended pid before := by
  have died : .died pid ∈ after ↔ .died pid ∈ before := others.own rfl
  have replied : ∀ reply, .did pid (.reply reply) () ∈ after ↔ .did pid (.reply reply) () ∈ before :=
    fun _ => others.own rfl
  simp only [Ended, died, replied]

theorem Fresh.not_mem (fresh : Fresh pid history) (own : event.pid = pid) : event ∉ history :=
  fun member => fresh event member own

/-- A process that has just begun has no other event. -/
theorem Fresh.only_began {request : Request} (fresh : Fresh pid history) (own : event.pid = pid)
    (member : event ∈ .began pid request :: history) : event = .began pid request := by
  rcases List.mem_cons.mp member with new | old
  · exact new
  · exact absurd old (fresh.not_mem own)

theorem Fresh.not_ended {request : Request} (fresh : Fresh pid history) :
    ¬ Ended pid (.began pid request :: history) := by
  rintro (died | ⟨reply, replied⟩)
  · cases fresh.only_began rfl died
  · cases fresh.only_began rfl replied

end Others

section Calls

variable {initial : Disk → Prop} {guard : Pool Op Answer World → PoolLabel Request Choice → Prop}
  {pool next : Pool Op Answer World} {label : PoolLabel Request Choice}

/-- The process that a step is of. -/
def stepPid : PoolLabel Request Choice → Nat
  | .start pid _ => pid
  | .step pid _ => pid
  | .die pid => pid

/-- The operation a process performs next. -/
def nextOp (pool : Pool Op Answer World) (pid : Nat) : Option Op :=
  match pool.procs pid with
  | some (.call op _) => some op
  | _ => none

theorem nextOp_call {pid : Nat} {op : Op} {next : Answer op → Prog Unit}
    (found : pool.procs pid = some (.call op next)) : nextOp pool pid = some op := by
  simp only [nextOp, found]

/-- A step adds one event of its own process and touches no other process. -/
theorem step_records (ran : host.poolStep Request.program pool label = some next) :
    (∃ event, event.pid = stepPid label ∧ next.world.history = event :: pool.world.history) ∧
      (next.procs (stepPid label)).isSome ∧
      ∀ pid, pid ≠ stepPid label → next.procs pid = pool.procs pid := by
  cases label with
  | start pid request =>
    simp only [Service.poolStep] at ran
    split at ran
    · cases ran
      refine ⟨⟨_, rfl, rfl⟩, ?_, fun other differs => Function.update_of_ne differs ..⟩
      simp [stepPid]
    · cases ran
  | step pid choice =>
    simp only [Service.poolStep] at ran
    split at ran
    · cases ran
      refine ⟨⟨_, rfl, rfl⟩, ?_, fun other differs => Function.update_of_ne differs ..⟩
      simp [stepPid]
    · cases ran
  | die pid =>
    simp only [Service.poolStep] at ran
    split at ran
    · cases ran
      refine ⟨⟨_, rfl, rfl⟩, ?_, fun other differs => Function.update_of_ne differs ..⟩
      simp [stepPid]
    · cases ran

/-- A process that has not begun has no events. -/
def UnbegunFresh (pool : Pool Op Answer World) : Prop :=
  ∀ pid, pool.procs pid = none → Fresh pid pool.world.history

theorem fresh_of_unbegun (reached : (calls initial).Reachable guard pool) : UnbegunFresh pool := by
  refine reached.invariant ?_ ?_
  · rintro state ⟨⟨_, empty⟩, _⟩ pid _ event member
    rw [empty] at member
    cases member
  · intro state label after fresh _ ran pid unbegun event member
    obtain ⟨⟨own, ofStep, recorded⟩, begun, others⟩ := step_records ran
    have differs : pid ≠ stepPid label := by
      rintro rfl
      rw [unbegun] at begun
      cases begun
    rw [recorded] at member
    rcases List.mem_cons.mp member with rfl | old
    · rw [ofStep]
      exact differs.symm
    · exact fresh pid ((others pid differs).symm.trans unbegun) event old

/-- A process begins once. -/
theorem began_once (reached : (calls initial).Reachable guard pool) {pid : Nat} {request request' : Request}
    (begun : .began pid request ∈ pool.world.history) (begun' : .began pid request' ∈ pool.world.history) :
    request = request' := by
  induction reached with
  | start begins =>
    obtain ⟨⟨_, empty⟩, _⟩ := begins
    rw [empty] at begun
    cases begun
  | @step state next label before _ ran ih =>
    cases label with
    | start other request'' =>
      simp only [calls, Service.pool, Service.poolStep] at ran
      split at ran
      · rename_i unbegun
        cases ran
        have fresh := fresh_of_unbegun before other unbegun
        rcases List.mem_cons.mp begun with same | old <;> rcases List.mem_cons.mp begun' with same' | old'
        · cases same
          cases same'
          rfl
        · cases same
          exact absurd rfl (fresh _ old')
        · cases same'
          exact absurd rfl (fresh _ old)
        · exact ih old old'
      · cases ran
    | step other choice =>
      simp only [calls, Service.pool, Service.poolStep] at ran
      split at ran
      · cases ran
        rcases List.mem_cons.mp begun with same | old
        · cases same
        · rcases List.mem_cons.mp begun' with same' | old'
          · cases same'
          · exact ih old old'
      · cases ran
    | die other =>
      simp only [calls, Service.pool, Service.poolStep] at ran
      split at ran
      · cases ran
        rcases List.mem_cons.mp begun with same | old
        · cases same
        · rcases List.mem_cons.mp begun' with same' | old'
          · cases same'
          · exact ih old old'
      · cases ran

def RecordsOnly (one : Nat) (pool : Pool Op Answer World) : Prop :=
  ∀ event ∈ pool.world.history, event.pid = one

/-- Runs of one process record events of that process only. -/
theorem records_of_one {one : Nat} (reached : (calls initial).Reachable
    (fun _ label => stepPid label = one) pool) : RecordsOnly one pool := by
  refine reached.invariant ?_ ?_
  · rintro state ⟨⟨_, empty⟩, _⟩ event member
    rw [empty] at member
    cases member
  · intro state label after alone own ran event member
    obtain ⟨⟨new, ofStep, recorded⟩, _⟩ := step_records ran
    rw [recorded] at member
    rcases List.mem_cons.mp member with rfl | old
    · exact ofStep.trans own
    · exact alone event old

/-- A contract whose calls are safe when they begin, each in a process without
events, holds in every state of the interleavings a guard considers. -/
theorem calls_safe (contract : Contract host)
    (initially : ∀ disk, initial disk → contract.inv ⟨disk, []⟩)
    (begins : ∀ pid request, contract.Triple pid (fun world => ∃ before,
      contract.mayStart pid before request ∧ world = host.began pid request before)
      request.program (fun _ _ => True))
    (considered : ∀ pool label, guard pool label →
      (∀ pid request, label = .start pid request → Fresh pid pool.world.history) →
      contract.Guard pool label)
    (reached : (calls initial).Reachable guard pool) : contract.PoolSafe pool := by
  have allowed : (host.pool Request.program fun world => initial world.disk ∧ world.history = []).Reachable
      contract.Guard pool := by
    refine reached.strengthen fun state label after before allowed ran => ?_
    refine considered state label allowed ?_
    rintro pid request rfl
    refine fresh_of_unbegun before pid ?_
    simp only [Service.pool, Service.poolStep] at ran
    split at ran
    · assumption
    · cases ran
  refine Contract.pool_safe ?_ begins allowed
  rintro ⟨disk, history⟩ ⟨begun, empty⟩
  cases empty
  exact initially disk begun

/-- A context added to an error changes nothing else. -/
theorem attempt_withContext {α : Type} {contract : Contract host} {pid : Nat} {pre failed : World → Prop}
    {program : Fail α} {post : α → World → Prop} (message : String) (path : Path)
    (attempt : contract.Attempt pid pre program post failed)
    (stable : ∀ value, contract.Stable pid (post value)) (stableFailed : contract.Stable pid failed) :
    contract.Attempt pid pre (withContext message path program) post failed := by
  refine Contract.Triple.bind attempt ?_
  rintro (cause | value)
  · exact Contract.Triple.pure stableFailed fun _ _ holds => holds
  · exact Contract.Triple.pure (stable value) fun _ _ holds => holds

end Calls

end GuestComponents.SharedRootfs
