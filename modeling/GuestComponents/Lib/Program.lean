import GuestComponents.Lib.Transition
import Mathlib.Logic.Function.Basic

/-! Programs that talk to a shared world by atomic operations, and pools of
processes that run them in any interleaving, with deaths at any point. A
program is the tree of its operations, one branch for each answer. `Safe` is
the rely/guarantee reading of a program: at every world the others may have
left, the next operation keeps the invariant and the process's guarantee, and
the rest of the program is safe after it. The rules for `Triple` compose such
facts along the program text, and `Contract.pool_safe` carries them to every
state of every interleaving. -/
namespace GuestComponents.Lib

/-- A program over operations `Op`, each of which has answers `Answer op`. -/
inductive Program (Op : Type) (Answer : Op → Type) (α : Type) where
  | done (value : α)
  | call (op : Op) (next : Answer op → Program Op Answer α)

variable {Op : Type} {Answer : Op → Type} {World Choice Request α β ε : Type}

namespace Program

def bind : Program Op Answer α → (α → Program Op Answer β) → Program Op Answer β
  | done value, rest => rest value
  | call op next, rest => call op fun answer => (next answer).bind rest

instance : Monad (Program Op Answer) where
  pure := done
  bind := bind

/-- One operation, and its answer. -/
def perform (op : Op) : Program Op Answer (Answer op) := call op done

/-- Every operation of the program, on every branch, is of this kind. -/
def Only (kind : Op → Prop) : Program Op Answer α → Prop
  | done _ => True
  | call op next => kind op ∧ ∀ answer, (next answer).Only kind

variable {kind kind' : Op → Prop}

theorem only_perform {op : Op} (is : kind op) :
    (perform op : Program Op Answer (Answer op)).Only kind := ⟨is, fun _ => trivial⟩

theorem Only.bind {first : Program Op Answer α} {rest : α → Program Op Answer β}
    (one : first.Only kind) (two : ∀ value, (rest value).Only kind) : (first >>= rest).Only kind := by
  induction first with
  | done value => exact two value
  | call op next ih => exact ⟨one.1, fun answer => ih answer (one.2 answer)⟩

theorem Only.weaken {program : Program Op Answer α} (only : program.Only kind)
    (implies : ∀ op, kind op → kind' op) : program.Only kind' := by
  induction program with
  | done _ => trivial
  | call op next ih => exact ⟨implies op only.1, fun answer => ih answer (only.2 answer)⟩

/-- The program ends with this value on some branch. -/
def MayReturn : Program Op Answer α → α → Prop
  | done found, value => found = value
  | call _ next, value => ∃ answer, (next answer).MayReturn value

@[simp] theorem only_pure {value : α} : (pure value : Program Op Answer α).Only kind := trivial

@[simp] theorem mayReturn_pure {found value : α} :
    (pure found : Program Op Answer α).MayReturn value ↔ found = value :=
  Iff.rfl

theorem mayReturn_bind {first : Program Op Answer α} {rest : α → Program Op Answer β} {final : β} :
    (first >>= rest).MayReturn final ↔ ∃ value, first.MayReturn value ∧ (rest value).MayReturn final := by
  induction first with
  | done found =>
    constructor
    · exact fun ends => ⟨found, rfl, ends⟩
    · rintro ⟨_, rfl, ends⟩
      exact ends
  | call op next ih =>
    constructor
    · rintro ⟨answer, ends⟩
      obtain ⟨value, returns, ends⟩ := (ih answer).mp ends
      exact ⟨value, ⟨answer, returns⟩, ends⟩
    · rintro ⟨value, ⟨answer, returns⟩, ends⟩
      exact ⟨answer, (ih answer).mpr ⟨value, returns, ends⟩⟩

theorem only_bind {first : Program Op Answer α} {rest : α → Program Op Answer β} :
    (first >>= rest).Only kind ↔ first.Only kind ∧ ∀ value, first.MayReturn value → (rest value).Only kind := by
  constructor
  · intro only
    induction first with
    | done found =>
      refine ⟨trivial, ?_⟩
      rintro _ rfl
      exact only
    | call op next ih =>
      refine ⟨⟨only.1, fun answer => (ih answer (only.2 answer)).1⟩, ?_⟩
      rintro value ⟨answer, returns⟩
      exact (ih answer (only.2 answer)).2 value returns
  · rintro ⟨one, two⟩
    induction first with
    | done found => exact two found rfl
    | call op next ih =>
      exact ⟨one.1, fun answer => ih answer (one.2 answer) fun value returns => two value ⟨answer, returns⟩⟩

/-- Every result of the program, on every branch, is of this kind. -/
def Returns (result : α → Prop) : Program Op Answer α → Prop
  | done value => result value
  | call _ next => ∀ answer, (next answer).Returns result

variable {result : α → Prop} {result' : β → Prop}

theorem returns_any (program : Program Op Answer α) : program.Returns fun _ => True := by
  induction program with
  | done _ => trivial
  | call op next ih => exact ih

theorem Returns.bind {first : Program Op Answer α} {rest : α → Program Op Answer β}
    (one : first.Returns result) (two : ∀ value, result value → (rest value).Returns result') :
    (first >>= rest).Returns result' := by
  induction first with
  | done value => exact two value one
  | call op next ih => exact fun answer => ih answer (one answer)

end Program

/-- A program that may fail. -/
abbrev Fallible (Op : Type) (Answer : Op → Type) (ε α : Type) := ExceptT ε (Program Op Answer) α

theorem Program.Only.bind_fallible {kind : Op → Prop} {first : Fallible Op Answer ε α}
    {rest : α → Fallible Op Answer ε β} (one : Program.Only kind first.run)
    (two : ∀ value, Program.Only kind (rest value).run) : Program.Only kind (first >>= rest).run := by
  refine Program.Only.bind one ?_
  rintro (error | value)
  · trivial
  · exact two value

theorem Fallible.mayReturn_bind {first : Fallible Op Answer ε α} {rest : α → Fallible Op Answer ε β}
    {final : β} :
    Program.MayReturn (first >>= rest).run (.ok final) ↔
      ∃ value, Program.MayReturn first.run (.ok value) ∧ Program.MayReturn (rest value).run (.ok final) := by
  refine Program.mayReturn_bind.trans ?_
  constructor
  · rintro ⟨error | value, returns, ends⟩
    · cases ends
    · exact ⟨value, returns, ends⟩
  · rintro ⟨value, returns, ends⟩
    exact ⟨.ok value, returns, ends⟩

theorem Fallible.only_bind {kind : Op → Prop} {first : Fallible Op Answer ε α}
    {rest : α → Fallible Op Answer ε β} :
    Program.Only kind (first >>= rest).run ↔
      Program.Only kind first.run ∧
        ∀ value, Program.MayReturn first.run (.ok value) → Program.Only kind (rest value).run := by
  refine Program.only_bind.trans (and_congr_right fun _ => ?_)
  constructor
  · exact fun only value returns => only (.ok value) returns
  · rintro only (error | value) returns
    · trivial
    · exact only value returns

/-- What a program that may fail gives when it succeeds. -/
def Fallible.Gives (result : α → Prop) (program : Fallible Op Answer ε α) : Prop :=
  Program.Returns (fun outcome => ∀ value, outcome = .ok value → result value) program.run

theorem Fallible.Gives.bind {result' : β → Prop} {first : Fallible Op Answer ε α}
    {rest : α → Fallible Op Answer ε β} (result : α → Prop) (one : first.Gives result)
    (two : ∀ value, result value → (rest value).Gives result') : (first >>= rest).Gives result' := by
  refine Program.Returns.bind one ?_
  rintro (error | value) given
  · intro value impossible
    cases impossible
  · exact two value (given value rfl)

theorem Fallible.Gives.rest {result : β → Prop} {first : Fallible Op Answer ε α}
    {rest : α → Fallible Op Answer ε β} (two : ∀ value, (rest value).Gives result) :
    (first >>= rest).Gives result := by
  refine Program.Returns.bind (Program.returns_any _) ?_
  rintro (error | value) _
  · intro value impossible
    cases impossible
  · exact two value

theorem Fallible.Gives.lift {result : α → Prop} {program : Program Op Answer α}
    (returns : program.Returns result) :
    Fallible.Gives result (ExceptT.lift program : Fallible Op Answer ε α) := by
  refine Program.Returns.bind returns fun value given => ?_
  intro other same
  cases same
  exact given

theorem Fallible.Gives.pure {result : α → Prop} {value : α} (given : result value) :
    Fallible.Gives result (Pure.pure value : Fallible Op Answer ε α) := by
  intro other same
  cases same
  exact given

theorem Fallible.Gives.throw {result : α → Prop} {error : ε} :
    Fallible.Gives result (throw error : Fallible Op Answer ε α) := by
  intro other same
  cases same

theorem Program.Only.lift {kind : Op → Prop} {program : Program Op Answer α}
    (only : program.Only kind) :
    Program.Only kind (ExceptT.lift program : Fallible Op Answer ε α).run :=
  only.bind fun _ => trivial

/-- What the operations do, for the process that performs them and a choice the
environment makes, and what the world notes when a process begins or dies. -/
structure Service (Op : Type) (Answer : Op → Type) (World Choice Request : Type) where
  perform : Nat → World → (op : Op) → Choice → Answer op × World
  began : Nat → Request → World → World
  died : Nat → World → World

/-- The world, and what is left of each process that began. -/
structure Pool (Op : Type) (Answer : Op → Type) (World : Type) where
  world : World
  procs : Nat → Option (Program Op Answer Unit)

/-- A step of a pool: a process begins, performs its next operation, or dies. -/
inductive PoolLabel (Request Choice : Type) where
  | start (pid : Nat) (request : Request)
  | step (pid : Nat) (choice : Choice)
  | die (pid : Nat)

namespace Service

variable (service : Service Op Answer World Choice Request)
  (program : Request → Program Op Answer Unit)

def poolStep (pool : Pool Op Answer World) : PoolLabel Request Choice → Option (Pool Op Answer World)
  | .start pid request =>
    match pool.procs pid with
    | none => some ⟨service.began pid request pool.world,
        Function.update pool.procs pid (some (program request))⟩
    | some _ => none
  | .step pid choice =>
    match pool.procs pid with
    | some (.call op next) =>
      let result := service.perform pid pool.world op choice
      some ⟨result.2, Function.update pool.procs pid (some (next result.1))⟩
    | _ => none
  | .die pid =>
    match pool.procs pid with
    | some (.call _ _) => some ⟨service.died pid pool.world,
        Function.update pool.procs pid (some (.done ()))⟩
    | _ => none

/-- Interleavings of any number of processes, from a world with none. -/
def pool (initial : World → Prop) : System (Pool Op Answer World) (PoolLabel Request Choice) where
  start state := initial state.world ∧ state.procs = fun _ => none
  step := service.poolStep program

end Service

/-! ## A process alone -/

section Alone

variable (service : Service Op Answer World Choice Request) (pid : Nat)
  (env : World → Op → Choice)

/-- The result of a program that nothing interferes with. The environment may
look at the whole world, its history included. -/
def Service.alone : Program Op Answer α → World → α × World
  | .done value, world => (value, world)
  | .call op next, world =>
    let result := service.perform pid world op (env world op)
    alone (next result.1) result.2

/-- Alone and from a world with `pre`, the program ends with `post`. -/
def Service.Ends (pre : World → Prop) (program : Program Op Answer α) (post : α → World → Prop) : Prop :=
  ∀ world, pre world → post (service.alone pid env program world).1 (service.alone pid env program world).2

variable {service pid env} {pre pre' : World → Prop} {post post' : α → World → Prop}

theorem Service.alone_bind (program : Program Op Answer α) (rest : α → Program Op Answer β)
    (world : World) : service.alone pid env (program >>= rest) world =
      service.alone pid env (rest (service.alone pid env program world).1)
        (service.alone pid env program world).2 := by
  induction program generalizing world with
  | done value => rfl
  | call op next ih => exact ih _ _

namespace Service.Ends

theorem consequence {program : Program Op Answer α} (ends : service.Ends pid env pre program post)
    (before : ∀ world, pre' world → pre world)
    (after : ∀ value world, post value world → post' value world) :
    service.Ends pid env pre' program post' :=
  fun world holds => after _ _ (ends world (before world holds))

theorem pure {value : α} (holds : ∀ world, pre world → post value world) :
    service.Ends pid env pre (Pure.pure value) post := holds

theorem bind {program : Program Op Answer α} {rest : α → Program Op Answer β}
    {final : β → World → Prop} (post : α → World → Prop) (first : service.Ends pid env pre program post)
    (second : ∀ value, service.Ends pid env (post value) (rest value) final) :
    service.Ends pid env pre (program >>= rest) final := by
  intro world holds
  rw [Service.alone_bind]
  exact second _ _ (first world holds)

theorem perform {op : Op} {post : Answer op → World → Prop}
    (step : ∀ world, pre world → post (service.perform pid world op (env world op)).1
      (service.perform pid world op (env world op)).2) :
    service.Ends pid env pre (Program.perform op) post := step

theorem lift {program : Program Op Answer α} {post : Except ε α → World → Prop}
    (ends : service.Ends pid env pre program fun value => post (.ok value)) :
    service.Ends pid env pre (ExceptT.lift program : Fallible Op Answer ε α).run post :=
  bind _ ends fun _ => pure fun _ holds => holds

theorem bind_fallible {first : Fallible Op Answer ε α} {rest : α → Fallible Op Answer ε β}
    {final : Except ε β → World → Prop} (middle : α → World → Prop)
    (one : service.Ends pid env pre first.run fun result world => match result with
      | .ok value => middle value world
      | .error error => final (.error error) world)
    (two : ∀ value, service.Ends pid env (middle value) (rest value).run final) :
    service.Ends pid env pre (first >>= rest).run final := by
  refine bind _ one ?_
  rintro (error | value)
  · exact pure fun _ holds => holds
  · exact two value

/-- A program whose operations all keep an assertion keeps it. -/
theorem only {program : Program Op Answer α} {kind : Op → Prop} (only : program.Only kind)
    (step : ∀ op world, kind op → pre world → pre (service.perform pid world op (env world op)).2) :
    service.Ends pid env pre program fun _ => pre := by
  induction program with
  | done value => exact fun _ holds => holds
  | call op next ih =>
    intro world holds
    exact ih _ (only.2 _) _ (step op world only.1 holds)

end Service.Ends

end Alone

/-- What all processes keep, what each may do and tolerates, and which steps
are considered at all. -/
structure Contract (service : Service Op Answer World Choice Request) where
  inv : World → Prop
  permits : Nat → World → (op : Op) → Choice → Prop
  mayStart : Nat → World → Request → Prop
  mayDie : Nat → World → Prop
  guarantee : Nat → World → World → Prop
  rely : Nat → World → World → Prop
  rely_refl : ∀ pid world, rely pid world world
  rely_trans : ∀ pid {first second third}, rely pid first second → rely pid second third →
    rely pid first third
  compatible : ∀ {pid other world after}, pid ≠ other → inv world → inv after →
    guarantee pid world after → rely other world after
  starts : ∀ {pid world request}, inv world → mayStart pid world request →
    inv (service.began pid request world) ∧
      ∀ other, other ≠ pid → rely other world (service.began pid request world)
  dies : ∀ {pid world}, inv world → mayDie pid world →
    inv (service.died pid world) ∧ ∀ other, other ≠ pid → rely other world (service.died pid world)

namespace Contract

variable {service : Service Op Answer World Choice Request} (contract : Contract service) (pid : Nat)

/-- The rest of the process is safe from this world on. -/
def Safe (post : α → World → Prop) : Program Op Answer α → World → Prop
  | .done value, world => ∀ now, contract.inv now → contract.rely pid world now → post value now
  | .call op next, world => ∀ now choice, contract.inv now → contract.rely pid world now →
      contract.permits pid now op choice →
      contract.inv (service.perform pid now op choice).2 ∧
        contract.guarantee pid now (service.perform pid now op choice).2 ∧
        Safe post (next (service.perform pid now op choice).1) (service.perform pid now op choice).2

/-- From every world with `pre` the program is safe, and ends with `post`. -/
def Triple (pre : World → Prop) (program : Program Op Answer α) (post : α → World → Prop) : Prop :=
  ∀ world, contract.inv world → pre world → contract.Safe pid post program world

/-- An assertion that the other processes keep. -/
def Stable (assertion : World → Prop) : Prop :=
  ∀ {world after}, contract.inv world → contract.inv after → contract.rely pid world after →
    assertion world → assertion after

variable {contract pid} {pre pre' : World → Prop} {post post' : α → World → Prop}

theorem Safe.later {program : Program Op Answer α} {world after : World}
    (safe : contract.Safe pid post program world) (moved : contract.rely pid world after) :
    contract.Safe pid post program after := by
  cases program with
  | done value =>
    intro now kept later
    exact safe now kept (contract.rely_trans pid moved later)
  | call op next =>
    intro now choice kept later allowed
    exact safe now choice kept (contract.rely_trans pid moved later) allowed

theorem Safe.pure {value : α} {world : World} (stable : contract.Stable pid (post value))
    (kept : contract.inv world) (holds : post value world) :
    contract.Safe pid post (Pure.pure value) world :=
  fun _ keptNow moved => stable kept keptNow moved holds

theorem Safe.weaken {program : Program Op Answer α} {world : World}
    (safe : contract.Safe pid post program world)
    (implies : ∀ value now, contract.inv now → post value now → post' value now) :
    contract.Safe pid post' program world := by
  induction program generalizing world with
  | done value =>
    intro now kept later
    exact implies value now kept (safe now kept later)
  | call op next ih =>
    intro now choice kept later allowed
    obtain ⟨kept', guaranteed, rest⟩ := safe now choice kept later allowed
    exact ⟨kept', guaranteed, ih _ rest⟩

theorem Safe.bind {program : Program Op Answer α} {rest : α → Program Op Answer β} {world : World}
    {final : β → World → Prop} (safe : contract.Safe pid post program world)
    (kept : contract.inv world)
    (continues : ∀ value now, contract.inv now → post value now → contract.Safe pid final (rest value) now) :
    contract.Safe pid final (program >>= rest) world := by
  induction program generalizing world with
  | done value => exact continues value world kept (safe world kept (contract.rely_refl pid world))
  | call op next ih =>
    intro now choice kept later allowed
    obtain ⟨kept', guaranteed, remaining⟩ := safe now choice kept later allowed
    exact ⟨kept', guaranteed, ih _ remaining kept'⟩

namespace Triple

theorem consequence {program : Program Op Answer α} (triple : contract.Triple pid pre program post)
    (before : ∀ world, contract.inv world → pre' world → pre world)
    (after : ∀ value world, contract.inv world → post value world → post' value world) :
    contract.Triple pid pre' program post' := by
  intro world kept holds
  exact (triple world kept (before world kept holds)).weaken after

theorem pure {value : α} (stable : contract.Stable pid pre)
    (holds : ∀ world, contract.inv world → pre world → post value world) :
    contract.Triple pid pre (Pure.pure value) post := by
  intro world kept now later keptLater moved
  exact holds later keptLater (stable kept keptLater moved now)

theorem bind {program : Program Op Answer α} {rest : α → Program Op Answer β}
    {final : β → World → Prop} (first : contract.Triple pid pre program post)
    (second : ∀ value, contract.Triple pid (post value) (rest value) final) :
    contract.Triple pid pre (program >>= rest) final := by
  intro world kept holds
  exact (first world kept holds).bind kept fun value now keptNow reached =>
    second value now keptNow reached

/-- One operation: the assertion before it is stable, and so is the one its
answer establishes. -/
theorem perform {op : Op} {post : Answer op → World → Prop} (before : contract.Stable pid pre)
    (after : ∀ answer, contract.Stable pid (post answer))
    (step : ∀ world choice, contract.inv world → pre world → contract.permits pid world op choice →
      contract.inv (service.perform pid world op choice).2 ∧
        contract.guarantee pid world (service.perform pid world op choice).2 ∧
        post (service.perform pid world op choice).1 (service.perform pid world op choice).2) :
    contract.Triple pid pre (Program.perform op) post := by
  intro world kept holds now choice keptNow moved allowed
  obtain ⟨kept', guaranteed, reached⟩ :=
    step now choice keptNow (before kept keptNow moved holds) allowed
  refine ⟨kept', guaranteed, ?_⟩
  intro later keptLater movedLater
  exact after _ kept' keptLater movedLater reached

theorem assume {fact : Prop} {program : Program Op Answer α}
    (triple : fact → contract.Triple pid pre program post) :
    contract.Triple pid (fun world => fact ∧ pre world) program post :=
  fun world kept holds => triple holds.1 world kept holds.2

/-- What neither the others nor the process's own steps can undo stays. -/
theorem frame {program : Program Op Answer α} {kept : World → Prop}
    (triple : contract.Triple pid pre program post) (stable : contract.Stable pid kept)
    (own : ∀ {world after}, contract.guarantee pid world after → kept world → kept after) :
    contract.Triple pid (fun world => kept world ∧ pre world) program
      fun value world => kept world ∧ post value world := by
  rintro world inv ⟨framed, holds⟩
  have safe := triple world inv holds
  clear holds triple
  induction program generalizing world with
  | done value => exact fun now invNow moved => ⟨stable inv invNow moved framed, safe now invNow moved⟩
  | call op next ih =>
    intro now choice invNow moved allowed
    obtain ⟨inv', guaranteed, rest⟩ := safe now choice invNow moved allowed
    exact ⟨inv', guaranteed, ih _ _ inv' (own guaranteed (stable inv invNow moved framed)) rest⟩

/-- What a program returns on every branch is known at its end. -/
theorem returns {program : Program Op Answer α} {result : α → Prop}
    (triple : contract.Triple pid pre program post) (returns : program.Returns result) :
    contract.Triple pid pre program fun value world => result value ∧ post value world := by
  intro world kept holds
  have safe := triple world kept holds
  clear kept holds triple
  induction program generalizing world with
  | done value => exact fun now kept moved => ⟨returns, safe now kept moved⟩
  | call op next ih =>
    intro now choice kept moved allowed
    obtain ⟨kept', guaranteed, rest⟩ := safe now choice kept moved allowed
    exact ⟨kept', guaranteed, ih _ (returns _) _ rest⟩

/-- A program whose operations all keep an assertion keeps it. -/
theorem only {program : Program Op Answer α} {kind : Op → Prop} (only : program.Only kind)
    (stable : contract.Stable pid pre)
    (step : ∀ op world choice, kind op → contract.inv world → pre world →
      contract.permits pid world op choice →
      contract.inv (service.perform pid world op choice).2 ∧
        contract.guarantee pid world (service.perform pid world op choice).2 ∧
        pre (service.perform pid world op choice).2) :
    contract.Triple pid pre program (fun _ => pre) := by
  induction program with
  | done value =>
    intro world kept holds now keptNow moved
    exact stable kept keptNow moved holds
  | call op next ih =>
    intro world kept holds now choice keptNow moved allowed
    obtain ⟨kept', guaranteed, reached⟩ :=
      step op now choice only.1 keptNow (stable kept keptNow moved holds) allowed
    exact ⟨kept', guaranteed, ih _ (only.2 _) _ kept' reached⟩

end Triple

/-- One assertion for each value of a success, and one for every failure. -/
def Either (post : α → World → Prop) (failed : World → Prop) : Except ε α → World → Prop
  | .ok value => post value
  | .error _ => failed

theorem Either.intro {failed : World → Prop} {result : Except ε α} {world : World}
    (ok : ∀ value, result = .ok value → post value world)
    (error : ∀ cause, result = .error cause → failed world) : Either post failed result world := by
  cases result with
  | ok value => exact ok value rfl
  | error cause => exact error cause rfl

theorem Either.stable {failed : World → Prop} (ok : ∀ value, contract.Stable pid (post value))
    (error : contract.Stable pid failed) :
    ∀ result : Except ε α, contract.Stable pid (Either post failed result)
  | .ok value => ok value
  | .error _ => error

variable (contract pid) in
/-- A program that may fail: what holds when it succeeds and when it fails. -/
def Attempt (pre : World → Prop) (program : Fallible Op Answer ε α) (post : α → World → Prop)
    (failed : World → Prop) : Prop :=
  contract.Triple pid pre program.run (Either post failed)

namespace Attempt

variable {program : Fallible Op Answer ε α} {rest : α → Fallible Op Answer ε β}
  {middle : α → World → Prop} {final : β → World → Prop} {failed : World → Prop}

theorem bind (middle : α → World → Prop) (one : contract.Attempt pid pre program middle failed)
    (stable : contract.Stable pid failed)
    (two : ∀ value, contract.Attempt pid (middle value) (rest value) final failed) :
    contract.Attempt pid pre (program >>= rest) final failed := by
  refine Triple.bind one ?_
  rintro (error | value)
  · exact Triple.pure stable fun _ _ holds => holds
  · exact two value

theorem consequence (attempt : contract.Attempt pid pre program post failed)
    (before : ∀ world, contract.inv world → pre' world → pre world)
    (after : ∀ value world, contract.inv world → post value world → post' value world) :
    contract.Attempt pid pre' program post' failed := by
  refine Triple.consequence attempt before ?_
  rintro (error | value) world kept holds
  · exact holds
  · exact after value world kept holds

theorem pure {value : α} (stable : contract.Stable pid pre)
    (holds : ∀ world, contract.inv world → pre world → post value world) :
    contract.Attempt pid pre (Pure.pure value : Fallible Op Answer ε α) post failed :=
  Triple.pure stable holds

theorem throw {error : ε} (stable : contract.Stable pid pre)
    (holds : ∀ world, contract.inv world → pre world → failed world) :
    contract.Attempt pid pre (throw error : Fallible Op Answer ε α) post failed :=
  Triple.pure stable holds

/-- A part that cannot fail, or whose failure is looked at. -/
theorem lift {program : Program Op Answer α} (triple : contract.Triple pid pre program post)
    (stable : ∀ value, contract.Stable pid (post value)) :
    contract.Attempt pid pre (ExceptT.lift program : Fallible Op Answer ε α) post failed :=
  Triple.bind triple fun value => Triple.pure (stable value) fun _ _ holds => holds

end Attempt

variable (contract) in
/-- The steps of a pool that the contract considers. -/
def Guard (pool : Pool Op Answer World) : PoolLabel Request Choice → Prop
  | .start pid request => contract.mayStart pid pool.world request
  | .step pid choice => ∀ op next, pool.procs pid = some (.call op next) →
      contract.permits pid pool.world op choice
  | .die pid => contract.mayDie pid pool.world

variable (contract) in
/-- The invariant holds, and what is left of every process is safe. -/
structure PoolSafe (pool : Pool Op Answer World) : Prop where
  inv : contract.inv pool.world
  safe : ∀ pid program, pool.procs pid = some program →
    contract.Safe pid (fun _ _ => True) program pool.world

variable {program : Request → Program Op Answer Unit} {initial : World → Prop}
  {pool next : Pool Op Answer World}

/-- What is left of the other processes stays safe when one of them is replaced. -/
private theorem safe_update {pool : Pool Op Answer World} {world : World} {pid : Nat}
    {mine : Program Op Answer Unit}
    (safe : ∀ pid program, pool.procs pid = some program →
      contract.Safe pid (fun _ _ => True) program pool.world)
    (own : contract.Safe pid (fun _ _ => True) mine world)
    (others : ∀ other, other ≠ pid → contract.rely other pool.world world) :
    ∀ other program, Function.update pool.procs pid (some mine) other = some program →
      contract.Safe other (fun _ _ => True) program world := by
  intro other program found
  by_cases same : other = pid
  · subst same
    rw [Function.update_self] at found
    cases found
    exact own
  · rw [Function.update_of_ne same] at found
    exact (safe other program found).later (others other same)

/-- One considered step keeps the pool safe. -/
theorem PoolSafe.step (begins : ∀ pid request, contract.Triple pid
      (fun world => ∃ before, contract.mayStart pid before request ∧
        world = service.began pid request before) (program request) (fun _ _ => True))
    {label : PoolLabel Request Choice} (safe : contract.PoolSafe pool)
    (guarded : contract.Guard pool label) (ran : service.poolStep program pool label = some next) :
    contract.PoolSafe next := by
  cases label with
  | start pid request =>
    simp only [Service.poolStep] at ran
    split at ran
    · cases ran
      obtain ⟨kept, others⟩ := contract.starts safe.inv guarded
      refine ⟨kept, safe_update safe.safe ?_ others⟩
      exact begins pid request _ kept ⟨pool.world, guarded, rfl⟩
    · cases ran
  | step pid choice =>
    simp only [Service.poolStep] at ran
    split at ran
    · rename_i op rest found
      cases ran
      obtain ⟨kept, guaranteed, remaining⟩ := safe.safe pid _ found pool.world choice safe.inv
        (contract.rely_refl pid _) (guarded op rest found)
      refine ⟨kept, safe_update safe.safe remaining ?_⟩
      intro other differs
      exact contract.compatible (Ne.symm differs) safe.inv kept guaranteed
    · cases ran
  | die pid =>
    simp only [Service.poolStep] at ran
    split at ran
    · cases ran
      obtain ⟨kept, others⟩ := contract.dies safe.inv guarded
      refine ⟨kept, safe_update safe.safe ?_ others⟩
      exact fun _ _ _ => trivial
    · cases ran

/-- Every state of every considered interleaving is safe. -/
theorem pool_safe (initially : ∀ world, initial world → contract.inv world)
    (begins : ∀ pid request, contract.Triple pid
      (fun world => ∃ before, contract.mayStart pid before request ∧
        world = service.began pid request before) (program request) (fun _ _ => True))
    (reached : (service.pool program initial).Reachable contract.Guard pool) :
    contract.PoolSafe pool := by
  refine reached.invariant ?_ fun state label after safe guarded ran => safe.step begins guarded ran
  rintro state ⟨begun, empty⟩
  refine ⟨initially _ begun, ?_⟩
  intro pid program found
  rw [empty] at found
  cases found

end Contract

end GuestComponents.Lib
