import GuestComponents.Lib.Exclusive

/-! What a trace of events says about each event's past. `Always rule trace` is the safety
property that every event of the trace meets a rule about the events before it. A trace that
grows at its end keeps it when each event that is added meets the rule. `Service.Attempts` reads
`Upholds` for programs that may fail: a failure leaves the invariant, and so does a program
that is dropped. `Service.Settles` reads `Ends` for programs that may fail. -/
namespace GuestComponents.Lib

variable {Event : Type}

/-- Each event of the trace meets the rule, given the events before it. -/
def Always (rule : List Event → Event → Prop) (trace : List Event) : Prop :=
  ∀ before event after, trace = before ++ event :: after → rule before event

variable {rule : List Event → Event → Prop} {trace : List Event}

theorem always_nil : Always rule [] := by
  intro before event after split
  exact absurd split.symm (List.append_ne_nil_of_right_ne_nil before (List.cons_ne_nil event after))

/-- A trace grows by an event that meets the rule. -/
theorem Always.concat {event : Event} (always : Always rule trace) (meets : rule trace event) :
    Always rule (trace ++ [event]) := by
  intro before other after split
  rcases List.eq_nil_or_concat after with rfl | ⟨rest, last, rfl⟩
  · obtain ⟨rfl, same⟩ := List.append_inj' split rfl
    cases same
    exact meets
  · have shorter : trace ++ [event] = (before ++ other :: rest) ++ [last] := by
      rw [split, List.concat_eq_append, List.append_assoc, List.cons_append]
    exact always before other rest (List.append_inj' shorter rfl).1

section Fallible

variable {Op : Type} {Answer : Op → Type} {World Choice Request α β ε : Type}
  (service : Service Op Answer World Choice Request) (pid : Nat) (env : World → Op → Choice)

/-- What every operation keeps, every program keeps. -/
theorem Service.Upholds.every {service : Service Op Answer World Choice Request} {pid : Nat}
    {env : World → Op → Choice} {inv : World → Prop} (program : Program Op Answer α)
    (step : ∀ op world, inv world → inv (service.perform pid world op (env world op)).2) :
    service.Upholds pid env inv inv program fun _ => inv := by
  have any : program.Only fun _ => True := by
    induction program with
    | done value => trivial
    | call op next ih => exact ⟨trivial, ih⟩
  exact Service.Upholds.only any (fun _ holds => holds) fun op world _ => step op world

/-- From a world with `pre`, alone, the program upholds `inv` wherever it is dropped or fails,
and where it succeeds it ends with `post` too. -/
def Service.Attempts (inv pre : World → Prop) (program : Fallible Op Answer ε α)
    (post : α → World → Prop) : Prop :=
  service.Upholds pid env inv pre program.run fun result world =>
    inv world ∧ ∀ value, result = .ok value → post value world

variable {service pid env} {inv pre pre' : World → Prop} {post post' : α → World → Prop}

namespace Service.Attempts

theorem consequence {program : Fallible Op Answer ε α}
    (attempts : service.Attempts pid env inv pre program post)
    (before : ∀ world, pre' world → pre world)
    (after : ∀ value world, inv world → post value world → post' value world) :
    service.Attempts pid env inv pre' program post' :=
  Service.Upholds.consequence attempts before fun _ world holds =>
    ⟨holds.1, fun value same => after value world holds.1 (holds.2 value same)⟩

theorem pure {value : α} (holds : ∀ world, pre world → inv world ∧ post value world) :
    service.Attempts pid env inv pre (Pure.pure value : Fallible Op Answer ε α) post := by
  refine Service.Upholds.pure fun world now => ⟨(holds world now).1, (holds world now).1, ?_⟩
  rintro other same
  cases same
  exact (holds world now).2

theorem throw {error : ε} (holds : ∀ world, pre world → inv world) :
    service.Attempts pid env inv pre (MonadExcept.throw error : Fallible Op Answer ε α) post := by
  refine Service.Upholds.pure fun world now => ⟨holds world now, holds world now, ?_⟩
  rintro other same
  cases same

/-- A computed result, which stops the program where it is an error. -/
theorem result {outcome : Except ε α} (before : ∀ world, pre world → inv world)
    (ok : ∀ value world, outcome = .ok value → pre world → post value world) :
    service.Attempts pid env inv pre (ExceptT.mk (Pure.pure outcome)) post :=
  Service.Upholds.pure fun world now =>
    ⟨before world now, before world now, fun value same => ok value world same now⟩

theorem bind {program : Fallible Op Answer ε α} {rest : α → Fallible Op Answer ε β}
    {final : β → World → Prop} (post : α → World → Prop)
    (first : service.Attempts pid env inv pre program post)
    (second : ∀ value, service.Attempts pid env inv
      (fun world => inv world ∧ post value world) (rest value) final) :
    service.Attempts pid env inv pre (program >>= rest) final := by
  refine Service.Upholds.bind _ first ?_
  rintro (error | value)
  · refine Service.Upholds.pure fun world holds => ⟨holds.1, holds.1, ?_⟩
    rintro other same
    cases same
  · exact Service.Upholds.consequence (second value) (fun _ holds => ⟨holds.1, holds.2 value rfl⟩)
      fun _ _ holds => holds

/-- A part whose own result is looked at. -/
theorem lift {program : Program Op Answer α}
    (upholds : service.Upholds pid env inv pre program fun value world => inv world ∧ post value world) :
    service.Attempts pid env inv pre (ExceptT.lift program : Fallible Op Answer ε α) post := by
  refine Service.Upholds.bind _ upholds fun value => Service.Upholds.pure fun world holds =>
    ⟨holds.1, holds.1, ?_⟩
  rintro other same
  cases same
  exact holds.2

/-- Nothing is kept, and nothing is known at the end. -/
theorem any {program : Fallible Op Answer ε α} :
    service.Attempts pid env (fun _ => True) pre program fun _ _ => True :=
  fun _ _ => ⟨fun _ => trivial, trivial, fun _ _ => trivial⟩

/-- A program whose operations all keep the invariant. -/
theorem only {program : Fallible Op Answer ε α} {kind : Op → Prop} (only : Program.Only kind program.run)
    (step : ∀ op world, kind op → inv world → inv (service.perform pid world op (env world op)).2) :
    service.Attempts pid env inv inv program fun _ _ => True :=
  (Service.Upholds.only only (fun _ holds => holds) step).consequence (fun _ holds => holds)
    fun _ _ holds => ⟨holds, fun _ _ => trivial⟩

end Service.Attempts

variable (service pid env inv) in
/-- The program keeps the invariant, whether it ends, fails or is dropped. -/
def Service.Keeps (program : Fallible Op Answer ε α) : Prop :=
  service.Attempts pid env inv inv program fun _ _ => True

namespace Service.Keeps

theorem bind {program : Fallible Op Answer ε α} {rest : α → Fallible Op Answer ε β}
    (first : service.Keeps pid env inv program) (second : ∀ value, service.Keeps pid env inv (rest value)) :
    service.Keeps pid env inv (program >>= rest) :=
  Service.Attempts.bind _ first fun value =>
    (second value).consequence (fun _ holds => holds.1) fun _ _ _ holds => holds

theorem pure (value : α) : service.Keeps pid env inv (Pure.pure value : Fallible Op Answer ε α) :=
  Service.Attempts.pure fun _ holds => ⟨holds, trivial⟩

theorem throw (error : ε) :
    service.Keeps pid env inv (MonadExcept.throw error : Fallible Op Answer ε α) :=
  Service.Attempts.throw fun _ holds => holds

theorem result (outcome : Except ε α) : service.Keeps pid env inv (ExceptT.mk (Pure.pure outcome)) :=
  Service.Attempts.result (fun _ holds => holds) fun _ _ _ _ => trivial

/-- A part whose own result is looked at, which may itself be a failure. -/
theorem lift {program : Program Op Answer α}
    (upholds : service.Upholds pid env inv inv program fun _ => inv) :
    service.Keeps pid env inv (ExceptT.lift program : Fallible Op Answer ε α) :=
  Service.Attempts.lift (upholds.consequence (fun _ holds => holds) fun _ _ holds => ⟨holds, trivial⟩)

/-- The program, with its failures for results. -/
theorem run {program : Fallible Op Answer ε α} (keeps : service.Keeps pid env inv program) :
    service.Upholds pid env inv inv program.run fun _ => inv := by
  have attempts : service.Attempts pid env inv inv program fun _ _ => True := keeps
  exact Service.Upholds.consequence attempts (fun _ holds => holds) fun _ _ holds => holds.1

end Service.Keeps

variable (service pid env) in
/-- From a world with `pre`, alone, the program ends with `ok` where it succeeds and with `failed`
where it does not. -/
def Service.Settles (pre : World → Prop) (program : Fallible Op Answer ε α)
    (ok : α → World → Prop) (failed : World → Prop) : Prop :=
  service.Ends pid env pre program.run fun
    | .ok value => ok value
    | .error _ => failed

namespace Service.Settles

variable {ok ok' : α → World → Prop} {failed failed' : World → Prop}

theorem consequence {program : Fallible Op Answer ε α} (settles : service.Settles pid env pre program ok failed)
    (before : ∀ world, pre' world → pre world) (after : ∀ value world, ok value world → ok' value world)
    (after_failed : ∀ world, failed world → failed' world) :
    service.Settles pid env pre' program ok' failed' := by
  refine Service.Ends.consequence settles before ?_
  rintro (error | value) world holds
  · exact after_failed world holds
  · exact after value world holds

theorem pure {value : α} (holds : ∀ world, pre world → ok value world) :
    service.Settles pid env pre (Pure.pure value : Fallible Op Answer ε α) ok failed := holds

theorem throw {error : ε} (holds : ∀ world, pre world → failed world) :
    service.Settles pid env pre (MonadExcept.throw error : Fallible Op Answer ε α) ok failed := holds

theorem bind {program : Fallible Op Answer ε α} {rest : α → Fallible Op Answer ε β}
    {final : β → World → Prop} (middle : α → World → Prop)
    (first : service.Settles pid env pre program middle failed)
    (second : ∀ value, service.Settles pid env (middle value) (rest value) final failed) :
    service.Settles pid env pre (program >>= rest) final failed := by
  refine Service.Ends.bind _ first ?_
  rintro (error | value)
  · exact fun _ holds => holds
  · exact second value

/-- A part whose own result is looked at. -/
theorem lift {program : Program Op Answer α} (ends : service.Ends pid env pre program ok) :
    service.Settles pid env pre (ExceptT.lift program : Fallible Op Answer ε α) ok failed :=
  Service.Ends.bind _ ends fun _ _ holds => holds

/-- A part that may fail, and what is done in either case. -/
theorem ends {program : Fallible Op Answer ε α} {rest : Except ε α → Program Op Answer β}
    {final : β → World → Prop} (settles : service.Settles pid env pre program ok failed)
    (success : ∀ value, service.Ends pid env (ok value) (rest (.ok value)) final)
    (failure : ∀ error, service.Ends pid env failed (rest (.error error)) final) :
    service.Ends pid env pre (program.run >>= rest) final := by
  refine Service.Ends.bind _ settles ?_
  rintro (error | value)
  · exact failure error
  · exact success value

/-- `ends`, where what is done may fail as well. -/
theorem handle {ε' : Type} {program : Fallible Op Answer ε α} {rest : Except ε α → Fallible Op Answer ε' β}
    {final : β → World → Prop} (settles : service.Settles pid env pre program ok failed)
    (success : ∀ value, service.Settles pid env (ok value) (rest (.ok value)) final failed')
    (failure : ∀ error, service.Settles pid env failed (rest (.error error)) final failed') :
    service.Settles pid env pre (ExceptT.lift program.run >>= rest) final failed' := by
  refine Service.Settles.bind _ (Service.Settles.lift settles) ?_
  rintro (error | value)
  · exact failure error
  · exact success value

/-- Another error does not change what the program ends with. -/
theorem adapt {ε' : Type} {change : ε → ε'} {program : Fallible Op Answer ε α}
    (settles : service.Settles pid env pre program ok failed) :
    service.Settles pid env pre (ExceptT.adapt change program : Fallible Op Answer ε' α) ok failed := by
  refine Service.Ends.bind _ settles ?_
  rintro (error | value)
  · exact fun _ holds => holds
  · exact fun _ holds => holds

/-- What holds where the program succeeds. -/
theorem succeeds {program : Fallible Op Answer ε α} {world : World} {value : α}
    (settles : service.Settles pid env pre program ok failed) (holds : pre world)
    (same : (service.alone pid env program.run world).1 = .ok value) :
    ok value (service.alone pid env program.run world).2 := by
  have ends := settles world holds
  rw [same] at ends
  exact ends

/-- What holds where the program succeeds and where it does not. -/
theorem either {program : Fallible Op Answer ε α} (settles : service.Settles pid env pre program ok failed)
    (success : ∀ value world, ok value world → failed world) :
    service.Ends pid env pre program.run fun _ => failed := by
  refine Service.Ends.consequence settles (fun _ holds => holds) ?_
  rintro (error | value) world holds
  · exact holds
  · exact success value world holds

end Service.Settles

end Fallible

end GuestComponents.Lib
