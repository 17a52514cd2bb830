import GuestComponents.Attester.TsmReport

/-! Reports through paths that are made and dropped, while others write to the directories. The
evidence of an attester is over the report data of its caller (`evidence_is_own`), and a path
gives one report (`one_report`). -/
namespace GuestComponents.Attester
open Lib Lib.Text

section Steps

variable {platform : Platform} {env : World → Op → Choice} {path : Nat} {base : List Nat} {p q : Entry → Prop}

/-- No directory that was made stays, where the kernel removes those it is asked to remove. -/
def Removed (env : World → Op → Choice) (base : List Nat) (world : World) : Prop :=
  (∀ world dir, (env world (.removeDir dir)).fails = none) → world.owned = base

theorem removeDir_ends : (kernel platform).Ends 0 env (During path base p) (Program.perform (.removeDir path))
    fun _ => Removed env base := by
  apply Service.Ends.perform
  intro world during removes
  simp only [kernel, act, removes]
  rw [during.owned, List.erase_cons_head]

theorem checkTsmReportProvider_settles (undisturbed : Undisturbed env) (stable : Stable p)
    (wanted : TsmReportProvider) :
    (kernel platform).Settles 0 env (During path base p) (checkTsmReportProvider path wanted)
      (fun _ => During path base p) (During path base p) := by
  have still {given : Except String Text} (world : World) (holds : ∃ choice entry,
      given = onEntry choice (fun _ => .ok platform.provider) (some entry) ∧
        During path base (fun now => now = entry ∧ p now) world) : During path base p world := by
    obtain ⟨_, _, _, during⟩ := holds
    exact during.weaken fun _ now => now.2
  apply Service.Settles.bind _ (Service.Settles.lift (read_ends
    (fun choice => onEntry choice fun _ => .ok platform.provider) (fun _ _ => rfl) undisturbed stable))
  intro given
  apply Service.Settles.bind _ (mapErr_settles (fun _ world _ holds => still world holds) fun _ world _ holds =>
    still world holds)
  intro reportProvider
  split
  · split
    · exact Service.Settles.pure fun _ during => during
    · exact Service.Settles.throw fun _ during => during
  · exact Service.Settles.throw fun _ during => during

theorem checked_settles (undisturbed : Undisturbed env) (wanted : TsmReportProvider) :
    (kernel platform).Settles 0 env (During path base Clean) (TsmReportPath.checked path wanted)
      (fun made => During made base Clean) (Removed env base) := by
  apply Service.Settles.handle (checkTsmReportProvider_settles undisturbed clean_stable wanted)
  · exact fun _ => Service.Settles.pure fun _ during => during
  · intro e
    apply Service.Settles.bind _ (Service.Settles.lift removeDir_ends)
    exact fun _ => Service.Settles.throw fun _ removed => removed

/-- A path that is made has a directory that nobody wrote. -/
theorem new_settles (undisturbed : Undisturbed env) (wanted : TsmReportProvider) :
    (kernel platform).Settles 0 env (fun world => world.owned = base) (TsmReportPath.new wanted)
      (fun path => During path base Clean) (Removed env base) := by
  apply Service.Settles.bind fun _ world => world.owned = base
  · exact Service.Settles.lift (Service.Ends.perform fun _ owned => owned)
  intro present
  split
  · exact Service.Settles.throw fun _ owned _ => owned
  apply Service.Settles.bind fun given world =>
    (∀ path, given = .ok path → During path base Clean world) ∧
    (∀ cause, given = .error cause → world.owned = base)
  · apply Service.Settles.lift
    apply Service.Ends.perform
    intro world owned
    simp only [kernel, act]
    split
    · refine ⟨?_, ?_⟩
      · rintro path made
        cases made
        exact ⟨congrArg _ owned, .fresh, Function.update_self .., fun _ => rfl⟩
      · rintro cause same
        cases same
    · refine ⟨?_, fun _ _ => owned⟩
      rintro path same
      cases same
  intro given
  apply Service.Settles.bind _ (mapErr_settles (fun path world made holds => holds.1 path made)
    fun cause world same holds _ => holds.2 cause same)
  exact fun path => checked_settles undisturbed wanted

/-- The directory goes with the path, whatever was done with it. -/
theorem drop_settles {ε α : Type} {body : Fallible Op Answer ε α} {result : α → Prop}
    (settles : (kernel platform).Settles 0 env (During path base p) body
      (fun value world => During path base q world ∧ result value) (During path base p)) :
    (kernel platform).Settles 0 env (During path base p) (TsmReportPath.drop path body)
      (fun value world => Removed env base world ∧ result value) (Removed env base) := by
  apply Service.Settles.handle settles
  · intro value
    apply Service.Settles.bind fun _ world => Removed env base world ∧ result value
    · apply Service.Settles.lift
      apply Service.Ends.perform
      exact fun world holds => ⟨@removeDir_ends platform env path base _ world holds.1, holds.2⟩
    exact fun _ => Service.Settles.pure fun _ holds => holds
  · intro error
    apply Service.Settles.bind _ (Service.Settles.lift removeDir_ends)
    exact fun _ => Service.Settles.throw fun _ removed => removed

/-- The padded report data, as it is reported on. -/
def QuoteOf (platform : Platform) (data quote : List UInt8) : Prop :=
  ∃ serial, platform.outblob serial (resize 64 data) [] = .ok quote

theorem ccaEvidence_settles (undisturbed : Undisturbed env) (challenge : List UInt8) :
    (kernel platform).Settles 0 env (fun world => world.owned = base) (ccaEvidence challenge)
      (fun evidence world =>
        Removed env base world ∧ challenge.length ≤ 64 ∧ QuoteOf platform challenge evidence.token)
      (Removed env base) := by
  rw [ccaEvidence]
  split
  · exact Service.Settles.throw fun _ owned _ => owned
  rename_i fits
  apply Service.Settles.bind _ (Service.Settles.adapt (new_settles undisturbed .cca))
  intro tsm
  refine (drop_settles (q := Wrote Clean (resize 64 challenge) .inblob) ?_).consequence (fun _ during => during)
    (fun evidence world holds =>
    ⟨holds.1, Nat.le_of_not_lt fits, holds.2⟩) fun _ removed => removed
  apply Service.Settles.bind _ (Service.Settles.adapt (attestationReport_settles undisturbed _))
  exact fun token => Service.Settles.pure fun world holds => ⟨holds.1, holds.2.2⟩

theorem tdxQuote_settles (undisturbed : Undisturbed env) (data : List UInt8) :
    (kernel platform).Settles 0 env (fun world => world.owned = base) (tdxQuote (resize 64 data))
      (fun quote world => Removed env base world ∧ (QuoteOf platform data quote ∨
        ∃ serial, platform.ioctl serial (resize 64 data) = .ok quote))
      (Removed env base) := by
  apply Service.Settles.handle (new_settles undisturbed .tdx)
  · intro tsm
    exact (drop_settles (Service.Settles.adapt (attestationReport_settles undisturbed _))).consequence
      (fun _ during => during) (fun quote world holds => ⟨holds.1, .inl holds.2.2⟩) fun _ removed => removed
  · intro notsm
    apply Service.Settles.bind fun given world => Removed env base world ∧
      ∃ serial, given = platform.ioctl serial (resize 64 data)
    · exact Service.Settles.lift (Service.Ends.perform fun world removed => ⟨removed, _, rfl⟩)
    intro given
    cases given with
    | ok quote =>
      refine Service.Settles.pure fun world holds => ⟨holds.1, .inr ?_⟩
      obtain ⟨_, serial, reported⟩ := holds
      exact ⟨serial, reported.symm⟩
    | error cause => exact Service.Settles.throw fun _ holds => holds.1

theorem tdxEvidence_settles (undisturbed : Undisturbed env) (reportData : List UInt8) :
    (kernel platform).Settles 0 env (fun world => world.owned = base) (tdxEvidence reportData)
      (fun evidence world => Removed env base world ∧ reportData.length ≤ 64 ∧ ∃ quote,
        evidence.quote = Base64.encode quote ∧ (QuoteOf platform reportData quote ∨
          ∃ serial, platform.ioctl serial (resize 64 reportData) = .ok quote))
      (Removed env base) := by
  rw [tdxEvidence]
  split
  · exact Service.Settles.throw fun _ owned _ => owned
  rename_i fits
  apply Service.Settles.bind _ (tdxQuote_settles undisturbed reportData)
  intro quote
  let taken (world : World) : Prop := Removed env base world ∧ (QuoteOf platform reportData quote ∨
    ∃ serial, platform.ioctl serial (resize 64 reportData) = .ok quote)
  apply Service.Settles.bind fun _ => taken
  · exact Service.Settles.lift (Service.Ends.perform fun world holds => holds)
  intro ccel
  apply Service.Settles.bind fun _ => taken
  · exact Service.Settles.lift (Service.Ends.perform fun world holds => holds)
  intro aael
  exact Service.Settles.pure fun world holds => ⟨holds.1, Nat.le_of_not_lt fits, quote, rfl, holds.2⟩

end Steps

/-- Evidence is over the padded report data of its caller, whatever others write, and the
directory that was made for it is removed, also where there is no evidence. -/
theorem evidence_is_own {platform : Platform} {env : World → Op → Choice} (undisturbed : Undisturbed env)
    (reportData : List UInt8) (world : World) :
    let cca := (kernel platform).alone 0 env (ccaEvidence reportData).run world
    let tdx := (kernel platform).alone 0 env (tdxEvidence reportData).run world
    (∀ evidence, cca.1 = .ok evidence → reportData.length ≤ 64 ∧ QuoteOf platform reportData evidence.token) ∧
    (∀ evidence, tdx.1 = .ok evidence → reportData.length ≤ 64 ∧ ∃ quote,
      evidence.quote = Base64.encode quote ∧
      (QuoteOf platform reportData quote ∨ ∃ serial, platform.ioctl serial (resize 64 reportData) = .ok quote)) ∧
    Removed env world.owned cca.2 ∧ Removed env world.owned tdx.2 := by
  have cca := @ccaEvidence_settles platform env world.owned undisturbed reportData
  have tdx := @tdxEvidence_settles platform env world.owned undisturbed reportData
  exact ⟨fun evidence same => (cca.succeeds rfl same).2, fun evidence same => (tdx.succeeds rfl same).2,
    cca.either (fun _ _ holds => holds.1) world rfl, tdx.either (fun _ _ holds => holds.1) world rfl⟩

/-- A platform that reports the blob itself. -/
def echo : Platform where
  provider := TsmReportProvider.tdx.serialize
  outblob _ inblob _ := .ok inblob
  auxblob _ inblob _ := .ok inblob
  ioctl _ _ := .error "TDX DCAP ioctls: support not available"

/-- Another process uses a directory of its own. -/
def elsewhere (_ : World) (_ : Op) : Choice where
  others := [.create 5, .write 5 .inblob [9]]
  fails := none
  present := true
  name := 0
  serial := 0
  ccel := .error "No such file or directory (os error 2)"
  aael := .ok []

theorem elsewhere_undisturbed : Undisturbed elsewhere := by
  rintro world op dir _ (_ | ⟨_, _ | ⟨_, impossible⟩⟩)
  cases impossible

theorem evidence_is_own_elsewhere :
    ∃ evidence, ((kernel echo).alone 0 elsewhere (tdxEvidence [7]).run ⟨fun _ => none, []⟩).1 = .ok evidence ∧
      ∃ quote, evidence.quote = Base64.encode quote ∧ (QuoteOf echo [7] quote ∨
        ∃ serial, echo.ioctl serial (resize 64 [7]) = .ok quote) :=
  ⟨_, rfl, ((evidence_is_own elsewhere_undisturbed [7] ⟨fun _ => none, []⟩).2.1 _ rfl).2⟩

/-! ## What is asked of one path -/

inductive Call where
  | report (data : TsmReportData)
  | supplemental

def Call.run (path : Nat) : Call → Prog (List UInt8)
  | report data => TsmReportPath.attestationReport path data
  | supplemental => TsmReportPath.supplementalData path

abbrev Asked := Call × Except TsmReportError (List UInt8)

def calls (path : Nat) : List Call → Program Op Answer (List Asked)
  | [] => pure []
  | call :: rest => do
    let answer ← (call.run path).run
    let later ← calls path rest
    return (call, answer) :: later

/-- A path from `new` to `drop`, with any calls between them. -/
def session (wanted : TsmReportProvider) (list : List Call) : Prog (List Asked) := do
  let path ← TsmReportPath.new wanted
  TsmReportPath.drop path (ExceptT.lift (calls path list))

/-- After a report, only supplemental data is given, and over the same blob. -/
def Follows (platform : Platform) (blob : List UInt8) (asked : Asked) : Prop :=
  ∀ bytes, asked.2 = .ok bytes →
    asked.1 = .supplemental ∧ ∃ serial, platform.auxblob serial blob [] = .ok bytes

/-- Each report is over the blob of its own call, and no other report comes after it. -/
def OneReport (platform : Platform) (trace : List Asked) : Prop :=
  ∀ before data quote after, trace = before ++ (.report data, .ok quote) :: after →
    Answers platform data quote ∧ ∀ asked ∈ after, Follows platform data.inblob asked

section Sessions

variable {platform : Platform} {env : World → Op → Choice} {path : Nat} {base : List Nat}

theorem calls_follow (undisturbed : Undisturbed env) (blob : List UInt8) (list : List Call) :
    (kernel platform).Ends 0 env (During path base (Wrote Clean blob .inblob)) (calls path list)
      fun trace world => During path base (Wrote Clean blob .inblob) world ∧
        ∀ asked ∈ trace, Follows platform blob asked := by
  have stable := wrote_stable clean_stable blob .inblob
  induction list with
  | nil =>
    refine Service.Ends.pure fun world during => ⟨during, ?_⟩
    rintro asked listed
    cases listed
  | cons call rest ih =>
    have later (answer : Except TsmReportError (List UInt8)) (follows : Follows platform blob (call, answer)) :
        (kernel platform).Ends 0 env (During path base (Wrote Clean blob .inblob))
          (calls path rest >>= fun later => pure ((call, answer) :: later)) fun trace world =>
            During path base (Wrote Clean blob .inblob) world ∧ ∀ asked ∈ trace, Follows platform blob asked := by
      refine Service.Ends.bind _ ih fun trace => Service.Ends.pure fun world holds => ⟨holds.1, ?_⟩
      rintro asked (_ | ⟨_, listed⟩)
      · exact follows
      · exact holds.2 asked listed
    rw [calls]
    cases call with
    | report data =>
      refine Service.Settles.ends (attestationReport_fails undisturbed stable (fun _ wrote => wrote.2.1) data) ?_ ?_
      · exact fun quote world impossible => impossible.elim
      · intro error
        apply later
        intro bytes same
        cases same
    | supplemental =>
      refine Service.Settles.ends (supplementalData_settles undisturbed stable) ?_ ?_
      · intro aux world holds
        refine later (.ok aux) ?_ world holds.1
        intro bytes same
        cases same
        obtain ⟨_, entry, serial, wrote, few, reported⟩ := holds
        obtain ⟨before, clean, unwritten, rfl⟩ := wrote.2.2 (Nat.le_antisymm few wrote.2.1)
        rw [clean unwritten] at reported
        exact ⟨rfl, serial, reported⟩
      · intro error
        apply later
        intro bytes same
        cases same

/-- A call before the trace, and what is known once it was answered. -/
theorem OneReport.cons {trace : List Asked} {asked : Asked} (rest : OneReport platform trace)
    (first : ∀ data quote, asked = (.report data, .ok quote) →
      Answers platform data quote ∧ ∀ later ∈ trace, Follows platform data.inblob later) :
    OneReport platform (asked :: trace) := by
  rintro (_ | ⟨_, before⟩) data quote after split
  · obtain ⟨same, rfl⟩ := List.cons.inj split
    exact first data quote same
  · exact rest before data quote after (List.cons.inj split).2

/-- What follows a report has no other. -/
theorem OneReport.follows {trace : List Asked} {blob : List UInt8}
    (follows : ∀ asked ∈ trace, Follows platform blob asked) : OneReport platform trace := by
  rintro before data quote after rfl
  have listed : (Call.report data, Except.ok quote) ∈ before ++ (Call.report data, .ok quote) :: after :=
    List.mem_append_right before List.mem_cons_self
  obtain ⟨impossible, _⟩ := follows _ listed quote rfl
  cases impossible

theorem calls_oneReport (undisturbed : Undisturbed env) (list : List Call) :
    (kernel platform).Ends 0 env (During path base Clean) (calls path list)
      fun trace world => During path base Clean world ∧ OneReport platform trace := by
  induction list with
  | nil =>
    refine Service.Ends.pure fun world during => ⟨during, ?_⟩
    rintro (_ | ⟨_, before⟩) data quote after split
    · cases split
    · cases split
  | cons call rest ih =>
    have later (answer : Except TsmReportError (List UInt8))
        (not_report : ∀ data quote, (call, answer) ≠ (.report data, .ok quote)) :
        (kernel platform).Ends 0 env (During path base Clean)
          (calls path rest >>= fun later => pure ((call, answer) :: later)) fun trace world =>
            During path base Clean world ∧ OneReport platform trace := by
      refine Service.Ends.bind _ ih fun trace => Service.Ends.pure fun world holds => ⟨holds.1, ?_⟩
      exact holds.2.cons fun data quote same => absurd same (not_report data quote)
    rw [calls]
    cases call with
    | report data =>
      refine Service.Settles.ends (attestationReport_settles undisturbed data) ?_ ?_
      · intro quote
        have follow := @calls_follow platform env path base undisturbed data.inblob rest
        refine Service.Ends.bind (fun trace world => During path base Clean world ∧ Answers platform data quote ∧
          ∀ asked ∈ trace, Follows platform data.inblob asked) ?_ ?_
        · intro world holds
          obtain ⟨during, follows⟩ := follow world holds.1
          exact ⟨during.weaken fun _ wrote => wrote.1, holds.2, follows⟩
        · refine fun trace => Service.Ends.pure fun world holds => ⟨holds.1, ?_⟩
          refine (OneReport.follows holds.2.2).cons fun other given same => ?_
          cases same
          exact holds.2
      · intro error
        apply later
        rintro data quote same
        cases same
    | supplemental =>
      refine Service.Settles.ends (supplementalData_settles undisturbed clean_stable) ?_ ?_
      · intro aux world holds
        refine later (.ok aux) ?_ world holds.1
        rintro data quote same
        cases same
      · intro error
        apply later
        rintro data quote same
        cases same

end Sessions

/-- Of the reports that are asked of one path, one at most is given, over the blob of its own
call, and supplemental data after it is over this blob too. -/
theorem one_report {platform : Platform} {env : World → Op → Choice} (undisturbed : Undisturbed env)
    (wanted : TsmReportProvider) (list : List Call) (world : World) {trace : List Asked}
    (ended : ((kernel platform).alone 0 env (session wanted list).run world).1 = .ok trace) :
    OneReport platform trace := by
  have settles : (kernel platform).Settles 0 env (fun now => now.owned = world.owned) (session wanted list)
      (fun trace now => Removed env world.owned now ∧ OneReport platform trace) (Removed env world.owned) := by
    apply Service.Settles.bind _ (new_settles undisturbed wanted)
    intro path
    exact drop_settles (Service.Settles.lift (calls_oneReport undisturbed list))
  exact (settles.succeeds rfl ended).2

theorem one_report_asked_twice :
    ∃ trace, ((kernel echo).alone 0 elsewhere
        (session .tdx [.report (.tdx [7]), .supplemental, .report (.tdx [8])]).run ⟨fun _ => none, []⟩).1 =
          .ok trace ∧
      OneReport echo trace :=
  ⟨_, rfl, one_report elsewhere_undisturbed .tdx
    [.report (.tdx [7]), .supplemental, .report (.tdx [8])] ⟨fun _ => none, []⟩ rfl⟩

end GuestComponents.Attester
