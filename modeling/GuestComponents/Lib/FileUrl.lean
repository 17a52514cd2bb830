import GuestComponents.Lib.UrlText

/-! URLs of the file scheme in the URL standard, down to their paths: behind the scheme, a path
may have two slashes and a host in front of it, and the first segment of a path may be a drive
letter. The host parser is a parameter. The path of a text is the text itself exactly for the
texts whose segments a URL writes as they are (`pathState_eq_iff`). -/
namespace GuestComponents.Lib.FileUrl
open Lib.Text Lib.Percent Lib.Url

section Paths

/-- A Windows drive letter. -/
def driveLetter : Text → Bool
  | [letter, mark] => letter.isAlpha && (mark == ':' || mark == '|')
  | _ => false

/-- A drive letter that is written with a bar. -/
def barred : Text → Bool
  | [letter, mark] => letter.isAlpha && mark == '|'
  | _ => false

/-- A normalized Windows drive letter. -/
def normalized : Text → Bool
  | [letter, mark] => letter.isAlpha && mark == ':'
  | _ => false

/-- The bar of a drive letter that a path begins with becomes a colon. -/
def normalize (path : List Text) (segment : Text) : Text :=
  if path.isEmpty && driveLetter segment then segment.take 1 ++ [':'] else segment

/-- What leads back keeps the drive letter. -/
def shorten (path : List Text) : List Text :=
  if path.length = 1 ∧ normalized (path.headD []) then path else path.dropLast

/-- What a segment that another one follows does to the path. -/
def enter (path : List Text) (segment : Text) : List Text :=
  if doubleDot segment then shorten path
  else if singleDot segment then path
  else path ++ [normalize path segment]

/-- What the last segment does to the path. -/
def enterLast (path : List Text) (segment : Text) : List Text :=
  if doubleDot segment then shorten path ++ [[]]
  else if singleDot segment then path ++ [[]]
  else path ++ [normalize path segment]

/-- The path state, segment by segment. -/
def resolve (path : List Text) : List Text → List Text
  | [] => path
  | [segment] => enterLast path segment
  | segment :: rest => resolve (enter path segment) rest

/-- The segments of a path: a backslash ends one too. -/
def segments (text : Text) : List Text :=
  resolve [] ((text.splitOnP (isSeparator true)).map (encode pathSet))

/-- The path state, up to a query or a fragment. -/
def pathState (text : Text) : Text := pathText (segments (text.takeWhile fun c => !isTail c))

/-- The path start state. -/
def pathStart : Text → Text
  | [] => pathState []
  | c :: rest => if isSeparator true c then pathState rest else pathState (c :: rest)

end Paths

section Hosts

variable {ε : Type} (parseHost : Text → Except ε Text)

def endsHost (c : Char) : Bool := isSeparator true c || isTail c

/-- The file host state. A drive letter is no host, but the first segment of the path. -/
def fileHost (text : Text) : Except ε Text :=
  let host := text.takeWhile fun c => !endsHost c
  let rest := text.dropWhile fun c => !endsHost c
  if driveLetter host then .ok (pathState text)
  else if host = [] then .ok (pathStart rest)
  else (parseHost host).map fun _ => pathStart rest

/-- The file slash state. -/
def fileSlash : Text → Except ε Text
  | [] => .ok (pathState [])
  | c :: rest => if isSeparator true c then fileHost parseHost rest else .ok (pathState (c :: rest))

/-- The file state: the path of a file URL without a base, behind the colon of its scheme. -/
def file : Text → Except ε Text
  | [] => .ok (pathState [])
  | c :: rest => if isSeparator true c then fileSlash parseHost rest else .ok (pathState (c :: rest))

end Hosts

section Laws

variable {path rest : List Text} {segment text : Text}

/-- A segment that a file URL writes as it is, if it is not the first one. -/
def PlainSegment (segment : Text) : Prop := CanonicalSegment segment ∧ '\\' ∉ segment

/-- Segments that a file URL writes as they are: none of them leads anywhere, is encoded or split,
and the first one is no drive letter with a bar. -/
structure PlainPath (path : List Text) : Prop where
  plain : ∀ segment ∈ path, PlainSegment segment
  unbarred : barred (path.headD []) = false

theorem plainPath_nil : PlainPath [] := ⟨nofun, rfl⟩

theorem plainSegment_nil : PlainSegment [] := ⟨canonicalSegment_nil, nofun⟩

theorem normalize_cons (first : Text) : normalize (first :: rest) segment = segment := rfl

theorem normalize_unbarred (unbarred : barred segment = false) : normalize [] segment = segment := by
  rw [normalize]
  split
  · rename_i drive
    match segment, drive, unbarred with
    | [letter, mark], drive, unbarred =>
      rw [List.isEmpty_nil, Bool.true_and, driveLetter, Bool.and_eq_true, Bool.or_eq_true] at drive
      rw [barred, drive.1, Bool.true_and] at unbarred
      rcases drive.2 with colon | bar
      · rw [beq_iff_eq.mp colon]
        rfl
      · rw [unbarred] at bar
        cases bar
  · rfl

theorem PlainPath.append (path_ : PlainPath path) (segment_ : PlainSegment segment)
    (unbarred : path = [] → barred segment = false) : PlainPath (path ++ [segment]) := by
  constructor
  · intro other listed
    rcases List.mem_append.mp listed with before | here
    · exact path_.plain other before
    · rwa [List.mem_singleton.mp here]
  · cases path with
    | nil => exact unbarred rfl
    | cons first others => exact path_.unbarred

theorem PlainPath.shorten (path_ : PlainPath path) : PlainPath (shorten path) := by
  rw [FileUrl.shorten]
  split
  · exact path_
  · constructor
    · exact fun other listed => path_.plain other ((List.dropLast_sublist path).subset listed)
    · match path, path_ with
      | [], _ => rfl
      | [_], _ => rfl
      | _ :: _ :: _, path_ => exact path_.unbarred

/-- Dots end in a dot, or in the code of one. -/
theorem isDots_last (dots : isDots segment = true) :
    (segment.map Char.toLower).getLast? = some '.' ∨ (segment.map Char.toLower).getLast? = some 'e' := by
  rw [isDots, doubleDot, singleDot, Bool.or_eq_true, Bool.or_eq_true, beq_iff_eq, beq_iff_eq] at dots
  rcases dots with back | rfl | code
  · simp only [List.contains_iff_mem, List.mem_cons, List.not_mem_nil, or_false] at back
    rcases back with same | same | same | same <;> rw [same] <;> decide
  · exact .inl rfl
  · rw [code]
    exact .inr rfl

/-- A drive letter stays plain, and has no bar where it is the first segment. -/
theorem normalize_plain (segment_ : PlainSegment segment) :
    PlainSegment (normalize path segment) ∧ (path = [] → barred (normalize path segment) = false) := by
  cases path with
  | cons first others => exact ⟨segment_, nofun⟩
  | nil =>
    cases drive : driveLetter segment with
    | false =>
      have same : normalize [] segment = segment := by rw [normalize, drive]; rfl
      rw [same]
      refine ⟨segment_, fun _ => ?_⟩
      match segment, drive with
      | [], _ => rfl
      | [_], _ => rfl
      | [letter, mark], drive =>
        rw [driveLetter, Bool.and_or_distrib_left, Bool.or_eq_false_iff] at drive
        exact drive.2
      | _ :: _ :: _ :: _, _ => rfl
    | true =>
      match segment, drive with
      | [letter, mark], drive =>
        have same : normalize [] [letter, mark] = [letter, ':'] := by rw [normalize, drive]; rfl
        have last : ([letter, ':'].map Char.toLower).getLast? = some ':' := rfl
        obtain ⟨⟨_, clean⟩, backslash⟩ := segment_
        have other : letter ≠ '\\' := fun here => backslash (here ▸ List.mem_cons_self)
        rw [same]
        refine ⟨⟨⟨?_, ?_⟩, ?_⟩, fun _ => Bool.and_false _⟩
        · refine Bool.eq_false_iff.mpr fun dots => ?_
          rcases isDots_last dots with dot | code
          · exact absurd (last.symm.trans dot) (by decide)
          · exact absurd (last.symm.trans code) (by decide)
        · exact List.forall_mem_cons.mpr
            ⟨clean letter List.mem_cons_self, List.forall_mem_cons.mpr ⟨by decide, nofun⟩⟩
        · simp [Ne.symm other]

theorem PlainPath.enter (path_ : PlainPath path) (segment_ : isDots segment = false → PlainSegment segment) :
    PlainPath (enter path segment) := by
  rw [FileUrl.enter]
  split
  · exact path_.shorten
  · rename_i double
    split
    · exact path_
    · rename_i single
      have plain := segment_ (by rw [isDots, Bool.eq_false_iff.mpr double, Bool.eq_false_iff.mpr single]; rfl)
      obtain ⟨stays, unbarred⟩ := @normalize_plain path segment plain
      exact path_.append stays unbarred

/-- The last segment enters as the others do, and leaves an empty one behind it if it is dots. -/
theorem enterLast_eq (path : List Text) (segment : Text) :
    enterLast path segment = if isDots segment then enter path segment ++ [[]] else enter path segment := by
  rw [enterLast, enter, isDots]
  cases doubleDot segment <;> cases singleDot segment <;> rfl

theorem PlainPath.resolve (path_ : PlainPath path)
    (rest_ : ∀ segment ∈ rest, isDots segment = false → PlainSegment segment) : PlainPath (resolve path rest) := by
  induction rest generalizing path with
  | nil => exact path_
  | cons segment rest ih =>
    obtain ⟨first, others⟩ := List.forall_mem_cons.mp rest_
    cases rest with
    | nil =>
      rw [FileUrl.resolve, enterLast_eq]
      split
      · exact (path_.enter first).append plainSegment_nil fun _ => rfl
      · exact path_.enter first
    | cons next rest =>
      rw [FileUrl.resolve]
      · exact ih (path_.enter first) others
      · exact List.cons_ne_nil _ _

/-- The path of a file URL is plain. -/
theorem segments_plain (text : Text) : PlainPath (segments text) :=
  plainPath_nil.resolve fun segment listed plain =>
    ⟨canonicalSegment_encode listed plain, separator_clean (by decide) rfl listed⟩

theorem resolve_ne_nil (nonempty : rest ≠ []) : resolve path rest ≠ [] := by
  induction rest generalizing path with
  | nil => exact absurd rfl nonempty
  | cons next rest ih =>
    cases rest with
    | nil =>
      rw [resolve, enterLast]
      split
      · simp
      · split <;> simp
    | cons other rest =>
      rw [resolve]
      · exact ih (List.cons_ne_nil _ _)
      · exact List.cons_ne_nil _ _

theorem enter_plain (plain : isDots segment = false) : enter path segment = path ++ [normalize path segment] := by
  obtain ⟨double, single⟩ := Bool.or_eq_false_iff.mp plain
  rw [enter, double, single, if_neg Bool.false_ne_true, if_neg Bool.false_ne_true]

/-- Segments that are no dots stay where they are, behind others. -/
theorem resolve_behind (nonempty : path ≠ []) (plain : ∀ segment ∈ rest, isDots segment = false) :
    resolve path rest = path ++ rest := by
  induction rest generalizing path with
  | nil => rw [resolve, List.append_nil]
  | cons segment rest ih =>
    obtain ⟨first, others⟩ := List.forall_mem_cons.mp plain
    have same : normalize path segment = segment := by
      cases path with
      | nil => exact absurd rfl nonempty
      | cons drive more => exact normalize_cons drive
    have entered : enter path segment = path ++ [segment] := by rw [enter_plain first, same]
    cases rest with
    | nil => rw [resolve, enterLast_eq, first, if_neg Bool.false_ne_true, entered]
    | cons next rest =>
      rw [resolve, entered, ih (by simp) others, List.append_assoc, List.singleton_append]
      exact List.cons_ne_nil _ _

/-- A plain path is resolved to itself. -/
theorem resolve_plain (path_ : PlainPath rest) : resolve [] rest = rest := by
  cases rest with
  | nil => rfl
  | cons segment rest =>
    obtain ⟨first, others⟩ := List.forall_mem_cons.mp path_.plain
    have entered : enter [] segment = [segment] := by
      have unbarred : barred segment = false := path_.unbarred
      rw [enter_plain first.1.1, normalize_unbarred unbarred, List.nil_append]
    cases rest with
    | nil => rw [resolve, enterLast_eq, first.1.1, if_neg Bool.false_ne_true, entered]
    | cons next rest =>
      rw [resolve, entered, resolve_behind (List.cons_ne_nil _ _) fun other listed => (others other listed).1.1]
      · rfl
      · exact List.cons_ne_nil _ _

/-- What is between the slashes of a text stands in it. -/
theorem mem_of_plain (path_ : PlainPath (text.splitOn '/')) {c : Char} (within : c ∈ text) :
    c = '/' ∨ pathSet c = false ∧ c ≠ '\\' := by
  have inside : c ∈ pathText (text.splitOn '/') := by
    cases parts : text.splitOn '/' with
    | nil => exact absurd parts (List.splitOn_ne_nil _ _)
    | cons first others =>
      rw [pathText_cons, ← parts, List.intercalate_splitOn]
      exact List.mem_cons_of_mem _ within
  rcases mem_pathText inside with slash | ⟨segment, among, here⟩
  · exact .inl slash
  · obtain ⟨⟨_, clean⟩, backslash⟩ := path_.plain segment among
    exact .inr ⟨(clean c here).1, fun same => backslash (same ▸ here)⟩

theorem visible_of_plain (path_ : PlainPath (text.splitOn '/')) : Visible text := by
  intro c within
  rcases mem_of_plain path_ within with rfl | ⟨out, _⟩
  · exact slash_visible
  · exact (space_of_pathSet out).1

theorem splitOnP_congr {p q : Char → Bool} (same : ∀ c ∈ text, p c = q c) : text.splitOnP p = text.splitOnP q := by
  induction text with
  | nil => rfl
  | cons c rest ih =>
    obtain ⟨first, others⟩ := List.forall_mem_cons.mp same
    rw [List.splitOnP_cons_eq_if_modifyHead, List.splitOnP_cons_eq_if_modifyHead, first, ih others]

/-- A plain path is read as it is written. -/
theorem pathState_of_plain (path_ : PlainPath (text.splitOn '/')) : pathState text = '/' :: text := by
  have whole : (text.takeWhile fun c => !isTail c) = text := by
    refine List.takeWhile_eq_self_iff.mpr fun c within => ?_
    rcases mem_of_plain path_ within with rfl | ⟨out, _⟩
    · rfl
    · rw [(space_of_pathSet out).2]
      rfl
  have parts : text.splitOnP (isSeparator true) = text.splitOn '/' := by
    rw [List.splitOn_eq_splitOnP]
    refine splitOnP_congr fun c within => ?_
    rcases mem_of_plain path_ within with rfl | ⟨_, backslash⟩
    · rfl
    · rw [isSeparator, beq_eq_false_iff_ne.mpr backslash, Bool.and_false, Bool.or_false]
  have same : (text.splitOn '/').map (encode pathSet) = text.splitOn '/' := by
    rw [List.map_congr_left fun segment listed =>
      encode_of_clean fun c within => ((path_.plain segment listed).1.2 c within).1]
    exact List.map_id' _
  rw [pathState, whole, segments, parts, same, resolve_plain path_]
  cases list : text.splitOn '/' with
  | nil => exact absurd list (List.splitOn_ne_nil _ _)
  | cons first others => rw [pathText_cons, ← list, List.intercalate_splitOn]

/-- The path of a file URL is found again in its text. -/
theorem plain_pathState (source : Text) : PlainPath (((pathState source).drop 1).splitOn '/') := by
  have path_ := segments_plain (source.takeWhile fun c => !isTail c)
  have found := @splitOn_pathText (segments (source.takeWhile fun c => !isTail c)) (resolve_ne_nil (by simp))
    fun segment listed within => ((path_.plain segment listed).1.2 _ within).2 rfl
  rw [pathState, found]
  exact path_

/-- A text that is read as it is written, whatever it is read from, is a plain path. -/
theorem plain_of_pathState {source : Text} (read : pathState source = '/' :: text) : PlainPath (text.splitOn '/') := by
  have path_ := plain_pathState source
  rwa [read] at path_

end Laws

end GuestComponents.Lib.FileUrl
