import GuestComponents.Lib.Text

/-! The first line of a text and its words: how blanks at the end and a word that is only
begun are read (`words_begun`), and that the first of a text's `lines` has the words of
what stands before its first newline (`lines_first`). -/
namespace GuestComponents.Lib.Text

/-- What stands before the first newline. -/
def firstLine (text : Text) : Text := text.takeWhile fun c => c != '\n'

def Blank (text : Text) : Prop := ∀ c ∈ text, isAsciiWhitespace c = true

def Solid (text : Text) : Prop := ∀ c ∈ text, isAsciiWhitespace c = false

/-- Blanks end a word, and a text of blanks has no other. -/
theorem wordsFrom_blank {blanks : Text} (blank : Blank blanks) (current : Text) :
    wordsFrom current blanks = if current = [] then [] else [current] := by
  induction blanks generalizing current with
  | nil => rfl
  | cons c rest ih =>
    obtain ⟨first, others⟩ := List.forall_mem_cons.mp blank
    rw [wordsFrom, if_pos first, ih others]
    rfl

theorem wordsFrom_nil {text : Text} {current : Text} (none_ : wordsFrom current text = []) :
    current = [] ∧ Blank text := by
  induction text generalizing current with
  | nil =>
    rw [wordsFrom] at none_
    split at none_
    · rename_i empty
      exact ⟨empty, fun c listed => absurd listed (List.not_mem_nil)⟩
    · cases none_
  | cons c rest ih =>
    rw [wordsFrom] at none_
    split at none_
    · rename_i blank
      split at none_
      · rename_i empty
        exact ⟨empty, List.forall_mem_cons.mpr ⟨blank, (ih none_).2⟩⟩
      · cases none_
    · have impossible := (ih none_).1
      simp at impossible

/-- A word that is begun is the only one exactly if it goes on with solid characters, and with
blanks after them. -/
theorem wordsFrom_single {current text word : Text} (begun : current ≠ []) :
    wordsFrom current text = [word] ↔
      ∃ solid blanks, text = solid ++ blanks ∧ Solid solid ∧ Blank blanks ∧ word = current ++ solid := by
  induction text generalizing current with
  | nil =>
    rw [wordsFrom, if_neg begun]
    constructor
    · intro same
      obtain ⟨same, _⟩ := List.cons.inj same
      exact ⟨[], [], rfl, by simp [Solid], by simp [Blank], by rw [List.append_nil, same]⟩
    · rintro ⟨solid, blanks, shape, _, _, rfl⟩
      obtain ⟨rfl, rfl⟩ := List.append_eq_nil_iff.mp shape.symm
      rw [List.append_nil]
  | cons c rest ih =>
    rw [wordsFrom]
    cases kind : isAsciiWhitespace c with
    | true =>
      rw [if_pos rfl, if_neg begun, List.cons.injEq]
      constructor
      · rintro ⟨same, none_⟩
        have blank := (wordsFrom_nil none_).2
        exact ⟨[], c :: rest, rfl, by simp [Solid], List.forall_mem_cons.mpr ⟨kind, blank⟩,
          by rw [List.append_nil, same]⟩
      · rintro ⟨solid, blanks, shape, solid_, blank, rfl⟩
        cases solid with
        | nil =>
          rw [List.nil_append] at shape
          rw [← shape] at blank
          have others := (List.forall_mem_cons.mp blank).2
          exact ⟨(List.append_nil current).symm, by rw [wordsFrom_blank others, if_pos rfl]⟩
        | cons d solid =>
          rw [List.cons_append, List.cons.injEq] at shape
          have clash := (List.forall_mem_cons.mp solid_).1
          rw [← shape.1, kind] at clash
          cases clash
    | false =>
      rw [if_neg Bool.false_ne_true, ih (by simp)]
      constructor
      · rintro ⟨solid, blanks, rfl, solid_, blank, rfl⟩
        exact ⟨c :: solid, blanks, rfl, List.forall_mem_cons.mpr ⟨kind, solid_⟩, blank, by simp⟩
      · rintro ⟨solid, blanks, shape, solid_, blank, rfl⟩
        cases solid with
        | nil =>
          rw [List.nil_append] at shape
          rw [← shape] at blank
          have clash := (List.forall_mem_cons.mp blank).1
          rw [kind] at clash
          cases clash
        | cons d solid =>
          rw [List.cons_append, List.cons.injEq] at shape
          obtain ⟨rfl, rfl⟩ := shape
          exact ⟨solid, blanks, rfl, (List.forall_mem_cons.mp solid_).2, blank, by simp⟩

/-- A solid text goes into the word that is read. -/
theorem wordsFrom_solid {solid : Text} (solid_ : Solid solid) (current rest : Text) :
    wordsFrom current (solid ++ rest) = wordsFrom (current ++ solid) rest := by
  induction solid generalizing current with
  | nil => rw [List.nil_append, List.append_nil]
  | cons c solid ih =>
    obtain ⟨first, others⟩ := List.forall_mem_cons.mp solid_
    rw [List.cons_append, wordsFrom, first, if_neg Bool.false_ne_true, ih others]
    simp

theorem words_begun {begun tail word : Text} (solid_ : Solid begun) (nonempty : begun ≠ []) :
    words (begun ++ tail) = [word] ↔
      ∃ solid blanks, tail = solid ++ blanks ∧ Solid solid ∧ Blank blanks ∧ word = begun ++ solid := by
  rw [words, wordsFrom_solid solid_, List.nil_append, wordsFrom_single nonempty]

/-- The first word ends at the first space. -/
theorem words_cons {first rest : Text} (solid_ : Solid first) (nonempty : first ≠ []) :
    words (first ++ ' ' :: rest) = first :: words rest := by
  have blank : isAsciiWhitespace ' ' = true := by decide
  rw [words, wordsFrom_solid solid_, List.nil_append, wordsFrom, if_pos blank, if_neg nonempty]
  rfl

theorem wordsFrom_blank_end {c : Char} (blank : isAsciiWhitespace c = true) (text current : Text) :
    wordsFrom current (text ++ [c]) = wordsFrom current text := by
  induction text generalizing current with
  | nil => rw [List.nil_append, wordsFrom_blank (by simp [Blank, blank]), wordsFrom]
  | cons d rest ih => rw [List.cons_append, wordsFrom, wordsFrom, ih, ih]

/-- The carriage return of a line ending is in no word. -/
theorem words_strip (line : Text) : words (stripCarriageReturn line) = words line := by
  unfold stripCarriageReturn
  split
  · rename_i ends
    obtain ⟨front, rfl⟩ := List.getLast?_eq_some_iff.mp ends
    have blank : isAsciiWhitespace '\r' = true := by decide
    rw [List.dropLast_concat, words, words, wordsFrom_blank_end blank]
  · rfl

private theorem linesFrom_first (text current : Text) (nonempty : current ++ text ≠ []) :
    ∃ line rest, linesFrom current text = line :: rest ∧ words line = words (current ++ firstLine text) := by
  induction text generalizing current with
  | nil =>
    rw [List.append_nil] at nonempty
    refine ⟨current, [], ?_, ?_⟩
    · rw [linesFrom, if_neg nonempty]
    · rw [firstLine, List.takeWhile_nil, List.append_nil]
  | cons c rest ih =>
    by_cases newline : c = '\n'
    · refine ⟨stripCarriageReturn current, linesFrom [] rest, ?_, ?_⟩
      · rw [linesFrom, if_pos newline]
      · rw [words_strip, firstLine, newline]
        simp
    · obtain ⟨line, others, read, same⟩ := ih (current ++ [c]) (by simp)
      refine ⟨line, others, ?_, ?_⟩
      · rw [linesFrom, if_neg newline, read]
      · rw [same, firstLine, firstLine, List.takeWhile_cons]
        simp [newline]

/-- The first line that is read has the words of the text's first line. -/
theorem lines_first {text : Text} (nonempty : text ≠ []) :
    ∃ line rest, lines text = line :: rest ∧ words line = words (firstLine text) :=
  linesFrom_first text [] nonempty

/-- What stands before a prefix without a newline stands in the first line. -/
theorem firstLine_append {front : Text} (clean : '\n' ∉ front) (rest : Text) :
    firstLine (front ++ rest) = front ++ firstLine rest := by
  have kept : ∀ c ∈ front, (c != '\n') = true := by
    intro c listed
    rw [bne_iff_ne]
    rintro rfl
    exact clean listed
  rw [firstLine, List.takeWhile_append_of_pos kept, firstLine]

theorem utf8_inj {text text' : Text} (same : utf8 text = utf8 text') : text = text' := by
  have read := congrArg fromUtf8Lossy same
  rwa [fromUtf8Lossy_utf8, fromUtf8Lossy_utf8] at read

/-- The bytes of one text begin with those of another exactly if the text itself does. -/
theorem utf8_prefix {front : Text} {rest : List UInt8} {text : Text} (same : utf8 text = utf8 front ++ rest) :
    ∃ after, text = front ++ after ∧ rest = utf8 after := by
  have read (front : Text) : lossyFrom none (utf8 front ++ rest) = front ++ lossyFrom none rest := by
    induction front with
    | nil => rfl
    | cons c front ih =>
      rw [utf8, List.flatMap_cons, ← utf8, List.append_assoc, lossyFrom_char, ih]
      rfl
  have whole : text = front ++ lossyFrom none rest := by
    rw [← read, ← same]
    exact (fromUtf8Lossy_utf8 text).symm
  refine ⟨_, whole, ?_⟩
  have bytes : utf8 (front ++ lossyFrom none rest) = utf8 front ++ utf8 (lossyFrom none rest) :=
    List.flatMap_append
  rw [← whole, same] at bytes
  exact List.append_cancel_left bytes

end GuestComponents.Lib.Text
