import BoundQuery.Proofs.Outcome
import Mathlib.Data.Int.Bitwise

/-!
# Reading quoted texts

A server reads a quoted text from its opening quote to the first quote of the same kind
that stands alone: two such quotes in a row are one quote of the content. Where the
rules say so, a backslash gives the code point after it another meaning.

An encoding of code points is faithful when reading undoes it one code point at a time,
whatever follows. Faithful encodings can be put between quotes; the main statement says
that the literal of a text reads back as that text in the mode that the status of the
server sets, and that reading stops exactly at the end of the literal.
-/

namespace BoundQuery

/-! ## The reader -/

/-- How a quoted text is read: the quote at both of its ends, and whether a backslash
gives the next code point another meaning. -/
structure QuoteRule where
  quote : CodePoint
  escapes : Bool
  deriving DecidableEq

/-- The code point that a letter after a backslash stands for. -/
def unescape (letter : CodePoint) : CodePoint :=
  if letter = .scalar '0' then .scalar '\x00'
  else if letter = .scalar 'n' then .scalar '\n'
  else if letter = .scalar 'r' then .scalar '\r'
  else if letter = .scalar 'Z' then .scalar '\x1a'
  else letter

/-- What has been read so far, with one more code point in front of the content. -/
def consContent (point : CodePoint) (reading : Text × Text) : Text × Text :=
  (point :: reading.1, reading.2)

namespace QuoteRule

/-- Reads the content of a quoted text after its opening quote, and gives the content
and what comes after the closing quote. There is none when the text does not close. -/
def readContent (rule : QuoteRule) : Text → Option (Text × Text)
  | [] => none
  | [only] => if only = rule.quote then some ([], []) else none
  | first :: second :: rest =>
      if first = rule.quote then
        if second = rule.quote then
          (readContent rule rest).map (consContent rule.quote)
        else
          some ([], second :: rest)
      else if rule.escapes = true ∧ first = backslash then
        (readContent rule rest).map (consContent (unescape second))
      else
        (readContent rule (second :: rest)).map (consContent first)

/-- Reads a quoted text and gives its content and what comes after it. -/
def read (rule : QuoteRule) : Text → Option (Text × Text)
  | [] => none
  | first :: rest => if first = rule.quote then rule.readContent rest else none

/-! ## Reading one code point -/

theorem readContent_closing
    (rule : QuoteRule) {rest : Text} (alone : rest.head? ≠ some rule.quote) :
    rule.readContent (rule.quote :: rest) = some ([], rest) := by
  cases rest with
  | nil => simp [readContent]
  | cons next following =>
      have different : next ≠ rule.quote := by
        intro same
        exact alone (by rw [same]; rfl)
      simp [readContent, different]

theorem readContent_doubled (rule : QuoteRule) (rest : Text) :
    rule.readContent (rule.quote :: rule.quote :: rest) =
      (rule.readContent rest).map (consContent rule.quote) := by
  simp [readContent]

theorem readContent_escaped
    (rule : QuoteRule) (letter : CodePoint) (rest : Text)
    (escapes : rule.escapes = true) (apart : backslash ≠ rule.quote) :
    rule.readContent (backslash :: letter :: rest) =
      (rule.readContent rest).map (consContent (unescape letter)) := by
  simp [readContent, escapes, apart]

theorem readContent_plain
    (rule : QuoteRule) {point : CodePoint} (rest : Text)
    (noQuote : point ≠ rule.quote)
    (noEscape : ¬ (rule.escapes = true ∧ point = backslash)) :
    rule.readContent (point :: rest) =
      (rule.readContent rest).map (consContent point) := by
  cases rest with
  | nil => simp [readContent, noQuote]
  | cons next following =>
      rw [readContent, if_neg noQuote, if_neg noEscape]

/-! ## Faithful encodings -/

/-- Reading undoes an encoding one code point at a time, whatever follows. -/
def Undoes (rule : QuoteRule) (encode : CodePoint → Text) : Prop :=
  ∀ point rest,
    rule.readContent (encode point ++ rest) =
      (rule.readContent rest).map (consContent point)

/-- An encoded text between quotes reads back, and reading stops at the closing quote
unless another quote follows it directly. -/
theorem read_encoded
    {rule : QuoteRule} {encode : CodePoint → Text} (undoes : rule.Undoes encode)
    (content : Text) {rest : Text} (alone : rest.head? ≠ some rule.quote) :
    rule.read (rule.quote :: content.flatMap encode ++ [rule.quote] ++ rest) =
      some (content, rest) := by
  have reading :
      rule.readContent (content.flatMap encode ++ rule.quote :: rest) =
        some (content, rest) := by
    induction content with
    | nil => exact rule.readContent_closing alone
    | cons point following inductionHypothesis =>
        rw [List.flatMap_cons, List.append_assoc, undoes, inductionHypothesis]
        rfl
  simpa [read] using reading

def double (rule : QuoteRule) (point : CodePoint) : Text :=
  if point = rule.quote then [rule.quote, rule.quote] else [point]

/-- Where backslashes have no meaning, doubling the quotes is faithful. -/
theorem undoes_double {rule : QuoteRule} (plain : rule.escapes = false) :
    rule.Undoes rule.double := by
  intro point rest
  by_cases quote : point = rule.quote
  · rw [double, if_pos quote, quote]
    exact rule.readContent_doubled rest
  · rw [double, if_neg quote]
    exact rule.readContent_plain rest quote (by simp [plain])

theorem substitute_eq_flatMap_double (rule : QuoteRule) (text : Text) :
    Text.substitute rule.quote [rule.quote, rule.quote] text =
      text.flatMap rule.double := by
  induction text with
  | nil => rfl
  | cons point rest inductionHypothesis =>
      rw [Text.substitute, List.flatMap_cons, double]
      by_cases quote : point = rule.quote
      · rw [if_pos quote, if_pos quote, inductionHypothesis]
      · rw [if_neg quote, if_neg quote, inductionHypothesis]
        rfl

end QuoteRule

/-! ## Literals -/

theorem unescape_of_escapeLetter?
    {point letter : CodePoint} (escaped : escapeLetter? point = some letter) :
    unescape letter = point := by
  unfold escapeLetter? at escaped
  repeat' split at escaped
  all_goals cases escaped
  all_goals exact Eq.symm ‹_›

theorem plain_of_escapeLetter?
    {point : CodePoint} (plain : escapeLetter? point = none) :
    point ≠ singleQuote ∧ point ≠ backslash := by
  constructor
  · intro quote
    rw [quote] at plain
    exact absurd plain (by decide)
  · intro slash
    rw [slash] at plain
    exact absurd plain (by decide)

def escapedPoint (point : CodePoint) : Text :=
  match escapeLetter? point with
  | some letter => [backslash, letter]
  | none => [point]

namespace QuoteMode

def literalRule (mode : QuoteMode) : QuoteRule where
  quote := singleQuote
  escapes := decide (mode = backslash)

def encodePoint : QuoteMode → CodePoint → Text
  | backslash => escapedPoint
  | doubled => doubled.literalRule.double

theorem escape_eq_flatMap (mode : QuoteMode) (text : Text) :
    mode.escape text = text.flatMap mode.encodePoint := by
  cases mode with
  | backslash => rfl
  | doubled => exact doubled.literalRule.substitute_eq_flatMap_double text

theorem undoes_encodePoint (mode : QuoteMode) :
    mode.literalRule.Undoes mode.encodePoint := by
  cases mode with
  | doubled => exact QuoteRule.undoes_double rfl
  | backslash =>
      intro point rest
      have encoded : encodePoint backslash point = escapedPoint point := rfl
      rw [encoded, escapedPoint]
      cases escaped : escapeLetter? point with
      | some letter =>
          have step := backslash.literalRule.readContent_escaped letter rest rfl
            (by decide)
          rw [unescape_of_escapeLetter? escaped] at step
          exact step
      | none =>
          have apart := plain_of_escapeLetter? escaped
          exact backslash.literalRule.readContent_plain rest apart.1
            (fun both => apart.2 both.2)

/-- An escaped text between single quotes reads back in its own mode. -/
theorem read_escape
    (mode : QuoteMode) (content : Text) {rest : Text}
    (alone : rest.head? ≠ some singleQuote) :
    mode.literalRule.read
        (singleQuote :: mode.escape content ++ [singleQuote] ++ rest) =
      some (content, rest) := by
  rw [escape_eq_flatMap]
  exact QuoteRule.read_encoded mode.undoes_encodePoint content alone

end QuoteMode

theorem literalForm_text (escaper : Escaper) (content : Text) :
    (Value.text content).literalForm escaper =
      (escaper content).map fun escaped =>
        singleQuote :: escaped ++ [singleQuote] := by
  unfold Value.text Value.literalForm
  simp only [Value.scalarFor, Scalar.written, bind, Except.bind]
  cases escaper content <;> rfl

/-! ## Identifiers -/

/-- How identifiers are read, whatever the mode. -/
def identifierRule : QuoteRule where
  quote := backtick
  escapes := false

theorem read_quoteIdentifier
    (name : Text) {rest : Text} (alone : rest.head? ≠ some backtick) :
    identifierRule.read (quoteIdentifier name ++ rest) = some (name, rest) := by
  have encoded : Text.substitute backtick [backtick, backtick] name =
      name.flatMap identifierRule.double :=
    identifierRule.substitute_eq_flatMap_double name
  rw [quoteIdentifier, encoded]
  exact QuoteRule.read_encoded (QuoteRule.undoes_double rfl) name alone

theorem eq_quoteIdentifier_of_identifierForm
    {name form : Text} (accepted : (Value.text name).identifierForm = .ok form) :
    form = quoteIdentifier name := by
  have unfolded : (Value.text name).identifierForm =
      if name = [] then .error (.binding .emptyIdentifier)
      else if name.all CodePoint.isIdentifierPoint then .ok (quoteIdentifier name)
      else .error (.binding (.invalidIdentifier name)) :=
    rfl
  rw [unfolded] at accepted
  split at accepted
  · cases accepted
  · split at accepted
    · exact (Except.ok.inj accepted).symm
    · cases accepted

/-! ## The mode of a server -/

/-- The mode in which a server reads literals: backslashes have no meaning when the
bit of value `2 ^ 9` is set in its status. A missing status has no bits. -/
def readingMode (status : Option Int) : QuoteMode :=
  match status with
  | some bits => if bits.testBit 9 then .doubled else .backslash
  | none => .backslash

theorem testBit_nine (bits : Int) :
    bits.testBit 9 = decide (bits / 512 % 2 = 1) := by
  cases bits with
  | ofNat number =>
      have bit : (Int.ofNat number).testBit 9 = number.testBit 9 := rfl
      rw [bit, Nat.testBit_eq_decide_div_mod_eq, decide_eq_decide]
      simp only [Int.ofNat_eq_natCast]
      omega
  | negSucc number =>
      have bit : (Int.negSucc number).testBit 9 = !number.testBit 9 := rfl
      rw [bit, Nat.testBit_eq_decide_div_mod_eq, ← decide_not, decide_eq_decide]
      omega

/-- Texts are escaped in the mode in which the server reads them. -/
theorem ofStatus_eq_readingMode (status : Option Int) :
    QuoteMode.ofStatus status = readingMode status := by
  cases status with
  | none => rfl
  | some bits =>
      simp only [QuoteMode.ofStatus, readingMode, Option.getD_some, testBit_nine,
        decide_eq_true_eq]

/-- The literal of a text reads back as that text in the mode that the server status
sets, and reading stops at its end. Where backslashes have a meaning, the literal keeps
no line end, null or substitute character. -/
theorem read_literal_of_status
    (status : Option Int) (content rest : Text) (state : BindingState)
    (alone : rest.head? ≠ some singleQuote) :
    ∃ written,
      Binding.outcome
          (Binding.literal (QuoteMode.ofStatus status).escaper (Value.text content))
          state =
        (.ok written, state.recording [content]) ∧
      (readingMode status).literalRule.read (written ++ rest) =
        some (content, rest) ∧
      (readingMode status = .backslash → ∀ point ∈ written, point ∉ unsafeRaw) := by
  rw [ofStatus_eq_readingMode]
  generalize readingMode status = mode
  refine ⟨singleQuote :: mode.escape content ++ [singleQuote], ?_, ?_, ?_⟩
  · rw [Binding.outcome_literal, literalForm_text]
    rfl
  · exact mode.read_escape content alone
  · intro slashes point member
    rw [slashes] at member
    simp only [List.cons_append, List.mem_cons, List.mem_append, List.not_mem_nil,
      or_false] at member
    rcases member with rfl | inside | rfl
    · decide
    · exact escapeBackslash_not_mem_unsafeRaw content point inside
    · decide

/-- A quote and a backslash at the end of the content do not run into the text after
the literal. -/
theorem read_literal_of_trailing_backslash :
    (Text.ofString " OR 1=1").head? ≠ some singleQuote ∧
      ∃ written,
        Binding.outcome
            (Binding.literal (QuoteMode.ofStatus (some 2)).escaper
              (Value.text (Text.ofString "it's \\")))
            ⟨[], []⟩ =
          (.ok written,
            BindingState.recording ⟨[], []⟩ [Text.ofString "it's \\"]) ∧
        (readingMode (some 2)).literalRule.read
            (written ++ Text.ofString " OR 1=1") =
          some (Text.ofString "it's \\", Text.ofString " OR 1=1") ∧
        (readingMode (some 2) = .backslash → ∀ point ∈ written, point ∉ unsafeRaw) :=
  ⟨by decide,
    read_literal_of_status (some 2) (Text.ofString "it's \\")
      (Text.ofString " OR 1=1") ⟨[], []⟩ (by decide)⟩

end BoundQuery
