import BoundQuery.Proofs.IdentifierReading
import BoundQuery.Proofs.RuleCourse

/-!
# Reading lists of literals and assignments

A server reads the text of an array as literals with a comma and a space between
neighbours, and the text of a mapping as assignments that are separated in the same way.
Commas, equals signs and quotes inside a literal or a name are content, so the ends of the
items are found by reading the items and not by looking for separators.

The main statement says that the text of every container that is accepted reads back as
the items of the container, in order and in the mode that the status of the server sets.
-/

namespace BoundQuery

open Binding

/-! ## Readers -/

/-- A reader takes an item off the beginning of a text and leaves the rest, which is
always shorter. -/
structure Reader (item : Type) where
  read : Text → Option (item × Text)
  shortens : ∀ {text rest : Text} {found : item},
    read text = some (found, rest) → rest.length < text.length

theorem rest_of_map_consContent
    {point : CodePoint} {reading : Option (Text × Text)} {content rest : Text}
    (reads : reading.map (consContent point) = some (content, rest)) :
    ∃ earlier, reading = some (earlier, rest) := by
  obtain ⟨⟨earlier, remaining⟩, found, same⟩ := Option.map_eq_some_iff.mp reads
  cases same
  exact ⟨earlier, found⟩

theorem QuoteRule.length_readContent
    (rule : QuoteRule) {text content rest : Text}
    (reads : rule.readContent text = some (content, rest)) :
    rest.length < text.length := by
  induction text using readContent.induct rule generalizing content rest with
  | case1 => cases reads
  | case2 =>
      rw [readContent, if_pos rfl] at reads
      cases reads
      exact Nat.zero_lt_one
  | case3 only other =>
      rw [readContent, if_neg other] at reads
      cases reads
  | case4 following inductionHypothesis =>
      rw [readContent_doubled] at reads
      obtain ⟨earlier, tailReads⟩ := rest_of_map_consContent reads
      have shorter := inductionHypothesis tailReads
      simp only [List.length_cons]
      omega
  | case5 second following other =>
      rw [readContent, if_pos rfl, if_neg other] at reads
      cases reads
      exact Nat.lt_succ_self _
  | case6 first second following noQuote escape inductionHypothesis =>
      rw [readContent, if_neg noQuote, if_pos escape] at reads
      obtain ⟨earlier, tailReads⟩ := rest_of_map_consContent reads
      have shorter := inductionHypothesis tailReads
      simp only [List.length_cons]
      omega
  | case7 first second following noQuote noEscape inductionHypothesis =>
      rw [readContent_plain rule _ noQuote noEscape] at reads
      obtain ⟨earlier, tailReads⟩ := rest_of_map_consContent reads
      exact Nat.lt_succ_of_lt (inductionHypothesis tailReads)

def QuoteRule.reader (rule : QuoteRule) : Reader Text where
  read := rule.read
  shortens := by
    intro text rest content reads
    cases text with
    | nil => cases reads
    | cons first following =>
        by_cases opens : first = rule.quote
        · rw [read, if_pos opens] at reads
          exact Nat.lt_succ_of_lt (rule.length_readContent reads)
        · rw [read, if_neg opens] at reads
          cases reads

namespace Reader

variable {item target : Type}

/-- Reads a fixed word as a value. -/
def keyword (word : Text) (nonempty : word ≠ []) (value : item) : Reader item where
  read text := if word <+: text then some (value, text.drop word.length) else none
  shortens := by
    intro text rest found reads
    split at reads
    · next begins =>
        cases reads
        have longer := begins.length_le
        have positive := List.length_pos_iff.mpr nonempty
        rw [List.length_drop]
        omega
    · cases reads

def map (function : item → target) (reader : Reader item) : Reader target where
  read text := (reader.read text).map fun found => (function found.1, found.2)
  shortens := by
    intro text rest found reads
    obtain ⟨⟨source, remaining⟩, sourceReads, same⟩ := Option.map_eq_some_iff.mp reads
    cases same
    exact reader.shortens sourceReads

/-- Reads with the first of two readers that reads anything. -/
def orElse (first second : Reader item) : Reader item where
  read text := (first.read text).or (second.read text)
  shortens := by
    intro text rest found reads
    rcases Option.or_eq_some_iff.mp reads with firstReads | ⟨_, secondReads⟩
    · exact first.shortens firstReads
    · exact second.shortens secondReads

/-- Reads two parts with a code point between them. -/
def pair (first : Reader item) (mark : CodePoint) (second : Reader target) :
    Reader (item × target) where
  read text :=
    match first.read text with
    | some (left, point :: following) =>
        if point = mark then
          (second.read following).map fun right => ((left, right.1), right.2)
        else none
    | some (_, []) => none
    | none => none
  shortens := by
    intro text rest found reads
    split at reads
    · next left point following firstReads =>
        split at reads
        · obtain ⟨⟨right, remaining⟩, secondReads, same⟩ := Option.map_eq_some_iff.mp reads
          cases same
          have shorter := first.shortens firstReads
          have shorterThen := second.shortens secondReads
          exact Nat.lt_trans shorterThen (Nat.lt_of_succ_lt shorter)
        · cases reads
    · cases reads
    · cases reads

theorem read_keyword_append
    {word : Text} (nonempty : word ≠ []) (value : item) (rest : Text) :
    (keyword word nonempty value).read (word ++ rest) = some (value, rest) := by
  simp only [keyword, List.prefix_append, if_true, List.drop_left]

theorem read_keyword_of_other
    {word : Text} (nonempty : word ≠ []) (value : item) {text : Text}
    (other : ¬ word <+: text) : (keyword word nonempty value).read text = none :=
  if_neg other

theorem read_map_of_reads
    (function : item → target) {reader : Reader item} {text rest : Text} {found : item}
    (reads : reader.read text = some (found, rest)) :
    (reader.map function).read text = some (function found, rest) := by
  simp only [map, reads, Option.map_some]

theorem read_orElse_of_first
    {first : Reader item} (second : Reader item) {text : Text} {found : item × Text}
    (reads : first.read text = some found) : (first.orElse second).read text = some found := by
  simp only [orElse, reads, Option.some_or]

theorem read_orElse_of_second
    {first : Reader item} (second : Reader item) {text : Text}
    (fails : first.read text = none) : (first.orElse second).read text = second.read text := by
  simp only [orElse, fails, Option.none_or]

theorem read_pair_of_reads
    {first : Reader item} {mark : CodePoint} {second : Reader target}
    {text following rest : Text} {left : item} {right : target}
    (firstReads : first.read text = some (left, mark :: following))
    (secondReads : second.read following = some (right, rest)) :
    (first.pair mark second).read text = some ((left, right), rest) := by
  simp only [pair, firstReads, secondReads, if_true, Option.map_some]

def separator : Text :=
  Text.ofString ", "

/-- Reads a whole text as items with separators between neighbours. There is none when
anything else is left over. -/
def readAll (reader : Reader item) (text : Text) : Option (List item) :=
  match _reads : reader.read text with
  | none => none
  | some (first, rest) =>
      if rest = [] then some [first]
      else if separator <+: rest then
        (readAll reader (rest.drop separator.length)).map fun others => first :: others
      else none
termination_by text.length
decreasing_by
  have shorter := reader.shortens _reads
  rw [List.length_drop]
  omega

/-! ## Reading back -/

/-- A reader reads a form as a value and stops at the end of the form, when nothing or a
separator follows. -/
def ReadsBack (reader : Reader item) (form : Text) (value : item) : Prop :=
  ∀ rest, rest = [] ∨ separator <+: rest → reader.read (form ++ rest) = some (value, rest)

section ReadingBack

variable {reader : Reader item} {text rest : Text} {first : item}

theorem readAll_of_last (reads : reader.read text = some (first, [])) :
    reader.readAll text = some [first] := by
  unfold readAll
  split
  · next fails => rw [reads] at fails; cases fails
  · next found remaining same =>
      rw [reads] at same
      cases same
      rfl

theorem readAll_of_separator
    (reads : reader.read text = some (first, separator ++ rest)) :
    reader.readAll text = (reader.readAll rest).map fun others => first :: others := by
  rw [readAll]
  split
  · next fails => rw [reads] at fails; cases fails
  · next found remaining same =>
      rw [reads] at same
      cases same
      have nonempty : separator ++ rest ≠ [] := List.cons_ne_nil _ _
      rw [if_neg nonempty, if_pos (List.prefix_append separator rest), List.drop_left]

/-- Forms that read back one by one read back as a list. -/
theorem readAll_commaSeparated
    {forms : List Text} {values : List item}
    (readBack : List.Forall₂ reader.ReadsBack forms values) (nonempty : forms ≠ []) :
    reader.readAll (commaSeparated forms) = some values := by
  induction readBack with
  | nil => exact absurd rfl nonempty
  | @cons form value forms values formBack formsBack inductionHypothesis =>
      cases formsBack with
      | nil =>
          have reads := formBack [] (Or.inl rfl)
          rw [List.append_nil] at reads
          exact readAll_of_last reads
      | @cons next nextValue later laterValues nextBack laterBack =>
          have following := inductionHypothesis (List.cons_ne_nil _ _)
          have reads := formBack (separator ++ commaSeparated (next :: later))
            (Or.inr (List.prefix_append _ _))
          rw [← List.append_assoc] at reads
          have joined : commaSeparated (form :: next :: later) =
              form ++ separator ++ commaSeparated (next :: later) :=
            rfl
          rw [joined, readAll_of_separator reads, following]
          rfl

end ReadingBack

end Reader

/-! ## Items and assignments -/

/-- What a value is as an item of a list: nothing for null, and the written form of a
scalar. -/
inductive Denotes : Value → Option Text → Prop
  | null : Denotes .null none
  | scalar {content : Scalar} {text : Text} :
      content.written = .ok text → Denotes (.scalar content) (some text)

theorem nullKeyword_ne_nil : nullKeyword ≠ [] :=
  List.cons_ne_nil _ _

theorem Denotes.unique
    {value : Value} {content other : Option Text}
    (denotes : Denotes value content) (otherwise : Denotes value other) :
    content = other := by
  cases denotes with
  | null =>
      cases otherwise
      rfl
  | scalar written =>
      cases otherwise with
      | scalar otherWritten =>
          rw [written] at otherWritten
          exact congrArg some (Except.ok.inj otherWritten)

/-- An assignment names the key of an entry and holds its item. -/
def Assigns (entry : Entry) (assignment : Text × Option Text) : Prop :=
  Denotes entry.1 (some assignment.1) ∧ Denotes entry.2 assignment.2

theorem Assigns.unique
    {entry : Entry} {assignment other : Text × Option Text}
    (assigns : Assigns entry assignment) (otherwise : Assigns entry other) :
    assignment = other :=
  Prod.ext (Option.some.inj (assigns.1.unique otherwise.1)) (assigns.2.unique otherwise.2)

namespace QuoteMode

def literalReader (mode : QuoteMode) : Reader (Option Text) :=
  Reader.map some mode.literalRule.reader

/-- Reads the null keyword, or a string literal. -/
def itemReader (mode : QuoteMode) : Reader (Option Text) :=
  (Reader.keyword nullKeyword nullKeyword_ne_nil none).orElse mode.literalReader

/-- Reads an identifier, an equals sign and an item. -/
def assignmentReader (mode : QuoteMode) : Reader (Text × Option Text) :=
  identifierRule.reader.pair (.scalar '=') mode.itemReader

theorem readsBack_nullKeyword (mode : QuoteMode) :
    mode.itemReader.ReadsBack nullKeyword none :=
  fun rest _ => Reader.read_orElse_of_first _ (Reader.read_keyword_append _ _ rest)

theorem readsBack_escape (mode : QuoteMode) (content : Text) :
    mode.itemReader.ReadsBack (singleQuote :: mode.escape content ++ [singleQuote])
      (some content) := by
  intro rest follows
  have alone : rest.head? ≠ some singleQuote := by
    rcases follows with rfl | ⟨later, rfl⟩
    · exact fun same => by cases same
    · exact fun same => absurd (Option.some.inj same) (by decide)
  have noKeyword : ¬ nullKeyword <+:
      singleQuote :: mode.escape content ++ [singleQuote] ++ rest := by
    rintro ⟨later, same⟩
    exact absurd (List.cons.inj same).1 (by decide)
  rw [itemReader, Reader.read_orElse_of_second _ (Reader.read_keyword_of_other _ _ noKeyword)]
  exact Reader.read_map_of_reads some (mode.read_escape content alone)

theorem readsBack_literalForm
    (mode : QuoteMode) {value : Value} {form : Text}
    (formed : value.literalForm mode.escaper = .ok form) :
    ∃ content, Denotes value content ∧ mode.itemReader.ReadsBack form content := by
  cases value with
  | null =>
      cases formed
      exact ⟨none, .null, mode.readsBack_nullKeyword⟩
  | scalar content =>
      cases writing : content.written with
      | error fault =>
          rw [literalForm_of_unwritten mode.escaper writing] at formed
          cases formed
      | ok text =>
          rw [literalForm_of_written mode.escaper writing] at formed
          cases formed
          exact ⟨some text, .scalar writing, mode.readsBack_escape text⟩
  | _ => cases formed

end QuoteMode

theorem exists_name_of_identifierForm
    {key : Value} {form : Text} (formed : key.identifierForm = .ok form) :
    ∃ name, Denotes key (some name) ∧ form = quoteIdentifier name := by
  cases key with
  | scalar content =>
      obtain ⟨name, written, same⟩ := exists_quoteIdentifier_of_identifierForm formed
      exact ⟨name, .scalar written, same⟩
  | _ => cases formed

theorem QuoteMode.readsBack_assignmentForm
    (mode : QuoteMode) {entry : Entry} {form : Text}
    (formed : assignmentForm mode.escaper entry = .ok form) :
    ∃ assignment, Assigns entry assignment ∧
      mode.assignmentReader.ReadsBack form assignment := by
  unfold assignmentForm at formed
  cases naming : entry.1.identifierForm with
  | error fault =>
      rw [naming] at formed
      cases formed
  | ok named =>
      cases writing : entry.2.literalForm mode.escaper with
      | error fault =>
          simp only [naming, writing, bind, Except.bind] at formed
          cases formed
      | ok literal =>
          simp only [naming, writing, bind, Except.bind] at formed
          cases formed
          obtain ⟨name, denotesName, rfl⟩ := exists_name_of_identifierForm naming
          obtain ⟨content, denotes, readsBack⟩ := mode.readsBack_literalForm writing
          refine ⟨(name, content), ⟨denotesName, denotes⟩, ?_⟩
          intro rest follows
          have alone : (CodePoint.scalar '=' :: literal ++ rest).head? ≠ some backtick :=
            fun same => absurd (Option.some.inj same) (by decide)
          have namesFirst := read_quoteIdentifier name alone
          rw [List.append_assoc]
          exact Reader.read_pair_of_reads namesFirst (readsBack rest follows)

/-! ## Containers -/

section Containers

variable {streams : Streams} {value : Value} {entries : List Entry}

theorem calm_of_enumerates (enumerated : Enumerates streams value entries) :
    IsCalm (value.steps streams) := by
  intro error fails
  cases enumerated with
  | stream number items given =>
      have steps : (Value.stream number).steps streams = streams.getD number [] := rfl
      rw [steps, given] at fails
      obtain ⟨item, _, same⟩ := List.mem_map.mp fails
      cases same
  | _ => cases fails

/-- A container has a form exactly when its marker takes it. -/
theorem exists_form_iff_accepts
    {escaper : Escaper} (total : escaper.IsTotal) {placeholder : Placeholder}
    (iterates : placeholder.Iterates) :
    (∃ written, value.form escaper (value.steps streams) placeholder = .ok written) ↔
      Accepts streams placeholder value := by
  have given : ∀ {entries : List Entry}, Enumerates streams value entries →
      ((∃ written, value.form escaper (value.steps streams) placeholder = .ok written) ↔
        Accepts streams placeholder value) :=
    fun enumerated => (givenIff_form total placeholder (calm_of_enumerates enumerated)).given_iff
  constructor
  · rintro ⟨written, formed⟩
    rcases iterates with rfl | rfl
    all_goals
      obtain ⟨found, _, enumerated, _⟩ := exists_texts_of_container formed
      exact (given enumerated).mp ⟨written, formed⟩
  · intro accepted
    rcases iterates with rfl | rfl
    all_goals
      obtain ⟨found, enumerated, _⟩ := id accepted
      exact (given enumerated).mpr accepted

theorem exists_items_in_turn
    {source form item : Type} {forms : source → form → Prop} {means : source → item → Prop}
    {back : form → item → Prop} {sources : List source} {texts : List form}
    (each : ∀ {entry text}, forms entry text → ∃ found, means entry found ∧ back text found)
    (formed : List.Forall₂ forms sources texts) :
    ∃ items, List.Forall₂ means sources items ∧ List.Forall₂ back texts items := by
  induction formed with
  | nil => exact ⟨[], .nil, .nil⟩
  | cons first _ inductionHypothesis =>
      obtain ⟨found, meant, readBack⟩ := each first
      obtain ⟨items, meantInTurn, backInTurn⟩ := inductionHypothesis
      exact ⟨found :: items, .cons meant meantInTurn, .cons readBack backInTurn⟩

/-- A container whose entries read back one by one reads back as a list. -/
theorem readAll_container
    {item : Type} {reader : Reader item} {placeholder : Placeholder}
    {form : Entry → Except Fault Text} {means : Entry → item → Prop}
    (readsBack : ∀ {entry text}, form entry = .ok text →
      ∃ found, means entry found ∧ reader.ReadsBack text found)
    {written : Text}
    (formed : (do
        let found ← value.someEntriesForm (value.steps streams) placeholder
        let texts ← found.mapM form
        return commaSeparated texts) = Except.ok written) :
    ∃ entries items, Enumerates streams value entries ∧
      List.Forall₂ means entries items ∧ reader.readAll written = some items := by
  obtain ⟨entries, texts, enumerated, nonempty, _, writing, rfl⟩ :=
    exists_texts_of_container formed
  have formedInTurn := mapM_eq_ok_iff_forall₂.mp writing
  have someText : texts ≠ [] := by
    rintro rfl
    exact nonempty (List.forall₂_nil_right_iff.mp formedInTurn)
  obtain ⟨items, meant, back⟩ :=
    exists_items_in_turn (fun formed => readsBack formed) formedInTurn
  exact ⟨entries, items, enumerated, meant, reader.readAll_commaSeparated back someText⟩

end Containers

theorem eq_natural_of_denotes
    {position : Nat} {name : Text} (denotes : Denotes (.integer position) (some name)) :
    Numeral.natural position = name := by
  cases denotes with
  | scalar written =>
      have numeral : Numeral.integer (position : Int) = Numeral.natural position := by
        have nonnegative : ¬ ((position : Int) < 0) := Int.not_lt.mpr (Int.natCast_nonneg _)
        simp only [Numeral.integer, nonnegative, decide_false, Numeral.signed, Int.natAbs_natCast]
        rfl
      exact numeral.symm.trans (Except.ok.inj written)

/-- The names of the assignments of numbered items are their positions. -/
theorem names_of_numberedEntries
    {items : List Value} {assignments : List (Text × Option Text)}
    (assigned : List.Forall₂ Assigns (numberedEntries items) assignments) :
    assignments.map Prod.fst = (List.range assignments.length).map Numeral.natural := by
  have count : items.length = assignments.length := by
    rw [← assigned.length_eq, length_numberedEntries]
  have named : List.Forall₂ (fun key name => Denotes key (some name))
      ((numberedEntries items).map Prod.fst) (assignments.map Prod.fst) := by
    rw [List.forall₂_map_left_iff, List.forall₂_map_right_iff]
    exact assigned.imp fun _ _ assigns => assigns.1
  rw [map_fst_numberedEntries, List.forall₂_map_left_iff] at named
  have numbered := List.forall₂_map_left_iff.mpr (named.imp fun _ _ => eq_natural_of_denotes)
  rw [List.forall₂_eq_eq_eq] at numbered
  rw [← count, ← numbered]

/-! ## Reading back in the mode of a server -/

/-- What a marker writes for a parameter when the server has a status. -/
def writtenAt
    (status : Option Int) (placeholder : Placeholder) (value : Value)
    (state : BindingState) : Except Fault Text :=
  (outcome (parameter (QuoteMode.ofStatus status).escaper placeholder value) state).1

theorem writtenAt_eq_form
    (status : Option Int) (placeholder : Placeholder) (value : Value)
    (state : BindingState) :
    writtenAt status placeholder value state =
      value.form (readingMode status).escaper (value.steps state.streams) placeholder := by
  rw [writtenAt, outcome_parameter, ofStatus_eq_readingMode]

theorem QuoteMode.isTotal_escaper (mode : QuoteMode) : mode.escaper.IsTotal :=
  fun text => ⟨mode.escape text, rfl⟩

/-- An array is written for exactly the containers of literals, and a mapping for exactly
those under names. The text of an array reads back as its items, and the text of a mapping
as its assignments, which name positions where the container has no keys of its own. -/
theorem container_reads_back
    (status : Option Int) (value : Value) (state : BindingState) :
    (((∃ written, writtenAt status .array value state = .ok written) ↔
        Accepts state.streams .array value) ∧
      ∀ written, writtenAt status .array value state = .ok written →
        ∃ entries items, Enumerates state.streams value entries ∧
          List.Forall₂ (fun entry item => Denotes entry.2 item) entries items ∧
          (readingMode status).itemReader.readAll written = some items) ∧
    ((∃ written, writtenAt status .mapping value state = .ok written) ↔
        Accepts state.streams .mapping value) ∧
      ∀ written, writtenAt status .mapping value state = .ok written →
        ∃ entries assignments, Enumerates state.streams value entries ∧
          List.Forall₂ Assigns entries assignments ∧
          ((∀ form held, value ≠ .mapping form held) →
            assignments.map Prod.fst =
              (List.range assignments.length).map Numeral.natural) ∧
          (readingMode status).assignmentReader.readAll written = some assignments := by
  have total := (readingMode status).isTotal_escaper
  simp only [writtenAt_eq_form]
  refine ⟨⟨exists_form_iff_accepts total (Or.inl rfl), ?_⟩,
    exists_form_iff_accepts total (Or.inr rfl), ?_⟩
  · intro written formed
    exact readAll_container (readingMode status).readsBack_literalForm formed
  · intro written formed
    obtain ⟨entries, assignments, enumerated, assigned, reads⟩ :=
      readAll_container (readingMode status).readsBack_assignmentForm formed
    refine ⟨entries, assignments, enumerated, assigned, ?_, reads⟩
    intro keyless
    cases enumerated with
    | mapping form => exact absurd rfl (keyless form _)
    | _ => exact names_of_numberedEntries assigned

def sneakyMapping : Value :=
  .mapping .dictionary
    [(.text (Text.ofString "a`='"), .text (Text.ofString "x', `b`='\\")),
      (.flag true, .null)]

def sneakyText : Text :=
  Text.ofString "`a``='`='x'', `b`=''\\', `1`=NULL"

/-- A name and an item that look like further assignments stay one assignment. -/
theorem container_reads_back_sneaky :
    writtenAt (some 512) .mapping sneakyMapping ⟨[], []⟩ = .ok sneakyText ∧
      QuoteMode.doubled.assignmentReader.readAll sneakyText =
        some [(Text.ofString "a`='", some (Text.ofString "x', `b`='\\")),
          (Text.ofString "1", none)] := by
  have written : writtenAt (some 512) .mapping sneakyMapping ⟨[], []⟩ = .ok sneakyText := rfl
  obtain ⟨_, _, readsBack⟩ := container_reads_back (some 512) sneakyMapping ⟨[], []⟩
  obtain ⟨entries, assignments, enumerated, assigned, _, reads⟩ := readsBack _ written
  cases enumerated
  have expected : List.Forall₂ Assigns
      [(.text (Text.ofString "a`='"), .text (Text.ofString "x', `b`='\\")),
        (.flag true, .null)]
      [(Text.ofString "a`='", some (Text.ofString "x', `b`='\\")),
        (Text.ofString "1", none)] :=
    .cons ⟨.scalar rfl, .scalar rfl⟩ (.cons ⟨.scalar rfl, .null⟩ .nil)
  have unique : Relator.RightUnique Assigns := fun _ _ _ => Assigns.unique
  have same : assignments = _ := unique.forall₂ assigned expected
  rw [same] at reads
  exact ⟨written, reads⟩

end BoundQuery
