import BoundQuery.Proofs.QuoteScan
import BoundQuery.Proofs.Segmentation

/-!
# Skeletons of bound queries

A template with string and identifier markers is shielded when a scanner reaches each of
its markers outside of quotes and no marker touches a quote or another marker. Texts
bound to a shielded template stay between the quotes of their own form: scanning the
query finds the pieces of the literal texts and, for each marker, one quoted text that
decodes to the parameter.

The main statement says that two queries made from one shielded template have the same
skeleton, so no text can add to a query or take from it.
-/

namespace BoundQuery

/-! ## Shielded templates -/

namespace Template

/-- The text of segments with a plain letter in place of each marker. -/
def masked (segments : List Segment) : Text :=
  segments.flatMap fun segment =>
    match segment with
    | .literal text => text
    | .marker _ => [CodePoint.scalar 'x']

end Template

/-- A segment beside a marker is literal text, and the given code point of it, if there
is one, is no quote. -/
def Segment.IsGap (segment : Segment) (nearest : Option CodePoint) : Prop :=
  segment.isMarker = false ∧ ∀ point ∈ nearest, point ∉ quoteMarks

namespace QuoteMode

/-- A string or identifier marker between segments is reached outside of quotes and
touches neither a quote nor another marker. -/
structure ShieldsMarker
    (mode : QuoteMode) (before : List Segment) (placeholder : Placeholder)
    (after : List Segment) : Prop where
  kind : placeholder = .string ∨ placeholder = .identifier
  reached : (mode.stateFrom .normal (Template.masked before)).isOutside = true
  gapBefore : ∀ neighbour ∈ before.getLast?, neighbour.IsGap neighbour.text.getLast?
  gapAfter : ∀ neighbour ∈ after.head?, neighbour.IsGap neighbour.text.head?

def Shielded (mode : QuoteMode) (segments : List Segment) : Prop :=
  ∀ before placeholder after, segments = before ++ .marker placeholder :: after →
    mode.ShieldsMarker before placeholder after

/-- A segment after which the scanner is in its normal state can be left out. -/
theorem Shielded.tail
    {mode : QuoteMode} {segment : Segment} {rest : List Segment}
    (shielded : mode.Shielded (segment :: rest))
    (returns : mode.stateFrom .normal (Template.masked [segment]) = .normal) :
    mode.Shielded rest := by
  intro before placeholder after split
  have extended :
      segment :: rest = (segment :: before) ++ .marker placeholder :: after := by
    rw [split]
    rfl
  have shields := shielded (segment :: before) placeholder after extended
  have masked : Template.masked (segment :: before) =
      Template.masked [segment] ++ Template.masked before := by
    simp [Template.masked]
  refine ⟨shields.kind, ?_, ?_, shields.gapAfter⟩
  · have outside := shields.reached
    rw [masked, stateFrom_append, returns] at outside
    exact outside
  · intro neighbour member
    apply shields.gapBefore neighbour
    rw [List.getLast?_cons, Option.mem_def.mp member]
    rfl

/-- The scanner is in its normal state after literal text in front of a marker. -/
theorem Shielded.returns
    {mode : QuoteMode} {text : Text} {placeholder : Placeholder}
    {rest : List Segment}
    (shielded : mode.Shielded (.literal text :: .marker placeholder :: rest)) :
    mode.stateFrom .normal text = .normal := by
  have shields := shielded [.literal text] placeholder rest rfl
  have outside := shields.reached
  have gap := shields.gapBefore (.literal text) rfl
  have masked : Template.masked [.literal text] = text := by
    simp [Template.masked]
  rw [masked] at outside
  exact stateFrom_eq_normal outside gap.2

/-! ## Checking templates -/

/-- Whether the markers among segments are shielded when other segments stand in front
of them. -/
def ShieldsFrom (mode : QuoteMode) (before : List Segment) : List Segment → Prop
  | [] => True
  | .literal text :: rest => mode.ShieldsFrom (before ++ [.literal text]) rest
  | .marker placeholder :: rest =>
      mode.ShieldsMarker before placeholder rest ∧
        mode.ShieldsFrom (before ++ [.marker placeholder]) rest

theorem shieldsFrom_iff
    (mode : QuoteMode) (before segments : List Segment) :
    mode.ShieldsFrom before segments ↔
      ∀ between placeholder after, segments = between ++ .marker placeholder :: after →
        mode.ShieldsMarker (before ++ between) placeholder after := by
  induction segments generalizing before with
  | nil =>
      refine iff_of_true trivial ?_
      intro between placeholder after split
      exact absurd split.symm (by simp)
  | cons segment rest inductionHypothesis =>
      have later : mode.ShieldsFrom (before ++ [segment]) rest ↔
          ∀ between placeholder after, rest = between ++ .marker placeholder :: after →
            mode.ShieldsMarker (before ++ segment :: between) placeholder after := by
        rw [inductionHypothesis]
        simp only [List.append_assoc, List.singleton_append]
      cases segment with
      | literal text =>
          rw [ShieldsFrom, later]
          constructor
          · intro shields between placeholder after split
            cases between with
            | nil => cases split
            | cons first others =>
                cases split
                exact shields others placeholder after rfl
          · intro shields between placeholder after split
            exact shields (.literal text :: between) placeholder after (by rw [split]; rfl)
      | marker marked =>
          rw [ShieldsFrom, later]
          constructor
          · intro shields between placeholder after split
            cases between with
            | nil =>
                cases split
                rw [List.append_nil]
                exact shields.1
            | cons first others =>
                cases split
                exact shields.2 others placeholder after rfl
          · intro shields
            constructor
            · have here := shields [] marked rest rfl
              rwa [List.append_nil] at here
            · intro between placeholder after split
              exact shields (.marker marked :: between) placeholder after
                (by rw [split]; rfl)

end QuoteMode

instance (segment : Segment) (nearest : Option CodePoint) :
    Decidable (segment.IsGap nearest) :=
  inferInstanceAs (Decidable (_ ∧ _))

namespace QuoteMode

instance (mode : QuoteMode) (before : List Segment) (placeholder : Placeholder)
    (after : List Segment) : Decidable (mode.ShieldsMarker before placeholder after) :=
  decidable_of_iff
    ((placeholder = .string ∨ placeholder = .identifier) ∧
      (mode.stateFrom .normal (Template.masked before)).isOutside = true ∧
      (∀ neighbour ∈ before.getLast?, neighbour.IsGap neighbour.text.getLast?) ∧
      ∀ neighbour ∈ after.head?, neighbour.IsGap neighbour.text.head?)
    ⟨fun ⟨kind, reached, gapBefore, gapAfter⟩ => ⟨kind, reached, gapBefore, gapAfter⟩,
      fun ⟨kind, reached, gapBefore, gapAfter⟩ => ⟨kind, reached, gapBefore, gapAfter⟩⟩

def decideShieldsFrom
    (mode : QuoteMode) (before : List Segment) :
    (segments : List Segment) → Decidable (mode.ShieldsFrom before segments)
  | [] => isTrue trivial
  | .literal text :: rest => mode.decideShieldsFrom (before ++ [.literal text]) rest
  | .marker placeholder :: rest =>
      match mode.decideShieldsFrom (before ++ [.marker placeholder]) rest with
      | isTrue later =>
          if here : mode.ShieldsMarker before placeholder rest then isTrue ⟨here, later⟩
          else isFalse fun both => here both.1
      | isFalse unshielded => isFalse fun both => unshielded both.2

instance (mode : QuoteMode) (segments : List Segment) :
    Decidable (mode.Shielded segments) :=
  have := mode.decideShieldsFrom [] segments
  decidable_of_iff (mode.ShieldsFrom [] segments) (mode.shieldsFrom_iff [] segments)

end QuoteMode

/-! ## Forms of texts -/

def Placeholder.quoteMark : Placeholder → CodePoint
  | .identifier => backtick
  | _ => singleQuote

namespace QuoteMode

/-- The form of a text is scanned as one piece, unless its quote follows directly. -/
theorem scan_form
    {mode : QuoteMode} {placeholder : Placeholder} {content form rest : Text}
    {steps : List StreamStep}
    (kind : placeholder = .string ∨ placeholder = .identifier)
    (accepted : (Value.text content).form mode.escaper steps placeholder = .ok form)
    (alone : ∀ point ∈ rest.head?, point ∉ quoteMarks) :
    mode.scan (form ++ rest) =
      .quoted placeholder.quoteMark content :: mode.scan rest := by
  have apart : ∀ quote ∈ quoteMarks, rest.head? ≠ some quote := by
    intro quote marked same
    exact alone quote same marked
  rcases kind with rfl | rfl
  · have literal := literalForm_text mode.escaper content
    have written : form = singleQuote :: mode.escape content ++ [singleQuote] :=
      (Except.ok.inj (literal.symm.trans accepted)).symm
    have reading := mode.read_escape content (apart singleQuote (by decide))
    rw [← written] at reading
    have ruled : mode.ruleOf? mode.literalRule.quote = some mode.literalRule := rfl
    exact scan_of_read ruled reading
  · have written : form = quoteIdentifier content :=
      eq_quoteIdentifier_of_identifierForm accepted
    have reading := read_quoteIdentifier content (apart backtick (by decide))
    rw [← written] at reading
    have ruled : mode.ruleOf? identifierRule.quote = some identifierRule := rfl
    exact scan_of_read ruled reading

/-! ## Pieces of bound templates -/

/-- The pieces of the literal texts of a template, with one quoted text for each marker,
which has the content of that marker. -/
def pieces (mode : QuoteMode) : List Segment → List Text → List Piece
  | [], _ => []
  | .literal text :: rest, contents => mode.scan text ++ mode.pieces rest contents
  | .marker placeholder :: rest, content :: contents =>
      .quoted placeholder.quoteMark content :: mode.pieces rest contents
  | .marker _ :: _, [] => []

theorem skeleton_pieces
    (mode : QuoteMode) (segments : List Segment) {first second : List Text}
    (lengths : first.length = second.length) :
    (mode.pieces segments first).flatMap Piece.skeleton =
      (mode.pieces segments second).flatMap Piece.skeleton := by
  induction segments generalizing first second with
  | nil => rfl
  | cons segment rest inductionHypothesis =>
      cases segment with
      | literal text =>
          rw [pieces, pieces, List.flatMap_append, List.flatMap_append,
            inductionHypothesis lengths]
      | marker placeholder =>
          match first, second, lengths with
          | [], [], _ => rfl
          | content :: contents, other :: others, lengths =>
              rw [pieces, pieces, List.flatMap_cons, List.flatMap_cons,
                inductionHypothesis (Nat.succ.inj lengths)]
              rfl

/-- What follows a marker in a bound template does not begin with a quote. -/
theorem Shielded.head?_weave
    {mode : QuoteMode} {placeholder : Placeholder} {rest : List Segment} {template : Text}
    (shielded : mode.Shielded (.marker placeholder :: rest))
    (segmentation : IsSegmentation template (rest.map Segment.part))
    (forms : List Text) :
    ∀ point ∈ (Template.weave rest forms).head?, point ∉ quoteMarks := by
  match rest, (shielded [] placeholder rest rfl).gapAfter, segmentation with
  | [], _, _ =>
      intro point member
      cases member
  | .marker other :: _, gap, _ =>
      have unmarked : (Segment.marker other).isMarker = false := (gap _ rfl).1
      cases unmarked
  | .literal text :: others, gap, segmentation =>
      have nonempty : text ≠ [] := (isSegmentation_cons_iff.mp segmentation).1.1
      intro point member
      rw [Template.weave, List.head?_append_of_ne_nil _ nonempty] at member
      exact (gap _ rfl).2 point member

/-- Scanning a bound template finds the pieces of its literal texts and one quoted text
for each marker. -/
theorem scan_weave
    {mode : QuoteMode} {segments : List Segment} {template : Text}
    {contents forms : List Text} {streams : Streams}
    (shielded : mode.Shielded segments)
    (segmentation : IsSegmentation template (segments.map Segment.part))
    (accepted :
      ((Template.placeholders segments).zip (contents.map Value.text)).mapM
        (formOf mode.escaper streams) = .ok forms)
    (count : Template.markerCount segments = contents.length) :
    mode.scan (Template.weave segments forms) = mode.pieces segments contents := by
  induction segments generalizing template contents forms with
  | nil => rfl
  | cons segment rest inductionHypothesis =>
      obtain ⟨_, apart, after, _, following⟩ := isSegmentation_cons_iff.mp segmentation
      cases segment with
      | literal text =>
          match rest, apart, shielded with
          | [], _, _ =>
              rw [Template.weave, Template.weave, pieces, pieces, List.append_nil,
                List.append_nil]
          | .literal other :: _, apart, _ => exact absurd rfl (apart _ rfl rfl)
          | .marker placeholder :: others, _, shielded =>
              have returns := shielded.returns
              have restShielded : mode.Shielded (.marker placeholder :: others) :=
                shielded.tail (by simpa [Template.masked] using returns)
              have restPieces :=
                inductionHypothesis restShielded following accepted count
              rw [Template.weave, pieces, scan, scanFrom_append_of_normal mode _ returns,
                restPieces]
              rfl
      | marker placeholder =>
          obtain ⟨content, others, rfl, restCount⟩ := Template.exists_cons_of_marker count
          have kind := (shielded [] placeholder rest rfl).kind
          have restShielded : mode.Shielded rest := shielded.tail rfl
          obtain ⟨form, otherForms, formed, restFormed, rfl⟩ :=
            mapM_cons_eq_ok_iff.mp accepted
          have restPieces :=
            inductionHypothesis restShielded following restFormed restCount
          have alone := shielded.head?_weave following otherForms
          rw [Template.weave, pieces, scan_form kind formed alone, restPieces]

end QuoteMode

/-! ## Bound queries -/

theorem unshared_texts (contents : List Text) :
    Unshared (contents.map Value.text) := by
  have none : (contents.map Value.text).filterMap Value.stream? = [] := by
    simp [List.filterMap_eq_nil_iff, Value.text, Value.stream?]
  rw [Unshared, none]
  exact List.nodup_nil

theorem scan_of_bind
    {mode : QuoteMode} {template query : Text} {contents : List Text}
    {streams : Streams}
    (shielded : mode.Shielded (Template.segments template))
    (binds : Statement.bind mode.escaper
      ⟨Value.text template, contents.map Value.text, streams⟩ = .ok query) :
    contents.length = Template.markerCount (Template.segments template) ∧
      mode.scan query = mode.pieces (Template.segments template) contents := by
  have count := Statement.count_of_bind_eq_ok binds
  rw [Statement.bind_of_count mode.escaper template _ streams count
    (unshared_texts contents)] at binds
  rw [List.length_map] at count
  refine ⟨count.symm, ?_⟩
  cases formed : ((Template.placeholders (Template.segments template)).zip
      (contents.map Value.text)).mapM (formOf mode.escaper streams) with
  | error fault =>
      rw [formed] at binds
      cases binds
  | ok forms =>
      rw [formed] at binds
      cases binds
      exact QuoteMode.scan_weave shielded (Template.isSegmentation_segments template)
        formed count

/-- Two queries made of texts from one shielded template have the same skeleton. In
each of them the quoted text in place of a marker decodes to the parameter of that
marker. -/
theorem skeleton_eq_of_shielded
    {mode : QuoteMode} {template firstQuery secondQuery : Text}
    {first second : List Text} {firstStreams secondStreams : Streams}
    (shielded : mode.Shielded (Template.segments template))
    (firstBinds : Statement.bind mode.escaper
      ⟨Value.text template, first.map Value.text, firstStreams⟩ = .ok firstQuery)
    (secondBinds : Statement.bind mode.escaper
      ⟨Value.text template, second.map Value.text, secondStreams⟩ = .ok secondQuery) :
    mode.skeleton firstQuery = mode.skeleton secondQuery ∧
      mode.scan firstQuery = mode.pieces (Template.segments template) first ∧
      mode.scan secondQuery = mode.pieces (Template.segments template) second := by
  have firstScan := scan_of_bind shielded firstBinds
  have secondScan := scan_of_bind shielded secondBinds
  have lengths : first.length = second.length :=
    firstScan.1.trans secondScan.1.symm
  refine ⟨?_, firstScan.2, secondScan.2⟩
  rw [QuoteMode.skeleton, QuoteMode.skeleton, firstScan.2, secondScan.2]
  exact mode.skeleton_pieces (Template.segments template) lengths

/-- A name with a backtick and a text with a quote and a backslash leave the skeleton of
a query with quotes of its own alone. -/
theorem skeleton_eq_of_shielded_quotes :
    QuoteMode.backslash.Shielded
        (Template.segments (Text.ofString "?n = 'it''s' + ?s")) ∧
      Statement.bind QuoteMode.backslash.escaper
          ⟨Value.text (Text.ofString "?n = 'it''s' + ?s"),
            [Text.ofString "a", Text.ofString "b"].map Value.text, []⟩ =
        .ok (Text.ofString "`a` = 'it''s' + 'b'") ∧
      Statement.bind QuoteMode.backslash.escaper
          ⟨Value.text (Text.ofString "?n = 'it''s' + ?s"),
            [Text.ofString "a`'", Text.ofString "' -- \\"].map Value.text, []⟩ =
        .ok (Text.ofString "`a``'` = 'it''s' + '\\' -- \\\\'") ∧
      QuoteMode.backslash.skeleton (Text.ofString "`a` = 'it''s' + 'b'") =
          QuoteMode.backslash.skeleton
            (Text.ofString "`a``'` = 'it''s' + '\\' -- \\\\'") ∧
        QuoteMode.backslash.scan (Text.ofString "`a` = 'it''s' + 'b'") =
          QuoteMode.backslash.pieces
            (Template.segments (Text.ofString "?n = 'it''s' + ?s"))
            [Text.ofString "a", Text.ofString "b"] ∧
        QuoteMode.backslash.scan
            (Text.ofString "`a``'` = 'it''s' + '\\' -- \\\\'") =
          QuoteMode.backslash.pieces
            (Template.segments (Text.ofString "?n = 'it''s' + ?s"))
            [Text.ofString "a`'", Text.ofString "' -- \\"] :=
  have shielded : QuoteMode.backslash.Shielded
      (Template.segments (Text.ofString "?n = 'it''s' + ?s")) := by decide
  have firstBinds : Statement.bind QuoteMode.backslash.escaper
      ⟨Value.text (Text.ofString "?n = 'it''s' + ?s"),
        [Text.ofString "a", Text.ofString "b"].map Value.text, []⟩ =
    .ok (Text.ofString "`a` = 'it''s' + 'b'") := rfl
  have secondBinds : Statement.bind QuoteMode.backslash.escaper
      ⟨Value.text (Text.ofString "?n = 'it''s' + ?s"),
        [Text.ofString "a`'", Text.ofString "' -- \\"].map Value.text, []⟩ =
    .ok (Text.ofString "`a``'` = 'it''s' + '\\' -- \\\\'") := rfl
  ⟨shielded, firstBinds, secondBinds,
    skeleton_eq_of_shielded shielded firstBinds secondBinds⟩

end BoundQuery
