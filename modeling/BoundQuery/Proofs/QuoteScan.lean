import BoundQuery.Proofs.QuotedReading

/-!
# Scanning for quoted texts

A scanner goes through a query one code point at a time and tells what stands between
quotes from what does not. Outside of quotes it is in its normal state; a quote of any
of the three kinds takes it inside, and it comes out again after a quote of the same
kind that is not followed by another one. What it finds is a list of pieces, and the
skeleton of a query is what is left of the pieces when the content of the quoted ones
is erased.

The statements at the end say how scanning goes on after a stretch of text that ends in
the normal state, and that a quoted text that the reader takes is one piece.
-/

namespace BoundQuery

/-! ## States and pieces -/

def quoteMarks : List CodePoint :=
  [singleQuote, doubleQuote, backtick]

/-- Where a scanner is: outside of quotes, inside of them, after a backslash inside of
them, or after a quote that closes them unless another one follows. -/
inductive ScanState
  | normal
  | inside (rule : QuoteRule) (content : Text)
  | escaped (rule : QuoteRule) (content : Text)
  | closing (rule : QuoteRule) (content : Text)

/-- What a scanner finds: a code point outside of quotes, a quoted text with its
decoded content, or a quoted text that the end of the query cuts off. -/
inductive Piece
  | plain (point : CodePoint)
  | quoted (quote : CodePoint) (content : Text)
  | unclosed (quote : CodePoint) (content : Text)

namespace ScanState

/-- Whether a letter that comes next stands outside of quotes. -/
def isOutside : ScanState → Bool
  | normal => true
  | inside _ _ => false
  | escaped _ _ => false
  | closing _ _ => true

def finish : ScanState → List Piece
  | normal => []
  | inside rule content => [.unclosed rule.quote content]
  | escaped rule content => [.unclosed rule.quote content]
  | closing rule content => [.quoted rule.quote content]

end ScanState

def Piece.skeleton : Piece → Text
  | plain point => [point]
  | quoted quote _ => [quote, quote]
  | unclosed quote _ => [quote]

/-! ## The scanner -/

namespace QuoteMode

/-- How a quoted text that begins with a code point is read. -/
def ruleOf? (mode : QuoteMode) (point : CodePoint) : Option QuoteRule :=
  if point = singleQuote then some mode.literalRule
  else if point = doubleQuote then some { mode.literalRule with quote := doubleQuote }
  else if point = backtick then some identifierRule
  else none

/-- The step of the scanner outside of quotes. -/
def enter (mode : QuoteMode) (point : CodePoint) : ScanState × List Piece :=
  match mode.ruleOf? point with
  | some rule => (.inside rule [], [])
  | none => (.normal, [.plain point])

def step (mode : QuoteMode) : ScanState → CodePoint → ScanState × List Piece
  | .normal, point => mode.enter point
  | .inside rule content, point =>
      if point = rule.quote then (.closing rule content, [])
      else if rule.escapes = true ∧ point = BoundQuery.backslash then
        (.escaped rule content, [])
      else (.inside rule (content ++ [point]), [])
  | .escaped rule content, point => (.inside rule (content ++ [unescape point]), [])
  | .closing rule content, point =>
      if point = rule.quote then (.inside rule (content ++ [point]), [])
      else ((mode.enter point).1, .quoted rule.quote content :: (mode.enter point).2)

def stateFrom (mode : QuoteMode) (state : ScanState) (text : Text) : ScanState :=
  text.foldl (fun current point => (mode.step current point).1) state

/-- The pieces of a text that begins in a state. -/
def scanFrom (mode : QuoteMode) : ScanState → Text → List Piece
  | state, [] => state.finish
  | state, point :: rest =>
      (mode.step state point).2 ++ mode.scanFrom (mode.step state point).1 rest

def scan (mode : QuoteMode) (query : Text) : List Piece :=
  mode.scanFrom .normal query

/-- A query with everything between quotes erased. -/
def skeleton (mode : QuoteMode) (query : Text) : Text :=
  (mode.scan query).flatMap Piece.skeleton

/-! ## Stretches of text -/

theorem stateFrom_append
    (mode : QuoteMode) (state : ScanState) (first second : Text) :
    mode.stateFrom state (first ++ second) =
      mode.stateFrom (mode.stateFrom state first) second :=
  List.foldl_append

/-- After a stretch of text that ends outside of quotes, scanning starts anew. -/
theorem scanFrom_append_of_normal
    (mode : QuoteMode) {state : ScanState} {first : Text} (second : Text)
    (returns : mode.stateFrom state first = .normal) :
    mode.scanFrom state (first ++ second) =
      mode.scanFrom state first ++ mode.scan second := by
  induction first generalizing state with
  | nil =>
      have start : state = .normal := returns
      rw [start]
      rfl
  | cons point rest inductionHypothesis =>
      have following : mode.scanFrom (mode.step state point).1 (rest ++ second) =
          mode.scanFrom (mode.step state point).1 rest ++ mode.scan second :=
        inductionHypothesis returns
      rw [List.cons_append, scanFrom, scanFrom, following, List.append_assoc]

theorem ruleOf?_quote
    {mode : QuoteMode} {point : CodePoint} {rule : QuoteRule}
    (ruled : mode.ruleOf? point = some rule) :
    rule.quote = point ∧ point ∈ quoteMarks := by
  unfold ruleOf? at ruled
  split at ruled
  case isTrue single =>
    cases ruled
    exact ⟨single.symm, by rw [single]; decide⟩
  case isFalse =>
    split at ruled
    case isTrue double =>
      cases ruled
      exact ⟨double.symm, by rw [double]; decide⟩
    case isFalse =>
      split at ruled
      case isTrue tick =>
        cases ruled
        exact ⟨tick.symm, by rw [tick]; decide⟩
      case isFalse => cases ruled

end QuoteMode

/-- A scanner is inside of quotes of a known kind only. -/
def ScanState.IsKnown : ScanState → Prop
  | normal => True
  | inside rule _ => rule.quote ∈ quoteMarks
  | escaped rule _ => rule.quote ∈ quoteMarks
  | closing rule _ => rule.quote ∈ quoteMarks

namespace QuoteMode

theorem isKnown_enter (mode : QuoteMode) (point : CodePoint) :
    (mode.enter point).1.IsKnown := by
  rw [enter]
  cases ruled : mode.ruleOf? point with
  | none => exact trivial
  | some rule =>
      have marked := ruleOf?_quote ruled
      show rule.quote ∈ quoteMarks
      rw [marked.1]
      exact marked.2

theorem isKnown_step
    (mode : QuoteMode) {state : ScanState} (point : CodePoint)
    (known : state.IsKnown) : (mode.step state point).1.IsKnown := by
  cases state with
  | normal => exact mode.isKnown_enter point
  | escaped rule content => exact known
  | inside rule content =>
      rw [step]
      split
      · exact known
      · split <;> exact known
  | closing rule content =>
      rw [step]
      split
      · exact known
      · exact mode.isKnown_enter point

theorem isKnown_stateFrom
    (mode : QuoteMode) {state : ScanState} (text : Text) (known : state.IsKnown) :
    (mode.stateFrom state text).IsKnown := by
  induction text generalizing state with
  | nil => exact known
  | cons point rest inductionHypothesis =>
      exact inductionHypothesis (mode.isKnown_step point known)

theorem enter_ne_closing
    (mode : QuoteMode) (point : CodePoint) (rule : QuoteRule) (content : Text) :
    (mode.enter point).1 ≠ .closing rule content := by
  rw [enter]
  cases mode.ruleOf? point <;> intro same <;> cases same

/-- Quotes are closed from inside of them only, and by their own quote. -/
theorem step_eq_closing
    {mode : QuoteMode} {state : ScanState} {point : CodePoint} {rule : QuoteRule}
    {content : Text} (closes : (mode.step state point).1 = .closing rule content) :
    state = .inside rule content ∧ point = rule.quote := by
  cases state with
  | normal => exact absurd closes (mode.enter_ne_closing point rule content)
  | escaped entered before => cases closes
  | inside entered before =>
      by_cases quote : point = entered.quote
      · rw [step, if_pos quote] at closes
        cases closes
        exact ⟨rfl, quote⟩
      · rw [step, if_neg quote] at closes
        split at closes <;> cases closes
  | closing entered before =>
      by_cases quote : point = entered.quote
      · rw [step, if_pos quote] at closes
        cases closes
      · rw [step, if_neg quote] at closes
        exact absurd closes (mode.enter_ne_closing point rule content)

/-- A text that leaves the scanner outside of quotes, and does not end with a quote,
leaves it in its normal state. -/
theorem stateFrom_eq_normal
    {mode : QuoteMode} {text : Text}
    (outside : (mode.stateFrom .normal text).isOutside = true)
    (ending : ∀ point ∈ text.getLast?, point ∉ quoteMarks) :
    mode.stateFrom .normal text = .normal := by
  rcases List.eq_nil_or_concat text with rfl | ⟨initial, last, rfl⟩
  · rfl
  · rw [List.concat_eq_append] at outside ending ⊢
    have known : (mode.stateFrom .normal initial).IsKnown :=
      mode.isKnown_stateFrom initial trivial
    have unquoted : last ∉ quoteMarks := ending last (by simp)
    rw [stateFrom_append] at outside ⊢
    cases ends : mode.stateFrom (mode.stateFrom .normal initial) [last] with
    | normal => rfl
    | inside rule content =>
        rw [ends] at outside
        cases outside
    | escaped rule content =>
        rw [ends] at outside
        cases outside
    | closing rule content =>
        obtain ⟨entered, quote⟩ := step_eq_closing ends
        rw [entered] at known
        rw [quote] at unquoted
        exact absurd known unquoted

/-! ## Quoted texts -/

theorem scanFrom_closing
    (mode : QuoteMode) {rule : QuoteRule} {content rest : Text}
    (alone : rest.head? ≠ some rule.quote) :
    mode.scanFrom (.closing rule content) rest =
      .quoted rule.quote content :: mode.scan rest := by
  cases rest with
  | nil => rfl
  | cons point following =>
      have different : point ≠ rule.quote := by
        intro same
        exact alone (by rw [same]; rfl)
      rw [scanFrom, step, if_neg different]
      rfl

/-- What the reader takes from inside of quotes, the scanner finds as one piece. -/
theorem scanFrom_inside
    (mode : QuoteMode) {rule : QuoteRule} {text content rest : Text} (before : Text)
    (reading : rule.readContent text = some (content, rest)) :
    mode.scanFrom (.inside rule before) text =
      .quoted rule.quote (before ++ content) :: mode.scan rest := by
  fun_induction QuoteRule.readContent rule text generalizing before content with
  | case1 => cases reading
  | case2 =>
      cases reading
      rw [List.append_nil, scanFrom, step, if_pos rfl]
      rfl
  | case3 => cases reading
  | case4 following inductionHypothesis =>
      obtain ⟨⟨later, after⟩, reads, same⟩ := Option.map_eq_some_iff.mp reading
      cases same
      rw [scanFrom, step, if_pos rfl, scanFrom, step, if_pos rfl,
        inductionHypothesis _ reads]
      simp
  | case5 second following different =>
      cases reading
      have alone : (second :: following).head? ≠ some rule.quote := by
        intro same
        exact different (Option.some.inj same)
      rw [List.append_nil, scanFrom, step, if_pos rfl]
      exact mode.scanFrom_closing alone
  | case6 first second following noQuote escapes inductionHypothesis =>
      obtain ⟨⟨later, after⟩, reads, same⟩ := Option.map_eq_some_iff.mp reading
      cases same
      rw [scanFrom, step, if_neg noQuote, if_pos escapes, scanFrom, step,
        inductionHypothesis _ reads]
      simp
  | case7 first second following noQuote noEscape inductionHypothesis =>
      obtain ⟨⟨later, after⟩, reads, same⟩ := Option.map_eq_some_iff.mp reading
      cases same
      rw [scanFrom, step, if_neg noQuote, if_neg noEscape, inductionHypothesis _ reads]
      simp

theorem scan_of_read
    {mode : QuoteMode} {rule : QuoteRule} {text content rest : Text}
    (ruled : mode.ruleOf? rule.quote = some rule)
    (reading : rule.read text = some (content, rest)) :
    mode.scan text = .quoted rule.quote content :: mode.scan rest := by
  cases text with
  | nil => cases reading
  | cons first following =>
      by_cases opens : first = rule.quote
      · rw [QuoteRule.read, if_pos opens] at reading
        have entered : mode.step .normal first = (.inside rule [], []) := by
          rw [step, enter, opens, ruled]
        rw [scan, scanFrom, entered]
        exact mode.scanFrom_inside [] reading
      · rw [QuoteRule.read, if_neg opens] at reading
        cases reading

end QuoteMode

end BoundQuery
