import BoundQuery.Fault

/-!
# Escaping

An escaper makes a text safe between single quotes. Under the backslash rules seven
code points are written with a backslash in front; under the quote rules, which hold
while the server takes backslashes literally, a single quote is written twice and
nothing else changes. Which rules hold can be read off the status of the server.

The main statement says that escaped text in backslash mode keeps no line end, null or
substitute character.
-/

namespace BoundQuery

/-- An escaper gives the escaped form of a text, or fails. -/
abbrev Escaper := Text → Except Fault Text

/-! ## The two sets of rules -/

/-- The letter that stands for a code point after a backslash, where it has one. -/
def escapeLetter? (point : CodePoint) : Option CodePoint :=
  if point = .scalar '\x00' then some (.scalar '0')
  else if point = backslash then some backslash
  else if point = .scalar '\n' then some (.scalar 'n')
  else if point = .scalar '\r' then some (.scalar 'r')
  else if point = .scalar '\x1a' then some (.scalar 'Z')
  else if point = doubleQuote then some doubleQuote
  else if point = singleQuote then some singleQuote
  else none

def escapeBackslash (text : Text) : Text :=
  text.flatMap fun point =>
    match escapeLetter? point with
    | some letter => [backslash, letter]
    | none => [point]

def escapeQuotes (text : Text) : Text :=
  Text.substitute singleQuote [singleQuote, singleQuote] text

/-! ## Modes -/

/-- The two ways in which a server reads the text between quotes. -/
inductive QuoteMode
  | backslash
  | doubled
  deriving DecidableEq

namespace QuoteMode

def escape : QuoteMode → Text → Text
  | backslash => escapeBackslash
  | doubled => escapeQuotes

/-- The mode of a server status: the bit of value 512 says that backslashes are
literal. A missing status counts as zero. -/
def ofStatus (status : Option Int) : QuoteMode :=
  if status.getD 0 / 512 % 2 = 1 then doubled else backslash

/-- The escaper of a mode, which never fails. -/
def escaper (mode : QuoteMode) : Escaper :=
  fun text => .ok (mode.escape text)

end QuoteMode

/-! ## Facts on escaped texts -/

/-- The code points that never occur in a text escaped by the backslash rules. -/
def unsafeRaw : List CodePoint :=
  [.scalar '\x00', .scalar '\n', .scalar '\r', .scalar '\x1a']

theorem escapeLetter?_not_mem_unsafeRaw (point letter : CodePoint)
    (escaped : escapeLetter? point = some letter) : letter ∉ unsafeRaw := by
  unfold escapeLetter? at escaped
  repeat' split at escaped
  all_goals first
    | (cases escaped; decide)
    | cases escaped

theorem not_mem_unsafeRaw_of_escapeLetter?_eq_none (point : CodePoint)
    (plain : escapeLetter? point = none) : point ∉ unsafeRaw := by
  intro member
  simp only [unsafeRaw, List.mem_cons, List.not_mem_nil, or_false] at member
  rcases member with rfl | rfl | rfl | rfl <;> revert plain <;> decide

/-- Escaping by the backslash rules leaves no raw line end, null or substitute. -/
theorem escapeBackslash_not_mem_unsafeRaw (text : Text) :
    ∀ point ∈ escapeBackslash text, point ∉ unsafeRaw := by
  intro point member
  simp only [escapeBackslash, List.mem_flatMap] at member
  obtain ⟨source, _, inside⟩ := member
  cases escaped : escapeLetter? source with
  | none =>
      simp only [escaped, List.mem_singleton] at inside
      rw [inside]
      exact not_mem_unsafeRaw_of_escapeLetter?_eq_none source escaped
  | some letter =>
      simp only [escaped, List.mem_cons, List.not_mem_nil, or_false] at inside
      rcases inside with rfl | rfl
      · decide
      · exact escapeLetter?_not_mem_unsafeRaw source _ escaped

end BoundQuery
