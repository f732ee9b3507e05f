import BoundQuery.Placeholder

/-!
# Query templates

A template is a text in which some places are markers of placeholders. Its segments
are the markers and the stretches of literal text between them. A question mark
without the letter of a placeholder after it is literal text like any other.

The statement at the end says that the number of markers among the segments is the number
of positions at which a marker begins.
-/

namespace BoundQuery

/-- A segment of a template is literal text or a marker. -/
inductive Segment
  | literal (text : Text)
  | marker (placeholder : Placeholder)
  deriving DecidableEq

namespace Segment

def text : Segment → Text
  | literal content => content
  | marker placeholder => placeholder.marker

def placeholder? : Segment → Option Placeholder
  | literal _ => none
  | marker placeholder => some placeholder

def isMarker (segment : Segment) : Bool :=
  segment.placeholder?.isSome

end Segment

/-! ## Segmentation -/

namespace Template

/-- Segments with one more code point of literal text in front. -/
def consLiteral (point : CodePoint) : List Segment → List Segment
  | .literal content :: rest => .literal (point :: content) :: rest
  | segments => .literal [point] :: segments

/-- The segments of a template from left to right. -/
def segments : Text → List Segment
  | [] => []
  | [only] => [.literal [only]]
  | first :: second :: rest =>
      match Placeholder.ofMarker? first second with
      | some placeholder => .marker placeholder :: segments rest
      | none => consLiteral first (segments (second :: rest))

def markerCount (segments : List Segment) : Nat :=
  segments.countP Segment.isMarker

/-- The number of positions of a text at which a marker begins. -/
def markerPositions : Text → Nat
  | [] => 0
  | [_] => 0
  | first :: second :: rest =>
      (if (Placeholder.ofMarker? first second).isSome then 1 else 0) +
        markerPositions (second :: rest)

/-! ## Facts on segmentation -/

theorem markerCount_consLiteral (point : CodePoint) (segments : List Segment) :
    markerCount (consLiteral point segments) = markerCount segments := by
  match segments with
  | [] => rfl
  | .literal _ :: _ => rfl
  | .marker _ :: _ => rfl

theorem markerPositions_letter (placeholder : Placeholder) (rest : Text) :
    markerPositions (placeholder.letter :: rest) = markerPositions rest := by
  cases rest with
  | nil => rfl
  | cons head tail =>
      simp [markerPositions, Placeholder.ofMarker?,
        Placeholder.letter_ne_questionMark placeholder]

/-- Segmentation finds every position at which a marker begins. -/
theorem markerCount_segments (template : Text) :
    markerCount (segments template) = markerPositions template := by
  fun_induction segments template with
  | case1 => rfl
  | case2 => rfl
  | case3 first second rest placeholder found inductionHypothesis =>
      obtain ⟨rfl, rfl⟩ :=
        (Placeholder.ofMarker?_eq_some_iff first second placeholder).mp found
      simp only [markerPositions, found, Option.isSome_some, if_true,
        markerPositions_letter, ← inductionHypothesis]
      rw [markerCount, List.countP_cons_of_pos rfl, Nat.add_comm]
      rfl
  | case4 first second rest missing inductionHypothesis =>
      rw [markerCount_consLiteral, inductionHypothesis]
      simp [markerPositions, missing]

end Template

end BoundQuery
