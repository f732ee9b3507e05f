import BoundQuery.Template
import Mathlib.Data.List.Chain

/-!
# Segmentation

A segmentation of a template is a list of texts, some of them labelled with a
placeholder, that spells out the template: a labelled text is the marker of its
placeholder, and the other texts are not empty, hold no marker and do not touch each
other. The definition says nothing about how such a list is found.

The main statement says that every template has exactly one segmentation, which its
segments are.
-/

namespace BoundQuery

/-! ## Segmentations -/

/-- A text without a label is literal. -/
abbrev Part := Text × Option Placeholder

def Segment.part (segment : Segment) : Part :=
  (segment.text, segment.placeholder?)

theorem Segment.part_injective : Function.Injective Segment.part := by
  intro first second same
  have texts : first.text = second.text := congrArg Prod.fst same
  have labels : first.placeholder? = second.placeholder? := congrArg Prod.snd same
  match first, second, texts, labels with
  | .literal _, .literal _, texts, _ => exact congrArg Segment.literal texts
  | .marker _, .marker _, _, labels => exact congrArg Segment.marker (Option.some.inj labels)

def MarkerFree (text : Text) : Prop :=
  ∀ placeholder : Placeholder, ¬ placeholder.marker <:+: text

/-- A labelled text is the marker of its placeholder. A literal text is not empty and
holds no marker. -/
def Part.IsProper : Part → Prop
  | (text, some placeholder) => text = placeholder.marker
  | (text, none) => text ≠ [] ∧ MarkerFree text

structure IsSegmentation (template : Text) (parts : List Part) : Prop where
  spells : parts.flatMap Prod.fst = template
  proper : ∀ part ∈ parts, Part.IsProper part
  apart : parts.IsChain fun first second => first.2 = none → second.2 ≠ none

theorem isSegmentation_nil_iff {template : Text} :
    IsSegmentation template [] ↔ template = [] := by
  constructor
  · intro segmentation
    exact segmentation.spells.symm
  · intro empty
    rw [empty]
    exact ⟨rfl, fun _ member => absurd member List.not_mem_nil, List.isChain_nil⟩

theorem isSegmentation_cons_iff
    {template : Text} {part : Part} {parts : List Part} :
    IsSegmentation template (part :: parts) ↔
      Part.IsProper part ∧
        (∀ next ∈ parts.head?, part.2 = none → next.2 ≠ none) ∧
        ∃ rest, template = part.1 ++ rest ∧ IsSegmentation rest parts := by
  constructor
  · intro segmentation
    obtain ⟨spells, proper, apart⟩ := segmentation
    have properParts := List.forall_mem_cons.mp proper
    have chain := List.isChain_cons.mp apart
    exact ⟨properParts.1, chain.1, parts.flatMap Prod.fst, spells.symm,
      rfl, properParts.2, chain.2⟩
  · intro split
    obtain ⟨properPart, apartPart, rest, rfl, spells, proper, apart⟩ := split
    refine ⟨?_, List.forall_mem_cons.mpr ⟨properPart, proper⟩,
      List.isChain_cons.mpr ⟨apartPart, apart⟩⟩
    rw [List.flatMap_cons, spells]

/-! ## Markers inside of texts -/

theorem Placeholder.letter_injective : Function.Injective Placeholder.letter := by
  intro placeholder other letters
  have read := (Placeholder.ofLetter?_eq_some_iff _ placeholder).mpr rfl
  have otherRead := (Placeholder.ofLetter?_eq_some_iff _ other).mpr letters
  exact Option.some.inj (read.symm.trans otherRead)

theorem markerFree_singleton (point : CodePoint) : MarkerFree [point] := by
  intro placeholder inside
  have bound := inside.length_le
  simp [Placeholder.marker] at bound

theorem markerFree_cons_cons_iff (first second : CodePoint) (rest : Text) :
    MarkerFree (first :: second :: rest) ↔
      Placeholder.ofMarker? first second = none ∧ MarkerFree (second :: rest) := by
  have begins : ∀ placeholder : Placeholder,
      placeholder.marker <+: first :: second :: rest ↔
        Placeholder.ofMarker? first second = some placeholder := by
    intro placeholder
    rw [Placeholder.ofMarker?_eq_some_iff, Placeholder.marker, List.cons_prefix_cons,
      List.cons_prefix_cons]
    constructor
    · intro starts
      obtain ⟨mark, letter, _⟩ := starts
      exact ⟨mark.symm, letter.symm⟩
    · intro read
      obtain ⟨mark, letter⟩ := read
      exact ⟨mark.symm, letter.symm, List.nil_prefix⟩
  unfold MarkerFree
  simp only [List.infix_cons_iff (a := first), begins, not_or, forall_and,
    Option.eq_none_iff_forall_not_mem, Option.mem_def]

/-! ## The segments of a template -/

namespace Template

/-- A code point that begins no marker with the code point after it joins the literal
text that follows, or stands alone in front of a marker. -/
theorem isSegmentation_consLiteral
    {first second : CodePoint} {rest : Text} {segments : List Segment}
    (missing : Placeholder.ofMarker? first second = none)
    (segmentation : IsSegmentation (second :: rest) (segments.map Segment.part)) :
    IsSegmentation (first :: second :: rest)
      ((consLiteral first segments).map Segment.part) := by
  match segments with
  | [] =>
      exact absurd (isSegmentation_nil_iff.mp segmentation) (List.cons_ne_nil _ _)
  | .literal content :: others =>
      obtain ⟨⟨nonempty, free⟩, apart, after, spelled, following⟩ :=
        isSegmentation_cons_iff.mp segmentation
      obtain ⟨head, tail, rfl⟩ := List.exists_cons_of_ne_nil nonempty
      have heads : second = head := (List.cons.inj spelled).1
      refine isSegmentation_cons_iff.mpr
        ⟨⟨List.cons_ne_nil _ _, ?_⟩, apart, after, ?_, following⟩
      · rw [heads] at missing
        exact (markerFree_cons_cons_iff first head tail).mpr ⟨missing, free⟩
      · rw [spelled]
        rfl
  | .marker placeholder :: others =>
      refine isSegmentation_cons_iff.mpr
        ⟨⟨List.cons_ne_nil _ _, markerFree_singleton first⟩, ?_, second :: rest, rfl,
          segmentation⟩
      intro next labelled _ literal
      cases labelled
      cases literal

/-- The segments of a template are a segmentation of it. -/
theorem isSegmentation_segments (template : Text) :
    IsSegmentation template ((segments template).map Segment.part) := by
  fun_induction segments template with
  | case1 => exact isSegmentation_nil_iff.mpr rfl
  | case2 only =>
      exact isSegmentation_cons_iff.mpr
        ⟨⟨List.cons_ne_nil _ _, markerFree_singleton only⟩,
          fun _ member => absurd member (Option.not_mem_none _),
          [], rfl, isSegmentation_nil_iff.mpr rfl⟩
  | case3 first second rest placeholder found inductionHypothesis =>
      obtain ⟨rfl, rfl⟩ :=
        (Placeholder.ofMarker?_eq_some_iff first second placeholder).mp found
      refine isSegmentation_cons_iff.mpr
        ⟨rfl, ?_, rest, rfl, inductionHypothesis⟩
      intro next _ literal
      cases literal
  | case4 first second rest missing inductionHypothesis =>
      exact isSegmentation_consLiteral missing inductionHypothesis

/-! ## Uniqueness -/

theorem text_ne_nil_of_isProper {part : Part} (proper : Part.IsProper part) :
    part.1 ≠ [] := by
  obtain ⟨text, label⟩ := part
  cases label with
  | some placeholder =>
      have marker : text = placeholder.marker := proper
      rw [marker]
      exact List.cons_ne_nil _ _
  | none => exact proper.1

theorem eq_nil_of_isSegmentation
    {parts : List Part} (segmentation : IsSegmentation [] parts) : parts = [] := by
  cases parts with
  | nil => rfl
  | cons part others =>
      obtain ⟨proper, _, after, spelled, _⟩ := isSegmentation_cons_iff.mp segmentation
      exact absurd (List.append_eq_nil_iff.mp spelled.symm).1
        (text_ne_nil_of_isProper proper)

/-- A segmentation begins with a marker, or with a literal text that holds no marker
and is followed by one, if by anything. -/
theorem marker_or_literal
    {first : CodePoint} {rest : Text} {parts : List Part}
    (segmentation : IsSegmentation (first :: rest) parts) :
    (∃ placeholder others after,
        parts = (placeholder.marker, some placeholder) :: others ∧
        first :: rest = placeholder.marker ++ after ∧ IsSegmentation after others) ∨
      ∃ content others after,
        parts = (first :: content, none) :: others ∧ MarkerFree (first :: content) ∧
        (∀ next ∈ others.head?, next.2 ≠ none) ∧
        rest = content ++ after ∧ IsSegmentation after others := by
  cases parts with
  | nil =>
      have empty := isSegmentation_nil_iff.mp segmentation
      exact absurd empty (List.cons_ne_nil first rest)
  | cons part others =>
      obtain ⟨proper, apart, after, spelled, following⟩ :=
        isSegmentation_cons_iff.mp segmentation
      obtain ⟨text, label⟩ := part
      cases label with
      | some placeholder =>
          have marker : text = placeholder.marker := proper
          rw [marker] at spelled ⊢
          exact Or.inl ⟨placeholder, others, after, rfl, spelled, following⟩
      | none =>
          obtain ⟨nonempty, free⟩ := proper
          obtain ⟨head, content, rfl⟩ := List.exists_cons_of_ne_nil nonempty
          have heads : first = head := (List.cons.inj spelled).1
          have tails : rest = content ++ after := (List.cons.inj spelled).2
          rw [← heads] at free ⊢
          exact Or.inr ⟨content, others, after, rfl, free,
            fun next member => apart next member rfl, tails, following⟩

/-- A text whose segmentation does not begin with literal text begins with a marker. -/
theorem exists_marker_of_labelled
    {first : CodePoint} {rest : Text} {parts : List Part}
    (segmentation : IsSegmentation (first :: rest) parts)
    (labelled : ∀ next ∈ parts.head?, next.2 ≠ none) :
    ∃ placeholder others after,
      parts = (placeholder.marker, some placeholder) :: others ∧
      first = Placeholder.questionMark ∧ rest = placeholder.letter :: after := by
  rcases marker_or_literal segmentation with
    ⟨placeholder, others, after, same, spelled, _⟩ | ⟨_, _, _, same, _⟩
  · have heads := List.cons.inj spelled
    exact ⟨placeholder, others, after, same, heads.1, heads.2⟩
  · rw [same] at labelled
    exact absurd rfl (labelled _ rfl)

/-- A segmentation that begins where a marker begins has that marker as its first
part. A literal text that began there would hold the marker, or end after the question
mark and be followed by a marker that begins with a letter. -/
theorem eq_marker_cons
    {placeholder : Placeholder} {rest : Text} {parts : List Part}
    (segmentation : IsSegmentation (placeholder.marker ++ rest) parts) :
    ∃ others, parts = (placeholder.marker, some placeholder) :: others ∧
      IsSegmentation rest others := by
  rcases marker_or_literal segmentation with
    ⟨other, others, after, same, spelled, following⟩ |
      ⟨content, others, after, same, free, apart, spelled, following⟩
  · have letters : placeholder.letter = other.letter :=
      (List.cons.inj (List.cons.inj spelled).2).1
    have equal := Placeholder.letter_injective letters
    have rests : rest = after := (List.cons.inj (List.cons.inj spelled).2).2
    rw [equal, rests]
    exact ⟨others, same, following⟩
  · cases content with
    | nil =>
        have afterMark : placeholder.letter :: rest = after := spelled
        rw [← afterMark] at following
        obtain ⟨_, _, _, _, letterIsMark, _⟩ := exists_marker_of_labelled following apart
        exact absurd letterIsMark (Placeholder.letter_ne_questionMark placeholder)
    | cons second more =>
        have letters : placeholder.letter = second := (List.cons.inj spelled).1
        have missing := ((markerFree_cons_cons_iff _ second more).mp free).1
        have found : Placeholder.ofMarker? Placeholder.questionMark second =
            some placeholder :=
          (Placeholder.ofMarker?_eq_some_iff _ second placeholder).mpr
            ⟨rfl, letters.symm⟩
        rw [missing] at found
        cases found

/-- A segmentation that begins where no marker begins has literal text in front. -/
theorem eq_literal_cons
    {first second : CodePoint} {rest : Text} {parts : List Part}
    (missing : Placeholder.ofMarker? first second = none)
    (segmentation : IsSegmentation (first :: second :: rest) parts) :
    ∃ content others after, parts = (first :: content, none) :: others ∧
      MarkerFree (first :: content) ∧
      (∀ next ∈ others.head?, next.2 ≠ none) ∧
      second :: rest = content ++ after ∧ IsSegmentation after others := by
  rcases marker_or_literal segmentation with
    ⟨placeholder, _, _, _, spelled, _⟩ | literal
  · have heads := List.cons.inj spelled
    have found : Placeholder.ofMarker? first second = some placeholder :=
      (Placeholder.ofMarker?_eq_some_iff first second placeholder).mpr
        ⟨heads.1, (List.cons.inj heads.2).1⟩
    rw [missing] at found
    cases found
  · exact literal

theorem eq_literal_of_singleton
    {only : CodePoint} {parts : List Part}
    (segmentation : IsSegmentation [only] parts) : parts = [([only], none)] := by
  rcases marker_or_literal segmentation with
    ⟨_, _, _, _, spelled, _⟩ | ⟨content, others, after, same, _, _, spelled, following⟩
  · exact absurd (List.cons.inj spelled).2.symm (List.cons_ne_nil _ _)
  · have ends := List.append_eq_nil_iff.mp spelled.symm
    rw [ends.2] at following
    rw [same, ends.1, eq_nil_of_isSegmentation following]

/-- A template has no other segmentation than its segments. -/
theorem eq_segments_of_isSegmentation
    {template : Text} {parts : List Part}
    (segmentation : IsSegmentation template parts) :
    parts = (segments template).map Segment.part := by
  fun_induction segments template generalizing parts with
  | case1 => exact eq_nil_of_isSegmentation segmentation
  | case2 only => exact eq_literal_of_singleton segmentation
  | case3 first second rest placeholder found inductionHypothesis =>
      obtain ⟨rfl, rfl⟩ :=
        (Placeholder.ofMarker?_eq_some_iff first second placeholder).mp found
      obtain ⟨others, rfl, following⟩ := eq_marker_cons segmentation
      rw [inductionHypothesis following]
      rfl
  | case4 first second rest missing inductionHypothesis =>
      obtain ⟨content, others, after, rfl, free, apart, spelled, following⟩ :=
        eq_literal_cons missing segmentation
      cases content with
      | nil =>
          -- The literal ends here, so a marker comes next and nothing is joined.
          have whole : second :: rest = after := spelled
          rw [← whole] at following
          obtain ⟨placeholder, later, _, labelled, _⟩ :=
            exists_marker_of_labelled following apart
          have parts := inductionHypothesis following
          rw [labelled] at parts
          obtain ⟨segment, more, found, head, _⟩ := List.map_eq_cons_iff.mp parts.symm
          rw [labelled, parts, found]
          cases segment with
          | literal text => cases head
          | marker other => rfl
      | cons next more =>
          have tailFree := ((markerFree_cons_cons_iff first next more).mp free).2
          have shorter : IsSegmentation (second :: rest) ((next :: more, none) :: others) :=
            isSegmentation_cons_iff.mpr
              ⟨⟨List.cons_ne_nil _ _, tailFree⟩, fun next member _ => apart next member,
                after, spelled, following⟩
          have parts := inductionHypothesis shorter
          obtain ⟨segment, later, found, head, tail⟩ := List.map_eq_cons_iff.mp parts.symm
          rw [← tail, found]
          cases segment with
          | literal text =>
              have contents : text = next :: more := congrArg Prod.fst head
              rw [contents]
              rfl
          | marker other => cases head

/-! ## Positions of markers -/

/-- Whether a question mark stands at a position, and the letter of a placeholder
after it. -/
def beginsMarker (template : Text) (position : Nat) : Bool :=
  template[position]? == some (CodePoint.scalar '?') &&
    (Text.ofString "sinaup").any fun letter =>
      template[position + 1]? == some letter

theorem isSome_ofMarker? (first second : CodePoint) :
    (Placeholder.ofMarker? first second).isSome =
      (first == CodePoint.scalar '?' &&
        (Text.ofString "sinaup").any fun letter => second == letter) := by
  rw [Bool.eq_iff_iff, Option.isSome_iff_exists]
  simp only [Placeholder.ofMarker?_eq_some_iff, Bool.and_eq_true, beq_iff_eq,
    List.any_eq_true]
  constructor
  · intro read
    obtain ⟨placeholder, mark, letter⟩ := read
    refine ⟨mark, placeholder.letter, ?_, letter⟩
    cases placeholder <;> decide
  · intro begins
    obtain ⟨mark, letter, member, rfl⟩ := begins
    have listed : second ∈ Placeholder.all.map Placeholder.letter := member
    obtain ⟨placeholder, _, same⟩ := List.mem_map.mp listed
    exact ⟨placeholder, mark, same.symm⟩

theorem beginsMarker_zero (first second : CodePoint) (rest : Text) :
    beginsMarker (first :: second :: rest) 0 =
      (Placeholder.ofMarker? first second).isSome := by
  rw [isSome_ofMarker?]
  simp [beginsMarker]

theorem beginsMarker_succ (first : CodePoint) (rest : Text) (position : Nat) :
    beginsMarker (first :: rest) (position + 1) = beginsMarker rest position := by
  simp [beginsMarker]

theorem markerPositions_eq_countP (template : Text) :
    markerPositions template =
      (List.range template.length).countP (beginsMarker template) := by
  induction template with
  | nil => rfl
  | cons first rest inductionHypothesis =>
      cases rest with
      | nil => simp [markerPositions, beginsMarker]
      | cons second following =>
          have shifted : beginsMarker (first :: second :: following) ∘ Nat.succ =
              beginsMarker (second :: following) :=
            funext (beginsMarker_succ first (second :: following))
          rw [markerPositions, inductionHypothesis, List.length_cons (a := first),
            List.range_succ_eq_map, List.countP_cons, List.countP_map, shifted,
            beginsMarker_zero, Nat.add_comm]

/-- A text is free of markers exactly when none begins at any of its positions. -/
theorem markerFree_iff_beginsMarker (text : Text) :
    MarkerFree text ↔ ∀ position, beginsMarker text position = false := by
  induction text with
  | nil =>
      refine iff_of_true ?_ (fun position => rfl)
      intro placeholder inside
      exact absurd (List.infix_nil.mp inside) (List.cons_ne_nil _ _)
  | cons first rest inductionHypothesis =>
      cases rest with
      | nil =>
          refine iff_of_true (markerFree_singleton first) (fun position => ?_)
          simp [beginsMarker]
      | cons second following =>
          rw [markerFree_cons_cons_iff, inductionHypothesis,
            ← Option.not_isSome_iff_eq_none, Bool.not_eq_true,
            ← beginsMarker_zero first second following]
          constructor
          · intro quiet position
            obtain ⟨head, later⟩ := quiet
            cases position with
            | zero => exact head
            | succ previous =>
                rw [beginsMarker_succ]
                exact later previous
          · intro all
            refine ⟨all 0, fun position => ?_⟩
            rw [← beginsMarker_succ first]
            exact all (position + 1)

end Template

end BoundQuery
