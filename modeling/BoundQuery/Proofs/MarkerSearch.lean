import BoundQuery.Proofs.Segmentation

/-!
# Searching for markers

The segments of a template can also be found with two positions: one where the current
literal text begins, and one from which the next question mark is looked for. A
question mark without the letter of a placeholder moves the second position only.

While the search runs, no marker begins between the two positions. From this invariant
the search gives a segmentation, and so the main statement: every template has exactly
one segmentation, which both ways of finding it give, with as many markers as there are
positions where one begins.
-/

namespace BoundQuery.Template

/-! ## Positions of question marks -/

/-- The first position from a given one on at which a question mark stands. -/
def nextMark (template : Text) (start : Nat) : Option Nat :=
  ((template.drop start).findIdx? (· == Placeholder.questionMark)).map (start + ·)

theorem nextMark_eq_some
    {template : Text} {start mark : Nat}
    (found : nextMark template start = some mark) :
    start ≤ mark ∧ template[mark]? = some Placeholder.questionMark ∧
      ∀ position, start ≤ position → position < mark →
        template[position]? ≠ some Placeholder.questionMark := by
  obtain ⟨offset, located, rfl⟩ := Option.map_eq_some_iff.mp found
  obtain ⟨bound, here, before⟩ := List.findIdx?_eq_some_iff_getElem.mp located
  refine ⟨Nat.le_add_right start offset, ?_, ?_⟩
  · rw [← List.getElem?_drop, List.getElem?_eq_getElem bound]
    exact congrArg some (beq_iff_eq.mp here)
  · intro position later earlier same
    have inside : position - start < offset := by omega
    have different := before (position - start) inside
    have shifted : start + (position - start) = position := by omega
    rw [← shifted, ← List.getElem?_drop,
      List.getElem?_eq_getElem (Nat.lt_trans inside bound)] at same
    exact different (beq_iff_eq.mpr (Option.some.inj same))

theorem nextMark_eq_none
    {template : Text} {start : Nat} (missing : nextMark template start = none) :
    ∀ position, start ≤ position →
      template[position]? ≠ some Placeholder.questionMark := by
  intro position later same
  have unlocated := List.findIdx?_eq_none_iff.mp (Option.map_eq_none_iff.mp missing)
  have shifted : start + (position - start) = position := by omega
  rw [← shifted, ← List.getElem?_drop] at same
  have different := unlocated _ (List.mem_of_getElem? same)
  simp at different

theorem beginsMarker_eq_false
    {template : Text} {position : Nat}
    (noMark : template[position]? ≠ some Placeholder.questionMark) :
    beginsMarker template position = false := by
  unfold beginsMarker
  rw [Bool.and_eq_false_iff]
  exact Or.inl (beq_eq_false_iff_ne.mpr noMark)

theorem beginsMarker_eq_false_of_letterless
    {template : Text} {position : Nat}
    (letterless : template[position + 1]?.bind Placeholder.ofLetter? = none) :
    beginsMarker template position = false := by
  unfold beginsMarker
  rw [Bool.and_eq_false_iff]
  cases next : template[position + 1]? with
  | none => exact Or.inr (by simp)
  | some letter =>
      rw [next] at letterless
      have missing : Placeholder.ofMarker? Placeholder.questionMark letter = none :=
        letterless
      have unlisted := isSome_ofMarker? Placeholder.questionMark letter
      rw [missing] at unlisted
      have unlettered : (Text.ofString "sinaup").any (letter == ·) = false :=
        unlisted.symm
      exact Or.inr (by simpa using unlettered)

/-- A question mark and the letter of a placeholder after it are that placeholder's
marker. -/
theorem drop_eq_marker_append
    {template : Text} {mark : Nat} {placeholder : Placeholder}
    (here : template[mark]? = some Placeholder.questionMark)
    (letter : template[mark + 1]?.bind Placeholder.ofLetter? = some placeholder) :
    template.drop mark = placeholder.marker ++ template.drop (mark + 2) := by
  obtain ⟨point, next, named⟩ := Option.bind_eq_some_iff.mp letter
  have letters := (Placeholder.ofLetter?_eq_some_iff point placeholder).mp named
  obtain ⟨markBound, markValue⟩ := List.getElem?_eq_some_iff.mp here
  obtain ⟨letterBound, letterValue⟩ := List.getElem?_eq_some_iff.mp next
  rw [List.drop_eq_getElem_cons markBound, List.drop_eq_getElem_cons letterBound,
    markValue, letterValue, letters]
  rfl

/-! ## The search -/

/-- The text of a template between two positions, unless it is empty. -/
def literalBetween (template : Text) (start stop : Nat) : List Segment :=
  if start < stop then [.literal ((template.take stop).drop start)] else []

/-- The segments of a template from the beginning of a literal text on, when the next
question mark is looked for from a second position on. -/
def search (template : Text) (start position : Nat) : List Segment :=
  match _found : nextMark template position with
  | none => literalBetween template start template.length
  | some mark =>
      match template[mark + 1]?.bind Placeholder.ofLetter? with
      | none => search template start (mark + 1)
      | some placeholder =>
          literalBetween template start mark ++
            .marker placeholder :: search template (mark + 2) (mark + 2)
termination_by template.length - position
decreasing_by
  all_goals
    obtain ⟨later, here, _⟩ := nextMark_eq_some _found
    have bound := (List.getElem?_eq_some_iff.mp here).1
    omega

/-! ## The invariant of the search -/

/-- A stretch of a template holds no marker when none begins before its last code
point. -/
theorem markerFree_between
    {template : Text} {start stop : Nat}
    (quiet : ∀ position, start ≤ position → position < stop →
      beginsMarker template position = false) :
    MarkerFree ((template.take stop).drop start) := by
  apply (markerFree_iff_beginsMarker _).mpr
  intro offset
  by_cases inside : start + offset + 1 < stop
  · have here := quiet (start + offset) (Nat.le_add_right start offset) (by omega)
    have first : ((template.take stop).drop start)[offset]? =
        template[start + offset]? := by
      rw [List.getElem?_drop, List.getElem?_take, if_pos (by omega)]
    have second : ((template.take stop).drop start)[offset + 1]? =
        template[start + offset + 1]? := by
      rw [List.getElem?_drop, List.getElem?_take, if_pos (by omega), Nat.add_assoc]
    unfold beginsMarker at here ⊢
    rw [first, second]
    exact here
  · have second : ((template.take stop).drop start)[offset + 1]? = none := by
      rw [List.getElem?_drop, List.getElem?_take, if_neg (by omega)]
    unfold beginsMarker
    rw [second]
    simp

theorem isSegmentation_literalBetween
    {template : Text} {start stop : Nat} {parts : List Part}
    (ordered : start ≤ stop) (bounded : stop ≤ template.length)
    (free : MarkerFree ((template.take stop).drop start))
    (labelled : ∀ next ∈ parts.head?, next.2 ≠ none)
    (segmentation : IsSegmentation (template.drop stop) parts) :
    IsSegmentation (template.drop start)
      ((literalBetween template start stop).map Segment.part ++ parts) := by
  unfold literalBetween
  by_cases before : start < stop
  · have split : template.drop start =
        (template.take stop).drop start ++ template.drop stop := by
      conv_lhs => rw [← List.take_append_drop stop template]
      apply List.drop_append_of_le_length
      rw [List.length_take]
      omega
    have nonempty : (template.take stop).drop start ≠ [] := by
      apply List.ne_nil_of_length_pos
      rw [List.length_drop, List.length_take]
      omega
    rw [if_pos before]
    exact isSegmentation_cons_iff.mpr
      ⟨⟨nonempty, free⟩, fun next member _ => labelled next member,
        template.drop stop, split, segmentation⟩
  · have same : start = stop := by omega
    rw [if_neg before, same]
    exact segmentation

theorem quiet_until_mark
    {template : Text} {start position mark : Nat}
    (found : nextMark template position = some mark)
    (quiet : ∀ tested, start ≤ tested → tested < position →
      beginsMarker template tested = false) :
    ∀ tested, start ≤ tested → tested < mark →
      beginsMarker template tested = false := by
  intro tested later beforeMark
  by_cases earlier : tested < position
  · exact quiet tested later earlier
  · exact beginsMarker_eq_false
      ((nextMark_eq_some found).2.2 tested (Nat.le_of_not_lt earlier) beforeMark)

/-- The search gives a segmentation of the rest of the template, as long as no marker
begins between its two positions. -/
theorem isSegmentation_search
    (template : Text) (start position : Nat)
    (ordered : start ≤ position) (bounded : start ≤ template.length)
    (quiet : ∀ tested, start ≤ tested → tested < position →
      beginsMarker template tested = false) :
    IsSegmentation (template.drop start)
      ((search template start position).map Segment.part) := by
  fun_induction search template start position with
  | case1 start position missing =>
      have free : MarkerFree ((template.take template.length).drop start) := by
        apply markerFree_between
        intro tested later _
        by_cases earlier : tested < position
        · exact quiet tested later earlier
        · exact beginsMarker_eq_false
            (nextMark_eq_none missing tested (Nat.le_of_not_lt earlier))
      have ends : IsSegmentation (template.drop template.length) [] := by
        rw [List.drop_length]
        exact isSegmentation_nil_iff.mpr rfl
      have whole := isSegmentation_literalBetween bounded (Nat.le_refl _) free
        (fun _ member => absurd member (Option.not_mem_none _)) ends
      rwa [List.append_nil] at whole
  | case2 start position mark found letterless inductionHypothesis =>
      obtain ⟨later, here, before⟩ := nextMark_eq_some found
      apply inductionHypothesis (by omega) bounded
      intro tested afterStart upToMark
      by_cases atMark : tested = mark
      · rw [atMark]
        exact beginsMarker_eq_false_of_letterless letterless
      · exact quiet_until_mark found quiet tested afterStart (by omega)
  | case3 start position mark found placeholder letter inductionHypothesis =>
      obtain ⟨later, here, before⟩ := nextMark_eq_some found
      have markBound := (List.getElem?_eq_some_iff.mp here).1
      obtain ⟨point, next, _⟩ := Option.bind_eq_some_iff.mp letter
      have letterBound := (List.getElem?_eq_some_iff.mp next).1
      have following := inductionHypothesis (Nat.le_refl _) (by omega)
        (fun tested afterMarker beforeMarker => by omega)
      have marked : IsSegmentation (template.drop mark)
          ((Segment.marker placeholder).part ::
            (search template (mark + 2) (mark + 2)).map Segment.part) :=
        isSegmentation_cons_iff.mpr
          ⟨rfl, fun _ _ literal => absurd literal (Option.some_ne_none _),
            template.drop (mark + 2), drop_eq_marker_append here letter, following⟩
      rw [List.map_append]
      apply isSegmentation_literalBetween (by omega) (by omega)
        (markerFree_between (quiet_until_mark found quiet))
      · intro first member
        cases member
        exact Option.some_ne_none _
      · exact marked

/-- The search finds the segments of a template. -/
theorem search_eq_segments (template : Text) : search template 0 0 = segments template := by
  have found := isSegmentation_search template 0 0 (Nat.le_refl 0) (Nat.zero_le _)
    (fun tested _ impossible => absurd impossible (Nat.not_lt_zero tested))
  have same := eq_segments_of_isSegmentation found
  exact List.map_injective_iff.mpr Segment.part_injective same

/-- Every template has exactly one segmentation, which its segments are and which the
search finds. It has as many markers as there are positions at which one begins. -/
theorem isSegmentation_iff_eq_segments (template : Text) :
    (∀ parts, IsSegmentation template parts ↔
        parts = (segments template).map Segment.part) ∧
      markerCount (segments template) =
        (List.range template.length).countP (beginsMarker template) ∧
      search template 0 0 = segments template := by
  refine ⟨fun parts => ⟨eq_segments_of_isSegmentation, ?_⟩, ?_,
    search_eq_segments template⟩
  · intro same
    rw [same]
    exact isSegmentation_segments template
  · rw [markerCount_segments, markerPositions_eq_countP]

end BoundQuery.Template
