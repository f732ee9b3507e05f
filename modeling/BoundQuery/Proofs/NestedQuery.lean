import BoundQuery.Proofs.Acceptance
import BoundQuery.Proofs.Segmentation

/-!
# Queries inside of queries

A query that is bound already can be handed to a part placeholder of another template.
It then stands in the outer query as it is, whatever markers it may spell.

Two templates put one after the other are segmented as each of them is by itself, unless
a marker lies across the place where they meet. The main statement says that handing over
a bound query is the same as writing its template in place of the part placeholder, and
its parameters in place of the query.
-/

namespace BoundQuery

/-! ## Templates put one after the other -/

namespace Template

/-- Segments with one more segment in front. Literal text joins literal text. -/
def consSegment : Segment → List Segment → List Segment
  | .literal text, .literal content :: rest => .literal (text ++ content) :: rest
  | segment, rest => segment :: rest

/-- The segments of two templates put one after the other. -/
def joined (left right : List Segment) : List Segment :=
  left.foldr consSegment right

theorem consSegment_marker (placeholder : Placeholder) (rest : List Segment) :
    consSegment (.marker placeholder) rest = .marker placeholder :: rest := by
  cases rest <;> rfl

theorem consLiteral_eq_consSegment (point : CodePoint) (segments : List Segment) :
    consLiteral point segments = consSegment (.literal [point]) segments := by
  match segments with
  | [] => rfl
  | .literal _ :: _ => rfl
  | .marker _ :: _ => rfl

theorem consLiteral_consSegment
    (point : CodePoint) (text : Text) (segments : List Segment) :
    consLiteral point (consSegment (.literal text) segments) =
      consSegment (.literal (point :: text)) segments := by
  match segments with
  | [] => rfl
  | .literal _ :: _ => rfl
  | .marker _ :: _ => rfl

theorem consLiteral_joined (point : CodePoint) (left right : List Segment) :
    consLiteral point (joined left right) = joined (consLiteral point left) right := by
  match left with
  | [] => exact consLiteral_eq_consSegment point right
  | .literal text :: rest => exact consLiteral_consSegment point text (joined rest right)
  | .marker placeholder :: rest =>
      exact consLiteral_eq_consSegment point (joined (.marker placeholder :: rest) right)

theorem placeholders_consSegment (segment : Segment) (rest : List Segment) :
    placeholders (consSegment segment rest) = placeholders (segment :: rest) := by
  match segment, rest with
  | .marker _, rest => rw [consSegment_marker]
  | .literal _, [] => rfl
  | .literal _, .literal _ :: _ => rfl
  | .literal _, .marker _ :: _ => rfl

theorem placeholders_joined (left right : List Segment) :
    placeholders (joined left right) = placeholders left ++ placeholders right := by
  induction left with
  | nil => rfl
  | cons segment rest inductionHypothesis =>
      have head : placeholders (joined (segment :: rest) right) =
          placeholders (segment :: joined rest right) :=
        placeholders_consSegment segment (joined rest right)
      rw [head]
      cases segment with
      | literal text => exact inductionHypothesis
      | marker placeholder => exact congrArg (placeholder :: ·) inductionHypothesis

theorem length_placeholders (segments : List Segment) :
    (placeholders segments).length = markerCount segments := by
  induction segments with
  | nil => rfl
  | cons segment rest inductionHypothesis =>
      cases segment with
      | literal text => exact inductionHypothesis
      | marker placeholder =>
          rw [markerCount, List.countP_cons_of_pos rfl]
          exact congrArg Nat.succ inductionHypothesis

theorem weave_consSegment_literal
    (text : Text) (segments : List Segment) (forms : List Text) :
    weave (consSegment (.literal text) segments) forms = text ++ weave segments forms := by
  match segments with
  | [] => rfl
  | .literal content :: rest => exact List.append_assoc text content (weave rest forms)
  | .marker _ :: _ => rfl

/-- The forms of the markers on the left come first. -/
theorem weave_joined
    {left : List Segment} (right : List Segment) {forms : List Text} (others : List Text)
    (count : markerCount left = forms.length) :
    weave (joined left right) (forms ++ others) = weave left forms ++ weave right others := by
  induction left generalizing forms with
  | nil =>
      have none : forms = [] := List.eq_nil_of_length_eq_zero count.symm
      rw [none]
      rfl
  | cons segment rest inductionHypothesis =>
      cases segment with
      | literal text =>
          have following : weave (joined rest right) (forms ++ others) =
              weave rest forms ++ weave right others := inductionHypothesis count
          have joins := weave_consSegment_literal text (joined rest right) (forms ++ others)
          rw [following] at joins
          exact joins.trans (List.append_assoc _ _ _).symm
      | marker placeholder =>
          obtain ⟨form, following, rfl, restCount⟩ := exists_cons_of_marker count
          have joins : joined (.marker placeholder :: rest) right =
              .marker placeholder :: joined rest right :=
            consSegment_marker placeholder (joined rest right)
          have woven := congrArg (form ++ ·) (inductionHypothesis restCount)
          rw [joins]
          exact woven.trans (List.append_assoc _ _ _).symm

/-! ## Markers across a join -/

/-- A marker of a template begins before a place and ends after it. -/
def Straddled (template : Text) (place : Nat) : Prop :=
  ∃ position, beginsMarker template position = true ∧ position < place ∧
    place < position + 2

/-- At most the marker that begins one code point earlier lies across a place. -/
theorem straddled_iff (template : Text) (place : Nat) :
    Straddled template place ↔
      place ≠ 0 ∧ beginsMarker template (place - 1) = true := by
  constructor
  · rintro ⟨position, begins, before, after⟩
    have same : place - 1 = position := by omega
    exact ⟨by omega, same ▸ begins⟩
  · rintro ⟨positive, begins⟩
    exact ⟨place - 1, begins, by omega, by omega⟩

instance (template : Text) (place : Nat) : Decidable (Straddled template place) :=
  decidable_of_iff _ (straddled_iff template place).symm

theorem straddled_cons
    (first : CodePoint) {rest : Text} {place : Nat} (straddled : Straddled rest place) :
    Straddled (first :: rest) (place + 1) := by
  obtain ⟨position, begins, before, after⟩ := straddled
  exact ⟨position + 1, (beginsMarker_succ first rest position).trans begins,
    by omega, by omega⟩

theorem beginsMarker_append
    {left : Text} {position : Nat} (begins : beginsMarker left position = true)
    (right : Text) : beginsMarker (left ++ right) position = true := by
  have stays : ∀ (place : Nat) (point : CodePoint), left[place]? = some point →
      (left ++ right)[place]? = some point := by
    intro place point found
    have bound := (List.getElem?_eq_some_iff.mp found).1
    rw [List.getElem?_append_left bound, found]
  simp only [beginsMarker, Bool.and_eq_true, beq_iff_eq, List.any_eq_true] at begins ⊢
  obtain ⟨mark, letter, member, follows⟩ := begins
  exact ⟨stays position _ mark, letter, member, stays (position + 1) _ follows⟩

theorem straddled_append
    {left : Text} {place : Nat} (straddled : Straddled left place) (right : Text) :
    Straddled (left ++ right) place := by
  obtain ⟨position, begins, bounds⟩ := straddled
  exact ⟨position, beginsMarker_append begins right, bounds⟩

/-- A marker that lies across a place has its letter there. -/
theorem letter_of_straddled
    {template : Text} {place : Nat} (straddled : Straddled template place) :
    ∃ placeholder : Placeholder, template[place]? = some placeholder.letter ∧
      ∃ position, place = position + 1 ∧
        template[position]? = some Placeholder.questionMark := by
  obtain ⟨position, begins, before, after⟩ := straddled
  have same : place = position + 1 := by omega
  simp only [beginsMarker, Bool.and_eq_true, beq_iff_eq, List.any_eq_true] at begins
  obtain ⟨mark, letter, member, follows⟩ := begins
  have listed : letter ∈ Placeholder.all.map Placeholder.letter := member
  obtain ⟨placeholder, _, rfl⟩ := List.mem_map.mp listed
  exact ⟨placeholder, by rw [same]; exact follows, position, same, mark⟩

/-- No marker lies across the place where another marker begins. -/
theorem not_straddled_before_marker
    (before after : Text) (placeholder : Placeholder) :
    ¬ Straddled (before ++ (placeholder.marker ++ after)) before.length := by
  intro straddled
  obtain ⟨other, letter, _⟩ := letter_of_straddled straddled
  rw [List.getElem?_append_right (Nat.le_refl _), Nat.sub_self] at letter
  exact Placeholder.letter_ne_questionMark other (Option.some.inj letter).symm

/-- No marker lies across the place where another marker ends. -/
theorem not_straddled_after_marker (placeholder : Placeholder) (after : Text) :
    ¬ Straddled (placeholder.marker ++ after) placeholder.marker.length := by
  intro straddled
  obtain ⟨_, _, position, same, mark⟩ := letter_of_straddled straddled
  have second : position = 1 := (Nat.succ.inj same).symm
  rw [second] at mark
  exact Placeholder.letter_ne_questionMark placeholder (Option.some.inj mark)

/-- Templates are segmented one by one when no marker lies across their join. -/
theorem segments_append
    {left right : Text} (apart : ¬ Straddled (left ++ right) left.length) :
    segments (left ++ right) = joined (segments left) (segments right) := by
  fun_induction segments left with
  | case1 => rfl
  | case2 only =>
      cases right with
      | nil => rfl
      | cons head tail =>
          have missing : Placeholder.ofMarker? only head = none := by
            rw [← Option.not_isSome_iff_eq_none, ← beginsMarker_zero only head tail]
            intro begins
            exact apart ⟨0, begins, Nat.zero_lt_one, Nat.one_lt_two⟩
          have segmented : segments (only :: head :: tail) =
              consLiteral only (segments (head :: tail)) := by
            rw [segments, missing]
          exact segmented.trans (consLiteral_eq_consSegment only (segments (head :: tail)))
  | case3 first second rest placeholder found inductionHypothesis =>
      have following := inductionHypothesis fun straddled =>
        apart (straddled_cons first (straddled_cons second straddled))
      have segmented : segments (first :: second :: (rest ++ right)) =
          .marker placeholder :: segments (rest ++ right) := by
        rw [segments, found]
      rw [following] at segmented
      exact segmented.trans
        (consSegment_marker placeholder (joined (segments rest) (segments right))).symm
  | case4 first second rest missing inductionHypothesis =>
      have following := inductionHypothesis fun straddled =>
        apart (straddled_cons first straddled)
      have segmented : segments (first :: second :: (rest ++ right)) =
          consLiteral first (segments (second :: (rest ++ right))) := by
        rw [segments, missing]
      rw [List.cons_append] at following
      rw [following] at segmented
      exact segmented.trans (consLiteral_joined first (segments (second :: rest)) _)

theorem markerCount_append
    {left right : Text} (apart : ¬ Straddled (left ++ right) left.length) :
    markerCount (segments (left ++ right)) =
      markerCount (segments left) + markerCount (segments right) := by
  rw [segments_append apart, ← length_placeholders, placeholders_joined,
    List.length_append, length_placeholders, length_placeholders]

end Template

/-! ## Bound queries -/

/-- A value that gives the same items each time it is iterated. -/
def Value.IsReiterable (value : Value) : Prop :=
  value.stream? = none

theorem unshared_of_reiterable
    {parameters : List Value} (reiterable : ∀ value ∈ parameters, value.IsReiterable) :
    Unshared parameters := by
  have noStream : parameters.filterMap Value.stream? = [] :=
    List.filterMap_eq_nil_iff.mpr reiterable
  rw [Unshared, noStream]
  exact List.nodup_nil

namespace Statement

/-- Templates put one after the other make the queries that they make by themselves, one
after the other. -/
theorem bind_append
    (escaper : Escaper) (streams : Streams) {left right : Text}
    {parameters others : List Value}
    (apart : ¬ Template.Straddled (left ++ right) left.length)
    (count : Template.markerCount (Template.segments left) = parameters.length)
    (otherCount : Template.markerCount (Template.segments right) = others.length)
    (reiterable : ∀ value ∈ parameters ++ others, value.IsReiterable) :
    bind escaper ⟨Value.text (left ++ right), parameters ++ others, streams⟩ =
      (do
        let first ← bind escaper ⟨Value.text left, parameters, streams⟩
        let second ← bind escaper ⟨Value.text right, others, streams⟩
        return first ++ second) := by
  have counts : Template.markerCount (Template.segments (left ++ right)) =
      (parameters ++ others).length := by
    rw [Template.markerCount_append apart, count, otherCount, List.length_append]
  have lengths : (Template.placeholders (Template.segments left)).length =
      parameters.length := by
    rw [Template.length_placeholders, count]
  have unshared := unshared_of_reiterable fun value member =>
    reiterable value (List.mem_append_left others member)
  have othersUnshared := unshared_of_reiterable fun value member =>
    reiterable value (List.mem_append_right parameters member)
  rw [bind_of_count escaper _ _ streams counts (unshared_of_reiterable reiterable),
    bind_of_count escaper left parameters streams count unshared,
    bind_of_count escaper right others streams otherCount othersUnshared,
    Template.segments_append apart, Template.placeholders_joined,
    List.zip_append lengths, List.mapM_append]
  cases forming : ((Template.placeholders (Template.segments left)).zip
      parameters).mapM (formOf escaper streams) with
  | error fault => rfl
  | ok forms =>
      cases ((Template.placeholders (Template.segments right)).zip
          others).mapM (formOf escaper streams) with
      | error fault => rfl
      | ok otherForms =>
          have formCount : Template.markerCount (Template.segments left) = forms.length := by
            rw [← (mapM_eq_ok_iff_forall₂.mp forming).length_eq, List.length_zip, lengths,
              Nat.min_self, count]
          exact congrArg Except.ok
            (Template.weave_joined (Template.segments right) otherForms formCount)

theorem bind_part (escaper : Escaper) (streams : Streams) (query : Text) :
    bind escaper ⟨Value.text Placeholder.part.marker, [Value.text query], streams⟩ =
      .ok query := by
  have formed : bind escaper
      ⟨Value.text Placeholder.part.marker, [Value.text query], streams⟩ =
        .ok (query ++ []) :=
    rfl
  rw [formed, List.append_nil]

/-- A template with a part placeholder in it makes a query in which the part stands as it
is. -/
theorem bind_around_part
    (escaper : Escaper) (streams : Streams) (before after query : Text)
    {firsts lasts : List Value}
    (countBefore : Template.markerCount (Template.segments before) = firsts.length)
    (countAfter : Template.markerCount (Template.segments after) = lasts.length)
    (reiterable : ∀ value ∈ firsts ++ lasts, value.IsReiterable) :
    bind escaper
        ⟨Value.text (before ++ (Placeholder.part.marker ++ after)),
          firsts ++ ([Value.text query] ++ lasts), streams⟩ =
      (do
        let opening ← bind escaper ⟨Value.text before, firsts, streams⟩
        let closing ← bind escaper ⟨Value.text after, lasts, streams⟩
        return opening ++ (query ++ closing)) := by
  have partReiterable : ∀ value ∈ [Value.text query] ++ lasts, value.IsReiterable := by
    intro value member
    rcases List.mem_cons.mp member with rfl | member
    · rfl
    · exact reiterable value (List.mem_append_right firsts member)
  have allReiterable :
      ∀ value ∈ firsts ++ ([Value.text query] ++ lasts), value.IsReiterable := by
    intro value member
    rcases List.mem_append.mp member with member | member
    · exact reiterable value (List.mem_append_left lasts member)
    · exact partReiterable value member
  have partApart := Template.not_straddled_after_marker .part after
  have partCount : Template.markerCount (Template.segments
      (Placeholder.part.marker ++ after)) = ([Value.text query] ++ lasts).length := by
    rw [Template.markerCount_append partApart, countAfter, List.length_append]
    rfl
  rw [bind_append escaper streams (Template.not_straddled_before_marker before after .part)
      countBefore partCount allReiterable,
    bind_append escaper streams partApart rfl countAfter partReiterable, bind_part]
  simp only [bind_assoc, pure_bind]
  rfl

/-- A bound query handed to a part placeholder gives the same query, or the same fault, as
its template written in place of the placeholder with its parameters in place of the
query. It is not read again: it stands as it is between what comes before and after. -/
theorem bind_nested_eq_bind_inlined
    (escaper : Escaper) (streams : Streams) (before inner after : Text) {query : Text}
    {firsts inners lasts : List Value}
    (apartBefore : ¬ Template.Straddled (before ++ inner ++ after) before.length)
    (apartAfter : ¬ Template.Straddled (before ++ inner ++ after) (before ++ inner).length)
    (countBefore : Template.markerCount (Template.segments before) = firsts.length)
    (countInner : Template.markerCount (Template.segments inner) = inners.length)
    (countAfter : Template.markerCount (Template.segments after) = lasts.length)
    (reiterable : ∀ value ∈ firsts ++ inners ++ lasts, value.IsReiterable)
    (bound : bind escaper ⟨Value.text inner, inners, streams⟩ = .ok query) :
    bind escaper
        ⟨Value.text (before ++ Placeholder.part.marker ++ after),
          firsts ++ [Value.text query] ++ lasts, streams⟩ =
      bind escaper
        ⟨Value.text (before ++ inner ++ after), firsts ++ inners ++ lasts, streams⟩ ∧
    ∀ opening closing,
      bind escaper ⟨Value.text before, firsts, streams⟩ = .ok opening →
      bind escaper ⟨Value.text after, lasts, streams⟩ = .ok closing →
        bind escaper
          ⟨Value.text (before ++ Placeholder.part.marker ++ after),
            firsts ++ [Value.text query] ++ lasts, streams⟩ =
          .ok (opening ++ query ++ closing) := by
  have innerApart : ¬ Template.Straddled (before ++ inner) before.length :=
    fun straddled => apartBefore (Template.straddled_append straddled after)
  have innersReiterable : ∀ value ∈ firsts ++ inners, value.IsReiterable :=
    fun value member => reiterable value (List.mem_append_left lasts member)
  have aroundReiterable : ∀ value ∈ firsts ++ lasts, value.IsReiterable := by
    intro value member
    rcases List.mem_append.mp member with member | member
    · exact innersReiterable value (List.mem_append_left inners member)
    · exact reiterable value (List.mem_append_right (firsts ++ inners) member)
  have headCount : Template.markerCount (Template.segments (before ++ inner)) =
      (firsts ++ inners).length := by
    rw [Template.markerCount_append innerApart, countBefore, countInner, List.length_append]
  have inlined : bind escaper
      ⟨Value.text (before ++ inner ++ after), firsts ++ inners ++ lasts, streams⟩ = (do
        let opening ← bind escaper ⟨Value.text before, firsts, streams⟩
        let closing ← bind escaper ⟨Value.text after, lasts, streams⟩
        return opening ++ (query ++ closing)) := by
    rw [bind_append escaper streams apartAfter headCount countAfter reiterable,
      bind_append escaper streams innerApart countBefore countInner innersReiterable, bound]
    simp only [bind_assoc, pure_bind, ← List.append_assoc]
    rfl
  have nested := bind_around_part escaper streams before after query countBefore countAfter
    aroundReiterable
  rw [← List.append_assoc, ← List.append_assoc firsts] at nested
  refine ⟨nested.trans inlined.symm, ?_⟩
  intro opening closing opens closes
  rw [nested, opens, closes, List.append_assoc]
  rfl

/-- A question mark may stand in front of the part, and the query may spell a marker. -/
theorem bind_nested_eq_bind_inlined_marker :
    bind QuoteMode.backslash.escaper
        ⟨Value.text (Text.ofString "SELECT ?n FROM t WHERE a ?" ++ Placeholder.part.marker ++
            Text.ofString " LIMIT ?i"),
          [Value.text (Text.ofString "a")] ++ [Value.text (Text.ofString "= 'b?s'")] ++
            [Value.integer 3], []⟩ =
      .ok (Text.ofString "SELECT `a` FROM t WHERE a ?= 'b?s' LIMIT 3") := by
  have apart : ∀ place ∈ [26, 30],
      ¬ Template.Straddled (Text.ofString "SELECT ?n FROM t WHERE a ?= ?s LIMIT ?i") place := by
    decide
  have reiterable : ∀ value ∈ [Value.text (Text.ofString "a")] ++
      [Value.text (Text.ofString "b?s")] ++ [Value.integer 3], value.IsReiterable := by
    intro value member
    simp only [List.cons_append, List.nil_append, List.mem_cons, List.not_mem_nil,
      or_false] at member
    rcases member with rfl | rfl | rfl <;> rfl
  have nested := bind_nested_eq_bind_inlined QuoteMode.backslash.escaper []
    (Text.ofString "SELECT ?n FROM t WHERE a ?") (Text.ofString "= ?s")
    (Text.ofString " LIMIT ?i") (apart 26 (by decide)) (apart 30 (by decide)) rfl rfl rfl
    reiterable rfl
  exact nested.1.trans rfl

end Statement

end BoundQuery
