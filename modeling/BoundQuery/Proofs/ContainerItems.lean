import BoundQuery.Proofs.RuleCourse

/-!
# Containers with the same items

An array is written from the items of its container and a mapping from its entries, and
nothing else about the container matters: not its kind, not whether its items can be
enumerated a second time, and for an array not even its keys. A container without keys of
its own has the positions of its items for keys.

The main statement says that containers with the same items are interchangeable in arrays,
and containers with the same entries in mappings: they have the same form or the same
fault, and hand the same texts to the escaper.
-/

namespace BoundQuery

/-! ## Ranges -/

/-- A number has not reached a stop that is approached in steps. -/
def IsShortOf (stop step number : Int) : Prop :=
  0 < step ∧ number < stop ∨ step < 0 ∧ stop < number

instance (stop step number : Int) : Decidable (IsShortOf stop step number) :=
  inferInstanceAs (Decidable (_ ∨ _))

theorem lt_stepCount_iff (start stop step : Int) (position : Nat) :
    position < stepCount start stop step ↔
      IsShortOf stop step (start + step * position) := by
  unfold stepCount IsShortOf
  rcases Int.lt_trichotomy step 0 with down | still | up
  · have steps := Int.le_ediv_iff_mul_le (a := position + 1) (b := start - stop - step - 1)
      (Int.neg_pos.mpr down)
    rw [Int.add_mul, Int.mul_neg, Int.mul_comm] at steps
    rw [if_neg (by omega), if_pos down]
    omega
  · rw [if_neg (by omega), if_neg (by omega)]
    omega
  · have steps := Int.le_ediv_iff_mul_le (a := position + 1) (b := stop - start + step - 1) up
    rw [Int.add_mul, Int.mul_comm] at steps
    rw [if_pos up]
    omega

/-- The items of a range are the numbers from its start that are short of its stop. -/
theorem getElem?_rangeItems (start stop step : Int) (position : Nat) :
    (rangeItems start stop step)[position]? =
      if IsShortOf stop step (start + step * position) then
        some (Value.integer (start + step * position))
      else none := by
  rw [rangeItems, List.getElem?_map]
  by_cases within : position < stepCount start stop step
  · rw [if_pos ((lt_stepCount_iff start stop step position).mp within),
      List.getElem?_range within]
    rfl
  · rw [if_neg fun short => within ((lt_stepCount_iff start stop step position).mpr short),
      List.getElem?_eq_none (by simpa using within)]
    rfl

/-! ## Containers and their items -/

/-- A container other than a mapping gives some items in order when it is iterated. A
stream gives what is left of it, none of which is a failure. -/
inductive Yields (streams : Streams) : Value → List Value → Prop
  | sequence (form : SequenceForm) (items : List Value) :
      Yields streams (.sequence form items) items
  | range (start stop step : Int) (items : List Value) :
      (∀ position : Nat, items[position]? =
        if IsShortOf stop step (start + step * position) then
          some (.integer (start + step * position))
        else none) →
        Yields streams (.range start stop step) items
  | view (content : List UInt8) :
      Yields streams (.bytes .view content)
        (content.map fun byte => Value.integer byte.toNat)
  | stream (number : Nat) (items : List Value) :
      streams.getD number [] = items.map StreamStep.item →
        Yields streams (.stream number) items

/-- Items under their positions, counted from zero. -/
def positionedEntries (items : List Value) : List Entry :=
  items.mapIdx fun (position : Nat) item => (Value.integer position, item)

theorem numberedEntries_eq_positionedEntries (items : List Value) :
    numberedEntries items = positionedEntries items := by
  apply List.ext_getElem
  · simp [positionedEntries]
  · intro position inside within
    simp [numberedEntries, positionedEntries]

section Entries

variable {streams other : Streams} {value otherValue : Value}
variable {entries otherEntries : List Entry} {items : List Value}

theorem enumerates_of_yields (yields : Yields streams value items) :
    Enumerates streams value (positionedEntries items) := by
  rw [← numberedEntries_eq_positionedEntries]
  cases yields with
  | sequence form items => exact .sequence form items
  | range start stop step items counted =>
      have listed : items = rangeItems start stop step := by
        apply List.ext_getElem?
        intro position
        rw [counted position, getElem?_rangeItems]
      rw [listed]
      exact .range start stop step
  | view content => exact .view content
  | stream number items given => exact .stream number items given

theorem items_positionedEntries (items : List Value) :
    (positionedEntries items).map Prod.snd = items := by
  rw [← numberedEntries_eq_positionedEntries, map_snd_numberedEntries]

theorem someEntriesForm_of_enumerates
    (placeholder : Placeholder) (enumerated : Enumerates streams value entries) :
    value.someEntriesForm (value.steps streams) placeholder =
      if entries = [] then .error (.binding (.emptyContainer placeholder))
      else .ok entries := by
  have entered := entriesForm_of_enumerates placeholder enumerated
  cases entries with
  | nil => exact someEntriesForm_of_nil entered
  | cons first rest => exact someEntriesForm_of_cons entered

/-! ## Literals of items -/

/-- The literals of entries depend on their items alone. -/
theorem mapM_itemForm (escaper : Escaper) (entries : List Entry) :
    entries.mapM (itemForm escaper) =
      (entries.map Prod.snd).mapM (Value.literalForm escaper) :=
  List.mapM_map.symm

/-- The texts that the literals of entries hand over depend on their items alone. -/
theorem handedInTurn_of_items
    (escaper : Escaper) (same : entries.map Prod.snd = otherEntries.map Prod.snd) :
    handedInTurn (itemForm escaper) (fun entry => entry.2.handed) entries =
      handedInTurn (itemForm escaper) (fun entry => entry.2.handed) otherEntries := by
  induction entries generalizing otherEntries with
  | nil => rw [List.map_eq_nil_iff.mp same.symm]
  | cons entry rest inductionHypothesis =>
      cases otherEntries with
      | nil => cases same
      | cons otherEntry otherRest =>
          obtain ⟨sameItem, sameRest⟩ := List.cons.inj same
          rw [handedInTurn, handedInTurn, inductionHypothesis sameRest, itemForm, itemForm,
            sameItem]

/-! ## What is seen of a container -/

namespace Binding

/-- What a caller sees of a parameter that is bound: its form or its fault, and the texts
handed to the escaper until then. -/
def observe
    (escaper : Escaper) (placeholder : Placeholder) (value : Value) (state : BindingState) :
    Except Fault Text × List Text :=
  let bound := outcome (parameter escaper placeholder value) state
  (bound.1, bound.2.escaped)

theorem observe_eq
    (escaper : Escaper) (placeholder : Placeholder) (value : Value) (state : BindingState) :
    observe escaper placeholder value state =
      (value.form escaper (value.steps state.streams) placeholder,
        state.escaped ++ value.formHanded escaper (value.steps state.streams) placeholder) := by
  obtain ⟨formed, handedOver⟩ := escaped_of_parameter
    (show outcome (parameter escaper placeholder value) state = (_, _) from rfl)
  rw [formed, ← handedOver]
  rfl

/-- Containers with the same entries look the same in a mapping. -/
theorem observe_mapping_eq
    (escaper : Escaper) (escaped : List Text)
    (enumerated : Enumerates streams value entries)
    (otherwise : Enumerates other otherValue entries) :
    observe escaper .mapping value ⟨streams, escaped⟩ =
      observe escaper .mapping otherValue ⟨other, escaped⟩ := by
  simp only [observe_eq, Value.form, Value.formHanded,
    someEntriesForm_of_enumerates .mapping enumerated,
    someEntriesForm_of_enumerates .mapping otherwise]

/-- Containers with the same items look the same in an array, whatever their keys. -/
theorem observe_array_eq
    (escaper : Escaper) (escaped : List Text)
    (enumerated : Enumerates streams value entries)
    (otherwise : Enumerates other otherValue otherEntries)
    (same : entries.map Prod.snd = otherEntries.map Prod.snd) :
    observe escaper .array value ⟨streams, escaped⟩ =
      observe escaper .array otherValue ⟨other, escaped⟩ := by
  have bothEmpty : entries = [] ↔ otherEntries = [] := by
    rw [← List.map_eq_nil_iff, same, List.map_eq_nil_iff]
  simp only [observe_eq, Value.form, Value.formHanded,
    someEntriesForm_of_enumerates .array enumerated,
    someEntriesForm_of_enumerates .array otherwise, bothEmpty]
  by_cases empty : otherEntries = []
  · rw [if_pos empty, if_pos empty]
  · rw [if_neg empty, if_neg empty]
    simp only [bind, Except.bind, mapM_itemForm, same, handedInTurn_of_items escaper same]

end Binding

end Entries

/-! ## Interchangeable containers -/

/-- In an array, every container that yields some items looks like the list of them, and
so does every mapping that holds them, whatever its keys. In a mapping, every container
other than a mapping looks like the dictionary of its items under their positions, and a
mapping that is read only looks like the dictionary with the same entries. -/
theorem containers_interchangeable
    (escaper : Escaper) (items : List Value) (streams other : Streams)
    (escaped : List Text) :
    (∀ value, Yields streams value items →
        Binding.observe escaper .array value ⟨streams, escaped⟩ =
          Binding.observe escaper .array (.sequence .list items) ⟨other, escaped⟩) ∧
      (∀ form entries, entries.map Prod.snd = items →
        Binding.observe escaper .array (.mapping form entries) ⟨streams, escaped⟩ =
          Binding.observe escaper .array (.sequence .list items) ⟨other, escaped⟩) ∧
      (∀ value, Yields streams value items →
        Binding.observe escaper .mapping value ⟨streams, escaped⟩ =
          Binding.observe escaper .mapping (.mapping .dictionary (positionedEntries items))
            ⟨other, escaped⟩) ∧
      ∀ entries,
        Binding.observe escaper .mapping (.mapping .readOnly entries) ⟨streams, escaped⟩ =
          Binding.observe escaper .mapping (.mapping .dictionary entries)
            ⟨other, escaped⟩ := by
  have list : Enumerates other (.sequence .list items) (positionedEntries items) :=
    enumerates_of_yields (.sequence .list items)
  refine ⟨?_, ?_, ?_, ?_⟩
  · intro value yields
    exact Binding.observe_array_eq escaper escaped (enumerates_of_yields yields) list rfl
  · rintro form entries rfl
    exact Binding.observe_array_eq escaper escaped (.mapping form entries) list
      (items_positionedEntries _).symm
  · intro value yields
    exact Binding.observe_mapping_eq escaper escaped (enumerates_of_yields yields)
      (.mapping .dictionary _)
  · intro entries
    exact Binding.observe_mapping_eq escaper escaped (.mapping .readOnly entries)
      (.mapping .dictionary entries)

/-- A stream, a range and a view of bytes that give one and two are written as the list of
these numbers is, and a quoted key of a dictionary leaves no trace in an array. -/
theorem containers_interchangeable_numbers :
    (∀ value ∈ [Value.stream 0, .range 1 3 1, .bytes .view [1, 2],
        .mapping .readOnly [(.text (Text.ofString "it's"), .integer 1),
          (.null, .integer 2)]],
      Binding.observe QuoteMode.doubled.escaper .array value
          ⟨[[.item (.integer 1), .item (.integer 2)]], []⟩ =
        (.ok (Text.ofString "'1', '2'"), [Text.ofString "1", Text.ofString "2"])) ∧
      ∀ value ∈ [Value.stream 0, .range 1 3 1, .bytes .view [1, 2]],
        Binding.observe QuoteMode.doubled.escaper .mapping value
            ⟨[[.item (.integer 1), .item (.integer 2)]], []⟩ =
          (.ok (Text.ofString "`0`='1', `1`='2'"),
            [Text.ofString "1", Text.ofString "2"]) := by
  have yields : ∀ value ∈ [Value.stream 0, .range 1 3 1, .bytes .view [1, 2]],
      Yields [[.item (.integer 1), .item (.integer 2)]] value [.integer 1, .integer 2] := by
    intro value member
    simp only [List.mem_cons, List.not_mem_nil, or_false] at member
    rcases member with rfl | rfl | rfl
    · exact .stream 0 _ rfl
    · exact .range 1 3 1 _ (getElem?_rangeItems 1 3 1)
    · exact .view [1, 2]
  obtain ⟨arrays, mappings, positions, _⟩ :=
    containers_interchangeable QuoteMode.doubled.escaper [.integer 1, .integer 2]
      [[.item (.integer 1), .item (.integer 2)]] [] []
  constructor
  · intro value member
    simp only [List.mem_cons, List.not_mem_nil, or_false] at member
    rcases member with rfl | rfl | rfl | rfl
    · exact arrays _ (yields _ (by simp))
    · exact arrays _ (yields _ (by simp))
    · exact arrays _ (yields _ (by simp))
    · exact mappings .readOnly _ rfl
  · intro value member
    exact positions value (yields value member)

end BoundQuery
