import BoundQuery.Proofs.Acceptance
import BoundQuery.Proofs.QuotedReading
import BoundQuery.Proofs.WrittenNumbers

/-!
# Identifiers read back as their names

The name that an identifier stands for is the written form of a scalar. A name is taken
when it is nonempty and has code points of the basic plane only, without the null
character and the surrogates. Its identifier has every backtick of the name twice, so a
run of backticks inside of it is never taken for its end, whatever the length of the run.

The main statement says which scalars have an identifier, and that every identifier reads
back as the name that it was made from, up to its end and no further. Two scalars with one
identifier therefore have one name.
-/

namespace BoundQuery

/-! ## Identifiers of names -/

section Names

variable {content : Scalar} {name form : Text}

/-- The identifier of a scalar depends on its written form alone. -/
theorem identifierForm_of_written (written : content.written = .ok name) :
    (Value.scalar content).identifierForm = (Value.text name).identifierForm := by
  have itself : (Scalar.text name).written = .ok name := rfl
  simp only [Value.text, Value.identifierForm, Value.scalarFor, bind, Except.bind, written,
    itself]

theorem identifierForm_of_unwritten {fault : Fault} (unwritten : content.written = .error fault) :
    (Value.scalar content).identifierForm = .error fault := by
  simp only [Value.identifierForm, Value.scalarFor, bind, Except.bind, unwritten]

theorem exists_quoteIdentifier_of_identifierForm
    (formed : (Value.scalar content).identifierForm = .ok form) :
    ∃ name, content.written = .ok name ∧ form = quoteIdentifier name := by
  cases writing : content.written with
  | error fault =>
      rw [identifierForm_of_unwritten writing] at formed
      cases formed
  | ok name =>
      rw [identifierForm_of_written writing] at formed
      exact ⟨name, rfl, eq_quoteIdentifier_of_identifierForm formed⟩

/-- A scalar is a name when its written form is one. -/
theorem isName_scalar_iff :
    (Value.scalar content).IsName ↔
      ∃ name, content.written = .ok name ∧ name ≠ [] ∧
        ∀ point ∈ name, IsNamePoint point := by
  constructor
  · rintro ⟨other, name, same, named⟩
    cases same
    exact ⟨name, named⟩
  · rintro ⟨name, named⟩
    exact ⟨content, name, rfl, named⟩

end Names

/-- No two names have one identifier. -/
theorem quoteIdentifier_injective : Function.Injective quoteIdentifier := by
  intro name other same
  have ends : ([] : Text).head? ≠ some backtick := fun found => by cases found
  have reads := read_quoteIdentifier name ends
  rw [same, read_quoteIdentifier other ends] at reads
  exact (congrArg Prod.fst (Option.some.inj reads)).symm

/-! ## Reading identifiers -/

/-- A scalar has an identifier exactly when its written form is nonempty and has valid
code points only; all others are refused, and among them the numbers that are not finite.
Reading an identifier gives the written form of its scalar and stops at the end of the
identifier, unless another backtick follows it. Scalars with one identifier are written in
one way. -/
theorem identifier_reads_back (content : Scalar) :
    ((∃ form, (Value.scalar content).identifierForm = .ok form) ↔
        ∃ name, content.written = .ok name ∧ name ≠ [] ∧
          ∀ point ∈ name, IsNamePoint point) ∧
      (∀ fault, (Value.scalar content).identifierForm = .error fault →
        ∃ issue, fault = .binding issue) ∧
      (content.finite? = some false →
        (Value.scalar content).identifierForm = .error (.binding (.notFinite content))) ∧
      (∀ form, (Value.scalar content).identifierForm = .ok form →
        ∃ name, content.written = .ok name ∧
          ∀ rest, rest.head? ≠ some backtick →
            identifierRule.read (form ++ rest) = some (name, rest)) ∧
      ∀ other form, (Value.scalar content).identifierForm = .ok form →
        (Value.scalar other).identifierForm = .ok form →
          content.written = other.written := by
  have given := givenIff_identifierForm (.scalar content)
  refine ⟨given.given_iff.trans isName_scalar_iff, given.refused, ?_, ?_, ?_⟩
  · intro infinite
    exact identifierForm_of_unwritten (Scalar.written_of_not_finite infinite)
  · intro form formed
    obtain ⟨name, written, rfl⟩ := exists_quoteIdentifier_of_identifierForm formed
    exact ⟨name, written, fun rest alone => read_quoteIdentifier name alone⟩
  · intro other form formed otherFormed
    obtain ⟨name, written, rfl⟩ := exists_quoteIdentifier_of_identifierForm formed
    obtain ⟨otherName, otherWritten, same⟩ :=
      exists_quoteIdentifier_of_identifierForm otherFormed
    rw [written, otherWritten, quoteIdentifier_injective same]

/-- Backticks at both ends of a name and a run of them inside do not end its identifier,
and the truth value that is written as nothing has none. -/
theorem identifier_reads_back_backticks :
    identifierRule.read (Text.ofString "```a````b```" ++ Text.ofString "='1'") =
        some (Text.ofString "`a``b`", Text.ofString "='1'") ∧
      ¬ ∃ form, (Value.scalar (.flag false)).identifierForm = .ok form := by
  obtain ⟨_, _, _, reads, _⟩ := identifier_reads_back (.text (Text.ofString "`a``b`"))
  obtain ⟨name, written, ends⟩ := reads (Text.ofString "```a````b```") rfl
  cases written
  refine ⟨ends (Text.ofString "='1'") (by decide), ?_⟩
  intro formed
  obtain ⟨name, written, nonempty, _⟩ := (identifier_reads_back (.flag false)).1.mp formed
  exact nonempty (Except.ok.inj written).symm

end BoundQuery
