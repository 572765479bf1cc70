import MachineInt.Contract.Assessment
import MachineInt.Proofs.Schema.Acceptance

/-!
# Obeying a contract

A datum obeys a written contract if assessing it finds nothing. For a contract that writes a schema this is what the
schema demands, so contracts are compared with types by their demands alone.
-/

namespace MachineInt.Contract

/-- The contract can be read, and the datum does not violate it. -/
def Obeys (contract datum : Json) : Prop :=
  ∃ assessment, assess contract datum = .ok assessment ∧ assessment.violations = []

theorem obeys_iff_check {contract : Json} {schema : Schema} (written : Schema.ofJson contract = .ok schema)
    (datum : Json) : Obeys contract datum ↔ schema.check datum = [] := by
  have assessed : assess contract datum = .ok ⟨schema.check datum⟩ := by
    rw [assess, written]
    rfl
  constructor
  · rintro ⟨assessment, found, nothing⟩
    rw [assessed] at found
    cases found
    exact nothing
  · intro nothing
    exact ⟨_, assessed, nothing⟩

theorem obeys_iff_holds {contract : Json} {schema : Schema} (written : Schema.ofJson contract = .ok schema)
    (datum : Json) : Obeys contract datum ↔ schema.Holds datum :=
  (obeys_iff_check written datum).trans (schema.check_eq_nil_iff datum)

end MachineInt.Contract
