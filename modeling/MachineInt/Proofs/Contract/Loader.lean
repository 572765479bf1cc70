import MachineInt.Contract.Loader

/-!
# One load

A contract that a loader has read is given again without a look at the files. Any other is read from the files as they
are, and is kept if its file writes a schema; what a loader has kept never gives way to something else. All this holds
over every host.
-/

namespace MachineInt.Contract

variable {κ α : Type}

/-! ## Files -/

namespace Files

theorem lookup_cons (name other : String) (content : κ) (files : Files κ) :
    List.lookup other ((name, content) :: files) = if other = name then some content else files.lookup other := by
  rw [List.lookup_cons]
  by_cases same : other = name
  · rw [if_pos same, beq_iff_eq.mpr same]
  · rw [if_neg same, beq_false_of_ne same]

theorem lookup_remove (files : Files κ) (name other : String) :
    (files.remove name).lookup other = if other = name then none else files.lookup other := by
  induction files with
  | nil => simp [remove]
  | cons entry files ih =>
    obtain ⟨first, content⟩ := entry
    simp only [remove] at ih
    -- An entry of this name is left out; one of another name is found where it was.
    by_cases removed : first = name
    · simp only [remove, List.filter_cons, removed, bne_self_eq_false, Bool.false_eq_true, if_false, ih, lookup_cons]
      split <;> rfl
    · simp only [remove, List.filter_cons, bne_iff_ne.mpr removed, if_true, lookup_cons, ih]
      split
      next equal => rw [if_neg (equal ▸ removed)]
      · rfl

theorem lookup_put (files : Files κ) (name other : String) (content : κ) :
    (files.put name content).lookup other = if other = name then some content else files.lookup other := by
  rw [put, lookup_cons, lookup_remove]
  split <;> rfl

end Files

/-! ## Reading a contract -/

/-- The file of the contract writes this data, and it is a schema. -/
def Files.Writes (files : Files κ) (host : Host κ α) (contract : String) (written : α) : Prop :=
  ∃ content, files.lookup (host.fileOf contract) = some content ∧ host.parse content = .ok written ∧
    host.vet written = .ok ()

section

variable (host : Host κ α) (path : String) (files : Files κ) (contract : String)

/-- Of a content that writes data, only the schema is left to look at. -/
theorem readContract_of_parsed {content : κ} {written : α}
    (found : files.lookup (host.fileOf contract) = some content) (parsed : host.parse content = .ok written) :
    readContract host path files contract =
      match host.vet written with
      | .error fault => .error (.invalid contract fault)
      | .ok _ => .ok written := by
  rw [readContract, found]
  dsimp only
  rw [parsed]
  rfl

/-- All that a reading can come to: there is no file, its content writes no data, the data is no schema, or it is
one. -/
theorem readContract_cases :
    (files.lookup (host.fileOf contract) = none ∧
      readContract host path files contract = .error (.notFound contract path files.contracts)) ∨
    ∃ content, files.lookup (host.fileOf contract) = some content ∧
      ((∃ fault, host.parse content = .error fault ∧
          readContract host path files contract = .error (.malformed fault)) ∨
        (∃ written fault, host.parse content = .ok written ∧ host.vet written = .error fault ∧
          readContract host path files contract = .error (.invalid contract fault)) ∨
        ∃ written, host.parse content = .ok written ∧ host.vet written = .ok () ∧
          readContract host path files contract = .ok written) := by
  cases found : files.lookup (host.fileOf contract) with
  | none =>
    rw [readContract, found]
    exact .inl ⟨rfl, rfl⟩
  | some content =>
    refine .inr ⟨content, rfl, ?_⟩
    cases parsed : host.parse content with
    | error fault =>
      rw [readContract, found]
      dsimp only
      rw [parsed]
      exact .inl ⟨fault, rfl, rfl⟩
    | ok written =>
      rw [readContract_of_parsed host path files contract found parsed]
      cases formed : host.vet written with
      | error fault => exact .inr (.inl ⟨written, fault, rfl, formed, rfl⟩)
      | ok _ => exact .inr (.inr ⟨written, rfl, formed, rfl⟩)

theorem readContract_eq_ok_iff (written : α) :
    readContract host path files contract = .ok written ↔ files.Writes host contract written := by
  constructor
  · intro read
    obtain ⟨_, failed⟩ | ⟨content, found, outcome⟩ := readContract_cases host path files contract
    · cases read.symm.trans failed
    · obtain ⟨_, _, failed⟩ | ⟨_, _, _, _, failed⟩ | ⟨other, parsed, formed, given⟩ := outcome
      · cases read.symm.trans failed
      · cases read.symm.trans failed
      · cases read.symm.trans given
        exact ⟨content, found, parsed, formed⟩
  · rintro ⟨content, found, parsed, formed⟩
    rw [readContract_of_parsed host path files contract found parsed, formed]

/-- A contract is not found just when it has no file, whatever the other files hold. -/
theorem readContract_eq_notFound_iff :
    (∃ available, readContract host path files contract = .error (.notFound contract path available)) ↔
      files.lookup (host.fileOf contract) = none := by
  constructor
  · rintro ⟨available, read⟩
    obtain ⟨missing, _⟩ | ⟨content, found, outcome⟩ := readContract_cases host path files contract
    · exact missing
    · -- Whatever there is in a file, the answer to it is another one.
      obtain ⟨_, _, other⟩ | ⟨_, _, _, _, other⟩ | ⟨_, _, _, other⟩ := outcome
      · cases read.symm.trans other
      · cases read.symm.trans other
      · cases read.symm.trans other
  · intro missing
    exact ⟨files.contracts, by simp [readContract, missing]⟩

end

/-! ## Keeping it -/

namespace Cache

variable {cache : Cache α} (host : Host κ α) (path : String) (files : Files κ) {contract : String}

theorem load_of_kept {written : α} (kept : cache.find? host contract = some written) :
    cache.load host path files contract = (.ok written, cache) := by
  rw [load, kept]

theorem load_of_new (new : cache.find? host contract = none) :
    (cache.load host path files contract).1 = readContract host path files contract := by
  rw [load, new]
  cases readContract host path files contract <;> rfl

/-- A load that fails leaves no trace. -/
theorem load_error {error : LoadError} (failed : (cache.load host path files contract).1 = .error error) :
    (cache.load host path files contract).2 = cache := by
  cases kept : cache.find? host contract with
  | some written =>
    rw [load_of_kept host path files kept]
  | none =>
    rw [load_of_new host path files kept] at failed
    rw [load, kept, failed]

/-- What was vetted is found again, as it is not null. -/
theorem find?_cons_of_vet {written : α} (formed : host.vet written = .ok ()) :
    find? ((contract, written) :: cache) host contract = some written := by
  have present : host.isNull written = false :=
    Bool.eq_false_iff.mpr fun null => host.null_invalid written null formed
  simp [find?, present]

theorem find?_load_eq_some_iff (cache : Cache α) (contract : String) (written : α) :
    (cache.load host path files contract).2.find? host contract = some written ↔
      (cache.load host path files contract).1 = .ok written := by
  cases kept : cache.find? host contract with
  | some other => simp [load_of_kept host path files kept, kept]
  | none =>
    -- What is read goes in front; if nothing is read the contract is still missing.
    rw [load, kept]
    cases read : readContract host path files contract with
    | ok other =>
      obtain ⟨_, _, _, formed⟩ := (readContract_eq_ok_iff host path files contract other).mp read
      simp [find?_cons_of_vet host formed]
    | error error => simp [kept]

theorem find?_load_of_ne {other : String} (different : other ≠ contract) :
    (cache.load host path files contract).2.find? host other = cache.find? host other := by
  have skipped (written : α) : find? ((contract, written) :: cache) host other = cache.find? host other := by
    rw [find?, List.lookup_cons, beq_false_of_ne different, find?]
  unfold load
  cases cache.find? host contract with
  | some written => rfl
  | none =>
    cases readContract host path files contract with
    | ok written => exact skipped written
    | error error => rfl

end Cache

end MachineInt.Contract
