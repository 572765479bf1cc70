import MachineInt.Contract.Content
import MachineInt.Proofs.Contract.Site

/-!
# Runs with several loaders

The first load or check of a contract that succeeds settles what its loader has of the contract: the file as it was at
that moment. Until then every use looks at the file as it is, and the uses that fail change nothing.
-/

namespace MachineInt.Contract.Site

variable {κ α : Type} {site : Site κ α} {loader : Nat} {contract : String} {written : α} {step : Step κ}

/-! ## What a run keeps -/

theorem after_append (site : Site κ α) (first second : List (Step κ)) :
    site.after (first ++ second) = (site.after first).after second := by
  induction first generalizing site with
  | nil => rfl
  | cons step rest ih => exact ih _

theorem length_le_after (site : Site κ α) (steps : List (Step κ)) :
    site.loaders.length ≤ (site.after steps).loaders.length := by
  induction steps generalizing site with
  | nil => exact Nat.le_refl _
  | cons step rest ih => exact Nat.le_trans (length_le_run site step) (ih _)

theorem host_after (site : Site κ α) (steps : List (Step κ)) : (site.after steps).host = site.host := by
  induction steps generalizing site with
  | nil => rfl
  | cons step rest ih => rw [after, ih, host_run]

theorem founded_after (founded : site.Founded) (steps : List (Step κ)) : (site.after steps).Founded := by
  induction steps generalizing site with
  | nil => exact founded
  | cons step rest ih => exact ih (founded_run founded step)

/-- What a loader has of a contract it has from then on. -/
theorem kept_after (kept : site.kept loader contract = some written) (steps : List (Step κ)) :
    (site.after steps).kept loader contract = some written := by
  induction steps generalizing site with
  | nil => exact kept
  | cons step rest ih => exact ih (kept_run kept step)

theorem unread_nil (site : Site κ α) (loader : Nat) (contract : String) : site.Unread loader contract [] := by
  intro before use rest shape
  cases before <;> cases shape

theorem unread_cons_iff (steps : List (Step κ)) :
    site.Unread loader contract (step :: steps) ↔
      (step.Uses loader contract → ∀ written, site.given loader contract ≠ some (.ok written)) ∧
        (site.run step).2.Unread loader contract steps := by
  constructor
  · intro unread
    refine ⟨unread [] step steps rfl, ?_⟩
    intro before use rest shape
    exact unread (step :: before) use rest (congrArg (step :: ·) shape)
  · rintro ⟨first, later⟩ before use rest shape
    cases before with
    | nil =>
      cases shape
      exact first
    | cons _ before =>
      cases shape
      exact later before use rest rfl

theorem unread_append_iff (first second : List (Step κ)) :
    site.Unread loader contract (first ++ second) ↔
      site.Unread loader contract first ∧ (site.after first).Unread loader contract second := by
  induction first generalizing site with
  | nil => exact (and_iff_right (unread_nil _ _ _)).symm
  | cons step rest ih => rw [List.cons_append, unread_cons_iff, unread_cons_iff, ih, and_assoc, after]

theorem new_after {steps : List (Step κ)} (new : site.kept loader contract = none)
    (unread : site.Unread loader contract steps) : (site.after steps).kept loader contract = none := by
  induction steps generalizing site with
  | nil => exact new
  | cons step rest ih =>
    rw [unread_cons_iff] at unread
    refine ih ?_ unread.2
    cases next : (site.run step).2.kept loader contract with
    | none => rfl
    | some written =>
      obtain ⟨uses, given⟩ := uses_of_kept_run new next
      exact absurd given (unread.1 uses written)

/-- What a loader has in the end it got from the first use that got anything. -/
theorem exists_first {steps : List (Step κ)} (new : site.kept loader contract = none)
    (kept : (site.after steps).kept loader contract = some written) :
    ∃ before use rest, steps = before ++ use :: rest ∧ use.Uses loader contract ∧
      site.Unread loader contract before ∧ (site.after before).given loader contract = some (.ok written) := by
  induction steps generalizing site with
  | nil => cases new.symm.trans kept
  | cons step rest ih =>
    cases next : (site.run step).2.kept loader contract with
    | some other =>
      -- This step is the first: what it got was not given up afterwards.
      cases (kept_after next rest).symm.trans kept
      obtain ⟨uses, given⟩ := uses_of_kept_run new next
      exact ⟨[], step, rest, rfl, uses, unread_nil _ _ _, given⟩
    | none =>
      -- The first is among the rest, as this step got nothing.
      obtain ⟨before, use, rest, rfl, uses, unread, given⟩ := ih next kept
      refine ⟨step :: before, use, rest, rfl, uses, ?_, given⟩
      rw [unread_cons_iff]
      refine ⟨?_, unread⟩
      intro stepUses other given
      cases next.symm.trans ((kept_run_uses stepUses other).mpr given)

/-! ## What a run serves -/

/-- What a use got is served from then on, whatever is written, removed or loaded. -/
theorem serves_after (uses : step.Uses loader contract) (given : site.given loader contract = some (.ok written))
    (later : List (Step κ)) : (site.after (step :: later)).Serves loader contract written := by
  have kept := kept_after ((kept_run_uses uses written).mpr given) later
  exact serves_of_given (given_of_kept kept)

/-- After a failure the contract is served as soon as its file writes a schema, unless it was read meanwhile. -/
theorem serves_repaired {error : LoadError} (uses : step.Uses loader contract)
    (failed : site.given loader contract = some (.error error)) {later : List (Step κ)}
    (unread : site.Unread loader contract later)
    (repaired : (site.after (step :: later)).files.Writes site.host contract written) :
    (site.after (step :: later)).Serves loader contract written := by
  have unchanged : site.after (step :: later) = site.after later := by rw [after, run_of_error uses failed]
  rw [unchanged] at repaired ⊢
  have inside := Nat.lt_of_lt_of_le (lt_of_given failed) (length_le_after site later)
  have new : site.kept loader contract = none := by
    cases kept : site.kept loader contract with
    | none => rfl
    | some written => cases (given_of_kept kept).symm.trans failed
  -- Nothing came in between, so this use looks at the file.
  have given : (site.after later).given loader contract = some (.ok written) := by
    rw [given_of_new inside (new_after new unread), host_after, (readContract_eq_ok_iff ..).mpr repaired]
  exact serves_of_given given

/-- Writing a schema to the file is such a repair. -/
theorem serves_rewritten {error : LoadError} {content : κ} (founded : site.Founded)
    (uses : step.Uses loader contract) (failed : site.given loader contract = some (.error error))
    {later : List (Step κ)} (unread : site.Unread loader contract later)
    (parsed : site.host.parse content = .ok written) (formed : site.host.vet written = .ok ()) :
    (site.after (step :: (later ++ [.write (site.host.fileOf contract) content]))).Serves loader contract written := by
  apply serves_repaired uses failed
  · -- A write uses no loader.
    rw [unread_append_iff, unread_cons_iff]
    exact ⟨unread, nofun, unread_nil _ _ _⟩
  · have inside := Nat.lt_of_lt_of_le (lt_of_given failed) (length_le_after site (step :: later))
    have opened := List.ne_nil_of_length_pos (Nat.zero_lt_of_lt inside)
    obtain ⟨files, present⟩ := founded_after founded (step :: later) opened
    rw [← List.cons_append, after_append]
    refine ⟨content, ?_, parsed, formed⟩
    rw [after, after, lookup_run_write present, if_pos rfl]

/-- A load finds no file just when it has to look for one and there is none. -/
theorem run_load_notFound_iff (inside : loader < site.loaders.length) :
    (∃ available, (site.run (.load loader contract)).1 =
        some (.error (.notFound contract site.directory.path available))) ↔
      site.kept loader contract = none ∧ site.files.lookup (site.host.fileOf contract) = none := by
  have answered (error : LoadError) : (site.run (.load loader contract)).1 = some (.error error) ↔
      site.given loader contract = some (.error error) := by
    have opened := List.getElem?_eq_getElem inside
    rw [run_load_eq opened, given_eq opened]
    generalize site.loaders[loader].load site.host site.directory.path site.files contract = loaded
    obtain ⟨result, cache⟩ := loaded
    cases result <;> simp [Except.map]
  simp only [answered]
  cases kept : site.kept loader contract with
  | some written =>
    simp [given_of_kept kept]
  | none =>
    simp [given_of_new inside kept, readContract_eq_notFound_iff]

/-! ## From the first loader on -/

section

variable {host : Host κ α} {directory : Directory κ} {steps : List (Step κ)}

theorem founded_start : (start host directory).Founded := fun opened => absurd rfl opened

theorem kept_start : (start host directory).kept loader contract = none := rfl

theorem host_after_start (host : Host κ α) (directory : Directory κ) (steps : List (Step κ)) :
    ((start host directory).after steps).host = host := host_after _ steps

/-- Whatever a loader has was a schema in the file of the contract at the first use that got it. -/
theorem exists_first_of_kept (kept : ((start host directory).after steps).kept loader contract = some written) :
    ∃ before use rest, steps = before ++ use :: rest ∧ use.Uses loader contract ∧
      (start host directory).Unread loader contract before ∧
      ((start host directory).after before).given loader contract = some (.ok written) ∧
      ((start host directory).after before).files.Writes host contract written := by
  obtain ⟨before, use, rest, shape, uses, unread, given⟩ := exists_first kept_start kept
  have writes := writes_of_given (new_after kept_start unread) given
  rw [host_after_start] at writes
  exact ⟨before, use, rest, shape, uses, unread, given, writes⟩

end

/-- The first load or check of a contract that succeeds settles what its loader has of it, however the directory
changes and other loaders are used, and whatever the host takes for data and for a schema.
- What a use got, it and every later one go by.
- A use that fails changes nothing. Until another succeeds, the next one gets the schema that the file then writes,
and writing one is enough.
- Whatever is kept is the schema that the file wrote at the first use that succeeded.
- A load finds no file just when nothing is kept and there is none. -/
theorem keeps_first_schema (host : Host κ α) (directory : Directory κ) (steps : List (Step κ)) (loader : Nat)
    (contract : String) :
    let site := (start host directory).after steps
    (∀ use written, use.Uses loader contract → site.given loader contract = some (.ok written) →
      site.Serves loader contract written ∧ ∀ later, (site.after (use :: later)).Serves loader contract written) ∧
    (∀ use error, use.Uses loader contract → site.given loader contract = some (.error error) →
      site.run use = (some (.error error), site) ∧ ∀ later written, site.Unread loader contract later →
        ((site.after (use :: later)).files.Writes host contract written →
          (site.after (use :: later)).Serves loader contract written) ∧
        ∀ content, host.parse content = .ok written → host.vet written = .ok () →
          (site.after (use :: (later ++ [.write (host.fileOf contract) content]))).Serves loader contract written) ∧
    (∀ written, site.kept loader contract = some written →
      ∃ before use rest, steps = before ++ use :: rest ∧ use.Uses loader contract ∧
        (start host directory).Unread loader contract before ∧
        ((start host directory).after before).given loader contract = some (.ok written) ∧
        ((start host directory).after before).files.Writes host contract written) ∧
    (loader < site.loaders.length →
      ((∃ available, (site.run (.load loader contract)).1 =
          some (.error (.notFound contract site.directory.path available))) ↔
        site.kept loader contract = none ∧ site.files.lookup (host.fileOf contract) = none)) := by
  intro site
  have same : site.host = host := host_after_start host directory steps
  refine ⟨?_, ?_, ?_, ?_⟩
  · intro use written uses given
    exact ⟨serves_of_given given, serves_after uses given⟩
  · intro use error uses failed
    refine ⟨run_of_error uses failed, ?_⟩
    intro later written unread
    rw [← same]
    refine ⟨serves_repaired uses failed unread, ?_⟩
    intro content parsed formed
    exact serves_rewritten (founded_after founded_start steps) uses failed unread parsed formed
  · intro written kept
    exact exists_first_of_kept kept
  · intro inside
    rw [← same]
    exact run_load_notFound_iff inside

/-- A file of null holds no schema and a file of false does. A check that failed on the one goes by the other when it
is there, and keeps it when the file is gone; a loader that is opened then finds nothing. -/
theorem keeps_first_schema_repaired :
    let spoiled : List (Step Content) := [.write "n.json" (.data .null), .openLoader]
    let repaired := spoiled ++ [.check 0 "n" .null, .write "n.json" (.data (.bool false))]
    let removed := repaired ++ [.load 0 "n", .remove "n.json", .openLoader]
    let site := (start jsonHost ⟨"contracts", some []⟩).after
    ((site spoiled).run (.check 0 "n" .null)).2 = site spoiled ∧ (site repaired).Serves 0 "n" (.bool false) ∧
      (site removed).Serves 0 "n" (.bool false) ∧
      (∃ before use rest, removed = before ++ use :: rest ∧ use.Uses 0 "n" ∧
        (site before).files.Writes jsonHost "n" (.bool false)) ∧
      ∃ available, ((site removed).run (.load 1 "n")).1 = some (.error (.notFound "n" "contracts" available)) := by
  intro spoiled repaired removed site
  have failing :=
    (keeps_first_schema jsonHost ⟨"contracts", some []⟩ spoiled 0 "n").2.1 (.check 0 "n" .null) _ (.check .null) rfl
  have rewritten := (failing.2 [] (.bool false) (unread_nil _ _ _)).2 (.data (.bool false)) rfl rfl
  have reading :=
    (keeps_first_schema jsonHost ⟨"contracts", some []⟩ repaired 0 "n").1 (.load 0 "n") (.bool false) .load rfl
  have first := (keeps_first_schema jsonHost ⟨"contracts", some []⟩ removed 0 "n").2.2.1 (.bool false) rfl
  have missing := (keeps_first_schema jsonHost ⟨"contracts", some []⟩ removed 1 "n").2.2.2 (by decide)
  have later := reading.2 [.remove "n.json", .openLoader]
  obtain ⟨before, use, rest, shape, uses, _, _, writes⟩ := first
  exact ⟨(Prod.ext_iff.mp failing.1).2, rewritten, later, ⟨before, use, rest, shape, uses, writes⟩,
    missing.mpr ⟨rfl, rfl⟩⟩

end MachineInt.Contract.Site
