import MachineInt.Contract.Store
import MachineInt.Proofs.Contract.Loader

/-!
# Several loaders over one directory

Loaders are opened over a directory that changes, and are used in any order. A step changes what a loader has of a
contract in one case only: it is a load or a check of this contract through this loader, the loader had nothing of it,
and it succeeds. Nothing is asked of the host but that its answers depend on what it is given alone.
-/

namespace MachineInt.Contract

variable {κ α : Type}

/-- A directory and the loaders over it, in the order in which they were opened. -/
structure Site (κ α : Type) where
  host : Host κ α
  directory : Directory κ
  loaders : List (Cache α)

inductive Step (κ : Type)
  | create
  | write (name : String) (content : κ)
  | remove (name : String)
  | openLoader
  | load (loader : Nat) (contract : String)
  | check (loader : Nat) (contract : String) (value : Json)

/-- The step is a load or a check of the contract through the loader. -/
inductive Step.Uses (loader : Nat) (contract : String) : Step κ → Prop
  | load : Uses loader contract (.load loader contract)
  | check (value : Json) : Uses loader contract (.check loader contract value)

namespace Site

def start (host : Host κ α) (directory : Directory κ) : Site κ α := ⟨host, directory, []⟩

/-- The store with a loader in use that has these contracts. The built-in ones play no part in it. -/
def store (site : Site κ α) (cache : Cache α) : Store κ α :=
  ⟨site.host, site.directory, ⟨"", none⟩, cache, [], .directory⟩

def change (site : Site κ α) (command : Command κ) : Option (Except LoadError (Answer α)) × Site κ α :=
  let (answer, store) := (site.store []).run command
  (some answer, { site with directory := store.directory })

def openLoader (site : Site κ α) : Option (Except LoadError (Answer α)) × Site κ α :=
  match (site.store []).run .openDirectory with
  | (.ok answer, store) => (some (.ok answer), { site with loaders := site.loaders ++ [store.directoryCache] })
  | (.error error, _) => (some (.error error), site)

/-- Do something with one of the loaders. Where there is no such loader there is no answer. -/
def use (site : Site κ α) (loader : Nat) (command : Command κ) : Option (Except LoadError (Answer α)) × Site κ α :=
  match site.loaders[loader]? with
  | none => (none, site)
  | some cache =>
    let (answer, store) := (site.store cache).run command
    (some answer, ⟨site.host, store.directory, site.loaders.set loader store.directoryCache⟩)

def run (site : Site κ α) : Step κ → Option (Except LoadError (Answer α)) × Site κ α
  | .create => site.change .create
  | .write name content => site.change (.write name content)
  | .remove name => site.change (.remove name)
  | .openLoader => site.openLoader
  | .load loader contract => site.use loader (.load contract)
  | .check loader contract value => site.use loader (.check contract value)

def after (site : Site κ α) : List (Step κ) → Site κ α
  | [] => site
  | step :: rest => (site.run step).2.after rest

def files (site : Site κ α) : Files κ := site.directory.files.getD []

/-- What a loader has read of a contract. -/
def kept (site : Site κ α) (loader : Nat) (contract : String) : Option α :=
  site.loaders[loader]?.bind (·.find? site.host contract)

/-- What a load or a check gets of a contract from a loader. -/
def given (site : Site κ α) (loader : Nat) (contract : String) : Option (Except LoadError α) :=
  site.loaders[loader]?.map fun cache => ((site.store cache).load contract).1

/-- A load through the loader gives this schema, and a check goes by it. -/
def Serves (site : Site κ α) (loader : Nat) (contract : String) (written : α) : Prop :=
  (site.run (.load loader contract)).1 = some (.ok (.schema written true)) ∧
    ∀ value, (site.run (.check loader contract value)).1 = some (site.host.check written value)

/-- No load or check of the contract through the loader succeeds among these steps. -/
def Unread (site : Site κ α) (loader : Nat) (contract : String) (steps : List (Step κ)) : Prop :=
  ∀ before use rest, steps = before ++ use :: rest → use.Uses loader contract →
    ∀ written, (site.after before).given loader contract ≠ some (.ok written)

variable {site : Site κ α} {loader : Nat} {contract : String} {written : α} {step : Step κ}

/-! ## One use -/

section

variable {cache : Cache α} (opened : site.loaders[loader]? = some cache)
include opened

theorem given_eq :
    site.given loader contract = some (cache.load site.host site.directory.path site.files contract).1 := by
  rw [given, opened]
  rfl

theorem run_load_eq :
    site.run (.load loader contract) =
      let (result, cache) := cache.load site.host site.directory.path site.files contract
      (some (result.map fun written => .schema written (cache.find? site.host contract).isSome),
        ⟨site.host, site.directory, site.loaders.set loader cache⟩) := by
  simp only [run, use, opened]
  rfl

theorem run_check_eq (value : Json) :
    site.run (.check loader contract value) =
      let (result, cache) := cache.load site.host site.directory.path site.files contract
      (some (result.bind fun written => site.host.check written value),
        ⟨site.host, site.directory, site.loaders.set loader cache⟩) := by
  simp only [run, use, opened]
  rfl

theorem run_uses (uses : step.Uses loader contract) :
    (site.run step).2 =
      ⟨site.host, site.directory,
        site.loaders.set loader (cache.load site.host site.directory.path site.files contract).2⟩ := by
  cases uses with
  | load => rw [run_load_eq opened]
  | check value => rw [run_check_eq opened]

end

theorem run_closed (uses : step.Uses loader contract) (closed : site.loaders[loader]? = none) :
    site.run step = (none, site) := by
  cases uses <;> simp only [run, use, closed]

/-- What is kept is given, -/
theorem given_of_kept (kept : site.kept loader contract = some written) :
    site.given loader contract = some (.ok written) := by
  obtain ⟨cache, opened, found⟩ := Option.bind_eq_some_iff.mp kept
  rw [given_eq opened, Cache.load_of_kept _ _ _ found]

/-- and what is not is read from the files. -/
theorem given_of_new (inside : loader < site.loaders.length) (new : site.kept loader contract = none) :
    site.given loader contract = some (readContract site.host site.directory.path site.files contract) := by
  have opened := List.getElem?_eq_getElem inside
  rw [kept, opened] at new
  rw [given_eq opened, Cache.load_of_new _ _ _ new]

theorem exists_of_given {result : Except LoadError α} (given : site.given loader contract = some result) :
    ∃ cache, site.loaders[loader]? = some cache ∧
      (cache.load site.host site.directory.path site.files contract).1 = result :=
  Option.map_eq_some_iff.mp given

theorem lt_of_given {result : Except LoadError α} (given : site.given loader contract = some result) :
    loader < site.loaders.length := by
  obtain ⟨cache, opened, _⟩ := exists_of_given given
  exact (List.getElem?_eq_some_iff.mp opened).1

/-- Whatever is given for the first time is in the file. -/
theorem writes_of_given (new : site.kept loader contract = none)
    (given : site.given loader contract = some (.ok written)) : site.files.Writes site.host contract written := by
  rw [given_of_new (lt_of_given given) new, Option.some.injEq] at given
  exact (readContract_eq_ok_iff _ _ _ _ _).mp given

/-- A use that fails changes nothing. -/
theorem run_of_error {error : LoadError} (uses : step.Uses loader contract)
    (failed : site.given loader contract = some (.error error)) : site.run step = (some (.error error), site) := by
  obtain ⟨cache, opened, failed⟩ := exists_of_given failed
  -- The cache is put back where it was taken from.
  have unchanged : site.loaders.set loader cache = site.loaders := by
    obtain ⟨inside, rfl⟩ := List.getElem?_eq_some_iff.mp opened
    exact List.set_getElem_self inside
  cases uses with
  | load =>
    rw [run_load_eq opened]
    simp only [Cache.load_error _ _ _ failed, failed, unchanged, Except.map]
  | check value =>
    rw [run_check_eq opened]
    simp only [Cache.load_error _ _ _ failed, failed, unchanged, Except.bind]

/-- A schema that is given is what a load answers and what a check goes by. -/
theorem serves_of_given (given : site.given loader contract = some (.ok written)) :
    site.Serves loader contract written := by
  obtain ⟨cache, opened, given⟩ := exists_of_given given
  have found := (Cache.find?_load_eq_some_iff _ _ _ cache contract written).mpr given
  refine ⟨?_, fun value => ?_⟩
  · rw [run_load_eq opened]
    simp only [found, given, Except.map, Option.isSome]
  · rw [run_check_eq opened]
    simp only [given, Except.bind]

/-! ## One step -/

/-- A use keeps what it got, and nothing else. -/
theorem kept_run_uses (uses : step.Uses loader contract) (written : α) :
    (site.run step).2.kept loader contract = some written ↔ site.given loader contract = some (.ok written) := by
  cases opened : site.loaders[loader]? with
  | none => simp [run_closed uses opened, kept, given, opened]
  | some cache =>
    -- The cache after the load takes the place of the one before it.
    have inside := (List.getElem?_eq_some_iff.mp opened).1
    rw [run_uses opened uses, given_eq opened, kept, List.getElem?_set_self inside, Option.some.injEq]
    exact Cache.find?_load_eq_some_iff _ _ _ cache contract written

/-- A use of another contract, or through another loader, changes nothing for this one. -/
theorem kept_run_of_ne {other : Nat} {name : String} (uses : step.Uses other name)
    (different : ¬ (other = loader ∧ name = contract)) :
    (site.run step).2.kept loader contract = site.kept loader contract := by
  cases opened : site.loaders[other]? with
  | none => rw [run_closed uses opened]
  | some cache =>
    rw [run_uses opened uses, kept, kept]
    by_cases same : other = loader
    · subst same
      have inside := (List.getElem?_eq_some_iff.mp opened).1
      rw [List.getElem?_set_self inside, opened]
      exact Cache.find?_load_of_ne _ _ _ fun equal => different ⟨rfl, equal.symm⟩
    · rw [List.getElem?_set_ne same]

theorem kept_openLoader (site : Site κ α) (loader : Nat) (contract : String) :
    site.openLoader.2.kept loader contract = site.kept loader contract := by
  unfold openLoader store
  simp only [Store.run]
  cases site.directory.files with
  | none => rfl
  | some files =>
    simp only [kept]
    by_cases earlier : loader < site.loaders.length
    · rw [List.getElem?_append_left earlier]
    · -- The new loader stands behind the others, and it has read nothing.
      have new : site.loaders[loader]? = none := List.getElem?_eq_none (Nat.le_of_not_lt earlier)
      rw [List.getElem?_append_right (Nat.le_of_not_lt earlier), new]
      cases loader - site.loaders.length <;> rfl

/-- No other step changes what a loader has of a contract. -/
theorem kept_run_other (other : ¬ step.Uses loader contract) :
    (site.run step).2.kept loader contract = site.kept loader contract := by
  cases step with
  | create | write | remove => rfl
  | openLoader => exact kept_openLoader site loader contract
  | load given name =>
    apply kept_run_of_ne .load
    rintro ⟨rfl, rfl⟩
    exact other .load
  | check given name value =>
    apply kept_run_of_ne (.check value)
    rintro ⟨rfl, rfl⟩
    exact other (.check value)

theorem kept_run (kept : site.kept loader contract = some written) (step : Step κ) :
    (site.run step).2.kept loader contract = some written := by
  by_cases uses : step.Uses loader contract
  · exact (kept_run_uses uses written).mpr (given_of_kept kept)
  · rw [kept_run_other uses, kept]

theorem uses_of_kept_run (new : site.kept loader contract = none)
    (kept : (site.run step).2.kept loader contract = some written) :
    step.Uses loader contract ∧ site.given loader contract = some (.ok written) := by
  by_cases uses : step.Uses loader contract
  · exact ⟨uses, (kept_run_uses uses written).mp kept⟩
  · rw [kept_run_other uses, new] at kept
    cases kept

theorem host_use (site : Site κ α) (loader : Nat) (command : Command κ) :
    (site.use loader command).2.host = site.host := by
  unfold use
  cases site.loaders[loader]? <;> rfl

/-- A use leaves the directory alone and opens no loader. -/
theorem run_uses_frame (uses : step.Uses loader contract) :
    (site.run step).2.directory = site.directory ∧ (site.run step).2.loaders.length = site.loaders.length := by
  cases opened : site.loaders[loader]? with
  | none =>
    rw [run_closed uses opened]
    exact ⟨rfl, rfl⟩
  | some cache =>
    rw [run_uses opened uses]
    exact ⟨rfl, List.length_set⟩

theorem length_le_run (site : Site κ α) (step : Step κ) : site.loaders.length ≤ (site.run step).2.loaders.length := by
  cases step with
  | create | write | remove => exact Nat.le_refl _
  | openLoader =>
    simp only [run, openLoader, store, Store.run]
    cases site.directory.files with
    | none => exact Nat.le_refl _
    | some files => simp
  | load loader contract => exact Nat.le_of_eq (run_uses_frame .load).2.symm
  | check loader contract value => exact Nat.le_of_eq (run_uses_frame (.check value)).2.symm

/-- The host stays the same. -/
theorem host_run (site : Site κ α) (step : Step κ) : (site.run step).2.host = site.host := by
  cases step with
  | create | write | remove => rfl
  | openLoader =>
    simp only [run, openLoader, store, Store.run]
    cases site.directory.files <;> rfl
  | load loader contract => exact host_use site loader (.load contract)
  | check loader contract value => exact host_use site loader (.check contract value)

/-- The directory is there, unless no loader was opened yet. -/
def Founded (site : Site κ α) : Prop := site.loaders ≠ [] → ∃ files, site.directory.files = some files

theorem founded_run (founded : site.Founded) (step : Step κ) : (site.run step).2.Founded := by
  have used (loader : Nat) (contract : String) (uses : step.Uses loader contract) : (site.run step).2.Founded := by
    have frame : (site.run step).2.directory = site.directory ∧
        (site.run step).2.loaders.length = site.loaders.length := run_uses_frame uses
    intro opened
    rw [frame.1]
    apply founded
    rwa [ne_eq, ← List.length_eq_zero_iff, ← frame.2, List.length_eq_zero_iff]
  -- A directory is made or gets other files, but no step takes it away.
  cases step with
  | create => exact fun _ => ⟨_, rfl⟩
  | write name content =>
    intro opened
    obtain ⟨files, present⟩ := founded opened
    simp [run, change, store, Store.run, present, Store.withFiles]
  | remove name =>
    intro opened
    obtain ⟨files, present⟩ := founded opened
    cases found : files.lookup name <;> simp [run, change, store, Store.run, present, found, Store.withFiles]
  | openLoader =>
    simp only [run, openLoader, store, Store.run]
    cases present : site.directory.files with
    | none => exact founded
    | some files => exact fun _ => ⟨files, present⟩
  | load loader contract => exact used loader contract .load
  | check loader contract value => exact used loader contract (.check value)

theorem lookup_run_write {files : Files κ} (present : site.directory.files = some files) (name other : String)
    (content : κ) :
    (site.run (.write name content)).2.files.lookup other =
      if other = name then some content else site.files.lookup other := by
  have written : (site.run (.write name content)).2.files = files.put name content := by
    simp [run, change, store, Store.run, present, Store.withFiles, Site.files]
  rw [written, Files.lookup_put, Site.files, present, Option.getD_some]

end Site

end MachineInt.Contract
