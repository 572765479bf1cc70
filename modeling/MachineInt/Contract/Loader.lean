import MachineInt.Contract.Assessment

/-!
# Loaders

A loader takes contracts by name from the files of a directory. A contract that was once read and found to be a schema
is kept, and from then on the loader does not look at the file again. A reading that fails leaves no trace.

How a path leads to a file, what the content of a file writes, which data is a schema and what a schema says of a value
is up to the host. Loaders are the same over every host. They take null for nothing kept, so it must be no schema.
-/

namespace MachineInt.Contract

/-- What loaders rely on, for contents of files and for data of any kind. -/
structure Host (κ α : Type) where
  /-- The file that a path leads to from inside the directory. -/
  resolve : String → String
  /-- The data that a content writes, or what is wrong with it. -/
  parse : κ → Except String α
  isNull : α → Bool
  /-- Nothing, if the data is a schema, or what is wrong with it. -/
  vet : α → Except String Unit
  /-- Null is no schema; a schema is an object or a truth value. -/
  null_invalid : ∀ written, isNull written = true → vet written ≠ .ok ()
  /-- What a schema says of a value, or why it says nothing. -/
  assess : α → Json → Except String Assessment

variable {κ α : Type}

/-- Files by name. -/
abbrev Files (κ : Type) := List (String × κ)

/-- A directory and its files; without files it is not there. -/
structure Directory (κ : Type) where
  path : String
  files : Option (Files κ)

namespace Files

/-- The files without one of them. -/
def remove (files : Files κ) (name : String) : Files κ := files.filter (·.1 != name)

/-- The files with new content for one of them. -/
def put (files : Files κ) (name : String) (content : κ) : Files κ := (name, content) :: files.remove name

/-- The ending of the names of contract files. -/
def ending : List Char := ".json".toList

/-- The name of a contract file without its ending. A name that is nothing but the ending keeps it. -/
def stem? (name : String) : Option String :=
  let letters := name.toList
  if ending.isSuffixOf letters then
    let stem := letters.take (letters.length - ending.length)
    some (String.ofList (if stem.isEmpty then letters else stem))
  else none

/-- The names of the contracts in a directory, sorted. -/
def contracts (files : Files κ) : List String :=
  (files.filterMap fun (name, _) => stem? name).mergeSort fun a b => decide (a ≤ b)

def fileName (contract : String) : String := contract ++ String.ofList ending

end Files

inductive LoadError
  | noDirectory (path : String)
  | noFile (path name : String)
  | notFound (contract path : String) (available : List String)
  | malformed (text : String)
  | invalid (contract fault : String)
  /-- The schema was loaded, but a value cannot be assessed by it. -/
  | unassessed (text : String)

def LoadError.message : LoadError → String
  | .noDirectory path => s!"Schema directory not found: {path}"
  | .noFile path name => s!"[Errno 2] No such file or directory: '{path}/{name}'"
  | .notFound contract path available =>
    let listed := if available.isEmpty then "none" else ", ".intercalate available
    s!"Contract '{contract}' not found in {path} (available: {listed})"
  | .malformed text | .unassessed text => text
  | .invalid contract fault => s!"Invalid contract schema '{contract}': {fault}"

/-- The contracts that a loader has read. -/
abbrev Cache (α : Type) := List (String × α)

/-- The file of a contract. -/
def Host.fileOf (host : Host κ α) (contract : String) : String := host.resolve (Files.fileName contract)

/-- Read a contract from the files as they are now. -/
def readContract (host : Host κ α) (path : String) (files : Files κ) (contract : String) : Except LoadError α :=
  match files.lookup (host.fileOf contract) with
  | none => .error (.notFound contract path files.contracts)
  | some content => do
    let written ← (host.parse content).mapError .malformed
    match host.vet written with
    | .error fault => .error (.invalid contract fault)
    | .ok _ => .ok written

/-- The contract that is kept under a name. -/
def Cache.find? (cache : Cache α) (host : Host κ α) (contract : String) : Option α :=
  (cache.lookup contract).filter (!host.isNull ·)

/-- The contract of a name and the cache afterwards. -/
def Cache.load (cache : Cache α) (host : Host κ α) (path : String) (files : Files κ) (contract : String) :
    Except LoadError α × Cache α :=
  match cache.find? host contract with
  | some written => (.ok written, cache)
  | none =>
    match readContract host path files contract with
    | .ok written => (.ok written, (contract, written) :: cache)
    | .error error => (.error error, cache)

end MachineInt.Contract
