import MachineInt.Contract.Loader

/-!
# Contract stores

A store is a directory that may change, the built-in contracts, and a loader over each. One of the two loaders is in
use. Opening the directory gives it a new loader with nothing read yet; the loader of the built-in contracts is made
once and keeps what it has read.
-/

namespace MachineInt.Contract

variable {κ α : Type}

inductive Source
  | directory
  | builtIn
  deriving DecidableEq, Repr

structure Store (κ α : Type) where
  host : Host κ α
  directory : Directory κ
  builtIn : Directory κ
  directoryCache : Cache α
  builtInCache : Cache α
  source : Source

/-- What can be done to a store. -/
inductive Command (κ : Type)
  | create
  | write (name : String) (content : κ)
  | remove (name : String)
  | openDirectory
  | openBuiltIn
  | list
  | load (contract : String)
  | check (contract : String) (value : Json)

inductive Answer (α : Type)
  | done
  | names (names : List String)
  /-- A contract, and whether it is now kept. -/
  | schema (written : α) (kept : Bool)
  | assessment (assessment : Assessment)

/-- What a check by a schema answers. -/
def Host.check (host : Host κ α) (written : α) (value : Json) : Except LoadError (Answer α) :=
  match host.assess written value with
  | .ok assessment => .ok (.assessment assessment)
  | .error text => .error (.unassessed text)

namespace Store

/-- A store with nothing read yet. -/
def fresh (host : Host κ α) (directory builtIn : Directory κ) : Store κ α :=
  ⟨host, directory, builtIn, [], [], .builtIn⟩

/-- The directory that the loader in use reads. -/
def inUse (store : Store κ α) : Directory κ :=
  match store.source with
  | .directory => store.directory
  | .builtIn => store.builtIn

/-- The files that the loader in use reads. -/
def filesInUse (store : Store κ α) : Files κ := store.inUse.files.getD []

/-- Load a contract with the loader in use. -/
def load (store : Store κ α) (contract : String) : Except LoadError α × Store κ α :=
  match store.source with
  | .directory =>
    let (result, cache) := store.directoryCache.load store.host store.inUse.path store.filesInUse contract
    (result, { store with directoryCache := cache })
  | .builtIn =>
    let (result, cache) := store.builtInCache.load store.host store.inUse.path store.filesInUse contract
    (result, { store with builtInCache := cache })

def cache (store : Store κ α) : Cache α :=
  match store.source with
  | .directory => store.directoryCache
  | .builtIn => store.builtInCache

def withFiles (store : Store κ α) (files : Files κ) : Store κ α :=
  { store with directory := { store.directory with files := some files } }

/-- Do one thing to a store. -/
def run (store : Store κ α) : Command κ → Except LoadError (Answer α) × Store κ α
  | .create => (.ok .done, store.withFiles (store.directory.files.getD []))
  | .write name content =>
    match store.directory.files with
    | some files => (.ok .done, store.withFiles (files.put name content))
    | none => (.error (.noFile store.directory.path name), store)
  | .remove name =>
    match store.directory.files.bind fun files => (files.lookup name).map fun _ => files with
    | some files => (.ok .done, store.withFiles (files.remove name))
    | none => (.error (.noFile store.directory.path name), store)
  | .openDirectory =>
    match store.directory.files with
    | some _ => (.ok .done, { store with directoryCache := [], source := .directory })
    | none => (.error (.noDirectory store.directory.path), store)
  | .openBuiltIn => (.ok .done, { store with source := .builtIn })
  | .list => (.ok (.names store.filesInUse.contracts), store)
  | .load contract =>
    let (result, store) := store.load contract
    (result.map fun written => .schema written (store.cache.find? store.host contract).isSome, store)
  | .check contract value =>
    let (result, store) := store.load contract
    (result.bind fun written => store.host.check written value, store)

/-- Do several things in turn and collect the answers. -/
def runAll (store : Store κ α) : List (Command κ) → List (Except LoadError (Answer α))
  | [] => []
  | command :: rest =>
    let (answer, store) := store.run command
    answer :: store.runAll rest

end Store

end MachineInt.Contract
