import MachineInt.Contract.Store
import MachineInt.Json.Reader

/-!
# Contracts in files

A file holds a contract as JSON, and the contracts that are always there are held in files of their own. Data is a
schema if the keywords that contracts use can be read from it, and a value is assessed by what was read. Other hosts
may ask for more.
-/

namespace MachineInt.Contract

/-- What a file holds: a value written as JSON, or any text. -/
inductive Content
  | data (value : Json)
  | text (content : String)

/-- A carriage return, alone or with a line feed after it, ends a line as a line feed does. -/
def unifyLines : List Char → List Char
  | [] => []
  | '\r' :: '\n' :: rest => '\n' :: unifyLines rest
  | '\r' :: rest => '\n' :: unifyLines rest
  | c :: rest => c :: unifyLines rest

/-- The value that a file holds, or what is wrong with its text. -/
def Content.value : Content → Except String Json
  | .data value => .ok value
  | .text content =>
    let lines := String.ofList (unifyLines content.toList)
    (Json.read lines).mapError (·.describe lines)

/-- Files by their names, JSON in the files and schemas by their keywords. -/
def jsonHost : Host Content Json where
  resolve path := path
  parse := Content.value
  isNull written := match written with
    | .null => true
    | _ => false
  vet written := ((Schema.ofJson written).map fun _ => ()).mapError SchemaFault.message
  null_invalid
    | .null, _ => nofun
  assess written value := (assess written value).mapError SchemaFault.message

/-- The contracts that are always there. -/
def builtInFiles : Files Content :=
  [(Files.fileName wordContractName, .data wordContract), (Files.fileName reportContractName, .data reportContract)]

/-- A store over a directory that does not exist yet. -/
def Store.new (path builtInPath : String) : Store Content Json :=
  .fresh jsonHost ⟨path, none⟩ ⟨builtInPath, some builtInFiles⟩

end MachineInt.Contract
