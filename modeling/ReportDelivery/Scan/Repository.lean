import ReportDelivery.Environment
import ReportDelivery.Failure
import ReportDelivery.Record.Decode

/-! What is known about the repository: from a document, and from the environment over it. -/
namespace ReportDelivery

structure Repository where
  id : Text := []
  host : Text := []
  owner : Text := []
  name : Text := []
  fullName : Text := []
  originUrl : Text := []
  commitHash : Text := []
  branch : Text := []
  defaultBranch : Text := []
  baseBranch : Text := []
deriving DecidableEq

/-- The value of a JSON document in a file: UTF-8, any kind of line end. -/
def Json.readFile (content : Bytes) : Except Failure Value := do
  let text ← (Utf8.decode content).mapError Failure.decoding
  (Json.read text.unifyLineEnds).mapError Failure.json

namespace Repository

def field (context : Repository) : RequiredField → Text
  | .branch => context.branch
  | .defaultBranch => context.defaultBranch
  | .commit => context.commitHash
  | .originUrl => context.originUrl

def set (context : Repository) (value : Text) : RequiredField → Repository
  | .branch => { context with branch := value }
  | .defaultBranch => { context with defaultBranch := value }
  | .commit => { context with commitHash := value }
  | .originUrl => { context with originUrl := value }

/-- What the environment says about a field, without white space around it. -/
def override (environ : Environment) (field : RequiredField) : Text :=
  (environ.get field.envVariable).strip

/-- The context with every field replaced that the environment has content for. No context and no
such field is no context. -/
def applyOverrides (context : Option Repository) (environ : Environment) : Option Repository :=
  let overridden := RequiredField.all.filter fun field => !(override environ field).isEmpty
  if context.isNone && overridden.isEmpty then none
  else some (overridden.foldl (fun c field => c.set (override environ field) field)
    (context.getD {}))

def ofMembers (members : Members) : Repository where
  id := Members.text members "id"
  host := Members.text members "host"
  owner := Members.text members "owner"
  name := Members.text members "name"
  fullName := Members.text members "full_name"
  originUrl := Members.text members "origin_url"
  commitHash := Members.text members "commit_hash"
  branch := Members.text members "branch"
  defaultBranch := Members.text members "default_branch"
  baseBranch := Members.text members "base_branch"

/-- The context in a file; `path` only names the file. -/
def ofFile (path : Text) (content : Bytes) : Except Failure Repository := do
  match ← Json.readFile content with
  | .object members => return ofMembers members
  | _ => .error (.format (.contextNotObject path))

end Repository
end ReportDelivery
