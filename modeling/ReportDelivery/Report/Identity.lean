import ReportDelivery.Record.Decode
import ReportDelivery.Setting

/-! The identity of the scanned repository, as the collector knows it. -/
namespace ReportDelivery

structure Identity where
  target : Setting Text
  foundLanguages : Members := []
  id : Text := []
  host : Text := []
  username : Text := []
  name : Text := []
  fullName : Text := []
  url : Text := []
  sha : Text := []
  currentBranch : Text := []
  defaultBranch : Text := []
  diffBaseBranch : Text := []
  rulesVersion : Setting Text := .value []
  toolVersion : Text := []
  /-- What the collector called the uploaded report; null before an upload. -/
  signedId : Value := .null
  error : Value := .null

namespace Identity

def ofValue (v : Value) : Except CoercionError Identity := do
  let members ← v.members .lookUp
  let foundLanguages ← ((Members.get members "found_languages").orElse (.object [])).toMembers
  return {
    target := Members.text members "target"
    foundLanguages
    id := Members.text members "id"
    host := Members.text members "host"
    username := Members.text members "username"
    name := Members.text members "name"
    fullName := Members.text members "full_name"
    url := Members.text members "url"
    sha := Members.text members "sha"
    currentBranch := Members.text members "current_branch"
    defaultBranch := Members.text members "default_branch"
    diffBaseBranch := Members.text members "diff_base_branch"
    rulesVersion := Members.text members "bearer_rules_version"
    toolVersion := Members.text members "bearer_version"
    signedId := Members.get members "signed_id"
    error := Members.get members "error"
  }

def toValue (identity : Identity) : Value :=
  .object [
    (.str "id", .str identity.id),
    (.str "host", .str identity.host),
    (.str "username", .str identity.username),
    (.str "name", .str identity.name),
    (.str "full_name", .str identity.fullName),
    (.str "url", .str identity.url),
    (.str "target", identity.target.toValue),
    (.str "sha", .str identity.sha),
    (.str "current_branch", .str identity.currentBranch),
    (.str "default_branch", .str identity.defaultBranch),
    (.str "diff_base_branch", .str identity.diffBaseBranch),
    (.str "bearer_rules_version", identity.rulesVersion.toValue),
    (.str "bearer_version", .str identity.toolVersion),
    (.str "found_languages", .object identity.foundLanguages),
    (.str "signed_id", identity.signedId),
    (.str "error", identity.error)]

end Identity
end ReportDelivery
