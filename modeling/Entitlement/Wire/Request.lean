import Entitlement.Json.Printer
import Entitlement.Json.Reader
import Entitlement.View

/-!
# Requests as JSON

* `RequestBody` : a request as it is sent, its identifiers not yet checked;
* `RequestBody.reader`, `RequestBody.render` : from and to JSON;
* `RequestBody.request` : the request, if neither identifier is blank.
-/

namespace Entitlement

structure RequestBody where
  tenant : String
  user : String
  /-- What the request is about; empty for everything. -/
  resources : List String
  deriving DecidableEq, Repr

namespace RequestBody
open Json

/-- The members read so far. -/
structure Fields where
  tenant : Option String
  user : Option String
  resources : Option (List String)

def Fields.none : Fields := ⟨.none, .none, .none⟩

/-- A member that is not there counts as empty. -/
def ofFields (f : Fields) : RequestBody :=
  ⟨f.tenant.getD "", f.user.getD "", f.resources.getD []⟩

/-- A known member may come once; any other is skipped. -/
def field (key : String) (f : Fields) : Except Reject (Reader Fields) :=
  if key = "tenantId" then Reader.once f.tenant .text fun s => { f with tenant := some s }
  else if key = "userId" then Reader.once f.user .text fun s => { f with user := some s }
  else if key = "resources" then
    Reader.once f.resources (.list .text) fun s => { f with resources := some s }
  else .ok (Reader.skip.map fun _ => f)

/-- The values of the members in order, of which the last ones may be left out. -/
def ofItems : Reader RequestBody := fun ts => do
  match ← Reader.next? true .text ts with
  | none => (Reader.close ts).map fun r => (⟨"", "", []⟩, r.2)
  | some (tenant, ⟨ts₁, h₁⟩) =>
    match ← Reader.next? false .text ts₁ with
    | none => Reader.closeAfter h₁ ⟨tenant, "", []⟩
    | some (user, ⟨ts₂, h₂⟩) =>
      match ← Reader.next? false (.list .text) ts₂ with
      | none => Reader.closeAfter (Reader.shorter h₁ h₂) ⟨tenant, user, []⟩
      | some (resources, ⟨_, h₃⟩) =>
        Reader.closeAfter (Reader.shorter (Reader.shorter h₁ h₂) h₃) ⟨tenant, user, resources⟩

def reader : Reader RequestBody :=
  .struct (Reader.map ofFields (Reader.members field true .none)) ofItems

/-- A text that holds one request and nothing else. -/
def parse (text : String) : Except Reject RequestBody := reader.ofInput (Input.ofString text)

def render (b : RequestBody) : String :=
  String.ofList (object
    [("tenantId", string b.tenant), ("userId", string b.user),
     ("resources", strings b.resources)])

/-- The tenant is checked first. Empty resources are dropped. -/
def request (b : RequestBody) : Except Error ViewRequest := do
  let tenant ← TenantId.parse b.tenant
  let user ← UserId.parse b.user
  return ⟨tenant, user, .ofResources b.resources, false, false⟩

end RequestBody

end Entitlement
