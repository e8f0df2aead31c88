import Entitlement.View
import Entitlement.Wire.Graph

/-!
# Responses as JSON

* `Response` : a view by names, as it is sent; `Response.ofView` : the response for a view, or
  without one;
* `Response.reader`, `Response.render` : from and to JSON.
-/

namespace Entitlement

structure Response where
  tenant : String
  user : String
  roles : List String
  revoked : List String
  extra : List String
  resources : List Resource
  graph : RoleGraph
  deriving DecidableEq

namespace Response
open Json

def blank (tenant : TenantId) (user : UserId) : Response :=
  ⟨tenant.text, user.text, [], [], [], [], .empty⟩

def ofView (tenant : TenantId) (user : UserId) (view : Option View)
    (order : NodeOrder := .stored) : Response :=
  match view with
  | none => blank tenant user
  | some v =>
    { blank tenant user with
      roles := v.roles.map (·.name)
      revoked := v.overrides.revoked.map (·.name)
      extra := v.overrides.extra.map (·.name)
      resources := v.resources
      graph := .ofMap v.roleMap order }

/-! ## Reading -/

structure ResourceFields where
  id : Option String
  type : Option String

def resourceField (key : String) (f : ResourceFields) : Except Reject (Reader ResourceFields) :=
  if key = "resourceId" then Reader.once f.id .text fun s => { f with id := some s }
  else if key = "resourceType" then Reader.once f.type .text fun s => { f with type := some s }
  else .ok (Reader.skip.map fun _ => f)

def resourceOfFields (f : ResourceFields) : Except Reject Resource :=
  match f.id, f.type with
  | some id, some type => .ok ⟨id, type⟩
  | _, _ => .error .unfit

def resourceOfItems : Reader Resource := fun ts => do
  let (id, ⟨ts₁, h₁⟩) ← Reader.required true .text ts
  let (type, ⟨_, h₂⟩) ← Reader.required false .text ts₁
  Reader.closeAfter (Reader.shorter h₁ h₂) ⟨id, type⟩

def resourceReader : Reader Resource :=
  .struct (Reader.check resourceOfFields (Reader.members resourceField true ⟨none, none⟩))
    resourceOfItems

structure Fields where
  tenant : Option String
  user : Option String
  roles : Option (List String)
  revoked : Option (List String)
  extra : Option (List String)
  resources : Option (List Resource)
  graph : Option RoleGraph

def Fields.none : Fields := ⟨.none, .none, .none, .none, .none, .none, .none⟩

/-- A known member may come once; any other is skipped. -/
def field (key : String) (f : Fields) : Except Reject (Reader Fields) :=
  if key = "tenantId" then Reader.once f.tenant .text fun s => { f with tenant := some s }
  else if key = "userId" then Reader.once f.user .text fun s => { f with user := some s }
  else if key = "roles" then Reader.once f.roles (.list .text) fun s => { f with roles := some s }
  else if key = "revokedPermissions" then
    Reader.once f.revoked (.list .text) fun s => { f with revoked := some s }
  else if key = "extraPermissions" then
    Reader.once f.extra (.list .text) fun s => { f with extra := some s }
  else if key = "userResources" then
    Reader.once f.resources (.list resourceReader) fun s => { f with resources := some s }
  else if key = "roleGraph" then
    Reader.once f.graph RoleGraph.reader fun s => { f with graph := some s }
  else .ok (Reader.skip.map fun _ => f)

/-- Every member has to be there. -/
def ofFields (f : Fields) : Except Reject Response :=
  match f.tenant, f.user, f.roles, f.revoked, f.extra, f.resources, f.graph with
  | some tenant, some user, some roles, some revoked, some extra, some resources, some graph =>
    .ok ⟨tenant, user, roles, revoked, extra, resources, graph⟩
  | _, _, _, _, _, _, _ => .error .unfit

/-- The values of the members in order. -/
def ofItems : Reader Response := fun ts => do
  let (tenant, ⟨ts₁, h₁⟩) ← Reader.required true .text ts
  let (user, ⟨ts₂, h₂⟩) ← Reader.required false .text ts₁
  let (roles, ⟨ts₃, h₃⟩) ← Reader.required false (.list .text) ts₂
  let (revoked, ⟨ts₄, h₄⟩) ← Reader.required false (.list .text) ts₃
  let (extra, ⟨ts₅, h₅⟩) ← Reader.required false (.list .text) ts₄
  let (resources, ⟨ts₆, h₆⟩) ← Reader.required false (.list resourceReader) ts₅
  let (graph, ⟨_, h₇⟩) ← Reader.required false RoleGraph.reader ts₆
  Reader.closeAfter (by omega) ⟨tenant, user, roles, revoked, extra, resources, graph⟩

def reader : Reader Response :=
  .struct (Reader.check ofFields (Reader.members field true .none)) ofItems

/-- A text that holds one response and nothing else. -/
def parse (text : String) : Except Reject Response := reader.ofInput (Input.ofString text)

/-! ## Writing -/

def renderResource (r : Resource) : List Char :=
  object [("resourceId", string r.id), ("resourceType", string r.type)]

def render (r : Response) : String :=
  String.ofList (object
    [("tenantId", string r.tenant), ("userId", string r.user), ("roles", strings r.roles),
     ("revokedPermissions", strings r.revoked), ("extraPermissions", strings r.extra),
     ("userResources", array (r.resources.map renderResource)), ("roleGraph", r.graph.render)])

end Response

end Entitlement
