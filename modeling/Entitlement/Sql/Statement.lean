import Entitlement.Store.Query

/-!
# Statements

* `Statement` : a text with its parameters, each a text or a list of texts;
* `Query.statement?` : the statement for a query; none where the answer is empty for sure;
* `Query.table` : the table that a query reads, which names the statement;
* `Query.aliases` : the columns that it selects.
-/

namespace Entitlement

inductive Parameter where
  | text (s : String)
  | texts (l : List String)
  deriving DecidableEq, Repr

structure Statement where
  sql : String
  parameters : List Parameter
  deriving DecidableEq, Repr

namespace Statement

def readOnly : Statement := ⟨"SET TRANSACTION READ ONLY", []⟩

def tenantPermissions (f : Filter) : Statement :=
  ⟨"SELECT p.permission_id::text AS id, p.permission_name AS name " ++
    "FROM tenant_permissions tp " ++
    "JOIN permissions p ON tp.permission_id = p.permission_id " ++
    "WHERE cardinality($1::text[]) = 0 OR p.permission_name ILIKE ANY ($1::text[]) " ++
    "ORDER BY name COLLATE \"C\" ASC, id ASC",
   [.texts f.patterns]⟩

def tenantRoles : Statement :=
  ⟨"SELECT r.role_id::text AS id, r.role_name AS name " ++
    "FROM roles r " ++
    "ORDER BY name COLLATE \"C\" ASC, id ASC", []⟩

def userRoles (user : UserId) : Statement :=
  ⟨"SELECT ur.role_id::text AS id, r.role_name AS name " ++
    "FROM user_roles ur " ++
    "JOIN roles r ON ur.role_id = r.role_id " ++
    "WHERE ur.user_id = $1::uuid " ++
    "ORDER BY name COLLATE \"C\" ASC, id ASC",
   [.text user.text]⟩

def childRoles (parents : List RoleId) : Statement :=
  ⟨"SELECT rh.child_role_id::text AS id, r.role_name AS name " ++
    "FROM role_hierarchy rh " ++
    "JOIN roles r ON rh.child_role_id = r.role_id " ++
    "WHERE rh.parent_role_id = ANY ($1::uuid[]) " ++
    "ORDER BY name COLLATE \"C\" ASC, id ASC",
   [.texts parents]⟩

def rolePermissions (roles : List RoleId) (f : Filter) : Statement :=
  ⟨"SELECT DISTINCT p.permission_id::text AS id, p.permission_name AS name " ++
    "FROM role_permissions rp " ++
    "JOIN permissions p ON rp.permission_id = p.permission_id " ++
    "WHERE rp.role_id = ANY ($1::uuid[]) " ++
    "AND (cardinality($2::text[]) = 0 OR p.permission_name ILIKE ANY ($2::text[])) " ++
    "ORDER BY name COLLATE \"C\" ASC, id ASC",
   [.texts roles, .texts f.patterns]⟩

def overrides (user : UserId) (f : Filter) : Statement :=
  ⟨"SELECT up.permission_id::text AS id, p.permission_name AS name, up.permission_type " ++
    "FROM user_permissions up " ++
    "JOIN permissions p ON up.permission_id = p.permission_id " ++
    "WHERE up.user_id = $1::uuid " ++
    "AND (cardinality($2::text[]) = 0 OR p.permission_name ILIKE ANY ($2::text[])) " ++
    "ORDER BY name COLLATE \"C\" ASC, id ASC",
   [.text user.text, .texts f.patterns]⟩

def resources (user : UserId) (f : Filter) : Statement :=
  ⟨"SELECT ur.resource_id::text AS id, rt.resource_type_name AS resource_type " ++
    "FROM user_resources ur " ++
    "JOIN resource_types rt ON ur.resource_type_id = rt.resource_type_id " ++
    "WHERE ur.user_id = $1::uuid " ++
    "AND (cardinality($2::text[]) = 0 OR lower(rt.resource_type_name) = ANY ($2::text[])) " ++
    "ORDER BY resource_type COLLATE \"C\" ASC, id ASC",
   [.text user.text, .texts f.lowered]⟩

end Statement

namespace Query

def statement? : Query → Option Statement
  | tenantPermissions f => some (.tenantPermissions f)
  | tenantRoles => some .tenantRoles
  | userRoles user => some (.userRoles user)
  | childRoles [] => none
  | childRoles parents => some (.childRoles parents)
  | rolePermissions [] _ => none
  | rolePermissions roles f => some (.rolePermissions roles f)
  | overrides user f => some (.overrides user f)
  | resources user f => some (.resources user f)

def table : Query → String
  | tenantPermissions _ => "tenant_permissions"
  | tenantRoles => "roles"
  | userRoles _ => "user_roles"
  | childRoles _ => "role_hierarchy"
  | rolePermissions .. => "role_permissions"
  | overrides .. => "user_permissions"
  | resources .. => "user_resources"

def aliases : Query → List String
  | overrides .. => ["id", "name", "permission_type"]
  | resources .. => ["id", "resource_type"]
  | _ => ["id", "name"]

end Query

end Entitlement
