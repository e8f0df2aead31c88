import Entitlement.Error
import Entitlement.Text.Blank

/-!
# Tenants and users

* `TenantId`, `UserId` : identifiers that are not blank; `parse` keeps the text as it is.
-/

namespace Entitlement

/-- Selects the tenant's own database. -/
structure TenantId where
  text : String
  notBlank : Text.isBlank text = false
  deriving DecidableEq

/-- A user inside one tenant. -/
structure UserId where
  text : String
  notBlank : Text.isBlank text = false
  deriving DecidableEq

def TenantId.parse (text : String) : Except Error TenantId :=
  if h : Text.isBlank text = false then .ok ⟨text, h⟩ else .error .missingTenant

def UserId.parse (text : String) : Except Error UserId :=
  if h : Text.isBlank text = false then .ok ⟨text, h⟩ else .error .missingUser

@[ext] theorem TenantId.ext {a b : TenantId} (h : a.text = b.text) : a = b := by
  cases a; cases b; cases h; rfl

@[ext] theorem UserId.ext {a b : UserId} (h : a.text = b.text) : a = b := by
  cases a; cases b; cases h; rfl

theorem TenantId.parse_eq_ok_iff {text : String} {t : TenantId} :
    TenantId.parse text = .ok t ↔ t.text = text := by
  unfold TenantId.parse
  split
  · simp only [Except.ok.injEq]
    exact ⟨fun h => h ▸ rfl, fun h => TenantId.ext h.symm⟩
  · next h => simp only [reduceCtorEq, false_iff]; rintro rfl; exact h t.notBlank

theorem TenantId.parse_of_isBlank {text : String} (h : Text.isBlank text = true) :
    TenantId.parse text = .error .missingTenant := dif_neg (by simp [h])

theorem UserId.parse_eq_ok_iff {text : String} {u : UserId} :
    UserId.parse text = .ok u ↔ u.text = text := by
  unfold UserId.parse
  split
  · simp only [Except.ok.injEq]
    exact ⟨fun h => h ▸ rfl, fun h => UserId.ext h.symm⟩
  · next h => simp only [reduceCtorEq, false_iff]; rintro rfl; exact h u.notBlank

theorem UserId.parse_of_isBlank {text : String} (h : Text.isBlank text = true) :
    UserId.parse text = .error .missingUser := dif_neg (by simp [h])

end Entitlement
