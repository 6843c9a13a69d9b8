import Harness.Lib.Refusal

/-! Who asks: an authenticated principal with its scopes. -/

namespace Harness

inductive PrincipalKind where
  | operatorApiKey
  | fixturePrincipal
deriving DecidableEq, Repr

def PrincipalKind.asStr : PrincipalKind → String
  | operatorApiKey => "operator_api_key"
  | fixturePrincipal => "fixture_principal"

/-- Authentication refuses an empty key id, and a fixture's id has a fixed start. -/
structure AuthenticatedPrincipal where
  (tenantId principalId : String)
  kind : PrincipalKind
  scopes : List String
  role : String
  named : principalId ≠ ""
deriving DecidableEq

def scopeRiskAcknowledge : String := "managed_acceptance:risk_acknowledge"

def scopeSpendAuthorize : String := "managed_acceptance:spend_authorize"

def scopeAttemptAdmit : String := "managed_acceptance:attempt_admit"

def scopeRevoke : String := "managed_acceptance:revoke"

def scopeDelegatedAutonomy : String := "managed_acceptance:delegated_autonomy"

def scopeDelegatedManifestApprove : String := "managed_acceptance:delegated_manifest_approve"

def scopeDelegatedExecute : String := "managed_acceptance:delegated_execute"

def scopeDelegatedArtifactConfirm : String := "managed_acceptance:delegated_artifact_confirm"

/-- The ids that no person signs with, alone or before a dash or an underscore. -/
def forbiddenPrincipals : List String :=
  ["agent", "bot", "automation", "ci", "github-actions", "system", "self", "none", "fixture",
   "test", "local-dev", "anonymous"]

def forbiddenRoles : List String :=
  ["agent", "bot", "automation", "ci", "system", "anonymous", "fixture"]

def asciiLowercase (s : String) : List Char := s.toList.map Char.toLower

def isForbiddenPrincipalId (id : String) : Bool :=
  forbiddenPrincipals.any fun f => asciiLowercase id = f.toList ||
    (f.toList ++ ['-']).isPrefixOf (asciiLowercase id) ||
    (f.toList ++ ['_']).isPrefixOf (asciiLowercase id)

def isForbiddenRole (role : String) : Bool :=
  forbiddenRoles.any fun f => asciiLowercase role = f.toList

namespace AuthenticatedPrincipal

variable (p : AuthenticatedPrincipal)

def fixture : Bool := p.kind = .fixturePrincipal

def hasScope (scope : String) : Bool := scope ∈ p.scopes

def requireScope (scope : String) : Except String Unit :=
  refuse (!p.hasScope scope) ("principal missing required scope " ++ scope)

def mayAuthorizeProductionLiveStart : Bool :=
  p.kind = .operatorApiKey && !isForbiddenPrincipalId p.principalId && !isForbiddenRole p.role &&
    p.hasScope scopeSpendAuthorize && p.hasScope scopeAttemptAdmit

end AuthenticatedPrincipal

end Harness
