import Budlum.Core.Primitives

/-!
# Admission to permissioned domains

Members of proof-of-authority domains, how long their checks are valid, and the audit log.  The
set of admitted members is recomputed at the end of every block.
-/

namespace Budlum

inductive MembershipStatus where
  | pending
  | approved
  | revoked
  | rejected
  deriving DecidableEq, Repr

structure PoaMember where
  account : Address
  domain : DomainId
  kycCommitment : Hash32
  status : MembershipStatus
  decidedBy : Option Address
  deriving DecidableEq, Repr

def PoaMember.isAuthorized (m : PoaMember) : Bool := decide (m.status = .approved)

inductive OnboardingDecision where
  | submitted (applicant : Address) (kycCommitment : Hash32)
  | approved (applicant : Address) (kycExpiryBlock : UInt64)
  | rejected (applicant : Address) (reason : String)
  | revoked (applicant : Address) (reason : String)
  | renewedKyc (applicant : Address) (newExpiryBlock : UInt64)
  | kycExpired (applicant : Address) (atBlock : UInt64)
  deriving DecidableEq, Repr

structure OnboardingEvent where
  domain : DomainId
  atBlock : UInt64
  actor : Address
  decision : OnboardingDecision
  deriving DecidableEq, Repr

structure PoAOnboarding where
  admins : OrdMap (DomainId ×ₗ Address) Unit := ∅
  members : OrdMap (DomainId ×ₗ Address) PoaMember := ∅
  audit : List OnboardingEvent := []
  kycExpiry : OrdMap (DomainId ×ₗ Address) UInt64 := ∅
  loggedExpiry : OrdMap (DomainId ×ₗ Address) Unit := ∅
  deriving DecidableEq, Inhabited

namespace PoAOnboarding

variable (p : PoAOnboarding)

/-- The domain admits members by decision of its administrators. -/
def isPermissioned (domain : DomainId) : Bool :=
  p.admins.keys.any fun k => decide ((ofLex k).1 = domain)

/-- Domains with a dated approval or an audit event, in increasing order. -/
def domainsWithRecords : List DomainId :=
  let set := (p.kycExpiry.keys.map fun k => (ofLex k).1) ++ p.audit.map (·.domain)
  (set.foldl (fun m d => m.insert d ()) (∅ : OrdMap DomainId Unit)).keys

/-- One approved member at a block: admitted, or expired and put on record once. -/
def admitMember (domain : DomainId) (nowBlock : UInt64) (acc : PoAOnboarding × OrdMap Address Unit)
    (m : PoaMember) : PoAOnboarding × OrdMap Address Unit :=
  let key := toLex (domain, m.account)
  let expiry := acc.1.kycExpiry.getD key UInt64.maxValue
  if nowBlock ≤ expiry then (acc.1, acc.2.insert m.account ())
  else if acc.1.loggedExpiry.contains key then acc
  else
    let event : OnboardingEvent := ⟨domain, nowBlock, m.account, .kycExpired m.account nowBlock⟩
    ({ acc.1 with
      loggedExpiry := acc.1.loggedExpiry.insert key (), audit := acc.1.audit ++ [event] }, acc.2)

/-- The members of a domain whose checks are still valid. -/
def whitelist (domain : DomainId) (nowBlock : UInt64) : PoAOnboarding × OrdMap Address Unit :=
  (p.members.values.filter fun m => decide (m.domain = domain) && m.isAuthorized).foldl
    (admitMember domain nowBlock) (p, ∅)

/-- The admitted members of every domain with records. -/
def refreshAdmissions (nowBlock : UInt64) : PoAOnboarding × OrdMap DomainId (OrdMap Address Unit) :=
  p.domainsWithRecords.foldl
    (fun acc domain =>
      let (p', admitted) := acc.1.whitelist domain nowBlock
      (p', acc.2.insert domain admitted))
    (p, ∅)

end PoAOnboarding

end Budlum
