import Budlum.Core.Primitives

/-!
# The application hub

Applications registered by their developers.  A developer can attest an application; only a
governance proposal that still matches the record marks it verified.
-/

namespace Budlum

/-- What an application is for. -/
inductive AppCategory where
  | socialFi
  | deFi
  | storage
  | gaming
  | infrastructure
  | other
  deriving DecidableEq, Repr

/-- A registered application. -/
structure AppRecord where
  id : UInt64
  name : String
  developer : Address
  category : AppCategory
  websiteUrl : String
  manifestId : Option ContentId
  registeredAtEpoch : UInt64
  developerAttested : Bool
  verified : Bool
  deriving DecidableEq

/-- Why the hub refuses an operation. -/
inductive BudlumxyzError where
  | notFound
  | notDeveloper
  | invalidData
  | notAuthorized
  | duplicateAppId
  deriving DecidableEq, Repr

/-- The printed form of a hub error. -/
def BudlumxyzError.display : BudlumxyzError → String
  | notFound => "App not found"
  | notDeveloper => "Not the developer"
  | invalidData => "Invalid metadata"
  | notAuthorized => "Not authorized for governance verification"
  | duplicateAppId => "Duplicate app id"

def budlumxyzRegisterMinFee : UInt64 := 100

/-- The hub. -/
structure BudlumxyzRegistry where
  apps : OrdMap UInt64 AppRecord := ∅
  nextAppId : UInt64 := 0
  deriving Inhabited, DecidableEq

namespace BudlumxyzRegistry

variable (h : BudlumxyzRegistry)

/-- Register under the next identifier.  The counter's increment is checked at run time. -/
def registerApp (name : String) (developer : Address) (category : AppCategory)
    (websiteUrl : String) (manifestId : Option ContentId) (epoch : UInt64) :
    Except (Fault BudlumxyzError) (UInt64 × BudlumxyzRegistry) := do
  let id := h.nextAppId
  Except.ensure (!h.apps.contains id) (.fail .duplicateAppId)
  let next ← Except.ofOption (h.nextAppId.checkedAdd 1) .panic
  let record : AppRecord :=
    ⟨id, name, developer, category, websiteUrl, manifestId, epoch, false, false⟩
  return (id, { h with apps := h.apps.insert id record, nextAppId := next })

/-- The developer vouches for the record. -/
def attestAppAsDeveloper (id : UInt64) (caller : Address) :
    Except BudlumxyzError BudlumxyzRegistry := do
  let app ← Except.ofOption (h.apps.get id) .notFound
  Except.ensure (decide (app.developer = caller)) .notDeveloper
  return { h with apps := h.apps.insert id { app with developerAttested := true } }

/-- Mark an application verified if the record is still the one the proposal described. -/
def markVerifiedByProposal (C : Crypto) (id : UInt64) (expectedDeveloper : Address)
    (expectedManifestId : Option ContentId) (expectedWebsiteUrlHash : Hash32) :
    Except BudlumxyzError BudlumxyzRegistry := do
  let app ← Except.ofOption (h.apps.get id) .notFound
  Except.ensure (decide (app.developer = expectedDeveloper ∧ app.manifestId = expectedManifestId ∧
    C.sha256 (textBytes app.websiteUrl) = expectedWebsiteUrlHash)) .invalidData
  return { h with apps := h.apps.insert id { app with verified := true } }

end BudlumxyzRegistry

end Budlum
