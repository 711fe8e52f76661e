import Headhunt.Lib.Result
import Headhunt.Lib.PyText

/-! `validate_https_base_url`: the base URLs a user may give for a model. -/
namespace Headhunt.Gateways
open Py

/-- What the checks read of an `urlparse` result. -/
structure ParseResult where
  scheme : String
  hostname : Option String
  username : Option String
  password : Option String
  query : String
  fragment : String

inductive IpAddress
  | v4 (address : BitVec 32)
  | v6 (address : BitVec 128)
deriving DecidableEq

structure UrlLibrary where
  /-- The error is the text of a `ValueError`. -/
  urlparse : String → Except String ParseResult
  /-- `none` is a `ValueError`. -/
  ipAddress : String → Option IpAddress
  isLoopback : IpAddress → Bool
  isPrivate : IpAddress → Bool
  isLinkLocal : IpAddress → Bool
  isMulticast : IpAddress → Bool
  isUnspecified : IpAddress → Bool
  isReserved : IpAddress → Bool

inductive UrlError
  | baseUrlSafety (message : String)
  | value (message : String)
deriving DecidableEq

/-- What the resolver gives for a host name. -/
abbrev AddressResolver := String → Except UrlError (List String)

def truthyPart (part : Option String) : Bool := (part.filter (· ≠ "")).isSome

section Checks

variable (lib : UrlLibrary)

def rejectUnsafeIp (address : IpAddress) : Except UrlError Unit :=
  if lib.isLoopback address || lib.isPrivate address || lib.isLinkLocal address ||
      lib.isMulticast address || lib.isUnspecified address || lib.isReserved address then
    .error (.baseUrlSafety "base_url host is not allowed")
  else .ok ()

def rejectUnsafeAddress (value : String) : Except UrlError Unit :=
  match lib.ipAddress value with
  | none => .error (.baseUrlSafety "base_url host resolved to an invalid address")
  | some address => rejectUnsafeIp lib address

/-- A host that is no address passes, its addresses are checked after it is resolved. -/
def rejectUnsafeHostname (hostname : String) : Except UrlError Unit :=
  if hostname = "localhost" ∨ ".local".toList <:+ hostname.toList then
    .error (.baseUrlSafety "base_url host is not allowed")
  else
    match lib.ipAddress hostname with
    | none => .ok ()
    | some address => rejectUnsafeIp lib address

def rejectUnsafeResolution (resolver : AddressResolver) (hostname : String) :
    Except UrlError Unit := do
  let addresses ← resolver hostname
  if addresses = [] then .error (.baseUrlSafety "base_url host did not resolve")
  else addresses.forM (rejectUnsafeAddress lib)

def validateHttpsBaseUrl (baseUrl : String) (trustedPublicHosts : List String)
    (resolveDns : Bool) (resolver : AddressResolver) : Except UrlError String :=
  match lib.urlparse baseUrl with
  | .error message => .error (.value message)
  | .ok parsed =>
    if parsed.scheme ≠ "https" ∨ truthyPart parsed.hostname = false then
      .error (.baseUrlSafety "base_url must be an https URL")
    else if truthyPart parsed.username || truthyPart parsed.password then
      .error (.baseUrlSafety "base_url must not contain credentials")
    else if parsed.query ≠ "" ∨ parsed.fragment ≠ "" then
      .error (.baseUrlSafety "base_url must not contain query or fragment")
    else do
      let hostname := lower (parsed.hostname.getD "")
      let trustedHosts := trustedPublicHosts.map lower
      rejectUnsafeHostname lib hostname
      if resolveDns = true ∧ hostname ∉ trustedHosts then rejectUnsafeResolution lib resolver hostname
      .ok (rstripSlash baseUrl)

end Checks
end Headhunt.Gateways
