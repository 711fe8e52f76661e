import Headhunt.Gateways.UrlSafety

/-! What an accepted base URL may reach. The flags the checks read say nothing of the shared
address space, so a URL is kept off the inside of the network exactly when its host has no address
there. -/
namespace Headhunt.Gateways
open Py

/-- 100.64.0.0/10, also as an IPv4-mapped address. -/
def inSharedSpace : IpAddress → Bool
  | .v4 address => address >>> 22 = 0x191#32
  | .v6 address => address >>> 32 = 0xffff#128 ∧ (address.setWidth 32) >>> 22 = 0x191#32

section Checks

variable (lib : UrlLibrary)

/-- An address of none of these classes. The site-local addresses of IPv6 are no class of their own,
and pass. -/
structure GloballyRoutable (address : IpAddress) : Prop where
  loopback : lib.isLoopback address = false
  notPrivate : lib.isPrivate address = false
  linkLocal : lib.isLinkLocal address = false
  multicast : lib.isMulticast address = false
  unspecified : lib.isUnspecified address = false
  reserved : lib.isReserved address = false
  shared : inSharedSpace address = false

/-- An https URL with a host, and without credentials, query or fragment. -/
structure PlainUrl (parsed : ParseResult) (host : String) : Prop where
  scheme : parsed.scheme = "https"
  hostname : parsed.hostname = some host
  host_ne : host ≠ ""
  username : truthyPart parsed.username = false
  password : truthyPart parsed.password = false
  query : parsed.query = ""
  fragment : parsed.fragment = ""

def Trusted (trustedPublicHosts : List String) (host : String) : Prop :=
  lower host ∈ trustedPublicHosts.map lower

variable (baseUrl : String) (trustedPublicHosts : List String) (resolver : AddressResolver)

/-- The URL is plain, and its host is trusted or resolves to addresses of none of the classes only. -/
structure PublicUrl (parsed : ParseResult) (host : String) : Prop where
  parses : lib.urlparse baseUrl = .ok parsed
  plain : PlainUrl parsed host
  routable : Trusted trustedPublicHosts host ∨ ∃ addresses, resolver (lower host) = .ok addresses ∧
    ∀ value ∈ addresses, ∃ address, lib.ipAddress value = some address ∧
      GloballyRoutable lib address

/-- Where the URL and each address of its host pass the flags, an untrusted host has no address in
the shared space. -/
def SharedSpaceAvoided : Prop :=
  ∀ parsed host addresses, lib.urlparse baseUrl = .ok parsed → PlainUrl parsed host →
    rejectUnsafeHostname lib (lower host) = .ok () → ¬Trusted trustedPublicHosts host →
    resolver (lower host) = .ok addresses → addresses ≠ [] →
    (∀ value ∈ addresses, rejectUnsafeAddress lib value = .ok ()) →
    ∀ value ∈ addresses, ∀ address, lib.ipAddress value = some address →
      inSharedSpace address = false

end Checks

section Accepted

variable {lib : UrlLibrary}

theorem rejectUnsafeIp_eq_ok {address : IpAddress} : rejectUnsafeIp lib address = .ok () ↔
    lib.isLoopback address = false ∧ lib.isPrivate address = false ∧
      lib.isLinkLocal address = false ∧ lib.isMulticast address = false ∧
      lib.isUnspecified address = false ∧ lib.isReserved address = false := by
  unfold rejectUnsafeIp
  rw [Except.ite_error_eq_ok]
  simp [and_assoc]

theorem rejectUnsafeAddress_eq_ok {value : String} : rejectUnsafeAddress lib value = .ok () ↔
    ∃ address, lib.ipAddress value = some address ∧ rejectUnsafeIp lib address = .ok () := by
  unfold rejectUnsafeAddress
  cases lib.ipAddress value <;> simp

/-- An address that passes the flags is globally routable unless it is in the shared space. -/
theorem globallyRoutable_iff {address : IpAddress} : GloballyRoutable lib address ↔
    rejectUnsafeIp lib address = .ok () ∧ inSharedSpace address = false := by
  rw [rejectUnsafeIp_eq_ok]
  constructor
  · intro h
    exact ⟨⟨h.loopback, h.notPrivate, h.linkLocal, h.multicast, h.unspecified, h.reserved⟩,
      h.shared⟩
  · rintro ⟨⟨hloopback, hprivate, hlink, hmulticast, hunspecified, hreserved⟩, hshared⟩
    exact ⟨hloopback, hprivate, hlink, hmulticast, hunspecified, hreserved, hshared⟩

theorem forM_eq_ok {α ε : Type} {check : α → Except ε Unit} {items : List α} :
    items.forM check = .ok () ↔ ∀ item ∈ items, check item = .ok () := by
  induction items with
  | nil => simp [pure, Except.pure]
  | cons item items ih =>
    rw [List.forall_mem_cons, ← ih]
    exact Except.check_eq_ok

variable {baseUrl url : String} {trustedPublicHosts : List String} {resolver : AddressResolver}

theorem rejectUnsafeResolution_eq_ok {hostname : String} :
    rejectUnsafeResolution lib resolver hostname = .ok () ↔
      ∃ addresses, resolver hostname = .ok addresses ∧ addresses ≠ [] ∧
        ∀ value ∈ addresses, rejectUnsafeAddress lib value = .ok () := by
  simp only [rejectUnsafeResolution, Except.bind_eq_ok, Except.ite_error_eq_ok, forM_eq_ok]

theorem truthyPart_eq_true {part : Option String} :
    truthyPart part = true ↔ ∃ text, part = some text ∧ text ≠ "" := by
  cases part <;> simp [truthyPart, Option.filter]

/-- What the checks of an accepted URL have seen. -/
theorem validateHttpsBaseUrl_eq_ok :
    (∃ url, validateHttpsBaseUrl lib baseUrl trustedPublicHosts true resolver = .ok url) ↔
      ∃ parsed host, lib.urlparse baseUrl = .ok parsed ∧ PlainUrl parsed host ∧
        rejectUnsafeHostname lib (lower host) = .ok () ∧
        (Trusted trustedPublicHosts host ∨ ∃ addresses, resolver (lower host) = .ok addresses ∧
          addresses ≠ [] ∧ ∀ value ∈ addresses, rejectUnsafeAddress lib value = .ok ()) := by
  constructor
  · rintro ⟨url, h⟩
    unfold validateHttpsBaseUrl at h
    cases hparse : lib.urlparse baseUrl with
    | error message => simp [hparse] at h
    | ok parsed =>
      simp only [hparse, Except.ite_error_eq_ok, Except.check_eq_ok] at h
      obtain ⟨hhost, hcredentials, hquery, hname, hresolve⟩ := h
      simp only [not_or, not_not, Bool.not_eq_false] at hhost
      obtain ⟨host, hhostname, hne⟩ := truthyPart_eq_true.mp hhost.2
      simp only [Bool.or_eq_true, not_or, Bool.not_eq_true] at hcredentials
      simp only [not_or, not_not] at hquery
      rw [hhostname, Option.getD_some] at hname hresolve
      refine ⟨parsed, host, rfl, ⟨hhost.1, hhostname, hne, hcredentials.1, hcredentials.2,
        hquery.1, hquery.2⟩, hname, ?_⟩
      by_cases htrusted : Trusted trustedPublicHosts host
      · exact .inl htrusted
      · have hmem : lower host ∉ trustedPublicHosts.map lower := htrusted
        rw [if_pos ⟨trivial, hmem⟩, Except.check_eq_ok] at hresolve
        exact .inr (rejectUnsafeResolution_eq_ok.mp hresolve.1)
  · rintro ⟨parsed, host, hparse, hplain, hname, hreach⟩
    refine ⟨rstripSlash baseUrl, ?_⟩
    have hhost : truthyPart (some host) = true :=
      truthyPart_eq_true.mpr ⟨host, rfl, hplain.host_ne⟩
    simp only [validateHttpsBaseUrl, hparse, Except.ite_error_eq_ok, Except.check_eq_ok,
      hplain.scheme, hplain.username, hplain.password, hplain.query, hplain.fragment,
      hplain.hostname, Option.getD_some, hname]
    by_cases htrusted : Trusted trustedPublicHosts host
    · have hmem : lower host ∈ trustedPublicHosts.map lower := htrusted
      simp [hmem, hhost]
    · have hmem : lower host ∉ trustedPublicHosts.map lower := htrusted
      have hresolve := rejectUnsafeResolution_eq_ok.mpr (hreach.resolve_left htrusted)
      simp only [hmem, hhost, hresolve, not_false_eq_true, and_self, if_true]
      exact ⟨by simp, by simp, by simp, trivial, rfl⟩

/-- An accepted URL is public exactly if the shared address space is avoided. -/
theorem publicUrl_iff :
    (∀ url, validateHttpsBaseUrl lib baseUrl trustedPublicHosts true resolver = .ok url →
        ∃ parsed host, PublicUrl lib baseUrl trustedPublicHosts resolver parsed host) ↔
      SharedSpaceAvoided lib baseUrl trustedPublicHosts resolver := by
  constructor
  · intro hpublic parsed host addresses hparse hplain hname htrusted hresolve hne hchecked
    obtain ⟨url, hurl⟩ := validateHttpsBaseUrl_eq_ok.mpr
      ⟨parsed, host, hparse, hplain, hname, .inr ⟨addresses, hresolve, hne, hchecked⟩⟩
    obtain ⟨parsed', host', hsame⟩ := hpublic url hurl
    obtain rfl := Except.ok.inj (hparse.symm.trans hsame.parses)
    obtain rfl := Option.some.inj (hplain.hostname.symm.trans hsame.plain.hostname)
    obtain ⟨addresses', hresolve', hroutable⟩ := hsame.routable.resolve_left htrusted
    obtain rfl := Except.ok.inj (hresolve.symm.trans hresolve')
    intro value hvalue address haddress
    obtain ⟨address', haddress', hroutes⟩ := hroutable value hvalue
    obtain rfl := Option.some.inj (haddress.symm.trans haddress')
    exact hroutes.shared
  · intro havoided url hurl
    obtain ⟨parsed, host, hparse, hplain, hname, hreach⟩ := validateHttpsBaseUrl_eq_ok.mp ⟨url, hurl⟩
    refine ⟨parsed, host, hparse, hplain, ?_⟩
    by_cases htrusted : Trusted trustedPublicHosts host
    · exact .inl htrusted
    · obtain ⟨addresses, hresolve, hne, hchecked⟩ := hreach.resolve_left htrusted
      refine .inr ⟨addresses, hresolve, fun value hvalue => ?_⟩
      obtain ⟨address, haddress, hflags⟩ := rejectUnsafeAddress_eq_ok.mp (hchecked value hvalue)
      refine ⟨address, haddress, globallyRoutable_iff.mpr ⟨hflags, ?_⟩⟩
      exact havoided parsed host addresses hparse hplain hname htrusted hresolve hne hchecked value
        hvalue address haddress

end Accepted

/-- The libraries on one URL and the one address of its host, 100.64.0.1: none of the flags is set
for it. -/
def sharedUrls : UrlLibrary where
  urlparse url :=
    if url = "https://models.example" then
      .ok ⟨"https", some "models.example", none, none, "", ""⟩
    else .error "unknown url"
  ipAddress value := if value = "100.64.0.1" then some (.v4 0x64400001#32) else none
  isLoopback _ := false
  isPrivate _ := false
  isLinkLocal _ := false
  isMulticast _ := false
  isUnspecified _ := false
  isReserved _ := false

def UrlsPublic : Prop :=
  ∀ (lib : UrlLibrary) (baseUrl : String) (trustedPublicHosts : List String)
    (resolver : AddressResolver) (url : String),
    validateHttpsBaseUrl lib baseUrl trustedPublicHosts true resolver = .ok url →
    ∃ parsed host, PublicUrl lib baseUrl trustedPublicHosts resolver parsed host

theorem not_urlsPublic : ¬UrlsPublic := by
  intro h
  have hurl : validateHttpsBaseUrl sharedUrls "https://models.example" [] true
      (fun _ => .ok ["100.64.0.1"]) = .ok "https://models.example" :=
    Except.toOption_eq_some.mp (by decide +kernel)
  obtain ⟨parsed, host, hpublic⟩ := h _ _ _ _ _ hurl
  have htrusted : ¬Trusted [] host := List.not_mem_nil
  obtain ⟨addresses, hresolve, hroutable⟩ := hpublic.routable.resolve_left htrusted
  obtain rfl := Except.ok.inj hresolve
  obtain ⟨address, haddress, hroutes⟩ := hroutable "100.64.0.1" (List.mem_singleton_self _)
  have hsome : sharedUrls.ipAddress "100.64.0.1" = some (.v4 0x64400001#32) := by decide
  obtain rfl := Option.some.inj (hsome.symm.trans haddress)
  exact absurd hroutes.shared (by decide)

end Headhunt.Gateways
