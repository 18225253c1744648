import Relayer.Core.Address

/-!
# RPC URL validation

`validate_safe_url` decides which RPC endpoints a relayer may be configured
with.  It hands the host *text* of the parsed URL to an address classifier, so
the guarantee depends on how that text is written: IPv6 hosts come in square
brackets, and a name may carry the trailing dot of the DNS root.
-/

namespace Relayer.UrlSecurity

open Relayer.Address

/-- A host as the URL parser classifies it. -/
inductive Host where
  | domain (name : String)
  | ipv4 (ip : Ipv4Addr)
  | ipv6 (ip : Ipv6Addr)
  deriving DecidableEq, Repr

/-- `Url::host_str`: dotted-decimal IPv4 and bracketed IPv6. -/
def Host.hostStr : Host → String
  | .domain name => name
  | .ipv4 ip => String.ofList ip.toText
  | .ipv6 ip => String.ofList ('[' :: (ip.toText ++ [']']))

/-- The parts of a parsed URL that validation reads. -/
structure Url where
  scheme : String
  host : Option Host
  deriving DecidableEq, Repr

/-- Lower-casing; host text is ASCII, where it agrees with `str::to_lowercase`. -/
def toLowercase (text : String) : String :=
  String.ofList (text.toList.map Char.toLower)

def eqIgnoreAsciiCase (left right : String) : Bool :=
  toLowercase left == toLowercase right

def endsWith (text ending : String) : Bool :=
  ending.toList.isSuffixOf text.toList

/-! ## The validator -/

def isMetadataHostname (host : String) : Bool :=
  toLowercase host == "metadata.google.internal"

def isDangerousHostname (host : String) : Bool :=
  let hostLower := toLowercase host
  if hostLower == "localhost" || endsWith hostLower ".localhost" then true
  else if endsWith hostLower ".internal" then true
  else false

def isPrivateIpRange : IpAddr → Bool
  | .v4 ip => ip.isPrivate
  | .v6 ip => ip.isUniqueLocal

def isLoopback : IpAddr → Bool
  | .v4 ip => ip.isLoopback
  | .v6 ip => ip.isLoopback

def isLinkLocal : IpAddr → Bool
  | .v4 ip => ip.isLinkLocal
  | .v6 ip => ip.isUnicastLinkLocal

def isUnspecified : IpAddr → Bool
  | .v4 ip => ip.isUnspecified
  | .v6 ip => ip.isUnspecified

def isMetadataEndpoint : IpAddr → Bool
  | .v4 ip => ip == ⟨169, 254, 169, 254⟩
  | .v6 ip => ip == ⟨0xfd00, 0xec2, 0, 0, 0, 0, 0, 0x254⟩

/-- An IPv4-mapped IPv6 address stands for the IPv4 address inside it. -/
def underlying : IpAddr → IpAddr
  | .v4 ip => .v4 ip
  | .v6 ip => match ip.toIpv4Mapped with
      | some mapped => .v4 mapped
      | none => .v6 ip

/-- The checks of `validate_ip_address` after the mapped address is unwrapped. -/
def validateUnderlying (ip : IpAddr) (blockPrivate : Bool) : Except String Unit :=
  if isUnspecified ip then
    .error "Unspecified IP addresses (0.0.0.0, ::) are not allowed"
  else if isMetadataEndpoint ip then
    .error "Cloud metadata endpoints (169.254.169.254, fd00:ec2::254) are not allowed"
  else if blockPrivate && isLoopback ip then
    .error "Loopback addresses (127.0.0.0/8, ::1) are not allowed"
  else if blockPrivate && isPrivateIpRange ip then
    .error ("Private IP addresses (10.0.0.0/8, 172.16.0.0/12, 192.168.0.0/16, fc00::/7) " ++
      "are not allowed")
  else if blockPrivate && isLinkLocal ip then
    .error "Link-local addresses (169.254.0.0/16, fe80::/10) are not allowed"
  else .ok ()

def validateIpAddress (ip : IpAddr) (blockPrivate : Bool) : Except String Unit :=
  validateUnderlying (underlying ip) blockPrivate

/-- The host is on the allow-list, or there is none. -/
def allowListed (allowedHosts : List String) (host : String) : Bool :=
  allowedHosts.isEmpty || allowedHosts.any fun allowed => eqIgnoreAsciiCase allowed host

/-- `validate_safe_url` over any URL parser. -/
def validateSafeUrl (parse : String → Except String Url) (url : String)
    (allowedHosts : List String) (blockPrivate : Bool) : Except String Unit :=
  match parse url with
  | .error e => .error s!"Invalid URL format: {e}"
  | .ok parsedUrl =>
      let scheme := parsedUrl.scheme
      if scheme != "http" && scheme != "https" then
        .error s!"Invalid URL scheme '{scheme}': only http and https are allowed"
      else match parsedUrl.host.map Host.hostStr with
        | none => .error "URL must contain a host"
        | some host =>
            if !allowListed allowedHosts host then
              .error s!"Host '{host}' is not in the allowed hosts list"
            else if isMetadataHostname host then
              .error "Cloud metadata hostnames (metadata.google.internal) are not allowed"
            else if blockPrivate && isDangerousHostname host then
              .error s!"Hostname '{host}' is not allowed"
            else match parseIpAddr host with
              | some ip => validateIpAddress ip blockPrivate
              -- a domain name is allowed without resolving it
              | none => .ok ()

/-! ## Forbidden hosts -/

def ForbiddenAddress (blockPrivate : Bool) (ip : IpAddr) : Prop :=
  isUnspecified ip ∨ isMetadataEndpoint ip ∨
    (blockPrivate ∧ (isLoopback ip ∨ isPrivateIpRange ip ∨ isLinkLocal ip))

def ForbiddenName (blockPrivate : Bool) (name : String) : Prop :=
  name = "metadata.google.internal" ∨
    (blockPrivate ∧ (name = "localhost" ∨ endsWith name ".localhost" ∨
      endsWith name ".internal"))

/-- A name with and without the trailing dot of the DNS root is the same name. -/
def withoutRootDot (name : String) : String :=
  if name.toList.getLast? = some '.' then String.ofList name.toList.dropLast else name

/-- What the endpoint must not be, whatever form its host is written in. -/
def Host.Forbidden (blockPrivate : Bool) : Host → Prop
  | .domain name => ForbiddenName blockPrivate (withoutRootDot (toLowercase name))
  | .ipv4 ip => ForbiddenAddress blockPrivate (.v4 ip)
  | .ipv6 ip => ForbiddenAddress blockPrivate (underlying (.v6 ip))

/-- Forms the text checks do not see through: a bracketed IPv6 literal and a name
with a trailing dot. -/
def Host.WrittenUnchecked : Host → Prop
  | .domain name => name.toList.getLast? = some '.'
  | .ipv4 _ => False
  | .ipv6 _ => True

instance (blockPrivate : Bool) (ip : IpAddr) :
    Decidable (ForbiddenAddress blockPrivate ip) :=
  inferInstanceAs (Decidable (_ ∨ _ ∨ (_ ∧ (_ ∨ _ ∨ _))))

instance (blockPrivate : Bool) (name : String) :
    Decidable (ForbiddenName blockPrivate name) :=
  inferInstanceAs (Decidable (_ ∨ (_ ∧ (_ ∨ _ ∨ _))))

instance (blockPrivate : Bool) : (host : Host) → Decidable (host.Forbidden blockPrivate)
  | .domain _ => inferInstanceAs (Decidable (ForbiddenName _ _))
  | .ipv4 _ => inferInstanceAs (Decidable (ForbiddenAddress _ _))
  | .ipv6 _ => inferInstanceAs (Decidable (ForbiddenAddress _ _))

theorem validateUnderlying_eq_ok_iff (ip : IpAddr) (blockPrivate : Bool) :
    validateUnderlying ip blockPrivate = .ok () ↔ ¬ ForbiddenAddress blockPrivate ip := by
  simp only [validateUnderlying, ForbiddenAddress]
  cases isUnspecified ip <;> cases isMetadataEndpoint ip <;> cases blockPrivate <;>
    cases isLoopback ip <;> cases isPrivateIpRange ip <;> cases isLinkLocal ip <;> simp

theorem isDangerousHostname_eq_true_iff (host : String) :
    isDangerousHostname host = true ↔
      toLowercase host = "localhost" ∨ endsWith (toLowercase host) ".localhost" ∨
        endsWith (toLowercase host) ".internal" := by
  simp only [isDangerousHostname]
  by_cases hlocal : toLowercase host = "localhost"
  · simp [hlocal]
  · cases endsWith (toLowercase host) ".localhost" <;>
      cases endsWith (toLowercase host) ".internal" <;> simp [hlocal]

/-- The two name checks reject exactly the names that are forbidden as written. -/
theorem nameChecks_iff (host : String) (blockPrivate : Bool) :
    (isMetadataHostname host = false ∧
        (blockPrivate && isDangerousHostname host) = false) ↔
      ¬ ForbiddenName blockPrivate (toLowercase host) := by
  simp only [Bool.eq_false_iff, ne_eq, ← not_or, ForbiddenName, Bool.and_eq_true,
    isDangerousHostname_eq_true_iff, isMetadataHostname, beq_iff_eq]

/-- What acceptance means for a URL that parses with an HTTP scheme. -/
theorem validateSafeUrl_eq_ok_iff (parse : String → Except String Url) (url : String)
    (allowedHosts : List String) (blockPrivate : Bool) {parsedUrl : Url} {host : Host}
    (hparse : parse url = .ok parsedUrl)
    (hscheme : parsedUrl.scheme = "http" ∨ parsedUrl.scheme = "https")
    (hhost : parsedUrl.host = some host) :
    validateSafeUrl parse url allowedHosts blockPrivate = .ok () ↔
      allowListed allowedHosts host.hostStr ∧
        ¬ ForbiddenName blockPrivate (toLowercase host.hostStr) ∧
        ∀ ip, parseIpAddr host.hostStr = some ip →
          ¬ ForbiddenAddress blockPrivate (underlying ip) := by
  have hschemeCheck :
      (parsedUrl.scheme != "http" && parsedUrl.scheme != "https") = false := by
    rcases hscheme with hs | hs <;> simp [hs]
  rw [← nameChecks_iff]
  simp only [validateSafeUrl, hparse, hschemeCheck, hhost, Option.map_some,
    Bool.false_eq_true, if_false]
  cases allowListed allowedHosts host.hostStr
  · simp
  · cases isMetadataHostname host.hostStr
    · cases (blockPrivate && isDangerousHostname host.hostStr)
      · cases hip : parseIpAddr host.hostStr with
        | none => simp
        | some ip => simp [validateIpAddress, validateUnderlying_eq_ok_iff]
      · simp
    · simp

/-! ## How the host is written -/

@[simp]
theorem toList_toLowercase (text : String) :
    (toLowercase text).toList = text.toList.map Char.toLower := by
  simp [toLowercase]

theorem endsWith_iff (text ending : String) :
    endsWith text ending = true ↔ ending.toList <:+ text.toList :=
  List.isSuffixOf_iff_suffix

/-- The literal text that every forbidden name ends in. -/
theorem ForbiddenName.exists_ending {blockPrivate : Bool} {name : String}
    (hforbidden : ForbiddenName blockPrivate name) :
    ∃ ending ∈ ["metadata.google.internal", "localhost", ".localhost", ".internal"],
      ending.toList <:+ name.toList := by
  rcases hforbidden with rfl | ⟨-, rfl | hends | hends⟩
  · exact ⟨_, by simp, List.suffix_refl _⟩
  · exact ⟨_, by simp, List.suffix_refl _⟩
  · exact ⟨_, by simp, (endsWith_iff _ _).mp hends⟩
  · exact ⟨_, by simp, (endsWith_iff _ _).mp hends⟩

theorem ForbiddenName.mem_l {blockPrivate : Bool} {name : String}
    (hforbidden : ForbiddenName blockPrivate name) : 'l' ∈ name.toList := by
  obtain ⟨ending, hending, hsuffix⟩ := hforbidden.exists_ending
  have hmem : ∀ ending ∈ ["metadata.google.internal", "localhost", ".localhost",
      ".internal"], 'l' ∈ ending.toList := by
    decide
  exact hsuffix.mem (hmem ending hending)

theorem ForbiddenName.getLast? {blockPrivate : Bool} {name : String}
    (hforbidden : ForbiddenName blockPrivate name) :
    name.toList.getLast? = some 'l' ∨ name.toList.getLast? = some 't' := by
  obtain ⟨ending, hending, front, hfront⟩ := hforbidden.exists_ending
  have hlast : ∀ ending ∈ ["metadata.google.internal", "localhost", ".localhost",
      ".internal"], ending.toList.getLast? = some 'l' ∨
        ending.toList.getLast? = some 't' := by
    decide
  rw [← hfront, List.getLast?_append]
  rcases hlast ending hending with hl | ht
  · exact Or.inl (by rw [hl, Option.some_or])
  · exact Or.inr (by rw [ht, Option.some_or])

/-- Text that ends in punctuation is not forbidden as it is written. -/
theorem not_forbiddenName_of_getLast? {name : String} {char : Char}
    (hlast : name.toList.getLast? = some char) (hl : char ≠ 'l') (ht : char ≠ 't')
    (blockPrivate : Bool) : ¬ ForbiddenName blockPrivate name := by
  intro hforbidden
  rcases hforbidden.getLast? with heq | heq
  · exact hl (Option.some.inj (hlast.symm.trans heq))
  · exact ht (Option.some.inj (hlast.symm.trans heq))

/-- Lower-casing moves only `A`--`Z`, by 32 positions. -/
theorem toLower_eq_cases {char lower : Char} (hlower : char.toLower = lower) :
    char = lower ∨ (65 ≤ char.toNat ∧ char.toNat ≤ 90 ∧
      char.toNat + 32 = lower.toNat) := by
  simp only [Char.toLower] at hlower
  split_ifs at hlower with hupper
  · right
    have hlow : 65 ≤ char.toNat := UInt32.le_iff_toNat_le.mp hupper.1
    have hhigh : char.toNat ≤ 90 := UInt32.le_iff_toNat_le.mp hupper.2
    have hval : (char.val + 32).toNat = lower.toNat := congrArg Char.toNat hlower
    have hsum : (char.val + 32).toNat = (char.toNat + 32) % 2 ^ 32 :=
      UInt32.toNat_add char.val 32
    exact ⟨hlow, hhigh, by omega⟩
  · exact Or.inl hlower

theorem toLower_eq_dot_iff (char : Char) : char.toLower = '.' ↔ char = '.' := by
  constructor
  · intro hlower
    rcases toLower_eq_cases hlower with heq | ⟨hlow, -, hsum⟩
    · exact heq
    · have hdot : ('.' : Char).toNat = 46 := rfl
      omega
  · rintro rfl
    decide

theorem not_isAddressChar_of_toLower_eq_l {char : Char} (hlower : char.toLower = 'l') :
    ¬ IsAddressChar char := by
  rcases toLower_eq_cases hlower with rfl | ⟨-, -, hsum⟩
  · decide
  · have hupper : char = 'L' := by
      apply Char.ext
      apply UInt32.toNat.inj
      exact Nat.add_right_cancel hsum
    rw [hupper]
    decide

theorem parseIpAddr_eq_none_of_mem_l {text : String}
    (hmem : 'l' ∈ (toLowercase text).toList) : parseIpAddr text = none := by
  rw [toList_toLowercase] at hmem
  obtain ⟨char, hchar, hlower⟩ := List.mem_map.mp hmem
  exact parseIpAddr_eq_none_of_foreign hchar (not_isAddressChar_of_toLower_eq_l hlower)

theorem getLast?_toLowercase_eq_dot_iff (text : String) :
    (toLowercase text).toList.getLast? = some '.' ↔
      text.toList.getLast? = some '.' := by
  rw [toList_toLowercase, List.getLast?_map, Option.map_eq_some_iff]
  simp only [toLower_eq_dot_iff]
  exact ⟨fun ⟨char, hlast, heq⟩ => heq ▸ hlast, fun hlast => ⟨'.', hlast, rfl⟩⟩

/-- Removing the root dot adds no character. -/
theorem mem_of_mem_withoutRootDot {name : String} {char : Char}
    (hmem : char ∈ (withoutRootDot name).toList) : char ∈ name.toList := by
  simp only [withoutRootDot] at hmem
  split_ifs at hmem with hdot
  · rw [String.toList_ofList] at hmem
    exact List.mem_of_mem_dropLast hmem
  · exact hmem

/-- A bracketed or dotted form passes the name checks and is no address text. -/
theorem Host.WrittenUnchecked.passes {host : Host} (hform : host.WrittenUnchecked)
    {blockPrivate : Bool} (hforbidden : host.Forbidden blockPrivate) :
    ¬ ForbiddenName blockPrivate (toLowercase host.hostStr) ∧
      parseIpAddr host.hostStr = none := by
  cases host with
  | ipv4 ip => exact hform.elim
  | domain name =>
      have hlast := (getLast?_toLowercase_eq_dot_iff name).mpr hform
      refine ⟨not_forbiddenName_of_getLast? hlast (by decide) (by decide) _, ?_⟩
      apply parseIpAddr_eq_none_of_mem_l
      apply mem_of_mem_withoutRootDot
      exact ForbiddenName.mem_l hforbidden
  | ipv6 ip =>
      have hlast : (toLowercase (Host.ipv6 ip).hostStr).toList.getLast? = some ']' := by
        rw [toList_toLowercase, List.getLast?_map, Host.hostStr, String.toList_ofList,
          ← List.cons_append, List.getLast?_append]
        rfl
      refine ⟨not_forbiddenName_of_getLast? hlast (by decide) (by decide) _, ?_⟩
      have hbracket : '[' ∈ (Host.ipv6 ip).hostStr.toList := by simp [Host.hostStr]
      exact parseIpAddr_eq_none_of_foreign hbracket (by decide)

/-- In every other form the text that is checked is the host itself. -/
theorem Host.forbidden_of_not_writtenUnchecked {host : Host}
    (hform : ¬ host.WrittenUnchecked) {blockPrivate : Bool}
    (hforbidden : host.Forbidden blockPrivate) :
    ForbiddenName blockPrivate (toLowercase host.hostStr) ∨
      ∃ ip, parseIpAddr host.hostStr = some ip ∧
        ForbiddenAddress blockPrivate (underlying ip) := by
  cases host with
  | ipv6 ip => exact (hform trivial).elim
  | ipv4 ip => exact Or.inr ⟨.v4 ip, parseIpAddr_toText ip, hforbidden⟩
  | domain name =>
      left
      have hlast : ¬ (toLowercase name).toList.getLast? = some '.' :=
        fun hdot => hform ((getLast?_toLowercase_eq_dot_iff name).mp hdot)
      simpa only [Host.Forbidden, Host.hostStr, withoutRootDot, if_neg hlast]
        using hforbidden

/-- Exactly which accepted URLs name a forbidden host: those whose forbidden host
is written as a bracketed IPv6 literal or as a name with a trailing dot and gets
past the allow-list. -/
theorem validateSafeUrl_excludes_forbidden_iff
    (parse : String → Except String Url) (url : String) (allowedHosts : List String)
    (blockPrivate : Bool) (parsedUrl : Url) (host : Host)
    (hparse : parse url = .ok parsedUrl)
    (hscheme : parsedUrl.scheme = "http" ∨ parsedUrl.scheme = "https")
    (hhost : parsedUrl.host = some host) :
    (validateSafeUrl parse url allowedHosts blockPrivate = .ok () →
        ¬ host.Forbidden blockPrivate) ↔
      ¬ (host.Forbidden blockPrivate ∧ host.WrittenUnchecked ∧
          allowListed allowedHosts host.hostStr) := by
  rw [validateSafeUrl_eq_ok_iff parse url allowedHosts blockPrivate hparse hscheme hhost]
  constructor
  · rintro hsafe ⟨hforbidden, hform, hallowed⟩
    obtain ⟨hname, hip⟩ := hform.passes hforbidden
    refine hsafe ⟨hallowed, hname, ?_⟩ hforbidden
    intro ip hsome
    rw [hip] at hsome
    cases hsome
  · rintro hescape ⟨hallowed, hname, haddress⟩ hforbidden
    by_cases hform : host.WrittenUnchecked
    · exact hescape ⟨hforbidden, hform, hallowed⟩
    · rcases Host.forbidden_of_not_writtenUnchecked hform hforbidden with
        hname' | ⟨ip, hip, haddress'⟩
      · exact hname hname'
      · exact haddress ip hip haddress'

/-- The parser's view of two concrete URLs. -/
def parseSample : String → Except String Url
  | "http://[::1]/" => .ok ⟨"http", some (.ipv6 ⟨0, 0, 0, 0, 0, 0, 0, 1⟩)⟩
  | "http://127.0.0.1/" => .ok ⟨"http", some (.ipv4 ⟨127, 0, 0, 1⟩)⟩
  | _ => .error "relative URL without a base"

/-- The loopback address written as IPv4 is refused, since it is never written
unchecked. -/
theorem validateSafeUrl_refuses_ipv4_loopback :
    parseSample "http://127.0.0.1/" = .ok ⟨"http", some (.ipv4 ⟨127, 0, 0, 1⟩)⟩ ∧
      (validateSafeUrl parseSample "http://127.0.0.1/" [] true = .ok () →
        ¬ (Host.ipv4 ⟨127, 0, 0, 1⟩).Forbidden true) :=
  ⟨rfl, (validateSafeUrl_excludes_forbidden_iff parseSample "http://127.0.0.1/" [] true
    ⟨"http", some (.ipv4 ⟨127, 0, 0, 1⟩)⟩ (.ipv4 ⟨127, 0, 0, 1⟩) rfl (by decide)
    rfl).mpr (fun hescape => hescape.2.1)⟩

/-- The loopback address written as an IPv6 literal is accepted with private
addresses blocked. -/
theorem validateSafeUrl_accepts_ipv6_loopback :
    parseSample "http://[::1]/" =
        .ok ⟨"http", some (.ipv6 ⟨0, 0, 0, 0, 0, 0, 0, 1⟩)⟩ ∧
      validateSafeUrl parseSample "http://[::1]/" [] true = .ok () ∧
      (Host.ipv6 ⟨0, 0, 0, 0, 0, 0, 0, 1⟩).Forbidden true := by
  refine ⟨rfl, ?_, by decide⟩
  decide

end Relayer.UrlSecurity
