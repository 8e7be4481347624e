import RouterKit.Lib.Url
import RouterKit.Network.AddressPolicy

/-!
The URLs a profile source may be fetched from: absolute HTTPS URLs without user
information, fragment or foreign port, whose host is a domain name or an
acceptable address.
-/

namespace RouterKit.Network

open RouterKit.Lib RouterKit.Lib.Checked RouterKit.Lib.PyText RouterKit.Lib.IpText RouterKit.Lib.Url

def maxUrlBytes : Nat := 8192

/-- What the platform knows about texts and addresses: the Unicode database, the
IDNA form of a label and the address classes. -/
structure Platform where
  unicode : UnicodeTables
  idna : List Char → Option (List Char)
  classes : AddressClasses

structure ValidatedUrl where
  hostname : List Char
  authority : List Char
  requestTarget : List Char
  normalizedUrl : List Char
  canonicalIdentity : List Char × List Char × List Char × List Char
  literalAddress : Option (List Char)
deriving DecidableEq

/-- `_generic_url_error`. -/
def genericUrlError : Raised :=
  .profileNetwork .urlPolicyError "HTTPS source URL is not allowed by policy."

def normalizeHttpsSourceValue (value : List Char) : Except Raised (List Char) :=
  if strip value = [] then .error genericUrlError else .ok (strip value)

/-- The length of the UTF-8 encoding. -/
def utf8Length (text : List Char) : Nat := (text.map Char.utf8Size).sum

def hasInvalidPercentEscape : List Char → Bool
  | [] => false
  | '%' :: high :: low :: rest =>
      if isHexDigit high && isHexDigit low then hasInvalidPercentEscape rest else true
  | '%' :: _ => true
  | _ :: rest => hasInvalidPercentEscape rest

/-- `str.upper()` on the ASCII letters. -/
def asciiUpper (c : Char) : Char :=
  if 0x61 ≤ c.toNat && c.toNat ≤ 0x7a then Char.ofNat (c.toNat - 0x20) else c

def canonicalPercentEscapes : List Char → List Char
  | '%' :: high :: low :: rest =>
      '%' :: asciiUpper high :: asciiUpper low :: canonicalPercentEscapes rest
  | c :: rest => c :: canonicalPercentEscapes rest
  | [] => []

def isAsciiAlnum (c : Char) : Bool := isAsciiLetter c || isAsciiDigit c

/-- `_HOST_LABEL_RE`. -/
def isHostLabel (label : List Char) : Bool :=
  label.length ≤ 63 && label.all (fun c => isAsciiAlnum c || c = '-') &&
    label.head?.any isAsciiAlnum && label.getLast?.any isAsciiAlnum

def encodeLabel (platform : Platform) (label : List Char) : Except Raised (List Char) :=
  match platform.idna label with
  | some encoded =>
      if encoded.length > 63 || !isHostLabel encoded then .error genericUrlError
      else .ok (encoded.map asciiLower)
  | none => .error genericUrlError

def validateDomain (platform : Platform) (hostname : List Char) : Except Raised (List Char) := do
  let candidate := if hostname.getLast? = some '.' then hostname.dropLast else hostname
  raiseIf (candidate = [] ∨ candidate.getLast? = some '.' ∨ '%' ∈ candidate) genericUrlError
  let labels := candidate.splitOn '.'
  raiseIf (labels.any (· = [])) genericUrlError
  let encodedLabels ← mapEach (encodeLabel platform) labels
  let canonical := ['.'].intercalate encodedLabels
  raiseIf (canonical.length > 253) genericUrlError
  raiseIf (canonical ≠ [] ∧ canonical.all (fun c => isAsciiDigit c || c = '.')) genericUrlError
  .ok canonical

/-- The canonical host, and the address when the host is one. -/
def canonicalHost (platform : Platform) (hostname : List Char) :
    Except Raised (List Char × Option (List Char)) :=
  match ipAddress hostname with
  | none => do return (← validateDomain platform hostname, none)
  | some literal => do
      match ← validateAddressSet platform.classes [literal.text] with
      | accepted :: _ => .ok (accepted, some accepted)
      | [] => .error .otherException

def validateHttpsUrl (platform : Platform) (url : List Char) : Except Raised ValidatedUrl := do
  raiseIf (url = [] ∨ utf8Length url > maxUrlBytes) genericUrlError
  raiseIf (url.any fun c => isSpace c || c.toNat < 32 || (127 ≤ c.toNat && c.toNat ≤ 159))
    genericUrlError
  raiseIf ('\\' ∈ url ∨ hasInvalidPercentEscape url) genericUrlError
  match urlsplit platform.unicode url [] with
  | none => .error genericUrlError
  | some parsed =>
    match parsed.port with
    | none => .error genericUrlError
    | some port =>
      let hostname := (parsed.hostname platform.unicode).getD []
      raiseIf (lower platform.unicode parsed.scheme ≠ "https".toList ∨ parsed.netloc = [] ∨
        hostname = []) genericUrlError
      raiseIf ('@' ∈ parsed.netloc ∨ parsed.userInfo ≠ (none, none)) genericUrlError
      raiseIf ('#' ∈ url ∨ parsed.fragment ≠ [] ∨ parsed.netloc.getLast? = some ':') genericUrlError
      raiseIf (¬(port = none ∨ port = some 443)) genericUrlError
      raiseIf (!(parsed.path ++ parsed.query).all (·.toNat < 128)) genericUrlError
      let (host, literalAddress) ← canonicalHost platform hostname
      let hostForAuthority := if ':' ∈ host then '[' :: host ++ [']'] else host
      let explicitPort := port = some 443 ∧ (rpartition ':' parsed.netloc).2 = "443".toList
      let authority := hostForAuthority ++ if explicitPort then ":443".toList else []
      let path := if parsed.path = [] then ['/'] else parsed.path
      .ok {
        hostname := host
        authority
        requestTarget := path ++ (if parsed.query = [] then [] else '?' :: parsed.query)
        normalizedUrl := urlunsplit ⟨"https".toList, authority, parsed.path, parsed.query, []⟩
        canonicalIdentity := ("https".toList, host, canonicalPercentEscapes path,
          canonicalPercentEscapes parsed.query)
        literalAddress }

/-- The raised exception is one of the profile network's own. -/
def IsProfileNetwork (e : Raised) : Prop := ∃ kind message, e = .profileNetwork kind message

theorem genericUrlError_isProfileNetwork : IsProfileNetwork genericUrlError := ⟨_, _, rfl⟩

theorem validateAddressSet_raises (classes : AddressClasses) (addresses : List (List Char)) :
    RaisesOnly IsProfileNetwork (validateAddressSet classes addresses) := by
  have hstep : ∀ accepted value,
      RaisesOnly IsProfileNetwork (acceptAddress classes accepted value) := by
    intro accepted value e h
    unfold acceptAddress normalizeAddress at h
    cases hread : ipAddress value with
    | none =>
        rw [hread] at h
        obtain rfl := Except.error.inj h
        exact ⟨_, _, rfl⟩
    | some address =>
        simp only [hread, bind_ok_left, ipAddress_text (ipAddress_valid hread)] at h
        split at h
        · obtain rfl := Except.error.inj h
          exact ⟨_, _, rfl⟩
        · cases h
  have hloop : ∀ values accepted,
      RaisesOnly IsProfileNetwork (acceptAddresses classes accepted values) := by
    intro values
    induction values with
    | nil =>
        intro accepted e h
        cases h
    | cons value rest ih =>
        intro accepted
        exact (hstep accepted value).bind fun after _ => ih after
  intro e h
  simp only [validateAddressSet, bind_eq_error, raiseIf_eq_error, raiseIf_eq_ok] at h
  rcases h with ⟨-, rfl⟩ | ⟨-, -, h | ⟨accepted, -, ⟨-, rfl⟩ | ⟨-, -, h⟩⟩⟩
  · exact ⟨_, _, rfl⟩
  · exact hloop _ _ e h
  · exact ⟨_, _, rfl⟩
  · cases h

theorem validateAddressSet_ne_nil {classes : AddressClasses} {addresses result : List (List Char)}
    (h : validateAddressSet classes addresses = .ok result) : result ≠ [] := by
  simp only [validateAddressSet, bind_eq_ok, raiseIf_eq_ok, exists_unit] at h
  obtain ⟨-, accepted, -, hne, hresult⟩ := h
  obtain rfl := Except.ok.inj hresult
  intro hnil
  have hperm := Keyed.sortByKey_perm Prod.fst accepted
  rw [List.map_eq_nil_iff] at hnil
  rw [hnil] at hperm
  exact hne hperm.symm.eq_nil

theorem validateDomain_raises (platform : Platform) (hostname : List Char) :
    RaisesOnly IsProfileNetwork (validateDomain platform hostname) := by
  have hencode : ∀ label, RaisesOnly IsProfileNetwork (encodeLabel platform label) := by
    intro label
    unfold encodeLabel
    split
    · split
      · exact raisesOnly_error.mpr genericUrlError_isProfileNetwork
      · exact raisesOnly_ok
    · exact raisesOnly_error.mpr genericUrlError_isProfileNetwork
  unfold validateDomain
  apply RaisesOnly.bind
  · exact raisesOnly_raiseIf.mpr fun _ => genericUrlError_isProfileNetwork
  intro _ _
  apply RaisesOnly.bind
  · exact raisesOnly_raiseIf.mpr fun _ => genericUrlError_isProfileNetwork
  intro _ _
  apply RaisesOnly.bind
  · exact RaisesOnly.mapEach fun label _ => hencode label
  intro encodedLabels _
  apply RaisesOnly.bind
  · exact raisesOnly_raiseIf.mpr fun _ => genericUrlError_isProfileNetwork
  intro _ _
  apply RaisesOnly.bind
  · exact raisesOnly_raiseIf.mpr fun _ => genericUrlError_isProfileNetwork
  intro _ _
  exact raisesOnly_ok

theorem canonicalHost_raises (platform : Platform) (hostname : List Char) :
    RaisesOnly IsProfileNetwork (canonicalHost platform hostname) := by
  unfold canonicalHost
  split
  · apply (validateDomain_raises platform hostname).bind
    intro host _
    exact raisesOnly_pure
  · next literal _ =>
    apply (validateAddressSet_raises platform.classes [literal.text]).bind
    intro accepted haccepted
    split
    · exact raisesOnly_ok
    · exact absurd rfl (validateAddressSet_ne_nil haccepted)

/-- A URL is validated or refused with an error of the profile network. -/
theorem validateHttpsUrl_raises (platform : Platform) (url : List Char) :
    RaisesOnly IsProfileNetwork (validateHttpsUrl platform url) := by
  have hcheck : ∀ (condition : Prop) [Decidable condition],
      RaisesOnly IsProfileNetwork (raiseIf condition genericUrlError) := by
    intro condition _
    exact raisesOnly_raiseIf.mpr fun _ => genericUrlError_isProfileNetwork
  unfold validateHttpsUrl
  apply (hcheck _).bind
  intro _ _
  apply (hcheck _).bind
  intro _ _
  apply (hcheck _).bind
  intro _ _
  split
  · exact raisesOnly_error.mpr genericUrlError_isProfileNetwork
  · split
    · exact raisesOnly_error.mpr genericUrlError_isProfileNetwork
    · apply (hcheck _).bind
      intro _ _
      apply (hcheck _).bind
      intro _ _
      apply (hcheck _).bind
      intro _ _
      apply (hcheck _).bind
      intro _ _
      apply (hcheck _).bind
      intro _ _
      apply (canonicalHost_raises platform _).bind
      intro host _
      exact raisesOnly_ok

end RouterKit.Network
