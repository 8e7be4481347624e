import RouterKit.Lib.Lines
import RouterKit.Netcraze.Ndm
import Mathlib.Data.List.Infix

/-!
The reader of the router's running configuration: line by line, with the object
whose section is open. A field is set on that object; host assignments and the
lines about a default policy count wherever they stand.
-/

namespace RouterKit.Netcraze

open RouterKit.Lib RouterKit.Lib.Checked RouterKit.Lib.PyText RouterKit.Devices

/-- What the reader raises: its own error, or the `ValueError` of a number with
more digits than `int` reads. -/
inductive ConfigError where
  | live (error : LiveError)
  | valueError
deriving DecidableEq, Repr

/-- What the platform's text library knows outside ASCII. -/
structure TextClasses where
  foldNonAscii : Char → List Char
  wordNonAscii : Char → Bool

/-- The class `\w`. -/
def TextClasses.isWordChar (classes : TextClasses) (c : Char) : Bool :=
  if c.toNat < 128 then
    isAsciiDigit c || (0x41 ≤ c.toNat && c.toNat ≤ 0x5a) || (0x61 ≤ c.toNat && c.toNat ≤ 0x7a) ||
      c = '_'
  else classes.wordNonAscii c

/-- The object whose section is open. -/
inductive OpenObject where
  | proxy (proxyId : String)
  | policy (policyId : String)
deriving DecidableEq, Repr

/-- The state read so far. -/
structure ConfigReading where
  state : LiveState
  current : Option OpenObject

/-- `_INTERFACE_RE`. -/
def interfaceId (line : List Char) : Option String :=
  match words line with
  | [interface, objectId] =>
      if interface = "interface".toList ∧
          (nativeNumber "Proxy" (String.ofList objectId)).isSome then
        some (String.ofList objectId)
      else none
  | _ => none

/-- `_POLICY_RE`. -/
def policySectionId (line : List Char) : Option String :=
  match words line with
  | [ip, policy, objectId] =>
      if ip = "ip".toList ∧ policy = "policy".toList ∧
          (nativeNumber "Policy" (String.ofList objectId)).isSome then
        some (String.ofList objectId)
      else none
  | _ => none

/-- `_ASSIGNMENT_RE` behind the optional `ip hotspot`. -/
def hostAssignment : List (List Char) → Option (String × String)
  | [host, mac, policy, objectId] =>
      if host = "host".toList ∧ policy = "policy".toList ∧ mac.length = 17 ∧
          mac.all (fun c => isHexDigit c || c = ':') ∧
          (nativeNumber "Policy" (String.ofList objectId)).isSome then
        some (String.ofList mac, String.ofList objectId)
      else none
  | _ => none

/-- `_ASSIGNMENT_RE`. -/
def lineAssignment (line : List Char) : Option (String × String) :=
  match words line with
  | first :: second :: rest =>
      if first = "ip".toList ∧ second = "hotspot".toList then hostAssignment rest
      else hostAssignment (first :: second :: rest)
  | _ => none

/-- The text without one quote at its head and one at its end. -/
def unquoteOnce (text : List Char) : List Char :=
  let inner := if text.head? = some '"' then text.tail else text
  if inner.getLast? = some '"' then inner.dropLast else inner

/-- `_clean_description`. -/
def cleanDescription (text : List Char) : List Char :=
  ((strip text).dropWhile (· = '"')).rdropWhile (· = '"')

/-- `_DESCRIPTION_RE` with `_clean_description`. -/
def lineDescription (line : List Char) : Option String :=
  let keyword := "description".toList
  if line.take keyword.length = keyword ∧ (line.drop keyword.length).head?.any isSpace then
    some (String.ofList (cleanDescription
      (unquoteOnce ((line.drop keyword.length).dropWhile isSpace))))
  else none

/-- `int` of some digits. -/
def pyInt (digits : List Char) : Except ConfigError Nat :=
  if maxIntDigits < digits.length then .error .valueError
  else .ok (digits.foldl (fun n c => 10 * n + hexValue c) 0)

/-- `_AUTH_RE`. -/
def isAuthentication (classes : TextClasses) (line : List Char) : Bool :=
  match words line with
  | authentication :: secret :: _ =>
      authentication = "authentication".toList && ["identity".toList, "password".toList].any
        fun kind => kind.isPrefixOf secret &&
          !(secret.drop kind.length).head?.any classes.isWordChar
  | _ => false

/-- A line of a proxy's section that sets a field. -/
inductive ProxyField where
  | description (text : String)
  | protocol (name : String)
  | upstream (host : String) (port : Nat)
  | up
  | authentication
deriving DecidableEq, Repr

def ProxyField.set : ProxyField → ProxyState → ProxyState
  | description text, proxy => { proxy with description := text }
  | protocol name, proxy => { proxy with protocol := name }
  | upstream host port, proxy => { proxy with host, port }
  | up, proxy => { proxy with enabled := true }
  | authentication, proxy => { proxy with authenticationConfigured := true }

@[simp] theorem ProxyField.set_objectId (field : ProxyField) (proxy : ProxyState) :
    (field.set proxy).objectId = proxy.objectId := by
  cases field <;> rfl

inductive PolicyField where
  | description (text : String)
  | permit (interface : String)
deriving DecidableEq, Repr

def PolicyField.set : PolicyField → PolicyState → PolicyState
  | description text, policy => { policy with description := text }
  | permit interface, policy =>
      { policy with globalInterfaces := policy.globalInterfaces ++ [interface] }

@[simp] theorem PolicyField.set_objectId (field : PolicyField) (policy : PolicyState) :
    (field.set policy).objectId = policy.objectId := by
  cases field <;> rfl

section Reader

variable (classes : TextClasses)

/-- `_PROTOCOL_RE`. -/
def lineProtocol (line : List Char) : Option String :=
  match words line with
  | [proxy, protocol, name] =>
      if proxy = "proxy".toList ∧ protocol = "protocol".toList then
        some (String.ofList (casefold classes.foldNonAscii name))
      else none
  | _ => none

/-- `_UPSTREAM_RE`: the host and the digits of the port. -/
def lineUpstream (line : List Char) : Option (String × List Char) :=
  match words line with
  | [proxy, upstream, host] =>
      if proxy = "proxy".toList ∧ upstream = "upstream".toList then some (String.ofList host, ['0'])
      else none
  | [proxy, upstream, host, port] =>
      if proxy = "proxy".toList ∧ upstream = "upstream".toList ∧ port.all isAsciiDigit then
        some (String.ofList host, port)
      else none
  | _ => none

/-- `_PERMIT_GLOBAL_RE`. -/
def linePermit (line : List Char) : Option String :=
  match words line with
  | [permit, scope, interface] =>
      if permit = "permit".toList ∧ scope = "global".toList then some (String.ofList interface)
      else none
  | [permit, scope, interface, order] =>
      if permit = "permit".toList ∧ scope = "global".toList ∧ order.all isAsciiDigit then
        some (String.ofList interface)
      else none
  | _ => none

/-- The field that a line in the section of a proxy sets, if any. -/
def proxyField (line : List Char) : Except ConfigError (Option ProxyField) :=
  match lineDescription line with
  | some text => .ok (some (.description text))
  | none =>
      match lineProtocol classes line with
      | some name => .ok (some (.protocol name))
      | none =>
          match lineUpstream line with
          | some (host, digits) => do
              let port ← pyInt digits
              pure (some (.upstream host port))
          | none =>
              if line = "up".toList then .ok (some .up)
              else if isAuthentication classes line then .ok (some .authentication)
              else .ok none

def policyField (line : List Char) : Option PolicyField :=
  match lineDescription line with
  | some text => some (.description text)
  | none => (linePermit line).map .permit

def LiveState.setProxy (state : LiveState) (proxyId : String) (field : ProxyField) : LiveState :=
  state.touchProxy proxyId field.set field.set_objectId

def LiveState.setPolicy (state : LiveState) (policyId : String) (field : PolicyField) : LiveState :=
  state.touchPolicy policyId field.set field.set_objectId

/-- A line that speaks of a default policy is kept as it stands. -/
def LiveState.guardLine (state : LiveState) (line : List Char) : LiveState :=
  { state with
    defaultGuard := state.defaultGuard ++
      if "default-policy".toList <:+: line then [String.ofList line] else [] }

def invalidHostPolicy : ConfigError :=
  .live (liveAdapterError "Running configuration contains an invalid host policy identity.")

-- a header that comes again leaves the object as it was read
theorem proxy_opened (proxy : ProxyState) : (id proxy).objectId = proxy.objectId := rfl

theorem policy_opened (policy : PolicyState) : (id policy).objectId = policy.objectId := rfl

/-- One round of the loop, on a stripped line. -/
def readLine (reading : ConfigReading) (line : List Char) : Except ConfigError ConfigReading :=
  if line = [] ∨ line = ['!'] then .ok { reading with current := none }
  else
    match interfaceId line with
    | some proxyId => .ok {
        state := reading.state.touchProxy proxyId id proxy_opened
        current := some (.proxy proxyId) }
    | none =>
        match policySectionId line with
        | some policyId => .ok {
            state := reading.state.touchPolicy policyId id policy_opened
            current := some (.policy policyId) }
        | none =>
            match lineAssignment line with
            | some (mac, policyId) =>
                match normalizeTrustedDeviceMac mac with
                | .ok deviceMac =>
                    .ok { reading with state := reading.state.assign deviceMac policyId }
                | .error _ => .error invalidHostPolicy
            | none =>
                let guarded := reading.state.guardLine line
                match reading.current with
                | some (.proxy proxyId) => do
                    match ← proxyField classes line with
                    | some field => pure { reading with state := guarded.setProxy proxyId field }
                    | none => pure { reading with state := guarded }
                | some (.policy policyId) =>
                    match policyField line with
                    | some field => .ok { reading with state := guarded.setPolicy policyId field }
                    | none => .ok { reading with state := guarded }
                | none => .ok { reading with state := guarded }

def LiveState.nothing : LiveState where
  proxies := []
  policies := []
  assignments := []
  defaultGuard := []
  proxyIds_nodup := List.nodup_nil
  policyIds_nodup := List.nodup_nil
  deviceMacs_nodup := List.nodup_nil

/-- `parse_running_config`. -/
def parseRunningConfig (text : String) : Except ConfigError LiveState := do
  let reading ← ((splitLines text.toList).map strip).foldlM (readLine classes)
    { state := .nothing, current := none }
  pure reading.state.parsed

end Reader

end RouterKit.Netcraze
