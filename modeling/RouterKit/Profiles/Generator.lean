import RouterKit.Profiles.EndpointManifest

/-!
The configuration fragments of the profile generator: what it checks of the
profiles, and the documents it builds from them and the selected nodes.
-/

namespace RouterKit.Profiles

open RouterKit.Lib RouterKit.Lib.Checked

/-- One object of the list under `profiles`. -/
abbrev Profile := List (String × Json String)

/-- `NodeRecord`, without the link it was parsed from. -/
structure NodeRecord where
  name : String
  uuid : String
  host : String
  port : Int
  network : String
  security : String
  flow : String
  sni : String
  fp : String
  publicKey : String
  shortId : String
  spiderPath : String
deriving DecidableEq, Repr

/-- What a run of the generator ends with, short of returning. `traceback` stands for
the exceptions of the language that nothing catches. -/
inductive Raised where
  | systemExit (message : String)
  | privateFile (message : String)
  | durability (message : String)
  | osError
  | interrupt
  | traceback
  | killed
deriving DecidableEq, Repr

/-- `p["name"]`, for a profile that has passed `validate_profile_names`. -/
def profileName (profile : Profile) : String :=
  match Json.get profile "name" with
  | .str name => name
  | _ => ""

def isLowerOrDigit (c : Char) : Bool :=
  (0x61 ≤ c.toNat && c.toNat ≤ 0x7a) || (0x30 ≤ c.toNat && c.toNat ≤ 0x39)

/-- `re.match(r"^[a-z0-9][a-z0-9_-]*$", name)`: `$` stands before a last line feed, too. -/
def matchesProfileName (name : List Char) : Bool :=
  let body := if name.getLast? = some '\n' then name.dropLast else name
  match body with
  | [] => false
  | first :: rest =>
      isLowerOrDigit first && rest.all fun c => isLowerOrDigit c || c = '_' || c = '-'

/-- `not value`. A zero is spelled by an integer or a float. -/
def isFalsy (floatEq : String → Int → Bool) : Json String → Bool
  | .null => true
  | .bool value => !value
  | .int value => value = 0
  | .float spelling => floatEq spelling 0
  | .str text => text = ""
  | .arr items => items.isEmpty
  | .obj fields => fields.isEmpty

/-- The exit names the value as well, in the spelling of `repr`. -/
def invalidProfileName : Raised := .systemExit "Invalid profile name"

/-- The loop of `validate_profile_names`. The pattern is only tried on texts. -/
def validateProfileNames (floatEq : String → Int → Bool) :
    List String → List Profile → Except Raised Unit
  | _, [] => pure ()
  | seen, profile :: rest => do
      let name := Json.get profile "name"
      raiseIf (isFalsy floatEq name) invalidProfileName
      match name with
      | .str text => do
          raiseIf (matchesProfileName text.toList = false) invalidProfileName
          raiseIf (text ∈ seen) (.systemExit ("Duplicate profile name: " ++ text))
          validateProfileNames floatEq (text :: seen) rest
      | _ => .error .traceback

/-- `p[key]`. -/
def item (profile : Profile) (key : String) : Except Raised (Json String) :=
  match Json.get? profile key with
  | some value => .ok value
  | none => .error .traceback

/-- `a or b`. -/
def orElse (text other : String) : String := if text = "" then other else text

section Documents

-- `int(value)`, `none` where it raises.
variable (toInt : Json String → Option Int)

def buildInbound (profile : Profile) : Except Raised (Json String) := do
  let port ← item profile "port"
  match toInt port with
  | none => .error .traceback
  | some port => pure (.obj [
      ("tag", .str ("socks-" ++ profileName profile)),
      ("listen", .str "127.0.0.1"),
      ("port", .int port),
      ("protocol", .str "socks"),
      ("settings", .obj [("auth", .str "noauth"), ("udp", .bool true)]),
      ("sniffing", .obj [("enabled", .bool true),
        ("destOverride", .arr [.str "http", .str "tls", .str "quic"])])])

def buildInbounds (profiles : List Profile) : Except Raised (Json String) := do
  let inbounds ← mapEach (buildInbound toInt) profiles
  pure (.obj [("inbounds", .arr inbounds)])

def buildVlessOutbound (profile : Profile) (node : NodeRecord) : Json String :=
  let user : List (String × Json String) :=
    [("id", .str node.uuid), ("encryption", .str "none")] ++
      (if node.flow = "" then [] else [("flow", .str node.flow)])
  let reality : Json String := .obj [
    ("serverName", .str (orElse node.sni node.host)),
    ("fingerprint", .str (orElse node.fp "chrome")),
    ("publicKey", .str node.publicKey),
    ("shortId", .str node.shortId),
    ("spiderX", .str (orElse node.spiderPath "/"))]
  .obj [
    ("tag", .str ("vless-" ++ profileName profile)),
    ("protocol", .str "vless"),
    ("settings", .obj [("vnext", .arr [.obj [
      ("address", .str node.host),
      ("port", .int node.port),
      ("users", .arr [.obj user])]])]),
    ("streamSettings", .obj [
      ("network", .str (orElse node.network "tcp")),
      ("security", .str (orElse node.security "reality")),
      ("realitySettings", reality)])]

/-- `nodes` is a dictionary: a later entry of a name replaces an earlier one. -/
def nodeOf (nodes : List (String × NodeRecord)) (profile : Profile) : Except Raised NodeRecord :=
  match (nodes.reverse.find? fun entry => entry.1 = profileName profile) with
  | some entry => .ok entry.2
  | none => .error .traceback

def buildOutbounds (profiles : List Profile) (nodes : List (String × NodeRecord)) :
    Except Raised (Json String) := do
  let outbounds ← mapEach (fun profile => do
    let node ← nodeOf nodes profile
    pure (buildVlessOutbound profile node)) profiles
  pure (.obj [("outbounds", .arr (outbounds ++ [
    .obj [("tag", .str "direct"), ("protocol", .str "freedom")],
    .obj [("tag", .str "block"), ("protocol", .str "blackhole")]]))])

def buildRule (profile : Profile) : Json String :=
  .obj [
    ("type", .str "field"),
    ("inboundTag", .arr [.str ("socks-" ++ profileName profile)]),
    ("outboundTag", .str ("vless-" ++ profileName profile))]

def buildRouting (profiles : List Profile) : Json String :=
  .obj [("routing", .obj [
    ("domainStrategy", .str "AsIs"),
    ("rules", .arr (profiles.map buildRule))])]

end Documents

end RouterKit.Profiles
