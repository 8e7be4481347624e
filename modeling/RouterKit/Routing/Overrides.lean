import Mathlib.Data.List.Dedup
import Mathlib.Data.List.Sort
import Mathlib.Data.String.Basic
import RouterKit.Lib.Checked
import RouterKit.Lib.Json
import RouterKit.Lib.PyText

/-!
The persistent routing overrides: selected service packs and domain suffixes,
their normal forms, the file they are kept in, and how a request changes them.
The tables of the text library (case folding outside ASCII, IDNA, address
syntax) are parameters.
-/

namespace RouterKit.Routing

open RouterKit.Lib RouterKit.Lib.Checked

/-- The errors the commands report. `privateFile` is the error class of the
private-file helpers, `os` an `OSError` nothing has wrapped. -/
inductive RoutingError where
  | routing (message : String) (exitCode : Nat)
  | privateFile (message : String)
  | os
deriving DecidableEq, Repr

def routingError (message : String) : RoutingError := .routing message 1
def usageError (message : String) : RoutingError := .routing message 2

def overridesSchema : String := "routerkit.routing-overrides.v1"
def serviceSchema : String := "routerkit.routing-service.v1"
def maxStateBytes : Nat := 64 * 1024
def maxConfigBytes : Nat := 2 * 1024 * 1024
def maxServiceCount : Nat := 64
def maxDomainCount : Nat := 512

/-- The class `[a-z0-9]`. -/
def isLowerAlnum (c : Char) : Bool :=
  PyText.isAsciiDigit c || (0x61 ≤ c.toNat && c.toNat ≤ 0x7a)

/-- `SERVICE_NAME_RE`. -/
def IsServiceName : List Char → Prop
  | [] => False
  | first :: rest => isLowerAlnum first = true ∧ rest.length ≤ 63 ∧
      ∀ c ∈ rest, isLowerAlnum c = true ∨ c = '_' ∨ c = '-'

instance : DecidablePred IsServiceName := fun name =>
  match name with
  | [] => inferInstanceAs (Decidable False)
  | _ :: _ => inferInstanceAs (Decidable (_ ∧ _ ∧ _))

/-- `LABEL_RE`. -/
def IsLabel (label : List Char) : Prop :=
  label.length ≤ 63 ∧ (∀ c ∈ label, isLowerAlnum c = true ∨ c = '-') ∧
    label.head?.any isLowerAlnum = true ∧ label.getLast?.any isLowerAlnum = true

instance : DecidablePred IsLabel := fun label => by
  unfold IsLabel
  infer_instance

/-- The labels of a name. -/
def domainLabels (domain : List Char) : List (List Char) := domain.splitOn '.'

/-- What the platform's text library knows: the case folding of characters
outside ASCII, the IDNA form of a name, and whether a text is an address. A name
of plain labels is its own IDNA form. -/
structure TextTables where
  foldNonAscii : Char → List Char
  idna : String → Option String
  isIpAddress : String → Bool
  idna_plain : ∀ domain : String, (∀ label ∈ domainLabels domain.toList, IsLabel label) →
    idna domain = some domain

structure RoutingOverrides where
  directServices : List String := []
  directDomains : List String := []
deriving DecidableEq, Repr

/-- `to_dict`. -/
def RoutingOverrides.toDict (overrides : RoutingOverrides) : Json String :=
  .obj [("schema", .str overridesSchema),
    ("direct_services", .arr (overrides.directServices.map .str)),
    ("direct_domains", .arr (overrides.directDomains.map .str))]

/-- `str` of a loaded value. The text of a list or an object starts with a
bracket, and no name or domain that is accepted does; it is `none` here. -/
def pyStr : Json String → Option String
  | .null => some "None"
  | .bool true => some "True"
  | .bool false => some "False"
  | .int value => some (toString value)
  | .float spelling => some spelling
  | .str text => some text
  | .arr _ => none
  | .obj _ => none

def invalidService : RoutingError := usageError "Routing service name is invalid."
def invalidDomain : RoutingError := usageError "Direct-routing domain suffix is invalid."

section Names

variable (tables : TextTables)

/-- `str(value).strip().casefold()`. -/
def foldedText (value : String) : List Char :=
  PyText.casefold tables.foldNonAscii (PyText.strip value.toList)

def normalizeServiceName (value : String) : Except RoutingError String := do
  raiseIf (¬ IsServiceName (foldedText tables value)) invalidService
  pure (String.ofList (foldedText tables value))

/-- The text behind an optional `domain:`, without final dots. -/
def bareDomain (folded : List Char) : List Char :=
  (if "domain:".toList.isPrefixOf folded then folded.drop 7 else folded).rdropWhile (· = '.')

def normalizeDomainSuffix (value : String) : Except RoutingError String := do
  let raw := bareDomain (foldedText tables value)
  raiseIf (raw = [] ∨ 253 < raw.length) invalidDomain
  raiseIf (∃ c ∈ raw, c ∈ ['/', '\\', '*', '?', '#', '@', ':']) invalidDomain
  match tables.idna (String.ofList raw) with
  | none => .error invalidDomain
  | some asciiDomain => do
      raiseIf (tables.isIpAddress asciiDomain)
        (usageError "Direct-routing entries must be domain suffixes, not IP addresses.")
      raiseIf ((domainLabels asciiDomain.toList).length < 2 ∨
        ¬ ∀ label ∈ domainLabels asciiDomain.toList, IsLabel label) invalidDomain
      pure asciiDomain

/-- `normalize_service_name` on a loaded value. -/
def normalizeServiceValue (value : Json String) : Except RoutingError String :=
  match pyStr value with
  | some text => normalizeServiceName tables text
  | none => .error invalidService

/-- `normalize_domain_suffix` on a loaded value. -/
def normalizeDomainValue (value : Json String) : Except RoutingError String :=
  match pyStr value with
  | some text => normalizeDomainSuffix tables text
  | none => .error invalidDomain

end Names

/-- `sorted(set(texts))`. -/
def sortedSet (texts : List String) : List String :=
  texts.dedup.insertionSort (· ≤ ·)

@[simp] theorem mem_sortedSet {texts : List String} {text : String} :
    text ∈ sortedSet texts ↔ text ∈ texts := by
  rw [sortedSet, (List.perm_insertionSort (· ≤ ·) texts.dedup).mem_iff, List.mem_dedup]

def notRecognized : RoutingError := routingError "Routing overrides file is not recognized."

def validateOverridesValue (tables : TextTables) (value : Json String) :
    Except RoutingError RoutingOverrides :=
  match value with
  | .obj fields => do
      raiseIf (¬ Json.hasKeys fields ["schema", "direct_services", "direct_domains"]) notRecognized
      raiseIf (Json.get fields "schema" ≠ .str overridesSchema) notRecognized
      match Json.get fields "direct_services", Json.get fields "direct_domains" with
      | .arr services, .arr domains => do
          raiseIf (maxServiceCount < services.length ∨ maxDomainCount < domains.length)
            (routingError "Routing overrides file exceeds the supported bounds.")
          let normalizedServices ← mapEach (normalizeServiceValue tables) services
          let normalizedDomains ← mapEach (normalizeDomainValue tables) domains
          raiseIf ((sortedSet normalizedServices).length ≠ services.length ∨
              (sortedSet normalizedDomains).length ≠ domains.length)
            (routingError
              "Routing overrides file contains duplicate or non-canonical entries.")
          pure { directServices := sortedSet normalizedServices
                 directDomains := sortedSet normalizedDomains }
      | _, _ => .error notRecognized
  | _ => .error notRecognized

/-- A file of the service directory: its name without and with regard to the
suffix `.json`, and what it holds. `none` is a file that is no regular file, too
large, or not JSON. -/
structure ServiceEntry where
  stem : String
  isJson : Bool
  content : Option (Json String)

/-- The repository the commands run from, as far as they read it. -/
structure Repository where
  services : List ServiceEntry

def packUnavailable : RoutingError :=
  usageError "Requested routing service pack is unavailable or invalid."

section Packs

variable (tables : TextTables) (repo : Repository)

def serviceFile (name : String) : Option (Json String) :=
  (repo.services.find? (fun entry => entry.isJson && entry.stem = name)).bind (·.content)

def loadServicePack (name : String) : Except RoutingError (List String) := do
  let normalizedName ← normalizeServiceName tables name
  match serviceFile repo normalizedName with
  | some (.obj fields) => do
      raiseIf (¬ Json.hasKeys fields ["schema", "name", "domains"]) packUnavailable
      raiseIf (Json.get fields "schema" ≠ .str serviceSchema ∨
        Json.get fields "name" ≠ .str normalizedName) packUnavailable
      match Json.get fields "domains" with
      | .arr domains => do
          raiseIf (domains = [] ∨ maxDomainCount < domains.length) packUnavailable
          let normalized ← mapEach (normalizeDomainValue tables) domains
          raiseIf (¬ normalized.Nodup)
            (usageError "Requested routing service pack contains duplicate domains.")
          pure normalized
      | _ => .error packUnavailable
  | _ => .error packUnavailable

def availableServiceNames : List String :=
  sortedSet ((((repo.services.take (maxServiceCount + 1)).filter (·.isJson)).map (·.stem)).filter
    (fun name => (loadServicePack tables repo name).isOk))

/-- A domain joins the expansion where it first occurs. -/
def addDomain (result : List String) (domain : String) : List String :=
  if domain ∈ result then result else result ++ [domain]

def expandDirectDomains (overrides : RoutingOverrides) : Except RoutingError (List String) := do
  let packs ← mapEach (loadServicePack tables repo) overrides.directServices
  let result := (packs.flatten ++ overrides.directDomains).foldl addDomain []
  raiseIf (maxDomainCount < result.length)
    (routingError "Expanded direct-routing domain set exceeds the supported bound.")
  pure result

/-- What one invocation asks for. -/
structure Mutations where
  addServices : List String := []
  removeServices : List String := []
  addDomains : List String := []
  removeDomains : List String := []
deriving DecidableEq, Repr

/-- A service that is added has to be available. -/
def addableService (value : String) : Except RoutingError String := do
  let name ← normalizeServiceName tables value
  let _ ← loadServicePack tables repo name
  pure name

def mutateOverrides (current : RoutingOverrides) (request : Mutations) :
    Except RoutingError RoutingOverrides := do
  let addedServices ← mapEach (addableService tables repo) request.addServices
  let removedServices ← mapEach (normalizeServiceName tables) request.removeServices
  let addedDomains ← mapEach (normalizeDomainSuffix tables) request.addDomains
  let removedDomains ← mapEach (normalizeDomainSuffix tables) request.removeDomains
  let services := sortedSet ((current.directServices ++ addedServices).filter
    (· ∉ removedServices))
  let domains := sortedSet ((current.directDomains ++ addedDomains).filter (· ∉ removedDomains))
  raiseIf (maxServiceCount < services.length ∨ maxDomainCount < domains.length)
    (usageError "Routing override request exceeds the supported bounds.")
  pure { directServices := services, directDomains := domains }

end Packs

end RouterKit.Routing
