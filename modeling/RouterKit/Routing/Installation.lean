import RouterKit.Routing.Document

/-!
An installation: the active documents and the overrides file, what a plan reads
of them, and the hook that restores the managed rule after a regeneration. File
contents are texts of an arbitrary type that JSON is read from and written to.
-/

namespace RouterKit.Routing

open RouterKit.Lib RouterKit.Lib.Checked

/-- Reading JSON and writing it with sorted keys. What is read back of a written
value is that value, its keys sorted. -/
structure JsonFormat (Text : Type) where
  loads : Text → Option (Json String)
  dumps : Json String → Text
  size : Text → Nat
  loads_dumps : ∀ value, loads (dumps value) = some value.canonical

/-- A file as the private-file helper finds it: absent, refused, or read. -/
inductive FileState (Text : Type) where
  | absent
  | refused (reason : String)
  | text (content : Text)
deriving DecidableEq

structure Installation (Text : Type) where
  inbounds : FileState Text
  outbounds : FileState Text
  routing : FileState Text
  state : FileState Text
deriving DecidableEq

structure RoutingPlan where
  current : RoutingOverrides
  desired : RoutingOverrides
  directDomains : List String
  inferredExistingState : Bool
  routingChangeRequired : Bool
  stateChangeRequired : Bool
deriving DecidableEq, Repr

section Reading

variable {Text : Type} (format : JsonFormat Text) (tables : TextTables) (repo : Repository)

/-- `_read_json_private`. -/
def readJsonPrivate (file : FileState Text) (description : String) :
    Except RoutingError (Json String) :=
  match file with
  | .text content =>
      match format.loads content with
      | some value => .ok value
      | none => .error (routingError (description ++ " is not valid JSON."))
  | _ => .error (routingError (description ++ " could not be read safely."))

def loadOverrides (file : FileState Text) : Except RoutingError (Option RoutingOverrides) :=
  match file with
  | .absent => .ok none
  | .refused reason => .error (.privateFile reason)
  | .text content =>
      match format.loads content with
      | some value => (validateOverridesValue tables value).map some
      | none => .error notRecognized

structure ActiveDocuments where
  inbounds : Json String
  outbounds : Json String
  routing : Json String

def loadActiveDocuments (installation : Installation Text) :
    Except RoutingError ActiveDocuments := do
  let inbounds ← readJsonPrivate format installation.inbounds "Xray inbound configuration"
  let outbounds ← readJsonPrivate format installation.outbounds "Xray outbound configuration"
  let routing ← readJsonPrivate format installation.routing "Xray routing configuration"
  pure { inbounds, outbounds, routing }

def unmanagedRule : RoutingError := routingError
  ("An unmanaged first direct rule already exists. Preserve it explicitly before using " ++
    "RouterKit routing overrides.")

/-- The selection a plan starts from, and whether it was inferred. -/
def currentOverrides (persisted : Option RoutingOverrides) (routing : Json String)
    (inboundTags : List String) : Except RoutingError (RoutingOverrides × Bool) :=
  match persisted with
  | some current => .ok (current, false)
  | none => do
      match ← inferKnownServiceState tables repo routing inboundTags with
      | some inferred => pure (inferred, true)
      | none =>
          let rules ← routingRules routing
          raiseIf (directHead rules) unmanagedRule
          pure ({}, false)

/-- A plan with the document it wants and the ports to probe. -/
structure PlannedRouting where
  plan : RoutingPlan
  updated : Json String
  ports : List Int
deriving DecidableEq

/-- `build_plan` on what it has read. -/
def planFrom (documents : ActiveDocuments)
    (persisted : Except RoutingError (Option RoutingOverrides))
    (request : Mutations) : Except RoutingError PlannedRouting := do
  let inboundTags ← extractRouterkitInbounds documents.inbounds
  let ports ← extractRouterkitPorts documents.inbounds
  validateDirectOutbound documents.outbounds
  let persisted ← persisted
  let (current, inferred) ← currentOverrides tables repo persisted documents.routing inboundTags
  let currentDomains ← expandDirectDomains tables repo current
  let desired ← mutateOverrides tables repo current request
  let desiredDomains ← expandDirectDomains tables repo desired
  let (updated, routingChanged) ← reconcileRoutingDocument tables documents.routing inboundTags
    currentDomains desiredDomains
  pure {
    plan := {
      current, desired
      directDomains := desiredDomains
      inferredExistingState := inferred
      routingChangeRequired := routingChanged
      stateChangeRequired := decide (persisted ≠ some desired) }
    updated, ports }

def buildPlan (installation : Installation Text) (request : Mutations) :
    Except RoutingError PlannedRouting := do
  let documents ← loadActiveDocuments format installation
  planFrom tables repo documents (loadOverrides format tables installation.state) request

end Reading

/-- Loaded values in the place of texts. -/
def valueFormat : JsonFormat (Json String) where
  loads := some
  dumps := Json.canonical
  size := fun _ => 0
  loads_dumps := fun _ => rfl

/-- Text tables that hold on plain lower-case names. -/
def plainTables : TextTables where
  foldNonAscii := fun c => [c]
  idna := some
  isIpAddress := fun _ => false
  idna_plain := fun _ _ => rfl

/-- The rule that sends a profile's inbound to its outbound. -/
def homeRule : Json String :=
  .obj [("type", .str "field"), ("inboundTag", textsJson ["socks-home"]),
    ("outboundTag", .str "vless-home")]

/-- One profile and the selection in the file, if any. -/
def homeInstallation (rules : List (Json String)) (state : FileState (Json String)) :
    Installation (Json String) where
  inbounds := .text (.obj [("inbounds", .arr [.obj [("tag", .str "socks-home"),
    ("listen", .str "127.0.0.1"), ("port", .int 1080), ("protocol", .str "socks")]])])
  outbounds := .text (.obj [("outbounds", .arr [.obj [("tag", .str "direct"),
    ("protocol", .str "freedom")]])])
  routing := .text (.obj [("routing", .obj [("rules", .arr rules)])])
  state := state

end RouterKit.Routing
