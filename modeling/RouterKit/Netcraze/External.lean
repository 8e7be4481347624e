import RouterKit.Netcraze.LivePlan

/-!
Transport-neutral transactions. The planner turns a snapshot of the native
state into a packet of commands for an operator; the packet is bound to the
states before and after it by fingerprints, and a later snapshot is verified
against it. A packet is read here after its JSON shape and the spelling of its
hashes have been checked: a field of the model has the type those checks leave.
-/

namespace RouterKit.Netcraze

open RouterKit.Lib.Checked
open RouterKit.Devices RouterKit.Lib

namespace External

def transactionSchema : String := "routerkit.netcraze.external-transaction.v1"
def verificationSchema : String := "routerkit.netcraze.external-verification.v1"
def snapshotMode : String := "owner-only-running-config-file"

structure Endpoint where
  protocol : String
  host : String
  port : Nat
  enabled : Bool
  authMode : String
deriving DecidableEq, Repr

structure Binding where
  slot : Nat
  profileLabel : String
  endpoint : Endpoint
  proxyId : String
  policyId : String
  proxyAction : ObjectAction
  policyAction : ObjectAction
deriving DecidableEq, Repr

structure Assignment where
  action : AssignmentAction
  deviceMac : Option String
  selectedSlot : Option Nat
  targetPolicy : Option String
  previousPolicy : Option String
deriving DecidableEq, Repr

structure Expectations (Digest : Type) where
  expectedPostStateFingerprint : Digest
  defaultGuardFingerprint : Digest
  semanticMatchCountPerBinding : Nat
  defaultGuardUnchanged : Bool
  freshSnapshotRequired : Bool
  transportResultTrusted : Bool
deriving DecidableEq, Repr

/-- A packet before it is bound to its own fingerprint. -/
structure Unsigned (Digest : Type) where
  schema : String
  hardwareContract : String
  snapshotMode : String
  manifestFingerprint : Digest
  preStateFingerprint : Digest
  expectedPostStateFingerprint : Digest
  defaultGuardFingerprint : Digest
  bindings : List Binding
  assignment : Assignment
  defaultPolicyTargeted : Bool
  backupRequired : Bool
  writeRequired : Bool
  saveRequired : Bool
  commands : List String
  rollbackCommands : List String
  preSaveVerificationRequired : Bool
  saveCommand : Option String
  savedStateVerificationRequired : Bool
  rawRunningConfigIncluded : Bool
  verificationExpectations : Expectations Digest
deriving DecidableEq, Repr

structure Packet (Digest : Type) extends Unsigned Digest where
  transactionFingerprint : Digest
deriving DecidableEq, Repr

structure StatePayload where
  schema : String
  proxies : List ProxyState
  policies : List PolicyState
  assignments : List (String × String)
  defaultGuard : List String
deriving DecidableEq, Repr

/-- The values the repository fingerprints. Their canonical JSON texts tell them
apart. -/
inductive Payload (Digest : Type) where
  | state (payload : StatePayload)
  | defaultGuard (lines : List String)
  | manifest (schema : String) (profiles : List LocalProxyProfile)
  | transaction (unsigned : Unsigned Digest)
deriving DecidableEq, Repr

section Fingerprints

variable {Digest : Type} (fingerprint : Payload Digest → Digest)

def statePayload (state : LiveState) : StatePayload where
  schema := liveSchema
  proxies := state.sortedProxies
  policies := state.sortedPolicies
  assignments := state.sortedAssignments
  defaultGuard := state.sortedGuard

def stateFingerprint (state : LiveState) : Digest :=
  fingerprint (.state (statePayload state))

def defaultGuardFingerprint (state : LiveState) : Digest :=
  fingerprint (.defaultGuard state.sortedGuard)

def manifestFingerprint (manifest : LocalEndpointManifest) : Digest :=
  fingerprint (.manifest manifest.schema manifest.profiles)

end Fingerprints

/-- `dictionary[objectId] = proxy`. -/
def putProxy (state : LiveState) (proxy : ProxyState) : LiveState :=
  state.touchProxy proxy.objectId (fun old => { proxy with objectId := old.objectId })
    (fun _ => rfl)

def putPolicy (state : LiveState) (policy : PolicyState) : LiveState :=
  state.touchPolicy policy.objectId (fun old => { policy with objectId := old.objectId })
    (fun _ => rfl)

/-- The proxy object a created binding is expected to become. -/
def expectedProxy (binding : BindingPlan) (profile : LocalProxyProfile) : ProxyState where
  objectId := binding.proxyId
  description := connectionName profile
  protocol := "socks5"
  host := profile.host
  port := profile.port
  enabled := profile.enabled
  authenticationConfigured := false

def expectedPolicy (binding : BindingPlan) (profile : LocalProxyProfile) : PolicyState where
  objectId := binding.policyId
  description := policyName profile
  globalInterfaces := [binding.proxyId]

def expectProxies (manifest : LocalEndpointManifest) :
    List BindingPlan → LiveState → Except LiveError LiveState
  | [], state => pure state
  | binding :: rest, state => do
      let profile ← profileBySlot manifest binding.slot
      if binding.proxyAction = .create then
        raiseIf (binding.proxyId ∈ state.proxies.map (·.objectId))
          (liveAdapterError "External plan selected an occupied native proxy slot.")
        expectProxies manifest rest (putProxy state (expectedProxy binding profile))
      else expectProxies manifest rest state

def expectPolicies (manifest : LocalEndpointManifest) :
    List BindingPlan → LiveState → Except LiveError LiveState
  | [], state => pure state
  | binding :: rest, state => do
      let profile ← profileBySlot manifest binding.slot
      if binding.policyAction = .create then
        raiseIf (binding.policyId ∈ state.policies.map (·.objectId))
          (liveAdapterError "External plan selected an occupied native policy slot.")
        expectPolicies manifest rest (putPolicy state (expectedPolicy binding profile))
      else expectPolicies manifest rest state

def expectAssignment (plan : LivePlan) (deviceMac : Option String) (state : LiveState) :
    Except LiveError LiveState :=
  match deviceMac, plan.selectedSlot with
  | some deviceMac, some slot => do
      let target ← targetPolicy plan.bindings slot
      if plan.assignmentAction ∈ [.assign, .move] then pure (state.assign deviceMac target)
      else pure state
  | _, _ => pure state

def expectedPostState (manifest : LocalEndpointManifest) (plan : LivePlan) (state : LiveState)
    (deviceMac : Option String) : Except LiveError LiveState := do
  let withProxies ← expectProxies manifest plan.bindings state
  let withPolicies ← expectPolicies manifest plan.bindings withProxies
  let final ← expectAssignment plan deviceMac withPolicies
  pure final.sorted

def noAssignment : Assignment where
  action := .none
  deviceMac := none
  selectedSlot := none
  targetPolicy := none
  previousPolicy := none

def assignmentPayload (plan : LivePlan) (state : LiveState) (deviceMac : Option String) :
    Except LiveError Assignment :=
  match deviceMac, plan.selectedSlot with
  | some deviceMac, some slot => do
      let target ← targetPolicy plan.bindings slot
      pure {
        action := plan.assignmentAction
        deviceMac := some deviceMac
        selectedSlot := some slot
        targetPolicy := some target
        previousPolicy := state.assignmentOf deviceMac }
  | _, _ => pure noAssignment

/-- The first loop of the renderer: what creates the proxies, and what removes
each again, in the order of creation. -/
def renderProxies (manifest : LocalEndpointManifest) :
    List BindingPlan → Except LiveError (List NdmCommand × List NdmCommand)
  | [] => pure ([], [])
  | binding :: rest =>
      if binding.proxyAction = .create then do
        let profile ← profileBySlot manifest binding.slot
        let (commands, rollbacks) ← renderProxies manifest rest
        pure (proxyCreateCommands binding profile ++ commands,
          .noInterface binding.proxyId :: rollbacks)
      else renderProxies manifest rest

def renderPolicies (manifest : LocalEndpointManifest) :
    List BindingPlan → Except LiveError (List NdmCommand × List NdmCommand)
  | [] => pure ([], [])
  | binding :: rest =>
      if binding.policyAction = .create then do
        let profile ← profileBySlot manifest binding.slot
        let (commands, rollbacks) ← renderPolicies manifest rest
        pure (policyCreateCommands binding profile ++ commands,
          .noPolicy binding.policyId :: rollbacks)
      else renderPolicies manifest rest

/-- `str` of an optional text. -/
def strOf (value : Option String) : String := value.getD "None"

def renderAssignment (assignment : Assignment) : List NdmCommand × List NdmCommand :=
  if assignment.action ∈ [.assign, .move] then
    let deviceMac := strOf assignment.deviceMac
    ([.hotspotHostPolicy deviceMac (strOf assignment.targetPolicy)],
      match assignment.previousPolicy with
      | none => [.noHotspotHostPolicy deviceMac]
      | some previous => [.hotspotHostPolicy deviceMac previous])
  else ([], [])

def renderCommands (manifest : LocalEndpointManifest) (plan : LivePlan)
    (assignment : Assignment) : Except LiveError (List NdmCommand × List NdmCommand) := do
  let (proxyCommands, proxyRollbacks) ← renderProxies manifest plan.bindings
  let (policyCommands, policyRollbacks) ← renderPolicies manifest plan.bindings
  let (assignmentCommands, assignmentRollback) := renderAssignment assignment
  pure (proxyCommands ++ policyCommands ++ assignmentCommands,
    assignmentRollback ++ policyRollbacks.reverse ++ proxyRollbacks.reverse)

def endpointOf (profile : LocalProxyProfile) : Endpoint where
  protocol := profile.protocol
  host := profile.host
  port := profile.port
  enabled := profile.enabled
  authMode := profile.authMode

def bindingPayload (manifest : LocalEndpointManifest) (binding : BindingPlan) :
    Except LiveError Binding := do
  let profile ← profileBySlot manifest binding.slot
  pure {
    slot := binding.slot
    profileLabel := profile.label
    endpoint := endpointOf profile
    proxyId := binding.proxyId
    policyId := binding.policyId
    proxyAction := binding.proxyAction
    policyAction := binding.policyAction }

def planFromPacket {Digest : Type} (packet : Packet Digest) : LivePlan where
  bindings := packet.bindings.map (fun item => {
    slot := item.slot
    port := item.endpoint.port
    proxyId := item.proxyId
    policyId := item.policyId
    proxyAction := item.proxyAction
    policyAction := item.policyAction })
  selectedDevicePresent := packet.assignment.deviceMac.isSome
  selectedSlot := packet.assignment.selectedSlot
  assignmentAction := packet.assignment.action

section Transactions

variable {Digest : Type} [DecidableEq Digest] (fingerprint : Payload Digest → Digest)

def validateBinding (entry : Binding × LocalProxyProfile) : Except LiveError Unit := do
  let (binding, profile) := entry
  raiseIf (binding.slot ≠ profile.slot)
    (liveAdapterError "External transaction binding slot is invalid.")
  raiseIf (binding.profileLabel ≠ profile.label)
    (liveAdapterError "External transaction profile label is invalid.")
  raiseIf (binding.endpoint ≠ endpointOf profile)
    (liveAdapterError "External transaction endpoint semantics are invalid.")
  let _ ← numericId binding.proxyId "Proxy" maxProxyIndex
  let _ ← numericId binding.policyId "Policy" maxPolicyIndex
  pure ()

def validateIdentity (assignment : Assignment) : Except LiveError Unit :=
  match assignment.deviceMac.map normalizeTrustedDeviceMac with
  | some (.ok normalized) =>
      raiseIf (some normalized ≠ assignment.deviceMac)
        (liveAdapterError "External transaction assignment identity is not normalized.")
  | _ => .error (liveAdapterError "External transaction assignment identity is invalid.")

def validateTarget (bindings : List Binding) (assignment : Assignment) : Except LiveError Unit :=
  match assignment.selectedSlot with
  | none => .error (liveAdapterError "External transaction assignment slot is invalid.")
  | some slot =>
      raiseIf ((Keyed.lookup (·.slot) slot bindings).all
          (fun selected => assignment.targetPolicy ≠ some selected.policyId))
        (liveAdapterError "External transaction assignment target is invalid.")

def validatePrevious (assignment : Assignment) : Except LiveError Unit :=
  match assignment.previousPolicy with
  | none => .ok ()
  | some previous => do
      let _ ← numericId previous "Policy" maxPolicyIndex
      pure ()

def validatePreState (assignment : Assignment) : Except LiveError Unit := do
  raiseIf (assignment.action = .assign ∧ assignment.previousPolicy ≠ none)
    (liveAdapterError "External transaction assignment pre-state is inconsistent.")
  raiseIf (assignment.action = .reuse ∧ assignment.previousPolicy ≠ assignment.targetPolicy)
    (liveAdapterError "External transaction reused assignment is inconsistent.")
  raiseIf (assignment.action = .move ∧ (assignment.previousPolicy = none ∨
      assignment.previousPolicy = assignment.targetPolicy))
    (liveAdapterError "External transaction move pre-state is inconsistent.")

def validateAssignment (bindings : List Binding) (assignment : Assignment) :
    Except LiveError Unit :=
  if assignment.action = .none then
    raiseIf (assignment ≠ noAssignment)
      (liveAdapterError "External transaction empty assignment is inconsistent.")
  else do
    validateIdentity assignment
    validateTarget bindings assignment
    validatePrevious assignment
    validatePreState assignment

/-- The two command lists of a packet, as rendered again from its own bindings. -/
def validateCommands (manifest : LocalEndpointManifest) (packet : Packet Digest) :
    Except LiveError Unit := do
  let (commands, rollbacks) ←
    renderCommands manifest (planFromPacket packet) packet.assignment
  raiseIf (packet.commands ≠ commands.map NdmCommand.text)
    (liveAdapterError "External transaction native command order is invalid.")
  raiseIf (packet.rollbackCommands ≠ rollbacks.map NdmCommand.text)
    (liveAdapterError "External transaction rollback command order is invalid.")
  let writeRequired := !commands.isEmpty
  raiseIf ([packet.backupRequired, packet.writeRequired, packet.saveRequired,
      packet.preSaveVerificationRequired, packet.savedStateVerificationRequired] ≠
        List.replicate 5 writeRequired)
    (liveAdapterError "External transaction write/save gates are inconsistent.")
  raiseIf (packet.saveCommand ≠
      if writeRequired then some NdmCommand.configurationSave.text else none)
    (liveAdapterError "External transaction save command is inconsistent.")
  raiseIf (writeRequired = false ∧
      packet.preStateFingerprint ≠ packet.expectedPostStateFingerprint)
    (liveAdapterError "External NOOP transaction changes expected state.")

def expectationsOf (post guard : Digest) : Expectations Digest where
  expectedPostStateFingerprint := post
  defaultGuardFingerprint := guard
  semanticMatchCountPerBinding := 1
  defaultGuardUnchanged := true
  freshSnapshotRequired := true
  transportResultTrusted := false

def validateExternalTransaction (packet : Packet Digest) (manifest : LocalEndpointManifest) :
    Except LiveError LivePlan := do
  raiseIf (packet.schema ≠ transactionSchema)
    (liveAdapterError "External transaction schema is unsupported.")
  raiseIf (packet.hardwareContract ≠ supportedContract)
    (liveAdapterError "External transaction hardware contract is unsupported.")
  raiseIf (packet.snapshotMode ≠ External.snapshotMode)
    (liveAdapterError "External transaction snapshot mode is unsupported.")
  raiseIf (packet.manifestFingerprint ≠ manifestFingerprint fingerprint manifest)
    (liveAdapterError "External transaction does not match the endpoint manifest.")
  raiseIf (packet.transactionFingerprint ≠ fingerprint (.transaction packet.toUnsigned))
    (liveAdapterError "External transaction integrity verification failed.")
  raiseIf packet.defaultPolicyTargeted
    (liveAdapterError "External transaction must not target the Default policy.")
  raiseIf packet.rawRunningConfigIncluded
    (liveAdapterError "External transaction must not contain raw running configuration.")
  raiseIf (packet.bindings.length ≠ manifest.profiles.length)
    (liveAdapterError "External transaction bindings are malformed.")
  checkEach validateBinding (packet.bindings.zip manifest.profiles)
  raiseIf (¬ (packet.bindings.map (·.proxyId)).Nodup ∨ ¬ (packet.bindings.map (·.policyId)).Nodup)
    (liveAdapterError "External transaction reuses a native object across profiles.")
  validateAssignment packet.bindings packet.assignment
  validateCommands manifest packet
  raiseIf (packet.verificationExpectations ≠
      expectationsOf packet.expectedPostStateFingerprint packet.defaultGuardFingerprint)
    (liveAdapterError "External transaction verification expectations are invalid.")
  pure (planFromPacket packet)

/-- What the planner derived of a state, as the fields of a packet. -/
def unsignedOf (manifest : LocalEndpointManifest) (state expectedState : LiveState)
    (bindings : List Binding) (assignment : Assignment)
    (commands rollbackCommands : List NdmCommand) (hardwareContract : String) :
    Unsigned Digest :=
  let writeRequired := !commands.isEmpty
  let post := stateFingerprint fingerprint expectedState
  let guard := defaultGuardFingerprint fingerprint state
  { schema := transactionSchema
    hardwareContract
    snapshotMode := External.snapshotMode
    manifestFingerprint := manifestFingerprint fingerprint manifest
    preStateFingerprint := stateFingerprint fingerprint state
    expectedPostStateFingerprint := post
    defaultGuardFingerprint := guard
    bindings
    assignment
    defaultPolicyTargeted := false
    backupRequired := writeRequired
    writeRequired
    saveRequired := writeRequired
    commands := commands.map NdmCommand.text
    rollbackCommands := rollbackCommands.map NdmCommand.text
    preSaveVerificationRequired := writeRequired
    saveCommand := if writeRequired then some NdmCommand.configurationSave.text else none
    savedStateVerificationRequired := writeRequired
    rawRunningConfigIncluded := false
    verificationExpectations := expectationsOf post guard }

/-- `packet["transaction_fingerprint"] = _fingerprint(packet)`. -/
def sign (unsigned : Unsigned Digest) : Packet Digest :=
  { toUnsigned := unsigned, transactionFingerprint := fingerprint (.transaction unsigned) }

def buildExternalTransaction (manifest : LocalEndpointManifest) (state : LiveState)
    (deviceMac : Option String) (profileSlot : Option Nat) (allowMove : Bool)
    (hardwareContract : String := supportedContract) : Except LiveError (Packet Digest) := do
  raiseIf (hardwareContract ≠ supportedContract)
    (liveAdapterError "External plan uses an unsupported hardware contract.")
  let mac ← normalizeSelectedMac deviceMac
  let plan ← LiveCompat.buildLivePlan manifest state mac profileSlot allowMove
  let bindings ← mapEach (bindingPayload manifest) plan.bindings
  let assignment ← assignmentPayload plan state mac
  let (commands, rollbackCommands) ← renderCommands manifest plan assignment
  let expectedState ← expectedPostState manifest plan state mac
  let packet := sign fingerprint (unsignedOf fingerprint manifest state expectedState bindings
    assignment commands rollbackCommands hardwareContract)
  let _ ← validateExternalTransaction fingerprint packet manifest
  pure packet

def semanticPostPlan (manifest : LocalEndpointManifest) (packet : Packet Digest)
    (state : LiveState) : Except LiveError LivePlan := do
  let postPlan ← LiveCompat.buildLivePlan manifest state packet.assignment.deviceMac
    packet.assignment.selectedSlot false
  raiseIf (¬ (postPlan.bindings.zip packet.bindings).all (fun (observed, expected) =>
      observed.proxyId = expected.proxyId && observed.policyId = expected.policyId &&
        observed.proxyAction = .reuse && observed.policyAction = .reuse))
    (liveAdapterError "External verification found unexpected native semantic state.")
  raiseIf (packet.assignment.action ≠ .none ∧ postPlan.assignmentAction ≠ .reuse)
    (liveAdapterError "External verification found an unexpected device assignment.")
  pure postPlan

inductive Phase where
  | pre
  | running
  | saved
deriving DecidableEq, Repr

structure Verification (Digest : Type) where
  schema : String
  transactionFingerprint : Digest
  phase : Phase
  verified : Bool
  preStateVerified : Bool
  runningStateVerified : Bool
  savedStateVerified : Bool
  commandsAuthorized : Bool
  saveAuthorized : Bool
  backupRequired : Bool
  writeRequired : Bool
  saveRequired : Bool
  noop : Bool
  defaultPolicyTargeted : Bool
  transportResultTrusted : Bool
deriving DecidableEq, Repr

def verificationOf (packet : Packet Digest) (phase : Phase) (verifiedPost : Bool) :
    Verification Digest where
  schema := verificationSchema
  transactionFingerprint := packet.transactionFingerprint
  phase
  verified := true
  preStateVerified := phase = .pre
  runningStateVerified := phase = .running && verifiedPost
  savedStateVerified := phase = .saved && verifiedPost
  commandsAuthorized := phase = .pre && packet.writeRequired
  saveAuthorized := phase = .running && packet.saveRequired
  backupRequired := packet.backupRequired
  writeRequired := packet.writeRequired
  saveRequired := packet.saveRequired
  noop := !packet.writeRequired
  defaultPolicyTargeted := false
  transportResultTrusted := false

def verifyExternalTransaction (packet : Packet Digest) (manifest : LocalEndpointManifest)
    (state : LiveState) (phase : Phase) : Except LiveError (Verification Digest) := do
  let plan ← validateExternalTransaction fingerprint packet manifest
  raiseIf (defaultGuardFingerprint fingerprint state ≠ packet.defaultGuardFingerprint)
    (liveAdapterError "Default-policy guard changed after external planning.")
  match phase with
  | .pre => do
      raiseIf (stateFingerprint fingerprint state ≠ packet.preStateFingerprint)
        (liveAdapterError "External transaction pre-state is stale.")
      pure (verificationOf packet phase false)
  | _ => do
      raiseIf (stateFingerprint fingerprint state ≠ packet.expectedPostStateFingerprint)
        (liveAdapterError "External transaction post-state does not match the plan.")
      LiveCompat.verifyPlanApplied manifest plan state packet.assignment.deviceMac
      let _ ← semanticPostPlan manifest packet state
      pure (verificationOf packet phase true)

end Transactions

end External

end RouterKit.Netcraze
