import RouterKit.Autostart.Runtime
import RouterKit.Lib.Programs

/-!
Enabling and disabling the autostart of Xray. The transaction changes the modes of
two init scripts and runs one of them; whatever the operating system can answer
to a step is a parameter, and so are the signals and what an init script leaves
running.
-/

namespace RouterKit.Autostart

open RouterKit.Lib RouterKit.Lib.Checked

/-- `AutostartError`, or any exception that is not one. -/
inductive Failure where
  | autostart (message : String) (exitCode : Int)
  | uncaught
  deriving DecidableEq

def rollbackUnproven : Int := 3

def spawnError : Int := 127

/-- The init scripts the transaction manages. -/
inductive Script where
  | s23
  | s24
  deriving DecidableEq

def Script.description : Script → String
  | .s23 => "S23xray-direct"
  | .s24 => "S24xray"

/-- What the transaction can change. -/
structure Router where
  s23 : FileStatus
  s24 : FileStatus
  receipt : FileStatus
  runtime : RuntimeReads

def Router.script (router : Router) : Script → FileStatus
  | .s23 => router.s23
  | .s24 => router.s24

/-- `fchmod`, on a file that is there. -/
def FileStatus.withMode (mode : Nat) : FileStatus → FileStatus
  | .found file => .found { file with mode }
  | status => status

def Router.setMode (router : Router) (script : Script) (mode : Nat) : Router :=
  match script with
  | .s23 => { router with s23 := router.s23.withMode mode }
  | .s24 => { router with s24 := router.s24.withMode mode }

/-- What the transaction finds and leaves as it is. `masks` says whether it can
block signals before its first child. -/
structure Host where
  targetRoot : String
  sysname : String
  paths : XrayPaths
  maxEntries : Nat
  s23Matches : Bool
  xray : FileStatus
  xrayExecutable : Bool
  confDir : Except String FileMeta
  confDirSame : Except String Bool
  initDir : Option (List (String × FileStatus))
  masks : Bool

def executionBits : Nat := 0o111

def isExecutable (mode : Nat) : Bool := mode &&& executionBits ≠ 0

def withoutExecution (mode : Nat) : Nat := mode ^^^ (mode &&& executionBits)

def enabledMode : Nat := 0o755

inductive ModeStep where
  | disableS24
  | disableS23
  | enableS23
  | restoreS23
  deriving DecidableEq

/-- Where a change of mode fails. Up to the `fchmod` the mode stays, behind it the
new mode stands; `otherMode` is the mode that stands on a file system of its own
mind. -/
inductive ModeFault where
  | none
  | uninspected (reason : String)
  | openFails
  | statFails
  | notRegular
  | chmodFails
  | syncFails
  | statAgainFails
  | replaced
  | otherMode (found : Nat)
  | closeFails
  deriving DecidableEq

inductive InitAction where
  | restart
  | start
  | stop
  deriving DecidableEq

def InitAction.text : InitAction → String
  | .restart => "restart"
  | .start => "start"
  | .stop => "stop"

/-- How a run of the init script ends. -/
inductive InitReport where
  | notSpawned (reason : String)
  | spawnRaises
  | exits (returncode : Int)
  | overflows
  | unwatchedExit (reason : String)
  | watchFails

/-- A run of the init script, and what can be read of the runtime behind it. -/
structure InitRun where
  report : InitReport
  runtime : RuntimeReads

/-- The verifications and inspections, in their order. -/
inductive Look where
  | before
  | restarted
  | final
  | restored
  | started
  | beforeStop
  | stopped
  | rollback
  deriving DecidableEq

inductive ReceiptStep where
  | forward
  | back
  deriving DecidableEq

inductive ReceiptFault where
  | none
  | unlinkFails
  deriving DecidableEq

/-- Where a signal can be recorded, between one check for it and the next. -/
inductive Checkpoint where
  | disabled
  | running (action : InitAction)
  | restarted
  | enabled
  | finished
  deriving DecidableEq

/-- What the operating system answers. A look that fails is one that raises something
else than an `AutostartError`. `interrupted` says whether SIGINT arrives once its
handler is the one from before the transaction again. -/
structure Faults where
  modes : ModeStep → ModeFault
  runs : InitAction → InitRun
  looks : Look → Bool
  receipts : ReceiptStep → ReceiptFault
  signals : Checkpoint → Option Nat
  interrupted : Bool
  teardown : Option String

/-- `TransactionResult`. -/
structure TransactionResult where
  action : String
  changedS23Mode : Bool := false
  disabledS24 : Bool := false
  runtimeVerified : Bool := false
  restartPerformed : Bool := false
  restartVerified : Bool := false
  noop : Bool := false
  exitCode : Nat := 0
  message : String := ""
  deriving DecidableEq

/-- `_file_info`: present, regular, symlink, mode, executable. -/
structure FileInfo where
  present : Bool
  regular : Bool
  symlink : Bool
  mode : Option Nat
  enabled : Bool
  deriving DecidableEq

def fileInfo : FileStatus → FileInfo
  | .found file => {
      present := true
      regular := file.kind = .regular
      symlink := file.kind = .symlink
      mode := some file.mode
      enabled := isExecutable file.mode }
  | _ => { present := false, regular := false, symlink := false, mode := none, enabled := false }

def maxInitEntries : Nat := 128

/-- Whether `"xray"` stands in the lowered name; no character but a Latin letter lowers to
one of these. -/
def namesXray (name : String) : Bool :=
  (name.toList.map PyText.asciiLower).tails.any ("xray".toList.isPrefixOf ·)

/-- `_bounded_init_conflicts`. -/
def boundedInitConflicts (initDir : Option (List (String × FileStatus))) : List String :=
  match initDir with
  | none => ["/opt/etc/init.d/<unreadable>"]
  | some entries =>
      ((entries.take maxInitEntries).filter fun (name, status) =>
        name ≠ "S23xray-direct" && name ≠ "S24xray" && namesXray name &&
          (let info := fileInfo status
           info.present && info.regular && !info.symlink && info.enabled)).map
        (fun entry => "/opt/etc/init.d/" ++ entry.1) ++
      if maxInitEntries < entries.length then ["/opt/etc/init.d/<too-many-entries>"] else []

/-- `AutostartStatus`. -/
structure AutostartStatus where
  s23 : FileInfo
  s23HashMatch : Bool
  s24 : FileInfo
  conflicts : List String
  runtime : RuntimeVerification
  deriving DecidableEq

/-- `AutostartStatus.verify_ok`. -/
def AutostartStatus.verifyOk (status : AutostartStatus) : Bool :=
  status.s23.present && status.s23.regular && !status.s23.symlink && status.s23.enabled &&
    status.s23HashMatch &&
    (!status.s24.present ||
      (status.s24.regular && !status.s24.enabled && !status.s24.symlink)) &&
    status.conflicts.isEmpty && status.runtime.ok

def runtimeOf (host : Host) (router : Router) : RuntimeVerification :=
  verifyRuntime host.paths host.maxEntries router.runtime

/-- `inspect_status`, where nothing is raised. -/
def inspectStatus (host : Host) (router : Router) : AutostartStatus :=
  let s23 := fileInfo router.s23
  { s23
    s23HashMatch := s23.present && s23.regular && !s23.symlink && host.s23Matches
    s24 := fileInfo router.s24
    conflicts := boundedInitConflicts host.initDir
    runtime := runtimeOf host router }

/-- The router, the result under construction and the first signal recorded. -/
structure Session where
  router : Router
  result : TransactionResult
  firstSignal : Option Nat

abbrev AutostartM := EStateM Failure Session

def raiseAutostart {α : Type} (message : String) (exitCode : Int := 1) : AutostartM α :=
  throw (.autostart message exitCode)

/-- A check whose error is an `AutostartError` with exit code 1. -/
def checked {α : Type} : Except String α → AutostartM α
  | .ok a => pure a
  | .error message => raiseAutostart message

def require (condition : Prop) [Decidable condition] (message : String) (exitCode : Int := 1) :
    AutostartM Unit :=
  if condition then pure () else raiseAutostart message exitCode

def setResult (f : TransactionResult → TransactionResult) : AutostartM Unit :=
  modify fun session => { session with result := f session.result }

def setRouter (f : Router → Router) : AutostartM Unit :=
  modify fun session => { session with router := f session.router }

/-- The handler records the first signal. -/
def recordSignal (faults : Faults) (checkpoint : Checkpoint) : AutostartM Unit :=
  modify fun session =>
    { session with firstSignal := session.firstSignal <|> faults.signals checkpoint }

/-- `TransactionSignals.raise_if_requested`, outside a recovery-critical section. -/
def raiseIfRequested : AutostartM Unit := do
  match (← get).firstSignal with
  | some signum =>
      raiseAutostart ("transaction interrupted by signal " ++ toString signum) (128 + signum)
  | none => pure ()

/-- `_safe_chmod`. -/
def safeChmod (script : Script) (mode : Nat) (fault : ModeFault) : AutostartM Unit := do
  match fault with
  | .none => setRouter (·.setMode script mode)
  | .uninspected _ | .openFails | .statFails | .chmodFails => throw .uncaught
  | .notRegular => raiseAutostart (script.description ++ " is not a safe regular file.")
  | .syncFails | .statAgainFails | .closeFails => do
      setRouter (·.setMode script mode)
      throw .uncaught
  | .replaced => do
      setRouter (·.setMode script mode)
      raiseAutostart (script.description ++ " changed identity during chmod.")
  | .otherMode found => do
      setRouter (·.setMode script found)
      if found ≠ mode then raiseAutostart (script.description ++ " mode verification failed.")
      else pure ()

/-- What `lstat` says at the start of a change of mode. -/
def ModeFault.seen (status : FileStatus) : ModeFault → FileStatus
  | .uninspected reason => .unreadable reason
  | _ => status

/-- `_disable_executable` and `_enable_executable`, which differ in the mode they set. -/
def changeMode (script : Script) (newMode : Nat → Nat) (fault : ModeFault) : AutostartM Bool := do
  let status := fault.seen ((← get).router.script script)
  let file ← checked (requireRegularNonsymlink script.description status)
  if newMode file.mode = file.mode then pure false
  else do
    safeChmod script (newMode file.mode) fault
    pure true

def disableExecutable (script : Script) (fault : ModeFault) : AutostartM Bool :=
  changeMode script withoutExecution fault

def enableExecutable (script : Script) (fault : ModeFault) : AutostartM Bool :=
  changeMode script (fun _ => enabledMode) fault

/-- How a supervised child ends. -/
def superviseSpawnedChild (action : InitAction) : InitReport → AutostartM Unit
  | .exits returncode => do
      let code : Int := if returncode < 0 then 128 + (returncode.natAbs : Int) else returncode
      if code ≠ 0 then
        raiseAutostart ("S23xray-direct " ++ action.text ++ " failed with exit code " ++
          toString code ++ ".") code
      else pure ()
  | .overflows => raiseAutostart ("S23xray-direct " ++ action.text ++
      " output exceeded the bounded capture limit.")
  | .unwatchedExit reason => raiseAutostart ("S23xray-direct " ++ action.text ++
      " supervision failed after child exit: " ++ reason)
  | _ => throw .uncaught

/-- `_run_init`; a signal recorded behind the spawn cuts no recovery off. -/
def runInit (faults : Faults) (action : InitAction) (recovering : Bool) : AutostartM Unit := do
  match (faults.runs action).report with
  | .notSpawned reason =>
      raiseAutostart ("could not run S23xray-direct " ++ action.text ++ ": " ++ reason) spawnError
  | .spawnRaises => throw .uncaught
  | report => do
      -- the mask is lifted behind the spawn, so what came before is recorded now
      recordSignal faults .disabled
      recordSignal faults (.running action)
      setRouter fun router => { router with runtime := (faults.runs action).runtime }
      superviseSpawnedChild action report
      if recovering then pure () else raiseIfRequested

/-- `verify_runtime`, in the transaction. -/
def look (host : Host) (faults : Faults) (at_ : Look) : AutostartM RuntimeVerification := do
  if faults.looks at_ then throw .uncaught
  else pure (runtimeOf host (← get).router)

/-- `inspect_status`, in the transaction. -/
def inspect (host : Host) (faults : Faults) (at_ : Look) : AutostartM AutostartStatus := do
  if faults.looks at_ then throw .uncaught
  else pure (inspectStatus host (← get).router)

/-- `_remove_receipt`. -/
def removeReceipt (faults : Faults) (step : ReceiptStep) : AutostartM Unit := do
  match (← get).router.receipt with
  | .missing => pure ()
  | status => do
      let _ ← checked (requireRegularNonsymlink "autostart receipt" status)
      match faults.receipts step with
      | .unlinkFails => throw .uncaught
      | .none => setRouter fun router => { router with receipt := .missing }

/-- `_require_directory_nonsymlink`. -/
def requireDirectoryNonsymlink (description : String) (before : Except String FileMeta)
    (same : Except String Bool) : Except String Unit :=
  match before with
  | .error reason => .error (description ++ " could not be inspected: " ++ reason)
  | .ok file => do
      raiseIf (file.kind = .symlink) (description ++ " is a symlink and was rejected.")
      raiseIf (file.kind ≠ .directory) (description ++ " is not a directory.")
      match same with
      | .error reason => .error (description ++ " identity could not be verified: " ++ reason)
      | .ok unchanged =>
          raiseIf (unchanged = false) (description ++ " changed identity during inspection.")

def defaultTargetRoot : String := "/opt"

def usageError : Int := 2

def requireUnlessMissing (description : String) : FileStatus → Except String Unit
  | .missing => .ok ()
  | status => do
      let _ ← requireRegularNonsymlink description status
      pure ()

/-- The checks of `_preflight_apply` behind those of the platform. -/
def preflightChecks (host : Host) (router : Router) : Except String Unit := do
  let _ ← requireRegularNonsymlink "S23xray-direct" router.s23
  raiseIf (host.s23Matches = false) ("S23xray-direct does not match the reviewed repository " ++
    "template; rerun the normal install stage.")
  let _ ← requireRegularNonsymlink "Xray executable" host.xray
  raiseIf (host.xrayExecutable = false) "Xray executable is not executable."
  requireDirectoryNonsymlink "Xray config directory" host.confDir host.confDirSame
  requireUnlessMissing "S24xray" router.s24
  raiseIf (boundedInitConflicts host.initDir ≠ [])
    "conflicting executable Xray init scripts were found."

/-- `_preflight_apply`. -/
def preflightApply (host : Host) : AutostartM Unit := do
  require (host.targetRoot = defaultTargetRoot) "autostart apply supports only literal /opt."
    usageError
  require (host.sysname = "Linux") "autostart apply must run on Entware/Linux router."
  checked (preflightChecks host (← get).router)

/-- The mode `lstat` gives of S23xray-direct. -/
def s23Mode : AutostartM Nat := do
  match (← get).router.s23 with
  | .found file => pure file.mode
  | _ => throw .uncaught

/-- The checks of the runtime behind the restart. -/
def requireNewEpoch (before runtime : RuntimeVerification) : Except String Unit := do
  raiseIf (runtime.ok = false)
    ("strict runtime verification failed: " ++ "; ".intercalate runtime.messages)
  match before.ok, before.identity with
  | true, some identity =>
      raiseIf (∀ restarted ∈ runtime.identity, identity.sameEpoch restarted = true)
        "restart did not prove a new Xray process epoch."
  | _, _ => pure ()

/-- S24xray is disabled where it is there. -/
def disableS24 (faults : Faults) : AutostartM Unit := do
  if (← get).router.s24 = .missing then pure ()
  else
    let disabled ← disableExecutable .s24 (faults.modes .disableS24)
    setResult ({ · with disabledS24 := disabled })

/-- Signals are recorded before the first child only where they are not blocked. -/
def recordUnmasked (host : Host) (faults : Faults) : AutostartM Unit :=
  if host.masks then pure () else recordSignal faults .disabled

/-- Both scripts are disabled first. -/
def disableScripts (host : Host) (faults : Faults) : AutostartM Unit := do
  disableS24 faults
  let _ ← disableExecutable .s23 (faults.modes .disableS23)
  recordUnmasked host faults
  raiseIfRequested

/-- The restart, and what has to be seen behind it. -/
def restartVerified (host : Host) (faults : Faults) (before : AutostartStatus) :
    AutostartM Unit := do
  runInit faults .restart false
  setResult ({ · with restartPerformed := true })
  recordSignal faults .restarted
  raiseIfRequested
  let runtime ← look host faults .restarted
  checked (requireNewEpoch before.runtime runtime)
  setResult ({ · with runtimeVerified := true, restartVerified := true })

/-- S23xray-direct is enabled last. -/
def enableVerified (host : Host) (faults : Faults) : AutostartM TransactionResult := do
  let changed ← enableExecutable .s23 (faults.modes .enableS23)
  setResult ({ · with changedS23Mode := changed })
  recordSignal faults .enabled
  raiseIfRequested
  let finalStatus ← inspect host faults .final
  require (finalStatus.verifyOk = true) "final autostart verification failed."
  removeReceipt faults .forward
  setResult ({ · with message := "Autostart enabled and restart-verified." })
  return (← get).result

/-- The body of the transaction. -/
def enableSteps (host : Host) (faults : Faults) (before : AutostartStatus) :
    AutostartM TransactionResult := do
  disableScripts host faults
  restartVerified host faults before
  enableVerified host faults

/-- `contextlib.suppress(Exception)`. -/
def suppressAll (x : AutostartM Unit) : AutostartM Unit :=
  tryCatchThe Failure x fun _ => pure ()

/-- `contextlib.suppress(AutostartError)`. -/
def suppressAutostart (x : AutostartM Unit) : AutostartM Unit :=
  tryCatchThe Failure x fun
    | .autostart _ _ => pure ()
    | .uncaught => throw .uncaught

/-- `_remove_runtime_if_started`, in the recovery-critical section. -/
def removeRuntimeIfStarted (host : Host) (faults : Faults) : AutostartM Bool := do
  let before ← look host faults .beforeStop
  if before.ok then
    let stopped ← tryCatchThe Failure (do runInit faults .stop true; pure true) fun
      | .autostart _ _ => pure false
      | .uncaught => throw .uncaught
    if stopped then pure (!(← look host faults .stopped).ok) else pure false
  else pure true

/-- The mode is put back where it differs. -/
def restoreMode (faults : Faults) (beforeMode : Nat) : AutostartM Unit := do
  match faults.modes .restoreS23 with
  | .uninspected _ => throw .uncaught
  | fault =>
      if (← s23Mode) ≠ beforeMode then safeChmod .s23 beforeMode fault

/-- Whether the rollback of the runtime fails. -/
def rollBackRuntime (host : Host) (faults : Faults) (before : AutostartStatus) :
    AutostartM Bool := do
  if before.runtime.ok then
    let restored ← look host faults .restored
    if restored.ok then pure false
    else
      suppressAutostart (runInit faults .start true)
      pure (!(← look host faults .started).ok)
  else if (← get).result.restartPerformed then
    pure (!(← removeRuntimeIfStarted host faults))
  else pure false

/-- The last check of the rollback. -/
def rollbackUnprovenBy (host : Host) (faults : Faults) (before : AutostartStatus)
    (beforeMode : Nat) : AutostartM Bool :=
  tryCatchThe Failure (do
    let restored ← inspect host faults .rollback
    let mode ← s23Mode
    pure (mode ≠ beforeMode || (before.runtime.ok && !restored.runtime.ok)))
    fun _ => pure true

/-- The rollback, and the error behind it. -/
def rollBack (host : Host) (faults : Faults) (before : AutostartStatus) (beforeMode : Nat)
    (failure : Failure) : AutostartM TransactionResult := do
  removeReceipt faults .back
  suppressAll (restoreMode faults beforeMode)
  let failed ← rollBackRuntime host faults before
  let unproven ← rollbackUnprovenBy host faults before beforeMode
  if failed || unproven then
    raiseAutostart ("autostart enable failed and rollback could not be proven. " ++
      "Safe disable command: routerkit autostart --disable --apply --yes") rollbackUnproven
  else throw failure

/-- `TransactionSignals.signal_exit_code`. -/
def signalExitCode (firstSignal : Option Nat) : Nat :=
  match firstSignal with
  | none => 0
  | some signum => 128 + signum

/-- `with TransactionSignals():`. Its `__exit__` gives the handlers back, and behind the
one of SIGINT a SIGINT is a `KeyboardInterrupt`, whatever the body has ended in. -/
def withSignals {α : Type} (faults : Faults) (body : AutostartM α) : AutostartM α :=
  if faults.interrupted then
    tryCatchThe Failure (do
      let _ ← body
      throw .uncaught) fun _ => throw .uncaught
  else body

/-- What the end of the signal lifecycle has left to say. -/
def requireTornDown (faults : Faults) : AutostartM Unit :=
  match faults.teardown with
  | some failure => raiseAutostart ("autostart signal lifecycle teardown failed: " ++ failure)
  | none => pure ()

/-- `enable_autostart`. -/
def enableAutostart (host : Host) (faults : Faults) : AutostartM TransactionResult := do
  preflightApply host
  let beforeMode ← s23Mode
  setResult fun _ => { action := "enable" }
  let before ← inspect host faults .before
  if before.verifyOk then
    setResult ({ · with
      noop := true
      runtimeVerified := true
      message := "Autostart already enabled and runtime-verified; no restart was performed." })
    return (← get).result
  else
    let completed ← withSignals faults do
      let completed ← tryCatchThe Failure (enableSteps host faults before) fun
        | .autostart message code =>
            rollBack host faults before beforeMode (.autostart message code)
        | .uncaught => throw .uncaught
      recordSignal faults .finished
      return completed
    requireTornDown faults
    return { completed with exitCode := signalExitCode (← get).firstSignal }

/-- A change of mode has to be seen in the file. -/
def requireDisabled (script : Script) (advice : String) (status : FileStatus) :
    Except String Unit :=
  let info := fileInfo status
  raiseIf (status ≠ .missing ∧ (info.present = false ∨ info.regular = false ∨
    info.symlink = true ∨ info.enabled = true))
    (script.description ++ " disable could not be proven; " ++ advice)

/-- S23xray-direct is disabled where it is there. -/
def disableS23 (faults : Faults) : AutostartM Unit := do
  if (← get).router.s23 = .missing then pure ()
  else
    let changed ← disableExecutable .s23 (faults.modes .disableS23)
    setResult ({ · with changedS23Mode := changed })

/-- The body of the disabling transaction; its signals are deferred to the end. -/
def disableSteps (faults : Faults) : AutostartM Unit := do
  disableS24 faults
  disableS23 faults
  checked (requireDisabled .s24 "leave S23xray-direct disabled and inspect /opt/etc/init.d."
    (← get).router.s24)
  checked (requireDisabled .s23 "inspect /opt/etc/init.d before reboot." (← get).router.s23)
  removeReceipt faults .forward

/-- `disable_autostart`. -/
def disableAutostart (host : Host) (faults : Faults) : AutostartM TransactionResult := do
  require (host.targetRoot = defaultTargetRoot) "autostart apply supports only literal /opt."
    usageError
  setResult fun _ => { action := "disable" }
  withSignals faults do
    disableSteps faults
    recordSignal faults .finished
    let session ← get
    setResult ({ · with exitCode := signalExitCode session.firstSignal })
  requireTornDown faults
  let result := (← get).result
  return { result with
    noop := !result.changedS23Mode && !result.disabledS24
    message := "Autostart disabled. Runtime may continue until manually stopped or rebooted." }

end RouterKit.Autostart
