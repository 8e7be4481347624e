import RouterKit.Autostart.Transaction
import Mathlib.Data.Nat.Bitwise

/-!
What each step of the autostart transaction does: the failure it ends in, if any,
as a function of the router and of what the operating system answers, and the
state it leaves either way.
-/

namespace RouterKit.Autostart

open RouterKit.Lib.Checked RouterKit.Lib.Programs

/-- Every bit but those of execution is kept. -/
theorem withoutExecution_testBit (mode i : Nat) :
    (withoutExecution mode).testBit i = (mode.testBit i && !executionBits.testBit i) := by
  simp only [withoutExecution, Nat.testBit_and, Nat.testBit_xor]
  cases mode.testBit i <;> cases executionBits.testBit i <;> rfl

theorem isExecutable_withoutExecution (mode : Nat) :
    isExecutable (withoutExecution mode) = false := by
  have hcleared : withoutExecution mode &&& executionBits = 0 := by
    apply Nat.eq_of_testBit_eq
    intro i
    rw [Nat.testBit_and, withoutExecution_testBit, Nat.zero_testBit]
    cases executionBits.testBit i <;> simp
  simp [isExecutable, hcleared]

theorem isExecutable_enabledMode : isExecutable enabledMode = true := by decide

theorem withoutExecution_eq_self {mode : Nat} :
    withoutExecution mode = mode ↔ isExecutable mode = false := by
  constructor
  · intro h
    rw [← h]
    exact isExecutable_withoutExecution mode
  · intro h
    have hclear : mode &&& executionBits = 0 := by simpa [isExecutable] using h
    rw [withoutExecution, hclear, Nat.xor_zero]

def autostartFailure {α : Type} : Except String α → Option Failure
  | .ok _ => none
  | .error message => some (.autostart message 1)

/-- How `_safe_chmod` ends. -/
def ModeFault.failure (description : String) (mode : Nat) : ModeFault → Option Failure
  | .none => Option.none
  | .notRegular => some (.autostart (description ++ " is not a safe regular file.") 1)
  | .replaced => some (.autostart (description ++ " changed identity during chmod.") 1)
  | .otherMode found =>
      if found ≠ mode then some (.autostart (description ++ " mode verification failed.") 1)
      else Option.none
  | _ => some .uncaught

/-- What `_safe_chmod` leaves of the file. -/
def ModeFault.leaves (mode : Nat) (status : FileStatus) : ModeFault → FileStatus
  | .none | .syncFails | .statAgainFails | .replaced | .closeFails => status.withMode mode
  | .otherMode found => status.withMode found
  | _ => status

/-- The mode that stands behind `_safe_chmod`, where it has set one. -/
def ModeFault.stands (mode : Nat) : ModeFault → Option Nat
  | .none | .syncFails | .statAgainFails | .replaced | .closeFails => some mode
  | .otherMode found => some found
  | _ => Option.none

theorem ModeFault.leaves_found (mode : Nat) (file : FileMeta) (fault : ModeFault) :
    fault.leaves mode (.found file) =
      .found { file with mode := (fault.stands mode).getD file.mode } := by
  cases fault <;> rfl

/-- The mode a change of mode sets, where it sets one. -/
def modeToSet (script : Script) (newMode : Nat → Nat) (fault : ModeFault) (status : FileStatus) :
    Except String (Option Nat) :=
  (requireRegularNonsymlink script.description (fault.seen status)).map fun file =>
    if newMode file.mode = file.mode then none else some (newMode file.mode)

def modeFailure (script : Script) (newMode : Nat → Nat) (fault : ModeFault) (status : FileStatus) :
    Option Failure :=
  match modeToSet script newMode fault status with
  | .error message => some (.autostart message 1)
  | .ok none => none
  | .ok (some mode) => fault.failure script.description mode

def modeLeft (script : Script) (newMode : Nat → Nat) (fault : ModeFault) (status : FileStatus) :
    FileStatus :=
  match modeToSet script newMode fault status with
  | .ok (some mode) => fault.leaves mode status
  | _ => status

def signalFailure : Option Nat → Option Failure
  | none => none
  | some signum =>
      some (.autostart ("transaction interrupted by signal " ++ toString signum) (128 + signum))

/-- How a run of the init script ends, signals aside. -/
def InitRun.failure (run : InitRun) (action : InitAction) : Option Failure :=
  match run.report with
  | .notSpawned reason => some (.autostart
      ("could not run S23xray-direct " ++ action.text ++ ": " ++ reason) spawnError)
  | .exits returncode =>
      let code : Int := if returncode < 0 then 128 + (returncode.natAbs : Int) else returncode
      if code ≠ 0 then some (.autostart ("S23xray-direct " ++ action.text ++
        " failed with exit code " ++ toString code ++ ".") code)
      else none
  | .overflows => some (.autostart ("S23xray-direct " ++ action.text ++
      " output exceeded the bounded capture limit.") 1)
  | .unwatchedExit reason => some (.autostart ("S23xray-direct " ++ action.text ++
      " supervision failed after child exit: " ++ reason) 1)
  | .spawnRaises | .watchFails => some .uncaught

/-- Whether the script got to run. -/
def InitRun.spawned (run : InitRun) : Bool :=
  match run.report with
  | .notSpawned _ | .spawnRaises => false
  | _ => true

/-- The runtime behind a run. -/
def InitRun.leaves (run : InitRun) (before : RuntimeReads) : RuntimeReads :=
  if run.spawned then run.runtime else before

def receiptFailure (fault : ReceiptFault) : FileStatus → Option Failure
  | .missing => none
  | status =>
      match requireRegularNonsymlink "autostart receipt" status, fault with
      | .error message, _ => some (.autostart message 1)
      | .ok _, .unlinkFails => some .uncaught
      | .ok _, .none => none

def Session.withRouter (session : Session) (router : Router) : Session := { session with router }

def Router.setScript (router : Router) (script : Script) (status : FileStatus) : Router :=
  match script with
  | .s23 => { router with s23 := status }
  | .s24 => { router with s24 := status }

theorem Router.setMode_eq (router : Router) (script : Script) (mode : Nat) :
    router.setMode script mode = router.setScript script
        ((router.script script).withMode mode) := by
  cases script <;> rfl

theorem Router.setScript_self (router : Router) (script : Script) :
    router.setScript script (router.script script) = router := by
  cases script <;> rfl

variable {α : Type} {host : Host} {faults : Faults} {session : Session}

section Steps

variable {E : Failure → Session → Prop}

theorem wp_setResult (f : TransactionResult → TransactionResult) {Q : Unit → Session → Prop} :
    wp (setResult f) Q E session ↔ Q () { session with result := f session.result } := Iff.rfl

theorem wp_setRouter (f : Router → Router) {Q : Unit → Session → Prop} :
    wp (setRouter f) Q E session ↔ Q () { session with router := f session.router } := Iff.rfl

theorem wp_recordSignal (checkpoint : Checkpoint) {Q : Unit → Session → Prop} :
    wp (recordSignal faults checkpoint) Q E session ↔
      Q () { session with firstSignal := session.firstSignal <|> faults.signals checkpoint } :=
  Iff.rfl

theorem wp_raiseAutostart (message : String) (code : Int) {Q : α → Session → Prop} :
    wp (raiseAutostart message code) Q E session ↔ E (.autostart message code) session := Iff.rfl

theorem wp_checked (x : Except String α) {Q : α → Session → Prop} :
    wp (checked x) Q E session ↔
      (match x with
        | .ok a => Q a session
        | .error message => E (.autostart message 1) session) := by
  cases x <;> rfl

theorem wp_require {condition : Prop} [Decidable condition] {message : String} {code : Int}
    {Q : Unit → Session → Prop} :
    wp (require condition message code) Q E session ↔
      (condition → Q () session) ∧ (¬ condition → E (.autostart message code) session) := by
  rw [require, wp_ite]
  rfl

theorem wp_raiseIfRequested {Q : Unit → Session → Prop} :
    wp raiseIfRequested Q E session ↔
      (match signalFailure session.firstSignal with
        | none => Q () session
        | some failure => E failure session) := by
  rw [raiseIfRequested, wp_bind, wp_get]
  cases session.firstSignal <;> rfl

theorem wp_look {at_ : Look} {Q : RuntimeVerification → Session → Prop} :
    wp (look host faults at_) Q E session ↔
      (match faults.looks at_ with
        | true => E .uncaught session
        | false => Q (runtimeOf host session.router) session) := by
  unfold look
  cases faults.looks at_ <;> rfl

theorem wp_inspect {at_ : Look} {Q : AutostartStatus → Session → Prop} :
    wp (inspect host faults at_) Q E session ↔
      (match faults.looks at_ with
        | true => E .uncaught session
        | false => Q (inspectStatus host session.router) session) := by
  unfold inspect
  cases faults.looks at_ <;> rfl

theorem wp_safeChmod {script : Script} {mode : Nat} {fault : ModeFault}
    {Q : Unit → Session → Prop} :
    wp (safeChmod script mode fault) Q E session ↔
      (match fault.failure script.description mode with
        | none => Q () (session.withRouter (session.router.setScript script
            (fault.leaves mode (session.router.script script))))
        | some failure => E failure (session.withRouter (session.router.setScript script
            (fault.leaves mode (session.router.script script))))) := by
  cases fault with
  | otherMode found =>
      simp only [safeChmod, wp_bind, wp_setRouter, Router.setMode_eq, ModeFault.failure,
        ModeFault.leaves, wp_ite]
      by_cases hfound : found = mode
      · simp [hfound, Session.withRouter]
      · simp [hfound, wp_raiseAutostart, Session.withRouter]
  | _ =>
      simp [safeChmod, wp_raiseAutostart, wp_setRouter, Router.setMode_eq, Router.setScript_self,
        ModeFault.failure, ModeFault.leaves, Session.withRouter]

/-- Whether a change of mode gets to its `fchmod`. -/
def modeChanged (script : Script) (newMode : Nat → Nat) (fault : ModeFault) (status : FileStatus) :
    Bool :=
  match modeToSet script newMode fault status with
  | .ok (some _) => true
  | _ => false

def Session.changed (session : Session) (script : Script) (newMode : Nat → Nat)
    (fault : ModeFault) : Session :=
  session.withRouter (session.router.setScript script
    (modeLeft script newMode fault (session.router.script script)))

theorem wp_changeMode {script : Script} {newMode : Nat → Nat} {fault : ModeFault}
    {Q : Bool → Session → Prop} :
    wp (changeMode script newMode fault) Q E session ↔
      (match modeFailure script newMode fault (session.router.script script) with
        | none => Q (modeChanged script newMode fault (session.router.script script))
            (session.changed script newMode fault)
        | some failure => E failure (session.changed script newMode fault)) := by
  have hkept : session.withRouter (session.router.setScript script
      (session.router.script script)) = session := by
    rw [Router.setScript_self]
    rfl
  unfold changeMode
  rw [wp_bind, wp_get]
  simp only [wp_bind, wp_checked, Session.changed, modeFailure, modeLeft, modeChanged,
    modeToSet]
  cases requireRegularNonsymlink script.description
      (fault.seen (session.router.script script)) with
  | error message => simp only [Except.map, hkept]
  | ok file =>
      by_cases hsame : newMode file.mode = file.mode
      · simp only [Except.map, if_pos hsame, hkept, wp_pure]
      · simp only [Except.map, if_neg hsame, wp_bind, wp_safeChmod, wp_pure]

/-- What a run of the init script leaves of the session. -/
def Session.ran (session : Session) (faults : Faults) (action : InitAction) : Session :=
  if (faults.runs action).spawned then
    { session with
      router := { session.router with runtime := (faults.runs action).runtime }
      firstSignal := (session.firstSignal <|> faults.signals .disabled) <|>
        faults.signals (.running action) }
  else session

theorem Session.ran_router (session : Session) (faults : Faults) (action : InitAction) :
    (session.ran faults action).router =
      { session.router with
        runtime := (faults.runs action).leaves session.router.runtime } := by
  unfold Session.ran InitRun.leaves
  split <;> rfl

theorem wp_runInit {action : InitAction} {recovering : Bool} {Q : Unit → Session → Prop} :
    wp (runInit faults action recovering) Q E session ↔
      (match (faults.runs action).failure action with
        | some failure => E failure (session.ran faults action)
        | none =>
            match bif recovering then none
              else signalFailure (session.ran faults action).firstSignal with
            | some failure => E failure (session.ran faults action)
            | none => Q () (session.ran faults action)) := by
  unfold runInit Session.ran InitRun.failure InitRun.spawned
  generalize faults.runs action = run
  obtain ⟨report, runtime⟩ := run
  cases report with
  | exits returncode =>
      simp only [wp_bind, wp_recordSignal, wp_setRouter, superviseSpawnedChild, wp_ite,
        wp_raiseAutostart, wp_pure, wp_raiseIfRequested, if_true]
      generalize (if returncode < 0 then 128 + (returncode.natAbs : Int) else returncode) = code
      by_cases hcode : code = 0
      · cases recovering
        · simp only [hcode, ne_eq, not_true_eq_false, if_false, cond_false, Bool.false_eq_true]
          cases signalFailure _ <;> simp
        · simp [hcode]
      · simp [hcode]
  | _ =>
      simp [wp_recordSignal, wp_setRouter, wp_raiseAutostart, superviseSpawnedChild]

theorem wp_removeReceipt {step : ReceiptStep} {Q : Unit → Session → Prop} :
    wp (removeReceipt faults step) Q E session ↔
      (match receiptFailure (faults.receipts step) session.router.receipt with
        | some failure => E failure session
        | none => Q () (session.withRouter { session.router with receipt := .missing })) := by
  unfold removeReceipt
  rw [wp_bind, wp_get]
  unfold receiptFailure
  cases hreceipt : session.router.receipt with
  | missing =>
      have hkept : session.withRouter { session.router with receipt := .missing } = session := by
        rw [← hreceipt]
        rfl
      simp only [wp_pure, hkept]
  | _ =>
      simp only [wp_bind, wp_checked]
      cases requireRegularNonsymlink "autostart receipt" _ with
      | error message => rfl
      | ok file => cases faults.receipts step <;> rfl

theorem wp_withSignals {body : AutostartM α} {Q : α → Session → Prop} :
    wp (withSignals faults body) Q E session ↔
      wp body (fun a final => if faults.interrupted then E .uncaught final else Q a final)
        (fun failure final => E (if faults.interrupted then .uncaught else failure) final)
        session := by
  unfold withSignals
  cases faults.interrupted with
  | true => rw [if_pos rfl, wp_tryCatch, wp_bind]; rfl
  | false => rfl

theorem wp_requireTornDown {Q : Unit → Session → Prop} :
    wp (requireTornDown faults) Q E session ↔
      (match faults.teardown with
        | some failure => E (.autostart ("autostart signal lifecycle teardown failed: " ++ failure)
            1) session
        | none => Q () session) := by
  unfold requireTornDown
  cases faults.teardown <;> rfl

theorem wp_suppressAll {x : AutostartM Unit} {Q : Unit → Session → Prop} :
    wp (suppressAll x) Q E session ↔ wp x Q (fun _ => Q ()) session := by
  rw [suppressAll, wp_tryCatch]
  rfl

theorem wp_suppressAutostart {x : AutostartM Unit} {Q : Unit → Session → Prop} :
    wp (suppressAutostart x) Q E session ↔
      wp x Q (fun failure final => match failure with
        | .autostart _ _ => Q () final
        | .uncaught => E .uncaught final) session := by
  rw [suppressAutostart, wp_tryCatch]
  constructor <;>
  · intro h
    apply wp_mono h (fun _ _ => id)
    intro failure final
    cases failure <;> exact id

end Steps

end RouterKit.Autostart
