import RouterKit.LiveInstall.Safety
import RouterKit.Netcraze.AdapterErrors

/-!
Which errors an invocation can end in. `main` handles the coordinator's own
classes; the others get out where an input is read (the endpoint manifest, the
output of a captured delegate) and where evidence is missing for an authorized
reboot.
-/

namespace RouterKit.LiveInstall

open RouterKit.Lib.Checked RouterKit.Lib.Programs
open RouterKit.Netcraze (LiveState LocalEndpointManifest)
open RouterKit.Netcraze.External (Packet Phase)
open Stage

section Effects

variable {Digest : Type} {invocation : Invocation Digest} {s : Session Digest}

end Effects

section Stages

variable {Digest : Type} [DecidableEq Digest] {host : Fingerprints Digest}
  {invocation : Invocation Digest} {args : Args} {evidence : Option (Evidence Digest)}
  {s : Session Digest}

/-- The receipt says that a runtime was accepted. -/
def Accepted (receipt : Receipt Digest) : Prop :=
  receipt.runtimeDisposition = .adopted ∨ receipt.runtimeDisposition = .externalExecuted

end Stages

end RouterKit.LiveInstall
