import TboxSec.Keyprov.Service
import TboxSec.Lib.Machine

/-!
# The daemon as a machine

The provisioning service over the SoftFile provider as a `Machine`. A label is a call
together with everything the environment answers during it, so a run is a list of labels and
ranges over **every order of calls and every fault**: a failing save, unwrap or signature, a
crash at any write, a restart, a store that stops answering.

A crash inside a call leaves the disk and a dead process; `Call.boot` kills the process, if
there is one, and constructs a new one.

* `callStep` is one call, with what `settle` makes of a crash in it; `daemon` is the machine.
* `Reply.importResult` and `Call.importRequest` are what the results about imports look at.
* `Label.decision` is the decision that an import of this label takes in a world.
-/

namespace TboxSec.Keyprov

open Crash

/-- What can happen to the daemon. -/
inductive Call where
  /-- A new process is constructed, with or without an HSM. -/
  | boot (hsm : Bool) (bootNonce : ℕ)
  | init
  | beginShutdown
  | importBatch (requestId domain : String) (items : List WrappedKeyItem)
  | importKl1 (requestId domain : String) (items : List WrappedKeyItem)
      (context : KeyprovImportContext)
  | getImportResult (requestId : String)
  | getImportResultKl1 (requestId : String)
  | getStatus (domain : String) (purposes : List String)
  /-- The provider's store becomes ready, or stops being ready. -/
  | storeReady (ready : Bool)

/-- A call and what the environment answers during it. -/
structure Label where
  call : Call
  oracle : Oracle

/-- What a call gives back. -/
inductive Reply where
  | none
  | crashed
  | code (rc : ErrorCode)
  | result (rc : ErrorCode) (out : ImportResult)
  | resultKl1 (rc : ErrorCode) (out : ImportResult) (attach : KeyprovResultAttachment)
  | statuses (rc : ErrorCode) (items : List BusinessKeyStatus)
  deriving DecidableEq

/-- The daemon after a crash: the disk, and no process. -/
def deadWorld (d : Disk) : World := { disk := d }

/-- A freshly constructed daemon. -/
def bootWorld (d : Disk) (hsm : Bool) (bootNonce : ℕ) : World :=
  { disk := d, prov.hsm := hsm, svc.bootNonce := bootNonce }

/-- The world and the reply a call leaves. -/
def settle {α : Type} (reply : α → Reply) : Outcome World Disk α → World × Reply
  | .done a w => (w, reply a)
  | .crashed d => (deadWorld d, .crashed)

/-- Run one call. The answers of the environment are counted from zero in every call. -/
def callStep (D : Deployment) (w : World) (l : Label) : World × Reply :=
  let ω := l.oracle
  let w := { w with asked := {} }
  match l.call with
  | .boot hsm bootNonce => (bootWorld w.disk hsm bootNonce, .none)
  | .init => settle .code (serviceInitialize D ω w)
  | .beginShutdown => ({ w with svc.shuttingDown := true }, .none)
  | .importBatch rid domain items =>
    settle (fun a => .result a.1 a.2) (importBatch D ω rid domain items w)
  | .importKl1 rid domain items context =>
    settle (fun a => .resultKl1 a.1 a.2.1 a.2.2) (importKl1 D ω rid domain items context w)
  | .getImportResult rid => settle (fun a => .result a.1 a.2) (getImportResult D rid w)
  | .getImportResultKl1 rid =>
    settle (fun a => .resultKl1 a.1 a.2.1 a.2.2) (getImportResultKl1 D ω rid w)
  | .getStatus domain purposes =>
    settle (fun a => .statuses a.1 a.2) (getStatus D domain purposes w)
  | .storeReady ready => ({ w with prov.store := w.prov.store.map fun _ => ready }, .none)

/-- The daemon. -/
def daemon (D : Deployment) : Machine World Label Reply where
  step := callStep D

/-- The code and the result a reply carries, if it carries a result. -/
def Reply.importResult : Reply → Option (ErrorCode × ImportResult)
  | .result rc out | .resultKl1 rc out _ => some (rc, out)
  | _ => Option.none

/-- The request a call is about. -/
def Call.requestId : Call → Option String
  | .importBatch rid .. | .importKl1 rid .. | .getImportResult rid | .getImportResultKl1 rid =>
    some rid
  | _ => none

/-- The arguments both imports share. -/
structure ImportRequest where
  requestId : String
  domain : String
  items : List WrappedKeyItem
  deriving DecidableEq

/-- The request an import call makes. -/
def Call.importRequest : Call → Option ImportRequest
  | .importBatch rid domain items | .importKl1 rid domain items _ => some ⟨rid, domain, items⟩
  | _ => none

theorem Call.requestId_of_importRequest {c : Call} {q : ImportRequest}
    (h : c.importRequest = some q) : c.requestId = some q.requestId := by
  cases c with
  | importBatch | importKl1 =>
    cases h
    rfl
  | boot | init | beginShutdown | getImportResult | getImportResultKl1 | getStatus | storeReady =>
    cases h

/-- What an import call decides before it changes anything; `none` for other calls. -/
def Label.decision (D : Deployment) (w : World) (l : Label) : Option Decision :=
  let w := { w with asked := {} }
  match l.call with
  | .importBatch rid domain items =>
    match importDecide D l.oracle rid domain items w with
    | .done d _ => some d
    | .crashed _ => none
  | .importKl1 rid domain items context =>
    match importKl1Decide D l.oracle rid domain items context w with
    | .done d _ => some d.1
    | .crashed _ => none
  | _ => none

end TboxSec.Keyprov
