import Zynk.Agent.Argv
import Zynk.Platform.ProcessTree

/-!
# Callers

The pane binding of `app/api/caller.rs` : a request about a pane is accepted from the root of the
pane and from its descendants only (`placeCallerInPaneTree`), and a Codex hook of a managed session
only if none of the processes up to the root is a shared daemon (`inspectCodexAncestryInPane`). The
uid of the server, the root that the pane published and the reads of `/proc` are inputs.

`peerCredentials` is what is remembered of a connection when it is accepted : the start time is read
at that moment.
-/

namespace Zynk.Api

open Platform

/-! ## The place of a caller -/

structure PeerCredentials where
  pid : ℕ
  uid : ℕ
  startTime : Option ℕ
  deriving DecidableEq, Repr

/-- The credentials of a connection that is accepted. -/
def peerCredentials (table : ProcessTable) (pid uid : ℕ) : PeerCredentials :=
  { pid, uid, startTime := (table.parentAndStartTime pid).map (·.2) }

inductive CallerRejection where
  | unknownPeer
  | foreignUid (peerPid uid : ℕ)
  | callerUnidentified (peerPid : ℕ)
  | callerReplaced (peerPid : ℕ)
  | paneHasNoProcess (peerPid : ℕ)
  | paneRootUnidentified (peerPid rootPid : ℕ)
  | paneRootGone (peerPid rootPid : ℕ)
  | paneRootReplaced (peerPid rootPid : ℕ)
  | outsidePane (peerPid : ℕ)
  deriving DecidableEq, Repr

/-- What a placement is answered. -/
def placementResult (peerPid rootPid : ℕ) : TreePlacement → Except CallerRejection Unit
  | .inside => .ok ()
  | .callerReplaced => .error (.callerReplaced peerPid)
  | .paneRootGone => .error (.paneRootGone peerPid rootPid)
  | .paneRootReplaced => .error (.paneRootReplaced peerPid rootPid)
  | .outside => .error (.outsidePane peerPid)

section

variable {m : Type → Type} [Monad m]

def placeCallerInPaneTree (peer : PeerCredentials) (serverUid : ℕ)
    (paneRoot : Option (ℕ × Option ℕ)) (ancestryOf : ℕ → m (Option (ℕ × ℕ))) : m (Except CallerRejection Unit) :=
  if peer.uid ≠ serverUid then pure (.error (.foreignUid peer.pid peer.uid))
  else
    match peer.startTime, paneRoot with
    | none, _ => pure (.error (.callerUnidentified peer.pid))
    | some _, none => pure (.error (.paneHasNoProcess peer.pid))
    | some _, some (rootPid, none) => pure (.error (.paneRootUnidentified peer.pid rootPid))
    | some startTime, some (rootPid, some rootStartTime) => do
      let placement ← placeProcessInTree ⟨peer.pid, startTime⟩ ⟨rootPid, rootStartTime⟩ ancestryOf
      pure (placementResult peer.pid rootPid placement)

end

/-! ## The ancestry of a Codex hook -/

inductive CodexAncestry where
  | perPane
  | sharedManagedDaemon
  deriving DecidableEq, Repr

inductive CodexAncestryError where
  | unreadable (pid : ℕ)
  | processReplaced (pid : ℕ)
  | cycle (pid : ℕ)
  | parentStartedAfterChild (parentPid childPid : ℕ)
  | hopLimit
  deriving DecidableEq, Repr

inductive CodexTreeError where
  | pane (rejection : CallerRejection)
  | ancestry (error : CodexAncestryError)
  deriving DecidableEq, Repr

def isManagedCodexDaemon : List String → Bool
  | [] => false
  | executable :: arguments =>
    fileName executable == some "codex" && arguments.any (· == "app-server") &&
      arguments.any (· == "--managed-daemon")

/-- What a hop does with the process that it read : the walk returns, or goes on to its parent. -/
def codexHop (caller paneRoot : ProcessPrincipal) (hop currentPid : ℕ) (seen : Assoc ℕ ℕ)
    (child : Option ProcessPrincipal) :
    Option ProcessInspection → Except (Except CodexTreeError CodexAncestry) ProcessInspection
  | none =>
    .error (.error (
      if currentPid = paneRoot.pid then .pane (.paneRootGone caller.pid paneRoot.pid)
      else if hop = 0 then .pane (.callerReplaced caller.pid)
      else .ancestry (.unreadable currentPid)))
  | some process =>
    if hop = 0 ∧ process.principal ≠ caller then
      .error (.error (.pane (.callerReplaced caller.pid)))
    else if currentPid = paneRoot.pid ∧ process.principal ≠ paneRoot then
      .error (.error (.pane (.paneRootReplaced caller.pid paneRoot.pid)))
    else
      match child.filter fun child => child.startTime < process.principal.startTime with
      | some child =>
        .error (.error (.ancestry (.parentStartedAfterChild process.principal.pid child.pid)))
      | none =>
        match seen.lookup currentPid with
        | some previousStart =>
          .error (.error (.ancestry (
            if previousStart = process.principal.startTime then .cycle currentPid
            else .processReplaced currentPid)))
        | none =>
          if isManagedCodexDaemon process.argv then .error (.ok .sharedManagedDaemon)
          else if process.principal = paneRoot then .error (.ok .perPane)
          else .ok process

section

variable {m : Type → Type} [Monad m]

/-- The loop of `inspect_codex_ancestry_in_pane`, with the turns that are left. -/
def inspectHops (caller paneRoot : ProcessPrincipal)
    (inspect : ℕ → m (Option ProcessInspection)) :
    ℕ → ℕ → ℕ → Assoc ℕ ℕ → Option ProcessPrincipal → m (Except CodexTreeError CodexAncestry)
  | 0, _, _, _, _ => pure (.error (.ancestry .hopLimit))
  | turns + 1, hop, currentPid, seen, child =>
    if currentPid ≤ 1 then pure (.error (.pane (.outsidePane caller.pid)))
    else do
      match codexHop caller paneRoot hop currentPid seen child (← inspect currentPid) with
      | .error result => pure result
      | .ok process =>
        inspectHops caller paneRoot inspect turns (hop + 1) process.parentPid
          (seen.insert currentPid process.principal.startTime) (some process.principal)

def inspectCodexAncestryInPane (caller paneRoot : ProcessPrincipal)
    (inspect : ℕ → m (Option ProcessInspection)) : m (Except CodexTreeError CodexAncestry) :=
  inspectHops caller paneRoot inspect maxAncestryHops 0 caller.pid ∅ none

end

end Zynk.Api
