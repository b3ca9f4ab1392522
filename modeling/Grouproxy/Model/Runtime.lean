import Grouproxy.Model.Singbox

/-! # The sing-box process manager

`Manager` starts sing-box with a configuration file and falls back to the file that was
active before. What the operating system answers is data: one outcome for each call.
-/

namespace Grouproxy.Runtime

open Text Value

/-- A call that only succeeds or fails. -/
abbrev Outcome := Except String Unit

/-- The files that a process is started with: a candidate under `versions`, or the
configuration of the last good bundle. -/
inductive ConfigPath where
  | version (name : String)
  | lastGood
  deriving DecidableEq, Repr

/-- The JSON documents at these paths, as far as they can be read. -/
abbrev ConfigFiles := ConfigPath → Option Fields

/-- A started process has read its file; writing the file again does not change it. -/
structure Process where
  path : ConfigPath
  config : Option Fields

/-- `failedRestarts` counts the fallbacks that failed; no code reads it. -/
structure Manager where
  runProcess : Bool
  listenPort : Int
  activePath : Option ConfigPath
  process : Option Process
  failedRestarts : Nat

/-- One turn of the waiting loop: the process is alive, the port is open, the time in
milliseconds after looking at the port, and whether the process is still alive then. -/
structure Poll where
  alive : Bool
  listening : Bool
  now : Nat
  aliveAfter : Bool

inductive Started where
  | listening
  | exited
  | silent
  deriving DecidableEq, Repr

/-- The waiting loop; the list ends at the deadline. `portSeen` is when the port was first
seen open without a break. -/
def awaitPort : Option Nat → List Poll → Started
  | _, [] => .silent
  | portSeen, poll :: polls =>
    if !poll.alive then .exited
    else if poll.listening then
      let seen := portSeen.getD poll.now
      if 250 ≤ poll.now - seen then if poll.aliveAfter then .listening else .silent
      else awaitPort (some seen) polls
    else awaitPort none polls

/-- What the calls of one `Apply` answer. -/
structure ApplyCalls where
  check : Outcome
  start : Outcome
  polls : List Poll
  startPrevious : Outcome

namespace Manager

def stop (m : Manager) : Manager := { m with process := none }

def start (configs : ConfigFiles) (call : Outcome) (configPath : ConfigPath) (m : Manager) :
    Manager × Outcome :=
  if m.runProcess then
    match call with
    | .error e => (m, .error e)
    | .ok () => ({ m with
        process := some ⟨configPath, configs configPath⟩, activePath := some configPath }, .ok ())
  else ({ m with activePath := some configPath }, .ok ())

/-- The fallback to the path that was active before, if there was one. -/
def startPrevious (configs : ConfigFiles) (call : Outcome) (previous : Option ConfigPath)
    (m : Manager) : Manager :=
  match previous with
  | none => m
  | some path =>
    match m.start configs call path with
    | (m, .ok ()) => m
    | (m, .error _) => { m with failedRestarts := m.failedRestarts + 1 }

def apply (configs : ConfigFiles) (calls : ApplyCalls) (candidatePath : ConfigPath)
    (m : Manager) : Manager × Outcome :=
  match calls.check with
  | .error e => (m, .error e)
  | .ok () =>
    if m.runProcess = false then ({ m with activePath := some candidatePath }, .ok ())
    else
      match m.stop.start configs calls.start candidatePath with
      | (stopped, .error e) =>
        (stopped.startPrevious configs calls.startPrevious m.activePath, .error e)
      | (started, .ok ()) =>
        match awaitPort none calls.polls with
        | .listening => (started, .ok ())
        | .exited =>
          (started.stop.startPrevious configs calls.startPrevious m.activePath,
            .error ("sing-box exited before listening on " ++ String.ofList (intText m.listenPort)))
        | .silent =>
          (started.stop.startPrevious configs calls.startPrevious m.activePath,
            .error ("sing-box did not listen on " ++ String.ofList (intText m.listenPort)))

def close (m : Manager) : Manager := m.stop

end Manager

/-- One health sample. -/
structure Health where
  processOK : Bool
  portOK : Bool
  apiOK : Bool

def Health.ok (h : Health) : Bool := h.processOK && h.portOK && h.apiOK

/-- Without a process to run every sample is good. -/
def Manager.health (m : Manager) (sample : Health) : Health :=
  if m.runProcess then sample else ⟨true, true, true⟩

end Grouproxy.Runtime
