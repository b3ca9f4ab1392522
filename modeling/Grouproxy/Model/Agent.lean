import Grouproxy.Library.Steps
import Grouproxy.Model.Runtime

/-! # The monitor agent

Applying a desired bundle, rolling back, and restoring the last good bundle after a restart.
The agent is a state with its files, its process manager and the installed firewall. Every
call to the outside has its outcome in a record of calls, so that a run is determined by the
bundles and these records.
-/

namespace Grouproxy.Agent

open Text Value Grouproxy.Bundle Policy Singbox Subscription Steps
open Grouproxy.Runtime

def monitorVersion : String := "0.8.0"

/-! ## Settings and state -/

/-- The settings that `config.Load` accepts: an override changes both ports together and
only in dry-run mode. -/
structure Config where
  nodeID : String
  hmacSecret : String
  settings : Settings
  listenPort : Int
  listenPortOverride : Int
  firewallPortOverride : Int
  applyMode : Bool
  healthWindowSeconds : Nat
  healthSampleSeconds : Nat
  healthSampleSeconds_pos : 0 < healthSampleSeconds
  override_eq : firewallPortOverride = listenPortOverride
  override_dryRun : 0 < listenPortOverride → applyMode = false

/-- What the agent takes from libraries. -/
structure Libraries where
  hashes : Hashes
  readers : Readers

structure State where
  lastGoodBundle : Option Fields
  lastGoodVersion : Int
  lastGoodHash : String
  appliedVersion : Int
  appliedHash : String
  subscriptionVersion : Int
  subscriptionHash : String
  subscriptionStatus : String
  sequence : Int
  configStatus : String
  serviceStatus : String
  lastError : String

/-- The state of a monitor without a state file. -/
def State.fresh : State :=
  { lastGoodBundle := none, lastGoodVersion := 0, lastGoodHash := "", appliedVersion := 0
    appliedHash := "", subscriptionVersion := 0, subscriptionHash := ""
    subscriptionStatus := "not_configured", sequence := 0, configStatus := "unknown"
    serviceStatus := "unknown", lastError := "" }

/-- `last-good-source-rules.json`. -/
inductive SnapshotFile where
  | missing
  | unreadable (e : String)
  | stored (bundleHash : String) (rules : List SourceBlacklistRule)

/-- The files of the monitor. `singboxConfig` is the configured path; it is none of the
monitor's own files. -/
structure Files where
  configs : ConfigFiles
  singboxConfig : Option Fields
  snapshot : SnapshotFile
  lastGoodBundle : Option Fields
  lastGoodNft : Option String
  candidateNft : Option String
  state : Option State

def Files.writeConfig (path : ConfigPath) (config : Fields) (files : Files) : Files :=
  { files with
    configs := fun p => if p = path then some (jsonTreeFields config) else files.configs p }

def Files.saveState (s : State) (files : Files) : Files :=
  { files with state := some { s with lastGoodBundle := s.lastGoodBundle.map jsonTreeFields } }

structure Ack where
  nodeID : String
  releaseID : String
  desiredVersion : Int
  appliedVersion : Int
  bundleHash : String
  appliedHash : String
  ok : Bool
  singboxOK : Bool
  nftOK : Bool
  healthOK : Bool
  rollbackAttempted : Bool
  rollbackOK : Bool
  lastGoodVersion : Int
  stage : String
  errorCode : String
  errorMessage : String
  sequence : Int

/-- The agent and what it acts on. `firewall` is the installed nft table; `failedRestores`
counts the restoring calls that failed, and no code reads it. -/
structure World where
  state : State
  files : Files
  manager : Manager
  firewall : Option String
  sequence : Int
  acks : List Ack
  failedRestores : Nat

abbrev AgentStep := Step World String

/-! ## Acknowledgements -/

/-- The flags of an acknowledgement. -/
structure AckFlags where
  ok : Bool
  singboxOK : Bool
  nftOK : Bool
  healthOK : Bool
  rollbackAttempted : Bool
  rollbackOK : Bool

def sendAck (cfg : Config) (value : Fields) (flags : AckFlags) (stage code message : String)
    (w : World) : World :=
  { w with acks := w.acks ++ [{
      nodeID := cfg.nodeID
      releaseID := stringValue (value.get "release_id")
      desiredVersion := ((value.get "desired_version").asInt?).getD 0
      appliedVersion := w.state.appliedVersion
      bundleHash := stringValue (value.get "bundle_hash")
      appliedHash := w.state.appliedHash
      ok := flags.ok
      singboxOK := flags.singboxOK
      nftOK := flags.nftOK
      healthOK := flags.healthOK
      rollbackAttempted := flags.rollbackAttempted
      rollbackOK := flags.rollbackOK
      lastGoodVersion := w.state.lastGoodVersion
      stage := stage
      errorCode := code
      errorMessage := message
      sequence := w.sequence }] }

/-- Numbers the state; the file changes only if it can be written. -/
def saveNumbered (save : Outcome) (s : State) (w : World) : World :=
  let s := { s with sequence := w.sequence + 1 }
  { w with
    state := s
    sequence := w.sequence + 1
    files := match save with
      | .ok () => w.files.saveState s
      | .error _ => w.files }

def ackFailure (cfg : Config) (save : Outcome) (value : Fields) (code message : String)
    (singboxOK nftOK healthOK rollbackAttempted : Bool) : AgentStep := fun w =>
  let w := saveNumbered save { w.state with configStatus := "failed", lastError := message } w
  (sendAck cfg value ⟨false, singboxOK, nftOK, healthOK, rollbackAttempted, false⟩ "failed" code
    message w, .error (code ++ ": " ++ message))

/-! ## Bundles of earlier versions -/

def hasRetiredSourcePolicy (value : Fields) : Bool := retiredPolicyFields.any value.has

/-- An entry of an earlier blacklist in today's form, if it has one. -/
def convertLegacyEntry (raw : Any) : Option Fields :=
  match raw.asMap? with
  | none => none
  | some entry =>
    let direction := stringValue (entry.get "direction")
    let normalized : Fields :=
      [("direction", .str (if direction = "" then "source" else direction)),
        ("kind", .str (canonicalKind (stringValue (entry.get "kind")))),
        ("pattern", .str (stringValue (entry.get "pattern")))]
    if isCanonicalSourceBlacklist [("blacklist", .arr [.map normalized])] then some normalized
    else none

def legacyEntryKey (entry : Fields) : String :=
  stringValue (entry.get "direction") ++ "\x00" ++ stringValue (entry.get "kind") ++ "\x00" ++
    stringValue (entry.get "pattern")

def convertLegacyBlacklistEntries (raw : List Any) : List Any :=
  (distinctBy legacyEntryKey [] (raw.filterMap convertLegacyEntry)).map Any.map

def canonicalizeBundleBlacklist (value : Fields) : Fields :=
  if isCanonicalSourceBlacklist value then value.delete "source_blacklist"
  else
    let converted :=
      match (value.get "blacklist").asArr?, (value.get "source_blacklist").asArr? with
      | some raw, _ => convertLegacyBlacklistEntries raw
      | none, some raw => convertLegacyBlacklistEntries raw
      | none, none => []
    (value.put "blacklist" (.arr converted)).delete "source_blacklist"

/-- The port of the first releases is replaced. -/
def sanitizeListen (value : Fields) : Fields :=
  match (value.get "listen").asMap? with
  | none => value
  | some listen =>
    if (listen.get "http_port").asInt? = some 80 then
      value.put "listen" (.map (listen.put "http_port" (.int proxyListenPort)))
    else value

def withoutRetired (value : Fields) : Fields :=
  ("proxy_auth" :: retiredPolicyFields).foldl Fields.delete value

def sanitizeLegacyBundle (value : Fields) : Fields :=
  sanitizeListen (canonicalizeBundleBlacklist (withoutRetired value))

/-- Whether sanitizing changes anything. -/
def isLegacyBundle (value : Fields) : Bool :=
  ("proxy_auth" :: retiredPolicyFields).any value.has ||
    !isCanonicalSourceBlacklist (withoutRetired value) || value.has "source_blacklist" ||
    ((value.get "listen").asMap?.bind fun listen => (listen.get "http_port").asInt?) == some 80

/-! ## Rules of the last good bundle -/

def resolveBundleRules (lookup : Lookup) (value : Fields) :
    Except String (List SourceBlacklistRule) :=
  resolveSourceBlacklistRules lookup (sourceBlacklistRules value)

/-- The stored rules of the bundle; a missing file or one of another bundle is resolved anew. -/
def snapshotRules (snapshot : SnapshotFile) (lookup : Lookup) (value : Fields) :
    Except String (List SourceBlacklistRule) :=
  match snapshot with
  | .missing => resolveBundleRules lookup value
  | .unreadable e => .error ("read last-good source rules: " ++ e)
  | .stored bundleHash rules =>
    if stringValue (value.get "bundle_hash") ≠ "" ∧
        bundleHash = stringValue (value.get "bundle_hash") then
      match validateMaterializedSourceRules rules with
      | .error e => .error e
      | .ok () => .ok rules
    else resolveBundleRules lookup value

/-- The rules and the bundle, whose map is canonicalized in place. -/
def lastGoodSourceBlacklistRules (snapshot : SnapshotFile) (lookup : Lookup) (value : Fields) :
    Fields × Except String (List SourceBlacklistRule) :=
  if hasRetiredSourcePolicy value then (value, .ok [])
  else if isCanonicalSourceBlacklist value then (value, snapshotRules snapshot lookup value)
  else
    (canonicalizeBundleBlacklist value,
      resolveBundleRules lookup (canonicalizeBundleBlacklist value))

/-- A change of the bundle's map, which is the map of the state if the state owns it. -/
def World.setLastGood (owned : Bool) (value : Fields) (w : World) : World :=
  if owned then { w with state := { w.state with lastGoodBundle := some value } } else w

/-! ## Ports and the firewall -/

def httpPort? (value : Fields) : Option Int :=
  (value.get "listen").asMap?.bind fun listen => (listen.get "http_port").asInt?

def Config.processPort (cfg : Config) (port : Int) : Int :=
  if 0 < cfg.listenPortOverride then cfg.listenPortOverride else port

def Config.firewallPort (cfg : Config) (listenPort : Int) : Int :=
  if 0 < cfg.firewallPortOverride then cfg.firewallPortOverride else listenPort

structure FirewallCalls where
  check : Outcome
  write : Outcome
  apply : Outcome

/-- The table is deleted before the script is loaded. -/
def applyScript (call : Outcome) (script : String) : AgentStep := fun w =>
  match call with
  | .ok () => ({ w with firewall := some script }, .ok ())
  | .error e => ({ w with firewall := none }, .error e)

/-- Checks a script, stores it and, in apply mode, installs it. -/
def installScript (cfg : Config) (calls : FirewallCalls) (script : String) : AgentStep := fun w =>
  match calls.check with
  | .error e => (w, .error e)
  | .ok () =>
    match calls.write with
    | .error e => (w, .error e)
    | .ok () =>
      let w := { w with files := { w.files with lastGoodNft := some script } }
      if cfg.applyMode then applyScript calls.apply script w else (w, .ok ())

def allowAllFirewallBaseline (cfg : Config) : String :=
  renderSourceRules (cfg.firewallPort (if cfg.listenPort < 1 then proxyListenPort
    else cfg.listenPort)) [] false

def bundleScript (port : Int) (value : Fields) (rules : List SourceBlacklistRule) : String :=
  renderSourceRules port (nftSourceRules rules) (boolValue (value.get "shutdown"))

def restoreLastGoodFirewallForBundle (cfg : Config) (lookup : Lookup) (calls : FirewallCalls)
    (owned : Bool) (lastGood : Fields) : AgentStep := fun w =>
  match (lastGood.get "listen").asMap? with
  | none => (w, .error "last-good listen missing")
  | some listen =>
    match (listen.get "http_port").asInt? with
    | none => (w, .error "last-good port invalid")
    | some port =>
      let (lastGood, rules) := lastGoodSourceBlacklistRules w.files.snapshot lookup lastGood
      let w := w.setLastGood owned lastGood
      match rules with
      | .error e => (w, .error e)
      | .ok rules =>
        installScript cfg calls (bundleScript (cfg.firewallPort port) lastGood rules) w

/-- The calls of restoring the firewall; the last three are made for a bundle that is read
from its file. -/
structure RestoreCalls where
  lookup : Lookup
  firewall : FirewallCalls
  writeBundle : Outcome
  clearSnapshot : Outcome
  baseline : FirewallCalls

/-- The bundle in `last-good-bundle.json`, brought up to date. -/
def readPersistedBundle (cfg : Config) (calls : RestoreCalls) (w : World) : World × Option Fields :=
  match w.files.lastGoodBundle with
  | none => (w, none)
  | some persisted =>
    let value := sanitizeLegacyBundle persisted
    let w := if isLegacyBundle persisted ∧ calls.writeBundle = .ok () then
      { w with files := { w.files with lastGoodBundle := some (jsonTreeFields value) } } else w
    let w := if hasRetiredSourcePolicy persisted then
      let w := if calls.clearSnapshot = .ok () then
        { w with files := { w.files with snapshot := .missing } } else w
      (installScript cfg calls.baseline (allowAllFirewallBaseline cfg) w).1
    else w
    (w, some value)

def restoreLastGoodFirewall (cfg : Config) (calls : RestoreCalls) : AgentStep := fun w =>
  match w.state.lastGoodBundle with
  | some lastGood =>
    restoreLastGoodFirewallForBundle cfg calls.lookup calls.firewall true lastGood w
  | none =>
    match readPersistedBundle cfg calls w with
    | (w, some lastGood) =>
      restoreLastGoodFirewallForBundle cfg calls.lookup calls.firewall false lastGood w
    | (w, none) => installScript cfg calls.firewall (allowAllFirewallBaseline cfg) w

/-- A restoring call whose failure the agent ignores. -/
def noteRestore (r : World × Outcome) : World :=
  match r with
  | (w, .ok ()) => w
  | (w, .error _) => { w with failedRestores := w.failedRestores + 1 }

end Grouproxy.Agent
