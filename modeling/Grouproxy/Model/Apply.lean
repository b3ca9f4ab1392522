import Grouproxy.Model.Agent

/-! # Applying a bundle

`applyBundle` checks a desired bundle, tries it on the firewall and on the process, and makes
it the last good bundle when it survives the health window.
-/

namespace Grouproxy.Agent

open Text Value Grouproxy.Bundle Policy Routing Singbox Subscription Steps
open Grouproxy.Runtime

/-! ## The subscription of a bundle -/

structure ResolvedSubscription where
  outbounds : List Any
  version : Int
  hash : String
  status : String

abbrev BlobCall := String → Except String String

def verifyHash (h : Hashes) (content expected : String) : Except String Unit :=
  if expected.utf8ByteSize ≠ 64 ∨ ¬ isHexText expected then .error "subscription_hash_invalid"
  else if hexdigest (h.sha256 content.toUTF8) ≠ toLower expected then
    .error "subscription_hash_mismatch"
  else .ok ()

def subscriptionContent (blob : BlobCall) (spec : Fields) : Except String String :=
  match (spec.get "content").asString?, (spec.get "blob_url").asString? with
  | some inline, _ => .ok inline
  | none, some _ =>
    match blob (stringValue (spec.get "hash")) with
    | .ok content => .ok content
    | .error e => .error ("subscription_blob_fetch_failed: " ++ e)
  | none, none => .error "invalid_subscription_content"

def resolveSubscription (libs : Libraries) (blob : BlobCall) (value : Fields) :
    Except String ResolvedSubscription :=
  match value.get "subscription" with
  | .nil => .ok ⟨[], 0, "", "not_configured"⟩
  | .map spec =>
    match (Fields.get spec "version").asInt? with
    | none => .error "invalid_subscription_version"
    | some version =>
      if version < 1 then .error "invalid_subscription_version"
      else do
        let content ← subscriptionContent blob spec
        verifyHash libs.hashes content (stringValue (Fields.get spec "hash"))
        let outbounds ← parse libs.readers content (stringValue (Fields.get spec "format"))
        return ⟨outbounds, version, stringValue (Fields.get spec "hash"), "current"⟩
  | _ => .error "invalid_subscription"

/-! ## The configuration of the last good bundle -/

structure ConfigCalls where
  ensureRoutingData : Outcome
  lookup : Lookup
  blob : BlobCall
  write : Outcome

def writeLastGoodConfig (call : Outcome) (config : Fields) : AgentStep := fun w =>
  match call with
  | .error e => (w, .error e)
  | .ok () => ({ w with files := w.files.writeConfig .lastGood config }, .ok ())

/-- The configuration for a bundle: the stored one refreshed, or a new one. -/
def lastGoodConfig (cfg : Config) (libs : Libraries) (blob : BlobCall) (lastGood : Fields)
    (port : Int) (rules : List SourceBlacklistRule) (stored : Option Fields) :
    Except String Fields :=
  match stored with
  | some config => refreshConfig cfg.settings lastGood port rules config
  | none => do
    let subscription ← resolveSubscription libs blob lastGood
    validateProxySelection lastGood (subscriptionOutboundTags subscription.outbounds)
    return renderSingbox cfg.settings lastGood port subscription.outbounds rules

def ensureLastGoodConfig (cfg : Config) (libs : Libraries) (calls : ConfigCalls) (lastGood : Fields)
    (port : Int) : AgentStep := fun w =>
  match calls.ensureRoutingData with
  | .error e => (w, .error e)
  | .ok () =>
    let (lastGood, rules) := lastGoodSourceBlacklistRules w.files.snapshot calls.lookup lastGood
    let w := w.setLastGood true lastGood
    match rules with
    | .error e => (w, .error e)
    | .ok rules =>
      match lastGoodConfig cfg libs calls.blob lastGood port rules (w.files.configs .lastGood) with
      | .error e => (w, .error e)
      | .ok config => writeLastGoodConfig calls.write config w

/-! ## Rolling back -/

structure RollbackCalls where
  restore : RestoreCalls
  config : ConfigCalls
  writeSingbox : Outcome
  apply : ApplyCalls
  health : Health
  save : Outcome

/-- The configured path gets what the last good path holds. -/
def copyToSingboxConfig (call : Outcome) (w : World) : World :=
  match w.files.configs .lastGood, call with
  | some config, .ok () => { w with files := { w.files with singboxConfig := some config } }
  | _, _ => w

def startConfig (calls : ApplyCalls) (port : Int) (path : ConfigPath) : AgentStep := fun w =>
  match ({ w.manager with listenPort := port }).apply w.files.configs calls path with
  | (manager, result) => ({ w with manager := manager }, result)

/-- Prepares the last good configuration and starts it. -/
def restartLastGood (cfg : Config) (libs : Libraries) (calls : RollbackCalls) (lastGood : Fields)
    (port : Int) : AgentStep :=
  andThen (ensureLastGoodConfig cfg libs calls.config lastGood port) fun w =>
    startConfig calls.apply port .lastGood (copyToSingboxConfig calls.writeSingbox w)

/-- The state and the acknowledgement that end a rollback. -/
def finishRollback (cfg : Config) (save : Outcome) (value : Fields) (reason : String)
    (processOK nftRollbackOK rollbackOK : Bool) : AgentStep := fun w =>
  let w := saveNumbered save { w.state with
    configStatus := if rollbackOK then "failed" else "rollback_failed"
    serviceStatus := if rollbackOK then "healthy" else "unhealthy"
    lastError := reason } w
  (sendAck cfg value ⟨false, processOK, nftRollbackOK, false, true, rollbackOK⟩ "rolled_back"
    "health_check_failed" reason w, .error reason)

/-- Whether a step did not fail. -/
def succeeded (r : Outcome) : Bool :=
  match r with
  | .ok () => true
  | .error _ => false

def rollback (cfg : Config) (libs : Libraries) (calls : RollbackCalls) (value : Fields)
    (reason : String) (processOK : Bool) : AgentStep := fun w =>
  let restored := restoreLastGoodFirewall cfg calls.restore { w with manager := w.manager.close }
  let nftRollbackOK := succeeded restored.2
  let w := noteRestore restored
  match w.state.lastGoodBundle.bind fun lastGood => (httpPort? lastGood).map (lastGood, ·) with
  | none => finishRollback cfg calls.save value reason processOK nftRollbackOK false w
  | some (lastGood, port) =>
    let restarted := restartLastGood cfg libs calls lastGood (cfg.processPort port) w
    let rollbackOK := succeeded restarted.2 && (restarted.1.manager.health calls.health).ok &&
      nftRollbackOK
    finishRollback cfg calls.save value reason processOK nftRollbackOK rollbackOK
      (noteRestore restarted)

/-! ## The candidate of a bundle -/

/-- The code and the message of a failure. -/
structure Failure where
  code : String
  message : String

def errorCode (e : String) : String :=
  String.ofList (e.toList.map fun c => if c = ' ' then '_' else c)

/-- The code of an error is its text. -/
def coded {α : Type} : Except String α → Except Failure α
  | .ok a => .ok a
  | .error e => .error ⟨errorCode e, e⟩

def withCode {α : Type} (code : String) : Except String α → Except Failure α
  | .ok a => .ok a
  | .error e => .error ⟨code, e⟩

/-- A missing value is a failure. -/
def require {α : Type} (value : Option α) (code message : String) : Except Failure α :=
  match value with
  | some a => .ok a
  | none => .error ⟨code, message⟩

def requireThat (condition : Bool) (code message : String) : Except Failure Unit :=
  if condition then .ok () else .error ⟨code, message⟩

structure Candidate where
  version : Int
  hash : String
  port : Int
  subscription : ResolvedSubscription
  rules : List SourceBlacklistRule
  config : Fields
  script : String

def Candidate.path (c : Candidate) : ConfigPath :=
  .version (String.ofList (intText c.version) ++ "-" ++ String.ofList (c.hash.toList.take 12) ++
    ".json")

/-- The calls that decide what a bundle becomes. -/
structure PlanCalls where
  clock : Clock
  lookup : Lookup
  blob : BlobCall
  ensureRoutingData : Outcome

/-- The checks of a bundle, in order, and what it renders to. -/
def planCandidate (cfg : Config) (libs : Libraries) (calls : PlanCalls) (appliedVersion : Int)
    (version : Int) (value : Fields) : Except Failure Candidate := do
  let hash ← coded (validate libs.hashes calls.clock value cfg.hmacSecret appliedVersion)
  requireThat (stringValue (value.get "node_id") == cfg.nodeID) "bundle_node_mismatch"
    "bundle node_id does not match this monitor"
  coded (validateMinimumMonitorVersion value monitorVersion)
  let _ ← coded (parseDestinationPolicy value)
  let listen ← require (value.get "listen").asMap? "invalid_listen" "listen object is missing"
  let port ← require (listen.get "http_port").asInt? "invalid_http_port" "http_port is invalid"
  let subscription ← coded (resolveSubscription libs calls.blob value)
  coded (validateProxySelection value (subscriptionOutboundTags subscription.outbounds))
  coded (validateDestinationOutbounds value subscription.outbounds)
  withCode "routing_data_write_failed" calls.ensureRoutingData
  let rules ← withCode "source_domain_resolution_failed" (resolveBundleRules calls.lookup value)
  return { version, hash, port := cfg.processPort port, subscription, rules
           config := renderSingbox cfg.settings value (cfg.processPort port) subscription.outbounds
             rules
           script := bundleScript (cfg.firewallPort (cfg.processPort port)) value rules }

/-! ## Trying a candidate -/

/-- The calls of one `applyBundle`. -/
structure Calls where
  plan : PlanCalls
  makeVersionsDir : Outcome
  writeCandidate : Outcome
  checkCandidate : Outcome
  checkFirewall : Outcome
  writeCandidateNft : Outcome
  applyFirewall : Outcome
  apply : ApplyCalls
  health : Nat → Health
  restore : RestoreCalls
  rollback : RollbackCalls
  persist : Nat → Outcome
  saveFailure : Outcome
  saveState : Outcome
  ack : Outcome

/-- A write whose failure ends `applyBundle` with its error. -/
def writeFiles (call : Outcome) (update : Files → Files) : AgentStep := fun w =>
  match call with
  | .error e => (w, .error e)
  | .ok () => ({ w with files := update w.files }, .ok ())

/-- A check whose failure is acknowledged under a code. -/
def checkOrAck (cfg : Config) (save : Outcome) (value : Fields) (code : String) (call : Outcome) :
    AgentStep := fun w =>
  match call with
  | .error e => ackFailure cfg save value code e true false false false w
  | .ok () => (w, .ok ())

def swapFirewall (cfg : Config) (calls : Calls) (value : Fields) (script : String) : AgentStep :=
  fun w =>
    if cfg.applyMode then
      match applyScript calls.applyFirewall script w with
      | (w, .ok ()) => (w, .ok ())
      | (w, .error e) => ackFailure cfg calls.saveFailure value "nft_apply_failed" e true false false
          false (noteRestore (restoreLastGoodFirewall cfg calls.restore w))
    else (w, .ok ())

def swapProcess (cfg : Config) (calls : Calls) (value : Fields) (c : Candidate) : AgentStep :=
  fun w =>
    match startConfig calls.apply c.port c.path w with
    | (w, .ok ()) => (w, .ok ())
    | (w, .error e) => ackFailure cfg calls.saveFailure value "singbox_apply_failed" e true false
        false true (noteRestore (restoreLastGoodFirewall cfg calls.restore w))

/-- The first bad sample, or the last one. -/
def sampleHealth (samples : Nat → Health) (index : Nat) : Nat → Health
  | 0 => samples index
  | remaining + 1 =>
    if (samples index).ok then sampleHealth samples (index + 1) remaining else samples index

/-- How often the window is sampled after the first sample. -/
def Config.healthSamples (cfg : Config) : Nat :=
  (cfg.healthWindowSeconds + cfg.healthSampleSeconds - 1) / cfg.healthSampleSeconds

def observedHealth (cfg : Config) (calls : Calls) (m : Manager) : Health :=
  sampleHealth (fun i => m.health (calls.health i)) 0 cfg.healthSamples

def healthWindow (cfg : Config) (libs : Libraries) (calls : Calls) (value : Fields) : AgentStep :=
  fun w =>
    let health := observedHealth cfg calls w.manager
    if health.ok then (w, .ok ())
    else rollback cfg libs calls.rollback value "health_window_failed" health.processOK w

/-! ## Making it the last good bundle -/

/-- The files of a new last good bundle, in the order in which they are written. -/
def persistFiles (value : Fields) (c : Candidate) : List (Files → Files) :=
  [fun files => { files with snapshot := .stored (stringValue (value.get "bundle_hash")) c.rules },
    fun files => { files with singboxConfig := some (jsonTreeFields c.config) },
    Files.writeConfig .lastGood c.config,
    fun files => { files with lastGoodBundle := some (jsonTreeFields value) },
    fun files => { files with lastGoodNft := some c.script }]

def checkSnapshot (value : Fields) (c : Candidate) : AgentStep := fun w =>
  match validateMaterializedSourceRules c.rules with
  | .error e => (w, .error e)
  | .ok () =>
    if stringValue (value.get "bundle_hash") = "" then (w, .error "missing_last_good_bundle_hash")
    else (w, .ok ())

def persist (calls : Calls) (value : Fields) (c : Candidate) : AgentStep :=
  andThen (checkSnapshot value c)
    (runAll ((persistFiles value c).mapIdx fun index update =>
      writeFiles (calls.persist index) update))

def committed (value : Fields) (c : Candidate) (s : State) : State :=
  { s with
    lastGoodBundle := some value
    lastGoodVersion := c.version
    lastGoodHash := c.hash
    appliedVersion := c.version
    appliedHash := c.hash
    subscriptionVersion := c.subscription.version
    subscriptionHash := c.subscription.hash
    subscriptionStatus := c.subscription.status
    configStatus := "in_sync"
    serviceStatus := "healthy"
    lastError := "" }

def commit (cfg : Config) (calls : Calls) (value : Fields) (c : Candidate) : AgentStep := fun w =>
  let w := saveNumbered calls.saveState (committed value c w.state) w
  match calls.saveState with
  | .error e => (w, .error e)
  | .ok () => (sendAck cfg value ⟨true, true, true, true, false, true⟩ "succeeded" "" "" w, calls.ack)

/-- Everything between the plan and the end of the health window. -/
def tryCandidate (cfg : Config) (libs : Libraries) (calls : Calls) (value : Fields) (c : Candidate) :
    AgentStep :=
  runAll [writeFiles calls.makeVersionsDir id,
    writeFiles calls.writeCandidate (Files.writeConfig c.path c.config),
    checkOrAck cfg calls.saveFailure value "singbox_check_failed" calls.checkCandidate,
    checkOrAck cfg calls.saveFailure value "nft_check_failed" calls.checkFirewall,
    writeFiles calls.writeCandidateNft fun files => { files with candidateNft := some c.script },
    swapFirewall cfg calls value c.script,
    swapProcess cfg calls value c,
    healthWindow cfg libs calls value]

def applyCandidate (cfg : Config) (libs : Libraries) (calls : Calls) (value : Fields)
    (c : Candidate) : AgentStep :=
  andThen (tryCandidate cfg libs calls value c)
    (andThen (persist calls value c) (commit cfg calls value c))

def applyBundle (cfg : Config) (libs : Libraries) (calls : Calls) (value : Fields) : AgentStep :=
  fun w =>
    match (value.get "desired_version").asInt? with
    | none => ackFailure cfg calls.saveFailure value "invalid_desired_version"
        "desired_version is not an integer" false false false false w
    | some version =>
      if version < w.state.appliedVersion then
        ackFailure cfg calls.saveFailure value "bundle_replay"
          "bundle version/hash is older than applied state" false false false false w
      else if version = w.state.appliedVersion ∧
          stringValue (value.get "bundle_hash") = w.state.appliedHash then (w, .ok ())
      else
        match planCandidate cfg libs calls.plan w.state.appliedVersion version value with
        | .error failure => ackFailure cfg calls.saveFailure value failure.code failure.message
            false false false false w
        | .ok candidate => applyCandidate cfg libs calls value candidate w

end Grouproxy.Agent
