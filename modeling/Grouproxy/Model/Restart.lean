import Grouproxy.Model.Apply

/-! # Starting the monitor

After a crash the files and the installed firewall are what is left. The monitor loads its
state, brings a bundle of an earlier version up to date and restores the last good bundle.
-/

namespace Grouproxy.Agent

open Value Policy Singbox Steps
open Grouproxy.Runtime

structure RestartCalls where
  saveState : Outcome
  restore : RestoreCalls
  config : ConfigCalls
  writeSingbox : Outcome
  check : Outcome
  apply : ApplyCalls

/-- The state that `main` loads and sanitizes, with the process manager it creates. -/
def startup (cfg : Config) (runSingbox : Bool) (calls : RestartCalls) (files : Files)
    (firewall : Option String) : World :=
  let loaded := files.state.getD State.fresh
  let s := { loaded with lastGoodBundle := loaded.lastGoodBundle.map sanitizeLegacyBundle }
  let files := if loaded.lastGoodBundle.any isLegacyBundle ∧ calls.saveState = .ok () then
    files.saveState s else files
  let w : World := { state := s, files := files, firewall := firewall, sequence := loaded.sequence
                     manager := ⟨runSingbox, cfg.listenPort, none, none, 0⟩, acks := []
                     failedRestores := 0 }
  if loaded.lastGoodBundle.any hasRetiredSourcePolicy then
    let w := if calls.restore.clearSnapshot = .ok () then
      { w with files := { w.files with snapshot := .missing } } else w
    (installScript cfg calls.restore.baseline (allowAllFirewallBaseline cfg) w).1
  else w

/-- The last good bundle: that of the state, or else the one in its own file. -/
def loadLastGood (cfg : Config) (calls : RestoreCalls) (w : World) : World × Option Fields :=
  match w.state.lastGoodBundle with
  | some lastGood => (w, some lastGood)
  | none =>
    match readPersistedBundle cfg calls w with
    | (w, none) => (w, none)
    | (w, some persisted) => (w.setLastGood true persisted, some persisted)

/-- Copies the prepared configuration to the configured path. -/
def publishConfig (call : Outcome) : AgentStep := fun w =>
  match w.files.configs .lastGood with
  | none => (w, .error "open last-good.json: no such file or directory")
  | some config => writeFiles call (fun files => { files with singboxConfig := some config }) w

/-- The error of a step inside the text of the caller. -/
def wrapError (text : String) (step : AgentStep) : AgentStep := fun w =>
  match step w with
  | (w, .ok ()) => (w, .ok ())
  | (w, .error e) => (w, .error (text ++ e))

/-- The firewall of the bundle as it is after preparing the configuration. -/
def restoreFirewallStep (cfg : Config) (calls : RestoreCalls) (lastGood : Fields) : AgentStep :=
  fun w => restoreLastGoodFirewallForBundle cfg calls.lookup calls.firewall true
    (w.state.lastGoodBundle.getD lastGood) w

def restoreSteps (cfg : Config) (libs : Libraries) (calls : RestartCalls) (lastGood : Fields)
    (port : Int) : AgentStep :=
  runAll [ensureLastGoodConfig cfg libs calls.config lastGood port,
    publishConfig calls.writeSingbox,
    writeFiles calls.check id,
    wrapError "restore last-good: " (startConfig calls.apply port .lastGood),
    wrapError "restore last-good firewall: " (restoreFirewallStep cfg calls.restore lastGood)]

def restoreLastGood (cfg : Config) (libs : Libraries) (calls : RestartCalls) : AgentStep := fun w =>
  match loadLastGood cfg calls.restore w with
  | (w, none) => restoreLastGoodFirewall cfg calls.restore w
  | (w, some lastGood) =>
    match (lastGood.get "listen").asMap? with
    | none => (w, .error "last-good listen missing")
    | some listen =>
      match (listen.get "http_port").asInt? with
      | none => (w, .error "last-good port invalid")
      | some port => restoreSteps cfg libs calls lastGood (cfg.processPort port) w

/-! ## Crashes -/

/-- The six files that a successful `applyBundle` writes after the health window. -/
def commitFiles (value : Fields) (c : Candidate) (s : State) : List (Files → Files) :=
  persistFiles value c ++ [Files.saveState s]

/-- The files when the monitor stops after the first `k` of them. -/
def crashFiles (k : Nat) (value : Fields) (c : Candidate) (s : State) (files : Files) : Files :=
  ((commitFiles value c s).take k).foldl (fun files write => write files) files

end Grouproxy.Agent
