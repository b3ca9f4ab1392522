import Grouproxy.Verification.Backend.Inheritance

/-! # Outbound selections over the history of a site

A bundle carries the selection of its own draft only. The next bundle of a node selects the same
outbound exactly if that is the automatic group, which the monitor falls back to.
-/

namespace Grouproxy.Backend

open Encoding Crypto Cidr Programs

/-! ## The selection of a bundle -/

/-- The selection that `build_signed_bundle` writes into a bundle. -/
def keptSelection (libs : Libraries) (outboundTags : List String) : Json → Option Json
  | .obj selection =>
    if selection = [] then none
    else
      let group := clip 255 (strOf libs (dictGetD selection "group" (.str "subscription")))
      let outbound := clip 255 (strOf libs (dictGetD selection "outbound" (.str "")))
      if group ≠ "subscription" ∨ outbound ∈ subscriptionSelectionTags outboundTags then
        some (.obj [("group", .str group), ("outbound", .str outbound)])
      else none
  | _ => none

theorem fieldOf_addProxySelection (libs : Libraries) (tags : List String) (proxySelection : Json)
    {bundle : Dict} (hnone : fieldOf bundle "proxy_selection" = none) :
    fieldOf (addProxySelection libs tags proxySelection bundle) "proxy_selection" =
      keptSelection libs tags proxySelection := by
  cases proxySelection with
  | obj selection =>
      by_cases hempty : selection = []
      · rw [addProxySelection, keptSelection, if_pos hempty, if_pos hempty]
        exact hnone
      · rw [addProxySelection, keptSelection, if_neg hempty, if_neg hempty]
        dsimp only
        split
        · split
          · rw [fieldOf_set_ne _ _ (by decide), fieldOf_set_self]
          · rw [fieldOf_set_self]
        · exact hnone
  | null => exact hnone
  | bool b => exact hnone
  | int n => exact hnone
  | str s => exact hnone
  | arr items => exact hnone

/-- The selection of a bundle that was built. -/
theorem proxySelection_bundleOf {settings : Settings} {s : Store} {site : Site} {node : Node}
    {desiredVersion : Nat} {draws : Draws} {proxySelection routingPolicy : Json} {bundle : Dict}
    (h : bundleOf settings s site node desiredVersion draws proxySelection routingPolicy =
      .ok bundle) :
    fieldOf bundle "proxy_selection" =
      keptSelection settings.libs (tagsOf settings.libs s site.id) proxySelection := by
  rcases bundleOf_ok h with ⟨subscription, unsigned, -, hunsigned, rfl⟩
  rw [fieldOf_signBundle _ _ _ (by decide) (by decide), fieldOf_addRoutingPolicy_ne hunsigned (by decide)
    (by decide)]
  exact fieldOf_addProxySelection _ _ _ rfl

/-! ## What the monitor selects -/

/-- The outbound that a bundle names. -/
def selectedOutbound (bundle : Dict) : Option String :=
  match dictGet bundle "proxy_selection" with
  | .obj selection => some (textOf (dictGet selection "outbound"))
  | _ => none

/-- The default of the selector that the monitor renders from a bundle. -/
def defaultOutbound (tags : List String) (bundle : Dict) : String :=
  Singbox.selectedSubscriptionOutbound (decodedFields bundle) tags

theorem get?_decodedFields (d : Dict) (key : String) :
    (decodedFields d).get? key = (fieldOf d key).map decoded := by
  induction d with
  | nil => rfl
  | cons f d ih =>
      rcases f with ⟨k, value⟩
      rw [decodedFields, Value.Fields.get?_cons, ih]
      by_cases hk : key = k
      · rw [if_pos hk, fieldOf, List.find?_cons_of_pos (by simp [hk])]
        rfl
      · have hne : (k == key) = false := by simpa using fun h => hk h.symm
        rw [if_neg hk, fieldOf, fieldOf, List.find?_cons_of_neg (by simp [hne])]

/-- Without a selection the monitor takes the automatic group. -/
theorem defaultOutbound_of_none {tags : List String} (htags : tags ≠ []) {bundle : Dict}
    (h : fieldOf bundle "proxy_selection" = none) :
    defaultOutbound tags bundle = Singbox.subscriptionAutoTag tags := by
  have hget : (decodedFields bundle).get "proxy_selection" = .nil := by
    rw [Value.Fields.get, get?_decodedFields, h]
    rfl
  rw [defaultOutbound, Singbox.selectedSubscriptionOutbound, if_neg htags, hget]
  rfl

/-! ## Histories -/

/-- What happens to a site: releases, and any other change between them. -/
inductive SiteEvent where
  | release (call : DesiredCall)
  | other (change : Store → Store)

/-- A property of every release of a history, in the store that it finds. -/
def Along (settings : Settings) (P : Store → DesiredCall → Prop) : Store → List SiteEvent → Prop
  | _, [] => True
  | s, .release call :: events => P s call ∧ Along settings P ((call.program settings).run s).2 events
  | s, .other change :: events => Along settings P (change s) events

theorem along_congr {settings : Settings} {P Q : Store → DesiredCall → Prop}
    (h : ∀ s call, P s call ↔ Q s call) (s : Store) (events : List SiteEvent) :
    Along settings P s events ↔ Along settings Q s events := by
  induction events generalizing s with
  | nil => rfl
  | cons event events ih =>
      cases event with
      | release call => exact and_congr (h s call) (ih _)
      | other change => exact ih _

/-- The latest bundle of a node selects an outbound that is still there, and the draft of the
call has no selection for the node. -/
structure LeavesSelection (settings : Settings) (s : Store) (call : DesiredCall) (node : Node)
    (outbound : String) : Prop where
  latest : ∃ d, s.latestRelease call.site.id node.agentId = some d ∧
    selectedOutbound d.bundle = some outbound
  available : outbound ∈ subscriptionSelectionTags (tagsOf settings.libs s call.site.id)
  draft : selectionFor call.proxySelection node = .ok .null

/-- The bundle that a call adds for a node. -/
def Adds (settings : Settings) (s : Store) (call : DesiredCall) (node : Node)
    (d : DesiredRelease) : Prop :=
  ∃ added, ((call.program settings).run s).2.desired = s.desired ++ added ∧ d ∈ added ∧
    d.nodeId = node.agentId

/-- The next bundle of every such node selects the same outbound. -/
def KeepsSelections (settings : Settings) (s : Store) (call : DesiredCall) : Prop :=
  ∀ node outbound, LeavesSelection settings s call node outbound → ∀ d, Adds settings s call node d →
    defaultOutbound (tagsOf settings.libs s call.site.id) d.bundle = outbound

/-- Every such node that gets a bundle has selected the automatic group. -/
def SelectsAutomatic (settings : Settings) (s : Store) (call : DesiredCall) : Prop :=
  ∀ node outbound, LeavesSelection settings s call node outbound →
    (∃ d, Adds settings s call node d) →
      outbound = Singbox.subscriptionAutoTag (tagsOf settings.libs s call.site.id)

theorem selectionFor_congr (proxySelection : Json) {node node' : Node}
    (h : node'.agentId = node.agentId) :
    selectionFor proxySelection node' = selectionFor proxySelection node := by
  unfold selectionFor
  rw [h]

/-- A bundle for which the draft has no selection carries none. -/
theorem defaultOutbound_of_adds {settings : Settings} {s : Store} {call : DesiredCall} {node : Node}
    {outbound : String} (h : LeavesSelection settings s call node outbound) {d : DesiredRelease}
    (hd : Adds settings s call node d) :
    defaultOutbound (tagsOf settings.libs s call.site.id) d.bundle =
      Singbox.subscriptionAutoTag (tagsOf settings.libs s call.site.id) := by
  have htags : tagsOf settings.libs s call.site.id ≠ [] := by
    intro hnil
    have havailable := h.available
    rw [hnil] at havailable
    cases havailable
  rcases hd with ⟨added, hadded, hmem, hnode⟩
  rw [DesiredCall.run_eq] at hadded
  rw [← List.append_cancel_left hadded] at hmem
  rcases nodeItem_of_mem hmem with ⟨node', -, hitem⟩
  rcases nodeItem_ok hitem with ⟨bundle, hbundle, rfl⟩
  rw [nodeBundle_runWith fun _ _ => rfl, selectionFor_congr call.proxySelection hnode, h.draft]
    at hbundle
  refine defaultOutbound_of_none htags ?_
  rw [newDesiredRelease, proxySelection_bundleOf hbundle]
  rfl

/-- Along any history, the releases leave the selections of the nodes alone exactly if the
selections in question are the automatic group. -/
theorem keepsSelections_iff (settings : Settings) (s : Store) (events : List SiteEvent) :
    Along settings (KeepsSelections settings) s events ↔
      Along settings (SelectsAutomatic settings) s events := by
  refine along_congr (fun s call => ?_) s events
  constructor
  · intro hkeeps node outbound hleaves ⟨d, hd⟩
    rw [← hkeeps node outbound hleaves d hd]
    exact defaultOutbound_of_adds hleaves hd
  · intro hautomatic node outbound hleaves d hd
    rw [hautomatic node outbound hleaves ⟨d, hd⟩]
    exact defaultOutbound_of_adds hleaves hd

/-- The node selects edge-b, and then gets a release without a selection. -/
def selectEdge : DesiredCall :=
  { draws := sampleDraws "a", site := sampleSite, nodes := [sampleNode]
    proxySelection := .obj [("node_id", .str "north-a"), ("group", .str "subscription"),
      ("outbound", .str "edge-b")]
    routingPolicy := .null, nodup := nodup_sampleNode }

theorem selection_dropped :
    ¬ Along subscribedSettings (KeepsSelections subscribedSettings) subscribedStore
      [.release selectEdge, .release plainCall] := by
  rintro ⟨-, hkeeps, -⟩
  have hlatest : ((((selectEdge.program subscribedSettings).run subscribedStore).2.latestRelease
      "site-north" "north-a").bind fun d => selectedOutbound d.bundle) = some "edge-b" := by
    decide
  have hleaves : LeavesSelection subscribedSettings
      ((selectEdge.program subscribedSettings).run subscribedStore).2 plainCall sampleNode
        "edge-b" := by
    refine ⟨?_, by decide, rfl⟩
    exact Option.bind_eq_some_iff.mp hlatest
  have hnodes : (plainCall.items subscribedSettings
      ((selectEdge.program subscribedSettings).run subscribedStore).2).2.map DesiredRelease.nodeId =
        ["north-a"] := by
    decide
  rcases List.map_eq_cons_iff.mp hnodes with ⟨d, rest, hitems, hnode, -⟩
  have hadds : Adds subscribedSettings
      ((selectEdge.program subscribedSettings).run subscribedStore).2 plainCall sampleNode d := by
    refine ⟨_, by rw [DesiredCall.run_eq]; rfl, ?_, hnode⟩
    rw [hitems]
    exact List.mem_cons_self
  have hdefault := hkeeps sampleNode "edge-b" hleaves d hadds
  rw [defaultOutbound_of_adds hleaves hadds] at hdefault
  revert hdefault
  decide

end Grouproxy.Backend
