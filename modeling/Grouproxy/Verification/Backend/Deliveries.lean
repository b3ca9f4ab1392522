import Grouproxy.Verification.Backend.SiteSteps

/-! # What the bundles of a release carry

A release adds a bundle for each of its nodes, with the policy that its agent has in the store.
-/

namespace Grouproxy.Backend

open Text Ipaddress Encoding Crypto Cidr Programs

/-! ## Policy lists -/

/-- The two lists of a bundle. -/
inductive PolicyList where
  | blacklist
  | accessControl
  deriving DecidableEq

namespace PolicyList

def field : PolicyList → String
  | blacklist => "blacklist"
  | accessControl => "access_control"

def json : PolicyList → PolicyEntry → Json
  | blacklist => blacklistJson
  | accessControl => accessControlJson

/-- The policy of an agent. -/
def effective : PolicyList → Store → String → List PolicyEntry
  | blacklist, s, agentId => effectiveBlacklist agentId s.blacklist
  | accessControl, s, agentId => effectiveAccessControl agentId s.accessControlSets s.networkGroups

end PolicyList

/-- Two stores with the same policies. -/
structure SamePolicies (s s' : Store) : Prop where
  blacklist : s'.blacklist = s.blacklist
  accessControlSets : s'.accessControlSets = s.accessControlSets
  networkGroups : s'.networkGroups = s.networkGroups

theorem SamePolicies.refl (s : Store) : SamePolicies s s := ⟨rfl, rfl, rfl⟩

theorem SamePolicies.trans {s s' s'' : Store} (h : SamePolicies s s') (h' : SamePolicies s' s'') :
    SamePolicies s s'' :=
  ⟨h'.blacklist.trans h.blacklist, h'.accessControlSets.trans h.accessControlSets,
    h'.networkGroups.trans h.networkGroups⟩

theorem SamePolicies.effective {s s' : Store} (h : SamePolicies s s') (list : PolicyList)
    (agentId : String) : list.effective s' agentId = list.effective s agentId := by
  cases list with
  | blacklist => rw [PolicyList.effective, h.blacklist, PolicyList.effective]
  | accessControl =>
      rw [PolicyList.effective, h.accessControlSets, h.networkGroups, PolicyList.effective]

/-! ## Releases -/

/-- Every node has a bundle, and every bundle is that of a node, with the policy of its agent. -/
structure Delivers (s : Store) (nodes : List Node) (added : List DesiredRelease) : Prop where
  every : ∀ node ∈ nodes, ∃ d ∈ added, d.nodeId = node.agentId
  only : ∀ d ∈ added, d.nodeId ∈ agentIds nodes
  lists : ∀ d ∈ added, ∀ list : PolicyList,
    fieldOf d.bundle list.field = some (.arr ((list.effective s d.nodeId).map list.json))

theorem Delivers.nil (s : Store) : Delivers s [] [] := by
  refine ⟨?_, ?_, ?_⟩
  · intro node hnode
    cases hnode
  · intro d hd
    cases hd
  · intro d hd
    cases hd

theorem Delivers.append {s : Store} {nodes others : List Node} {added more : List DesiredRelease}
    (h : Delivers s nodes added) (hmore : Delivers s others more) :
    Delivers s (nodes ++ others) (added ++ more) where
  every := by
    intro node hnode
    rcases List.mem_append.mp hnode with hnode | hnode
    · obtain ⟨d, hd, hid⟩ := h.every node hnode
      exact ⟨d, List.mem_append_left _ hd, hid⟩
    · obtain ⟨d, hd, hid⟩ := hmore.every node hnode
      exact ⟨d, List.mem_append_right _ hd, hid⟩
  only := by
    intro d hd
    rw [agentIds, List.map_append, List.mem_append]
    exact (List.mem_append.mp hd).imp (h.only d) (hmore.only d)
  lists := by
    intro d hd
    rcases List.mem_append.mp hd with hd | hd
    · exact h.lists d hd
    · exact hmore.lists d hd

theorem Delivers.congr {s s' : Store} {nodes : List Node} {added : List DesiredRelease}
    (h : Delivers s nodes added) (hsame : SamePolicies s s') : Delivers s' nodes added where
  every := h.every
  only := h.only
  lists := by
    intro d hd list
    rw [hsame.effective, h.lists d hd list]

theorem Delivers.mem_iff {s : Store} {nodes nodes' : List Node} {added : List DesiredRelease}
    (h : Delivers s nodes added) (hsame : ∀ node, node ∈ nodes ↔ node ∈ nodes') :
    Delivers s nodes' added where
  every := fun node hnode => h.every node ((hsame node).mpr hnode)
  only := by
    intro d hd
    obtain ⟨node, hnode, hid⟩ := List.mem_map.mp (h.only d hd)
    exact List.mem_map.mpr ⟨node, (hsame node).mp hnode, hid⟩
  lists := h.lists

theorem lists_bundleOf {settings : Settings} {s : Store} {site : Site} {node : Node}
    {desiredVersion : Nat} {draws : Draws} {proxySelection routingPolicy : Json} {bundle : Dict}
    (h : bundleOf settings s site node desiredVersion draws proxySelection routingPolicy = .ok bundle)
    (list : PolicyList) :
    fieldOf bundle list.field = some (.arr ((list.effective s node.agentId).map list.json)) := by
  cases list with
  | blacklist =>
      obtain ⟨subscription, -, hfield⟩ := base_bundleOf h "blacklist" (by decide)
      exact hfield
  | accessControl =>
      obtain ⟨subscription, -, hfield⟩ := base_bundleOf h "access_control" (by decide)
      exact hfield

/-- The bundles of a release that is made. -/
theorem releaseItems_delivers {settings : Settings} {draws : Draws} {site : Site}
    {proxySelection routingPolicy : Json} {s : Store} {nodes : List Node}
    {items : List DesiredRelease}
    (h : (releaseItems settings (fun _ => false) draws site proxySelection routingPolicy s nodes).1 =
      .ok items) :
    Delivers s nodes
      (releaseItems settings (fun _ => false) draws site proxySelection routingPolicy s nodes).2 where
  every := by
    obtain ⟨hadded, hnodes⟩ := nodeItems_all h
    intro node hnode
    have hid : node.agentId ∈ items.map DesiredRelease.nodeId := by
      rw [hnodes]
      exact List.mem_map_of_mem hnode
    obtain ⟨d, hd, hsame⟩ := List.mem_map.mp hid
    exact ⟨d, hadded ▸ hd, hsame⟩
  only := fun d hd => (mem_releaseItems hd).2.2
  lists := by
    intro d hd list
    obtain ⟨node, -, hitem⟩ := nodeItem_of_mem hd
    obtain ⟨bundle, hbundle, rfl⟩ := nodeItem_ok hitem
    rw [nodeBundle_runWith fun _ _ => rfl] at hbundle
    split at hbundle
    · cases hbundle
    · exact lists_bundleOf hbundle list

end Grouproxy.Backend
