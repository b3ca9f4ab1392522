import Grouproxy.Verification.Backend.Frames

/-! # Bundles as functions of the store

Without interference, `build_signed_bundle` computes a function of the store and leaves it alone.
-/

namespace Grouproxy.Backend

open Encoding Crypto Cidr Programs

variable {settings : Settings} {name : NodeOp → Label} {fails : Label → Bool}

/-! ## Fields -/

/-- The field of a dictionary, if it is there. -/
def fieldOf (d : Dict) (key : String) : Option Json := (d.find? fun f => f.1 == key).map Prod.snd

theorem dictGet_eq (d : Dict) (key : String) : dictGet d key = (fieldOf d key).getD .null := rfl

theorem fieldOf_set_self (d : Dict) (key : String) (value : Json) :
    fieldOf (Dict.set d key value) key = some value := by
  rw [fieldOf, Dict.set, List.find?_cons_of_pos (by simp)]
  rfl

theorem fieldOf_set_ne (d : Dict) {key other : String} (value : Json) (h : key ≠ other) :
    fieldOf (Dict.set d other value) key = fieldOf d key := by
  rw [fieldOf, Dict.set, List.find?_cons_of_neg (by simpa using h.symm), List.find?_filter, fieldOf]
  congr 2
  funext f
  by_cases hf : f.1 = key
  · simp [hf, h]
  · simp [hf]

/-! ## Bundles -/

/-- The subscription part of a bundle. -/
def subscriptionOf (settings : Settings) (s : Store) (siteId : String) :
    Except Failure (Option Dict) :=
  match s.binding? siteId with
  | none => .ok none
  | some selected =>
    match s.version? selected.subscriptionVersionId with
    | none => .error (.valueError "selected_subscription_version_invalid")
    | some version =>
      if ¬ version.parseOk then .error (.valueError "selected_subscription_version_invalid")
      else
        match String.fromUTF8? version.content with
        | none => .error (.valueError "selected_subscription_content_invalid")
        | some content => .ok (some (subscriptionPayload settings version content))

/-- The tags of the subscription of a site. -/
def tagsOf (libs : Libraries) (s : Store) (siteId : String) : List String :=
  match (s.binding? siteId).bind fun selected => s.version? selected.subscriptionVersionId with
  | none => []
  | some version =>
    if version.parseOk then subscriptionOutboundTags libs version.content version.format else []

/-- The bundle before it is signed. -/
def unsignedBundle (settings : Settings) (s : Store) (site : Site) (node : Node)
    (desiredVersion : Nat) (draws : Draws) (proxySelection routingPolicy : Json) :
    Except Failure Dict :=
  match subscriptionOf settings s site.id with
  | .error e => .error e
  | .ok subscription =>
    addRoutingPolicy settings.libs subscription.isSome routingPolicy
      (addProxySelection settings.libs (tagsOf settings.libs s site.id) proxySelection
        (baseBundle site node desiredVersion draws (effectiveBlacklist node.agentId s.blacklist)
          (effectiveAccessControl node.agentId s.accessControlSets s.networkGroups) subscription))

def bundleOf (settings : Settings) (s : Store) (site : Site) (node : Node) (desiredVersion : Nat)
    (draws : Draws) (proxySelection routingPolicy : Json) : Except Failure Dict :=
  (unsignedBundle settings s site node desiredVersion draws proxySelection routingPolicy).map
    fun bundle => signBundle settings.hashes bundle settings.bundleHmacSecret

/-- A bundle that was built: its subscription, and the fields added to the base. -/
theorem bundleOf_ok {s : Store} {site : Site} {node : Node} {desiredVersion : Nat} {draws : Draws}
    {proxySelection routingPolicy : Json} {bundle : Dict}
    (h : bundleOf settings s site node desiredVersion draws proxySelection routingPolicy =
      .ok bundle) :
    ∃ subscription unsigned, subscriptionOf settings s site.id = .ok subscription ∧
      addRoutingPolicy settings.libs subscription.isSome routingPolicy
        (addProxySelection settings.libs (tagsOf settings.libs s site.id) proxySelection
          (baseBundle site node desiredVersion draws (effectiveBlacklist node.agentId s.blacklist)
            (effectiveAccessControl node.agentId s.accessControlSets s.networkGroups)
            subscription)) = .ok unsigned ∧
      bundle = signBundle settings.hashes unsigned settings.bundleHmacSecret := by
  rw [bundleOf, unsignedBundle] at h
  cases hsubscription : subscriptionOf settings s site.id with
  | error e =>
      rw [hsubscription] at h
      cases h
  | ok subscription =>
      rw [hsubscription] at h
      dsimp only at h
      cases hunsigned : addRoutingPolicy settings.libs subscription.isSome routingPolicy
          (addProxySelection settings.libs (tagsOf settings.libs s site.id) proxySelection
            (baseBundle site node desiredVersion draws
              (effectiveBlacklist node.agentId s.blacklist)
              (effectiveAccessControl node.agentId s.accessControlSets s.networkGroups)
              subscription)) with
      | error e =>
          rw [hunsigned] at h
          cases h
      | ok unsigned =>
          rw [hunsigned] at h
          cases h
          exact ⟨subscription, unsigned, rfl, hunsigned, rfl⟩

theorem fieldOf_addProxySelection_ne (libs : Libraries) (tags : List String) (proxySelection : Json)
    (bundle : Dict) {key : String} (hselection : key ≠ "proxy_selection")
    (hminimum : key ≠ "min_monitor_version") :
    fieldOf (addProxySelection libs tags proxySelection bundle) key = fieldOf bundle key := by
  unfold addProxySelection
  split
  · split
    · rfl
    · dsimp only
      split
      · split
        · rw [fieldOf_set_ne _ _ hminimum, fieldOf_set_ne _ _ hselection]
        · rw [fieldOf_set_ne _ _ hselection]
      · rfl
  · rfl

theorem fieldOf_addRoutingPolicy_ne {libs : Libraries} {hasSubscription : Bool} {policy : Json}
    {bundle bundle' : Dict} (h : addRoutingPolicy libs hasSubscription policy bundle = .ok bundle')
    {key : String} (hpolicy : key ≠ "routing_policy") (hminimum : key ≠ "min_monitor_version") :
    fieldOf bundle' key = fieldOf bundle key := by
  rw [addRoutingPolicy] at h
  split at h
  · cases h
    rfl
  · split at h
    · cases h
    · split at h
      · cases h
      · cases h
        rw [fieldOf_set_ne _ _ hminimum, fieldOf_set_ne _ _ hpolicy]

theorem fieldOf_signBundle (hashes : Bundle.Hashes) (bundle : Dict) (secret : String) {key : String}
    (hhash : key ≠ "bundle_hash") (hmac : key ≠ "mac") :
    fieldOf (signBundle hashes bundle secret) key = fieldOf bundle key := by
  simp only [signBundle]
  rw [fieldOf_set_ne _ _ hmac, fieldOf_set_ne _ _ hhash]

/-- A field of the base that nothing is added to. -/
theorem base_bundleOf {s : Store} {site : Site} {node : Node} {desiredVersion : Nat} {draws : Draws}
    {proxySelection routingPolicy : Json} {bundle : Dict}
    (h : bundleOf settings s site node desiredVersion draws proxySelection routingPolicy = .ok bundle)
    (key : String) (hkey : key ∉ ["proxy_selection", "min_monitor_version", "routing_policy",
      "bundle_hash", "mac"]) :
    ∃ subscription, subscriptionOf settings s site.id = .ok subscription ∧
      fieldOf bundle key = fieldOf (baseBundle site node desiredVersion draws
        (effectiveBlacklist node.agentId s.blacklist)
        (effectiveAccessControl node.agentId s.accessControlSets s.networkGroups)
        subscription) key := by
  simp only [List.mem_cons, List.not_mem_nil, or_false, not_or] at hkey
  obtain ⟨hselection, hminimum, hpolicy, hhash, hmac⟩ := hkey
  obtain ⟨subscription, unsigned, hsubscription, hunsigned, rfl⟩ := bundleOf_ok h
  refine ⟨subscription, hsubscription, ?_⟩
  rw [fieldOf_signBundle _ _ _ hhash hmac, fieldOf_addRoutingPolicy_ne hunsigned hpolicy hminimum,
    fieldOf_addProxySelection_ne _ _ _ _ hselection hminimum]

/-! ## Runs -/

theorem find_bind_runWith {α β : Type} {label : Label} {query : Store → α} {f : α → Handler β}
    (h : fails label = false) (s : Store) :
    (find label query >>= f).runWith fails s = (f (query s)).runWith fails s := by
  rw [Prog.runWith_bind, find, Prog.runWith_atomic, if_neg (by simp [h])]

theorem find_bind_run {α β : Type} {label : Label} (query : Store → α) (f : α → Handler β)
    (s : Store) : (find label query >>= f).run s = (f (query s)).run s :=
  find_bind_runWith rfl s

theorem selectedSubscriptionBundle_runWith {siteId : String}
    (h : ∀ op, op ≠ .insert → fails (name op) = false) (s : Store) :
    (selectedSubscriptionBundle settings name siteId).runWith fails s =
      (subscriptionOf settings s siteId, s) := by
  rw [selectedSubscriptionBundle, find_bind_runWith (h _ (by decide)), subscriptionOf]
  cases s.binding? siteId with
  | none => rfl
  | some selected =>
      dsimp only
      rw [find_bind_runWith (h _ (by decide))]
      cases s.version? selected.subscriptionVersionId with
      | none => rfl
      | some version =>
          dsimp only
          rw [reject]
          split
          · rfl
          · cases String.fromUTF8? version.content with
            | none => rfl
            | some content => rfl

theorem selectedSubscriptionTags_runWith {siteId : String}
    (h : ∀ op, op ≠ .insert → fails (name op) = false) (s : Store) :
    (selectedSubscriptionTags settings.libs name siteId).runWith fails s =
      (.ok (tagsOf settings.libs s siteId), s) := by
  rw [selectedSubscriptionTags, find_bind_runWith (h _ (by decide)), tagsOf]
  cases s.binding? siteId with
  | none => rfl
  | some selected =>
      dsimp only [Option.bind_some]
      rw [find_bind_runWith (h _ (by decide))]
      cases s.version? selected.subscriptionVersionId with
      | none => rfl
      | some version => rfl

/-- Without a subscription there are no tags. -/
theorem tagsOf_of_none {s : Store} {siteId : String}
    (h : subscriptionOf settings s siteId = .ok none) : tagsOf settings.libs s siteId = [] := by
  rw [subscriptionOf] at h
  rw [tagsOf]
  cases hbinding : s.binding? siteId with
  | none => rfl
  | some selected =>
      rw [hbinding] at h
      dsimp only at h
      split at h
      · cases h
      · split at h
        · cases h
        · split at h
          · cases h
          · cases h

theorem buildSignedBundle_runWith {site : Site} {node : Node} {desiredVersion : Nat}
    {draws : Draws} {proxySelection routingPolicy : Json}
    (h : ∀ op, op ≠ .insert → fails (name op) = false) (s : Store) :
    (buildSignedBundle settings name site node desiredVersion draws proxySelection
      routingPolicy).runWith fails s =
        (bundleOf settings s site node desiredVersion draws proxySelection routingPolicy, s) := by
  rw [buildSignedBundle, find_bind_runWith (h _ (by decide)), find_bind_runWith (h _ (by decide)),
    find_bind_runWith (h _ (by decide)), Prog.runWith_bind, selectedSubscriptionBundle_runWith h,
    bundleOf, unsignedBundle]
  cases hsubscription : subscriptionOf settings s site.id with
  | error e => rfl
  | ok subscription =>
      dsimp only
      have htags : (tagsWith subscription
          (selectedSubscriptionTags settings.libs name site.id)).runWith fails s =
          (.ok (tagsOf settings.libs s site.id), s) := by
        cases subscription with
        | none => rw [tagsOf_of_none hsubscription]; rfl
        | some payload => exact selectedSubscriptionTags_runWith h s
      rw [Prog.runWith_bind, htags]
      dsimp only
      rw [Prog.runWith_bind, Prog.runWith_done]
      cases addRoutingPolicy settings.libs subscription.isSome routingPolicy
        (addProxySelection settings.libs (tagsOf settings.libs s site.id) proxySelection
          (baseBundle site node desiredVersion draws (effectiveBlacklist node.agentId s.blacklist)
            (effectiveAccessControl node.agentId s.accessControlSets s.networkGroups)
            subscription)) with
      | error e => rfl
      | ok bundle => rfl

/-! ## The loop over the nodes -/

/-- Two stores between which the bundles of a site do not change. -/
structure SameSources (s s' : Store) : Prop where
  bindings : s'.bindings = s.bindings
  versions : s'.versions = s.versions
  blacklist : s'.blacklist = s.blacklist
  accessControlSets : s'.accessControlSets = s.accessControlSets
  networkGroups : s'.networkGroups = s.networkGroups

/-- Two stores between which the bundles of one site do not change. -/
structure SameSourcesAt (siteId : String) (s s' : Store) : Prop where
  binding : s'.binding? siteId = s.binding? siteId
  versions : s'.versions = s.versions
  blacklist : s'.blacklist = s.blacklist
  accessControlSets : s'.accessControlSets = s.accessControlSets
  networkGroups : s'.networkGroups = s.networkGroups

theorem SameSources.at {s s' : Store} (h : SameSources s s') (siteId : String) :
    SameSourcesAt siteId s s' := by
  refine ⟨?_, h.versions, h.blacklist, h.accessControlSets, h.networkGroups⟩
  rw [Store.binding?, Store.binding?, h.bindings]

theorem find_bind_runWith_or {α β : Type} (fails : Label → Bool) (label : Label)
    (query : Store → α) (f : α → Handler β) (s : Store) :
    (find label query >>= f).runWith fails s =
      if fails label then (.error .operation, s) else (f (query s)).runWith fails s := by
  cases h : fails label with
  | false => rw [find_bind_runWith h, if_neg (by decide)]
  | true =>
      rw [Prog.runWith_bind, find, Prog.runWith_atomic, if_pos h]
      rfl

/-- Building a bundle leaves the store alone, whichever operations fail. -/
theorem buildSignedBundle_store {site : Site} {node : Node} {desiredVersion : Nat} {draws : Draws}
    {proxySelection routingPolicy : Json} (fails : Label → Bool) (s : Store) :
    ((buildSignedBundle settings name site node desiredVersion draws proxySelection
      routingPolicy).runWith fails s).2 = s := by
  have huses : (buildSignedBundle settings name site node desiredVersion draws proxySelection
      routingPolicy).Uses fun _ s s' => s = s' := buildSignedBundle_uses fun _ _ _ => rfl
  exact (huses.runWith (R := fun s s' => s = s') (fun _ => rfl) (fun _ _ _ h h' => h.trans h')
    (fun _ _ _ h => h) fails s).symm

theorem find_blind {α : Type} {label : Label} {query : Store → α} {R : Store → Store → Prop}
    (h : ∀ s s', R s s' → query s = query s') : (find label query).Blind R :=
  .atomic fun s s' hs => ⟨by rw [h s s' hs], hs⟩

theorem SameSourcesAt.version? {siteId : String} {s s' : Store} (h : SameSourcesAt siteId s s')
    (versionId : String) : s.version? versionId = s'.version? versionId := by
  rw [Store.version?, Store.version?, h.versions]

theorem selectedSubscriptionBundle_blind {siteId : String} :
    (selectedSubscriptionBundle settings name siteId).Blind (SameSourcesAt siteId) := by
  refine .bind (find_blind fun s s' h => h.binding.symm) fun binding => ?_
  cases binding with
  | none => trivial
  | some binding =>
      refine .bind (find_blind fun s s' h => h.version? _) fun version => ?_
      cases version with
      | none => trivial
      | some version =>
          dsimp only
          rw [reject]
          split
          · trivial
          · cases String.fromUTF8? version.content with
            | none => trivial
            | some content => trivial

theorem selectedSubscriptionTags_blind {libs : Libraries} {siteId : String} :
    (selectedSubscriptionTags libs name siteId).Blind (SameSourcesAt siteId) := by
  refine .bind (find_blind fun s s' h => h.binding.symm) fun binding => ?_
  cases binding with
  | none => trivial
  | some binding =>
      refine .bind (find_blind fun s s' h => h.version? _) fun version => ?_
      cases version with
      | none => trivial
      | some version => trivial

/-- A bundle depends on its sources only. -/
theorem buildSignedBundle_blind {site : Site} {node : Node} {desiredVersion : Nat} {draws : Draws}
    {proxySelection routingPolicy : Json} :
    (buildSignedBundle settings name site node desiredVersion draws proxySelection
      routingPolicy).Blind (SameSourcesAt site.id) := by
  refine .bind (find_blind fun s s' h => by rw [h.blacklist]) fun blacklist => ?_
  refine .bind (find_blind fun s s' h => h.accessControlSets.symm) fun sets => ?_
  refine .bind (find_blind fun s s' h => by rw [h.networkGroups]) fun accessControl => ?_
  refine .bind selectedSubscriptionBundle_blind fun subscription => ?_
  refine .bind ?_ fun outboundTags => ?_
  · rw [tagsWith]
    split
    · exact selectedSubscriptionTags_blind
    · trivial
  · refine .bind ?_ fun bundle => ?_
    · trivial
    · trivial

section Nodes

variable (settings : Settings) (fails : Label → Bool) (draws : Draws) (site : Site)
  (desiredVersion : Nat) (previous : Option DesiredRelease) (proxySelection routingPolicy : Json)

/-- The part of the loop that builds the bundle of a node. -/
def nodeBundle (node : Node) : Handler Dict := do
  let name := fun op => Label.desired site.id (.node node.agentId op)
  let nodePrevious ← find (name .previous) fun s => s.latestRelease site.id node.agentId
  let selection ← Prog.done (selectionFor proxySelection node)
  buildSignedBundle settings name site node desiredVersion draws selection
    (policyFor routingPolicy (nodePrevious <|> previous))

/-- The bundle of a node, from the store before the loop. -/
def nodeItem (s : Store) (node : Node) : Except Failure DesiredRelease :=
  match ((nodeBundle settings draws site desiredVersion previous proxySelection routingPolicy
      node).runWith fails s).1 with
  | .error e => .error e
  | .ok bundle =>
    if fails (.desired site.id (.node node.agentId .insert)) then .error .operation
    else .ok (newDesiredRelease site node desiredVersion draws
      (previous.map DesiredRelease.releaseId) bundle)

/-- The result of the loop and the documents it adds, up to the first that fails. -/
def nodeItems (s : Store) : List Node → Except Failure (List DesiredRelease) × List DesiredRelease
  | [] => (.ok [], [])
  | node :: rest =>
    match nodeItem settings fails draws site desiredVersion previous proxySelection routingPolicy s
        node with
    | .error e => (.error e, [])
    | .ok item =>
      let items := nodeItems s rest
      (items.1.map (item :: ·), item :: items.2)

/-- What the loop adds to a store. -/
def Store.addDesired (s : Store) (items : List DesiredRelease) : Store :=
  { s with desired := s.desired ++ items }

end Nodes

section Nodes

variable {draws : Draws} {site : Site} {desiredVersion : Nat} {previous : Option DesiredRelease}
  {proxySelection routingPolicy : Json}

theorem nodeBundle_congr {node : Node} {s s' : Store} (h : SameSourcesAt site.id s s')
    (hlatest : s'.latestRelease site.id node.agentId = s.latestRelease site.id node.agentId) :
    ((nodeBundle settings draws site desiredVersion previous proxySelection routingPolicy
        node).runWith fails s').1 =
      ((nodeBundle settings draws site desiredVersion previous proxySelection routingPolicy
        node).runWith fails s).1 := by
  rw [nodeBundle, find_bind_runWith_or, find_bind_runWith_or, hlatest]
  split
  · rfl
  · cases selectionFor proxySelection node with
    | error e => rfl
    | ok selection =>
        rw [Prog.done_ok_bind]
        exact (buildSignedBundle_blind.runWith fails h).1.symm

theorem nodeBundle_store (fails : Label → Bool) (node : Node) (s : Store) :
    ((nodeBundle settings draws site desiredVersion previous proxySelection routingPolicy
      node).runWith fails s).2 = s := by
  rw [nodeBundle, find_bind_runWith_or]
  split
  · rfl
  · cases selectionFor proxySelection node with
    | error e => rfl
    | ok selection =>
        rw [Prog.done_ok_bind]
        exact buildSignedBundle_store fails s

theorem nodeItems_congr {nodes : List Node} {s s' : Store} (h : SameSourcesAt site.id s s')
    (hlatest : ∀ node ∈ nodes,
      s'.latestRelease site.id node.agentId = s.latestRelease site.id node.agentId) :
    nodeItems settings fails draws site desiredVersion previous proxySelection routingPolicy s'
        nodes =
      nodeItems settings fails draws site desiredVersion previous proxySelection routingPolicy s
        nodes := by
  induction nodes with
  | nil => rfl
  | cons node rest ih =>
      rw [nodeItems, nodeItems, nodeItem, nodeItem,
        nodeBundle_congr h (hlatest node List.mem_cons_self),
        ih fun other hother => hlatest other (List.mem_cons_of_mem _ hother)]

theorem mem_of_latestRelease {s : Store} {siteId nodeId : String} {d : DesiredRelease}
    (h : s.latestRelease siteId nodeId = some d) : d ∈ s.desired :=
  (List.mem_filter.mp (List.argmax_mem h)).1

/-- A bundle of another node is no release of this one. -/
theorem latestRelease_addDesired {s : Store} {siteId agentId : String} {items : List DesiredRelease}
    (hne : agentId ≠ "") (h : ∀ d ∈ items, d.nodeId ≠ agentId) :
    (s.addDesired items).latestRelease siteId agentId = s.latestRelease siteId agentId := by
  have hnone : items.filter (fun d => d.siteId == siteId && (agentId == "" || d.nodeId == agentId)) =
      [] := by
    rw [List.filter_eq_nil_iff]
    intro d hd hkept
    simp only [Bool.and_eq_true, Bool.or_eq_true, beq_iff_eq] at hkept
    rcases hkept.2 with hempty | hnode
    · exact hne hempty
    · exact h d hd hnode
  rw [Store.latestRelease, Store.addDesired, List.filter_append, hnone, List.append_nil]
  rfl

/-- Without failing operations the bundle of a node is a function of the store. -/
theorem nodeBundle_runWith {node : Node}
    (h : ∀ op, op ≠ .insert → fails (.desired site.id (.node node.agentId op)) = false)
    (s : Store) :
    ((nodeBundle settings draws site desiredVersion previous proxySelection routingPolicy
      node).runWith fails s).1 =
    match selectionFor proxySelection node with
    | .error e => .error e
    | .ok selection => bundleOf settings s site node desiredVersion draws selection
        (policyFor routingPolicy (s.latestRelease site.id node.agentId <|> previous)) := by
  rw [nodeBundle, find_bind_runWith (h _ (by decide))]
  cases selectionFor proxySelection node with
  | error e => rfl
  | ok selection =>
      rw [Prog.done_ok_bind, buildSignedBundle_runWith h]

/-- What is added for a node. -/
theorem nodeItem_ok {node : Node} {s : Store} {item : DesiredRelease}
    (h : nodeItem settings fails draws site desiredVersion previous proxySelection routingPolicy s
      node = .ok item) :
    ∃ bundle, ((nodeBundle settings draws site desiredVersion previous proxySelection routingPolicy
        node).runWith fails s).1 = .ok bundle ∧
      item = newDesiredRelease site node desiredVersion draws
        (previous.map DesiredRelease.releaseId) bundle := by
  rw [nodeItem] at h
  split at h
  · cases h
  · rename_i bundle hbundle
    split at h
    · cases h
    · cases h
      exact ⟨bundle, hbundle, rfl⟩

/-- The documents added are those of the first nodes. -/
theorem nodeItems_nodeId (s : Store) (nodes : List Node) :
    (nodeItems settings fails draws site desiredVersion previous proxySelection routingPolicy s
      nodes).2.map DesiredRelease.nodeId <+: agentIds nodes := by
  induction nodes with
  | nil => exact List.prefix_rfl
  | cons node rest ih =>
      rw [nodeItems]
      cases hitem : nodeItem settings fails draws site desiredVersion previous proxySelection
          routingPolicy s node with
      | error e => exact List.nil_prefix
      | ok item =>
          rcases nodeItem_ok hitem with ⟨bundle, -, rfl⟩
          exact List.prefix_cons_inj _ |>.mpr ih

/-- A loop that ends has added a document for every node. -/
theorem nodeItems_all {s : Store} {nodes : List Node} {items : List DesiredRelease}
    (h : (nodeItems settings fails draws site desiredVersion previous proxySelection routingPolicy s
      nodes).1 = .ok items) :
    (nodeItems settings fails draws site desiredVersion previous proxySelection routingPolicy s
      nodes).2 = items ∧ items.map DesiredRelease.nodeId = agentIds nodes := by
  induction nodes generalizing items with
  | nil =>
      cases h
      exact ⟨rfl, rfl⟩
  | cons node rest ih =>
      rw [nodeItems] at h ⊢
      cases hitem : nodeItem settings fails draws site desiredVersion previous proxySelection
          routingPolicy s node with
      | error e =>
          rw [hitem] at h
          cases h
      | ok item =>
          rw [hitem] at h
          dsimp only at h ⊢
          cases hrest : (nodeItems settings fails draws site desiredVersion previous proxySelection
              routingPolicy s rest).1 with
          | error e =>
              rw [hrest] at h
              cases h
          | ok others =>
              rw [hrest] at h
              cases h
              rcases nodeItem_ok hitem with ⟨bundle, -, rfl⟩
              rcases ih hrest with ⟨hadded, hnodes⟩
              rw [hadded]
              refine ⟨rfl, ?_⟩
              rw [List.map_cons, hnodes]
              rfl

/-- Each is the document of a node. -/
theorem nodeItem_of_mem {s : Store} {nodes : List Node} {d : DesiredRelease}
    (h : d ∈ (nodeItems settings fails draws site desiredVersion previous proxySelection
      routingPolicy s nodes).2) :
    ∃ node ∈ nodes, nodeItem settings fails draws site desiredVersion previous proxySelection
      routingPolicy s node = .ok d := by
  induction nodes with
  | nil => cases h
  | cons node rest ih =>
      rw [nodeItems] at h
      cases hitem : nodeItem settings fails draws site desiredVersion previous proxySelection
          routingPolicy s node with
      | error e =>
          rw [hitem] at h
          cases h
      | ok item =>
          rw [hitem] at h
          rcases List.mem_cons.mp h with rfl | hrest
          · exact ⟨node, List.mem_cons_self, hitem⟩
          · rcases ih hrest with ⟨other, hother, hd⟩
            exact ⟨other, List.mem_cons_of_mem _ hother, hd⟩

theorem createForNodes_cons {node : Node} {rest : List Node} (s : Store) :
    (createForNodes settings draws site desiredVersion previous proxySelection routingPolicy
      (node :: rest)).runWith fails s =
    match nodeItem settings fails draws site desiredVersion previous proxySelection routingPolicy s
        node with
    | .error e => (.error e, s)
    | .ok item =>
      (createForNodes settings draws site desiredVersion previous proxySelection routingPolicy rest >>=
        fun items => pure (item :: items)).runWith fails (s.addDesired [item]) := by
  have hprogram : createForNodes settings draws site desiredVersion previous proxySelection
      routingPolicy (node :: rest) =
      nodeBundle settings draws site desiredVersion previous proxySelection routingPolicy node >>=
        fun bundle => do
          let item := newDesiredRelease site node desiredVersion draws
            (previous.map DesiredRelease.releaseId) bundle
          update (.desired site.id (.node node.agentId .insert)) fun s =>
            { s with desired := s.desired ++ [item] }
          let items ← createForNodes settings draws site desiredVersion previous proxySelection
            routingPolicy rest
          return item :: items := by
    rw [nodeBundle, Prog.bind_assoc]
    simp only [Prog.bind_assoc]
    rfl
  rw [hprogram, Prog.runWith_bind, nodeItem]
  have hstore : ((nodeBundle settings draws site desiredVersion previous proxySelection
    routingPolicy node).runWith fails s).2 = s := nodeBundle_store fails node s
  generalize (nodeBundle settings draws site desiredVersion previous proxySelection routingPolicy
    node).runWith fails s = out at hstore
  rcases out with ⟨result, s'⟩
  subst hstore
  cases result with
  | error e => rfl
  | ok bundle =>
      dsimp only
      rw [Prog.runWith_bind, update, Prog.runWith_atomic]
      cases fails (.desired site.id (.node node.agentId .insert)) with
      | true => rfl
      | false => rfl

/-- The loop adds its documents in order, and stops at the first that fails. -/
theorem createForNodes_runWith {nodes : List Node} (hnodup : (agentIds nodes).Nodup) (s : Store) :
    (createForNodes settings draws site desiredVersion previous proxySelection routingPolicy
      nodes).runWith fails s =
    ((nodeItems settings fails draws site desiredVersion previous proxySelection routingPolicy s
        nodes).1,
      s.addDesired (nodeItems settings fails draws site desiredVersion previous proxySelection
        routingPolicy s nodes).2) := by
  induction nodes generalizing s with
  | nil =>
      rw [nodeItems, Store.addDesired, List.append_nil]
      rfl
  | cons node rest ih =>
      have hcons := List.nodup_cons.mp hnodup
      rw [createForNodes_cons, nodeItems]
      cases hitem : nodeItem settings fails draws site desiredVersion previous proxySelection
          routingPolicy s node with
      | error e =>
          rw [Store.addDesired, List.append_nil]
      | ok item =>
          have hnode : item.nodeId = node.agentId := by
            rcases nodeItem_ok hitem with ⟨bundle, -, rfl⟩
            rfl
          have hlatest : ∀ other ∈ rest, (s.addDesired [item]).latestRelease site.id other.agentId =
              s.latestRelease site.id other.agentId := by
            intro other hother
            refine latestRelease_addDesired other.agentId_ne fun d hd heq => ?_
            rw [List.mem_singleton.mp hd, hnode] at heq
            exact hcons.1 (heq ▸ List.mem_map_of_mem hother)
          have hsources : SameSources s (s.addDesired [item]) := ⟨rfl, rfl, rfl, rfl, rfl⟩
          dsimp only
          rw [Prog.runWith_bind, ih hcons.2, nodeItems_congr (hsources.at _) hlatest]
          have happend : ∀ items, (s.addDesired [item]).addDesired items =
              s.addDesired (item :: items) := by
            intro items
            simp only [Store.addDesired, List.append_assoc, List.singleton_append]
          rw [happend]
          cases (nodeItems settings fails draws site desiredVersion previous proxySelection
              routingPolicy s rest).1 with
          | error e => rfl
          | ok items => rfl

end Nodes

/-! ## Releases -/

/-- The store after `site.set`. -/
def Store.reviseSite (s : Store) (siteId : String) (revision : Nat) : Store :=
  { s with
    sites := s.sites.map fun other =>
      if other.id = siteId then { other with configRevision := revision } else other }

/-- The document that `site.set` reads back. -/
def revisedSite (s : Store) (site : Site) (revision : Nat) : Site :=
  { ((s.reviseSite site.id revision).sites.find? fun other => other.id == site.id).getD
      { site with configRevision := revision } with
    id := site.id }

section Releases

variable (settings : Settings) (fails : Label → Bool) (draws : Draws) (site : Site)
  (proxySelection routingPolicy : Json)

/-- The version that a release gives its bundles. -/
def releaseVersion (s : Store) (site : Site) : Nat := nextVersion site (s.latestRelease site.id "")

/-- What a release computes for its nodes and adds to the store. -/
def releaseItems (s : Store) (nodes : List Node) :
    Except Failure (List DesiredRelease) × List DesiredRelease :=
  nodeItems settings fails draws (revisedSite s site (releaseVersion s site)) (releaseVersion s site)
    (s.latestRelease site.id "") proxySelection routingPolicy s nodes

end Releases

section Releases

variable {draws : Draws} {site : Site} {proxySelection routingPolicy : Json}

theorem createDesiredRelease_runWith {nodes : List Node} (hnodup : (agentIds nodes).Nodup)
    (hprevious : fails (.desired site.id .previous) = false)
    (hset : fails (.desired site.id .setRevision) = false) (s : Store) :
    (createDesiredRelease settings draws site nodes proxySelection routingPolicy).runWith fails s =
      ((releaseItems settings fails draws site proxySelection routingPolicy s nodes).1.map
          fun items => (draws.releaseId, items),
        (s.reviseSite site.id (releaseVersion s site)).addDesired
          (releaseItems settings fails draws site proxySelection routingPolicy s nodes).2) := by
  have hsources : SameSources s (s.reviseSite site.id (releaseVersion s site)) :=
    ⟨rfl, rfl, rfl, rfl, rfl⟩
  rw [createDesiredRelease, find_bind_runWith hprevious, Prog.runWith_bind, Site.setRevision,
    Prog.runWith_atomic, if_neg (by simp [hset])]
  change (createForNodes settings draws (revisedSite s site (releaseVersion s site))
    (releaseVersion s site) (s.latestRelease site.id "") proxySelection routingPolicy nodes >>=
      fun releases => pure (draws.releaseId, releases)).runWith fails
        (s.reviseSite site.id (releaseVersion s site)) = _
  rw [Prog.runWith_bind, createForNodes_runWith hnodup, nodeItems_congr (hsources.at _) fun _ _ => rfl,
    ← releaseItems]
  cases (releaseItems settings fails draws site proxySelection routingPolicy s nodes).1 with
  | error e => rfl
  | ok items => rfl

/-- The bundles of a release are for its nodes. -/
theorem mem_releaseItems {nodes : List Node} {s : Store} {d : DesiredRelease}
    (h : d ∈ (releaseItems settings fails draws site proxySelection routingPolicy s nodes).2) :
    d.siteId = site.id ∧ d.releaseId = draws.releaseId ∧ d.nodeId ∈ agentIds nodes := by
  obtain ⟨node, hnode, hitem⟩ := nodeItem_of_mem h
  obtain ⟨bundle, -, rfl⟩ := nodeItem_ok hitem
  exact ⟨rfl, rfl, List.mem_map_of_mem hnode⟩

/-- A release whose first operations fail changes nothing. -/
theorem createDesiredRelease_stopped {nodes : List Node}
    (h : fails (.desired site.id .previous) = true ∨ fails (.desired site.id .setRevision) = true)
    (s : Store) :
    (createDesiredRelease settings draws site nodes proxySelection routingPolicy).runWith fails s =
      (.error .operation, s) := by
  rw [createDesiredRelease, find_bind_runWith_or]
  split
  · rfl
  · rename_i hprevious
    have hset := h.resolve_left hprevious
    rw [Prog.runWith_bind, Site.setRevision, Prog.runWith_atomic, if_pos hset]

end Releases

/-! ## The sample installation -/

theorem eq_ok_of_toOption {ε α : Type} {x : Except ε α} {a : α} (h : x.toOption = some a) :
    x = .ok a := by
  cases x with
  | error e => cases h
  | ok b =>
      cases h
      rfl

/-- The bundle of the sample node with a policy. -/
def policyBundle (policy : Json) : Except Failure Dict :=
  bundleOf sampleSettings sampleStore sampleSite sampleNode 1 (sampleDraws "a") .null policy

theorem run_policyBundle {policy : Json} {bundle : Dict} (h : policyBundle policy = .ok bundle) :
    (buildSignedBundle sampleSettings (fun op => .desired "site-north" (.node "north-a" op))
      sampleSite sampleNode 1 (sampleDraws "a") .null policy).run sampleStore =
        (.ok bundle, sampleStore) := by
  rw [Prog.run, buildSignedBundle_runWith fun _ _ => rfl]
  rw [policyBundle] at h
  rw [h]

theorem exists_policyBundle (policy : Json) (h : (policyBundle policy).isOk = true) :
    ∃ bundle, policyBundle policy = .ok bundle := by
  cases hbundle : policyBundle policy with
  | ok bundle => exact ⟨bundle, rfl⟩
  | error e =>
      rw [hbundle] at h
      cases h

end Grouproxy.Backend
