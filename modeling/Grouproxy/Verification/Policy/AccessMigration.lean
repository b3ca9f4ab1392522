import Mathlib.Data.List.Induction
import Mathlib.Logic.Relation
import Grouproxy.Model.AccessMigration

/-! # Effect of the access-control migration

The sets found in place of new ones are looked for without their enabled flag, so an enabled rule
may end in a disabled set. Otherwise, and as long as no policy has more nodes than a set may have,
the bindings survive every interruption: a set is inserted before any of its rules is deleted.
-/

namespace Grouproxy.Cidr

open Text Ipaddress

variable {newId : Nat → String} {legacy : List AccessControlRule} {sets sets' : List AccessControlSet}
variable {policy : SharedPolicy} {policies : List SharedPolicy}

/-! ## One policy -/

/-- The policy has a node and a reason. -/
def IsLive (legacy : List AccessControlRule) (policy : SharedPolicy) : Prop :=
  policyNodeIds legacy policy ≠ [] ∧ strip policy.reason ≠ ""

/-- Some set stands for the policy. -/
def HasSet (legacy : List AccessControlRule) (sets : List AccessControlSet)
    (policy : SharedPolicy) : Prop :=
  ∃ set ∈ sets, isAlready policy (policyNodeIds legacy policy) set = true

theorem isAlready_iff {nodeIds : List String} {set : AccessControlSet} :
    isAlready policy nodeIds set = true ↔
      set.networkGroupIds = [policy.networkGroupId] ∧ set.mode = policy.mode ∧
        set.direction = policy.direction ∧ set.reason = policy.reason ∧
        ∀ nodeId, nodeId ∈ set.nodeIds ↔ nodeId ∈ nodeIds := by
  simp only [isAlready, Bool.and_eq_true, decide_eq_true_eq, List.all_eq_true,
    List.contains_iff_mem]
  constructor
  · rintro ⟨⟨⟨⟨⟨⟨-, hmode⟩, hdirection⟩, hreason⟩, -⟩, hleft, hright⟩, hgroups⟩
    exact ⟨hgroups, hmode, hdirection, hreason, fun nodeId => ⟨hleft nodeId, hright nodeId⟩⟩
  · rintro ⟨hgroups, hmode, hdirection, hreason, hnodes⟩
    refine ⟨⟨⟨⟨⟨⟨?_, hmode⟩, hdirection⟩, hreason⟩, fun n hn => (hnodes n).mpr hn⟩,
      fun n hn => (hnodes n).mp hn, fun n hn => (hnodes n).mpr hn⟩, hgroups⟩
    rw [hgroups]
    exact List.mem_singleton_self _

theorem isAlready_policySet (id : String) (policy : SharedPolicy) (nodeIds : List String) :
    isAlready policy nodeIds (policySet id policy nodeIds) = true := by
  rw [isAlready_iff]
  exact ⟨rfl, rfl, rfl, rfl, fun _ => Iff.rfl⟩

/-- A policy without a set of its own is given one. -/
structure Inserts (newId : Nat → String) (legacy : List AccessControlRule)
    (sets : List AccessControlSet) (policy : SharedPolicy) (set : AccessControlSet) : Prop where
  live : IsLive legacy policy
  fresh : ¬HasSet legacy sets policy
  valid : set.isValid = true
  eq : set = policySet (newId sets.length) policy (policyNodeIds legacy policy)

theorem foldPolicy_cases (h : foldPolicy newId legacy sets policy = some sets') :
    (sets' = sets ∧ (IsLive legacy policy → HasSet legacy sets policy)) ∨
      ∃ set, Inserts newId legacy sets policy set ∧ sets' = sets ++ [set] := by
  rw [foldPolicy] at h
  split at h
  · rename_i hdead
    cases h
    refine .inl ⟨rfl, ?_⟩
    rintro ⟨hnodes, hreason⟩
    rcases hdead with hdead | hdead
    · exact absurd hdead hnodes
    · exact absurd hdead hreason
  rename_i hlive
  rw [not_or] at hlive
  split at h
  · rename_i hany
    cases h
    exact .inl ⟨rfl, fun _ => List.any_eq_true.mp hany⟩
  rename_i hnone
  dsimp only at h
  split at h
  · rename_i hvalid
    cases h
    exact .inr ⟨_, ⟨hlive, fun hset => hnone (List.any_eq_true.mpr hset), hvalid, rfl⟩, rfl⟩
  · cases h

theorem foldPolicy_eq_self (h : IsLive legacy policy → HasSet legacy sets policy) :
    foldPolicy newId legacy sets policy = some sets := by
  rw [foldPolicy]
  split
  · rfl
  · rename_i hlive
    rw [not_or] at hlive
    rw [if_pos (List.any_eq_true.mpr (h hlive))]

theorem HasSet.mono (h : HasSet legacy sets policy) (hsub : sets ⊆ sets') :
    HasSet legacy sets' policy := by
  obtain ⟨set, hset, halready⟩ := h
  exact ⟨set, hsub hset, halready⟩

/-! ## Several policies -/

theorem foldPolicies_append (newId : Nat → String) (legacy : List AccessControlRule)
    (sets : List AccessControlSet) (policies others : List SharedPolicy) :
    foldPolicies newId legacy sets (policies ++ others) =
      (foldPolicies newId legacy sets policies).bind fun mid =>
        foldPolicies newId legacy mid others := by
  rw [foldPolicies, List.foldlM_append]
  rfl

theorem foldPolicies_concat (h : foldPolicies newId legacy sets (policies ++ [policy]) = some sets') :
    ∃ mid, foldPolicies newId legacy sets policies = some mid ∧
      foldPolicy newId legacy mid policy = some sets' := by
  rw [foldPolicies_append, Option.bind_eq_some_iff] at h
  obtain ⟨mid, hmid, h⟩ := h
  refine ⟨mid, hmid, ?_⟩
  rw [foldPolicies, List.foldlM_cons] at h
  simpa using h

/-- No set is lost, and every set is an old one or that of one of the policies. -/
theorem mem_foldPolicies (h : foldPolicies newId legacy sets policies = some sets') :
    sets ⊆ sets' ∧ (∀ policy ∈ policies, IsLive legacy policy → HasSet legacy sets' policy) ∧
      ∀ set ∈ sets', set ∈ sets ∨ ∃ before policy after mid,
        policies = before ++ policy :: after ∧ foldPolicies newId legacy sets before = some mid ∧
          Inserts newId legacy mid policy set := by
  induction policies using List.reverseRecOn generalizing sets' with
  | nil =>
      cases h
      exact ⟨List.Subset.refl _, fun policy hmem => absurd hmem List.not_mem_nil, fun set => .inl⟩
  | append_singleton policies policy ih =>
      obtain ⟨mid, hmid, hstep⟩ := foldPolicies_concat h
      obtain ⟨hsub, hset, horigin⟩ := ih hmid
      have hold : ∀ set ∈ mid, set ∈ sets ∨ ∃ before other after mid,
          policies ++ [policy] = before ++ other :: after ∧
            foldPolicies newId legacy sets before = some mid ∧
            Inserts newId legacy mid other set := by
        intro set hmem
        rcases horigin set hmem with hold | ⟨before, other, after, mid', rfl, hrun, hinserts⟩
        · exact .inl hold
        · exact .inr ⟨before, other, after ++ [policy], mid', by simp, hrun, hinserts⟩
      rcases foldPolicy_cases hstep with ⟨rfl, hlast⟩ | ⟨set, hinserts, rfl⟩
      · refine ⟨hsub, ?_, hold⟩
        intro other hother
        rcases List.mem_append.mp hother with hother | hother
        · exact hset other hother
        · rw [List.mem_singleton.mp hother]
          exact hlast
      · have hmono : mid ⊆ mid ++ [set] := List.subset_append_left _ _
        refine ⟨fun other hother => hmono (hsub hother), ?_, ?_⟩
        · intro other hother hlive
          rcases List.mem_append.mp hother with hother | hother
          · exact (hset other hother hlive).mono hmono
          · rw [List.mem_singleton.mp hother]
            refine ⟨set, List.mem_append_right _ (List.mem_singleton_self set), ?_⟩
            rw [hinserts.eq]
            exact isAlready_policySet _ _ _
        · intro other hother
          rcases List.mem_append.mp hother with hother | hother
          · exact hold other hother
          · rw [List.mem_singleton.mp hother]
            exact .inr ⟨policies, policy, [], mid, rfl, hmid, hinserts⟩

/-- Policies that have their sets change nothing. -/
theorem foldPolicies_eq_self
    (h : ∀ policy ∈ policies, IsLive legacy policy → HasSet legacy sets policy) :
    foldPolicies newId legacy sets policies = some sets := by
  induction policies with
  | nil => rfl
  | cons policy policies ih =>
      rw [List.forall_mem_cons] at h
      rw [foldPolicies, List.foldlM_cons, foldPolicy_eq_self h.1]
      exact ih h.2

/-! ## Bindings -/

/-- A network group is denied or allowed at a node. -/
structure Binding where
  nodeId : String
  networkGroupId : String
  mode : Mode
  direction : String

variable {b : Binding}

/-- An enabled set provides the binding. -/
def Bound (sets : List AccessControlSet) (b : Binding) : Prop :=
  ∃ set ∈ sets, set.enabled = true ∧ b.nodeId ∈ set.nodeIds ∧
    b.networkGroupId ∈ set.networkGroupIds ∧ set.mode = b.mode ∧ set.direction = b.direction

/-- An enabled rule provides the binding, at the node its identifier names. -/
def RuleBound (legacy : List AccessControlRule) (b : Binding) : Prop :=
  ∃ rule ∈ legacy, rule.enabled = true ∧ strip rule.nodeId = b.nodeId ∧ b.nodeId ≠ "" ∧
    rule.networkGroupId = b.networkGroupId ∧ rule.mode = b.mode ∧ rule.direction = b.direction

/-- The rules of a policy provide the binding. -/
structure PolicyBinds (legacy : List AccessControlRule) (policy : SharedPolicy) (b : Binding) :
    Prop where
  enabled : policy.enabled = true
  node : b.nodeId ∈ policyNodeIds legacy policy
  group : policy.networkGroupId = b.networkGroupId
  mode : policy.mode = b.mode
  direction : policy.direction = b.direction

theorem mem_policyNodeIds {nodeId : String} : nodeId ∈ policyNodeIds legacy policy ↔
    nodeId ≠ "" ∧ ∃ rule ∈ legacy, rule.policy = policy ∧ strip rule.nodeId = nodeId := by
  rw [policyNodeIds, mem_distinctBy_id, List.mem_filter, List.mem_map]
  simp only [List.mem_filter, decide_eq_true_eq, and_assoc]
  exact and_comm

theorem mem_sharedPolicies :
    policy ∈ sharedPolicies legacy ↔ ∃ rule ∈ legacy, rule.policy = policy := by
  rw [sharedPolicies, mem_distinctBy_id, List.mem_map]

theorem ruleBound_iff :
    RuleBound legacy b ↔ ∃ policy ∈ sharedPolicies legacy, PolicyBinds legacy policy b := by
  constructor
  · rintro ⟨rule, hrule, henabled, hnode, hne, hgroup, hmode, hdirection⟩
    exact ⟨rule.policy, mem_sharedPolicies.mpr ⟨rule, hrule, rfl⟩, henabled,
      mem_policyNodeIds.mpr ⟨hne, rule, hrule, rfl, hnode⟩, hgroup, hmode, hdirection⟩
  · rintro ⟨policy, -, h⟩
    obtain ⟨hne, rule, hrule, rfl, hnode⟩ := mem_policyNodeIds.mp h.node
    exact ⟨rule, hrule, h.enabled, hnode, hne, h.group, h.mode, h.direction⟩

theorem Bound.mono (h : Bound sets b) (hsub : sets ⊆ sets') : Bound sets' b := by
  obtain ⟨set, hset, hb⟩ := h
  exact ⟨set, hsub hset, hb⟩

theorem PolicyBinds.bound {set : AccessControlSet} (h : PolicyBinds legacy policy b)
    (hinserts : Inserts newId legacy sets policy set) : Bound [set] b := by
  refine ⟨set, List.mem_singleton_self set, ?_⟩
  rw [hinserts.eq]
  refine ⟨h.enabled, h.node, ?_, h.mode, h.direction⟩
  rw [← h.group]
  exact List.mem_singleton_self _

theorem policyBinds_of_inserts {set : AccessControlSet} (hinserts : Inserts newId legacy sets policy set)
    (h : Bound [set] b) : PolicyBinds legacy policy b := by
  obtain ⟨other, hother, henabled, hnode, hgroup, hmode, hdirection⟩ := h
  rw [List.mem_singleton.mp hother, hinserts.eq] at henabled hnode hgroup hmode hdirection
  exact ⟨henabled, hnode, (List.mem_singleton.mp hgroup).symm, hmode, hdirection⟩

/-- Only bindings of rules are added. -/
theorem ruleBound_of_foldPolicies (hpolicies : ∀ policy ∈ policies, policy ∈ sharedPolicies legacy)
    (h : foldPolicies newId legacy sets policies = some sets') (hb : Bound sets' b) :
    Bound sets b ∨ RuleBound legacy b := by
  obtain ⟨set, hset, hbound⟩ := hb
  rcases (mem_foldPolicies h).2.2 set hset with hold | ⟨before, policy, after, mid, rfl, -, hinserts⟩
  · exact .inl ⟨set, hold, hbound⟩
  · right
    rw [ruleBound_iff]
    exact ⟨policy, hpolicies policy (by simp), policyBinds_of_inserts hinserts
      ⟨set, List.mem_singleton_self set, hbound⟩⟩

/-! ## A run to the end -/

def SharedPolicy.disabled (policy : SharedPolicy) : SharedPolicy := { policy with enabled := false }

/-- Disabled rules with the same nodes, group and reason come first, and take the set. -/
def DisabledFirst (legacy : List AccessControlRule) (policy : SharedPolicy) : Prop :=
  ∃ before after, sharedPolicies legacy = before ++ policy.disabled :: after ∧ policy ∈ after ∧
    ∀ nodeId, nodeId ∈ policyNodeIds legacy policy.disabled ↔ nodeId ∈ policyNodeIds legacy policy

/-- Every binding of a rule is that of a set, or of a policy that gets a set of its own. -/
def BindingsKept (legacy : List AccessControlRule) (sets : List AccessControlSet) : Prop :=
  ∀ b, RuleBound legacy b → Bound sets b ∨ ∃ policy ∈ sharedPolicies legacy,
    PolicyBinds legacy policy b ∧ strip policy.reason ≠ "" ∧ ¬HasSet legacy sets policy ∧
      ¬DisabledFirst legacy policy

theorem PolicyBinds.isLive (h : PolicyBinds legacy policy b) (hreason : strip policy.reason ≠ "") :
    IsLive legacy policy :=
  ⟨List.ne_nil_of_mem h.node, hreason⟩

/-- The set of the disabled rules stands for the enabled ones too. -/
theorem HasSet.of_disabled
    (hnodes : ∀ nodeId, nodeId ∈ policyNodeIds legacy policy.disabled ↔
      nodeId ∈ policyNodeIds legacy policy)
    (h : HasSet legacy sets policy.disabled) : HasSet legacy sets policy := by
  obtain ⟨set, hset, halready⟩ := h
  obtain ⟨hgroups, hmode, hdirection, hreason, hsame⟩ := isAlready_iff.mp halready
  refine ⟨set, hset, isAlready_iff.mpr ⟨hgroups, hmode, hdirection, hreason, ?_⟩⟩
  intro nodeId
  rw [hsame, hnodes]

theorem not_disabledFirst_of_inserts {before after : List SharedPolicy} {set : AccessControlSet}
    (hsplit : sharedPolicies legacy = before ++ policy :: after) (henabled : policy.enabled = true)
    (hmid : foldPolicies newId legacy sets before = some sets')
    (hinserts : Inserts newId legacy sets' policy set) : ¬DisabledFirst legacy policy := by
  rintro ⟨before', after', hsplit', hmem, hnodes⟩
  have hne : policy.disabled ≠ policy := by
    intro hsame
    have hfalse : policy.disabled.enabled = policy.enabled := congrArg SharedPolicy.enabled hsame
    rw [henabled] at hfalse
    cases hfalse
  have hnodup : (before' ++ policy.disabled :: after').Nodup := by
    rw [← hsplit']
    exact nodup_distinctBy_id _
  -- The disabled rules come before, as the policy comes after them and only once.
  have hbefore : policy.disabled ∈ before := by
    rw [hsplit] at hsplit'
    rcases List.append_eq_append_iff.mp hsplit' with ⟨front, rfl, hrest⟩ | ⟨front, rfl, hrest⟩
    · cases front with
      | nil => exact absurd (List.cons.inj hrest).1.symm hne
      | cons first front =>
          cases hrest
          have hdisjoint := List.disjoint_of_nodup_append hnodup
          exact (hdisjoint (List.mem_append_right before List.mem_cons_self)
            (List.mem_cons_of_mem _ hmem)).elim
    · cases front with
      | nil => exact absurd (List.cons.inj hrest).1 hne
      | cons first front =>
          cases hrest
          exact List.mem_append_right _ List.mem_cons_self
  have hlive : IsLive legacy policy.disabled := by
    refine ⟨?_, hinserts.live.2⟩
    obtain ⟨nodeId, hnode⟩ := List.exists_mem_of_ne_nil _ hinserts.live.1
    exact List.ne_nil_of_mem ((hnodes nodeId).mpr hnode)
  exact hinserts.fresh (((mem_foldPolicies hmid).2.1 policy.disabled hbefore hlive).of_disabled hnodes)

theorem eq_or_eq_disabled {other : SharedPolicy} (henabled : policy.enabled = true)
    (hgroup : other.networkGroupId = policy.networkGroupId) (hmode : other.mode = policy.mode)
    (hdirection : other.direction = policy.direction) (hreason : other.reason = policy.reason) :
    other = policy ∨ other = policy.disabled := by
  obtain ⟨group, mode, direction, reason, enabled⟩ := other
  obtain ⟨group', mode', direction', reason', enabled'⟩ := policy
  cases hgroup
  cases hmode
  cases hdirection
  cases hreason
  cases henabled
  cases enabled with
  | true => exact .inl rfl
  | false => exact .inr rfl

/-- A policy gets a set of its own unless there is one, or disabled rules take it. -/
theorem bound_of_policyBinds {before after : List SharedPolicy} {mid : List AccessControlSet}
    (hsplit : sharedPolicies legacy = before ++ policy :: after)
    (hbinds : PolicyBinds legacy policy b) (hreason : strip policy.reason ≠ "")
    (hfresh : ¬HasSet legacy sets policy) (hfirst : ¬DisabledFirst legacy policy)
    (hmid : foldPolicies newId legacy sets before = some mid)
    (hstep : foldPolicy newId legacy mid policy = some sets') : Bound sets' b := by
  rcases foldPolicy_cases hstep with ⟨-, hset⟩ | ⟨set, hinserts, rfl⟩
  · obtain ⟨set, hmem, halready⟩ := hset (hbinds.isLive hreason)
    rcases (mem_foldPolicies hmid).2.2 set hmem with
      hold | ⟨before', other, after', mid', rfl, hmid', hinserts⟩
    · exact absurd ⟨set, hold, halready⟩ hfresh
    · obtain ⟨hgroups, hmode, hdirection, hreason, hnodes⟩ := isAlready_iff.mp halready
      rw [hinserts.eq] at hgroups hmode hdirection hreason hnodes
      have hcases := eq_or_eq_disabled hbinds.enabled (List.cons.inj hgroups).1 hmode hdirection
        hreason
      rcases hcases with rfl | rfl
      · have hnodup : (before' ++ other :: after' ++ other :: after).Nodup := by
          rw [← hsplit]
          exact nodup_distinctBy_id _
        exact (List.disjoint_of_nodup_append hnodup
          (List.mem_append_right _ List.mem_cons_self) List.mem_cons_self).elim
      · refine absurd ⟨before', after' ++ policy :: after, ?_, ?_, hnodes⟩ hfirst
        · rw [hsplit, List.append_assoc, List.cons_append]
        · exact List.mem_append_right _ List.mem_cons_self
  · exact (hbinds.bound hinserts).mono (List.subset_append_right _ _)

theorem bindingsKept_iff (h : foldPolicies newId legacy sets (sharedPolicies legacy) = some sets') :
    (∀ b, RuleBound legacy b → Bound sets' b) ↔ BindingsKept legacy sets := by
  constructor
  · intro hbound b hb
    obtain ⟨set, hset, hprovides⟩ := hbound b hb
    rcases (mem_foldPolicies h).2.2 set hset with
      hold | ⟨before, policy, after, mid, hsplit, hmid, hinserts⟩
    · exact .inl ⟨set, hold, hprovides⟩
    · right
      have hbinds := policyBinds_of_inserts hinserts ⟨set, List.mem_singleton_self set, hprovides⟩
      refine ⟨policy, ?_, hbinds, hinserts.live.2, ?_, ?_⟩
      · rw [hsplit]
        exact List.mem_append_right _ List.mem_cons_self
      · intro hold
        exact hinserts.fresh (hold.mono (mem_foldPolicies hmid).1)
      · exact not_disabledFirst_of_inserts hsplit hbinds.enabled hmid hinserts
  · intro hkept b hb
    rcases hkept b hb with hold | ⟨policy, hmem, hbinds, hreason, hfresh, hfirst⟩
    · exact hold.mono (mem_foldPolicies h).1
    · obtain ⟨before, after, hsplit⟩ := List.append_of_mem hmem
      have hrun := h
      rw [hsplit, List.append_cons, foldPolicies_append, Option.bind_eq_some_iff] at hrun
      obtain ⟨upTo, hupTo, hrest⟩ := hrun
      obtain ⟨mid, hmid, hstep⟩ := foldPolicies_concat hupTo
      exact (bound_of_policyBinds hsplit hbinds hreason hfresh hfirst hmid hstep).mono
        (mem_foldPolicies hrest).1

/-! ## Sizes -/

/-- No policy with a reason has more nodes than a set may have. -/
def SmallPolicies (legacy : List AccessControlRule) : Prop :=
  ∀ policy ∈ sharedPolicies legacy, strip policy.reason ≠ "" →
    (policyNodeIds legacy policy).length ≤ 64

theorem length_nodeIds_le {set : AccessControlSet} (h : set.isValid = true) :
    set.nodeIds.length ≤ 64 := by
  rw [AccessControlSet.isValid] at h
  simp only [Bool.and_eq_true, decide_eq_true_eq] at h
  exact h.1.1.1.2

theorem isValid_policySet (id : String) (hrules : ∀ rule ∈ legacy, rule.isValid = true)
    (hpolicy : policy ∈ sharedPolicies legacy) (hlive : IsLive legacy policy)
    (hsmall : (policyNodeIds legacy policy).length ≤ 64) :
    (policySet id policy (policyNodeIds legacy policy)).isValid = true := by
  obtain ⟨rule, hrule, rfl⟩ := mem_sharedPolicies.mp hpolicy
  have hvalid := hrules rule hrule
  rw [AccessControlRule.isValid, Bool.and_eq_true] at hvalid
  have hne := List.length_pos_iff.mpr hlive.1
  simp only [AccessControlSet.isValid, policySet, Bool.and_eq_true]
  exact ⟨⟨⟨⟨decide_eq_true hne, decide_eq_true hsmall⟩, rfl, rfl⟩, hvalid.1⟩, hvalid.2⟩

theorem exists_foldPolicies (newId : Nat → String) (hrules : ∀ rule ∈ legacy, rule.isValid = true)
    (hsmall : SmallPolicies legacy) (sets : List AccessControlSet)
    (hpolicies : ∀ policy ∈ policies, policy ∈ sharedPolicies legacy) :
    ∃ sets', foldPolicies newId legacy sets policies = some sets' := by
  induction policies generalizing sets with
  | nil => exact ⟨sets, rfl⟩
  | cons policy policies ih =>
      rw [List.forall_mem_cons] at hpolicies
      have hstep : ∃ mid, foldPolicy newId legacy sets policy = some mid := by
        by_cases hset : IsLive legacy policy → HasSet legacy sets policy
        · exact ⟨sets, foldPolicy_eq_self hset⟩
        · rw [Classical.not_imp] at hset
          have hvalid := isValid_policySet (newId sets.length) hrules hpolicies.1 hset.1
            (hsmall policy hpolicies.1 hset.1.2)
          rw [foldPolicy, if_neg (not_or.mpr hset.1),
            if_neg fun hany => hset.2 (List.any_eq_true.mp hany)]
          exact ⟨_, if_pos hvalid⟩
      obtain ⟨mid, hmid⟩ := hstep
      obtain ⟨sets', hrest⟩ := ih mid hpolicies.2
      refine ⟨sets', ?_⟩
      rw [foldPolicies, List.foldlM_cons, hmid]
      exact hrest

theorem smallPolicies_of_foldPolicies (hsets : ∀ set ∈ sets, set.isValid = true)
    (h : foldPolicies newId legacy sets (sharedPolicies legacy) = some sets') :
    SmallPolicies legacy := by
  obtain ⟨-, hhas, horigin⟩ := mem_foldPolicies h
  intro policy hpolicy hreason
  by_cases hnodes : policyNodeIds legacy policy = []
  · rw [hnodes]
    exact Nat.zero_le 64
  · obtain ⟨set, hset, halready⟩ := hhas policy hpolicy ⟨hnodes, hreason⟩
    have hvalid : set.isValid = true := by
      rcases horigin set hset with hold | ⟨_, _, _, _, _, _, hinserts⟩
      · exact hsets set hold
      · exact hinserts.valid
    have hsub : policyNodeIds legacy policy ⊆ set.nodeIds :=
      fun nodeId hnode => ((isAlready_iff.mp halready).2.2.2.2 nodeId).mpr hnode
    exact ((List.subperm_of_subset (nodup_distinctBy_id _) hsub).length_le).trans
      (length_nodeIds_le hvalid)

/-- Fewer rules have fewer nodes. -/
theorem SmallPolicies.of_subset {legacy' : List AccessControlRule} (h : SmallPolicies legacy)
    (hsub : legacy' ⊆ legacy) : SmallPolicies legacy' := by
  intro policy hpolicy hreason
  obtain ⟨rule, hrule, hsame⟩ := mem_sharedPolicies.mp hpolicy
  have hsubNodes : policyNodeIds legacy' policy ⊆ policyNodeIds legacy policy := by
    intro nodeId hnode
    obtain ⟨hne, rule, hrule, hnode⟩ := mem_policyNodeIds.mp hnode
    exact mem_policyNodeIds.mpr ⟨hne, rule, hsub hrule, hnode⟩
  exact ((List.subperm_of_subset (nodup_distinctBy_id _) hsubNodes).length_le).trans
    (h policy (mem_sharedPolicies.mpr ⟨rule, hsub hrule, hsame⟩) hreason)

/-! ## Interrupted runs -/

/-- What the models and the unique index admit. -/
structure Admitted (s : AccessState) : Prop where
  rules : ∀ rule ∈ s.legacy, rule.isValid = true
  unique : (s.legacy.map fun rule =>
    (rule.nodeId, rule.networkGroupId, rule.mode, rule.direction)).Nodup
  sets : ∀ set ∈ s.sets, set.isValid = true

/-- After any number of interrupted runs, the next one ends without rules and with exactly the
bindings of the rules and the sets of the start. -/
def PreservesBindings (newId : Nat → String) (s : AccessState) : Prop :=
  ∀ t, Relation.ReflTransGen (Attempt newId) s t →
    ∃ t', migrateAccessControlSets newId t = some t' ∧ t'.legacy = [] ∧
      ∀ b, Bound t'.sets b ↔ Bound s.sets b ∨ RuleBound s.legacy b

/-- Runs that insert start over: the policies that are done are found. -/
theorem foldPolicies_again {policies rest : List SharedPolicy} {mid : List AccessControlSet}
    (hmid : foldPolicies newId legacy sets policies = some mid) :
    foldPolicies newId legacy mid (policies ++ rest) =
      foldPolicies newId legacy sets (policies ++ rest) := by
  rw [foldPolicies_append, foldPolicies_append, hmid,
    foldPolicies_eq_self (mem_foldPolicies hmid).2.1]

/-- Between the runs: some of the sets were inserted and no rule was deleted, or all bindings are
there and the first rules are gone. -/
def Resumes (newId : Nat → String) (s t : AccessState) : Prop :=
  (∃ policies rest, sharedPolicies s.legacy = policies ++ rest ∧
      foldPolicies newId s.legacy s.sets policies = some t.sets ∧ t.legacy = s.legacy) ∨
    (∃ count, t.legacy = s.legacy.drop count) ∧
      ∀ b, Bound t.sets b ↔ Bound s.sets b ∨ RuleBound s.legacy b

theorem bound_foldPolicies_iff (hkept : BindingsKept legacy sets)
    (h : foldPolicies newId legacy sets (sharedPolicies legacy) = some sets') (b : Binding) :
    Bound sets' b ↔ Bound sets b ∨ RuleBound legacy b := by
  constructor
  · exact ruleBound_of_foldPolicies (fun _ hmem => hmem) h
  · rintro (hb | hb)
    · exact hb.mono (mem_foldPolicies h).1
    · exact (bindingsKept_iff h).mpr hkept b hb

/-- Once all bindings are there, the rest of the rules adds none. -/
theorem bound_iff_of_drop {s : AccessState} {count : Nat} {others : List SharedPolicy}
    (hbound : ∀ b, Bound sets b ↔ Bound s.sets b ∨ RuleBound s.legacy b)
    (hothers : ∀ policy ∈ others, policy ∈ sharedPolicies (s.legacy.drop count))
    (h : foldPolicies newId (s.legacy.drop count) sets others = some sets') (b : Binding) :
    Bound sets' b ↔ Bound s.sets b ∨ RuleBound s.legacy b := by
  rw [← hbound]
  constructor
  · intro hb
    rcases ruleBound_of_foldPolicies hothers h hb with hb | ⟨rule, hrule, hb⟩
    · exact hb
    · exact (hbound b).mpr (.inr ⟨rule, List.mem_of_mem_drop hrule, hb⟩)
  · intro hb
    exact hb.mono (mem_foldPolicies h).1

theorem Resumes.step {s t u : AccessState} (hkept : BindingsKept s.legacy s.sets)
    (h : Resumes newId s t) (hattempt : Attempt newId t u) : Resumes newId s u := by
  rcases h with ⟨policies, rest, hsplit, hsets, hlegacy⟩ | ⟨⟨count, hlegacy⟩, hbound⟩
  · obtain ⟨legacy, sets⟩ := t
    cases hlegacy
    cases hattempt with
    | @inserting policies' rest' sets' hsplit' hsets' =>
        left
        rcases List.append_eq_append_iff.mp (hsplit.symm.trans hsplit') with
          ⟨more, rfl, -⟩ | ⟨more, rfl, -⟩
        · rw [foldPolicies_again hsets] at hsets'
          exact ⟨_, _, hsplit', hsets', rfl⟩
        · have hself : foldPolicies newId s.legacy sets policies' = some sets := by
            apply foldPolicies_eq_self
            intro policy hpolicy
            exact (mem_foldPolicies hsets).2.1 policy (List.mem_append_left more hpolicy)
          rw [hself] at hsets'
          cases hsets'
          exact ⟨_, _, hsplit, hsets, rfl⟩
    | @deleting sets' count hsets' =>
        rw [hsplit, foldPolicies_again hsets, ← hsplit] at hsets'
        exact .inr ⟨⟨count, rfl⟩, bound_foldPolicies_iff hkept hsets'⟩
  · right
    obtain ⟨legacy, sets⟩ := t
    cases hlegacy
    cases hattempt with
    | @inserting policies rest sets' hsplit hsets =>
        refine ⟨⟨count, rfl⟩, bound_iff_of_drop hbound ?_ hsets⟩
        intro policy hpolicy
        rw [hsplit]
        exact List.mem_append_left rest hpolicy
    | @deleting sets' more hsets =>
        refine ⟨⟨count + more, ?_⟩, bound_iff_of_drop hbound (fun _ hmem => hmem) hsets⟩
        rw [List.drop_drop]

theorem Resumes.migrates {s t : AccessState} (hadmitted : Admitted s)
    (hsmall : SmallPolicies s.legacy) (hkept : BindingsKept s.legacy s.sets)
    (h : Resumes newId s t) :
    ∃ t', migrateAccessControlSets newId t = some t' ∧ t'.legacy = [] ∧
      ∀ b, Bound t'.sets b ↔ Bound s.sets b ∨ RuleBound s.legacy b := by
  rcases h with ⟨policies, rest, hsplit, hsets, hlegacy⟩ | ⟨⟨count, hlegacy⟩, hbound⟩
  · obtain ⟨legacy, sets⟩ := t
    cases hlegacy
    obtain ⟨sets', hrun⟩ := exists_foldPolicies newId hadmitted.rules hsmall s.sets
      (fun policy (hmem : policy ∈ sharedPolicies s.legacy) => hmem)
    have hagain : foldPolicies newId s.legacy sets (sharedPolicies s.legacy) = some sets' := by
      rw [hsplit, foldPolicies_again hsets, ← hsplit]
      exact hrun
    refine ⟨⟨[], sets'⟩, ?_, rfl, bound_foldPolicies_iff hkept hrun⟩
    rw [migrateAccessControlSets, hagain]
    rfl
  · obtain ⟨legacy, sets⟩ := t
    cases hlegacy
    have hsub : s.legacy.drop count ⊆ s.legacy := fun rule hrule => List.mem_of_mem_drop hrule
    obtain ⟨sets', hrun⟩ := exists_foldPolicies newId
      (fun rule hrule => hadmitted.rules rule (hsub hrule)) (hsmall.of_subset hsub) sets
      (fun policy (hmem : policy ∈ sharedPolicies (s.legacy.drop count)) => hmem)
    refine ⟨⟨[], sets'⟩, ?_, rfl, bound_iff_of_drop hbound (fun _ hmem => hmem) hrun⟩
    rw [migrateAccessControlSets, hrun]
    rfl

/-- The migration preserves the bindings, however often it is interrupted, exactly when no policy is
too large for a set and every binding of a rule is that of a set or of a policy that gets its own
set. -/
theorem preservesBindings_iff (newId : Nat → String) (s : AccessState) (hadmitted : Admitted s) :
    PreservesBindings newId s ↔ SmallPolicies s.legacy ∧ BindingsKept s.legacy s.sets := by
  constructor
  · intro h
    obtain ⟨t', hrun, -, hbound⟩ := h s .refl
    rw [migrateAccessControlSets, Option.map_eq_some_iff] at hrun
    obtain ⟨sets', hrun, rfl⟩ := hrun
    refine ⟨smallPolicies_of_foldPolicies hadmitted.sets hrun, (bindingsKept_iff hrun).mp ?_⟩
    intro b hb
    exact (hbound b).mpr (.inr hb)
  · rintro ⟨hsmall, hkept⟩ t ht
    have hresumes : Resumes newId s t := by
      induction ht with
      | refl => exact .inl ⟨[], _, rfl, rfl, rfl⟩
      | tail _ hattempt ih => exact ih.step hkept hattempt
    exact hresumes.migrates hadmitted hsmall hkept

/-- Two rules that share a policy, and two that share another one. -/
def groupedRules : List AccessControlRule :=
  [⟨"node-a", "group-1", .deny, "source", "abuse", true⟩,
    ⟨" node-b", "group-1", .deny, "source", "abuse", true⟩,
    ⟨"node-a", "group-2", .allow, "destination", "office", true⟩,
    ⟨"node-c", "group-2", .allow, "destination", "office", true⟩,
    ⟨"node-d", "group-2", .allow, "destination", "office", false⟩]

/-- The first policy has its set already, with the nodes in another order. -/
def groupedSets : List AccessControlSet :=
  [⟨"set-0", ["node-b", "node-a"], ["group-1"], .deny, "source", "abuse", true⟩]

def setName (count : Nat) : String := "set-" ++ String.ofList (Nat.toDigits 10 count)

/-- What the migration leaves. -/
def migratedSets : List AccessControlSet :=
  groupedSets ++
    [⟨"set-1", ["node-a", "node-c"], ["group-2"], .allow, "destination", "office", true⟩,
      ⟨"set-2", ["node-d"], ["group-2"], .allow, "destination", "office", false⟩]

theorem preservesBindings_iff_groupedRules : Admitted ⟨groupedRules, groupedSets⟩ ∧
    PreservesBindings setName ⟨groupedRules, groupedSets⟩ := by
  have hadmitted : Admitted ⟨groupedRules, groupedSets⟩ := ⟨by decide, by decide, by decide⟩
  have hsmall : SmallPolicies groupedRules := by
    rw [SmallPolicies]
    decide
  have hrun : foldPolicies setName groupedRules groupedSets (sharedPolicies groupedRules) =
      some migratedSets := by
    decide
  have hbound : ∀ rule ∈ groupedRules, rule.enabled = true →
      ∃ set ∈ migratedSets, set.enabled = true ∧ strip rule.nodeId ∈ set.nodeIds ∧
        rule.networkGroupId ∈ set.networkGroupIds ∧ set.mode = rule.mode ∧
          set.direction = rule.direction := by
    decide
  have hkept : BindingsKept groupedRules groupedSets := by
    refine (bindingsKept_iff hrun).mp ?_
    rintro b ⟨rule, hrule, henabled, hnode, -, hgroup, hmode, hdirection⟩
    obtain ⟨set, hset, hon, hmem, hgroups, hsame, hfrom⟩ := hbound rule hrule henabled
    exact ⟨set, hset, hon, hnode ▸ hmem, hgroup ▸ hgroups, hsame.trans hmode,
      hfrom.trans hdirection⟩
  exact ⟨hadmitted, (preservesBindings_iff setName _ hadmitted).mpr ⟨hsmall, hkept⟩⟩
def denyRule : AccessControlRule := ⟨"node-a", "group-1", .deny, "source", "abuse", true⟩

def denySet (enabled : Bool) : AccessControlSet :=
  ⟨"set-1", ["node-a"], ["group-1"], .deny, "source", "abuse", enabled⟩

/-- A disabled set takes the place of the set of an enabled rule. -/
theorem migration_drops_binding : Admitted ⟨[denyRule], [denySet false]⟩ ∧
    ¬PreservesBindings (fun _ => "set-2") ⟨[denyRule], [denySet false]⟩ := by
  refine ⟨⟨by decide, by decide, by decide⟩, ?_⟩
  intro h
  obtain ⟨t', hrun, -, hbound⟩ := h _ .refl
  have hsame : migrateAccessControlSets (fun _ => "set-2") ⟨[denyRule], [denySet false]⟩ =
      some ⟨[], [denySet false]⟩ := rfl
  rw [hsame] at hrun
  cases hrun
  have hrule : RuleBound [denyRule] ⟨"node-a", "group-1", .deny, "source"⟩ :=
    ⟨denyRule, List.mem_singleton_self _, rfl, rfl, by decide, rfl, rfl, rfl⟩
  obtain ⟨set, hset, henabled, -⟩ := (hbound _).mpr (.inr hrule)
  rw [List.mem_singleton.mp hset] at henabled
  cases henabled

end Grouproxy.Cidr
