import Grouproxy.Model.RoutingPolicy
import Grouproxy.Verification.Policy.Networks

/-! # Validating a routing policy again

The dump of a validated policy validates to the same policy: every pattern that the validator
returns is left alone by it.
-/

namespace Grouproxy.Backend

open Text Netip Ipaddress Encoding Crypto Cidr

/-- What `str.lower` returned has no upper case left: a text of its characters, and of ASCII
characters that are not upper case letters, stays as it is. -/
def LowersOnce (libs : Libraries) : Prop :=
  ∀ s t : String, (∀ c ∈ t.toList, c ∈ (lower libs s).toList ∨ c.toNat < 128 ∧ c.toLower = c) →
    lower libs t = t

/-! ## ASCII characters -/

/-- An ASCII character that is neither an upper case letter nor white space. -/
def IsPlainChar (c : Char) : Prop :=
  c.toNat < 128 ∧ c.toLower = c ∧ Ipaddress.isSpace c = false

instance (c : Char) : Decidable (IsPlainChar c) := inferInstanceAs (Decidable (_ ∧ _ ∧ _))

theorem toLower_of_ascii_aux :
    ∀ n < 128, ¬ (65 ≤ n ∧ n ≤ 90) → (Char.ofNat n).toLower = Char.ofNat n := by
  decide

theorem toLower_of_ascii {c : Char} (h : c.toNat < 128) (hupper : ¬ (65 ≤ c.toNat ∧ c.toNat ≤ 90)) :
    c.toLower = c := by
  have hself := toLower_of_ascii_aux c.toNat h hupper
  rwa [Char.ofNat_toNat] at hself

theorem lower_of_ascii {libs : Libraries} {s : String}
    (h : ∀ c ∈ s.toList, c.toNat < 128 ∧ c.toLower = c) : lower libs s = s := by
  have hascii : isAscii s = true := by
    rw [isAscii, List.all_eq_true]
    intro c hc
    simpa using (h c hc).1
  have hmap : s.toList.map Char.toLower = s.toList.map id :=
    List.map_congr_left fun c hc => (h c hc).2
  rw [lower, if_pos hascii, hmap, List.map_id, String.ofList_toList]

/-! ## Domains -/

/-- What the validator leaves over of a domain. -/
structure IsDomain (name : String) : Prop where
  labels : ∀ label ∈ name.toList.splitOn '.', isHostnameLabel label = true
  length : name.toList.length ≤ 253
  notAddress : ipAddress name = none

theorem isDomain_of_normalizeDomain {libs : Libraries} {value name : String}
    (h : normalizeDomain libs value = some name) : IsDomain name := by
  rw [normalizeDomain] at h
  split at h
  · cases h
  · split at h
    · cases h
    · split at h
      · cases h
      · split at h
        · cases h
        · rename_i hshape haddress
          cases h
          rw [not_or, not_not, List.all_eq_true] at hshape
          exact ⟨hshape.2, by omega, by simpa using haddress⟩

section Domain

variable {name : String} (h : IsDomain name)
include h

theorem IsDomain.plain {c : Char} (hc : c ∈ name.toList) : IsPlainChar c := by
  have hspace : ∀ n < 128, 33 ≤ n → Ipaddress.isSpace (Char.ofNat n) = false := by decide
  have hrange : c.toNat < 128 ∧ 33 ≤ c.toNat ∧ ¬ (65 ≤ c.toNat ∧ c.toNat ≤ 90) := by
    rcases mem_of_hostnameLabels h.labels hc with hn | hn | rfl | rfl
    · omega
    · omega
    · decide
    · decide
  have hself := hspace c.toNat hrange.1 hrange.2.1
  rw [Char.ofNat_toNat] at hself
  exact ⟨hrange.1, toLower_of_ascii hrange.1 hrange.2.2, hself⟩

theorem IsDomain.isAscii : isAscii name = true := by
  rw [Backend.isAscii, List.all_eq_true]
  intro c hc
  simpa using (h.plain hc).1

theorem IsDomain.head? : name.toList.head? ≠ some '.' := by
  intro hhead
  rcases List.head?_eq_some_iff.mp hhead with ⟨rest, hrest⟩
  have hsplit := List.splitOn_append_cons_self (a := '.') [] rest
  rw [List.nil_append, ← hrest] at hsplit
  have hlabel := h.labels [] (by rw [hsplit]; simp)
  cases hlabel

theorem IsDomain.getLast? : name.toList.getLast? ≠ some '.' := by
  intro hlast
  rcases List.getLast?_eq_some_iff.mp hlast with ⟨init, hinit⟩
  have hsplit := List.splitOn_append_cons_self (a := '.') init []
  rw [← hinit] at hsplit
  have hlabel := h.labels [] (by rw [hsplit]; simp)
  cases hlabel

theorem IsDomain.trimDots : trimDots name.toList = name.toList := by
  rw [Backend.trimDots, if_neg h.head?]
  cases hreverse : name.toList.reverse with
  | nil => simpa using hreverse
  | cons c rest =>
      have hc : c ≠ '.' := by
        intro hdot
        apply h.getLast?
        rw [← List.head?_reverse, hreverse, hdot]
        rfl
      rw [List.dropWhile_cons_of_neg (by simpa using hc), ← hreverse, List.reverse_reverse]

end Domain

theorem length_of_isHostnameLabel {label : List Char} (h : isHostnameLabel label = true) :
    0 < label.length ∧ label.length < 64 := by
  cases label with
  | nil => cases h
  | cons c rest =>
      simp only [isHostnameLabel, Bool.and_eq_true, Bool.or_eq_true, List.isEmpty_iff,
        decide_eq_true_eq] at h
      rw [List.length_cons]
      rcases h.2 with hnil | hrest
      · rw [hnil, List.length_nil]
        omega
      · omega

theorem IsDomain.encodeIdna {name : String} (h : IsDomain name) (libs : Libraries) :
    encodeIdna libs name = some name := by
  rw [Backend.encodeIdna, if_pos h.isAscii, if_pos]
  simp only [Bool.and_eq_true, List.all_eq_true, decide_eq_true_eq, Option.all_eq_true]
  refine ⟨fun label hlabel => ?_, fun label hlabel => ?_⟩
  · exact length_of_isHostnameLabel (h.labels label ((List.dropLast_sublist _).subset hlabel))
  · exact (length_of_isHostnameLabel (h.labels label (List.mem_of_getLast? hlabel))).2

theorem IsDomain.normalizeDomain {name : String} (h : IsDomain name) (libs : Libraries) :
    normalizeDomain libs name = some name := by
  have hlabels : (name.toList.splitOn '.').all isHostnameLabel = true := by
    rw [List.all_eq_true]
    exact h.labels
  have hlength := h.length
  rw [Backend.normalizeDomain, h.trimDots, String.ofList_toList, h.encodeIdna]
  simp only [h.isAscii, hlabels, h.notAddress, not_true_eq_false, if_false, or_false,
    Option.isSome_none, Bool.false_eq_true]
  rw [if_neg (by omega)]

/-! ## Networks -/

theorem isPlainChar_of_isDigit {c : Char} (h : c.isDigit = true) : IsPlainChar c := by
  have hdigits : ∀ n < 128, (Char.ofNat n).isDigit = true → IsPlainChar (Char.ofNat n) := by
    decide
  have hself := hdigits c.toNat (toNat_lt_of_isHex (isHex_of_isDigit h))
  rw [Char.ofNat_toNat] at hself
  exact hself h

theorem isPlainChar_digitChar : ∀ d < 16, IsPlainChar (Nat.digitChar d) := by
  decide

theorem isPlainChar_of_mem_hexText {x : Nat} (hx : x < 0x10000) {c : Char} (h : c ∈ hexText x) :
    IsPlainChar c := by
  have hdigit : ∃ d < 16, c = Nat.digitChar d := by
    simp only [hexText, List.mem_append, List.mem_singleton] at h
    rcases h with ((h | h) | h) | h
    · split at h
      · exact ⟨_, by omega, List.mem_singleton.mp h⟩
      · cases h
    · split at h
      · exact ⟨_, by omega, List.mem_singleton.mp h⟩
      · cases h
    · split at h
      · exact ⟨_, by omega, List.mem_singleton.mp h⟩
      · cases h
    · exact ⟨_, by omega, h⟩
  rcases hdigit with ⟨d, hd, rfl⟩
  exact isPlainChar_digitChar d hd

theorem isPlainChar_of_mem_joinGroups {gs : List Nat} (hlt : ∀ g ∈ gs, g < 0x10000) {c : Char}
    (h : c ∈ joinGroups gs) : IsPlainChar c := by
  rcases eq_or_mem_of_mem_intercalate h with rfl | ⟨part, hpart, hc⟩
  · decide
  · rcases List.mem_map.mp hpart with ⟨g, hg, rfl⟩
    exact isPlainChar_of_mem_hexText (hlt g hg) hc

theorem isPlainChar_of_mem_groupsText (n : Nat) {c : Char} (h : c ∈ groupsText (groups n)) :
    IsPlainChar c := by
  have hlt : ∀ g ∈ groups n, g < 0x10000 := fun g hg => lt_of_mem_groups hg
  rw [groupsText] at h
  split at h
  · exact isPlainChar_of_mem_joinGroups hlt h
  · rw [List.mem_append, List.mem_cons, List.mem_cons] at h
    rcases h with h | rfl | rfl | h
    · exact isPlainChar_of_mem_joinGroups (fun g hg => hlt g (List.mem_of_mem_take hg)) h
    · decide
    · decide
    · exact isPlainChar_of_mem_joinGroups (fun g hg => hlt g (List.mem_of_mem_drop hg)) h

/-- A printed network is an address without its scope, the scope, and the length. -/
theorem networkText_parts (p : Prefix) : ∃ c cs, Ipaddress.networkText p =
      c :: (cs ++ zoneText p.addr.zone ++ '/' :: Nat.toDigits 10 p.bits) ∧
    ∀ d ∈ c :: cs, IsPlainChar d := by
  cases p with
  | mk addr bits =>
      cases addr with
      | v4 n =>
          rcases exists_cons_ipv4Text n with ⟨c, cs, hcs, -⟩
          refine ⟨c, cs, ?_, fun d hd => ?_⟩
          · simp [Ipaddress.networkText, addressText, hcs, zoneText, Addr.zone]
          · rw [← hcs] at hd
            rcases mem_ipv4Text hd with hdigit | rfl
            · exact isPlainChar_of_isDigit hdigit
            · decide
      | v6 n scope =>
          have hne := List.ne_nil_of_mem (colon_mem_groupsText (length_groups n))
          rcases List.exists_cons_of_ne_nil hne with ⟨c, cs, hcs⟩
          refine ⟨c, cs, ?_, fun d hd => ?_⟩
          · simp [Ipaddress.networkText, addressText, hcs, Addr.zone]
          · rw [← hcs] at hd
            exact isPlainChar_of_mem_groupsText n hd

theorem strip_networkText (p : Prefix) :
    strip (String.ofList (Ipaddress.networkText p)) = String.ofList (Ipaddress.networkText p) := by
  rcases networkText_parts p with ⟨c, cs, hparts, hplain⟩
  have hdigits : Nat.toDigits 10 p.bits ≠ [] := Nat.toDigits_ne_nil
  apply strip_eq_self
  · rw [String.toList_ofList, hparts]
    intro d hd
    cases hd
    exact (hplain c List.mem_cons_self).2.2
  · rw [String.toList_ofList, Ipaddress.networkText, List.getLast?_append_of_ne_nil _ (by simp),
      List.getLast?_cons_of_ne_nil hdigits]
    intro d hd
    have hdigit := Nat.isDigit_of_mem_toDigits (by decide) (by decide) (List.mem_of_getLast? hd)
    exact (isPlainChar_of_isDigit hdigit).2.2

/-- Outside its scope a printed network has plain characters only. -/
theorem mem_networkText {p : Prefix} {c : Char} (h : c ∈ Ipaddress.networkText p) :
    c ∈ p.addr.zone.toList ∨ IsPlainChar c := by
  rcases networkText_parts p with ⟨d, ds, hparts, hplain⟩
  rw [hparts, ← List.cons_append, ← List.cons_append, List.mem_append, List.mem_append] at h
  rcases h with (h | h) | h
  · exact .inr (hplain c h)
  · rcases mem_zoneText h with rfl | hzone
    · exact .inr (by decide)
    · exact .inl hzone
  · rcases List.mem_cons.mp h with rfl | hdigit
    · exact .inr (by decide)
    · exact .inr (isPlainChar_of_isDigit (Nat.isDigit_of_mem_toDigits (by decide) (by decide) hdigit))

/-! ## Patterns -/

/-- A pattern that the validator returned is left alone by it. -/
theorem normalizePattern_idempotent {libs : Libraries} (hlibs : LowersOnce libs) {kind : RuleKind}
    {value pattern : String} (h : normalizePattern libs kind value = some pattern) :
    normalizePattern libs kind pattern = some pattern := by
  have hdomain : ∀ v, normalizeDomain libs v = some pattern →
      normalizeDomain libs (lower libs (strip pattern)) = some pattern := by
    intro v hv
    have hname := isDomain_of_normalizeDomain hv
    have hstrip : strip pattern = pattern :=
      strip_eq_self (fun c hc => (hname.plain (List.mem_of_mem_head? hc)).2.2)
        fun c hc => (hname.plain (List.mem_of_getLast? hc)).2.2
    rw [hstrip, lower_of_ascii fun c hc => ⟨(hname.plain hc).1, (hname.plain hc).2.1⟩]
    exact hname.normalizeDomain libs
  cases kind with
  | domain =>
      simp only [normalizePattern] at h ⊢
      exact hdomain _ h
  | domainSuffix =>
      simp only [normalizePattern] at h ⊢
      exact hdomain _ h
  | ipCidr =>
      simp only [normalizePattern] at h
      rcases Option.map_eq_some_iff.mp h with ⟨network, hnetwork, rfl⟩
      have hlower : lower libs (String.ofList (Ipaddress.networkText network)) =
          String.ofList (Ipaddress.networkText network) := by
        refine hlibs (strip value) _ fun c hc => ?_
        rw [String.toList_ofList] at hc
        rcases mem_networkText hc with hzone | hplain
        · exact .inl (mem_zone_of_ipNetwork hnetwork hzone)
        · exact .inr ⟨hplain.1, hplain.2.1⟩
      simp only [normalizePattern, strip_networkText, hlower,
        ipNetwork_networkText (isPrinted_of_ipNetwork hnetwork), Option.map_some]

/-! ## Policies -/

/-- The pattern of the rule came out of the validator. -/
def RoutingRule.IsNormal (libs : Libraries) (rule : RoutingRule) : Prop :=
  ∃ value, normalizePattern libs rule.kind value = some rule.pattern

def RoutingPolicy.IsNormal (libs : Libraries) (policy : RoutingPolicy) : Prop :=
  ∀ rule ∈ policy.rules, rule.IsNormal libs

theorem validateRule_isNormal {libs : Libraries} {value : Json} {rule : RoutingRule}
    (h : validateRule libs value = some rule) : rule.IsNormal libs := by
  cases value with
  | obj fields =>
      simp only [validateRule, Option.bind_eq_bind, Option.bind_eq_some_iff] at h
      rcases h with ⟨-, -, kind, -, action, -, h⟩
      split at h
      · rename_i pattern _
        simp only [Option.bind_eq_some_iff] at h
        rcases h with ⟨-, -, normal, hnormal, h⟩
        cases h
        exact ⟨pattern, hnormal⟩
      · cases h
  | _ => cases h

theorem mapM_validateRule_isNormal {libs : Libraries} {items : List Json} {rules : List RoutingRule}
    (h : items.mapM (validateRule libs) = some rules) : ∀ rule ∈ rules, rule.IsNormal libs := by
  have hitems := forall₂_of_mapM h
  clear h
  induction hitems with
  | nil => exact fun rule hrule => absurd hrule List.not_mem_nil
  | cons hfirst _ ih => exact List.forall_mem_cons.mpr ⟨validateRule_isNormal hfirst, ih⟩

/-- The rules of a validated policy: none, or those of a list that is short enough. -/
theorem modelValidate_rules {libs : Libraries} {value : Json} {policy : RoutingPolicy}
    (h : RoutingPolicy.modelValidate libs value = some policy) :
    policy.rules = [] ∨ ∃ items : List Json, items.length ≤ 200 ∧
      items.mapM (validateRule libs) = some policy.rules := by
  cases value with
  | obj fields =>
      simp only [RoutingPolicy.modelValidate, Option.bind_eq_bind, Option.bind_eq_some_iff] at h
      rcases h with ⟨-, -, mode, -, privateDirect, -, cnDirect, -, final, -, rules, hrules, h⟩
      cases h
      rw [withDefault] at hrules
      split at hrules
      · cases hrules
        exact .inl rfl
      · rename_i field _
        cases hfield : field.2 with
        | arr items =>
            rw [hfield] at hrules
            simp only [validateRules, Option.bind_eq_bind, Option.bind_eq_some_iff] at hrules
            rcases hrules with ⟨_, hlength, hrules⟩
            refine .inr ⟨items, ?_, hrules⟩
            by_contra hlong
            simp [guard, hlong] at hlength
        | _ =>
            rw [hfield] at hrules
            cases hrules
  | _ => cases h

theorem modelValidate_isNormal {libs : Libraries} {value : Json} {policy : RoutingPolicy}
    (h : RoutingPolicy.modelValidate libs value = some policy) : policy.IsNormal libs := by
  rcases modelValidate_rules h with hnil | ⟨items, -, hitems⟩
  · rw [RoutingPolicy.IsNormal, hnil]
    exact fun rule hrule => absurd hrule List.not_mem_nil
  · exact mapM_validateRule_isNormal hitems

theorem length_rules_of_modelValidate {libs : Libraries} {value : Json} {policy : RoutingPolicy}
    (h : RoutingPolicy.modelValidate libs value = some policy) : policy.rules.length ≤ 200 := by
  rcases modelValidate_rules h with hnil | ⟨items, hlength, hitems⟩
  · rw [hnil]
    exact Nat.zero_le 200
  · rw [← (forall₂_of_mapM hitems).length_eq]
    exact hlength

/-- A normal rule is read back, unless its pattern became too long. -/
theorem validateRule_modelDump {libs : Libraries} (hlibs : LowersOnce libs) {rule rule' : RoutingRule}
    (hnormal : rule.IsNormal libs) (h : validateRule libs rule.modelDump = some rule') :
    rule' = rule := by
  rcases hnormal with ⟨value, hvalue⟩
  have hpattern := normalizePattern_idempotent hlibs hvalue
  rcases rule with ⟨kind, pattern, action⟩
  have hkind : literal [.domain, .domainSuffix, .ipCidr] RuleKind.text (.str kind.text) =
      some kind := by
    cases kind with
    | domain => rfl
    | domainSuffix => rfl
    | ipCidr => rfl
  have haction : literal [.direct, .proxy, .reject] RuleAction.text (.str action.text) =
      some action := by
    cases action with
    | direct => rfl
    | proxy => rfl
    | reject => rfl
  have hfields : dictGet [("kind", .str kind.text), ("pattern", .str pattern),
        ("action", .str action.text)] "kind" = .str kind.text ∧
      dictGet [("kind", .str kind.text), ("pattern", .str pattern),
        ("action", .str action.text)] "pattern" = .str pattern ∧
      dictGet [("kind", .str kind.text), ("pattern", .str pattern),
        ("action", .str action.text)] "action" = .str action.text := ⟨rfl, rfl, rfl⟩
  simp only [RoutingRule.modelDump, validateRule, hfields, hkind, haction, Option.bind_eq_bind,
    Option.bind_eq_some_iff, Option.bind_some] at h
  rcases h with ⟨-, -, -, -, normal, hread, h⟩
  rw [hpattern] at hread
  cases hread
  cases h
  rfl

theorem mapM_validateRule_modelDump {libs : Libraries} (hlibs : LowersOnce libs)
    {rules rules' : List RoutingRule} (hnormal : ∀ rule ∈ rules, rule.IsNormal libs)
    (h : (rules.map RoutingRule.modelDump).mapM (validateRule libs) = some rules') :
    rules' = rules := by
  induction rules generalizing rules' with
  | nil =>
      cases h
      rfl
  | cons rule rules ih =>
      rw [List.map_cons, List.mapM_cons] at h
      simp only [Option.bind_eq_bind, Option.bind_eq_some_iff] at h
      rcases h with ⟨first, hfirst, rest, hrest, h⟩
      cases h
      rw [validateRule_modelDump hlibs (hnormal rule List.mem_cons_self) hfirst,
        ih (fun other hother => hnormal other (List.mem_cons_of_mem _ hother)) hrest]

/-- Validating a dump again changes nothing. -/
theorem modelValidate_modelDump {libs : Libraries} (hlibs : LowersOnce libs)
    {policy policy' : RoutingPolicy} (hnormal : policy.IsNormal libs)
    (h : RoutingPolicy.modelValidate libs policy.modelDump = some policy') : policy' = policy := by
  rcases policy with ⟨privateDirect, cnDirect, final, rules⟩
  have hfinal : literal [.proxy, .direct] FinalAction.text (.str final.text) = some final := by
    cases final with
    | proxy => rfl
    | direct => rfl
  simp only [RoutingPolicy.modelDump, RoutingPolicy.modelValidate, Option.bind_eq_bind,
    Option.bind_eq_some_iff] at h
  rcases h with ⟨-, -, mode, -, private', hprivate, cn', hcn, final', hread, rules', hrules, h⟩
  cases h
  cases hprivate
  cases hcn
  have hsame : final' = final := by
    have htwice : some final' = some final := hread.symm.trans hfinal
    exact Option.some_inj.mp htwice
  have hitems : validateRules libs (.arr (rules.map RoutingRule.modelDump)) = some rules' := hrules
  simp only [validateRules, Option.bind_eq_bind, Option.bind_eq_some_iff] at hitems
  rcases hitems with ⟨-, -, hitems⟩
  rw [hsame, mapM_validateRule_modelDump hlibs hnormal hitems]

end Grouproxy.Backend
