import Grouproxy.Library.FirstMatch
import Grouproxy.Library.Steps
import Grouproxy.Model.RoutingImport
import Grouproxy.Verification.Backend.Frames
import Grouproxy.Verification.Backend.RoutingPolicy

/-! # An import preserves decisions

The first rule that matches a destination decides. The rules of a sing-box document and those
they are converted to decide every destination alike.
-/

namespace Grouproxy.Backend

open Text Netip Ipaddress Encoding Cidr Steps FirstMatch

/-! ## Destinations -/

/-- What a connection is made to: a host name, an address, or both. -/
structure Destination where
  name : Option String
  address : Option Addr

/-- The form in which a host name is compared. A name that the normalization refuses is
compared as it stands. -/
def normalName (libs : Libraries) (name : String) : String :=
  (normalizePattern libs .domain name).getD name

def labels (name : String) : List (List Char) := name.toList.splitOn '.'

/-- A rule of the policy has one pattern, already in normal form. -/
def RoutingRule.hits (libs : Libraries) (destination : Destination) (rule : RoutingRule) : Bool :=
  match rule.kind with
  | .domain => destination.name.any fun name => normalName libs name == rule.pattern
  | .domainSuffix => destination.name.any fun name =>
      normalName libs name == rule.pattern ||
        ('.' :: rule.pattern.toList).isSuffixOf (normalName libs name).toList
  | .ipCidr => (ipNetwork rule.pattern).any fun network => destination.address.any network.contains

def decision (libs : Libraries) (rules : List RoutingRule) (destination : Destination) :
    Option RuleAction :=
  firstMatch (RoutingRule.hits libs destination) RoutingRule.action rules

/-! ## Source rules -/

/-- A rule of a sing-box document: patterns that are alternatives, and what it does. -/
structure SourceRule where
  patterns : List (RuleKind × String)
  action : RuleAction

/-- A suffix matches the names whose last labels are its labels. -/
def sourcePatternHits (libs : Libraries) (destination : Destination) :
    RuleKind × String → Bool
  | (.domain, pattern) => (normalizePattern libs .domain pattern).any fun domain =>
      destination.name.any fun name => normalName libs name == domain
  | (.domainSuffix, pattern) => (normalizePattern libs .domainSuffix pattern).any fun suffix =>
      destination.name.any fun name => (labels suffix).isSuffixOf (labels (normalName libs name))
  | (.ipCidr, pattern) => (ipNetwork (lower libs (strip pattern))).any fun network =>
      destination.address.any network.contains

def SourceRule.hits (libs : Libraries) (destination : Destination) (rule : SourceRule) : Bool :=
  rule.patterns.any (sourcePatternHits libs destination)

def sourceDecision (libs : Libraries) (rules : List SourceRule) (destination : Destination) :
    Option RuleAction :=
  firstMatch (SourceRule.hits libs destination) SourceRule.action rules

def Document.text? : Document → Option String
  | .str s => some s
  | _ => none

/-- The patterns that a rule lists under a field: one text or several. -/
def listedPatterns (rule : List (String × Document)) (kind : RuleKind) : Option (List String) :=
  match Document.get? rule kind.text with
  | none => some []
  | some (.str pattern) => some [pattern]
  | some (.arr patterns) => patterns.mapM Document.text?
  | some _ => none

def sourceAction (rule : List (String × Document)) : Option RuleAction :=
  match (Document.get? rule "action").getD (.str "route") with
  | .str "route" =>
    match Document.get? rule "outbound" with
    | some (.str outbound) => (outboundActions.lookup outbound).map FinalAction.toRuleAction
    | _ => none
  | .str "reject" => some .reject
  | _ => none

def SourceRule.read : Document → Option SourceRule
  | .obj rule => do
    let domains ← listedPatterns rule .domain
    let suffixes ← listedPatterns rule .domainSuffix
    let networks ← listedPatterns rule .ipCidr
    let action ← sourceAction rule
    return ⟨domains.map (.domain, ·) ++ suffixes.map (.domainSuffix, ·) ++
      networks.map (.ipCidr, ·), action⟩
  | _ => none

/-- The rules of a document: of its route, of the document as a route, or the document itself. -/
def sourceRules (document : Document) : Option (List SourceRule) :=
  match rulesOf (routeOf document) with
  | some (.arr rules) => rules.mapM SourceRule.read
  | _ => none

/-! ## Leading dots -/

/-! ## One pattern -/

/-- A rule made from a pattern matches what the pattern matches. -/
theorem hits_of_newRule {libs : Libraries} {kind : RuleKind} {pattern : String}
    {action : RuleAction} {rule : RoutingRule} (h : newRule libs kind pattern action = some rule)
    (destination : Destination) :
    rule.hits libs destination = sourcePatternHits libs destination (kind, pattern) ∧
      rule.action = action := by
  simp only [newRule, Option.bind_eq_bind, Option.bind_eq_some_iff] at h
  obtain ⟨-, -, normal, hnormal, h⟩ := h
  cases h
  refine ⟨?_, rfl⟩
  cases kind with
  | domain => simp only [sourcePatternHits, hnormal, RoutingRule.hits, Option.any_some]
  | domainSuffix =>
      have hlabels : ∀ name : String, (labels normal).isSuffixOf (labels name) =
          (name == normal || ('.' :: normal.toList).isSuffixOf name.toList) := by
        intro name
        rw [Bool.eq_iff_iff, List.isSuffixOf_iff_suffix, labels, labels, splitOn_isSuffix_iff]
        simp [String.toList_inj]
      simp only [sourcePatternHits, hnormal, RoutingRule.hits, Option.any_some, hlabels]
  | ipCidr =>
      simp only [normalizePattern] at hnormal
      obtain ⟨network, hnetwork, rfl⟩ := Option.map_eq_some_iff.mp hnormal
      simp only [sourcePatternHits, hnetwork, RoutingRule.hits,
        ipNetwork_networkText (isPrinted_of_ipNetwork hnetwork)]

/-! ## Loops -/

/-- The rules that the patterns of one field became. -/
def Converted (libs : Libraries) (kind : RuleKind) (action : RuleAction) (patterns : List String)
    (run : List RoutingRule) : Prop :=
  List.Forall₂ (fun pattern rule => newRule libs kind pattern action = some rule) patterns run

theorem convertPattern_ok {libs : Libraries} {action : RuleAction} {location : String}
    {kind : RuleKind} {state state' : Conversion} {value : Document}
    (h : convertPattern libs action location kind state value = .ok state') :
    ∃ pattern rule, value = .str pattern ∧ newRule libs kind pattern action = some rule ∧
      state'.converted = state.converted ++ [rule] := by
  cases value with
  | str pattern =>
      rw [convertPattern] at h
      split at h
      · cases h
      · rename_i rule hrule
        split at h
        · cases h
        · cases h
          exact ⟨pattern, rule, rfl, hrule, rfl⟩
  | _ => cases h

/-- The run of rules that one element of a list of patterns becomes. -/
def ConvertedItem (libs : Libraries) (kind : RuleKind) (action : RuleAction) (value : Document)
    (run : List RoutingRule) : Prop :=
  ∃ pattern rule, value = .str pattern ∧ newRule libs kind pattern action = some rule ∧
    run = [rule]

theorem converted_of_items {libs : Libraries} {kind : RuleKind} {action : RuleAction}
    {values : List Document} {runs : List (List RoutingRule)}
    (h : List.Forall₂ (ConvertedItem libs kind action) values runs) :
    ∃ patterns, values.mapM Document.text? = some patterns ∧
      Converted libs kind action patterns runs.flatten := by
  induction h with
  | nil => exact ⟨[], rfl, .nil⟩
  | cons hitem _ ih =>
      obtain ⟨pattern, rule, rfl, hrule, rfl⟩ := hitem
      obtain ⟨patterns, hread, hrest⟩ := ih
      refine ⟨pattern :: patterns, ?_, .cons hrule hrest⟩
      rw [List.mapM_cons, hread]
      rfl

theorem convertField_ok {libs : Libraries} {action : RuleAction} {location : String}
    {rule : List (String × Document)} {state state' : Conversion} {kind : RuleKind}
    (h : convertField libs action location rule state kind = .ok state') :
    ∃ patterns run, listedPatterns rule kind = some patterns ∧
      state'.converted = state.converted ++ run ∧ Converted libs kind action patterns run := by
  rw [convertField] at h
  rw [listedPatterns]
  cases hfield : Document.get? rule kind.text with
  | none =>
      rw [hfield] at h
      cases h
      exact ⟨[], [], rfl, by simp, .nil⟩
  | some value =>
      rw [hfield] at h
      cases value with
      | str pattern =>
          obtain ⟨_, made, hvalue, hmade, hstate⟩ := convertPattern_ok h
          cases hvalue
          exact ⟨[pattern], [made], rfl, hstate, .cons hmade .nil⟩
      | arr values =>
          cases values with
          | nil => cases h
          | cons first rest =>
              have hstep : ∀ s x s', convertPattern libs action location kind s x = .ok s' →
                  ∃ run, s'.converted = s.converted ++ run ∧
                    ConvertedItem libs kind action x run := by
                intro s x s' hs
                obtain ⟨pattern, made, hvalue, hmade, hs'⟩ := convertPattern_ok hs
                exact ⟨[made], hs', pattern, made, hvalue, hmade, rfl⟩
              obtain ⟨runs, hruns, hitems⟩ := foldlM_appends hstep h
              obtain ⟨patterns, hread, hconverted⟩ := converted_of_items hitems
              exact ⟨patterns, runs.flatten, hread, hruns, hconverted⟩
      | _ => cases h

theorem outboundAction_ok {value : Option Document} {location : String} {action : FinalAction}
    (h : outboundAction value location = .ok action) :
    ∃ outbound, value = some (.str outbound) ∧ outboundActions.lookup outbound = some action := by
  cases value with
  | none => cases h
  | some value =>
      cases value with
      | str outbound =>
          rw [outboundAction] at h
          split at h
          · rename_i found hfound
            cases h
            exact ⟨outbound, rfl, hfound⟩
          · cases h
      | _ => cases h

theorem eq_of_isText {text : String} {value : Document} (h : value.isText text = true) :
    value = .str text := by
  cases value with
  | str s =>
      rw [Document.isText, beq_iff_eq] at h
      rw [h]
  | _ => cases h

theorem targetAction_ok {rule : List (String × Document)} {location : String} {action : RuleAction}
    (h : targetAction rule location = .ok action) : sourceAction rule = some action := by
  rw [targetAction] at h
  rw [sourceAction]
  split at h
  · rename_i hroute
    rw [eq_of_isText hroute]
    cases hread : outboundAction (Document.get? rule "outbound") location with
    | error e =>
        rw [hread] at h
        cases h
    | ok final =>
        rw [hread] at h
        cases h
        obtain ⟨outbound, hvalue, hlookup⟩ := outboundAction_ok hread
        simp only [hvalue, hlookup, Option.map_some]
  · split at h
    · rename_i hreject
      rw [Bool.and_eq_true] at hreject
      cases h
      rw [eq_of_isText hreject.1]
      rfl
    · cases h

/-- A run of rules decides as the source rule it comes from. -/
abbrev Decides (libs : Libraries) (destination : Destination) (source : SourceRule)
    (run : List RoutingRule) : Prop :=
  IsExpansion (RoutingRule.hits libs destination) RoutingRule.action
    (SourceRule.hits libs destination) SourceRule.action source run

theorem Converted.any {libs : Libraries} {kind : RuleKind} {action : RuleAction}
    {patterns : List String} {run : List RoutingRule} (h : Converted libs kind action patterns run)
    (destination : Destination) :
    run.any (RoutingRule.hits libs destination) =
        (patterns.map (kind, ·)).any (sourcePatternHits libs destination) ∧
      ∀ rule ∈ run, rule.action = action := by
  induction h with
  | nil => exact ⟨rfl, fun rule hrule => absurd hrule List.not_mem_nil⟩
  | cons hrule _ ih =>
      obtain ⟨hhits, haction⟩ := hits_of_newRule hrule destination
      rw [List.map_cons, List.any_cons, List.any_cons, hhits, ih.1]
      exact ⟨rfl, List.forall_mem_cons.mpr ⟨haction, ih.2⟩⟩

theorem convertRule_ok {libs : Libraries} {location : String}
    {converted converted' : List RoutingRule} {rule : Document}
    (h : convertRule libs location converted rule = .ok converted') :
    ∃ run, converted' = converted ++ run ∧ ∃ source, SourceRule.read rule = some source ∧
      ∀ destination, Decides libs destination source run := by
  cases rule with
  | obj rule =>
      rw [convertRule] at h
      split at h
      · cases h
      split at h
      · cases h
      obtain ⟨action, haction, h⟩ := bind_eq_ok h
      obtain ⟨state, hstate, h⟩ := bind_eq_ok h
      split at h
      · cases h
      cases h
      -- The three fields in their fixed order.
      rw [matchFields] at hstate
      obtain ⟨first, hdomains, hstate⟩ := bind_eq_ok hstate
      obtain ⟨second, hsuffixes, hstate⟩ := bind_eq_ok hstate
      obtain ⟨third, hnetworks, hstate⟩ := bind_eq_ok hstate
      cases hstate
      obtain ⟨domains, run₁, hread₁, hrun₁, hdomains⟩ := convertField_ok hdomains
      obtain ⟨suffixes, run₂, hread₂, hrun₂, hsuffixes⟩ := convertField_ok hsuffixes
      obtain ⟨networks, run₃, hread₃, hrun₃, hnetworks⟩ := convertField_ok hnetworks
      refine ⟨run₁ ++ run₂ ++ run₃, ?_, ⟨domains.map (.domain, ·) ++
        suffixes.map (.domainSuffix, ·) ++ networks.map (.ipCidr, ·), action⟩, ?_, ?_⟩
      · rw [hrun₃, hrun₂, hrun₁]
        simp only [List.append_assoc]
      · simp only [SourceRule.read, hread₁, hread₂, hread₃, targetAction_ok haction]
        rfl
      · intro destination
        obtain ⟨hany₁, hact₁⟩ := hdomains.any destination
        obtain ⟨hany₂, hact₂⟩ := hsuffixes.any destination
        obtain ⟨hany₃, hact₃⟩ := hnetworks.any destination
        constructor
        · rw [List.any_append, List.any_append, hany₁, hany₂, hany₃, SourceRule.hits,
            List.any_append, List.any_append]
        · intro made hmade
          rw [List.mem_append, List.mem_append] at hmade
          rcases hmade with (hmade | hmade) | hmade
          · exact hact₁ made hmade
          · exact hact₂ made hmade
          · exact hact₃ made hmade
  | _ => cases h

/-! ## Documents -/

/-- The run of rules that one rule of a document becomes. -/
def ConvertedRule (libs : Libraries) (rule : Document × Nat) (run : List RoutingRule) : Prop :=
  ∃ source, SourceRule.read rule.1 = some source ∧
    ∀ destination, Decides libs destination source run

theorem sources_of_runs {libs : Libraries} {rules : List (Document × Nat)}
    {runs : List (List RoutingRule)} (h : List.Forall₂ (ConvertedRule libs) rules runs) :
    ∃ sources, (rules.map Prod.fst).mapM SourceRule.read = some sources ∧
      ∀ destination, List.Forall₂ (Decides libs destination) sources runs := by
  induction h with
  | nil => exact ⟨[], rfl, fun _ => .nil⟩
  | cons hrule _ ih =>
      obtain ⟨source, hread, hdecides⟩ := hrule
      obtain ⟨sources, hsources, hrest⟩ := ih
      refine ⟨source :: sources, ?_, fun destination =>
        .cons (hdecides destination) (hrest destination)⟩
      rw [List.map_cons, List.mapM_cons, hread, hsources]
      rfl

theorem convertRules_ok {libs : Libraries} {rules : List Document} {converted : List RoutingRule}
    (h : convertRules libs rules = .ok converted) :
    ∃ sources, rules.mapM SourceRule.read = some sources ∧ ∀ destination,
      decision libs converted destination = sourceDecision libs sources destination := by
  have hstep : ∀ (s : List RoutingRule) (x : Document × Nat) (s' : List RoutingRule),
      convertRule libs ("rules[" ++ toString x.2 ++ "]") s x.1 = .ok s' →
        ∃ run, id s' = id s ++ run ∧ ConvertedRule libs x run :=
    fun s x s' hs => convertRule_ok hs
  obtain ⟨runs, hruns, hrules⟩ := foldlM_appends hstep h
  obtain ⟨sources, hsources, hdecides⟩ := sources_of_runs hrules
  rw [List.zipIdx_map_fst] at hsources
  have hconverted : converted = runs.flatten := hruns
  refine ⟨sources, hsources, fun destination => ?_⟩
  rw [hconverted]
  exact firstMatch_flatten (hdecides destination)

/-- What `final` of a document makes of the policy's. -/
def FinalOf (document : Document) (old new : FinalAction) : Prop :=
  match finalOf (routeOf document) with
  | none => new = old
  | some value => ∃ outbound, value = .str outbound ∧ outboundActions.lookup outbound = some new

/-- An import decides every destination as the document does, after the rules of the policy
when it appends. -/
theorem importSingboxRouting_preserves (libs : Libraries) (loads : String → Option Document)
    (payload : RoutingImport) (out : RoutingImportOut)
    (h : importSingboxRouting libs loads payload = .ok out) :
    ∃ document sources, loads (trimBoms payload.content) = some document ∧
      sourceRules document = some sources ∧
      (∀ destination, decision libs out.policy.rules destination =
        match payload.mode with
        | .replace => sourceDecision libs sources destination
        | .append => (decision libs payload.policy.rules destination).or
            (sourceDecision libs sources destination)) ∧
      FinalOf document payload.policy.final out.policy.final := by
  rw [importSingboxRouting] at h
  split at h
  · cases h
  split at h
  · cases h
  rename_i document hdocument
  split at h
  · cases h
  dsimp only at h
  split at h
  · rename_i rules hrules
    split at h
    · cases h
    obtain ⟨converted, hconverted, h⟩ := bind_eq_ok h
    split at h
    · cases h
    obtain ⟨final, hfinal, h⟩ := bind_eq_ok h
    cases h
    obtain ⟨sources, hsources, hdecision⟩ := convertRules_ok hconverted
    refine ⟨document, sources, hdocument, ?_, fun destination => ?_, ?_⟩
    · rw [sourceRules, hrules]
      exact hsources
    · rw [← hdecision destination]
      cases hmode : payload.mode with
      | append =>
          simp only [RoutingImport.updatedRules, hmode]
          exact firstMatch_append payload.policy.rules converted
      | replace => simp only [RoutingImport.updatedRules, hmode]
    · rw [FinalOf]
      rw [RoutingImport.updatedFinal] at hfinal
      split at hfinal
      · rename_i value hvalue
        rw [hvalue]
        obtain ⟨outbound, hsome, hlookup⟩ := outboundAction_ok hfinal
        cases hsome
        exact ⟨outbound, rfl, hlookup⟩
      · rename_i hnone
        cases hfinal
        rw [hnone]
  · cases h

/-- A document with one rule of two fields, one pattern with a leading dot. -/
def sampleDocument : Document :=
  .obj [("rules", .arr [.obj [("domain_suffix", .arr [.str ".Example.com"]),
    ("ip_cidr", .str "10.1.2.3/8"), ("outbound", .str "subscription")]]), ("final", .str "direct")]

def sampleImport : RoutingImport :=
  { content := "\x7b\"rules\":[\x7b\"domain_suffix\":[\".Example.com\"],\"ip_cidr\":\"10.1.2.3/8\"," ++
      "\"outbound\":\"subscription\"\x7d],\"final\":\"direct\"\x7d"
    mode := .append
    policy := ⟨true, true, .proxy, [⟨.domain, "existing.example", .reject⟩]⟩
    content_length := by
      rw [String.toList_append, String.toList_ofList, String.toList_ofList]
      decide }

def sampleLoads (text : String) : Option Document :=
  if text = sampleImport.content then some sampleDocument else none

def sampleImportOut : RoutingImportOut :=
  { policy := ⟨true, true, .direct, [⟨.domain, "existing.example", .reject⟩,
      ⟨.domainSuffix, "example.com", .proxy⟩, ⟨.ipCidr, "10.0.0.0/8", .proxy⟩]⟩
    sourceRules := 1
    importedRules := 2 }

theorem trimBoms_of_head {text : String} (h : text.toList.head? ≠ some '\uFEFF') :
    trimBoms text = text := by
  have hself : text.toList.dropWhile (· == '\uFEFF') = text.toList := by
    cases hchars : text.toList with
    | nil => rfl
    | cons c chars =>
        apply List.dropWhile_cons_of_neg
        simpa [hchars] using h
  rw [trimBoms, hself, String.ofList_toList]

theorem importSingboxRouting_sampleImport :
    importSingboxRouting sampleSettings.libs sampleLoads sampleImport = .ok sampleImportOut := by
  have hfits : ¬ maxImportBytes < sampleImport.content.utf8ByteSize := by decide +kernel
  have hcontent : trimBoms sampleImport.content = sampleImport.content := by
    apply trimBoms_of_head
    have hchars : sampleImport.content.toList = _ ++ _ :=
      String.toList_append.trans (congrArg₂ _ String.toList_ofList String.toList_ofList)
    rw [hchars]
    decide
  rw [importSingboxRouting, if_neg hfits, hcontent, sampleLoads, if_pos rfl]
  decide +kernel

theorem importSingboxRouting_preserves_sample :
    ∃ sources, sourceRules sampleDocument = some sources ∧ ∀ destination,
      decision sampleSettings.libs sampleImportOut.policy.rules destination =
        (decision sampleSettings.libs sampleImport.policy.rules destination).or
          (sourceDecision sampleSettings.libs sources destination) := by
  obtain ⟨document, sources, hloads, hsources, hdecision, -⟩ :=
    importSingboxRouting_preserves sampleSettings.libs sampleLoads sampleImport sampleImportOut
      importSingboxRouting_sampleImport
  have hdocument : document = sampleDocument := by
    rw [sampleLoads] at hloads
    split at hloads
    · exact (Option.some.inj hloads).symm
    · cases hloads
  exact ⟨sources, hdocument ▸ hsources, hdecision⟩

end Grouproxy.Backend
