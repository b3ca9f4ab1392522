import Grouproxy.Model.AgentApi

/-! # What the handlers touch

The operations of the shared parts of the handlers, by their names and by the collections they
may write.
-/

namespace Grouproxy.Backend

open Encoding Crypto Programs

variable {P : Label → Store → Store → Prop}

theorem find_uses {α : Type} {label : Label} {query : Store → α} (h : ∀ s, P label s s) :
    (find label query).Uses P := .atomic h

theorem update_uses {label : Label} {write : Store → Store} (h : ∀ s, P label s (write s)) :
    (update label write).Uses P := .atomic h

theorem insert_uses {label : Label} {taken : Store → Bool} {write : Store → Store}
    (hrefused : ∀ s, taken s = true → P label s s)
    (hdone : ∀ s, taken s = false → P label s (write s)) :
    (insert label taken write).Uses P := by
  refine .atomic fun s => ?_
  cases htaken : taken s with
  | true => simpa [htaken] using hrefused s htaken
  | false => simpa [htaken] using hdone s htaken

theorem reject_uses {condition : Prop} [Decidable condition] {failure : Failure} :
    (reject condition failure).Uses P := by
  rw [reject]
  split
  · exact .throw _
  · exact .pure _

theorem done_uses {α : Type} {result : Except Failure α} :
    (Prog.done result : Handler α).Uses P := trivial

/-! ## Desired bundles -/

/-- An operation of `create_desired_release`: it writes revisions and desired bundles only. -/
def DesiredStep (siteId : String) (label : Label) (s s' : Store) : Prop :=
  (∃ op, label = .desired siteId op) ∧ s' = { s with sites := s'.sites, desired := s'.desired }

theorem desiredStep_refl (siteId : String) (op : DesiredOp) (s : Store) :
    DesiredStep siteId (.desired siteId op) s s := ⟨⟨op, rfl⟩, rfl⟩

section Bundles

variable {settings : Settings} {draws : Draws} {site : Site} {node : Node}
  {proxySelection routingPolicy : Json} {name : NodeOp → Label}

theorem selectedSubscriptionBundle_uses {siteId : String}
    (h : ∀ op s, op ≠ .insert → P (name op) s s) :
    (selectedSubscriptionBundle settings name siteId).Uses P := by
  refine .bind (find_uses fun s => h _ s (by decide)) fun binding => ?_
  cases binding with
  | none => exact .pure _
  | some binding =>
      refine .bind (find_uses fun s => h _ s (by decide)) fun version => ?_
      cases version with
      | none => exact .throw _
      | some version =>
          refine .bind reject_uses fun _ => ?_
          cases String.fromUTF8? version.content with
          | none => exact .throw _
          | some content => exact .pure _

theorem selectedSubscriptionTags_uses {libs : Libraries} {siteId : String}
    (h : ∀ op s, op ≠ .insert → P (name op) s s) : (selectedSubscriptionTags libs name siteId).Uses P := by
  refine .bind (find_uses fun s => h _ s (by decide)) fun binding => ?_
  cases binding with
  | none => exact .pure _
  | some binding =>
      refine .bind (find_uses fun s => h _ s (by decide)) fun version => ?_
      cases version with
      | none => exact .pure _
      | some version => exact .pure _

/-- Building a bundle only reads. -/
theorem buildSignedBundle_uses {desiredVersion : Nat}
    (h : ∀ op s, op ≠ .insert → P (name op) s s) :
    (buildSignedBundle settings name site node desiredVersion draws proxySelection
      routingPolicy).Uses P := by
  refine .bind (find_uses fun s => h _ s (by decide)) fun blacklist => ?_
  refine .bind (find_uses fun s => h _ s (by decide)) fun sets => ?_
  refine .bind (find_uses fun s => h _ s (by decide)) fun accessControl => ?_
  refine .bind (selectedSubscriptionBundle_uses h) fun subscription => ?_
  refine .bind ?_ fun outboundTags => ?_
  · rw [tagsWith]
    split
    · exact selectedSubscriptionTags_uses h
    · exact .pure _
  · exact .bind done_uses fun bundle => .pure _

theorem createForNodes_uses {desiredVersion : Nat} {previous : Option DesiredRelease}
    {nodes : List Node} (hfind : ∀ op s, P (.desired site.id op) s s)
    (hinsert : ∀ op s d, P (.desired site.id op) s { s with desired := s.desired ++ [d] }) :
    (createForNodes settings draws site desiredVersion previous proxySelection routingPolicy
      nodes).Uses P := by
  induction nodes with
  | nil => exact .pure _
  | cons node rest ih =>
      refine .bind (find_uses fun s => hfind _ s) fun nodePrevious => ?_
      refine .bind done_uses fun selection => ?_
      refine .bind (buildSignedBundle_uses fun op s _ => hfind _ s) fun bundle => ?_
      refine .bind (update_uses fun s => hinsert _ s _) fun _ => ?_
      exact .bind ih fun items => .pure _

/-- A release reads, writes a revision into the document of its site, and adds bundles. -/
theorem createDesiredRelease_uses {nodes : List Node}
    (hfind : ∀ op s, P (.desired site.id op) s s)
    (hinsert : ∀ op s d, P (.desired site.id op) s { s with desired := s.desired ++ [d] })
    (hset : ∀ op s revision, P (.desired site.id op) s { s with
      sites := s.sites.map fun other =>
        if other.id = site.id then { other with configRevision := revision } else other }) :
    (createDesiredRelease settings draws site nodes proxySelection routingPolicy).Uses P := by
  refine .bind (find_uses fun s => hfind _ s) fun previous => ?_
  refine .bind (.atomic fun s => hset _ s _) fun refreshed => ?_
  exact .bind (createForNodes_uses hfind hinsert) fun items => .pure _

theorem createDesiredRelease_desiredStep {nodes : List Node} :
    (createDesiredRelease settings draws site nodes proxySelection routingPolicy).Uses
      (DesiredStep site.id) :=
  createDesiredRelease_uses (desiredStep_refl _) (fun op _ _ => ⟨⟨op, rfl⟩, rfl⟩)
    fun op _ _ => ⟨⟨op, rfl⟩, rfl⟩

end Bundles

/-! ## Tasks -/

/-- An operation of `create_task`: it may add a task with the key. -/
def TaskStep (key : String) (label : Label) (s s' : Store) : Prop :=
  (∃ op, label = .task key op) ∧ (s' = s ∨ ∃ task : Task, task.idempotencyKey = key ∧
    s.taskByKey? key = none ∧ s' = { s with tasks := s.tasks ++ [task] })

theorem createTask_uses {draws : Draws} {key : String} :
    (createTask draws key).Uses (TaskStep key) := by
  refine .bind (find_uses fun s => ⟨⟨_, rfl⟩, .inl rfl⟩) fun existing => ?_
  cases existing with
  | some existing => exact .pure _
  | none =>
      refine .tryCatch (.bind (insert_uses ?_ ?_) fun _ => .pure _) fun e => ?_
      · exact fun s _ => ⟨⟨_, rfl⟩, .inl rfl⟩
      · intro s hfree
        refine ⟨⟨_, rfl⟩, .inr ⟨_, rfl, ?_, rfl⟩⟩
        rw [Store.taskByKey?, List.find?_eq_none]
        intro task htask
        have hother := List.any_eq_false.mp hfree task htask
        simp only [Bool.or_eq_true, not_or] at hother
        exact hother.1
      · cases e with
        | duplicateKey =>
            refine .bind (find_uses fun s => ⟨⟨_, rfl⟩, .inl rfl⟩) fun existing => ?_
            cases existing with
            | some existing => exact .pure _
            | none => exact .throw _
        | http status detail => exact .throw _
        | valueError message => exact .throw _
        | python name => exact .throw _
        | operation => exact .throw _


/-! ## A small installation -/

def sampleSettings : Settings :=
  { libs :=
      { lower := id, idna := some, jsonLoads := fun _ => none, yamlLoad := fun _ => none
        reprOf := fun _ => "", validationReport := fun _ => "invalid" }
    hashes := ⟨fun _ => [], fun _ _ => []⟩
    bundleHmacSecret := "secret", subscriptionInlineMaxBytes := 128000
    backendPublicUrl := "http://127.0.0.1:8000" }

def sampleSite : Site :=
  { id := "site-north", name := "North", shutdown := false, configRevision := 0
    routingPolicy := none, routingRevision := 0 }

def sampleNode : Node :=
  { id := "node-1", siteId := "site-north", agentId := "north-a", monitorVersion := "0.8.0" }

theorem nodup_sampleNode : (agentIds [sampleNode]).Nodup := by decide

/-- The identity of a second node. -/
theorem northB_ne : "north-b" ≠ "" := by decide

def sampleStore : Store := { Store.empty with sites := [sampleSite], nodes := [sampleNode] }

/-- The surroundings of one release, told apart by a tag. -/
def sampleDraws (tag : String) : Draws :=
  { releaseId := "release-" ++ tag, taskId := "task-" ++ tag, draftId := "draft-" ++ tag
    token := "token-" ++ tag, draftedAt := 0, checkedAt := 1, issuedAt := fun _ => "issued-" ++ tag
    expiresAt := fun _ => "expires-" ++ tag }

def sampleDraft (tag : String) : ConfigDraft :=
  newDraft (sampleDraws tag) sampleSite [sampleNode] []

/-- A subscription with the outbounds edge-a and edge-b, as its text reads. -/
def sampleSubscription : Json :=
  .arr [.obj [("type", .str "http"), ("tag", .str "edge-a")],
    .obj [("type", .str "http"), ("tag", .str "edge-b")]]

def sampleSubscriptionText : String :=
  "[\x7b\"type\":\"http\",\"tag\":\"edge-a\"\x7d,\x7b\"type\":\"http\",\"tag\":\"edge-b\"\x7d]"

def subscribedSettings : Settings :=
  { sampleSettings with
    libs := { sampleSettings.libs with
      jsonLoads := fun text =>
        if text = sampleSubscriptionText then some sampleSubscription else none } }

def sampleVersion (id : String) : SubscriptionVersion :=
  { id := id, sourceId := "source", version := 1, contentHash := "hash-" ++ id, sizeBytes := 63
    format := "sing-box", content := sampleSubscriptionText.toUTF8, parseOk := true, nodeCount := 2
    published := true }

/-- The site has selected the subscription. -/
def subscribedStore : Store :=
  { sampleStore with
    versions := [sampleVersion "version-1"], bindings := [⟨"site-north", "version-1", none, "source"⟩] }

end Grouproxy.Backend
