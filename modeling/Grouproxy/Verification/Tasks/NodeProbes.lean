import Mathlib.Data.Fintype.Basic
import Grouproxy.Model.NodeProbes
import Grouproxy.Verification.Tasks.Terminal

/-! # Requested probes are pending

Requests, heartbeats, results and cancellations, interleaved at every operation. The task that a
request returns is the active probe, the task with its key or a new one. It is pending in the end
if it was when it was found and no copy that has ended is saved in its place.
-/

namespace Grouproxy.Tasks

open Programs Collections Backend

/-! ## Pending tasks -/

/-- A monitor will still execute the task. -/
def Task.IsPending (task : Task) : Prop :=
  task.active = true ∧ (task.status = .queued ∨ task.status = .running)

instance : DecidablePred Task.IsPending := fun _ => inferInstanceAs (Decidable (_ ∧ _))

def PendingAt (s : TaskStore) (id : String) : Prop :=
  ∃ stored, s.tasks.get? id = some stored ∧ stored.IsPending

/-- What an operation on the tasks does to them. -/
inductive TaskEffect : TaskLabel → TaskStore → TaskStore → Prop where
  | quiet {l : TaskLabel} {s s' : TaskStore} (htasks : s'.tasks = s.tasks) : TaskEffect l s s'
  | claim {l : TaskLabel} {task claimed : Task} {s s' : TaskStore} (hmem : task ∈ s.tasks)
      (hid : claimed.id = task.id) (hpending : claimed.IsPending)
      (htasks : s'.tasks = s.tasks.save claimed) : TaskEffect l s s'
  | save {writer : TaskWriter} {task : Task} {s s' : TaskStore}
      (htasks : s'.tasks = if s.refuses task then s.tasks else s.tasks.save task) :
      TaskEffect (.save writer task) s s'
  | insert {l : TaskLabel} {task : Task} {s s' : TaskStore}
      (hnew : ∀ other ∈ s.tasks, other.id ≠ task.id) (htasks : s'.tasks = s.tasks.save task) :
      TaskEffect l s s'

section Effects

variable {l : TaskLabel} {s s' : TaskStore} {task : Task} {id : String}

theorem PendingAt.congr (h : PendingAt s id) (htasks : s'.tasks = s.tasks) : PendingAt s' id := by
  rw [PendingAt, htasks]
  exact h

theorem PendingAt.save (h : PendingAt s id) (htasks : s'.tasks = s.tasks.save task)
    (htask : task.id = id → task.IsPending) : PendingAt s' id := by
  obtain ⟨stored, hstored, hpending⟩ := h
  by_cases hid : id = task.id
  · subst hid
    exact ⟨task, by rw [htasks]; exact Collection.get?_save_self s.tasks task, htask rfl⟩
  · exact ⟨stored, by rw [htasks, Collection.get?_save_of_ne s.tasks hid, hstored], hpending⟩

/-- A task stays pending unless a copy that has ended is saved in its place. -/
theorem PendingAt.effect (h : PendingAt s id) (heffect : TaskEffect l s s')
    (hsave : ∀ writer task, l = .save writer task → task.id = id → task.IsPending) :
    PendingAt s' id := by
  cases heffect with
  | quiet htasks => exact h.congr htasks
  | claim hmem hid hpending htasks => exact h.save htasks fun _ => hpending
  | @save writer task _ _ htasks =>
      split at htasks
      · exact h.congr htasks
      · exact h.save htasks (hsave writer task rfl)
  | insert hnew htasks =>
      have hpending := h
      obtain ⟨stored, hstored, -⟩ := hpending
      obtain ⟨hmem, hid⟩ := Collection.get?_eq_some.mp hstored
      exact h.save htasks fun hsame => absurd (hid.trans hsame.symm) (hnew stored hmem)

end Effects

/-! ## The operations of heartbeats, results and cancellations -/

section Operations

variable {α : Type}

/-- Every operation has one of these effects. -/
abbrev OnTasks (p : TaskHandler α) : Prop := p.Uses TaskEffect

theorem find_onTasks {β : Type} {label : TaskLabel} {query : TaskStore → α}
    {f : α → TaskHandler β} (hf : ∀ a, OnTasks (f a)) : OnTasks (find label query >>= f) :=
  .read_bind (fun _ => .quiet rfl) fun _ => hf _

theorem saveTask_onTasks (writer : TaskWriter) (task : Task) : OnTasks (saveTask writer task) :=
  .atomic fun s => .save (by split <;> rfl)

theorem insertTask_onTasks (task : Task) : OnTasks (insertTask task) := by
  refine .atomic fun s => ?_
  split
  · exact .quiet rfl
  · rename_i hfree
    refine .insert (fun other hother hid => hfree ?_) rfl
    exact List.any_eq_true.mpr ⟨other, hother, by simp [hid]⟩

theorem appendAudit_onTasks : OnTasks appendAudit := .atomic fun _ => .quiet rfl

theorem createTask_onTasks (draws : TaskDraws) (request : TaskRequest) :
    OnTasks (createTask draws request) := by
  refine find_onTasks fun existing => ?_
  cases existing with
  | some task => exact .done
  | none =>
      refine Prog.Uses.tryCatch (.bind (insertTask_onTasks _) fun _ => .done) fun e => ?_
      cases e with
      | duplicateKey =>
          refine find_onTasks fun existing => ?_
          cases existing with
          | some task => exact .done
          | none => exact .done
      | http | subscription | backup | timeout | nameError | other => exact .done

theorem failTask_onTasks (writer : TaskWriter) (now : Nat) (task : Task) (error : String)
    (retryable : Bool) : OnTasks (failTask writer now task error retryable) :=
  .bind (saveTask_onTasks _ _) fun _ => .done

theorem recoverTasks_onTasks (now failedAt : Nat) (expired : List Task) :
    OnTasks (recoverTasks now failedAt expired) := by
  induction expired with
  | nil => exact .done
  | cons task rest ih =>
      rw [recoverTasks]
      split
      · exact .bind (saveTask_onTasks _ _) fun _ => ih
      · exact .bind (.bind (saveTask_onTasks _ _) fun _ => .done) fun _ => ih

theorem claimTask_onTasks {due : Task → Bool} {claimed : Task → Task}
    (hid : ∀ task, (claimed task).id = task.id)
    (hpending : ∀ task, due task = true → (claimed task).IsPending) :
    OnTasks (claimTask due claimed) := by
  refine Prog.Uses.bind (.atomic fun s => ?_) fun id? => ?_
  · cases hfirst : firstTask? (s.tasks.filter due) with
    | none => exact .quiet rfl
    | some task =>
        obtain ⟨hmem, hdue⟩ := Collection.mem_filter.mp (mem_of_firstTask? hfirst)
        exact .claim hmem (hid task) (hpending task hdue) rfl
  · cases id? with
    | none => exact .done
    | some id => exact .atomic fun _ => .quiet rfl

theorem claimProbeTaskForNode_onTasks (nodeId : String) (lease : Lease) :
    OnTasks (claimProbeTaskForNode nodeId lease) :=
  claimTask_onTasks (fun _ => rfl) fun _ hdue =>
    ⟨(Task.isDue_iff.mp (Bool.and_eq_true_iff.mp hdue).2).2.1, .inr rfl⟩

theorem scheduleAutomaticProbe_onTasks (poll : ProbePoll) :
    OnTasks (scheduleAutomaticProbe poll) := by
  refine find_onTasks fun active => ?_
  cases active with
  | some task => exact .done
  | none =>
      refine Prog.Uses.tryCatch (.bind (createTask_onTasks _ _) fun _ => .done) fun e => ?_
      cases e with
      | duplicateKey => exact .done
      | http | subscription | backup | timeout | nameError | other => exact .done

theorem claimProbeRequests_onTasks (poll : ProbePoll) : OnTasks (claimProbeRequests poll) := by
  refine Prog.Uses.bind (find_onTasks fun _ => recoverTasks_onTasks _ _ _) fun _ => ?_
  split
  on_goal 1 => refine .bind (scheduleAutomaticProbe_onTasks poll) fun _ => ?_
  all_goals
    refine Prog.Uses.bind (claimProbeTaskForNode_onTasks _ _) fun claimed => ?_
    cases claimed with
    | none => exact .done
    | some task =>
        dsimp only
        split
        · exact .bind (failTask_onTasks _ _ _ _ _) fun _ => .done
        · exact .done

theorem finishProbeTask_onTasks (agentId taskId : String) (resultCount now : Nat) :
    OnTasks (finishProbeTask agentId taskId resultCount now) := by
  rw [finishProbeTask]
  split
  · exact .done
  · refine find_onTasks fun task => ?_
    cases task with
    | none => exact .done
    | some task =>
        dsimp only
        split
        · exact .bind (.bind (saveTask_onTasks _ _) fun _ => .done) fun _ => .done
        · exact .done

theorem cancelTask_onTasks (taskId : String) (now : Nat) : OnTasks (cancelTask taskId now) := by
  refine find_onTasks fun task => ?_
  cases task with
  | none => exact .done
  | some task =>
      exact .bind (saveTask_onTasks _ _) fun _ => .bind appendAudit_onTasks fun _ => .done

end Operations

/-! ## Requests -/

/-- The key of a request, and the task that it has found or created. -/
structure RequestNote where
  key : String
  found : Option Task

def probeNext : RequestNote → ProbeLabel → TaskStore → RequestNote
  | g, .findActive agentId, s => { g with found := s.activeProbe? agentId }
  | g, .create .other, s =>
    { g with found := s.tasks.find? fun task => task.idempotencyKey == g.key }
  | g, .create (.insert task), s =>
    { g with
      found := if s.tasks.any fun other => other.id == task.id || task.clashes other then none
        else some task }
  | g, _, _ => g

inductive ProbeStep : RequestNote → ProbeLabel → TaskStore → TaskStore → Prop where
  | findActive {g : RequestNote} {agentId : String} {s : TaskStore} :
      ProbeStep g (.findActive agentId) s s
  | findKey {g : RequestNote} {s : TaskStore} : ProbeStep g (.create .other) s s
  | insert {g : RequestNote} {task : Task} {s s' : TaskStore} (hpending : task.IsPending)
      (htasks : s'.tasks = if s.tasks.any fun other => other.id == task.id || task.clashes other
        then s.tasks else s.tasks.save task) : ProbeStep g (.create (.insert task)) s s'
  | task {g : RequestNote} {l : TaskLabel} {s s' : TaskStore} (heffect : TaskEffect l s s') :
      ProbeStep g (.task l) s s'

/-- The note that a request ends with names the task that it returns. -/
def Names (key : String) (g : RequestNote) (r : Except TaskError Task) : Prop :=
  g.key = key ∧ ∀ task, r = .ok task → g.found = some task

section Requests

variable {g : RequestNote} {key : String} {α β : Type}

/-- Whatever others do to the tasks between its operations, the request takes these steps. -/
abbrev TakesSteps (p : ProbeHandler α) (Q : RequestNote → Except TaskError α → Prop)
    (g : RequestNote) : Prop :=
  p.Follows probeNext (fun _ _ => True) ProbeStep Q g

/-- `create_task` returns the task with the key of the request, or the new one. -/
theorem createTask_names (draws : TaskDraws) (request : TaskRequest)
    (hkey : g.key = request.idempotencyKey) :
    (createTask draws request).Follows (fun g l => probeNext g (.create l)) (fun _ _ => True)
      (fun g l => ProbeStep g (.create l))
      (fun g r => g.key = request.idempotencyKey ∧ ∀ a, r = .ok a → g.found = some a.1) g := by
  have hfound : ∀ (g : RequestNote) (s : TaskStore) (existing : Task),
      g.key = request.idempotencyKey →
      (s.tasks.find? fun task => task.idempotencyKey == request.idempotencyKey) = some existing →
      (probeNext g (.create .other) s).found = some existing := by
    intro g s existing hkey hexisting
    rw [probeNext, hkey]
    exact hexisting
  refine Prog.Follows.read_bind (fun s _ => .findKey) fun s _ => ?_
  split
  · rename_i existing hexisting
    refine Prog.Follows.done ⟨hkey, fun a ha => ?_⟩
    cases ha
    exact hfound g s existing hkey hexisting
  · -- a new task is found where the indexes do not refuse it
    refine Prog.Follows.tryCatch
      (Q := fun g r => g.key = request.idempotencyKey ∧ ∀ a, r = .ok a → g.found = some a.1)
      (Prog.Follows.bind
        (Q := fun g r => g.key = request.idempotencyKey ∧
          (r = .ok () → g.found = some (request.task draws)))
        (.atomic (fun s _ => .insert ⟨rfl, .inl rfl⟩ ?_) fun s _ => ⟨hkey, ?_⟩)
        (fun g _ h => .done ⟨h.1, fun a ha => ?_⟩) fun g e h => ⟨h.1, fun a ha => nomatch ha⟩)
      (fun g a h => h) fun g e h => ?_
    · split
      · rfl
      · rfl
    · intro hok
      split at hok
      · cases hok
      · rename_i hfree
        exact if_neg hfree
    · cases ha
      exact h.2 rfl
    · cases e with
      | duplicateKey =>
          refine Prog.Follows.read_bind (fun s _ => .findKey) fun s _ => ?_
          split
          · rename_i existing hexisting
            refine Prog.Follows.done ⟨h.1, fun a ha => ?_⟩
            cases ha
            exact hfound g s existing h.1 hexisting
          · exact .done ⟨h.1, fun a ha => nomatch ha⟩
      | http | subscription | backup | timeout | nameError | other =>
          exact .done ⟨h.1, fun a ha => nomatch ha⟩

theorem createdProbe_names (call : ProbeCall) (agentId targetUrl : String)
    (hkey : g.key = call.key agentId targetUrl) :
    TakesSteps (createdProbe call agentId targetUrl) (Names (call.key agentId targetUrl)) g := by
  refine Prog.Follows.tryCatch (Q := Names (call.key agentId targetUrl))
    (Prog.Follows.bind (Prog.Follows.relabel (createTask_names call.draws
        (call.taskRequest agentId targetUrl) hkey))
      (fun g a h => .done ⟨h.1, fun task htask => ?_⟩) fun g e h => ⟨h.1, fun task ht => nomatch ht⟩)
    (fun g a h => h) fun g e h => ?_
  · cases htask
    exact h.2 a rfl
  · cases e with
    | duplicateKey =>
        refine Prog.Follows.read_bind (fun s _ => .findActive) fun s _ => ?_
        split
        · rename_i task htask
          refine Prog.Follows.done ⟨h.1, fun other hother => ?_⟩
          cases hother
          exact htask
        · exact .done ⟨h.1, fun task ht => nomatch ht⟩
    | http | subscription | backup | timeout | nameError | other =>
        exact .done ⟨h.1, fun task ht => nomatch ht⟩

theorem appendAudit_takesSteps {task : Task} (hfound : g.found = some task) (hkey : g.key = key) :
    TakesSteps (do
      appendAudit.relabel .task
      return task) (Names key) g := by
  refine Prog.Follows.bind (Q := fun g' _ => g' = g)
    (.atomic (fun s _ => .task (.quiet rfl)) fun s _ => rfl) (fun g' _ hg => ?_)
    fun g' e hg => ?_
  · subst hg
    refine Prog.Follows.done ⟨hkey, fun other hother => ?_⟩
    cases hother
    exact hfound
  · subst hg
    exact ⟨hkey, fun task ht => nomatch ht⟩

/-- The key of a call that passes its checks. -/
def ProbeCall.checkedKey (call : ProbeCall) : String :=
  match call.checked with
  | .error _ => ""
  | .ok (agentId, targetUrl) => call.key agentId targetUrl

theorem createNodeProbe_names (call : ProbeCall) (hkey : g.key = call.checkedKey) :
    TakesSteps (createNodeProbe call) (Names call.checkedKey) g := by
  rw [createNodeProbe]
  cases hchecked : call.checked with
  | error e => exact .done ⟨hkey, fun task ht => nomatch ht⟩
  | ok checked =>
      obtain ⟨agentId, targetUrl⟩ := checked
      have hsame : call.checkedKey = call.key agentId targetUrl := by
        rw [ProbeCall.checkedKey, hchecked]
      rw [hsame] at hkey ⊢
      refine Prog.Follows.read_bind (fun s _ => .findActive) fun s _ => ?_
      split
      · rename_i task htask
        exact appendAudit_takesSteps htask hkey
      · exact Prog.Follows.bind (createdProbe_names call agentId targetUrl hkey)
          (fun g task h => appendAudit_takesSteps (h.2 task rfl) h.1)
          fun g e h => ⟨h.1, fun task ht => nomatch ht⟩

end Requests

/-! ## Any number of requests, heartbeats, results and cancellations -/

/-- A request for a probe, a heartbeat, which reclaims and hands out probes, the results of a probe,
or a cancellation. -/
inductive ProbeParty where
  | request (call : ProbeCall)
  | heartbeat (poll : ProbePoll)
  | results (agentId taskId : String) (resultCount now : Nat)
  | cancel (taskId : String) (now : Nat)

/-- Only a request answers with a task. -/
def ProbeParty.program : ProbeParty → ProbeHandler (Option Task)
  | .request call => do
    let task ← createNodeProbe call
    return some task
  | .heartbeat poll => do
    let _ ← (claimProbeRequests poll).relabel .task
    return none
  | .results agentId taskId resultCount now => do
    (finishProbeTask agentId taskId resultCount now).relabel .task
    return none
  | .cancel taskId now => do
    let _ ← (cancelTask taskId now).relabel .task
    return none

def ProbeParty.note : ProbeParty → RequestNote
  | .request call => ⟨call.checkedKey, none⟩
  | _ => ⟨"", none⟩

variable {ι : Type} [DecidableEq ι]

abbrev ProbePool (ι : Type) := Pool ι ProbeLabel TaskStore TaskError (Option Task) RequestNote

def startProbes (parties : ι → ProbeParty) (s : TaskStore) : ProbePool ι where
  thread i := (parties i).program
  note i := (parties i).note
  store := s

/-- The tasks that a request finds are pending, and no copy that has ended is saved in the place of
a task that a request has found and not returned yet. -/
def ProbesPending (p : ProbePool ι) (i : ι) : Prop :=
  match (p.thread i).label? with
  | some (.findActive agentId) => ∀ task ∈ p.store.activeProbe? agentId, task.IsPending
  | some (.create .other) =>
    ∀ task ∈ p.store.tasks.find? fun task => task.idempotencyKey == (p.note i).key, task.IsPending
  | some (.task (.save _ task)) =>
    task.IsPending ∨ ∀ j, (p.thread j).Running → ∀ found ∈ (p.note j).found, found.id ≠ task.id
  | _ => True

instance [Fintype ι] (p : ProbePool ι) (i : ι) : Decidable (ProbesPending p i) := by
  rw [ProbesPending]
  split <;> infer_instance

/-- What a request has found is pending, as it was found and as it is stored. -/
def FoundPending (s : TaskStore) (g : RequestNote) : Prop :=
  ∀ found, g.found = some found → found.IsPending ∧ PendingAt s found.id

abbrev ReturnsFound (g : RequestNote) (r : Except TaskError (Option Task)) : Prop :=
  ∀ task, r = .ok (some task) → g.found = some task

theorem ProbeParty.program_takesSteps (party : ProbeParty) :
    TakesSteps party.program ReturnsFound party.note := by
  have hothers : ∀ {α : Type} {p : TaskHandler α} {g : RequestNote}, OnTasks p →
      TakesSteps (do
        let _ ← p.relabel .task
        return none) ReturnsFound g := by
    intro α p g hp
    refine Prog.Follows.bind (Q := fun _ _ => True)
      (Prog.Follows.relabel ((hp.follows fun l s s' heffect => ⟨.task heffect, rfl⟩).mono
        fun _ _ _ => trivial))
      (fun g a _ => .done fun task ht => nomatch ht) fun g e _ task ht => nomatch ht
  cases party with
  | request call =>
      refine Prog.Follows.bind (createNodeProbe_names call rfl)
        (fun g task h => .done fun other hother => ?_) fun g e h task ht => nomatch ht
      cases hother
      exact h.2 task rfl
  | heartbeat poll => exact hothers (claimProbeRequests_onTasks poll)
  | results agentId taskId resultCount now =>
      exact hothers (finishProbeTask_onTasks agentId taskId resultCount now)
  | cancel taskId now => exact hothers (cancelTask_onTasks taskId now)

section Step

variable {p : ProbePool ι} {i : ι} {l : ProbeLabel} {w : TaskStore → TaskStore}
  {n : TaskStore → ProbeHandler (Option Task)} {k : ProbeHandler (Option Task)}

theorem FoundPending.of_find {s : TaskStore} {g : RequestNote} {qualifies : Task → Bool}
    (hfound : g.found = s.tasks.find? qualifies)
    (hpending : ∀ task ∈ s.tasks.find? qualifies, task.IsPending) : FoundPending s g := by
  intro found hsome
  rw [hfound] at hsome
  have hmem := (Collection.mem_of_find? hsome).1
  exact ⟨hpending found hsome, found, Collection.get?_of_mem hmem, hpending found hsome⟩

omit [DecidableEq ι] in
/-- A step of any party keeps the tasks pending that requests have found. -/
theorem PendingAt.step {j : ι} {found : Task} (hthread : p.thread i = .op l w n k)
    (hallowed : ProbeStep (p.note i) l p.store (w p.store)) (hcond : ProbesPending p i)
    (hrunning : (p.thread j).Running) (hfound : (p.note j).found = some found)
    (h : PendingAt p.store found.id) : PendingAt (w p.store) found.id := by
  have hlabel : (p.thread i).label? = some l := by rw [hthread, Prog.label?]
  rw [ProbesPending, hlabel] at hcond
  generalize hs' : w p.store = s' at hallowed ⊢
  cases hallowed with
  | findActive => exact h
  | findKey => exact h
  | insert hpending htasks =>
      split at htasks
      · exact h.congr htasks
      · exact h.save htasks fun _ => hpending
  | task heffect =>
      refine h.effect heffect fun writer task hl hid => ?_
      subst hl
      exact hcond.resolve_right fun hfree => hfree j hrunning found hfound hid.symm

theorem foundPending_step (hthread : p.thread i = .op l w n k)
    (hallowed : ProbeStep (p.note i) l p.store (w p.store)) (hcond : ProbesPending p i)
    (hp : ∀ j, (p.thread j).Running → FoundPending p.store (p.note j)) {j : ι}
    (hj : j = i ∨ (p.thread j).Running) :
    FoundPending (p.step probeNext i).store ((p.step probeNext i).note j) := by
  have hrunning : (p.thread i).Running := by
    rw [hthread]
    trivial
  have hkept : ∀ j, (p.thread j).Running → FoundPending (w p.store) (p.note j) :=
    fun j hj found hfound => ⟨(hp j hj found hfound).1,
      PendingAt.step hthread hallowed hcond hj hfound (hp j hj found hfound).2⟩
  rw [Pool.step_store hthread]
  by_cases hji : j = i
  · subst hji
    have hlabel : (p.thread j).label? = some l := by rw [hthread, Prog.label?]
    have hkept := hkept j hrunning
    rw [Pool.step_note_self hthread]
    rw [ProbesPending, hlabel] at hcond
    generalize hs' : w p.store = s' at hallowed hkept ⊢
    cases hallowed with
    | findActive => exact .of_find rfl hcond
    | findKey => exact .of_find rfl hcond
    | @insert task _ _ hpending htasks =>
        intro found hfound
        rw [probeNext] at hfound
        split at hfound
        · cases hfound
        · rename_i hfree
          have hsame : task = found := Option.some.inj hfound
          rw [if_neg hfree] at htasks
          rw [← hsame]
          refine ⟨hpending, task, ?_, hpending⟩
          rw [htasks]
          exact Collection.get?_save_self p.store.tasks task
    | task heffect => exact hkept
  · rw [Pool.step_note_of_ne p hji]
    exact hkept j (hj.resolve_left hji)

end Step

/-- Any number of parties, interleaved at every operation: the task that a request returns is
pending at that moment, if every step finds and leaves the tasks of requests pending. -/
theorem returned_pending (parties : ι → ProbeParty) (s : TaskStore) (schedule : List ι) (i : ι)
    (task : Task)
    (hmeets : (startProbes parties s).Meets probeNext ProbesPending (schedule ++ [i]))
    (hrunning : (((startProbes parties s).run probeNext schedule).thread i).Running)
    (hreturns : ((startProbes parties s).run probeNext (schedule ++ [i])).thread i =
      .done (.ok (some task))) :
    task.IsPending ∧
      PendingAt ((startProbes parties s).run probeNext (schedule ++ [i])).store task.id := by
  obtain ⟨hbefore, hlast, -⟩ := Pool.meets_append.mp hmeets
  have hstart : ∀ j, ((startProbes parties s).thread j).Running →
      FoundPending s ((startProbes parties s).note j) := by
    intro j _ found hfound
    have hnone : ((parties j).note).found = none := by cases parties j <;> rfl
    exact nomatch hnone.symm.trans hfound
  obtain ⟨hp, hfollow⟩ := Pool.invariant_run probeNext (fun _ _ => True) ProbeStep ReturnsFound
    (fun p => ∀ j, (p.thread j).Running → FoundPending p.store (p.note j))
    (fun _ _ _ _ => trivial)
    (fun p i l w n k _ hthread hallowed hcond hp j hj =>
      foundPending_step hthread hallowed hcond hp (by
        by_cases hji : j = i
        · exact .inl hji
        · exact .inr (by rwa [Pool.step_thread_of_ne p hji] at hj)))
    (fun j => (parties j).program_takesSteps) hbefore hstart
  rw [Pool.run_append] at hreturns ⊢
  let p := (startProbes parties s).run probeNext schedule
  have hstep : p.run probeNext [i] = p.step probeNext i := rfl
  rw [hstep] at hreturns ⊢
  have hthread : ∃ l w n k, p.thread i = .op l w n k := by
    cases hthread : p.thread i with
    | done r =>
        rw [hthread] at hrunning
        exact hrunning.elim
    | op l w n k => exact ⟨l, w, n, k, rfl⟩
  obtain ⟨l, w, n, k, hthread⟩ := hthread
  have hi := hfollow i
  rw [hthread] at hi
  have hnamed := hfollow.step (i := i) trivial i
  rw [hreturns] at hnamed
  exact foundPending_step hthread (hi _ trivial).1 hlast hp (.inl rfl) task (hnamed task rfl)

/-! ### A probe that is requested twice -/

/-- A request of the node's default probe. -/
def sampleProbe (taskId : String) : ProbeCall where
  agentId := some "node"
  payload := ⟨none, []⟩
  defaultProbeUrl := "https://example.com/"
  probeMaxOutbounds := 3
  safeProbeTarget := .ok
  idempotencyKeyHeader := none
  actor := "admin"
  requestId := ""
  draws := ⟨taskId, taskId, 1⟩

def samplePoll : ProbePoll where
  agentId := "node"
  automatic := false
  slot := 0
  draws := ⟨"", "", 0⟩
  reclaimedAt := 2
  reclaimFailedAt := 2
  lease := ⟨"monitor:node", 60, 2⟩
  refused _ := none
  failedAt := 2

/-- The same probe is requested before and after the monitor has executed it. -/
def repeatedProbe : Fin 4 → ProbeParty
  | 0 => .request (sampleProbe "a")
  | 1 => .heartbeat samplePoll
  | 2 => .results "node" "a" 1 3
  | 3 => .request (sampleProbe "b")

def noTasks : TaskStore := ⟨⟨[], List.nodup_nil⟩, [], [], [], []⟩

def returnedTask? (p : ProbePool (Fin 4)) (i : Fin 4) : Option Task :=
  match p.thread i with
  | .done (.ok task) => task
  | _ => none

theorem thread_of_returnedTask? {p : ProbePool (Fin 4)} {i : Fin 4} {task : Task}
    (h : returnedTask? p i = some task) : p.thread i = .done (.ok (some task)) := by
  rw [returnedTask?] at h
  split at h
  · rename_i found hthread
    rw [hthread, h]
  · cases h

/-- The first request returns a task that the monitor will execute. -/
theorem returned_pending_repeatedProbe : ∃ task : Task, task.IsPending ∧
    PendingAt ((startProbes repeatedProbe noTasks).run probeNext ([0, 0, 0] ++ [0])).store
      task.id := by
  obtain ⟨task, htask⟩ : ∃ task, returnedTask?
      ((startProbes repeatedProbe noTasks).run probeNext ([0, 0, 0] ++ [0])) 0 = some task :=
    Option.isSome_iff_exists.mp (by decide +kernel)
  exact ⟨task, returned_pending repeatedProbe noTasks [0, 0, 0] 0 task (by decide +kernel)
    (by decide +kernel) (thread_of_returnedTask? htask)⟩

/-- The second request returns the task that has succeeded. -/
theorem not_returned_pending :
    ¬ ∀ (parties : Fin 4 → ProbeParty) (s : TaskStore) (schedule : List (Fin 4)) (i : Fin 4)
      (task : Task),
      (∀ j call, parties j = .request call → call.idempotencyKeyHeader = none) →
      (((startProbes parties s).run probeNext schedule).thread i).Running →
      ((startProbes parties s).run probeNext (schedule ++ [i])).thread i =
        .done (.ok (some task)) →
      task.IsPending ∧
        PendingAt ((startProbes parties s).run probeNext (schedule ++ [i])).store task.id := by
  intro h
  obtain ⟨task, htask, hended⟩ : ∃ task, returnedTask? ((startProbes repeatedProbe noTasks).run
      probeNext ([0, 0, 0, 0, 1, 1, 1, 2, 2, 3, 3] ++ [3])) 3 = some task ∧ ¬ task.IsPending := by
    have hsome : ((returnedTask? ((startProbes repeatedProbe noTasks).run
        probeNext ([0, 0, 0, 0, 1, 1, 1, 2, 2, 3, 3] ++ [3])) 3).any
        fun task => !decide task.IsPending) = true := by decide +kernel
    obtain ⟨task, htask, hended⟩ := (Option.any_eq_true _ _).mp hsome
    exact ⟨task, htask, by simpa using hended⟩
  have hheader : ∀ j call, repeatedProbe j = .request call → call.idempotencyKeyHeader = none := by
    intro j call hcall
    match j with
    | 0 => cases hcall; rfl
    | 1 => cases hcall
    | 2 => cases hcall
    | 3 => cases hcall; rfl
  exact hended (h repeatedProbe noTasks _ 3 task hheader (by decide +kernel)
    (thread_of_returnedTask? htask)).1

end Grouproxy.Tasks
