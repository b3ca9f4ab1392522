import Mathlib.Data.Fintype.Basic
import Grouproxy.Verification.Backend.DraftCalls

/-! # Idempotency keys

A call of `_create_release_from_draft` looks for the release of its key first and creates the
task that carries the key late. Calls with one key that do not overlap in between, and that can
build all their bundles once they built the first, create one release.
-/

namespace Grouproxy.Backend

open Encoding Crypto Programs

/-! ## Runs -/

variable {ι : Type}

abbrev DraftPool (ι : Type) := Pool ι Label Store Failure (ConfigRelease × Bool) DraftNote

def startDrafts (settings : Settings) (key : String) (calls : ι → DraftCall) (s : Store) :
    DraftPool ι :=
  { thread := fun i => (calls i).program settings key, note := fun i => ⟨calls i, .idle⟩
    store := s }

/-- What came to exist since the start: at most one release, desired bundles of one release, and
every call that returned has returned that release. -/
def OneRelease (s₀ : Store) (p : DraftPool ι) : Prop :=
  ∃ created added, p.store.releases = s₀.releases ++ created ∧
    p.store.desired = s₀.desired ++ added ∧ created.length ≤ 1 ∧
    (∀ d ∈ added, ∀ d' ∈ added, d.releaseId = d'.releaseId) ∧
    ∀ i answer, p.thread i = .done (.ok answer) → created = [answer.1]

def Phase.isCreating : Phase → Bool
  | .creating _ _ => true
  | _ => false

/-- The operation is the check of a call and finds no release. -/
def passesCheck (s : Store) : Label → Bool
  | .findTask key => (s.taskByKey? key).isNone
  | .findRelease taskId => (s.releaseByTask? taskId).isNone
  | _ => false

/-- A call that passed its check and has not inserted its release yet. -/
def Creates (p : DraftPool ι) (i : ι) : Prop :=
  (p.thread i).Running ∧ (p.note i).phase.isCreating = true

/-- A call passes its check only while no other call is creating a release. -/
def PassesAlone (p : DraftPool ι) (i : ι) : Prop :=
  (p.thread i).label?.any (passesCheck p.store) = true → ∀ j, j ≠ i → ¬ Creates p j

instance (p : DraftPool ι) (i : ι) : Decidable (Creates p i) :=
  inferInstanceAs (Decidable (_ ∧ _))

instance [DecidableEq ι] [Fintype ι] (p : DraftPool ι) (i : ι) : Decidable (PassesAlone p i) :=
  inferInstanceAs (Decidable (_ → ∀ j, j ≠ i → ¬ _))

/-- Nothing was added, and no call is creating a release. -/
structure Blank (s₀ : Store) (p : DraftPool ι) : Prop where
  surroundings : SameSurroundings s₀ p.store
  work : SameWork s₀ p.store
  running : ∀ i, (p.thread i).Running → (p.note i).phase = .idle
  unfound : ∀ i release, (p.note i).phase ≠ .found release

/-- One call is creating a release; the others have not looked yet, or found its task. -/
structure Opened (s₀ : Store) (key : String) (p : DraftPool ι) (i : ι) (inserted : List String)
    (tasked : Bool) : Prop where
  active : (p.thread i).Running
  phase : (p.note i).phase = .creating inserted tasked
  rely : draftRely s₀ key (p.note i) p.store
  generation : ∀ added, p.store.desired = s₀.desired ++ added →
    ∀ d ∈ added, d.releaseId = (p.note i).call.draws.releaseId
  running : ∀ j, j ≠ i → (p.thread j).Running → (p.note j).phase = .idle ∨
    tasked = true ∧ (p.note j).phase = .looking (p.note i).call.draws.taskId
  unfound : ∀ j release, (p.note j).phase ≠ .found release

/-- The release is there; the calls under way find it. -/
structure Closed (s₀ : Store) (key : String) (p : DraftPool ι) (release : ConfigRelease) : Prop where
  releases : p.store.releases = s₀.releases ++ [release]
  tasks : p.store.tasks = s₀.tasks ++ [⟨release.taskId, key, .queued⟩]
  generation : ∃ added, p.store.desired = s₀.desired ++ added ∧
    ∀ d ∈ added, d.releaseId = release.releaseId
  unused : ∀ other ∈ s₀.releases, other.taskId ≠ release.taskId
  running : ∀ i, (p.thread i).Running → (p.note i).phase = .idle ∨
    (p.note i).phase = .looking release.taskId ∨ (p.note i).phase = .found release
  found : ∀ i other, (p.note i).phase = .found other → other = release

/-- The stages of a run. -/
def Staged (s₀ : Store) (key : String) (p : DraftPool ι) : Prop :=
  Blank s₀ p ∨ (∃ i inserted tasked, Opened s₀ key p i inserted tasked) ∨
    ∃ release, Closed s₀ key p release

section Step

variable {s₀ : Store} {key : String} {p p' : DraftPool ι} {i : ι} {l : Label}

/-- A step of one call, from the outside. -/
structure DraftMove (key : String) (p p' : DraftPool ι) (i : ι) (l : Label) : Prop where
  label : (p.thread i).label? = some l
  running : (p.thread i).Running
  thread : ∀ j, j ≠ i → p'.thread j = p.thread j
  note : ∀ j, j ≠ i → p'.note j = p.note j
  self : p'.note i = draftNext (p.note i) l p.store
  allowed : draftAllowed key (p.note i) l p.store p'.store
  result : ∀ r, p'.thread i = .done r → draftResult (p'.note i) r

theorem SameSurroundings.trans {s s' s'' : Store} (h : SameSurroundings s s')
    (h' : SameSurroundings s' s'') : SameSurroundings s s'' :=
  ⟨h'.nodes.trans h.nodes, h'.bindings.trans h.bindings, h'.versions.trans h.versions⟩

theorem SameWork.trans {s s' s'' : Store} (h : SameWork s s') (h' : SameWork s' s'') :
    SameWork s s'' :=
  ⟨h'.desired.trans h.desired, h'.tasks.trans h.tasks, h'.releases.trans h.releases⟩

/-- A handler that is not running is done. -/
theorem done_of_not_running {α : Type} {q : Handler α} (h : ¬ q.Running) : ∃ r, q = .done r := by
  cases q with
  | done r => exact ⟨r, rfl⟩
  | op l w n k => exact absurd trivial h

/-- An idle call looks for the task of its key. -/
theorem DraftMove.of_idle (h : DraftMove key p p' i l) (hidle : (p.note i).phase = .idle) :
    l = .findTask key ∧ SameSurroundings p.store p'.store ∧ SameWork p.store p'.store := by
  have hallowed := h.allowed
  unfold draftAllowed at hallowed
  rw [hidle] at hallowed
  cases l with
  | findTask key' =>
      rcases hallowed with ⟨hsame, hkey, hwork⟩
      exact ⟨by rw [hkey], hsame, hwork⟩
  | _ => exact absurd hallowed.2 id

/-- A call that found a task looks for its release. -/
theorem DraftMove.of_looking (h : DraftMove key p p' i l) {taskId : String}
    (hlooking : (p.note i).phase = .looking taskId) :
    l = .findRelease taskId ∧ SameSurroundings p.store p'.store ∧ SameWork p.store p'.store := by
  have hallowed := h.allowed
  unfold draftAllowed at hallowed
  rw [hlooking] at hallowed
  cases l with
  | findRelease taskId' =>
      rcases hallowed with ⟨hsame, htask, hwork⟩
      exact ⟨by rw [htask], hsame, hwork⟩
  | _ => exact absurd hallowed.2 id

theorem DraftMove.phase (h : DraftMove key p p' i l) :
    (p'.note i).phase = phaseNext (p.note i).phase l p.store := by
  rw [h.self]
  rfl

/-- What a call that is creating a release may do: add a bundle, its task or its release, or
nothing. -/
theorem DraftMove.of_creating (h : DraftMove key p p' i l) {inserted : List String}
    {tasked : Bool} (hcreating : (p.note i).phase = .creating inserted tasked) :
    SameSurroundings p.store p'.store ∧
    ((∃ d : DesiredRelease, d.releaseId = (p.note i).call.draws.releaseId ∧
        (p'.note i).phase = .creating (inserted ++ [d.nodeId]) tasked ∧
        p'.store.releases = p.store.releases ∧ p'.store.tasks = p.store.tasks ∧
        p'.store.desired = p.store.desired ++ [d]) ∨
      (tasked = false ∧ (p'.note i).phase = .creating inserted true ∧
        p'.store.releases = p.store.releases ∧ p'.store.desired = p.store.desired ∧
        p'.store.tasks = p.store.tasks ++ [(p.note i).call.task key]) ∨
      (∃ release : ConfigRelease, tasked = true ∧
        release.taskId = (p.note i).call.draws.taskId ∧
        release.releaseId = (p.note i).call.draws.releaseId ∧
        (p'.note i).phase = .found release ∧ p'.store.desired = p.store.desired ∧
        p'.store.tasks = p.store.tasks ∧ p'.store.releases = p.store.releases ++ [release]) ∨
      ((p'.note i).phase = .creating inserted tasked ∧ SameWork p.store p'.store)) := by
  have hallowed := h.allowed
  have hphase := h.phase
  unfold draftAllowed at hallowed
  rw [hcreating] at hallowed hphase
  refine ⟨hallowed.1, ?_⟩
  cases l with
  | insertRelease release =>
      rcases hallowed.2 with ⟨htasked, htask, hrelease, hrest⟩
      exact .inr (.inr (.inl ⟨release, htasked, htask, hrelease, hphase, hrest⟩))
  | task taskKey op =>
      cases op with
      | insert =>
          rcases hallowed.2 with ⟨htasked, hrest⟩
          exact .inr (.inl ⟨htasked, hphase, hrest⟩)
      | find => exact .inr (.inr (.inr ⟨hphase, hallowed.2⟩))
      | findAgain => exact .inr (.inr (.inr ⟨hphase, hallowed.2⟩))
  | desired siteId op =>
      cases op with
      | previous => exact .inr (.inr (.inr ⟨hphase, hallowed.2⟩))
      | setRevision => exact .inr (.inr (.inr ⟨hphase, hallowed.2⟩))
      | node agentId op =>
          cases op with
          | insert =>
              rcases hallowed.2 with ⟨hreleases, htasks, d, rfl, hrelease, hdesired⟩
              exact .inl ⟨d, hrelease, hphase, hreleases, htasks, hdesired⟩
          | _ => exact .inr (.inr (.inr ⟨hphase, hallowed.2⟩))
  | _ => exact .inr (.inr (.inr ⟨hphase, hallowed.2⟩))

theorem DraftMove.of_found (h : DraftMove key p p' i l) {release : ConfigRelease}
    (hfound : (p.note i).phase = .found release) :
    (p'.note i).phase = .found release ∧ SameWork p.store p'.store := by
  have hallowed := h.allowed
  have hphase := h.phase
  unfold draftAllowed at hallowed
  rw [hfound] at hallowed hphase
  exact ⟨hphase, hallowed.2⟩

theorem DraftMove.call (h : DraftMove key p p' i l) (j : ι) : (p'.note j).call = (p.note j).call := by
  by_cases hj : j = i
  · rw [hj, h.self]
    rfl
  · rw [h.note j hj]

/-- The first call that looks finds nothing. -/
theorem Blank.step (hp : Blank s₀ p) (hkey : s₀.taskByKey? key = none)
    (h : DraftMove key p p' i l) : Staged s₀ key p' := by
  have hidle := hp.running i h.running
  rcases h.of_idle hidle with ⟨rfl, hsame, hwork⟩
  have hnone : p.store.taskByKey? key = none := by
    rw [Store.taskByKey?, hp.work.tasks]
    exact hkey
  have hphase : (p'.note i).phase = .creating [] false := by
    rw [h.phase, hidle]
    simp only [phaseNext, hnone]
  have hsame' := hp.surroundings.trans hsame
  have hwork' := hp.work.trans hwork
  have hothers : ∀ j, j ≠ i → (p'.thread j).Running → (p'.note j).phase = .idle := by
    intro j hj hrunning
    rw [h.thread j hj] at hrunning
    rw [h.note j hj]
    exact hp.running j hrunning
  have hunfound : ∀ j release, (p'.note j).phase ≠ .found release := by
    intro j release hfound
    by_cases hj : j = i
    · rw [hj, hphase] at hfound
      cases hfound
    · rw [h.note j hj] at hfound
      exact hp.unfound j release hfound
  by_cases hrunning : (p'.thread i).Running
  · refine .inr (.inl ⟨i, [], false, hrunning, hphase, ?_, ?_, ?_, hunfound⟩)
    · rw [draftRely, hphase]
      exact ⟨hsame', hwork'.releases, by simpa using hwork'.tasks, [], by simpa using hwork'.desired,
        rfl⟩
    · intro added hadded d hd
      rw [hwork'.desired, List.self_eq_append_right] at hadded
      rw [hadded] at hd
      cases hd
    · exact fun j hj hrunning => .inl (hothers j hj hrunning)
  · refine .inl ⟨hsame', hwork', fun j hrunning' => ?_, hunfound⟩
    by_cases hj : j = i
    · rw [hj] at hrunning'
      exact absurd hrunning' hrunning
    · exact hothers j hj hrunning'

/-- A call that has added something does not end before it has its release. -/
theorem DraftMove.running_or_blank (h : DraftMove key p p' i l) {inserted : List String}
    {tasked : Bool} (hphase : (p'.note i).phase = .creating inserted tasked) :
    (p'.thread i).Running ∨ ¬ (p'.thread i).Running ∧ inserted = [] ∧ tasked = false := by
  by_cases hrunning : (p'.thread i).Running
  · exact .inl hrunning
  · rcases done_of_not_running hrunning with ⟨r, hr⟩
    have hresult := h.result r hr
    cases r with
    | error e =>
        rw [draftResult, hphase] at hresult
        cases hresult
        exact .inr ⟨hrunning, rfl, rfl⟩
    | ok answer =>
        rw [draftResult, hphase] at hresult
        cases hresult

section Opened

variable {inserted inserted' : List String} {tasked tasked' : Bool}

/-- The other calls are where they were. -/
theorem Opened.others (hp : Opened s₀ key p i inserted tasked) (h : DraftMove key p p' i l)
    {j : ι} (hj : j ≠ i) (hrunning : (p'.thread j).Running) : (p'.note j).phase = .idle ∨
      tasked = true ∧ (p'.note j).phase = .looking (p.note i).call.draws.taskId := by
  rw [h.thread j hj] at hrunning
  rw [h.note j hj]
  exact hp.running j hj hrunning

theorem Opened.unfound_of_phase (hp : Opened s₀ key p i inserted tasked) (h : DraftMove key p p' i l)
    (hphase : (p'.note i).phase = .creating inserted' tasked') (j : ι) (release : ConfigRelease) :
    (p'.note j).phase ≠ .found release := by
  intro hfound
  by_cases hj : j = i
  · rw [hj, hphase] at hfound
    cases hfound
  · rw [h.note j hj] at hfound
    exact hp.unfound j release hfound

/-- The call goes on, with what it relies on. -/
theorem Opened.keep (hp : Opened s₀ key p i inserted tasked) (h : DraftMove key p p' i l)
    (hphase : (p'.note i).phase = .creating inserted' tasked')
    (htasked : tasked = true → tasked' = true) (hrunning : (p'.thread i).Running)
    (hrely : draftRely s₀ key (p'.note i) p'.store)
    (hgeneration : ∀ added, p'.store.desired = s₀.desired ++ added →
      ∀ d ∈ added, d.releaseId = (p.note i).call.draws.releaseId) :
    Opened s₀ key p' i inserted' tasked' := by
  refine ⟨hrunning, hphase, hrely, ?_, ?_, hp.unfound_of_phase h hphase⟩
  · rw [h.call i]
    exact hgeneration
  · intro j hj hrunning'
    rw [h.call i]
    rcases hp.others h hj hrunning' with hidle | ⟨hlooks, hlooking⟩
    · exact .inl hidle
    · exact .inr ⟨htasked hlooks, hlooking⟩

/-- A step of the call that is creating the release. -/
theorem Opened.step_self (hp : Opened s₀ key p i inserted tasked) (h : DraftMove key p p' i l)
    (hfresh : (p.note i).call.Fresh s₀) : Staged s₀ key p' := by
  have hrely := hp.rely
  rw [draftRely, hp.phase] at hrely
  rcases hrely with ⟨hsame₀, hreleases₀, htasks₀, added, hdesired₀, hadded⟩
  have hgeneration := hp.generation added hdesired₀
  rcases h.of_creating hp.phase with ⟨hsame, hinsert | htask | hrelease | hquiet⟩
  · rcases hinsert with ⟨d, hd, hphase, hreleases, htasks, hdesired⟩
    rw [hdesired₀, List.append_assoc] at hdesired
    refine .inr (.inl ⟨i, _, _, hp.keep h hphase id ?_ ?_ ?_⟩)
    · rcases h.running_or_blank hphase with hrunning | ⟨-, hempty, -⟩
      · exact hrunning
      · exact absurd hempty (by simp)
    · rw [draftRely, hphase]
      refine ⟨hsame₀.trans hsame, hreleases.trans hreleases₀, ?_, _, hdesired, by simp [hadded]⟩
      rw [htasks, htasks₀, h.call i]
    · intro added' hadded' d' hd'
      rw [hdesired] at hadded'
      rw [← List.append_cancel_left hadded', List.mem_append, List.mem_singleton] at hd'
      rcases hd' with hd' | hd'
      · exact hgeneration d' hd'
      · rw [hd', hd]
  · rcases htask with ⟨htasked, hphase, hreleases, hdesired, htasks⟩
    refine .inr (.inl ⟨i, _, _, hp.keep h hphase (fun _ => rfl) ?_ ?_ ?_⟩)
    · rcases h.running_or_blank hphase with hrunning | ⟨-, -, hfalse⟩
      · exact hrunning
      · cases hfalse
    · rw [draftRely, hphase]
      refine ⟨hsame₀.trans hsame, hreleases.trans hreleases₀, ?_, added, hdesired.trans hdesired₀,
        hadded⟩
      rw [htasks, htasks₀, h.call i, htasked]
      simp
    · intro added' hadded'
      rw [hdesired] at hadded'
      exact hp.generation added' hadded'
  · rcases hrelease with ⟨release, htasked, htask, hid, hphase, hdesired, htasks, hreleases⟩
    refine .inr (.inr ⟨release, ?_, ?_, ⟨added, hdesired.trans hdesired₀, ?_⟩, ?_, ?_, ?_⟩)
    · rw [hreleases, hreleases₀]
    · rw [htasks, htasks₀, htasked, htask]
      rfl
    · rw [hid]
      exact hgeneration
    · rw [htask]
      exact hfresh.releaseTask
    · intro j hrunning
      by_cases hj : j = i
      · rw [hj]
        exact .inr (.inr hphase)
      · rw [htask]
        rcases hp.others h hj hrunning with hidle | ⟨-, hlooking⟩
        · exact .inl hidle
        · exact .inr (.inl hlooking)
    · intro j other hfound
      by_cases hj : j = i
      · rw [hj, hphase] at hfound
        cases hfound
        rfl
      · rw [h.note j hj] at hfound
        exact absurd hfound (hp.unfound j other)
  · rcases hquiet with ⟨hphase, hwork⟩
    rcases h.running_or_blank hphase with hrunning | ⟨hended, rfl, rfl⟩
    · refine .inr (.inl ⟨i, _, _, hp.keep h hphase id hrunning ?_ ?_⟩)
      · rw [draftRely, hphase]
        refine ⟨hsame₀.trans hsame, hwork.releases.trans hreleases₀, ?_, added,
          hwork.desired.trans hdesired₀, hadded⟩
        rw [hwork.tasks, htasks₀, h.call i]
      · intro added' hadded'
        rw [hwork.desired] at hadded'
        exact hp.generation added' hadded'
    · -- The call raised before it added anything.
      rw [List.map_eq_nil_iff.mp hadded, List.append_nil] at hdesired₀
      refine .inl ⟨hsame₀.trans hsame, ⟨hwork.desired.trans hdesired₀, ?_,
        hwork.releases.trans hreleases₀⟩, ?_, hp.unfound_of_phase h hphase⟩
      · rw [hwork.tasks, htasks₀]
        simp
      · intro j hrunning
        by_cases hj : j = i
        · rw [hj] at hrunning
          exact absurd hrunning hended
        · rcases hp.others h hj hrunning with hidle | ⟨hfalse, -⟩
          · exact hidle
          · cases hfalse

/-- A step of another call: it can only find the task, or it would pass its check. -/
theorem Opened.step_other {k : ι} (hp : Opened s₀ key p k inserted tasked)
    (h : DraftMove key p p' i l) (hi : i ≠ k) (hfresh : (p.note k).call.Fresh s₀)
    (hkey : s₀.taskByKey? key = none) (hcond : PassesAlone p i) : Opened s₀ key p' k inserted tasked := by
  have hrely := hp.rely
  rw [draftRely, hp.phase] at hrely
  rcases hrely with ⟨hsame₀, hreleases₀, htasks₀, added, hdesired₀, hadded⟩
  have hblocked : passesCheck p.store l = false := by
    by_contra hpasses
    refine hcond ?_ k hi.symm ⟨hp.active, ?_⟩
    · rw [h.label]
      simpa using hpasses
    · rw [hp.phase]
      rfl
  -- The call was idle and has found the task of the creating call.
  have hmoved : SameSurroundings p.store p'.store ∧ SameWork p.store p'.store ∧
      tasked = true ∧ (p'.note i).phase = .looking (p.note k).call.draws.taskId := by
    have hphase := h.phase
    rcases hp.running i hi h.running with hidle | ⟨-, hlooking⟩
    · rcases h.of_idle hidle with ⟨rfl, hsame, hwork⟩
      have htaskByKey : p.store.taskByKey? key =
          if tasked then some ((p.note k).call.task key) else none := by
        rw [Store.taskByKey?, htasks₀, List.find?_append, ← Store.taskByKey?, hkey]
        cases tasked with
        | false => rfl
        | true => simp [DraftCall.task]
      rw [passesCheck, htaskByKey] at hblocked
      rw [hidle, phaseNext, htaskByKey] at hphase
      cases tasked with
      | false => cases hblocked
      | true => exact ⟨hsame, hwork, rfl, hphase⟩
    · rcases h.of_looking hlooking with ⟨rfl, -⟩
      have hnone : p.store.releaseByTask? (p.note k).call.draws.taskId = none := by
        rw [Store.releaseByTask?, hreleases₀, List.find?_eq_none]
        intro release hrelease
        simpa using hfresh.releaseTask release hrelease
      rw [passesCheck, hnone] at hblocked
      cases hblocked
  rcases hmoved with ⟨hsame, hwork, htasked, hphase⟩
  refine ⟨?_, ?_, ?_, ?_, ?_, ?_⟩
  · rw [h.thread k hi.symm]
    exact hp.active
  · rw [h.note k hi.symm]
    exact hp.phase
  · rw [h.note k hi.symm, draftRely, hp.phase]
    refine ⟨hsame₀.trans hsame, hwork.releases.trans hreleases₀, hwork.tasks.trans htasks₀, added,
      hwork.desired.trans hdesired₀, hadded⟩
  · intro added' hadded'
    rw [hwork.desired] at hadded'
    rw [h.note k hi.symm]
    exact hp.generation added' hadded'
  · intro j hj hrunning
    rw [h.note k hi.symm]
    by_cases hji : j = i
    · rw [hji]
      exact .inr ⟨htasked, hphase⟩
    · rw [h.thread j hji] at hrunning
      rw [h.note j hji]
      exact hp.running j hj hrunning
  · intro j release hfound
    by_cases hji : j = i
    · rw [hji, hphase] at hfound
      cases hfound
    · rw [h.note j hji] at hfound
      exact hp.unfound j release hfound

end Opened

/-- Once the release is there, every call finds it. -/
theorem Closed.step {release : ConfigRelease} (hp : Closed s₀ key p release)
    (h : DraftMove key p p' i l) (hkey : s₀.taskByKey? key = none) : Closed s₀ key p' release := by
  have hmoved : SameWork p.store p'.store ∧ ((p'.note i).phase = .looking release.taskId ∨
      (p'.note i).phase = .found release) := by
    have hphase := h.phase
    rcases hp.running i h.running with hidle | hlooking | hfound
    · rcases h.of_idle hidle with ⟨rfl, -, hwork⟩
      have htask : p.store.taskByKey? key = some ⟨release.taskId, key, .queued⟩ := by
        rw [Store.taskByKey?, hp.tasks, List.find?_append, ← Store.taskByKey?, hkey]
        simp
      rw [hidle, phaseNext, htask] at hphase
      exact ⟨hwork, .inl hphase⟩
    · rcases h.of_looking hlooking with ⟨rfl, -, hwork⟩
      have hrelease : p.store.releaseByTask? release.taskId = some release := by
        have hnone : s₀.releases.find? (fun other => other.taskId == release.taskId) = none := by
          rw [List.find?_eq_none]
          intro other hother
          simpa using hp.unused other hother
        rw [Store.releaseByTask?, hp.releases, List.find?_append, hnone]
        simp
      rw [hlooking, phaseNext, hrelease] at hphase
      exact ⟨hwork, .inr hphase⟩
    · have hstays := h.of_found hfound
      exact ⟨hstays.2, .inr hstays.1⟩
  rcases hmoved with ⟨hwork, hphase⟩
  refine ⟨hwork.releases.trans hp.releases, hwork.tasks.trans hp.tasks, ?_, hp.unused, ?_, ?_⟩
  · rw [hwork.desired]
    exact hp.generation
  · intro j hrunning
    by_cases hj : j = i
    · rw [hj]
      exact .inr hphase
    · rw [h.thread j hj] at hrunning
      rw [h.note j hj]
      exact hp.running j hrunning
  · intro j other hfound
    by_cases hj : j = i
    · rw [hj] at hfound
      rcases hphase with hlooking | hown
      · rw [hlooking] at hfound
        cases hfound
      · rw [hown] at hfound
        cases hfound
        rfl
    · rw [h.note j hj] at hfound
      exact hp.found j other hfound

end Step

/-- The invariant of a run: the identifiers of the calls are new to the store at the start, and
the run is at one of its stages. -/
structure Drafted (s₀ : Store) (key : String) (p : DraftPool ι) : Prop where
  fresh : ∀ i, (p.note i).call.Fresh s₀
  staged : Staged s₀ key p

theorem Drafted.rely {s₀ : Store} {key : String} {p : DraftPool ι} {i : ι} (hp : Drafted s₀ key p)
    (hrunning : (p.thread i).Running) : draftRely s₀ key (p.note i) p.store := by
  rcases hp.staged with hblank | ⟨k, inserted, tasked, hopened⟩ | ⟨release, hclosed⟩
  · rw [draftRely, hblank.running i hrunning]
    trivial
  · by_cases hi : i = k
    · rw [hi]
      exact hopened.rely
    · rcases hopened.running i hi hrunning with hidle | ⟨-, hlooking⟩
      · rw [draftRely, hidle]
        trivial
      · rw [draftRely, hlooking]
        trivial
  · rcases hclosed.running i hrunning with hidle | hlooking | hfound
    · rw [draftRely, hidle]
      trivial
    · rw [draftRely, hlooking]
      trivial
    · rw [draftRely, hfound]
      trivial

theorem Drafted.step {s₀ : Store} {key : String} {p p' : DraftPool ι} {i : ι} {l : Label}
    (hp : Drafted s₀ key p) (h : DraftMove key p p' i l) (hkey : s₀.taskByKey? key = none)
    (hcond : PassesAlone p i) : Drafted s₀ key p' := by
  refine ⟨fun j => ?_, ?_⟩
  · rw [h.call j]
    exact hp.fresh j
  · rcases hp.staged with hblank | ⟨k, inserted, tasked, hopened⟩ | ⟨release, hclosed⟩
    · exact hblank.step hkey h
    · by_cases hi : i = k
      · subst hi
        exact hopened.step_self h (hp.fresh i)
      · exact .inr (.inl ⟨k, inserted, tasked, hopened.step_other h hi (hp.fresh k) hkey hcond⟩)
    · exact .inr (.inr ⟨release, hclosed.step h hkey⟩)

/-- At every stage at most one release exists. -/
theorem Drafted.oneRelease {s₀ : Store} {key : String} {p : DraftPool ι} (hp : Drafted s₀ key p)
    (hresult : ∀ i answer, p.thread i = .done (.ok answer) → (p.note i).phase = .found answer.1) :
    OneRelease s₀ p := by
  rcases hp.staged with hblank | ⟨k, inserted, tasked, hopened⟩ | ⟨release, hclosed⟩
  · refine ⟨[], [], by simpa using hblank.work.releases, by simpa using hblank.work.desired,
      Nat.zero_le 1, by simp, fun i answer hdone => ?_⟩
    exact absurd (hresult i answer hdone) (hblank.unfound i answer.1)
  · have hrely := hopened.rely
    rw [draftRely, hopened.phase] at hrely
    rcases hrely with ⟨-, hreleases, -, added, hdesired, -⟩
    refine ⟨[], added, by simpa using hreleases, hdesired, Nat.zero_le 1, fun d hd d' hd' => ?_,
      fun i answer hdone => ?_⟩
    · have hgeneration := hopened.generation added hdesired
      rw [hgeneration d hd, hgeneration d' hd']
    · exact absurd (hresult i answer hdone) (hopened.unfound i answer.1)
  · rcases hclosed.generation with ⟨added, hdesired, hgeneration⟩
    refine ⟨[release], added, hclosed.releases, hdesired, Nat.le_refl 1, fun d hd d' hd' => ?_,
      fun i answer hdone => ?_⟩
    · rw [hgeneration d hd, hgeneration d' hd']
    · rw [hclosed.found i answer.1 (hresult i answer hdone)]

/-- Any number of calls with one key, interleaved at every operation: as long as the checks are
passed alone, at most one release and one generation of bundles come to exist. -/
theorem oneRelease_run [DecidableEq ι] (settings : Settings) (key : String)
    (calls : ι → DraftCall) (s₀ : Store) (hagents : s₀.DistinctAgents)
    (hkey : s₀.taskByKey? key = none) (hready : ∀ i, (calls i).Ready settings s₀)
    (schedule : List ι)
    (hmeets : (startDrafts settings key calls s₀).Meets draftNext PassesAlone schedule) :
    OneRelease s₀ ((startDrafts settings key calls s₀).run draftNext schedule) := by
  have hstart : Drafted s₀ key (startDrafts settings key calls s₀) := by
    refine ⟨fun i => (hready i).fresh, .inl ⟨.refl s₀, .refl s₀, fun i _ => rfl, ?_⟩⟩
    intro i release hfound
    cases hfound
  have hrun := Pool.invariant_run draftNext (draftRely s₀ key) (draftAllowed key) draftResult
    (Drafted s₀ key) (fun p i hp hrunning => hp.rely hrunning)
    (fun p i l w n k hfollow hthread hallowed hcond hp => by
      refine hp.step (i := i) (l := l) ⟨?_, ?_, ?_, ?_, ?_, ?_, ?_⟩ hkey hcond
      · rw [hthread]
        rfl
      · rw [hthread]
        trivial
      · exact fun j hj => p.step_thread_of_ne hj
      · exact fun j hj => p.step_note_of_ne hj
      · exact Pool.step_note_self hthread
      · rw [Pool.step_store hthread]
        exact hallowed
      · intro r hr
        have hi := hfollow i
        rw [hr] at hi
        exact hi)
    (fun i => DraftCall.program_part (hready i) hagents hkey) hmeets hstart
  refine hrun.1.oneRelease fun i answer hdone => ?_
  have hi := hrun.2 i
  rw [hdone] at hi
  exact hi

/-- A request and its retry. -/
def twoDrafts : Bool → DraftCall
  | false => ⟨sampleDraws "a", sampleDraft "a", sampleSite, [], none⟩
  | true => ⟨sampleDraws "b", sampleDraft "b", sampleSite, [], none⟩

theorem twoDrafts_ready (i : Bool) : (twoDrafts i).Ready sampleSettings sampleStore := by
  refine ⟨⟨by simp [sampleStore, Store.empty], by simp [sampleStore, Store.empty],
    by simp [sampleStore, Store.empty]⟩, ?_⟩
  intro first rest hnodes _ node hnode
  have hlength : ∀ i, ((twoDrafts i).nodes sampleStore).length = 1 := by decide
  have hone := hlength i
  rw [hnodes] at hone
  rw [List.eq_nil_of_length_eq_zero (Nat.succ_injective hone)] at hnode
  cases hnode

/-- The retry runs after the request, and finds its release. -/
theorem oneRelease_run_serial :
    ((startDrafts sampleSettings "key" twoDrafts sampleStore).run draftNext
        (List.replicate 30 false ++ List.replicate 30 true)).store.releases.map
      ConfigRelease.releaseId = ["release-a"] ∧
    OneRelease sampleStore ((startDrafts sampleSettings "key" twoDrafts sampleStore).run draftNext
      (List.replicate 30 false ++ List.replicate 30 true)) := by
  refine ⟨by decide +kernel, oneRelease_run _ _ _ _ ?_ rfl twoDrafts_ready _ (by decide +kernel)⟩
  exact List.nodup_singleton _

/-- The retry passes its check while the request is still building its bundles: two releases
come to exist under one key. -/
theorem twoDrafts_two_releases :
    ¬ OneRelease sampleStore ((startDrafts sampleSettings "key" twoDrafts sampleStore).run draftNext
      (List.replicate 3 false ++ List.replicate 30 true ++ List.replicate 30 false)) := by
  rintro ⟨created, added, hreleases, -, hone, -⟩
  have htwo : ((startDrafts sampleSettings "key" twoDrafts sampleStore).run draftNext
      (List.replicate 3 false ++ List.replicate 30 true ++
        List.replicate 30 false)).store.releases.length = 2 := by
    decide +kernel
  rw [hreleases, List.length_append] at htwo
  have hnone : sampleStore.releases.length = 0 := rfl
  omega

end Grouproxy.Backend
