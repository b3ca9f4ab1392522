import Mathlib.Data.List.Induction
import Mathlib.Data.List.Nodup
import Grouproxy.Model.Probing

/-! # A probe and the selector's choice

The code restores the choice when its own record of the last switch says so. A call that fails but
takes effect is not in that record, so that it stays in force unless another switch is recorded
before the probe ends.
-/

namespace Grouproxy.Probing

/-! ## Splits of a list that grows -/

theorem exists_split_concat {α : Type} {l : List α} {t : α} {P : List α → α → List α → Prop} :
    (∃ before x after, l ++ [t] = before ++ x :: after ∧ P before x after) ↔
      P l t [] ∨ ∃ before x after, l = before ++ x :: after ∧ P before x (after ++ [t]) := by
  constructor
  · rintro ⟨before, x, after, heq, hP⟩
    cases after using List.reverseRecOn with
    | nil =>
        obtain ⟨rfl, hlast⟩ := List.append_inj' heq rfl
        obtain rfl := List.singleton_inj.mp hlast
        exact .inl hP
    | append_singleton after y =>
        rw [← List.cons_append, ← List.append_assoc] at heq
        obtain ⟨hrest, hlast⟩ := List.append_inj' heq rfl
        obtain rfl := List.singleton_inj.mp hlast
        exact .inr ⟨before, x, after, hrest, hP⟩
  · rintro (hP | ⟨before, x, after, rfl, hP⟩)
    · exact ⟨l, t, [], rfl, hP⟩
    · exact ⟨before, x, after ++ [t], by simp, hP⟩

/-! ## Switches that go unnoticed -/

section Switches

variable {reply : String → Reply} {original tag : String} {tags : List String}

/-- Some switch to another outbound succeeds, and the original choice does not come after it. -/
def SwitchedAway (reply : String → Reply) (original : String) (tags : List String) : Prop :=
  ∃ before tag after, tags = before ++ tag :: after ∧
    tag ≠ original ∧ reply tag = .ok ∧ original ∉ after

/-- Some switch to another outbound fails but takes effect while the code takes the original choice
for the current one, and no switch to another outbound succeeds later. -/
def Unnoticed (reply : String → Reply) (original : String) (tags : List String) : Prop :=
  ∃ before tag after, tags = before ++ tag :: after ∧
    tag ≠ original ∧ reply tag = .error true ∧ ¬ SwitchedAway reply original before ∧
    ∀ other ∈ after, other ≠ original → reply other ≠ .ok

theorem switchedAway_nil : ¬ SwitchedAway reply original [] := by
  simp [SwitchedAway]

theorem unnoticed_nil : ¬ Unnoticed reply original [] := by
  simp [Unnoticed]

theorem switchedAway_concat :
    SwitchedAway reply original (tags ++ [tag]) ↔
      tag ≠ original ∧ (reply tag = .ok ∨ SwitchedAway reply original tags) := by
  rw [SwitchedAway, exists_split_concat, SwitchedAway]
  constructor
  · rintro (⟨hne, hok, -⟩ | ⟨before, other, after, rfl, hne, hok, hafter⟩)
    · exact ⟨hne, .inl hok⟩
    · rw [List.mem_append, not_or, List.mem_singleton] at hafter
      exact ⟨Ne.symm hafter.2, .inr ⟨before, other, after, rfl, hne, hok, hafter.1⟩⟩
  · rintro ⟨hne, hok | ⟨before, other, after, rfl, hother, hok, hafter⟩⟩
    · exact .inl ⟨hne, hok, List.not_mem_nil⟩
    · exact .inr ⟨before, other, after, rfl, hother, hok, by simp [hafter, Ne.symm hne]⟩

theorem unnoticed_concat :
    Unnoticed reply original (tags ++ [tag]) ↔
      (tag ≠ original ∧ reply tag = .error true ∧ ¬ SwitchedAway reply original tags) ∨
        (Unnoticed reply original tags ∧ (tag ≠ original → reply tag ≠ .ok)) := by
  rw [Unnoticed, exists_split_concat, Unnoticed]
  constructor
  · rintro (⟨hne, herror, hbefore, -⟩ | ⟨before, other, after, rfl, hne, herror, hbefore, hafter⟩)
    · exact .inl ⟨hne, herror, hbefore⟩
    · rw [List.forall_mem_append, List.forall_mem_singleton] at hafter
      exact .inr ⟨⟨before, other, after, rfl, hne, herror, hbefore, hafter.1⟩, hafter.2⟩
  · rintro (⟨hne, herror, hbefore⟩ | ⟨⟨before, other, after, rfl, hne, herror, hbefore, hafter⟩, htag⟩)
    · exact .inl ⟨hne, herror, hbefore, by simp⟩
    · refine .inr ⟨before, other, after, rfl, hne, herror, hbefore, ?_⟩
      rw [List.forall_mem_append, List.forall_mem_singleton]
      exact ⟨hafter, htag⟩

theorem SwitchedAway.not_unnoticed (h : SwitchedAway reply original tags) :
    ¬ Unnoticed reply original tags := by
  induction tags using List.reverseRecOn with
  | nil => exact unnoticed_nil
  | append_singleton tags tag ih =>
      obtain ⟨hne, hswitched⟩ := switchedAway_concat.mp h
      rw [unnoticed_concat, not_or]
      constructor
      · rintro ⟨-, herror, hbefore⟩
        rcases hswitched with hok | hswitched
        · simp [hok] at herror
        · exact hbefore hswitched
      · rintro ⟨hunnoticed, hnot⟩
        rcases hswitched with hok | hswitched
        · exact hnot hne hok
        · exact ih hswitched hunnoticed

end Switches

/-! ## The loop -/

section Loop

variable {env : Environment} {request : ProbeRequest} {available tags : List String}
  {original tag : String} {run : Run}

/-- What the run knows of the switches so far, and what it does not know. -/
structure Tracks (env : Environment) (original : String) (tags : List String) (run : Run) :
    Prop where
  current : run.current = original ∨ run.current ∈ tags
  changed : run.current ≠ original → run.changed = true
  switched : run.current ≠ original ↔ SwitchedAway env.reply original tags
  selected : run.current = original →
    (run.selected ≠ original ↔ Unnoticed env.reply original tags)
  calls : ∀ call ∈ run.calls, call ∈ tags
  nodup : run.calls.Nodup

theorem probeTag_unavailable (h : tag ∉ available) :
    probeTag env request false available run tag =
      failProbe request tag "outbound_not_found" run := by
  rw [probeTag, if_neg (by simp), if_pos h]

/-- An outbound that is the current one is not selected again. -/
theorem probeTag_current (h : tag ∈ available) (hcurrent : tag = run.current) :
    probeTag env request false available run tag = probeCurrent env request tag run := by
  rw [probeTag, if_neg (by simp), if_neg (not_not.mpr h), if_neg (not_not.mpr hcurrent)]

theorem probeTag_ok (h : tag ∈ available) (hcurrent : tag ≠ run.current) (hok : env.reply tag = .ok) :
    probeTag env request false available run tag = probeCurrent env request tag
      { run with
        selected := tag
        calls := run.calls ++ [tag]
        current := tag
        changed := true } := by
  rw [probeTag, if_neg (by simp), if_neg (not_not.mpr h), if_pos hcurrent, selectOutbound, hok]

theorem probeTag_error {tookEffect : Bool} (h : tag ∈ available) (hcurrent : tag ≠ run.current)
    (herror : env.reply tag = .error tookEffect) :
    probeTag env request false available run tag = failProbe request tag "selector_switch_error"
      { run with
        selected := if tookEffect then tag else run.selected
        calls := run.calls ++ [tag] } := by
  rw [probeTag, if_neg (by simp), if_neg (not_not.mpr h), if_pos hcurrent, selectOutbound, herror]

theorem Tracks.probeCurrent (h : Tracks env original tags run) :
    Tracks env original tags (probeCurrent env request tag run) :=
  ⟨h.current, h.changed, h.switched, h.selected, h.calls, h.nodup⟩

theorem Tracks.failProbe {errorClass : String} (h : Tracks env original tags run) :
    Tracks env original tags (failProbe request tag errorClass run) :=
  ⟨h.current, h.changed, h.switched, h.selected, h.calls, h.nodup⟩

theorem Tracks.calls_concat (h : Tracks env original tags run) (hnew : tag ∉ tags) :
    (∀ call ∈ run.calls ++ [tag], call ∈ tags ++ [tag]) ∧ (run.calls ++ [tag]).Nodup := by
  constructor
  · intro call hcall
    rcases List.mem_append.mp hcall with hcall | hcall
    · exact List.mem_append_left _ (h.calls call hcall)
    · exact List.mem_append_right _ hcall
  · exact List.concat_eq_append ▸ h.nodup.concat fun hmem => hnew (h.calls tag hmem)

theorem Tracks.switched_iff (h : Tracks env original tags run) :
    run.current = original ↔ ¬ SwitchedAway env.reply original tags := by
  rw [← h.switched, not_not]

/-- The original choice is the current one after its turn, and the selector's if it was not current
before. -/
theorem Tracks.step_original (h : Tracks env original tags run) (havailable : original ∈ available)
    (hnew : original ∉ tags) (hok : env.reply original = .ok) :
    Tracks env original (tags ++ [original]) (probeTag env request false available run original) := by
  have hswitched : ¬ SwitchedAway env.reply original (tags ++ [original]) := by
    simp [switchedAway_concat]
  have hunnoticed : Unnoticed env.reply original (tags ++ [original]) ↔
      Unnoticed env.reply original tags := by
    simp [unnoticed_concat]
  by_cases hcurrent : original = run.current
  · rw [probeTag_current havailable hcurrent]
    refine Tracks.probeCurrent ⟨.inl hcurrent.symm, fun hne => absurd hcurrent.symm hne, ?_, ?_, ?_,
      h.nodup⟩
    · exact iff_of_false (not_not.mpr hcurrent.symm) hswitched
    · rw [hunnoticed]
      exact h.selected
    · exact fun call hcall => List.mem_append_left _ (h.calls call hcall)
  · rw [probeTag_ok havailable hcurrent hok]
    obtain ⟨hcalls, hnodup⟩ := h.calls_concat hnew
    have hnoticed := (h.switched.mp (Ne.symm hcurrent)).not_unnoticed
    refine Tracks.probeCurrent ⟨.inl rfl, fun _ => rfl, ?_, fun _ => ?_, hcalls, hnodup⟩
    · exact iff_of_false (not_not.mpr rfl) hswitched
    · rw [hunnoticed]
      exact iff_of_false (not_not.mpr rfl) hnoticed

theorem Tracks.step_other (h : Tracks env original tags run) (havailable : tag ∈ available)
    (hnew : tag ∉ tags) (hother : tag ≠ original) :
    Tracks env original (tags ++ [tag]) (probeTag env request false available run tag) := by
  have hcurrent : tag ≠ run.current := by
    rintro rfl
    exact h.current.elim hother hnew
  obtain ⟨hcalls, hnodup⟩ := h.calls_concat hnew
  cases hreply : env.reply tag with
  | ok =>
      rw [probeTag_ok havailable hcurrent hreply]
      refine Tracks.probeCurrent ⟨.inr (List.mem_append_right _ (List.mem_singleton_self tag)),
        fun _ => rfl, ?_, fun hsame => absurd hsame hother, hcalls, hnodup⟩
      exact iff_of_true hother (switchedAway_concat.mpr ⟨hother, .inl hreply⟩)
  | error tookEffect =>
      have hswitched : SwitchedAway env.reply original (tags ++ [tag]) ↔
          SwitchedAway env.reply original tags := by
        simp [switchedAway_concat, hother, hreply]
      rw [probeTag_error havailable hcurrent hreply]
      refine Tracks.failProbe ⟨?_, h.changed, h.switched.trans hswitched.symm, ?_, hcalls, hnodup⟩
      · exact h.current.imp_right (List.mem_append_left _)
      · intro hsame
        rw [unnoticed_concat, hreply]
        cases tookEffect with
        | true =>
            refine iff_of_true hother (.inl ⟨hother, rfl, ?_⟩)
            exact h.switched_iff.mp hsame
        | false => simpa using h.selected hsame

theorem Tracks.step (h : Tracks env original tags run) (havailable : tag ∈ available)
    (hnew : tag ∉ tags) (hok : env.reply original = .ok) :
    Tracks env original (tags ++ [tag]) (probeTag env request false available run tag) := by
  by_cases hother : tag = original
  · subst hother
    exact h.step_original havailable hnew hok
  · exact h.step_other havailable hnew hother

/-- The loop over distinct tags. Those that are not available leave the switches as they are. -/
theorem Tracks.loop (h : Tracks env original tags run) (hok : env.reply original = .ok)
    {rest : List String} (hnodup : rest.Nodup) (hnew : ∀ tag ∈ rest, tag ∉ tags) :
    Tracks env original (tags ++ rest.filter (· ∈ available))
      (rest.foldl (probeTag env request false available) run) := by
  induction rest generalizing tags run with
  | nil => simpa using h
  | cons tag rest ih =>
      obtain ⟨hfirst, hrest⟩ := List.nodup_cons.mp hnodup
      obtain ⟨htag, hnew⟩ := List.forall_mem_cons.mp hnew
      rw [List.foldl_cons]
      by_cases havailable : tag ∈ available
      · rw [List.filter_cons_of_pos (by simpa using havailable), List.append_cons]
        refine ih (h.step havailable htag hok) hrest fun other hother hmem => ?_
        rcases List.mem_append.mp hmem with hmem | hmem
        · exact hnew other hother hmem
        · exact hfirst (List.mem_singleton.mp hmem ▸ hother)
      · rw [List.filter_cons_of_neg (by simpa using havailable), probeTag_unavailable havailable]
        exact ih h.failProbe hrest hnew

end Loop

/-! ## Probes -/

section Probes

variable {env : Environment} {request : ProbeRequest} {selector : ClashSelector}

theorem nodup_uniqueProbeTagsFrom {max : ℕ} {result : List String} (h : result.Nodup)
    (values : List String) : (uniqueProbeTagsFrom max result values).Nodup := by
  induction values generalizing result with
  | nil => exact h
  | cons value values ih =>
      rw [uniqueProbeTagsFrom]
      split_ifs with hreserved hseen hfull
      · exact ih h
      · exact ih h
      · exact List.concat_eq_append ▸ h.concat hseen
      · exact ih (List.concat_eq_append ▸ h.concat hseen)

theorem nodup_probeTags : (probeTags env request selector).Nodup := by
  rw [probeTags]
  split_ifs
  · exact nodup_uniqueProbeTagsFrom List.nodup_nil _
  · exact nodup_uniqueProbeTagsFrom List.nodup_nil _
  · exact List.nodup_singleton _

variable (env request selector) in
/-- The tags that are probed. -/
def probedTags : List String :=
  (probeTags env request selector).filter (· ∈ availableTags env selector)

variable (env request selector) in
/-- The run when the loop has ended. -/
def finishedRun : Run :=
  (probeTags env request selector).foldl (probeTag env request false (availableTags env selector))
    ⟨selector.now, [], selector.now, false, []⟩

theorem tracks_finishedRun (hok : env.reply selector.now = .ok) :
    Tracks env selector.now (probedTags env request selector)
      (finishedRun env request selector) := by
  have hstart : Tracks env selector.now [] ⟨selector.now, [], selector.now, false, []⟩ :=
    ⟨.inl rfl, fun hne => absurd rfl hne, iff_of_false (not_not.mpr rfl) switchedAway_nil,
      fun _ => iff_of_false (not_not.mpr rfl) unnoticed_nil, by simp, List.nodup_nil⟩
  exact hstart.loop hok nodup_probeTags (by simp)

/-- The loop selects no outbound twice, so that one answer for each outbound is every pattern of
answers. -/
theorem nodup_calls (hok : env.reply selector.now = .ok) :
    (finishedRun env request selector).calls.Nodup :=
  (tracks_finishedRun hok).nodup

/-- A probe restores the choice unless a switch that failed but took effect goes unnoticed. -/
theorem executeProbe_restores_iff (hnow : selector.now ≠ "") (hok : env.reply selector.now = .ok) :
    (executeProbe env request selector false selector.now).selected = selector.now ↔
      ¬ Unnoticed env.reply selector.now (probedTags env request selector) := by
  have hfinished : Tracks env selector.now (probedTags env request selector)
      (finishedRun env request selector) := tracks_finishedRun hok
  have hprobe : executeProbe env request selector false selector.now =
      restore env false selector.now (finishedRun env request selector) := rfl
  rw [hprobe, restore]
  split_ifs with hrestore
  · have hnoticed := (hfinished.switched.mp hrestore.2.2.2).not_unnoticed
    simp [selectOutbound, hok, hnoticed]
  · have hcurrent := of_not_not fun hne =>
      hrestore ⟨rfl, hnow, hfinished.changed hne, hne⟩
    rw [← hfinished.selected hcurrent, not_not]

/-- The choice is the first of two, and the call that selects the second one fails but takes
effect. -/
def twoOutbounds : Environment where
  probeMaxOutbounds := 3
  configs := []
  reply tag := if tag = "b" then .error true else .ok
  probeThroughProxy _ := (true, "", 0)

def firstOfTwo : ClashSelector := ⟨"a", ["a", "b"]⟩

def probeSecond : ProbeRequest := ⟨"task", "https://example.com", ["b"]⟩

theorem executeProbe_restores_iff_twoOutbounds :
    (executeProbe twoOutbounds probeSecond firstOfTwo false "a").selected = "a" ↔
      ¬ Unnoticed twoOutbounds.reply "a" (probedTags twoOutbounds probeSecond firstOfTwo) :=
  executeProbe_restores_iff (by decide) (by decide)

/-- The second outbound is still selected after the probe. -/
theorem not_executeProbe_restores :
    ¬ ∀ env request selector, selector.now ≠ "" → env.reply selector.now = .ok →
      (executeProbe env request selector false selector.now).selected = selector.now := by
  intro h
  exact absurd (h twoOutbounds probeSecond firstOfTwo (by decide) (by decide)) (by decide)

end Probes

end Grouproxy.Probing
