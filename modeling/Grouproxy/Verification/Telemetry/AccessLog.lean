import Grouproxy.Library.CompleteLines
import Grouproxy.Model.AccessLog

/-! # Every line of the log is collected once

The cursor always stands behind the lines that have been parsed, and their entries are those of all
batches so far. Appending to the log leaves the lines behind the cursor as they are.
-/

namespace Grouproxy.AccessLog

open Lines

variable {config : Config} {file rest added : Bytes} {during : List Bytes} {offset parsed : ℕ}
  {entries prior : List AccessLogEntry} {lines : List Bytes} {line : Bytes} {c : Collector}
  {pass : Pass} {passes : List Pass}

/-! ## Reading a line -/

theorem exists_line (h : lineFeed ∈ rest) :
    ∃ line later, lineFeed ∉ line ∧ rest = line ++ lineFeed :: later ∧
      readBytes rest = (line ++ [lineFeed], false) := by
  obtain ⟨line, later, rfl, hline⟩ := List.eq_append_cons_of_mem h
  refine ⟨line, later, hline, rfl, ?_⟩
  have hall : ∀ b ∈ line, decide (b ≠ lineFeed) = true := by
    intro b hb
    rw [decide_eq_true_eq]
    rintro rfl
    exact hline hb
  rw [readBytes, if_pos h, List.takeWhile_append_of_pos hall,
    List.takeWhile_cons_of_neg (by simp), List.append_nil]

theorem trimSuffix_line (line : Bytes) : trimSuffix (line ++ [lineFeed]) lineFeed = line := by
  rw [trimSuffix, if_pos (by simp), List.dropLast_concat]

/-! ## Passes -/

/-- The entries of lines, each parsed in its turn. -/
def parseAll (config : Config) (lines : List Bytes) : List AccessLogEntry :=
  lines.zipIdx.filterMap fun l =>
    parseAccessLog config.libs (config.clock l.2) (trimSuffix l.1 carriageReturn)

theorem parseAll_append (config : Config) (lines : List Bytes) (line : Bytes) :
    parseAll config (lines ++ [line]) = parseAll config lines ++
      (parseAccessLog config.libs (config.clock lines.length)
        (trimSuffix line carriageReturn)).toList := by
  rw [parseAll, List.zipIdx_append, List.filterMap_append, parseAll]
  cases h : parseAccessLog config.libs (config.clock lines.length)
    (trimSuffix line carriageReturn) <;> simp [h]

/-- The cursor stands behind the lines, which have all been parsed. -/
structure ReadUpTo (file : Bytes) (offset parsed : ℕ) (lines : List Bytes) : Prop where
  stored : file.take offset = lines.flatMap terminated
  cursor : offset = linesSize lines
  counted : parsed = lines.length
  complete : ∀ line ∈ lines, lineFeed ∉ line

theorem ReadUpTo.le_length (h : ReadUpTo file offset parsed lines) : offset ≤ file.length := by
  have hlength := congrArg List.length h.stored
  rw [List.length_take, ← linesSize, ← h.cursor] at hlength
  omega

theorem ReadUpTo.grow (h : ReadUpTo file offset parsed lines) (added : Bytes) :
    ReadUpTo (file ++ added) offset parsed lines where
  stored := by rw [List.take_append_of_le_length h.le_length, h.stored]
  cursor := h.cursor
  counted := h.counted
  complete := h.complete

theorem ReadUpTo.read (h : ReadUpTo file offset parsed lines) (hline : lineFeed ∉ line)
    (hrest : file.drop offset = line ++ lineFeed :: rest) :
    ReadUpTo file (offset + (line ++ [lineFeed]).length) (parsed + 1) (lines ++ [line]) where
  stored := by
    have hfile : file = lines.flatMap terminated ++ (line ++ lineFeed :: rest) := by
      rw [← h.stored, ← hrest, List.take_append_drop]
    have hoffset : offset = (lines.flatMap terminated).length := h.cursor
    have hline : line ++ lineFeed :: rest = (line ++ [lineFeed]) ++ rest := by simp
    rw [hoffset, hfile, List.take_length_add_append, hline, List.take_left, List.flatMap_append,
      List.flatMap_singleton, terminated]
  cursor := by
    rw [linesSize_append, ← h.cursor]
    simp [linesSize, terminated]
  counted := by rw [List.length_append, List.length_singleton, h.counted]
  complete := by
    intro other hother
    rcases List.mem_append.mp hother with hold | hnew
    · exact h.complete other hold
    · rw [List.mem_singleton.mp hnew]
      exact hline

theorem ReadUpTo.completeLines_eq (h : ReadUpTo file offset parsed lines) :
    completeLines file = lines ++ completeLines (file.drop offset) := by
  have hfile : lines.flatMap terminated ++ file.drop offset = file := by
    rw [← h.stored, List.take_append_drop]
  rw [← completeLines_flatMap_append h.complete, hfile]

/-- The loop reads further lines and keeps their entries; where it does not fill the batch, it has
read all complete lines. -/
theorem readLines_spec (h : ReadUpTo file offset parsed lines)
    (hentries : prior ++ entries = parseAll config lines) :
    ∃ more, ReadUpTo (readLines config file during offset parsed entries).file
        (readLines config file during offset parsed entries).offset
        (readLines config file during offset parsed entries).parsed (lines ++ more) ∧
      prior ++ (readLines config file during offset parsed entries).entries =
        parseAll config (lines ++ more) ∧
      ((readLines config file during offset parsed entries).entries.length <
          config.telemetryBatchMax →
        lineFeed ∉ (readLines config file during offset parsed entries).file.drop
          (readLines config file during offset parsed entries).offset) := by
  fun_induction readLines config file during offset parsed entries generalizing lines with
  | case1 =>
      rename_i file during offset parsed entries hroom grown read hstops
      have hnone : lineFeed ∉ grown.drop offset := by
        intro hmem
        obtain ⟨line, later, -, -, hread⟩ := exists_line hmem
        have hgoes : stopsAt (readBytes (grown.drop offset)) = false := by
          rw [hread]
          rfl
        rw [hgoes] at hstops
        cases hstops
      exact ⟨[], by simpa using h.grow _, by simpa using hentries, fun _ => hnone⟩
  | case2 =>
      rename_i file during offset parsed entries hroom grown read hgoes line ih
      have hmem := readBytes_of_stopsAt_eq_false (Bool.eq_false_iff.mpr hgoes)
      obtain ⟨text, later, htext, hrest, hread⟩ := exists_line hmem
      have hline : line = trimSuffix text carriageReturn := by
        simp only [line, read, hread, trimSuffix_line]
      have hnext : ReadUpTo grown (offset + read.1.length) (parsed + 1) (lines ++ [text]) := by
        simp only [read, hread]
        exact (h.grow _).read htext hrest
      have hparsed : prior ++ (entries ++
          (parseAccessLog config.libs (config.clock parsed) line).toList) =
          parseAll config (lines ++ [text]) := by
        rw [parseAll_append, ← List.append_assoc, hentries, h.counted, hline]
      obtain ⟨more, hmore, hall, hshort⟩ := ih hnext hparsed
      refine ⟨text :: more, ?_, ?_, hshort⟩
      · rwa [List.append_assoc, List.singleton_append] at hmore
      · rwa [List.append_assoc, List.singleton_append] at hall
  | case3 =>
      rename_i file during offset parsed entries hfull
      exact ⟨[], by simpa using h, by simpa using hentries, fun hshort => absurd hshort hfull⟩

/-- The loop finds some of what is added to the log, and leaves the rest for later. -/
theorem readLines_file (config : Config) (file : Bytes) (during : List Bytes) (offset parsed : ℕ)
    (entries : List AccessLogEntry) :
    ∃ reads, (readLines config file during offset parsed entries).file =
        file ++ (during.take reads).flatten ∧
      (readLines config file during offset parsed entries).later = during.drop reads := by
  fun_induction readLines config file during offset parsed entries with
  | case1 =>
      rename_i file during offset parsed entries hroom grown read hstops
      refine ⟨1, ?_, by simp⟩
      cases during <;> simp [grown]
  | case2 =>
      rename_i file during offset parsed entries hroom grown read hgoes line ih
      obtain ⟨reads, hfile, hlater⟩ := ih
      refine ⟨reads + 1, ?_, ?_⟩
      · rw [hfile]
        cases during <;> simp [grown]
      · rw [hlater, List.drop_tail]
  | case3 => exact ⟨0, by simp, rfl⟩

/-- The entries that a pass hands on, in a batch or not at all. -/
def batchEntries (batches : List LogBatch) : List AccessLogEntry := batches.flatMap (·.entries)

/-- A pass whose batch is not full. -/
def comesUpShort (config : Config) (batch : Option LogBatch) : Prop :=
  (batchEntries batch.toList).length < config.telemetryBatchMax

/-- What the loop of a pass reads. -/
def passReading (config : Config) (c : Collector) (pass : Pass) : Reading :=
  readLines config (c.file ++ pass.before) pass.during c.logOffset c.parsed []

/-- The cursor of a log that only grows is never reset. -/
theorem openLog_eq (h : ReadUpTo c.file c.logOffset c.parsed lines) (before : Bytes) :
    openLog c before = { c with file := c.file ++ before } := by
  have hlength := (h.grow before).le_length
  rw [openLog, if_neg (Nat.not_lt.mpr hlength)]

theorem collectLogs_reading (h : ReadUpTo c.file c.logOffset c.parsed lines) (config : Config)
    (pass : Pass) :
    (collectLogs config c pass).1.file =
        (passReading config c pass).file ++ (passReading config c pass).later.flatten ∧
      (collectLogs config c pass).1.logOffset =
        max c.logOffset (passReading config c pass).offset ∧
      (collectLogs config c pass).1.parsed = (passReading config c pass).parsed ∧
      batchEntries (collectLogs config c pass).2.toList = (passReading config c pass).entries := by
  have hopen := openLog_eq h pass.before
  by_cases hnone : (passReading config c pass).entries = []
  · simp only [passReading] at hnone ⊢
    simp [collectLogs, hopen, hnone, batchEntries]
  · simp only [passReading] at hnone ⊢
    simp [collectLogs, hopen, hnone, batchEntries]

/-- What is added to the log around a pass. -/
def Pass.appended (pass : Pass) : Bytes := pass.before ++ pass.during.flatten

/-- A pass adds to the log, and changes nothing else in it. -/
theorem collectLogs_file (h : ReadUpTo c.file c.logOffset c.parsed lines) (config : Config)
    (pass : Pass) : (collectLogs config c pass).1.file = c.file ++ pass.appended := by
  obtain ⟨reads, hfile, hlater⟩ :=
    readLines_file config (c.file ++ pass.before) pass.during c.logOffset c.parsed []
  rw [(collectLogs_reading h config pass).1, passReading, hfile, hlater, List.append_assoc,
    ← List.flatten_append, List.take_append_drop, Pass.appended, List.append_assoc]

/-- A pass reads further lines, and its batch has their entries. If the batch comes up short, the
lines are all that were complete at the last read. -/
theorem collectLogs_spec (h : ReadUpTo c.file c.logOffset c.parsed lines)
    (hprior : prior = parseAll config lines) (pass : Pass) :
    ∃ more, ReadUpTo (collectLogs config c pass).1.file (collectLogs config c pass).1.logOffset
        (collectLogs config c pass).1.parsed (lines ++ more) ∧
      prior ++ batchEntries (collectLogs config c pass).2.toList =
        parseAll config (lines ++ more) ∧
      (comesUpShort config (collectLogs config c pass).2 → ∃ reads,
        completeLines (c.file ++ pass.before ++ (pass.during.take reads).flatten) =
          lines ++ more) := by
  have hprior : prior ++ [] = parseAll config lines := by rw [List.append_nil, hprior]
  obtain ⟨hfile, hoffset, hparsed, hentries⟩ := collectLogs_reading h config pass
  obtain ⟨more, hread, hall, hshort⟩ :
      ∃ more, ReadUpTo (passReading config c pass).file (passReading config c pass).offset
          (passReading config c pass).parsed (lines ++ more) ∧
        prior ++ (passReading config c pass).entries = parseAll config (lines ++ more) ∧
        ((passReading config c pass).entries.length < config.telemetryBatchMax →
          lineFeed ∉ (passReading config c pass).file.drop (passReading config c pass).offset) :=
    readLines_spec (h.grow pass.before) hprior
  have hforward : c.logOffset ≤ (passReading config c pass).offset := by
    rw [h.cursor, hread.cursor, linesSize_append]
    exact Nat.le_add_right _ _
  rw [max_eq_right hforward] at hoffset
  refine ⟨more, ?_, ?_, ?_⟩
  · rw [hfile, hoffset, hparsed]
    exact hread.grow _
  · rwa [hentries]
  · intro hbatch
    rw [comesUpShort, hentries] at hbatch
    obtain ⟨reads, hseen, -⟩ :=
      readLines_file config (c.file ++ pass.before) pass.during c.logOffset c.parsed []
    refine ⟨reads, ?_⟩
    rw [← hseen]
    change completeLines (passReading config c pass).file = _
    rw [hread.completeLines_eq, completeLines_of_not_mem (hshort hbatch), List.append_nil]

/-- Any number of passes reads further lines of the log, to which they only add, and their batches
together have the entries of these lines. -/
theorem collectAll_spec (h : ReadUpTo c.file c.logOffset c.parsed lines)
    (hprior : prior = parseAll config lines) (passes : List Pass) :
    (collectAll config c passes).1.file = c.file ++ passes.flatMap Pass.appended ∧
      ∃ more, ReadUpTo (collectAll config c passes).1.file (collectAll config c passes).1.logOffset
          (collectAll config c passes).1.parsed (lines ++ more) ∧
        prior ++ batchEntries (collectAll config c passes).2 =
          parseAll config (lines ++ more) := by
  induction passes generalizing c prior lines with
  | nil =>
      have hnone : prior ++ batchEntries [] = parseAll config (lines ++ []) := by
        simpa [batchEntries] using hprior
      exact ⟨(List.append_nil _).symm, [], by simpa [collectAll] using h, hnone⟩
  | cons pass passes ih =>
      obtain ⟨more, hread, hall, -⟩ := collectLogs_spec h hprior pass
      obtain ⟨hfile, later, hlater, hrest⟩ := ih hread hall
      refine ⟨?_, more ++ later, ?_, ?_⟩
      · rw [collectAll, hfile, collectLogs_file h config pass, List.flatMap_cons,
          List.append_assoc]
      · rwa [List.append_assoc] at hlater
      · rw [List.append_assoc, List.append_assoc] at hrest
        rwa [collectAll, batchEntries, List.flatMap_append]

/-- The monitor at its first start, before anything has been logged. -/
def Collector.start (logSequence : ℕ) (spool : Spool.Dir) : Collector :=
  ⟨[], 0, logSequence, 0, spool⟩

/-- The batches have the entries of the first lines of the log, each once and in order, and the
cursor stands behind these lines. After a further pass whose batch comes up short these are all
complete lines: those of the log before the pass, and of what is added before its last read. -/
def CollectsOnce (config : Config) (c : Collector) (passes : List Pass) : Prop :=
  let run := collectAll config c passes
  let log := c.file ++ passes.flatMap Pass.appended
  (∃ n ≤ (completeLines log).length,
    batchEntries run.2 = parseAll config ((completeLines log).take n) ∧
      run.1.logOffset = linesSize ((completeLines log).take n)) ∧
  ∀ pass, comesUpShort config (collectLogs config run.1 pass).2 →
    let last := collectLogs config run.1 pass
    ∃ reads, let seen := log ++ pass.before ++ (pass.during.take reads).flatten
      batchEntries (run.2 ++ last.2.toList) = parseAll config (completeLines seen) ∧
        last.1.logOffset = linesSize (completeLines seen)

theorem collectLogs_exactlyOnce (config : Config) (logSequence : ℕ) (spool : Spool.Dir)
    (passes : List Pass) : CollectsOnce config (Collector.start logSequence spool) passes := by
  have hstart : ReadUpTo (Collector.start logSequence spool).file
      (Collector.start logSequence spool).logOffset (Collector.start logSequence spool).parsed [] :=
    ⟨rfl, rfl, rfl, by simp⟩
  have hnothing : ([] : List AccessLogEntry) = parseAll config [] := rfl
  obtain ⟨hfile, lines, hread, hall⟩ := collectAll_spec hstart hnothing passes
  rw [List.nil_append] at hread hall
  rw [List.nil_append] at hall
  rw [CollectsOnce, ← hfile]
  have htake : (completeLines (collectAll config (Collector.start logSequence spool) passes).1.file
      ).take lines.length = lines := by
    rw [hread.completeLines_eq, List.take_left]
  refine ⟨⟨lines.length, ?_, ?_, ?_⟩, ?_⟩
  · rw [hread.completeLines_eq, List.length_append]
    exact Nat.le_add_right _ _
  · rw [htake, hall]
  · rw [htake, hread.cursor]
  · intro pass hbatch last
    obtain ⟨more, hlast, hentries, hshort⟩ := collectLogs_spec hread hall pass
    obtain ⟨reads, hcomplete⟩ := hshort hbatch
    refine ⟨reads, ?_, ?_⟩
    · rw [hcomplete, ← hentries, batchEntries, List.flatMap_append]
      rfl
    · rw [hcomplete]
      exact hlast.cursor

def sampleConfig : Config where
  nodeId := "north-a"
  telemetryBatchMax := 100
  spoolMaxBytes := 1000000
  libs := ⟨fun _ => none, fun _ => none, fun _ => none, fun _ => [1], fun _ => 0⟩
  spoolLibs := ⟨fun _ => none, fun _ => none, fun _ => none, fun _ => false⟩
  clock lines := lines

/-- A pass without anything to disturb it. -/
def quietPass (before : String) (during : List String) : Pass where
  before := bytesOf before
  during := during.map bytesOf
  nanos := 1
  sent := true
  spoolNanos := 1
  outcomes := ⟨false, false, fun _ => false, fun _ => false, fun _ => false, .renamed⟩

/-- The second line is cut in two, and so is the third one, which is written while the pass reads. -/
def cutPass : Pass := quietPass "rejected 10.0.0.7\naccepted 10." ["", "0.0.8\r\nbloc"]

def restPass : Pass := quietPass "ked 10.0.0.9\n" []

def cutStart : Collector := Collector.start 7 Spool.emptyDir

theorem length_parseAll_le (config : Config) (lines : List Bytes) :
    (parseAll config lines).length ≤ lines.length := by
  rw [parseAll]
  exact Nat.le_trans (List.length_filterMap_le _ _) (by rw [List.length_zipIdx])

/-- The first and the third line are collected, the second one is not sampled. -/
theorem collectLogs_exactlyOnce_cutLines :
    (batchEntries (collectAll sampleConfig cutStart [cutPass, restPass]).2).map
        (fun entry => (entry.ts, entry.action)) = [(0, .deny), (2, .deny)] := by
  have hlog : (completeLines ([cutPass, restPass].flatMap Pass.appended)).length = 3 := by
    decide +kernel
  have hbatches : (collectAll sampleConfig cutStart [cutPass, restPass]).2 =
      (collectAll sampleConfig cutStart [cutPass]).2 ++
        (collectLogs sampleConfig (collectAll sampleConfig cutStart [cutPass]).1 restPass).2.toList := by
    simp [collectAll]
  -- Three lines do not fill a batch.
  have hshort : comesUpShort sampleConfig
      (collectLogs sampleConfig (collectAll sampleConfig cutStart [cutPass]).1 restPass).2 := by
    obtain ⟨⟨n, hn, hentries, -⟩, -⟩ :=
      collectLogs_exactlyOnce sampleConfig 7 Spool.emptyDir [cutPass, restPass]
    have hlength := congrArg List.length hentries
    have hle := length_parseAll_le sampleConfig
      ((completeLines ([cutPass, restPass].flatMap Pass.appended)).take n)
    change (batchEntries (collectAll sampleConfig cutStart [cutPass, restPass]).2).length =
      (parseAll sampleConfig
        ((completeLines ([cutPass, restPass].flatMap Pass.appended)).take n)).length at hlength
    rw [hbatches, batchEntries, List.flatMap_append, List.length_append] at hlength
    rw [List.length_take, hlog] at hle
    have hmax : sampleConfig.telemetryBatchMax = 100 := rfl
    rw [comesUpShort, batchEntries, hmax]
    omega
  obtain ⟨-, hlast⟩ := collectLogs_exactlyOnce sampleConfig 7 Spool.emptyDir [cutPass]
  obtain ⟨reads, hcollected, -⟩ := hlast restPass hshort
  have hnone : (restPass.during.take reads).flatten = [] := by simp [restPass, quietPass]
  rw [hbatches]
  refine (congrArg _ hcollected).trans ?_
  rw [hnone]
  decide +kernel

end Grouproxy.AccessLog
