import Grouproxy.Library.JsonReader
import Grouproxy.Verification.Policy.Coverage

/-! # The script of the firewall

What `renderSourceRules` prints is read back line by line and word by word: no pattern and no port
has a blank or a line break in it, so the script has the lines of `chainLines` and no others.
-/

namespace Grouproxy.Policy

open Text Netip Value Grouproxy.Bundle

/-! ## Words -/

/-- The texts have no white space in them. -/
def AreWords (texts : List String) : Prop := ∀ text ∈ texts, ∀ c ∈ text.toList, isSpace c = false

theorem areWords_normalizeSourceRule {rule : SourceRule} {family pattern : String}
    (h : normalizeSourceRule rule = some (family, pattern)) : AreWords [family, pattern] := by
  have hfamily : ∀ text ∈ ["ip", "ip6"], ∀ c ∈ text.toList, isSpace c = false := by
    simp [isSpace]
  have hwords : ∀ other ∈ ["ip", "ip6"], ∀ a : Addr, a.zone = "" →
      AreWords [other, a.toString] := by
    intro other hother a hz
    simp only [AreWords, List.forall_mem_cons]
    exact ⟨hfamily other hother, fun c hc => isSpace_of_mem_addrText hz hc,
      fun _ h => absurd h List.not_mem_nil⟩
  have hnetwork : ∀ other ∈ ["ip", "ip6"], ∀ p : Prefix, p.addr.zone = "" →
      AreWords [other, networkText p] := by
    intro other hother p hz
    simp only [AreWords, List.forall_mem_cons]
    exact ⟨hfamily other hother,
      fun c hc => isSpace_of_mem_prefixText (unmap_addr_zone hz) hc,
      fun _ h => absurd h List.not_mem_nil⟩
  simp only [normalizeSourceRule] at h
  split at h
  · cases h
  · split at h
    · split at h
      · cases h
      · rename_i address haddress
        have hzone : address.unmap.zone = "" := unmap_zone (parseIP_spec haddress).1
        split at h
        · cases h
          exact hwords _ (by simp) _ rfl
        · cases h
          exact hwords _ (by simp) _ hzone
    · split at h
      · split at h
        · cases h
        · rename_i address network hnetworkText
          obtain ⟨hzone, -, -⟩ := parseCIDR_spec hnetworkText
          split at h
          · cases h
            exact hnetwork _ (by simp) _ hzone
          · cases h
            exact hnetwork _ (by simp) _ hzone
      · cases h

/-- The words of a line, which its text separates by blanks. -/
def NftLine.words : NftLine → List String
  | .saddr family pattern port verdict =>
    ["", "", "", "", family, "saddr", pattern, "tcp", "dport", portText port, verdict.text]
  | .dport port verdict => ["", "", "", "", "tcp", "dport", portText port, verdict.text]

theorem NftLine.toList_text (line : NftLine) :
    line.text.toList = [' '].intercalate (line.words.map String.toList) := by
  cases line with
  | saddr family pattern port verdict =>
      simp [NftLine.text, NftLine.words, List.intercalate, List.intersperse]
  | dport port verdict => simp [NftLine.text, NftLine.words, List.intercalate, List.intersperse]

theorem areWords_portText (port : Int) : ∀ c ∈ (portText port).toList, isSpace c = false := by
  intro c hc
  rw [portText, String.toList_ofList] at hc
  rcases mem_intText hc with rfl | hdigit
  · decide
  · exact isSpace_of_isDigit hdigit

theorem areWords_verdict (verdict : Verdict) : ∀ c ∈ verdict.text.toList, isSpace c = false := by
  cases verdict with
  | accept => simp [Verdict.text, isSpace]
  | drop => simp [Verdict.text, isSpace]

theorem areWords_keywords : AreWords ["", "saddr", "tcp", "dport"] := by
  simp [AreWords, isSpace]

theorem areWords_of_mem_chainLines {port : Int} {rules : List SourceRule} {shutdown : Bool}
    {line : NftLine} (h : line ∈ chainLines port rules shutdown) : AreWords line.words := by
  have hkeywords := areWords_keywords
  simp only [AreWords, List.forall_mem_cons] at hkeywords
  obtain ⟨hempty, hsaddr, htcp, hdport, hnone⟩ := hkeywords
  have hsource : ∀ verdict (rule : SourceRule), sourceLine port verdict rule = some line →
      AreWords line.words := by
    intro verdict rule hline
    obtain ⟨⟨family, pattern⟩, hnormal, rfl⟩ := Option.map_eq_some_iff.mp hline
    have hwords := areWords_normalizeSourceRule hnormal
    simp only [AreWords, List.forall_mem_cons] at hwords
    simp only [AreWords, NftLine.words, List.forall_mem_cons]
    exact ⟨hempty, hempty, hempty, hempty, hwords.1, hsaddr, hwords.2.1, htcp, hdport,
      areWords_portText port, areWords_verdict verdict, hnone⟩
  simp only [chainLines, List.mem_append, List.mem_filterMap, List.mem_singleton] at h
  rcases h with (⟨rule, -, hline⟩ | ⟨rule, -, hline⟩) | rfl
  · exact hsource _ rule hline
  · exact hsource _ rule hline
  · simp only [AreWords, NftLine.words, List.forall_mem_cons]
    exact ⟨hempty, hempty, hempty, hempty, htcp, hdport, areWords_portText port,
      areWords_verdict _, hnone⟩

/-! ## Lines -/

theorem not_mem_of_areWords {texts : List String} (h : AreWords texts) {c : Char}
    (hc : isSpace c = true) : ∀ word ∈ texts.map String.toList, c ∉ word := by
  intro word hword hmem
  obtain ⟨text, htext, rfl⟩ := List.mem_map.mp hword
  exact absurd hc (by rw [h text htext c hmem]; decide)

/-- A line is read back word by word. -/
theorem NftLine.splitOn_text {line : NftLine} (h : AreWords line.words) :
    line.text.toList.splitOn ' ' = line.words.map String.toList := by
  rw [toList_text]
  refine List.splitOn_intercalate ' ' (not_mem_of_areWords h rfl) ?_
  cases line with
  | saddr family pattern port verdict => exact List.cons_ne_nil _ _
  | dport port verdict => exact List.cons_ne_nil _ _

theorem NftLine.newline_not_mem_text {line : NftLine} (h : AreWords line.words) :
    '\n' ∉ line.text.toList := by
  rw [toList_text]
  intro hmem
  rcases eq_or_mem_of_mem_intercalate hmem with hsep | ⟨word, hword, hc⟩
  · exact absurd hsep (by decide)
  · exact not_mem_of_areWords h rfl word hword hc

/-- The lines of the script are the lines of the chain between those of its table. -/
theorem splitOn_renderSourceRules (port : Int) (rules : List SourceRule) (shutdown : Bool) :
    (renderSourceRules port rules shutdown).toList.splitOn '\n' =
      ["table inet grouproxy \x7b", "  chain grouproxy_input \x7b",
        "    type filter hook input priority -100; policy accept;"].map String.toList ++
      (chainLines port rules shutdown).map (fun line => line.text.toList) ++
      ["  \x7d", "\x7d", ""].map String.toList := by
  have hopening : ∀ text ∈ ["table inet grouproxy \x7b", "  chain grouproxy_input \x7b",
      "    type filter hook input priority -100; policy accept;"], '\n' ∉ text.toList := by
    simp
  have hclosing : ∀ text ∈ ["  \x7d", "\x7d"], '\n' ∉ text.toList := by
    simp
  rw [renderSourceRules, String.toList_append, String.toList_intercalate]
  have hsep : "\n".toList = ['\n'] := rfl
  rw [hsep, List.splitOn_append_cons_self, List.splitOn_intercalate, List.splitOn_nil]
  · simp only [List.map_append, List.map_map, List.append_assoc]
    rfl
  · intro word hword
    obtain ⟨text, htext, rfl⟩ := List.mem_map.mp hword
    simp only [List.mem_append, List.mem_map] at htext
    rcases htext with (htext | ⟨line, hline, rfl⟩) | htext
    · exact hopening text htext
    · exact NftLine.newline_not_mem_text (areWords_of_mem_chainLines hline)
    · exact hclosing text htext
  · simp

/-! ## The script determines its chain -/

theorem portText_injective : Function.Injective portText := by
  intro port other h
  have htext : intText port = intText other := String.ofList_injective h
  have hread := JsonReader.strictInt?_intText port
  rw [htext, JsonReader.strictInt?_intText] at hread
  exact (Option.some.inj hread).symm

theorem Verdict.text_injective : Function.Injective Verdict.text := by
  intro verdict other h
  cases verdict <;> cases other <;> first | rfl | exact absurd h (by decide)

theorem NftLine.words_injective : Function.Injective NftLine.words := by
  intro line other h
  cases line with
  | saddr family pattern port verdict =>
      cases other with
      | saddr family' pattern' port' verdict' =>
          simp only [words, List.cons.injEq, true_and, and_true] at h
          obtain ⟨rfl, rfl, hport, hverdict⟩ := h
          rw [portText_injective hport, Verdict.text_injective hverdict]
      | dport port' verdict' => exact absurd (congrArg List.length h) (by simp [words])
  | dport port verdict =>
      cases other with
      | saddr family' pattern' port' verdict' =>
          exact absurd (congrArg List.length h) (by simp [words])
      | dport port' verdict' =>
          simp only [words, List.cons.injEq, true_and, and_true] at h
          obtain ⟨hport, hverdict⟩ := h
          rw [portText_injective hport, Verdict.text_injective hverdict]

/-- The script determines its chain: whatever reads the text of `renderSourceRules` can only act on
`chainLines`. -/
theorem chainLines_eq_of_renderSourceRules_eq {port other : Int} {rules rules' : List SourceRule}
    {shutdown shutdown' : Bool}
    (h : renderSourceRules port rules shutdown = renderSourceRules other rules' shutdown') :
    chainLines port rules shutdown = chainLines other rules' shutdown' := by
  have hlines := splitOn_renderSourceRules port rules shutdown
  rw [h, splitOn_renderSourceRules] at hlines
  have htexts := List.append_cancel_left (List.append_cancel_right hlines)
  have hwords : ∀ port rules shutdown,
      ((chainLines port rules shutdown).map fun line => line.text.toList).map (·.splitOn ' ') =
        (chainLines port rules shutdown).map fun line => line.words.map String.toList := by
    intro port rules shutdown
    rw [List.map_map]
    exact List.map_congr_left fun line hline => NftLine.splitOn_text (areWords_of_mem_chainLines hline)
  have hinjective : Function.Injective fun line : NftLine => line.words.map String.toList :=
    (List.map_injective_iff.mpr fun _ _ => String.toList_injective).comp NftLine.words_injective
  refine List.map_injective_iff.mpr hinjective ?_
  rw [← hwords, ← hwords, htexts]

end Grouproxy.Policy
