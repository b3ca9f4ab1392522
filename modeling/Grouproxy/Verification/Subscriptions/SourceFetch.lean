import Grouproxy.Library.Entries
import Grouproxy.Library.Steps
import Grouproxy.Model.SourceFetch

/-! # A fetch goes to validated addresses only

Whatever the resolver and the upstream answer, a request goes to an address of a lookup all of
whose addresses are public. The cache of validated hosts carries the argument over redirects.
-/

namespace Grouproxy.SourceFetch

open Encoding Lines Entries Ipaddress Netip Steps
open Inspection (lower)

variable {libs : Libraries} {net : Network} {source : SubscriptionSource}
  {session next : Session}

/-! ## Effects -/

/-- The hosts that have been looked up, once for each lookup. -/
def lookedUp (effects : List Effect) : List String :=
  effects.filterMap fun effect =>
    match effect with
    | .lookup host _ => some host
    | .request _ => none

def requests (effects : List Effect) : List Request :=
  effects.filterMap fun effect =>
    match effect with
    | .request request => some request
    | .lookup _ _ => none

/-- The address is in the answer of a lookup of the host, all of whose addresses are public. -/
def Vouched (libs : Libraries) (effects : List Effect) (host address : String) : Prop :=
  ∃ records, .lookup host (.records records) ∈ effects ∧ address ∈ records.map SocketAddress.text ∧
    ∀ record ∈ records, isPublicAddress libs record.text = true

theorem Vouched.mono {effects others : List Effect} {host address : String}
    (h : Vouched libs effects host address) (hsub : effects ⊆ others) :
    Vouched libs others host address := by
  obtain ⟨records, hlookup, haddress, hpublic⟩ := h
  exact ⟨records, hsub hlookup, haddress, hpublic⟩

/-- The host of the endpoint that a request is sent to is an address, which has been vouched for
the host of its URL. -/
def Approved (libs : Libraries) (effects : List Effect) (request : Request) : Prop :=
  ∃ parsed port target, validateUrlShape libs request.url = .ok (parsed, port) ∧
    libs.urlsplit request.endpoint = some target ∧
    Vouched libs effects (hostOf parsed) (hostOf target)

/-- Every request that has been sent was approved by what happened before, and no host has been
looked up twice. -/
structure Guarded (libs : Libraries) (session : Session) : Prop where
  vouched : ∀ entry ∈ session.validatedHosts, ∀ address ∈ entry.2,
    Vouched libs session.effects entry.1 address
  approved : ∀ before request, before ++ [.request request] <+: session.effects →
    Approved libs before request
  once : (lookedUp session.effects).Nodup

/-- Every host that has been looked up is among the validated hosts. -/
def Cached (session : Session) : Prop :=
  ∀ host ∈ lookedUp session.effects, host ∈ session.validatedHosts.map Prod.fst

theorem guarded_start (libs : Libraries) : Guarded libs ⟨[], []⟩ where
  vouched := by simp
  approved := by simp
  once := List.nodup_nil

theorem Guarded.addLookup (h : Guarded libs session) {host : String} (answer : Lookup)
    (hnew : host ∉ lookedUp session.effects) :
    Guarded libs { session with effects := session.effects ++ [.lookup host answer] } where
  vouched := by
    intro entry hentry address haddress
    exact (h.vouched entry hentry address haddress).mono (List.subset_append_left _ _)
  approved := by
    intro before request hprefix
    rcases List.prefix_concat_iff.mp hprefix with hlast | hprior
    · have heffect := List.append_inj_right' hlast rfl
      cases heffect
    · exact h.approved before request hprior
  once := by
    rw [lookedUp, List.filterMap_append]
    change (lookedUp session.effects ++ [host]).Nodup
    rw [List.nodup_append']
    exact ⟨h.once, List.nodup_singleton _, by simpa using hnew⟩

theorem Guarded.addRequest (h : Guarded libs session) {request : Request}
    (happroved : Approved libs session.effects request) :
    Guarded libs { session with effects := session.effects ++ [.request request] } where
  vouched := by
    intro entry hentry address haddress
    exact (h.vouched entry hentry address haddress).mono (List.subset_append_left _ _)
  approved := by
    intro before other hprefix
    rcases List.prefix_concat_iff.mp hprefix with hlast | hprior
    · obtain ⟨hbefore, hrequest⟩ := List.append_inj' hlast rfl
      cases hrequest
      rw [hbefore]
      exact happroved
    · exact h.approved before other hprior
  once := by
    have hsame : lookedUp (session.effects ++ [.request request]) = lookedUp session.effects := by
      simp [lookedUp]
    rw [hsame]
    exact h.once

theorem Guarded.addHost (h : Guarded libs session) {host : String} {addresses : List String}
    (hvouched : ∀ address ∈ addresses, Vouched libs session.effects host address) :
    Guarded libs { session with
      validatedHosts := session.validatedHosts ++ [(host, addresses)] } where
  vouched := by
    intro entry hentry address haddress
    rcases List.mem_append.mp hentry with hold | hnew
    · exact h.vouched entry hold address haddress
    · rw [List.mem_singleton.mp hnew] at haddress ⊢
      exact hvouched address haddress
  approved := h.approved
  once := h.once

/-! ## The endpoint of a request -/

section Endpoint

variable {address endpoint scheme : String} {parsed : Url} {port : Nat} {c : Char}

/-- An address of a record that is public. -/
structure IsNumeric (libs : Libraries) (address : String) : Prop where
  isRecord : ∃ record : SocketAddress, record.text = address
  isPublic : isPublicAddress libs address = true

theorem Vouched.isNumeric {effects : List Effect} {host : String}
    (h : Vouched libs effects host address) : IsNumeric libs address := by
  obtain ⟨records, -, haddress, hpublic⟩ := h
  obtain ⟨record, hrecord, rfl⟩ := List.mem_map.mp haddress
  exact ⟨⟨record, rfl⟩, hpublic record hrecord⟩

theorem isUnreserved_of_isNumberChar (h : isNumberChar c = true) :
    Urllib.isUnreserved c = true ∨ c = ':' := by
  have hall : ("0123456789abcdef:.".toList.all fun d => Urllib.isUnreserved d || d == ':') = true := by
    decide
  have hc := List.all_eq_true.mp hall c (List.contains_iff_mem.mp h)
  rwa [Bool.or_eq_true, beq_iff_eq] at hc

theorem SocketAddress.isNumberChar_of_mem {record : SocketAddress} (h : c ∈ record.number.toList) :
    isNumberChar c = true :=
  List.all_eq_true.mp record.isNumber c h

theorem SocketAddress.mem_text {record : SocketAddress} (h : c ∈ record.text.toList) :
    Urllib.isUnreserved c = true ∨ c = ':' ∨ c = '%' := by
  rw [SocketAddress.text, String.toList_ofList, List.mem_append, zoneText] at h
  rcases h with h | h
  · rcases isUnreserved_of_isNumberChar (SocketAddress.isNumberChar_of_mem h) with h | h
    · exact .inl h
    · exact .inr (.inl h)
  · split at h
    · cases h
    · rcases List.mem_cons.mp h with h | h
      · exact .inr (.inr h)
      · exact .inl (List.all_eq_true.mp record.isScope c h)

/-- What stands before the scope of an address is its number. -/
theorem SocketAddress.partition_text (record : SocketAddress) :
    (Urllib.partition '%' record.text.toList).1 = record.number.toList := by
  have hnumber : '%' ∉ record.number.toList := by
    intro hmem
    exact absurd (SocketAddress.isNumberChar_of_mem hmem) (by decide)
  rw [SocketAddress.text, String.toList_ofList, zoneText]
  split
  · rw [List.append_nil, Urllib.partition_of_notMem hnumber]
  · rw [Urllib.partition_append_cons hnumber]

theorem IsNumeric.mem (h : IsNumeric libs address) (hc : c ∈ address.toList) :
    Urllib.isUnreserved c = true ∨ c = ':' ∨ c = '%' := by
  obtain ⟨record, rfl⟩ := h.isRecord
  exact SocketAddress.mem_text hc

theorem IsNumeric.notMem (h : IsNumeric libs address) (hc : Urllib.isUnreserved c = false)
    (hne : c ≠ ':' ∧ c ≠ '%') : c ∉ address.toList := by
  intro hmem
  rcases h.mem hmem with hkept | hcolon | hpercent
  · rw [hkept] at hc
    cases hc
  · exact hne.1 hcolon
  · exact hne.2 hpercent

theorem IsNumeric.ne_nil (h : IsNumeric libs address) : address.toList ≠ [] := by
  intro hnil
  have hpublic := h.isPublic
  rw [String.toList_eq_nil_iff.mp hnil] at hpublic
  cases hpublic

/-- A public address with a colon is one of version six. -/
theorem IsNumeric.checkBracketedHost (h : IsNumeric libs address) (hcolon : ':' ∈ address.toList) :
    checkBracketedHost address.toList = true := by
  have hv4 : ipv4Address address.toList = none := by
    rw [ipv4Address]
    split
    · rfl
    · rw [Option.map_eq_none_iff, Option.eq_none_iff_forall_ne_some]
      intro n hn
      rcases mem_of_ipv4Int? hn hcolon with hdigit | hdot
      · exact absurd hdigit (by decide)
      · exact absurd hdot (by decide)
  have hv6 : ∃ n zone, ipAddress address = some (.v6 n zone) := by
    have hpublic := h.isPublic
    rw [isPublicAddress] at hpublic
    cases hread : ipAddress address with
    | none =>
        rw [hread] at hpublic
        cases hpublic
    | some a =>
        simp only [ipAddress, hv4, Option.orElse_eq_orElse, Option.orElse_none, ipv6Address] at hread
        split at hread
        · cases hread
        · split at hread
          · cases hread
          · obtain ⟨n, -, rfl⟩ := Option.map_eq_some_iff.mp hread
            exact ⟨_, _, rfl⟩
  obtain ⟨n, zone, hread⟩ := hv6
  have hversion : ∀ future, address.toList ≠ 'v' :: future := by
    intro future hfuture
    obtain ⟨record, rfl⟩ := h.isRecord
    rw [SocketAddress.text, String.toList_ofList, zoneText] at hfuture
    cases hnumber : record.number.toList with
    | nil =>
        rw [hnumber] at hfuture
        split at hfuture
        · cases hfuture
        · exact absurd (List.cons.inj hfuture).1 (by decide)
    | cons c cs =>
        rw [hnumber] at hfuture
        have hc : isNumberChar c = true :=
          SocketAddress.isNumberChar_of_mem (by rw [hnumber]; exact List.mem_cons_self)
        rw [(List.cons.inj hfuture).1] at hc
        exact absurd hc (by decide)
  rw [checkBracketedHost.eq_def]
  split
  · rename_i future hfuture
    exact absurd hfuture (hversion future)
  · rw [String.ofList_toList, hread]

/-- What follows the host in a netloc. -/
def IsPort (rest : List Char) : Prop := rest = [] ∨ ∃ n, rest = ':' :: Nat.toDigits 10 n

theorem IsPort.mem {rest : List Char} (h : IsPort rest) (hc : c ∈ rest) :
    Urllib.isUnreserved c = true ∨ c = ':' := by
  rcases h with rfl | ⟨n, rfl⟩
  · cases hc
  · rcases List.mem_cons.mp hc with hc | hc
    · exact .inr hc
    · left
      have hdigit := Nat.isDigit_of_mem_toDigits (by decide) (by decide) hc
      simp [Urllib.isUnreserved, Char.isAlphanum, hdigit]

theorem IsPort.notMem {rest : List Char} (h : IsPort rest) (hc : Urllib.isUnreserved c = false)
    (hne : c ≠ ':') : c ∉ rest := by
  intro hmem
  rcases h.mem hmem with hkept | hcolon
  · rw [hkept] at hc
    cases hc
  · exact hne hcolon

theorem toList_withPort (host scheme : String) (port : Nat) :
    ∃ rest, (withPort host scheme port).toList = host.toList ++ rest ∧ IsPort rest := by
  rw [withPort]
  split
  · exact ⟨[], (List.append_nil _).symm, .inl rfl⟩
  · refine ⟨':' :: Nat.toDigits 10 port, ?_, .inr ⟨port, rfl⟩⟩
    have hdigits : (toString port).toList = Nat.toDigits 10 port := String.toList_ofList
    rw [String.toList_append, String.toList_append, hdigits, List.append_assoc]
    rfl

theorem subscriptionScheme_ok {value : String} (h : subscriptionScheme value = .ok scheme) :
    scheme = "http" ∨ scheme = "https" := by
  rw [subscriptionScheme] at h
  by_cases hscheme : lower (strip value) ∉ ["http", "https"]
  · rw [if_pos hscheme] at h
    cases h
  · rw [if_neg hscheme, Except.ok.injEq] at h
    rw [h, not_not] at hscheme
    simpa using hscheme

/-- The netloc of an endpoint, and its host as it is read again. -/
structure IsEndpoint (libs : Libraries) (address : String) (netloc : List Char) : Prop where
  mem : ∀ c ∈ netloc, Urllib.isUnreserved c = true ∨ c ∈ [':', '%', '[', ']']
  brackets : Urllib.hasBadBrackets libs.tables netloc = false
  host : ∀ parsed : Urllib.SplitResult, parsed.netloc = netloc →
    parsed.hostinfo.1 = address.toList

/-- A version four address is not put into brackets. -/
theorem IsNumeric.isEndpoint_bare (h : IsNumeric libs address) (hcolon : ':' ∉ address.toList)
    {rest : List Char} (hrest : IsPort rest) :
    IsEndpoint libs address (address.toList ++ rest) where
  mem := by
    intro c hc
    rcases List.mem_append.mp hc with hc | hc
    · rcases h.mem hc with hkept | rfl | rfl
      · exact .inl hkept
      · exact .inr (by decide)
      · exact .inr (by decide)
    · rcases hrest.mem hc with hkept | rfl
      · exact .inl hkept
      · exact .inr (by decide)
  brackets := by
    have hbracket : ∀ c, Urllib.isUnreserved c = false → c ≠ ':' ∧ c ≠ '%' →
        c ∉ address.toList ++ rest := by
      intro c hc hne hmem
      rcases List.mem_append.mp hmem with hmem | hmem
      · exact h.notMem hc hne hmem
      · exact hrest.notMem hc hne.1 hmem
    exact Urllib.hasBadBrackets_eq_false (hbracket '[' (by decide) (by decide))
      (hbracket ']' (by decide) (by decide))
  host := by
    intro parsed hparsed
    have hhost : '@' ∉ address.toList ∧ ':' ∉ address.toList ∧ '[' ∉ address.toList :=
      ⟨h.notMem (by decide) (by decide), hcolon, h.notMem (by decide) (by decide)⟩
    rcases hrest with rfl | ⟨n, rfl⟩
    · have hport : '@' ∉ ([] : List Char) ∧ '[' ∉ ([] : List Char) := by simp
      exact Urllib.hostinfo_of_bare hparsed (.inl rfl) hhost hport
    · have hport : IsPort (':' :: Nat.toDigits 10 n) := .inr ⟨n, rfl⟩
      have hnone : ∀ c, Urllib.isUnreserved c = false → c ≠ ':' → c ∉ Nat.toDigits 10 n :=
        fun c hc hne hmem => hport.notMem hc hne (List.mem_cons_of_mem _ hmem)
      exact Urllib.hostinfo_of_bare hparsed (.inr rfl) hhost
        ⟨hnone '@' (by decide) (by decide), hnone '[' (by decide) (by decide)⟩

/-- A version six address is put into brackets. -/
theorem IsNumeric.isEndpoint_bracketed (h : IsNumeric libs address) (hcolon : ':' ∈ address.toList)
    {rest : List Char} (hrest : IsPort rest) :
    IsEndpoint libs address ('[' :: (address.toList ++ ']' :: rest)) where
  mem := by
    intro c hc
    simp only [List.mem_cons, List.mem_append] at hc
    rcases hc with rfl | hc | rfl | hc
    · exact .inr (by decide)
    · rcases h.mem hc with hkept | rfl | rfl
      · exact .inl hkept
      · exact .inr (by decide)
      · exact .inr (by decide)
    · exact .inr (by decide)
    · rcases hrest.mem hc with hkept | rfl
      · exact .inl hkept
      · exact .inr (by decide)
  brackets := by
    have hat : '@' ∉ '[' :: (address.toList ++ ']' :: rest) := by
      have haddress : '@' ∉ address.toList := h.notMem (by decide) (by decide)
      have hport : '@' ∉ rest := hrest.notMem (by decide) (by decide)
      simp [haddress, hport]
    have hopen : Urllib.partition '[' ('[' :: (address.toList ++ ']' :: rest)) =
        ([], some (address.toList ++ ']' :: rest)) :=
      Urllib.partition_append_cons List.not_mem_nil _
    have hclose : Urllib.partition ']' (address.toList ++ ']' :: rest) =
        (address.toList, some rest) :=
      Urllib.partition_append_cons (h.notMem (by decide) (by decide)) _
    have hport : (rest.isEmpty || rest.head? == some ':') = true := by
      rcases hrest with rfl | ⟨n, rfl⟩
      · rfl
      · rfl
    have hchecked : checkBracketedNetloc ('[' :: (address.toList ++ ']' :: rest)) = true := by
      simp only [checkBracketedNetloc, Urllib.rpartition_of_notMem hat, hopen, hclose,
        Option.getD_some, hport, h.checkBracketedHost hcolon]
      rfl
    simp [Urllib.hasBadBrackets, Libraries.tables, hchecked]
  host := by
    intro parsed hparsed
    exact Urllib.hostinfo_of_bracketed hparsed
      ⟨h.notMem (by decide) (by decide), h.notMem (by decide) (by decide)⟩
      (hrest.notMem (by decide) (by decide))

theorem IsNumeric.isEndpoint (h : IsNumeric libs address) (scheme : String) (port : Nat) :
    IsEndpoint libs address (withPort (bracketed address) scheme port).toList := by
  obtain ⟨rest, hnetloc, hrest⟩ := toList_withPort (bracketed address) scheme port
  rw [hnetloc, bracketed]
  split
  · rename_i hcolon
    have hsame : ("[" ++ address ++ "]").toList ++ rest =
        '[' :: (address.toList ++ ']' :: rest) := by simp
    rw [hsame]
    exact h.isEndpoint_bracketed hcolon hrest
  · rename_i hcolon
    exact h.isEndpoint_bare hcolon hrest

/-- The host of an endpoint is the address that it was made of. -/
theorem host_requestUrl (h : IsNumeric libs address)
    (hendpoint : requestUrl parsed address port = .ok endpoint) :
    ∃ target, libs.urlsplit endpoint = some target ∧ hostOf target = address := by
  rw [requestUrl] at hendpoint
  obtain ⟨scheme, hscheme, hendpoint⟩ := bind_eq_ok hendpoint
  cases hendpoint
  have hnetloc := h.isEndpoint scheme port
  have hgraphic : ∀ c ∈ (withPort (bracketed address) scheme port).toList,
      Urllib.isGraphic c = true ∧ Urllib.isNetlocChar c = true := by
    intro c hc
    rcases hnetloc.mem c hc with hkept | hmark
    · refine ⟨Urllib.isGraphic_of_isUnreserved hkept, ?_⟩
      have hne : ∀ d, Urllib.isUnreserved d = false → c ≠ d := by
        rintro d hd rfl
        rw [hkept] at hd
        cases hd
      simp [Urllib.isNetlocChar, hne '/' (by decide), hne '?' (by decide), hne '#' (by decide)]
    · have hmarks : ([':', '%', '[', ']'].all fun d =>
          Urllib.isGraphic d && Urllib.isNetlocChar d) = true := by decide
      exact Bool.and_eq_true_iff.mp (List.all_eq_true.mp hmarks c hmark)
  have hpath : (orSlash parsed.path).toList ≠ [] := by
    rw [orSlash]
    split
    · decide
    · rename_i hne
      exact fun hnil => hne (String.toList_eq_nil_iff.mp hnil)
  obtain ⟨read, hread, hnet⟩ : ∃ read, Urllib.urlsplit libs.tables
      (Urllib.urlunsplit scheme.toList (withPort (bracketed address) scheme port).toList
        (orSlash parsed.path).toList parsed.query.toList) = some read ∧
      read.netloc = (withPort (bracketed address) scheme port).toList := by
    obtain ⟨c, rest, htext, halpha, hall, hlower, hlegal⟩ : ∃ c rest, scheme.toList = c :: rest ∧
        c.isAlpha = true ∧ (c :: rest).all Urllib.isSchemeChar = true ∧
        (c :: rest).map Char.toLower = c :: rest ∧
        (c :: rest).all Urllib.isGraphic = true := by
      rcases subscriptionScheme_ok hscheme with rfl | rfl
      · exact ⟨'h', "ttp".toList, by decide, by decide, by decide, by decide, by decide⟩
      · exact ⟨'h', "ttps".toList, by decide, by decide, by decide, by decide, by decide⟩
    obtain ⟨read, hread, -, hnet⟩ := Urllib.urlsplit_urlunsplit halpha hall hlower
      (List.all_eq_true.mp hlegal) (fun d hd => (hgraphic d hd).1) (fun d hd => (hgraphic d hd).2) hnetloc.brackets hpath
    exact ⟨read, by rw [htext]; exact hread, hnet⟩
  have hhost : read.hostname libs.tables = some address.toList := by
    obtain ⟨record, hrecord⟩ := h.isRecord
    have hnumber : (Urllib.partition '%' address.toList).1 = record.number.toList := by
      rw [← hrecord, record.partition_text]
    have hkept : ("0123456789abcdef:.".toList.all fun c =>
        Urllib.isAscii c && c.toLower == c) = true := by decide
    have hnumeric : ∀ c ∈ record.number.toList, Urllib.isAscii c = true ∧ c.toLower = c :=
      fun c hc => by
        have hboth := List.all_eq_true.mp hkept c
          (List.contains_iff_mem.mp (SocketAddress.isNumberChar_of_mem hc))
        rwa [Bool.and_eq_true, beq_iff_eq] at hboth
    apply Urllib.hostname_of_lower (hnetloc.host read hnet) h.ne_nil
    · rw [hnumber]
      exact fun c hc => (hnumeric c hc).1
    · rw [hnumber]
      exact (List.map_congr_left fun c hc => (hnumeric c hc).2).trans (List.map_id _)
  refine ⟨splitUrl libs.tables read, ?_, ?_⟩
  · rw [Libraries.urlsplit, urlunsplit, String.toList_ofList, hread, Option.map_some]
  · rw [hostOf, splitUrl, hhost, Option.map_some, Option.getD_some, String.ofList_toList]

end Endpoint

/-! ## Looking up -/

theorem mem_sortedAddresses {records : List SocketAddress} {address : String} :
    address ∈ sortedAddresses records ↔ address ∈ records.map SocketAddress.text := by
  rw [sortedAddresses, (List.perm_insertionSort _ _).mem_iff, List.mem_dedup]

/-- A lookup is made of a host that is new; if it succeeds, its addresses are vouched for. -/
theorem resolvePublicAddresses_spec (h : Guarded libs session) {host : String} {port : Nat}
    (hnew : host ∉ lookedUp session.effects) {result : Except Failure (List String)}
    (hrun : resolvePublicAddresses libs net session host port = (next, result)) :
    Guarded libs next ∧ requests next.effects = requests session.effects ∧
      ∀ addresses, result = .ok addresses →
        (∀ address ∈ addresses, Vouched libs next.effects host address) ∧
        next.validatedHosts = session.validatedHosts ∧
        lookedUp next.effects = lookedUp session.effects ++ [host] := by
  rw [resolvePublicAddresses] at hrun
  by_cases hlocal : lower host = "localhost"
  · rw [if_pos hlocal] at hrun
    cases hrun
    exact ⟨h, rfl, fun _ hok => by cases hok⟩
  rw [if_neg hlocal] at hrun
  have hrequests : ∀ answer, requests (session.effects ++ [.lookup host answer]) =
      requests session.effects := by
    simp [requests]
  cases hanswer : net.lookup session.effects host port with
  | osError =>
      simp only [hanswer] at hrun
      cases hrun
      exact ⟨h.addLookup _ hnew, hrequests _, fun _ hok => by cases hok⟩
  | raises name =>
      simp only [hanswer] at hrun
      cases hrun
      exact ⟨h.addLookup _ hnew, hrequests _, fun _ hok => by cases hok⟩
  | records records =>
      simp only [hanswer] at hrun
      split at hrun
      · cases hrun
        exact ⟨h.addLookup _ hnew, hrequests _, fun _ hok => by cases hok⟩
      · rename_i hpublic
        cases hrun
        refine ⟨h.addLookup _ hnew, hrequests _, ?_⟩
        rintro addresses hok
        cases hok
        refine ⟨?_, rfl, by simp [lookedUp]⟩
        intro address haddress
        refine ⟨records, List.mem_append_right _ List.mem_cons_self,
          mem_sortedAddresses.mp haddress, ?_⟩
        intro record hrecord
        by_contra hprivate
        exact hpublic (.inr ⟨record.text, mem_sortedAddresses.mpr (List.mem_map_of_mem hrecord),
          Bool.eq_false_iff.mpr hprivate⟩)

/-- A validated host has addresses that are vouched for, and is not looked up again. -/
theorem validatedAddresses_spec (h : Guarded libs session) (hcached : Cached session)
    {host : String} {port : Nat} {result : Except Failure (List String)}
    (hrun : validatedAddresses libs net session host port = (next, result)) :
    Guarded libs next ∧ requests next.effects = requests session.effects ∧
      ∀ addresses, result = .ok addresses →
        Cached next ∧ ∀ address ∈ addresses, Vouched libs next.effects host address := by
  rw [validatedAddresses] at hrun
  cases hlookup : session.validatedHosts.lookup host with
  | some addresses =>
      rw [hlookup] at hrun
      cases hrun
      refine ⟨h, rfl, ?_⟩
      rintro _ hok
      cases hok
      exact ⟨hcached, h.vouched _ (mem_of_lookup hlookup)⟩
  | none =>
      rw [hlookup] at hrun
      have hnew : host ∉ lookedUp session.effects := fun hmem =>
        notMem_of_lookup hlookup (hcached host hmem)
      cases hresolve : resolvePublicAddresses libs net session host port with
      | mk resolved answer =>
          obtain ⟨hguarded, hrequests, hok⟩ := resolvePublicAddresses_spec h hnew hresolve
          simp only [hresolve] at hrun
          cases answer with
          | error e =>
              cases hrun
              exact ⟨hguarded, hrequests, fun _ hok => by cases hok⟩
          | ok addresses =>
              obtain ⟨hvouched, hhosts, hlooked⟩ := hok addresses rfl
              cases hrun
              refine ⟨hguarded.addHost hvouched, hrequests, ?_⟩
              rintro _ hok
              cases hok
              refine ⟨?_, hvouched⟩
              intro other hother
              rw [hlooked] at hother
              rw [List.map_append, hhosts]
              rcases List.mem_append.mp hother with hold | hlast
              · exact List.mem_append_left _ (hcached other hold)
              · exact List.mem_append_right _ hlast

/-! ## Fetching -/

/-- A request is prepared for an approved address. -/
theorem prepareRequest_spec (h : Guarded libs session) (hcached : Cached session)
    {current : String} {result : Except Failure Request}
    (hrun : prepareRequest libs net session current = (next, result)) :
    Guarded libs next ∧ requests next.effects = requests session.effects ∧
      ∀ request, result = .ok request → Cached next ∧ Approved libs next.effects request := by
  rw [prepareRequest] at hrun
  cases hshape : validateUrlShape libs current with
  | error e =>
      rw [hshape] at hrun
      cases hrun
      exact ⟨h, rfl, fun _ hok => by cases hok⟩
  | ok target =>
      obtain ⟨parsed, port⟩ := target
      rw [hshape] at hrun
      simp only at hrun
      cases hvalidated : validatedAddresses libs net session (hostOf parsed) port with
      | mk validated answer =>
          obtain ⟨hguarded, hrequests, hok⟩ := validatedAddresses_spec h hcached hvalidated
          simp only [hvalidated] at hrun
          cases answer with
          | error e =>
              cases hrun
              exact ⟨hguarded, hrequests, fun _ hok => by cases hok⟩
          | ok addresses =>
              obtain ⟨hcached', hvouched⟩ := hok addresses rfl
              cases addresses with
              | nil =>
                  cases hrun
                  exact ⟨hguarded, hrequests, fun _ hok => by cases hok⟩
              | cons address addresses =>
                  simp only at hrun
                  split at hrun
                  · rename_i endpoint header hendpoint hheader
                    cases hrun
                    refine ⟨hguarded, hrequests, ?_⟩
                    rintro request hok
                    cases hok
                    have haddress := hvouched address List.mem_cons_self
                    obtain ⟨target, htarget, hhost⟩ := host_requestUrl haddress.isNumeric hendpoint
                    exact ⟨hcached', parsed, port, target, hshape, htarget, hhost ▸ haddress⟩
                  · cases hrun
                    exact ⟨hguarded, hrequests, fun _ hok => by cases hok⟩
                  · cases hrun
                    exact ⟨hguarded, hrequests, fun _ hok => by cases hok⟩

theorem validateTarget_spec (h : Guarded libs session) (hcached : Cached session)
    {nextUrl : String} {result : Except Failure Unit}
    (hrun : validateTarget libs net session nextUrl = (next, result)) :
    Guarded libs next ∧ requests next.effects = requests session.effects ∧
      (result = .ok () → Cached next) := by
  rw [validateTarget] at hrun
  cases hshape : validateUrlShape libs nextUrl with
  | error e =>
      rw [hshape] at hrun
      cases hrun
      exact ⟨h, rfl, fun hok => by cases hok⟩
  | ok target =>
      obtain ⟨parsed, port⟩ := target
      rw [hshape] at hrun
      simp only at hrun
      cases hvalidated : validatedAddresses libs net session (hostOf parsed) port with
      | mk validated answer =>
          obtain ⟨hguarded, hrequests, hok⟩ := validatedAddresses_spec h hcached hvalidated
          simp only [hvalidated] at hrun
          cases answer with
          | error e =>
              cases hrun
              exact ⟨hguarded, hrequests, fun hok => by cases hok⟩
          | ok addresses =>
              cases hrun
              exact ⟨hguarded, hrequests, fun _ => (hok addresses rfl).1⟩

theorem length_readBody {maxBodyBytes : Int} {data body : Bytes} {chunks : List Bytes}
    (hrun : readBody maxBodyBytes data chunks = .ok body) :
    body = data ∧ chunks = [] ∨ (body.length : Int) ≤ maxBodyBytes := by
  induction chunks generalizing data with
  | nil =>
      cases hrun
      exact .inl ⟨rfl, rfl⟩
  | cons chunk chunks ih =>
      rw [readBody] at hrun
      split at hrun
      · cases hrun
      · rename_i hfits
        rcases ih hrun with ⟨rfl, -⟩ | hbody
        · right
          rw [List.length_append]
          omega
        · exact .inr hbody

/-- A body that is returned is neither empty nor too large. -/
theorem receive_spec {maxBodyBytes : Int} {response : Response} {body : Bytes}
    (hrun : receive maxBodyBytes response = .ok body) :
    body ≠ [] ∧ (body.length : Int) ≤ maxBodyBytes := by
  rw [receive] at hrun
  split at hrun
  · cases hrun
  · cases hread : readBody maxBodyBytes [] response.chunks with
    | error e =>
        rw [hread] at hrun
        cases hrun
    | ok data =>
        rw [hread] at hrun
        simp only at hrun
        split at hrun
        · cases hrun
        · split at hrun
          · cases hrun
          · rename_i hne
            cases hrun
            refine ⟨hne, ?_⟩
            rcases length_readBody hread with ⟨hempty, -⟩ | hbody
            · exact absurd hempty hne
            · exact hbody

/-- What a loop over redirects keeps. -/
theorem fetchLoop_spec (indexes : List Nat) {current : String} (h : Guarded libs session)
    (hcached : Cached session) {result : Except Failure Bytes}
    (hrun : fetchLoop libs net source indexes current session = (next, result)) :
    Guarded libs next ∧
      (requests next.effects).length ≤ (requests session.effects).length + indexes.length ∧
      ∀ body, result = .ok body → body ≠ [] ∧ (body.length : Int) ≤ source.maxBodyBytes := by
  induction indexes generalizing current session with
  | nil =>
      cases hrun
      exact ⟨h, Nat.le_refl _, fun _ hok => by cases hok⟩
  | cons redirectIndex indexes ih =>
      rw [fetchLoop] at hrun
      cases hprepare : prepareRequest libs net session current with
      | mk prepared answer =>
          obtain ⟨hguarded, hrequests, hok⟩ := prepareRequest_spec h hcached hprepare
          simp only [hprepare] at hrun
          cases answer with
          | error e =>
              cases hrun
              refine ⟨hguarded, ?_, fun _ hok => by cases hok⟩
              rw [hrequests]
              omega
          | ok request =>
              obtain ⟨hcached', happroved⟩ := hok request rfl
              have hsent := hguarded.addRequest happroved
              have hcachedSent : Cached { prepared with
                  effects := prepared.effects ++ [.request request] } := by
                intro host hhost
                apply hcached' host
                simpa [lookedUp] using hhost
              have hcount : (requests (prepared.effects ++ [.request request])).length =
                  (requests session.effects).length + 1 := by
                rw [← hrequests]
                simp [requests]
              have hlength : (redirectIndex :: indexes).length = indexes.length + 1 := rfl
              -- Every exit after the request has been sent leaves the session as it is then.
              have hexit : ∀ final, (∀ body, final = .ok body →
                  body ≠ [] ∧ (body.length : Int) ≤ source.maxBodyBytes) →
                  (({ prepared with effects := prepared.effects ++ [.request request] } : Session),
                    final) = (next, result) →
                  Guarded libs next ∧ (requests next.effects).length ≤
                      (requests session.effects).length + (redirectIndex :: indexes).length ∧
                    ∀ body, result = .ok body →
                      body ≠ [] ∧ (body.length : Int) ≤ source.maxBodyBytes := by
                intro final hfinal hsame
                cases hsame
                refine ⟨hsent, ?_, hfinal⟩
                simp only [hcount]
                omega
              simp only at hrun
              split at hrun
              · exact hexit _ (fun _ hok => by cases hok) hrun
              split at hrun
              · split at hrun
                · exact hexit _ (fun _ hok => by cases hok) hrun
                split at hrun
                · exact hexit _ (fun _ hok => by cases hok) hrun
                rename_i nextUrl _
                cases htarget : validateTarget libs net
                    { prepared with effects := prepared.effects ++ [.request request] } nextUrl with
                | mk validated answer =>
                    obtain ⟨hguarded', hrequests', hok'⟩ :=
                      validateTarget_spec hsent hcachedSent htarget
                    simp only [htarget] at hrun
                    cases answer with
                    | error e =>
                        cases hrun
                        refine ⟨hguarded', ?_, fun _ hok => by cases hok⟩
                        rw [hrequests']
                        simp only [hcount]
                        omega
                    | ok u =>
                        obtain ⟨hfinal, hsum, hbody⟩ := ih hguarded' (hok' rfl) hrun
                        refine ⟨hfinal, ?_, hbody⟩
                        rw [hrequests'] at hsum
                        simp only [hcount] at hsum
                        omega
              · exact hexit _ (fun _ hok => receive_spec hok) hrun

/-- Every request of a fetch goes to an endpoint whose host is an address in an answer of public
addresses to a lookup of the host of its URL; no host is looked up twice; the requests and the body
are bounded. -/
theorem fetchSourceBytes_guarded (libs : Libraries) (net : Network) (source : SubscriptionSource) :
    (∀ before request, before ++ [.request request] <+:
        (fetchSourceBytes libs net source).1.effects → Approved libs before request) ∧
      (lookedUp (fetchSourceBytes libs net source).1.effects).Nodup ∧
      (requests (fetchSourceBytes libs net source).1.effects).length ≤
        (source.redirectLimit + 1).toNat ∧
      ∀ body, (fetchSourceBytes libs net source).2 = .ok body →
        body ≠ [] ∧ (body.length : Int) ≤ source.maxBodyBytes := by
  have hcached : Cached ⟨[], []⟩ := fun host hhost => by cases hhost
  obtain ⟨hguarded, hrequests, hbody⟩ := fetchLoop_spec
    (List.range (source.redirectLimit + 1).toNat) (guarded_start libs) hcached
    (Prod.eta (fetchSourceBytes libs net source)).symm
  refine ⟨hguarded.approved, hguarded.once, ?_, hbody⟩
  rw [List.length_range] at hrequests
  exact Nat.le_trans hrequests (by simp [requests])

/-- A client whose server redirects it to another host. -/
def sampleLibraries : Libraries where
  nfkc := id
  lower := id
  urljoin _ location := some location
  isGlobal _ := true

def redirectingNetwork : Network where
  lookup _ host _ :=
    if host = "a.example" then .records [⟨"93.184.216.34", "", by decide, by decide⟩]
    else .records [⟨"2606:4700::6810:84e5", "", by decide, by decide⟩]
  respond _ request :=
    if request.host = "a.example" then
      { opening := .done, statusCode := 302, location := "https://B.example:8443/sub?id=7",
        chunks := [], ending := .done }
    else { opening := .done, statusCode := 200, location := "", chunks := [[1], [2]], ending := .done }

example : ((requests (fetchSourceBytes sampleLibraries redirectingNetwork
      ⟨"http://a.example/start", 10, 3⟩).1.effects).map fun request => request.endpoint) =
    ["http://93.184.216.34/start", "https://[2606:4700::6810:84e5]:8443/sub?id=7"] := by
  decide +kernel

end Grouproxy.SourceFetch
