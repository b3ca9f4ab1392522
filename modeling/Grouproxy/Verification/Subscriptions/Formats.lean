import Grouproxy.Model.Formats

/-! # Malformed subscriptions

The validators accept a document or refuse it with a code, whatever it is, until they reach a port
that is an infinite number: converting it raises an exception that they do not expect.
-/

namespace Grouproxy.Formats

open Python PyValue Inspection
open Backend (decodeUtf8Sig)
open SingleNode (ParsedSubscription refuse orRefuse)

variable {α β : Type} {value : PyValue} {code : String} {s : Str} {fields item : Dict}

/-! ## Exceptions -/

/-- An exception that nothing expects. -/
def Raises (r : Except Refusal α) : Prop := ∃ name, r = .error (.python name)

/-- A result, or a `SubscriptionError`. -/
def FailsCleanly (r : Except Refusal α) : Prop := ¬ Raises r

@[simp] theorem raises_ok (a : α) : ¬ Raises (.ok a : Except Refusal α) := nofun

@[simp] theorem raises_pure (a : α) : ¬ Raises (pure a : Except Refusal α) := raises_ok a

@[simp] theorem raises_subscription (code : String) :
    ¬ Raises (.error (.subscription code) : Except Refusal α) := by
  rintro ⟨name, h⟩
  cases h

theorem raises_python (name : String) : Raises (.error (.python name) : Except Refusal α) :=
  ⟨name, rfl⟩

/-- A sequence raises in its first part, or in its second after the first. -/
theorem raises_bind {x : Except Refusal α} {f : α → Except Refusal β} :
    Raises (x >>= f) ↔ Raises x ∨ ∃ a, x = .ok a ∧ Raises (f a) := by
  cases x with
  | ok a =>
      constructor
      · intro h
        exact .inr ⟨a, rfl, h⟩
      · rintro (h | ⟨b, hb, h⟩)
        · exact absurd h (raises_ok a)
        · cases hb
          exact h
  | error e =>
      constructor
      · rintro ⟨name, h⟩
        cases h
        exact .inl ⟨name, rfl⟩
      · rintro (⟨name, h⟩ | ⟨b, hb, -⟩)
        · cases h
          exact ⟨name, rfl⟩
        · cases hb

theorem bind_eq_ok_iff {x : Except Refusal α} {f : α → Except Refusal β} {b : β} :
    (x >>= f) = .ok b ↔ ∃ a, x = .ok a ∧ f a = .ok b := by
  cases x with
  | ok a => simp [bind, Except.bind]
  | error e => simp [bind, Except.bind]

theorem exists_eq_ok {x : Except Refusal Unit} : (∃ u, x = .ok u) ↔ x = .ok () :=
  ⟨fun ⟨_, h⟩ => h, fun h => ⟨(), h⟩⟩

theorem pure_eq_ok {u : Unit} : (pure u : Except Refusal Unit) = .ok () ↔ True := by
  rw [iff_true]
  rfl

@[simp] theorem raises_refuse (bad : Prop) [Decidable bad] (code : String) :
    ¬ Raises (refuse bad code) := by
  rw [refuse]
  split <;> simp

theorem refuse_eq_ok {bad : Prop} [Decidable bad] {u : Unit} :
    refuse bad code = .ok u ↔ ¬ bad := by
  rw [refuse]
  by_cases h : bad
  · simp [h]
  · simp [h]

/-! ## Fields -/

/-- A text that is neither blank nor too long, and what is left of it without white space. -/
def IsTextOf (value : PyValue) (s : Str) : Prop :=
  ∃ t, value = .str t ∧ s = t.strip ∧ s ≠ [] ∧ s.length ≤ maxFieldLength

theorem IsTextOf.unique {t : Str} (h : IsTextOf value s) (h' : IsTextOf value t) : s = t := by
  obtain ⟨u, rfl, rfl, -⟩ := h
  obtain ⟨_, ⟨⟩, rfl, -⟩ := h'
  rfl

def IsText (value : PyValue) : Prop := ∃ s, IsTextOf value s

/-- A value other than a truth value that converts to a port. -/
def IsPort (value : PyValue) : Prop :=
  (∀ b, value ≠ .bool b) ∧ ∃ n, intOf value = .ok (some n) ∧ 1 ≤ n ∧ n ≤ 65535

/-- An infinite number. -/
def IsInfinity (value : PyValue) : Prop := ∃ x, value = .float x ∧ isInfinite x = true

@[simp] theorem raises_mapping (value : PyValue) (code : String) :
    ¬ Raises (mapping value code) := by
  cases value <;> simp [mapping]

theorem mapping_eq_ok : mapping value code = .ok fields ↔ value = .dict fields := by
  cases value <;> simp [mapping]

@[simp] theorem raises_string (value : PyValue) (code : String) :
    ¬ Raises (string value code) := by
  cases value with
  | str t =>
      rw [string]
      split <;> simp
  | _ => simp [string]

theorem string_eq_ok : string value code = .ok s ↔ IsTextOf value s := by
  cases value with
  | str t =>
      rw [string]
      split
      · rename_i hbad
        refine ⟨nofun, ?_⟩
        rintro ⟨_, ⟨⟩, rfl, hne, hlength⟩
        rcases hbad with hbad | hbad
        · exact absurd hbad hne
        · exact absurd hlength (Nat.not_le.mpr hbad)
      · rename_i hgood
        obtain ⟨hne, hlength⟩ := not_or.mp hgood
        constructor
        · rintro ⟨⟩
          exact ⟨t, rfl, rfl, hne, Nat.not_lt.mp hlength⟩
        · rintro ⟨_, ⟨⟩, rfl, -⟩
          rfl
  | _ =>
      refine ⟨nofun, ?_⟩
      rintro ⟨_, ⟨⟩, -⟩

theorem raises_intOf : Raises (intOf value) ↔ IsInfinity value := by
  cases value with
  | float x =>
      rw [intOf]
      cases h : isInfinite x with
      | true => simp [IsInfinity, h, raises_python]
      | false => simp [IsInfinity, h]
  | _ => simp [intOf, IsInfinity]

/-- What `port` makes of a converted value. -/
def inRange (code : String) : Option Int → Except Refusal Int
  | none => .error (.subscription code)
  | some n => if n < 1 ∨ 65535 < n then .error (.subscription code) else .ok n

theorem port_eq (h : ∀ b, value ≠ .bool b) (code : String) :
    port value code = (intOf value >>= inRange code) := by
  cases value with
  | bool b => exact absurd rfl (h b)
  | _ => rfl

theorem raises_inRange (code : String) (n? : Option Int) : ¬ Raises (inRange code n?) := by
  cases n? with
  | none => exact raises_subscription code
  | some n =>
      rw [inRange]
      split <;> simp

/-- Only an infinite number makes the conversion of a port raise. -/
theorem raises_port : Raises (port value code) ↔ IsInfinity value := by
  by_cases hbool : ∃ b, value = .bool b
  · obtain ⟨b, rfl⟩ := hbool
    simp [port, IsInfinity]
  · rw [port_eq (not_exists.mp hbool), raises_bind, raises_intOf, or_iff_left]
    rintro ⟨n?, -, h⟩
    exact raises_inRange code n? h

theorem port_eq_ok : (∃ n, port value code = .ok n) ↔ IsPort value := by
  by_cases hbool : ∃ b, value = .bool b
  · obtain ⟨b, rfl⟩ := hbool
    simp [port, IsPort]
  · have hbool := not_exists.mp hbool
    rw [port_eq hbool]
    cases hint : intOf value with
    | error e => simp [IsPort, hint, bind, Except.bind]
    | ok n? =>
        cases n? with
        | none => simp [IsPort, hint, bind, Except.bind, inRange]
        | some n =>
            have hrange : (∃ m, inRange code (some n) = .ok m) ↔ 1 ≤ n ∧ n ≤ 65535 := by
              rw [inRange]
              split
              · rename_i hout
                simp only [reduceCtorEq, exists_false, false_iff]
                omega
              · rename_i hin
                simp only [Except.ok.injEq, exists_eq', true_iff]
                omega
            rw [IsPort, and_iff_right hbool, hint]
            simpa [bind, Except.bind] using hrange

mutual
theorem raises_validateValue (depth : Nat) (value : PyValue) :
    ¬ Raises (validateValue depth value) := by
  cases value with
  | list items =>
      rw [validateValue]
      split_ifs
      · simp
      · simp
      · exact raises_validateItems _ items
  | dict fields =>
      rw [validateValue]
      split_ifs
      · simp
      · simp
      · exact raises_validateFields _ fields
  | _ =>
      simp only [validateValue]
      split_ifs <;> simp
theorem raises_validateItems (depth : Nat) (items : List PyValue) :
    ¬ Raises (validateItems depth items) := by
  cases items with
  | nil => simp [validateItems]
  | cons item items =>
      have hitem := raises_validateValue depth item
      have hitems := raises_validateItems depth items
      rw [validateItems]
      cases h : validateValue depth item with
      | ok u => exact hitems
      | error e =>
          rw [h] at hitem
          exact hitem
theorem raises_validateFields (depth : Nat) (fields : List (PyValue × PyValue)) :
    ¬ Raises (validateFields depth fields) := by
  cases fields with
  | nil => simp [validateFields]
  | cons f fields =>
      obtain ⟨key, item⟩ := f
      have hkey := raises_string key "subscription_invalid_field"
      have hitem := raises_validateValue depth item
      have hfields := raises_validateFields depth fields
      rw [validateFields]
      cases h : string key "subscription_invalid_field" with
      | error e =>
          rw [h] at hkey
          cases e with
          | subscription code => exact raises_subscription code
          | python name => exact absurd (raises_python name) hkey
      | ok s =>
          cases h' : validateValue depth item with
          | ok u => exact hfields
          | error e =>
              rw [h'] at hitem
              exact hitem
end

/-! ## SIP008 -/

/-- A server that passes all checks. -/
def ServerAccepted (server : PyValue) : Prop :=
  ∃ item, server = .dict item ∧ IsText (get item "server") ∧ IsPort (get item "server_port") ∧
    IsText (get item "method") ∧ IsText (get item "password") ∧
    validateValue 0 (.dict item) = .ok ()

/-- The first servers pass, and the next one has an infinite port. -/
def Sip008ReachesInfinity (value : PyValue) : Prop :=
  ∃ document before item after, value = .dict document ∧
    get document "servers" = .list (before ++ .dict item :: after) ∧
    (before ++ .dict item :: after).length ≤ maxSubscriptionNodes ∧
    (∀ server ∈ before, ServerAccepted server) ∧
    IsText (get item "server") ∧ IsInfinity (get item "server_port")

theorem exists_string_eq_ok : (∃ s, string value code = .ok s) ↔ IsText value :=
  exists_congr fun _ => string_eq_ok

theorem sip008Server_eq_ok : sip008Server value = .ok () ↔ ServerAccepted value := by
  simp only [sip008Server, bind_eq_ok_iff, mapping_eq_ok, exists_and_right, exists_string_eq_ok,
    port_eq_ok, ServerAccepted]

theorem raises_sip008Server : Raises (sip008Server value) ↔ ∃ item, value = .dict item ∧
    IsText (get item "server") ∧ IsInfinity (get item "server_port") := by
  simp only [sip008Server, raises_bind, raises_mapping, raises_string, raises_port,
    raises_validateValue, mapping_eq_ok, false_or, and_false, exists_false, or_false,
    exists_and_right, exists_string_eq_ok]

theorem raises_sip008Servers {servers : List PyValue} : Raises (sip008Servers servers) ↔
    ∃ before item after, servers = before ++ .dict item :: after ∧
      (∀ server ∈ before, ServerAccepted server) ∧ IsText (get item "server") ∧
      IsInfinity (get item "server_port") := by
  induction servers with
  | nil => simp [sip008Servers]
  | cons server servers ih =>
      rw [sip008Servers, raises_bind, raises_sip008Server, ih]
      constructor
      · rintro (⟨item, rfl, htext, hport⟩ | ⟨⟨⟩, hserver, before, item, after, rfl, hbefore, hnext⟩)
        · exact ⟨[], item, servers, rfl, by simp, htext, hport⟩
        · refine ⟨server :: before, item, after, rfl, ?_, hnext⟩
          exact List.forall_mem_cons.mpr ⟨sip008Server_eq_ok.mp hserver, hbefore⟩
      · rintro ⟨before, item, after, heq, hbefore, htext, hport⟩
        cases before with
        | nil =>
            obtain ⟨rfl, rfl⟩ := List.cons.inj heq
            exact .inl ⟨item, rfl, htext, hport⟩
        | cons first before =>
            obtain ⟨rfl, rfl⟩ := List.cons.inj heq
            obtain ⟨hfirst, hbefore⟩ := List.forall_mem_cons.mp hbefore
            exact .inr ⟨(), sip008Server_eq_ok.mpr hfirst, before, item, after, rfl, hbefore, htext,
              hport⟩

theorem raises_parseSip008 : Raises (parseSip008 value) ↔ Sip008ReachesInfinity value := by
  simp only [parseSip008, raises_bind, raises_mapping, mapping_eq_ok, false_or]
  constructor
  · rintro ⟨document, rfl, h⟩
    cases hservers : get document "servers" with
    | list servers =>
        rw [hservers] at h
        simp only [raises_bind, raises_refuse, refuse_eq_ok, false_or, not_or, not_lt,
          raises_sip008Servers, raises_pure, and_false, exists_false, or_false] at h
        obtain ⟨_, ⟨-, hlength⟩, before, item, after, rfl, hnext⟩ := h
        exact ⟨document, before, item, after, rfl, hservers, hlength, hnext⟩
    | _ => simp [hservers] at h
  · rintro ⟨document, before, item, after, rfl, hservers, hlength, hnext⟩
    refine ⟨document, rfl, ?_⟩
    rw [hservers]
    simp only [raises_bind, raises_refuse, refuse_eq_ok, false_or, raises_sip008Servers]
    refine ⟨(), ?_, .inl ⟨before, item, after, rfl, hnext⟩⟩
    exact not_or.mpr ⟨by simp, Nat.not_lt.mpr hlength⟩

/-! ## Clash -/

/-- The texts that authenticate a proxy of a kind. -/
def CredentialsAccepted (item : Dict) (kind : Str) : Prop :=
  if kind ∈ texts ["ss", "shadowsocks"] then
    IsText (get item "cipher") ∧ IsText (get item "password")
  else IsText (if isTruthy (get item "password") then get item "password" else get item "uuid")

/-- A proxy of a supported type and with a name, which other proxies of the list do not have. -/
def IsProxy (item : Dict) (names : List Str) (name : Str) : Prop :=
  (∃ kind, IsTextOf (get item "type") kind ∧ lower kind ∈ texts clashTypes) ∧
    IsTextOf (get item "name") name ∧ name ∉ names ∧ IsText (get item "server")

/-- Proxies that pass all checks, with their names, after others with some names. -/
inductive ProxiesAccepted : List Str → List PyValue → List Str → Prop
  | nil (names : List Str) : ProxiesAccepted names [] names
  | cons {names later : List Str} {item : Dict} {name kind : Str} {proxies : List PyValue}
      (proxy : IsProxy item names name) (type : IsTextOf (get item "type") kind)
      (port : IsPort (get item "port")) (credentials : CredentialsAccepted item (lower kind))
      (valid : validateValue 0 (.dict item) = .ok ())
      (rest : ProxiesAccepted (names ++ [name]) proxies later) :
      ProxiesAccepted names (.dict item :: proxies) later

/-- The first proxies pass, and the next one has an infinite port. -/
def ClashReachesInfinity (value : PyValue) : Prop :=
  ∃ document before names item name after, value = .dict document ∧
    get document "proxies" = .list (before ++ .dict item :: after) ∧
    (before ++ .dict item :: after).length ≤ maxSubscriptionNodes ∧
    ProxiesAccepted [] before names ∧ IsProxy item names name ∧ IsInfinity (get item "port")

theorem raises_clashCredentials (item : Dict) (kind : Str) :
    ¬ Raises (clashCredentials item kind) := by
  rw [clashCredentials]
  split
  · simp only [raises_bind, raises_string, raises_pure, and_false, exists_false, or_self,
      not_false_eq_true]
  · simp only [raises_bind, raises_string, raises_pure, and_false, exists_false, or_self,
      not_false_eq_true]

theorem clashCredentials_eq_ok {kind : Str} :
    clashCredentials item kind = .ok () ↔ CredentialsAccepted item kind := by
  rw [clashCredentials, CredentialsAccepted]
  split
  · simp only [bind_eq_ok_iff, exists_and_right, exists_string_eq_ok, pure_eq_ok, and_true]
  · simp only [bind_eq_ok_iff, exists_string_eq_ok, pure_eq_ok, and_true]

theorem raises_clashFields {kind : Str} : Raises (clashFields item kind) ↔
    IsText (get item "server") ∧ IsInfinity (get item "port") := by
  simp only [clashFields, raises_bind, raises_string, raises_port, raises_validateValue,
    raises_clashCredentials, false_or, and_false, exists_false, or_false, exists_and_right,
    exists_string_eq_ok]

theorem clashFields_eq_ok {kind : Str} : clashFields item kind = .ok () ↔
    IsText (get item "server") ∧ IsPort (get item "port") ∧ CredentialsAccepted item kind ∧
      validateValue 0 (.dict item) = .ok () := by
  simp only [clashFields, bind_eq_ok_iff, exists_and_right, exists_string_eq_ok, port_eq_ok,
    exists_eq_ok,
    clashCredentials_eq_ok]

/-- A proxy raises, or it passes and a later one raises. -/
theorem raises_clashProxies_cons {names : List Str} {proxies : List PyValue} :
    Raises (clashProxies names (value :: proxies)) ↔
      (∃ item name, value = .dict item ∧ IsProxy item names name ∧ IsInfinity (get item "port")) ∨
      ∃ item name kind, value = .dict item ∧ IsProxy item names name ∧
        IsTextOf (get item "type") kind ∧ clashFields item (lower kind) = .ok () ∧
        Raises (clashProxies (names ++ [name]) proxies) := by
  simp only [clashProxies, raises_bind, raises_mapping, raises_string, raises_refuse,
    raises_clashFields, mapping_eq_ok, string_eq_ok, refuse_eq_ok, false_or, not_not]
  constructor
  · rintro ⟨item, rfl, kind, hkind, -, htype, name, hname, -, hnew, hrest⟩
    rcases hrest with ⟨hserver, hport⟩ | ⟨_, hfields, hrest⟩
    · exact .inl ⟨item, name, rfl, ⟨⟨kind, hkind, htype⟩, hname, hnew, hserver⟩, hport⟩
    · have hserver := (clashFields_eq_ok.mp hfields).1
      exact .inr ⟨item, name, kind, rfl, ⟨⟨kind, hkind, htype⟩, hname, hnew, hserver⟩, hkind,
        hfields, hrest⟩
  · rintro (⟨item, name, rfl, ⟨⟨kind, hkind, htype⟩, hname, hnew, hserver⟩, hport⟩ |
      ⟨item, name, kind, rfl, ⟨⟨other, hother, htype⟩, hname, hnew, hserver⟩, hkind, hfields, hrest⟩)
    · exact ⟨item, rfl, kind, hkind, (), htype, name, hname, (), hnew, .inl ⟨hserver, hport⟩⟩
    · obtain rfl := hother.unique hkind
      exact ⟨item, rfl, other, hother, (), htype, name, hname, (), hnew, .inr ⟨(), hfields, hrest⟩⟩

theorem raises_clashProxies {names : List Str} {proxies : List PyValue} :
    Raises (clashProxies names proxies) ↔ ∃ before later item name after,
      proxies = before ++ .dict item :: after ∧ ProxiesAccepted names before later ∧
        IsProxy item later name ∧ IsInfinity (get item "port") := by
  induction proxies generalizing names with
  | nil => simp [clashProxies]
  | cons proxy proxies ih =>
      rw [raises_clashProxies_cons]
      constructor
      · rintro (⟨item, name, rfl, hproxy, hport⟩ | ⟨item, name, kind, rfl, hproxy, hkind, hfields, hrest⟩)
        · exact ⟨[], names, item, name, proxies, rfl, .nil names, hproxy, hport⟩
        · obtain ⟨before, later, next, nextName, after, rfl, hbefore, hnext⟩ := ih.mp hrest
          obtain ⟨-, hport, hcredentials, hvalid⟩ := clashFields_eq_ok.mp hfields
          exact ⟨.dict item :: before, later, next, nextName, after, rfl,
            .cons hproxy hkind hport hcredentials hvalid hbefore, hnext⟩
      · rintro ⟨before, later, next, nextName, after, heq, hbefore, hnext⟩
        cases hbefore with
        | nil =>
            obtain ⟨rfl, rfl⟩ := List.cons.inj heq
            exact .inl ⟨next, nextName, rfl, hnext⟩
        | @cons _ _ item name kind before hproxy hkind hport hcredentials hvalid hrest =>
            obtain ⟨rfl, rfl⟩ := List.cons.inj heq
            refine .inr ⟨item, name, kind, rfl, hproxy, hkind, ?_, ih.mpr
              ⟨before, later, next, nextName, after, rfl, hrest, hnext⟩⟩
            exact clashFields_eq_ok.mpr ⟨hproxy.2.2.2, hport, hcredentials, hvalid⟩

theorem raises_parseClash : Raises (parseClash value) ↔ ClashReachesInfinity value := by
  simp only [parseClash, raises_bind, raises_mapping, mapping_eq_ok, false_or]
  constructor
  · rintro ⟨document, rfl, h⟩
    split at h
    · rename_i proxy proxies hproxies
      simp only [raises_bind, raises_refuse, refuse_eq_ok, false_or, not_lt, raises_pure,
        raises_clashProxies, and_false, exists_false, or_false] at h
      obtain ⟨_, hlength, before, names, item, name, after, heq, haccepted, hnext⟩ := h
      rw [heq] at hproxies hlength
      exact ⟨document, before, names, item, name, after, rfl, hproxies, hlength, haccepted, hnext⟩
    · simp [raises_bind] at h
  · rintro ⟨document, before, names, item, name, after, rfl, hproxies, hlength, haccepted, hnext⟩
    refine ⟨document, rfl, ?_⟩
    obtain ⟨proxy, proxies, heq⟩ : ∃ proxy proxies, before ++ .dict item :: after = proxy :: proxies := by
      cases before <;> exact ⟨_, _, rfl⟩
    have hraises := raises_clashProxies.mpr
      ⟨before, names, item, name, after, rfl, haccepted, hnext⟩
    rw [heq] at hproxies hlength hraises
    rw [hproxies]
    simp only [raises_bind, raises_refuse, refuse_eq_ok, false_or]
    exact ⟨(), Nat.not_lt.mpr hlength, .inl hraises⟩

/-! ## sing-box -/

theorem raises_countOutbounds (tags : List Str) (items : List PyValue) :
    ¬ Raises (countOutbounds tags items) := by
  induction items generalizing tags with
  | nil => simp [countOutbounds]
  | cons item items ih =>
      simp only [countOutbounds, raises_bind, raises_mapping, raises_string, false_or, not_exists,
        not_and]
      intro outbound _ kind _
      split
      · exact ih tags
      · simp only [raises_bind, raises_refuse, raises_string, false_or, not_exists, not_and]
        intro _ _ tag _
        split
        · exact ih tags
        · simp only [raises_bind, raises_refuse, raises_validateValue, false_or, not_exists, not_and]
          exact fun _ _ _ _ _ _ => ih _

theorem raises_parseSingbox (value : PyValue) : ¬ Raises (parseSingbox value) := by
  have hitems : ¬ Raises (singboxItems value) := by
    cases value <;> simp [singboxItems]
  simp only [parseSingbox, raises_bind, hitems, raises_pure, false_or, and_false, exists_false,
    or_false, not_exists, not_and]
  intro items _
  cases items with
  | list items =>
      simp only [validateOutbounds, raises_bind, raises_refuse, raises_countOutbounds, raises_pure,
        false_or, and_false, exists_false, not_false_eq_true]
  | _ => simp [validateOutbounds]

/-! ## Versions -/

inductive Format where
  | sip008
  | singbox
  | clash

namespace Format

/-- The validator of a format. -/
def parse : Format → PyValue → Except Refusal ParsedSubscription
  | sip008 => parseSip008
  | singbox => parseSingbox
  | clash => parseClash

/-- The validator comes to an infinite port. -/
def ReachesInfinity : Format → PyValue → Prop
  | sip008, value => Sip008ReachesInfinity value
  | singbox, _ => False
  | clash, value => ClashReachesInfinity value

theorem raises_parse (format : Format) (value : PyValue) :
    Raises (format.parse value) ↔ format.ReachesInfinity value := by
  cases format with
  | sip008 => exact raises_parseSip008
  | singbox => exact iff_of_false (raises_parseSingbox value) id
  | clash => exact raises_parseClash

end Format

variable {libs : Libraries} {text : String} {content : ByteArray} {format : Format}

/-- A value that was read as YAML is taken for a Clash document. -/
def handedYaml : Loaded → Option (Format × PyValue)
  | .value value => some (.clash, value)
  | _ => none

/-- The validator that a text is handed to, and the value that the readers make of it. -/
def handed (libs : Libraries) (text : String) : Option (Format × PyValue) :=
  match libs.jsonLoads text with
  | .value .null => handedYaml (libs.yamlLoad text)
  | .value (.dict document) =>
    if (get? document "servers").isSome then some (.sip008, .dict document)
    else some (.singbox, .dict document)
  | .value decoded => some (.singbox, decoded)
  | .malformed => handedYaml (libs.yamlLoad text)
  | .raises _ => none

/-- A content that the readers turn into a value, and its format. -/
def HandsOver (libs : Libraries) (content : ByteArray) (format : Format) (value : PyValue) : Prop :=
  ∃ text, decodeUtf8Sig content = some text ∧ Ipaddress.strip text ≠ "" ∧
    isNodeLink text = false ∧ handed libs text = some (format, value)

theorem inspectYaml_eq (h : handedYaml (libs.yamlLoad text) = some (format, value)) :
    inspectYaml libs text = format.parse value := by
  rw [inspectYaml]
  cases hloaded : libs.yamlLoad text with
  | value v =>
      rw [hloaded] at h
      cases h
      rfl
  | _ =>
      rw [hloaded] at h
      cases h

theorem inspectDocument_eq (h : handed libs text = some (format, value)) :
    inspectDocument libs text = format.parse value := by
  rw [handed] at h
  rw [inspectDocument]
  cases hloaded : libs.jsonLoads text with
  | value v =>
      rw [hloaded] at h
      cases v with
      | null => exact inspectYaml_eq h
      | dict document =>
          by_cases hservers : (get? document "servers").isSome = true
          · simp only [hservers, if_true] at h ⊢
            cases h
            rfl
          · simp only [hservers] at h ⊢
            cases h
            rfl
      | _ =>
          cases h
          rfl
  | malformed =>
      rw [hloaded] at h
      exact inspectYaml_eq h
  | raises name =>
      rw [hloaded] at h
      cases h

theorem inspectSubscription_eq (h : HandsOver libs content format value) :
    inspectSubscription libs content = format.parse value := by
  obtain ⟨text, hdecode, hblank, hlink, hhanded⟩ := h
  rw [inspectSubscription, hdecode, ← inspectDocument_eq hhanded]
  simp [orRefuse, refuse, hblank, hlink, bind, Except.bind]

/-- A content that is new is stored as a version that says how it was inspected. -/
def Stores (libs : Libraries) (content : ByteArray) (format : Format) (value : PyValue) : Prop :=
  ∀ versions sourceId fetchedAt,
    (∀ v ∈ versions, v.sourceId = sourceId → v.contentHash ≠ libs.sha256 content) →
      ∃ version, recordSubscriptionVersion libs versions sourceId content fetchedAt =
          .ok (version, true, versions ++ [version]) ∧
        version.content = content ∧
        match format.parse value with
        | .ok parsed => version.parseOk = true ∧ version.format = parsed.format ∧
            version.nodeCount = parsed.nodeCount
        | .error (.subscription code) => version.parseOk = false ∧ version.parseError = code
        | .error (.python _) => False

/-- The validator of a format accepts a value or refuses it with a code, and every content that is
read as this value is stored. -/
def MalformedFailsCleanly (format : Format) (value : PyValue) : Prop :=
  FailsCleanly (format.parse value) ∧
    ∀ libs content, HandsOver libs content format value → Stores libs content format value

/-- A new content becomes a version unless an exception escapes the inspection. -/
theorem recordSubscriptionVersion_eq {versions : List SubscriptionVersion} {sourceId : String}
    (hcanonical : canonicalSubscriptionContent libs content = .ok content)
    (hnew : ∀ v ∈ versions, v.sourceId = sourceId → v.contentHash ≠ libs.sha256 content)
    (fetchedAt : Nat) :
    recordSubscriptionVersion libs versions sourceId content fetchedAt =
      (versionOf libs versions sourceId content fetchedAt).map
        fun version => (version, true, versions ++ [version]) := by
  have hfind : versions.find? (fun v => decide (v.sourceId = sourceId ∧
      v.contentHash = libs.sha256 content)) = none := by
    rw [List.find?_eq_none]
    intro v hv
    simpa using hnew v hv
  rw [recordSubscriptionVersion, hcanonical]
  dsimp only [bind, Except.bind]
  rw [hfind]
  cases versionOf libs versions sourceId content fetchedAt <;> rfl

theorem stores_of_failsCleanly (hclean : FailsCleanly (format.parse value))
    (h : HandsOver libs content format value) : Stores libs content format value := by
  intro versions sourceId fetchedAt hnew
  have hinspect := inspectSubscription_eq h
  obtain ⟨text, hdecode, -, hlink, -⟩ := h
  have hcanonical : canonicalSubscriptionContent libs content = .ok content := by
    simp [canonicalSubscriptionContent, hdecode, hlink]
  rw [recordSubscriptionVersion_eq hcanonical hnew, versionOf, hinspect]
  cases hparse : format.parse value with
  | ok parsed => exact ⟨_, rfl, rfl, rfl, rfl, rfl⟩
  | error e =>
      cases e with
      | subscription code => exact ⟨_, rfl, rfl, rfl, rfl⟩
      | python name =>
          rw [hparse] at hclean
          exact absurd (raises_python name) hclean

/-- A malformed subscription fails cleanly exactly where no infinite port is reached. -/
theorem malformedFailsCleanly_iff (format : Format) (value : PyValue) :
    MalformedFailsCleanly format value ↔ ¬ format.ReachesInfinity value := by
  rw [← Format.raises_parse]
  exact ⟨And.left, fun hclean => ⟨hclean, fun _ _ h => stores_of_failsCleanly hclean h⟩⟩

/-- A server of SIP008 whose port is an infinite number. -/
def infiniteServer : PyValue :=
  .dict [(.str (Str.ofString "server"), .str (Str.ofString "example.org")),
    (.str (Str.ofString "server_port"), .float ⟨"+Inf", "", none⟩)]

theorem not_malformedFailsCleanly :
    ¬ ∀ format value, MalformedFailsCleanly format value := by
  intro h
  have hraises : parseSip008 (.dict [(.str (Str.ofString "servers"), .list [infiniteServer])]) =
      .error (.python "OverflowError") := by
    rfl
  exact (h .sip008 _).1 ⟨"OverflowError", hraises⟩

end Grouproxy.Formats
