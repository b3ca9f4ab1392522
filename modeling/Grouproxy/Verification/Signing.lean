import Mathlib
import Grouproxy.Model.Crypto

/-! # Agreement of the two signature implementations

The backend signs the text of one JSON encoder and the monitor verifies the text of
another. They agree on a bundle exactly if no signed text holds a Unicode line separator.
-/

namespace Grouproxy.Crypto

open Text Value Encoding Grouproxy.Bundle

/-! ## Digests as text -/

theorem digitChar_inj_aux : ∀ a < 16, ∀ b < 16, Nat.digitChar a = Nat.digitChar b → a = b := by
  decide

theorem byte_eq_of_hex {a b : UInt8}
    (hhigh : Nat.digitChar (a.toNat / 16) = Nat.digitChar (b.toNat / 16))
    (hlow : Nat.digitChar (a.toNat % 16) = Nat.digitChar (b.toNat % 16)) : a = b := by
  have ha := a.toNat_lt
  have hb := b.toNat_lt
  have hh := digitChar_inj_aux _ (by omega) _ (by omega) hhigh
  have hl := digitChar_inj_aux _ (by omega) _ (by omega) hlow
  apply UInt8.toNat_inj.mp
  omega

theorem hexdigest_injective : Function.Injective hexdigest := by
  intro xs ys h
  have hl := congrArg String.toList h
  simp only [hexdigest, String.toList_ofList] at hl
  clear h
  induction xs generalizing ys with
  | nil =>
      cases ys with
      | nil => rfl
      | cons y ys => simp at hl
  | cons x xs ih =>
      cases ys with
      | nil => simp at hl
      | cons y ys =>
          simp only [List.flatMap_cons, List.cons_append, List.nil_append, List.cons.injEq] at hl
          obtain ⟨hhigh, hlow, hrest⟩ := hl
          rw [byte_eq_of_hex hhigh hlow, ih hrest]

theorem isPlainText_hexdigest (digest : List UInt8) : isPlainText (hexdigest digest) = true := by
  simp only [isPlainText, hexdigest, String.toList_ofList, List.all_eq_true, List.mem_flatMap]
  rintro c ⟨b, -, hc⟩
  have hb := b.toNat_lt
  simp only [List.mem_cons, List.not_mem_nil, or_false] at hc
  rcases hc with rfl | rfl
  · rw [isLineSeparator_digitChar _ (by omega)]
    rfl
  · rw [isLineSeparator_digitChar _ (by omega)]
    rfl

/-! ## Canonical bytes -/

theorem textBytes_injective : Function.Injective textBytes := by
  intro xs ys h
  have hs : String.ofList xs = String.ofList ys := by
    apply String.toByteArray_inj.mp
    exact h
  exact String.ofList_injective hs

/-- The two encoders give the same bytes exactly for plain values. -/
theorem canonicalJson_eq_canonical_iff (d : Dict) :
    canonicalJson (.obj d) = canonical (decodedFields d) ↔ (Json.obj d).isPlain = true := by
  rw [canonicalJson, canonical, textBytes_injective.eq_iff]
  exact dumps_eq_encode_iff (.obj d)

theorem without_decodedFields (d : Dict) (keys : List String) :
    without (decodedFields d) keys = decodedFields (d.filter fun f => f.1 ∉ keys) := by
  rw [decodedFields_eq, decodedFields_eq, without, List.filter_map]
  rfl

theorem filter_set {d : Dict} {key : String} {keys : List String} (value : Json) (hk : key ∈ keys) :
    (Dict.set d key value).filter (fun f => f.1 ∉ keys) = d.filter fun f => f.1 ∉ keys := by
  rw [Dict.set, List.filter_cons_of_neg (by simpa using hk), List.filter_filter]
  apply List.filter_congr
  intro f _
  by_cases hf : f.1 ∈ keys
  · simp [hf]
  · have hne : f.1 ≠ key := fun h => hf (h ▸ hk)
    simp [hf, hne]

theorem get_set_self (d : Dict) (key : String) (value : Json) :
    (decodedFields (Dict.set d key value)).get key = decoded value := by
  simp [Dict.set, decodedFields, Fields.get, Fields.get?_cons]

theorem get?_filter_ne (d : Dict) {key other : String} (h : other ≠ key) :
    (decodedFields (d.filter fun f => f.1 ≠ key)).get? other = (decodedFields d).get? other := by
  induction d with
  | nil => rfl
  | cons f d ih =>
      obtain ⟨k, v⟩ := f
      by_cases hk : k = key
      · rw [List.filter_cons_of_neg (by simpa using hk), ih, decodedFields, Fields.get?_cons,
          if_neg (hk ▸ h)]
      · rw [List.filter_cons_of_pos (by simpa using hk), decodedFields, decodedFields,
          Fields.get?_cons, Fields.get?_cons, ih]

theorem get_set_ne (d : Dict) {key other : String} (value : Json) (h : other ≠ key) :
    (decodedFields (Dict.set d key value)).get other = (decodedFields d).get other := by
  rw [Fields.get, Fields.get, Dict.set, decodedFields, Fields.get?_cons, if_neg h,
    get?_filter_ne d h]

/-! ## Signing and verifying -/

section Agreement

variable (h : Hashes) (bundle : Dict) (secret : String)

theorem hash_signBundle :
    hash h (decodedFields (signBundle h bundle secret)) =
      hexdigest (h.sha256 (canonical (decodedFields (bundleHashInput bundle)))) := by
  have hfilter : (signBundle h bundle secret).filter (fun f => f.1 ∉ ["bundle_hash", "mac"]) =
      bundleHashInput bundle := by
    rw [signBundle, filter_set _ (by decide), filter_set _ (by decide)]
    rfl
  rw [Bundle.hash, without_decodedFields, hfilter]

theorem storedHash_signBundle :
    stringValue ((decodedFields (signBundle h bundle secret)).get "bundle_hash") =
      calculateBundleHash h bundle := by
  rw [signBundle, get_set_ne _ _ (by decide), get_set_self, decoded, stringValue_str]

/-- The part of a signed bundle that the message authentication code covers. -/
theorem isPlain_unsignedMac (hplain : (Json.obj (bundleHashInput bundle)).isPlain = true) :
    (Json.obj (unsignedMac
      (Dict.set bundle "bundle_hash" (.str (calculateBundleHash h bundle))))).isPlain = true := by
  rw [Json.isPlain, isPlainFields_iff] at hplain ⊢
  intro f hf
  simp only [unsignedMac, Dict.set, List.mem_filter, List.mem_cons, decide_eq_true_eq] at hf
  obtain ⟨rfl | ⟨hmem, hne⟩, hmac⟩ := hf
  · refine ⟨?_, ?_⟩
    · change isPlainText "bundle_hash" = true
      decide +kernel
    · rw [Json.isPlain]
      exact isPlainText_hexdigest _
  · refine hplain f (List.mem_filter.mpr ⟨hmem, ?_⟩)
    simp only [List.not_mem_nil, or_false, List.mem_cons, not_or, decide_eq_true_eq] at hmac ⊢
    exact ⟨hne, hmac⟩

theorem verify_signBundle_of_plain (hplain : (Json.obj (bundleHashInput bundle)).isPlain = true) :
    verify h (decodedFields (signBundle h bundle secret)) secret =
      .ok (calculateBundleHash h bundle) := by
  have hhash : hash h (decodedFields (signBundle h bundle secret)) =
      calculateBundleHash h bundle := by
    rw [hash_signBundle, calculateBundleHash, (canonicalJson_eq_canonical_iff _).mpr hplain]
  have hfilter : ∀ d : Dict, ∀ mac : Json,
      (Dict.set d "mac" mac).filter (fun f => f.1 ∉ ["mac"]) = unsignedMac d := fun d mac =>
    filter_set mac (by decide)
  have hmac : stringValue ((decodedFields (signBundle h bundle secret)).get "mac") =
      hexdigest (h.hmacSha256 secret.toUTF8
        (canonical (without (decodedFields (signBundle h bundle secret)) ["mac"]))) := by
    rw [signBundle, get_set_self, decoded, stringValue_str, without_decodedFields, hfilter,
      (canonicalJson_eq_canonical_iff _).mpr (isPlain_unsignedMac h bundle hplain)]
  rw [verify]
  simp only [hhash, storedHash_signBundle, hmac, ne_eq, not_true_eq_false, if_false]

/-- The monitor accepts a signed bundle and returns the stored hash exactly if the signed
content is plain. SHA-256 is assumed to tell the two encodings of that content apart. -/
theorem verify_signBundle_iff
    (hsha : h.sha256 (canonicalJson (.obj (bundleHashInput bundle))) =
        h.sha256 (canonical (decodedFields (bundleHashInput bundle))) →
      canonicalJson (.obj (bundleHashInput bundle)) =
        canonical (decodedFields (bundleHashInput bundle))) :
    (canonicalJson (.obj (bundleHashInput bundle)) =
        canonical (decodedFields (bundleHashInput bundle)) ↔
      (Json.obj (bundleHashInput bundle)).isPlain = true) ∧
    (verify h (decodedFields (signBundle h bundle secret)) secret =
        .ok (calculateBundleHash h bundle) ↔
      (Json.obj (bundleHashInput bundle)).isPlain = true) := by
  refine ⟨canonicalJson_eq_canonical_iff _, ?_, verify_signBundle_of_plain h bundle secret⟩
  intro hverify
  rw [← canonicalJson_eq_canonical_iff]
  apply hsha
  by_contra hne
  have hmismatch : hash h (decodedFields (signBundle h bundle secret)) ≠
      stringValue ((decodedFields (signBundle h bundle secret)).get "bundle_hash") := by
    rw [hash_signBundle, storedHash_signBundle, calculateBundleHash]
    exact fun heq => hne (hexdigest_injective heq).symm
  rw [verify] at hverify
  simp only [hmismatch, ne_eq, not_false_eq_true, if_true] at hverify
  cases hverify

end Agreement

/-- A bundle with an inlined subscription. -/
def sampleBundle (content : String) : Dict :=
  [("subscription", .obj [("content", .str content)])]

/-- The digests of the samples below. -/
def sampleHashes : Hashes where
  sha256 bytes :=
    if bytes = canonicalJson (.obj (sampleBundle "ab")) then
      [185, 24, 173, 249, 55, 85, 118, 29, 102, 191, 221, 169, 145, 227, 200, 107, 224, 31, 19,
        104, 170, 41, 152, 90, 87, 246, 6, 162, 47, 225, 59, 242]
    else if bytes = canonicalJson (.obj (sampleBundle "a\u2028b")) then
      [162, 239, 99, 62, 167, 15, 35, 226, 36, 61, 11, 232, 222, 222, 119, 253, 12, 149, 167, 45,
        113, 150, 155, 192, 138, 63, 136, 227, 121, 247, 94, 106]
    else
      [160, 86, 186, 225, 40, 123, 36, 15, 118, 194, 250, 145, 64, 255, 16, 7, 255, 177, 43, 105,
        253, 82, 26, 120, 82, 96, 183, 11, 153, 51, 25, 187]
  hmacSha256 _ _ :=
    [205, 165, 207, 196, 98, 241, 114, 231, 190, 238, 87, 45, 57, 58, 41, 52, 56, 217, 29, 14, 210,
      53, 22, 189, 2, 19, 126, 3, 147, 100, 194, 91]

theorem verify_signBundle_sample :
    (canonicalJson (.obj (bundleHashInput (sampleBundle "ab"))) =
        canonical (decodedFields (bundleHashInput (sampleBundle "ab"))) ↔
      (Json.obj (bundleHashInput (sampleBundle "ab"))).isPlain = true) ∧
    (verify sampleHashes (decodedFields (signBundle sampleHashes (sampleBundle "ab") "secret"))
        "secret" = .ok (calculateBundleHash sampleHashes (sampleBundle "ab")) ↔
      (Json.obj (bundleHashInput (sampleBundle "ab"))).isPlain = true) :=
  verify_signBundle_iff sampleHashes (sampleBundle "ab") "secret" (fun _ => by decide +kernel)

/-- A line separator in a subscription makes the monitor reject the signed bundle. -/
theorem lineSeparator_rejected :
    canonicalJson (.obj (bundleHashInput (sampleBundle "a\u2028b"))) ≠
        canonical (decodedFields (bundleHashInput (sampleBundle "a\u2028b"))) ∧
      verify sampleHashes
        (decodedFields (signBundle sampleHashes (sampleBundle "a\u2028b") "secret")) "secret" =
        .error "bundle_hash_mismatch" := by
  constructor
  · decide +kernel
  · decide +kernel

end Grouproxy.Crypto
