import Mathlib.Algebra.GroupWithZero.Nat
import Grouproxy.Model.Backups

/-! # The names of members

A member is named after its collection and the index of its chunk, and the name gives both back.
Members under such names are read.
-/

namespace Grouproxy.Backups

open Text Value Encoding Lines

/-! ## Indexes -/

theorem ofDigitChars_paddedIndex (index : Nat) :
    Nat.ofDigitChars 10 (paddedIndex index) 0 = index := by
  rw [paddedIndex, Nat.ofDigitChars_append, Nat.ofDigitChars_replicate_zero, Nat.mul_zero,
    Nat.ofDigitChars_ten_toDigits]

theorem paddedIndex_inj {i j : Nat} (h : paddedIndex i = paddedIndex j) : i = j := by
  rw [← ofDigitChars_paddedIndex i, h, ofDigitChars_paddedIndex]

/-- An index takes eight digits as long as it has no more. -/
theorem length_paddedIndex {index : Nat} (h : index < 10 ^ 8) : (paddedIndex index).length = 8 := by
  have hlength : (Nat.toDigits 10 index).length ≤ 8 :=
    (Nat.length_toDigits_le_iff (by decide) (by decide)).mpr h
  rw [paddedIndex, List.length_append, List.length_replicate]
  omega

theorem isDigit_of_mem_paddedIndex {index : Nat} {c : Char} (h : c ∈ paddedIndex index) :
    c.isDigit = true := by
  rcases List.mem_append.mp h with hzero | hdigit
  · rw [List.eq_of_mem_replicate hzero]
    rfl
  · exact Nat.isDigit_of_mem_toDigits (by decide) (by decide) hdigit

/-- The decimal digits of ASCII are decimal digits. -/
theorem isSome_digit?_of_isDigit {c : Char} (h : c.isDigit = true) :
    (Inspection.digit? c).isSome = true := by
  simp only [Char.isDigit, Bool.and_eq_true, decide_eq_true_eq, ge_iff_le,
    UInt32.le_iff_toNat_le] at h
  have hlo : 48 ≤ c.toNat := h.1
  have hhi : c.toNat < 58 := Nat.lt_succ_of_le h.2
  simp [Inspection.digit?, Inspection.digitZeros, hlo, hhi]

/-! ## Names -/

theorem isCollectionName_iff {name : String} :
    isCollectionName name = true ↔ name.toList ≠ [] ∧ '/' ∉ name.toList := by
  simp [isCollectionName]

/-- A directory, a name, an index and a suffix, split at the slashes after the directory. -/
theorem splitOn_drop {directory name index suffix : List Char} (hname : '/' ∉ name)
    (hindex : '/' ∉ index) (hsuf : '/' ∉ suffix) :
    ((directory ++ name ++ '/' :: index ++ suffix).drop directory.length).splitOn '/' =
      [name, index ++ suffix] := by
  have hrest : '/' ∉ index ++ suffix := fun hmem =>
    (List.mem_append.mp hmem).elim hindex hsuf
  rw [List.append_assoc, List.append_assoc, List.drop_left, List.cons_append,
    List.splitOn_append_cons_self_of_not_mem hname, List.splitOn_eq_singleton hrest]

theorem slash_not_mem_paddedIndex (index : Nat) : '/' ∉ paddedIndex index := by
  intro hmem
  exact absurd (isDigit_of_mem_paddedIndex hmem) (by decide)

theorem toList_chunkMemberName (name : String) (index : Nat) :
    (chunkMemberName name index).toList =
      "collections/".toList ++ name.toList ++ '/' :: paddedIndex index ++ ".jsonl".toList :=
  String.toList_ofList

/-- What follows the directory of the collections. -/
theorem splitOn_chunkMemberName {name : String} (h : isCollectionName name = true) (index : Nat) :
    ((chunkMemberName name index).toList.drop "collections/".toList.length).splitOn '/' =
      [name.toList, paddedIndex index ++ ".jsonl".toList] := by
  rw [toList_chunkMemberName]
  exact splitOn_drop (isCollectionName_iff.mp h).2 (slash_not_mem_paddedIndex index) (by decide)

theorem prefix_chunkMemberName (name : String) (index : Nat) :
    "collections/".toList <+: (chunkMemberName name index).toList := by
  rw [toList_chunkMemberName]
  generalize "collections/".toList = directory
  rw [List.append_assoc, List.append_assoc]
  exact List.prefix_append _ _

theorem suffix_chunkMemberName (name : String) (index : Nat) :
    ".jsonl".toList <:+ (chunkMemberName name index).toList := by
  rw [toList_chunkMemberName]
  generalize ".jsonl".toList = suffix
  exact List.suffix_append _ _

theorem take_length_sub (index suffix : List Char) :
    (index ++ suffix).take ((index ++ suffix).length - suffix.length) = index := by
  rw [List.length_append, Nat.add_sub_cancel, List.take_left]

theorem collectionNameFromMember_chunkMemberName {name : String} (h : isCollectionName name = true)
    {index : Nat} (hindex : index < 10 ^ 8) :
    collectionNameFromMember (chunkMemberName name index) = some name := by
  have hpre := prefix_chunkMemberName name index
  have hsuf := suffix_chunkMemberName name index
  have hsplit := splitOn_chunkMemberName h index
  have hdigits : (paddedIndex index).all (fun c => (Inspection.digit? c).isSome) = true := by
    rw [List.all_eq_true]
    intro c hc
    exact isSome_digit?_of_isDigit (isDigit_of_mem_paddedIndex hc)
  rw [collectionNameFromMember]
  generalize ".jsonl".toList = suffix at *
  dsimp only
  rw [if_pos ⟨hpre, hsuf⟩, hsplit]
  dsimp only
  rw [take_length_sub, if_pos ⟨(isCollectionName_iff.mp h).1, List.suffix_append _ _,
    length_paddedIndex hindex, hdigits⟩, String.ofList_toList]

/-- Chunks of different collections, and different chunks of one, have different names. -/
theorem chunkMemberName_inj {name other : String} (h : isCollectionName name = true)
    (h' : isCollectionName other = true) {i j : Nat}
    (heq : chunkMemberName name i = chunkMemberName other j) : name = other ∧ i = j := by
  have hsplit := splitOn_chunkMemberName h i
  rw [heq, splitOn_chunkMemberName h' j, List.cons_eq_cons, List.cons_eq_cons] at hsplit
  exact ⟨(String.toList_inj.mp hsplit.1).symm,
    paddedIndex_inj (List.append_cancel_right hsplit.2.1).symm⟩

theorem chunkMemberName_ne_manifest (name : String) (index : Nat) :
    chunkMemberName name index ≠ "manifest.json" := by
  intro heq
  have hpre := prefix_chunkMemberName name index
  rw [heq] at hpre
  revert hpre
  decide

/-! ## Reading the members -/

/-- Members that are named and sized as they should be are read in order. -/
theorem readMembers_ok (memberLimit archiveLimit : Nat) (read : Files) (total : Nat) (files : Files)
    (hname : ∀ file ∈ files, file.1 = "manifest.json" ∨
      (collectionNameFromMember file.1).isSome = true)
    (hnodup : (read.map Prod.fst ++ files.map Prod.fst).Nodup)
    (hsize : ∀ file ∈ files, file.2.length ≤ memberLimit)
    (htotal : total + (files.map fun file => file.2.length).sum ≤ archiveLimit) :
    ∃ total', (files.map fun file => tarMember file.1 file.2).foldlM
      (readMember memberLimit archiveLimit) (read, total) = .ok (read ++ files, total') := by
  induction files generalizing read total with
  | nil => exact ⟨total, by rw [List.append_nil]; rfl⟩
  | cons file files ih =>
      have hnames : (file.1 == "manifest.json" || (collectionNameFromMember file.1).isSome) = true := by
        rcases hname file List.mem_cons_self with hmanifest | hcollection
        · simp [hmanifest]
        · simp [hcollection]
      have hnew : file.1 ∉ read.map Prod.fst := fun hmem =>
        List.disjoint_of_nodup_append hnodup hmem List.mem_cons_self
      have hfits := hsize file List.mem_cons_self
      rw [List.map_cons, List.sum_cons] at htotal
      have hstep : readMember memberLimit archiveLimit (read, total) (tarMember file.1 file.2) =
          .ok (read ++ [file], total + file.2.length) := by
        have hcontent : file.2.take (memberLimit + 1) = file.2 :=
          List.take_of_length_le (Nat.le_succ_of_le hfits)
        have hfits' : ¬ memberLimit < file.2.length := Nat.not_lt.mpr hfits
        have htotal' : ¬ archiveLimit < total + file.2.length := by omega
        simp only [readMember, tarMember, hnames, hcontent, Bool.true_eq_false, or_self, hnew, hfits',
          htotal', if_false]
      obtain ⟨total', hrest⟩ := ih (read ++ [file]) (total + file.2.length)
        (fun other hother => hname other (List.mem_cons_of_mem _ hother)) (by simpa using hnodup)
        (fun other hother => hsize other (List.mem_cons_of_mem _ hother)) (by omega)
      refine ⟨total', ?_⟩
      rw [List.map_cons, List.foldlM_cons, hstep]
      rw [List.append_assoc] at hrest
      exact hrest

end Grouproxy.Backups
