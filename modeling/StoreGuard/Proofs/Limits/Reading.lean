import Mathlib.Tactic.SplitIfs
import StoreGuard.Limits.Reading
import StoreGuard.Proofs.Json.Tree

namespace StoreGuard.Limits

variable {l : Limits} {text : String} {contents : FileContents}

/-- A TOML document gives limits: its members are taken, a field that it leaves out has its standard
value, and nothing is limited to zero. -/
inductive GivenBy (text : String) : Limits → Prop where
  | document {members : List (String × Found)} {draft : Draft}
      (hdocument : Toml.document text = some members)
      (htaken : takeMembers .blank members = .ok draft)
      (hlength : draft.build.maxKeyLength ≠ 0) (hsize : draft.build.maxValueSize ≠ 0) :
      GivenBy text draft.build

theorem limitOf_eq_ok_iff {f : Found} {n : UInt64} : limitOf f = .ok n ↔ f = .whole n.toNat := by
  cases f with
  | whole k =>
    simp only [limitOf]
    split_ifs with hk
    · rw [Bool.and_eq_true, decide_eq_true_iff, Json.fitsWord_iff] at hk
      have hround : (UInt64.ofNat k.toNat).toNat = k.toNat :=
        UInt64.toNat_ofNat_of_lt' (by rw [UInt64.size]; omega)
      rw [Except.ok.injEq, Found.whole.injEq, ← UInt64.toNat_inj, hround]
      omega
    · have hfits : fitsWord n.toNat = true := Json.fitsWord_natCast n.toNat_lt_size
      have hne : k ≠ n.toNat := by
        intro heq
        rw [heq, hfits] at hk
        simp at hk
      simp [hne]
  | _ => simp [limitOf]

theorem limitOf_toNat (n : UInt64) : limitOf (.whole n.toNat) = .ok n := limitOf_eq_ok_iff.2 rfl

theorem fault?_eq_none_iff : l.fault? = none ↔ l.maxKeyLength ≠ 0 ∧ l.maxValueSize ≠ 0 := by
  rw [fault?]
  split_ifs with hlength hsize
  · simp [hlength]
  · simp [hsize]
  · simp [hlength, hsize]

theorem ofToml_eq_ok_iff : ofToml text = .ok l ↔ GivenBy text l := by
  rw [ofToml]
  constructor
  · intro h
    cases hdocument : Toml.document text with
    | none => simp [hdocument] at h
    | some members =>
      cases htaken : takeMembers .blank members with
      | error m => simp [hdocument, htaken] at h
      | ok draft =>
        cases hfault : draft.build.fault? with
        | some fault => simp [hdocument, htaken, hfault] at h
        | none =>
          simp only [hdocument, htaken, hfault, Except.ok.injEq] at h
          subst h
          obtain ⟨hlength, hsize⟩ := fault?_eq_none_iff.1 hfault
          exact .document hdocument htaken hlength hsize
  · rintro ⟨hdocument, htaken, hlength, hsize⟩
    simp [hdocument, htaken, fault?_eq_none_iff.2 ⟨hlength, hsize⟩]

theorem ofFile_eq_ok_iff {path : String} : ofFile path contents = .ok l ↔
    ∃ bytes text, contents = .ok bytes ∧ String.fromUTF8? bytes = some text ∧ GivenBy text l := by
  cases contents with
  | error fault => simp [ofFile]
  | ok bytes =>
    cases htext : String.fromUTF8? bytes with
    | none => simp [ofFile, htext]
    | some text => simp [ofFile, htext, ofToml_eq_ok_iff]

end StoreGuard.Limits
