import EvaluationLab.Python.WholeRuntime
import EvaluationLab.SearchCup.Seal

/-! What evaluation shows of a literal document, and the digest of an ASCII text. -/
namespace EvaluationLab.SearchCup
open Python Effect
open QA0 (Fields)

section Plain

variable [PyRuntime]

/-- Every key comes once, there is no float, nothing is private or beyond the interpreter's limits. -/
def plainLiteral (v : Json) : Bool :=
  floatless v && CSLive.floatsFinite v && intsPrintable v && decide (nesting v ≤ PyRuntime.recursionLimit) &&
    (keysIn v).all (fun k => !privateField k && quickSafe k) && (textsIn v).all quickSafe

structure PlainLiteral (v : Json) : Prop where
  legible : Legible v
  safe : ContentSafe v
  printable : intsPrintable v = true
  shallow : nesting v ≤ PyRuntime.recursionLimit

theorem plain_of_literal {v : Json} (h : plainLiteral v = true) : PlainLiteral v := by
  simp only [plainLiteral, Bool.and_eq_true, decide_eq_true_eq] at h
  obtain ⟨⟨⟨⟨⟨hfloatless, hfinite⟩, hprint⟩, hshallow⟩, hkeys⟩, htexts⟩ := h
  simp only [List.all_eq_true, Bool.and_eq_true] at hkeys
  refine ⟨legible_of_floatless hfloatless, contentSafe_of_quickSafe hfinite ?_ ?_ htexts, hprint, hshallow⟩
  · exact List.all_eq_true.mpr fun k hk => (hkeys k hk).1
  · exact List.all_eq_true.mpr fun k hk => (hkeys k hk).2

end Plain

section Digest

open Python.Whole

/-- `hexdigest` of an ASCII text, taken of its characters. -/
def asciiHex (s : PyStr) : Option PyStr :=
  (Sha256.digestFrom s 63 0 Sha256.initial 0).map fun n => QA0.hexDigest (.ofNat 256 n)

theorem textDigest_of_asciiHex {s d : PyStr} (h : asciiHex s = some d) : encodable s = true ∧ textDigest s = d := by
  obtain ⟨n, hn, rfl⟩ := Option.map_eq_some_iff.mp h
  obtain ⟨hencodable, hsha⟩ := Sha256.sha256_utf8 hn
  refine ⟨hencodable, ?_⟩
  rw [textDigest, show PyRuntime.sha256 (utf8 s) = Sha256.sha256 (utf8 s) from rfl, hsha]

theorem fingerprint_of_asciiHex {v : Json} {d : PyStr} (hprint : intsPrintable v = true)
    (h : asciiHex (render v) = some d) : fingerprint v = .ok d := by
  obtain ⟨hencodable, hdigest⟩ := textDigest_of_asciiHex h
  exact fingerprint_eq_ok_iff.mpr ⟨⟨hprint, hencodable⟩, hdigest.symm⟩

theorem intsPrintable_unsealed {fields : Fields} (h : intsPrintable (.obj fields) = true) :
    intsPrintable (.obj (unsealed fields)) = true := by
  rw [intsPrintable_obj, List.all_eq_true] at h ⊢
  exact fun f hf => h f (List.mem_of_mem_filter hf)

theorem sealable_of_literal {fields : Fields} {d : PyStr} (h : plainLiteral (.obj fields) = true)
    (hdigest : asciiHex (render (.obj (unsealed fields))) = some d) : Sealable fields := by
  have hplain := plain_of_literal h
  exact ⟨hplain.safe, hplain.printable, hplain.shallow, intsPrintable_unsealed hplain.printable,
    (textDigest_of_asciiHex hdigest).1⟩

/-- A literal document that carries its digest. -/
theorem verifySeal_of_literal {fields : Fields} {d : PyStr} (h : plainLiteral (.obj fields) = true)
    (hdigest : asciiHex (render (.obj (unsealed fields))) = some d)
    (hcarried : dictGet fields fingerprintKey = .str d) : verifySeal (.obj fields) = .ok () := by
  rw [verifySeal_ok_iff (plain_of_literal h).legible]
  refine ⟨fields, rfl, sealable_of_literal h hdigest, ?_⟩
  rw [hcarried, sealDigest, (textDigest_of_asciiHex hdigest).2]

end Digest

end EvaluationLab.SearchCup
