import EvaluationLab.SearchCup.Literal
import EvaluationLab.SearchCup.SearchSpec

/-! Declarations that leave nothing but judgment, and a small one that is frozen. -/
namespace EvaluationLab.SearchCup
open Python Effect
open QA0 (Fields)

section JudgmentOnly

variable [PyRuntime]

/-- A declaration for judgment only has no retriever, no search unit and no search, result or
verification to spend. -/
theorem SearchSpecV2.judgmentOnly (spec : SearchSpecV2) (h : hasTrack spec.asDict "JUDGMENT_ONLY" = true) :
    get spec.asDict "retriever" = .null ∧ get (get spec.asDict "resources") "search_unit" = .str "NONE" ∧
      ∀ k ∈ (["max_search_calls", "max_search_turns", "max_results_per_call", "max_follow_links"] : List PyStr),
        asInt (get (get spec.asDict "resources") k) = 0 := by
  have hvalid := spec.valid
  unfold validateSearchSpec at hvalid
  simp only [bind_eq_ok_iff, exists_unit_iff] at hvalid
  have htrack := hvalid.2.2.2.2.2.1
  unfold checkTrack at htrack
  simp only [h, if_true, bind_eq_ok_iff, exists_unit_iff, check_eq_ok_iff] at htrack
  obtain ⟨⟨-, -, hretriever⟩, ⟨hzero, hunit⟩, -⟩ := htrack
  refine ⟨?_, ?_, hzero⟩
  · revert hretriever
    cases get spec.asDict "retriever" <;> simp [Json.isNull]
  · revert hunit
    cases get (get spec.asDict "resources") "search_unit" <;> simp [Json.isStr]

end JudgmentOnly

open Python.Whole in
/-- A literal declaration that carries its digest and passes the checks of its parts. -/
theorem validateSearchSpec_of_literal {fields : Fields} {d : PyStr} (hcarried : dictGet fields fingerprintKey = .str d)
    (h : plainLiteral (.obj fields) = true ∧ asciiHex (render (.obj (unsealed fields))) = some d ∧
      validateContract searchSpecSchema (.obj fields) = .ok () ∧ checkBindings (.obj fields) = .ok () ∧
      checkControls (.obj fields) = .ok () ∧ checkTrack (.obj fields) = .ok () ∧ checkPackages (.obj fields) = .ok ()) :
    validateSearchSpec (.obj fields) = .ok () := by
  obtain ⟨hplain, hdigest, hshape, hchecks⟩ := h
  unfold validateSearchSpec
  simp only [bind_eq_ok_iff, exists_unit_iff, assertContentSafe_ok_iff]
  exact ⟨(plain_of_literal hplain).safe, hshape, verifySeal_of_literal hplain hdigest hcarried, hchecks⟩

section Sample

/-- A digest that stands for a document kept elsewhere. -/
def zeroDigest : PyStr := List.replicate 64 48

def sampleRef (id digest : PyStr) : Json :=
  .obj [("fingerprint", .str digest), ("id", .str id), ("version", .str "1")]

def sampleMeasure (value : ℕ) (unit : PyStr) : Json :=
  .obj [("reason", .str "declared"), ("state", .str "KNOWN"), ("unit", .str unit), ("value", .int value)]

def taskDigest : PyStr := "f998c07e5764f7cabe6314ced981c6a1ab7d0ad8811ee67788876abb96ba39bf"

def scopeDigest : PyStr := "26e6349916dec73dd479de194072bb5386e8c67231b2c4d838b79093a63eb605"

def resourcesDigest : PyStr := "516a525bfbeed158dc45b3d8432326ea68fd3d9a4b568854be797712c177fddf"

def a0Digest : PyStr := "c58be05c3aede52808e5b015adb866949cc27feea9facca3e359dd2fd07aa72d"

def a1Digest : PyStr := "e518af3df6d2398631141378c77dbc0bb63ca7d84c80003a53d1a79402914119"

def privacyDigest : PyStr := "7bae1cfb07f21ea708df6495e31de0267f30fcf8d5a504fdc9522022ac02d469"

def poolDigest : PyStr := "e879e0b471b77e18ed1513e28ff0dd26119a729bc956ffbbad0a8e846b01ba51"

def packetDigest : PyStr := "6f913240d081b1a8e7e88dc635eb4116e7e83607cc633261430006e081d5d318"

def rubricDigest : PyStr := "3e6698131874e9fc7562b51dce29099e8be4b968b978c2c921938c30ece8abfd"

def orderDigest : PyStr := "79809196cdc49efcf146b8c6f0d3ac295c05f423f47b09181331a9146cccbb2c"

def noToolsDigest : PyStr := "4f53cda18c2baa0c0354bb5f9a3ecbe5ed12ab4d8e11ba873c2f11161202b945"

def contractDigest : PyStr := "3f7c67f0a977d4ca873779fd6abc4aa9c67b5478090898b0276c12e581fc747d"

def adjudicationDigest : PyStr := "150a63c9d27c760d50bc9fee2b1815bddaa53bd41bc3911279944b636c978300"

def policyDigest : PyStr := "caef9dc7f3e2e2a379e58141aaf3430f01c172fd9ad62fd1fe4e1f07e6a548de"

def sampleDigest : PyStr := "cf7dd78f7eb02c2a3ecc558bbc28766684c665c79b16031deccc28e27727fbb4"

def aggregationDigest : PyStr := "8aa14d6dd2111e5d25cf851627a2ab21caac97e463b18ccf6e76a18554182aa6"

def sampleTask : Json := .obj [
  ("evidence_requirements", .arr [.str "cited"]), ("exclusion_criteria", .arr []),
  ("inclusion_criteria", .arr []), ("objective", .str "decide"),
  ("output_cardinality", .obj [("maximum", .int 1), ("minimum", .int 1)]),
  ("stop_conditions", .arr [.str "all decided"]), ("success_criteria", .arr [.str "decided"]),
  ("target", .str "records"), ("task_class", .str "judgment"), ("task_id", .str "task"),
  ("unit_of_evaluation", .str "record"), ("unknown_semantics", .str "INSUFFICIENT_EVIDENCE_NOT_NEGATIVE")]

def sampleScope : Json := .obj [
  ("freshness_rule", .str "none"),
  ("geography_scope", .obj [("excluded", .arr []), ("included", .arr [.str "any"])]),
  ("language_pool", .arr [.str "en"]), ("privacy_class", .str "PUBLIC_SAFE"), ("public_safe_only", .bool true),
  ("source_classes_allowed", .arr [.str "packet"]), ("source_classes_excluded", .arr []),
  ("time_window", .str "frozen"), ("verification_sources_allowed", .arr []),
  ("verification_sources_excluded", .arr [])]

def sampleResources : Json := .obj [
  ("automatic_retries", .int 1), ("budget_rejection_policy", .str "NO_BACKEND_NO_TICKET"),
  ("exhaustion_policy", .str "STOP_NO_EXPANSION"), ("failure_policy", .str "INFRASTRUCTURE_NOT_QUALITY"),
  ("manual_retry_policy", .str "FORBIDDEN"), ("max_follow_links", .int 0), ("max_results_per_call", .int 0),
  ("max_search_calls", .int 0), ("max_search_turns", .int 0), ("max_total_runtime_ms", sampleMeasure 5000 "ms"),
  ("money_ceiling", sampleMeasure 10 "USD"), ("resource_unit_definition", .str "request"),
  ("retry_policy", sampleRef "retry" zeroDigest), ("schema_id", .str "search-resource/v2"),
  ("search_unit", .str "NONE"), ("timeout_per_call_ms", .int 1000),
  ("token_ceiling", sampleMeasure 100 "tokens")]

def sampleA0 : Json := .obj [
  ("economic_success_criteria", .arr []), ("frozen", .bool true), ("origin", .str "HUMAN_MODEL_CO_DESIGN"),
  ("resource_fingerprint", .str resourcesDigest), ("scope_fingerprint", .str scopeDigest),
  ("scored", .bool false), ("stop_on_signal", .arr [.str "done"]), ("task_fingerprint", .str taskDigest),
  ("task_hierarchy", .arr [.str "task"])]

def sampleA1 : Json := .obj [
  ("allowed", .arr []),
  ("forbidden_mutations", .arr [
    .str "TASK", .str "SCOPE", .str "BUDGET", .str "EVIDENCE", .str "UNKNOWN_RULE"]),
  ("owner", .str "NONE")]

def samplePrivacy : Json := .obj [
  ("credential_access", .bool false), ("hidden_authority_access", .bool false),
  ("official_prompt_access", .bool false), ("private_locator_access", .bool false),
  ("public_safe_inputs_only", .bool true)]

def sampleOverlay : Json := .obj [
  ("adjudication_policy", sampleRef "adjudication" adjudicationDigest),
  ("aggregation_policy", sampleRef "aggregation" aggregationDigest), ("allowed_tools", .arr []),
  ("blind_transform", sampleRef "policy" policyDigest), ("candidate_set", sampleRef "pool" poolDigest),
  ("evidence_packet", sampleRef "packet" packetDigest), ("independent_first_pass", .bool true),
  ("kind", .str "JUDGMENT"), ("order_policy", sampleRef "order" orderDigest),
  ("output_schema", sampleRef "output" zeroDigest), ("rubric", sampleRef "rubric" rubricDigest)]

def sampleSpecFields : Fields := [
  ("a0", sampleA0), ("a1", sampleA1), ("architecture_authority", .str "SEARCH-CUP/v2.3"),
  ("canonical_fingerprint", .str sampleDigest), ("claims", .arr [.str "JUDGMENT_ON_FROZEN_PACKAGE"]),
  ("created_at", .str "2026-07-01T00:00:00Z"), ("economic_package", .null), ("fairness_mode", .str "F1"),
  ("frozen_at", .str "2026-07-02T00:00:00Z"), ("judgment_contract", sampleRef "contract" contractDigest),
  ("metrics", .arr [
    .obj [
      ("denominator", .str "records"), ("exclusion_rule", .str "none"), ("metric_id", .str "metric"),
      ("missingness", .str "PRESERVE_TYPED_STATES"), ("numerator", .str "decided"),
      ("population", sampleRef "population" zeroDigest), ("zero_denominator", .str "NOT_EVALUABLE")]]),
  ("output_contract", sampleRef "output" zeroDigest), ("overlay", sampleOverlay), ("privacy", samplePrivacy),
  ("resources", sampleResources), ("retriever", .null), ("schema_id", .str "searchspec/v2"),
  ("scope", sampleScope), ("spec_id", .str "spec"), ("spec_status", .str "FROZEN"), ("spec_version", .str "1"),
  ("system_disclosure", .null), ("task", sampleTask), ("track_id", .str "JUDGMENT_ONLY"),
  ("variable_control", .obj [
    ("changed_capabilities", .arr []),
    ("fixed", .obj [
      ("a0", .str a0Digest), ("a1", .str a1Digest), ("candidate_set", .str poolDigest),
      ("evidence_packet", .str packetDigest), ("judgment", .str contractDigest), ("ordering", .str orderDigest),
      ("output", .str zeroDigest), ("privacy", .str privacyDigest), ("resources", .str resourcesDigest),
      ("rubric", .str rubricDigest), ("scope", .str scopeDigest), ("task", .str taskDigest),
      ("tools", .str noToolsDigest)]),
    ("fixed_capabilities", .obj []), ("principal", .str "JUDGE_MODEL_CONFIG"), ("qualified_nuisance", .arr [])])]

def sampleSpec : Json := .obj sampleSpecFields

open Python.Whole

set_option maxRecDepth 4000 in
/-- What evaluation finds of the sample, once its literals are read. -/
theorem sampleSpec_evaluated : ∀ fields, fields = sampleSpecFields →
    plainLiteral (.obj fields) = true ∧ asciiHex (render (.obj (unsealed fields))) = some sampleDigest ∧
      validateContract searchSpecSchema (.obj fields) = .ok () ∧ checkBindings (.obj fields) = .ok () ∧
      checkControls (.obj fields) = .ok () ∧ checkTrack (.obj fields) = .ok () ∧ checkPackages (.obj fields) = .ok () := by
  intro fields h
  simp only [sampleSpecFields, sampleTask, sampleScope, sampleResources, sampleA0, sampleA1, samplePrivacy, sampleOverlay,
    sampleRef, sampleMeasure, taskDigest, scopeDigest, resourcesDigest, a0Digest, a1Digest, privacyDigest, poolDigest,
    packetDigest, rubricDigest, orderDigest, noToolsDigest, contractDigest, adjudicationDigest, policyDigest, sampleDigest,
    aggregationDigest, zeroDigest] at h
  repeat rw [py_ofList] at h
  simp only [List.map_cons, List.map_nil, Char.reduceToNat] at h
  subst h
  decide +kernel

theorem sampleSpec_plain : PlainLiteral sampleSpec := plain_of_literal (sampleSpec_evaluated _ rfl).1

theorem sampleSpec_valid : validateSearchSpec sampleSpec = .ok () :=
  validateSearchSpec_of_literal rfl (sampleSpec_evaluated _ rfl)

/-- The declaration of the sample. -/
def sampleDeclaration : SearchSpecV2 := SearchSpecV2.ofMapping sampleSpec sampleSpec_plain.legible rfl
  sampleSpec_plain.printable sampleSpec_plain.shallow sampleSpec_valid

end Sample

end EvaluationLab.SearchCup
