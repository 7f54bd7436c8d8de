import EvaluationLab.Python.Substitution
import EvaluationLab.SearchCup.Seal

/-! The frozen declaration of a search: its schema, and the checks between its parts. -/
namespace EvaluationLab.SearchCup
open Python Effect
open QA0 (Fields)

section Vocabulary

def terminals : List PyStr := ["PASS", "FAIL", "UNKNOWN", "BLOCKED", "NOT_EVALUABLE", "ERROR"]

def tracks : List PyStr :=
  ["E1_LIVE", "E1_FROZEN", "E2_RETRIEVER", "JUDGMENT_ONLY", "E_PLUS_J", "GLM_SEARCH_STACK", "SYSTEM_PLAYOFF",
    "ECONOMIC_TRACK"]

def e1Behaviors : List PyStr := ["QUERY_WORDING", "SYNONYMS", "SUBDIRECTION", "BOUNDED_REFINEMENT", "EVIDENCE_FOLLOWING"]

def a1Behaviors : List PyStr :=
  e1Behaviors ++
    (["DECOMPOSITION", "QUERY_REWRITE", "SYNTHESIS", "CROSS_QUERY_PLANNING", "INTENT_EXPANSION"] : List PyStr)

def ablationCapabilities : List PyStr :=
  a1Behaviors ++ (["RETRIEVAL", "RANKING", "AGGREGATION", "VERIFICATION"] : List PyStr)

def controlNames : List PyStr :=
  ["task", "scope", "a0", "a1", "resources", "output", "judgment", "candidate_set", "evidence_packet", "rubric",
    "ordering", "corpus", "index", "retriever", "time_window", "environment", "prompt_context", "tools", "privacy",
    "control_model", "system_disclosure", "economic_package", "architecture", "disclosure_standard"]

/-- The principal changed variable of a track. -/
def principalOf : List (PyStr × PyStr) := [
  ("JUDGMENT_ONLY", "JUDGE_MODEL_CONFIG"), ("E1_FROZEN", "ENTRANT_MODEL_CONFIG"),
  ("E1_LIVE", "ENTRANT_MODEL_CONFIG"), ("E2_RETRIEVER", "RETRIEVER_CONFIG"),
  ("GLM_SEARCH_STACK", "SYSTEM"), ("SYSTEM_PLAYOFF", "SYSTEM"),
  ("ECONOMIC_TRACK", "SYSTEM_RESOURCE_PACKAGE"), ("E_PLUS_J", "COMPOSITE_SYSTEM")]

def claimNames : List PyStr :=
  ["JUDGMENT_ON_FROZEN_PACKAGE", "EXECUTION_ON_FROZEN_ENVIRONMENT", "EXECUTION_IN_LIVE_WINDOW",
    "RETRIEVER_SYSTEM_PERFORMANCE", "DECLARED_SYSTEM_PERFORMANCE", "OBSERVED_ECONOMIC_EFFICIENCY",
    "SINGLE_CAPABILITY_EFFECT", "ABSOLUTE_RECALL"]

/-- `R1` to `R8`. -/
def criteria : List PyStr := (List.range 8).map fun i => py "R" ++ natText (i + 1)

end Vocabulary

section Schemas

/-- `const(text)`. -/
def constText (text : PyStr) : Schema := .const (.str text)

def constBool (value : Bool) : Schema := .const (.bool value)

/-- `{"type": ["string", "null"]}`. -/
def stringOrNull : Schema := .anyOf [stringSchema, .null]

def checkSchema : Schema := obj [("status", .enum ["PASS", "FAIL", "UNKNOWN"]), ("evidence", arr refSchema 0)] []

def qualificationSchema : Schema := obj [
  ("backend_fingerprint", hashSchema),
  ("criteria", obj (criteria.map fun r => (r, checkSchema)) [])] []

def retrieverSchema : Schema := obj [
  ("identity", refSchema),
  ("backend_id", textSchema),
  ("class", .enum ["RAW_RETRIEVER", "FROZEN_RETRIEVER", "INTEGRATED_SEARCH_STACK"]),
  ("config_fingerprint", hashSchema),
  ("request_schema", refSchema),
  ("result_schema", refSchema),
  ("capabilities", arr (.enum (a1Behaviors ++ [py "RANKING", py "RETRIEVAL"])) 0),
  ("qualification", orNull qualificationSchema)] []

def resourceProperties : List (PyStr × Schema) := [
  ("schema_id", constText "search-resource/v2"),
  ("max_search_calls", countSchema),
  ("max_search_turns", countSchema),
  ("max_results_per_call", countSchema),
  ("max_follow_links", countSchema),
  ("automatic_retries", countSchema),
  ("retry_policy", refSchema),
  ("manual_retry_policy", .enum ["FORBIDDEN", "NEW_BUDGETED_EVENT"]),
  ("timeout_per_call_ms", .number none (some 0)),
  ("max_total_runtime_ms", measureSchema),
  ("token_ceiling", measureSchema),
  ("money_ceiling", measureSchema),
  ("resource_unit_definition", textSchema),
  ("search_unit", .enum ["RAW_BACKEND_ATTEMPT", "INTEGRATED_STACK_INVOCATION", "NONE"]),
  ("failure_policy", constText "INFRASTRUCTURE_NOT_QUALITY"),
  ("exhaustion_policy", constText "STOP_NO_EXPANSION"),
  ("budget_rejection_policy", constText "NO_BACKEND_NO_TICKET")]

def resourceSchema : Schema := obj resourceProperties []

def taskSchema : Schema := obj [
  ("task_id", textSchema),
  ("task_class", textSchema),
  ("target", textSchema),
  ("objective", textSchema),
  ("success_criteria", arr textSchema 1),
  ("unit_of_evaluation", textSchema),
  ("output_cardinality", obj [("minimum", countSchema), ("maximum", countSchema)] []),
  ("inclusion_criteria", textsSchema),
  ("exclusion_criteria", textsSchema),
  ("evidence_requirements", arr textSchema 1),
  ("unknown_semantics", constText "INSUFFICIENT_EVIDENCE_NOT_NEGATIVE"),
  ("stop_conditions", arr textSchema 1)] []

def scopeSchema : Schema := obj [
  ("language_pool", arr textSchema 1),
  ("geography_scope", obj [("included", arr textSchema 1), ("excluded", textsSchema)] []),
  ("source_classes_allowed", arr textSchema 1),
  ("source_classes_excluded", textsSchema),
  ("time_window", textSchema),
  ("freshness_rule", textSchema),
  ("verification_sources_allowed", textsSchema),
  ("verification_sources_excluded", textsSchema),
  ("privacy_class", constText "PUBLIC_SAFE"),
  ("public_safe_only", constBool true)] []

def frozenOverlaySchema : Schema := obj [
  ("kind", constText "FROZEN"),
  ("corpus", refSchema),
  ("collection_provenance", refSchema),
  ("public_safe", constBool true),
  ("index", refSchema),
  ("reference_set", refSchema),
  ("reproduction_procedure", refSchema)] []

def liveOverlaySchema : Schema := obj [
  ("kind", constText "LIVE"),
  ("window_policy", refSchema),
  ("backend", refSchema),
  ("drift_policy", refSchema),
  ("pooled_candidate_policy", refSchema),
  ("adjudication_timing", refSchema),
  ("capture_policy", refSchema),
  ("exhaustive_reference", orNull refSchema)] []

def judgmentOverlaySchema : Schema := obj [
  ("kind", constText "JUDGMENT"),
  ("candidate_set", refSchema),
  ("evidence_packet", refSchema),
  ("rubric", refSchema),
  ("output_schema", refSchema),
  ("adjudication_policy", refSchema),
  ("blind_transform", refSchema),
  ("order_policy", refSchema),
  ("aggregation_policy", refSchema),
  ("allowed_tools", arr textSchema 0),
  ("independent_first_pass", constBool true)] []

def systemDisclosureSchema : Schema := obj [
  ("components", arr refSchema 1),
  ("capabilities", textsSchema),
  ("tool_classes", textsSchema),
  ("retry_fallback_policy", refSchema),
  ("human_intervention_policy", refSchema),
  ("money_source", refSchema),
  ("time_source", refSchema),
  ("opaque_quantities", textsSchema)] []

def economicPackageSchema : Schema := obj [
  ("basis", .enum ["MONEY", "OPERATOR_TIME", "WALL_CLOCK", "MONEY_AND_TIME", "APPROVED_EQUIVALENT"]),
  ("definition", refSchema),
  ("accounting_period", textSchema),
  ("currency", textSchema),
  ("billing_basis", textSchema),
  ("price_source", refSchema),
  ("tax_policy", textSchema),
  ("exchange_policy", refSchema),
  ("rounding_policy", textSchema),
  ("free_credit_policy", textSchema),
  ("prepaid_credit_policy", textSchema),
  ("unused_credit_policy", textSchema),
  ("cost_basis", .enum ["CASH_OUTLAY", "LIST_PRICE_EQUIVALENT", "BOTH"]),
  ("time_kinds", arr (.enum ["MACHINE_ELAPSED", "OPERATOR_ACTIVE", "WAITING_QUEUE"]) 2)] []

def metricSchema : Schema := obj [
  ("metric_id", textSchema),
  ("numerator", textSchema),
  ("denominator", textSchema),
  ("population", refSchema),
  ("exclusion_rule", textSchema),
  ("missingness", constText "PRESERVE_TYPED_STATES"),
  ("zero_denominator", constText "NOT_EVALUABLE")] []

def a0Schema : Schema := obj [
  ("origin", constText "HUMAN_MODEL_CO_DESIGN"),
  ("scored", constBool false),
  ("frozen", constBool true),
  ("task_fingerprint", hashSchema),
  ("scope_fingerprint", hashSchema),
  ("resource_fingerprint", hashSchema),
  ("task_hierarchy", arr textSchema 1),
  ("stop_on_signal", arr textSchema 1),
  ("economic_success_criteria", textsSchema)] []

def a1Schema : Schema := obj [
  ("owner", .enum ["ENTRANT", "SEARCH_STACK", "NONE"]),
  ("allowed", arr (.enum a1Behaviors) 0),
  ("forbidden_mutations",
    .const (.arr (["TASK", "SCOPE", "BUDGET", "EVIDENCE", "UNKNOWN_RULE"].map fun s => .str (py s))))] []

def variableControlSchema : Schema := obj [
  ("principal", .enum (principalOf.map Prod.snd ++ [py "ONE_CAPABILITY"])),
  ("fixed", obj (controlNames.map fun k => (k, hashSchema)) controlNames),
  ("qualified_nuisance", textsSchema),
  ("changed_capabilities", arr (.enum ablationCapabilities) 0),
  ("fixed_capabilities", obj (ablationCapabilities.map fun k => (k, hashSchema)) ablationCapabilities)] []

def privacySchema : Schema := obj [
  ("public_safe_inputs_only", constBool true),
  ("credential_access", constBool false),
  ("private_locator_access", constBool false),
  ("hidden_authority_access", constBool false),
  ("official_prompt_access", constBool false)] []

def searchSpecProperties : List (PyStr × Schema) := [
  ("schema_id", constText "searchspec/v2"),
  ("spec_id", textSchema),
  ("spec_version", textSchema),
  ("spec_status", .enum ["DRAFT", "FROZEN", "RETIRED"]),
  ("architecture_authority", constText "SEARCH-CUP/v2.3"),
  ("created_at", textSchema),
  ("frozen_at", stringOrNull),
  ("track_id", .enum tracks),
  ("fairness_mode", .enum ["F1", "F2", "F3", "ABLATION"]),
  ("task", taskSchema),
  ("scope", scopeSchema),
  ("a0", a0Schema),
  ("a1", a1Schema),
  ("variable_control", variableControlSchema),
  ("retriever", orNull retrieverSchema),
  ("resources", resourceSchema),
  ("output_contract", refSchema),
  ("judgment_contract", refSchema),
  ("overlay", .anyOf [frozenOverlaySchema, liveOverlaySchema, judgmentOverlaySchema]),
  ("system_disclosure", orNull systemDisclosureSchema),
  ("economic_package", orNull economicPackageSchema),
  ("claims", arr (.enum claimNames) 1),
  ("metrics", arr metricSchema 1),
  ("privacy", privacySchema),
  ("canonical_fingerprint", hashSchema)]

/-- `SEARCHSPEC_SCHEMA`, less its three descriptive members, which no check reads. -/
def searchSpecSchema : Schema := obj searchSpecProperties []

end Schemas

section Reading

/-- A text of a checked document. -/
def asText : Json → PyStr
  | .str s => s
  | _ => []

/-- The texts of a checked list. -/
def asTexts : Json → List PyStr
  | .arr items => items.map asText
  | _ => []

theorem asText_sortKeys (v : Json) : asText (sortKeys v) = asText v := by
  cases v <;> rfl

def asInt : Json → ℤ
  | .int n => n
  | _ => 0

def asItems : Json → List Json
  | .arr items => items
  | _ => []

/-- The keys of a checked object. -/
def keysOf : Json → List PyStr
  | .obj fields => fields.map Prod.fst
  | _ => []

end Reading

section Checks

variable [PyRuntime]

/-- `timestamp`, in microseconds. -/
def timestamp (value : PyStr) : Except PyExc ℤ :=
  match PyRuntime.fromisoformat (replace value "Z" "+00:00") with
  | .malformed => .error (valueError "invalid timestamp")
  | .naive => .error (valueError "timestamp requires timezone")
  | .aware t => .ok t

/-- `validate_measure`. -/
def validateMeasure (measure : Json) (unit : Option PyStr) : Except PyExc Unit := do
  validateContract measureSchema measure
  check ((get measure "state").isStr "KNOWN" = !(get measure "value").isNull)
    (valueError "measurement missingness/value mismatch")
  check (unit.all (fun u => (get measure "unit").isStr u) = true) (valueError "measurement unit mismatch")

/-- `f1_eligibility`. -/
def f1Eligibility (retriever : Json) : Except PyExc PyStr :=
  match retriever with
  | .null => .ok "NOT_F1_ELIGIBLE"
  | retriever => do
    validateContract retrieverSchema retriever
    assertContentSafe retriever
    let qualification := get retriever "qualification"
    if qualification.isNull then
      return if contains "search_pro" (PyRuntime.lower (asText (get retriever "backend_id"))) then
        "NOT_F1_ELIGIBLE_BY_DEFAULT" else "NOT_F1_ELIGIBLE"
    else
      let identity := match retriever with
        | .obj fields => fields.filter fun f => f.1 ≠ py "qualification"
        | _ => []
      let digest ← fingerprint (.obj identity)
      let checks := get qualification "criteria"
      let passed := criteria.all fun r =>
        (get (get checks r) "status").isStr "PASS" && (get (get checks r) "evidence").truthy
      return if !(get qualification "backend_fingerprint").isStr digest then "NOT_F1_ELIGIBLE"
        else if !passed then "NOT_F1_ELIGIBLE"
        else if (get retriever "class").isStr "INTEGRATED_SEARCH_STACK" ||
            (asTexts (get retriever "capabilities")).any (fun c => c ∉ [py "RETRIEVAL", py "RANKING"]) then
          "NOT_F1_ELIGIBLE"
        else "F1_ELIGIBLE"

/-- The fields of a document under some of its keys. -/
def restrict (document : Json) (keys : List PyStr) : Json := .obj (keys.map fun k => (k, get document k))

/-- The text of a key, when it is the fingerprint of a reference. -/
def refFingerprint (document : Json) (key : PyStr) : PyStr := asText (get (get document key) "fingerprint")

def hasTrack (doc : Json) (track : PyStr) : Bool := (get doc "track_id").isStr track

def hasMode (doc : Json) (mode : PyStr) : Bool := (get doc "fairness_mode").isStr mode

/-- `a0_resource_binding`. -/
def a0ResourceBinding (doc : Json) : Except PyExc PyStr :=
  let resource := get doc "resources"
  if hasMode doc "F1" then fingerprint resource
  else if hasMode doc "F3" then fingerprint (restrict resource ["max_total_runtime_ms", "money_ceiling"])
  else fingerprint (restrict resource ["max_total_runtime_ms"])

def common : List PyStr := ["task", "scope", "a0", "a1", "resources", "output", "judgment"]

def systemCommon : List PyStr := ["task", "scope", "a0", "output", "judgment", "disclosure_standard"]

/-- `REQUIRED_CONTROLS[track]`. -/
def requiredControls (doc : Json) : List PyStr :=
  if hasTrack doc "JUDGMENT_ONLY" then
    common ++ (["candidate_set", "evidence_packet", "rubric", "ordering", "tools", "privacy"] : List PyStr)
  else if hasTrack doc "E1_FROZEN" then
    common ++ (["corpus", "index", "retriever", "environment", "prompt_context", "tools", "privacy"] : List PyStr)
  else if hasTrack doc "E1_LIVE" then
    common ++ (["retriever", "time_window", "environment", "prompt_context", "tools", "privacy"] : List PyStr)
  else if hasTrack doc "E2_RETRIEVER" then common ++ [py "control_model"]
  else if hasTrack doc "E_PLUS_J" then systemCommon ++ [py "architecture"]
  else if hasTrack doc "ECONOMIC_TRACK" then systemCommon ++ [py "economic_package"]
  else systemCommon

/-- The claim a track allows. -/
def trackClaim : List (PyStr × PyStr) := [
  ("JUDGMENT_ONLY", "JUDGMENT_ON_FROZEN_PACKAGE"), ("E1_FROZEN", "EXECUTION_ON_FROZEN_ENVIRONMENT"),
  ("E1_LIVE", "EXECUTION_IN_LIVE_WINDOW"), ("E2_RETRIEVER", "RETRIEVER_SYSTEM_PERFORMANCE"),
  ("E_PLUS_J", "DECLARED_SYSTEM_PERFORMANCE"), ("GLM_SEARCH_STACK", "DECLARED_SYSTEM_PERFORMANCE"),
  ("SYSTEM_PLAYOFF", "DECLARED_SYSTEM_PERFORMANCE"), ("ECONOMIC_TRACK", "OBSERVED_ECONOMIC_EFFICIENCY")]

/-- `fingerprint(document[key])` under a name. -/
def bound (document : Json) (key : PyStr) : Except PyExc (PyStr × PyStr) := do
  return (key, ← fingerprint (get document key))

/-- The fingerprints of an overlay's own references. -/
def overlayBindings (overlay : Json) : Except PyExc (List (PyStr × PyStr)) := do
  if (get overlay "kind").isStr "JUDGMENT" then
    let tools ← fingerprint (.arr [])
    return (["candidate_set", "evidence_packet", "rubric"] : List PyStr).map (fun k => (k, refFingerprint overlay k)) ++
      [(py "ordering", refFingerprint overlay "order_policy"), (py "tools", tools)]
  else if (get overlay "kind").isStr "FROZEN" then
    return (["corpus", "index"] : List PyStr).map fun k => (k, refFingerprint overlay k)
  else return [(py "time_window", refFingerprint overlay "window_policy")]

/-- `control_bindings`. -/
def controlBindings (doc : Json) : Except PyExc (List (PyStr × PyStr)) := do
  let parts ← (["task", "scope", "a0", "a1", "privacy"] : List PyStr).mapM (bound doc)
  let resources ←
    if hasTrack doc "E2_RETRIEVER" then
      fingerprint (restrict (get doc "resources") ["failure_policy", "exhaustion_policy", "budget_rejection_policy",
        "retry_policy", "automatic_retries", "manual_retry_policy", "max_total_runtime_ms"])
    else fingerprint (get doc "resources")
  let optional ← ((["retriever", "system_disclosure", "economic_package"] : List PyStr).filter fun k =>
    !(get doc k).isNull).mapM (bound doc)
  let overlay ← overlayBindings (get doc "overlay")
  return parts ++ [(py "resources", resources), (py "output", refFingerprint doc "output_contract"),
    (py "judgment", refFingerprint doc "judgment_contract")] ++ optional ++ overlay

def specError (message : PyStr) : PyExc := valueError message

/-- The freeze of a declaration, its cardinality and the fingerprints it names of its own parts. -/
def checkBindings (doc : Json) : Except PyExc Unit := do
  let created ← timestamp (asText (get doc "created_at"))
  if (get doc "spec_status").isStr "DRAFT" then
    check ((get doc "frozen_at").isNull = true) (specError "draft cannot assert freeze")
  else
    check ((get doc "frozen_at").isNull = false) (specError "frozen SearchSpec requires valid freeze timestamp")
    let frozen ← timestamp (asText (get doc "frozen_at"))
    check (created ≤ frozen) (specError "frozen SearchSpec requires valid freeze timestamp")
  let cardinality := get (get doc "task") "output_cardinality"
  check (asInt (get cardinality "minimum") ≤ asInt (get cardinality "maximum")) (specError "invalid output cardinality")
  for key in (["task", "scope"] : List PyStr) do
    let digest ← fingerprint (get doc key)
    check ((get (get doc "a0") (key ++ py "_fingerprint")).isStr digest = true) (specError "A0 binding mismatch")
  let binding ← a0ResourceBinding doc
  check ((get (get doc "a0") "resource_fingerprint").isStr binding = true) (specError "A0 resource binding mismatch")
  validateMeasure (get (get doc "resources") "max_total_runtime_ms") (some "ms")
  validateMeasure (get (get doc "resources") "token_ceiling") (some "tokens")
  validateMeasure (get (get doc "resources") "money_ceiling") none

/-- The declared controls and the claims they allow. -/
def checkControls (doc : Json) : Except PyExc Unit := do
  let controls := get doc "variable_control"
  let required := requiredControls doc
  let changed := asTexts (get controls "changed_capabilities")
  check (∀ k ∈ required, k ∈ keysOf (get controls "fixed")) (specError "missing variable controls")
  let bindings ← controlBindings doc
  check (∀ b ∈ bindings, b.1 ∈ required → (get (get controls "fixed") b.1).isStr b.2 = true)
    (specError "control fingerprint mismatch")
  if hasMode doc "ABLATION" then
    check (hasTrack doc "E2_RETRIEVER" = true ∧ (get controls "principal").isStr "ONE_CAPABILITY" = true ∧
      changed.length = 1) (specError "ablation requires exactly one changed capability")
    check (∀ c ∈ ablationCapabilities, (c ∈ keysOf (get controls "fixed_capabilities") ↔ c ∉ changed))
      (specError "ablation must freeze all non-target capabilities")
  else
    check ((principalOf.lookup (asText (get doc "track_id"))).any (fun p => (get controls "principal").isStr p) = true ∧
      changed = [] ∧ (get controls "fixed_capabilities").truthy = false) (specError "principal changed-variable mismatch")
  let expected : PyStr :=
    if hasTrack doc "JUDGMENT_ONLY" || hasTrack doc "E1_FROZEN" || hasTrack doc "E1_LIVE" then "F1"
    else if hasTrack doc "ECONOMIC_TRACK" then "F3" else "F2"
  check (hasMode doc expected = true ∨ hasTrack doc "E2_RETRIEVER" = true ∧ hasMode doc "ABLATION" = true)
    (specError "track/fairness mismatch")
  let overlay := get doc "overlay"
  let claimsRecall := !hasTrack doc "JUDGMENT_ONLY" && ((get overlay "kind").isStr "FROZEN" ||
    ((get overlay "kind").isStr "LIVE" && !(get overlay "exhaustive_reference").isNull))
  let allowed := (trackClaim.lookup (asText (get doc "track_id"))).toList ++
    (if hasMode doc "ABLATION" then [py "SINGLE_CAPABILITY_EFFECT"] else []) ++
    (if claimsRecall then [py "ABSOLUTE_RECALL"] else [])
  check (∀ c ∈ asTexts (get doc "claims"), c ∈ allowed) (specError "claims ceiling exceeded")

/-- What a track asks of the retriever, the resources and the overlay. -/
def checkTrack (doc : Json) : Except PyExc Unit := do
  let overlay := get doc "overlay"
  let resource := get doc "resources"
  let retriever := get doc "retriever"
  let owner := get (get doc "a1") "owner"
  let planned := asTexts (get (get doc "a1") "allowed")
  if hasTrack doc "JUDGMENT_ONLY" then
    check ((get overlay "kind").isStr "JUDGMENT" = true ∧ (get overlay "allowed_tools").truthy = false ∧
      retriever.isNull = true) (specError "Judgment-only must have no retriever or tools")
    check ((∀ k ∈ (["max_search_calls", "max_search_turns", "max_results_per_call", "max_follow_links"] : List PyStr),
      asInt (get resource k) = 0) ∧ (get resource "search_unit").isStr "NONE" = true)
      (specError "Judgment-only requires zero search and verification")
    check (owner.isStr "NONE" = true ∧ planned = []) (specError "Judgment-only forbids query planning")
  else
    check ((get overlay "kind").isStr "JUDGMENT" = false ∧ retriever.isNull = false ∧
      (get resource "search_unit").isStr "NONE" = false) (specError "search track requires retrieval/environment contract")
    let stackPlanning := (asTexts (get retriever "capabilities")).filter (· ∈ a1Behaviors)
    check (stackPlanning = [] ∨ owner.isStr "SEARCH_STACK" = true ∧ ∀ c ∈ stackPlanning, c ∈ planned)
      (specError "search-stack planning ownership must be explicit")
    check ((get retriever "class").isStr "INTEGRATED_SEARCH_STACK" = true →
      (get resource "search_unit").isStr "INTEGRATED_STACK_INVOCATION" = true)
      (specError "integrated invocation is not a raw-call equivalent")
  if hasTrack doc "E1_FROZEN" || hasTrack doc "E1_LIVE" then
    let expected : PyStr := if hasTrack doc "E1_FROZEN" then "FROZEN" else "LIVE"
    check ((get overlay "kind").isStr expected = true) (specError "Live/Frozen overlay mismatch")
    check (owner.isStr "ENTRANT" = true ∧ ∀ c ∈ planned, c ∈ e1Behaviors)
      (specError "E1 planning must remain bounded and entrant-owned")
    let eligibility ← f1Eligibility retriever
    check (eligibility = py "F1_ELIGIBLE" ∧ (get resource "search_unit").isStr "RAW_BACKEND_ATTEMPT" = true)
      (specError "F1 retriever not qualified")
  if (get overlay "kind").isStr "LIVE" && !retriever.isNull then
    check (refFingerprint overlay "backend" = refFingerprint retriever "identity")
      (specError "live backend binding mismatch")
    check ((get (get doc "variable_control") "qualified_nuisance").truthy = true)
      (specError "live drift qualification required")

/-- What a fairness mode asks of the system and economic packages. -/
def checkPackages (doc : Json) : Except PyExc Unit := do
  let resource := get doc "resources"
  let economic := get doc "economic_package"
  check (hasMode doc "F1" = false → (get doc "system_disclosure").isNull = false)
    (specError "system capability/resource disclosure required")
  check (hasMode doc "F1" = true → (get doc "system_disclosure").isNull = true ∧ economic.isNull = true)
    (specError "F1 cannot carry a system/economic comparison package")
  if hasMode doc "F3" then
    check (economic.isNull = false ∧ py "MACHINE_ELAPSED" ∈ asTexts (get economic "time_kinds") ∧
      py "OPERATOR_ACTIVE" ∈ asTexts (get economic "time_kinds"))
      (specError "real-resource/normalization package required")
    check (asText (get (get resource "money_ceiling") "unit") = asText (get economic "currency"))
      (specError "currency mismatch")
    let basis := asText (get economic "basis")
    let known (ceiling : PyStr) : Bool := (get (get resource ceiling) "state").isStr "KNOWN"
    check (basis = py "MONEY" ∨ basis = py "MONEY_AND_TIME" → known "money_ceiling" = true)
      (specError "money-aligned comparison requires known ceiling")
    check (basis = py "WALL_CLOCK" ∨ basis = py "MONEY_AND_TIME" → known "max_total_runtime_ms" = true)
      (specError "time-aligned comparison requires known ceiling")

/-- `SearchSpecV2.validate`. -/
def validateSearchSpec (doc : Json) : Except PyExc Unit := do
  assertContentSafe doc
  validateContract searchSpecSchema doc
  verifySeal doc
  checkBindings doc
  checkControls doc
  checkTrack doc
  checkPackages doc

/-- `SearchSpecV2.__post_init__`: the document a canonical text stands for. -/
def readSearchSpec (canonicalContent : PyStr) : Except PyExc Json := do
  let document ← loads canonicalContent
  validateSearchSpec document
  let text ← QA0.canonicalJson document
  check (text = canonicalContent) (specError "noncanonical SearchSpec representation")
  return document

/-- `SearchSpecV2`: a canonical text that was accepted, and its document. -/
structure SearchSpecV2 where
  canonicalContent : PyStr
  asDict : Json
  accepted : readSearchSpec canonicalContent = .ok asDict

/-- `SearchSpecV2.fingerprint`. -/
def SearchSpecV2.fingerprint (spec : SearchSpecV2) : PyStr := asText (get spec.asDict fingerprintKey)

end Checks

section Accepted

variable [PyRuntime]

theorem readSearchSpec_eq_ok_iff {content : PyStr} {doc : Json} : readSearchSpec content = .ok doc ↔
    loads content = .ok doc ∧ validateSearchSpec doc = .ok () ∧ QA0.canonicalJson doc = .ok content := by
  unfold readSearchSpec
  simp only [bind_eq_ok_iff, exists_unit_iff, check_eq_ok_iff, pure_eq_ok_iff]
  constructor
  · rintro ⟨_, hload, hvalid, _, hcanonical, rfl, rfl⟩
    exact ⟨hload, hvalid, hcanonical⟩
  · rintro ⟨hload, hvalid, hcanonical⟩
    exact ⟨doc, hload, hvalid, content, hcanonical, rfl, rfl⟩

theorem SearchSpecV2.valid (spec : SearchSpecV2) : validateSearchSpec spec.asDict = .ok () :=
  (readSearchSpec_eq_ok_iff.mp spec.accepted).2.1

theorem fits_of_validateSearchSpec {doc : Json} (h : validateSearchSpec doc = .ok ()) : Fits searchSpecSchema doc := by
  unfold validateSearchSpec at h
  simp only [bind_eq_ok_iff, exists_unit_iff, validateContract_ok_iff] at h
  exact h.2.1

theorem SearchSpecV2.fits (spec : SearchSpecV2) {key : PyStr} {schema : Schema}
    (hkey : searchSpecProperties.lookup key = some schema) : Fits schema (get spec.asDict key) :=
  fits_get (fits_of_validateSearchSpec spec.valid) hkey

theorem SearchSpecV2.resource_fits (spec : SearchSpecV2) {key : PyStr} {schema : Schema}
    (hkey : resourceProperties.lookup key = some schema) : Fits schema (get (get spec.asDict "resources") key) := by
  have hresource : Fits resourceSchema (get spec.asDict "resources") := spec.fits rfl
  exact fits_get hresource hkey

theorem SearchSpecV2.legible [RoundTripFloats] (spec : SearchSpecV2) : Legible spec.asDict :=
  legible_of_loads (readSearchSpec_eq_ok_iff.mp spec.accepted).1

/-- A declaration comes with sorted keys. -/
theorem SearchSpecV2.sorted [RoundTripFloats] (spec : SearchSpecV2) : sortKeys spec.asDict = spec.asDict := by
  obtain ⟨hload, -, hcanonical⟩ := readSearchSpec_eq_ok_iff.mp spec.accepted
  unfold QA0.canonicalJson at hcanonical
  split_ifs at hcanonical with hprint
  rw [← Except.ok.inj hcanonical] at hload
  exact ((loads_render_iff spec.legible hprint).mp hload).2.symm

/-- A document that validates is declared by its canonical text. -/
def SearchSpecV2.ofMapping (doc : Json) (hlegible : Legible doc) (hsorted : sortKeys doc = doc)
    (hprint : intsPrintable doc = true) (hshallow : nesting doc ≤ PyRuntime.recursionLimit)
    (hvalid : validateSearchSpec doc = .ok ()) : SearchSpecV2 where
  canonicalContent := render doc
  asDict := doc
  accepted := by
    rw [readSearchSpec_eq_ok_iff, loads_render hlegible hprint hshallow, hsorted]
    exact ⟨rfl, hvalid, if_pos hprint⟩

end Accepted

end EvaluationLab.SearchCup
