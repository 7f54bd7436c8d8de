import EvaluationLab.Python.Normalization
import EvaluationLab.Python.SortedSet
import EvaluationLab.SearchCup.JudgmentOnly

/-! The blind candidate pool: items are grouped by a normalized key, merged, and published without
their provenance. -/
namespace EvaluationLab.SearchCup
open Python Effect
open QA0 (Fields)

section Policy

/-- `PROVENANCE_KEYS`. -/
def provenanceKeys : List PyStr :=
  ["provider", "model", "entrant", "submission", "branch", "commit", "run_id", "rank", "order"]

/-- `POOL_POLICY`. -/
def poolPolicySchema : Schema := obj [
  ("id", textSchema),
  ("version", textSchema),
  ("normalization", constText "NFKC_CASEFOLD_WHITESPACE_V1"),
  ("identity_fields", arr textSchema 1),
  ("visible_fields", arr textSchema 1),
  ("collision_policy", constText "UNKNOWN_IDENTITY"),
  ("ordering", constText "CANDIDATE_ID_ASC")] []

/-- `obj({key: TEXT for key in visible})`. -/
def fieldsSchema (visible : List PyStr) : Schema := obj (visible.map fun k => (k, textSchema)) []

/-- `POOL_ITEM` with the fields of a policy. -/
def poolItemSchema (visible : List PyStr) : Schema := obj [
  ("fields", fieldsSchema visible),
  ("object_fingerprint", hashSchema),
  ("evidence", arr refSchema 1),
  ("frozen_submission", refSchema),
  ("source_alias", textSchema)] []

def identityFields (policy : Json) : List PyStr := asTexts (get policy "identity_fields")

def visibleFields (policy : Json) : List PyStr := asTexts (get policy "visible_fields")

end Policy

section Item

def objectFingerprint (item : Json) : PyStr := asText (get item "object_fingerprint")

def sourceAlias (item : Json) : PyStr := asText (get item "source_alias")

def submissionId (item : Json) : PyStr := asText (get (get item "frozen_submission") "id")

variable [PyNormalization]

/-- The normalized identity fields. -/
def candidateKey (policy fields : Json) : Json :=
  .obj ((identityFields policy).map fun name => (name, .str (normal (asText (get fields name)))))

/-- The fields with those of the identity normalized. -/
def normalizedFields (policy : Json) : Json → Json
  | .obj fields =>
    .obj (fields.map fun f => (f.1, if f.1 ∈ identityFields policy then .str (normal (asText f.2)) else f.2))
  | _ => .null

end Item

section Grouping

variable [PyRuntime] [PyNormalization]

/-- A field whose name tells a provenance. -/
def tellsProvenance (field : PyStr) : Bool := provenanceKeys.any fun token => contains token (PyRuntime.lower field)

/-- The identity of the fields under a policy. -/
def candidateId (policy fields : Json) : Except PyExc PyStr := do
  let digest ← fingerprint (.obj [(py "key", candidateKey policy fields), (py "policy", policy)])
  return py "candidate-" ++ digest

/-- A checked item under its identity. -/
def labelItem (policy item : Json) : Except PyExc (PyStr × Json) := do
  validateContract (poolItemSchema (visibleFields policy)) item
  assertContentSafe item
  let identity ← candidateId policy (get item "fields")
  return (identity, item)

/-- The evidence of a group without repetition, in the order of its canonical texts. Of two with one
text the last is kept. -/
def evidenceOf (group : List Json) : List Json :=
  let evidence := group.flatMap fun item => asItems (get item "evidence")
  (sortedSet (evidence.map render)).filterMap fun text => evidence.reverse.find? fun e => render e = text

/-- Where an item comes from. -/
def provenanceOf (item : Json) : Json :=
  .obj [(py "submission", get item "frozen_submission"), (py "source_alias", get item "source_alias")]

/-- What the hidden ledger keeps of a group. -/
def ledgerEntry (group : PyStr × List Json) : Except PyExc Json := do
  let sources ← (sortedSet (group.2.map fun item => render (provenanceOf item))).mapM loads
  return .obj [(py "candidate_id", .str group.1), (py "sources", .arr sources)]

/-- More than one object, or more than one set of normalized fields, has the key of the group. -/
def collides (policy : Json) (group : List Json) : Bool :=
  1 < (group.map objectFingerprint).dedup.length ||
    1 < (group.map fun item => render (normalizedFields policy (get item "fields"))).dedup.length

def collision (group : PyStr × List Json) : Json :=
  .obj [(py "candidate_id", .str group.1), (py "terminal_status", .str "UNKNOWN_IDENTITY"),
    (py "evidence", .arr (evidenceOf group.2))]

def candidate (policy : Json) (group : PyStr × List Json) : Json :=
  .obj [(py "candidate_id", .str group.1),
    (py "fields", (group.2.head?.map fun item => normalizedFields policy (get item "fields")).getD .null),
    (py "evidence", .arr (evidenceOf group.2))]

/-- The document the public pool seals. -/
def publicFields (policy : Json) (groups : List (PyStr × List Json)) : Fields :=
  [(py "schema_id", .str "search-candidate-pool/v2"), (py "policy", policy),
    (py "candidates", .arr ((groups.filter fun g => !collides policy g.2).map (candidate policy))),
    (py "collisions", .arr ((groups.filter fun g => collides policy g.2).map collision))]

/-- The groups of a list of items under their identities. -/
def poolGroups (labelled : List (PyStr × Json)) : List (PyStr × List Json) :=
  (groupsOf Prod.fst labelled).map fun g => (g.1, g.2.map Prod.snd)

/-- `pool_candidates`. -/
def poolCandidates (items : List Json) (policy : Json) : Except PyExc (Fields × Fields) := do
  validateContract poolPolicySchema policy
  assertContentSafe policy
  check (∀ k ∈ identityFields policy, k ∈ visibleFields policy) (valueError "identity fields must be frozen visible fields")
  check (items ≠ []) (valueError "candidate pool requires nonempty supplied items")
  check (∀ k ∈ visibleFields policy, tellsProvenance k = false) (valueError "provenance field cannot be visible")
  let labelled ← items.mapM (labelItem policy)
  let groups := poolGroups labelled
  let ledger ← groups.mapM ledgerEntry
  let published ← sealDocument (publicFields policy groups)
  let hidden ← sealDocument [(py "schema_id", .str "search-provenance-ledger/v2"),
    (py "candidate_set_fingerprint", dictGet published fingerprintKey), (py "entries", .arr ledger)]
  let text ← QA0.canonicalJson (.obj published)
  let rendered := casefold text
  check (∀ item ∈ items, contains (casefold (sourceAlias item)) rendered = false ∧
    contains (casefold (submissionId item)) rendered = false) (valueError "provenance signal in blind package")
  return (published, hidden)

end Grouping

section Validation

variable [PyRuntime] [PyNormalization]

def candidateSchema (visible : List PyStr) : Schema := obj [
  ("candidate_id", textSchema),
  ("fields", fieldsSchema visible),
  ("evidence", arr refSchema 1)] []

def collisionSchema : Schema := obj [
  ("candidate_id", textSchema),
  ("terminal_status", constText "UNKNOWN_IDENTITY"),
  ("evidence", arr refSchema 1)] []

def poolSchema (visible : List PyStr) : Schema := obj [
  ("schema_id", constText "search-candidate-pool/v2"),
  ("policy", poolPolicySchema),
  ("candidates", arr (candidateSchema visible) 0),
  ("collisions", arr collisionSchema 0),
  ("canonical_fingerprint", hashSchema)] []

/-- A published candidate against the policy it was published under. -/
def validateCandidate (policy candidate : Json) : Except PyExc Unit := do
  let fields := get candidate "fields"
  let expected ← candidateId policy fields
  check (asText (get candidate "candidate_id") = expected ∧ pyEq (normalizedFields policy fields) fields = true)
    (valueError "candidate identity must derive from normalized task key")

/-- The body of `validate_pool`. -/
def validatePoolBody (pool : Json) : Except PyExc Unit := do
  let policy ← required pool "policy"
  validateContract poolPolicySchema policy
  validateContract (poolSchema (visibleFields policy)) pool
  check ((∀ k ∈ identityFields policy, k ∈ visibleFields policy) ∧
    ∀ k ∈ visibleFields policy, tellsProvenance k = false) (valueError "invalid blind field policy")
  let candidates := asItems (get pool "candidates")
  let ids := candidates.map fun c => asText (get c "candidate_id")
  check (ids = sortedSet ids) (valueError "candidate identity/order mismatch")
  candidates.forM (validateCandidate policy)

/-- `validate_pool`. -/
def validatePool (pool : Json) : Except PyExc Unit := do
  verifySeal pool
  reshaping "candidate pool shape mismatch" (validatePoolBody pool)

end Validation

end EvaluationLab.SearchCup
