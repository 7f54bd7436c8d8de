import EvaluationLab.Python.Text

/-! The sixteen canonical targets of the benchmark and the case pair each one owns. -/
namespace EvaluationLab.BM0
open Python

inductive TargetClass where
  | modelDirect | modelContextGrounded | agentStandardized | systemEvalOnly
  deriving DecidableEq, Repr

def TargetClass.text : TargetClass → PyStr
  | modelDirect => "MODEL_DIRECT"
  | modelContextGrounded => "MODEL_CONTEXT_GROUNDED"
  | agentStandardized => "AGENT_STANDARDIZED"
  | systemEvalOnly => "SYSTEM_EVAL_ONLY"

structure Lineage where
  entryId : PyStr
  targetId : PyStr
  familyId : PyStr
  targetClass : TargetClass
  caseIds : List PyStr

def canonicalFamilyLineage : List Lineage := [
  ⟨"E01", "BM0-TUT-E01-QA0-ENTITY-ATTRIBUTE-BINDING",
    "entity-attribute-binding", .modelContextGrounded,
    ["B2-QA0-EAB-KB-001", "B2-QA0-EAB-CTRL-001"]⟩,
  ⟨"E02", "BM0-TUT-E02-QA0-CONNECTOR-SCHEMA",
    "connector-schema", .agentStandardized,
    ["B2-QA0-CS-KB-001", "B2-QA0-CS-CTRL-001"]⟩,
  ⟨"E03", "BM0-TUT-E03-QA0-INTEGRITY-COMPLETENESS",
    "integrity-completeness", .systemEvalOnly,
    ["B2-QA0-IC-KB-001", "B2-QA0-IC-CTRL-001"]⟩,
  ⟨"E04", "BM0-TUT-E04-QA0-EVIDENCE-SCOPE",
    "evidence-scope", .modelContextGrounded,
    ["B2-QA0-ES-KB-001", "B2-QA0-ES-CTRL-001"]⟩,
  ⟨"E05", "BM0-TUT-E05-QA1G-ENTITY-ATTRIBUTE-BINDING",
    "entity-attribute-binding", .modelContextGrounded,
    ["B2-QA1-G-EAB-KB-001", "B2-QA1-G-EAB-CTRL-001"]⟩,
  ⟨"E06", "BM0-TUT-E06-QA1G-INVENTORY-EVIDENCE-SCOPE",
    "inventory-evidence-scope", .modelContextGrounded,
    ["B2-QA1-G-INV-KB-001", "B2-QA1-G-INV-CTRL-001"]⟩,
  ⟨"E07", "BM0-TUT-E07-QA1G-SOURCE-MODALITY",
    "source-modality", .modelContextGrounded,
    ["B2-QA1-G-MOD-KB-001", "B2-QA1-G-MOD-CTRL-001"]⟩,
  ⟨"E08", "BM0-TUT-E08-QA1T-CONNECTOR-SCHEMA-RETRY",
    "connector-schema-retry", .agentStandardized,
    ["B2-QA1-T-SCHEMA-KB-001", "B2-QA1-T-SCHEMA-CTRL-001"]⟩,
  ⟨"E09", "BM0-TUT-E09-QA1T-CAPABILITY-ROUTING",
    "capability-routing", .agentStandardized,
    ["B2-QA1-T-ROUTE-KB-001", "B2-QA1-T-ROUTE-CTRL-001"]⟩,
  ⟨"E10", "BM0-TUT-E10-QA1T-DESTRUCTIVE-WRITE-RECOVERY",
    "destructive-write-recovery", .agentStandardized,
    ["B2-QA1-T-WRITE-KB-001", "B2-QA1-T-WRITE-CTRL-001"]⟩,
  ⟨"E11", "BM0-TUT-E11-QA2-CONSTRAINT-ACTION-PERSISTENCE",
    "constraint-action-persistence", .modelDirect,
    ["B2-QA2-R-CONSTRAINT-KB-001", "B2-QA2-R-CONSTRAINT-CTRL-001"]⟩,
  ⟨"E12", "BM0-TUT-E12-QA2-LIVE-ASSESSMENT-RULE-PERSISTENCE",
    "live-assessment-rule-persistence", .modelDirect,
    ["B2-QA2-R-ASSESS-KB-001", "B2-QA2-R-ASSESS-CTRL-001"]⟩,
  ⟨"E13", "BM0-TUT-E13-QA2-LIVE-PRODUCTION-NO-AI-PERSISTENCE",
    "live-production-no-ai-persistence", .modelDirect,
    ["B2-QA2-R-PROD-KB-001", "B2-QA2-R-PROD-CTRL-001"]⟩,
  ⟨"E14", "BM0-TUT-E14-QA3-FULL-SET-PROJECTION-COMPLETENESS",
    "full-set-projection-completeness", .systemEvalOnly,
    ["B2-QA3-P-COMPLETE-KB-001", "B2-QA3-P-COMPLETE-CTRL-001"]⟩,
  ⟨"E15", "BM0-TUT-E15-QA3-METRIC-ATTRIBUTION-PROVENANCE-SEPARATION",
    "metric-attribution-provenance-separation", .systemEvalOnly,
    ["B2-QA3-P-ATTR-KB-001", "B2-QA3-P-ATTR-CTRL-001"]⟩,
  ⟨"E16", "BM0-TUT-E16-QA3-DASHBOARD-FIELD-SEMANTICS-SCOPE-LOCK",
    "dashboard-field-semantics-scope-lock", .systemEvalOnly,
    ["B2-QA3-P-SCOPE-KB-001", "B2-QA3-P-SCOPE-CTRL-001"]⟩]

/-- `TARGET_LINEAGE_BY_ENTRY.get(entry_id)`. -/
def targetLineageByEntry (entryId : PyStr) : Option Lineage :=
  canonicalFamilyLineage.find? fun row => row.entryId = entryId

/-- `TARGET_LINEAGE_BY_ID.get(target_id)`. -/
def targetLineageById (targetId : PyStr) : Option Lineage :=
  canonicalFamilyLineage.find? fun row => row.targetId = targetId

theorem targetLineageByEntry_entryId {entryId : PyStr} {row : Lineage}
    (h : targetLineageByEntry entryId = some row) : row.entryId = entryId := by
  have hfound := List.find?_some h
  exact of_decide_eq_true hfound

theorem targetLineageById_targetId {targetId : PyStr} {row : Lineage}
    (h : targetLineageById targetId = some row) : row.targetId = targetId := by
  have hfound := List.find?_some h
  exact of_decide_eq_true hfound

end EvaluationLab.BM0
