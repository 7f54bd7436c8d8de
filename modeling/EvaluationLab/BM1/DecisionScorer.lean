import EvaluationLab.BM1.Frozen
import EvaluationLab.BM1.Verdict

/-! The exact score of a final text, and the texts on which the scorer gives it. -/
namespace EvaluationLab.BM1
open Python Effect QA0

section Exact

variable [PyRuntime]

/-- The score a final text has by the decision it carries. -/
def exactScore (expected finalText : PyStr) : Score :=
  match decisionOf finalText with
  | none => notEvaluableScore
  | some decision => decisionScore (decide (decision = expected))

/-- Whenever the scorer returns, it returns the exact score. -/
theorem exactScore_of_ok {case : Json} {expected text : PyStr} {score : Score}
    (hcase : expectedDecisionForCase case = .ok expected) (h : scoreE11Output case text = .ok score) :
    score = exactScore expected text := by
  unfold exactScore
  rcases scoreE11Output_ok h with ⟨hnone, rfl⟩ | ⟨decision, expected', hdecision, hexpected, rfl⟩
  · rw [hnone]
  · obtain rfl : expected' = expected := Except.ok.inj (hexpected.symm.trans hcase)
    rw [hdecision]

/-- On a case with an oracle the scorer gives the exact score of just the texts it can read. -/
theorem exact_score_iff {case : Json} {expected : PyStr} (hcase : expectedDecisionForCase case = .ok expected)
    (text : PyStr) : scoreE11Output case text = .ok (exactScore expected text) ↔ Readable text := by
  rw [← scoreE11Output_ok_iff hcase text]
  constructor
  · exact fun h => ⟨_, h⟩
  · rintro ⟨score, h⟩
    rw [h, exactScore_of_ok hcase h]

end Exact

section Frozen

open Python.Ascii

/-- A decision in a list. -/
def listedDecision : PyStr := "\x7b\"decision\": []\x7d"

theorem exact_score_frozen : expectedDecisionForCase targetCase = .ok decisionDecline ∧
    (scoreE11Output targetCase [] = .ok (exactScore decisionDecline []) ↔ Readable []) := by
  have hcase : expectedDecisionForCase targetCase = .ok decisionDecline := by decide +kernel
  exact ⟨hcase, exact_score_iff hcase []⟩

/-- A decision that cannot be hashed is no decision, but the scorer raises on it. -/
theorem listed_decision_raises : expectedDecisionForCase targetCase = .ok decisionDecline ∧
    exactScore decisionDecline listedDecision = notEvaluableScore ∧
    ¬∃ score, scoreE11Output targetCase listedDecision = .ok score := by
  have hraised : expectedDecisionForCase targetCase = .ok decisionDecline ∧
      exactScore decisionDecline listedDecision = notEvaluableScore ∧
      scoreE11Output targetCase listedDecision = .error (typeError "unhashable type") := by decide +kernel
  refine ⟨hraised.1, hraised.2.1, ?_⟩
  rintro ⟨score, h⟩
  rw [hraised.2.2] at h
  cases h

end Frozen

end EvaluationLab.BM1
