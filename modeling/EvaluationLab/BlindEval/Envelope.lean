import EvaluationLab.BlindEval.Receipt
import EvaluationLab.Structure.Delimiter

/-! What the bytes of the input envelope say of the two inputs. -/
namespace EvaluationLab.BlindEval
open Python Structure

/-- The line between the two inputs. -/
def taskLine : List UInt8 := utf8 "===== TASK ====="

/-- The line before them. -/
def contextLine : List UInt8 := utf8 (py "===== LONG_CONTEXT | " ++ inputEnvelopeVersion ++ py " =====\n")

example : contextLine.getLast? = some 10 := by decide +kernel

theorem newline_not_mem_taskLine : (10 : UInt8) ∉ taskLine := by decide +kernel

/-- The envelope holds the bytes of the inputs as they are. -/
theorem envelope_bytes {contextBytes promptBytes envelope : List UInt8}
    (h : buildInputEnvelope contextBytes promptBytes = .ok envelope) :
    envelope = contextLine ++ delimited 10 taskLine contextBytes promptBytes := by
  unfold buildInputEnvelope at h
  cases hcontext : decodeUtf8 contextBytes with
  | none => simp [hcontext] at h
  | some context =>
    cases hprompt : decodeUtf8 promptBytes with
    | none => simp [hcontext, hprompt] at h
    | some prompt =>
      simp only [hcontext, hprompt, Except.ok.injEq] at h
      have hmiddle : utf8 (py "\n===== TASK =====\n") = 10 :: (taskLine ++ [10]) := by decide +kernel
      have happend : ∀ s t : PyStr, utf8 (s ++ t) = utf8 s ++ utf8 t := fun _ _ => List.flatMap_append
      rw [← h, envelopeText, happend, happend, happend, utf8_decodeUtf8 hcontext, utf8_decodeUtf8 hprompt, hmiddle,
        contextLine, delimited]
      simp

/-- Two envelopes are the same bytes just when their inputs are, or one context goes on after the other one with a
task line; contexts without that line are told apart. -/
theorem envelope_eq_iff {context prompt context' prompt' envelope envelope' : List UInt8}
    (h : buildInputEnvelope context prompt = .ok envelope) (h' : buildInputEnvelope context' prompt' = .ok envelope') :
    (envelope = envelope' ↔ (context = context' ∧ prompt = prompt') ∨
      Continues 10 taskLine context prompt context' prompt' ∨ Continues 10 taskLine context' prompt' context prompt) ∧
    (Unlined 10 taskLine context → Unlined 10 taskLine context' → envelope = envelope' →
      context = context' ∧ prompt = prompt') := by
  rw [envelope_bytes h, envelope_bytes h', List.append_cancel_left_eq]
  exact ⟨delimited_eq_iff newline_not_mem_taskLine, fun hcontext hcontext' => delimited_injective newline_not_mem_taskLine hcontext hcontext'⟩

/-- A context that goes on with a task line, and the context before that line. -/
theorem envelope_ambiguous : buildInputEnvelope (utf8 "a") (utf8 "b\n===== TASK =====\nc") =
    buildInputEnvelope (utf8 "a\n===== TASK =====\nb") (utf8 "c") ∧
    (buildInputEnvelope (utf8 "a") (utf8 "b\n===== TASK =====\nc")).isOk = true ∧
    utf8 "a" ≠ utf8 "a\n===== TASK =====\nb" := by decide +kernel

theorem envelope_eq_plain : ∃ envelope envelope', buildInputEnvelope (utf8 "a") (utf8 "b") = .ok envelope ∧
    buildInputEnvelope (utf8 "a") (utf8 "c") = .ok envelope' ∧
    (envelope = envelope' ↔ (utf8 "a" = utf8 "a" ∧ utf8 "b" = utf8 "c") ∨
      Continues 10 taskLine (utf8 "a") (utf8 "b") (utf8 "a") (utf8 "c") ∨
      Continues 10 taskLine (utf8 "a") (utf8 "c") (utf8 "a") (utf8 "b")) :=
  ⟨_, _, rfl, rfl, (envelope_eq_iff rfl rfl).1⟩

end EvaluationLab.BlindEval
