import EvaluationLab.BM1.Runner

/-! What surrounds a runner: the claim and evidence stores, and the log of what was sent. -/
namespace EvaluationLab.BM1
open Python Effect QA0

/-- A request that reached the provider boundary, what the transport did with it, and the
account of the runner that made it at that moment. -/
structure Sent where
  account : RunnerState
  attemptId : PyStr
  providerId : PyStr
  body : Json
  exchange : Exchange

/-- The two stores. A create that fails halfway may leave its name taken without content. -/
structure Store where
  claims : List Claim
  claimNames : List PyStr
  records : List (PyStr × PrivateRecord)
  recordNames : List PyStr
  sent : List Sent

abbrev World := RunnerState × Store

/-- An exclusive create: it succeeds only under a free name, and may fail after taking it. -/
inductive CreateClaim (s : Store) (claim : Claim) : Creation → Store → Prop where
  | created : claim.attemptId ∉ s.claimNames → CreateClaim s claim .created
      { s with claims := claim :: s.claims, claimNames := claim.attemptId :: s.claimNames }
  | alreadyExists : claim.attemptId ∈ s.claimNames → CreateClaim s claim .alreadyExists s
  | raised (e : PyExc) : CreateClaim s claim (.raised e) s
  | torn (e : PyExc) : claim.attemptId ∉ s.claimNames → CreateClaim s claim (.raised e)
      { s with claimNames := claim.attemptId :: s.claimNames }
  | raisedAfter (e : PyExc) : claim.attemptId ∉ s.claimNames → CreateClaim s claim (.raised e)
      { s with claims := claim :: s.claims, claimNames := claim.attemptId :: s.claimNames }

/-- The same for a record; a sink that fails raises an `Exception`. -/
inductive CreateRecord (s : Store) (attemptId : PyStr) (record : PrivateRecord) :
    Creation → Store → Prop where
  | created : attemptId ∉ s.recordNames → CreateRecord s attemptId record .created
      { s with records := (attemptId, record) :: s.records, recordNames := attemptId :: s.recordNames }
  | alreadyExists : attemptId ∈ s.recordNames → CreateRecord s attemptId record .alreadyExists s
  | raised (e : PyExc) : e.isA "Exception" → CreateRecord s attemptId record (.raised e) s
  | torn (e : PyExc) : e.isA "Exception" → attemptId ∉ s.recordNames →
      CreateRecord s attemptId record (.raised e)
        { s with recordNames := attemptId :: s.recordNames }
  | raisedAfter (e : PyExc) : e.isA "Exception" → attemptId ∉ s.recordNames →
      CreateRecord s attemptId record (.raised e)
        { s with records := (attemptId, record) :: s.records, recordNames := attemptId :: s.recordNames }

/-- A record that was kept reads back; a name without content does not. -/
def ReadRecord (s : Store) (attemptId : PyStr) (r : Except PyExc (Option PrivateRecord)) : Prop :=
  match s.records.lookup attemptId with
  | some record => r = .ok (some record)
  | none => if attemptId ∈ s.recordNames then ∃ e, r = .error e else r = .ok none

/-- One operation of a runner. Clocks, verifiers, transports and storage attributes may answer
anything; a claim that is read was stored. -/
def Answers (w : World) : (op : Op) → op.Answer → World → Prop
  | .self, r, w' => r = w.1 ∧ w' = w
  | .setSelf state, _, w' => w' = (state, w.2)
  | .now, _, w' => w' = w
  | .transportNow _, _, w' => w' = w
  | .verify _ _ _, _, w' => w' = w
  | .storageAttributes, _, w' => w' = w
  | .createClaim claim, r, w' => w'.1 = w.1 ∧ CreateClaim w.2 claim r w'.2
  | .readClaim attemptId, r, w' =>
    w' = w ∧ ∀ claim, r = .stored claim → claim ∈ w.2.claims ∧ claim.attemptId = attemptId
  | .openUrl attemptId providerId body, r, w' =>
    w' = (w.1, { w.2 with sent := w.2.sent ++ [⟨w.1, attemptId, providerId, body, .live r⟩] })
  | .call attemptId providerId body, r, w' =>
    w' = (w.1, { w.2 with sent := w.2.sent ++ [⟨w.1, attemptId, providerId, body, .offline r⟩] })
  | .createRecord attemptId record, r, w' => w'.1 = w.1 ∧ CreateRecord w.2 attemptId record r w'.2
  | .readRecord attemptId, r, w' => w' = w ∧ ReadRecord w.2 attemptId r

def environment : Semantics boundary World where
  allowed := fun _ _ => True
  step := Answers

end EvaluationLab.BM1
