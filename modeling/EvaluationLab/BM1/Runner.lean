import EvaluationLab.BM1.Receipt
import EvaluationLab.Effect.Procedure

/-! `BM1Runner`: the canonical attempt transaction, the full run and the scorer replay, as
programs over everything outside the runner. -/
namespace EvaluationLab.BM1
open Python Effect QA0

/-- The mutable part of a runner. -/
structure RunnerState where
  receipts : List Receipt := []
  providerRequestCount : ℕ := 0
  providerLocalErrorCount : ℕ := 0
  globalStopReason : Option Reason := none

/-- What became of an exclusive create. -/
inductive Creation where
  | created
  | alreadyExists
  | raised (e : PyExc)

inductive ClaimRead where
  | absent
  | stored (claim : Claim)
  | unreadable (e : PyExc)

/-- The storage attributes a live runner compares before it sends. -/
structure StorageAttributes where
  sinkStorageAuthority : Option PyStr
  sinkDestination : Option PyStr
  storeStorageAuthority : Option PyStr
  storeFingerprint : Option PyStr

inductive Op where
  | self
  | setSelf (state : RunnerState)
  | now
  | transportNow (providerId : PyStr)
  | verify (runReadyFingerprint userFingerprint authorizationId : PyStr)
  | storageAttributes
  | createClaim (claim : Claim)
  | readClaim (attemptId : PyStr)
  | openUrl (attemptId providerId : PyStr) (body : Json)
  | call (attemptId providerId : PyStr) (body : Json)
  | createRecord (attemptId : PyStr) (record : PrivateRecord)
  | readRecord (attemptId : PyStr)

@[reducible] def Op.Answer : Op → Type
  | self => RunnerState
  | setSelf _ => Unit
  | now => ℤ
  | transportNow _ => ℤ
  | verify _ _ _ => Except PyExc Bool
  | storageAttributes => StorageAttributes
  | createClaim _ => Creation
  | readClaim _ => ClaimRead
  | openUrl _ _ _ => HttpExchange
  | call _ _ _ => Except PyExc Json
  | createRecord _ _ => Creation
  | readRecord _ => Except PyExc (Option PrivateRecord)

/-- Everything a runner asks of what surrounds it. -/
@[reducible] def boundary : Interface := ⟨Op, Op.Answer⟩

abbrev Action (α : Type) := Procedure boundary PyExc α

def perform (op : Op) : Action op.Answer := Procedure.ask (I := boundary) op

def raiseError {α : Type} (r : Except PyExc α) : Action α := Procedure.ofExcept r

variable [PyRuntime]

/-- A durable evidence directory, with the fingerprints it was built with. -/
structure FileRawEvidenceSink where
  destinationId : PyStr
  destinationFingerprint : PyStr
  storageAuthorityFingerprint : PyStr
  built : buildRawDestinationFingerprint destinationId = .ok destinationFingerprint
  authority : ∃ document, sha256Json document = .ok storageAuthorityFingerprint

inductive RawEvidenceSink where
  | inMemory
  | file (sink : FileRawEvidenceSink)

def RawEvidenceSink.destination : RawEvidenceSink → Destination
  | inMemory => ⟨"VOLATILE_TEST_ONLY", none, none, none⟩
  | file s => ⟨"DURABLE_FSYNC_READBACK", some s.destinationId, some s.destinationFingerprint,
      some s.storageAuthorityFingerprint⟩

/-- A durable claim directory, with the fingerprints it was built with. -/
structure FileAttemptClaimStore where
  storeId : PyStr
  storeFingerprint : PyStr
  storageAuthorityFingerprint : PyStr
  built : buildClaimStoreFingerprint storeId = .ok storeFingerprint

inductive AttemptClaimStore where
  | inMemory
  | file (store : FileAttemptClaimStore)

/-- The frozen documents a sealed live transport revalidates before its opener is used. -/
structure HttpTransport where
  manifest : Manifest
  authorization : LiveAuthorization
  runReady : RunReady
  commitSha : PyStr
  treeSha : PyStr

structure LiveBinding where
  authorization : LiveAuthorization
  runReady : RunReady
  commitSha : PyStr
  treeSha : PyStr
  transports : PyStr → HttpTransport

/-- Either no transport is live, or both are. -/
inductive Mode where
  | offline (transports : List PyStr)
  | live (binding : LiveBinding)

/-- The storage and transport bindings a live runner is constructed with. -/
def LiveBinding.Bound (b : LiveBinding) (sink : RawEvidenceSink) (store : AttemptClaimStore) : Prop :=
  (∃ s, store = .file s ∧ s.storeId = b.runReady.attemptClaimStore.identifier ∧
    s.storeFingerprint = b.runReady.attemptClaimStore.labelFingerprint ∧
    s.storageAuthorityFingerprint = b.runReady.attemptClaimStore.storageAuthorityFingerprint) ∧
  (∃ s, sink = .file s ∧ s.destinationId = b.runReady.rawBundleDestination.identifier ∧
    s.destinationFingerprint = b.runReady.rawBundleDestination.labelFingerprint ∧
    s.storageAuthorityFingerprint = b.runReady.rawBundleDestination.storageAuthorityFingerprint) ∧
  ∀ providerId ∈ [openaiProviderId, googleProviderId],
    (b.transports providerId).authorization.receiptFingerprint = b.authorization.receiptFingerprint ∧
    (b.transports providerId).runReady.receiptFingerprint = b.runReady.receiptFingerprint ∧
    (b.transports providerId).authorization.userAuthorizationFingerprint =
      b.authorization.userAuthorizationFingerprint ∧
    (b.transports providerId).authorization.rawBundleDestinationFingerprint =
      b.runReady.rawBundleDestination.labelFingerprint ∧
    (b.transports providerId).authorization.rawStorageAuthorityFingerprint =
      b.runReady.rawBundleDestination.storageAuthorityFingerprint ∧
    (b.transports providerId).authorization.attemptClaimStoreFingerprint =
      b.runReady.attemptClaimStore.labelFingerprint ∧
    (b.transports providerId).authorization.claimStorageAuthorityFingerprint =
      b.runReady.attemptClaimStore.storageAuthorityFingerprint

/-- A runner that `BM1Runner` has accepted. -/
structure Runner where
  manifest : Manifest
  cases : CaseLookup
  mode : Mode
  sink : RawEvidenceSink
  store : AttemptClaimStore
  valid : manifest.Valid cases
  bound : ∀ b, mode = .live b → b.Bound sink store ∧
    ∃ now, checkLiveAuthorization b.authorization manifest b.commitSha b.treeSha b.runReady now =
      .ok b.runReady

/-- `validate_live_authorization`, asking the external verifier last but one. -/
def validateLiveAuthorization (doc : LiveAuthorization) (m : Manifest) (commitSha treeSha : PyStr)
    (runReadyReceipt : RunReady) (now : ℤ) : Action Unit := do
  let runReady ← raiseError (checkLiveAuthorization doc m commitSha treeSha runReadyReceipt now)
  match ← perform (.verify runReady.receiptFingerprint doc.userAuthorizationFingerprint doc.authorizationId) with
  | .error e =>
    throw (if e.isA "Exception" then authorizationError "external authority verification failed" else e)
  | .ok accepted =>
    raiseError (check (accepted = true)
      (authorizationError "external authority verifier rejected candidate chain"))
    raiseError (assertPublicSafe (sealed doc.fields doc.receiptFingerprint))

/-- `_revalidate_live`. -/
def revalidateLive (m : Manifest) (b : LiveBinding) : Action Unit := do
  let now ← perform .now
  validateLiveAuthorization b.authorization m b.commitSha b.treeSha b.runReady now

/-- `_live_storage_gate`. -/
def liveStorageGate (b : LiveBinding) : Action Unit := do
  let attributes ← perform .storageAttributes
  let raw := b.runReady.rawBundleDestination
  let claims := b.runReady.attemptClaimStore
  raiseError (check (attributes.sinkStorageAuthority = some raw.storageAuthorityFingerprint ∧
      attributes.sinkDestination = some raw.labelFingerprint ∧
      attributes.storeStorageAuthority = some claims.storageAuthorityFingerprint ∧
      attributes.storeFingerprint = some claims.labelFingerprint)
    (authorizationError "live durable storage Authority gate lost"))

/-- `transport.revalidate`. -/
def revalidateTransport (providerId : PyStr) (t : HttpTransport) : Action Unit := do
  let now ← perform (.transportNow providerId)
  validateLiveAuthorization t.authorization t.manifest t.commitSha t.treeSha t.runReady now

def fileNotFoundError : PyExc :=
  ⟨"FileNotFoundError", ["FileNotFoundError", "OSError", "Exception"], "No such file or directory"⟩

/-- `claim` of either store: the checks, the exclusive create and, for files, the readback. -/
def claimAttempt (store : AttemptClaimStore) (claim : Claim) : Action Claim := do
  raiseError (fingerprintOk claim.claimFingerprint (.obj claim.fields) "claim_fingerprint" "attempt_claim")
  match store with
  | .inMemory =>
    raiseError (check (claim.attemptId ≠ []) (authorizationError "attempt already claimed or missing"))
    match ← perform (.createClaim claim) with
    | .created => return claim
    | .alreadyExists => throw (authorizationError "attempt already claimed or missing")
    | .raised e => throw e
  | .file s =>
    raiseError (check (claim.attemptId ≠ []) (contractError "attempt claim id missing"))
    raiseError (check (claim.attemptClaimStoreFingerprint = some s.storeFingerprint ∧
        claim.claimStorageAuthorityFingerprint = some s.storageAuthorityFingerprint)
      (authorizationError "attempt claim storage Authority mismatch"))
    match ← perform (.createClaim claim) with
    | .created =>
      match ← perform (.readClaim claim.attemptId) with
      | .stored readback =>
        raiseError (check (readback = claim) (globalStop "durable claim readback mismatch"))
        return claim
      | .absent => throw fileNotFoundError
      | .unreadable e => throw e
    | .alreadyExists =>
      throw (authorizationError "attempt already durably claimed; new attempt_id+authorization required")
    | .raised e => throw e

/-- `verify_claim`: an unreadable claim is not a verified one. -/
def verifyClaim (claim : Claim) : Action Bool := do
  match ← perform (.readClaim claim.attemptId) with
  | .absent => return false
  | .stored stored => return decide (stored = claim)
  | .unreadable e =>
    if e.isA "OSError" ∨ e.isA "BM1AuthorizationError" ∨ e.isA "JSONDecodeError" then return false
    else throw e

/-- A file sink writes the canonical text of the record. -/
def persistable (sink : RawEvidenceSink) (record : PrivateRecord) : Except PyExc (List UInt8) :=
  match sink with
  | .inMemory => .ok []
  | .file _ => canonicalJson record.toJson >>= encode

/-- `write` of either sink. -/
def writeEvidence (sink : RawEvidenceSink) (attemptId : PyStr) (record : PrivateRecord) :
    Action Evidence := do
  let _ ← raiseError (persistable sink record)
  match ← perform (.createRecord attemptId record) with
  | .created => raiseError (evidenceReceipt attemptId record sink.destination)
  | .alreadyExists => throw (contractError "raw evidence overwrite rejected")
  | .raised e => throw e

/-- The attempt a call is about, and what it is about to send. -/
structure Selected where
  attempt : Attempt
  provider : Provider
  case : Json
  body : Json

/-- An attempt on its way to the provider. -/
structure Transaction extends Selected where
  claim : Claim
  started : ℤ

def Mode.hasTransport : Mode → PyStr → Bool
  | offline transports, providerId => transports.contains providerId
  | live _, providerId => providerId = openaiProviderId ∨ providerId = googleProviderId

/-- The provider, case and request body of a planned attempt. -/
def prepareAttempt (R : Runner) (attempt : Attempt) : Except PyExc Selected := do
  let provider ← providerOf R.manifest attempt.providerId
  let case ← caseOf R.cases attempt.caseId
  let prompt ← renderCasePrompt case
  let body ← buildProviderRequest provider prompt
  return { attempt, provider, case, body }

/-- The exact current attempt, refused unless the caller names it. -/
def selectAttempt (R : Runner) (s : RunnerState) (attemptId : PyStr) : Except PyExc Selected := do
  let index := s.receipts.length
  check (index < maxPlannedAttempts ∧ s.providerRequestCount < maxPlannedAttempts)
    (globalStop "PLANNED_ATTEMPT_COUNT_EXHAUSTED")
  match R.manifest.attemptPlan[index]? with
  | none => throw ⟨"IndexError", ["IndexError", "LookupError", "Exception"], "list index out of range"⟩
  | some attempt =>
    check (attemptId = attempt.attemptId) (contractError "attempt order/duplicate violation")
    let selected ← prepareAttempt R attempt
    check (R.mode.hasTransport selected.provider.providerId = true) (contractError "missing transport")
    return selected

/-- The attributed amounts of the receipts so far. -/
def actualSpend (receipts : List Receipt) : ℚ := (receipts.map fun r => r.cost.amount.getD 0).sum

def worstCaseOf (m : Manifest) (attempt : Attempt) : Except PyExc ℚ := do
  let provider ← providerOf m attempt.providerId
  worstCaseAttemptCostUsd provider

/-- The worst-case cost of the attempts without a receipt. -/
def remainingWorstCase (m : Manifest) (index : ℕ) : Except PyExc ℚ := do
  let costs ← (m.attemptPlan.drop index).mapM (worstCaseOf m)
  return costs.sum

def setStop (reason : Reason) : Action Unit := do
  let s ← perform .self
  perform (.setSelf { s with globalStopReason := some reason })

/-- How an attempt is to be receipted. -/
structure Verdict where
  scorer : Option Score
  terminal : Terminal
  reason : Reason
  providerTerminal : ProviderTerminal
  errorClass : Option PyStr
  deriving DecidableEq

/-- An attempt that ends in `ERROR` before anything is scored. -/
def errorVerdict (reason : Reason) (errorClass : PyStr) : Verdict :=
  ⟨none, .error, reason, .runtimeError, some errorClass⟩

def receiptInput (R : Runner) (t : Transaction) (normalized : Option NormalizedProviderResponse)
    (evidence : Option Evidence) (v : Verdict) (completed : ℤ) : ReceiptInput where
  manifest := R.manifest
  attempt := t.attempt
  provider := t.provider
  case := t.case
  requestBody := t.body
  normalized := normalized
  evidence := evidence
  claim := some t.claim
  scorer := v.scorer
  started := t.started
  completed := completed
  terminal := v.terminal
  reason := v.reason
  providerTerminal := v.providerTerminal
  errorClass := v.errorClass

def pushReceipt (r : Receipt) : Action Unit := do
  let s ← perform .self
  perform (.setSelf { s with receipts := s.receipts ++ [r] })

/-- `_append`. -/
def append (R : Runner) (t : Transaction) (normalized : Option NormalizedProviderResponse)
    (evidence : Option Evidence) (v : Verdict) : Action Receipt := do
  let completed ← perform .now
  let r ← raiseError (receipt (receiptInput R t normalized evidence v completed))
  pushReceipt r
  return r

/-- The last gate of a live attempt, up to the built request. -/
def finalChecks (R : Runner) (b : LiveBinding) (t : Transaction) : Action Unit := do
  let verified ← verifyClaim t.claim
  raiseError (check (verified = true)
    (authorizationError "durable claim verification failed before provider boundary"))
  revalidateLive R.manifest b
  liveStorageGate b
  revalidateTransport t.provider.providerId (b.transports t.provider.providerId)
  let requestFingerprint ← raiseError (sha256Json t.body)
  raiseError (check (t.claim.attemptId = t.attempt.attemptId ∧
      t.claim.requestFingerprint = some requestFingerprint)
    (authorizationError "durable claim lost exact attempt/request binding"))
  let again ← verifyClaim t.claim
  raiseError (check (again = true)
    (authorizationError "durable claim lost exact attempt/request binding"))
  raiseError (assertPublicSafe t.body)
  let _ ← raiseError (canonicalJson t.body >>= encode)

/-- A committed claim whose final gate fails is receipted before the error goes on. -/
def finalGate (R : Runner) (b : LiveBinding) (t : Transaction) : Action Unit :=
  tryCatch (finalChecks R b t) fun e =>
    if e.isA "BM1AuthorizationError" then do
      setStop .liveAuthorizationStop
      let _ ← append R t none none (errorVerdict .liveAuthorizationStop "BM1AuthorizationError")
      throw e
    else if e.isA "Exception" then do
      setStop .livePreProviderStop
      let _ ← append R t none none (errorVerdict .livePreProviderStop e.name)
      throw (globalStop "live pre-provider preparation failed")
    else throw e

def countRequest : Action Unit := do
  let s ← perform .self
  perform (.setSelf { s with providerRequestCount := s.providerRequestCount + 1 })

/-- The provider boundary: the opener of a live transport, or the call of an offline one. -/
def send (R : Runner) (t : Transaction) : Action Exchange := do
  match R.mode with
  | .live _ =>
    let exchange ← perform (.openUrl t.attempt.attemptId t.provider.providerId t.body)
    return .live exchange
  | .offline _ =>
    let outcome ← perform (.call t.attempt.attemptId t.provider.providerId t.body)
    return .offline outcome

/-- What the transaction asks of evidence a live attempt has written. -/
def checkEvidence (R : Runner) (evidence : Evidence) : Except PyExc Unit := do
  assertPublicSafe evidence.toJson
  match R.mode with
  | .offline _ => return ()
  | .live b =>
    let raw := b.runReady.rawBundleDestination
    check (evidence.durability = py "DURABLE_FSYNC_READBACK" ∧
        evidence.destinationFingerprint = some raw.labelFingerprint ∧
        evidence.storageAuthorityFingerprint = some raw.storageAuthorityFingerprint)
      (globalStop "live evidence durability/storage Authority mismatch")

/-- The verdict on a response before the token guard is consulted. -/
def judge (t : Selected) (n : NormalizedProviderResponse) (errorClass : Option PyStr) :
    Except PyExc Verdict := do
  let errorClass := errorClass <|> n.errorClass
  match n.providerTerminalStatus.failure with
  | some reason => return ⟨none, .error, reason, n.providerTerminalStatus, errorClass⟩
  | none =>
    if identity t.provider n.resolvedModelId ≠ .exact then
      return ⟨none, .notEvaluable, .identityNotAuditable, n.providerTerminalStatus, errorClass⟩
    else
      match n.finalText.filter fun text => !(strip text).isEmpty with
      | none => return ⟨none, .notEvaluable, .emptyFinalContent, n.providerTerminalStatus, errorClass⟩
      | some text =>
        let scorer ← scoreE11Output t.case text
        let reason :=
          if scorer.terminalStatus = .notEvaluable then .scorerNotEvaluable else scorer.reason
        return ⟨some scorer, scorer.terminalStatus, reason, n.providerTerminalStatus, errorClass⟩

/-- The token guard keeps the scorer and replaces everything else. -/
def tokenBudgetVerdict (v : Verdict) : Verdict :=
  { v with
    terminal := .error
    reason := .costCeilingGuard
    providerTerminal := .runtimeError
    errorClass := some "TokenBudgetGuard" }

def countLocalFailure (reason : Reason) : Action Unit := do
  if reason ∈ providerLocalFailures then
    let s ← perform .self
    let count := s.providerLocalErrorCount + 1
    perform (.setSelf { s with
      providerLocalErrorCount := count
      globalStopReason := if count ≥ 2 then some .secondProviderLocalError else s.globalStopReason })
  else pure ()

/-- An attempt with evidence: judge it, guard its tokens, receipt it. -/
def settle (R : Runner) (t : Transaction) (n : NormalizedProviderResponse) (evidence : Evidence)
    (errorClass : Option PyStr) : Action Receipt := do
  let verdict ← raiseError (judge t.toSelected n errorClass)
  match cost t.provider n.inputTokens n.outputTokens with
  | .error _ =>
    setStop .costCeilingGuard
    append R t (some n) (some evidence) (tokenBudgetVerdict verdict)
  | .ok _ =>
    let r ← append R t (some n) (some evidence) verdict
    countLocalFailure verdict.reason
    return r

/-- The evidence of a called attempt, written and checked. -/
def keepEvidence (R : Runner) (t : Transaction) (record : PrivateRecord) : Action (Option Evidence) := do
  let evidence ← writeEvidence R.sink t.attempt.attemptId record
  raiseError (checkEvidence R evidence)
  return some evidence

/-- A called attempt: keep its evidence, or stop the runner when that fails. -/
def record (R : Runner) (t : Transaction) (raw : Option Fields) (n : NormalizedProviderResponse)
    (errorClass : Option PyStr) : Action Receipt := do
  let written ← tryCatch
    (keepEvidence R t ⟨t.body, raw, n.finalText, errorClass <|> n.errorClass⟩)
    fun e => if e.isA "Exception" then pure none else throw e
  match written with
  | none =>
    setStop .evidenceWriteError
    append R t (some n) none (errorVerdict .evidenceWriteError "EvidenceWriteError")
  | some evidence => settle R t n evidence errorClass

/-- The handlers of the provider call: an authorization error stops the runner, other errors
become a typed response, and what is no `Exception` goes through. -/
def recover (R : Runner) (t : Transaction) (raw : Option Fields) (e : PyExc) : Action Receipt :=
  if e.isA "BM1AuthorizationError" then do
    setStop .liveAuthorizationStop
    throw e
  else if e.isA "TimeoutError" then
    record R t raw (failedResponse .networkError "TimeoutError") (some "TimeoutError")
  else if e.isA "ConnectionError" ∨ e.isA "OSError" then
    record R t raw (failedResponse .networkError "NetworkError") (some "NetworkError")
  else if e.isA "Exception" then
    record R t raw (failedResponse .runtimeError e.name) (some e.name)
  else throw e

/-- Everything after the provider boundary. -/
def conclude (R : Runner) (t : Transaction) (exchange : Exchange) : Action Receipt := do
  match rawResponse exchange with
  | .error e => recover R t none e
  | .ok raw =>
    if secretMarker (.obj raw) then
      setStop .secretLeakSuspected
      tryCatch (append R t none none (errorVerdict .secretLeakSuspected "SecretLeakGuard"))
        (recover R t (some raw))
    else
      match normalizeProviderResponse t.provider.providerId raw with
      | .error e => recover R t (some raw) e
      | .ok n => record R t (some raw) n none

/-- A live runner revalidates its authority before it claims. -/
def admission (R : Runner) : Action Unit :=
  match R.mode with
  | .live b => do
    revalidateLive R.manifest b
    liveStorageGate b
  | .offline _ => pure ()

/-- A live runner passes the final gate before it sends. -/
def passGate (R : Runner) (t : Transaction) : Action Unit :=
  match R.mode with
  | .live b => finalGate R b t
  | .offline _ => pure ()

def Mode.authorization : Mode → Option LiveAuthorization
  | live b => some b.authorization
  | offline _ => none

/-- The transaction of an attempt that may be afforded. -/
def transact (R : Runner) (selected : Selected) : Action Receipt := do
  let started ← perform .now
  admission R
  let built ← raiseError
    (buildAttemptClaim R.manifest selected.attempt R.mode.authorization selected.body)
  let claim ← claimAttempt R.store built
  let t : Transaction := { selected with claim, started }
  passGate R t
  countRequest
  let exchange ← send R t
  conclude R t exchange

def runNext (R : Runner) (attemptId : PyStr) : Action Receipt := do
  let s ← perform .self
  match s.globalStopReason with
  | some reason => throw (globalStop reason.text)
  | none =>
    let selected ← raiseError (selectAttempt R s attemptId)
    let remaining ← raiseError (remainingWorstCase R.manifest s.receipts.length)
    if actualSpend s.receipts + remaining > maxTotalSmokeSpendUsd + 1 / 1000000000000 then
      setStop .costCeilingGuard
      throw (globalStop "worst-case cost exceeds ceiling")
    else transact R selected

/-- The receipt of a planned attempt that the stop blocks. -/
def blockedInput (R : Runner) (selected : Selected) (reason : Reason) (now : ℤ) : ReceiptInput where
  manifest := R.manifest
  attempt := selected.attempt
  provider := selected.provider
  case := selected.case
  requestBody := selected.body
  normalized := none
  evidence := none
  claim := none
  scorer := none
  started := now
  completed := now
  terminal := .blocked
  reason := reason
  providerTerminal := .runtimeError
  errorClass := some "BM1GlobalStop"

/-- Receipt each remaining attempt as blocked by the stop. -/
def blockRest (R : Runner) (reason : Reason) : List Attempt → Action Unit
  | [] => pure ()
  | attempt :: attempts => do
    let now ← perform .now
    let selected ← raiseError (prepareAttempt R attempt)
    let r ← raiseError (receipt (blockedInput R selected reason now))
    pushReceipt r
    blockRest R reason attempts

/-- The loop of `run_all`, which runs at most as often as there are planned attempts. -/
def runAllLoop (R : Runner) : (rounds : ℕ) → Action Unit
  | 0 => pure ()
  | rounds + 1 => do
    let s ← perform .self
    if s.receipts.length < maxPlannedAttempts then
      match s.globalStopReason with
      | some reason => blockRest R reason (R.manifest.attemptPlan.drop s.receipts.length)
      | none =>
        match R.manifest.attemptPlan[s.receipts.length]? with
        | none => throw ⟨"IndexError", ["IndexError", "LookupError", "Exception"], "list index out of range"⟩
        | some attempt =>
          let _ ← runNext R attempt.attemptId
          runAllLoop R rounds
    else pure ()

def runAll (R : Runner) : Action (List Receipt) := do
  runAllLoop R (maxPlannedAttempts + 1)
  let s ← perform .self
  raiseError (check (s.providerRequestCount ≤ maxPlannedAttempts)
    (globalStop "provider request count exceeded frozen matrix"))
  return s.receipts

end EvaluationLab.BM1
