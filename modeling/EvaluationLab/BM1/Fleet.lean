import EvaluationLab.BM1.Surroundings
import EvaluationLab.Effect.Concurrent
import Mathlib.Data.List.Nodup

/-! Several runners over one claim store: whatever their order and wherever they are cut off, a
planned attempt is sent at most once, and only under its own stored claim. -/
namespace EvaluationLab.BM1
open Python Effect QA0

section Runs

variable [PyRuntime]

/-- The claim is for this attempt and this request body. -/
def Claim.Covers (claim : Claim) (attemptId : PyStr) (body : Json) : Prop :=
  claim.attemptId = attemptId ∧ ∃ fp, sha256Json body = .ok fp ∧ claim.requestFingerprint = some fp

/-- What a runner may do with the claim it holds: it sends what the claim covers, once. -/
def Holds (held : Option Claim) : Op → Prop
  | .openUrl attemptId _ body => ∃ claim, held = some claim ∧ claim.Covers attemptId body
  | .call attemptId _ body => ∃ claim, held = some claim ∧ claim.Covers attemptId body
  | _ => True

/-- The claim a runner holds after an operation. -/
def holding (held : Option Claim) : (op : Op) → op.Answer → Option Claim
  | .createClaim claim, .created => some claim
  | .openUrl _ _ _, _ => none
  | .call _ _ _, _ => none
  | _, _ => held

def claimDiscipline : Semantics boundary (Option Claim) where
  allowed := Holds
  step := fun held op r held' => held' = holding held op r

section Discipline

variable {α β : Type} {R : Runner} {held : Option Claim}

/-- A procedure that neither claims nor sends. -/
def Idle (p : Action α) : Prop :=
  ∀ held, Procedure.wp claimDiscipline p (fun _ held' => held' = held) held

theorem Idle.done (r : Except PyExc α) : Idle (raiseError r) := fun _ => rfl

theorem wp_done {r : Except PyExc α} {Q : Except PyExc α → Option Claim → Prop} :
    Procedure.wp claimDiscipline (raiseError r) Q held ↔ Q r held := Iff.rfl

theorem Idle.perform {op : Op} (hallowed : ∀ held, Holds held op) (hkeeps : ∀ held r, holding held op r = held) :
    Idle (perform op) := by
  intro held
  refine ⟨hallowed held, ?_⟩
  rintro r held' rfl
  exact hkeeps held r

theorem Idle.bind {p : Action α} {f : α → Action β} (hp : Idle p) (hf : ∀ a, Idle (f a)) : Idle (p >>= f) := by
  intro held
  rw [Procedure.wp_bind]
  refine Procedure.wp_mono (hp held) ?_
  rintro r held' rfl
  cases r with
  | error e => rfl
  | ok a => exact hf a held'

theorem Idle.tryCatch {p : Action α} {handler : PyExc → Action α} (hp : Idle p) (hh : ∀ e, Idle (handler e)) :
    Idle (tryCatch p handler) := by
  intro held
  rw [Procedure.wp_tryCatch]
  refine Procedure.wp_mono (hp held) ?_
  rintro r held' rfl
  cases r with
  | error e => exact hh e held'
  | ok a => rfl

theorem Idle.ite {c : Prop} [Decidable c] {p q : Action α} (hp : Idle p) (hq : Idle q) :
    Idle (if c then p else q) := by
  split_ifs
  · exact hp
  · exact hq

theorem Idle.pure (a : α) : Idle (pure a : Action α) := fun _ => rfl

theorem Idle.throw (e : PyExc) : Idle (throw e : Action α) := fun _ => rfl

theorem idle_self : Idle (perform .self) := Idle.perform (fun _ => trivial) fun _ _ => rfl

theorem idle_setSelf (s : RunnerState) : Idle (perform (.setSelf s)) :=
  Idle.perform (fun _ => trivial) fun _ _ => rfl

theorem idle_now : Idle (perform .now) := Idle.perform (fun _ => trivial) fun _ _ => rfl

theorem idle_transportNow (providerId : PyStr) : Idle (perform (.transportNow providerId)) :=
  Idle.perform (fun _ => trivial) fun _ _ => rfl

theorem idle_verify (a b c : PyStr) : Idle (perform (.verify a b c)) :=
  Idle.perform (fun _ => trivial) fun _ _ => rfl

theorem idle_storageAttributes : Idle (perform .storageAttributes) :=
  Idle.perform (fun _ => trivial) fun _ _ => rfl

theorem idle_readClaim (attemptId : PyStr) : Idle (perform (.readClaim attemptId)) :=
  Idle.perform (fun _ => trivial) fun _ _ => rfl

theorem idle_createRecord (attemptId : PyStr) (record : PrivateRecord) :
    Idle (perform (.createRecord attemptId record)) :=
  Idle.perform (fun _ => trivial) fun _ _ => rfl

theorem idle_setStop (reason : Reason) : Idle (setStop reason) := idle_self.bind fun _ => idle_setSelf _

theorem idle_validateLiveAuthorization (doc : LiveAuthorization) (m : Manifest) (commitSha treeSha : PyStr)
    (runReady : RunReady) (now : ℤ) : Idle (validateLiveAuthorization doc m commitSha treeSha runReady now) := by
  refine (Idle.done _).bind fun rr => (idle_verify _ _ _).bind fun answer => ?_
  cases answer with
  | error e => exact Idle.throw _
  | ok accepted => exact (Idle.done _).bind fun _ => Idle.done _

theorem idle_revalidateLive (m : Manifest) (b : LiveBinding) : Idle (revalidateLive m b) :=
  idle_now.bind fun _ => idle_validateLiveAuthorization _ _ _ _ _ _

theorem idle_liveStorageGate (b : LiveBinding) : Idle (liveStorageGate b) :=
  idle_storageAttributes.bind fun _ => Idle.done _

theorem idle_revalidateTransport (providerId : PyStr) (t : HttpTransport) :
    Idle (revalidateTransport providerId t) :=
  (idle_transportNow _).bind fun _ => idle_validateLiveAuthorization _ _ _ _ _ _

theorem idle_verifyClaim (claim : Claim) : Idle (verifyClaim claim) := by
  refine (idle_readClaim _).bind fun read => ?_
  cases read with
  | absent => exact Idle.pure _
  | stored c => exact Idle.pure _
  | unreadable e => exact Idle.ite (Idle.pure _) (Idle.throw _)

theorem idle_admission (R : Runner) : Idle (admission R) := by
  unfold admission
  cases R.mode with
  | live b => exact (idle_revalidateLive _ _).bind fun _ => idle_liveStorageGate _
  | offline ts => exact Idle.pure _

theorem idle_pushReceipt (r : Receipt) : Idle (pushReceipt r) := by
  unfold pushReceipt
  exact idle_self.bind fun _ => idle_setSelf _

theorem idle_append (t : Transaction) (n : Option NormalizedProviderResponse) (evidence : Option Evidence)
    (v : Verdict) : Idle (append R t n evidence v) := by
  unfold append
  refine idle_now.bind fun completed => ?_
  generalize receipt (receiptInput R t n evidence v completed) = built
  exact (Idle.done built).bind fun r => (idle_pushReceipt r).bind fun _ => Idle.pure r

theorem idle_finalChecks (b : LiveBinding) (t : Transaction) : Idle (finalChecks R b t) :=
  (idle_verifyClaim _).bind fun _ => (Idle.done _).bind fun _ => (idle_revalidateLive _ _).bind fun _ =>
    (idle_liveStorageGate _).bind fun _ => (idle_revalidateTransport _ _).bind fun _ =>
    (Idle.done _).bind fun _ => (Idle.done _).bind fun _ => (idle_verifyClaim _).bind fun _ =>
    (Idle.done _).bind fun _ => (Idle.done _).bind fun _ => (Idle.done _).bind fun _ => Idle.pure _

theorem idle_passGate (t : Transaction) : Idle (passGate R t) := by
  unfold passGate
  cases R.mode with
  | offline ts => exact Idle.pure _
  | live b =>
    refine (idle_finalChecks b t).tryCatch fun e => ?_
    refine Idle.ite ?_ (Idle.ite ?_ (Idle.throw _))
    · exact (idle_setStop _).bind fun _ => (idle_append _ _ _ _).bind fun _ => Idle.throw _
    · exact (idle_setStop _).bind fun _ => (idle_append _ _ _ _).bind fun _ => Idle.throw _

theorem idle_countLocalFailure (reason : Reason) : Idle (countLocalFailure reason) :=
  Idle.ite (idle_self.bind fun _ => idle_setSelf _) (Idle.pure _)

theorem idle_settle (t : Transaction) (n : NormalizedProviderResponse) (evidence : Evidence)
    (errorClass : Option PyStr) : Idle (settle R t n evidence errorClass) := by
  refine (Idle.done _).bind fun verdict => ?_
  cases cost t.provider n.inputTokens n.outputTokens with
  | error e => exact (idle_setStop _).bind fun _ => idle_append _ _ _ _
  | ok amount =>
    exact (idle_append _ _ _ _).bind fun _ => (idle_countLocalFailure _).bind fun _ => Idle.pure _

theorem idle_keepEvidence (t : Transaction) (record : PrivateRecord) : Idle (keepEvidence R t record) := by
  refine Idle.bind ?_ fun _ => (Idle.done _).bind fun _ => Idle.pure _
  refine (Idle.done _).bind fun _ => (idle_createRecord _ _).bind fun creation => ?_
  cases creation with
  | created => exact Idle.done _
  | alreadyExists => exact Idle.throw _
  | raised e => exact Idle.throw _

theorem idle_record (t : Transaction) (raw : Option Fields) (n : NormalizedProviderResponse)
    (errorClass : Option PyStr) : Idle (record R t raw n errorClass) := by
  refine ((idle_keepEvidence t _).tryCatch fun e => Idle.ite (Idle.pure _) (Idle.throw _)).bind fun written => ?_
  cases written with
  | none => exact (idle_setStop _).bind fun _ => idle_append _ _ _ _
  | some evidence => exact idle_settle _ _ _ _

theorem idle_recover (t : Transaction) (raw : Option Fields) (e : PyExc) : Idle (recover R t raw e) := by
  refine Idle.ite ((idle_setStop _).bind fun _ => Idle.throw _) ?_
  refine Idle.ite (idle_record _ _ _ _) (Idle.ite (idle_record _ _ _ _) ?_)
  exact Idle.ite (idle_record _ _ _ _) (Idle.throw _)

theorem idle_conclude (t : Transaction) (exchange : Exchange) : Idle (conclude R t exchange) := by
  unfold conclude
  cases rawResponse exchange with
  | error e => exact idle_recover _ _ _
  | ok raw =>
    refine Idle.ite ?_ ?_
    · exact (idle_setStop _).bind fun _ => (idle_append _ _ _ _).tryCatch fun _ => idle_recover _ _ _
    · cases normalizeProviderResponse t.provider.providerId raw with
      | error e => exact idle_recover _ _ _
      | ok n => exact idle_record _ _ _ _

theorem idle_blockRest (reason : Reason) (attempts : List Attempt) : Idle (blockRest R reason attempts) := by
  induction attempts with
  | nil => exact Idle.pure _
  | cons attempt attempts ih =>
    unfold blockRest
    refine idle_now.bind fun now => Idle.bind (Idle.done _) fun selected => ?_
    generalize receipt (blockedInput R selected reason now) = built
    exact (Idle.done built).bind fun r => (idle_pushReceipt r).bind fun _ => ih

/-- A claim that comes back from the store is the claim that was built, and is held. -/
theorem claimAttempt_holds (store : AttemptClaimStore) (claim : Claim) :
    Procedure.wp claimDiscipline (claimAttempt store claim)
      (fun r held' => ∀ c, r = .ok c → c = claim ∧ held' = some claim) held := by
  have hfails : ∀ {e : PyExc} {c : Claim} {P : Prop}, (.error e : Except PyExc Claim) = .ok c → P :=
    fun h => by cases h
  have hcheck : ∀ {r : Except PyExc Unit} {f : Action Claim},
      (r = .ok () → Procedure.wp claimDiscipline f
        (fun r held' => ∀ c, r = .ok c → c = claim ∧ held' = some claim) held) →
      Procedure.wp claimDiscipline (raiseError r >>= fun _ => f)
        (fun r held' => ∀ c, r = .ok c → c = claim ∧ held' = some claim) held := by
    intro r f hf
    rw [Procedure.wp_bind]
    cases r with
    | error e => exact fun c h => hfails h
    | ok u => exact hf rfl
  refine hcheck fun _ => ?_
  cases store with
  | inMemory =>
    refine hcheck fun _ => ?_
    rw [Procedure.wp_bind]
    refine ⟨trivial, ?_⟩
    rintro creation held' rfl
    cases creation with
    | created => exact fun c h => ⟨(Except.ok.inj h).symm, rfl⟩
    | alreadyExists => exact fun c h => hfails h
    | raised e => exact fun c h => hfails h
  | file s =>
    refine hcheck fun _ => hcheck fun _ => ?_
    rw [Procedure.wp_bind]
    refine ⟨trivial, ?_⟩
    rintro creation held' rfl
    cases creation with
    | alreadyExists => exact fun c h => hfails h
    | raised e => exact fun c h => hfails h
    | created =>
      refine (Procedure.wp_bind _ _ _).mpr ⟨trivial, ?_⟩
      rintro read held' rfl
      cases read with
      | absent => exact fun c h => hfails h
      | unreadable e => exact fun c h => hfails h
      | stored readback =>
        refine (Procedure.wp_bind _ _ _).mpr ?_
        cases check (readback = claim) (globalStop "durable claim readback mismatch") with
        | error e => exact fun c h => hfails h
        | ok u => exact fun c h => ⟨(Except.ok.inj h).symm, rfl⟩

/-- A runner sends under the claim it holds, and holds none afterwards. -/
theorem send_holds {t : Transaction} (h : held = some t.claim)
    (hcovers : t.claim.Covers t.attempt.attemptId t.body) :
    Procedure.wp claimDiscipline (send R t) (fun _ held' => held' = none) held := by
  unfold send
  cases R.mode with
  | live b =>
    refine (Procedure.wp_bind _ _ _).mpr ⟨⟨_, h, hcovers⟩, ?_⟩
    rintro r held' rfl
    rfl
  | offline ts =>
    refine (Procedure.wp_bind _ _ _).mpr ⟨⟨_, h, hcovers⟩, ?_⟩
    rintro r held' rfl
    rfl

theorem transact_obeys (t : Selected) :
    Procedure.wp claimDiscipline (transact R t) (fun r held' => ∀ row, r = .ok row → held' = none) held := by
  have hfails : ∀ {e : PyExc} {row : Receipt} {P : Prop}, (.error e : Except PyExc Receipt) = .ok row → P :=
    fun h => by cases h
  have hidle : ∀ {α : Type} {p : Action α} {f : α → Action Receipt} {h : Option Claim}, Idle p →
      (∀ a, Procedure.wp claimDiscipline (f a) (fun r held' => ∀ row, r = .ok row → held' = none) h) →
      Procedure.wp claimDiscipline (p >>= f) (fun r held' => ∀ row, r = .ok row → held' = none) h := by
    intro α p f h hp hf
    rw [Procedure.wp_bind]
    refine Procedure.wp_mono (hp h) ?_
    rintro r held' rfl
    cases r with
    | error e => exact fun row h => hfails h
    | ok a => exact hf a
  refine hidle idle_now fun started => hidle (idle_admission R) fun _ => ?_
  rw [Procedure.wp_bind, wp_done]
  cases hbuilt : buildAttemptClaim R.manifest t.attempt R.mode.authorization t.body with
  | error e => exact fun row h => hfails h
  | ok built =>
    obtain ⟨hid, ⟨fp, hfp, hrequest⟩, -⟩ := buildAttemptClaim_ok hbuilt
    rw [Procedure.continueWith_ok, Procedure.wp_bind]
    refine Procedure.wp_mono (claimAttempt_holds R.store built) ?_
    intro r held' hclaimed
    cases r with
    | error e => exact fun row h => hfails h
    | ok claim =>
      obtain ⟨rfl, rfl⟩ := hclaimed claim rfl
      refine hidle (idle_passGate _) fun _ => hidle (idle_self.bind fun _ => idle_setSelf _) fun _ => ?_
      rw [Procedure.wp_bind]
      refine Procedure.wp_mono (send_holds rfl ⟨hid, fp, hfp, hrequest⟩) ?_
      rintro r held' rfl
      cases r with
      | error e => exact fun row h => hfails h
      | ok exchange =>
        refine Procedure.wp_mono (idle_conclude _ exchange none) ?_
        exact fun r held' h row _ => h

/-- On its own, a call only sends under the claim it holds. -/
theorem runNext_obeys (attemptId : PyStr) :
    Procedure.wp claimDiscipline (runNext R attemptId) (fun r held' => ∀ row, r = .ok row → held' = none) held := by
  have hfails : ∀ {e : PyExc} {row : Receipt} {P : Prop}, (.error e : Except PyExc Receipt) = .ok row → P :=
    fun h => by cases h
  rw [runNext, Procedure.wp_bind]
  refine Procedure.wp_mono (idle_self held) ?_
  rintro r held' rfl
  cases r with
  | error e => exact fun row h => hfails h
  | ok s =>
    rw [Procedure.continueWith_ok]
    cases s.globalStopReason with
    | some reason => exact fun row h => hfails h
    | none =>
      dsimp only
      rw [Procedure.wp_bind, wp_done]
      cases selectAttempt R s attemptId with
      | error e => exact fun row h => hfails h
      | ok selected =>
        rw [Procedure.continueWith_ok, Procedure.wp_bind, wp_done]
        cases remainingWorstCase R.manifest s.receipts.length with
        | error e => exact fun row h => hfails h
        | ok remaining =>
          rw [Procedure.continueWith_ok, Procedure.wp_ite]
          refine ⟨fun _ => ?_, fun _ => transact_obeys selected⟩
          rw [Procedure.wp_bind]
          refine Procedure.wp_mono (idle_setStop _ held') ?_
          intro r held'' _
          cases r with
          | error e => exact fun row h => hfails h
          | ok u => exact fun row h => hfails h

theorem runAllLoop_obeys (rounds : ℕ) :
    Procedure.wp claimDiscipline (runAllLoop R rounds) (fun _ _ => True) held := by
  induction rounds generalizing held with
  | zero => trivial
  | succ rounds ih =>
    rw [runAllLoop, Procedure.wp_bind]
    refine Procedure.wp_mono (idle_self held) ?_
    rintro r held' rfl
    cases r with
    | error e => trivial
    | ok s =>
      rw [Procedure.continueWith_ok, Procedure.wp_ite]
      refine ⟨fun _ => ?_, fun _ => trivial⟩
      cases s.globalStopReason with
      | some reason => exact Procedure.wp_mono (idle_blockRest _ _ held') fun _ _ _ => trivial
      | none =>
        dsimp only
        cases R.manifest.attemptPlan[s.receipts.length]? with
        | none => trivial
        | some attempt =>
          dsimp only
          rw [Procedure.wp_bind]
          refine Procedure.wp_mono (runNext_obeys attempt.attemptId) ?_
          intro r held'' _
          cases r with
          | error e => trivial
          | ok row => exact ih

theorem runAll_obeys : Procedure.wp claimDiscipline (runAll R) (fun _ _ => True) held := by
  rw [runAll, Procedure.wp_bind]
  refine Procedure.wp_mono (runAllLoop_obeys _) ?_
  intro r held' _
  cases r with
  | error e => trivial
  | ok u =>
    rw [Procedure.continueWith_ok, Procedure.wp_bind]
    refine Procedure.wp_mono (idle_self held') ?_
    intro r held'' _
    cases r with
    | error e => trivial
    | ok s =>
      refine (Procedure.wp_bind _ _ _).mpr ?_
      cases check (s.providerRequestCount ≤ maxPlannedAttempts)
          (globalStop "provider request count exceeded frozen matrix") with
      | error e => trivial
      | ok u => trivial

end Discipline

section Fleet

variable {ι : Type} [DecidableEq ι]

/-- Runners over one store. Each keeps its own state; of their evidence nothing is assumed. -/
abbrev Fleet (ι : Type) := Concurrent.System boundary ι RunnerState Store Unit

/-- One operation of a runner of the fleet. Its evidence may be kept anywhere, so that an
evidence operation may find anything. -/
def fleetEnvironment : Semantics boundary World where
  allowed := fun _ _ => True
  step := fun w op r w' => ∃ records recordNames,
    Answers (w.1, { w.2 with records, recordNames }) op r w'

/-- The calls of a runner. -/
inductive RunnerCall (R : Runner) : Program boundary Unit → Prop where
  | runNext (attemptId : PyStr) : RunnerCall R ((runNext R attemptId).run >>= fun _ => .done ())
  | runAll : RunnerCall R ((runAll R).run >>= fun _ => .done ())

abbrev FleetStep (R : ι → Runner) : Fleet ι → Fleet ι → Prop :=
  Concurrent.Step fleetEnvironment fun i => RunnerCall (R i)

abbrev FleetReaches (R : ι → Runner) : Fleet ι → Fleet ι → Prop :=
  Concurrent.Steps fleetEnvironment fun i => RunnerCall (R i)

/-- New runners over a claim store from which nothing was sent yet. -/
structure Fleet.New (x : Fleet ι) : Prop where
  fresh : ∀ i, x.process i = ⟨{}, none⟩
  unsent : x.shared.sent = []

/-- What the claims say about the requests sent and about the runners that hold one. -/
structure ClaimsHold (held : ι → Option Claim) (s : Store) : Prop where
  once : (s.sent.map (·.attemptId)).Nodup
  covered : ∀ e ∈ s.sent, e.attemptId ∈ s.claimNames ∧ ∃ claim ∈ s.claims, claim.Covers e.attemptId e.body
  stored : ∀ i claim, held i = some claim → claim ∈ s.claims ∧ claim.attemptId ∈ s.claimNames
  unspent : ∀ i claim, held i = some claim → ∀ e ∈ s.sent, e.attemptId ≠ claim.attemptId
  exclusive : ∀ i j a b, held i = some a → held j = some b → a.attemptId = b.attemptId → i = j

variable {held : ι → Option Claim} {s s' : Store} {i : ι}

omit [DecidableEq ι] in
/-- A store that only grows in claims and names keeps what they say. -/
theorem ClaimsHold.grow (h : ClaimsHold held s) (hclaims : s.claims ⊆ s'.claims)
    (hnames : s.claimNames ⊆ s'.claimNames) (hsent : s'.sent = s.sent) : ClaimsHold held s' := by
  refine ⟨by rw [hsent]; exact h.once, ?_, ?_, by rw [hsent]; exact h.unspent, h.exclusive⟩
  · intro e he
    rw [hsent] at he
    obtain ⟨hname, claim, hclaim, hcovers⟩ := h.covered e he
    exact ⟨hnames hname, claim, hclaims hclaim, hcovers⟩
  · intro j claim hj
    obtain ⟨hclaim, hname⟩ := h.stored j claim hj
    exact ⟨hclaims hclaim, hnames hname⟩

omit [PyRuntime] in
private theorem held_of_update {j : ι} {claim : Claim} (h : Function.update held i none j = some claim) :
    j ≠ i ∧ held j = some claim := by
  by_cases hj : j = i
  · simp [hj] at h
  · exact ⟨hj, by rwa [Function.update_of_ne hj] at h⟩

theorem ClaimsHold.release (h : ClaimsHold held s) (i : ι) : ClaimsHold (Function.update held i none) s := by
  refine ⟨h.once, h.covered, ?_, ?_, ?_⟩
  · exact fun j claim hj => h.stored j claim (held_of_update hj).2
  · exact fun j claim hj => h.unspent j claim (held_of_update hj).2
  · exact fun j k a b ha hb => h.exclusive j k a b (held_of_update ha).2 (held_of_update hb).2

/-- A claim made under a free name is held by nobody else and was never spent. -/
theorem ClaimsHold.create {claim : Claim} (h : ClaimsHold held s) (hfree : claim.attemptId ∉ s.claimNames)
    (hclaims : s'.claims = claim :: s.claims) (hnames : s'.claimNames = claim.attemptId :: s.claimNames)
    (hsent : s'.sent = s.sent) : ClaimsHold (Function.update held i (some claim)) s' := by
  have hgrown : ClaimsHold held s' := by
    refine h.grow ?_ ?_ hsent
    · rw [hclaims]
      exact List.subset_cons_self _ _
    · rw [hnames]
      exact List.subset_cons_self _ _
  have hothers : ∀ {j : ι} {c : Claim}, Function.update held i (some claim) j = some c →
      j = i ∧ c = claim ∨ j ≠ i ∧ held j = some c := by
    intro j c hj
    by_cases hji : j = i
    · rw [hji, Function.update_self, Option.some.injEq] at hj
      exact .inl ⟨hji, hj.symm⟩
    · rw [Function.update_of_ne hji] at hj
      exact .inr ⟨hji, hj⟩
  have hnew : ∀ {j : ι} {c : Claim}, held j = some c → c.attemptId ≠ claim.attemptId :=
    fun hj heq => hfree (heq ▸ (h.stored _ _ hj).2)
  refine ⟨hgrown.once, hgrown.covered, ?_, ?_, ?_⟩
  · intro j c hj
    rcases hothers hj with ⟨-, rfl⟩ | ⟨-, hj⟩
    · simp [hclaims, hnames]
    · exact hgrown.stored j c hj
  · intro j c hj e he
    rcases hothers hj with ⟨-, rfl⟩ | ⟨-, hj⟩
    · rw [hsent] at he
      exact fun heq => hfree (heq ▸ (h.covered e he).1)
    · exact hgrown.unspent j c hj e he
  · intro j k a b ha hb heq
    rcases hothers ha with ⟨hj, hac⟩ | ⟨-, hja⟩ <;> rcases hothers hb with ⟨hk, hbc⟩ | ⟨-, hkb⟩
    · exact hj.trans hk.symm
    · exact absurd (hac ▸ heq.symm) (hnew hkb)
    · exact absurd (hbc ▸ heq) (hnew hja)
    · exact h.exclusive j k a b hja hkb heq

/-- A request sent under a held claim is the first of its attempt. -/
theorem ClaimsHold.send {claim : Claim} {e : Sent} (h : ClaimsHold held s) (hheld : held i = some claim)
    (hcovers : claim.Covers e.attemptId e.body) (hclaims : s'.claims = s.claims)
    (hnames : s'.claimNames = s.claimNames) (hsent : s'.sent = s.sent ++ [e]) :
    ClaimsHold (Function.update held i none) s' := by
  have hid : claim.attemptId = e.attemptId := hcovers.1
  obtain ⟨hclaim, hname⟩ := h.stored i claim hheld
  have hfresh : e.attemptId ∉ s.sent.map (·.attemptId) := by
    intro hmem
    obtain ⟨e', he', heq⟩ := List.mem_map.mp hmem
    exact h.unspent i claim hheld e' he' (heq.trans hid.symm)
  refine ⟨?_, ?_, ?_, ?_, ?_⟩
  · rw [hsent, List.map_append, List.map_singleton]
    refine List.nodup_append.mpr ⟨h.once, by simp, ?_⟩
    intro a ha b hb heq
    rw [List.mem_singleton.mp hb] at heq
    exact hfresh (heq ▸ ha)
  · intro e' he'
    rw [hsent] at he'
    rw [hclaims, hnames]
    rcases List.mem_append.mp he' with he' | he'
    · exact h.covered e' he'
    · rw [List.mem_singleton.mp he']
      exact ⟨hid ▸ hname, claim, hclaim, hcovers⟩
  · intro j c hj
    rw [hclaims, hnames]
    exact h.stored j c (held_of_update hj).2
  · intro j c hj e' he' heq
    obtain ⟨hji, hj⟩ := held_of_update hj
    rw [hsent] at he'
    rcases List.mem_append.mp he' with he' | he'
    · exact h.unspent j c hj e' he' heq
    · rw [List.mem_singleton.mp he'] at heq
      exact hji (h.exclusive j i c claim hj hheld (heq.symm.trans hid.symm))
  · exact fun j k a b ha hb => h.exclusive j k a b (held_of_update ha).2 (held_of_update hb).2

/-- The claim discipline protects the claims, whatever surrounds the runners. -/
theorem claims_protected : Concurrent.Protects fleetEnvironment claimDiscipline none (ClaimsHold (ι := ι)) := by
  refine ⟨fun held s i h => h.release i, ?_⟩
  rintro held s i own op r own' s' h hallowed ⟨records, recordNames, hanswers⟩
  refine ⟨_, rfl, ?_⟩
  have hsame : s'.claims = s.claims → s'.claimNames = s.claimNames → s'.sent = s.sent →
      ClaimsHold (Function.update held i (held i)) s' := by
    intro hclaims hnames hsent
    rw [Function.update_eq_self]
    exact h.grow (by rw [hclaims]; exact fun _ => id) (by rw [hnames]; exact fun _ => id) hsent
  cases op with
  | self =>
    obtain ⟨-, hw⟩ := hanswers
    cases hw
    exact hsame rfl rfl rfl
  | setSelf _ => cases hanswers; exact hsame rfl rfl rfl
  | now => cases hanswers; exact hsame rfl rfl rfl
  | transportNow _ => cases hanswers; exact hsame rfl rfl rfl
  | verify _ _ _ => cases hanswers; exact hsame rfl rfl rfl
  | storageAttributes => cases hanswers; exact hsame rfl rfl rfl
  | readClaim _ =>
    obtain ⟨hw, -⟩ := hanswers
    cases hw
    exact hsame rfl rfl rfl
  | readRecord _ =>
    obtain ⟨hw, -⟩ := hanswers
    cases hw
    exact hsame rfl rfl rfl
  | createRecord _ _ =>
    obtain ⟨-, hcreate⟩ := hanswers
    dsimp only at hcreate
    cases hcreate <;> exact hsame rfl rfl rfl
  | createClaim claim =>
    obtain ⟨-, hcreate⟩ := hanswers
    dsimp only at hcreate
    cases hcreate with
    | created hfree => exact h.create hfree rfl rfl rfl
    | alreadyExists _ => exact hsame rfl rfl rfl
    | raised e => exact hsame rfl rfl rfl
    | torn e _ =>
      show ClaimsHold (Function.update held i (held i)) _
      rw [Function.update_eq_self]
      exact h.grow (fun _ => id) (List.subset_cons_self _ _) rfl
    | raisedAfter e _ =>
      show ClaimsHold (Function.update held i (held i)) _
      rw [Function.update_eq_self]
      exact h.grow (List.subset_cons_self _ _) (List.subset_cons_self _ _) rfl
  | openUrl attemptId providerId body =>
    obtain ⟨claim, hheld, hcovers⟩ := hallowed
    cases hanswers
    exact h.send (e := ⟨own, attemptId, providerId, body, .live r⟩) hheld hcovers rfl rfl rfl
  | call attemptId providerId body =>
    obtain ⟨claim, hheld, hcovers⟩ := hallowed
    cases hanswers
    exact h.send (e := ⟨own, attemptId, providerId, body, .offline r⟩) hheld hcovers rfl rfl rfl

theorem runnerCall_obeys {R : Runner} {p : Program boundary Unit} (h : RunnerCall R p) :
    p.wp claimDiscipline (fun _ _ => True) none := by
  cases h with
  | runNext attemptId =>
    rw [Program.wp_bind]
    have hobeys : Procedure.wp claimDiscipline (runNext R attemptId)
        (fun r held' => ∀ row, r = .ok row → held' = none) none := runNext_obeys attemptId
    exact Program.wp_mono (fun _ _ _ => trivial) hobeys
  | runAll =>
    rw [Program.wp_bind]
    have hobeys : Procedure.wp claimDiscipline (runAll R) (fun _ _ => True) none := runAll_obeys
    exact Program.wp_mono (fun _ _ _ => trivial) hobeys

omit [DecidableEq ι] in
theorem Fleet.New.claimsHold {x : Fleet ι} (h : x.New) : ClaimsHold (fun _ : ι => none) x.shared := by
  refine ⟨by simp [h.unsent], by simp [h.unsent], ?_, ?_, ?_⟩ <;> simp

/-- Only the provider boundary makes a request, and it is asked with a claim that covers it. -/
theorem sends_under_claim {claim : Option Claim} {op : Op} {own own' : RunnerState} {r : op.Answer} {e : Sent}
    (h : fleetEnvironment.step (own, s) op r (own', s')) (hsent : s'.sent = s.sent ++ [e])
    (hallowed : Holds claim op) : ∃ c, claim = some c ∧ c.Covers e.attemptId e.body := by
  obtain ⟨records, recordNames, hanswers⟩ := h
  have hquiet : ∀ {P : Prop}, s'.sent = s.sent → P := by
    intro P hsame
    rw [hsame] at hsent
    simp at hsent
  cases op with
  | openUrl attemptId providerId body =>
    cases hanswers
    obtain rfl := List.singleton_inj.mp (List.append_cancel_left hsent)
    exact hallowed
  | call attemptId providerId body =>
    cases hanswers
    obtain rfl := List.singleton_inj.mp (List.append_cancel_left hsent)
    exact hallowed
  | createClaim claim =>
    obtain ⟨-, hcreate⟩ := hanswers
    dsimp only at hcreate
    cases hcreate <;> exact hquiet rfl
  | createRecord _ _ =>
    obtain ⟨-, hcreate⟩ := hanswers
    dsimp only at hcreate
    cases hcreate <;> exact hquiet rfl
  | self => cases hanswers.2; exact hquiet rfl
  | readClaim _ => cases hanswers.1; exact hquiet rfl
  | readRecord _ => cases hanswers.1; exact hquiet rfl
  | setSelf _ => cases hanswers; exact hquiet rfl
  | now => cases hanswers; exact hquiet rfl
  | transportNow _ => cases hanswers; exact hquiet rfl
  | verify _ _ _ => cases hanswers; exact hquiet rfl
  | storageAttributes => cases hanswers; exact hquiet rfl

/-- Whatever calls the runners of a fleet make, in any interleaving and with any call cut off
anywhere, no attempt is sent twice, and a request is only sent when the store already has a claim
for its attempt and its body. -/
theorem fleet_sends_once {R : ι → Runner} {x y : Fleet ι} (hnew : x.New) (h : FleetReaches R x y) :
    (y.shared.sent.map (·.attemptId)).Nodup ∧
    ∀ z e, FleetStep R y z → z.shared.sent = y.shared.sent ++ [e] →
      ∃ claim ∈ y.shared.claims, claim.attemptId = e.attemptId ∧
        ∃ fp, sha256Json e.body = .ok fp ∧ claim.requestFingerprint = some fp := by
  obtain ⟨held, hclaims, hobeys⟩ := claims_protected.steps (fun i p => runnerCall_obeys) hnew.claimsHold
    (fun i p hp => by rw [hnew.fresh] at hp; cases hp) h
  refine ⟨hclaims.once, ?_⟩
  intro z e hstep hsent
  cases hstep with
  | begins _ _ => simp [Concurrent.System.set] at hsent
  | stops => simp [Concurrent.System.set] at hsent
  | @asks i op next r own shared hrest hask =>
    obtain ⟨claim, hheld, hcovers⟩ := sends_under_claim hask (by exact hsent) (hobeys.allowed hrest)
    exact ⟨claim, (hclaims.stored i claim hheld).1, hcovers⟩

end Fleet

end Runs

section Frozen

open Python.Ascii

/-- Two frozen runners over an empty store. -/
def frozenFleet : Fleet Bool := ⟨fun _ => ⟨{}, none⟩, Store.empty⟩

/-- The first of two runners sends the first attempt, which nobody sends again. -/
theorem fleet_sends_once_frozen : ∃ y : Fleet Bool, FleetReaches (fun _ => frozenRunner) frozenFleet y ∧
    y.shared.sent.map (·.attemptId) = [firstAttempt.attemptId] ∧ (y.shared.sent.map (·.attemptId)).Nodup := by
  obtain ⟨t, evidence, row, hattempt, -, -, -, hexec⟩ := frozen_passes
  have hmono : ∀ w op r w', environment.step w op r w' → fleetEnvironment.step w op r w' :=
    fun w _ _ _ h => ⟨w.2.records, w.2.recordNames, h⟩
  have hfleet : Program.Exec fleetEnvironment ((runNext frozenRunner firstAttempt.attemptId).run >>= fun _ => .done ())
      ({}, Store.empty) () _ :=
    (Program.Exec.mono hmono hexec).bind (.done () _)
  have hbegins : FleetStep (fun _ => frozenRunner) frozenFleet (frozenFleet.set true ⟨{}, some _⟩ Store.empty) :=
    .begins rfl (.runNext firstAttempt.attemptId)
  have hreaches := Relation.ReflTransGen.head hbegins (Concurrent.Steps.of_exec hfleet)
  refine ⟨_, hreaches, ?_, (fleet_sends_once ⟨fun _ => rfl, rfl⟩ hreaches).1⟩
  simp [Concurrent.System.set, keptStore, hattempt]

end Frozen

end EvaluationLab.BM1
