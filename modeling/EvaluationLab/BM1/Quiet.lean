import EvaluationLab.BM1.Environment

/-! The steps of a transaction before the provider boundary: they leave the runner's account,
its evidence and the log of sent requests as they were. -/
namespace EvaluationLab.BM1
open Python Effect QA0

/-- Only the claim store may differ. -/
structure SameAccount (w w' : World) : Prop where
  self : w'.1 = w.1
  sent : w'.2.sent = w.2.sent
  records : w'.2.records = w.2.records
  recordNames : w'.2.recordNames = w.2.recordNames

theorem SameAccount.refl (w : World) : SameAccount w w := ⟨rfl, rfl, rfl, rfl⟩

theorem SameAccount.trans {u v w : World} (h : SameAccount u v) (h' : SameAccount v w) :
    SameAccount u w :=
  ⟨h'.self.trans h.self, h'.sent.trans h.sent, h'.records.trans h.records,
    h'.recordNames.trans h.recordNames⟩

/-- A procedure that keeps the account, whatever it returns or raises. -/
def Quiet {α : Type} (p : Action α) : Prop :=
  ∀ w, Procedure.wp environment p (fun _ w' => SameAccount w w') w

section Rules

variable {α β : Type}

theorem wp_perform {op : Op} {Q : Except PyExc op.Answer → World → Prop} {w : World} :
    Procedure.wp environment (perform op) Q w ↔ ∀ r w', Answers w op r w' → Q (.ok r) w' := by
  show True ∧ _ ↔ _
  simp only [true_and]
  rfl

@[simp] theorem wp_self {Q : Except PyExc RunnerState → World → Prop} {w : World} :
    Procedure.wp environment (perform .self) Q w ↔ Q (.ok w.1) w := by
  refine wp_perform.trans ⟨fun h => h w.1 w ⟨rfl, rfl⟩, ?_⟩
  rintro h r w' ⟨rfl, rfl⟩
  exact h

@[simp] theorem wp_setSelf {s : RunnerState} {Q : Except PyExc Unit → World → Prop} {w : World} :
    Procedure.wp environment (perform (.setSelf s)) Q w ↔ Q (.ok ()) (s, w.2) := by
  refine wp_perform.trans ⟨fun h => h () _ rfl, ?_⟩
  rintro h ⟨⟩ w' rfl
  exact h

@[simp] theorem wp_now {Q : Except PyExc ℤ → World → Prop} {w : World} :
    Procedure.wp environment (perform .now) Q w ↔ ∀ t, Q (.ok t) w := by
  refine wp_perform.trans ⟨fun h t => h t w rfl, ?_⟩
  rintro h t w' rfl
  exact h t

theorem wp_createRecord {attemptId : PyStr} {record : PrivateRecord}
    {Q : Except PyExc Creation → World → Prop} {w : World} :
    Procedure.wp environment (perform (.createRecord attemptId record)) Q w ↔
      ∀ creation s', CreateRecord w.2 attemptId record creation s' → Q (.ok creation) (w.1, s') := by
  refine wp_perform.trans ⟨fun h creation s' hs => h creation (w.1, s') ⟨rfl, hs⟩, ?_⟩
  rintro h creation ⟨self, s'⟩ ⟨rfl, hs⟩
  exact h creation s' hs

@[simp] theorem wp_raiseError {r : Except PyExc α} {Q : Except PyExc α → World → Prop} {w : World} :
    Procedure.wp environment (raiseError r) Q w ↔ Q r w := Iff.rfl

theorem Quiet.pure (a : α) : Quiet (pure a : Action α) := fun w => SameAccount.refl w

theorem Quiet.throw (e : PyExc) : Quiet (throw e : Action α) := fun w => SameAccount.refl w

theorem Quiet.raiseError (r : Except PyExc α) : Quiet (raiseError r) := fun w => SameAccount.refl w

theorem Quiet.bind {p : Action α} {f : α → Action β} (hp : Quiet p) (hf : ∀ a, Quiet (f a)) :
    Quiet (p >>= f) := by
  intro w
  rw [Procedure.wp_bind]
  refine Procedure.wp_mono (hp w) ?_
  intro r w' hw'
  cases r with
  | error e => exact hw'
  | ok a => exact Procedure.wp_mono (hf a w') fun _ _ h => hw'.trans h

/-- The operations that read the surroundings or create a claim. -/
theorem Quiet.perform {op : Op} (h : ∀ w r w', Answers w op r w' → SameAccount w w') :
    Quiet (perform op) := by
  intro w
  rw [wp_perform]
  exact fun r w' hw => h w r w' hw

theorem quiet_now : Quiet (perform .now) :=
  Quiet.perform fun w _ w' h => by rw [show w' = w from h]; exact SameAccount.refl w

theorem quiet_transportNow (providerId : PyStr) : Quiet (perform (.transportNow providerId)) :=
  Quiet.perform fun w _ w' h => by rw [show w' = w from h]; exact SameAccount.refl w

theorem quiet_verify (a b c : PyStr) : Quiet (perform (.verify a b c)) :=
  Quiet.perform fun w _ w' h => by rw [show w' = w from h]; exact SameAccount.refl w

theorem quiet_storageAttributes : Quiet (perform .storageAttributes) :=
  Quiet.perform fun w _ w' h => by rw [show w' = w from h]; exact SameAccount.refl w

theorem quiet_readClaim (attemptId : PyStr) : Quiet (perform (.readClaim attemptId)) :=
  Quiet.perform fun w _ w' h => by rw [show w' = w from h.1]; exact SameAccount.refl w

theorem quiet_createClaim (claim : Claim) : Quiet (perform (.createClaim claim)) := by
  apply Quiet.perform
  rintro w r w' ⟨hself, hcreate⟩
  have hstore : w'.2.sent = w.2.sent ∧ w'.2.records = w.2.records ∧ w'.2.recordNames = w.2.recordNames := by
    generalize hs : w'.2 = s at hcreate
    cases hcreate <;> exact ⟨rfl, rfl, rfl⟩
  exact ⟨hself, hstore.1, hstore.2.1, hstore.2.2⟩

/-- No operation of a runner carries an obligation here. -/
theorem wp_trivial (p : Action α) (w : World) : Procedure.wp environment p (fun _ _ => True) w := by
  have h : ∀ (q : Program boundary (Except PyExc α)) (u : World), q.wp environment (fun _ _ => True) u := by
    intro q
    induction q with
    | done r => exact fun _ => trivial
    | ask op next ih => exact fun u => ⟨trivial, fun r u' _ => ih r u'⟩
  exact h p.run w

/-- Every value a procedure returns satisfies `P`. -/
def Returns (P : α → Prop) (p : Action α) : Prop :=
  ∀ w, Procedure.wp environment p (fun r _ => ∀ a, r = .ok a → P a) w

theorem Returns.pure {P : α → Prop} {a : α} (h : P a) : Returns P (pure a : Action α) := by
  intro w b hb
  cases hb
  exact h

theorem Returns.throw {P : α → Prop} (e : PyExc) : Returns P (throw e : Action α) := by
  intro w b hb
  cases hb

theorem Returns.bind {P : β → Prop} {p : Action α} {f : α → Action β} (hf : ∀ a, Returns P (f a)) :
    Returns P (p >>= f) := by
  intro w
  rw [Procedure.wp_bind]
  refine Procedure.wp_mono (wp_trivial p w) ?_
  intro r w' _
  cases r with
  | error e => exact fun b hb => by cases hb
  | ok a => exact hf a w'

end Rules

variable [PyRuntime]

theorem quiet_validateLiveAuthorization (doc : LiveAuthorization) (m : Manifest) (commitSha treeSha : PyStr)
    (runReady : RunReady) (now : ℤ) : Quiet (validateLiveAuthorization doc m commitSha treeSha runReady now) := by
  refine (Quiet.raiseError _).bind fun rr => (quiet_verify _ _ _).bind fun answer => ?_
  cases answer with
  | error e => exact Quiet.throw _
  | ok accepted => exact (Quiet.raiseError _).bind fun _ => Quiet.raiseError _

theorem quiet_revalidateLive (m : Manifest) (b : LiveBinding) : Quiet (revalidateLive m b) :=
  quiet_now.bind fun _ => quiet_validateLiveAuthorization _ _ _ _ _ _

omit [PyRuntime] in
theorem quiet_liveStorageGate (b : LiveBinding) : Quiet (liveStorageGate b) :=
  quiet_storageAttributes.bind fun _ => Quiet.raiseError _

theorem quiet_revalidateTransport (providerId : PyStr) (t : HttpTransport) :
    Quiet (revalidateTransport providerId t) :=
  (quiet_transportNow _).bind fun _ => quiet_validateLiveAuthorization _ _ _ _ _ _

omit [PyRuntime] in
theorem quiet_verifyClaim (claim : Claim) : Quiet (verifyClaim claim) := by
  refine (quiet_readClaim _).bind fun read => ?_
  cases read with
  | absent => exact Quiet.pure _
  | stored c => exact Quiet.pure _
  | unreadable e =>
    dsimp only
    split_ifs
    · exact Quiet.pure _
    · exact Quiet.throw _

theorem quiet_claimAttempt (store : AttemptClaimStore) (claim : Claim) : Quiet (claimAttempt store claim) := by
  refine (Quiet.raiseError _).bind fun _ => ?_
  cases store with
  | inMemory =>
    refine (Quiet.raiseError _).bind fun _ => (quiet_createClaim _).bind fun creation => ?_
    cases creation with
    | created => exact Quiet.pure _
    | alreadyExists => exact Quiet.throw _
    | raised e => exact Quiet.throw _
  | file s =>
    refine (Quiet.raiseError _).bind fun _ => (Quiet.raiseError _).bind fun _ =>
      (quiet_createClaim _).bind fun creation => ?_
    cases creation with
    | created =>
      refine (quiet_readClaim _).bind fun read => ?_
      cases read with
      | absent => exact Quiet.throw _
      | stored c => exact (Quiet.raiseError _).bind fun _ => Quiet.pure _
      | unreadable e => exact Quiet.throw _
    | alreadyExists => exact Quiet.throw _
    | raised e => exact Quiet.throw _

/-- A claim that is returned is the claim that was asked for. -/
theorem claimAttempt_returns (store : AttemptClaimStore) (claim : Claim) :
    Returns (· = claim) (claimAttempt store claim) := by
  refine Returns.bind fun _ => ?_
  cases store with
  | inMemory =>
    refine Returns.bind fun _ => Returns.bind fun creation => ?_
    cases creation with
    | created => exact Returns.pure rfl
    | alreadyExists => exact Returns.throw _
    | raised e => exact Returns.throw _
  | file s =>
    refine Returns.bind fun _ => Returns.bind fun _ => Returns.bind fun creation => ?_
    cases creation with
    | created =>
      refine Returns.bind fun read => ?_
      cases read with
      | absent => exact Returns.throw _
      | stored c => exact Returns.bind fun _ => Returns.pure rfl
      | unreadable e => exact Returns.throw _
    | alreadyExists => exact Returns.throw _
    | raised e => exact Returns.throw _

theorem quiet_admission (R : Runner) : Quiet (admission R) := by
  unfold admission
  cases R.mode with
  | live b => exact (quiet_revalidateLive _ _).bind fun _ => quiet_liveStorageGate _
  | offline ts => exact Quiet.pure _

theorem quiet_finalChecks (R : Runner) (b : LiveBinding) (t : Transaction) : Quiet (finalChecks R b t) := by
  refine (quiet_verifyClaim _).bind fun _ => (Quiet.raiseError _).bind fun _ =>
    (quiet_revalidateLive _ _).bind fun _ => (quiet_liveStorageGate _).bind fun _ =>
    (quiet_revalidateTransport _ _).bind fun _ => (Quiet.raiseError _).bind fun _ =>
    (Quiet.raiseError _).bind fun _ => (quiet_verifyClaim _).bind fun _ =>
    (Quiet.raiseError _).bind fun _ => (Quiet.raiseError _).bind fun _ => ?_
  exact (Quiet.raiseError _).bind fun _ => Quiet.pure _

end EvaluationLab.BM1
