import EvaluationLab.BM1.ReceiptFacts

/-! When the evidence of an attempt can be projected, and why a projection may be repeated in a
receipt: its digests and counts always may, so only the names in it matter. -/
namespace EvaluationLab.BM1
open Python Effect QA0

variable [PyRuntime] {attemptId : PyStr} {record : PrivateRecord} {d : Destination} {e : Evidence}

/-- The strings of a projection that are not digests. -/
def evidenceNames (attemptId : PyStr) (errorClass : Option PyStr) (d : Destination) : List PyStr :=
  attemptId :: d.durability ::
    (errorClass.toList ++ d.destinationId.toList ++ d.destinationFingerprint.toList ++
      d.storageAuthorityFingerprint.toList)

/-- What a projection computes, without the scan it ends with. -/
structure Projects (attemptId : PyStr) (record : PrivateRecord) (d : Destination) (e : Evidence) : Prop where
  request : sha256Json record.requestBody = .ok e.requestFingerprint
  requestBytes : jsonBytes record.requestBody = .ok e.requestBytes
  response : optionalDigest (record.rawResponse.map Json.obj) = .ok e.responseFingerprint
  responseBytes : responseBytesOf record.rawResponse = .ok e.responseBytes
  final : contentDigest record.finalText = .ok (e.finalContentFingerprint, e.finalContentBytes)
  attempt : e.attemptId = attemptId
  error : e.errorClass = record.errorClass
  durability : e.durability = d.durability
  destination : e.destinationId = d.destinationId
  destinationFingerprint : e.destinationFingerprint = d.destinationFingerprint
  storageAuthority : e.storageAuthorityFingerprint = d.storageAuthorityFingerprint

theorem evidenceReceipt_ok_iff : evidenceReceipt attemptId record d = .ok e ↔
    Projects attemptId record d e ∧ assertPublicSafe e.toJson = .ok () := by
  simp only [evidenceReceipt, bind_eq_ok_iff, exists_unit_iff, pure_eq_ok_iff]
  constructor
  · rintro ⟨request, hrequest, requestBytes, hrequestBytes, response, hresponse, responseBytes, hresponseBytes,
      ⟨final, finalBytes⟩, hfinal, hsafe, rfl⟩
    exact ⟨⟨hrequest, hrequestBytes, hresponse, hresponseBytes, hfinal, rfl, rfl, rfl, rfl, rfl, rfl⟩, hsafe⟩
  · rintro ⟨⟨hrequest, hrequestBytes, hresponse, hresponseBytes, hfinal, rfl, herror, hdurability, hdestination,
      hfingerprint, hstorage⟩, hsafe⟩
    have heq : e = ⟨e.attemptId, e.requestFingerprint, e.requestBytes, e.responseFingerprint, e.responseBytes,
        e.finalContentFingerprint, e.finalContentBytes, record.errorClass, d.durability, d.destinationId,
        d.destinationFingerprint, d.storageAuthorityFingerprint⟩ := by
      rw [← herror, ← hdurability, ← hdestination, ← hfingerprint, ← hstorage]
    rw [heq] at hsafe
    exact ⟨_, hrequest, _, hrequestBytes, _, hresponse, _, hresponseBytes, (_, _), hfinal, hsafe, heq.symm⟩

private theorem optionalClean {t : Option PyStr} : (∀ s, t = some s → CleanText s) ↔ ∀ s ∈ t.toList, CleanText s := by
  simp

theorem responseBytes_printable {response : Option Fields} {n : ℕ} (h : responseBytesOf response = .ok n) :
    intPrintable n = true := by
  cases response with
  | none =>
    rw [← Except.ok.inj h]
    exact intPrintable_of_small (by decide)
  | some raw => exact jsonBytes_printable h

/-- A projection may be published exactly when the names in it may. -/
theorem Projects.clean_iff (h : Projects attemptId record d e) :
    CleanJson e.toJson ↔ ∀ s ∈ evidenceNames attemptId record.errorClass d, CleanText s := by
  have hschema : CleanText "b2-bm1-raw-evidence-receipt/v3" := cleanText_of_asciiClean (by decide +kernel)
  have hrequest := sha256Json_clean h.request
  have hresponse := optionalDigest_clean h.response
  have hfinal := (contentDigest_sound h.final).1
  rw [Evidence.toJson, cleanJson_obj_iff]
  simp only [List.map_cons, List.map_nil]
  refine (and_iff_right (cleanTexts_of_asciiClean (by decide +kernel))).trans ?_
  simp only [List.forall_mem_cons, cleanJson_str, cleanJson_int, cleanJson_optionalStr, hschema, hrequest,
    iff_true_intro hresponse, iff_true_intro hfinal, h.attempt, h.error, h.durability, h.destination,
    h.destinationFingerprint, h.storageAuthority, List.not_mem_nil, true_and, and_true, false_implies,
    implies_true]
  simp only [evidenceNames, List.forall_mem_cons, List.forall_mem_append, optionalClean]
  constructor
  · rintro ⟨hid, herror, hdurability, hdestination, hfingerprint, hstorage⟩
    exact ⟨hid, hdurability, ⟨⟨herror, hdestination⟩, hfingerprint⟩, hstorage⟩
  · rintro ⟨hid, hdurability, ⟨⟨herror, hdestination⟩, hfingerprint⟩, hstorage⟩
    exact ⟨hid, herror, hdurability, hdestination, hfingerprint, hstorage⟩

theorem Projects.printable (h : Projects attemptId record d e) : intsPrintable e.toJson = true := by
  have hint : ∀ n, intsPrintable (.int n) = intPrintable n := fun _ => rfl
  have hstr : ∀ s, intsPrintable (.str s) = true := fun _ => rfl
  rw [Evidence.toJson, intsPrintable_obj]
  simp only [List.all_cons, List.all_nil, hint, hstr, intsPrintable_optionalStr, jsonBytes_printable h.requestBytes,
    responseBytes_printable h.responseBytes, (contentDigest_sound h.final).2, Bool.and_self]

/-- Evidence that was projected is sound as soon as the names in it can be encoded. -/
theorem evidenceReceipt_sound (h : evidenceReceipt attemptId record d = .ok e)
    (hnames : ∀ s ∈ evidenceNames attemptId record.errorClass d, encodable s = true) : e.Sound := by
  obtain ⟨hprojects, hsafe⟩ := evidenceReceipt_ok_iff.mp h
  have hpublic := (assertPublicSafe_ok_iff _).mp hsafe
  refine ⟨hprojects.clean_iff.mpr fun s hs => ⟨hpublic s ?_, hnames s hs⟩, hprojects.printable⟩
  rw [evidenceNames, ← hprojects.attempt, ← hprojects.error, ← hprojects.durability, ← hprojects.destination,
    ← hprojects.destinationFingerprint, ← hprojects.storageAuthority] at hs
  have hoptional : ∀ o : Option PyStr, texts (optionalStr o) = o.toList := by
    intro o
    cases o <;> rfl
  simp only [List.mem_cons, List.mem_append] at hs
  simp only [Evidence.toJson, texts, fieldTexts, hoptional, List.mem_cons, List.mem_append]
  tauto

/-- Evidence is projected when its parts can be fingerprinted and its names may be published. -/
theorem evidenceReceipt_exists (attemptId : PyStr) (record : PrivateRecord) (d : Destination)
    (hbody : ∃ fp, sha256Json record.requestBody = .ok fp)
    (hraw : ∀ raw, record.rawResponse = some raw → ∃ fp, sha256Json (.obj raw) = .ok fp)
    (hfinal : ∀ t, record.finalText = some t → encodable t = true)
    (hnames : ∀ s ∈ evidenceNames attemptId record.errorClass d, CleanText s) :
    ∃ e, evidenceReceipt attemptId record d = .ok e ∧ e.Sound := by
  obtain ⟨request, hrequest⟩ := hbody
  obtain ⟨requestBytes, hrequestBytes⟩ := (jsonBytes_ok_iff record.requestBody).mpr ⟨request, hrequest⟩
  have hresponses : ∃ fp n, optionalDigest (record.rawResponse.map Json.obj) = .ok fp ∧
      responseBytesOf record.rawResponse = .ok n := by
    cases hrecord : record.rawResponse with
    | none => exact ⟨none, 0, rfl, rfl⟩
    | some raw =>
      obtain ⟨fp, hfp⟩ := hraw raw hrecord
      obtain ⟨n, hn⟩ := (jsonBytes_ok_iff (.obj raw)).mpr ⟨fp, hfp⟩
      exact ⟨some fp, n, by simp [optionalDigest, hfp], hn⟩
  obtain ⟨response, responseBytes, hresponse, hresponseBytes⟩ := hresponses
  obtain ⟨⟨final, finalBytes⟩, hcontent⟩ := (contentDigest_ok_iff record.finalText).mpr hfinal
  have hprojects : Projects attemptId record d ⟨attemptId, request, requestBytes, response, responseBytes, final,
      finalBytes, record.errorClass, d.durability, d.destinationId, d.destinationFingerprint,
      d.storageAuthorityFingerprint⟩ :=
    ⟨hrequest, hrequestBytes, hresponse, hresponseBytes, hcontent, rfl, rfl, rfl, rfl, rfl, rfl⟩
  have hclean := hprojects.clean_iff.mpr hnames
  refine ⟨_, evidenceReceipt_ok_iff.mpr ⟨hprojects, ?_⟩, hclean, hprojects.printable⟩
  exact (assertPublicSafe_ok_iff _).mpr fun t ht => (hclean t ht).1

end EvaluationLab.BM1
