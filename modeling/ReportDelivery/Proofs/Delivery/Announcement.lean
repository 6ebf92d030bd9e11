import ReportDelivery.Proofs.Delivery.Packaging
import ReportDelivery.Proofs.Delivery.Protocol

/-! The announcement is about what was uploaded.

The collector learns of a scan twice: from the identity in the uploaded document, and from the one in
the announcement. They are written at different times and by different means, the first one before
there is an offer and the second one with the offer's name in it. `deliverScan_announces_upload` says
that they agree on everything but that name. And without an upload nothing is announced, and the
report keeps the name it had. -/
namespace ReportDelivery

/-! ### What a request carries -/

/-- The JSON value that a request brings: its own one as whoever gets it reads it, or the one whose
document is in its compressed body. -/
inductive Payload.Carries : Payload → Value → Prop
  | json {v w : Value} {text : Text} (hprint : Json.print v = .ok text)
      (hread : Json.read text = .ok w) : Carries (.json v) w
  | body {body bytes : Bytes} {text : Text} {w : Value} (hunpack : Gzip.decompress body = .ok bytes)
      (hdecode : Utf8.decode bytes = .ok text) (hread : Json.read text = .ok w) :
      Carries (.body body) w

/-- A value that is printed is carried in its form. -/
theorem Payload.carries_json {v : Value} (h : Json.Printable v) :
    (Payload.json v).Carries (Json.form v) := by
  obtain ⟨text, hprint⟩ := h
  exact .json hprint (Json.read_printed hprint)

/-! ### Identities in documents and announcements -/

/-- The members of an identity, of which an offer replaces one. -/
theorem Identity.members_withOffer (identity : Identity) (offer : Offer) :
    ∃ members, Members.Named members ∧ identity.toValue = .object members ∧
      (identity.withOffer offer).toValue =
        .object (Members.insert (.str "signed_id") (.str offer.signedId) members) := by
  refine ⟨_, Members.named_ofStrings ["id", "host", "username", "name", "full_name", "url",
    "target", "sha", "current_branch", "default_branch", "diff_base_branch",
    "bearer_rules_version", "bearer_version", "found_languages", "signed_id", "error"]
    rfl (by decide), rfl, ?_⟩
  simp [Identity.toValue, Identity.withOffer, Members.insert, Members.sameKey_str, ofString_inj]

/-- If the identity is printed, then the announcement carries what is printed, with the offer's name
for the report. -/
theorem Identity.carries_withOffer {identity : Identity} (h : Json.Printable identity.toValue)
    (offer : Offer) :
    ∃ members, Json.form identity.toValue = .object members ∧
      (Payload.json (identity.withOffer offer).toValue).Carries
        (.object (Members.insert (.str "signed_id") (.str offer.signedId) members)) := by
  obtain ⟨members, hnamed, hvalue, hoffered⟩ := identity.members_withOffer offer
  rw [hvalue] at h ⊢
  refine ⟨_, Json.form_object hnamed, ?_⟩
  have hprintable := Json.printable_insert h "signed_id" (Json.printable_str offer.signedId)
  have hcarries := Payload.carries_json hprintable
  rw [Json.form_object (hnamed.insert _ _), Json.formMembers_insert hnamed.texts,
    Json.form_str] at hcarries
  rw [hoffered]
  exact hcarries

/-- The compressed document of a report carries the identity in its member. -/
theorem Report.carries_document {report : Report} {bytes : Bytes}
    (h : report.encoded = .ok bytes) :
    Json.Printable report.identity.toValue ∧
      ∃ document, (Payload.body (Gzip.compress bytes)).Carries (.object document) ∧
        Members.get document "meta" = Json.form report.identity.toValue := by
  obtain ⟨text, hdocument, hencode⟩ := Report.encoded_ok.1 h
  obtain ⟨v, hvalue, hprint⟩ := bind_ok.1 hdocument
  obtain ⟨findings, -, hvalue⟩ := bind_ok.1 (mapError_ok.1 hvalue)
  obtain ⟨ignored, -, ⟨⟩⟩ := bind_ok.1 hvalue
  replace hprint := mapError_ok.1 hprint
  have hread := Json.read_printed hprint
  have hnamed : Members.Named [
      (.str "meta", report.identity.toValue), (.str "findings", findings),
      (.str "ignored_findings", ignored), (.str "data_types", .list report.dataTypes),
      (.str "components", .list report.components), (.str "errors", .list report.errors),
      (.str "files", .list report.files)] :=
    Members.named_ofStrings ["meta", "findings", "ignored_findings", "data_types", "components",
      "errors", "files"] rfl (by decide)
  rw [Json.form_object hnamed] at hread
  refine ⟨(Json.printable_object.1 ⟨text, hprint⟩ _ List.mem_cons_self).2, _,
    .body (Gzip.decompress_compress bytes) (Utf8.decode_encode hencode) hread, ?_⟩
  rw [Json.formMembers, Json.keyName, Members.get_ofString_cons, if_pos rfl]

/-! ### Announcements and uploads -/

/-- The request tells the collector that a scan is finished. -/
def Client.Announces (client : Client) (request : Request) : Prop :=
  request.method = .post ∧ request.url = client.host ++ "/api/v1/scan_finished"

/-- The request carries the identity in the document that was put where the offer says, under the
name in that offer. -/
def AnnouncesUpload (reply : Nat → Reply) (made : List Request) (request : Request) : Prop :=
  ∃ offer put document identity, (reply 0).Offers offer ∧
    made.filter (fun request => request.method = .put) = [put] ∧ put.url = offer.presignedUrl ∧
    put.payload.Carries (.object document) ∧ Members.get document "meta" = .object identity ∧
    request.payload.Carries
      (.object (Members.insert (.str "signed_id") (.str offer.signedId) identity))

/-- The run came to a request without which nothing is uploaded, and that request failed. -/
def UploadFails (reply : Nat → Reply) (made : List Request) : Prop :=
  (made ≠ [] ∧ ∀ offer, ¬ (reply 0).Offers offer) ∨ (1 < made.length ∧ ¬ (reply 1).Accepted)

namespace Client

variable {client : Client} {file : UploadFile} {body : Bytes} {reply : Nat → Reply}
  {made : List Request} {request : Request}

/-- An offer is asked for in one place, and a scan is announced in another. -/
theorem offerRequest_not_announces : ¬ client.Announces (client.offerRequest file body) := by
  rintro ⟨-, hurl⟩
  have hpath : offerPath = finishedPath := List.append_cancel_left hurl
  exact absurd hpath (by decide)

theorem Uploads.not_announces {result : Except ClientError Offer}
    (h : client.Uploads file body reply made result) (hmem : request ∈ made) :
    ¬ client.Announces request := by
  cases h with
  | noOffer =>
    rw [List.mem_singleton.1 hmem]
    exact offerRequest_not_announces
  | refused | done =>
    rcases List.mem_cons.1 hmem with rfl | hmem
    · exact offerRequest_not_announces
    · rintro ⟨hpost, -⟩
      rw [List.mem_singleton.1 hmem] at hpost
      cases hpost

theorem Uploads.not_fails {offer : Offer} (h : client.Uploads file body reply made (.ok offer))
    (more : List Request) : ¬ UploadFails reply more := by
  cases h with
  | done hoffer hacc =>
    rintro (⟨-, hnone⟩ | ⟨-, hrefused⟩)
    · exact hnone offer hoffer
    · exact hrefused hacc

theorem Uploads.fails {error : ClientError}
    (h : client.Uploads file body reply made (.error error)) : UploadFails reply made := by
  cases h with
  | noOffer hnone => exact .inl ⟨List.cons_ne_nil _ _, hnone⟩
  | refused _ hacc => exact .inr ⟨Nat.lt_succ_self 1, hacc⟩

variable {identity left : Identity} {artifact : Artifact} {result : Except Failure Unit}

/-- Only after an upload there is an announcement, and it is about the identity under the name in
the offer. -/
theorem Delivers.announced (h : client.Delivers identity artifact reply made result left)
    (hmem : request ∈ made) (hannounces : client.Announces request) :
    ∃ content offer uploaded, artifact.content = some content ∧
      client.Uploads (artifact.uploadFile content) content reply uploaded (.ok offer) ∧
      made = uploaded ++ [request] ∧ request = client.finishedRequest (identity.withOffer offer) := by
  cases h with
  | missing => cases hmem
  | notUploaded _ hupload => exact absurd hannounces (hupload.not_announces hmem)
  | notAnnounced hcontent hupload | done hcontent hupload =>
    rcases List.mem_append.1 hmem with hmem | hmem
    · exact absurd hannounces (hupload.not_announces hmem)
    · obtain rfl := List.mem_singleton.1 hmem
      exact ⟨_, _, _, hcontent, hupload, rfl, rfl⟩

theorem Delivers.announces_upload {fault : Option PackagingFault} {report : Report}
    (h : client.Delivers report.identity artifact reply made result left)
    (hpacks : TempArea.Packs fault report artifact) (hmem : request ∈ made)
    (hannounces : client.Announces request) : AnnouncesUpload reply made request := by
  obtain ⟨content, offer, uploaded, hcontent, hupload, rfl, rfl⟩ := h.announced hmem hannounces
  obtain ⟨bytes, rfl, hencoded⟩ := hpacks.content hcontent
  obtain ⟨hprintable, document, hdocument, hmeta⟩ := Report.carries_document hencoded
  obtain ⟨members, hform, hcarries⟩ := Identity.carries_withOffer hprintable offer
  rw [hform] at hmeta
  cases hupload with
  | done hoffer =>
    exact ⟨offer, client.uploadRequest _ _ offer, document, members, hoffer, rfl, rfl, hdocument,
      hmeta, hcarries⟩

/-- What was uploaded is announced. -/
theorem Delivers.announces (h : client.Delivers identity artifact reply made result left)
    (hmade : made ≠ []) (huploaded : ¬ UploadFails reply made) :
    ∃ request ∈ made, client.Announces request := by
  cases h with
  | missing => exact absurd rfl hmade
  | notUploaded _ hupload => exact absurd hupload.fails huploaded
  | notAnnounced | done => exact ⟨_, List.mem_append_right _ List.mem_cons_self, rfl, rfl⟩

/-- If the upload fails, the identity stays as it was. -/
theorem Delivers.of_fails (h : client.Delivers identity artifact reply made result left)
    (hfails : UploadFails reply made) :
    left = identity ∧ ∀ request ∈ made, ¬ client.Announces request := by
  cases h with
  | missing => exact ⟨rfl, List.forall_mem_nil _⟩
  | notUploaded _ hupload => exact ⟨rfl, fun _ => hupload.not_announces⟩
  | notAnnounced _ hupload | done _ hupload => exact absurd hfails (hupload.not_fails _)

end Client

/-! ### Deliveries -/

variable {client : Client} {verbose : Bool} {settings : Settings} {context : Option Repository}
  {fault : Option PackagingFault} {s s' : DeliveryState} {answer : Except Failure Bool}

/-- Every request is made to deliver a package. -/
theorem deliverScan_requests
    (h : deliverScan client verbose settings context fault s = (answer, s')) :
    ∃ made, s'.conversation.requests = s.conversation.requests ++ made ∧
      (made = [] ∨ ∃ report kept artifact result left,
        s.scan.reportToSend settings context = .ok (report, kept) ∧
        TempArea.Packs fault report artifact ∧
        client.Delivers report.identity artifact s.conversation.reply made result left ∧
        s'.scan = { kept with report := some { report with identity := left } }) := by
  cases deliverScan_run h with
  | unreported _ _ _ hsame | unpackaged _ _ _ _ hsame =>
    exact ⟨[], by rw [hsame, List.append_nil], .inl rfl⟩
  | unassembled _ _ hsame | unwritten _ _ hsame | tooDeep _ _ hsame =>
    exact ⟨[], by rw [hsame, List.append_nil], .inl rfl⟩
  | sent hsend hpackage hways hscan _ hconversation =>
    have hpacks := TempArea.package_ok (congrArg Prod.fst hpackage)
    exact ⟨_, by rw [hconversation]; rfl, .inr ⟨_, _, _, _, _, hsend, hpacks, hways, hscan⟩⟩

/-- **Main theorem.** Whatever a delivery comes to: if it announces the scan, the announcement
carries the identity in the document that it uploaded, under the name in the offer that it used. If
it asked for an offer and got none, or made an upload that was not accepted, it announces nothing,
and the scan keeps the report as it was when it was packaged. Otherwise, if it made a request at
all, it announces the scan. -/
theorem deliverScan_announces_upload
    (h : deliverScan client verbose settings context fault s = (answer, s')) :
    ∃ made, s'.conversation.requests = s.conversation.requests ++ made ∧
      (∀ request ∈ made, client.Announces request →
        AnnouncesUpload s.conversation.reply made request) ∧
      (UploadFails s.conversation.reply made →
        (∀ request ∈ made, ¬ client.Announces request) ∧
          ∃ report kept, s.scan.reportToSend settings context = .ok (report, kept) ∧
            kept.report = some report ∧ s'.scan = kept) ∧
      (made ≠ [] → ¬ UploadFails s.conversation.reply made →
        ∃ request ∈ made, client.Announces request) := by
  obtain ⟨made, hmade, rfl | ⟨report, kept, artifact, result, left, hsend, hpacks, hways, hscan⟩⟩ :=
    deliverScan_requests h
  · exact ⟨[], hmade, List.forall_mem_nil _, by simp [UploadFails], fun hnone => absurd rfl hnone⟩
  · refine ⟨made, hmade, fun request => hways.announces_upload hpacks, fun hfails => ?_,
      hways.announces⟩
    obtain ⟨rfl, hquiet⟩ := hways.of_fails hfails
    have hkept := ScanData.reportToSend_kept hsend
    exact ⟨hquiet, report, kept, hsend, by rw [hkept], by rw [hscan, hkept]⟩

/-! ### A delivery with an announcement -/

theorem sampleDelivery_announces_upload :
    ∃ s' request, deliverScan sampleClient true sampleSettings (some sampleContext) none sampleStart =
        (.ok true, s') ∧
      request ∈ s'.conversation.requests ∧ sampleClient.Announces request ∧
      AnnouncesUpload sampleStart.conversation.reply s'.conversation.requests request := by
  have hlast : (fun run : Except Failure Bool × DeliveryState =>
      (run.1.toOption, run.2.conversation.requests.getLast?.map fun request =>
        (request.method, request.url))) (deliverScan sampleClient true sampleSettings
          (some sampleContext) none sampleStart) =
      (some true, some (.post, sampleClient.host ++ "/api/v1/scan_finished")) := by
    decide +kernel
  rcases hrun : deliverScan sampleClient true sampleSettings (some sampleContext) none sampleStart
    with ⟨_ | delivered, s'⟩
  · rw [hrun] at hlast
    cases hlast
  · rw [hrun] at hlast
    obtain ⟨hdelivered, hlast⟩ := Prod.mk.inj hlast
    obtain ⟨request, hrequest, hannounced⟩ := Option.map_eq_some_iff.1 hlast
    obtain rfl : delivered = true := Option.some.inj hdelivered
    have hmem := List.mem_of_getLast? hrequest
    have hannounces : sampleClient.Announces request := Prod.mk.inj hannounced
    obtain ⟨made, hmade, hcarries, -, -⟩ := deliverScan_announces_upload hrun
    obtain rfl : s'.conversation.requests = made := hmade
    exact ⟨s', request, rfl, hmem, hannounces, hcarries request hmem hannounces⟩

end ReportDelivery
