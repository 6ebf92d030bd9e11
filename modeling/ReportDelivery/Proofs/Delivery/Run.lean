import ReportDelivery.Proofs.Collector.Exchange
import ReportDelivery.Proofs.Console
import ReportDelivery.Proofs.Outcome

/-! All the ways a delivery can go.

`deliverScan_run` opens a delivery once and for all: it ends before there is a report, or before
there is a package, or with the package sent and removed, and each end says what becomes of the
scan, the directories, the conversation and the session's error. Whatever holds of every delivery is
a case analysis over `DeliversScan`, and over `Client.Delivers` for what happens to a package. -/
namespace ReportDelivery

/-! ### The ways a delivery can go -/

/-- The identity as it is once an offer has been used. -/
def Identity.withOffer (identity : Identity) (offer : Offer) : Identity :=
  { identity with signedId := .str offer.signedId }

/-- The report under another name given by the collector. -/
def Report.signed (report : Report) (signedId : Value) : Report :=
  { report with identity := { report.identity with signedId } }

/-- What the failure of an upload becomes: a problem of delivery, if it is one that is expected. -/
def ClientError.uploadFailure (path : Text) (error : ClientError) : Failure :=
  if error.isExpected then .report (.upload (.failed path error)) else .ofClient error

/-- What the failure of an announcement becomes. Here only the collector is expected to fail. -/
def ClientError.announcementFailure : ClientError → Failure
  | .collector error => .report (.upload (.notification error))
  | error => .ofClient error

namespace Client

/-- The ways the delivery of a package can go: the requests it makes, whether it succeeds, and the
identity it leaves. -/
inductive Delivers (client : Client) (identity : Identity) (artifact : Artifact)
    (reply : Nat → Reply) : List Request → Except Failure Unit → Identity → Prop where
  | missing : artifact.content = none →
      Delivers client identity artifact reply []
        (.error (.report (.upload (.artifactMissing artifact.path)))) identity
  | notUploaded {content : Bytes} {made : List Request} {error : ClientError} :
      artifact.content = some content →
      client.Uploads (artifact.uploadFile content) content reply made (.error error) →
      Delivers client identity artifact reply made (.error (error.uploadFailure artifact.path))
        identity
  | notAnnounced {content : Bytes} {made : List Request} {offer : Offer} {error : ClientError} :
      artifact.content = some content →
      client.Uploads (artifact.uploadFile content) content reply made (.ok offer) →
      ¬ (reply 2).Accepted → (reply 2).Explains (client.host ++ finishedPath) error →
      Delivers client identity artifact reply
        (made ++ [client.finishedRequest (identity.withOffer offer)])
        (.error error.announcementFailure) (identity.withOffer offer)
  | done {content : Bytes} {made : List Request} {offer : Offer} :
      artifact.content = some content →
      client.Uploads (artifact.uploadFile content) content reply made (.ok offer) →
      (reply 2).Accepted →
      Delivers client identity artifact reply
        (made ++ [client.finishedRequest (identity.withOffer offer)]) (.ok ())
        (identity.withOffer offer)

theorem Uploads.length_of_ok {client : Client} {file : UploadFile} {body : Bytes}
    {reply : Nat → Reply} {made : List Request} {offer : Offer}
    (h : client.Uploads file body reply made (.ok offer)) : made.length = 2 := by
  cases h
  rfl

theorem deliver_spec (client : Client) (identity : Identity) (artifact : Artifact)
    (c : Conversation) :
    ∃ made result left, client.deliver identity artifact c = (result, left, c.after made) ∧
      client.Delivers identity artifact c.reply made result left := by
  unfold deliver
  cases hcontent : artifact.content with
  | none => exact ⟨[], _, _, by rw [Conversation.after_nil], .missing hcontent⟩
  | some content =>
    obtain ⟨made, uploaded, hupload, hways⟩ :=
      client.upload_spec (artifact.uploadFile content) content rfl c
    simp only [hupload]
    cases uploaded with
    | error error => exact ⟨made, _, _, rfl, .notUploaded hcontent hways⟩
    | ok offer =>
      obtain ⟨announced, hannounce, hcases⟩ :=
        client.announce_spec (identity.withOffer offer) (c.after made)
      rw [Conversation.after_after] at hannounce
      rw [Conversation.reply_after, hways.length_of_ok] at hcases
      simp only [Identity.withOffer] at hannounce
      simp only [hannounce]
      rcases hcases with ⟨hacc, rfl⟩ | ⟨hacc, error, hexplains, rfl⟩
      · exact ⟨_, _, _, rfl, .done hcontent hways hacc⟩
      · have hend : client.Delivers identity artifact c.reply
            (made ++ [client.finishedRequest (identity.withOffer offer)])
            (.error error.announcementFailure) (identity.withOffer offer) :=
          .notAnnounced hcontent hways hacc hexplains
        cases error <;> exact ⟨_, _, _, rfl, hend⟩

end Client

/-- What the delivery of a package answers, and what becomes of the session's error, by what the
client ended with. -/
inductive Answers (s s' : DeliveryState) : Except Failure Unit → Except Failure Bool → Prop where
  | delivered : s'.sessionError = s.sessionError → Answers s s' (.ok ()) (.ok true)
  | failed {error : ReportError} : s'.sessionError = some uploadMessage →
      Answers s s' (.error (.report error)) (.ok false)
  | escaped {failure : Failure} : (∀ error, failure ≠ .report error) →
      s'.sessionError = s.sessionError → Answers s s' (.error failure) (.error failure)

/-- A package is removed whatever becomes of it, and the scan keeps the identity that the client
left. -/
theorem deliverArtifact_spec (client : Client) (verbose : Bool) (report : Report)
    (artifact : Artifact) (s : DeliveryState) :
    ∃ made result left answer s',
      deliverArtifact client verbose report artifact s = (answer, s') ∧
      client.Delivers report.identity artifact s.conversation.reply made result left ∧
      s'.conversation = s.conversation.after made ∧
      s'.area = s.area.remove artifact.directory ∧
      s'.scan = { s.scan with report := some { report with identity := left } } ∧
      Answers s s' result answer := by
  obtain ⟨made, result, left, hdeliver, hways⟩ :=
    client.deliver_spec report.identity artifact s.conversation
  have hdebug : (s.debug verbose ("Report packaged at " ++ artifact.path)).conversation =
      s.conversation := rfl
  refine ⟨made, result, left, ?_⟩
  simp only [deliverArtifact_def, hdebug, hdeliver]
  rcases result with failure | _
  · cases failure with
    | report error => exact ⟨_, _, rfl, hways, rfl, rfl, rfl, .failed rfl⟩
    | _ => exact ⟨_, _, rfl, hways, rfl, rfl, rfl, .escaped nofun rfl⟩
  · exact ⟨_, _, rfl, hways, rfl, rfl, rfl, .delivered rfl⟩

/-! ### The whole delivery -/

theorem ScanData.reportToSend_of_none {scan : ScanData} (h : scan.report = none)
    (settings : Settings) (context : Option Repository) :
    scan.reportToSend settings context = scan.assembleReport settings context true := by
  rw [reportToSend, h]

/-- The report to send is the one that is kept, or else a new one. -/
theorem ScanData.reportToSend_ok {scan kept : ScanData} {settings : Settings}
    {context : Option Repository} {report : Report}
    (h : scan.reportToSend settings context = .ok (report, kept)) :
    (scan.report = some report ∧ kept = scan) ∨
      (scan.report = none ∧ scan.assembleReport settings context true = .ok (report, kept)) := by
  unfold reportToSend at h
  split at h
  · next held =>
    cases h
    exact .inl ⟨held, rfl⟩
  · next hnone => exact .inr ⟨hnone, h⟩

/-- From then on the scan keeps the report. -/
theorem ScanData.reportToSend_kept {scan kept : ScanData} {settings : Settings}
    {context : Option Repository} {report : Report}
    (h : scan.reportToSend settings context = .ok (report, kept)) :
    kept = { scan with report := some report } := by
  rcases reportToSend_ok h with ⟨hheld, rfl⟩ | ⟨-, hassemble⟩
  · rw [← hheld]
  · obtain ⟨_, -, ⟨⟩⟩ := bind_ok.1 hassemble
    rfl

/-- The area without a directory, if one is named. -/
def TempArea.discard (area : TempArea) : Option Nat → TempArea
  | some n => area.remove n
  | none => area

/-- The ways the delivery of a scan can go: what it answers, and the state it leaves. -/
inductive DeliversScan (client : Client) (settings : Settings) (context : Option Repository)
    (fault : Option PackagingFault) (s s' : DeliveryState) : Except Failure Bool → Prop where
  | unreported {error : ReportError} :
      s.scan.reportToSend settings context = .error (.report error) →
      s'.scan = s.scan → s'.area = s.area → s'.conversation = s.conversation →
      s'.sessionError = some (identityMessage error) →
      DeliversScan client settings context fault s s' (.ok false)
  | unassembled {failure : Failure} : s.scan.reportToSend settings context = .error failure →
      (∀ error, failure ≠ .report error) → s' = s →
      DeliversScan client settings context fault s s' (.error failure)
  | unpackaged {report : Report} {scan : ScanData} {area : TempArea} {error : PackagingError}
      {directory : Option Nat} : s.scan.reportToSend settings context = .ok (report, scan) →
      s.area.package fault report = (.error (.packaging error directory), area) →
      s'.scan = scan → s'.area = area.discard directory → s'.conversation = s.conversation →
      s'.sessionError = some packagingMessage →
      DeliversScan client settings context fault s s' (.ok false)
  | unwritten {report : Report} {scan : ScanData} {area : TempArea} {error : CoercionError} :
      s.scan.reportToSend settings context = .ok (report, scan) →
      s.area.package fault report = (.error (.unwritable error), area) →
      s' = { s with scan, area } →
      DeliversScan client settings context fault s s' (.error (.coercion error))
  | tooDeep {report : Report} {scan : ScanData} {area : TempArea} :
      s.scan.reportToSend settings context = .ok (report, scan) →
      s.area.package fault report = (.error .tooDeep, area) →
      s' = { s with scan, area } →
      DeliversScan client settings context fault s s' (.error (.printing .tooDeep))
  | sent {report : Report} {scan : ScanData} {area : TempArea} {artifact : Artifact}
      {made : List Request} {result : Except Failure Unit} {left : Identity}
      {answer : Except Failure Bool} : s.scan.reportToSend settings context = .ok (report, scan) →
      s.area.package fault report = (.ok artifact, area) →
      client.Delivers report.identity artifact s.conversation.reply made result left →
      s'.scan = { scan with report := some { report with identity := left } } →
      s'.area = area.remove artifact.directory → s'.conversation = s.conversation.after made →
      Answers s s' result answer →
      DeliversScan client settings context fault s s' answer

theorem deliverScan_run {client : Client} {verbose : Bool} {settings : Settings}
    {context : Option Repository} {fault : Option PackagingFault} {s s' : DeliveryState}
    {answer : Except Failure Bool}
    (h : deliverScan client verbose settings context fault s = (answer, s')) :
    DeliversScan client settings context fault s s' answer := by
  rw [deliverScan_def] at h
  rcases hreport : s.scan.reportToSend settings context with failure | ⟨report, scan⟩
  · rw [hreport] at h
    cases failure with
    | report error =>
      cases h
      exact .unreported hreport rfl rfl rfl rfl
    | _ =>
      cases h
      exact .unassembled hreport nofun rfl
  · rw [hreport] at h
    simp only [deliverReport_def] at h
    rcases hpackage : s.area.package fault report with ⟨packaged, area⟩
    rw [hpackage] at h
    rcases packaged with stop | artifact
    · cases stop with
      | unwritable error =>
        cases h
        exact .unwritten hreport hpackage rfl
      | tooDeep =>
        cases h
        exact .tooDeep hreport hpackage rfl
      | packaging error directory =>
        cases h
        refine .unpackaged hreport hpackage ?_ ?_ ?_ ?_ <;> cases directory <;> rfl
    · obtain ⟨made, result, left, answer, s'', hdeliver, hways, hconversation, harea, hscan, hend⟩ :=
        deliverArtifact_spec client verbose report artifact { s with scan, area }
      simp only [hdeliver] at h
      cases h
      refine .sent hreport hpackage hways hscan harea hconversation ?_
      cases hend with
      | delivered hkept => exact .delivered hkept
      | failed hmessage => exact .failed hmessage
      | escaped hother hkept => exact .escaped hother hkept

/-! ### Requests to the collector -/

namespace Client

variable {client : Client} {reply : Nat → Reply} {made : List Request} {request : Request}

/-- The request goes to one of the collector's two places, as the client makes it. -/
def Posts (client : Client) (request : Request) : Prop :=
  ∃ path v, (path = offerPath ∨ path = finishedPath) ∧ request = client.postRequest path v

theorem Uploads.posts {file : UploadFile} {body : Bytes} {result : Except ClientError Offer}
    (h : client.Uploads file body reply made result) (hmem : request ∈ made)
    (hpost : request.method = .post) : client.Posts request := by
  cases h with
  | noOffer =>
    obtain rfl := List.mem_singleton.1 hmem
    exact ⟨_, _, .inl rfl, rfl⟩
  | refused | done =>
    rcases List.mem_cons.1 hmem with rfl | hmem
    · exact ⟨_, _, .inl rfl, rfl⟩
    · rw [List.mem_singleton.1 hmem] at hpost
      cases hpost

theorem Delivers.posts {identity left : Identity} {artifact : Artifact}
    {result : Except Failure Unit} (h : client.Delivers identity artifact reply made result left)
    (hmem : request ∈ made) (hpost : request.method = .post) : client.Posts request := by
  cases h with
  | missing => cases hmem
  | notUploaded _ hupload => exact hupload.posts hmem hpost
  | notAnnounced _ hupload | done _ hupload =>
    rcases List.mem_append.1 hmem with hmem | hmem
    · exact hupload.posts hmem hpost
    · obtain rfl := List.mem_singleton.1 hmem
      exact ⟨_, _, .inr rfl, rfl⟩

end Client

/-- Whatever a delivery posts goes to the collector. -/
theorem deliverScan_posts (client : Client) (verbose : Bool) (settings : Settings)
    (context : Option Repository) (fault : Option PackagingFault) (s : DeliveryState) :
    ∃ made, (deliverScan client verbose settings context fault s).2.conversation.requests =
        s.conversation.requests ++ made ∧
      ∀ request ∈ made, request.method = .post → client.Posts request := by
  rcases hrun : deliverScan client verbose settings context fault s with ⟨answer, s'⟩
  have hnone (h : s'.conversation = s.conversation) : ∃ made,
      s'.conversation.requests = s.conversation.requests ++ made ∧
        ∀ request ∈ made, request.method = .post → client.Posts request :=
    ⟨[], by rw [h, List.append_nil], nofun⟩
  cases deliverScan_run hrun with
  | unreported _ _ _ hsame => exact hnone hsame
  | unassembled _ _ hsame => exact hnone (by rw [hsame])
  | unpackaged _ _ _ _ hsame => exact hnone hsame
  | unwritten _ _ hsame | tooDeep _ _ hsame => exact hnone (by rw [hsame])
  | @sent _ _ _ _ made _ _ _ _ _ hways _ _ hafter =>
    exact ⟨made, by rw [hafter]; rfl, fun _ hmem hpost => hways.posts hmem hpost⟩

end ReportDelivery
