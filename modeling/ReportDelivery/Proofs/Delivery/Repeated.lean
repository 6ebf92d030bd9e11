import ReportDelivery.Proofs.Delivery.Packaging
import ReportDelivery.Proofs.Delivery.Run

/-! Delivering a scan again and again.

Attempts to deliver one scan share nothing but the scan: each has settings, a client and a collector
of its own, and may fail where it likes. `deliverAll_keeps_report` says what they do to the report
that is kept with the scan. The first report stays, whatever later attempts are told about the
repository; only the collector's name for it changes, and that is the one in the offer under which
it was last uploaded. What an attempt uploads is the report as the attempt found or made it. -/
namespace ReportDelivery

/-! ### The offer that was used -/

/-- The offer of a run whose upload was accepted: one of its requests was a PUT that was answered
with a status below 400. -/
def acceptedOffer? (reply : Nat → Reply) (made : List Request) : Option Offer :=
  if made.zipIdx.any fun (request, n) => request.method = .put && (reply n).answer?.isSome then
    (reply 0).offer?
  else none

namespace Client

variable {client : Client} {file : UploadFile} {body : Bytes} {reply : Nat → Reply}
  {made : List Request}

theorem Uploads.acceptedOffer_error {error : ClientError}
    (h : client.Uploads file body reply made (.error error)) : acceptedOffer? reply made = none := by
  cases h with
  | noOffer => rfl
  | refused _ hacc =>
    have hrefused : (reply 1).answer?.isSome = false := Bool.eq_false_iff.2 hacc
    simp [acceptedOffer?, List.zipIdx, offerRequest, postRequest, uploadRequest, putRequest,
      hrefused]

/-- An upload goes to where the offer says, and requests after it change nothing about it. -/
theorem Uploads.acceptedOffer_ok {offer : Offer}
    (h : client.Uploads file body reply made (.ok offer)) (more : List Request) :
    acceptedOffer? reply (made ++ more) = some offer := by
  cases h with
  | done hoffer hacc =>
    have haccepted : (reply 1).answer?.isSome = true := hacc
    rw [acceptedOffer?, if_pos, Reply.offers_iff.1 hoffer]
    simp [List.zipIdx, uploadRequest, putRequest, haccepted]

/-- What a delivery does to the identity is told by the offer that was used. -/
theorem Delivers.left_eq {identity left : Identity} {artifact : Artifact}
    {result : Except Failure Unit} (h : client.Delivers identity artifact reply made result left) :
    left = (acceptedOffer? reply made).elim identity identity.withOffer := by
  cases h with
  | missing => rfl
  | notUploaded _ hupload => rw [hupload.acceptedOffer_error, Option.elim_none]
  | notAnnounced _ hupload => rw [hupload.acceptedOffer_ok, Option.elim_some]
  | done _ hupload => rw [hupload.acceptedOffer_ok, Option.elim_some]

/-- Only the upload is a PUT, and its body is what the file holds. -/
theorem Uploads.put {result : Except ClientError Offer}
    (h : client.Uploads file body reply made result) {request : Request} (hmem : request ∈ made)
    (hput : request.method = .put) : request.payload = .body body := by
  cases h with
  | noOffer =>
    rw [List.mem_singleton.1 hmem] at hput
    cases hput
  | refused | done =>
    rcases List.mem_cons.1 hmem with rfl | hmem
    · cases hput
    · rw [List.mem_singleton.1 hmem]
      rfl

theorem Delivers.put {identity left : Identity} {artifact : Artifact}
    {result : Except Failure Unit} (h : client.Delivers identity artifact reply made result left)
    {request : Request} (hmem : request ∈ made) (hput : request.method = .put) :
    ∃ content, artifact.content = some content ∧ request.payload = .body content := by
  cases h with
  | missing => cases hmem
  | notUploaded hcontent hupload => exact ⟨_, hcontent, hupload.put hmem hput⟩
  | notAnnounced hcontent hupload | done hcontent hupload =>
    rcases List.mem_append.1 hmem with hmem | hmem
    · exact ⟨_, hcontent, hupload.put hmem hput⟩
    · rw [List.mem_singleton.1 hmem] at hput
      cases hput

end Client

/-! ### Attempts -/

/-- A delivery with everything it is given besides the scan. -/
structure Attempt where
  client : Client
  verbose : Bool
  settings : Settings
  context : Option Repository
  fault : Option PackagingFault
  sessionError : Option Text
  area : TempArea
  conversation : Conversation
  log : Log

namespace Attempt

variable (attempt : Attempt) (scan : ScanData)

def start : DeliveryState where
  scan := scan
  sessionError := attempt.sessionError
  area := attempt.area
  conversation := attempt.conversation
  log := attempt.log

def run : Except Failure Bool × DeliveryState :=
  deliverScan attempt.client attempt.verbose attempt.settings attempt.context attempt.fault
    (attempt.start scan)

/-- What the attempt leaves of the scan. -/
def after : ScanData := (attempt.run scan).2.scan

/-- The requests that the attempt makes. -/
def made : List Request :=
  (attempt.run scan).2.conversation.requests.drop attempt.conversation.requests.length

/-- The offer under which the attempt's upload was accepted. -/
def offer? : Option Offer := acceptedOffer? attempt.conversation.reply (attempt.made scan)

/-- The report that can be assembled for the attempt. -/
def assembled? : Option Report :=
  match scan.assembleReport attempt.settings attempt.context true with
  | .ok (report, _) => some report
  | .error _ => none

end Attempt

/-- The scan after attempts, one after the other. -/
def deliverAll (scan : ScanData) (attempts : List Attempt) : ScanData :=
  attempts.foldl (fun scan attempt => attempt.after scan) scan

/-- The offers under which uploads were accepted, first one first. -/
def acceptedOffers (scan : ScanData) : List Attempt → List Offer
  | [] => []
  | attempt :: attempts =>
    (attempt.offer? scan).toList ++ acceptedOffers (attempt.after scan) attempts

/-- The report that is kept to begin with, or else the first one that can be assembled. -/
def firstReport? (scan : ScanData) (attempts : List Attempt) : Option Report :=
  scan.report.or (attempts.findSome? fun attempt => attempt.assembled? scan)

/-- The report under the name in the last offer, and under its own if there is no offer. -/
def Report.signedBy (report : Report) (offers : List Offer) : Report :=
  report.signed ((offers.getLast?.map fun offer => .str offer.signedId).getD
    report.identity.signedId)

/-! ### One attempt -/

theorem Report.signedBy_nil (report : Report) : report.signedBy [] = report := rfl

/-- The name in the last offer counts. -/
theorem Report.signedBy_append (report : Report) (offers more : List Offer) :
    (report.signedBy offers).signedBy more = report.signedBy (offers ++ more) := by
  unfold signedBy
  rw [List.getLast?_append]
  cases more.getLast? <;> rfl

/-- The report with the identity that a delivery leaves is the one under the offer's name. -/
theorem Report.signedBy_offer (report : Report) (offer : Option Offer) :
    { report with identity := offer.elim report.identity report.identity.withOffer } =
      report.signedBy offer.toList := by
  cases offer <;> rfl

namespace Attempt

variable {attempt : Attempt} {scan kept : ScanData} {report : Report}

theorem made_of_after {made : List Request}
    (h : (attempt.run scan).2.conversation = attempt.conversation.after made) :
    attempt.made scan = made := by
  rw [Attempt.made, h]
  exact List.drop_left

theorem made_of_same (h : (attempt.run scan).2.conversation = attempt.conversation) :
    attempt.made scan = [] :=
  made_of_after (by rw [h, Conversation.after_nil])

/-- Without a report an attempt does nothing. -/
theorem step_error {failure : Failure}
    (h : scan.reportToSend attempt.settings attempt.context = .error failure) :
    attempt.after scan = scan ∧ attempt.made scan = [] := by
  rcases hrun : attempt.run scan with ⟨answer, s'⟩
  have hscan : (attempt.start scan).scan.reportToSend attempt.settings attempt.context =
    .error failure := h
  rw [after, hrun]
  cases deliverScan_run hrun with
  | unreported _ hafter _ hsame => exact ⟨hafter, made_of_same (by rw [hrun]; exact hsame)⟩
  | unassembled _ _ hsame => exact ⟨by rw [hsame]; rfl, made_of_same (by rw [hrun, hsame]; rfl)⟩
  | unpackaged hsend | unwritten hsend | tooDeep hsend | sent hsend =>
    rw [hscan] at hsend
    cases hsend

/-- An attempt keeps the report that it found or made, under the name of the offer that it used,
and what it uploads is that report as it was before. -/
theorem step_ok (h : scan.reportToSend attempt.settings attempt.context = .ok (report, kept)) :
    attempt.after scan =
        { scan with report := some (report.signedBy (attempt.offer? scan).toList) } ∧
      ∀ request ∈ attempt.made scan, request.method = .put →
        ∃ body bytes, request.payload = .body body ∧ Gzip.decompress body = .ok bytes ∧
          report.encoded = .ok bytes := by
  rcases hrun : attempt.run scan with ⟨answer, s'⟩
  have hscan : (attempt.start scan).scan.reportToSend attempt.settings attempt.context =
    .ok (report, kept) := h
  have hkept := ScanData.reportToSend_kept h
  -- Nothing is uploaded and nothing is signed before there is a package.
  have hunsent (hafter : s'.scan = kept) (hsame : s'.conversation = attempt.conversation) :
      attempt.after scan =
          { scan with report := some (report.signedBy (attempt.offer? scan).toList) } ∧
        attempt.made scan = [] := by
    have hmade : attempt.made scan = [] := made_of_same (by rw [hrun]; exact hsame)
    have hoffer : attempt.offer? scan = none := by rw [offer?, hmade]; rfl
    refine ⟨?_, hmade⟩
    rw [hoffer, Option.toList_none, Report.signedBy_nil, after, hrun, ← hkept]
    exact hafter
  cases deliverScan_run hrun with
  | unreported hsend | unassembled hsend =>
    rw [hscan] at hsend
    cases hsend
  | unpackaged hsend _ hafter _ hsame =>
    rw [hscan] at hsend
    cases hsend
    obtain ⟨hkeeps, hmade⟩ := hunsent hafter hsame
    exact ⟨hkeeps, by simp [hmade]⟩
  | unwritten hsend _ hsame | tooDeep hsend _ hsame =>
    rw [hscan] at hsend
    cases hsend
    obtain ⟨hkeeps, hmade⟩ := hunsent (by rw [hsame]) (by rw [hsame]; rfl)
    exact ⟨hkeeps, by simp [hmade]⟩
  | sent hsend hpackage hways hafter _ hconversation =>
    rw [hscan] at hsend
    cases hsend
    have hmade := made_of_after (by rw [hrun]; exact hconversation)
    refine ⟨?_, ?_⟩
    · rw [after, hrun, offer?, hmade, ← Report.signedBy_offer]
      show s'.scan = _
      rw [hafter, hways.left_eq, hkept]
      rfl
    · intro request hmem hput
      rw [hmade] at hmem
      obtain ⟨content, hcontent, hpayload⟩ := hways.put hmem hput
      have hpacks := TempArea.package_ok (congrArg Prod.fst hpackage)
      obtain ⟨bytes, rfl, hbytes⟩ := hpacks.content hcontent
      exact ⟨_, bytes, hpayload, Gzip.decompress_compress bytes, hbytes⟩

end Attempt

/-! ### Many attempts -/

theorem firstReport_of_error {scan : ScanData} {attempt : Attempt} {failure : Failure}
    (h : scan.reportToSend attempt.settings attempt.context = .error failure)
    (attempts : List Attempt) :
    firstReport? scan (attempt :: attempts) = firstReport? scan attempts := by
  have hnone : scan.report = none ∧ attempt.assembled? scan = none := by
    unfold ScanData.reportToSend at h
    split at h
    · cases h
    · next hnone => exact ⟨hnone, by rw [Attempt.assembled?, h]⟩
  rw [firstReport?, firstReport?, List.findSome?_cons, hnone.2]

theorem firstReport_of_ok {scan kept : ScanData} {attempt : Attempt} {report : Report}
    (h : scan.reportToSend attempt.settings attempt.context = .ok (report, kept))
    (attempts : List Attempt) : firstReport? scan (attempt :: attempts) = some report := by
  rcases ScanData.reportToSend_ok h with ⟨hheld, -⟩ | ⟨hnone, hassemble⟩
  · rw [firstReport?, hheld, Option.some_or]
  · rw [firstReport?, hnone, Option.none_or, List.findSome?_cons, Attempt.assembled?, hassemble]

theorem deliverAll_eq (scan : ScanData) (attempts : List Attempt) :
    deliverAll scan attempts =
      { scan with
        report := (firstReport? scan attempts).map
          (·.signedBy (acceptedOffers scan attempts)) } := by
  induction attempts generalizing scan with
  | nil =>
    rw [firstReport?, List.findSome?_nil, Option.or_none]
    cases scan with
    | mk _ _ _ _ _ report => cases report <;> rfl
  | cons attempt attempts ih =>
    show deliverAll (attempt.after scan) attempts = _
    rw [ih, acceptedOffers]
    rcases hsend : scan.reportToSend attempt.settings attempt.context with failure | ⟨report, kept⟩
    · obtain ⟨hsame, hmade⟩ := Attempt.step_error hsend
      have hoffer : attempt.offer? scan = none := by rw [Attempt.offer?, hmade]; rfl
      rw [hsame, hoffer, firstReport_of_error hsend, Option.toList_none, List.nil_append]
    · obtain ⟨hkeeps, -⟩ := Attempt.step_ok hsend
      rw [firstReport_of_ok hsend, hkeeps, firstReport?, Option.some_or, Option.map_some,
        Option.map_some, Report.signedBy_append]

/-- **Main theorem.** After any attempts the scan is as it was, except that it keeps the first
report that there was, under the name in the last offer that was used. And every upload holds the
document of the report that was kept when the attempt packaged it. -/
theorem deliverAll_keeps_report (scan : ScanData) (attempts : List Attempt) :
    deliverAll scan attempts =
        { scan with
          report := (firstReport? scan attempts).map
            (·.signedBy (acceptedOffers scan attempts)) } ∧
      ∀ before attempt after, attempts = before ++ attempt :: after →
        ∀ request ∈ attempt.made (deliverAll scan before), request.method = .put →
          ∃ report kept body bytes text,
            (deliverAll scan before).reportToSend attempt.settings attempt.context =
              .ok (report, kept) ∧ kept.report = some report ∧
            request.payload = .body body ∧ Gzip.decompress body = .ok bytes ∧
            report.document = .ok text ∧ Utf8.encode text = .ok bytes := by
  refine ⟨deliverAll_eq scan attempts, ?_⟩
  intro before attempt after _ request hmem hput
  rcases hsend : (deliverAll scan before).reportToSend attempt.settings attempt.context with
    failure | ⟨report, kept⟩
  · rw [(Attempt.step_error hsend).2] at hmem
    cases hmem
  · obtain ⟨body, bytes, hpayload, hbody, hencoded⟩ := (Attempt.step_ok hsend).2 request hmem hput
    obtain ⟨text, hdocument, hencode⟩ := Report.encoded_ok.1 hencoded
    exact ⟨report, kept, body, bytes, text, rfl, by rw [ScanData.reportToSend_kept hsend], hpayload,
      hbody, hdocument, hencode⟩

end ReportDelivery
