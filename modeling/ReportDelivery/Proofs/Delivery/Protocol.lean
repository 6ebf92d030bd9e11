import ReportDelivery.Proofs.Delivery.Run

/-! The protocol of a delivery.

A delivery makes at most three requests: it asks the collector for an upload offer, puts the
package where the offer says, and announces the scan. `deliverScan_keeps_protocol` says that it
makes them in this order, each only after the one before it was accepted, that it reports success
exactly if all three were, and that the session's error tells which part failed. -/
namespace ReportDelivery

/-- The ways in which a delivery can come to an answer. -/
theorem deliverScan_ways {client : Client} {verbose : Bool} {settings : Settings}
    {context : Option Repository} {fault : Option PackagingFault} {s s' : DeliveryState}
    {delivered : Bool}
    (h : deliverScan client verbose settings context fault s = (.ok delivered, s')) :
    (∃ error, s.scan.reportToSend settings context = .error (.report error) ∧
      s'.conversation = s.conversation ∧ delivered = false ∧
      s'.sessionError = some (identityMessage error)) ∨
    ∃ report scan, s.scan.reportToSend settings context = .ok (report, scan) ∧
      ((∃ error directory, (s.area.package fault report).1 = .error (.packaging error directory) ∧
        s'.conversation = s.conversation ∧ delivered = false ∧
        s'.sessionError = some packagingMessage) ∨
      ∃ artifact made result left, (s.area.package fault report).1 = .ok artifact ∧
        client.Delivers report.identity artifact s.conversation.reply made result left ∧
        s'.conversation = s.conversation.after made ∧ Answers s s' result (.ok delivered)) := by
  cases deliverScan_run h with
  | @unreported error hreport _ _ hsame herror => exact .inl ⟨error, hreport, hsame, rfl, herror⟩
  | @unpackaged report scan area error directory hreport hpackage _ _ hsame herror =>
    refine .inr ⟨report, scan, hreport, .inl ⟨error, directory, ?_, hsame, rfl, herror⟩⟩
    rw [hpackage]
  | @sent report scan area artifact made result left _ hreport hpackage hways _ _ hafter hend =>
    refine .inr ⟨report, scan, hreport, .inr ⟨artifact, made, result, left, ?_, hways, hafter, hend⟩⟩
    rw [hpackage]

/-! ### The protocol -/

/-- What the protocol asks of a run that makes the requests `made`, finds the replies `reply` and
answers `delivered`. -/
structure KeepsProtocol (client : Client) (reply : Nat → Reply) (made : List Request)
    (delivered : Bool) : Prop where
  /-- Each request is made at most once and in this order, the second one to where the offer says. -/
  order : ∃ url, (1 < made.length → ∃ offer, (reply 0).Offers offer ∧ offer.presignedUrl = url) ∧
    made.map (fun request => (request.method, request.url)) <+:
      [(.post, client.host ++ "/api/v1/file_upload_offer"), (.put, url),
        (.post, client.host ++ "/api/v1/scan_finished")]
  /-- A request is made only if the one before it was accepted. -/
  accepted : ∀ n, n + 1 < made.length → (reply n).Accepted
  success : delivered = true ↔ made.length = 3 ∧ ∀ n < 3, (reply n).Accepted

theorem keepsProtocol_none (client : Client) (reply : Nat → Reply) :
    KeepsProtocol client reply [] false where
  order := ⟨[], by simp, List.nil_prefix⟩
  accepted := by simp
  success := by simp

/-- An upload that fails has made the first request, and the second one if there was an offer. -/
theorem keepsProtocol_failed {client : Client} {file : UploadFile} {body : Bytes}
    {reply : Nat → Reply} {made : List Request} {error : ClientError}
    (h : client.Uploads file body reply made (.error error)) :
    KeepsProtocol client reply made false := by
  cases h with
  | noOffer hnone =>
    refine ⟨⟨[], by simp, ?_⟩, by simp, by simp⟩
    exact List.prefix_append [_] _
  | @refused offer _ hoffer hacc =>
    refine ⟨⟨offer.presignedUrl, fun _ => ⟨offer, hoffer, rfl⟩, ?_⟩, ?_, by simp⟩
    · exact List.prefix_append [_, _] _
    · intro n hn
      have hzero : n = 0 := Nat.lt_one_iff.1 (Nat.lt_of_succ_lt_succ hn)
      subst hzero
      exact hoffer.accepted

/-- After an upload the announcement is the third request, and the last word on success. -/
theorem keepsProtocol_announced {client : Client} {file : UploadFile} {body : Bytes}
    {reply : Nat → Reply} {made : List Request} {offer : Offer} {identity : Identity}
    (h : client.Uploads file body reply made (.ok offer)) (delivered : Bool)
    (hdelivered : delivered = true ↔ (reply 2).Accepted) :
    KeepsProtocol client reply (made ++ [client.finishedRequest identity]) delivered := by
  cases h with
  | done hoffer hacc =>
    refine ⟨⟨offer.presignedUrl, fun _ => ⟨offer, hoffer, rfl⟩, List.prefix_refl _⟩, ?_, ?_⟩
    · intro n hn
      have htwo : n = 0 ∨ n = 1 := by
        simp only [List.length_append, List.length_cons, List.length_nil] at hn
        omega
      rcases htwo with rfl | rfl
      · exact hoffer.accepted
      · exact hacc
    · rw [hdelivered]
      refine ⟨fun hlast => ⟨rfl, fun n hn => ?_⟩, fun hall => hall.2 2 (by decide)⟩
      have hthree : n = 0 ∨ n = 1 ∨ n = 2 := by omega
      rcases hthree with rfl | rfl | rfl
      · exact hoffer.accepted
      · exact hacc
      · exact hlast

theorem Client.Delivers.keepsProtocol {client : Client} {identity left : Identity}
    {artifact : Artifact} {reply : Nat → Reply} {made : List Request}
    {result : Except Failure Unit} (h : client.Delivers identity artifact reply made result left) :
    KeepsProtocol client reply made result.isOk := by
  cases h with
  | missing => exact keepsProtocol_none client reply
  | notUploaded _ hupload => exact keepsProtocol_failed hupload
  | notAnnounced _ hupload hacc =>
    exact keepsProtocol_announced hupload false ⟨nofun, fun h => absurd h hacc⟩
  | done _ hupload hacc => exact keepsProtocol_announced hupload true ⟨fun _ => hacc, fun _ => rfl⟩

/-- **The delivery protocol.** Whatever the scan, the settings, the packaging fault and the
collector's replies: a delivery that comes to an answer keeps the protocol. It makes no request if
there is no report or no package, and the session's error is written exactly if the answer is
false, with the message for what failed. -/
theorem deliverScan_keeps_protocol {client : Client} {verbose : Bool} {settings : Settings}
    {context : Option Repository} {fault : Option PackagingFault} {s s' : DeliveryState}
    {delivered : Bool}
    (h : deliverScan client verbose settings context fault s = (.ok delivered, s')) :
    ∃ made, s'.conversation.requests = s.conversation.requests ++ made ∧
      KeepsProtocol client s.conversation.reply made delivered ∧
      (∀ failure, s.scan.reportToSend settings context = .error failure →
        made = [] ∧ delivered = false ∧
          s'.sessionError = some ("Unable to calculate Metadata. " ++ failure.message)) ∧
      (∀ report scan, s.scan.reportToSend settings context = .ok (report, scan) →
        (∀ stop, (s.area.package fault report).1 = .error stop →
          made = [] ∧ delivered = false ∧
            s'.sessionError = some (Text.ofString "Could not compress report.")) ∧
        (∀ artifact, (s.area.package fault report).1 = .ok artifact → delivered = false →
          s'.sessionError = some (Text.ofString "Report upload failed."))) ∧
      (delivered = true → s'.sessionError = s.sessionError) := by
  rcases deliverScan_ways h with ⟨error, hreport, hsame, rfl, herror⟩ |
    ⟨report, scan, hreport, ⟨error, directory, hpackage, hsame, rfl, herror⟩ |
      ⟨artifact, made, result, left, hpackage, hways, hafter, hend⟩⟩
  · refine ⟨[], by rw [hsame, List.append_nil], keepsProtocol_none _ _, ?_, ?_, by simp⟩
    · rintro failure hfailure
      rw [hreport] at hfailure
      cases hfailure
      exact ⟨rfl, rfl, herror⟩
    · rintro report scan hok
      rw [hreport] at hok
      cases hok
  · refine ⟨[], by rw [hsame, List.append_nil], keepsProtocol_none _ _, ?_, ?_, by simp⟩
    · rintro failure hfailure
      rw [hreport] at hfailure
      cases hfailure
    · rintro report' scan' hok
      rw [hreport] at hok
      cases hok
      refine ⟨fun stop _ => ⟨rfl, rfl, herror⟩, fun artifact hartifact => ?_⟩
      rw [hpackage] at hartifact
      cases hartifact
  · have hkeeps : KeepsProtocol client s.conversation.reply made delivered := by
      cases hend <;> exact hways.keepsProtocol
    refine ⟨made, by rw [hafter]; rfl, hkeeps, ?_, ?_, ?_⟩
    · rintro failure hfailure
      rw [hreport] at hfailure
      cases hfailure
    · rintro report' scan' hok
      rw [hreport] at hok
      cases hok
      refine ⟨fun stop hstop => ?_, fun _ _ hfalse => ?_⟩
      · rw [hpackage] at hstop
        cases hstop
      · cases hend with
        | delivered => cases hfalse
        | failed hmessage => exact hmessage
    · intro htrue
      cases hend with
      | delivered hkept => exact hkept
      | failed => cases htrue

/-! ### A delivery that succeeds -/

def sampleClient : Client := .create "key" "https://collector.test/" [] Client.defaultTimeout

def sampleSettings : Settings := { target := Text.ofString "." }

def sampleContext : Repository where
  branch := "topic"
  defaultBranch := "main"
  commitHash := "c0ffee"
  originUrl := "https://git.test/r"

/-- The last answer has the greatest status that is accepted. -/
def sampleStart : DeliveryState where
  scan := {}
  sessionError := some []
  area := { root := "/tmp", label := Text.ofNat, fresh := List.forall_mem_nil _ }
  conversation := { replies := [
    .response 200 (.ofBytes ("\x7b\"signed_id\": 7, \"presigned_url\": \"https://store.test\"\x7d"
      |>.toList.map fun c => .ofNat c.toNat)),
    .response 204 (.ofBytes []), .response 399 (.ofBytes [])] }

theorem sampleDelivery_keeps_protocol :
    ∃ s', deliverScan sampleClient true sampleSettings (some sampleContext) none sampleStart =
        (.ok true, s') ∧
      ∃ made, s'.conversation.requests = made ∧
        KeepsProtocol sampleClient sampleStart.conversation.reply made true ∧
        s'.sessionError = some [] := by
  have hanswer : (deliverScan sampleClient true sampleSettings (some sampleContext) none
      sampleStart).1.toOption = some true := by decide +kernel
  rcases hrun : deliverScan sampleClient true sampleSettings (some sampleContext) none sampleStart
    with ⟨_ | delivered, s'⟩
  · rw [hrun] at hanswer
    cases hanswer
  · rw [hrun] at hanswer
    cases hanswer
    obtain ⟨made, hmade, hkeeps, -, -, herror⟩ := deliverScan_keeps_protocol hrun
    exact ⟨s', rfl, made, hmade, hkeeps, herror rfl⟩

end ReportDelivery
