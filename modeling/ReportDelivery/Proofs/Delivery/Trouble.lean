import ReportDelivery.Proofs.Delivery.Console
import ReportDelivery.Proofs.Delivery.Protocol

/-! Requests without an answer.

A delivery is meant to survive a request that gets no answer, be it that the exchange failed or that
the system did. `deliverScan_survives_trouble` says when it does, on a console that takes what the
delivery shows: at the offer and at the upload always, and at the announcement if the exchange
failed. An error of the system at the announcement is expected by nobody. It leaves the delivery as
it came, and the session does not learn of it. -/
namespace ReportDelivery

/-! ### Trouble with a request -/

/-- The trouble is of a kind that a delivery is meant to survive. -/
def TransportFault.IsExpected (fault : TransportFault) : Prop :=
  fault.trouble.isExchange ∨ fault.trouble = .system

/-- Of the three requests of a delivery, the one numbered `n` is the first that fails, and it fails
for want of an answer. -/
structure FailsAt (reply : Nat → Reply) (n : Nat) (fault : TransportFault) : Prop where
  among : n < 3
  unanswered : reply n = .fault fault
  offered : 0 < n → ∃ offer, (reply 0).Offers offer
  uploaded : 1 < n → (reply 1).Accepted

/-- The trouble leaves the delivery as it came: the system fails at the announcement of a package
that was uploaded. -/
def Escapes (artifact : Artifact) (n : Nat) (fault : TransportFault) : Prop :=
  n = 2 ∧ fault.trouble = .system ∧ artifact.content.isSome

theorem not_accepted_fault (fault : TransportFault) : ¬ (Reply.fault fault).Accepted := nofun

namespace ClientError

variable {fault : TransportFault} (url : Text)

theorem unanswered_exchange (h : fault.trouble.isExchange) :
    unanswered url fault = .collector (.network url fault) := if_pos h

theorem unanswered_system (h : fault.trouble = .system) :
    unanswered url fault = .transport fault := by
  have hother : fault.trouble.isExchange = false := by rw [h]; rfl
  rw [unanswered, hother, if_neg Bool.false_ne_true]

/-- Whoever uploads expects any trouble of these kinds. -/
theorem uploadFailure_unanswered (h : fault.IsExpected) (path : Text) :
    (unanswered url fault).uploadFailure path =
      .report (.upload (.failed path (unanswered url fault))) := by
  refine if_pos ?_
  rcases h with hexchange | hsystem
  · rw [unanswered_exchange url hexchange]
    rfl
  · rw [unanswered_system url hsystem]
    exact decide_eq_true hsystem

end ClientError

/-! ### Deliveries of a package -/

namespace Client

variable {client : Client} {file : UploadFile} {body : Bytes} {reply : Nat → Reply}
  {made : List Request} {n : Nat} {fault : TransportFault}

/-- An upload fails at one of the first two requests, with the trouble of the one that got no
answer. -/
theorem Uploads.error_of_failsAt {error : ClientError}
    (h : client.Uploads file body reply made (.error error)) (hfails : FailsAt reply n fault) :
    n < 2 ∧ ∃ url, error = .unanswered url fault := by
  cases h with
  | noOffer hnone hexplains =>
    have hzero : n = 0 := by
      by_contra hpos
      obtain ⟨offer, hoffer⟩ := hfails.offered (Nat.pos_of_ne_zero hpos)
      exact hnone offer hoffer
    subst hzero
    exact ⟨by decide, _, hexplains fault hfails.unanswered⟩
  | refused hoffer hacc hexplains =>
    have hone : n = 1 := by
      refine Nat.le_antisymm ?_ (Nat.pos_of_ne_zero ?_)
      · by_contra hmore
        exact hacc (hfails.uploaded (Nat.not_le.1 hmore))
      · rintro rfl
        exact not_accepted_fault fault (hfails.unanswered ▸ hoffer.accepted)
    subst hone
    exact ⟨by decide, _, hexplains fault hfails.unanswered⟩

/-- After an upload only the announcement is left to fail. -/
theorem Uploads.last_of_failsAt {offer : Offer}
    (h : client.Uploads file body reply made (.ok offer)) (hfails : FailsAt reply n fault) :
    n = 2 := by
  cases h with
  | done hoffer hacc =>
    have hfault := hfails.unanswered
    match n, hfails.among with
    | 0, _ => exact absurd (hfault ▸ hoffer.accepted) (not_accepted_fault fault)
    | 1, _ => exact absurd (hfault ▸ hacc) (not_accepted_fault fault)
    | 2, _ => rfl

variable {identity left : Identity} {artifact : Artifact} {result : Except Failure Unit}

theorem Delivers.survives (h : client.Delivers identity artifact reply made result left)
    (hfails : FailsAt reply n fault) (hexpected : fault.IsExpected)
    (hkept : ¬ Escapes artifact n fault) : ∃ error, result = .error (.report error) := by
  cases h with
  | missing => exact ⟨_, rfl⟩
  | notUploaded _ hupload =>
    obtain ⟨-, url, rfl⟩ := hupload.error_of_failsAt hfails
    exact ⟨_, congrArg Except.error (ClientError.uploadFailure_unanswered url hexpected _)⟩
  | notAnnounced hcontent hupload _ hexplains =>
    obtain rfl := hupload.last_of_failsAt hfails
    rcases hexpected with hexchange | hsystem
    · rw [hexplains fault hfails.unanswered, ClientError.unanswered_exchange _ hexchange]
      exact ⟨_, rfl⟩
    · exact absurd ⟨rfl, hsystem, by rw [hcontent]; rfl⟩ hkept
  | done _ hupload hacc =>
    obtain rfl := hupload.last_of_failsAt hfails
    exact absurd (hfails.unanswered ▸ hacc) (not_accepted_fault fault)

theorem Delivers.escapes (h : client.Delivers identity artifact reply made result left)
    (hfails : FailsAt reply n fault) (hescapes : Escapes artifact n fault) :
    result = .error (.transport fault) := by
  obtain ⟨rfl, hsystem, hthere⟩ := hescapes
  cases h with
  | missing hcontent =>
    rw [hcontent] at hthere
    cases hthere
  | notUploaded _ hupload => exact absurd (hupload.error_of_failsAt hfails).1 (by decide)
  | notAnnounced _ _ _ hexplains =>
    rw [hexplains fault hfails.unanswered, ClientError.unanswered_system _ hsystem]
    rfl
  | done _ _ hacc => exact absurd (hfails.unanswered ▸ hacc) (not_accepted_fault fault)

end Client

/-! ### Deliveries -/

/-- **Main theorem.** On a console that takes what it shows, a delivery with a report and a package
survives a request that gets no answer: it answers false, and the session's error says that the
upload failed. The exception is an error of the system at the announcement, with which the delivery
itself fails. -/
theorem deliverScan_survives_trouble {console : Console} {client : Client} {verbose : Bool}
    {settings : Settings} {context : Option Repository} {fault : Option PackagingFault}
    {s s' : DeliveryState} {answer : Except Failure Bool} {report : Report} {kept : ScanData}
    {artifact : Artifact} {n : Nat} {trouble : TransportFault}
    (h : deliverScanOn console client verbose settings context fault s = (answer, s'))
    (htakes : console.Takes
      (Log.shown verbose (deliveryCalls client settings context fault s)))
    (hreport : s.scan.reportToSend settings context = .ok (report, kept))
    (hpackage : (s.area.package fault report).1 = .ok artifact)
    (hfails : FailsAt s.conversation.reply n trouble) (hexpected : trouble.IsExpected) :
    (¬ Escapes artifact n trouble →
      answer = .ok false ∧ s'.sessionError = some "Report upload failed.") ∧
    (Escapes artifact n trouble →
      answer = .error (.transport trouble) ∧ s'.sessionError = s.sessionError) := by
  rw [deliverScanOn_of_takes htakes] at h
  cases deliverScan_run h with
  | unreported hother | unassembled hother =>
    rw [hreport] at hother
    cases hother
  | unpackaged hsame hother | unwritten hsame hother | tooDeep hsame hother =>
    rw [hreport] at hsame
    cases hsame
    rw [hother] at hpackage
    cases hpackage
  | sent hsame hmade hways _ _ _ hend =>
    rw [hreport] at hsame
    cases hsame
    rw [hmade] at hpackage
    cases hpackage
    refine ⟨fun hkept => ?_, fun hescapes => ?_⟩
    · obtain ⟨error, rfl⟩ := hways.survives hfails hexpected hkept
      cases hend with
      | failed hmessage => exact ⟨rfl, hmessage⟩
      | escaped hother => exact absurd rfl (hother error)
    · obtain rfl := hways.escapes hfails hescapes
      cases hend with
      | escaped _ hkept => exact ⟨rfl, hkept⟩

/-! ### Errors of the system -/

def sampleTrouble : TransportFault := ⟨.system, "no buffer space"⟩

/-- The collector's first `n` answers, and then an error of the system. -/
def troubledStart (n : Nat) : DeliveryState :=
  { sampleStart with conversation := {
      replies := sampleStart.conversation.replies.take n ++ [.fault sampleTrouble] } }

theorem troubledStart_packaged (n : Nat) : ∃ report kept artifact,
    (troubledStart n).scan.reportToSend sampleSettings (some sampleContext) = .ok (report, kept) ∧
      ((troubledStart n).area.package none report).1 = .ok artifact ∧ artifact.content.isSome := by
  show ∃ report kept artifact,
    sampleStart.scan.reportToSend sampleSettings (some sampleContext) = .ok (report, kept) ∧
      (sampleStart.area.package none report).1 = .ok artifact ∧ artifact.content.isSome
  have hpackaged : (sampleStart.scan.reportToSend sampleSettings (some sampleContext)).toOption.any
      (fun sent => (sampleStart.area.package none sent.1).1.toOption.any
        fun artifact => artifact.content.isSome) = true := by
    decide +kernel
  rcases hreport : sampleStart.scan.reportToSend sampleSettings (some sampleContext) with
    _ | ⟨report, kept⟩
  · rw [hreport] at hpackaged
    cases hpackaged
  · rw [hreport] at hpackaged
    replace hpackaged : ((sampleStart.area.package none report).1.toOption.any
        fun artifact => artifact.content.isSome) = true := hpackaged
    rcases hpackage : (sampleStart.area.package none report).1 with _ | artifact
    · rw [hpackage] at hpackaged
      cases hpackaged
    · rw [hpackage] at hpackaged
      exact ⟨report, kept, artifact, rfl, hpackage, hpackaged⟩

theorem failsAt_troubledStart {n : Nat} (h : n < 3) :
    FailsAt (troubledStart n).conversation.reply n sampleTrouble := by
  have hoffer : ∃ offer, (sampleStart.conversation.reply 0).Offers offer := by
    have hsome : (sampleStart.conversation.reply 0).offer?.isSome = true := by decide +kernel
    obtain ⟨offer, hoffer⟩ := Option.isSome_iff_exists.1 hsome
    exact ⟨offer, Reply.offers_iff.2 hoffer⟩
  match n, h with
  | 0, _ => exact ⟨by decide, rfl, by simp, by simp⟩
  | 1, _ => exact ⟨by decide, rfl, fun _ => hoffer, by simp⟩
  | 2, _ => exact ⟨by decide, rfl, fun _ => hoffer, fun _ => rfl⟩

/-- At the upload the error is survived, at the announcement it is not. -/
theorem sampleTrouble_survived :
    (∃ s', deliverScanOn .obliging sampleClient true sampleSettings (some sampleContext) none
        (troubledStart 1) = (.ok false, s') ∧
      FailsAt (troubledStart 1).conversation.reply 1 sampleTrouble ∧ sampleTrouble.IsExpected ∧
      s'.sessionError = some "Report upload failed.") ∧
    ∃ s', deliverScanOn .obliging sampleClient true sampleSettings (some sampleContext) none
        (troubledStart 2) = (.error (.transport sampleTrouble), s') ∧
      FailsAt (troubledStart 2).conversation.reply 2 sampleTrouble ∧ sampleTrouble.IsExpected ∧
      s'.sessionError = some [] := by
  have hexpected : sampleTrouble.IsExpected := .inr rfl
  constructor
  · obtain ⟨report, kept, artifact, hreport, hpackage, -⟩ := troubledStart_packaged 1
    have hfails := failsAt_troubledStart (n := 1) (by decide)
    have hkept : ¬ Escapes artifact 1 sampleTrouble := by
      rintro ⟨hlast, -⟩
      cases hlast
    rcases hrun : deliverScanOn .obliging sampleClient true sampleSettings (some sampleContext) none
      (troubledStart 1) with ⟨answer, s'⟩
    obtain ⟨rfl, herror⟩ := (deliverScan_survives_trouble hrun (Console.takes_obliging _) hreport
      hpackage hfails hexpected).1 hkept
    exact ⟨s', rfl, hfails, hexpected, herror⟩
  · obtain ⟨report, kept, artifact, hreport, hpackage, hthere⟩ := troubledStart_packaged 2
    have hfails := failsAt_troubledStart (n := 2) (by decide)
    rcases hrun : deliverScanOn .obliging sampleClient true sampleSettings (some sampleContext) none
      (troubledStart 2) with ⟨answer, s'⟩
    obtain ⟨rfl, herror⟩ := (deliverScan_survives_trouble hrun (Console.takes_obliging _) hreport
      hpackage hfails hexpected).2 ⟨rfl, rfl, hthere⟩
    exact ⟨s', rfl, hfails, hexpected, herror⟩

/-- Not every trouble that a delivery is meant to survive is survived, even if the console takes
everything. -/
theorem systemError_escapes_announcement :
    ¬ ∀ (client : Client) (verbose : Bool) (settings : Settings) (context : Option Repository)
      (fault : Option PackagingFault) (s : DeliveryState) (report : Report) (kept : ScanData)
      (artifact : Artifact) (n : Nat) (trouble : TransportFault),
      s.scan.reportToSend settings context = .ok (report, kept) →
      (s.area.package fault report).1 = .ok artifact →
      FailsAt s.conversation.reply n trouble → trouble.IsExpected →
      (deliverScanOn .obliging client verbose settings context fault s).1 = .ok false ∧
        (deliverScanOn .obliging client verbose settings context fault s).2.sessionError =
          some "Report upload failed." := by
  intro hall
  obtain ⟨report, kept, artifact, hreport, hpackage, -⟩ := troubledStart_packaged 2
  have hanswer := (hall sampleClient true sampleSettings (some sampleContext) none (troubledStart 2)
    report kept artifact 2 sampleTrouble hreport hpackage (failsAt_troubledStart (by decide))
    (.inr rfl)).1
  have hfails : (deliverScanOn .obliging sampleClient true sampleSettings (some sampleContext) none
      (troubledStart 2)).1.toOption = none := by
    decide +kernel
  rw [hanswer] at hfails
  cases hfails

end ReportDelivery
