import Mathlib.Data.List.Forall2
import ReportDelivery.Proofs.Collector.Exchange
import ReportDelivery.Proofs.Console
import ReportDelivery.Proofs.Log

/-! What a delivery says, and what it does not depend on.

All that a delivery says is for debugging (`deliveryCalls`). A verbose one comes to the same as a
quiet one, but for the log: `deliverScan_eq`. What temporary directories and files are called shows
in such messages and in the request for an offer, and nowhere else: `deliverScan_renamed`. -/
namespace ReportDelivery

/-! ### What is said -/

/-- The last call of a delivery, by what the client ended with. -/
def endCalls (identity : Identity) : Except Failure Unit → List LogCall
  | .ok _ => [⟨.debug, "Report delivered with signed id " ++ identity.signedId.display⟩]
  | .error (.report error) => [⟨.debug, "error sending report to collector: " ++ error.message⟩]
  | .error _ => []

/-- The calls of a delivery that has a package. -/
def artifactCalls (client : Client) (report : Report) (artifact : Artifact) (c : Conversation) :
    List LogCall :=
  let (result, identity, _) := client.deliver report.identity artifact c
  ⟨.debug, "Report packaged at " ++ artifact.path⟩ :: endCalls identity result

/-- The calls of a delivery that has a report. -/
def reportCalls (client : Client) (fault : Option PackagingFault) (report : Report)
    (s : DeliveryState) : List LogCall :=
  match (s.area.package fault report).1 with
  | .ok artifact => artifactCalls client report artifact s.conversation
  | .error (.packaging error _) => [⟨.debug, "error creating report: " ++ error.message⟩]
  | .error (.unwritable _) | .error .tooDeep => []

/-- The calls of a delivery. -/
def deliveryCalls (client : Client) (settings : Settings) (context : Option Repository)
    (fault : Option PackagingFault) (s : DeliveryState) : List LogCall :=
  match s.scan.reportToSend settings context with
  | .ok (report, _) => reportCalls client fault report s
  | .error (.report error) => [⟨.debug, identityMessage error⟩]
  | .error _ => []

theorem DeliveryState.debug_quiet (s : DeliveryState) (message : Text) :
    s.debug false message = s := by
  have hnone : Log.entries false .debug message = [] := rfl
  rw [debug, hnone, List.append_nil]

section
variable (client : Client) (verbose : Bool) (settings : Settings) (context : Option Repository)
  (fault : Option PackagingFault)

theorem deliverArtifact_eq (report : Report) (artifact : Artifact) (s : DeliveryState) :
    deliverArtifact client verbose report artifact s =
      let quiet := deliverArtifact client false report artifact s
      let calls := artifactCalls client report artifact s.conversation
      (quiet.1, { quiet.2 with log := s.log ++ Log.shown verbose calls }) := by
  have hspoken : (s.debug verbose ("Report packaged at " ++ artifact.path)).conversation =
      s.conversation := rfl
  rcases hdeliver : client.deliver report.identity artifact s.conversation with
    ⟨result, identity, c⟩
  simp only [deliverArtifact_def, artifactCalls, DeliveryState.debug_quiet, hspoken, hdeliver,
    Log.shown_cons, ← List.append_assoc]
  rcases result with failure | _
  · cases failure with
    | report error =>
      rw [endCalls, Log.shown_singleton]
      rfl
    | _ =>
      dsimp only [endCalls]
      rw [Log.shown_nil, List.append_nil]
      rfl
  · rw [endCalls, Log.shown_singleton]
    rfl

theorem deliverReport_eq (report : Report) (s : DeliveryState) :
    deliverReport client verbose fault report s =
      let quiet := deliverReport client false fault report s
      let calls := reportCalls client fault report s
      (quiet.1, { quiet.2 with log := s.log ++ Log.shown verbose calls }) := by
  simp only [deliverReport_def, reportCalls]
  rcases s.area.package fault report with ⟨stop | artifact, area⟩
  · cases stop with
    | unwritable | tooDeep => simp only [Log.shown_nil, List.append_nil]
    | packaging error directory =>
      simp only [DeliveryState.debug_quiet, Log.shown_singleton]
      cases directory <;> rfl
  · exact deliverArtifact_eq client verbose report artifact { s with area }

/-- Verbose or not, a delivery comes to the same, but for what it says. -/
theorem deliverScan_eq (s : DeliveryState) :
    deliverScan client verbose settings context fault s =
      let quiet := deliverScan client false settings context fault s
      let calls := deliveryCalls client settings context fault s
      (quiet.1, { quiet.2 with log := s.log ++ Log.shown verbose calls }) := by
  simp only [deliverScan_def, deliveryCalls]
  rcases s.scan.reportToSend settings context with failure | ⟨report, scan⟩
  · cases failure with
    | report error =>
      simp only [DeliveryState.debug_quiet, Log.shown_singleton]
      rfl
    | _ => simp only [Log.shown_nil, List.append_nil]
  · exact deliverReport_eq client verbose fault report { s with scan }

theorem deliverScan_log (s : DeliveryState) :
    (deliverScan client verbose settings context fault s).2.log =
      s.log ++ Log.shown verbose (deliveryCalls client settings context fault s) := by
  rw [deliverScan_eq]

end

/-! ### Other names -/

/-- The area under other names. -/
def TempArea.renamed (area : TempArea) (root : Text) (label : Nat → Text) : TempArea :=
  { area with root, label }

/-- Requests that differ at most in the name of the `n`-th package, which is in the description for
which an offer is asked. -/
inductive Request.SameButName (path path' : Nat → Text) : Request → Request → Prop
  | same (request : Request) : SameButName path path' request request
  | offer (client : Client) (file : UploadFile) (body : Bytes) (n : Nat) :
      SameButName path path' (client.offerRequest { file with path := path n } body)
        (client.offerRequest { file with path := path' n } body)

/-- Conversations with the same replies to come, and requests that are the same but for names. -/
structure Conversation.SameButNames (path path' : Nat → Text) (c c' : Conversation) : Prop where
  replies : c.replies = c'.replies
  requests : List.Forall₂ (Request.SameButName path path') c.requests c'.requests

/-- What packaging gives is the same but for the path, or for a message that has it. -/
inductive PackagedAlike (path path' : Nat → Text) :
    Except PackagingStop Artifact → Except PackagingStop Artifact → Prop
  | artifact (n : Nat) (content : Option Bytes) : PackagedAlike path path'
      (.ok ⟨n, path n, content⟩) (.ok ⟨n, path' n, content⟩)
  | packaging (error error' : PackagingError) (directory : Option Nat) : PackagedAlike path path'
      (.error (.packaging error directory)) (.error (.packaging error' directory))
  | unwritable (error : CoercionError) : PackagedAlike path path'
      (.error (.unwritable error)) (.error (.unwritable error))
  | tooDeep : PackagedAlike path path' (.error .tooDeep) (.error .tooDeep)

/-- The client ends alike: the same but for the message of a problem that is expected. -/
inductive EndsAlike : Except Failure Unit → Except Failure Unit → Prop
  | same (result : Except Failure Unit) : EndsAlike result result
  | report (error error' : ReportError) :
      EndsAlike (.error (.report error)) (.error (.report error'))

section
variable {path path' : Nat → Text} {c c' : Conversation}

theorem Conversation.SameButNames.refl (c : Conversation) : c.SameButNames path path' c :=
  ⟨rfl, List.forall₂_same.2 fun request _ => .same request⟩

theorem Conversation.SameButNames.reply (h : c.SameButNames path path' c') (n : Nat) :
    c.reply n = c'.reply n := by
  rw [Conversation.reply, h.replies]
  rfl

theorem Conversation.SameButNames.after (h : c.SameButNames path path' c')
    {made made' : List Request} (hmade : List.Forall₂ (Request.SameButName path path') made made') :
    (c.after made).SameButNames path path' (c'.after made') where
  replies := by
    rw [Conversation.after, Conversation.after, h.replies, hmade.length_eq]
  requests := List.rel_append h.requests hmade

namespace Client

variable (client : Client)

theorem upload_renamed (h : c.SameButNames path path' c') (file : UploadFile) {body : Bytes}
    (hbody : file.content = .ok body) (n : Nat) :
    ∃ result left left',
      client.upload { file with path := path n } c = (result, left) ∧
      client.upload { file with path := path' n } c' = (result, left') ∧
      left.SameButNames path path' left' := by
  let named (path : Nat → Text) : UploadFile := { file with path := path n }
  have hcontent (path : Nat → Text) : (named path).content = .ok body := hbody
  have hasked : (client.askOffer ((named path').offerRequest body) c').1 =
      (client.askOffer ((named path).offerRequest body) c).1 := by
    rw [askOffer_fst, askOffer_fst, h.reply]
  have hoffer : (client.offerRequest (named path) body).SameButName path path'
    (client.offerRequest (named path') body) := .offer client file body n
  rcases hask : (client.askOffer ((named path).offerRequest body) c).1 with error | offer
  · rw [hask] at hasked
    exact ⟨_, _, _, client.upload_of_error (hcontent path) hask,
      client.upload_of_error (hcontent path') hasked, h.after (.cons hoffer .nil)⟩
  · rw [hask] at hasked
    refine ⟨_, _, _, client.upload_of_offer (hcontent path) hask, ?_,
      h.after (.cons hoffer (.cons (.same _) .nil))⟩
    rw [h.reply]
    exact client.upload_of_offer (hcontent path') hasked

theorem announce_renamed (h : c.SameButNames path path' c') (identity : Identity) :
    ∃ result left left', client.announce identity c = (result, left) ∧
      client.announce identity c' = (result, left') ∧ left.SameButNames path path' left' := by
  refine ⟨_, _, _, by simp only [announce, request_eq]; rfl, ?_,
    h.after (.cons (.same (client.finishedRequest identity)) .nil)⟩
  simp only [announce, request_eq, h.reply]
  rfl

theorem deliver_renamed (h : c.SameButNames path path' c') (identity : Identity) (n : Nat)
    (content : Option Bytes) :
    ∃ result result' kept left left',
      client.deliver identity ⟨n, path n, content⟩ c = (result, kept, left) ∧
      client.deliver identity ⟨n, path' n, content⟩ c' = (result', kept, left') ∧
      EndsAlike result result' ∧ left.SameButNames path path' left' := by
  cases content with
  | none => exact ⟨_, _, _, _, _, rfl, rfl, .report _ _, h⟩
  | some content =>
    let artifact (path : Nat → Text) : Artifact := ⟨n, path n, some content⟩
    obtain ⟨uploaded, left, left', hupload, hupload', hleft⟩ :=
      client.upload_renamed h ((artifact path).uploadFile content) rfl n
    have hupload : client.upload ((artifact path).uploadFile content) c = (uploaded, left) :=
      hupload
    have hupload' : client.upload ((artifact path').uploadFile content) c' = (uploaded, left') :=
      hupload'
    simp only [deliver, artifact] at hupload hupload' ⊢
    rw [hupload, hupload']
    cases uploaded with
    | error error =>
      dsimp only
      split
      · exact ⟨_, _, _, _, _, rfl, rfl, .report _ _, hleft⟩
      · exact ⟨_, _, _, _, _, rfl, rfl, .same _, hleft⟩
    | ok offer =>
      obtain ⟨announced, left, left', hannounce, hannounce', hleft⟩ :=
        client.announce_renamed hleft { identity with signedId := .str offer.signedId }
      simp only [hannounce, hannounce']
      rcases announced with error | _
      · cases error <;> exact ⟨_, _, _, _, _, rfl, rfl, .same _, hleft⟩
      · exact ⟨_, _, _, _, _, rfl, rfl, .same _, hleft⟩

end Client
end

/-! ### Deliveries under other names -/

theorem TempArea.writeArtifact_alike (area area' : TempArea) (n : Nat)
    (fault : Option PackagingFault) (report : Report) :
    PackagedAlike area.filePath area'.filePath (area.writeArtifact n fault report)
      (area'.writeArtifact n fault report) := by
  unfold writeArtifact
  split
  · exact .packaging _ _ _
  · split
    · exact .unwritable _
    · exact .tooDeep
    · exact .packaging _ _ _
    · exact .packaging _ _ _
    · split
      · exact .packaging _ _ _
      · exact .artifact _ _
      · exact .artifact _ _

/-- States that are the same but for names. -/
structure DeliveryState.SameButNames (path path' : Nat → Text) (s s' : DeliveryState) : Prop where
  scan : s.scan = s'.scan
  sessionError : s.sessionError = s'.sessionError
  directories : s.area.existing = s'.area.existing
  conversation : s.conversation.SameButNames path path' s'.conversation
  log : s.log = s'.log

/-- The state with other names. -/
def DeliveryState.renamed (s : DeliveryState) (root : Text) (label : Nat → Text) : DeliveryState :=
  { s with area := s.area.renamed root label }

section
variable (root : Text) (label : Nat → Text) (client : Client) (settings : Settings)
  (context : Option Repository) (fault : Option PackagingFault)

theorem TempArea.package_renamed (area : TempArea) (report : Report) :
    ∃ packaged packaged' left, area.package fault report = (packaged, left) ∧
      (area.renamed root label).package fault report = (packaged', left.renamed root label) ∧
      PackagedAlike area.filePath (area.renamed root label).filePath packaged packaged' := by
  unfold package
  split
  · exact ⟨_, _, _, rfl, rfl, .packaging _ _ _⟩
  · exact ⟨_, _, _, rfl, rfl, writeArtifact_alike area.add.2 (area.renamed root label).add.2 _ _ _⟩

theorem deliverArtifact_renamed (path path' : Nat → Text) (report : Report) (n : Nat)
    (content : Option Bytes) (s : DeliveryState) :
    ∃ answer left left',
      deliverArtifact client false report ⟨n, path n, content⟩ s = (answer, left) ∧
      deliverArtifact client false report ⟨n, path' n, content⟩ (s.renamed root label) =
        (answer, left') ∧
      left.SameButNames path path' left' := by
  have hstart : s.conversation.SameButNames path path' s.conversation := .refl s.conversation
  obtain ⟨result, result', identity, c, c', hdeliver, hdeliver', hends, hleft⟩ :=
    client.deliver_renamed hstart report.identity n content
  have hsame : (s.renamed root label).conversation = s.conversation := rfl
  simp only [deliverArtifact_def, DeliveryState.debug_quiet, hsame, hdeliver, hdeliver']
  cases hends with
  | same =>
    rcases result with failure | _
    · cases failure <;> exact ⟨_, _, _, rfl, rfl, rfl, rfl, rfl, hleft, rfl⟩
    · exact ⟨_, _, _, rfl, rfl, rfl, rfl, rfl, hleft, rfl⟩
  | report => exact ⟨_, _, _, rfl, rfl, rfl, rfl, rfl, hleft, rfl⟩

theorem deliverReport_renamed (report : Report) (s : DeliveryState) :
    ∃ answer left left', deliverReport client false fault report s = (answer, left) ∧
      deliverReport client false fault report (s.renamed root label) = (answer, left') ∧
      left.SameButNames s.area.filePath (s.renamed root label).area.filePath left' := by
  obtain ⟨packaged, packaged', area, hpackage, hpackage', halike⟩ :=
    s.area.package_renamed root label fault report
  have hpackage' : (s.renamed root label).area.package fault report =
    (packaged', area.renamed root label) := hpackage'
  simp only [deliverReport_def, hpackage, hpackage']
  cases halike with
  | artifact n content =>
    exact deliverArtifact_renamed root label client s.area.filePath _ report n content
      { s with area }
  | packaging error error' directory =>
    simp only [DeliveryState.debug_quiet]
    cases directory <;> exact ⟨_, _, _, rfl, rfl, rfl, rfl, rfl, .refl _, rfl⟩
  | unwritable | tooDeep => exact ⟨_, _, _, rfl, rfl, rfl, rfl, rfl, .refl _, rfl⟩

/-- A quiet delivery goes the same way under other names. -/
theorem deliverScan_renamed (s : DeliveryState) :
    ∃ answer left left', deliverScan client false settings context fault s = (answer, left) ∧
      deliverScan client false settings context fault (s.renamed root label) = (answer, left') ∧
      left.SameButNames s.area.filePath (s.renamed root label).area.filePath left' := by
  have hscan : (s.renamed root label).scan = s.scan := rfl
  simp only [deliverScan_def, hscan]
  rcases s.scan.reportToSend settings context with failure | ⟨report, scan⟩
  · cases failure with
    | report error =>
      simp only [DeliveryState.debug_quiet]
      exact ⟨_, _, _, rfl, rfl, rfl, rfl, rfl, .refl _, rfl⟩
    | _ => exact ⟨_, _, _, rfl, rfl, rfl, rfl, rfl, .refl _, rfl⟩
  · exact deliverReport_renamed root label client fault report { s with scan }

end

end ReportDelivery
