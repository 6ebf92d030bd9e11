import Mathlib.Data.List.Forall2
import ReportDelivery.Proofs.Collector.Exchange
import ReportDelivery.Proofs.Console

/-! The API key reaches only the collector.

Two deliveries whose clients differ in the key alone go the same way: they are given the same
replies, and no reply and no decision depends on the key. `deliverScan_keeps_key` says that they end
alike and make the same requests, but for the key itself where a request is posted to the collector.
The upload goes to wherever the offer says, and knows nothing of the key. -/
namespace ReportDelivery

/-! ### Alike up to the key -/

/-- Requests that differ in the key at most. An upload has no key, and a request to the collector
has it in one place. -/
inductive Request.Alike (key key' : Text) : Request → Request → Prop
  | put {request : Request} (hput : request.method = .put) : Alike key key' request request
  | post (url : Text) (timeout : Setting Seconds) (userAgent : Text) (payload : Payload) :
      Alike key key'
        ⟨.post, url, timeout, [("Authorization", key), ("User-Agent", userAgent)], payload⟩
        ⟨.post, url, timeout, [("Authorization", key'), ("User-Agent", userAgent)], payload⟩

/-- Conversations with the same replies to come. Since `before` the requests are alike one by
one. -/
structure Conversation.Alike (key key' : Text) (before : List Request) (c c' : Conversation) :
    Prop where
  replies : c.replies = c'.replies
  requests : ∃ made made', c.requests = before ++ made ∧ c'.requests = before ++ made' ∧
    List.Forall₂ (Request.Alike key key') made made'

/-- States in which nothing but the conversation knows which key was used. -/
structure DeliveryState.Alike (key key' : Text) (before : List Request) (s s' : DeliveryState) :
    Prop where
  scan : s.scan = s'.scan
  sessionError : s.sessionError = s'.sessionError
  area : s.area = s'.area
  log : s.log = s'.log
  conversation : s.conversation.Alike key key' before s'.conversation

variable {key key' : Text} {before : List Request} {c c' : Conversation}

theorem Request.Alike.url {request request' : Request} (h : request.Alike key key' request') :
    request.url = request'.url := by
  cases h <;> rfl

theorem Conversation.Alike.refl (c : Conversation) : c.Alike key key' c.requests c :=
  ⟨rfl, [], [], (List.append_nil _).symm, (List.append_nil _).symm, .nil⟩

theorem DeliveryState.Alike.refl (s : DeliveryState) {requests : List Request}
    (h : s.conversation.requests = requests) : s.Alike key key' requests s :=
  ⟨rfl, rfl, rfl, rfl, h ▸ .refl s.conversation⟩

/-! ### One request -/

theorem Conversation.Alike.reply (h : c.Alike key key' before c') (n : Nat) :
    c.reply n = c'.reply n := by
  rw [Conversation.reply, h.replies]
  rfl

theorem Conversation.Alike.after (h : c.Alike key key' before c') {request request' : Request}
    (hrequest : request.Alike key key' request') :
    (c.after [request]).Alike key key' before (c'.after [request']) := by
  obtain ⟨made, made', hmade, hmade', hall⟩ := h.requests
  refine ⟨congrArg (List.drop 1) h.replies, made ++ [request], made' ++ [request'], ?_, ?_,
    List.rel_append hall (.cons hrequest .nil)⟩
  · rw [Conversation.after, hmade, List.append_assoc]
  · rw [Conversation.after, hmade', List.append_assoc]

/-- A request is answered without a look at the key. -/
theorem Conversation.Alike.request (h : c.Alike key key' before c') {request request' : Request}
    (hrequest : request.Alike key key' request') :
    ∃ answer left left', Client.request request c = (answer, left) ∧
      Client.request request' c' = (answer, left') ∧ left.Alike key key' before left' := by
  refine ⟨_, _, _, Client.request_eq request c, ?_, h.after hrequest⟩
  rw [Client.request_eq, h.reply, hrequest.url]

/-! ### Deliveries of a package -/

namespace Client

/-- The client under another key. -/
def withKey (client : Client) (key : Text) : Client := { client with apiKey := key }

variable (client : Client)

theorem postRequest_alike (path : Text) (v : Value) :
    (client.postRequest path v).Alike client.apiKey key'
      ((client.withKey key').postRequest path v) :=
  .post _ _ _ _

theorem askOffer_alike (h : c.Alike client.apiKey key' before c') (r : OfferRequest) :
    ∃ answer left left', client.askOffer r c = (answer, left) ∧
      (client.withKey key').askOffer r c' = (answer, left') ∧
      left.Alike client.apiKey key' before left' := by
  obtain ⟨answer, left, left', hrequest, hrequest', hleft⟩ :=
    h.request (client.postRequest_alike offerPath r.toValue)
  exact ⟨_, left, left', by rw [askOffer, hrequest], by rw [askOffer, hrequest'], hleft⟩

theorem putBody_alike (h : c.Alike client.apiKey key' before c') (url : Text) (body : Bytes)
    (headers : Headers) :
    ∃ answer left left', client.putBody url body headers c = (answer, left) ∧
      (client.withKey key').putBody url body headers c' = (answer, left') ∧
      left.Alike client.apiKey key' before left' := by
  have hput : (client.putRequest url body headers).Alike client.apiKey key'
      ((client.withKey key').putRequest url body headers) := .put rfl
  obtain ⟨answer, left, left', hrequest, hrequest', hleft⟩ := h.request hput
  exact ⟨_, left, left', by rw [putBody, hrequest], by rw [putBody, hrequest'], hleft⟩

theorem announce_alike (h : c.Alike client.apiKey key' before c') (identity : Identity) :
    ∃ answer left left', client.announce identity c = (answer, left) ∧
      (client.withKey key').announce identity c' = (answer, left') ∧
      left.Alike client.apiKey key' before left' := by
  obtain ⟨answer, left, left', hrequest, hrequest', hleft⟩ :=
    h.request (client.postRequest_alike finishedPath identity.toValue)
  exact ⟨_, left, left', by rw [announce, hrequest], by rw [announce, hrequest'], hleft⟩

theorem upload_alike (h : c.Alike client.apiKey key' before c') (file : UploadFile) :
    ∃ result left left', client.upload file c = (result, left) ∧
      (client.withKey key').upload file c' = (result, left') ∧
      left.Alike client.apiKey key' before left' := by
  unfold upload
  cases file.content with
  | error error => exact ⟨_, _, _, rfl, rfl, h⟩
  | ok body =>
    obtain ⟨asked, left, left', hask, hask', hleft⟩ :=
      client.askOffer_alike h (file.offerRequest body)
    simp only [hask, hask']
    cases asked with
    | error error => exact ⟨_, _, _, rfl, rfl, hleft⟩
    | ok offer =>
      obtain ⟨put, left, left', hput, hput', hleft⟩ :=
        client.putBody_alike hleft offer.presignedUrl body (file.headers body offer)
      simp only [hput, hput']
      cases put <;> exact ⟨_, _, _, rfl, rfl, hleft⟩

theorem deliver_alike (h : c.Alike client.apiKey key' before c') (identity : Identity)
    (artifact : Artifact) :
    ∃ result kept left left', client.deliver identity artifact c = (result, kept, left) ∧
      (client.withKey key').deliver identity artifact c' = (result, kept, left') ∧
      left.Alike client.apiKey key' before left' := by
  unfold deliver
  cases artifact.content with
  | none => exact ⟨_, _, _, _, rfl, rfl, h⟩
  | some content =>
    obtain ⟨uploaded, left, left', hupload, hupload', hleft⟩ :=
      client.upload_alike h (artifact.uploadFile content)
    simp only [hupload, hupload']
    cases uploaded with
    | error error => exact ⟨_, _, _, _, rfl, rfl, hleft⟩
    | ok offer =>
      obtain ⟨announced, left, left', hannounce, hannounce', hleft⟩ :=
        client.announce_alike hleft { identity with signedId := .str offer.signedId }
      simp only [hannounce, hannounce']
      rcases announced with error | _
      · cases error <;> exact ⟨_, _, _, _, rfl, rfl, hleft⟩
      · exact ⟨_, _, _, _, rfl, rfl, hleft⟩

end Client

/-! ### Deliveries -/

section
variable (client : Client) (verbose : Bool)

theorem deliverArtifact_alike (report : Report) (artifact : Artifact) (s : DeliveryState) :
    ∃ answer left left', deliverArtifact client verbose report artifact s = (answer, left) ∧
      deliverArtifact (client.withKey key') verbose report artifact s = (answer, left') ∧
      left.Alike client.apiKey key' s.conversation.requests left' := by
  have hstart : s.conversation.Alike client.apiKey key' s.conversation.requests s.conversation :=
    .refl s.conversation
  obtain ⟨result, identity, left, left', hdeliver, hdeliver', hleft⟩ :=
    client.deliver_alike hstart report.identity artifact
  have hdebug : (s.debug verbose ("Report packaged at " ++ artifact.path)).conversation =
      s.conversation := rfl
  simp only [deliverArtifact_def, hdebug, hdeliver, hdeliver']
  rcases result with failure | _
  · cases failure <;> exact ⟨_, _, _, rfl, rfl, rfl, rfl, rfl, rfl, hleft⟩
  · exact ⟨_, _, _, rfl, rfl, rfl, rfl, rfl, rfl, hleft⟩

/-- Until there is a package, no client is asked for anything. -/
theorem deliverReport_alike (fault : Option PackagingFault) (report : Report)
    (s : DeliveryState) :
    ∃ answer left left', deliverReport client verbose fault report s = (answer, left) ∧
      deliverReport (client.withKey key') verbose fault report s = (answer, left') ∧
      left.Alike client.apiKey key' s.conversation.requests left' := by
  simp only [deliverReport_def]
  rcases s.area.package fault report with ⟨stop | artifact, area⟩
  · cases stop with
    | unwritable | tooDeep => exact ⟨_, _, _, rfl, rfl, .refl _ rfl⟩
    | packaging error directory =>
      cases directory <;> exact ⟨_, _, _, rfl, rfl, .refl _ rfl⟩
  · exact deliverArtifact_alike client verbose report artifact { s with area }

theorem deliverScan_alike (settings : Settings) (context : Option Repository)
    (fault : Option PackagingFault) (s : DeliveryState) :
    ∃ answer left left',
      deliverScan client verbose settings context fault s = (answer, left) ∧
      deliverScan (client.withKey key') verbose settings context fault s = (answer, left') ∧
      left.Alike client.apiKey key' s.conversation.requests left' := by
  simp only [deliverScan_def]
  rcases s.scan.reportToSend settings context with failure | ⟨report, scan⟩
  · cases failure <;> exact ⟨_, _, _, rfl, rfl, .refl _ rfl⟩
  · exact deliverReport_alike client verbose fault report { s with scan }

end

/-- **Main theorem.** Two deliveries under different keys, which are otherwise given the same, end
with the same answer and leave the same scan, session error, directories and log, and the same
replies. Their requests are the same one by one, except that those to the collector carry the key of
the client, without white space around it. -/
theorem deliverScan_keeps_key (key key' host userAgent : Text) (timeout : Setting Seconds)
    (verbose : Bool) (settings : Settings) (context : Option Repository)
    (fault : Option PackagingFault) (s : DeliveryState) :
    ∃ answer left left',
      deliverScan (.create key host userAgent timeout) verbose settings context fault s =
        (answer, left) ∧
      deliverScan (.create key' host userAgent timeout) verbose settings context fault s =
        (answer, left') ∧
      left.Alike key.strip key'.strip s.conversation.requests left' :=
  deliverScan_alike (.create key host userAgent timeout) verbose settings context fault s

end ReportDelivery
