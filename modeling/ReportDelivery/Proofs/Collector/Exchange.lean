import ReportDelivery.Delivery.Deliver

/-! What the client's requests come to.

The replies of a conversation are numbered from the next request on, so every step of the client
has a closed form: which requests it has made, and which replies it looked at. `upload_spec` lists
all the ways an upload can go. A request without an answer fails with the fault that kept it from
one (`Explains`); which error another reply gives matters to nobody here. -/
namespace ReportDelivery

/-! ### Replies and offers -/

/-- The answer, if it has a status below 400. -/
def Reply.answer? : Reply → Option Answer
  | .response status answer => if status < 400 then some answer else none
  | .fault _ => none

/-- An answer with a status below 400. -/
def Reply.Accepted (reply : Reply) : Prop := reply.answer?.isSome

/-- An accepted answer whose body is an acceptable offer. -/
def Reply.Offers (reply : Reply) (offer : Offer) : Prop :=
  ∃ answer, reply.answer? = some answer ∧ Offer.read answer = .ok offer

/-- The offer in a reply, if it is an acceptable one. -/
def Reply.offer? (reply : Reply) : Option Offer :=
  reply.answer?.bind fun answer => (Offer.read answer).toOption

theorem Reply.offers_iff {reply : Reply} {offer : Offer} :
    reply.Offers offer ↔ reply.offer? = some offer := by
  rw [Reply.Offers, Reply.offer?]
  simp only [Option.bind_eq_some_iff]
  refine exists_congr fun answer => and_congr_right fun _ => ?_
  cases Offer.read answer with
  | ok other => exact ⟨by rintro ⟨⟩; rfl, by rintro ⟨⟩; rfl⟩
  | error problem => exact ⟨nofun, nofun⟩

theorem Reply.Offers.accepted {reply : Reply} {offer : Offer} (h : reply.Offers offer) :
    reply.Accepted := by
  obtain ⟨answer, hanswer, _⟩ := h
  simp [Reply.Accepted, hanswer]

/-- What a request that got no answer fails with. -/
def ClientError.unanswered (url : Text) (fault : TransportFault) : ClientError :=
  if fault.trouble.isExchange then .collector (.network url fault) else .transport fault

/-- If the reply is a fault, the error is that fault's. -/
def Reply.Explains (reply : Reply) (url : Text) (error : ClientError) : Prop :=
  ∀ fault, reply = .fault fault → error = .unanswered url fault

namespace Conversation

/-- What the `n`-th request from here on is answered with. -/
def reply (c : Conversation) (n : Nat) : Reply :=
  c.replies[n]?.getD (.fault ⟨.connection, "no connection"⟩)

/-- The conversation once more requests have been made. -/
def after (c : Conversation) (made : List Request) : Conversation :=
  ⟨c.replies.drop made.length, c.requests ++ made⟩

theorem after_nil (c : Conversation) : c.after [] = c := by
  simp [after]

theorem after_after (c : Conversation) (a b : List Request) :
    (c.after a).after b = c.after (a ++ b) := by
  simp [after]

theorem reply_after (c : Conversation) (made : List Request) (n : Nat) :
    (c.after made).reply n = c.reply (made.length + n) := by
  simp [after, reply]

theorem ask_eq (c : Conversation) (r : Request) : c.ask r = (c.reply 0, c.after [r]) := by
  obtain ⟨replies, requests⟩ := c
  cases replies <;> rfl

end Conversation

namespace Client

theorem accept_eq (url : Text) (reply : Reply) :
    (∃ answer, reply.answer? = some answer ∧ accept url reply = .ok answer) ∨
      (reply.answer? = none ∧ ∃ error, reply.Explains url error ∧
        accept url reply = .error error) := by
  cases reply with
  | fault f => exact .inr ⟨rfl, .unanswered url f, by rintro _ ⟨⟩; rfl, rfl⟩
  | response status answer =>
    by_cases h : status < 400
    · refine .inl ⟨answer, by simp [Reply.answer?, h], ?_⟩
      have h1 : ¬ status = 401 := by omega
      have h4 : ¬ 400 ≤ status := by omega
      simp [accept, h1, h4]
    · refine .inr ⟨by simp [Reply.answer?, h], ?_⟩
      have h4 : 400 ≤ status := by omega
      simp only [accept, h4, if_true]
      split <;> exact ⟨_, nofun, rfl⟩

/-- A reply is accepted exactly with a status below 400. -/
theorem accept_ok {url : Text} {reply : Reply} {answer : Answer} :
    accept url reply = .ok answer ↔ ∃ status, reply = .response status answer ∧ status < 400 := by
  constructor
  · intro h
    cases reply with
    | fault fault => cases h
    | response status answer =>
      simp only [accept] at h
      split at h
      · cases h
      · split at h
        · cases h
        · cases h
          exact ⟨status, rfl, by omega⟩
  · intro h
    obtain ⟨status, rfl, hlt⟩ := h
    have hunauthorized : ¬ status = 401 := by omega
    have hrefused : ¬ 400 ≤ status := by omega
    simp [accept, hunauthorized, hrefused]

theorem request_eq (r : Request) (c : Conversation) :
    request r c = (accept r.url (c.reply 0), c.after [r]) := by
  simp only [request, c.ask_eq]

/-! ### One request at a time -/

variable (client : Client)

/-- What comes of asking for an offer is in the reply alone. -/
theorem askOffer_fst (r : OfferRequest) (c : Conversation) :
    (client.askOffer r c).1 = (accept (client.host ++ offerPath) (c.reply 0)).bind fun answer =>
      (Offer.read answer).mapError .collector := by
  simp only [askOffer, request_eq]
  rfl

/-- Asking for an offer is one request, and there is an offer exactly if the reply offers one. -/
theorem askOffer_spec (r : OfferRequest) (c : Conversation) :
    ∃ result, client.askOffer r c = (result, c.after [client.postRequest offerPath r.toValue]) ∧
      ((∃ offer, (c.reply 0).Offers offer ∧ result = .ok offer) ∨
        ((∀ offer, ¬ (c.reply 0).Offers offer) ∧
          ∃ error, (c.reply 0).Explains (client.host ++ offerPath) error ∧
            result = .error error)) := by
  refine ⟨_, by simp only [askOffer, request_eq]; rfl, ?_⟩
  rcases accept_eq (client.postRequest offerPath r.toValue).url (c.reply 0) with
    ⟨answer, hanswer, hok⟩ | ⟨hnone, error, hexplains, herror⟩
  · rw [hok]
    cases hread : Offer.read answer with
    | ok offer =>
      exact .inl ⟨offer, ⟨answer, hanswer, hread⟩,
        congrArg (Except.mapError ClientError.collector) hread⟩
    | error problem =>
      refine .inr ⟨?_, .collector problem, ?_, congrArg (Except.mapError ClientError.collector) hread⟩
      · rintro offer ⟨other, hother, hoffer⟩
        rw [hanswer] at hother
        cases hother
        rw [hread] at hoffer
        cases hoffer
      · rintro fault hfault
        rw [hfault] at hanswer
        cases hanswer
  · rw [herror]
    refine .inr ⟨?_, error, hexplains, rfl⟩
    rintro offer ⟨answer, hanswer, _⟩
    rw [hnone] at hanswer
    cases hanswer

theorem askOffer_snd (r : OfferRequest) (c : Conversation) :
    (client.askOffer r c).2 = c.after [client.postRequest offerPath r.toValue] := by
  obtain ⟨asked, hask, -⟩ := client.askOffer_spec r c
  rw [hask]

/-- A request that only has to be accepted. -/
theorem accept_map {α : Type} (url : Text) (reply : Reply) (a : α) :
    (reply.Accepted ∧ (accept url reply).map (fun _ => a) = .ok a) ∨
      (¬ reply.Accepted ∧ ∃ error, reply.Explains url error ∧
        (accept url reply).map (fun _ => a) = .error error) := by
  rcases accept_eq url reply with ⟨answer, hanswer, hok⟩ | ⟨hnone, error, hexplains, herror⟩
  · exact .inl ⟨by simp [Reply.Accepted, hanswer], by rw [hok]; rfl⟩
  · exact .inr ⟨by simp [Reply.Accepted, hnone], error, hexplains, by rw [herror]; rfl⟩

theorem putBody_eq (url : Text) (body : Bytes) (headers : Headers) (c : Conversation) :
    client.putBody url body headers c =
      ((accept url (c.reply 0)).map fun _ => (), c.after [client.putRequest url body headers]) := by
  simp only [putBody, request_eq]
  rfl

theorem announce_spec (identity : Identity) (c : Conversation) :
    ∃ result, client.announce identity c =
        (result, c.after [client.postRequest finishedPath identity.toValue]) ∧
      (((c.reply 0).Accepted ∧ result = .ok ()) ∨
        (¬ (c.reply 0).Accepted ∧
          ∃ error, (c.reply 0).Explains (client.host ++ finishedPath) error ∧
            result = .error error)) :=
  ⟨_, by simp only [announce, request_eq]; rfl, accept_map _ _ ()⟩

/-! ### Uploads -/

/-- The request for a place for the file. -/
def offerRequest (file : UploadFile) (body : Bytes) : Request :=
  client.postRequest offerPath (file.offerRequest body).toValue

/-- The request that puts the file where the offer says. -/
def uploadRequest (file : UploadFile) (body : Bytes) (offer : Offer) : Request :=
  client.putRequest offer.presignedUrl body (file.headers body offer)

/-- The announcement of a finished scan. -/
def finishedRequest (identity : Identity) : Request :=
  client.postRequest finishedPath identity.toValue

/-- The ways an upload can go: the requests it makes, and what it ends with. -/
inductive Uploads (file : UploadFile) (body : Bytes) (reply : Nat → Reply) :
    List Request → Except ClientError Offer → Prop where
  | noOffer {error : ClientError} : (∀ offer, ¬ (reply 0).Offers offer) →
      (reply 0).Explains (client.host ++ offerPath) error →
      Uploads file body reply [client.offerRequest file body] (.error error)
  | refused {offer : Offer} {error : ClientError} : (reply 0).Offers offer → ¬ (reply 1).Accepted →
      (reply 1).Explains offer.presignedUrl error →
      Uploads file body reply
        [client.offerRequest file body, client.uploadRequest file body offer] (.error error)
  | done {offer : Offer} : (reply 0).Offers offer → (reply 1).Accepted →
      Uploads file body reply
        [client.offerRequest file body, client.uploadRequest file body offer] (.ok offer)

/-- Without an offer an upload ends where asking for one did. -/
theorem upload_of_error {file : UploadFile} {body : Bytes} (hbody : file.content = .ok body)
    {c : Conversation} {error : ClientError}
    (h : (client.askOffer (file.offerRequest body) c).1 = .error error) :
    client.upload file c = (.error error, c.after [client.offerRequest file body]) := by
  have hask : client.askOffer (file.offerRequest body) c =
      (.error error, c.after [client.offerRequest file body]) :=
    Prod.ext h (client.askOffer_snd _ _)
  simp only [upload, hbody, hask]

/-- With an offer the second reply decides. -/
theorem upload_of_offer {file : UploadFile} {body : Bytes} (hbody : file.content = .ok body)
    {c : Conversation} {offer : Offer}
    (h : (client.askOffer (file.offerRequest body) c).1 = .ok offer) :
    client.upload file c = ((accept offer.presignedUrl (c.reply 1)).map fun _ => offer,
      c.after [client.offerRequest file body, client.uploadRequest file body offer]) := by
  have hask : client.askOffer (file.offerRequest body) c =
      (.ok offer, c.after [client.offerRequest file body]) :=
    Prod.ext h (client.askOffer_snd _ _)
  have hput : client.putBody offer.presignedUrl body (file.headers body offer)
      (c.after [client.offerRequest file body]) =
        ((accept offer.presignedUrl (c.reply 1)).map fun _ => (),
          c.after [client.offerRequest file body, client.uploadRequest file body offer]) := by
    rw [putBody_eq, Conversation.reply_after, Conversation.after_after]
    rfl
  simp only [upload, hbody, hask, hput]
  cases accept offer.presignedUrl (c.reply 1) <;> rfl

theorem upload_spec (file : UploadFile) (body : Bytes) (hbody : file.content = .ok body)
    (c : Conversation) :
    ∃ made result, client.upload file c = (result, c.after made) ∧
      client.Uploads file body c.reply made result := by
  obtain ⟨asked, hask, hcases⟩ := client.askOffer_spec (file.offerRequest body) c
  have hasked : (client.askOffer (file.offerRequest body) c).1 = asked := by rw [hask]
  rcases hcases with ⟨offer, hoffer, rfl⟩ | ⟨hnone, error, hexplains, rfl⟩
  · refine ⟨_, _, client.upload_of_offer hbody hasked, ?_⟩
    rcases accept_map offer.presignedUrl (c.reply 1) offer with
      ⟨hacc, hok⟩ | ⟨hacc, error, hexplains, herror⟩
    · rw [hok]
      exact .done hoffer hacc
    · rw [herror]
      exact .refused hoffer hacc hexplains
  · exact ⟨_, _, client.upload_of_error hbody hasked, .noOffer hnone hexplains⟩

end Client
end ReportDelivery
