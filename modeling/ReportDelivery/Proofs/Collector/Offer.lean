import ReportDelivery.Proofs.Collector.Upload
import ReportDelivery.Proofs.Json.Reading
import ReportDelivery.Proofs.Value.Form

/-! Which replies are offers.

An offer is asked for in one request, and anything may come back. `askOffer_accepts_offers` says
what is accepted: an answer with a status below 400 whose body is a JSON object with an id, a URL
and, if there are any, headers as an object. Their texts make the offer, and neither the id nor the
URL is empty. Everything else the collector sends is an error of the collector. How a body becomes
JSON is left open; all that is asked of it is that nothing else comes of it (`Answer.Decoded`). -/
namespace ReportDelivery

/-! ### The form of an offer -/

/-- What is asked of the members of an offer. -/
structure Members.OfferForm (members : Members) : Prop where
  signedId : (get members "signed_id").isTruthy = true
  presignedUrl : (get members "presigned_url").isTruthy = true
  headers : (get members "headers").Optional Value.IsObject

/-- The offer that the members give. -/
def Offer.converted (members : Members) : Offer where
  signedId := (Members.get members "signed_id").display
  presignedUrl := (Members.get members "presigned_url").display
  headers := .ofMembers (Members.get members "headers").fields

/-- The reply is an answer with a status below 400, and its body is a JSON object that has the form
of an offer and these members. -/
def Reply.Proposes (reply : Reply) (members : Members) : Prop :=
  ∃ status answer, reply = .response status answer ∧ status < 400 ∧
    answer.json = some (.object members) ∧ members.OfferForm

/-- Whatever the body of the answer was parsed to is a JSON value. -/
def Answer.Decoded (answer : Answer) : Prop := ∀ v, answer.json = some v → v.IsJson

/-- If the reply is an answer, its body was decoded. -/
def Reply.Decoded (reply : Reply) : Prop :=
  ∀ status answer, reply = .response status answer → answer.Decoded

/-- An offer that can be used: there are an id and a URL, and one header under each name in the
object of headers, in its order and with the text of its value. -/
structure Offer.Usable (offer : Offer) (headers : Members) : Prop where
  signedId : offer.signedId ≠ []
  presignedUrl : offer.presignedUrl ≠ []
  headers : List.Forall₂ (fun header member => member.1 = .str header.1 ∧ header.2 = member.2.display)
    offer.headers headers
  distinct : offer.headers.names.Nodup

/-! ### Decoding -/

/-- A body that is received as UTF-8 is decoded. -/
theorem Answer.decoded_ofBytes (body : Bytes) : (Answer.ofBytes body).Decoded := by
  intro v hv
  rcases hread : Json.read (Utf8.decodeLenient body) with _ | w
  · rw [ofBytes, hread] at hv
    cases hv
  · rw [ofBytes, hread] at hv
    cases hv
    exact Json.read_isJson hread

theorem Members.Named.nodup_display {members : Members} (h : Members.Named members) :
    (members.map fun member => member.1.display).Nodup := by
  have hkeys : (members.map fun member => member.1.display) =
      (Members.keys members).map Value.display := by
    rw [Members.keys, List.map_map]
    rfl
  rw [hkeys]
  refine h.distinct.map_on ?_
  intro key hkey other hother hsame
  obtain ⟨s, rfl⟩ := h.texts key hkey
  obtain ⟨t, rfl⟩ := h.texts other hother
  rw [Value.display, Value.display] at hsame
  rw [hsame]

/-- Under names that are texts there is a header for each member. -/
theorem Members.Named.headers {members : Members} (h : Members.Named members) :
    Headers.ofMembers members = members.map fun member => (member.1.display, member.2.display) := by
  have hnodup : (Headers.names (members.map fun member =>
      (member.1.display, member.2.display))).Nodup := by
    rw [Headers.names, List.map_map]
    exact h.nodup_display
  have hnone : (Headers.names []).Nodup := List.nodup_nil
  refine (Headers.update_eq hnone hnodup).trans ?_
  exact List.filter_eq_self.2 fun _ _ => rfl

/-! ### Reading offers -/

namespace Offer

variable {answer : Answer} {members : Members} {offer : Offer}

theorem read_yields (h : answer.json = some (.object members)) :
    Yields members.OfferForm (converted members) (read answer) := by
  have hheaders : (Members.get members "headers").Optional Value.IsObject ↔
      ((Members.get members "headers").orElse (.object [])).IsObject :=
    Value.optional_iff ⟨[], rfl⟩
  have hfields := Value.fields_orElse (Members.get members "headers")
  unfold read
  rw [h]
  dsimp only
  split
  · next hmissing =>
    refine .error _ fun hform => ?_
    rw [hform.signedId, hform.presignedUrl] at hmissing
    cases hmissing
  · next hgiven =>
    simp only [Bool.or_eq_true, Bool.not_eq_true', not_or, Bool.not_eq_false] at hgiven
    split
    · next headers heq =>
      rw [heq] at hheaders hfields
      refine (Yields.ok _).congr (iff_of_true trivial ?_) fun _ => ?_
      · exact ⟨hgiven.1, hgiven.2, hheaders.2 ⟨headers, rfl⟩⟩
      · rw [converted, ← hfields]
        rfl
    · next hother =>
      refine .error _ fun hform => ?_
      obtain ⟨headers, heq⟩ := hheaders.1 hform.headers
      exact hother headers heq

/-- An offer is read from an object of its form and from nothing else. -/
theorem read_ok : read answer = .ok offer ↔ ∃ members : Members,
    answer.json = some (.object members) ∧ members.OfferForm ∧ offer = converted members := by
  constructor
  · intro h
    obtain ⟨members, hjson⟩ : ∃ members : Members, answer.json = some (.object members) := by
      unfold read at h
      split at h
      · cases h
      · exact ⟨_, ‹_›⟩
      · cases h
    exact ⟨members, hjson, (read_yields hjson offer).1 h⟩
  · rintro ⟨members, hjson, hform⟩
    exact (read_yields hjson offer).2 hform

/-- What is wrong with the body of an answer is no matter of authorization. -/
theorem read_ne_unauthorized : read answer ≠ .error .unauthorized := by
  unfold read
  split
  · nofun
  · dsimp only
    split
    · nofun
    · split <;> nofun
  · nofun

theorem usable_converted (h : (Value.object members).IsJson) (hform : members.OfferForm) :
    (converted members).Usable (Members.get members "headers").fields where
  signedId := Value.display_ne_nil hform.signedId
  presignedUrl := Value.display_ne_nil hform.presignedUrl
  headers := by
    have hjson := (h.get "headers").orElse Value.isJson_empty
    obtain ⟨headers, heq⟩ := (Value.optional_iff ⟨[], rfl⟩).1 hform.headers
    have hfields := Value.fields_orElse (Members.get members "headers")
    rw [heq] at hjson hfields
    have hheaders := hjson.named.headers
    rw [converted, ← hfields]
    dsimp only [Value.fields]
    rw [hheaders, List.forall₂_map_left_iff, List.forall₂_same]
    intro member hmember
    obtain ⟨name, hname⟩ := hjson.named.texts member.1 (Members.mem_keys hmember)
    exact ⟨by rw [hname]; rfl, rfl⟩
  distinct := Headers.nodup_ofMembers _

end Offer

/-! ### Replies -/

namespace Reply

variable {reply : Reply}

theorem answer?_eq_some {answer : Answer} :
    reply.answer? = some answer ↔ ∃ status, reply = .response status answer ∧ status < 400 := by
  cases reply with
  | fault fault => exact ⟨nofun, nofun⟩
  | response status answer =>
    simp only [answer?, Option.ite_none_right_eq_some, Option.some.injEq, response.injEq]
    constructor
    · rintro ⟨hlt, rfl⟩
      exact ⟨status, ⟨rfl, rfl⟩, hlt⟩
    · rintro ⟨_, ⟨rfl, rfl⟩, hlt⟩
      exact ⟨hlt, rfl⟩

/-- What is offered is what the proposed members give. -/
theorem offers_iff_proposes {offer : Offer} :
    reply.Offers offer ↔ ∃ members, reply.Proposes members ∧ offer = .converted members := by
  simp only [Offers, Proposes, answer?_eq_some, Offer.read_ok]
  constructor
  · rintro ⟨answer, ⟨status, hreply, hlt⟩, members, hjson, hform, hoffer⟩
    exact ⟨members, ⟨status, answer, hreply, hlt, hjson, hform⟩, hoffer⟩
  · rintro ⟨members, ⟨status, answer, hreply, hlt, hjson, hform⟩, hoffer⟩
    exact ⟨answer, ⟨status, hreply, hlt⟩, members, hjson, hform, hoffer⟩

/-- Something came back, or the exchange itself failed. -/
def FromExchange (reply : Reply) : Prop :=
  ∀ fault, reply = .fault fault → fault.trouble.isExchange = true

end Reply

/-! ### Asking for an offer -/

namespace Client

variable {client : Client} {r : OfferRequest} {c : Conversation}

theorem askOffer_ok {offer : Offer} :
    (client.askOffer r c).1 = .ok offer ↔ (c.reply 0).Offers offer := by
  obtain ⟨result, hask, hcases⟩ := client.askOffer_spec r c
  rw [hask]
  rcases hcases with ⟨other, hother, rfl⟩ | ⟨hnone, error, -, rfl⟩
  · constructor
    · rintro ⟨⟩
      exact hother
    · intro hoffer
      have hsame := Reply.offers_iff.1 hoffer
      rw [Reply.offers_iff.1 hother] at hsame
      rw [Option.some.inj hsame]
  · exact ⟨nofun, fun hoffer => absurd hoffer (hnone offer)⟩

/-- What is not accepted is an error of the collector, and one of authorization exactly for the
status 401. -/
theorem accept_refused {reply : Reply} (hreply : reply.FromExchange) (url : Text)
    (hnone : reply.answer? = none) : ∃ cause, accept url reply = .error (.collector cause) ∧
      (cause = .unauthorized ↔ ∃ answer, reply = .response 401 answer) := by
  cases reply with
  | fault fault =>
    refine ⟨.network url fault, ?_, iff_of_false ?_ ?_⟩
    · rw [accept, if_pos (hreply fault rfl)]
    · rintro ⟨⟩
    · rintro ⟨_, ⟨⟩⟩
  | response status answer =>
    have hlt : ¬ status < 400 := by
      intro hlt
      rw [Reply.answer?, if_pos hlt] at hnone
      cases hnone
    by_cases hunauthorized : status = 401
    · subst hunauthorized
      exact ⟨.unauthorized, rfl, iff_of_true rfl ⟨answer, rfl⟩⟩
    · refine ⟨.refused status answer.excerpt, ?_, iff_of_false ?_ ?_⟩
      · rw [accept, if_neg hunauthorized, if_pos (Nat.not_lt.1 hlt)]
      · rintro ⟨⟩
      · rintro ⟨_, ⟨⟩⟩
        exact absurd rfl hunauthorized

theorem askOffer_error (hreply : (c.reply 0).FromExchange)
    (hnone : ¬ ∃ offer, (c.reply 0).Offers offer) :
    ∃ cause, (client.askOffer r c).1 = .error (.collector cause) ∧
      (cause = .unauthorized ↔ ∃ answer, c.reply 0 = .response 401 answer) := by
  rw [askOffer_fst]
  cases hbody : (c.reply 0).answer? with
  | none =>
    obtain ⟨cause, haccept, hiff⟩ := accept_refused hreply (client.host ++ offerPath) hbody
    exact ⟨cause, by rw [haccept]; rfl, hiff⟩
  | some body =>
    obtain ⟨status, hresponse, hlt⟩ := Reply.answer?_eq_some.1 hbody
    have haccept : accept (client.host ++ offerPath) (c.reply 0) = .ok body :=
      accept_ok.2 ⟨status, hresponse, hlt⟩
    cases hread : Offer.read body with
    | ok offer => exact absurd ⟨offer, body, hbody, hread⟩ hnone
    | error cause =>
      refine ⟨cause, by rw [haccept]; exact congrArg (Except.mapError _) hread, iff_of_false ?_ ?_⟩
      · rintro rfl
        exact Offer.read_ne_unauthorized hread
      · rintro ⟨other, hother⟩
        rw [hresponse] at hother
        cases hother
        omega

/-- **Main theorem.** Asking gives an offer exactly if the reply proposes one: then the offer is
what the members of the reply's body give, and it can be used, if the body was decoded. With any
other answer, and where the exchange fails, asking ends with an error of the collector, which is one
of authorization exactly for the status 401. -/
theorem askOffer_accepts_offers (client : Client) (r : OfferRequest) (c : Conversation)
    (hdecoded : (c.reply 0).Decoded) :
    (∀ offer, (client.askOffer r c).1 = .ok offer ↔
      ∃ members, (c.reply 0).Proposes members ∧ offer = .converted members) ∧
    (∀ members, (c.reply 0).Proposes members →
      (Offer.converted members).Usable (Members.get members "headers").fields) ∧
    ((c.reply 0).FromExchange → (¬ ∃ members, (c.reply 0).Proposes members) →
      ∃ cause, (client.askOffer r c).1 = .error (.collector cause) ∧
        (cause = .unauthorized ↔ ∃ answer, c.reply 0 = .response 401 answer)) := by
  refine ⟨fun offer => ?_, fun members hproposes => ?_, fun hreply hnone => ?_⟩
  · rw [askOffer_ok, Reply.offers_iff_proposes]
  · obtain ⟨status, answer, hresponse, -, hjson, hform⟩ := hproposes
    exact Offer.usable_converted (hdecoded status answer hresponse _ hjson) hform
  · refine askOffer_error hreply fun ⟨offer, hoffer⟩ => hnone ?_
    obtain ⟨members, hproposes, -⟩ := Reply.offers_iff_proposes.1 hoffer
    exact ⟨members, hproposes⟩

end Client

/-! ### Two replies -/

/-- An accepted answer whose body is JSON, but an array. -/
def arrayAnswer : Conversation where
  replies := [.response 200 (.ofBytes [0x5B, 0x5D])]

theorem Reply.decoded_ofBytes (status : Nat) (body : Bytes) :
    (Reply.response status (.ofBytes body)).Decoded := by
  rintro _ _ ⟨⟩
  exact Answer.decoded_ofBytes body

/-- The sample offer is proposed and can be used; an array is no offer. -/
theorem sampleReplies_judged :
    (sampleAnswers.reply 0).Decoded ∧ (arrayAnswer.reply 0).Decoded ∧
    (∃ members, (sampleAnswers.reply 0).Proposes members ∧
      sampleOffer.Usable (Members.get members "headers").fields) ∧
    ∃ cause, (sampleUploader.askOffer (sampleFile.offerRequest [31, 139]) arrayAnswer).1 =
      .error (.collector cause) ∧ cause ≠ .unauthorized := by
  have hdecoded : (sampleAnswers.reply 0).Decoded := Reply.decoded_ofBytes 200 _
  have hdecoded' : (arrayAnswer.reply 0).Decoded := Reply.decoded_ofBytes 200 _
  obtain ⟨hiff, husable, -⟩ := sampleUploader.askOffer_accepts_offers
    (sampleFile.offerRequest [31, 139]) sampleAnswers hdecoded
  obtain ⟨hiff', -, herror⟩ := sampleUploader.askOffer_accepts_offers
    (sampleFile.offerRequest [31, 139]) arrayAnswer hdecoded'
  refine ⟨hdecoded, hdecoded', ?_, ?_⟩
  · obtain ⟨members, hproposes, hoffer⟩ := (hiff sampleOffer).1 sampleOffer_asked
    exact ⟨members, hproposes, hoffer ▸ husable members hproposes⟩
  · obtain ⟨cause, hcause, hunauthorized⟩ := herror nofun fun ⟨members, hproposes⟩ => by
      cases (hiff' _).2 ⟨members, hproposes, rfl⟩
    refine ⟨cause, hcause, fun hsame => ?_⟩
    obtain ⟨body, ⟨⟩⟩ := hunauthorized.1 hsame

end ReportDelivery
