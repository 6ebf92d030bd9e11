import Mathlib.Data.List.Nodup
import ReportDelivery.Proofs.Collector.Exchange
import ReportDelivery.Proofs.Outcome
import ReportDelivery.Proofs.Path.NormalForm

/-! What an upload asks for and what it puts.

The place is asked for with the name of the file, its size and its checksum, and the file is put
there with the headers of the offer over its own: an own header keeps its place and takes the
offered value, and the other offered headers follow in their order. No name is twice among the
headers of an offer, so no header is put twice. `upload_matches_offer` says what the two requests
carry, when the second one is made, and when the offer is what the upload ends with. The name of a
file is the component that its path ends in (`Path.fileName_endsIn`). -/
namespace ReportDelivery

/-! ### Headers over headers -/

namespace Headers

def names (headers : Headers) : List Text := headers.map (·.1)

/-- The value of the first header of exactly that name. -/
def value? (headers : Headers) (name : Text) : Option Text :=
  (headers.find? fun header => header.1 = name).map (·.2)

/-- The header as it is once `others` count. -/
def overlay (others : Headers) (header : Text × Text) : Text × Text :=
  (header.1, (others.value? header.1).getD header.2)

/-- The headers of `others` under new names. -/
def beyond (headers others : Headers) : Headers :=
  others.filter fun header => header.1 ∉ headers.names

theorem value?_cons (name value key : Text) (others : Headers) :
    value? ((name, value) :: others) key = if name = key then some value else others.value? key := by
  by_cases h : name = key <;> simp [value?, h]

theorem value?_eq_none {headers : Headers} {name : Text} (h : name ∉ headers.names) :
    headers.value? name = none := by
  rw [value?, Option.map_eq_none_iff, List.find?_eq_none]
  intro header hmem hname
  exact h (List.mem_map.2 ⟨header, hmem, of_decide_eq_true hname⟩)

theorem overlay_of_notMem {others : Headers} {header : Text × Text} (h : header.1 ∉ others.names) :
    overlay others header = header := by
  rw [overlay, value?_eq_none h, Option.getD_none]

theorem map_overlay_of_disjoint {headers others : Headers}
    (h : ∀ name ∈ headers.names, name ∉ others.names) : headers.map (overlay others) = headers := by
  rw [List.map_congr_left fun header hmem => overlay_of_notMem (h _ (List.mem_map_of_mem hmem)),
    List.map_id']

/-- Of two values under one name the later one counts. -/
theorem overlay_overlay {name : Text} {others : Headers} (h : name ∉ others.names) (value : Text)
    (header : Text × Text) :
    overlay others (overlay [(name, value)] header) = overlay ((name, value) :: others) header := by
  by_cases hname : name = header.1
  · subst hname
    simp [overlay, value?_cons, value?_eq_none h]
  · simp [overlay, hname, value?]

theorem names_append (headers others : Headers) :
    names (headers ++ others) = headers.names ++ others.names :=
  List.map_append

theorem names_map_overlay (headers others : Headers) :
    names (headers.map (overlay others)) = headers.names := by
  simp [names, overlay, Function.comp_def]

theorem beyond_cons (headers others : Headers) (header : Text × Text) :
    headers.beyond (header :: others) = headers.beyond [header] ++ headers.beyond others := by
  rw [beyond, ← List.singleton_append, List.filter_append]
  rfl

theorem beyond_sublist (headers others : Headers) :
    (headers.beyond others).names.Sublist others.names :=
  List.filter_sublist.map _

theorem nodup_beyond {headers others : Headers} (hnodup : headers.names.Nodup)
    (hothers : others.names.Nodup) : (headers.names ++ (headers.beyond others).names).Nodup := by
  refine List.nodup_append.2 ⟨hnodup, hothers.sublist (beyond_sublist headers others), ?_⟩
  intro name hold _ hnew heq
  obtain ⟨header, hmem, hheader⟩ := List.mem_map.1 hnew
  have hbeyond : header.1 ∉ headers.names := of_decide_eq_true (List.mem_filter.1 hmem).2
  exact hbeyond (by rw [hheader, ← heq]; exact hold)

/-- One more header: the one of its name takes the value, and a new one comes last. -/
theorem insert_eq {headers : Headers} (hnodup : headers.names.Nodup) (name value : Text) :
    insert name value headers =
      headers.map (overlay [(name, value)]) ++ headers.beyond [(name, value)] := by
  induction headers with
  | nil => rfl
  | cons header headers ih =>
    obtain ⟨hfirst, hrest⟩ := List.nodup_cons.1 hnodup
    by_cases hname : header.1 = name
    · subst hname
      have hkept : headers.map (overlay [(header.1, value)]) = headers := by
        apply map_overlay_of_disjoint
        intro name hmem hsame
        rw [List.mem_singleton.1 hsame] at hmem
        exact hfirst hmem
      simp [insert, hkept, overlay, value?_cons, beyond, names]
    · have hkept : overlay [(name, value)] header = header :=
        overlay_of_notMem fun hmem => hname (List.mem_singleton.1 hmem)
      have hbeyond : beyond (header :: headers) [(name, value)] = beyond headers [(name, value)] := by
        apply List.filter_congr
        intro other hother
        rw [List.mem_singleton.1 hother, decide_eq_decide, not_iff_not]
        simp [names, Ne.symm hname]
      rw [insert, if_neg hname, ih hrest, List.map_cons, hkept, hbeyond, List.cons_append]

theorem nodup_insert {headers : Headers} (hnodup : headers.names.Nodup) (name value : Text) :
    (insert name value headers).names.Nodup := by
  rw [insert_eq hnodup, names_append, names_map_overlay]
  exact nodup_beyond hnodup (List.nodup_singleton _)

/-- Headers over others: the places are kept, the values replaced, and what is new follows. -/
theorem update_eq {headers others : Headers} (hnodup : headers.names.Nodup)
    (hothers : others.names.Nodup) :
    headers.update others = headers.map (overlay others) ++ headers.beyond others := by
  induction others generalizing headers with
  | nil =>
    rw [map_overlay_of_disjoint fun _ _ => List.not_mem_nil]
    exact (List.append_nil headers).symm
  | cons header others ih =>
    obtain ⟨name, value⟩ := header
    obtain ⟨hlast, hothers⟩ := List.nodup_cons.1 hothers
    have hinsert := insert_eq hnodup name value
    have hnames : names (insert name value headers) =
        headers.names ++ (headers.beyond [(name, value)]).names := by
      rw [hinsert, names_append, names_map_overlay]
    have hnew : (headers.beyond [(name, value)]).map (overlay others) =
        headers.beyond [(name, value)] := by
      apply map_overlay_of_disjoint
      intro key hkey
      rw [List.mem_singleton.1 ((beyond_sublist headers [(name, value)]).subset hkey)]
      exact hlast
    have hrest : (insert name value headers).beyond others = headers.beyond others := by
      apply List.filter_congr
      intro other hother
      have hne : other.1 ∉ (headers.beyond [(name, value)]).names := by
        intro hmem
        apply hlast
        rw [← List.mem_singleton.1 ((beyond_sublist headers [(name, value)]).subset hmem)]
        exact List.mem_map_of_mem hother
      simp [hnames, hne]
    show (insert name value headers).update others = _
    rw [ih (by rw [hnames]; exact nodup_beyond hnodup (List.nodup_singleton _)) hothers, hrest,
      hinsert, List.map_append, List.map_map, hnew, beyond_cons headers others, List.append_assoc]
    congr 1
    exact List.map_congr_left fun header _ => overlay_overlay hlast value header

theorem nodup_update {headers others : Headers} (hnodup : headers.names.Nodup)
    (hothers : others.names.Nodup) : (headers.update others).names.Nodup := by
  rw [update_eq hnodup hothers, names_append, names_map_overlay]
  exact nodup_beyond hnodup hothers

end Headers

/-! ### The headers of an offer -/

theorem Headers.nodup_ofMembers (members : Members) : (Headers.ofMembers members).names.Nodup := by
  have hstep (headers others : Headers) (hnodup : headers.names.Nodup) :
      (headers.update others).names.Nodup := by
    induction others generalizing headers with
    | nil => exact hnodup
    | cons header others ih => exact ih _ (nodup_insert hnodup header.1 header.2)
  exact hstep [] _ List.nodup_nil

/-- No two headers of an offer have the same name. -/
theorem Offer.nodup_names {answer : Answer} {offer : Offer} (h : Offer.read answer = .ok offer) :
    offer.headers.names.Nodup := by
  unfold Offer.read at h
  split at h
  · cases h
  · dsimp only at h
    split_ifs at h
    split at h
    · cases h
      exact Headers.nodup_ofMembers _
    · cases h
  · cases h

/-! ### The two requests of an upload -/

/-- The request asks for a place for the file of that name, described as it is. -/
structure Request.AsksFor (client : Client) (file : UploadFile) (name : Text) (body : Bytes)
    (request : Request) : Prop where
  method : request.method = .post
  url : request.url = client.host ++ Client.offerPath
  payload : request.payload = .json (.object [
    (.str "filename", .str (file.namePart ++ "_" ++ name)),
    (.str "content_type", .str file.contentType),
    (.str "content_encoding", .str file.contentEncoding),
    (.str "checksum", .str (Base64.encode (Md5.digest body))),
    (.str "byte_size", .int body.length)])

/-- The request puts the file where the offer says, with the offered headers over the ones that
describe it. -/
structure Request.Puts (file : UploadFile) (body : Bytes) (offer : Offer)
    (request : Request) : Prop where
  method : request.method = .put
  url : request.url = offer.presignedUrl
  payload : request.payload = .body body
  headers : request.headers = [
      (Text.ofString "Content-Type",
        (offer.headers.value? "Content-Type").getD file.contentType),
      (Text.ofString "Content-Encoding",
        (offer.headers.value? "Content-Encoding").getD file.contentEncoding),
      (Text.ofString "Content-MD5",
        (offer.headers.value? "Content-MD5").getD (Base64.encode (Md5.digest body)))] ++
    offer.headers.filter fun header =>
      header.1 ∉ [Text.ofString "Content-Type", "Content-Encoding", "Content-MD5"]
  distinct : request.headers.names.Nodup

namespace Client

variable (client : Client) (file : UploadFile) (body : Bytes)

theorem asksFor_offerRequest {name : Text} (hname : Path.IsComponent name)
    (hpath : Path.EndsIn name file.path) :
    (client.offerRequest file body).AsksFor client file name body where
  method := rfl
  url := rfl
  payload := by
    rw [← Path.fileName_endsIn hname hpath]
    rfl

theorem puts_uploadRequest {offer : Offer} (hoffer : offer.headers.names.Nodup) :
    (client.uploadRequest file body offer).Puts file body offer := by
  have hown : Headers.names [("Content-Type", file.contentType),
      ("Content-Encoding", file.contentEncoding), ("Content-MD5", checksumText body)] =
        [Text.ofString "Content-Type", "Content-Encoding", "Content-MD5"] := rfl
  have hdifferent : [Text.ofString "Content-Type", "Content-Encoding", "Content-MD5"].Nodup := by
    decide
  exact {
    method := rfl
    url := rfl
    payload := rfl
    headers := Headers.update_eq (by rw [hown]; exact hdifferent) hoffer
    distinct := Headers.nodup_update (by rw [hown]; exact hdifferent) hoffer }

variable {client file body}

/-- An offer that was asked for was read from an answer. -/
theorem nodup_askOffer {r : OfferRequest} {c : Conversation} {offer : Offer}
    (h : (client.askOffer r c).1 = .ok offer) : offer.headers.names.Nodup := by
  obtain ⟨result, hask, hcases⟩ := client.askOffer_spec r c
  rw [hask] at h
  rcases hcases with ⟨other, ⟨answer, -, hread⟩, hresult⟩ | ⟨-, error, -, hresult⟩
  · rw [hresult] at h
    cases h
    exact Offer.nodup_names hread
  · rw [hresult] at h
    cases h

/-- **Main theorem.** The file that is put is the file a place was asked for. The first request
describes the file by its name, which is what its path ends in, its size and its checksum. Without
an offer it stays the only one; with an offer exactly one more follows, which puts the very bytes
where the offer says. The offer is what the upload ends with exactly if it was made and the second
answer has a status below 400. -/
theorem upload_matches_offer (client : Client) {name : Text} (hname : Path.IsComponent name)
    (hpath : Path.EndsIn name file.path) (hbody : file.content = .ok body) (c : Conversation) :
    ∃ asking : Request, asking.AsksFor client file name body ∧
      (client.askOffer (file.offerRequest body) c).2.requests = c.requests ++ [asking] ∧
      (∀ error, (client.askOffer (file.offerRequest body) c).1 = .error error →
        (client.upload file c).1 = .error error ∧
          (client.upload file c).2.requests = c.requests ++ [asking]) ∧
      (∀ offer, (client.askOffer (file.offerRequest body) c).1 = .ok offer →
        ∃ putting : Request, putting.Puts file body offer ∧
          (client.upload file c).2.requests = c.requests ++ [asking, putting]) ∧
      ∀ offer, (client.upload file c).1 = .ok offer ↔
        (client.askOffer (file.offerRequest body) c).1 = .ok offer ∧
          ∃ status answer, c.reply 1 = .response status answer ∧ status < 400 := by
  refine ⟨_, client.asksFor_offerRequest file body hname hpath, ?_, ?_, ?_, ?_⟩
  · rw [client.askOffer_snd]
    rfl
  · intro error herror
    rw [client.upload_of_error hbody herror]
    exact ⟨rfl, rfl⟩
  · intro offer hoffer
    refine ⟨_, client.puts_uploadRequest file body (nodup_askOffer hoffer), ?_⟩
    rw [client.upload_of_offer hbody hoffer]
    rfl
  · intro offer
    cases hasked : (client.askOffer (file.offerRequest body) c).1 with
    | error error =>
      rw [client.upload_of_error hbody hasked]
      exact ⟨nofun, nofun⟩
    | ok other =>
      rw [client.upload_of_offer hbody hasked]
      simp only [map_ok, accept_ok, Except.ok.injEq]
      constructor
      · intro h
        obtain ⟨answer, ⟨status, hreply, hlt⟩, hsame⟩ := h
        exact ⟨hsame, status, answer, hreply, hlt⟩
      · intro h
        obtain ⟨hsame, status, answer, hreply, hlt⟩ := h
        exact ⟨answer, ⟨status, hreply, hlt⟩, hsame⟩

end Client

/-! ### A sample -/

def sampleUploader : Client := .create "key" "https://collector.test/" [] Client.defaultTimeout

def sampleFile : UploadFile where
  path := "/tmp/reports/security-1.json.gz"
  content := .ok [31, 139]
  namePart := "bearer_security_report"
  contentType := "application/json"
  contentEncoding := "gzip"

/-- The offer gives one own header another value and adds one, neither of them as a text. -/
def sampleAnswers : Conversation where
  replies := [
    .response 200 (.ofBytes (("\x7b\"signed_id\": 7, \"presigned_url\": \"https://store.test\"," ++
      "\"headers\": \x7b\"x-acl\": true, \"Content-Encoding\": 5\x7d\x7d").toList.map
        fun c => .ofNat c.toNat)),
    .response 399 (.ofBytes [])]

def sampleOffer : Offer where
  signedId := "7"
  presignedUrl := "https://store.test"
  headers := [("x-acl", "True"), ("Content-Encoding", "5")]

theorem sampleOffer_asked :
    (sampleUploader.askOffer (sampleFile.offerRequest [31, 139]) sampleAnswers).1 =
      .ok sampleOffer := by
  have hoffer : (sampleUploader.askOffer (sampleFile.offerRequest [31, 139])
      sampleAnswers).1.toOption.map (fun offer =>
        (offer.signedId, offer.presignedUrl, offer.headers)) =
      some (sampleOffer.signedId, sampleOffer.presignedUrl, sampleOffer.headers) := by
    decide +kernel
  cases hasked : (sampleUploader.askOffer (sampleFile.offerRequest [31, 139]) sampleAnswers).1 with
  | error error =>
    rw [hasked] at hoffer
    cases hoffer
  | ok offer =>
    rw [hasked] at hoffer
    cases offer
    simp only [Except.toOption, Option.map_some, Option.some.injEq, Prod.mk.injEq] at hoffer
    obtain ⟨hid, hurl, hheaders⟩ := hoffer
    rw [hid, hurl, hheaders]

theorem isComponent_sampleName : Path.IsComponent "security-1.json.gz" :=
  ⟨by decide, by decide, by decide⟩

/-- The file goes by its name, which is joined to the prefix. An own header takes the offered value
in its own place, and the added one comes last. -/
theorem sampleFile_uploaded :
    Path.EndsIn "security-1.json.gz" sampleFile.path ∧ sampleFile.content = .ok [31, 139] ∧
      (sampleUploader.upload sampleFile sampleAnswers).1 = .ok sampleOffer ∧
      ∃ asking putting : Request,
        (sampleUploader.upload sampleFile sampleAnswers).2.requests = [asking, putting] ∧
        asking.payload = .json (.object [
          (.str "filename", .str "bearer_security_report_security-1.json.gz"),
          (.str "content_type", .str "application/json"), (.str "content_encoding", .str "gzip"),
          (.str "checksum", .str (Base64.encode (Md5.digest [31, 139]))),
          (.str "byte_size", .int 2)]) ∧
        putting.Puts sampleFile [31, 139] sampleOffer ∧
        putting.headers = [(Text.ofString "Content-Type", Text.ofString "application/json"),
          (Text.ofString "Content-Encoding", Text.ofString "5"),
          (Text.ofString "Content-MD5", Base64.encode (Md5.digest [31, 139])),
          (Text.ofString "x-acl", Text.ofString "True")] := by
  have hpath : Path.EndsIn "security-1.json.gz" sampleFile.path := .inside "/tmp/reports"
  have hcontent : sampleFile.content = .ok [31, 139] := rfl
  obtain ⟨asking, hasking, -, -, hputting, hiff⟩ :=
    sampleUploader.upload_matches_offer isComponent_sampleName hpath hcontent sampleAnswers
  obtain ⟨putting, hputs, hmade⟩ := hputting sampleOffer sampleOffer_asked
  refine ⟨hpath, hcontent, ?_, asking, putting, hmade, hasking.payload, hputs, hputs.headers⟩
  exact (hiff sampleOffer).2 ⟨sampleOffer_asked, 399, .ofBytes [], rfl, by decide⟩

end ReportDelivery
