import ReportDelivery.Environment
import ReportDelivery.Failure
import ReportDelivery.Numeric.Shortest
import ReportDelivery.Report.Identity

/-! Talking to the collector.

A conversation is a list of replies still to come and of requests already made; what a request is
answered with is decided by the next reply. How the bytes of an answer become text and JSON is up to
whoever receives them, so an answer has both. The client makes three kinds of requests: for an
upload offer, for the upload itself, and for the notification that a scan is finished. Only the
first and the last carry the API key. -/
namespace ReportDelivery

/-- A number of seconds, as it was given. -/
inductive Seconds where
  | whole (n : Int)
  | fraction (x : Binary64)

def Seconds.text : Seconds → Text
  | .whole n => .ofInt n
  | .fraction x => x.text

inductive Method where
  | post
  | put
deriving DecidableEq

inductive Payload where
  | json (v : Value)
  | body (bytes : Bytes)

abbrev Headers := List (Text × Text)

namespace Headers

/-- A header keeps its place; its last value counts. -/
def insert (name value : Text) : Headers → Headers
  | [] => [(name, value)]
  | header :: rest =>
    if header.1 = name then (name, value) :: rest else header :: insert name value rest

/-- The headers with all of `others` over them. -/
def update (headers others : Headers) : Headers :=
  others.foldl (fun headers (name, value) => insert name value headers) headers

end Headers

structure Request where
  method : Method
  url : Text
  timeout : Setting Seconds
  headers : Headers
  payload : Payload

/-- The body of an answer as it is received. -/
structure Answer where
  text : Text
  /-- The value that the body is as JSON; none if it is no JSON. -/
  json : Option Value

/-- A body that is received as UTF-8, whatever is not being replaced, and as the JSON in that
text. -/
def Answer.ofBytes (body : Bytes) : Answer where
  text := Utf8.decodeLenient body
  json := (Json.read (Utf8.decodeLenient body)).toOption

/-- The start of an answer that diagnostics show. -/
def Answer.excerpt (answer : Answer) : Text := answer.text.take 200

inductive Reply where
  | response (status : Nat) (answer : Answer)
  | fault (fault : TransportFault)

structure Conversation where
  /-- The replies to come; a request beyond the last one finds no connection. -/
  replies : List Reply
  /-- The requests made, first one first. -/
  requests : List Request := []

def Conversation.ask (c : Conversation) (request : Request) : Reply × Conversation :=
  let requests := c.requests ++ [request]
  match c.replies with
  | [] => (.fault ⟨.connection, "no connection"⟩, { c with requests })
  | reply :: replies => (reply, { replies, requests })

structure Client where
  apiKey : Text
  host : Text
  userAgent : Text
  timeout : Setting Seconds

namespace Client

def defaultUserAgent : Text := "scanreport/" ++ version

def defaultTimeout : Setting Seconds := .value (.fraction (.ofDecimal false 30 0))

/-- A client with a tidied key, host and user agent. -/
def create (apiKey host userAgent : Text) (timeout : Setting Seconds) : Client where
  apiKey := apiKey.strip
  host := stripSlashes host
  userAgent := if userAgent.hasContent then userAgent.strip else defaultUserAgent
  timeout := timeout

/-- A reply that is an answer with a status below 400. -/
def accept (url : Text) : Reply → Except ClientError Answer
  | .fault fault =>
    .error (if fault.trouble.isExchange then .collector (.network url fault) else .transport fault)
  | .response status answer =>
    if status = 401 then .error (.collector .unauthorized)
    else if 400 ≤ status then .error (.collector (.refused status answer.excerpt))
    else .ok answer

def request (r : Request) (c : Conversation) : Except ClientError Answer × Conversation :=
  let (reply, c) := c.ask r
  (accept r.url reply, c)

/-- A request to the collector itself, under the client's key. -/
def postRequest (client : Client) (path : Text) (v : Value) : Request where
  method := .post
  url := client.host ++ path
  timeout := client.timeout
  headers := [("Authorization", client.apiKey), ("User-Agent", client.userAgent)]
  payload := .json v

/-- A request to wherever the offer says. The URL carries its own credentials. -/
def putRequest (client : Client) (url : Text) (body : Bytes) (headers : Headers) : Request where
  method := .put
  url := url
  timeout := client.timeout
  headers := headers
  payload := .body body

end Client

/-! ### Offers -/

/-- The description of a file for which a place is asked. -/
structure OfferRequest where
  filename : Text
  contentType : Text
  contentEncoding : Text
  checksum : Text
  byteSize : Int

def OfferRequest.toValue (r : OfferRequest) : Value :=
  .object [
    (.str "filename", .str r.filename),
    (.str "content_type", .str r.contentType),
    (.str "content_encoding", .str r.contentEncoding),
    (.str "checksum", .str r.checksum),
    (.str "byte_size", .int r.byteSize)]

/-- A place for one upload. -/
structure Offer where
  signedId : Text
  presignedUrl : Text
  headers : Headers

/-- The texts of the members, of which none has the name of another. -/
def Headers.ofMembers (members : Members) : Headers :=
  Headers.update [] (members.map fun (name, v) => (name.display, v.display))

/-- The offer in an answer. -/
def Offer.read (answer : Answer) : Except CollectorError Offer :=
  match answer.json with
  | none => .error (.offerNotJson answer.excerpt)
  | some (.object members) =>
    let signedId := Members.get members "signed_id"
    let presignedUrl := Members.get members "presigned_url"
    if !signedId.isTruthy || !presignedUrl.isTruthy then .error .offerIncomplete
    else
      match (Members.get members "headers").orElse (.object []) with
      | .object headers => .ok {
          signedId := signedId.display
          presignedUrl := presignedUrl.display
          headers := .ofMembers headers
        }
      | _ => .error .offerHeadersNotObject
  | some _ => .error (.offerNotObject answer.excerpt)

/-! ### The requests -/

namespace Client

def offerPath : Text := "/api/v1/file_upload_offer"

def finishedPath : Text := "/api/v1/scan_finished"

def askOffer (client : Client) (r : OfferRequest) (c : Conversation) :
    Except ClientError Offer × Conversation :=
  let (answer, c) := request (client.postRequest offerPath r.toValue) c
  (answer.bind fun answer => (Offer.read answer).mapError .collector, c)

def putBody (client : Client) (url : Text) (body : Bytes) (headers : Headers)
    (c : Conversation) : Except ClientError Unit × Conversation :=
  let (answer, c) := request (client.putRequest url body headers) c
  (answer.map fun _ => (), c)

def announce (client : Client) (identity : Identity) (c : Conversation) :
    Except ClientError Unit × Conversation :=
  let (answer, c) := request (client.postRequest finishedPath identity.toValue) c
  (answer.map fun _ => (), c)

end Client
end ReportDelivery
