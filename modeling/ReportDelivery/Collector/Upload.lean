import ReportDelivery.Collector.Client
import ReportDelivery.Digest.Base64
import ReportDelivery.Digest.Md5
import ReportDelivery.Path

/-! Uploading a file: an offer is asked for with the file's size and checksum, and the file is put
where the offer says. -/
namespace ReportDelivery

/-- A file to upload. Its content is what reading it gave. -/
structure UploadFile where
  path : Text
  content : Except FileError Bytes
  namePart : Text
  contentType : Text
  contentEncoding : Text

def checksumText (body : Bytes) : Text := Base64.encode (Md5.digest body)

namespace UploadFile

def offerRequest (file : UploadFile) (body : Bytes) : OfferRequest where
  filename := file.namePart ++ "_" ++ Path.fileName file.path
  contentType := file.contentType
  contentEncoding := file.contentEncoding
  checksum := checksumText body
  byteSize := body.length

/-- What describes the body, unless the offer says otherwise. -/
def headers (file : UploadFile) (body : Bytes) (offer : Offer) : Headers :=
  Headers.update
    [("Content-Type", file.contentType), ("Content-Encoding", file.contentEncoding),
      ("Content-MD5", checksumText body)]
    offer.headers

end UploadFile

def Client.upload (client : Client) (file : UploadFile) (c : Conversation) :
    Except ClientError Offer × Conversation :=
  match file.content with
  | .error error => (.error (.file error), c)
  | .ok body =>
    match client.askOffer (file.offerRequest body) c with
    | (.error error, c) => (.error error, c)
    | (.ok offer, c) =>
      match client.putBody offer.presignedUrl body (file.headers body offer) c with
      | (.error error, c) => (.error error, c)
      | (.ok _, c) => (.ok offer, c)

end ReportDelivery
