import ReportDelivery.Delivery.Packaging
import ReportDelivery.Proofs.Gzip.RoundTrip
import ReportDelivery.Proofs.Json.LineEnds
import ReportDelivery.Proofs.Text.Utf8

/-! The two ways to read a report.

A report is read from a text, or from a compressed file of the text. The file is read with line feeds
for all line ends, so the two may parse different texts. `readers_agree`: they give the same report or
refuse the text with the same error; only where the text stops being JSON, if it does, they may count
differently. -/
namespace ReportDelivery

/-! ### Line ends -/

namespace Report

/-- No report is read because the text is no JSON, for this reason. -/
def NotJson (problem : Json.Problem) (reading : Except Failure Report) : Prop :=
  ∃ line column offset, reading = .error (.json (.invalid problem line column offset))

/-- Two readings of a text: the same report, or the same refusal of a text that is JSON. A text that
is not JSON is refused by both for the same reason. -/
structure ReadAlike (t : Text) (first second : Except Failure Report) : Prop where
  reports : ∀ report, first = .ok report ↔ second = .ok report
  json : (∀ problem, ¬ Json.Invalid t problem) → first = second
  notJson : ∀ problem, Json.Invalid t problem → NotJson problem first ∧ NotJson problem second

theorem notJson_ofDocument {t : Text} {problem : Json.Problem} (h : Json.Invalid t problem) :
    NotJson problem (ofDocument t) := by
  obtain ⟨line, column, offset, hread⟩ := h
  refine ⟨line, column, offset, ?_⟩
  rw [ofDocument, hread]
  rfl

theorem ofDocument_of_read {t u : Text} (h : Json.read t = Json.read u) :
    ofDocument t = ofDocument u := by
  rw [ofDocument, ofDocument, h]

theorem ofDocument_unifyLineEnds (t : Text) :
    ReadAlike t (ofDocument t.unifyLineEnds) (ofDocument t) := by
  rcases Json.read_unified t with hread | ⟨problem, hinvalid, hinvalid'⟩
  · have heq := ofDocument_of_read hread
    refine ⟨fun _ => by rw [heq], fun _ => heq, fun problem hinvalid => ?_⟩
    have hrefused := notJson_ofDocument hinvalid
    exact ⟨heq ▸ hrefused, hrefused⟩
  · have hunified := notJson_ofDocument hinvalid'
    have hrefused := notJson_ofDocument hinvalid
    refine ⟨fun report => ?_, fun hjson => absurd hinvalid (hjson problem), fun other hother => ?_⟩
    · obtain ⟨_, _, _, heq⟩ := hunified
      obtain ⟨_, _, _, heq'⟩ := hrefused
      rw [heq, heq']
      exact ⟨nofun, nofun⟩
    · obtain rfl := hinvalid.unique hother
      exact ⟨hunified, hrefused⟩

/-! ### Files -/

theorem ofGzip_encoded {t : Text} {bytes content : Bytes} (hbytes : Utf8.encode t = .ok bytes)
    (hcontent : Gzip.decompress content = .ok bytes) :
    ofGzip content = ofDocument t.unifyLineEnds := by
  rw [ofGzip, hcontent, mapError_of_ok, ok_bind, Utf8.decode_encode hbytes, mapError_of_ok, ok_bind]

/-- **Main theorem.** A text without lone surrogates can be encoded, and any compressed file of its
bytes is read as the text is, whatever its line ends. -/
theorem readers_agree {t : Text} (htext : ∀ i, CodePoint.surrogate i ∉ t) :
    ∃ bytes, Utf8.encode t = .ok bytes ∧ ∀ content, Gzip.decompress content = .ok bytes →
      ReadAlike t (ofGzip content) (ofDocument t) := by
  obtain ⟨bytes, hbytes⟩ | herror := exists_ok_or_error (Utf8.encode t)
  · refine ⟨bytes, hbytes, fun content hcontent => ?_⟩
    rw [ofGzip_encoded hbytes hcontent]
    exact ofDocument_unifyLineEnds t
  · obtain ⟨i, hmem⟩ := Utf8.encode_error.1 herror
    exact absurd hmem (htext i)

/-- An empty report with line ends of three kinds. -/
def mixedLines : Text := Text.ofString "\x7b\r\n\"meta\":\r\x7b\n\x7d\x7d"

/-- JSON that is no report. -/
def brokenArray : Text := Text.ofString "[\r\n]"

/-- A string with a line end in it. -/
def brokenString : Text := Text.ofString "\"a\r\n\""

theorem sampleTexts_read_alike :
    (∃ bytes report, Utf8.encode mixedLines = .ok bytes ∧
      ofDocument mixedLines = .ok report ∧ ofGzip (Gzip.compress bytes) = .ok report) ∧
    (∃ bytes, Utf8.encode brokenArray = .ok bytes ∧
      ofGzip (Gzip.compress bytes) = .error (.format .reportNotObject)) ∧
    ∃ bytes, Utf8.encode brokenString = .ok bytes ∧
      NotJson .controlCharacter (ofGzip (Gzip.compress bytes)) := by
  have htext (w : String) := Utf8.surrogate_notMem_ofString w
  obtain ⟨bytes, hbytes, hread⟩ := readers_agree (t := mixedLines) (htext _)
  obtain ⟨array, harray, hreadArray⟩ := readers_agree (t := brokenArray) (htext _)
  obtain ⟨string, hstring, hreadString⟩ := readers_agree (t := brokenString) (htext _)
  obtain ⟨report, hreport⟩ := ok_of_toBool (x := ofDocument mixedLines) (by decide +kernel)
  have hjson : Json.read brokenArray = .ok (.list []) := rfl
  have hinvalid : Json.Invalid brokenString .controlCharacter := ⟨1, 3, 2, rfl⟩
  refine ⟨⟨bytes, report, hbytes, hreport, ?_⟩, ⟨array, harray, ?_⟩, ⟨string, hstring, ?_⟩⟩
  · exact ((hread _ (Gzip.decompress_compress bytes)).reports report).2 hreport
  · rw [(hreadArray _ (Gzip.decompress_compress array)).json fun _ h => h.read_ne_ok _ hjson,
      ofDocument, hjson]
    rfl
  · exact ((hreadString _ (Gzip.decompress_compress string)).notJson _ hinvalid).1

end Report
end ReportDelivery
