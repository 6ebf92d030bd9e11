import ReportDelivery.Delivery.Packaging
import ReportDelivery.Proofs.Gzip.RoundTrip
import ReportDelivery.Proofs.Json.Nesting
import ReportDelivery.Proofs.Json.Visible
import ReportDelivery.Proofs.Report.RoundTrip
import ReportDelivery.Proofs.Text.Utf8

/-! Packaged reports are read back.

A packaged file is read as text, with line ends of any kind made one. That is harmless because a
document has no line end, so the file gives the document, and the document the report. A report that
can be written has such a file unless a lone surrogate keeps its document from being encoded, or it
is nested too deep for the printer (`Report.TooDeep`). -/
namespace ReportDelivery

namespace Report

variable {report : Report} {text : Text} {bytes : Bytes}

/-! ### Documents -/

theorem visible_document (h : report.document = .ok text) : text.Visible := by
  obtain ⟨v, -, hprint⟩ := bind_ok.1 h
  exact Json.visible_print v (mapError_ok.1 hprint)

theorem unifyLineEnds_document (h : report.document = .ok text) : text.unifyLineEnds = text :=
  (visible_document h).unifyLineEnds

/-! ### Lone surrogates -/

/-- There is a lone surrogate in a string or a key of the report's document. -/
def HoldsSurrogate (report : Report) : Prop := ∃ v, report.toValue = .ok v ∧ v.HoldsSurrogate

/-- A report that can be written is encoded, unless it holds a lone surrogate. -/
theorem Plain.encoded_error (h : report.Plain) {error : DocumentError}
    (herror : report.encoded = .error error) :
    report.HoldsSurrogate ∧ ∃ problem, error = .unencodable problem := by
  obtain ⟨members, hvalue, hjson, -⟩ := h.roundTrip
  obtain ⟨text, hprint, -⟩ := Json.read_print hjson
  rcases Report.encoded_error.1 herror with ⟨cause, hcause, -⟩ | ⟨v, hv, hrest⟩
  · cases hcause.symm.trans hvalue
  · obtain rfl := Except.ok.inj (hvalue.symm.trans hv)
    rcases hrest with ⟨cause, hcause, -⟩ | ⟨text', htext', cause, hcause, rfl⟩
    · cases hcause.symm.trans hprint
    · have hsurrogate := (Json.surrogate_mem_print htext').1 (Utf8.encode_error.1 ⟨cause, hcause⟩)
      exact ⟨⟨_, hv, hsurrogate⟩, cause, rfl⟩

theorem HoldsSurrogate.encoded (h : report.HoldsSurrogate) : report.encoded ≠ .ok bytes := by
  intro hbytes
  obtain ⟨v, hvalue, hsurrogate⟩ := h
  obtain ⟨text, hdocument, hencode⟩ := encoded_ok.1 hbytes
  obtain ⟨v', hvalue', hprint⟩ := bind_ok.1 hdocument
  obtain rfl := Except.ok.inj (hvalue.symm.trans (mapError_ok.1 hvalue'))
  obtain ⟨problem, hproblem⟩ :=
    Utf8.encode_error.2 ((Json.surrogate_mem_print (mapError_ok.1 hprint)).2 hsurrogate)
  cases hproblem.symm.trans hencode

/-! ### Files -/

/-- The report in an uncompressed file. -/
def ofFile (content : Bytes) : Except Failure Report := do
  let text ← (Utf8.decode content).mapError Failure.decoding
  ofDocument text

/-- The bytes of a report are the bytes of its document, and of no other text. -/
theorem Plain.decode (h : report.Plain) (hbytes : report.encoded = .ok bytes) :
    ∃ text, Utf8.decode bytes = .ok text ∧ text.unifyLineEnds = text ∧
      ofDocument text = .ok report.settled := by
  obtain ⟨text, hdocument, hread⟩ := h.document
  obtain ⟨text', hdocument', hencode⟩ := encoded_ok.1 hbytes
  obtain rfl := Except.ok.inj (hdocument.symm.trans hdocument')
  exact ⟨text, Utf8.decode_encode hencode, unifyLineEnds_document hdocument, hread⟩

theorem Plain.ofFile (h : report.Plain) (hbytes : report.encoded = .ok bytes) :
    Report.ofFile bytes = .ok report.settled := by
  obtain ⟨text, hdecode, -, hread⟩ := h.decode hbytes
  rw [Report.ofFile, hdecode, mapError_of_ok, ok_bind, hread]

theorem Plain.ofGzip (h : report.Plain) (hbytes : report.encoded = .ok bytes) :
    Report.ofGzip (Gzip.compress bytes) = .ok report.settled := by
  obtain ⟨text, hdecode, hlines, hread⟩ := h.decode hbytes
  rw [Report.ofGzip, Gzip.decompress_compress, mapError_of_ok, ok_bind, hdecode, mapError_of_ok,
    ok_bind, hlines, hread]

/-! ### Nesting -/

/-- The printer has only so much room, and the report is too deep for it. -/
def TooDeep (report : Report) (fault : Option PackagingFault) : Prop :=
  ∃ room v, fault = some (.shallow room) ∧ report.toValue = .ok v ∧
    Json.printWithin room v = .error .tooDeep

/-- In particular, it is nested deeper than there is room. -/
theorem TooDeep.lt_nesting {fault : Option PackagingFault} (h : report.TooDeep fault) :
    ∃ room v, fault = some (.shallow room) ∧ report.toValue = .ok v ∧ room < v.nesting := by
  obtain ⟨room, v, hfault, hvalue, hdeep⟩ := h
  exact ⟨room, v, hfault, hvalue, Json.lt_nesting_of_tooDeep hdeep⟩

/-- A report that can be written is too deep as soon as it is nested deeper than there is room. -/
theorem Plain.tooDeep (h : report.Plain) {room : Nat} {v : Value} (hvalue : report.toValue = .ok v)
    (hroom : room < v.nesting) : report.TooDeep (some (.shallow room)) := by
  obtain ⟨members, hmembers, hjson, -⟩ := h.roundTrip
  obtain rfl := Except.ok.inj (hvalue.symm.trans hmembers)
  obtain ⟨text, hprint, -⟩ := Json.read_print hjson
  exact ⟨room, _, rfl, hvalue, (Json.printWithin_tooDeep hprint).2 hroom⟩

theorem encoded_ne_tooDeep (report : Report) :
    report.encoded ≠ .error (.unprintable .tooDeep) := by
  intro h
  rcases Report.encoded_error.1 h with ⟨_, -, ⟨⟩⟩ | ⟨v, -, ⟨_, hprint, ⟨⟩⟩ | ⟨_, -, _, -, ⟨⟩⟩⟩
  exact Json.print_ne_tooDeep v hprint

/-- Where it is not too deep, a report is encoded as it would be with plenty of room. -/
theorem encodedWithin_cases (room : Nat) (report : Report) :
    report.encodedWithin room = report.encoded ∨
      report.encodedWithin room = .error (.unprintable .tooDeep) := by
  rcases hvalue : report.toValue with error | v
  · rw [encodedWithin, encoded, document, hvalue]
    exact .inl rfl
  · generalize hwithin : Json.printWithin room v = within
    generalize hwhole : Json.print v = whole
    rw [encodedWithin, encoded, document, hvalue, mapError_of_ok, ok_bind, ok_bind, hwithin, hwhole]
    cases hwithin ▸ hwhole ▸ Json.within_print room v with
    | printed | failed => exact .inl rfl
    | tooDeep => exact .inr rfl

theorem encodedWithin_tooDeep {room : Nat} :
    report.encodedWithin room = .error (.unprintable .tooDeep) ↔
      report.TooDeep (some (.shallow room)) := by
  constructor
  · intro h
    rcases bind_error.1 h with h | ⟨v, hvalue, h⟩
    · obtain ⟨_, -, ⟨⟩⟩ := mapError_error.1 h
    · rcases bind_error.1 h with h | ⟨text, -, h⟩
      · obtain ⟨_, hprint, ⟨⟩⟩ := mapError_error.1 h
        exact ⟨room, v, rfl, mapError_ok.1 hvalue, hprint⟩
      · obtain ⟨_, -, ⟨⟩⟩ := mapError_error.1 h
  · rintro ⟨_, v, ⟨⟩, hvalue, hdeep⟩
    rw [encodedWithin, hvalue, mapError_of_ok, ok_bind, hdeep]
    rfl

/-- Packaging encodes a report as anybody else does, unless it is too deep. -/
theorem packaged_cases (fault : Option PackagingFault) (report : Report) :
    PackagingFault.encoded fault report = report.encoded ∧ ¬ report.TooDeep fault ∨
      PackagingFault.encoded fault report = .error (.unprintable .tooDeep) ∧
        report.TooDeep fault := by
  unfold PackagingFault.encoded
  split
  · next room =>
    rcases encodedWithin_cases room report with hsame | hdeep
    · refine .inl ⟨hsame, fun hdeep => report.encoded_ne_tooDeep ?_⟩
      rw [← hsame, encodedWithin_tooDeep.2 hdeep]
    · exact .inr ⟨hdeep, encodedWithin_tooDeep.1 hdeep⟩
  · next hother =>
    refine .inl ⟨rfl, ?_⟩
    rintro ⟨room, v, rfl, -⟩
    exact hother room rfl

end Report

/-! ### Artifacts -/

namespace TempArea

variable {area : TempArea} {fault : Option PackagingFault} {report : Report} {artifact : Artifact}

/-- What packaging a report gives: its compressed document, unless the file disappeared. -/
inductive Packs (fault : Option PackagingFault) (report : Report) : Artifact → Prop
  | lost (n : Nat) (path : Text) (hfault : fault = some .loseFile) :
      Packs fault report ⟨n, path, none⟩
  | kept (n : Nat) (path : Text) {bytes : Bytes} (hfault : fault ≠ some .loseFile)
      (hbytes : report.encoded = .ok bytes) :
      Packs fault report ⟨n, path, some (Gzip.compress bytes)⟩

/-- A file that is there holds the compressed document. -/
theorem Packs.content {content : Bytes} (h : Packs fault report artifact)
    (hcontent : artifact.content = some content) :
    ∃ bytes, content = Gzip.compress bytes ∧ report.encoded = .ok bytes := by
  cases h with
  | lost => cases hcontent
  | kept _ _ _ hbytes =>
    cases hcontent
    exact ⟨_, rfl, hbytes⟩

/-- The ways packaging can go: what comes of it, and the area it leaves. A directory that was made
is named by the result, unless the report has a member that cannot write itself or is too deep. -/
inductive Packages (area : TempArea) (fault : Option PackagingFault) (report : Report) :
    Except PackagingStop Artifact → TempArea → Prop
  | noDirectory {error : PackagingError} :
      Packages area fault report (.error (.packaging error none)) area
  | broken {error : PackagingError} :
      Packages area fault report (.error (.packaging error (some area.add.1))) area.add.2
  | unwritten {error : CoercionError} (hencoded : report.encoded = .error (.unwritable error)) :
      Packages area fault report (.error (.unwritable error)) area.add.2
  | tooDeep (hdeep : report.TooDeep fault) : Packages area fault report (.error .tooDeep) area.add.2
  | made {artifact : Artifact} (hdirectory : artifact.directory = area.add.1)
      (hpacks : Packs fault report artifact) : Packages area fault report (.ok artifact) area.add.2

theorem packages_writeArtifact :
    Packages area fault report (area.add.2.writeArtifact area.add.1 fault report) area.add.2 := by
  unfold writeArtifact
  split
  · exact .broken
  · rcases report.packaged_cases fault with ⟨hsame, -⟩ | ⟨hfailed, hdeep⟩
    · rw [hsame]
      split
      · next error hencoded => exact .unwritten hencoded
      · next hencoded => exact absurd hencoded report.encoded_ne_tooDeep
      · exact .broken
      · exact .broken
      · next hnotFile bytes hbytes =>
        split
        · exact .broken
        · exact .made rfl (.lost _ _ rfl)
        · next hnotWrite hnotLose => exact .made rfl (.kept _ _ hnotLose hbytes)
    · rw [hfailed]
      exact .tooDeep hdeep

theorem package_run {result : Except PackagingStop Artifact} {left : TempArea}
    (h : area.package fault report = (result, left)) : Packages area fault report result left := by
  unfold package at h
  split at h
  · cases h
    exact .noDirectory
  · cases h
    exact packages_writeArtifact

theorem package_of_tooDeep (area : TempArea) (h : report.TooDeep fault) :
    area.package fault report = (.error .tooDeep, area.add.2) := by
  obtain ⟨room, v, rfl, hvalue, hdeep⟩ := h
  have hencoded := Report.encodedWithin_tooDeep.2 ⟨room, v, rfl, hvalue, hdeep⟩
  simp only [package, writeArtifact, PackagingFault.encoded, hencoded]

theorem package_ok (h : (area.package fault report).1 = .ok artifact) :
    Packs fault report artifact := by
  rcases hrun : area.package fault report with ⟨result, left⟩
  rw [hrun] at h
  cases h
  cases package_run hrun with
  | made _ hpacks => exact hpacks

/-- Where nothing goes wrong, a report that can be encoded is packaged. -/
theorem package_encoded (area : TempArea) {bytes : Bytes}
    (h : report.encoded = .ok bytes) :
    ∃ artifact, area.package none report = (.ok artifact, area.add.2) ∧
      artifact.content = some (Gzip.compress bytes) := by
  refine ⟨⟨area.add.1, area.add.2.filePath area.add.1, some (Gzip.compress bytes)⟩, ?_, rfl⟩
  simp only [package, writeArtifact, PackagingFault.encoded, h]

end TempArea
end ReportDelivery
