import ReportDelivery.Proofs.Command.Completion
import ReportDelivery.Proofs.Delivery.Repeated

/-! The two commands agree.

A build writes the report on its inputs to a file, and sending uploads one. They come to their
report in different places and write it in different ways. `commands_agree` says that on the same
inputs it is the same document, character for character, if the build insists on the identity as
sending always does; and that sending asks the collector for nothing where such a build has no
report. -/
namespace ReportDelivery

/-! ### Texts in files -/

/-- The text in a compressed file. -/
def packedText (content : Bytes) : Except Failure Text := do
  let bytes ← (Gzip.decompress content).mapError Failure.gzip
  (Utf8.decode bytes).mapError Failure.decoding

/-- The text in an output file: compressed if the name says so. -/
def outputText (output : Text) (content : Bytes) : Except Failure Text :=
  if Path.suffix output = ".gz" then packedText content
  else (Utf8.decode content).mapError Failure.decoding

theorem packedText_of_decompress {content bytes : Bytes} {text : Text}
    (hcontent : Gzip.decompress content = .ok bytes) (htext : Utf8.encode text = .ok bytes) :
    packedText content = .ok text := by
  rw [packedText, hcontent, mapError_of_ok, ok_bind, Utf8.decode_encode htext, mapError_of_ok]

theorem outputText_outputContent {bytes : Bytes} {text : Text}
    (htext : Utf8.encode text = .ok bytes) (output : Text) : outputText output (World.outputContent output bytes) = .ok text := by
  unfold outputText World.outputContent
  split
  · exact packedText_of_decompress (Gzip.decompress_compress bytes) htext
  · rw [Utf8.decode_encode htext, mapError_of_ok]

/-! ### Loaded results -/

/-- No report comes with the results of a scan. -/
theorem ScanData.ofMembers_report {root : Members} {scan : ScanData}
    (h : ofMembers root = .ok scan) : scan.report = none := by
  unfold ofMembers at h
  dsimp only at h
  split at h
  · obtain ⟨findings, -, h⟩ := bind_ok.1 h
    obtain ⟨ignored, -, h⟩ := bind_ok.1 h
    obtain ⟨dataflow, -, ⟨⟩⟩ := bind_ok.1 h
    rfl
  · cases h
  · cases h
  · cases h

theorem World.loadInputs_report {world : World} {arguments : Arguments} {scan : ScanData}
    {context : Option Repository} (h : world.loadInputs arguments = .ok (scan, context)) :
    scan.report = none := by
  obtain ⟨path, content, hload⟩ := loadInputs_ok h
  obtain ⟨v, -, h⟩ := bind_ok.1 hload
  split at h
  · exact ScanData.ofMembers_report h
  · cases h

/-! ### Same inputs -/

/-- Worlds that give the commands the same to read: files, variables and home directories. The
collector and the temporary directories are each world's own. -/
structure World.SameInputs (world world' : World) : Prop where
  files : world.files = world'.files
  environ : world.environ = world'.environ
  homes : world.homes = world'.homes

/-- Arguments that ask for the same report, maybe of different commands. -/
structure Arguments.SameInputs (arguments arguments' : Arguments) : Prop where
  reportData : arguments.reportData = arguments'.reportData
  target : arguments.target = arguments'.target
  gitContext : arguments.gitContext = arguments'.gitContext
  rulesVersion : arguments.rulesVersion = arguments'.rulesVersion

theorem Arguments.SameInputs.settings {arguments arguments' : Arguments}
    (h : arguments.SameInputs arguments') : arguments.settings = arguments'.settings := by
  rw [Arguments.settings, h.target, h.rulesVersion]
  rfl

theorem World.SameInputs.loadInputs {world world' : World} {arguments arguments' : Arguments}
    (hworld : world.SameInputs world') (harguments : arguments.SameInputs arguments') :
    world.loadInputs arguments = world'.loadInputs arguments' := by
  obtain ⟨files, environ, homes, _, _⟩ := world
  obtain ⟨reportData, target, gitContext, rulesVersion, _, _⟩ := arguments
  obtain ⟨rfl, rfl, rfl⟩ := hworld
  obtain ⟨rfl, rfl, rfl, rfl⟩ := harguments
  rfl

/-! ### Uploads that are made -/

namespace Client

variable {client : Client} {reply : Nat → Reply} {made : List Request}

/-- A file is uploaded exactly if the collector makes an offer. -/
theorem Uploads.put_iff {file : UploadFile} {body : Bytes} {result : Except ClientError Offer}
    (h : client.Uploads file body reply made result) :
    (∃ request ∈ made, request.method = .put) ↔ ∃ offer, (reply 0).Offers offer := by
  cases h with
  | noOffer hnone =>
    refine iff_of_false ?_ (fun ⟨offer, hoffer⟩ => hnone offer hoffer)
    rintro ⟨request, hmem, hput⟩
    rw [List.mem_singleton.1 hmem] at hput
    cases hput
  | refused hoffer | done hoffer =>
    exact iff_of_true ⟨_, List.mem_cons_of_mem _ (List.mem_singleton.2 rfl), rfl⟩ ⟨_, hoffer⟩

theorem Delivers.put_iff {identity left : Identity} {artifact : Artifact} {content : Bytes}
    {result : Except Failure Unit} (hcontent : artifact.content = some content)
    (h : client.Delivers identity artifact reply made result left) :
    (∃ request ∈ made, request.method = .put) ↔ ∃ offer, (reply 0).Offers offer := by
  cases h with
  | missing hmissing => cases hmissing.symm.trans hcontent
  | notUploaded _ hupload => exact hupload.put_iff
  | notAnnounced _ hupload | done _ hupload =>
    -- The announcement comes on top, and it is not a PUT.
    rw [← hupload.put_iff]
    refine ⟨?_, fun ⟨request, hmem, hput⟩ => ⟨request, List.mem_append_left _ hmem, hput⟩⟩
    rintro ⟨request, hmem, hput⟩
    rcases List.mem_append.1 hmem with hmem | hmem
    · exact ⟨request, hmem, hput⟩
    · rw [List.mem_singleton.1 hmem] at hput
      cases hput

end Client

theorem Attempt.put_iff {attempt : Attempt} {scan kept : ScanData} {report : Report} {bytes : Bytes}
    (hfault : attempt.fault = none)
    (hsend : scan.reportToSend attempt.settings attempt.context = .ok (report, kept))
    (hbytes : report.encoded = .ok bytes) :
    (∃ request ∈ attempt.made scan, request.method = .put) ↔
      ∃ offer, (attempt.conversation.reply 0).Offers offer := by
  rcases hrun : attempt.run scan with ⟨answer, s'⟩
  have hscan : (attempt.start scan).scan.reportToSend attempt.settings attempt.context =
    .ok (report, kept) := hsend
  obtain ⟨artifact, hpackaged, hcontent⟩ := attempt.area.package_encoded hbytes
  have harea : (attempt.start scan).area.package attempt.fault report =
    (.ok artifact, attempt.area.add.2) := hfault ▸ hpackaged
  cases deliverScan_run hrun with
  | unreported hsend | unassembled hsend =>
    rw [hscan] at hsend
    cases hsend
  | unpackaged hsend hpackage | unwritten hsend hpackage | tooDeep hsend hpackage =>
    rw [hscan] at hsend
    cases hsend
    cases hpackage.symm.trans harea
  | sent hsend hpackage hways _ _ hconversation =>
    rw [hscan] at hsend
    cases hsend
    cases hpackage.symm.trans harea
    rw [made_of_after (by rw [hrun]; exact hconversation)]
    exact hways.put_iff hcontent

/-! ### Sending -/

namespace World

variable {world : World} {arguments : Arguments} {send : SendArguments} {key : Text}
  {scan : ScanData} {context : Option Repository}

/-- The delivery that sending comes to. -/
def delivery (world : World) (arguments : Arguments) (send : SendArguments) (key : Text)
    (context : Option Repository) : Attempt where
  client := .create key (chooseHost (send.host.bind Setting.value?) world.environ)
    Client.defaultUserAgent send.seconds
  verbose := arguments.verbose
  settings := arguments.settings
  context
  fault := none
  sessionError := none
  area := world.area
  conversation := { replies := world.replies }
  log := []

theorem runSend_eq
    (hkey : chooseApiKey (send.apiKey.bind Setting.value?) world.environ = some key)
    (hinputs : world.loadInputs arguments = .ok (scan, context)) :
    world.runSend arguments send =
      world.afterDelivery arguments.verbose
        (chooseHost (send.host.bind Setting.value?) world.environ)
        ((world.delivery arguments send key context).run scan).1
        ((world.delivery arguments send key context).run scan).2 := by
  rw [runSend_def]
  rw [hkey, hinputs]
  rfl

theorem requests_afterDelivery (verbose : Bool) (host : Text) (delivered : Except Failure Bool)
    (s : DeliveryState) :
    (world.afterDelivery verbose host delivered s).requests = some s.conversation.requests := by
  rw [afterDelivery_def]
  split <;> rfl

theorem runSend_requests
    (hkey : chooseApiKey (send.apiKey.bind Setting.value?) world.environ = some key)
    (hinputs : world.loadInputs arguments = .ok (scan, context)) :
    (world.runSend arguments send).requests =
      some ((world.delivery arguments send key context).made scan) := by
  rw [runSend_eq hkey hinputs, requests_afterDelivery]
  rfl

/-- Without a report nothing is sent. -/
theorem runSend_of_report_error
    (hkey : chooseApiKey (send.apiKey.bind Setting.value?) world.environ = some key)
    (hinputs : world.loadInputs arguments = .ok (scan, context)) {error : ReportError}
    (h : scan.reportToSend arguments.settings context = .error (.report error)) :
    (world.runSend arguments send).exit = .ok 1 ∧
      (world.runSend arguments send).requests = some [] := by
  have hdelivery : scan.reportToSend (world.delivery arguments send key context).settings
    (world.delivery arguments send key context).context = .error (.report error) := h
  obtain ⟨-, hmade⟩ := Attempt.step_error hdelivery
  rw [runSend_requests hkey hinputs, hmade]
  refine ⟨?_, rfl⟩
  rcases hrun : (world.delivery arguments send key context).run scan with ⟨answer, s'⟩
  rw [runSend_eq hkey hinputs, hrun]
  have hanswer : answer = .ok false := by
    cases deliverScan_run hrun with
    | unreported => rfl
    | unassembled hother hnone =>
      cases hother.symm.trans hdelivery
      exact absurd rfl (hnone error)
    | unpackaged hok | unwritten hok | tooDeep hok | sent hok => cases hok.symm.trans hdelivery
  rw [hanswer, afterDelivery_def]

/-- A document that is written by both commands: `text` is in the file that the build left at its
output, and in every upload that sending made. There is an upload exactly if the collector makes an
offer. -/
structure Documents (built : FileSystem) (output : Text) (requests : List Request)
    (firstReply : Reply) (text : Text) : Prop where
  written : ∃ content, built.read output = .ok content ∧ outputText output content = .ok text
  uploaded : ∀ request ∈ requests, request.method = .put →
    ∃ body, request.payload = .body body ∧ packedText body = .ok text
  offered : (∃ request ∈ requests, request.method = .put) ↔ ∃ offer, firstReply.Offers offer

end World

/-! ### The main theorem -/

section
variable {world world' : World} {arguments arguments' : Arguments} {build : BuildArguments}
  {send : SendArguments} {key : Text}

theorem World.documents_of_built (hworld : world.SameInputs world')
    (harguments : arguments.SameInputs arguments') (hstrict : build.strict = true)
    (hkey : chooseApiKey (send.apiKey.bind Setting.value?) world'.environ = some key)
    (hexit : (world.runBuild arguments build).exit = .ok 0) :
    ∃ output text requests, world.pathOf build.output = .ok output ∧
      (world'.runSend arguments' send).requests = some requests ∧
      Documents (world.runBuild arguments build).files output requests
        (({ replies := world'.replies } : Conversation).reply 0) text := by
  obtain ⟨scan, context, report, kept, hinputs, hassemble, hrun⟩ := runBuild_ok hexit
  rw [hrun] at hexit ⊢
  obtain ⟨output, bytes, hpath, hbytes, hfile⟩ := writeReport_ok hexit
  obtain ⟨text, -, hencode⟩ := Report.encoded_ok.1 hbytes
  -- Sending loads the same inputs, so it assembles the same report.
  rw [hstrict, harguments.settings] at hassemble
  have hsend := hassemble
  rw [← ScanData.reportToSend_of_none (loadInputs_report hinputs)] at hsend
  rw [hworld.loadInputs harguments] at hinputs
  let attempt := world'.delivery arguments' send key context
  have hattempt : scan.reportToSend attempt.settings attempt.context = .ok (report, kept) := hsend
  refine ⟨output, text, attempt.made scan, hpath, runSend_requests hkey hinputs, ?_, ?_, ?_⟩
  · exact ⟨_, hfile, outputText_outputContent hencode output⟩
  · intro request hmem hput
    obtain ⟨body, bytes', hpayload, hbody, hbytes'⟩ :=
      (Attempt.step_ok hattempt).2 request hmem hput
    obtain rfl := Except.ok.inj (hbytes.symm.trans hbytes')
    exact ⟨body, hpayload, packedText_of_decompress hbody hencode⟩
  · exact Attempt.put_iff rfl hattempt hbytes

/-- **Main theorem.** Let the commands read the same inputs, the build insist on the identity, and
sending have a key. After a build that succeeded, sending uploads the document that was built,
whatever the collector does, provided it gets so far. And if such a build fails for want of a
report, sending makes no request and fails as well. -/
theorem commands_agree (hworld : world.SameInputs world')
    (harguments : arguments.SameInputs arguments') (hstrict : build.strict = true)
    (hkey : (chooseApiKey (send.apiKey.bind Setting.value?) world'.environ).isSome) :
    ((world.runBuild arguments build).exit = .ok 0 →
      ∃ output text requests, world.pathOf build.output = .ok output ∧
        (world'.runSend arguments' send).requests = some requests ∧
        World.Documents (world.runBuild arguments build).files output requests
          (({ replies := world'.replies } : Conversation).reply 0) text) ∧
    ∀ scan context failure, world.loadInputs arguments = .ok (scan, context) →
      scan.assembleReport arguments.settings context build.strict = .error failure →
      (world.runBuild arguments build).exit = .ok 1 →
        (world'.runSend arguments' send).exit = .ok 1 ∧
        (world'.runSend arguments' send).requests = some [] := by
  obtain ⟨key, hkey⟩ := Option.isSome_iff_exists.1 hkey
  refine ⟨World.documents_of_built hworld harguments hstrict hkey, ?_⟩
  intro scan context failure hinputs hassemble hexit
  obtain ⟨error, rfl⟩ : ∃ error, failure = .report error := by
    cases failure with
    | report error => exact ⟨error, rfl⟩
    | _ =>
      rw [World.runBuild_def, hinputs] at hexit
      dsimp only at hexit
      rw [hassemble] at hexit
      cases hexit
  rw [hstrict, harguments.settings,
    ← ScanData.reportToSend_of_none (World.loadInputs_report hinputs)] at hassemble
  rw [hworld.loadInputs harguments] at hinputs
  exact World.runSend_of_report_error hkey hinputs hassemble

end

/-! ### With and without a repository -/

/-- Everything that is required about a repository. -/
def repositoryEnviron : Environment :=
  [("BEARER_BRANCH", "topic"), ("BEARER_DEFAULT_BRANCH", "main"), ("BEARER_COMMIT", "c0ffee"),
    ("BEARER_REPOSITORY_URL", "https://git.test/r")]

namespace World

/-- Scan results, and a collector that has not answered yet. -/
def sampleIn (environ : Environment) : World := { sample Report.sampleFile with environ }

/-- The same where the collector makes an offer. -/
def offeredIn (environ : Environment) : World :=
  { sampleIn environ with replies := sampleStart.conversation.replies }

def strictBuild : BuildArguments := { sampleBuild with strict := true }

def sampleSend : SendArguments := ⟨some (.value " key"), none, .emptied⟩

theorem sameInputs_offered (environ : Environment) :
    (sampleIn environ).SameInputs (offeredIn environ) := ⟨rfl, rfl, rfl⟩

end World

def sendingArguments : Arguments :=
  { World.sampleArguments (.value ".") with verbose := true, verb := .send World.sampleSend }

theorem sampleCommands_agree :
    (∃ text content requests body,
      ((World.sampleIn repositoryEnviron).runBuild (World.sampleArguments (.value "."))
        World.strictBuild).files.read "out/report.json.gz" = .ok content ∧
      outputText "out/report.json.gz" content = .ok text ∧
      ((World.offeredIn repositoryEnviron).runSend sendingArguments World.sampleSend).requests =
        some requests ∧
      (∃ request ∈ requests, request.method = .put ∧ request.payload = .body body) ∧
      packedText body = .ok text) ∧
    ((World.sampleIn []).runBuild (World.sampleArguments (.value ".")) World.strictBuild).exit =
      .ok 1 ∧
    ((World.offeredIn []).runSend sendingArguments World.sampleSend).exit = .ok 1 ∧
    ((World.offeredIn []).runSend sendingArguments World.sampleSend).requests = some [] := by
  have harguments : (World.sampleArguments (.value ".")).SameInputs sendingArguments :=
    ⟨rfl, rfl, rfl, rfl⟩
  have hstrict : World.strictBuild.strict = true := rfl
  have hkey (environ : Environment) : (chooseApiKey (World.sampleSend.apiKey.bind Setting.value?)
    (World.offeredIn environ).environ).isSome := rfl
  refine ⟨?_, ?_⟩
  · obtain ⟨hbuilt, -⟩ := commands_agree (World.sameInputs_offered repositoryEnviron) harguments
      hstrict (hkey repositoryEnviron)
    obtain ⟨output, text, requests, ⟨⟩, hrequests, ⟨content, hread, htext⟩, huploaded, hoffered⟩ :=
      hbuilt (World.exit_of_toOption (by decide +kernel))
    have hoffer : (Reply.offer? (({ replies := (World.offeredIn repositoryEnviron).replies } :
        Conversation).reply 0)).isSome = true := by decide +kernel
    obtain ⟨offer, hoffer⟩ := Option.isSome_iff_exists.1 hoffer
    obtain ⟨request, hmem, hput⟩ := hoffered.2 ⟨offer, Reply.offers_iff.2 hoffer⟩
    obtain ⟨body, hpayload, hbody⟩ := huploaded request hmem hput
    exact ⟨text, content, requests, body, hread, htext, hrequests,
      ⟨request, hmem, hput, hpayload⟩, hbody⟩
  · obtain ⟨-, hfailed⟩ :=
      commands_agree (World.sameInputs_offered []) harguments hstrict (hkey [])
    obtain ⟨scan, report, kept, hload, -⟩ := Report.sampleFile_reported
    have hinputs : (World.sampleIn []).loadInputs (World.sampleArguments (.value ".")) =
        .ok (scan, none) := World.loadInputs_sample (.value ".") hload
    have hassemble : scan.assembleReport (World.sampleArguments (.value ".")).settings none
        World.strictBuild.strict = .error (.report .notARepository) := rfl
    have hexit : ((World.sampleIn []).runBuild (World.sampleArguments (.value "."))
        World.strictBuild).exit = .ok 1 := by
      rw [World.runBuild_of_report_error hinputs hassemble]
      rfl
    exact ⟨hexit, hfailed scan none _ hinputs hassemble hexit⟩

end ReportDelivery
