/-
Readers of files: what they report, and what ends a run without a word.

A document, the project's settings and a JSON value of an option are all read the
same way: the bytes of a file become a text, and the text becomes a value. Every
reader has a family of errors of its own for what goes wrong on the way, and the
program tells these errors and ends with their exit codes.

# Bytes

The families cover every text that is no JSON, is blank or holds the wrong kind of
value. They do not cover bytes that are no text: what cannot be decoded is a fault,
and so is a limit that the parser comes upon. Each reader hands the text of the
file to the same parser, and has a fault exactly where the bytes come to one
(`ReadsBytes.of_jsonOf`); so all readers report for the same bytes
(`file_readers_report_iff`).
-/
import ApiCommands.Body.Options
import ApiCommands.Call.Session
import ApiCommands.CommandLine.Run
import ApiCommands.Proofs.Document.Json.Texts
import ApiCommands.Proofs.Storage.ArtifactFiles
import ApiCommands.Proofs.Storage.Reading

namespace ApiCommands

variable {bytes : ByteArray}

-- ====================================================== reports

namespace Error

/-- The family of the readers of documents. -/
def IsSpec (e : Error) : Prop := ∃ cause, e = .spec cause

/-- The family of the readers of settings. -/
def IsConfig (e : Error) : Prop := ∃ cause, e = .config cause

/-- The family of the readers of options. -/
def IsUsage (e : Error) : Prop := ∃ cause, e = .usage cause

end Error

/-- A reader gives an answer of a kind, or an error of a family. -/
def Reports {α : Type} (answer : α → Prop) (family : Error → Prop) : Except Error α → Prop
  | .ok a => answer a
  | .error e => family e

/-- What a reader does with bytes: it reports if they can be read as JSON, and has a fault if they
are no text. -/
structure ReadsBytes {α : Type} (bytes : ByteArray) (answer : α → Prop) (family : Error → Prop)
    (x : Except Error α) : Prop where
  reports_iff : Reports answer family x ↔ ReadsAsJson bytes
  undecodable : ¬bytes.IsValidUTF8 → x = .error (.fault .undecodable)

/-- A reader does so if it hands on the faults of the bytes, and reports whatever else they come
to. -/
theorem ReadsBytes.of_jsonOf {α : Type} {answer : α → Prop} {family : Error → Prop}
    {x : Except Error α} (hfamily : ∀ f, ¬family (.fault f))
    (hfault : ∀ f, jsonOf bytes = .error f → x = .error (.fault f))
    (hread : ∀ r, jsonOf bytes = .ok r → Reports answer family x) :
    ReadsBytes bytes answer family x := by
  refine ⟨?_, fun hbytes => hfault _ (jsonOf_of_not_isValidUTF8 hbytes)⟩
  rw [readsAsJson_iff]
  constructor
  · intro hreports
    cases hjson : jsonOf bytes with
    | error f =>
        rw [hfault f hjson] at hreports
        exact absurd hreports (hfamily f)
    | ok r => exact ⟨r, rfl⟩
  · intro hjson
    obtain ⟨r, hr⟩ := hjson
    exact hread r hr

-- ====================================================== documents

/-- The answer of a reader of documents. -/
def IsMapping (v : Value) : Prop := ∃ entries, v = .map entries

/-- What is required to be a mapping is one, or an error of its family. -/
theorem reports_requireMapping (v : Value) : Reports IsMapping Error.IsSpec (requireMapping v) := by
  unfold requireMapping
  split
  · exact ⟨_, rfl⟩
  · exact ⟨_, rfl⟩
  · exact ⟨_, rfl⟩

namespace Surroundings

variable {s : Surroundings} {p : DiskPath}

/-- What becomes of a file that is read as a document. -/
theorem readFile_of_find (h : s.disk.find p = .ok (.file bytes)) :
    s.readFile p = match textOf? bytes with
      | some content =>
        if Text.isBlank content.toList then .error (.spec (.emptyFile p.text))
        else readDocument content (Format.ofSuffix? p.suffix)
      | none => .error (.fault .undecodable) := by
  unfold readFile
  rw [Disk.isFile_of_find h, Disk.readText_of_find h]
  cases textOf? bytes with
  | none => rfl
  | some content =>
      by_cases hblank : Text.isBlank content.toList = true
      · simp [hblank, Except.mapError, bind, Except.bind, throw, throwThe, MonadExceptOf.throw]
      · simp [hblank, Except.mapError, bind, Except.bind]

/-- A file whose suffix says JSON is read as a document by its bytes. -/
theorem readsBytes_readFile (hsuffix : p.suffix = ".json")
    (h : s.disk.find p = .ok (.file bytes)) :
    ReadsBytes bytes IsMapping Error.IsSpec (s.readFile p) := by
  have hformat : Format.ofSuffix? p.suffix = some .json := by
    rw [hsuffix]
    rfl
  rw [readFile_of_find h, hformat]
  refine .of_jsonOf (fun f => by simp [Error.IsSpec]) (fun f hf => ?_) fun r hr => ?_
  · unfold jsonOf at hf
    split at hf
    · next htext =>
      rw [htext, ← Except.error.inj hf]
    · next content htext =>
      split at hf
      · cases hf
      · cases hf
      · next l hlimit =>
        -- a blank text would have been within the limits
        have hblank : Text.isBlank content.toList ≠ true := fun hblank =>
          Json.withinLimits_of_isBlank hblank l hlimit
        rw [htext, ← Except.error.inj hf]
        dsimp only
        rw [if_neg hblank]
        unfold readDocument
        dsimp only
        rw [hlimit]
  · unfold jsonOf at hr
    split at hr
    · cases hr
    · next content htext =>
      rw [htext]
      dsimp only
      split
      · exact ⟨_, rfl⟩
      · unfold readDocument
        dsimp only
        split at hr
        · next v hvalue =>
          rw [hvalue]
          exact reports_requireMapping v
        · next m hmisread =>
          rw [hmisread]
          exact ⟨_, rfl⟩
        · cases hr

end Surroundings

-- ====================================================== settings and options

namespace Workplace

variable {w : Workplace} {p : DiskPath} {shown what file : String}

/-- What becomes of the project's file. -/
theorem projectSettings_of_find (h : w.disk.find (.ofString projectFile) = .ok (.file bytes)) :
    w.projectSettings shown = match jsonOf bytes with
      | .error f => .error (.fault f)
      | .ok (.error m) => .error (.config (.project shown (.json m)))
      | .ok (.ok (.map entries)) => .ok entries
      | .ok (.ok _) => .error (.config (.projectNotObject shown)) := by
  unfold projectSettings readConfigFile readConfig jsonOf
  dsimp only
  rw [Disk.isFile_of_find h, Disk.readText_of_find h]
  cases textOf? bytes with
  | none => rfl
  | some content =>
      dsimp only
      cases Json.parse content with
      | ok v => cases v <;> rfl
      | error e => cases e <;> rfl

/-- The project's file is read as settings by its bytes. -/
theorem readsBytes_projectSettings
    (h : w.disk.find (.ofString projectFile) = .ok (.file bytes)) :
    ReadsBytes bytes (fun _ => True) Error.IsConfig (w.projectSettings shown) := by
  rw [projectSettings_of_find h]
  refine .of_jsonOf (fun f => by simp [Error.IsConfig]) (fun f hf => ?_) fun r hr => ?_
  · rw [hf]
  · rw [hr]
    split
    · next f hf => cases hf
    · exact ⟨_, rfl⟩
    · trivial
    · exact ⟨_, rfl⟩

/-- The text that an option's file has. -/
theorem textOf_of_find (hpath : w.path file = .ok p) (h : w.disk.find p = .ok (.file bytes)) :
    w.textOf what ("@" ++ file) = match textOf? bytes with
      | some content => .ok content
      | none => .error (.fault .undecodable) := by
  have hat : ("@" ++ file).toList = '@' :: file.toList := by simp
  have hread : w.readFile what file = match textOf? bytes with
      | some content => .ok content
      | none => .error (.fault .undecodable) := by
    unfold readFile
    rw [hpath]
    dsimp only [bind, Except.bind, Except.mapError]
    rw [Disk.readText_of_find h]
    cases textOf? bytes <;> rfl
  unfold textOf
  rw [hat]
  show w.readFile what (String.ofList file.toList) = _
  rw [String.ofList_toList, hread]

/-- What becomes of a file that an option names. -/
theorem readJson_of_find (hpath : w.path file = .ok p) (h : w.disk.find p = .ok (.file bytes)) :
    w.readJson what ("@" ++ file) = match jsonOf bytes with
      | .error f => .error (.fault f)
      | .ok (.error m) => .error (.usage (.invalidJson what m))
      | .ok (.ok v) => .ok v := by
  unfold readJson jsonOf
  rw [textOf_of_find hpath h]
  cases textOf? bytes with
  | none => rfl
  | some content =>
      dsimp only [bind, Except.bind]
      cases Json.parse content with
      | ok v => rfl
      | error e => cases e <;> rfl

/-- A file that an option names is read as a value by its bytes. -/
theorem readsBytes_readJson (hpath : w.path file = .ok p) (h : w.disk.find p = .ok (.file bytes)) :
    ReadsBytes bytes (fun _ => True) Error.IsUsage (w.readJson what ("@" ++ file)) := by
  rw [readJson_of_find hpath h]
  refine .of_jsonOf (fun f => by simp [Error.IsUsage]) (fun f hf => ?_) fun r hr => ?_
  · rw [hf]
  · rw [hr]
    split
    · next f hf => cases hf
    · exact ⟨_, rfl⟩
    · trivial

end Workplace

-- ====================================================== endings

/-- An error of one of the families. -/
def Error.IsReported (e : Error) : Prop := e.IsSpec ∨ e.IsConfig ∨ e.IsUsage

variable {e : Error}

/-- An error of a family has words. -/
theorem Error.IsReported.exists_message (h : e.IsReported) : ∃ words, e.message? = some words := by
  rcases h with ⟨cause, rfl⟩ | ⟨cause, rfl⟩ | ⟨cause, rfl⟩
  · exact ⟨_, rfl⟩
  · exact ⟨_, rfl⟩
  · exact ⟨_, rfl⟩

/-- A run that comes to an error of a family ends with its exit code. -/
theorem Machine.finish_of_isReported {m : Machine} {v : Voice} {d : Disk} {told : Told Nat}
    (h : e.IsReported) (htold : told.outcome = .error e) :
    ∃ transcript, m.finish v d told = .ok ⟨d, transcript, e.exitCode⟩ := by
  unfold finish
  rw [htold]
  rcases h with ⟨cause, rfl⟩ | ⟨cause, rfl⟩ | ⟨cause, rfl⟩
  · exact ⟨_, rfl⟩
  · exact ⟨_, rfl⟩
  · exact ⟨_, rfl⟩

/-- So does a generation that comes to one before it writes anything. -/
theorem Machine.run_generate_of_isReported {m : Machine} {v : Voice} {o : GenerateOptions}
    (h : e.IsReported) (hprepare : (m.prepare v o).outcome = .error e) :
    ∃ transcript, m.run (.generate v o) = .ok ⟨m.disk, transcript, e.exitCode⟩ := by
  have hgenerate : m.generate v o = (m.disk, m.prepare v o >>= fun _ => pure ()) := by
    unfold generate
    dsimp only
    rw [hprepare]
  have htold : ((fun _ => 0) <$> (m.generate v o).2).outcome = .error e := by
    rw [hgenerate]
    show ((m.prepare v o >>= fun _ => pure ()) >>= fun _ => pure 0).outcome = .error e
    rw [Told.outcome_bind, Told.outcome_bind, hprepare]
    rfl
  have hdisk : (m.generate v o).1 = m.disk := by rw [hgenerate]
  obtain ⟨transcript, hfinish⟩ := finish_of_isReported (m := m) (v := v) (d := m.disk) h htold
  refine ⟨transcript, ?_⟩
  rw [← hfinish, ← hdisk]
  rfl

/-- A command that comes to an error of a family prints it and ends with its exit code. -/
theorem Session.report_of_isReported (h : e.IsReported) :
    ∃ output, report (.error e) = .ok (output, e.exitCode) := by
  obtain ⟨words, hwords⟩ := h.exists_message
  have hdepth : (Envelope.ofError words).response.depth ≤ Envelope.maxShownDepth := by
    show max 1 0 + 1 ≤ 255
    decide
  have hshown : (Envelope.ofError words).shown = .ok (Envelope.ofError words).toValue := by
    unfold Envelope.shown
    rw [if_neg (Nat.not_lt_of_le hdepth)]
  obtain ⟨text, htext⟩ :
      ∃ text, Json.encode .indented (Envelope.ofError words).toValue = .ok text := by
    have hintegers : (Envelope.ofError words).toValue.integers = [0] := rfl
    refine (Json.exists_encode_eq_ok_iff _).mpr (Value.integersShort_of_digits ?_)
    rw [hintegers]
    decide
  refine ⟨text ++ "\n", ?_⟩
  unfold report
  dsimp only
  rw [hwords]
  dsimp only
  unfold printed
  rw [hshown]
  dsimp only [Except.bind]
  rw [htext]
  rfl

-- ====================================================== all readers

/-- What the readers of files report, whatever the bytes: each of them gives an answer of its kind
or an error of its own family exactly if the bytes are a text within the limits of JSON, and what is
no text at all is a fault. A short file is within the limits. Errors of the families end a
generation and a command with their exit codes, and a fault goes right through a command. -/
theorem file_readers_report_iff (bytes : ByteArray) :
    (∀ (s : Surroundings) (source : String), source ≠ "-" →
        Surroundings.isAddress source = false → (DiskPath.ofString source).suffix = ".json" →
        s.disk.find (.ofString source) = .ok (.file bytes) →
        ReadsBytes bytes IsMapping Error.IsSpec (s.load source).outcome)
      ∧ (∀ (w : Workplace) (shown : String),
        w.disk.find (.ofString Workplace.projectFile) = .ok (.file bytes) →
        ReadsBytes bytes (fun _ => True) Error.IsConfig (w.projectSettings shown))
      ∧ (∀ (w : Workplace) (what file : String) (p : DiskPath), w.path file = .ok p →
        w.disk.find p = .ok (.file bytes) →
        ReadsBytes bytes (fun _ => True) Error.IsUsage (w.readJson what ("@" ++ file)))
      ∧ (bytes.size ≤ Json.maxDepth → (ReadsAsJson bytes ↔ bytes.IsValidUTF8))
      ∧ (∀ e : Error, e.IsReported →
        (∀ (m : Machine) (v : Voice) (o : GenerateOptions), (m.prepare v o).outcome = .error e →
          ∃ transcript, m.run (.generate v o) = .ok ⟨m.disk, transcript, e.exitCode⟩)
        ∧ ∃ output, Session.report (.error e) = .ok (output, e.exitCode))
      ∧ ∀ f : Fault, Session.report (.error (.fault f)) = .error (.fault f) := by
  refine ⟨fun s source hinput haddress hsuffix hfile => ?_,
    fun w shown hfile => Workplace.readsBytes_projectSettings hfile,
    fun w what file p hpath hfile => Workplace.readsBytes_readJson hpath hfile,
    readsAsJson_iff_of_size_le,
    fun e he => ⟨fun m v o hprepare => Machine.run_generate_of_isReported he hprepare,
      Session.report_of_isReported he⟩,
    fun f => rfl⟩
  have hload : (s.load source).outcome = s.readFile (.ofString source) := by
    unfold Surroundings.load
    rw [if_neg hinput, if_neg (by rw [haddress]; exact Bool.false_ne_true)]
    rfl
  rw [hload]
  exact Surroundings.readsBytes_readFile hsuffix hfile

namespace UnreadFiles

/-- A byte that is no text on its own. -/
def strayByte : ByteArray := ⟨#[255]⟩

/-- A text that is JSON and no mapping. -/
def list : ByteArray := "[]".toUTF8

/-- A machine on which a document and the project's settings have the same bytes. -/
def machine (content : ByteArray) : Machine where
  disk := ⟨[(["a.json"], .file content), (["awkgen.json"], .file content)]⟩
  input := ""
  fetch url := .failure false url
  home := ⟨.root, ["home"]⟩
  users := []
  environment := []
  workingDirectory := "/work"
  time := "now"
  modelAttributes := ModelNames.standardAttributes

variable (content : ByteArray)

theorem ofString_document : DiskPath.ofString "a.json" = ⟨.workingDirectory, ["a.json"]⟩ := by
  decide

theorem ofString_project :
    DiskPath.ofString Workplace.projectFile = ⟨.workingDirectory, ["awkgen.json"]⟩ := by
  decide

/-- The document is found. -/
theorem find_document : (machine content).disk.find (.ofString "a.json") = .ok (.file content) := by
  have hflaw : (DiskPath.ofString "a.json").flaw? = none :=
    (DiskPath.flaw?_eq_none_iff _).mpr (by decide)
  unfold Disk.find Disk.place
  rw [hflaw, ofString_document]
  rfl

/-- The settings are found. -/
theorem find_project :
    (machine content).disk.find (.ofString Workplace.projectFile) = .ok (.file content) := by
  have hflaw : (DiskPath.ofString Workplace.projectFile).flaw? = none :=
    (DiskPath.flaw?_eq_none_iff _).mpr (by decide)
  unfold Disk.find Disk.place
  rw [hflaw, ofString_project]
  rfl

/-- The document is what an option names. -/
theorem path_document :
    (machine content).workplace.path "a.json" = .ok (.ofString "a.json") := by
  unfold Workplace.path
  rw [ofString_document]
  rfl

/-- A list is no settings, and a generation goes no further. -/
theorem outcome_prepare_list (v : Voice) (o : GenerateOptions) :
    ((machine list).prepare v o).outcome
      = .error (.config (.projectNotObject "/work/awkgen.json")) := by
  have hjson : jsonOf list = .ok (.ok (.list [])) := by
    unfold jsonOf textOf? list
    rw [Disk.fromUTF8?_toUTF8]
    rfl
  have hproject : (machine list).workplace.projectSettings
      ((machine list).workingDirectory ++ "/" ++ Workplace.projectFile)
        = .error (.config (.projectNotObject "/work/awkgen.json")) := by
    rw [Workplace.projectSettings_of_find (find_project list), hjson]
    rfl
  unfold Machine.prepare Machine.settings
  rw [hproject]
  rfl

/-- A stray byte is read by no reader: all have a fault. A list is reported as no document, and ends
a generation with the exit code of its error. -/
theorem unread_files_end :
    (machine strayByte).disk.find (.ofString "a.json") = .ok (.file strayByte)
      ∧ ¬ReadsAsJson strayByte
      ∧ ((machine strayByte).load "a.json").outcome = .error (.fault .undecodable)
      ∧ (machine strayByte).workplace.projectSettings "awkgen.json" = .error (.fault .undecodable)
      ∧ (machine strayByte).workplace.readJson "--body" ("@" ++ "a.json")
        = .error (.fault .undecodable)
      ∧ Reports IsMapping Error.IsSpec ((machine list).load "a.json").outcome
      ∧ ∃ transcript, (machine list).run
          (.generate ⟨.plain, false, false⟩ ⟨none, none, none, none, false⟩)
            = .ok ⟨(machine list).disk, transcript, 1⟩ := by
  have hsuffix : (DiskPath.ofString "a.json").suffix = ".json" := by decide
  obtain ⟨hload, hproject, hoption, hshort, -, -⟩ := file_readers_report_iff strayByte
  obtain ⟨hloadList, -, -, hshortList, hend, -⟩ := file_readers_report_iff list
  have hstray : ¬strayByte.IsValidUTF8 := by decide
  have hlist : ReadsAsJson list := (hshortList (by decide)).mpr (String.isValidUTF8 _)
  have hdocument := hload (machine strayByte).toSurroundings "a.json" (by decide) (by decide)
    hsuffix (find_document _)
  have hdocumentList := hloadList (machine list).toSurroundings "a.json" (by decide) (by decide)
    hsuffix (find_document _)
  refine ⟨find_document _, fun h => hstray ((hshort (by decide)).mp h),
    hdocument.undecodable hstray, (hproject _ _ (find_project _)).undecodable hstray,
    (hoption _ _ _ _ (path_document _) (find_document _)).undecodable hstray,
    hdocumentList.reports_iff.mpr hlist, ?_⟩
  exact (hend _ (.inr (.inl ⟨_, rfl⟩))).1 _ _ _ (outcome_prepare_list _ _)

end UnreadFiles

end ApiCommands
