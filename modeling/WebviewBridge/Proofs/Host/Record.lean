import WebviewBridge.Host.Cache
import WebviewBridge.Proofs.Catalog.Submission
import WebviewBridge.Proofs.Config.Settings

/-!
# The record of a submission

The file of a record is read as the record that was written (`CachedSubmission.parse_fileText`).
The object around the submission takes the level of nesting that the envelope around the payload
took, so there is room for all that a frame can bring.
-/

namespace WebviewBridge

open Json

/-- **The file of a record is read as the record that was written.** -/
theorem CachedSubmission.parse_fileText {r : CachedSubmission} (hr : r.submission.Portable 125) :
    parse r.fileText = .ok r := by
  obtain ⟨submission, creator, timestamp⟩ := r
  have hsubmission := hr.reads.map fun x (d : Draft) => { d with submission := some x }
  have hname : CreatorState.names.lookup creator.name = some creator := by
    cases creator <;> decide
  have hcreator := (reads_nameValue hname 126).map fun x (d : Draft) =>
    { d with creator := some x }
  have htimestamp := (reads_readUInt64 timestamp 126).map fun x (d : Draft) =>
    { d with timestamp := some x }
  have hgathers : layout.Gathers 126 {} (members ⟨submission, creator, timestamp⟩)
      ⟨some submission, some creator, some timestamp⟩ :=
    .field (f := layout.fields[0]) rfl rfl hsubmission <|
      .field (f := layout.fields[1]) rfl rfl hcreator <|
        .field (f := layout.fields[2]) rfl rfl htimestamp (.nil _)
  exact (hgathers.reads rfl).readText (Value.isText_prettyChars 0 _)

end WebviewBridge
