import OptionBindings.Catalog.Load

/-!
# How reading ends

The end of one reading depends on the bytes alone, wherever they come from: on the problem of the
document that they are, if it has one.
-/

namespace OptionBindings

open Xml

variable {reader : OptionsReader} {store : FileStore} {content : List UInt8}

namespace OptionsReader

theorem outcome_read (h : reader.content store = .ok content) :
    (reader.read store).2.outcome =
      match (Document.read content).problem with
      | none => .ok ()
      | some problem => .error (problemError problem) := by
  rw [read, h]
  cases hproblem : (Document.read content).problem <;> simp [hproblem]

theorem fault_read (h : reader.content store = .ok content) :
    (reader.read store).1.fault =
      (Document.read content).problem.bind fun problem => faultOf (problemError problem) := by
  rw [read, h]
  cases hproblem : (Document.read content).problem <;> simp [hproblem]

theorem reports_read (h : reader.content store = .ok content) :
    (reader.read store).2.reports = Report.ofTags (Document.read content).tags := by
  rw [read, h]
  cases hproblem : (Document.read content).problem <;> simp [hproblem]

end OptionsReader

namespace Catalog

def ofTags (tags : List Xml.Tag) : Catalog :=
  (Recorder.handleAll {} ((Report.ofTags tags).filterMap Report.event?)).catalog

theorem outcome_loadFrom (h : reader.content store = .ok content) :
    (loadFrom reader store).outcome =
      match (Document.read content).problem with
      | none => .ok (ofTags (Document.read content).tags)
      | some problem => .error (OptionsReader.problemError problem) := by
  have houtcome := OptionsReader.outcome_read h
  have hreports := OptionsReader.reports_read h
  rw [loadFrom]
  cases hproblem : (Document.read content).problem with
  | none =>
      simp only [hproblem] at houtcome
      simp only [houtcome, ReadResult.events, hreports]
      rfl
  | some problem =>
      simp only [hproblem] at houtcome
      simp only [houtcome]

theorem outcome_loadBytes (content : List UInt8) :
    (loadBytes content).outcome =
      match (Document.read content).problem with
      | none => .ok (ofTags (Document.read content).tags)
      | some problem => .error (OptionsReader.problemError problem) := by
  have hcontent : (OptionsReader.ofBytes content).content (.empty []) = .ok content := rfl
  exact outcome_loadFrom hcontent

theorem content_of_read? {path : Path} {file : ByteArray} (h : store.read? path = some file) :
    OptionsReader.content { source := .file path } store = .ok file.data.toList := by
  rw [FileStore.read?] at h
  split at h
  · rename_i found hfound
    obtain rfl := Option.some.inj h
    simp only [OptionsReader.content, FileStore.read, hfound]
  · cases h

theorem outcome_loadFile {path : Path} {file : ByteArray} (h : store.read? path = some file) :
    (loadFile store path).outcome = (loadBytes file.data.toList).outcome := by
  have hreader : OptionsReader.ofPath store path = .ok { source := .file path } := by
    rw [OptionsReader.ofPath, h]
  rw [loadFile, hreader]
  rw [outcome_loadBytes]
  exact outcome_loadFrom (content_of_read? h)

end Catalog

end OptionBindings
