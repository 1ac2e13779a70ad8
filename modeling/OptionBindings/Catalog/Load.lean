import OptionBindings.Catalog.Recorder
import OptionBindings.OptionsDocument.Reader

/-!
# Loading a catalog

A new recorder listens while a document is read once.
-/

namespace OptionBindings

/-- What the log is told while a catalog is loaded, and the catalog. -/
structure Loading where
  notices : List Notice
  outcome : Except ReadError Catalog

namespace Catalog

def loadedNotice (catalog : Catalog) : Notice :=
  .catalogLoaded catalog.network.size catalog.database.size catalog.transaction.size

def loadFrom (reader : OptionsReader) (store : FileStore) : Loading :=
  let result := (reader.read store).2
  let catalog := (Recorder.handleAll {} result.events).catalog
  let notices := Recorder.noticesOf {} result.reports ++ result.closing
  match result.outcome with
  | .ok () => ⟨notices ++ [catalog.loadedNotice], .ok catalog⟩
  | .error error => ⟨notices, .error error⟩

def loadBytes (content : List UInt8) : Loading :=
  loadFrom (.ofBytes content) (.empty [])

def loadFile (store : FileStore) (path : Path) : Loading :=
  match OptionsReader.ofPath store path with
  | .ok reader => loadFrom reader store
  | .error failure => ⟨[], .error (.failure failure)⟩

end Catalog
end OptionBindings
