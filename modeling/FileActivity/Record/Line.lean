/-
# The line of a record

One line of text for each record, as it is printed for a reader.
-/
import FileActivity.Record.Basic

namespace FileActivity.EventRecord

/-- The line of a record: its fields in a fixed order, the two paths in quotes. -/
def line (r : EventRecord) : String :=
  toString r.timestamp.nanos ++ " " ++ r.kind.name ++ " pid=" ++ toString r.processId
    ++ " image=" ++ r.processPath.quoted ++ " file=" ++ r.filePath.quoted
    ++ " read=" ++ toString r.bytesRead ++ " written=" ++ toString r.bytesWritten
    ++ " entropy=" ++ toString r.preview.score

end FileActivity.EventRecord
