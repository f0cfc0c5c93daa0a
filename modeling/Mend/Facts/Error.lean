import Mend.Facts.Decode
import Mend.Process.Command

/-!
# Failures of extraction and look-up

* `ExporterError` : why an exporter gave no facts;
* `FactError` : why facts could not be collected or found, with its message.
-/

namespace Mend

/-- Why an exporter gave no facts. -/
inductive ExporterError where
  | noSidecar (sidecar : Path)
  | notStarted (program : String) (cause : FileError)
  | failed (program : String) (status : ExitStatus) (complaint : String)
deriving DecidableEq

def ExporterError.message : ExporterError → String
  | .noSidecar sidecar => "no exported facts at " ++ sidecar.text
  | .notStarted program cause => "failed to run " ++ program ++ ": " ++ cause.text
  | .failed program status complaint =>
    program ++ " exited with " ++ status.text ++ ": " ++ complaint

/-- Why facts could not be extracted, collected or looked up. -/
inductive FactError where
  | file (e : FileError)
  | decode (e : Facts.DecodeError)
  | fileNotFound (path : Path)
  | notAFile (path : Path)
  | malformedFact (text : String)
  | exporter (e : ExporterError)
  | database
deriving DecidableEq

def Facts.DecodeError.message : Facts.DecodeError → String
  | .text .ended => "unexpected end of text"
  | .text .malformed => "unexpected character"
  | .shape e => e.message

def FactError.message : FactError → String
  | .file e => "I/O error: " ++ e.text
  | .decode e => "failed to decode extractor output: " ++ e.message
  | .fileNotFound path => "file not found: " ++ path.text
  | .notAFile path => "not a file: " ++ path.text
  | .malformedFact text => "malformed fact: " ++ text
  | .exporter e => "extractor failed: " ++ e.message
  | .database => "fact database error"

end Mend
