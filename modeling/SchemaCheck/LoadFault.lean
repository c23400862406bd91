import SchemaCheck.Decode.Fault
import SchemaCheck.Files.Search
/-!
# LoadFault — why a schema or a document is not loaded

A file cannot be read, a text does not decode, a pointer selects nothing, or a pattern for input files is of no
use.  `LoadFault.message` puts it into words; only a fault of the system has a further cause.
-/
namespace SchemaCheck

inductive LoadFault where
  | unreadable (path : String) (cause : SystemFault)
  | undecoded (origin : String) (fault : Decode.Fault)
  | nothingSelected (origin pointer : String)
  | badPattern (pattern : String) (fault : Wildcard.Fault)
  | unlisted (pattern : String) (directory : Search.Unlisted)
  | nothingFound (pattern : String)
  deriving Inhabited

namespace LoadFault

def message : LoadFault → String
  | .unreadable path cause => "failed to read " ++ path ++ ": " ++ cause.message
  | .undecoded origin f => origin ++ ": at JSON path " ++ Decode.renderPath f.path ++ " → " ++ f.detail
  | .nothingSelected origin pointer => origin ++ ": JSON pointer " ++ pointer ++ " selects nothing"
  | .badPattern pattern f => "invalid input pattern `" ++ pattern ++ "`: " ++ f.message
  | .unlisted pattern u => "invalid input pattern `" ++ pattern ++ "`: " ++ u.message
  | .nothingFound pattern => "glob pattern matched no files: " ++ pattern

/-- The fault of the system behind it. -/
def cause? : LoadFault → Option SystemFault
  | .unreadable _ cause => some cause
  | _ => none

end LoadFault
end SchemaCheck
