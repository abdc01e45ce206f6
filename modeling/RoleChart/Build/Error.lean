import RoleChart.Fault
import RoleChart.Store.Error

/-!
# Faults of builds

Why a build ends without its files.
-/

namespace RoleChart

/-- Why a build fails. -/
inductive BuildError where
  /-- A file that is read makes trouble. -/
  | reading (error : FileError)
  /-- A file or directory of the output makes trouble. -/
  | writing (error : FileError)
  /-- The text of the manifest or of the defaults is not what it should be. -/
  | undecodable
  /-- The text of a configuration that was asked for is not what it should be. -/
  | configuration (path : String)
  | authMode (name : String)
  | defaults (path : String)
  | fault (fault : Fault)
  | outputExists (path : String)
deriving DecidableEq, Repr

/-- The text of the fault. -/
def BuildError.message : BuildError → String
  | reading error => "IO error: " ++ error.message
  | writing error => "IO error: " ++ error.message
  | undecodable => "Manifest decoding failed"
  | configuration path => "Configuration error: Invalid configuration file " ++ path
  | authMode name => "Configuration error: Unknown auth type: " ++ name
  | defaults path =>
    "Configuration error: Defaults file " ++ path
      ++ " is not a mapping of variable names to values"
  | fault f => f.message
  | outputExists path => "Refusing to overwrite " ++ path ++ "; pass --force to replace it"

end RoleChart
