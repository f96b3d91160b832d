import NativeGlue.Script.Basic
import NativeGlue.Table.Codec

set_option autoImplicit false

/-! # Loading tables -/

namespace NativeGlue.TypeTable

/-- The configuration in a file. -/
def readConfig (path : Path) : Job TypeConfig := do
  let text ← Job.during ("Failed to read type config " ++ path.text) (Job.readText path)
  match TypeConfig.read? text with
  | some config => return config
  | none =>
    Job.during ("Failed to parse type config " ++ path.text) (Job.ofExcept (.error (.of .toml)))

/-- Lay the configuration of a file over a draft. -/
def applyFile (d : TableDraft) (path : Path) : Job TableDraft := do
  let config ← readConfig path
  Job.during ("Invalid type config " ++ path.text)
    (Job.ofExcept (orFail .config (d.run [.apply config])))

/-- The standard table with the configuration of a file, if there is one. -/
def load (file : Option Path) : Job TypeTable := do
  let d ← Job.ofExcept (orFail .config (TableDraft.run {} TableDraft.standardSteps))
  let d ← match file with
    | some path => applyFile d path
    | none => pure d
  Job.ofExcept (orFail .config d.freeze)

end NativeGlue.TypeTable
