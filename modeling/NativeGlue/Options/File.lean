import NativeGlue.Options.Codec
import NativeGlue.Script.Basic

set_option autoImplicit false

/-! # Files of options -/

namespace NativeGlue.BuildOptions

/-- The options in a file. -/
def load (path : Path) : Job BuildOptions := do
  let text ← Job.during ("Failed to read " ++ path.text) (Job.readText path)
  match read? text with
  | some options => return options
  | none =>
    Job.during ("Failed to parse build options in " ++ path.text)
      (Job.ofExcept (.error (.of .toml)))

end NativeGlue.BuildOptions
