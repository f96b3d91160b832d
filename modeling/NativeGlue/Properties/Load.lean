import NativeGlue.Script.Basic

set_option autoImplicit false

/-! # Loading properties -/

namespace NativeGlue.Properties

/-- The properties of a property file. -/
def loadFile (path : Path) : Job Properties := do
  let text ← Job.during ("Failed to read property file " ++ path.text) (Job.readText path)
  Job.ofExcept (orFail .property (read text))

/-- Properties laid over those of a property file, if there is one. -/
def extendByFile (p : Properties) : Option Path → Job Properties
  | some path => do return p.extend (← loadFile path)
  | none => return p

/-- The properties of a platform with those of a property file and single settings laid over them,
in this order. -/
def load (host : Option Platform) (platform : Option String) (file : Option Path)
    (settings : List Setting) : Job Properties := do
  let p ← Job.ofExcept (orFail .property (base host platform))
  let p ← p.extendByFile file
  return p.setAll settings

end NativeGlue.Properties
