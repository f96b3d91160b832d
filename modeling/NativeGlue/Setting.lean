import NativeGlue.Text.Cut

set_option autoImplicit false

/-! # Settings

A setting is a key with a value, written `key=value`. The first equals sign ends the key, so the
value may have more of them; the key is trimmed and the value is not. -/

namespace NativeGlue

/-- A key with its value. -/
structure Setting where
  key : String
  value : String
  deriving DecidableEq, Repr

/-- Why a text is no setting. -/
inductive SettingError where
  /-- There is no equals sign. -/
  | noValue (text : String)
  /-- There is nothing but blanks in front of the equals sign. -/
  | emptyKey (text : String)
  deriving DecidableEq, Repr

/-- The text shown to the user. -/
def SettingError.message : SettingError → String
  | noValue text => "expected KEY=VALUE, found `" ++ text ++ "`"
  | emptyKey text => "empty key in `" ++ text ++ "`"

namespace Setting

/-- The setting that a text writes. -/
def read (s : String) : Except SettingError Setting :=
  match Text.cutFirst '=' s with
  | none => .error (.noValue s)
  | some (key, value) =>
    if Text.isBlankText key then .error (.emptyKey s) else .ok ⟨Text.trim key, value⟩

/-- How a setting is written. -/
def display (s : Setting) : String := s.key ++ "=" ++ s.value

end Setting

end NativeGlue
