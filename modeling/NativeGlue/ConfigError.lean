import NativeGlue.Adapter

set_option autoImplicit false

/-! # Configuration errors

What can be wrong with the descriptions and tables a user supplies. All of these are found before
any tool runs. -/

namespace NativeGlue

/-- A malformed or contradictory declaration. -/
inductive ConfigError where
  /-- An adapter reference without groups. -/
  | invalidArgCount (adapter : String) (groups : Nat)
  /-- An adapter reference with a blank name. -/
  | emptyAdapterName
  /-- A site with markers for different adapters. -/
  | ambiguousAdapter (method site : String) (first second : AdapterRef)
  /-- A reference to an adapter that the table does not have. -/
  | unknownAdapter (adapter method : String)
  /-- A type that can cross neither as it is nor through an adapter. -/
  | unresolvedType (type : ManagedType) (method : String)
  /-- A text that names no managed type. -/
  | invalidTypeName (text : String)
  /-- A configured adapter without a counterpart. -/
  | missingCounterpart (adapter : String)
  /-- An adapter at a site where no element type is known. -/
  | untypedBuffer (adapter : String) (type : ManagedType) (method : String)
  /-- A parameter without values. -/
  | voidParameter (method site : String)
  deriving DecidableEq, Repr

namespace ConfigError

/-- The text shown to the user. -/
def message : ConfigError → String
  | invalidArgCount adapter groups =>
    "adapter `" ++ adapter ++ "` declares arg count " ++ toString groups ++ ", expected at least 1"
  | emptyAdapterName => "adapter name must not be empty"
  | ambiguousAdapter method site first second =>
    "`" ++ site ++ "` in method `" ++ method ++ "` carries conflicting adapters `"
      ++ first.display ++ "` and `" ++ second.display ++ "`"
  | unknownAdapter adapter method =>
    "adapter `" ++ adapter ++ "` referenced by `" ++ method ++ "` is not registered"
  | unresolvedType type method =>
    "no binding for managed type `" ++ type.spelling ++ "` in method `" ++ method ++ "`"
  | invalidTypeName text => "invalid managed type name `" ++ text ++ "`"
  | missingCounterpart adapter => "adapter `" ++ adapter ++ "` has no native counterpart type"
  | untypedBuffer adapter type method =>
    "adapter `" ++ adapter ++ "` needs an element type to bridge `" ++ type.spelling
      ++ "` in method `" ++ method ++ "`"
  | voidParameter method site =>
    "parameter `" ++ site ++ "` of method `" ++ method ++ "` cannot have type void"

end ConfigError

/-! ## Checked readings -/

/-- The type that a text names; the error quotes the text as it was given. -/
def ManagedType.read (s : String) : Except ConfigError ManagedType :=
  match ManagedType.ofText? s with
  | some t => .ok t
  | none => .error (.invalidTypeName s)

/-- A reference with this name and number of groups. A blank name is found before a missing
group. -/
def AdapterRef.check (name : String) (groups : Nat) : Except ConfigError AdapterRef :=
  if hname : Text.isBlankText name = false then
    if hgroups : 0 < groups then .ok ⟨name, groups, hname, hgroups⟩
    else .error (.invalidArgCount name groups)
  else .error .emptyAdapterName

/-- A checked reference is the one asked for. -/
theorem AdapterRef.check_eq_ok_iff {name : String} {groups : Nat} {r : AdapterRef} :
    AdapterRef.check name groups = .ok r ↔ r.name = name ∧ r.groups = groups := by
  obtain ⟨n, g, hn, hg⟩ := r
  unfold AdapterRef.check
  constructor
  · intro h
    split at h
    · split at h
      · simp only [Except.ok.injEq, AdapterRef.mk.injEq] at h
        exact ⟨h.1.symm, h.2.symm⟩
      · simp at h
    · simp at h
  · rintro ⟨rfl, rfl⟩
    simp only [hn, hg, dif_pos]

end NativeGlue
