import NativeGlue.ConfigError

set_option autoImplicit false

/-! # Type tables

A *type table* decides how the values of each managed type cross: as they are, or through an
adapter. A table is drafted step by step (`TableDraft`, `TableStep`) and then frozen
(`TableDraft.freeze`), which checks that every adapter a type is bound to is registered. Afterwards
`TypeTable.resolve` answers for one site: the adapter asked for at the site comes first, then the
binding of the type, then the type's own native form. -/

namespace NativeGlue

/-! ## Configurations -/

/-- An adapter as a user configures it. -/
structure AdapterConfig where
  groups : Nat := 1
  header : Option String := none
  counterpart : Option String := none
  element : Option String := none
  instanceTemplate : Option String := none
  deriving DecidableEq, Repr

/-- A type binding as a user configures it. -/
inductive BindingConfig where
  /-- The type crosses as this native type. -/
  | direct (native : String)
  /-- The type crosses through the adapter of this name. -/
  | adapter (name : String)
  deriving DecidableEq, Repr

/-- The adapters and type bindings that a user adds to a table. -/
structure TypeConfig where
  adapters : KeyMap String AdapterConfig := {}
  types : KeyMap ManagedType BindingConfig := {}
  deriving DecidableEq, Repr

namespace AdapterConfig

/-- The definition that an adapter configuration under a name asks for. -/
def define (name : String) (c : AdapterConfig) : Except ConfigError AdapterDefinition := do
  let ref ← AdapterRef.check name c.groups
  match c.counterpart with
  | none => throw (.missingCounterpart name)
  | some counterpart =>
    return { ref, counterpartTemplate := counterpart
             source := (c.header.map AdapterSource.header).getD .external
             instanceTemplate := c.instanceTemplate.getD ref.name
             element := c.element.map NativeType.mk }

end AdapterConfig

/-! ## Drafts -/

/-- How values of a type cross, as registered in a table. -/
inductive Registration where
  | direct (native : NativeType)
  | adapter (name : String)
  deriving DecidableEq, Repr

/-- The registration that a binding configuration asks for. -/
def BindingConfig.registration : BindingConfig → Registration
  | direct native => .direct ⟨native⟩
  | adapter name => .adapter name

/-- A table under construction. Of two registrations under one key the later replaces the
earlier. -/
structure TableDraft where
  bindings : KeyMap ManagedType Registration := {}
  adapters : KeyMap String AdapterDefinition := {}
  deriving DecidableEq, Repr

namespace TableDraft

/-- Register an adapter under its name. -/
def register (d : TableDraft) (definition : AdapterDefinition) : TableDraft :=
  { d with adapters := d.adapters.insert definition.ref.name definition }

/-- Register the built-in adapters. -/
def builtins (d : TableDraft) : TableDraft :=
  (d.register (.builtin .string)).register (.builtin .vector)

/-- Bind a type. -/
def bind (d : TableDraft) (type : ManagedType) (r : Registration) : TableDraft :=
  { d with bindings := d.bindings.insert type r }

/-- Register configured adapters, in order. -/
def registerAll (d : TableDraft) : List (String × AdapterConfig) → Except ConfigError TableDraft
  | [] => .ok d
  | (name, c) :: rest => do
    let definition ← c.define name
    (d.register definition).registerAll rest

/-- Bind configured types, in order. -/
def bindAll (d : TableDraft) : List (ManagedType × BindingConfig) → TableDraft
  | [] => d
  | (type, c) :: rest => (d.bind type c.registration).bindAll rest

/-- Add a configuration: its adapters by name, then its types. -/
def apply (d : TableDraft) (c : TypeConfig) : Except ConfigError TableDraft := do
  let d ← d.registerAll c.adapters.entries
  return d.bindAll c.types.entries

end TableDraft

/-- One step of drafting a table. -/
inductive TableStep where
  /-- Register the built-in adapters. -/
  | builtins
  /-- Register an adapter. -/
  | register (definition : AdapterDefinition)
  /-- Bind a type. -/
  | bind (type : ManagedType) (r : Registration)
  /-- Add a configuration. -/
  | apply (config : TypeConfig)
  deriving DecidableEq, Repr

namespace TableDraft

/-- Take one step. -/
def step (d : TableDraft) : TableStep → Except ConfigError TableDraft
  | .builtins => .ok d.builtins
  | .register definition => .ok (d.register definition)
  | .bind type r => .ok (d.bind type r)
  | .apply config => d.apply config

/-- Take steps in order, up to the first that fails. -/
def run (d : TableDraft) : List TableStep → Except ConfigError TableDraft
  | [] => .ok d
  | s :: rest => do
    let d ← d.step s
    d.run rest

/-- The steps to the standard table: the built-in adapters, with text bridged. -/
def standardSteps : List TableStep :=
  [.builtins, .bind .string (.adapter BuiltinAdapter.string.name)]

end TableDraft

/-! ## Tables -/

/-- A finished table. -/
structure TypeTable where
  bindings : KeyMap ManagedType Registration
  adapters : KeyMap String AdapterDefinition
  deriving DecidableEq, Repr

namespace TableDraft

/-- The first type, in table order, that is bound to an adapter which is not registered. -/
def unregistered? (d : TableDraft) : List (ManagedType × Registration) → Option (ManagedType × String)
  | [] => none
  | (_, .direct _) :: rest => d.unregistered? rest
  | (type, .adapter name) :: rest =>
    if d.adapters.contains name then d.unregistered? rest else some (type, name)

/-- Finish a table: every adapter that a type is bound to has to be registered. -/
def freeze (d : TableDraft) : Except ConfigError TypeTable :=
  match d.unregistered? d.bindings.entries with
  | some (type, name) => .error (.unknownAdapter name ("<binding for " ++ type.spelling ++ ">"))
  | none => .ok ⟨d.bindings, d.adapters⟩

/-- The table that some steps lead to, from an empty draft. -/
def build (steps : List TableStep) : Except ConfigError TypeTable := do
  let d ← TableDraft.run {} steps
  d.freeze

end TableDraft

namespace TypeTable

/-- The table with the built-in adapters and text bridged. -/
def standard : TypeTable :=
  { bindings := KeyMap.empty.insert .string (.adapter BuiltinAdapter.string.name)
    adapters := (KeyMap.empty.insert BuiltinAdapter.string.name (.builtin .string)).insert
      BuiltinAdapter.vector.name (.builtin .vector) }

/-- The standard steps lead to the standard table. -/
theorem build_standardSteps : TableDraft.build TableDraft.standardSteps = .ok standard := by rfl

/-- The definition of an adapter. -/
def adapter? (t : TypeTable) (name : String) : Option AdapterDefinition := t.adapters.find? name

/-- Whether an adapter is registered. -/
def hasAdapter (t : TypeTable) (name : String) : Bool := t.adapters.contains name

end TypeTable

/-! ## Resolution -/

/-- How a value crosses at one site. -/
structure TypeBinding where
  type : ManagedType
  /-- The native type of the glue parameter, or the counterpart of the adapter. -/
  native : NativeType
  adapter : Option BoundAdapter
  deriving DecidableEq, Repr

namespace TypeBinding

/-- A value that crosses as it is. -/
def direct (type : ManagedType) (native : NativeType) : TypeBinding := ⟨type, native, none⟩

/-- A value that crosses through an adapter. -/
def bridged (type : ManagedType) (adapter : BoundAdapter) : TypeBinding :=
  ⟨type, adapter.counterpart, some adapter⟩

/-- Whether the value crosses through an adapter. -/
def isBridged (b : TypeBinding) : Bool := b.adapter.isSome

end TypeBinding

namespace TypeTable

/-- Bind an adapter at a site. The element type is that of the definition, else that of the managed
type. -/
def bridge (type : ManagedType) (ref : AdapterRef) (definition : AdapterDefinition)
    (method : String) : Except ConfigError TypeBinding :=
  match definition.element.or type.element? with
  | some element => .ok (.bridged type (definition.bind ref element))
  | none => .error (.untypedBuffer ref.name type method)

/-- How values of a type cross at a site of a method: through the adapter asked for at the site, or
as the type is bound in the table, or as they are. -/
def resolve (t : TypeTable) (type : ManagedType) (asked : Option AdapterRef) (method : String) :
    Except ConfigError TypeBinding :=
  match asked with
  | some ref =>
    match t.adapter? ref.name with
    | some definition => bridge type ref definition method
    | none => .error (.unknownAdapter ref.name method)
  | none =>
    match t.bindings.find? type with
    | some (.direct native) => .ok (.direct type native)
    | some (.adapter name) =>
      match t.adapter? name with
      | some definition => bridge type definition.ref definition method
      | none => .error (.unknownAdapter name method)
    | none =>
      match type.direct? with
      | some native => .ok (.direct type native)
      | none => .error (.unresolvedType type method)

end TypeTable

end NativeGlue
