import NativeGlue.ConfigError
import NativeGlue.Datum.Json
import NativeGlue.Datum.JsonText
import NativeGlue.Descriptor

set_option autoImplicit false

/-! # Class descriptions as data

How the class descriptions of `NativeGlue.Descriptor` are written as structured data, and read back
from it. In writing, empty marker lists are left out and types have their canonical spelling. In
reading, missing fields have defaults, unknown fields are passed over, and every value has to have
its shape: a type has to be a type, an adapter reference has to be sound. -/

namespace NativeGlue

/-- How deep a document may nest where every value is looked at. -/
def nestingLimit : Nat := 127

namespace ManagedType

/-- A type as data: its canonical spelling. -/
def toDatum (t : ManagedType) : Datum := .text t.spelling

/-- A type from data. -/
def ofDatum? (d : Datum) : Option ManagedType := d.asText?.bind ofText?

end ManagedType

namespace Direction

/-- A direction as data: its word. -/
def toDatum (d : Direction) : Datum := .text d.spelling

/-- The direction with a word. -/
def ofSpelling? (s : String) : Option Direction :=
  if s = "in" then some .input
  else if s = "out" then some .output
  else if s = "inout" ∨ s = "in_out" then some .both
  else none

/-- A direction from data: its word, or a record with the word as the name of an empty field. -/
def ofDatum? : Datum → Option Direction
  | .text s => ofSpelling? s
  | .record [(s, .null)] => ofSpelling? s
  | _ => none

end Direction

namespace Marker

/-- A marker as data: a record with its kind. -/
def toDatum : Marker → Datum
  | text => .record [("kind", .text "std_string")]
  | buffer => .record [("kind", .text "std_vector")]
  | adapter r =>
    .record [("kind", .text "adapter"), ("name", .text r.name), ("arg_count", .integer r.groups)]

/-- The reference that the fields of a marker give. -/
def refOfDatum? (d : Datum) : Option AdapterRef := do
  let entries ← d.entries? ["name", "arg_count"] false
  let name ← Datum.required? entries "name" Datum.asText?
  let groups ← Datum.defaulted? entries "arg_count" Datum.asCount? 1
  (AdapterRef.check name groups).toOption

/-- The marker of a kind with the given other fields. The built-in kinds have none, so none may be
given by position. -/
def ofKind? (kind : String) (fields : Datum) : Option Marker :=
  let plain (m : Marker) : Option Marker :=
    match fields with
    | .list (_ :: _) => none
    | _ => some m
  if kind = "std_string" then plain text
  else if kind = "std_vector" then plain buffer
  else if kind = "adapter" then (refOfDatum? fields).map adapter
  else none

/-- A marker from data that stands inside `outer` levels of lists and records. The kind may be given
by name or by position, once. -/
def ofDatum? (outer : Nat) (d : Datum) : Option Marker :=
  if d.readable (nestingLimit - outer) then
    match d with
    | .list (.text kind :: rest) => ofKind? kind (.list rest)
    | .record fields =>
      match fields.filter fun field => field.1 == "kind" with
      | [(_, .text kind)] => ofKind? kind (.record (fields.filter fun field => field.1 != "kind"))
      | _ => none
    | _ => none
  else none

end Marker

/-- A field with markers, left out if there are none. -/
def markersField (name : String) (markers : List Marker) : List (String × Datum) :=
  if markers.isEmpty then [] else [(name, .list (markers.map Marker.toDatum))]

namespace ParamDecl

/-- A parameter as data. -/
def toDatum (p : ParamDecl) : Datum :=
  .record ([("name", .ofOptional p.name), ("type", p.type.toDatum),
    ("direction", p.direction.toDatum)] ++ markersField "markers" p.markers)

/-- A parameter from data inside `outer` levels. -/
def ofDatum? (outer : Nat) (d : Datum) : Option ParamDecl := do
  let entries ← d.entries? ["name", "type", "direction", "markers"] false
  let name ← Datum.defaulted? entries "name" (Datum.asOptional? Datum.asText?) none
  let type ← Datum.required? entries "type" ManagedType.ofDatum?
  let direction ← Datum.defaulted? entries "direction" Direction.ofDatum? .input
  let markers ← Datum.defaulted? entries "markers" (Datum.asList? (Marker.ofDatum? (outer + 2))) []
  return { name, type, direction, markers }

end ParamDecl

namespace MethodDecl

/-- A method as data. -/
def toDatum (m : MethodDecl) : Datum :=
  .record ([("name", .text m.name), ("native_name", .ofOptional m.nativeName),
    ("parameters", .list (m.params.map ParamDecl.toDatum)),
    ("return_type", m.returnType.toDatum)] ++ markersField "return_markers" m.returnMarkers)

/-- A method from data inside `outer` levels. -/
def ofDatum? (outer : Nat) (d : Datum) : Option MethodDecl := do
  let entries ← d.entries? ["name", "native_name", "parameters", "return_type", "return_markers"] false
  let name ← Datum.required? entries "name" Datum.asText?
  let nativeName ← Datum.defaulted? entries "native_name" (Datum.asOptional? Datum.asText?) none
  let params ← Datum.defaulted? entries "parameters"
    (Datum.asList? (ParamDecl.ofDatum? (outer + 2))) []
  let returnType ← Datum.defaulted? entries "return_type" ManagedType.ofDatum? .void
  let returnMarkers ← Datum.defaulted? entries "return_markers"
    (Datum.asList? (Marker.ofDatum? (outer + 2))) []
  return { name, nativeName, params, returnType, returnMarkers }

end MethodDecl

namespace ClassDecl

/-- A class as data. -/
def toDatum (c : ClassDecl) : Datum :=
  .record [("name", .text c.name), ("library", .ofOptional c.library),
    ("includes", .ofTexts c.includes), ("methods", .list (c.methods.map MethodDecl.toDatum))]

/-- A class from data inside `outer` levels. -/
def ofDatum? (outer : Nat) (d : Datum) : Option ClassDecl := do
  let entries ← d.entries? ["name", "library", "includes", "methods"] false
  let name ← Datum.required? entries "name" Datum.asText?
  let library ← Datum.defaulted? entries "library" (Datum.asOptional? Datum.asText?) none
  let includes ← Datum.defaulted? entries "includes" (Datum.asList? Datum.asText?) []
  let methods ← Datum.defaulted? entries "methods"
    (Datum.asList? (MethodDecl.ofDatum? (outer + 2))) []
  return { name, library, includes, methods }

end ClassDecl

namespace Document

/-- A document as data. -/
def toDatum (d : Document) : Datum := .record [("classes", .list (d.classes.map ClassDecl.toDatum))]

/-- A document as a JSON text. -/
def write (l : Json.Layout) (d : Document) : String := Json.write l d.toDatum

/-- A document from data. -/
def ofDatum? (d : Datum) : Option Document := do
  let entries ← d.entries? ["classes"] false
  let classes ← Datum.defaulted? entries "classes" (Datum.asList? (ClassDecl.ofDatum? 2)) []
  return { classes }

/-- The document that a JSON text holds. -/
def read? (s : String) : Option Document := (Json.read? s).bind ofDatum?

end Document

end NativeGlue
