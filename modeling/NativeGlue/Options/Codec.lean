import NativeGlue.Datum.Toml.Document
import NativeGlue.Options.Basic

set_option autoImplicit false

/-! # Build options as data

How build options are written as structured data and read back from it. Every field has a default,
and there are no others. -/

namespace NativeGlue

namespace Datum

/-- A path. -/
def asPath? (d : Datum) : Option Path := d.asText?.map Path.mk

/-- A setting in one text. -/
def asSetting? (d : Datum) : Option Setting := d.asText?.bind fun s => (Setting.read s).toOption

/-- A path that may be missing. -/
def ofPath (p : Option Path) : Datum := ofOptional (p.map Path.text)

/-- A list of settings. -/
def ofSettings (settings : List Setting) : Datum := ofTexts (settings.map Setting.display)

end Datum

namespace BuildOptions

/-- The options as data. -/
def toDatum (o : BuildOptions) : Datum :=
  .record [
    ("class_path", .ofOptional o.classPath),
    ("class_paths", .ofTexts o.classPaths),
    ("include_path", .ofOptional o.includePath),
    ("include_paths", .ofTexts o.includePaths),
    ("link_path", .ofOptional o.linkPath),
    ("link_paths", .ofTexts o.linkPaths),
    ("preload_path", .ofOptional o.preloadPath),
    ("preload_paths", .ofTexts o.preloadPaths),
    ("output_directory", .ofPath o.outputDirectory),
    ("output_name", .ofOptional o.outputName),
    ("compile", (o.compile.map Datum.bool).getD .null),
    ("header", .bool o.header),
    ("copy_libs", .bool o.copyLibraries),
    ("jar_prefix", .ofOptional o.archive),
    ("properties", .ofOptional o.platform),
    ("property_file", .ofPath o.propertyFile),
    ("property", .ofSettings o.properties),
    ("class_or_package_name", .ofOptional o.scope),
    ("class_or_package_names", .ofTexts o.scopes),
    ("environment_variables", .ofSettings o.environment),
    ("compiler_options", .ofTexts o.compilerOptions),
    ("skip", .bool o.skip),
    ("type_config", .ofPath o.typeConfig)]

/-- The names of the fields. -/
def fieldNames : List String :=
  ["class_path", "class_paths", "include_path", "include_paths", "link_path", "link_paths",
    "preload_path", "preload_paths", "output_directory", "output_name", "compile", "header",
    "copy_libs", "jar_prefix", "properties", "property_file", "property", "class_or_package_name",
    "class_or_package_names", "environment_variables", "compiler_options", "skip", "type_config"]

/-- The options that data write. -/
def ofDatum? (d : Datum) : Option BuildOptions := do
  let entries ← d.entries? fieldNames true
  let text (name : String) := Datum.defaulted? entries name (Datum.asOptional? Datum.asText?) none
  let texts (name : String) := Datum.defaulted? entries name (Datum.asList? Datum.asText?) []
  let path (name : String) := Datum.defaulted? entries name (Datum.asOptional? Datum.asPath?) none
  let settings (name : String) := Datum.defaulted? entries name (Datum.asList? Datum.asSetting?) []
  let flag (name : String) := Datum.defaulted? entries name Datum.asBool? false
  return {
    classPath := ← text "class_path"
    classPaths := ← texts "class_paths"
    includePath := ← text "include_path"
    includePaths := ← texts "include_paths"
    linkPath := ← text "link_path"
    linkPaths := ← texts "link_paths"
    preloadPath := ← text "preload_path"
    preloadPaths := ← texts "preload_paths"
    outputDirectory := ← path "output_directory"
    outputName := ← text "output_name"
    compile := ← Datum.defaulted? entries "compile" (Datum.asOptional? Datum.asBool?) none
    header := ← flag "header"
    copyLibraries := ← flag "copy_libs"
    archive := ← text "jar_prefix"
    platform := ← text "properties"
    propertyFile := ← path "property_file"
    properties := ← settings "property"
    scope := ← text "class_or_package_name"
    scopes := ← texts "class_or_package_names"
    environment := ← settings "environment_variables"
    compilerOptions := ← texts "compiler_options"
    skip := ← flag "skip"
    typeConfig := ← path "type_config" }

/-- The options that a TOML text writes. -/
def read? (text : String) : Option BuildOptions := (Toml.read? text).bind ofDatum?

end BuildOptions

end NativeGlue
