import NativeGlue.Datum.Basic
import NativeGlue.Source.GlueUnit

set_option autoImplicit false

/-! # Generator options as data -/

namespace NativeGlue.GeneratorOptions

/-- Generator options from data. There are no unknown fields. -/
def ofDatum? (d : Datum) : Option GeneratorOptions := do
  let entries ← d.entries? ["header", "source_suffix", "header_suffix"] true
  let header ← Datum.defaulted? entries "header" Datum.asBool? false
  let sourceSuffix ← Datum.defaulted? entries "source_suffix" Datum.asText? ".cpp"
  let headerSuffix ← Datum.defaulted? entries "header_suffix" Datum.asText? ".h"
  return { header, sourceSuffix, headerSuffix }

end NativeGlue.GeneratorOptions
