import NativeGlue.Options.Codec
import NativeGlue.Proofs.Datum.JsonText
import NativeGlue.Proofs.Datum.Shape
import NativeGlue.Proofs.Text.Trim

set_option autoImplicit false

/-! # Build options are read back

A setting is written in one text and read from one. Which settings reading can give is told by the
key alone (`Setting.exists_read_iff`): it is trimmed, not empty and free of equals signs, so the first
equals sign of the written text is again the one behind the key, whatever the value holds. Options
with such settings are read back from their data and from every text of those data, and whatever
options are read have only such settings. -/

namespace NativeGlue

/-! ## Settings -/

namespace Setting

/-- Whether the text of a setting can be told apart again into its key and its value. -/
structure IsWritable (s : Setting) : Prop where
  trimmed : Text.trim s.key = s.key
  ne_empty : s.key ≠ ""
  not_mem : '=' ∉ s.key.toList

/-- A text is read as its parts around the first equals sign, if the key is more than blanks. -/
theorem read_eq_ok_iff {text : String} {s : Setting} :
    read text = .ok s ↔ ∃ key, Text.cutFirst '=' text = some (key, s.value)
      ∧ Text.isBlankText key = false ∧ s.key = Text.trim key := by
  rw [read]
  constructor
  · intro h
    split at h
    · cases h
    · next key value hcut =>
      split at h
      · cases h
      · next hblank =>
        obtain rfl := Except.ok.inj h
        exact ⟨key, hcut, Bool.eq_false_iff.2 hblank, rfl⟩
  · rintro ⟨key, hcut, hblank, hkey⟩
    simp only [hcut, hblank, Bool.false_eq_true, if_false, ← hkey]

theorem isWritable_of_read {text : String} {s : Setting} (h : read text = .ok s) :
    s.IsWritable := by
  obtain ⟨key, hcut, hblank, hkey⟩ := read_eq_ok_iff.1 h
  obtain ⟨-, hnone⟩ := Text.cutFirst_eq_some_iff.1 hcut
  constructor
  · rw [hkey]
    exact Text.trim_trim key
  · intro hempty
    rw [hkey, Text.trim_eq_empty_iff, hblank] at hempty
    cases hempty
  · rw [hkey]
    exact Text.not_mem_trim hnone

theorem IsWritable.read_display {s : Setting} (hs : s.IsWritable) : read s.display = .ok s := by
  have hblank : Text.isBlankText s.key = false := by
    rw [Bool.eq_false_iff, ne_eq, ← Text.trim_eq_empty_iff, hs.trimmed]
    exact hs.ne_empty
  -- the key has no equals sign, so the first one is the one behind it
  have hcut : Text.cutFirst '=' s.display = some (s.key, s.value) :=
    Text.cutFirst_eq_some_iff.2 ⟨rfl, hs.not_mem⟩
  exact read_eq_ok_iff.2 ⟨s.key, hcut, hblank, hs.trimmed.symm⟩

/-- The settings that some text is read as are those that can be written. -/
theorem exists_read_iff {s : Setting} : (∃ text, read text = .ok s) ↔ s.IsWritable := by
  constructor
  · rintro ⟨text, h⟩
    exact isWritable_of_read h
  · intro hs
    exact ⟨s.display, hs.read_display⟩

end Setting

/-! ## Values of options -/

namespace Datum

theorem asOptional?_ofPath (p : Option Path) : asOptional? asPath? (ofPath p) = some p := by
  cases p <;> rfl

theorem asOptional?_bool (b : Option Bool) :
    asOptional? asBool? ((b.map Datum.bool).getD .null) = some b := by
  cases b <;> rfl

theorem asSetting?_display {s : Setting} (hs : s.IsWritable) :
    asSetting? (.text s.display) = some s := by
  rw [asSetting?, asText?, Option.bind_some, hs.read_display]
  rfl

theorem asList?_ofSettings {settings : List Setting} (h : ∀ s ∈ settings, s.IsWritable) :
    asList? asSetting? (ofSettings settings) = some settings := by
  rw [ofSettings, ofTexts, List.map_map]
  exact asList?_map fun s hs => asSetting?_display (h s hs)

theorem isWritable_of_asSetting? {d : Datum} {s : Setting} (h : asSetting? d = some s) :
    s.IsWritable := by
  obtain ⟨text, -, hread⟩ := Option.bind_eq_some_iff.1 h
  cases hs : Setting.read text with
  | ok s' =>
    rw [hs] at hread
    obtain rfl := Option.some.inj hread
    exact Setting.isWritable_of_read hs
  | error e =>
    rw [hs] at hread
    cases hread

theorem isJson_ofTexts (ss : List String) : (ofTexts ss).IsJson :=
  isJson_list_map fun _ _ => trivial

theorem isJson_ofPath (p : Option Path) : (ofPath p).IsJson := isJson_ofOptional _

theorem isJson_bool (b : Option Bool) : ((b.map Datum.bool).getD .null).IsJson := by
  cases b <;> trivial

end Datum

/-! ## Options -/

namespace BuildOptions

/-- Whether the settings of some options can be written. -/
structure IsWritable (o : BuildOptions) : Prop where
  properties : ∀ s ∈ o.properties, s.IsWritable
  environment : ∀ s ∈ o.environment, s.IsWritable

theorem ofDatum?_toDatum {o : BuildOptions} (ho : o.IsWritable) :
    ofDatum? o.toDatum = some o := by
  have hproperties : Datum.asList? Datum.asSetting? (.ofSettings o.properties) = some o.properties :=
    Datum.asList?_ofSettings ho.properties
  have henvironment : Datum.asList? Datum.asSetting? (.ofSettings o.environment)
      = some o.environment :=
    Datum.asList?_ofSettings ho.environment
  rw [toDatum, ofDatum?, Datum.entries?_record (by simp [fieldNames]) (by simp),
    Option.bind_eq_bind, Option.bind_some]
  simp only [Datum.defaulted?_cons, Datum.asOptional?_ofOptional, Datum.asOptional?_ofPath,
    Datum.asOptional?_bool, Datum.asList?_ofTexts, Datum.asBool?, hproperties, henvironment,
    String.reduceEq, reduceIte]
  rfl

/-- Whatever data are read as options, the settings came through their own texts. -/
theorem isWritable_of_ofDatum? {d : Datum} {o : BuildOptions} (h : ofDatum? d = some o) :
    o.IsWritable := by
  rw [ofDatum?] at h
  -- the fields in front of the settings, between the two lists of them, and behind them
  iterate 17 obtain ⟨_, -, h⟩ := Option.bind_eq_some_iff.1 h
  obtain ⟨properties, hproperties, h⟩ := Option.bind_eq_some_iff.1 h
  iterate 2 obtain ⟨_, -, h⟩ := Option.bind_eq_some_iff.1 h
  obtain ⟨environment, henvironment, h⟩ := Option.bind_eq_some_iff.1 h
  iterate 3 obtain ⟨_, -, h⟩ := Option.bind_eq_some_iff.1 h
  obtain rfl := Option.some.inj h
  constructor
  · intro s hs
    obtain ⟨_, hread⟩ := Datum.exists_of_mem_defaulted? hproperties s hs
    exact Datum.isWritable_of_asSetting? hread
  · intro s hs
    obtain ⟨_, hread⟩ := Datum.exists_of_mem_defaulted? henvironment s hs
    exact Datum.isWritable_of_asSetting? hread

theorem isJson_toDatum (o : BuildOptions) : o.toDatum.IsJson := by
  have htext (s : Option String) : (Datum.ofOptional s).IsJson := Datum.isJson_ofOptional s
  have htexts (ss : List String) : (Datum.ofTexts ss).IsJson := Datum.isJson_ofTexts ss
  have hpath (p : Option Path) : (Datum.ofPath p).IsJson := Datum.isJson_ofPath p
  have hsettings (settings : List Setting) : (Datum.ofSettings settings).IsJson := htexts _
  exact ⟨htext _, htexts _, htext _, htexts _, htext _, htexts _, htext _, htexts _, hpath _, htext _,
    Datum.isJson_bool _, trivial, trivial, htext _, htext _, hpath _, hsettings _, htext _, htexts _,
    hsettings _, htexts _, trivial, hpath _, trivial⟩

/-- **Options whose settings were read from texts are read back from their data and from every text of
the data, with the same settings, and so is a setting from its own text.** Whatever options are read
from data are such options. -/
theorem read_back (l : Json.Layout) :
    (∀ o : BuildOptions, (∀ s ∈ o.properties ++ o.environment, ∃ text, Setting.read text = .ok s) →
        ofDatum? o.toDatum = some o ∧ (Json.read? (Json.write l o.toDatum)).bind ofDatum? = some o)
      ∧ (∀ d o, ofDatum? d = some o →
          ∀ s ∈ o.properties ++ o.environment, ∃ text, Setting.read text = .ok s)
      ∧ ∀ text s, Setting.read text = .ok s → Setting.read s.display = .ok s := by
  refine ⟨fun o ho => ?_, fun d o hd s hs => ?_, fun text s h => ?_⟩
  · have hvalid : o.IsWritable := by
      constructor
      · intro s hs
        exact Setting.exists_read_iff.1 (ho s (List.mem_append_left _ hs))
      · intro s hs
        exact Setting.exists_read_iff.1 (ho s (List.mem_append_right _ hs))
    have hback : ofDatum? o.toDatum = some o := ofDatum?_toDatum hvalid
    refine ⟨hback, ?_⟩
    rw [Json.read?_write (isJson_toDatum o) l, Option.bind_some, hback]
  · have hvalid : o.IsWritable := isWritable_of_ofDatum? hd
    rw [Setting.exists_read_iff]
    rcases List.mem_append.1 hs with hs | hs
    · exact hvalid.properties s hs
    · exact hvalid.environment s hs
  · exact (Setting.isWritable_of_read h).read_display

/-- A value with blanks and equals signs and an empty one are kept, next to set and unset fields. -/
theorem read_back_settings :
    let link : Setting := ⟨"platform.link", " z@.1=:a= "⟩
    let compiler : Setting := ⟨"CC", ""⟩
    let o : BuildOptions :=
      { classPath := some "classes", includePaths := ["a,b", ""], outputDirectory := some ⟨"out/glue"⟩,
        compile := some false, copyLibraries := true, properties := [link, link],
        environment := [compiler] }
    (Setting.read " platform.link = z@.1=:a= " = .ok link ∧ Setting.read "CC=" = .ok compiler)
      ∧ (ofDatum? o.toDatum = some o
        ∧ (Json.read? (Json.write .compact o.toDatum)).bind ofDatum? = some o)
      ∧ Setting.read link.display = .ok link := by
  intro link compiler o
  have hlink : Setting.read " platform.link = z@.1=:a= " = .ok link := by decide
  have hcompiler : Setting.read "CC=" = .ok compiler := by decide
  have hread : ∀ s ∈ o.properties ++ o.environment, ∃ text, Setting.read text = .ok s := by
    refine List.forall_mem_cons.2 ⟨⟨_, hlink⟩, List.forall_mem_cons.2 ⟨⟨_, hlink⟩, ?_⟩⟩
    exact List.forall_mem_singleton.2 ⟨_, hcompiler⟩
  exact ⟨⟨hlink, hcompiler⟩, (read_back .compact).1 o hread, (read_back .compact).2.2 _ link hlink⟩

end BuildOptions

end NativeGlue
