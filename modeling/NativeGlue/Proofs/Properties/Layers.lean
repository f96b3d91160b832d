import NativeGlue.Proofs.Properties.Paths

set_option autoImplicit false

/-! # Layers of properties

Properties come in layers: those of a platform, the lines of a property file, and single settings,
which options may themselves have in two layers. Laying settings over properties gives every key the
last value it has among them (`Properties.get?_setAll`), and a property file does the same with the
settings on its lines, although these are sorted by key in between. So a property has the value of
the last layer that sets it (`Build.get?_of_layers`). -/

namespace NativeGlue

/-! ## Maps that list every key once -/

namespace KeyMap

/-- Whether the keys of a map are listed in ascending order. -/
def IsSorted {α : Type} (m : KeyMap String α) : Prop := m.entries.Pairwise fun a b => a.1 < b.1

theorem isSorted_insert {α : Type} {m : KeyMap String α} (hm : m.IsSorted) (key : String)
    (value : α) : (m.insert key value).IsSorted := by
  obtain ⟨es⟩ := m
  change es.Pairwise (fun a b => a.1 < b.1) at hm
  show (place key value es).Pairwise fun a b => a.1 < b.1
  induction es with
  | nil => exact List.pairwise_singleton _ _
  | cons e es ih =>
    obtain ⟨k, v⟩ := e
    obtain ⟨hfirst, hrest⟩ := List.pairwise_cons.1 hm
    unfold place
    split
    · next hk =>
      subst hk
      exact List.pairwise_cons.2 ⟨hfirst, hrest⟩
    · next hk =>
      split
      · next hbefore =>
        have hlt : key < k := of_decide_eq_true hbefore
        refine List.pairwise_cons.2 ⟨?_, hm⟩
        intro e he
        rcases List.mem_cons.1 he with rfl | he
        · exact hlt
        · exact String.lt_trans hlt (hfirst e he)
      · next hbefore =>
        -- the keys are compared already, so the new one comes behind the first
        have hle : k ≤ key := String.not_lt.1 fun hlt => hbefore (decide_eq_true hlt)
        have hlt : k < key :=
          Decidable.byContradiction fun hnot => hk (String.le_antisymm hle (String.not_lt.1 hnot))
        refine List.pairwise_cons.2 ⟨?_, ih hrest⟩
        intro e he
        rcases of_mem_insert (m := ⟨es⟩) he with rfl | he
        · exact hlt
        · exact hfirst e he

end KeyMap

/-! ## Settings one after the other -/

/-- The value of the last setting with a key. -/
def Setting.last? (key : String) (settings : List Setting) : Option String :=
  ((settings.filter fun s => s.key == key).getLast?).map (·.value)

namespace Setting

theorem last?_append (key : String) (a b : List Setting) :
    last? key (a ++ b) = (last? key b).or (last? key a) := by
  unfold last?
  rw [List.filter_append, List.getLast?_append]
  cases (b.filter fun s => s.key == key).getLast? <;> rfl

theorem last?_cons (key : String) (s : Setting) (rest : List Setting) :
    last? key (s :: rest) = (last? key rest).or (if s.key = key then some s.value else none) := by
  have happend := last?_append key [s] rest
  rw [List.singleton_append] at happend
  rw [happend]
  by_cases h : s.key = key <;> simp [last?, h]

end Setting

/-- The properties that a platform sets, as settings. -/
def Platform.settings (p : Platform) : List Setting := p.entries.map fun e => ⟨e.1, e.2⟩

namespace Properties

theorem get?_set (p : Properties) (key other value : String) :
    (p.set key value).get? other = if other = key then some value else p.get? other :=
  p.values.find?_insert key other value

/-- A key has the last value that the settings give it, or the one it had. -/
theorem get?_setAll (p : Properties) (settings : List Setting) (key : String) :
    (p.setAll settings).get? key = (Setting.last? key settings).or (p.get? key) := by
  induction settings generalizing p with
  | nil => rfl
  | cons s rest ih =>
    have hset : (p.setAll (s :: rest)).get? key = ((p.set s.key s.value).setAll rest).get? key := rfl
    rw [hset, ih, get?_set, Setting.last?_cons, Option.or_assoc]
    by_cases h : key = s.key
    · simp [h]
    · have h' : s.key ≠ key := fun heq => h heq.symm
      simp [h, h']

/-! ## Property files -/

/-- The entries of properties as settings, in the order of their keys. -/
def settings (p : Properties) : List Setting := p.values.entries.map fun e => ⟨e.1, e.2⟩

theorem extend_eq_setAll (p other : Properties) : p.extend other = p.setAll other.settings := by
  obtain ⟨⟨es⟩⟩ := other
  show (⟨p.values.insertAll es⟩ : Properties) = p.setAll (es.map fun e => ⟨e.1, e.2⟩)
  induction es generalizing p with
  | nil => rfl
  | cons e es ih => exact ih (p.set e.1 e.2)

/-- A platform sets what its entries list. -/
theorem get?_ofPlatform (platform : Platform) (key : String) :
    (ofPlatform platform).get? key = Setting.last? key platform.settings := by
  have hextend : ofPlatform platform = extend {} ⟨⟨platform.entries⟩⟩ := rfl
  rw [hextend, extend_eq_setAll, get?_setAll]
  exact Option.or_none

/-- Where every key is listed once, its last value is its value. -/
theorem last?_settings {p : Properties} (hp : p.values.IsSorted) (key : String) :
    Setting.last? key p.settings = p.get? key := by
  obtain ⟨⟨es⟩⟩ := p
  change es.Pairwise (fun a b => a.1 < b.1) at hp
  show Setting.last? key (es.map fun e => ⟨e.1, e.2⟩) = KeyMap.lookup key es
  induction es with
  | nil => rfl
  | cons e es ih =>
    obtain ⟨k, v⟩ := e
    obtain ⟨hfirst, hrest⟩ := List.pairwise_cons.1 hp
    rw [List.map_cons, Setting.last?_cons, ih hrest, KeyMap.lookup]
    by_cases h : k = key
    · -- all other keys come behind this one
      have hnone : KeyMap.lookup key es = none := by
        rw [Option.eq_none_iff_forall_ne_some]
        intro value hvalue
        have hmem := KeyMap.mem_of_find? (m := ⟨es⟩) hvalue
        exact String.lt_irrefl key (h ▸ hfirst _ hmem)
      simp [h, hnone]
    · simp [h]

theorem isSorted_setAll {p : Properties} (hp : p.values.IsSorted) (settings : List Setting) :
    (p.setAll settings).values.IsSorted := by
  induction settings generalizing p with
  | nil => exact hp
  | cons s rest ih => exact ih (KeyMap.isSorted_insert hp s.key s.value)

end Properties

/-- The setting on a line of a property file, if there is one. -/
def PropertyLine.setting? : PropertyLine → Option Setting
  | entry key value => some ⟨key, value⟩
  | _ => none

namespace Properties

/-- The settings on lines of a property file. -/
def lineSettings (lines : List String) : List Setting :=
  lines.filterMap fun line => (PropertyLine.ofTrimmed (Text.trim line)).setting?

/-- Lines that are read are laid over properties one after the other. -/
theorem eq_setAll_of_readLines {p q : Properties} {number : Nat} {lines : List String}
    (h : readLines p number lines = .ok q) : q = p.setAll (lineSettings lines) := by
  induction lines generalizing p number with
  | nil => exact (Except.ok.inj h).symm
  | cons line rest ih =>
    unfold readLines at h
    split at h
    · next hline =>
      rw [ih h, lineSettings, lineSettings, List.filterMap_cons, hline]
      rfl
    · next key value hline =>
      rw [ih h, lineSettings, lineSettings, List.filterMap_cons, hline]
      rfl
    · exact absurd h (by simp)

/-- A property file sets what its lines set. -/
theorem get?_extend_of_read {p q : Properties} {text : String} (h : read text = .ok q)
    (key : String) :
    (p.extend q).get? key = (Setting.last? key (lineSettings (Text.lines text))).or (p.get? key) := by
  have hempty : ({} : Properties).values.IsSorted := List.Pairwise.nil
  obtain rfl := eq_setAll_of_readLines h
  rw [extend_eq_setAll, get?_setAll, last?_settings (isSorted_setAll hempty _), get?_setAll]
  exact congrArg (Option.or · (p.get? key)) (Option.or_none)

/-! ## Loading -/

/-- In a run, the property file, if there is one, is read and has these settings on its lines. -/
inductive ReadsFile : Option Path → List Event → List Setting → Prop where
  | absent : ReadsFile none [] []
  | present (path : Path) (text : String) :
      ReadsFile (some path) [⟨.readText path, .ok text⟩] (lineSettings (Text.lines text))

theorem extendByFile_of_trace {p q : Properties} {file : Option Path} {es : List Event}
    (h : (p.extendByFile file).Trace es (.ok q)) :
    ∃ lines, ReadsFile file es lines
      ∧ ∀ key, q.get? key = (Setting.last? key lines).or (p.get? key) := by
  cases file with
  | none =>
    obtain ⟨rfl, hq⟩ := Job.trace_pure_iff.1 h
    obtain rfl := Except.ok.inj hq
    exact ⟨[], .absent, fun key => rfl⟩
  | some path =>
    obtain ⟨first, second, other, rfl, hload, hpure⟩ := Job.trace_bind_ok_iff.1 h
    obtain ⟨rfl, hq⟩ := Job.trace_pure_iff.1 hpure
    obtain rfl := Except.ok.inj hq
    obtain ⟨reading, parsing, text, rfl, htext, hread⟩ := Job.trace_bind_ok_iff.1 hload
    obtain rfl := Job.trace_readText_ok_iff.1 (Job.trace_during_ok_iff.1 htext)
    obtain ⟨rfl, hother⟩ := Job.trace_ofExcept_iff.1 hread
    refine ⟨_, .present path text, fun key => ?_⟩
    exact get?_extend_of_read (orFail_eq_ok_iff.1 hother.symm) key

/-- Properties are loaded in three layers, of which the last that sets a key wins. -/
theorem layers_of_load {host : Option Platform} {platform : Option String} {file : Option Path}
    {settings : List Setting} {es : List Event} {p : Properties}
    (h : (load host platform file settings).Trace es (.ok p)) :
    ∃ lowest lines, base host platform = .ok lowest ∧ ReadsFile file es lines
      ∧ ∀ key, p.get? key = (Setting.last? key settings).or
          ((Setting.last? key lines).or (lowest.get? key)) := by
  obtain ⟨first, rest, lowest, rfl, hbase, hrest⟩ := Job.trace_bind_ok_iff.1 h
  obtain ⟨rfl, hlowest⟩ := Job.trace_ofExcept_iff.1 hbase
  obtain ⟨reading, last, q, rfl, hfile, hlast⟩ := Job.trace_bind_ok_iff.1 hrest
  obtain ⟨rfl, hp⟩ := Job.trace_pure_iff.1 hlast
  rw [Except.ok.inj hp]
  obtain ⟨lines, hlines, hq⟩ := extendByFile_of_trace hfile
  refine ⟨lowest, lines, orFail_eq_ok_iff.1 hlowest.symm, by simpa using hlines, fun key => ?_⟩
  rw [get?_setAll, hq]

/-- Where the platform is known and the property file can be read, properties are loaded. -/
theorem trace_load {host : Option Platform} {platform : Option String} {lowest q : Properties}
    {text : String} (path : Path) (hlowest : base host platform = .ok lowest)
    (hq : read text = .ok q) (settings : List Setting) :
    (load host platform (some path) settings).Trace [⟨.readText path, .ok text⟩]
      (.ok ((lowest.extend q).setAll settings)) := by
  have hbase : (Job.ofExcept (orFail .property (base host platform))).Trace [] (.ok lowest) :=
    Job.trace_ofExcept_iff.2 ⟨rfl, (orFail_eq_ok_iff.2 hlowest).symm⟩
  have hparse : (Job.ofExcept (orFail .property (read text))).Trace [] (.ok q) :=
    Job.trace_ofExcept_iff.2 ⟨rfl, (orFail_eq_ok_iff.2 hq).symm⟩
  have hload : (loadFile path).Trace [⟨.readText path, .ok text⟩] (.ok q) :=
    (Job.trace_during_ok_iff.2 (Job.trace_readText_ok_iff.2 rfl)).bind hparse
  have hextend : (lowest.extendByFile (some path)).Trace [⟨.readText path, .ok text⟩]
      (.ok (lowest.extend q)) :=
    hload.bind_pure _
  exact hbase.bind (hextend.bind_pure _)

theorem of_named_eq_ok {name : String} {p : Properties} (h : named name = .ok p) :
    ∃ platform : Platform, platform.name = name ∧ p = ofPlatform platform := by
  unfold named at h
  split at h
  · next platform hplatform =>
    exact ⟨platform, by simpa using List.find?_some hplatform, (Except.ok.inj h).symm⟩
  · exact absurd h (by simp)

end Properties

/-! ## Layers of options -/

namespace Build

/-- **The last layer that sets a property wins.** Options `c` are laid over options `b`, and at least
one of them names a platform. Where the properties can be had, the platform is known, and a property
other than a path list has its value from the settings of `c`, or else those of `b`, or else the
property file, or else the platform; within a layer the last setting or line counts. -/
theorem get?_of_layers {b c : BuildOptions} {source : ClassSource} {host : Option Platform}
    {es : List Event} {p : Properties}
    (hplatform : (c.platform.or b.platform).isSome)
    (h : (Build.mk (b.overlay c) source host).properties.Trace es (.ok p)) :
    ∃ (platform : Platform) (lines : List Setting),
      c.platform.or b.platform = some platform.name
        ∧ Properties.ReadsFile (c.propertyFile.or b.propertyFile) es lines
        ∧ ∀ key ∉ BuildOptions.pathKeys,
            p.get? key = (Setting.last? key c.properties).or
              ((Setting.last? key b.properties).or
                ((Setting.last? key lines).or (Setting.last? key platform.settings))) := by
  obtain ⟨loaded, hload, rfl⟩ := trace_properties_iff.1 h
  obtain ⟨lowest, lines, hlowest, hlines, hvalues⟩ := Properties.layers_of_load hload
  obtain ⟨name, hname⟩ := Option.isSome_iff_exists.1 hplatform
  have hoverlay : (b.overlay c).platform = some name := hname
  rw [hoverlay] at hlowest
  obtain ⟨platform, rfl, rfl⟩ := Properties.of_named_eq_ok hlowest
  refine ⟨platform, lines, hname, hlines, fun key hkey => ?_⟩
  have hsettings : (b.overlay c).properties = b.properties ++ c.properties := rfl
  rw [BuildOptions.get?_appendPaths _ _ hkey, hvalues, hsettings, Setting.last?_append,
    Option.or_assoc, Properties.get?_ofPlatform]

/-- Both layers name a platform and a file; one key has several lines, another has settings in both
layers, a third only its platform, and a fourth nothing. -/
theorem get?_of_layers_linux :
    let b : BuildOptions :=
      { platform := some "macosx-arm64", propertyFile := some ⟨"b.properties"⟩
        properties := [⟨PropertyKey.link, "b"⟩] }
    let c : BuildOptions :=
      { platform := some "linux-x86_64", propertyFile := some ⟨"c.properties"⟩
        properties := [⟨PropertyKey.link, "c"⟩, ⟨PropertyKey.link, "d"⟩] }
    let text := "platform.compiler = icc\n# remark\n platform.compiler : clang++\nplatform.link = z"
    ∃ p, (Build.mk (b.overlay c) .discovered none).properties.Trace
        [⟨.readText ⟨"c.properties"⟩, .ok text⟩] (.ok p)
      ∧ (c.platform.or b.platform).isSome
      ∧ p.get? PropertyKey.link = some "d" ∧ p.get? PropertyKey.compiler = some "clang++"
      ∧ p.get? PropertyKey.librarySuffix = some ".so" ∧ p.get? "platform.other" = none := by
  intro b c text
  obtain ⟨p, hp⟩ : ∃ p, (Build.mk (b.overlay c) .discovered none).properties.Trace
      [⟨.readText ⟨"c.properties"⟩, .ok text⟩] (.ok p) := by
    have hlowest : Properties.base none (b.overlay c).platform = .ok (.ofPlatform .linuxX86) := rfl
    have hok : (Properties.read text).isOk = true := by decide +kernel
    obtain ⟨q, hread⟩ : ∃ q, Properties.read text = .ok q := by
      cases hq : Properties.read text with
      | ok q => exact ⟨q, rfl⟩
      | error e =>
        rw [hq] at hok
        exact absurd hok (by simp [Except.isOk, Except.toBool])
    have hload := Properties.trace_load ⟨"c.properties"⟩ hlowest hread (b.overlay c).properties
    exact ⟨_, trace_properties_iff.2 ⟨_, hload, rfl⟩⟩
  have hsome : (c.platform.or b.platform).isSome := rfl
  obtain ⟨platform, lines, hname, hlines, hvalues⟩ := get?_of_layers hsome hp
  cases hlines
  obtain rfl : platform = .linuxX86 := by
    cases platform <;> first | rfl | exact absurd hname (by decide)
  refine ⟨p, hp, hsome, ?_, ?_, ?_, ?_⟩
  · exact (hvalues PropertyKey.link (by decide)).trans (by decide +kernel)
  · exact (hvalues PropertyKey.compiler (by decide)).trans (by decide +kernel)
  · exact (hvalues PropertyKey.librarySuffix (by decide)).trans (by decide +kernel)
  · exact (hvalues "platform.other" (by decide)).trans (by decide +kernel)

end Build

end NativeGlue
