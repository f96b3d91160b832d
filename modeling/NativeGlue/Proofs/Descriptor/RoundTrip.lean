import NativeGlue.Descriptor.Codec
import NativeGlue.Proofs.Datum.JsonText
import NativeGlue.Proofs.Datum.Shape
import NativeGlue.Proofs.Managed.Spelling

set_option autoImplicit false

/-! # Class descriptions are read back

A description can be written only if its types have names and its markers stay within the range of
data (`Document.IsValid`). Such a description is read back from its data, level by level from markers
up to documents (`Document.ofDatum?_toDatum`), and from its text in every layout. Whatever a reader
gives is valid (`Document.isValid_of_read?`), so a text that was written otherwise, with defaults left
out or fields by position, still gives a document that is stable from then on. -/

namespace NativeGlue

/-! ## Valid descriptions -/

/-- Whether the number of groups is in the range that data can hold. -/
def Marker.IsValid (m : Marker) : Prop := m.ref.groups < 4294967296

/-- Whether the type of a parameter has a name, and its markers are valid. -/
structure ParamDecl.IsValid (p : ParamDecl) : Prop where
  type : p.type.IsNamed
  markers : ∀ m ∈ p.markers, m.IsValid

/-- Whether parameters and return value are valid. -/
structure MethodDecl.IsValid (m : MethodDecl) : Prop where
  params : ∀ p ∈ m.params, p.IsValid
  returnType : m.returnType.IsNamed
  returnMarkers : ∀ r ∈ m.returnMarkers, r.IsValid

/-- Whether every method is valid. -/
def ClassDecl.IsValid (c : ClassDecl) : Prop := ∀ m ∈ c.methods, m.IsValid

/-- Whether every class is valid. -/
def Document.IsValid (d : Document) : Prop := ∀ c ∈ d.classes, c.IsValid

/-! ## Data are read back -/

theorem ManagedType.ofDatum?_toDatum {t : ManagedType} (ht : t.IsNamed) :
    ofDatum? t.toDatum = some t := by
  rw [toDatum, ofDatum?, Datum.asText?, Option.bind_some, ofText?_spelling ht]

theorem Direction.ofDatum?_toDatum (d : Direction) : ofDatum? d.toDatum = some d := by
  cases d <;> simp [toDatum, ofDatum?, spelling, ofSpelling?]

-- the entries stay open here: with the names in place, the kernel would compare them letter by letter
theorem Marker.refOfDatum?_of_entries {d : Datum} {entries : List (String × Datum)} {r : AdapterRef}
    (hentries : d.entries? ["name", "arg_count"] false = some entries)
    (hname : Datum.required? entries "name" Datum.asText? = some r.name)
    (hgroups : Datum.defaulted? entries "arg_count" Datum.asCount? 1 = some r.groups) :
    refOfDatum? d = some r := by
  have hcheck : AdapterRef.check r.name r.groups = .ok r :=
    AdapterRef.check_eq_ok_iff.2 ⟨rfl, rfl⟩
  simp only [refOfDatum?, hentries, hname, hgroups, hcheck, Option.bind_eq_bind, Option.bind_some]
  rfl

/-- The fields of a reference, behind the kind of its marker. -/
theorem Marker.refOfDatum?_record {r : AdapterRef} (hr : r.groups < 4294967296) :
    refOfDatum? (.record [("name", .text r.name), ("arg_count", .integer r.groups)]) = some r := by
  refine refOfDatum?_of_entries (Datum.entries?_record (by simp) (by simp)) ?_ ?_
  · rw [Datum.required?_cons, if_pos rfl, Datum.asText?]
  · rw [Datum.defaulted?_cons, if_neg (by simp), Datum.defaulted?_cons, if_pos rfl,
      Datum.asCount?_natCast hr]

theorem Marker.ofDatum?_toDatum {m : Marker} (hm : m.IsValid) {outer : Nat}
    (houter : outer < nestingLimit) : ofDatum? outer m.toDatum = some m := by
  have hroom : 0 < nestingLimit - outer := Nat.sub_pos_of_lt houter
  cases m with
  | text => simp [ofDatum?, toDatum, Datum.readable, Datum.readableFields, hroom, ofKind?]
  | buffer => simp [ofDatum?, toDatum, Datum.readable, Datum.readableFields, hroom, ofKind?]
  | adapter r =>
    have href : refOfDatum? (.record [("name", .text r.name), ("arg_count", .integer r.groups)])
        = some r := refOfDatum?_record hm
    simp [ofDatum?, toDatum, Datum.readable, Datum.readableFields, hroom, ofKind?, href]

/-- Fields of which the last may be left out are known if all of them are. -/
theorem entries?_markersField {names : List String} {closed : Bool}
    {fields : List (String × Datum)} {name : String}
    (hknown : ∀ n ∈ fields.map Prod.fst ++ [name], n ∈ names)
    (hnodup : (fields.map Prod.fst ++ [name]).Nodup) (markers : List Marker) :
    Datum.entries? names closed (.record (fields ++ markersField name markers))
      = some (fields ++ markersField name markers) := by
  cases markers with
  | nil =>
    simp only [markersField, List.isEmpty_nil, if_true, List.append_nil]
    exact Datum.entries?_record (fun n hn => hknown n (List.mem_append_left _ hn))
      (List.nodup_append.1 hnodup).1
  | cons m markers =>
    refine Datum.entries?_record ?_ ?_
    · rwa [List.map_append]
    · rwa [List.map_append]

theorem defaulted?_markersField {markers : List Marker} (hvalid : ∀ m ∈ markers, m.IsValid)
    {outer : Nat} (houter : outer < nestingLimit) (name : String) :
    Datum.defaulted? (markersField name markers) name (Datum.asList? (Marker.ofDatum? outer)) []
      = some markers := by
  cases markers with
  | nil => rfl
  | cons m markers =>
    rw [markersField, if_neg (by simp), Datum.defaulted?_cons, if_pos rfl]
    exact Datum.asList?_map fun m hm => Marker.ofDatum?_toDatum (hvalid m hm) houter

theorem ParamDecl.ofDatum?_toDatum {p : ParamDecl} (hp : p.IsValid) {outer : Nat}
    (houter : outer + 2 < nestingLimit) : ofDatum? outer p.toDatum = some p := by
  have hmarkers := defaulted?_markersField hp.markers houter "markers"
  rw [toDatum, ofDatum?, entries?_markersField (by simp) (by simp)]
  simp [Datum.required?_cons, Datum.defaulted?_cons, Datum.asOptional?_ofOptional,
    ManagedType.ofDatum?_toDatum hp.type, Direction.ofDatum?_toDatum, hmarkers]

theorem MethodDecl.ofDatum?_toDatum {m : MethodDecl} (hm : m.IsValid) {outer : Nat}
    (houter : outer + 4 < nestingLimit) : ofDatum? outer m.toDatum = some m := by
  have hparams : Datum.asList? (ParamDecl.ofDatum? (outer + 2))
      (.list (m.params.map ParamDecl.toDatum)) = some m.params :=
    Datum.asList?_map fun p hp => ParamDecl.ofDatum?_toDatum (hm.params p hp) houter
  have hmarkers : Datum.defaulted? (markersField "return_markers" m.returnMarkers) "return_markers"
      (Datum.asList? (Marker.ofDatum? (outer + 2))) [] = some m.returnMarkers :=
    defaulted?_markersField hm.returnMarkers (by omega) _
  rw [toDatum, ofDatum?, entries?_markersField (by simp) (by simp)]
  simp [Datum.required?_cons, Datum.defaulted?_cons, Datum.asOptional?_ofOptional, Datum.asText?,
    hparams, ManagedType.ofDatum?_toDatum hm.returnType, hmarkers]

theorem ClassDecl.ofDatum?_toDatum {c : ClassDecl} (hc : c.IsValid) {outer : Nat}
    (houter : outer + 6 < nestingLimit) : ofDatum? outer c.toDatum = some c := by
  have hmethods : Datum.asList? (MethodDecl.ofDatum? (outer + 2))
      (.list (c.methods.map MethodDecl.toDatum)) = some c.methods :=
    Datum.asList?_map fun m hm => MethodDecl.ofDatum?_toDatum (hc m hm) houter
  rw [toDatum, ofDatum?, Datum.entries?_record (by simp) (by simp)]
  simp [Datum.required?_cons, Datum.defaulted?_cons, Datum.asOptional?_ofOptional, Datum.asText?,
    Datum.asList?_ofTexts, hmethods]

theorem Document.ofDatum?_toDatum {d : Document} (hd : d.IsValid) :
    ofDatum? d.toDatum = some d := by
  have hclasses : Datum.asList? (ClassDecl.ofDatum? 2) (.list (d.classes.map ClassDecl.toDatum))
      = some d.classes :=
    Datum.asList?_map fun c hc => ClassDecl.ofDatum?_toDatum (hd c hc) (by decide)
  rw [toDatum, ofDatum?, Datum.entries?_record (by simp) (by simp)]
  simp [Datum.defaulted?_cons, hclasses]

/-! ## What is read is valid -/

theorem ManagedType.isNamed_of_ofDatum? {d : Datum} {t : ManagedType} (h : ofDatum? d = some t) :
    t.IsNamed := by
  obtain ⟨text, -, ht⟩ := Option.bind_eq_some_iff.1 h
  exact isNamed_iff.2 ⟨text, ht⟩

theorem Marker.lt_of_refOfDatum? {d : Datum} {r : AdapterRef} (h : refOfDatum? d = some r) :
    r.groups < 4294967296 := by
  simp only [refOfDatum?, Option.bind_eq_bind, Option.bind_eq_some_iff] at h
  obtain ⟨entries, -, name, -, groups, hgroups, hcheck⟩ := h
  have hread : AdapterRef.check name groups = .ok r := by
    cases hc : AdapterRef.check name groups with
    | ok r' =>
      rw [hc] at hcheck
      rw [Option.some.inj hcheck]
    | error e =>
      rw [hc] at hcheck
      cases hcheck
  rw [(AdapterRef.check_eq_ok_iff.1 hread).2]
  rcases Datum.eq_or_exists_of_defaulted? hgroups with rfl | ⟨d, hd⟩
  · decide
  · exact Datum.lt_of_asCount? hd

theorem Marker.isValid_of_ofKind? {kind : String} {fields : Datum} {m : Marker}
    (h : ofKind? kind fields = some m) : m.IsValid := by
  cases m with
  | text => exact (by decide : Marker.text.ref.groups < 4294967296)
  | buffer => exact (by decide : Marker.buffer.ref.groups < 4294967296)
  | adapter r =>
    -- the two built-in kinds give no reference
    unfold ofKind? at h
    simp only at h
    split at h
    · split at h <;> cases h
    split at h
    · split at h <;> cases h
    split at h
    · obtain ⟨r', href, heq⟩ := Option.map_eq_some_iff.1 h
      obtain rfl := Marker.adapter.inj heq
      exact lt_of_refOfDatum? href
    · cases h

theorem Marker.isValid_of_ofDatum? {outer : Nat} {d : Datum} {m : Marker}
    (h : ofDatum? outer d = some m) : m.IsValid := by
  unfold ofDatum? at h
  split at h
  · split at h
    · exact isValid_of_ofKind? h
    · split at h
      · exact isValid_of_ofKind? h
      · cases h
    · cases h
  · cases h

theorem ParamDecl.isValid_of_ofDatum? {outer : Nat} {d : Datum} {p : ParamDecl}
    (h : ofDatum? outer d = some p) : p.IsValid := by
  simp only [ofDatum?, Option.bind_eq_bind, Option.bind_eq_some_iff, Option.pure_def,
    Option.some.injEq] at h
  obtain ⟨entries, -, name, -, type, htype, direction, -, markers, hmarkers, rfl⟩ := h
  obtain ⟨_, htype⟩ := Datum.exists_of_required? htype
  refine ⟨ManagedType.isNamed_of_ofDatum? htype, fun m hm => ?_⟩
  obtain ⟨_, hread⟩ := Datum.exists_of_mem_defaulted? hmarkers m hm
  exact Marker.isValid_of_ofDatum? hread

theorem MethodDecl.isValid_of_ofDatum? {outer : Nat} {d : Datum} {m : MethodDecl}
    (h : ofDatum? outer d = some m) : m.IsValid := by
  simp only [ofDatum?, Option.bind_eq_bind, Option.bind_eq_some_iff, Option.pure_def,
    Option.some.injEq] at h
  obtain ⟨entries, -, name, -, nativeName, -, params, hparams, returnType, htype, returnMarkers,
    hmarkers, rfl⟩ := h
  refine ⟨fun p hp => ?_, ?_, fun r hr => ?_⟩
  · obtain ⟨_, hread⟩ := Datum.exists_of_mem_defaulted? hparams p hp
    exact ParamDecl.isValid_of_ofDatum? hread
  · rcases Datum.eq_or_exists_of_defaulted? htype with rfl | ⟨_, hread⟩
    · have hvoid : ManagedType.ofText? "void" = some .void := by decide
      exact ManagedType.isNamed_iff.2 ⟨"void", hvoid⟩
    · exact ManagedType.isNamed_of_ofDatum? hread
  · obtain ⟨_, hread⟩ := Datum.exists_of_mem_defaulted? hmarkers r hr
    exact Marker.isValid_of_ofDatum? hread

theorem ClassDecl.isValid_of_ofDatum? {outer : Nat} {d : Datum} {c : ClassDecl}
    (h : ofDatum? outer d = some c) : c.IsValid := by
  simp only [ofDatum?, Option.bind_eq_bind, Option.bind_eq_some_iff, Option.pure_def,
    Option.some.injEq] at h
  obtain ⟨entries, -, name, -, library, -, includes, -, methods, hmethods, rfl⟩ := h
  intro m hm
  obtain ⟨_, hread⟩ := Datum.exists_of_mem_defaulted? hmethods m hm
  exact MethodDecl.isValid_of_ofDatum? hread

theorem Document.isValid_of_ofDatum? {datum : Datum} {d : Document}
    (h : ofDatum? datum = some d) : d.IsValid := by
  simp only [ofDatum?, Option.bind_eq_bind, Option.bind_eq_some_iff, Option.pure_def,
    Option.some.injEq] at h
  obtain ⟨entries, -, classes, hclasses, rfl⟩ := h
  intro c hc
  obtain ⟨_, hread⟩ := Datum.exists_of_mem_defaulted? hclasses c hc
  exact ClassDecl.isValid_of_ofDatum? hread

theorem Document.isValid_of_read? {s : String} {d : Document} (h : read? s = some d) :
    d.IsValid := by
  obtain ⟨_, -, hd⟩ := Option.bind_eq_some_iff.1 h
  exact isValid_of_ofDatum? hd

/-! ## Texts are read back -/

theorem Marker.isJson_toDatum {m : Marker} (hm : m.IsValid) : m.toDatum.IsJson := by
  cases m with
  | text => exact ⟨trivial, trivial⟩
  | buffer => exact ⟨trivial, trivial⟩
  | adapter r =>
    have hgroups : (r.groups : Int) < 4294967296 := Int.ofNat_lt.2 hm
    exact ⟨trivial, trivial, ⟨by omega, by omega⟩, trivial⟩

theorem fieldsJson_markersField {name : String} {markers : List Marker}
    (hvalid : ∀ m ∈ markers, m.IsValid) : Datum.FieldsJson (markersField name markers) := by
  cases markers with
  | nil => trivial
  | cons m markers =>
    exact ⟨Datum.isJson_list_map fun m hm => Marker.isJson_toDatum (hvalid m hm), trivial⟩

theorem ParamDecl.isJson_toDatum {p : ParamDecl} (hp : p.IsValid) : p.toDatum.IsJson :=
  ⟨Datum.isJson_ofOptional p.name, trivial, trivial, fieldsJson_markersField hp.markers⟩

theorem MethodDecl.isJson_toDatum {m : MethodDecl} (hm : m.IsValid) : m.toDatum.IsJson :=
  ⟨trivial, Datum.isJson_ofOptional m.nativeName,
    Datum.isJson_list_map fun p hp => ParamDecl.isJson_toDatum (hm.params p hp), trivial,
    fieldsJson_markersField hm.returnMarkers⟩

theorem ClassDecl.isJson_toDatum {c : ClassDecl} (hc : c.IsValid) : c.toDatum.IsJson :=
  ⟨trivial, Datum.isJson_ofOptional c.library, Datum.isJson_list_map fun _ _ => trivial,
    Datum.isJson_list_map fun m hm => MethodDecl.isJson_toDatum (hc m hm), trivial⟩

theorem Document.isJson_toDatum {d : Document} (hd : d.IsValid) : d.toDatum.IsJson :=
  ⟨Datum.isJson_list_map fun c hc => ClassDecl.isJson_toDatum (hd c hc), trivial⟩

/-- **A valid document is read back from its text in every layout, and so is a document that any text
was read as.** -/
theorem Document.read?_written (l : Json.Layout) (d : Document) :
    (d.IsValid → read? (d.write l) = some d)
      ∧ ∀ s, read? s = some d → read? (d.write l) = some d := by
  have hback : d.IsValid → read? (d.write l) = some d := by
    intro hd
    rw [read?, write, Json.read?_write (isJson_toDatum hd) l, Option.bind_some,
      ofDatum?_toDatum hd]
  exact ⟨hback, fun s hs => hback (isValid_of_read? hs)⟩

/-- A nameless parameter with an adapter of two groups is read back, and so is a method that was
read with defaults, positions and the other word for its direction. -/
theorem Document.read?_written_codec :
    let pair : AdapterRef := ⟨"PairAdapter", 2, by decide, by decide⟩
    let written : Document := ⟨[{ name := "com.example.Codec", includes := ["<codec.h>"], methods := [
      { name := "encode", returnType := .array .byte, returnMarkers := [.buffer],
        params := [{ type := .string, direction := .both, markers := [.adapter pair] }] }] }]⟩
    let text := "\x7b\"classes\": [[\"Codec\", null, [], [\x7b\"name\": \"flush\", "
      ++ "\"parameters\": [\x7b\"type\": \" byte [] \", \"direction\": \"in_out\", "
      ++ "\"markers\": [[\"std_string\"]]\x7d]\x7d]]]\x7d"
    let found : Document := ⟨[{ name := "Codec", methods := [
      { name := "flush",
        params := [{ type := .array .byte, direction := .both, markers := [.text] }] }] }]⟩
    (written.IsValid ∧ read? (written.write .compact) = some written)
      ∧ read? text = some found ∧ read? (found.write .compact) = some found := by
  intro pair written text found
  have hparam : ∀ p ∈ [{ type := .string, direction := .both, markers := [.adapter pair] }],
      ParamDecl.IsValid p := by
    refine List.forall_mem_singleton.2 ⟨⟨"String", by decide⟩, List.forall_mem_singleton.2 ?_⟩
    exact (by decide : pair.groups < 4294967296)
  have hreturn : ∀ m ∈ [Marker.buffer], m.IsValid :=
    List.forall_mem_singleton.2 (by decide : Marker.buffer.ref.groups < 4294967296)
  have hvalid : written.IsValid := by
    refine List.forall_mem_singleton.2 (List.forall_mem_singleton.2 ?_)
    exact ⟨hparam, ⟨"byte[]", by decide⟩, hreturn⟩
  have hfound : read? text = some found := by decide +kernel
  exact ⟨⟨hvalid, (read?_written .compact written).1 hvalid⟩, hfound,
    (read?_written .compact found).2 text hfound⟩

end NativeGlue
