import NativeGlue.Proofs.Tool.Linking

set_option autoImplicit false

/-! # Values on the command line of a compiler

What a lead puts in front of a value is its *front*: words that are arguments of their own, and a
last word that the value is joined to, if the lead does not end with a blank. The front is made of
the words of the lead alone (`Front.words_eq`), so every value is the end of one argument, whatever
characters it has, and the arguments for a list of values are those of no other list
(`Front.flatMap_group_inj`). With this the arguments of a compiler are known from end to end
(`Command.passes_values`). -/

namespace NativeGlue

/-! ## Words -/

/-- No word is empty. -/
theorem Text.ne_empty_of_mem_words {s w : String} (h : w ∈ words s) : w ≠ "" := by
  obtain ⟨cs, hcs, rfl⟩ := List.mem_map.1 h
  rw [Ne, String.ofList_eq_empty_iff]
  exact ne_nil_of_mem_wordsFrom hcs

/-! ## Fronts -/

/-- What stands in front of the values that are passed after a lead. -/
structure Front (lead : String) where
  /-- The arguments before the one with the value. -/
  apart : List String
  /-- What the argument with the value begins with. -/
  joint : String
  /-- Together they are the words of the lead. -/
  words_eq : apart ++ (if joint = "" then [] else [joint]) = Text.words lead

namespace Front

variable {lead : String}

/-- The arguments that pass a value. -/
def group (f : Front lead) (value : String) : List String := f.apart ++ [f.joint ++ value]

/-- The front of a lead: all words stand apart if the lead ends with a blank, and all but the last
one otherwise. -/
def ofLead (lead : String) : Front lead :=
  if h : Text.words lead = [] ∨ endsBlank lead = true then
    ⟨Text.words lead, "", by simp⟩
  else
    ⟨(Text.words lead).dropLast, (Text.words lead).getLast fun hnil => h (.inl hnil), by
      rw [if_neg (Text.ne_empty_of_mem_words (List.getLast_mem _)), List.dropLast_concat_getLast]⟩

/-- Values are passed behind the front of their lead. -/
theorem argumentGroup_eq (lead : String) : argumentGroup lead = (ofLead lead).group := by
  funext value
  by_cases hnil : Text.words lead = []
  · simp [argumentGroup, ofLead, group, hnil]
  · have hlast := List.getLast?_eq_some_getLast hnil
    by_cases hblank : endsBlank lead = true
    · simp [argumentGroup, ofLead, group, hlast, hblank]
    · simp [argumentGroup, ofLead, group, hnil, hlast, hblank]

/-! ## Values behind a front -/

variable (f : Front lead)

/-- How many arguments pass a value is a matter of the front alone. -/
theorem length_group (value : String) : (f.group value).length = f.apart.length + 1 := by
  simp [group]

/-- A value is the end of the last argument that passes it. -/
theorem getLast?_group (value : String) : (f.group value).getLast? = some (f.joint ++ value) := by
  simp [group]

theorem group_inj {a b : String} : f.group a = f.group b ↔ a = b := by
  simp [group]

end Front

/-- What is joined of blocks of one length can be taken apart again. -/
theorem flatMap_inj_of_length {α β : Type} {f : α → List β} {n : Nat}
    (hlength : ∀ a, (f a).length = n + 1) (hinj : ∀ a b, f a = f b → a = b) {xs ys : List α} :
    xs.flatMap f = ys.flatMap f ↔ xs = ys := by
  refine ⟨fun h => ?_, fun h => h ▸ rfl⟩
  induction xs generalizing ys with
  | nil =>
    cases ys with
    | nil => rfl
    | cons y ys =>
      have hlen := congrArg List.length h
      rw [List.flatMap_cons, List.length_append, hlength] at hlen
      simp at hlen
      omega
  | cons x xs ih =>
    cases ys with
    | nil =>
      have hlen := congrArg List.length h
      simp [hlength] at hlen
    | cons y ys =>
      rw [List.flatMap_cons, List.flatMap_cons] at h
      obtain ⟨hfirst, hrest⟩ := List.append_inj h (by rw [hlength, hlength])
      rw [hinj x y hfirst, ih hrest]

/-- A list of values can be read off its arguments. -/
theorem Front.flatMap_group_inj {lead : String} (f : Front lead) {xs ys : List String} :
    xs.flatMap f.group = ys.flatMap f.group ↔ xs = ys :=
  flatMap_inj_of_length f.length_group fun _ _ => f.group_inj.1

/-! ## The arguments of a compiler -/

namespace Properties

variable (p : Properties)

/-- What stands in front of the entries of the include path. -/
def includeFront : Front (p.getD PropertyKey.includePathPrefix "-I") := .ofLead _

/-- What stands in front of the file that the compiler writes. -/
def outputFront : Front (p.getD PropertyKey.compilerOutput "-o ") := .ofLead _

/-- What stands in front of the entries of the link path, for the linker. -/
def linkPathFront : Front (p.getD PropertyKey.linkPathPrefix "-L") := .ofLead _

/-- What stands in front of the entries of the link path, for the loader. -/
def runPathFront : Front (p.getD PropertyKey.runPathPrefix "") := .ofLead _

/-- The groups for one entry of the link path. -/
def searchGroups (dir : String) : List String :=
  p.linkPathFront.group dir
    ++ if p.getD PropertyKey.runPathPrefix "" = "" then [] else p.runPathFront.group dir

theorem includeArgs_eq :
    p.includeArgs = (p.list PropertyKey.includePath).flatMap p.includeFront.group := by
  rw [includeArgs, Front.argumentGroup_eq, includeFront]

theorem outputArgs_eq (output : String) : p.outputArgs output = p.outputFront.group output := by
  rw [outputArgs, Front.argumentGroup_eq, outputFront]

theorem linkPathArgs_eq :
    p.linkPathArgs = (p.list PropertyKey.linkPath).flatMap p.searchGroups := by
  have hgroups : p.linkPathGroup = p.searchGroups := by
    funext dir
    rw [linkPathGroup, Front.argumentGroup_eq, Front.argumentGroup_eq]
    rfl
  rw [linkPathArgs, hgroups]

/-- The entries of the link path can be read off their arguments. -/
theorem flatMap_searchGroups_inj {xs ys : List String} :
    xs.flatMap p.searchGroups = ys.flatMap p.searchGroups ↔ xs = ys := by
  -- the groups for the linker alone tell the entries apart
  have hinj (a b : String) (h : p.searchGroups a = p.searchGroups b) : a = b := by
    have hlength := (p.linkPathFront.length_group a).trans (p.linkPathFront.length_group b).symm
    exact p.linkPathFront.group_inj.1 (List.append_inj_left h hlength)
  by_cases hloader : p.getD PropertyKey.runPathPrefix "" = ""
  · refine flatMap_inj_of_length (n := p.linkPathFront.apart.length) (fun dir => ?_) hinj
    simp [searchGroups, hloader, Front.length_group]
  · refine flatMap_inj_of_length
      (n := p.linkPathFront.apart.length + 1 + p.runPathFront.apart.length) (fun dir => ?_) hinj
    simp [searchGroups, hloader, Front.length_group, Nat.add_assoc]

end Properties

namespace Command

/-- **The arguments of a compiler keep every value intact.** They are the defaults, a group for every
entry of the include path, the sources, the options, a group for the output, one or two groups for
every entry of the link path, and an argument for every library. The front of a group comes from the
lead, its last argument ends with the value, and the entries of both paths can be read off. -/
theorem passes_values {p : Properties} {compiler : String}
    (hcompiler : p.get? PropertyKey.compiler = some compiler)
    (hblank : Text.isBlankText compiler = false) (sources : List Path) (output : Path)
    (options : List String) (env : List Setting) :
    (∃ command, compile p sources output options env = .ok command
      ∧ command.program = compiler
      ∧ command.args = Text.words (p.getD PropertyKey.compilerDefaults "")
          ++ (p.list PropertyKey.includePath).flatMap p.includeFront.group
          ++ sources.map Path.text
          ++ options
          ++ p.outputFront.group output.text
          ++ (p.list PropertyKey.linkPath).flatMap p.searchGroups
          ++ (p.list PropertyKey.link).map p.linkArgument)
      ∧ (∀ (lead : String) (f : Front lead) (value : String),
          (f.group value).length = f.apart.length + 1
            ∧ (f.group value).getLast? = some (f.joint ++ value))
      ∧ (∀ dirs dirs' : List String,
          dirs.flatMap p.includeFront.group = dirs'.flatMap p.includeFront.group ↔ dirs = dirs')
      ∧ (∀ dirs dirs' : List String,
          dirs.flatMap p.searchGroups = dirs'.flatMap p.searchGroups ↔ dirs = dirs')
      ∧ ∀ libraries libraries' : List String,
          libraries.map p.linkArgument = libraries'.map p.linkArgument ↔ libraries = libraries' := by
  refine ⟨?_, fun lead f value => ⟨f.length_group value, f.getLast?_group value⟩,
    fun dirs dirs' => p.includeFront.flatMap_group_inj,
    fun dirs dirs' => p.flatMap_searchGroups_inj, fun libraries libraries' => ?_⟩
  · have hcompile : compile p sources output options env = .ok {
        program := compiler
        args := Text.words (p.getD PropertyKey.compilerDefaults "") ++ p.includeArgs
          ++ sources.map Path.text ++ options ++ p.outputArgs output.text
          ++ p.linkPathArgs ++ p.linkArgs
        env := environment env
        dir := output.parent? } := by
      unfold compile
      simp only [hcompiler, hblank, Bool.false_eq_true, if_false]
    refine ⟨_, hcompile, rfl, ?_⟩
    rw [Properties.includeArgs_eq, Properties.outputArgs_eq, Properties.linkPathArgs_eq]
    rfl
  · exact List.map_inj_right fun a b => Properties.linkArgument_inj.1

/-- Directories with blanks in their names, behind a lead of two words, one that ends with a blank,
and one that is nothing but a blank. -/
theorem passes_values_blanks :
    let p : Properties := ⟨.ofList [(PropertyKey.compiler, "cl"), (PropertyKey.separator, ";"),
      (PropertyKey.includePathPrefix, "-isystem "), (PropertyKey.includePath, "my inc; b"),
      (PropertyKey.compilerOutput, "/link /OUT:"), (PropertyKey.runPathPrefix, " "),
      (PropertyKey.linkPath, "my lib")]⟩
    p.get? PropertyKey.compiler = some "cl" ∧ Text.isBlankText "cl" = false
      ∧ ∃ command, compile p [⟨"a b.cpp"⟩] ⟨"my out.dll"⟩ [] [] = .ok command
        ∧ command.args = ["-isystem", "my inc", "-isystem", "b", "a b.cpp", "/link",
            "/OUT:my out.dll", "-Lmy lib", "my lib"] := by
  intro p
  have hcompiler : p.get? PropertyKey.compiler = some "cl" := by decide
  have hblank : Text.isBlankText "cl" = false := by decide
  obtain ⟨⟨command, hcommand, _, hargs⟩, _⟩ :=
    passes_values hcompiler hblank [⟨"a b.cpp"⟩] ⟨"my out.dll"⟩ [] []
  exact ⟨hcompiler, hblank, command, hcommand, hargs.trans (by decide +kernel)⟩

end Command

end NativeGlue
