import NativeGlue.Build.Basic
import NativeGlue.Proofs.Script.Trace
import NativeGlue.Proofs.Text.Cut

set_option autoImplicit false

/-! # Paths appended to properties

Where one character stands between the entries of path lists, appending values to a list adds their
entries to those it has, in order, whatever blanks and separators the list and the values begin or
end with (`PathList.entries_appendAll`). So the paths of the options extend the path lists of the
properties that were loaded and touch nothing else (`Build.extends_paths`). A separator of several
characters has no such law: the end of a list and the beginning of the separator behind it may make
up a separator, too. -/

namespace NativeGlue

/-! ## Entries of a list with more values -/

namespace PathList

variable {sep : Char}

theorem entries_singleton (s : String) :
    entries (.singleton sep) s
      = ((s.toList.splitOn sep).map fun piece => Text.trim (.ofList piece)).filter (· != "") := by
  have hsplit : Text.splitChars [sep] s.toList = s.toList.splitOn sep := by
    rw [Text.splitChars, if_neg (by simp), Text.splitFrom_eq_splitOn]
  rw [entries, Text.split, String.toList_singleton, hsplit, List.map_map]
  rfl

@[simp] theorem entries_empty : entries (.singleton sep) "" = [] := by
  rw [entries_singleton]
  rfl

/-- A separator keeps what stands on its two sides apart. -/
theorem entries_append_separator (a b : String) :
    entries (.singleton sep) (a ++ .singleton sep ++ b)
      = entries (.singleton sep) a ++ entries (.singleton sep) b := by
  have hchars : (a ++ String.singleton sep ++ b).toList = a.toList ++ sep :: b.toList := by simp
  have hsplit : (a.toList ++ sep :: b.toList).splitOn sep
      = a.toList.splitOn sep ++ b.toList.splitOn sep := by
    simp only [List.splitOn_eq_splitOnP]
    exact List.splitOnP_append_cons _ _ (by simp)
  simp only [entries_singleton]
  rw [hchars, hsplit, List.map_append, List.filter_append]

theorem entries_append (list value : String) :
    entries (.singleton sep) (append (.singleton sep) list value)
      = entries (.singleton sep) list ++ entries (.singleton sep) value := by
  unfold append
  split
  · next h =>
    rcases h with rfl | hends
    · simp
    · -- the list has its separator already, and nothing stands behind it
      obtain ⟨front, hfront⟩ := Option.isSome_iff_exists.1 hends
      obtain rfl := Text.eq_append_of_dropStop? hfront
      have hlist : entries (.singleton sep) (front ++ .singleton sep)
          = entries (.singleton sep) front := by
        simpa [entries_empty] using entries_append_separator front ""
      rw [entries_append_separator, hlist]
  · exact entries_append_separator list value

/-- The entries of a list with values appended are its own, and then those of the values. -/
theorem entries_appendAll (list : String) (values : List String) :
    entries (.singleton sep) (appendAll (.singleton sep) list values)
      = entries (.singleton sep) list ++ values.flatMap (entries (.singleton sep)) := by
  induction values generalizing list with
  | nil => simp
  | cons value values ih =>
    rw [appendAll_cons, ih, entries_append, List.flatMap_cons, List.append_assoc]

end PathList

/-! ## Properties with more paths -/

namespace Properties

variable {p : Properties} {key : String}

theorem get?_appendPaths_of_ne {other : String} (values : List String) (h : other ≠ key) :
    (p.appendPaths key values).get? other = p.get? other := get?_set_of_ne p _ h

theorem separator_appendPaths (values : List String) (hkey : PropertyKey.separator ≠ key) :
    (p.appendPaths key values).separator = p.separator := by
  rw [separator, getD, get?_appendPaths_of_ne values hkey]
  rfl

theorem list_appendPaths_of_ne {other : String} (values : List String) (h : other ≠ key)
    (hkey : PropertyKey.separator ≠ key) : (p.appendPaths key values).list other = p.list other := by
  rw [list, getD, separator_appendPaths values hkey, get?_appendPaths_of_ne values h]
  rfl

theorem list_appendPaths_self (values : List String) (hkey : PropertyKey.separator ≠ key)
    {sep : Char} (hsep : p.separator = .singleton sep) :
    (p.appendPaths key values).list key
      = p.list key ++ values.flatMap (PathList.entries p.separator) := by
  have hvalue : (p.appendPaths key values).getD key ""
      = PathList.appendAll p.separator (p.getD key "") values := by
    rw [getD, appendPaths, get?_set_self, Option.getD_some]
  rw [list, separator_appendPaths values hkey, hvalue, hsep, PathList.entries_appendAll, list, hsep]

end Properties

/-! ## Properties with the paths of options -/

namespace BuildOptions

/-- The keys of the lists that options add paths to. -/
def pathKeys : List String :=
  [PropertyKey.includePath, PropertyKey.linkPath, PropertyKey.preloadPath]

/-- Properties with the paths of options appended to their lists. -/
def appendPaths (o : BuildOptions) (p : Properties) : Properties :=
  ((p.appendPaths PropertyKey.includePath o.allIncludePaths).appendPaths
    PropertyKey.linkPath o.allLinkPaths).appendPaths PropertyKey.preloadPath o.allPreloadPaths

theorem get?_appendPaths (o : BuildOptions) (p : Properties) {key : String}
    (hkey : key ∉ pathKeys) : (o.appendPaths p).get? key = p.get? key := by
  simp only [pathKeys, List.mem_cons, List.not_mem_nil, or_false, not_or] at hkey
  obtain ⟨hinclude, hlink, hpreload⟩ := hkey
  rw [appendPaths, Properties.get?_appendPaths_of_ne _ hpreload,
    Properties.get?_appendPaths_of_ne _ hlink, Properties.get?_appendPaths_of_ne _ hinclude]

theorem separator_appendPaths (o : BuildOptions) (p : Properties) :
    (o.appendPaths p).separator = p.separator := by
  rw [Properties.separator, Properties.getD, get?_appendPaths o p (by decide)]
  rfl

/-- Properties are those of `base` with the paths of options behind the entries of their lists: first
the paths that are given as a list, then the one that is given by itself. -/
structure ExtendsPaths (o : BuildOptions) (base p : Properties) : Prop where
  includePath : p.list PropertyKey.includePath = base.list PropertyKey.includePath
    ++ (o.includePaths ++ o.includePath.toList).flatMap (PathList.entries p.separator)
  linkPath : p.list PropertyKey.linkPath = base.list PropertyKey.linkPath
    ++ (o.linkPaths ++ o.linkPath.toList).flatMap (PathList.entries p.separator)
  preloadPath : p.list PropertyKey.preloadPath = base.list PropertyKey.preloadPath
    ++ (o.preloadPaths ++ o.preloadPath.toList).flatMap (PathList.entries p.separator)
  others : ∀ key ∉ pathKeys, p.get? key = base.get? key

theorem extendsPaths_appendPaths (o : BuildOptions) {p : Properties} {sep : Char}
    (hsep : p.separator = .singleton sep) : o.ExtendsPaths p (o.appendPaths p) := by
  have hinclude : PropertyKey.separator ≠ PropertyKey.includePath := by decide
  have hlink : PropertyKey.separator ≠ PropertyKey.linkPath := by decide
  have hpreload : PropertyKey.separator ≠ PropertyKey.preloadPath := by decide
  -- each list is changed once, in properties that have the separator still
  have hsep' : (p.appendPaths PropertyKey.includePath o.allIncludePaths).separator
      = .singleton sep := (Properties.separator_appendPaths _ hinclude).trans hsep
  have hsep'' : ((p.appendPaths PropertyKey.includePath o.allIncludePaths).appendPaths
      PropertyKey.linkPath o.allLinkPaths).separator = .singleton sep :=
    (Properties.separator_appendPaths _ hlink).trans hsep'
  constructor
  · rw [separator_appendPaths, appendPaths,
      Properties.list_appendPaths_of_ne _ (by decide) hpreload,
      Properties.list_appendPaths_of_ne _ (by decide) hlink,
      Properties.list_appendPaths_self _ hinclude hsep]
    rfl
  · rw [separator_appendPaths, appendPaths,
      Properties.list_appendPaths_of_ne _ (by decide) hpreload,
      Properties.list_appendPaths_self _ hlink hsep',
      Properties.list_appendPaths_of_ne _ (by decide) hinclude, hsep', hsep]
    rfl
  · rw [separator_appendPaths, appendPaths, Properties.list_appendPaths_self _ hpreload hsep'',
      Properties.list_appendPaths_of_ne _ (by decide) hlink,
      Properties.list_appendPaths_of_ne _ (by decide) hinclude, hsep'', hsep]
    rfl
  · exact fun key hkey => o.get?_appendPaths p hkey

end BuildOptions

namespace Build

/-- The properties that a build starts from, before the paths of its options are appended. -/
def loadedProperties (b : Build) : Job Properties :=
  Properties.load b.host b.options.platform b.options.propertyFile b.options.properties

/-- A build has its properties when it has loaded them, and what it appends takes no request. -/
theorem trace_properties_iff {b : Build} {es : List Event} {p : Properties} :
    b.properties.Trace es (.ok p) ↔
      ∃ base, b.loadedProperties.Trace es (.ok base) ∧ p = b.options.appendPaths base := by
  have heq : b.properties = b.loadedProperties >>= fun base => pure (b.options.appendPaths base) :=
    rfl
  rw [heq, Job.trace_bind_ok_iff]
  constructor
  · rintro ⟨first, second, base, rfl, hload, hpure⟩
    obtain ⟨rfl, hp⟩ := Job.trace_pure_iff.1 hpure
    exact ⟨base, (List.append_nil first).symm ▸ hload, Except.ok.inj hp⟩
  · rintro ⟨base, hload, rfl⟩
    exact ⟨es, [], base, (List.append_nil es).symm, hload, Job.trace_pure_iff.2 ⟨rfl, rfl⟩⟩

/-- **Paths of options extend the path lists of properties.** Whatever is loaded, if one character
stands between the entries of path lists, then the paths of the options come behind the entries that
were there and every other property stays; for such a separator the entries of a list with values
appended are those of the list, and then those of the values. -/
theorem extends_paths :
    (∀ (b : Build) es p, b.properties.Trace es (.ok p) → p.separator.length = 1 →
        ∃ base, b.loadedProperties.Trace es (.ok base) ∧ b.options.ExtendsPaths base p)
      ∧ ∀ separator list : String, separator.length = 1 → ∀ values,
          PathList.entries separator (PathList.appendAll separator list values)
            = PathList.entries separator list
              ++ values.flatMap (PathList.entries separator) := by
  constructor
  · intro b es p htrace hlength
    obtain ⟨base, hload, rfl⟩ := trace_properties_iff.1 htrace
    obtain ⟨sep, hsep⟩ := Text.exists_singleton hlength
    rw [BuildOptions.separator_appendPaths] at hsep
    exact ⟨base, hload, b.options.extendsPaths_appendPaths hsep⟩
  · intro separator list hlength values
    obtain ⟨sep, rfl⟩ := Text.exists_singleton hlength
    exact PathList.entries_appendAll list values

/-- A list that ends with its separator, and values with blanks, doubled separators and nothing. -/
theorem extends_paths_include :
    let b : Build := { options :=
      { platform := some "linux-x86_64"
        properties := [⟨PropertyKey.includePath, "/usr/include:"⟩]
        includePaths := ["", "/a::/b"]
        includePath := some " /c:" } }
    ∃ p, b.properties.Trace [] (.ok p) ∧ p.separator.length = 1
      ∧ p.list PropertyKey.includePath = ["/usr/include", "/a", "/b", "/c"]
      ∧ (∃ base, b.loadedProperties.Trace [] (.ok base) ∧ b.options.ExtendsPaths base p)
      ∧ PathList.entries ";" (PathList.appendAll ";" "/a;" [" ", ";/b"])
          = PathList.entries ";" "/a;" ++ [" ", ";/b"].flatMap (PathList.entries ";") := by
  intro b
  obtain ⟨p, hp, hlength, hlist⟩ : ∃ p, b.properties.Trace [] (.ok p) ∧ p.separator.length = 1
      ∧ p.list PropertyKey.includePath = ["/usr/include", "/a", "/b", "/c"] :=
    ⟨_, Script.Trace.done _, by decide +kernel, by decide +kernel⟩
  exact ⟨p, hp, hlength, hlist, extends_paths.1 b [] p hp hlength,
    extends_paths.2 ";" "/a;" (by decide) [" ", ";/b"]⟩

end Build

end NativeGlue
