import NativeGlue.Build.Basic
import NativeGlue.Proofs.Glob.Looking

set_option autoImplicit false

/-! # What no tool is needed for

Reading properties, the table and the classes, making units, writing them and staging libraries need
mild requests only: whatever the host replies, no tool runs and no file is removed. To find documents
takes no more than looking around, and to load them changes nothing. -/

namespace NativeGlue

open Job

/-! ## Reading -/

theorem Properties.mild_load (host : Option Platform) (platform : Option String)
    (file : Option Path) (settings : List Setting) :
    (load host platform file settings).Only Request.IsMild := by
  have hfile (p : Properties) : (p.extendByFile file).Only Request.IsMild := by
    cases file with
    | none => exact only_pure p
    | some path =>
      exact only_bind (only_bind (only_during (mild_readText path)) fun _ => only_ofExcept _)
        fun _ => only_pure _
  exact only_bind (only_ofExcept _) fun p => only_bind (hfile p) fun _ => only_pure _

theorem TypeTable.mild_load (file : Option Path) : (load file).Only Request.IsMild := by
  have hconfig (path : Path) : (readConfig path).Only Request.IsMild := by
    refine only_bind (only_during (mild_readText path)) fun text => ?_
    split
    · exact only_pure _
    · exact only_during (only_ofExcept _)
  unfold load
  refine only_bind (only_ofExcept _) fun d => ?_
  cases file with
  | none => exact only_bind (only_pure d) fun _ => only_ofExcept _
  | some path =>
    exact only_bind (only_bind (hconfig path) fun _ => only_during (only_ofExcept _))
      fun _ => only_ofExcept _

namespace Discovery

theorem looks_documentsAt (classPath : Path) : (documentsAt classPath).Only Request.IsLook := by
  refine only_bind (looks_isFile classPath) fun isFile => ?_
  split
  · exact only_pure _
  · split
    · exact only_during (only_ofExcept _)
    · exact only_during (Glob.Pattern.looks_paths _)

theorem looks_documents (classPaths : List Path) : (documents classPaths).Only Request.IsLook :=
  Glob.only_collect looks_documentsAt

theorem passive_readDocument (path : Path) : (readDocument path).Only Request.IsPassive := by
  refine only_bind (only_during (passive_readText path)) fun text => ?_
  split
  · exact only_pure _
  · exact only_during (only_ofExcept _)

theorem passive_addClasses (path : Path) (known classes : List ClassDecl) :
    (addClasses path known classes).Only Request.IsPassive := by
  induction classes generalizing known with
  | nil => exact only_pure known
  | cons c rest ih =>
    rw [addClasses]
    split
    · exact only_bind (passive_log _ _) fun _ => ih known
    · exact ih (known ++ [c])

theorem passive_addDocuments (known : List ClassDecl) (paths : List Path) :
    (addDocuments known paths).Only Request.IsPassive := by
  induction paths generalizing known with
  | nil => exact only_pure known
  | cons path rest ih =>
    rw [addDocuments]
    refine only_bind (passive_log _ _) fun _ => ?_
    exact only_bind (passive_readDocument path) fun _ =>
      only_bind (passive_addClasses path known _) fun known => ih known

theorem passive_classes (classPaths : List Path) :
    (classes classPaths).Only Request.IsPassive :=
  only_bind ((looks_documents classPaths).mono fun _ => Request.IsLook.isPassive)
    fun _ => passive_addDocuments _ _

theorem mild_classes (classPaths : List Path) : (classes classPaths).Only Request.IsMild :=
  (passive_classes classPaths).mono fun _ => Request.IsPassive.isMild

end Discovery

/-! ## Writing -/

namespace GlueUnit

theorem notes_noteAll (lines : List String) : (noteAll lines).Notes () := by
  induction lines with
  | nil => exact notes_pure ()
  | cons line rest ih => exact (notes_logDetail _ _).bind ih

theorem mild_writeFile (path : Path) (text : String) : (writeFile path text).Only Request.IsMild :=
  only_bind (only_during (mild_writeText path text)) fun _ => mild_logDetail _ _

theorem mild_make (c : ClassDecl) (table : TypeTable) (options : GeneratorOptions) :
    (make c table options).Only Request.IsMild :=
  only_bind (notes_noteAll _).mild fun _ => only_bind (only_ofExcept _) fun _ =>
    only_bind (mild_logDetail _ _) fun _ => only_pure _

theorem mild_write (u : GlueUnit) (dir : Path) (options : GeneratorOptions) :
    (u.write dir options).Only Request.IsMild := by
  have hheader : (u.writeHeader dir options).Only Request.IsMild := by
    unfold writeHeader
    split
    · exact only_bind (mild_writeFile _ _) fun _ => only_pure _
    · exact only_pure _
  exact only_bind (only_during (mild_makeDirectory dir)) fun _ =>
    only_bind (mild_writeFile _ _) fun _ => only_bind hheader fun _ => only_pure _

end GlueUnit

/-! ## Staging -/

namespace Staging

theorem mild_filesAmong (dir : Path) (names : List String) :
    (filesAmong dir names).Only Request.IsMild := by
  induction names with
  | nil => exact only_pure []
  | cons name rest ih =>
    exact only_bind (mild_isFile _) fun _ => only_bind ih fun _ => only_pure _

theorem mild_findIn (dir : Path) (fileName version : String) :
    (findIn dir fileName version).Only Request.IsMild := by
  refine only_bind (mild_isFile _) fun isFile => ?_
  split
  · exact only_pure _
  · refine only_bind (mild_isDirectory dir) fun isDirectory => ?_
    split
    · exact only_bind (only_during (mild_list dir)) fun _ =>
        only_bind (mild_filesAmong dir _) fun _ => only_pure _
    · exact only_pure _

theorem mild_find (fileName version : String) (dirs : List Path) :
    (find fileName version dirs).Only Request.IsMild := by
  induction dirs with
  | nil => exact only_pure none
  | cons dir rest ih =>
    refine only_bind (mild_findIn dir fileName version) fun source => ?_
    split
    · split
      · exact only_pure _
      · exact ih
    · exact ih

theorem mild_copyTo (target source : Path) : (copyTo target source).Only Request.IsMild := by
  unfold copyTo
  split
  · exact only_pure _
  · exact only_bind (mild_log _ _) fun _ => only_during (mild_copy source target)

theorem mild_stage (p : Properties) (outputDir : Path) (searchPaths : List Path) (entry : String) :
    (stage p outputDir searchPaths entry).Only Request.IsMild := by
  refine only_bind (mild_find _ _ _) fun found => ?_
  split
  · exact only_bind (mild_copyTo _ _) fun _ => only_pure _
  · exact only_bind (mild_log _ _) fun _ => only_pure _

theorem mild_run (p : Properties) (outputDir : Path) : (run p outputDir).Only Request.IsMild := by
  unfold run
  induction entries p with
  | nil => exact only_pure []
  | cons entry rest ih =>
    exact only_bind (mild_stage _ _ _ _) fun _ => only_bind ih fun _ => only_pure _

end Staging

end NativeGlue
