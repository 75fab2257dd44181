import Mathlib.Data.List.Basic

structure Disk (Path Content : Type) where
  files : Path → Option Content
  touched : List Path := []

namespace Disk
variable {Path Content : Type} {disk before middle after : Disk Path Content} {path : Path} {paths : List Path}

structure Within (paths : List Path) (before after : Disk Path Content) : Prop where
  files : ∀ path, path ∉ paths → after.files path = before.files path
  touched : ∀ path ∈ after.touched, path ∈ before.touched ∨ path ∈ paths

namespace Within

theorem refl (paths : List Path) (disk : Disk Path Content) : Within paths disk disk := ⟨fun _ _ => rfl,fun _ => .inl⟩

theorem trans (first : Within paths before middle) (second : Within paths middle after) : Within paths before after where
  files := fun path unlisted => (second.files path unlisted).trans (first.files path unlisted)
  touched := by
    intro path written
    rcases second.touched path written with earlier | listed
    · exact first.touched path earlier
    · exact .inr listed

theorem mono (within : Within paths before after) (more : paths ⊆ all) : Within all before after where
  files := fun path unlisted => within.files path fun listed => unlisted (more listed)
  touched := fun path written => (within.touched path written).imp_right fun listed => more listed

end Within

section Calls
variable [DecidableEq Path]

def set (disk : Disk Path Content) (path : Path) (content : Option Content) : Disk Path Content :=
  ⟨fun other => if other = path then content else disk.files other,path :: disk.touched⟩

def put (disk : Disk Path Content) (path : Path) (content : Content) : Disk Path Content := disk.set path (some content)

def remove (disk : Disk Path Content) (path : Path) : Disk Path Content := disk.set path none

def rename (disk : Disk Path Content) (source target : Path) : Disk Path Content :=
  (disk.set target (disk.files source)).set source none

theorem set_files (path : Path) (content : Option Content) : (disk.set path content).files path = content := if_pos rfl

theorem set_other (other : path ≠ target) (content : Option Content) :
    (disk.set target content).files path = disk.files path := if_neg other

theorem rename_files (other : target ≠ source) : (disk.rename source target).files target = disk.files source := by
  rw [rename,set_other other,set_files]

theorem Within.set (within : Within paths before after) (listed : path ∈ paths) (content : Option Content) :
    Within paths before (after.set path content) := by
  refine within.trans ⟨?_,?_⟩
  · intro other unlisted
    apply set_other
    rintro rfl
    exact unlisted listed
  · intro other written
    rcases List.mem_cons.mp written with rfl | earlier
    · exact .inr listed
    · exact .inl earlier

theorem Within.rename (within : Within paths before after) (source : path ∈ paths) (target : goal ∈ paths) :
    Within paths before (after.rename path goal) := (within.set target _).set source _

end Calls

end Disk
