import Mathlib.Data.List.Sort
import Promptbook.Proofs.Loading.Spread

/-! Files that are left out of a load.

Nothing depends on the files that a load cannot use: they may be gone, or others of the kind may
be there (`AgreeBut`), and the prompts that are read are the same (`records_of_agreeBut`). But
for the visits to such files the same visits are made, and these give no prompt. -/
namespace Promptbook.Loader

/-- In these directories the same is seen, but for some paths. -/
structure AgreeBut (apart : Path → Bool) (dirs : List Path) (files other : FileView) : Prop where
  isDir : ∀ dir ∈ dirs, other.isDir dir = files.isDir dir
  /-- The directories cannot be listed for the same reason, or list the same entries. -/
  list : ∀ dir ∈ dirs,
    (∃ error, files.list dir = .error error ∧ other.list dir = .error error) ∨
    ∃ names names', files.list dir = .ok names ∧ other.list dir = .ok names' ∧
      (names'.filter fun name => !apart (dir.join ⟨name⟩)).Perm
        (names.filter fun name => !apart (dir.join ⟨name⟩))
  isFile : ∀ path, apart path = false → other.isFile path = files.isFile path
  read : ∀ path, apart path = false → other.read path = files.read path

/-- Names of which some are the same are in the same order there. -/
theorem filter_sortNames_eq {names names' : List String} {p : String → Bool}
    (h : (names'.filter p).Perm (names.filter p)) :
    (sortNames names').filter p = (sortNames names).filter p := by
  have hsorted (names : List String) : (sortNames names).Pairwise (· ≤ ·) :=
    List.pairwise_mergeSort' (· ≤ ·) names
  have hperm (names : List String) : ((sortNames names).filter p).Perm (names.filter p) :=
    (List.mergeSort_perm names _).filter p
  exact ((hperm names').trans (h.trans (hperm names).symm)).eq_of_pairwise'
    ((hsorted names').filter p) ((hsorted names).filter p)

/-- Whether a visit goes to none of these paths. -/
def Visit.avoids (apart : Path → Bool) : Visit → Bool
  | .unlisted _ _ => true
  | .file path => !apart path

section
variable {apart : Path → Bool} {dirs : List Path} {files other : FileView}

/-- Visits that avoid the paths apart can be told by the names in a directory alone. -/
theorem filter_avoids_files (files : FileView) (wanted : String → Bool) (dir : Path)
    (names : List String) :
    (((inOctetOrder names).filter fun name => wanted name && files.isFile (dir.join ⟨name⟩)).map
        fun name => Visit.file (dir.join ⟨name⟩)).filter (Visit.avoids apart) =
      (((sortNames names).filter fun name => !apart (dir.join ⟨name⟩)).filter
        fun name => wanted name && files.isFile (dir.join ⟨name⟩)).map
          fun name => Visit.file (dir.join ⟨name⟩) := by
  rw [← sortNames_eq, List.filter_map, List.filter_filter, List.filter_filter]
  exact congrArg (List.map _) (List.filter_congr fun name _ => Bool.and_comm _ _)

theorem AgreeBut.visitsIn (h : AgreeBut apart dirs files other) (wanted : String → Bool)
    {dir : Path} (hdir : dir ∈ dirs) :
    (visitsIn other wanted dir).filter (Visit.avoids apart) =
      (visitsIn files wanted dir).filter (Visit.avoids apart) := by
  rw [Loader.visitsIn, Loader.visitsIn, h.isDir dir hdir]
  split
  · rcases h.list dir hdir with ⟨error, hlist, hlist'⟩ | ⟨names, names', hlist, hlist', hnames⟩
    · rw [hlist, hlist']
    · simp only [hlist, hlist']
      rw [filter_avoids_files, filter_avoids_files, filter_sortNames_eq hnames]
      refine congrArg (List.map _) (List.filter_congr fun name hname => ?_)
      rw [h.isFile _ (by simpa using (List.mem_filter.mp hname).2)]
  · rfl

/-- But for those to the paths apart the same visits are made. -/
theorem AgreeBut.visits (h : AgreeBut apart dirs files other) (wanted : String → Bool) :
    (visits other wanted dirs).filter (Visit.avoids apart) =
      (visits files wanted dirs).filter (Visit.avoids apart) := by
  rw [Loader.visits, Loader.visits, List.filter_flatMap, List.filter_flatMap]
  exact List.flatMap_congr fun dir hdir => h.visitsIn wanted hdir

theorem AgreeBut.outcome (h : AgreeBut apart dirs files other) (rules : Template.Rules)
    {visit : Visit} (hvisit : visit.avoids apart = true) :
    visit.outcome other rules = visit.outcome files rules := by
  cases visit with
  | unlisted dir error => rfl
  | file path =>
    have hread := h.read path (by simpa [Visit.avoids] using hvisit)
    simp only [Visit.outcome, hread]

/-- Visits that give no prompts add nothing. -/
theorem contents_filter_avoids (rules : Template.Rules)
    (h : ∀ path, apart path = true → ∃ trouble, loadFile files rules path = .error trouble)
    (places : List Visit) :
    contents files rules (places.filter (Visit.avoids apart)) = contents files rules places := by
  rw [contents, contents, List.filterMap_filter]
  refine List.filterMap_congr fun visit _ => ?_
  split
  · rfl
  · next hvisit =>
    cases visit with
    | unlisted dir error => exact absurd rfl hvisit
    | file path =>
      obtain ⟨trouble, htrouble⟩ := h path (by simpa [Visit.avoids] using hvisit)
      rw [Visit.outcome_file, htrouble]
      rfl

/-- **Files that cannot be loaded do not count**: the same prompts are read, whichever of them
there are. -/
theorem records_of_agreeBut {config : Config}
    (h : AgreeBut apart config.templateDirs files other)
    (hfiles : ∀ path, apart path = true →
      ∃ trouble, loadFile files config.rules path = .error trouble)
    (hother : ∀ path, apart path = true →
      ∃ trouble, loadFile other config.rules path = .error trouble) (wanted : String → Bool) :
    records other config wanted = records files config wanted := by
  rw [records, records, ← contents_filter_avoids _ hother, ← contents_filter_avoids _ hfiles,
    h.visits wanted]
  refine congrArg List.flatten (List.filterMap_congr fun visit hvisit => ?_)
  rw [h.outcome _ (List.mem_filter.mp hvisit).2]

end
end Promptbook.Loader
