import V3Aidlc.InsertionMaps
import Mathlib.Data.List.Sort

/-!
Files that the change proposals of several work packages touch (`packages/workspace`). The owners of a
file are listed once for every time a proposal lists the file, and more than one owner is a conflict;
so a work package that lists a file twice conflicts with itself (`conflicts_iff`).
-/
namespace V3Aidlc.FileConflicts
open V3Aidlc.InsertionMaps V3Aidlc.InsertionMaps.InsertionMap

structure ChangeProposal where
  workPackageId : String
  changedFiles : List String

-- `localeCompare` of two paths
variable (localeCompare : String → String → Int)

/-- The files of a proposal, each with the work package. -/
def listings_of (proposal : ChangeProposal) : List (String × String) :=
  proposal.changedFiles.map (fun file => (file,proposal.workPackageId))

/-- The `Map` of the source after both its loops. -/
def owners (proposals : List ChangeProposal) : InsertionMap String (List String) :=
  proposals.foldl (fun owners proposal => (listings_of proposal).foldl gather owners) empty

def sorted_conflicts (proposals : List ChangeProposal) : List (String × List String) :=
  ((owners proposals).entries.filter (fun entry => 1 < entry.2.length)).insertionSort
    (fun left right => localeCompare left.1 right.1 ≤ 0)

theorem perm_sorted_conflicts (proposals : List ChangeProposal) : (sorted_conflicts localeCompare proposals).Perm
    ((owners proposals).entries.filter (fun entry => 1 < entry.2.length)) := List.perm_insertionSort _ _

theorem sorted_conflicts_distinct (proposals : List ChangeProposal) :
    ((sorted_conflicts localeCompare proposals).map Prod.fst).Nodup := by
  rw [((perm_sorted_conflicts localeCompare proposals).map Prod.fst).nodup_iff]
  exact (owners proposals).distinct.sublist (List.filter_sublist.map _)

def findFileConflicts (proposals : List ChangeProposal) : InsertionMap String (List String) :=
  ⟨sorted_conflicts localeCompare proposals,sorted_conflicts_distinct localeCompare proposals⟩

/-! ### What is reported -/

def Changed (proposals : List ChangeProposal) (workPackageId file : String) : Prop :=
  ∃ proposal ∈ proposals, proposal.workPackageId = workPackageId ∧ file ∈ proposal.changedFiles

/-- The files that two work packages changed are reported, with these, in whatever order the
    proposals come. -/
structure ReportsConflicts (proposals : List ChangeProposal) : Prop where
  reported : ∀ file, file ∈ (findFileConflicts localeCompare proposals).keys ↔
    ∃ one other, Changed proposals one file ∧ Changed proposals other file ∧ one ≠ other
  owners : ∀ file workPackages, (findFileConflicts localeCompare proposals).get? file = some workPackages →
    workPackages.Nodup ∧ ∀ workPackageId, workPackageId ∈ workPackages ↔ Changed proposals workPackageId file
  rearranged : ∀ other, proposals.Perm other → ∀ file,
    (file ∈ (findFileConflicts localeCompare other).keys ↔ file ∈ (findFileConflicts localeCompare proposals).keys) ∧
    ∀ workPackages, (findFileConflicts localeCompare proposals).get? file = some workPackages →
      ∃ same, (findFileConflicts localeCompare other).get? file = some same ∧ same.Perm workPackages

/-- Every listing of a file by a work package. -/
def listings (proposals : List ChangeProposal) : List (String × String) := proposals.flatMap listings_of

/-- The work packages that list the file, once for each time they do. -/
def listing_packages (proposals : List ChangeProposal) (file : String) : List String :=
  ((listings proposals).filter (fun listing => listing.1 = file)).map Prod.snd

section
variable {localeCompare} {proposals : List ChangeProposal} {file : String}

theorem owners_listings (proposals : List ChangeProposal) :
    owners proposals = (listings proposals).foldl gather empty :=
  List.foldl_flatMap.symm

theorem get?_conflicts {workPackages : List String} :
    (findFileConflicts localeCompare proposals).get? file = some workPackages ↔
      listing_packages proposals file = workPackages ∧ 1 < workPackages.length := by
  have sorted : (file,workPackages) ∈ (findFileConflicts localeCompare proposals).entries ↔
      (file,workPackages) ∈ (owners proposals).entries ∧ 1 < workPackages.length := by
    show (file,workPackages) ∈ sorted_conflicts localeCompare proposals ↔ _
    rw [(perm_sorted_conflicts localeCompare proposals).mem_iff (a := (file,workPackages)),List.mem_filter,
      decide_eq_true_eq]
  rw [get?_eq_some,sorted,← get?_eq_some,owners_listings,get?_gather,and_assoc]
  refine and_congr_right (fun _ => and_iff_right_of_imp ?_)
  rintro several rfl
  cases several

theorem mem_conflicts : file ∈ (findFileConflicts localeCompare proposals).keys ↔
    1 < (listing_packages proposals file).length := by
  rw [← not_iff_not,← get?_eq_none,Option.eq_none_iff_forall_ne_some]
  simp only [ne_eq,get?_conflicts,not_and]
  exact ⟨fun none => none _ rfl,fun few workPackages same => same ▸ few⟩

theorem mem_listing_packages {workPackageId : String} :
    workPackageId ∈ listing_packages proposals file ↔ Changed proposals workPackageId file := by
  unfold listing_packages listings listings_of Changed
  simp [eq_comm,and_comm]

theorem perm_listing_packages {other : List ChangeProposal} (perm : proposals.Perm other) (file : String) :
    (listing_packages proposals file).Perm (listing_packages other file) :=
  ((perm.flatMap_right listings_of).filter _).map Prod.snd

theorem count_listing_packages (workPackageId : String) :
    (listing_packages proposals file).count workPackageId = (listings proposals).count (file,workPackageId) := by
  unfold listing_packages
  rw [List.count,List.countP_map,List.countP_filter,List.count]
  refine List.countP_congr (fun listing _ => ?_)
  obtain ⟨path,owner⟩ := listing
  simp [and_comm]

theorem two_distinct {α : Type} {items : List α} (distinct : items.Nodup) :
    1 < items.length ↔ ∃ a b, a ∈ items ∧ b ∈ items ∧ a ≠ b := by
  constructor
  · intro several
    obtain ⟨a,b,rest,rfl⟩ : ∃ a b rest, items = a :: b :: rest := by
      match items,several with
      | a :: b :: rest,_ => exact ⟨a,b,rest,rfl⟩
    have apart := (List.nodup_cons.mp distinct).1
    exact ⟨a,b,by simp,by simp,fun same => apart (by simp [same])⟩
  · rintro ⟨a,b,first,second,apart⟩
    match items with
    | [single] => exact absurd ((List.mem_singleton.mp first).trans (List.mem_singleton.mp second).symm) apart
    | _ :: _ :: _ => simp

end

/-- The conflicts are those between work packages exactly when no work package lists a file twice. -/
theorem conflicts_iff (proposals : List ChangeProposal) :
    ReportsConflicts localeCompare proposals ↔
      ∀ workPackageId file, (listings proposals).count (file,workPackageId) ≤ 1 := by
  constructor
  · intro reports workPackageId file
    by_contra twice
    rw [← count_listing_packages] at twice
    have counted := List.count_le_length (a := workPackageId) (l := listing_packages proposals file)
    have several : 1 < (listing_packages proposals file).length := by omega
    have once := (reports.owners file _ (get?_conflicts.mpr ⟨rfl,several⟩)).1
    exact twice (List.nodup_iff_count_le_one.mp once workPackageId)
  · intro once
    have distinct : ∀ file, (listing_packages proposals file).Nodup := fun file =>
      List.nodup_iff_count_le_one.mpr (fun workPackageId => by
        rw [count_listing_packages]
        exact once workPackageId file)
    refine ⟨fun file => ?_,fun file workPackages held => ?_,fun other perm file => ?_⟩
    · rw [mem_conflicts,two_distinct (distinct file)]
      simp only [mem_listing_packages]
    · obtain ⟨rfl,_⟩ := get?_conflicts.mp held
      exact ⟨distinct file,fun _ => mem_listing_packages⟩
    · have same := perm_listing_packages perm file
      refine ⟨by rw [mem_conflicts,mem_conflicts,same.length_eq],fun workPackages held => ?_⟩
      obtain ⟨rfl,several⟩ := get?_conflicts.mp held
      exact ⟨_,get?_conflicts.mpr ⟨rfl,same.length_eq ▸ several⟩,same.symm⟩

/-- Two proposals of one work package for one file. -/
theorem own_file_conflicts :
    let proposals : List ChangeProposal := [⟨"WP-1",["src/a.ts"]⟩,⟨"WP-1",["src/a.ts"]⟩]
    (findFileConflicts (fun _ _ => 0) proposals).get? "src/a.ts" = some ["WP-1","WP-1"] ∧
      ¬ ReportsConflicts (fun _ _ => 0) proposals := by
  intro proposals
  have held : (findFileConflicts (fun _ _ => 0) proposals).get? "src/a.ts" = some ["WP-1","WP-1"] :=
    get?_conflicts.mpr ⟨rfl,by decide⟩
  exact ⟨held,fun reports => absurd (reports.owners _ _ held).1 (by decide)⟩

end V3Aidlc.FileConflicts
