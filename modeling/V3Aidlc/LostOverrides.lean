import V3Aidlc.EnvironmentOverrides
import V3Aidlc.ProtectedSettings
import V3Aidlc.KeyOrder

/-!
Which environment overrides are lost. Variables are put one after the other in the order of
their names, so of two that lead to one place the later one decides; an earlier one is lost
without an error unless the later one meets a value on its way (`nothing_lost_iff`).
-/
namespace V3Aidlc.LostOverrides
open V3Aidlc.Values V3Aidlc.Loops V3Aidlc.Contracts V3Aidlc.RuntimeConfig V3Aidlc.EnvironmentOverrides
open V3Aidlc.ProtectedSettings V3Aidlc.Documents V3Aidlc.KeyOrder

/-! ### What is to be kept -/

mutual
/-- The values of a setting that are no objects, each with its path. -/
def leaves : Json → List Setting
  | .obj fields => leavesFields fields
  | value => [([],value)]
def leavesFields : List (String × Json) → List Setting
  | [] => []
  | (key,value) :: rest => (leaves value).map (fun leaf => (key :: leaf.1,leaf.2)) ++ leavesFields rest
end

/-- One place is given two values, or a place on the way to the other is given a value that
    is no object. -/
def Conflict (setting other : Setting) : Prop :=
  (setting.1 = other.1 ∧ same setting.2 other.2 = false) ∨
    (setting.1 <+: other.1 ∧ setting.1 ≠ other.1 ∧ setting.2.isDict = false) ∨
      (other.1 <+: setting.1 ∧ other.1 ≠ setting.1 ∧ other.2.isDict = false)

/-- Two of the settings are in conflict. -/
def Conflicting (given : List Setting) : Prop := ¬given.Pairwise (fun setting other => ¬Conflict setting other)

/-- Every leaf of every setting is at its place in what is returned, and a conflict raises. -/
structure NothingLost (given : List Setting) (result : Py Dict) : Prop where
  present : ∀ next, result = .ok next → ∀ setting ∈ given, ∀ leaf ∈ leaves setting.2,
    ∃ found, reach (setting.1 ++ leaf.1) (.obj next) = some found ∧ same leaf.2 found = true
  raised : Conflicting given → ∃ message, result = .error (.contract .RuntimeConfigError message)

/-- Every leaf of every setting is what the last setting that leads to its place has there. -/
def Kept (given : List Setting) : Prop := ∀ setting ∈ given, ∀ leaf ∈ leaves setting.2,
  ∃ found, told given (setting.1 ++ leaf.1) = some found ∧ same leaf.2 found = true

/-- Either some setting is refused, or none is in conflict with another or overwritten. -/
def Careful (given : List Setting) : Prop := Refused given ∨ ¬Conflicting given ∧ Kept given

/-! ### When nothing is lost -/

theorem leaves_plain {value : Json} : ∀ leaf ∈ leaves value, leaf.2.isDict = false := by
  induction value using DeepMerges.by_parts with
  | obj fields ih =>
    rw [leaves]
    induction fields with
    | nil => simp [leavesFields]
    | cons entry fields step =>
      obtain ⟨key,value⟩ := entry
      rw [List.forall_mem_cons] at ih
      rw [leavesFields,List.forall_mem_append]
      refine ⟨?_,step ih.2⟩
      intro leaf member
      obtain ⟨inner,inside,rfl⟩ := List.mem_map.mp member
      exact ih.1 inner inside
  | _ =>
    intro leaf member
    rw [leaves] at member
    · obtain rfl := List.mem_singleton.mp member
      rfl
    · simp

section
variable {lower : String → String} {loads : String → Py (Option Json)} {start : String}
  {environment : List (String × String)} {given : List Setting}

/-- Nothing is lost without an error exactly when the settings are careful. -/
theorem nothing_lost_iff (read : settings lower loads start environment = .ok given) :
    NothingLost given (environment_overrides lower loads environment start) ↔ Careful given := by
  have returned := overrides_returns read
  cases ran : writes given [] with
  | none =>
    rw [ran] at returned
    obtain ⟨message,failed⟩ := returned
    refine iff_of_true ⟨?_,fun _ => ⟨message,failed⟩⟩ (.inl (writes_refused.mp ran))
    intro next result
    rw [failed] at result
    cases result
  | some state =>
    rw [ran] at returned
    have result : environment_overrides lower loads environment start = .ok state := returned
    have accepted : ¬Refused given := by
      rw [← writes_refused,ran]
      simp
    have kept_iff : (∀ setting ∈ given, ∀ leaf ∈ leaves setting.2,
        ∃ found, reach (setting.1 ++ leaf.1) (.obj state) = some found ∧ same leaf.2 found = true) ↔ Kept given := by
      refine forall₂_congr fun setting _ => forall₂_congr fun leaf member => exists_congr fun found => ?_
      rw [and_congr_left_iff]
      intro equal
      exact written_told ran _ found ((same_isDict equal).symm.trans (leaves_plain leaf member))
    constructor
    · intro lost
      refine .inr ⟨?_,kept_iff.mp (lost.present state result)⟩
      intro conflict
      obtain ⟨message,failed⟩ := lost.raised conflict
      rw [result] at failed
      cases failed
    · rintro (refused | ⟨free,kept⟩)
      · exact absurd refused accepted
      · refine ⟨?_,fun conflict => absurd conflict free⟩
        intro next returns
        obtain rfl := Except.ok.inj (result.symm.trans returns)
        exact kept_iff.mpr kept

end

theorem nothing_lost_iff_sample : NothingLost [(["name"],.str "dev"),(["scheduler","enabled"],.bool true)]
    (environment_overrides ascii_lower sample_loads [("V3__SCHEDULER__ENABLED","true"),("V3__NAME","dev")]) := by
  have read : settings ascii_lower sample_loads "V3__" [("V3__SCHEDULER__ENABLED","true"),("V3__NAME","dev")] =
      .ok [(["name"],.str "dev"),(["scheduler","enabled"],.bool true)] := by rfl
  refine (nothing_lost_iff read).mpr (.inr ⟨?_,?_⟩)
  · intro conflict
    refine conflict (List.pairwise_pair.mpr ?_)
    simp [Conflict]
  · simp only [Kept,List.forall_mem_cons,leaves,List.not_mem_nil,false_implies,implies_true,and_true]
    exact ⟨⟨_,rfl,rfl⟩,⟨_,rfl,rfl⟩⟩

/-- Two spellings of one name: the value of the first is gone. -/
theorem mode_overwritten :
    environment_overrides ascii_lower sample_loads [("V3__MODE","on"),("V3__mode","off")] =
      .ok [("mode",.str "off")] ∧
    settings ascii_lower sample_loads "V3__" [("V3__MODE","on"),("V3__mode","off")] =
      .ok [(["mode"],.str "on"),(["mode"],.str "off")] ∧
    ¬NothingLost [(["mode"],.str "on"),(["mode"],.str "off")]
      (environment_overrides ascii_lower sample_loads [("V3__MODE","on"),("V3__mode","off")]) := by
  have result : environment_overrides ascii_lower sample_loads [("V3__MODE","on"),("V3__mode","off")] =
      .ok [("mode",.str "off")] := by rfl
  refine ⟨result,by rfl,fun lost => ?_⟩
  obtain ⟨found,reached,equal⟩ := lost.present _ result _ List.mem_cons_self ([],.str "on") (by simp [leaves])
  cases reached
  cases equal

end V3Aidlc.LostOverrides
