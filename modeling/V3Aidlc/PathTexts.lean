import V3Aidlc.Paths

/-!
Texts of places. The text of a joined path is taken apart into its names again (`components_join`),
an absolute path leads where it says from everywhere (`resolve_text`), and a name into the directory
(`resolve_name`).
-/
namespace V3Aidlc.PathTexts
open V3Aidlc.Paths V3Aidlc.Canonical

theorem split_whole {mark : Char} {part : List Char} (whole : mark ∉ part) : split mark part = [part] := by
  induction part with
  | nil => rfl
  | cons c rest ih =>
    obtain ⟨other,later⟩ : ¬ mark = c ∧ mark ∉ rest := by simpa using whole
    simp [split,Ne.symm other,ih later]

theorem split_joint {mark : Char} {part : List Char} (whole : mark ∉ part) (back : List Char) :
    split mark (part ++ mark :: back) = part :: split mark back := by
  induction part with
  | nil => simp [split]
  | cons c rest ih =>
    obtain ⟨other,later⟩ : ¬ mark = c ∧ mark ∉ rest := by simpa using whole
    simp [split,Ne.symm other,ih later]

theorem components_join {name : String} {rest : List String} (plain : ∀ part ∈ name :: rest, Plain part) :
    components (join "/" (name :: rest)) = name :: rest := by
  induction rest generalizing name with
  | nil => simp [components,join,split_whole (plain name (by simp)).whole]
  | cons other others ih =>
    obtain ⟨first,later⟩ := List.forall_mem_cons.mp plain
    have slash : "/".toList = ['/'] := rfl
    have tail := ih later
    unfold components at tail ⊢
    rw [join,String.toList_append,String.toList_append,slash,List.append_assoc,List.singleton_append,
      split_joint first.whole,List.map_cons,tail,String.ofList_toList]
    simp

theorem enter_all (here : Place) {names : Place} (plain : ∀ part ∈ names, Plain part) :
    names.foldl enter here = here ++ names := by
  induction names generalizing here with
  | nil => simp
  | cons name rest ih =>
    obtain ⟨first,later⟩ := List.forall_mem_cons.mp plain
    have step : enter here name = here ++ [name] := by simp [enter,first.named,first.single,first.double]
    rw [List.foldl_cons,step,ih _ later,List.append_assoc]
    rfl

theorem resolve_text (base : Place) {place : Place} (plain : ∀ part ∈ place, Plain part) :
    resolve base ("/" ++ join "/" place) = place := by
  have top : absolute ("/" ++ join "/" place) = true := by simp [absolute]
  have opening : components ("/" ++ join "/" place) = "" :: components (join "/" place) := by
    simp [components,split]
  have root : enter [] "" = [] := by simp [enter]
  unfold resolve
  rw [if_pos top,opening,List.foldl_cons,root]
  cases place with
  | nil => rfl
  | cons name rest => rw [components_join plain,enter_all [] plain,List.nil_append]

theorem resolve_name (base : Place) {name : String} (plain : Plain name) : resolve base name = base ++ [name] := by
  have one : components name = [name] := components_join (show ∀ part ∈ [name], Plain part by simpa using plain)
  have inner : absolute name = false := by
    unfold absolute
    cases letters : name.toList with
    | nil => simp
    | cons c rest =>
      have other : c ≠ '/' := fun same => plain.whole (by simp [letters,same])
      simp [other]
  unfold resolve
  rw [one,inner]
  exact enter_all base (by simpa using plain)

end V3Aidlc.PathTexts
