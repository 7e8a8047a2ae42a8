import Mathlib.Data.List.Basic

/-!
Requests and the permissions they rest on. A test says which permission serves which
request, and a list of requests is covered when each has a permission that serves it. A
check that admits by a wide test keeps the promise of a narrow one as long as no request
is stretched: served by the wide test only (`covered_narrow_iff`).
-/
namespace V3Aidlc.Permissions
section
variable {P R : Type}

/-- Each request has a permission that serves it. -/
def Covered (permissions : List P) (serves : P → R → Prop) (requested : List R) : Prop :=
  ∀ r ∈ requested, ∃ p ∈ permissions, serves p r

/-- Some permission serves the request by the wide test and none by the narrow one. -/
def Stretched (permissions : List P) (wide narrow : P → R → Prop) (r : R) : Prop :=
  (∃ p ∈ permissions, wide p r) ∧ ∀ p ∈ permissions, ¬ narrow p r

theorem covered_narrow_iff {permissions : List P} {wide narrow : P → R → Prop} {requested : List R}
    (covered : Covered permissions wide requested) :
    Covered permissions narrow requested ↔ ∀ r ∈ requested, ¬ Stretched permissions wide narrow r := by
  constructor
  · rintro narrowly r member ⟨_,none⟩
    obtain ⟨p,inside,serves⟩ := narrowly r member
    exact none p inside serves
  · intro sound r member
    by_contra uncovered
    refine sound r member ⟨covered r member,fun p inside serves => ?_⟩
    exact uncovered ⟨p,inside,serves⟩

end
end V3Aidlc.Permissions
