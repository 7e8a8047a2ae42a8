import V3Aidlc.PlainObjects
import V3Aidlc.ProjectLead
import V3Aidlc.RepositoryInspection
import Mathlib.Algebra.Order.Ring.Rat

/-!
The policy that a project inherits from its organization (`packages/organizations`). The maximums are
properties of plain objects. A dimension of the project alone whose name an object inherits anyway is
compared with what is inherited there, so the result has no maximum for it; for all others the
stricter maximum is kept (`tightens_iff`).
-/
namespace V3Aidlc.OrganizationPolicies
open V3Aidlc.InsertionMaps V3Aidlc.InsertionMaps.InsertionMap V3Aidlc.PlainObjects V3Aidlc.Canonical
open V3Aidlc.ProjectLead (JsNumber)
open V3Aidlc.RepositoryInspection (utf16)

structure OrganizationPolicy where
  id : String
  version : String
  nonWaivableControls : List String
  maximums : InsertionMap String JsNumber

/-- `Object.prototype`: eleven functions, and the accessor `__proto__`, whose setter takes objects
    and null alone. -/
def object_prototype : Prototype where
  names := ["constructor","__defineGetter__","__defineSetter__","hasOwnProperty","__lookupGetter__","__lookupSetter__",
    "isPrototypeOf","propertyIsEnumerable","toString","valueOf","__proto__","toLocaleString"]
  setters := ["__proto__"]
  known := by decide

/-- `Math.min`. -/
def math_min : JsNumber → JsNumber → JsNumber
  | .nan,_ => .nan
  | _,.nan => .nan
  | .infinity true,_ => .infinity true
  | _,.infinity true => .infinity true
  | .infinity false,other => other
  | value,.infinity false => value
  | .finite value,.finite other => .finite (min value other)

/-- `Math.min(current ?? value, value)`. The number of an inherited function or object is NaN. -/
def stricter (current : Property JsNumber) (value : JsNumber) : JsNumber :=
  match current with
  | .undefined => math_min value value
  | .inherited => math_min .nan value
  | .own maximum => math_min maximum value

def inherited_maximums (organization project : InsertionMap String JsNumber) : InsertionMap String JsNumber :=
  (own_entries project).foldl (update object_prototype stricter) (spread organization)

def inheritPolicy (organization project : OrganizationPolicy) : OrganizationPolicy where
  id := organization.id ++ "+" ++ project.id
  version := organization.version ++ "+" ++ project.version
  nonWaivableControls := sortedBy utf16 (distinct (organization.nonWaivableControls ++ project.nonWaivableControls))
  maximums := inherited_maximums organization.maximums project.maximums

/-- Every maximum is an exact rational. -/
def Exact (maximums : InsertionMap String JsNumber) : Prop :=
  ∀ name value, maximums.get? name = some value → ∃ maximum, value = .finite maximum

/-- A number of the policy for the dimension. -/
def Maximum (policy : OrganizationPolicy) (name : String) (maximum : ℚ) : Prop :=
  policy.maximums.get? name = some (.finite maximum)

/-- What `inherited` takes over from the two policies, and that it weakens neither. -/
structure Tightens (organization project inherited : OrganizationPolicy) : Prop where
  defined : ∀ name, name ∈ organization.maximums.keys ∨ name ∈ project.maximums.keys → ∃ maximum,
    Maximum inherited name maximum ∧ (∀ own, Maximum organization name own → maximum ≤ own) ∧
      (∀ own, Maximum project name own → maximum ≤ own)
  least : ∀ name one other, Maximum organization name one → Maximum project name other →
    Maximum inherited name (min one other)
  introduced : ∀ name, name ∈ inherited.maximums.keys → name ∈ organization.maximums.keys ∨ name ∈ project.maximums.keys
  controls : ∀ control, control ∈ organization.nonWaivableControls ∨ control ∈ project.nonWaivableControls →
    inherited.nonWaivableControls.count control = 1

theorem Exact.maximum {policy : OrganizationPolicy} (exact_values : Exact policy.maximums) {name : String}
    (member : name ∈ policy.maximums.keys) : ∃ maximum, Maximum policy name maximum := by
  obtain ⟨⟨_,value⟩,inside,rfl⟩ := List.mem_map.mp member
  obtain ⟨maximum,rfl⟩ := exact_values _ value (get?_eq_some.mpr inside)
  exact ⟨maximum,get?_eq_some.mpr inside⟩

theorem Maximum.unique {policy : OrganizationPolicy} {name : String} {one other : ℚ} (first : Maximum policy name one)
    (second : Maximum policy name other) : one = other := by
  unfold Maximum at first second
  rw [first] at second
  cases second
  rfl

theorem Maximum.known {policy : OrganizationPolicy} {name : String} {maximum : ℚ} (held : Maximum policy name maximum) :
    name ∈ policy.maximums.keys := by
  by_contra absent
  unfold Maximum at held
  rw [get?_eq_none.mpr absent] at held
  cases held

section
variable {organization project : OrganizationPolicy}

theorem controls_once (control : String)
    (known : control ∈ organization.nonWaivableControls ∨ control ∈ project.nonWaivableControls) :
    (inheritPolicy organization project).nonWaivableControls.count control = 1 := by
  show (sortedBy utf16 (distinct (organization.nonWaivableControls ++ project.nonWaivableControls))).count control = 1
  rw [(perm_sortedBy _ _).count_eq]
  exact List.count_eq_one_of_mem (nodup_distinct _) (mem_distinct.mpr (List.mem_append.mpr known))

theorem inherited_introduced (name : String) (member : name ∈ (inheritPolicy organization project).maximums.keys) :
    name ∈ organization.maximums.keys ∨ name ∈ project.maximums.keys := by
  refine (keys_updates object_prototype stricter member).imp (keys_spread _ name).mp (fun listed => ?_)
  exact ((perm_own_entries project.maximums).map Prod.fst).mem_iff.mp listed

/-- A dimension that the project does not define keeps the maximum of the organization. -/
theorem inherited_organization {name : String} (absent : name ∉ project.maximums.keys) :
    (inheritPolicy organization project).maximums.get? name = organization.maximums.get? name := by
  have unlisted : name ∉ (own_entries project.maximums).map Prod.fst :=
    fun listed => absent (((perm_own_entries project.maximums).map Prod.fst).mem_iff.mp listed)
  exact (get?_updates_other object_prototype stricter unlisted _).trans (get?_spread _ name)

theorem property_spread (o : InsertionMap String JsNumber) (name : String) :
    property object_prototype (spread o) name = property object_prototype o name := by
  unfold property
  rw [get?_spread]

/-- A dimension that the project defines has what its own line of the source computes. -/
theorem inherited_project {name : String} {value : JsNumber} (own : project.maximums.get? name = some value) :
    (inheritPolicy organization project).maximums.get? name =
      if name ∉ organization.maximums.keys ∧ name ∈ object_prototype.setters then none
      else some (stricter (property object_prototype organization.maximums name) value) := by
  have listed : (name,value) ∈ own_entries project.maximums := (perm_own_entries _).mem_iff.mpr (get?_eq_some.mp own)
  have updated := get?_updates object_prototype stricter (own_entries_distinct project.maximums) listed
    (spread organization.maximums)
  simp only [keys_spread,property_spread] at updated
  exact updated

/-- Both define the dimension. -/
theorem inherited_both {name : String} {one other : ℚ} (first : Maximum organization name one)
    (second : Maximum project name other) : Maximum (inheritPolicy organization project) name (min one other) := by
  have defined := first.known
  unfold Maximum at first second ⊢
  rw [inherited_project second,if_neg (fun both => both.1 defined)]
  unfold property
  rw [first]
  rfl

/-- The project alone defines the dimension, under a name that objects do not inherit. -/
theorem inherited_new {name : String} {value : ℚ} (absent : name ∉ organization.maximums.keys)
    (plain : name ∉ object_prototype.names) (own : Maximum project name value) :
    Maximum (inheritPolicy organization project) name value := by
  unfold Maximum at own ⊢
  rw [inherited_project own,if_neg (fun both => plain (object_prototype.known both.2))]
  unfold property
  rw [get?_eq_none.mpr absent]
  simp [plain,stricter,math_min]

/-- The project alone defines the dimension, under a name that objects inherit. -/
theorem inherited_lost {name : String} {value maximum : ℚ} (absent : name ∉ organization.maximums.keys)
    (named : name ∈ object_prototype.names) (own : Maximum project name value) :
    ¬ Maximum (inheritPolicy organization project) name maximum := by
  unfold Maximum at own ⊢
  rw [inherited_project own]
  split
  · simp
  · unfold property
    rw [get?_eq_none.mpr absent]
    simp [named,stricter,math_min]

end

/-- The inherited policy tightens both exactly when no dimension that only the project defines has
    a name that every object inherits. -/
theorem tightens_iff (organization project : OrganizationPolicy) (organization_exact : Exact organization.maximums)
    (project_exact : Exact project.maximums) :
    Tightens organization project (inheritPolicy organization project) ↔
      ∀ name ∈ project.maximums.keys, name ∈ object_prototype.names → name ∈ organization.maximums.keys := by
  constructor
  · intro tightens name member named
    by_contra absent
    obtain ⟨value,own⟩ := project_exact.maximum member
    obtain ⟨maximum,held,_⟩ := tightens.defined name (.inr member)
    exact inherited_lost absent named own held
  · intro apart
    refine ⟨fun name known => ?_,fun name one other => inherited_both,inherited_introduced,controls_once⟩
    by_cases first : name ∈ organization.maximums.keys
    · obtain ⟨one,held⟩ := organization_exact.maximum first
      by_cases second : name ∈ project.maximums.keys
      · obtain ⟨other,also⟩ := project_exact.maximum second
        refine ⟨min one other,inherited_both held also,fun own mine => ?_,fun own mine => ?_⟩
        · exact held.unique mine ▸ min_le_left one other
        · exact also.unique mine ▸ min_le_right one other
      · refine ⟨one,(inherited_organization second).trans held,fun own mine => (held.unique mine).le,?_⟩
        exact fun own mine => absurd mine.known second
    · have second := known.resolve_left first
      obtain ⟨other,also⟩ := project_exact.maximum second
      have plain : name ∉ object_prototype.names := fun named => first (apart name second named)
      refine ⟨other,inherited_new first plain also,fun own mine => absurd mine.known first,?_⟩
      exact fun own mine => (also.unique mine).le

def sample_policy (id : String) (controls : List String) (maximums : InsertionMap String JsNumber) :
    OrganizationPolicy :=
  ⟨id,"1",controls,maximums⟩

/-- The organization allows ten runs; the project eight, and five seats. -/
theorem tightens_iff_runs :
    let organization := sample_policy "org" ["review"] (empty.set "runs" (.finite 10))
    let project := sample_policy "team" ["review","audit"] ((empty.set "runs" (.finite 8)).set "seats" (.finite 5))
    Tightens organization project (inheritPolicy organization project) := by
  refine (tightens_iff _ _ ?_ ?_).mpr (by decide)
  · intro name value held
    rw [show (sample_policy "org" ["review"] (empty.set "runs" (.finite 10))).maximums =
      empty.set "runs" (.finite 10) from rfl,get?_set] at held
    split at held
    · exact ⟨10,(Option.some.inj held).symm⟩
    · cases held
  · intro name value held
    rw [show (sample_policy "team" ["review","audit"]
      ((empty.set "runs" (.finite 8)).set "seats" (.finite 5))).maximums =
      (empty.set "runs" (.finite 8)).set "seats" (.finite 5) from rfl,get?_set,get?_set] at held
    split at held
    · exact ⟨5,(Option.some.inj held).symm⟩
    · split at held
      · exact ⟨8,(Option.some.inj held).symm⟩
      · cases held

/-- A project's maximum of five under the name `constructor` becomes NaN. -/
theorem constructor_unbounded :
    let organization := sample_policy "org" [] empty
    let project := sample_policy "team" [] (empty.set "constructor" (.finite 5))
    (inheritPolicy organization project).maximums.get? "constructor" = some .nan ∧
      ¬ Tightens organization project (inheritPolicy organization project) := by
  intro organization project
  have own : Maximum project "constructor" 5 := rfl
  refine ⟨(inherited_project own).trans rfl,fun tightens => ?_⟩
  obtain ⟨maximum,held,_⟩ := tightens.defined "constructor" (.inr (by decide))
  exact @inherited_lost organization project "constructor" 5 maximum (by decide) (by decide) own held

end V3Aidlc.OrganizationPolicies
