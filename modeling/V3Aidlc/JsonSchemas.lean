import V3Aidlc.Contracts

/-!
JSON Schema, as far as closed records use it (draft 2020-12): constants, enumerations,
texts, digests, integers, arrays and objects without additional properties. A format is
an annotation in this dialect and constrains nothing. An object conforms when it has what
is required, nothing that is not listed, and a conforming value at each listed key
(`conforms_object`).
-/
namespace V3Aidlc.JsonSchemas
open V3Aidlc.Values V3Aidlc.Contracts V3Aidlc.Sha256

inductive Schema where
  | const (value : String)
  | enum (values : List String)
  | string (minLength : Nat)
  /-- The pattern `^[a-f0-9]{64}$`. -/
  | digest
  /-- A string of format `date-time`. -/
  | timestamp
  | integer (minimum : Int)
  /-- An array of strings without repetition. -/
  | uniqueStrings (minLength : Nat)
  | array (items : Schema)
  /-- An object with `additionalProperties` false. -/
  | object (required : List String) (properties : List (String × Schema))

/-- The integer that a number without a fractional part is. -/
def integral? : Json → Option Int
  | .int n => some n
  | .float x => if x.value.den = 1 then some x.value.num else none
  | _ => none

mutual
def conforms : Schema → Json → Bool
  | .const value,v => v.str? = some value
  | .enum values,v => v.str?.any values.contains
  | .string minLength,v => v.str?.any (fun s => minLength ≤ s.length)
  | .digest,v => v.str?.any isHexDigest
  | .timestamp,v => v.isStr
  | .integer minimum,v => (integral? v).any (fun n => minimum ≤ n)
  | .uniqueStrings minLength,v =>
    (strings? v).any (fun items => items.all (fun s => minLength ≤ s.length) && decide items.Nodup)
  | .array items,v =>
    match v.list? with
    | none => false
    | some values => values.all (conforms items)
  | .object required properties,v =>
    match v.dict? with
    | none => false
    | some fields => required.all fields.has && fields.keys.all (properties.map Prod.fst).contains &&
      conformsProperties properties fields
def conformsProperties : List (String × Schema) → Dict → Bool
  | [],_ => true
  | (name,schema) :: rest,fields =>
    (match Dict.get? name fields with
      | none => true
      | some v => conforms schema v) && conformsProperties rest fields
end

theorem conformsProperties_iff {properties : List (String × Schema)} {fields : Dict} :
    conformsProperties properties fields = true ↔
      ∀ property ∈ properties, ∀ v, Dict.get? property.1 fields = some v → conforms property.2 v = true := by
  induction properties with
  | nil => simp [conformsProperties]
  | cons property rest ih =>
    obtain ⟨name,schema⟩ := property
    cases found : Dict.get? name fields <;> simp [conformsProperties,found,ih]

theorem conforms_object {required : List String} {properties : List (String × Schema)} {fields : Dict} :
    conforms (.object required properties) (.obj fields) = true ↔
      (∀ key ∈ required, fields.has key = true) ∧ (∀ key ∈ fields.keys, key ∈ properties.map Prod.fst) ∧
      ∀ property ∈ properties, ∀ v, Dict.get? property.1 fields = some v → conforms property.2 v = true := by
  simp only [conforms,Json.dict?,Bool.and_eq_true,List.all_eq_true,List.contains_eq_mem,decide_eq_true_eq,
    conformsProperties_iff,and_assoc]

theorem conforms_array {items : Schema} {values : List Json} :
    conforms (.array items) (.arr values) = true ↔ ∀ v ∈ values, conforms items v = true := by
  simp only [conforms,Json.list?,List.all_eq_true]

theorem conforms_string {s : String} : conforms (.string 1) (.str s) = true ↔ s ≠ "" := by
  simp [conforms,Json.str?,Nat.one_le_iff_ne_zero]

theorem conforms_digest {s : String} : conforms .digest (.str s) = true ↔ isHexDigest s = true := by
  simp [conforms,Json.str?]

end V3Aidlc.JsonSchemas
