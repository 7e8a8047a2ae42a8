import V3Aidlc.Encodings
import V3Aidlc.Sha256

/-!
Dicts that carry the digest of the rest of themselves. As long as no two of the texts at
hand share a digest, two sealed documents with one digest are the same
(`sealed_same`), and so are two that differ in one key at most (`sealed_apart`).
-/
namespace V3Aidlc.Seals
open V3Aidlc.Values V3Aidlc.Canonical V3Aidlc.Sha256 V3Aidlc.Documents V3Aidlc.Encodings

variable (key : String)

/-- The text that the digest under the key is computed on. -/
def content (d : Dict) : String := canonicalText (.obj (d.without [key]))

/-- The dict holds the digest of the rest of it under the key. -/
def Sealed (d : Dict) : Prop := Dict.get? key d = some (.str (sha256 (content key d)))

/-- The contents of these dicts have one digest only where they are one text. -/
def Apart (d e : Dict) : Prop := Set.InjOn sha256 {content key d,content key e}

variable {key} {d e : Dict}

theorem get?_content {other : String} (rest : other ≠ key) : Dict.get? other (d.without [key]) = Dict.get? other d := by
  rw [get?_without,if_neg (by simpa using rest)]

theorem related_self {d : Dict} (document : Document (.obj d)) (other : String) :
    Option.Rel (fun x y => same x y = true) (Dict.get? other d) (Dict.get? other d) :=
  (same_lookups (document_obj.mp document).1 (document_obj.mp document).1).mp (same_self document) other

/-- One content and one field under the key make one document. -/
theorem same_of_content (document : Document (.obj d)) (document' : Document (.obj e))
    (contents : content key d = content key e) (digests : Dict.get? key d = Dict.get? key e) :
    same (.obj d) (.obj e) = true := by
  have rest := document_without document [key]
  have rest' := document_without document' [key]
  have lookups := (same_lookups (document_obj.mp rest).1 (document_obj.mp rest').1).mp
      (same_of_text rest rest' contents)
  refine (same_lookups (document_obj.mp document).1 (document_obj.mp document').1).mpr (fun other => ?_)
  by_cases digest : other = key
  · rw [digest,← digests]
    exact related_self document key
  · have related := lookups other
    rw [get?_content digest,get?_content digest] at related
    exact related

theorem sealed_same (document : Document (.obj d)) (document' : Document (.obj e)) (isSealed : Sealed key d)
    (isSealed' : Sealed key e) (free : Apart key d e) (digests : Dict.get? key d = Dict.get? key e) :
    same (.obj d) (.obj e) = true := by
  refine same_of_content document document' (free (.inl rfl) (.inr rfl) ?_) digests
  rw [isSealed,isSealed'] at digests
  exact Json.str.inj (Option.some.inj digests)

/-- Where the contents hold the same under each key, they are one text. -/
theorem content_of_lookups (document : Document (.obj d)) (document' : Document (.obj e))
    (agree : ∀ other, other ≠ key → Dict.get? other e = Dict.get? other d) : content key d = content key e := by
  have rest := document_without document [key]
  have rest' := document_without document' [key]
  refine (canonicalText_iff rest rest').mpr ((same_lookups (document_obj.mp rest).1 (document_obj.mp rest').1).mpr ?_)
  intro other
  by_cases digest : other = key
  · rw [get?_without,get?_without,if_pos (by simp [digest]),if_pos (by simp [digest])]
    exact .none
  · rw [get?_content digest,get?_content digest,agree other digest]
    exact related_self document other

/-- Two sealed documents that agree on every key but one are the same: the seal of a
    change does not match, and neither does another seal. -/
theorem sealed_apart {changed : String} (document : Document (.obj d)) (document' : Document (.obj e))
    (isSealed : Sealed key d) (isSealed' : Sealed key e) (free : Apart key d e)
    (agree : ∀ other, other ≠ changed → Dict.get? other e = Dict.get? other d) : same (.obj d) (.obj e) = true := by
  by_cases reseal : changed = key
  · subst reseal
    have contents := content_of_lookups document document' agree
    refine same_of_content document document' contents ?_
    rw [isSealed,isSealed',contents]
  · exact sealed_same document document' isSealed isSealed' free (agree key (Ne.symm reseal)).symm

end V3Aidlc.Seals
