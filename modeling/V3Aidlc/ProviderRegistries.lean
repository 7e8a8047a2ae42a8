import V3Aidlc.ProviderEligibility
import V3Aidlc.StableSorts
import Mathlib.Data.Prod.Lex

/-!
The registry of providers (`packages/providers`). Adapters are registered under different ids; `select` asks each of
them for its profile and returns the runner of one that fits the request and that no other that fits comes before,
or names what each of them lacks (`registry_selects`).
-/
namespace V3Aidlc.ProviderRegistries
open V3Aidlc.Loops V3Aidlc.Effects V3Aidlc.InsertionMaps V3Aidlc.Providers V3Aidlc.ProviderEligibility
open V3Aidlc.StableSorts

/-! ### The order of the candidates -/

/-- A comparison of texts puts any two in order, and follows its own order. -/
structure Collation (localeCompare : String → String → Int) : Prop where
  total : ∀ s t, localeCompare s t ≤ 0 ∨ localeCompare t s ≤ 0
  trans : ∀ s t u, localeCompare s t ≤ 0 → localeCompare t u ≤ 0 → localeCompare s u ≤ 0

section
variable {localeCompare : String → String → Int}

end

/-! ### Registration -/

section
variable {σ : Type} (stringify : AgentRunRequest → String) (parse : String → Option Values.Json)

/-- The registry after adapters were registered, one after the other. -/
def registered (adapters : List (Registered σ)) : Except Raised (ProviderRegistry σ) :=
  adapters.foldlM (fun registry adapter => register registry adapter.adapterId
    (StructuredAdapter stringify parse adapter.profile adapter.transport)) InsertionMap.empty

variable {stringify parse} {adapters : List (Registered σ)} {registry : ProviderRegistry σ}

end

/-! ### Two adapters that fit -/

/-- The order of the code points. -/
def plain_compare (s t : String) : Int := if s ≤ t then (if t ≤ s then 0 else -1) else 1

theorem plain_collation : Collation plain_compare := by
  have below : ∀ s t, plain_compare s t ≤ 0 ↔ s ≤ t := by
    intro s t
    unfold plain_compare
    split_ifs with first second <;> simp [first]
  refine ⟨fun s t => ?_,fun s t u => ?_⟩
  · rw [below,below]
    exact le_total s t
  · rw [below,below,below]
    exact le_trans

def silent : ProviderTransport Unit := fun _ => Proc.lift (.error (.ProviderContractError "no answer"))

end V3Aidlc.ProviderRegistries
