import V3Aidlc.Encodings
import V3Aidlc.Worktrees

/-!
Change proposals (`packages/workspace`). A proposal is made of what git answered, at a head that is
not its base (`proposal_ok`), and its digest stands for all of it: the text that is digested can be
read back field by field, also where texts hold quotes, brackets and commas (`canonical_injective`).
-/
namespace V3Aidlc.ChangeProposals
open V3Aidlc.Effects V3Aidlc.Effects.Proc V3Aidlc.PrefixCodes V3Aidlc.Encodings V3Aidlc.Canonical V3Aidlc.Worktrees
open V3Aidlc.Decisions (trim)
open V3Aidlc.CallLogs (call_returns)

/-! ### What is digested -/

theorem quote_opens (s : String) : ∃ c rest, (quote s).toList = c :: rest ∧ c ≠ ']' :=
  ⟨'"',s.toList.flatMap escapeChar ++ ['"'],by simp [quote],by decide⟩

theorem texts_text (items : List String) (rest : List Char) : (texts items).toList ++ rest =
    '[' :: (separated ',' (items.map (fun item => (quote item).toList)) ++ ']' :: rest) := by
  have single : ",".toList = [','] := rfl
  have codes : (items.map quote).map String.toList = items.map (fun item => (quote item).toList) := by
    rw [List.map_map]
    rfl
  rw [texts,String.toList_append,String.toList_append,join_separated single,codes]
  simp

theorem texts_decodes {items others : List String} {rest rest' : List Char}
    (same : (texts items).toList ++ rest = (texts others).toList ++ rest') : items = others ∧ rest = rest' := by
  rw [texts_text,texts_text] at same
  have each : ∀ item ∈ items, Decodes (fun item => (quote item).toList) (fun c => c = ',' ∨ c = ']') (fun _ => True)
      Eq item := fun item _ other rest rest' _ _ _ texts => quote_decodes texts
  obtain ⟨members,rests⟩ := listed_decodes (.inl rfl) (.inr rfl) (by decide) (fun item _ => quote_opens item) each
    (fun _ _ => trivial) (fun _ _ => trivial) (List.tail_eq_of_cons_eq same)
  exact ⟨List.forall₂_eq_eq_eq ▸ members,rests⟩

theorem concat_cancel {opening part other : String} {rest rest' : List String}
    (same : concat (opening :: part :: rest) = concat (opening :: other :: rest')) :
    part.toList ++ (concat rest).toList = other.toList ++ (concat rest').toList := by
  have texts := congrArg String.toList same
  simp only [concat,List.foldr_cons,String.toList_append] at texts ⊢
  exact List.append_cancel_left texts

theorem concat_quote {opening s t : String} {rest rest' : List String}
    (same : concat (opening :: quote s :: rest) = concat (opening :: quote t :: rest')) :
    s = t ∧ concat rest = concat rest' := by
  obtain ⟨strings,rests⟩ := quote_decodes (concat_cancel same)
  exact ⟨strings,String.toList_inj.mp rests⟩

theorem concat_texts {opening : String} {items others : List String} {rest rest' : List String}
    (same : concat (opening :: texts items :: rest) = concat (opening :: texts others :: rest')) :
    items = others ∧ concat rest = concat rest' := by
  obtain ⟨lists,rests⟩ := texts_decodes (concat_cancel same)
  exact ⟨lists,String.toList_inj.mp rests⟩

/-- The fields of a proposal but its digest. -/
structure SameContent (proposal other : ChangeProposal) : Prop where
  id : proposal.id = other.id
  workPackageId : proposal.workPackageId = other.workPackageId
  title : proposal.title = other.title
  body : proposal.body = other.body
  baseRevision : proposal.baseRevision = other.baseRevision
  headRevision : proposal.headRevision = other.headRevision
  branch : proposal.branch = other.branch
  changedFiles : proposal.changedFiles = other.changedFiles
  verificationEvidenceIds : proposal.verificationEvidenceIds = other.verificationEvidenceIds

theorem canonical_injective {proposal other : ChangeProposal} (same : canonical proposal = canonical other) :
    SameContent proposal other := by
  obtain ⟨ids,same⟩ := concat_quote same
  obtain ⟨packages,same⟩ := concat_quote same
  obtain ⟨titles,same⟩ := concat_quote same
  obtain ⟨bodies,same⟩ := concat_quote same
  obtain ⟨bases,same⟩ := concat_quote same
  obtain ⟨heads,same⟩ := concat_quote same
  obtain ⟨branches,same⟩ := concat_quote same
  obtain ⟨files,same⟩ := concat_texts same
  obtain ⟨evidence,_⟩ := concat_texts same
  exact ⟨ids,packages,titles,bodies,bases,heads,branches,files,evidence⟩

/-! ### What a proposal is made of -/

section
variable {host : Host} {input : ProposalInput} {log after : List Call} {proposal : ChangeProposal}

theorem git_succeeds_returns {cwd : String} {args : List String} {yes : Bool} :
    git_succeeds host cwd args log = (.ok yes,after) ↔
      (host.execGit log (.git cwd args)).toBool = yes ∧ after = log ++ [.git cwd args] := by
  unfold git_succeeds
  rw [call_returns]
  simp

/-- What git answered for a proposal. -/
structure Answered (host : Host) (input : ProposalInput) (log : List Call) (proposal : ChangeProposal) : Prop where
  evidence : proposal.verificationEvidenceIds = input.verificationEvidenceIds ∧ input.verificationEvidenceIds ≠ []
  base : proposal.baseRevision = input.session.baseRevision
  head : ∃ stdout, host.execGit log (.git input.session.worktreePath ["rev-parse","HEAD"]) = .ok stdout ∧
    proposal.headRevision = trim stdout
  changed : proposal.headRevision ≠ proposal.baseRevision
  ancestor : (host.execGit (log ++ [.git input.session.worktreePath ["rev-parse","HEAD"]]) (.git
    input.session.worktreePath ["merge-base","--is-ancestor",proposal.baseRevision,proposal.headRevision])).toBool = true
  digest : proposal.digest = Sha256.sha256 (canonical proposal)

theorem proposal_ok (ran : prepareChangeProposal host input log = (.ok proposal,after)) :
    Answered host input log proposal := by
  unfold prepareChangeProposal at ran
  simp only [bind_returns,lift_returns,pure_returns,trimmedGit_returns,git_succeeds_returns,reject_ok,
    decide_eq_false_iff_not,Bool.not_eq_false'] at ran
  obtain ⟨_,_,⟨given,rfl⟩,_,_,⟨head,answered,rfl,rfl⟩,_,_,⟨changed,rfl⟩,_,_,⟨rfl,rfl⟩,_,_,⟨ancestor,rfl⟩,_,_,_,_,_,_,
    rfl,_⟩ := ran
  exact ⟨⟨rfl,given⟩,rfl,⟨head,answered,rfl⟩,changed,ancestor,rfl⟩

end

/-- Proposals that any runs have prepared have one digest only when they are one proposal, or their texts are two with
    one SHA-256. -/
theorem digest_identifies {host host' : Host} {input input' : ProposalInput} {log log' after after' : List Call}
    {proposal other : ChangeProposal} (ran : prepareChangeProposal host input log = (.ok proposal,after))
    (ran' : prepareChangeProposal host' input' log' = (.ok other,after')) (same : proposal.digest = other.digest) :
    proposal = other ∨ canonical proposal ≠ canonical other ∧
      Sha256.sha256 (canonical proposal) = Sha256.sha256 (canonical other) := by
  have digest := (proposal_ok ran).digest
  have digest' := (proposal_ok ran').digest
  by_cases texts : canonical proposal = canonical other
  · obtain ⟨ids,packages,titles,bodies,bases,heads,branches,files,evidence⟩ := canonical_injective texts
    exact .inl (ChangeProposal.ext ids packages titles bodies bases heads branches files evidence same)
  · exact .inr ⟨texts,digest.symm.trans (same.trans digest')⟩

/-- The blanks around a summary are not part of what is proposed. -/
theorem summary_trimmed (host : Host) (input : ProposalInput) {summary : String} (same : trim summary = trim input.summary) :
    prepareChangeProposal host { input with summary := summary } = prepareChangeProposal host input := by
  unfold prepareChangeProposal proposal_body
  rw [same]

/-- A session whose worktree has moved on to another head. -/
def sample_proposal (summary : String) : ProposalInput where
  id := "CP-1"
  session := { sample_session with baseRevision := "e69de29" }
  title := "Notes"
  summary := summary
  verificationEvidenceIds := ["EV-1","EV-2"]

/-- Two runs prepare one proposal from summaries in other blanks. -/
theorem digest_identifies_trimmed : ∃ proposal other after after',
    prepareChangeProposal sample_host (sample_proposal "Notes, and more") [] = (.ok proposal,after) ∧
    prepareChangeProposal sample_host (sample_proposal " Notes, and more\n") [] = (.ok other,after') ∧
    proposal.digest = other.digest ∧
    (proposal = other ∨ canonical proposal ≠ canonical other ∧
      Sha256.sha256 (canonical proposal) = Sha256.sha256 (canonical other)) := by
  have returned : (prepareChangeProposal sample_host (sample_proposal "Notes, and more") []).1.toBool = true := by
    decide +kernel
  have trimmed : prepareChangeProposal sample_host (sample_proposal " Notes, and more\n") =
      prepareChangeProposal sample_host (sample_proposal "Notes, and more") :=
    summary_trimmed sample_host (sample_proposal "Notes, and more") (by decide +kernel)
  cases ran : prepareChangeProposal sample_host (sample_proposal "Notes, and more") [] with
  | mk result after =>
    cases result with
    | error failure => simp [ran,Except.toBool] at returned
    | ok proposal =>
      have ran' := (congrFun trimmed []).trans ran
      exact ⟨proposal,proposal,after,after,rfl,ran',rfl,digest_identifies ran ran' rfl⟩

end V3Aidlc.ChangeProposals
