import V3Aidlc.Paths

/-!
Trees of directories, files and symbolic links, and the walk that a host makes through one. The
walk follows links, up to a bound, and the place where it ends is reached through directories
alone. A way can be cut (`leads_append`), and without links it ends where the names say
(`leads_straight`).
-/
namespace V3Aidlc.FileTrees
open V3Aidlc.Paths

/-- Of a file the size on disk and the text that its bytes decode to. -/
inductive Node where
  | file (sizeBytes : Nat) (text : String)
  | link (target : String)
  | dir (entries : List (String × Node))

def Node.child? : Node → String → Option Node
  | .dir entries,name => entries.lookup name
  | _,_ => none

/-- The node at a place, links not followed. -/
def Node.get? (tree : Node) : Place → Option Node
  | [] => some tree
  | name :: rest => (tree.child? name).bind (fun child => child.get? rest)

def Node.isLink : Node → Bool
  | .link _ => true
  | _ => false

/-! ### The walk -/

/-- The walk from a directory, with what is done at a link. -/
def along (tree : Node) (follow : Place → String → List String → Option Place) : Place → List String → Option Place
  | here,[] => some here
  | here,name :: rest =>
    match tree.get? here with
    | some (.dir entries) =>
      if name = "" ∨ name = "." then along tree follow here rest
      else if name = ".." then along tree follow here.dropLast rest
      else match entries.lookup name with
        | none => none
        | some (.link target) => follow here target rest
        | some _ => along tree follow (here ++ [name]) rest
    | _ => none

/-- The place that the names lead to, where at most so many links are followed. A link starts at
    the top or in the directory that holds it, and an empty link leads nowhere. -/
def walk (tree : Node) : Nat → Place → List String → Option Place
  | 0 => along tree (fun _ _ _ => none)
  | n + 1 => along tree (fun here target rest =>
      if target = "" then none else walk tree n (if absolute target then [] else here) (components target ++ rest))

/-! ### Places in a tree -/

theorem get?_append (tree : Node) (front back : Place) :
    tree.get? (front ++ back) = (tree.get? front).bind (fun node => node.get? back) := by
  induction front generalizing tree with
  | nil => rfl
  | cons name rest ih =>
    rw [List.cons_append,Node.get?,Node.get?,Option.bind_assoc]
    congr 1
    funext child
    exact ih child

theorem get?_snoc (tree : Node) (here : Place) (name : String) :
    tree.get? (here ++ [name]) = (tree.get? here).bind (fun node => node.child? name) := by
  rw [get?_append]
  congr 1
  funext node
  rw [Node.get?]
  cases node.child? name <;> rfl

/-! ### Ways -/

/-- The names lead from the one place to the other, with so many links allowed before and after. -/
inductive Leads (tree : Node) : Nat → Place → List String → Nat → Place → Prop where
  | stop {n : Nat} {here : Place} : Leads tree n here [] n here
  | stay {n m : Nat} {here place : Place} {entries : List (String × Node)} {name : String} {rest : List String}
      (dir : tree.get? here = some (.dir entries)) (stays : name = "" ∨ name = ".")
      (way : Leads tree n here rest m place) : Leads tree n here (name :: rest) m place
  | up {n m : Nat} {here place : Place} {entries : List (String × Node)} {rest : List String}
      (dir : tree.get? here = some (.dir entries)) (way : Leads tree n here.dropLast rest m place) :
      Leads tree n here (".." :: rest) m place
  | down {n m : Nat} {here place : Place} {entries : List (String × Node)} {name : String} {node : Node}
      {rest : List String} (dir : tree.get? here = some (.dir entries)) (moves : ¬ (name = "" ∨ name = "."))
      (lower : name ≠ "..") (entry : entries.lookup name = some node) (real : node.isLink = false)
      (way : Leads tree n (here ++ [name]) rest m place) : Leads tree n here (name :: rest) m place
  | through {n m : Nat} {here place : Place} {entries : List (String × Node)} {name target : String}
      {rest : List String} (dir : tree.get? here = some (.dir entries)) (moves : ¬ (name = "" ∨ name = "."))
      (lower : name ≠ "..") (entry : entries.lookup name = some (.link target)) (some : target ≠ "")
      (way : Leads tree n (if absolute target then [] else here) (components target ++ rest) m place) :
      Leads tree (n + 1) here (name :: rest) m place

/-- What the walk does at a link. -/
def followed (tree : Node) : Nat → Place → String → List String → Option Place
  | 0,_,_,_ => none
  | n + 1,here,target,rest =>
    if target = "" then none else walk tree n (if absolute target then [] else here) (components target ++ rest)

theorem walk_eq (tree : Node) (n : Nat) : walk tree n = along tree (followed tree n) := by
  cases n <;> rfl

/-- One round of a walk: it is in a directory and stays, goes up, goes down or comes to a link. -/
theorem along_cons {tree : Node} {follow : Place → String → List String → Option Place} {here place : Place}
    {name : String} {rest : List String} (walked : along tree follow here (name :: rest) = some place) :
    ∃ entries, tree.get? here = some (.dir entries) ∧
      ((name = "" ∨ name = ".") ∧ along tree follow here rest = some place ∨
        name = ".." ∧ along tree follow here.dropLast rest = some place ∨
        ¬ (name = "" ∨ name = ".") ∧ name ≠ ".." ∧ ∃ node, entries.lookup name = some node ∧
          (node.isLink = false ∧ along tree follow (here ++ [name]) rest = some place ∨
            ∃ target, node = .link target ∧ follow here target rest = some place)) := by
  unfold along at walked
  cases found : tree.get? here with
  | none => simp [found] at walked
  | some node =>
    rw [found] at walked
    cases node with
    | file => cases walked
    | link => cases walked
    | dir entries =>
      refine ⟨entries,rfl,?_⟩
      simp only at walked
      by_cases stays : name = "" ∨ name = "."
      · rw [if_pos stays] at walked
        exact .inl ⟨stays,walked⟩
      · rw [if_neg stays] at walked
        by_cases up : name = ".."
        · rw [if_pos up] at walked
          exact .inr (.inl ⟨up,walked⟩)
        · rw [if_neg up] at walked
          refine .inr (.inr ⟨stays,up,?_⟩)
          cases entry : entries.lookup name with
          | none => simp [entry] at walked
          | some node =>
            rw [entry] at walked
            refine ⟨node,rfl,?_⟩
            cases node with
            | link target => exact .inr ⟨target,rfl,walked⟩
            | file => exact .inl ⟨rfl,walked⟩
            | dir => exact .inl ⟨rfl,walked⟩

theorem leads_of_walk {tree : Node} {n : Nat} {here place : Place} {names : List String}
    (walked : walk tree n here names = some place) : ∃ m, Leads tree n here names m place := by
  induction n using Nat.strongRecOn generalizing here names with
  | _ n links =>
    rw [walk_eq] at walked
    induction names generalizing here with
    | nil =>
      obtain rfl : here = place := Option.some.inj walked
      exact ⟨n,.stop⟩
    | cons name rest ih =>
      obtain ⟨entries,dir,⟨stays,goes⟩ | ⟨rfl,goes⟩ | ⟨moves,lower,node,entry,goes⟩⟩ := along_cons walked
      · obtain ⟨m,way⟩ := ih goes
        exact ⟨m,.stay dir stays way⟩
      · obtain ⟨m,way⟩ := ih goes
        exact ⟨m,.up dir way⟩
      · rcases goes with ⟨real,walked⟩ | ⟨target,rfl,walked⟩
        · obtain ⟨m,way⟩ := ih walked
          exact ⟨m,.down dir moves lower entry real way⟩
        · cases n with
          | zero => cases walked
          | succ n =>
            simp only [followed] at walked
            by_cases empty : target = ""
            · rw [if_pos empty] at walked
              cases walked
            · rw [if_neg empty] at walked
              obtain ⟨m,way⟩ := links n (Nat.lt_succ_self n) walked
              exact ⟨m,.through dir moves lower entry empty way⟩

theorem walk_of_leads {tree : Node} {n m : Nat} {here place : Place} {names : List String}
    (way : Leads tree n here names m place) : walk tree n here names = some place := by
  induction way with
  | stop => rw [walk_eq]; rfl
  | stay dir stays _ ih =>
    rw [walk_eq] at ih ⊢
    simp [along,dir,stays,ih]
  | up dir _ ih =>
    rw [walk_eq] at ih ⊢
    simp [along,dir,ih]
  | @down n m here place entries name node rest dir moves lower entry real _ ih =>
    rw [walk_eq] at ih ⊢
    cases node with
    | link => cases real
    | file => simp [along,dir,moves,lower,entry,ih]
    | dir => simp [along,dir,moves,lower,entry,ih]
  | through dir moves lower entry some _ ih =>
    rw [walk_eq]
    simp [along,dir,moves,lower,entry,followed,some,ih]

/-- A way can be cut. -/
theorem leads_append {tree : Node} {n m : Nat} {here place : Place} {front back : List String}
    (way : Leads tree n here (front ++ back) m place) :
    ∃ k middle, Leads tree n here front k middle ∧ Leads tree k middle back m place := by
  generalize joined : front ++ back = names at way
  induction way generalizing front with
  | @stop n here =>
    obtain ⟨rfl,rfl⟩ := List.append_eq_nil_iff.mp joined
    exact ⟨n,here,.stop,.stop⟩
  | @stay n m here place entries name rest dir stays way ih =>
    cases front with
    | nil =>
      obtain rfl := joined
      exact ⟨n,here,.stop,.stay dir stays way⟩
    | cons first others =>
      obtain ⟨rfl,same⟩ := List.cons.inj joined
      obtain ⟨k,middle,start,finish⟩ := ih same
      exact ⟨k,middle,.stay dir stays start,finish⟩
  | @up n m here place entries rest dir way ih =>
    cases front with
    | nil =>
      obtain rfl := joined
      exact ⟨n,here,.stop,.up dir way⟩
    | cons first others =>
      obtain ⟨rfl,same⟩ := List.cons.inj joined
      obtain ⟨k,middle,start,finish⟩ := ih same
      exact ⟨k,middle,.up dir start,finish⟩
  | @down n m here place entries name node rest dir moves lower entry real way ih =>
    cases front with
    | nil =>
      obtain rfl := joined
      exact ⟨n,here,.stop,.down dir moves lower entry real way⟩
    | cons first others =>
      obtain ⟨rfl,same⟩ := List.cons.inj joined
      obtain ⟨k,middle,start,finish⟩ := ih same
      exact ⟨k,middle,.down dir moves lower entry real start,finish⟩
  | @through n m here place entries name target rest dir moves lower entry some way ih =>
    cases front with
    | nil =>
      obtain rfl := joined
      exact ⟨n + 1,here,.stop,.through dir moves lower entry some way⟩
    | cons first others =>
      obtain ⟨rfl,same⟩ := List.cons.inj joined
      have split : (components target ++ others) ++ back = components target ++ rest := by
        rw [← same]
        exact List.append_assoc ..
      obtain ⟨k,middle,start,finish⟩ := ih split
      exact ⟨k,middle,.through dir moves lower entry some start,finish⟩

/-- A link stands on the way that the names spell. -/
def Linked (tree : Node) (here : Place) (names : List String) : Prop :=
  ∃ front target, front <+: names ∧ tree.get? (here ++ front) = some (.link target)

/-- Without a link on the way the names lead where they say. -/
theorem leads_straight {tree : Node} {n m : Nat} {here place : Place} {names : List String}
    (way : Leads tree n here names m place) (plain : ∀ name ∈ names, Plain name) (straight : ¬ Linked tree here names) :
    place = here ++ names := by
  induction way with
  | stop => exact (List.append_nil _).symm
  | stay _ stays _ _ =>
    have first := plain _ List.mem_cons_self
    rcases stays with empty | dot
    · exact absurd empty first.named
    · exact absurd dot first.single
  | up _ _ _ => exact absurd rfl (plain _ List.mem_cons_self).double
  | @down n m here place entries name node rest _ _ _ _ _ _ ih =>
    have later := ih (fun other member => plain other (List.mem_cons_of_mem _ member)) (by
      rintro ⟨front,target,start,link⟩
      refine straight ⟨name :: front,target,List.cons_prefix_cons.mpr ⟨rfl,start⟩,?_⟩
      rwa [List.append_assoc] at link)
    rw [later,List.append_assoc]
    rfl
  | @through n m here place entries name target rest dir _ _ entry _ _ _ =>
    refine absurd ⟨[name],target,⟨rest,rfl⟩,?_⟩ straight
    rw [get?_snoc,dir]
    exact entry

end V3Aidlc.FileTrees
