import BehaviorDiff.Proofs.Tree.Chain

set_option autoImplicit false

/-!
Reading a path from left to right. If tags have neither slashes nor brackets and identities no
quotes, the first of these characters ends the part that it cannot occur in, and a digit tells a
rank from an identity. So a path names one chain at most, in whatever tree.
-/

namespace BehaviorDiff

/-- A tag that a path can be read back from. -/
def PlainTag (tag : String) : Prop := '/' ∉ tag.toList ∧ '[' ∉ tag.toList

/-- The tag of a node is plain, and its identity has no quote. -/
def Node.Plain (node : Node) : Prop :=
  PlainTag node.tag ∧ ∀ id ∈ node.attributes.id?, '\'' ∉ id.toList

instance (tag : String) : Decidable (PlainTag tag) :=
  inferInstanceAs (Decidable ('/' ∉ tag.toList ∧ '[' ∉ tag.toList))

instance (node : Node) : Decidable node.Plain :=
  inferInstanceAs (Decidable (_ ∧ ∀ id ∈ node.attributes.id?, '\'' ∉ id.toList))

/-- The tag of a step is plain, and its identity has no quote. -/
def Step.Plain (step : Step) : Prop :=
  PlainTag step.tag ∧ ∀ id, step.mark = .identity id → '\'' ∉ id.toList

/-- The tags of a chain are plain, and its identities have no quote. -/
def Chain.Plain (chain : Chain) : Prop := PlainTag chain.root ∧ ∀ step ∈ chain.steps, step.Plain

theorem Step.plain_to {child : Node} (plain : child.Plain) (before : List String) :
    (Step.to child before).Plain := by
  refine ⟨plain.1, fun id same => ?_⟩
  cases found : child.attributes.id? with
  | none =>
    simp only [Step.to, found] at same
    cases same
  | some other =>
    simp only [Step.to, found] at same
    cases same
    exact plain.2 id found

/-- The chains of a plain tree are plain. -/
theorem ChainTo.plain {root node : Node} (plain : ∀ node ∈ root.preorder, node.Plain)
    {chain : Chain} (h : ChainTo root chain node) : chain.Plain := by
  induction h with
  | root => exact ⟨(plain root ChainTo.root.mem_preorder).1, fun _ hm => absurd hm List.not_mem_nil⟩
  | @child chain parent child before after above split ih =>
    have member := (ChainTo.child above split).mem_preorder
    refine ⟨ih.1, fun step hm => ?_⟩
    rcases List.mem_append.1 hm with hm | hm
    · exact ih.2 step hm
    · rw [List.mem_singleton.1 hm]
      exact Step.plain_to (plain child member) _

/-- The characters of a mark between its brackets. -/
def Mark.chars : Mark → List Char
  | identity id => '@' :: 'I' :: 'D' :: '=' :: '\'' :: (id.toList ++ ['\''])
  | rank count => Nat.toDigits 10 count

/-- The characters of a step with the slash before it. -/
def Step.chars (step : Step) : List Char :=
  '/' :: (step.tag.toList ++ '[' :: (step.mark.chars ++ [']']))

theorem Step.toList_text (step : Step) : '/' :: step.text.toList = step.chars := by
  obtain ⟨tag, mark⟩ := step
  cases mark with
  | identity id => simp [Step.text, Step.chars, Mark.chars]
  | rank count => simp [Step.text, Step.chars, Mark.chars]

theorem Chain.toList_path (chain : Chain) :
    chain.path.toList = chain.root.toList ++ chain.steps.flatMap Step.chars := by
  obtain ⟨root, steps⟩ := chain
  change (steps.foldl (fun path step => path ++ "/" ++ step.text) root).toList =
    root.toList ++ steps.flatMap Step.chars
  induction steps generalizing root with
  | nil => simp
  | cons step rest ih =>
    rw [List.foldl_cons, ih, List.flatMap_cons, ← step.toList_text]
    simp

/-- Two texts agree up to the first stop and behind it, if each has ended there. -/
theorem append_inj_of_stop {stop : Char} {a b x y : List Char} (freeA : stop ∉ a) (freeB : stop ∉ b)
    (stopX : ∀ c ∈ x.head?, c = stop) (stopY : ∀ c ∈ y.head?, c = stop) (same : a ++ x = b ++ y) :
    a = b ∧ x = y := by
  induction a generalizing b with
  | nil =>
    cases b with
    | nil => exact ⟨rfl, same⟩
    | cons c b =>
      rw [List.nil_append, List.cons_append] at same
      have atStop : c = stop := stopX c (by rw [same]; rfl)
      exact absurd (atStop ▸ List.mem_cons_self) freeB
  | cons c a ih =>
    cases b with
    | nil =>
      rw [List.nil_append, List.cons_append] at same
      have atStop : c = stop := stopY c (by rw [← same]; rfl)
      exact absurd (atStop ▸ List.mem_cons_self) freeA
    | cons d b =>
      obtain ⟨rfl, later⟩ := List.cons.inj same
      obtain ⟨rfl, rfl⟩ := ih (fun hm => freeA (List.mem_cons_of_mem _ hm))
        (fun hm => freeB (List.mem_cons_of_mem _ hm)) later
      exact ⟨rfl, rfl⟩

private theorem toDigits_inj {m n : Nat} (same : Nat.toDigits 10 m = Nat.toDigits 10 n) :
    m = n := by
  have read := congrArg (fun digits => Nat.ofDigitChars 10 digits 0) same
  simpa using read

private theorem notMem_toDigits {stop : Char} (other : stop.isDigit = false) (n : Nat) :
    stop ∉ Nat.toDigits 10 n := by
  intro hm
  rw [Nat.isDigit_of_mem_toDigits (by decide) (by decide) hm] at other
  cases other

/-- The last step of a path is read from the right, if its tag and identity are known: the step is
taken off as it is, or else its rank stands behind the last opening bracket. -/
theorem path_eq_of_append_pathStep {tag parent parent' : String}
    {attributes attributes' : Attributes} {rank rank' : Nat}
    (identity : attributes.id? = attributes'.id?)
    (same : parent ++ "/" ++ Draft.pathStep tag attributes rank =
      parent' ++ "/" ++ Draft.pathStep tag attributes' rank') :
    parent = parent' ∧ (attributes.id? = none → rank = rank') := by
  have text := congrArg String.toList same
  rw [Draft.pathStep, Draft.pathStep, ← identity] at text
  cases found : attributes.id? with
  | some id =>
    have parents : parent.toList = parent'.toList := by simpa [found] using text
    exact ⟨String.toList_inj.1 parents, fun absent => by cases absent⟩
  | none =>
    have reversed := congrArg List.reverse text
    have behind : (Nat.toDigits 10 rank).reverse ++ '[' :: (tag.toList.reverse ++
          '/' :: parent.toList.reverse) =
        (Nat.toDigits 10 rank').reverse ++ '[' :: (tag.toList.reverse ++
          '/' :: parent'.toList.reverse) := by
      simpa [found] using reversed
    have free (n : Nat) : '[' ∉ (Nat.toDigits 10 n).reverse := by
      rw [List.mem_reverse]
      exact notMem_toDigits (by decide) n
    obtain ⟨digits, before⟩ :=
      append_inj_of_stop (free rank) (free rank') (by simp) (by simp) behind
    have parents : parent.toList = parent'.toList := by simpa using before
    exact ⟨String.toList_inj.1 parents, fun _ => toDigits_inj (List.reverse_inj.1 digits)⟩

/-- No identity reads like a rank: a rank begins with a digit. -/
theorem identity_ne_rank (id : String) (count : Nat) (x y : List Char) :
    (Mark.identity id).chars ++ x ≠ (Mark.rank count).chars ++ y := by
  intro same
  cases digits : Nat.toDigits 10 count with
  | nil => exact absurd digits Nat.toDigits_ne_nil
  | cons first rest =>
    rw [Mark.chars, Mark.chars, digits] at same
    obtain ⟨rfl, -⟩ := List.cons.inj same
    exact notMem_toDigits (by decide) count (digits ▸ List.mem_cons_self)

/-- A mark is read up to its closing bracket. -/
theorem Mark.eq_of_chars {mark mark' : Mark} {x y : List Char}
    (free : ∀ id, mark = .identity id → '\'' ∉ id.toList)
    (free' : ∀ id, mark' = .identity id → '\'' ∉ id.toList)
    (same : mark.chars ++ ']' :: x = mark'.chars ++ ']' :: y) : mark = mark' ∧ x = y := by
  cases mark with
  | identity id =>
    cases mark' with
    | identity id' =>
      have text : id.toList ++ '\'' :: ']' :: x = id'.toList ++ '\'' :: ']' :: y := by
        simpa [Mark.chars] using same
      obtain ⟨ids, behind⟩ := append_inj_of_stop (free id rfl) (free' id' rfl)
        (by simp) (by simp) text
      obtain rfl := String.toList_inj.1 ids
      obtain ⟨-, rest⟩ := List.cons.inj behind
      exact ⟨rfl, (List.cons.inj rest).2⟩
    | rank count => exact absurd same (identity_ne_rank id count _ _)
  | rank count =>
    cases mark' with
    | identity id => exact absurd same.symm (identity_ne_rank id count _ _)
    | rank count' =>
      have unclosed (n : Nat) : ']' ∉ Nat.toDigits 10 n := notMem_toDigits (by decide) n
      obtain ⟨digits, behind⟩ :=
        append_inj_of_stop (unclosed count) (unclosed count') (by simp) (by simp) same
      obtain rfl := toDigits_inj digits
      exact ⟨rfl, (List.cons.inj behind).2⟩

/-- A step is read up to its closing bracket. -/
theorem Step.eq_of_chars {step step' : Step} {x y : List Char} (plain : step.Plain)
    (plain' : step'.Plain) (same : step.chars ++ x = step'.chars ++ y) : step = step' ∧ x = y := by
  obtain ⟨tag, mark⟩ := step
  obtain ⟨tag', mark'⟩ := step'
  have text : tag.toList ++ '[' :: (mark.chars ++ ']' :: x) =
      tag'.toList ++ '[' :: (mark'.chars ++ ']' :: y) := by
    simpa [Step.chars] using same
  obtain ⟨tags, behind⟩ := append_inj_of_stop plain.1.2 plain'.1.2 (by simp) (by simp) text
  obtain rfl := String.toList_inj.1 tags
  obtain ⟨rfl, rest⟩ := Mark.eq_of_chars plain.2 plain'.2 (List.cons.inj behind).2
  exact ⟨rfl, rest⟩

/-- The steps of a path are read one after another. -/
theorem steps_eq_of_chars {steps steps' : List Step} (plain : ∀ step ∈ steps, step.Plain)
    (plain' : ∀ step ∈ steps', step.Plain)
    (same : steps.flatMap Step.chars = steps'.flatMap Step.chars) : steps = steps' := by
  induction steps generalizing steps' with
  | nil =>
    cases steps' with
    | nil => rfl
    | cons step' rest' => cases same
  | cons step rest ih =>
    cases steps' with
    | nil => cases same
    | cons step' rest' =>
      rw [List.flatMap_cons, List.flatMap_cons] at same
      obtain ⟨first, later⟩ := List.forall_mem_cons.1 plain
      obtain ⟨first', later'⟩ := List.forall_mem_cons.1 plain'
      obtain ⟨rfl, behind⟩ := Step.eq_of_chars first first' same
      rw [ih later later' behind]

/-- The text of a plain chain determines the chain. -/
theorem Chain.eq_of_path_eq {chain chain' : Chain} (plain : chain.Plain) (plain' : chain'.Plain)
    (same : chain.path = chain'.path) : chain = chain' := by
  obtain ⟨root, steps⟩ := chain
  obtain ⟨root', steps'⟩ := chain'
  have text := congrArg String.toList same
  rw [Chain.toList_path, Chain.toList_path] at text
  -- Behind the tag of the root a path ends or goes on with a slash.
  have atSlash (steps : List Step) : ∀ c ∈ (steps.flatMap Step.chars).head?, c = '/' := by
    cases steps with
    | nil => simp
    | cons step rest => simp [Step.chars]
  obtain ⟨roots, behind⟩ :=
    append_inj_of_stop plain.1.1 plain'.1.1 (atSlash steps) (atSlash steps') text
  have sameRoot : root = root' := String.toList_inj.1 roots
  have sameSteps : steps = steps' := steps_eq_of_chars plain.2 plain'.2 behind
  rw [sameRoot, sameSteps]

end BehaviorDiff
