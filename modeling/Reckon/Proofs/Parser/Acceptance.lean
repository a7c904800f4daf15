import Reckon.Proofs.Derivation
import Reckon.Proofs.Parser.Steps

/-!
Contract: each rule of the parser accepts exactly the trees of its symbol.

A rule succeeds with a tree when the grammar derives the tree, the tokens of the
tree are read, the nesting stays within the limit, and the next token cannot go on
with the tree. The last condition is what makes the loops of the rules exact: they
stop neither too early nor too late.

Owns:
- acceptance of a tree between two states;
- the equivalence of success and acceptance for every rule, and for whole token
  lists.
-/

set_option autoImplicit false

namespace Reckon

open Reckon.Parser

/-! ### Acceptance -/

/-- The trees of the symbol cannot go on with the token. -/
def Symbol.EndsBefore : Symbol → Option Token → Prop
  | factor, _ => True
  | negative, _ => True
  | term, found => ¬ Offers .multiplicative found
  | expression, found => ¬ Offers .multiplicative found ∧ ¬ Offers .additive found

namespace ChainRule

variable {symbol operand : Symbol} {precedence : Precedence} {found : Option Token}

theorem endsBefore_iff (rule : ChainRule symbol operand precedence) :
    symbol.EndsBefore found ↔ operand.EndsBefore found ∧ ¬ Offers precedence found := by
  cases rule <;> simp [Symbol.EndsBefore]

/-- An operator of the chain ends the operand before it. -/
theorem operand_endsBefore (rule : ChainRule symbol operand precedence)
    (offered : Offers precedence found) : operand.EndsBefore found := by
  cases rule with
  | term => trivial
  | expression =>
      rcases offered with ⟨operator, rfl, additive⟩
      intro parts
      obtain ⟨other, same, multiplicative⟩ := parts
      cases same
      rw [additive] at multiplicative
      cases multiplicative

end ChainRule

namespace Parser

structure Accepts (symbol : Symbol) (before : State) (tree : Tree) (after : State) :
    Prop where
  derives : Derives symbol tree
  reads : before.Reads tree.yield after
  nests : before.depth + tree.nesting ≤ before.limit
  ends : symbol.EndsBefore after.cursor.current?

/-- No operator goes on with an accepted expression. -/
theorem Accepts.not_offers {before after : State} {tree : Tree}
    (accepted : Accepts .expression before tree after) (precedence : Precedence) :
    ¬ Offers precedence after.cursor.current? := by
  cases precedence with
  | additive => exact accepted.ends.2
  | multiplicative => exact accepted.ends.1

/-- Acceptance of the operators of a chain, each with the operand after it. -/
structure AcceptsLinks (operand : Symbol) (precedence : Precedence) (before : State)
    (links : List (Token × Tree)) (after : State) : Prop where
  operators : ∀ link ∈ links, link.1.kind = precedence.kind
  operands : ∀ link ∈ links, Derives operand link.2
  reads : before.Reads (Tree.linksYield links) after
  nests : ∀ link ∈ links, before.depth + link.2.nesting ≤ before.limit
  endsOperand : operand.EndsBefore after.cursor.current?
  endsLinks : ¬ Offers precedence after.cursor.current?

/-- Wherever so many tokens or fewer are ahead, success is acceptance. -/
def Exact (bound : Nat) (symbol : Symbol) (parser : Parser Tree) : Prop :=
  ∀ before tree after, before.cursor.ahead.length ≤ bound → before.depth ≤ before.limit →
    (parser before = .ok tree after ↔ Accepts symbol before tree after)

/-! ### Chains -/

section Chains

variable {symbol operand : Symbol} {precedence : Precedence} {parser : Parser Tree}
  {bound : Nat} {before between after : State} {links : List (Token × Tree)}

theorem AcceptsLinks.nil (endsOperand : operand.EndsBefore before.cursor.current?)
    (endsLinks : ¬ Offers precedence before.cursor.current?) :
    AcceptsLinks operand precedence before [] before where
  operators := by simp
  operands := by simp
  reads := .refl before
  nests := by simp
  endsOperand := endsOperand
  endsLinks := endsLinks

/-- The first link is in sight of a state that accepts it. -/
theorem AcceptsLinks.offers {link : Token × Tree}
    (accepted : AcceptsLinks operand precedence before (link :: links) after) :
    Offers precedence before.cursor.current? := by
  rcases Token.kind_eq_precedence_kind_iff.mp (accepted.operators link (by simp)) with
    ⟨operator, isOperator, ofPrecedence⟩
  refine ⟨operator, ?_, ofPrecedence⟩
  rw [Cursor.current?, accepted.reads.ahead_eq]
  simp [isOperator]

theorem AcceptsLinks.eq_nil (accepted : AcceptsLinks operand precedence before links after)
    (notOffered : ¬ Offers precedence before.cursor.current?) :
    links = [] ∧ after = before := by
  cases links with
  | nil => exact ⟨rfl, accepted.reads.eq_of_nil⟩
  | cons link links => exact absurd accepted.offers notOffered

theorem AcceptsLinks.cons {operator : Operator} {right : Tree} {stepped : State}
    (ofPrecedence : operator.precedence = precedence)
    (operatorRead : before.Reads [.operator operator] stepped)
    (rightAccepted : Accepts operand stepped right between)
    (othersAccepted : AcceptsLinks operand precedence between links after) :
    AcceptsLinks operand precedence before ((.operator operator, right) :: links) after where
  operators := by
    refine List.forall_mem_cons.mpr ⟨?_, othersAccepted.operators⟩
    exact Token.kind_eq_precedence_kind_iff.mpr ⟨operator, rfl, ofPrecedence⟩
  operands := List.forall_mem_cons.mpr ⟨rightAccepted.derives, othersAccepted.operands⟩
  reads := by
    have reads := (operatorRead.trans rightAccepted.reads).trans othersAccepted.reads
    simpa using reads
  nests := by
    refine List.forall_mem_cons.mpr ⟨?_, fun link member => ?_⟩
    · rw [← operatorRead.depth_eq, ← operatorRead.limit_eq]
      exact rightAccepted.nests
    · have nests := othersAccepted.nests link member
      rwa [rightAccepted.reads.depth_eq, rightAccepted.reads.limit_eq,
        operatorRead.depth_eq, operatorRead.limit_eq] at nests
  endsOperand := othersAccepted.endsOperand
  endsLinks := othersAccepted.endsLinks

/-- What is before the links ends there: at the next operator, or where the whole chain
ends. -/
theorem AcceptsLinks.operand_endsBefore (rule : ChainRule symbol operand precedence)
    (accepted : AcceptsLinks operand precedence before links after) :
    operand.EndsBefore before.cursor.current? := by
  cases links with
  | nil => exact accepted.reads.eq_of_nil ▸ accepted.endsOperand
  | cons link links => exact rule.operand_endsBefore accepted.offers

/-- A link that is accepted comes apart into its operator, its operand and the links
after it. -/
theorem AcceptsLinks.uncons {link : Token × Tree}
    (rule : ChainRule symbol operand precedence)
    (accepted : AcceptsLinks operand precedence before (link :: links) after) :
    ∃ stepped between, before.Reads [link.1] stepped ∧
      Accepts operand stepped link.2 between ∧
        AcceptsLinks operand precedence between links after := by
  have reads := accepted.reads
  rw [Tree.linksYield_cons] at reads
  obtain ⟨stepped, operatorRead, rest⟩ := reads.split [link.1]
  obtain ⟨between, rightRead, othersRead⟩ := rest.split _
  have othersAccepted : AcceptsLinks operand precedence between links after :=
    { operators := (List.forall_mem_cons.mp accepted.operators).2
      operands := (List.forall_mem_cons.mp accepted.operands).2
      reads := othersRead
      nests := by
        intro other member
        rw [rightRead.depth_eq, rightRead.limit_eq, operatorRead.depth_eq,
          operatorRead.limit_eq]
        exact (List.forall_mem_cons.mp accepted.nests).2 other member
      endsOperand := accepted.endsOperand
      endsLinks := accepted.endsLinks }
  refine ⟨stepped, between, operatorRead, ⟨?_, rightRead, ?_, ?_⟩, othersAccepted⟩
  · exact (List.forall_mem_cons.mp accepted.operands).1
  · rw [operatorRead.depth_eq, operatorRead.limit_eq]
    exact (List.forall_mem_cons.mp accepted.nests).1
  · exact othersAccepted.operand_endsBefore rule

/-- Before an operator of the chain there is a link to accept. -/
theorem acceptsLinks_operator_iff (rule : ChainRule symbol operand precedence)
    {operator : Operator} (ofPrecedence : operator.precedence = precedence)
    {passed ahead : List Token} {limit depth : Nat} :
    AcceptsLinks operand precedence ⟨⟨passed, .operator operator :: ahead⟩, limit, depth⟩ links
        after ↔
      ∃ right others between, links = (.operator operator, right) :: others ∧
        Accepts operand ⟨⟨.operator operator :: passed, ahead⟩, limit, depth⟩ right between ∧
          AcceptsLinks operand precedence between others after := by
  constructor
  · intro accepted
    cases links with
    | nil =>
        have same := accepted.reads.eq_of_nil
        exact absurd (same ▸ ⟨operator, rfl, ofPrecedence⟩) accepted.endsLinks
    | cons link others =>
        obtain ⟨stepped, between, operatorRead, rightAccepted, othersAccepted⟩ :=
          accepted.uncons rule
        obtain ⟨found, right⟩ := link
        obtain rfl : .operator operator = found := (List.cons.inj operatorRead.ahead_eq).1
        obtain rfl := operatorRead.unique (.step ..)
        exact ⟨right, others, between, rfl, rightAccepted, othersAccepted⟩
  · intro parts
    obtain ⟨right, others, between, rfl, rightAccepted, othersAccepted⟩ := parts
    exact .cons ofPrecedence (.step ..) rightAccepted othersAccepted

theorem links_eq_ok_iff_of_not_offers {steps : Nat}
    (notOffered : ¬ Offers precedence before.cursor.current?)
    (ends : operand.EndsBefore before.cursor.current?) :
    Parser.links precedence parser steps before = .ok links after ↔
      AcceptsLinks operand precedence before links after := by
  rw [links_of_not_offer notOffered]
  constructor
  · intro same
    cases same
    exact .nil ends notOffered
  · intro accepted
    rcases accepted.eq_nil notOffered with ⟨rfl, rfl⟩
    rfl

theorem links_eq_ok_iff (rule : ChainRule symbol operand precedence)
    (exact : Exact bound operand parser) {steps : Nat}
    (enoughSteps : before.cursor.ahead.length ≤ steps)
    (withinBound : before.cursor.ahead.length ≤ bound)
    (withinLimit : before.depth ≤ before.limit)
    (ends : operand.EndsBefore before.cursor.current?) :
    Parser.links precedence parser steps before = .ok links after ↔
      AcceptsLinks operand precedence before links after := by
  induction steps generalizing before links with
  | zero => exact links_eq_ok_iff_of_not_offers (not_offers_of_exhausted enoughSteps) ends
  | succ steps inductionHypothesis =>
      by_cases offered : Offers precedence before.cursor.current?
      · rcases before with ⟨⟨passed, _ | ⟨token, ahead⟩⟩, limit, depth⟩
        · exact absurd offered not_offers_none
        rcases offered with ⟨operator, isOperator, ofPrecedence⟩
        cases isOperator
        have aheadBound : ahead.length ≤ bound := Nat.le_of_succ_le withinBound
        have aheadSteps : ahead.length ≤ steps := Nat.le_of_succ_le_succ enoughSteps
        have rightExact (right : Tree) (between : State) :=
          exact ⟨⟨.operator operator :: passed, ahead⟩, limit, depth⟩ right between aheadBound
            withinLimit
        -- Behind an accepted operand the rest of the chain is shorter.
        have othersExact {right : Tree} {between : State} {others : List (Token × Tree)}
            (accepted : Accepts operand
              ⟨⟨.operator operator :: passed, ahead⟩, limit, depth⟩ right between) :
            Parser.links precedence parser steps between = .ok others after ↔
              AcceptsLinks operand precedence between others after := by
          have shorter := accepted.reads.length_ahead_le
          apply inductionHypothesis
          · exact Nat.le_trans shorter aheadSteps
          · exact Nat.le_trans shorter aheadBound
          · rw [accepted.reads.depth_eq, accepted.reads.limit_eq]
            exact withinLimit
          · exact accepted.ends
        rw [links_of_offer ofPrecedence, acceptsLinks_operator_iff rule ofPrecedence]
        simp only [bind_eq_ok_iff, pure_eq_ok_iff]
        constructor
        · intro parts
          obtain ⟨right, between, rightRead, others, final, othersRead, rfl, rfl⟩ := parts
          have accepted := (rightExact right between).mp rightRead
          exact ⟨right, others, between, rfl, accepted, (othersExact accepted).mp othersRead⟩
        · intro parts
          obtain ⟨right, others, between, rfl, accepted, othersAccepted⟩ := parts
          have rightRead := (rightExact right between).mpr accepted
          have othersRead := (othersExact accepted).mpr othersAccepted
          exact ⟨right, between, rightRead, others, after, othersRead, rfl, rfl⟩
      · exact links_eq_ok_iff_of_not_offers offered ends

/-- A chain is accepted part by part. -/
theorem accepts_chain_iff (rule : ChainRule symbol operand precedence) {tree : Tree}
    (withinLimit : before.depth ≤ before.limit) :
    Accepts symbol before tree after ↔
      ∃ first links, tree = Tree.chain symbol first links ∧
        ∃ between, Accepts operand before first between ∧
          AcceptsLinks operand precedence between links after := by
  constructor
  · intro accepted
    obtain ⟨derives, reads, nests, ends⟩ := accepted
    obtain ⟨first, links, rfl, firstDerived, operators, operands⟩ := rule.exists_chain derives
    rw [Tree.yield_chain rule.isChain.1] at reads
    obtain ⟨between, firstRead, linksRead⟩ := reads.split _
    have nestsParts : first.nesting ≤ before.limit - before.depth ∧
        ∀ link ∈ links, link.2.nesting ≤ before.limit - before.depth := by
      rw [← Tree.nesting_chain_le_iff rule.isChain]
      omega
    obtain ⟨endsOperand, endsLinks⟩ := rule.endsBefore_iff.mp ends
    have linksAccepted : AcceptsLinks operand precedence between links after :=
      { operators := operators
        operands := operands
        reads := linksRead
        nests := by
          intro link member
          have nests := nestsParts.2 link member
          rw [firstRead.depth_eq, firstRead.limit_eq]
          omega
        endsOperand := endsOperand
        endsLinks := endsLinks }
    refine ⟨first, links, rfl, between, ⟨firstDerived, firstRead, ?_, ?_⟩, linksAccepted⟩
    · have nests := nestsParts.1
      omega
    · exact linksAccepted.operand_endsBefore rule
  · intro parts
    obtain ⟨first, links, rfl, between, firstAccepted, linksAccepted⟩ := parts
    refine ⟨?_, ?_, ?_, ?_⟩
    · exact rule.derives firstAccepted.derives linksAccepted.operators linksAccepted.operands
    · rw [Tree.yield_chain rule.isChain.1]
      exact firstAccepted.reads.trans linksAccepted.reads
    · have nestsParts : (Tree.chain symbol first links).nesting ≤
          before.limit - before.depth := by
        rw [Tree.nesting_chain_le_iff rule.isChain]
        refine ⟨?_, fun link member => ?_⟩
        · have nests := firstAccepted.nests
          omega
        · have nests := linksAccepted.nests link member
          rw [firstAccepted.reads.depth_eq, firstAccepted.reads.limit_eq] at nests
          omega
      omega
    · exact rule.endsBefore_iff.mpr ⟨linksAccepted.endsOperand, linksAccepted.endsLinks⟩

theorem exact_chainWithin (rule : ChainRule symbol operand precedence)
    (exact : Exact bound operand parser) :
    Exact bound symbol (chainWithin bound symbol precedence parser) := by
  intro before tree after withinBound withinLimit
  rw [chainWithin_eq_ok_iff, accepts_chain_iff rule withinLimit]
  have firstExact (first : Tree) (between : State) :=
    exact before first between withinBound withinLimit
  -- The rest of the chain starts behind an accepted operand.
  have linksExact {first : Tree} {between : State} {links : List (Token × Tree)}
      (accepted : Accepts operand before first between) :
      Parser.links precedence parser bound between = .ok links after ↔
        AcceptsLinks operand precedence between links after := by
    have shorter := Nat.le_trans accepted.reads.length_ahead_le withinBound
    apply links_eq_ok_iff rule exact shorter shorter
    · rw [accepted.reads.depth_eq, accepted.reads.limit_eq]
      exact withinLimit
    · exact accepted.ends
  constructor
  · intro parts
    obtain ⟨first, links, rfl, between, firstRead, linksRead⟩ := parts
    have firstAccepted := (firstExact first between).mp firstRead
    exact ⟨first, links, rfl, between, firstAccepted, (linksExact firstAccepted).mp linksRead⟩
  · intro parts
    obtain ⟨first, links, rfl, between, firstAccepted, linksAccepted⟩ := parts
    exact ⟨first, links, rfl, between, (firstExact first between).mpr firstAccepted,
      (linksExact firstAccepted).mpr linksAccepted⟩

end Chains

/-! ### Factors -/

section Factors

variable {passed ahead : List Token} {limit depth : Nat} {tree : Tree} {after : State}

theorem derives_negative_iff :
    Derives .negative tree ↔
      ∃ operand, tree = Tree.negative (.operator .subtract) operand ∧
        Derives .factor operand ∧ takesMinus operand.yield.head? = true := by
  constructor
  · intro derived
    cases derived with
    | negativeNumber value =>
        exact ⟨_, rfl, .number value, by simp [Tree.yield_number, takesMinus]⟩
    | negativeGroup inside =>
        exact ⟨_, rfl, .group inside, by simp [Tree.yield_group inside.isExpression, takesMinus]⟩
  · intro parts
    obtain ⟨operand, rfl, derived, takes⟩ := parts
    cases derived with
    | number value => exact .negativeNumber value
    | group inside => exact .negativeGroup inside
    | negated content =>
        -- A second minus sign cannot stand after the first.
        cases content <;> simp [Tree.yield_negated, Tree.yield_negative, takesMinus] at takes

theorem derives_factor_iff :
    Derives .factor tree ↔
      (∃ value, tree = Tree.factor (.terminal (.number value))) ∨
        (∃ inside, tree = Tree.factor inside ∧ Derives .expression inside) ∨
          ∃ operand, tree = Tree.factor (.negative (.operator .subtract) operand) ∧
            Derives .factor operand ∧ takesMinus operand.yield.head? = true := by
  constructor
  · intro derived
    cases derived with
    | number value => exact .inl ⟨value, rfl⟩
    | group inside => exact .inr (.inl ⟨_, rfl, inside⟩)
    | negated content =>
        obtain ⟨operand, rfl, operandDerived, takes⟩ := derives_negative_iff.mp content
        exact .inr (.inr ⟨operand, rfl, operandDerived, takes⟩)
  · intro parts
    rcases parts with ⟨value, rfl⟩ | ⟨inside, rfl, derived⟩ | ⟨operand, rfl, derived, takes⟩
    · exact .number value
    · exact .group derived
    · exact .negated (derives_negative_iff.mpr ⟨operand, rfl, derived, takes⟩)

/-- The first token of a factor, with the token after it where it is a minus sign. -/
theorem yield_factor_front (derived : Derives .factor tree) :
    ∃ front rest, tree.yield = front :: rest ∧ startsFactor front = true ∧
      (front = .operator .subtract → takesMinus rest.head? = true) := by
  rcases derives_factor_iff.mp derived with
    ⟨value, rfl⟩ | ⟨inside, rfl, insideDerived⟩ | ⟨operand, rfl, _, takes⟩
  · exact ⟨_, _, Tree.yield_number value, rfl, by simp⟩
  · exact ⟨_, _, Tree.yield_group insideDerived.isExpression, rfl, by simp⟩
  · refine ⟨_, _, (Tree.yield_negated _ _).trans (Tree.yield_negative _ _), rfl, ?_⟩
    exact fun _ => takes

theorem accepts_number_iff {value : Float} (withinLimit : depth ≤ limit) :
    Accepts .factor ⟨⟨passed, .number value :: ahead⟩, limit, depth⟩ tree after ↔
      tree = Tree.factor (.terminal (.number value)) ∧
        after = ⟨⟨.number value :: passed, ahead⟩, limit, depth⟩ := by
  constructor
  · intro accepted
    obtain ⟨derives, reads, -, -⟩ := accepted
    rcases derives_factor_iff.mp derives with
      ⟨found, rfl⟩ | ⟨inside, rfl, insideDerived⟩ | ⟨operand, rfl, -, -⟩
    · rw [Tree.yield_number] at reads
      cases reads.current?_eq
      exact ⟨rfl, reads.unique (.step ..)⟩
    · rw [Tree.yield_group insideDerived.isExpression] at reads
      cases reads.current?_eq
    · rw [Tree.yield_negated, Tree.yield_negative] at reads
      cases reads.current?_eq
  · intro same
    obtain ⟨rfl, rfl⟩ := same
    refine ⟨.number value, ?_, ?_, trivial⟩
    · rw [Tree.yield_number]
      exact .step ..
    · rw [Tree.nesting_number]
      exact withinLimit

theorem accepts_group_iff :
    Accepts .factor ⟨⟨passed, .openParen :: ahead⟩, limit, depth⟩ tree after ↔
      ∃ inside final, tree = Tree.factor inside ∧ depth < limit ∧
        Accepts .expression ⟨⟨.openParen :: passed, ahead⟩, limit, depth + 1⟩ inside final ∧
          final.leave.Reads [.closeParen] after := by
  constructor
  · intro accepted
    obtain ⟨derives, reads, nests, -⟩ := accepted
    rcases derives_factor_iff.mp derives with
      ⟨found, rfl⟩ | ⟨inside, rfl, insideDerived⟩ | ⟨operand, rfl, -, -⟩
    · rw [Tree.yield_number] at reads
      cases reads.current?_eq
    · rw [Tree.yield_group insideDerived.isExpression] at reads
      rw [Tree.nesting_group insideDerived.isExpression] at nests
      obtain ⟨opened, openRead, rest⟩ := reads.split [.openParen]
      obtain rfl := openRead.unique (.step ..)
      obtain ⟨between, insideRead, closeRead⟩ := rest.split _
      refine ⟨inside, between.enter, rfl, ?_, ⟨insideDerived, insideRead.enter, ?_, ?_⟩,
        closeRead⟩
      · change depth + (inside.nesting + 1) ≤ limit at nests
        omega
      · change depth + (inside.nesting + 1) ≤ limit at nests
        change depth + 1 + inside.nesting ≤ limit
        omega
      · change Symbol.EndsBefore .expression between.cursor.current?
        rw [closeRead.current?_eq]
        simp [Symbol.EndsBefore, Offers]
    · rw [Tree.yield_negated, Tree.yield_negative] at reads
      cases reads.current?_eq
  · intro parts
    obtain ⟨inside, final, rfl, below, accepted, closeRead⟩ := parts
    refine ⟨.group accepted.derives, ?_, ?_, trivial⟩
    · rw [Tree.yield_group accepted.derives.isExpression]
      have insideRead : State.Reads ⟨⟨.openParen :: passed, ahead⟩, limit, depth⟩
          inside.yield final.leave := accepted.reads.leave
      exact (State.Reads.step ..).trans (insideRead.trans closeRead)
    · rw [Tree.nesting_group accepted.derives.isExpression]
      have nests : depth + 1 + inside.nesting ≤ limit := accepted.nests
      change depth + (inside.nesting + 1) ≤ limit
      omega

theorem accepts_minus_iff (takes : takesMinus ahead.head? = true) :
    Accepts .factor ⟨⟨passed, .operator .subtract :: ahead⟩, limit, depth⟩ tree after ↔
      ∃ operand final, tree = Tree.factor (.negative (.operator .subtract) operand) ∧
        depth < limit ∧
          Accepts .factor ⟨⟨.operator .subtract :: passed, ahead⟩, limit, depth + 1⟩
            operand final ∧ after = final.leave := by
  constructor
  · intro accepted
    obtain ⟨derives, reads, nests, -⟩ := accepted
    rcases derives_factor_iff.mp derives with
      ⟨found, rfl⟩ | ⟨inside, rfl, insideDerived⟩ | ⟨operand, rfl, operandDerived, -⟩
    · rw [Tree.yield_number] at reads
      cases reads.current?_eq
    · rw [Tree.yield_group insideDerived.isExpression] at reads
      cases reads.current?_eq
    · rw [Tree.yield_negated, Tree.yield_negative] at reads
      rw [Tree.nesting_negated, Tree.nesting_negative] at nests
      change depth + (operand.nesting + 1) ≤ limit at nests
      obtain ⟨signed, signRead, operandRead⟩ :=
        reads.split [.operator .subtract]
      obtain rfl := signRead.unique (.step ..)
      refine ⟨operand, after.enter, rfl, ?_, ⟨operandDerived, operandRead.enter, ?_, trivial⟩,
        rfl⟩
      · omega
      · change depth + 1 + operand.nesting ≤ limit
        omega
  · intro parts
    obtain ⟨operand, final, rfl, below, accepted, rfl⟩ := parts
    have takesOperand : takesMinus operand.yield.head? = true := by
      obtain ⟨front, rest, yield_eq, -, -⟩ := yield_factor_front accepted.derives
      have aheadEq : ahead = operand.yield ++ final.cursor.ahead := accepted.reads.ahead_eq
      rw [aheadEq, yield_eq] at takes
      rw [yield_eq]
      exact takes
    refine ⟨derives_factor_iff.mpr (.inr (.inr ⟨operand, rfl, accepted.derives, takesOperand⟩)),
      ?_, ?_, trivial⟩
    · rw [Tree.yield_negated, Tree.yield_negative]
      have operandRead : State.Reads ⟨⟨.operator .subtract :: passed, ahead⟩, limit, depth⟩
          operand.yield final.leave := accepted.reads.leave
      exact (State.Reads.step ..).trans operandRead
    · rw [Tree.nesting_negated, Tree.nesting_negative]
      have nests : depth + 1 + operand.nesting ≤ limit := accepted.nests
      change depth + (operand.nesting + 1) ≤ limit
      omega

/-- No factor starts with a token that a factor cannot start with. -/
theorem not_accepts_misplaced {token : Token} (misplaced : startsFactor token = false) :
    ¬ Accepts .factor ⟨⟨passed, token :: ahead⟩, limit, depth⟩ tree after := by
  intro accepted
  obtain ⟨front, rest, yield_eq, starts, -⟩ := yield_factor_front accepted.derives
  have aheadEq : token :: ahead = tree.yield ++ after.cursor.ahead := accepted.reads.ahead_eq
  rw [yield_eq] at aheadEq
  cases aheadEq
  rw [misplaced] at starts
  cases starts

theorem not_accepts_dangling (takes : takesMinus ahead.head? = false) :
    ¬ Accepts .factor ⟨⟨passed, .operator .subtract :: ahead⟩, limit, depth⟩ tree after := by
  intro accepted
  obtain ⟨front, rest, yield_eq, -, minus⟩ := yield_factor_front accepted.derives
  have aheadEq : .operator .subtract :: ahead = tree.yield ++ after.cursor.ahead :=
    accepted.reads.ahead_eq
  rw [yield_eq] at aheadEq
  cases aheadEq
  cases rest with
  | nil => cases minus rfl
  | cons next rest =>
      have taken : takesMinus (some next) = true := minus rfl
      have refused : takesMinus (some next) = false := takes
      rw [taken] at refused
      cases refused

theorem not_accepts_ended {symbol : Symbol} :
    ¬ Accepts symbol ⟨⟨passed, []⟩, limit, depth⟩ tree after := by
  intro accepted
  have aheadEq : [] = tree.yield ++ after.cursor.ahead := accepted.reads.ahead_eq
  exact accepted.derives.yield_ne_nil (List.append_eq_nil_iff.mp aheadEq.symm).1

end Factors

/-! ### The rules -/

section Factors

variable {passed ahead : List Token} {limit depth bound : Nat} {tree : Tree} {after : State}

theorem factorWithin_group_eq_ok_iff
    (insideExact : Exact bound .expression (expressionWithin bound (factorWithin bound)))
    (withinBound : ahead.length ≤ bound) :
    factorWithin (bound + 1) ⟨⟨passed, .openParen :: ahead⟩, limit, depth⟩ = .ok tree after ↔
      Accepts .factor ⟨⟨passed, .openParen :: ahead⟩, limit, depth⟩ tree after := by
  have exact (inside : Tree) (final : State) (below : depth < limit) :=
    insideExact ⟨⟨.openParen :: passed, ahead⟩, limit, depth + 1⟩ inside final withinBound below
  rw [factorWithin_group, accepts_group_iff]
  simp only [bind_eq_ok_iff, pure_eq_ok_iff, groupAround_eq_ok_iff, deeper_eq_ok_iff]
  constructor
  · intro parts
    obtain ⟨inside, final, ⟨between, ⟨below, deepest, insideRead, rfl⟩, -, closeRead⟩, rfl,
      rfl⟩ := parts
    have accepted := (exact inside deepest below).mp insideRead
    exact ⟨inside, deepest, rfl, below, accepted, closeRead⟩
  · intro parts
    obtain ⟨inside, final, rfl, below, accepted, closeRead⟩ := parts
    have insideRead := (exact inside final below).mpr accepted
    exact ⟨inside, after, ⟨final.leave, ⟨below, final, insideRead, rfl⟩,
      closeRead.current?_eq, closeRead⟩, rfl, rfl⟩

theorem factorWithin_minus_eq_ok_iff (operandExact : Exact bound .factor (factorWithin bound))
    (takes : takesMinus ahead.head? = true) (withinBound : ahead.length ≤ bound) :
    factorWithin (bound + 1) ⟨⟨passed, .operator .subtract :: ahead⟩, limit, depth⟩ =
        .ok tree after ↔
      Accepts .factor ⟨⟨passed, .operator .subtract :: ahead⟩, limit, depth⟩ tree after := by
  have exact (operand : Tree) (final : State) (below : depth < limit) :=
    operandExact ⟨⟨.operator .subtract :: passed, ahead⟩, limit, depth + 1⟩ operand final
      withinBound below
  rw [factorWithin_minus takes, accepts_minus_iff takes]
  simp only [bind_eq_ok_iff, pure_eq_ok_iff, deeper_eq_ok_iff]
  constructor
  · intro parts
    obtain ⟨operand, between, ⟨below, final, operandRead, rfl⟩, rfl, rfl⟩ := parts
    have accepted := (exact operand final below).mp operandRead
    exact ⟨operand, final, rfl, below, accepted, rfl⟩
  · intro parts
    obtain ⟨operand, final, rfl, below, accepted, rfl⟩ := parts
    have operandRead := (exact operand final below).mpr accepted
    exact ⟨operand, final.leave, ⟨below, final, operandRead, rfl⟩, rfl, rfl⟩

end Factors

/-- Induction on the bound: what stands inside a group or under a minus sign is one
token further on. -/
theorem exact_factorWithin (bound : Nat) : Exact bound .factor (factorWithin bound) := by
  induction bound with
  | zero =>
      intro before tree after withinBound _
      rcases before with ⟨⟨passed, ahead⟩, limit, depth⟩
      obtain rfl : ahead = [] := List.length_eq_zero_iff.mp (Nat.le_zero.mp withinBound)
      rw [factorWithin_ended]
      exact ⟨nofun, fun accepted => absurd accepted not_accepts_ended⟩
  | succ bound inductionHypothesis =>
      intro before tree after withinBound withinLimit
      rcases before with ⟨⟨passed, ahead⟩, limit, depth⟩
      cases factorFront ahead with
      | number value ahead =>
          rw [factorWithin_number, accepts_number_iff withinLimit]
          simp [eq_comm]
      | group ahead =>
          have expressionExact :
              Exact bound .expression (expressionWithin bound (factorWithin bound)) :=
            exact_chainWithin .expression (exact_chainWithin .term inductionHypothesis)
          exact factorWithin_group_eq_ok_iff expressionExact
            (Nat.le_of_succ_le_succ withinBound)
      | minus takes =>
          exact factorWithin_minus_eq_ok_iff inductionHypothesis takes
            (Nat.le_of_succ_le_succ withinBound)
      | dangling takes =>
          rw [factorWithin_dangling takes]
          exact ⟨nofun, fun accepted => absurd accepted (not_accepts_dangling takes)⟩
      | misplaced ahead misplaced =>
          rw [factorWithin_misplaced misplaced]
          exact ⟨nofun, fun accepted => absurd accepted (not_accepts_misplaced misplaced)⟩
      | ended =>
          rw [factorWithin_ended]
          exact ⟨nofun, fun accepted => absurd accepted not_accepts_ended⟩

theorem exact_termWithin (bound : Nat) :
    Exact bound .term (termWithin bound (factorWithin bound)) :=
  exact_chainWithin .term (exact_factorWithin bound)

theorem exact_expressionWithin (bound : Nat) :
    Exact bound .expression (expressionWithin bound (factorWithin bound)) :=
  exact_chainWithin .expression (exact_termWithin bound)

end Parser

end Reckon
