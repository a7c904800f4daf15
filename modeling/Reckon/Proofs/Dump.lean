import Reckon.Proofs.Decimal.Written
import Reckon.Proofs.Recursion
import Reckon.Tree.Lines
import Mathlib.Data.List.Forall2

/-!
Contract: the dump of a tree shows its shape and the texts of its labels, and nothing else.

A newline stands at the end of a line only, and a colon does not stand before the one that
follows the depth. So a text of lines can be divided again, and each line gives back a depth
and a text. Below a node stand exactly the lines that follow it at greater depth, up to the
first line that is not deeper.

Owns:
- the nodes of a tree in preorder, with their addresses;
- the lines of a dump, and the depth and the text told from a line;
- two trees with one dump have the same texts at the same addresses.

Does not own: which numbers have the same text.
-/

set_option autoImplicit false

namespace Reckon

namespace Tree

/-! ### Nodes in preorder -/

mutual
/-- Every node with its address, each node before its children. -/
def placed : Tree → List (List Nat × Tree)
  | node label children => ([], node label children) :: forestPlaced 0 children

/-- The nodes of the children from the given index on. -/
def forestPlaced (index : Nat) : List Tree → List (List Nat × Tree)
  | [] => []
  | tree :: trees =>
      (placed tree).map (fun entry => (index :: entry.1, entry.2)) ++
        forestPlaced (index + 1) trees
end

/-- The depth of a node is the length of its address. -/
theorem preorderAt_eq_map_placed (tree : Tree) : ∀ depth,
    preorderAt depth tree =
      (placed tree).map fun entry => (depth + entry.1.length, entry.2) := by
  induction tree with
  | node label children inductionHypothesis =>
      intro depth
      have forest : ∀ index, forestPreorderAt (depth + 1) children =
          (forestPlaced index children).map fun entry => (depth + entry.1.length, entry.2) := by
        induction children with
        | nil => exact fun _ => rfl
        | cons child children others =>
            intro index
            obtain ⟨first, behind⟩ := List.forall_mem_cons.mp inductionHypothesis
            rw [forestPreorderAt, forestPlaced, List.map_append, List.map_map, first,
              others behind (index + 1)]
            simp [Function.comp_def, Nat.add_assoc, Nat.add_comm 1]
      rw [preorderAt, placed, forest 0]
      rfl

theorem mem_forestPlaced_iff {trees : List Tree}
    (each : ∀ tree ∈ trees, ∀ address part,
      (address, part) ∈ placed tree ↔ tree.subtree? address = some part)
    {index : Nat} {address : List Nat} {part : Tree} :
    (address, part) ∈ forestPlaced index trees ↔
      ∃ offset rest, address = (index + offset) :: rest ∧
        trees[offset]?.bind (subtree? rest) = some part := by
  induction trees generalizing index with
  | nil => simp [forestPlaced]
  | cons tree trees inductionHypothesis =>
      obtain ⟨first, behind⟩ := List.forall_mem_cons.mp each
      rw [forestPlaced, List.mem_append, inductionHypothesis behind, List.mem_map]
      constructor
      · rintro (⟨⟨rest, found⟩, member, same⟩ | ⟨offset, rest, rfl, occurs⟩)
        · cases same
          exact ⟨0, rest, rfl, (first rest found).mp member⟩
        · exact ⟨offset + 1, rest, by rw [Nat.add_assoc, Nat.add_comm 1], occurs⟩
      · rintro ⟨_ | offset, rest, rfl, occurs⟩
        · exact .inl ⟨(rest, part), (first rest part).mpr occurs, rfl⟩
        · exact .inr ⟨offset, rest, by rw [Nat.add_assoc, Nat.add_comm 1], occurs⟩

theorem mem_placed_iff (tree : Tree) : ∀ address part,
    (address, part) ∈ placed tree ↔ tree.subtree? address = some part := by
  induction tree with
  | node label children inductionHypothesis =>
      intro address part
      rw [placed, List.mem_cons, mem_forestPlaced_iff inductionHypothesis]
      cases address with
      | nil => simp [subtree?, eq_comm]
      | cons index rest => simp [subtree?]

/-- Under a node, the addresses of a child come before those of the next one. -/
theorem ordered_placed (tree : Tree) :
    (placed tree).Pairwise fun earlier later => earlier.1 < later.1 := by
  induction tree with
  | node label children inductionHypothesis =>
      have forest : ∀ index, (forestPlaced index children).Pairwise
          fun earlier later => earlier.1 < later.1 := by
        induction children with
        | nil => exact fun _ => .nil
        | cons child children others =>
            intro index
            obtain ⟨first, behind⟩ := List.forall_mem_cons.mp inductionHypothesis
            rw [forestPlaced, List.pairwise_append, List.pairwise_map]
            refine ⟨first.imp fun before => .cons before, others behind (index + 1), ?_⟩
            rintro earlier inFirst ⟨address, part⟩ inOthers
            obtain ⟨entry, -, rfl⟩ := List.mem_map.mp inFirst
            obtain ⟨offset, rest, rfl, -⟩ :=
              (mem_forestPlaced_iff fun tree _ => mem_placed_iff tree).mp inOthers
            exact .rel (by omega)
      rw [placed, List.pairwise_cons]
      refine ⟨?_, forest 0⟩
      rintro ⟨address, part⟩ member
      obtain ⟨offset, rest, rfl, -⟩ :=
        (mem_forestPlaced_iff fun tree _ => mem_placed_iff tree).mp member
      exact .nil

theorem inPreorder_placed (tree : Tree) : tree.InPreorder (placed tree) :=
  ⟨mem_placed_iff tree, ordered_placed tree⟩

theorem length_preorderAt (tree : Tree) : ∀ depth,
    (preorderAt depth tree).length = tree.nodeCount := by
  induction tree with
  | node label children inductionHypothesis =>
      intro depth
      have forest : (forestPreorderAt (depth + 1) children).length = forestCount children := by
        induction children with
        | nil => rfl
        | cons child children others =>
            obtain ⟨first, behind⟩ := List.forall_mem_cons.mp inductionHypothesis
            rw [forestPreorderAt, List.length_append, first, others behind, forestCount]
      rw [preorderAt, List.length_cons, forest, nodeCount, Nat.add_comm]

end Tree

/-! ### Newlines -/

theorem newline_not_mem_numeralChars (value : Float) : '\n' ∉ numeralChars value := by
  have inMagnitude (pattern : Nat) : '\n' ∉ magnitudeChars pattern := by
    rw [magnitudeChars]
    split
    · intro member
      have run := (Decimal.numeral_toChars (Decimal.shortest pattern)).isRun
      exact absurd (run.2 _ member) (by decide)
    · decide
  rw [numeralChars]
  split
  · decide
  · split
    · exact List.not_mem_cons_of_ne_of_not_mem (by decide) (inMagnitude _)
    · exact inMagnitude _

theorem Token.newline_not_mem_text (token : Token) : '\n' ∉ token.text.toList := by
  cases token with
  | number value =>
      simp only [text, numeral, String.toList_append, String.toList_ofList, List.mem_append,
        not_or]
      exact ⟨⟨by decide, newline_not_mem_numeralChars value⟩, by decide⟩
  | operator symbol => cases symbol <;> decide
  | openParen => decide
  | closeParen => decide

theorem Label.newline_not_mem_text (label : Label) : '\n' ∉ label.text.toList := by
  cases label with
  | inner symbol => cases symbol <;> decide
  | leaf token => exact token.newline_not_mem_text

/-! ### Lines -/

/-- What stands before the first separator, and what stands behind it. -/
theorem append_separator_inj {separator : Char} {front front' back back' : List Char}
    (first : separator ∉ front) (first' : separator ∉ front')
    (same : front ++ separator :: back = front' ++ separator :: back') :
    front = front' ∧ back = back' := by
  rcases List.append_eq_append_iff.mp same with ⟨between, rfl, rest⟩ | ⟨between, rfl, rest⟩
  all_goals
    cases between with
    | nil => simpa [eq_comm] using rest
    | cons char between =>
        obtain ⟨rfl, -⟩ := List.cons.inj rest
        simp at first first'

/-- A line ends where the first newline stands. -/
theorem Text.HasLines.unique {text : String} {lines lines' : List String}
    (left : HasLines text lines) (right : HasLines text lines') : lines = lines' := by
  obtain ⟨rfl, whole⟩ := left
  obtain ⟨same, whole'⟩ := right
  have sameChars := congrArg String.toList same
  simp only [String.toList_join, List.flatMap_map, String.toList_append] at sameChars
  clear same
  induction lines generalizing lines' with
  | nil =>
      cases lines' with
      | nil => rfl
      | cons line lines' => simp at sameChars
  | cons line lines inductionHypothesis =>
      cases lines' with
      | nil => simp at sameChars
      | cons line' lines' =>
          obtain ⟨lineWhole, othersWhole⟩ := List.forall_mem_cons.mp whole
          obtain ⟨lineWhole', othersWhole'⟩ := List.forall_mem_cons.mp whole'
          rw [List.flatMap_cons, List.flatMap_cons, List.append_assoc, List.append_assoc]
            at sameChars
          obtain ⟨sameLine, sameOthers⟩ := append_separator_inj lineWhole lineWhole' sameChars
          rw [String.toList_injective sameLine,
            inductionHypothesis othersWhole othersWhole' sameOthers]

namespace Tree

variable {depth : Nat} {text : String}

theorem toList_lineText (depth : Nat) (text : String) :
    (lineText depth text).toList =
      (List.replicate (2 * depth) ' ' ++ Nat.toDigits 10 depth) ++ ':' :: ' ' :: text.toList := by
  simp [lineText, indent]

/-- Before its text, a line has spaces and digits only. -/
theorem not_mem_indented_toDigits {char : Char} (depth : Nat) (noSpace : char ≠ ' ')
    (noDigit : char.isDigit = false) :
    char ∉ List.replicate (2 * depth) ' ' ++ Nat.toDigits 10 depth := by
  intro member
  rcases List.mem_append.mp member with space | digit
  · exact noSpace (List.eq_of_mem_replicate space)
  · rw [Nat.isDigit_of_mem_toDigits (by decide) (Nat.le_refl 10) digit] at noDigit
    cases noDigit

theorem newline_not_mem_lineText (depth : Nat) (whole : '\n' ∉ text.toList) :
    '\n' ∉ (lineText depth text).toList := by
  rw [toList_lineText, List.mem_append, not_or]
  refine ⟨not_mem_indented_toDigits depth (by decide) (by decide), ?_⟩
  simp [whole]

/-- The first colon divides a line, and the digits before it tell the depth. -/
theorem lineText_inj {depth' : Nat} {text' : String}
    (same : lineText depth text = lineText depth' text') : depth = depth' ∧ text = text' := by
  have sameChars := congrArg String.toList same
  rw [toList_lineText, toList_lineText] at sameChars
  obtain ⟨sameFront, sameBack⟩ :=
    append_separator_inj (not_mem_indented_toDigits depth (by decide) (by decide))
      (not_mem_indented_toDigits depth' (by decide) (by decide)) sameChars
  have digits (depth : Nat) :
      (List.replicate (2 * depth) ' ' ++ Nat.toDigits 10 depth).filter Char.isDigit =
        Nat.toDigits 10 depth := by
    rw [List.filter_append, List.filter_replicate_of_neg (by decide), List.nil_append,
      List.filter_eq_self]
    exact fun char member => Nat.isDigit_of_mem_toDigits (by decide) (Nat.le_refl 10) member
  have sameDigits : Nat.toDigits 10 depth = Nat.toDigits 10 depth' := by
    rw [← digits depth, ← digits depth', sameFront]
  refine ⟨?_, String.toList_injective (List.cons.inj sameBack).2⟩
  rw [← Nat.ofDigitChars_ten_toDigits (n := depth), sameDigits, Nat.ofDigitChars_ten_toDigits]

/-! ### What a dump shows -/

/-- The depth of each node and the text of its label, in the order of the dump. -/
def shownAt (depth : Nat) (tree : Tree) : List (Nat × String) :=
  (preorderAt depth tree).map fun entry => (entry.1, entry.2.label.text)

theorem shownAt_node (depth : Nat) (label : Label) (children : List Tree) :
    shownAt depth (node label children) =
      (depth, label.text) :: children.flatMap (shownAt (depth + 1)) := by
  rw [shownAt, preorderAt, forestPreorderAt_eq_flatMap, List.map_cons, List.map_flatMap]
  rfl

theorem hasLines_dump (tree : Tree) :
    Text.HasLines tree.dump ((shownAt 0 tree).map fun shown => lineText shown.1 shown.2) where
  ended := by
    rw [shownAt, List.map_map, List.map_map]
    rfl
  whole := by
    rw [shownAt, List.map_map, List.forall_mem_map]
    intro entry _
    exact newline_not_mem_lineText entry.1 entry.2.label.newline_not_mem_text

theorem shownAt_eq_map_placed (tree : Tree) :
    shownAt 0 tree = (placed tree).map fun entry => (entry.1.length, entry.2.label.text) := by
  rw [shownAt, preorderAt_eq_map_placed, List.map_map]
  simp [Function.comp_def]

theorem dump_eq_iff_shownAt {left right : Tree} :
    left.dump = right.dump ↔ shownAt 0 left = shownAt 0 right := by
  constructor
  · intro same
    have lines := left.hasLines_dump
    rw [same] at lines
    have sameLines := lines.unique right.hasLines_dump
    refine (List.map_inj_right ?_).mp sameLines
    intro shown shown' sameLine
    obtain ⟨sameDepth, sameText⟩ := lineText_inj sameLine
    exact Prod.ext sameDepth sameText
  · intro same
    rw [left.hasLines_dump.ended, right.hasLines_dump.ended, same]

/-! ### Trees told apart -/

theorem forall₂_sameTexts_iff {lefts rights : List Tree} :
    List.Forall₂ SameTexts lefts rights ↔ ∀ (index : Nat) (address : List Nat),
      (lefts[index]?.bind (subtree? address)).map (fun part => part.label.text) =
        (rights[index]?.bind (subtree? address)).map (fun part => part.label.text) := by
  induction lefts generalizing rights with
  | nil =>
      cases rights with
      | nil => simp
      | cons right rights =>
          refine ⟨nofun, fun same => ?_⟩
          cases same 0 []
  | cons left lefts inductionHypothesis =>
      cases rights with
      | nil =>
          refine ⟨nofun, fun same => ?_⟩
          cases same 0 []
      | cons right rights =>
          rw [List.forall₂_cons, inductionHypothesis]
          constructor
          · rintro ⟨first, others⟩ (_ | index) address
            · exact first address
            · exact others index address
          · intro same
            exact ⟨fun address => same 0 address, fun index address => same (index + 1) address⟩

theorem sameTexts_node_iff {label label' : Label} {children children' : List Tree} :
    SameTexts (node label children) (node label' children') ↔
      label.text = label'.text ∧ List.Forall₂ SameTexts children children' := by
  rw [forall₂_sameTexts_iff]
  constructor
  · intro same
    exact ⟨Option.some.inj (same []), fun index address => same (index :: address)⟩
  · rintro ⟨sameText, below⟩ (_ | ⟨index, address⟩)
    · exact congrArg some sameText
    · exact below index address

theorem SameTexts.shownAt_eq {left right : Tree} (same : SameTexts left right) :
    ∀ depth, shownAt depth left = shownAt depth right := by
  induction left generalizing right with
  | node label children inductionHypothesis =>
      intro depth
      obtain ⟨label', children'⟩ := right
      obtain ⟨sameText, below⟩ := sameTexts_node_iff.mp same
      have sameBelow : children.flatMap (shownAt (depth + 1)) =
          children'.flatMap (shownAt (depth + 1)) := by
        clear same
        induction below with
        | nil => rfl
        | cons sameFirst _ others =>
            obtain ⟨first, behind⟩ := List.forall_mem_cons.mp inductionHypothesis
            rw [List.flatMap_cons, List.flatMap_cons, first sameFirst (depth + 1), others behind]
      rw [shownAt_node, shownAt_node, sameText, sameBelow]

/-- What follows the nodes of a tree at the given depth does not belong to it. -/
def Follows (depth : Nat) (rest : List (Nat × String)) : Prop :=
  ∀ shown ∈ rest.head?, shown.1 ≤ depth

theorem Follows.forest {rest : List (Nat × String)} (follows : Follows depth rest)
    (trees : List Tree) : Follows (depth + 1) (trees.flatMap (shownAt (depth + 1)) ++ rest) := by
  intro shown first
  cases trees with
  | nil => exact Nat.le_succ_of_le (follows shown first)
  | cons tree trees =>
      obtain ⟨label, children⟩ := tree
      rw [List.flatMap_cons, shownAt_node] at first
      cases first
      exact Nat.le_refl _

theorem not_follows_forest (tree : Tree) (trees : List Tree) (rest : List (Nat × String)) :
    ¬ Follows depth ((tree :: trees).flatMap (shownAt (depth + 1)) ++ rest) := by
  intro follows
  obtain ⟨label, children⟩ := tree
  rw [List.flatMap_cons, shownAt_node] at follows
  have tooDeep : depth + 1 ≤ depth := follows _ rfl
  omega

/-- Wherever the nodes of the tree are shown, the tree can be told from them, and they
from what follows. -/
def IsToldAt (depth : Nat) (tree : Tree) : Prop :=
  ∀ other rest rest', Follows depth rest → Follows depth rest' →
    shownAt depth tree ++ rest = shownAt depth other ++ rest' →
      SameTexts tree other ∧ rest = rest'

theorem forest_told {trees : List Tree} (told : ∀ tree ∈ trees, IsToldAt (depth + 1) tree) :
    ∀ others rest rest', Follows depth rest → Follows depth rest' →
      trees.flatMap (shownAt (depth + 1)) ++ rest = others.flatMap (shownAt (depth + 1)) ++ rest' →
        List.Forall₂ SameTexts trees others ∧ rest = rest' := by
  induction trees with
  | nil =>
      intro others rest rest' follows follows' same
      cases others with
      | nil => exact ⟨.nil, same⟩
      | cons other others =>
          rw [List.flatMap_nil, List.nil_append] at same
          rw [same] at follows
          exact absurd follows (not_follows_forest other others rest')
  | cons tree trees inductionHypothesis =>
      intro others rest rest' follows follows' same
      cases others with
      | nil =>
          rw [List.flatMap_nil, List.nil_append] at same
          rw [← same] at follows'
          exact absurd follows' (not_follows_forest tree trees rest)
      | cons other others =>
          obtain ⟨treeTold, treesTold⟩ := List.forall_mem_cons.mp told
          rw [List.flatMap_cons, List.flatMap_cons, List.append_assoc, List.append_assoc] at same
          obtain ⟨sameFirst, sameBehind⟩ :=
            treeTold other _ _ (follows.forest trees) (follows'.forest others) same
          obtain ⟨sameOthers, sameRest⟩ :=
            inductionHypothesis treesTold others rest rest' follows follows' sameBehind
          exact ⟨.cons sameFirst sameOthers, sameRest⟩

/-- Induction on the tree: the nodes below its root are the ones at greater depth. -/
theorem isToldAt (tree : Tree) : ∀ depth, IsToldAt depth tree := by
  induction tree with
  | node label children inductionHypothesis =>
      intro depth other rest rest' follows follows' same
      obtain ⟨label', children'⟩ := other
      rw [shownAt_node, shownAt_node] at same
      obtain ⟨sameShown, sameBehind⟩ := List.cons.inj same
      have told : ∀ child ∈ children, IsToldAt (depth + 1) child :=
        fun child member => inductionHypothesis child member (depth + 1)
      obtain ⟨below, sameRest⟩ := forest_told told children' rest rest' follows follows' sameBehind
      exact ⟨sameTexts_node_iff.mpr ⟨congrArg Prod.snd sameShown, below⟩, sameRest⟩

theorem shownAt_eq_iff {left right : Tree} :
    shownAt 0 left = shownAt 0 right ↔ left.SameTexts right := by
  constructor
  · intro same
    have ends : shownAt 0 left ++ [] = shownAt 0 right ++ [] := by rw [same]
    exact (left.isToldAt 0 right [] [] nofun nofun ends).1
  · exact fun same => same.shownAt_eq 0

/-- A dump has one line for each node, in preorder, and shows the shape of the tree and the
texts of its labels, so that two dumps are equal only if these are the same. -/
theorem dump_exact (tree : Tree) :
    (∃ nodes, tree.InPreorder nodes ∧ nodes.length = tree.nodeCount ∧
      Text.HasLines tree.dump
        (nodes.map fun entry => lineText entry.1.length entry.2.label.text)) ∧
      ∀ other : Tree, tree.dump = other.dump ↔ tree.SameTexts other := by
  constructor
  · refine ⟨placed tree, inPreorder_placed tree, ?_, ?_⟩
    · have length := length_preorderAt tree 0
      rwa [preorderAt_eq_map_placed, List.length_map] at length
    · have lines := tree.hasLines_dump
      rwa [shownAt_eq_map_placed, List.map_map] at lines
  · intro other
    rw [dump_eq_iff_shownAt, shownAt_eq_iff]

/-- Numbers with the same text are not told apart, whatever their bits. -/
example :
    let left : Tree := .terminal (.number (Float.ofBits 0x7FF8000000000000))
    let right : Tree := .terminal (.number (Float.ofBits 0x7FF8000000000001))
    left.dump = right.dump := by rfl

end Tree

end Reckon
