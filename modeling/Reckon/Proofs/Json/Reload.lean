import Reckon.Json.Medium
import Reckon.Tree.Codec
import Reckon.Tree.Finite

/-!
Contract: tokens and trees written as JSON and read again.

Owns:
- the JSON form of a token and of a tree is writable, whatever its numbers;
- it is read back as the same token or tree, or refused for a number that is not
  finite.

Does not own: how JSON values of other forms are read.
-/

set_option autoImplicit false

namespace Reckon

/-! ### Finite trees -/

namespace Tree

theorem forestPreorderAt_eq_flatMap (depth : Nat) (trees : List Tree) :
    forestPreorderAt depth trees = trees.flatMap (preorderAt depth) := by
  induction trees with
  | nil => rfl
  | cons tree trees inductionHypothesis =>
      rw [forestPreorderAt, inductionHypothesis, List.flatMap_cons]

/-- Which nodes a tree has does not depend on the depth at which it stands. -/
theorem map_snd_preorderAt (tree : Tree) : ∀ depth depth' : Nat,
    (preorderAt depth tree).map Prod.snd = (preorderAt depth' tree).map Prod.snd := by
  induction tree with
  | node label children inductionHypothesis =>
      intro depth depth'
      have others : ∀ child ∈ children,
          (preorderAt (depth + 1) child).map Prod.snd =
            (preorderAt (depth' + 1) child).map Prod.snd := by
        intro child member
        exact inductionHypothesis child member (depth + 1) (depth' + 1)
      simp only [preorderAt, forestPreorderAt_eq_flatMap, List.map_cons, List.map_flatMap]
      rw [List.flatMap_def, List.flatMap_def, List.map_congr_left others]

theorem isFinite_iff_preorderAt (depth : Nat) (tree : Tree) :
    tree.IsFinite ↔ ∀ entry ∈ preorderAt depth tree, entry.2.label.IsFinite := by
  have moved : ∀ depth : Nat, (∀ entry ∈ preorderAt depth tree, entry.2.label.IsFinite) ↔
      ∀ node ∈ (preorderAt depth tree).map Prod.snd, node.label.IsFinite := by
    intro depth
    rw [List.forall_mem_map]
  rw [IsFinite, preorder, moved, moved, map_snd_preorderAt tree 0 depth]

theorem isFinite_node (label : Label) (children : List Tree) :
    (node label children).IsFinite ↔
      label.IsFinite ∧ ∀ child ∈ children, child.IsFinite := by
  rw [isFinite_iff_preorderAt 0, preorderAt, forestPreorderAt_eq_flatMap,
    List.forall_mem_cons, List.forall_mem_flatMap]
  simp only [← isFinite_iff_preorderAt]
  rfl

end Tree

/-! ### Writing -/

theorem numberToJson_writable (value : Float) : (numberToJson value).Writable := by
  unfold numberToJson
  split
  · assumption
  · trivial

namespace Json

@[simp] theorem writable_string (value : String) : (string value).Writable := trivial

theorem writable_tagged (name : String) {content : Json} (writable : content.Writable) :
    (tagged name content).Writable := by
  simp [tagged, Writable, FieldsWritable, writable]

theorem itemsWritable_iff (items : List Json) :
    ItemsWritable items ↔ ∀ item ∈ items, item.Writable := by
  induction items with
  | nil => simp [ItemsWritable]
  | cons item items inductionHypothesis =>
      rw [ItemsWritable, inductionHypothesis, List.forall_mem_cons]

end Json

theorem Token.toJson_writable (token : Token) : token.toJson.Writable := by
  cases token with
  | number value => exact Json.writable_tagged _ (numberToJson_writable value)
  | operator symbol => exact Json.writable_tagged _ (Json.writable_string _)
  | openParen => exact Json.writable_string _
  | closeParen => exact Json.writable_string _

theorem Label.toJson_writable (label : Label) : label.toJson.Writable := by
  cases label with
  | inner symbol => exact Json.writable_tagged _ (Json.writable_string _)
  | leaf token => exact Json.writable_tagged _ token.toJson_writable

namespace Tree

theorem forestToJson_eq_map (trees : List Tree) : forestToJson trees = trees.map toJson := by
  induction trees with
  | nil => rfl
  | cons tree trees inductionHypothesis =>
      rw [forestToJson, inductionHypothesis, List.map_cons]

theorem toJson_writable (tree : Tree) : tree.toJson.Writable := by
  induction tree with
  | node label children inductionHypothesis =>
      rw [toJson, forestToJson_eq_map]
      cases children with
      | nil => simp [childrenField, Json.Writable, Json.FieldsWritable, label.toJson_writable]
      | cons first others =>
          have items : Json.ItemsWritable ((first :: others).map toJson) := by
            rw [Json.itemsWritable_iff, List.forall_mem_map]
            exact inductionHypothesis
          simp only [List.map_cons] at items
          simp [childrenField, Json.Writable, Json.FieldsWritable, label.toJson_writable, items]

end Tree

/-! ### Reading -/

theorem Operator.ofJson?_toJson (operator : Operator) :
    ofJson? operator.toJson = some operator := by
  cases operator <;> rfl

theorem Symbol.ofJson?_toJson (symbol : Symbol) : ofJson? symbol.toJson = some symbol := by
  cases symbol <;> rfl

theorem numberOfJson?_numberToJson (value found : Float) :
    numberOfJson? (numberToJson value) = some found ↔
      Binary64.finite value = true ∧ found = value := by
  unfold numberToJson
  split
  case isTrue finite => simp [numberOfJson?, finite, eq_comm]
  case isFalse infinite => simp [numberOfJson?, infinite]

section Constructors

variable {α β γ : Type} {read : Option α} {condition : Prop} {content : α}

/-- A constructor is read back under the condition under which its content is. -/
theorem map_eq_some_iff_of_content (construct : α → β)
    (reads : ∀ found, read = some found ↔ condition ∧ found = content) (found : β) :
    read.map construct = some found ↔ condition ∧ found = construct content := by
  rw [Option.map_eq_some_iff]
  constructor
  · rintro ⟨inside, readInside, rfl⟩
    obtain ⟨holds, rfl⟩ := (reads inside).mp readInside
    exact ⟨holds, rfl⟩
  · rintro ⟨holds, rfl⟩
    exact ⟨content, (reads content).mpr ⟨holds, rfl⟩, rfl⟩

/-- A constructor of two contents, the second read only after the first. -/
theorem bind_eq_some_iff_of_contents {read' : Option β} {condition' : Prop} {content' : β}
    (construct : α → β → γ)
    (reads : ∀ found, read = some found ↔ condition ∧ found = content)
    (reads' : ∀ found, read' = some found ↔ condition' ∧ found = content') (found : γ) :
    (read.bind fun first => read'.bind fun second => some (construct first second)) =
        some found ↔
      (condition ∧ condition') ∧ found = construct content content' := by
  simp only [Option.bind_eq_some_iff, Option.some.injEq]
  constructor
  · rintro ⟨first, readFirst, second, readSecond, rfl⟩
    obtain ⟨holds, rfl⟩ := (reads first).mp readFirst
    obtain ⟨holds', rfl⟩ := (reads' second).mp readSecond
    exact ⟨⟨holds, holds'⟩, rfl⟩
  · rintro ⟨⟨holds, holds'⟩, rfl⟩
    exact ⟨content, (reads content).mpr ⟨holds, rfl⟩,
      content', (reads' content').mpr ⟨holds', rfl⟩, rfl⟩

end Constructors

theorem Token.ofJson?_toJson (token found : Token) :
    ofJson? token.toJson = some found ↔ token.IsFinite ∧ found = token := by
  cases token with
  | number value =>
      by_cases finite : Binary64.finite value = true
      · have written : numberToJson value = .real value := if_pos finite
        have content := numberOfJson?_numberToJson value
        rw [written] at content
        rw [toJson, written]
        exact map_eq_some_iff_of_content number content found
      · -- A null in the place of the content is not taken for content at all.
        have written : numberToJson value = .null := if_neg finite
        rw [toJson, written]
        show ofBareName? "Number" = some found ↔ _
        simp [ofBareName?, IsFinite, finite]
  | operator symbol =>
      show (Operator.ofJson? symbol.toJson).map operator = some found ↔ _
      rw [Operator.ofJson?_toJson]
      simp [IsFinite, eq_comm]
  | openParen => simp [toJson, ofJson?, Json.bareName?, ofBareName?, IsFinite, eq_comm]
  | closeParen => simp [toJson, ofJson?, Json.bareName?, ofBareName?, IsFinite, eq_comm]

theorem Label.ofJson?_toJson (label found : Label) :
    ofJson? label.toJson = some found ↔ label.IsFinite ∧ found = label := by
  cases label with
  | inner symbol =>
      show (Symbol.ofJson? symbol.toJson).map inner = some found ↔ _
      rw [Symbol.ofJson?_toJson]
      simp [IsFinite, eq_comm]
  | leaf token => exact map_eq_some_iff_of_content leaf token.ofJson?_toJson found

namespace Tree

theorem ofJson?_toJson_node (label : Label) (children : List Tree) :
    ofJson? (toJson (node label children)) =
      (Label.ofJson? label.toJson).bind fun label =>
        (forestOfJson? (children.map toJson)).bind fun children => some (node label children) := by
  rw [toJson, forestToJson_eq_map]
  cases children.map toJson <;> rfl

theorem forestOfJson?_map_toJson (trees : List Tree)
    (reads : ∀ tree ∈ trees, ∀ found,
      ofJson? tree.toJson = some found ↔ tree.IsFinite ∧ found = tree) :
    ∀ found, forestOfJson? (trees.map toJson) = some found ↔
      (∀ tree ∈ trees, tree.IsFinite) ∧ found = trees := by
  induction trees with
  | nil => simp [forestOfJson?, eq_comm]
  | cons tree trees inductionHypothesis =>
      obtain ⟨front, behind⟩ := List.forall_mem_cons.mp reads
      rw [List.forall_mem_cons]
      exact bind_eq_some_iff_of_contents List.cons front (inductionHypothesis behind)

theorem ofJson?_toJson (tree : Tree) : ∀ found : Tree,
    ofJson? tree.toJson = some found ↔ tree.IsFinite ∧ found = tree := by
  induction tree with
  | node label children inductionHypothesis =>
      rw [ofJson?_toJson_node, isFinite_node]
      exact bind_eq_some_iff_of_contents node label.ofJson?_toJson
        (forestOfJson?_map_toJson children inductionHypothesis)

end Tree

/-! ### Reloading -/

variable {Text : Type}

/-- In every medium, a tree and a token are read back exactly as they were, unless a
number in them is not finite; then nothing is read back. -/
theorem reload_eq_some_iff (medium : Json.Medium Text) :
    (∀ tree found : Tree, medium.reload Tree.toJson Tree.ofJson? tree = some found ↔
        tree.IsFinite ∧ found = tree) ∧
      ∀ token found : Token, medium.reload Token.toJson Token.ofJson? token = some found ↔
        token.IsFinite ∧ found = token := by
  constructor
  · intro tree found
    rw [Json.Medium.reload, medium.read_write _ tree.toJson_writable]
    exact tree.ofJson?_toJson found
  · intro token found
    rw [Json.Medium.reload, medium.read_write _ token.toJson_writable]
    exact token.ofJson?_toJson found

/-- Two levels down, below a token with a child, a zero keeps its sign, and an infinite
number leaves nothing to read back. -/
theorem reload_number_below_token :
    let tree (value : Float) : Tree :=
      .node (.inner .negative)
        [.node (.leaf (.operator .add)) [.terminal (.number value)], .terminal .closeParen]
    Json.Medium.direct.reload Tree.toJson Tree.ofJson? (tree (-0.0)) = some (tree (-0.0)) ∧
      Json.Medium.direct.reload Tree.toJson Tree.ofJson? (tree (1 / 0)) = none := by
  intro tree
  have isFinite_iff : ∀ value, (tree value).IsFinite ↔ Binary64.finite value = true := by
    intro value
    simp [tree, Tree.isFinite_node, Tree.terminal, Label.IsFinite, Token.IsFinite]
  have zeroFinite : Binary64.finite (-0.0) = true := by decide +kernel
  have infinite : ¬ Binary64.finite (1 / 0) = true := by decide +kernel
  have reads := (reload_eq_some_iff Json.Medium.direct).1
  constructor
  · exact (reads _ _).mpr ⟨(isFinite_iff _).mpr zeroFinite, rfl⟩
  · apply Option.eq_none_iff_forall_ne_some.mpr
    intro found readBack
    exact infinite ((isFinite_iff _).mp ((reads _ _).mp readBack).1)

end Reckon
