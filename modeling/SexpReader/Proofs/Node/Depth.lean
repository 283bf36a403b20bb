/-
# Depth and brackets

The depth of a program, computed over a worklist on the finished trees, is the greatest
number of brackets that are open at any point of its lexemes. Both are compared with the
nesting that is defined by recursion on trees. For the worklist it matters that a leaf does
not reach its own level, which its parent has counted already. For the brackets, the
greatest height of a concatenation comes from the heights of its parts.
-/

import Mathlib.Data.List.Forall2
import Mathlib.Order.Bounds.Image
import SexpReader.Node.Depth
import SexpReader.Proofs.Node.RoundTrip

namespace SexpReader

namespace Node

/-! ## The worklist -/

/-- The greatest number of brackets around anything in the nodes of a worklist. A leaf
counts for nothing. -/
def reach : List (Node × Nat) → Nat
  | [] => 0
  | (node, level) :: pending =>
      max (if node.nesting = 0 then 0 else level + node.nesting) (reach pending)

/-- A level that is counted anyway may be filled with any nodes. -/
theorem max_reach_pushLevel (level : Nat) (nodes : List Node) (pending : List (Node × Nat)) :
    max level (reach (pushLevel level nodes pending)) =
      max (level + nestingAll nodes) (reach pending) := by
  induction nodes generalizing pending with
  | nil => rfl
  | cons node nodes ih =>
      have hrest := ih ((node, level) :: pending)
      have hpush : pushLevel level (node :: nodes) pending =
          pushLevel level nodes ((node, level) :: pending) := rfl
      rw [hpush, hrest, reach, nestingAll]
      split <;> omega

/-- Working through the nodes that wait finds the greatest level among them. -/
theorem deepest_eq_max_reach (pending : List (Node × Nat)) (best : Nat) :
    deepest pending best = max best (reach pending) := by
  fun_induction deepest pending best with
  | case1 best => rw [reach, Nat.max_zero]
  | case2 text level pending best ih => simp [ih, reach, nesting]
  | case3 text level pending best ih => simp [ih, reach, nesting]
  | case4 children level pending best ih =>
      have hlevel := max_reach_pushLevel (level + 1) children pending
      have hreach : reach ((expression children, level) :: pending) =
          max (level + (1 + nestingAll children)) (reach pending) := by
        rw [reach, nesting, if_neg (by omega)]
      -- The level of the children is counted with their parent.
      rw [ih, hreach]
      omega

theorem depth_eq_nesting (node : Node) : node.depth = node.nesting := by
  rw [depth, deepest_eq_max_reach, reach, reach]
  split <;> omega

/-! ## The recursion -/

/-- A measure of nodes that obeys the recursion of depth: none for leaves, one for an
expression without children, and for any other one more than the greatest of its children. -/
structure IsDepth (measure : Node → Nat) : Prop where
  symbol : ∀ text, measure (.symbol text) = 0
  string : ∀ text, measure (.string text) = 0
  childless : measure (.expression []) = 1
  nested : ∀ children greatest, (children.map measure).max? = some greatest →
    measure (.expression children) = 1 + greatest

theorem max?_map_nesting (node : Node) (nodes : List Node) :
    ((node :: nodes).map nesting).max? = some (nestingAll (node :: nodes)) := by
  induction nodes generalizing node with
  | nil =>
      rw [nestingAll, nestingAll, Nat.max_zero]
      rfl
  | cons next nodes ih =>
      rw [List.map_cons, List.max?_cons, ih next, nestingAll]
      rfl

theorem isDepth_nesting : IsDepth nesting where
  symbol _ := by rw [nesting]
  string _ := by rw [nesting]
  childless := by rw [nesting, nestingAll]
  nested := by
    intro children greatest hgreatest
    cases children with
    | nil => cases hgreatest
    | cons child children =>
        rw [max?_map_nesting] at hgreatest
        rw [nesting, Option.some.inj hgreatest]

mutual

theorem IsDepth.eq_nesting {measure : Node → Nat} (h : IsDepth measure) (node : Node) :
    measure node = node.nesting := by
  match node with
  | .symbol text => rw [h.symbol, nesting]
  | .string text => rw [h.string, nesting]
  | .expression [] => rw [h.childless, nesting, nestingAll]
  | .expression (child :: children) =>
      have hgreatest := max?_map_nesting child children
      rw [← h.map_eq_map_nesting (child :: children)] at hgreatest
      rw [h.nested _ _ hgreatest, nesting]

theorem IsDepth.map_eq_map_nesting {measure : Node → Nat} (h : IsDepth measure)
    (nodes : List Node) : nodes.map measure = nodes.map nesting := by
  match nodes with
  | [] => rfl
  | node :: nodes =>
      rw [List.map_cons, List.map_cons, h.eq_nesting node, h.map_eq_map_nesting nodes]

end

/-- The depth that is computed over the worklist obeys the recursion, and nothing else does. -/
theorem isDepth_iff {measure : Node → Nat} : IsDepth measure ↔ measure = depth := by
  have hdepth : depth = nesting := by
    funext node
    exact node.depth_eq_nesting
  rw [hdepth]
  constructor
  · intro h
    funext node
    exact h.eq_nesting node
  · rintro rfl
    exact isDepth_nesting

end Node

/-- The depth of the deepest node of a program, zero for none. -/
def depthAll (program : Program) : Nat :=
  (program.map Node.depth).foldr max 0

theorem depthAll_eq_nestingAll (program : Program) :
    depthAll program = Node.nestingAll program := by
  induction program with
  | nil => rfl
  | cons node nodes ih =>
      rw [Node.nestingAll, ← ih, ← Node.depth_eq_nesting]
      rfl

/-! ## Heights -/

/-- The number of open brackets less the number of close brackets. -/
def bracketHeight (tokens : List Token) : Int :=
  opens tokens - closes tokens

/-- The heights that a sequence goes through, one behind each of its prefixes. -/
def prefixHeights (tokens : List Token) : Set Int :=
  {level | ∃ front, front <+: tokens ∧ bracketHeight front = level}

@[simp]
theorem bracketHeight_append (first second : List Token) :
    bracketHeight (first ++ second) = bracketHeight first + bracketHeight second := by
  simp only [bracketHeight, opens_append, closes_append]
  omega

theorem IsBalanced.bracketHeight_eq_zero {tokens : List Token} (h : IsBalanced tokens) :
    bracketHeight tokens = 0 := by
  rw [bracketHeight, h.opens_eq_closes, Int.sub_self]

theorem prefixHeights_nil : prefixHeights [] = {0} := by
  ext level
  constructor
  · rintro ⟨front, hfront, rfl⟩
    rw [List.prefix_nil.1 hfront]
    rfl
  · rintro rfl
    exact ⟨[], List.prefix_rfl, rfl⟩

/-- The second part of a concatenation starts at the height where the first one ends. -/
theorem prefixHeights_append (first second : List Token) :
    prefixHeights (first ++ second) =
      prefixHeights first ∪ (bracketHeight first + ·) '' prefixHeights second := by
  ext level
  constructor
  · rintro ⟨front, hfront, rfl⟩
    rcases List.prefix_or_prefix_of_prefix hfront (List.prefix_append first second) with
      hinside | ⟨more, rfl⟩
    · exact Or.inl ⟨front, hinside, rfl⟩
    · have hmore := (List.prefix_append_right_inj first).1 hfront
      exact Or.inr
        ⟨bracketHeight more, ⟨more, hmore, rfl⟩, (bracketHeight_append first more).symm⟩
  · rintro (⟨front, hfront, rfl⟩ | ⟨_, ⟨more, hmore, rfl⟩, rfl⟩)
    · exact ⟨front, List.prefix_append_of_prefix hfront, rfl⟩
    · have hfront := (List.prefix_append_right_inj first).2 hmore
      exact ⟨first ++ more, hfront, bracketHeight_append first more⟩

theorem isGreatest_prefixHeights_append {first second : List Token} {m n : Int}
    (hfirst : IsGreatest (prefixHeights first) m)
    (hsecond : IsGreatest (prefixHeights second) n) :
    IsGreatest (prefixHeights (first ++ second)) (max m (bracketHeight first + n)) := by
  have hmono : Monotone (bracketHeight first + · : Int → Int) := by
    intro low high hle
    exact Int.add_le_add_left hle (bracketHeight first)
  rw [prefixHeights_append]
  exact hfirst.union (hmono.map_isGreatest hsecond)

/-- One token starts at height zero and ends at its own. -/
theorem isGreatest_prefixHeights_singleton (token : Token) :
    IsGreatest (prefixHeights [token]) (max 0 (bracketHeight [token])) := by
  have hprefixes : prefixHeights [token] = {0, bracketHeight [token]} := by
    ext level
    constructor
    · rintro ⟨front, hfront, rfl⟩
      rcases List.prefix_cons_iff.1 hfront with rfl | ⟨rest, rfl, hrest⟩
      · exact Or.inl rfl
      · rw [List.prefix_nil.1 hrest]
        exact Or.inr rfl
    · rintro (rfl | rfl)
      · exact ⟨[], List.nil_prefix, rfl⟩
      · exact ⟨[token], List.prefix_rfl, rfl⟩
  rw [hprefixes]
  exact isGreatest_pair

/-- Brackets lift what is between them by one. -/
theorem isGreatest_prefixHeights_bracketed {inner : List Token} {n : Nat}
    (hbalanced : IsBalanced inner) (h : IsGreatest (prefixHeights inner) n) :
    IsGreatest (prefixHeights (.openBracket :: inner ++ [.closeBracket])) (1 + n : Nat) := by
  have hopen := isGreatest_prefixHeights_singleton .openBracket
  have hclose := isGreatest_prefixHeights_singleton .closeBracket
  have hwhole := isGreatest_prefixHeights_append (isGreatest_prefixHeights_append hopen h) hclose
  have hmax : max (max (max 0 (bracketHeight [.openBracket])) (bracketHeight [.openBracket] + n))
      (bracketHeight ([.openBracket] ++ inner) + max 0 (bracketHeight [.closeBracket])) =
        (1 + n : Nat) := by
    have hup : bracketHeight [.openBracket] = 1 := rfl
    have hdown : bracketHeight [.closeBracket] = -1 := rfl
    rw [bracketHeight_append, hbalanced.bracketHeight_eq_zero, hup, hdown]
    omega
  rw [hmax] at hwhole
  exact hwhole

mutual

theorem Node.isGreatest_prefixHeights (node : Node) :
    IsGreatest (prefixHeights node.flatten) node.nesting := by
  match node with
  | .symbol text =>
      rw [Node.flatten, Node.nesting]
      exact isGreatest_prefixHeights_singleton (.symbol text)
  | .string text =>
      rw [Node.flatten, Node.nesting]
      exact isGreatest_prefixHeights_singleton (.string text)
  | .expression children =>
      rw [Node.flatten, Node.nesting]
      apply isGreatest_prefixHeights_bracketed (isBalanced_flatten children)
      exact isGreatest_prefixHeights_flatten children

/-- The heights of the tokens of a program go up to its nesting. -/
theorem isGreatest_prefixHeights_flatten (program : Program) :
    IsGreatest (prefixHeights (flatten program)) (Node.nestingAll program) := by
  match program with
  | [] =>
      rw [flatten, prefixHeights_nil]
      exact isGreatest_singleton
  | node :: nodes =>
      have hnode := node.isGreatest_prefixHeights
      have hrest := isGreatest_prefixHeights_flatten nodes
      have hwhole := isGreatest_prefixHeights_append hnode hrest
      have hmax : max (node.nesting : Int) (bracketHeight node.flatten + Node.nestingAll nodes) =
          (max node.nesting (Node.nestingAll nodes) : Nat) := by
        rw [node.isBalanced_flatten.bracketHeight_eq_zero]
        omega
      rw [hmax] at hwhole
      rw [flatten, Node.nestingAll]
      exact hwhole

end

/-! ## Depth by counting brackets -/

variable {ρ : Type}

/-- The depth of a program is the greatest height of the lexemes that it was built from, and
the lexemes fall into one part for each node of which the same holds. -/
structure DepthIsHeight (lexemes : List (Lexeme ρ)) (program : Program) : Prop where
  whole : IsGreatest (prefixHeights (lexemes.map Lexeme.token)) (depthAll program)
  parts : ∃ parts : List (List (Lexeme ρ)), parts.flatten = lexemes ∧
    List.Forall₂ (fun part node => parse part = .ok [node] ∧
      IsGreatest (prefixHeights (part.map Lexeme.token)) node.depth) parts program

/-- The tokens of a program come in one part for each node. -/
theorem exists_parts (program : Program) {lexemes : List (Lexeme ρ)}
    (h : lexemes.map Lexeme.token = flatten program) :
    ∃ parts : List (List (Lexeme ρ)), parts.flatten = lexemes ∧
      List.Forall₂ (fun part node => part.map Lexeme.token = node.flatten) parts program := by
  induction program generalizing lexemes with
  | nil =>
      rw [List.map_eq_nil_iff.1 h]
      exact ⟨[], rfl, List.Forall₂.nil⟩
  | cons node nodes ih =>
      rw [flatten] at h
      obtain ⟨first, rest, rfl, hfirst, hrest⟩ := List.map_eq_append_iff.1 h
      obtain ⟨parts, rfl, hparts⟩ := ih hrest
      exact ⟨first :: parts, rfl, List.Forall₂.cons hfirst hparts⟩

theorem DepthIsHeight.of_parse {lexemes : List (Lexeme ρ)} {program : Program}
    (h : parse lexemes = .ok program) : DepthIsHeight lexemes program where
  whole := by
    rw [flatten_of_parse h, depthAll_eq_nestingAll]
    exact isGreatest_prefixHeights_flatten program
  parts := by
    obtain ⟨parts, hwhole, hparts⟩ := exists_parts program (flatten_of_parse h)
    refine ⟨parts, hwhole, hparts.imp ?_⟩
    intro part node hpart
    constructor
    · apply parse_of_flatten
      simpa [flatten] using hpart
    · rw [hpart, node.depth_eq_nesting]
      exact node.isGreatest_prefixHeights

/-- The depth of a program that a text stands for, or that is built from a balanced
sequence of lexemes, is found by counting the brackets of the lexemes from the left. The
same holds of each node and the lexemes that it was built from. -/
theorem depth_isHeight :
    (∀ source program, read source = .ok program →
        ∃ lexemes, tokenize source = .ok lexemes ∧ DepthIsHeight lexemes program) ∧
      ∀ lexemes : List (Lexeme ρ), IsBalanced (lexemes.map Lexeme.token) →
        ∃ program, parse lexemes = .ok program ∧ DepthIsHeight lexemes program := by
  constructor
  · intro source program hread
    obtain ⟨lexemes, htokenize, hparse⟩ := read_eq_ok_iff.1 hread
    exact ⟨lexemes, htokenize, DepthIsHeight.of_parse hparse⟩
  · intro lexemes hbalanced
    obtain ⟨program, hparse, -⟩ := (parse_outcome lexemes).exists_program hbalanced
    exact ⟨program, hparse, DepthIsHeight.of_parse hparse⟩

/-- Brackets in a string and in a comment do not count, and a balanced sequence may be put
together by hand. -/
theorem depth_isHeight_of_hidden_brackets :
    read "(a (\"((\")) ;((\n()" =
        .ok [.expression [.symbol "a", .expression [.string "(("]], .expression []] ∧
      (∃ lexemes, tokenize "(a (\"((\")) ;((\n()" = .ok lexemes ∧
        DepthIsHeight lexemes
          [.expression [.symbol "a", .expression [.string "(("]], .expression []]) ∧
      IsBalanced ([⟨.openBracket, ()⟩, ⟨.closeBracket, ()⟩].map Lexeme.token) ∧
      ∃ program, parse [⟨.openBracket, ()⟩, ⟨.closeBracket, ()⟩] = .ok program ∧
        DepthIsHeight [⟨.openBracket, ()⟩, ⟨.closeBracket, ()⟩] program := by
  have hread : read "(a (\"((\")) ;((\n()" =
      .ok [.expression [.symbol "a", .expression [.string "(("]], .expression []] := by cbv
  have hbalanced : IsBalanced ([⟨.openBracket, ()⟩, ⟨.closeBracket, ()⟩].map Lexeme.token) :=
    IsBalanced.nil.bracketed
  obtain ⟨hsource, hlexemes⟩ := depth_isHeight
  exact ⟨hread, hsource _ _ hread, hbalanced, hlexemes _ hbalanced⟩

end SexpReader
