/-
# Composing source text from values

The source printer as one loop over a stack of rows of values. It asks a value for its kind and
for its content and looks at nothing else. Running out of a row yields the absent value, so an
absent value ends its row like the end itself. What is written are values; that all of them
are texts shows only where they are put together. The loop comes to an end because every round
takes away one of the visits that the rows still need.
-/

import SexpReader.Node.Printer
import SexpReader.Value.Field
import SexpReader.Value.Sequence

namespace SexpReader.Value

/-! ## The loop -/

/-- A row of values that is being written: the values still to come, and whether none is written
yet. -/
structure Row where
  remaining : List Value
  isFirst : Bool

/-- The next value of a row and those behind it. There is an absent value behind the last. -/
def next : List Value → Value × List Value
  | [] => (absent, [])
  | item :: rest => (item, rest)

/-- A value between double quotes. Only a text can have its quotes replaced; a field of that
name is no way to do it. -/
def quoted : Value → Except Fault Value
  | text content => .ok (text (Text.quote content))
  | other => do throw (.notCallable (← other.field "replace").className)

/-- Text in the making: the rows, innermost first, and the pieces that are written. -/
structure Composition where
  rows : List Row
  pieces : Array Value

namespace Composition

/-- Before the first round there is one row. -/
def initial (items : List Value) : Composition :=
  ⟨[⟨items, true⟩], #[]⟩

/-- The pieces with a separating space, unless the next value is the first of its row. -/
def separate (isFirst : Bool) (pieces : Array Value) : Array Value :=
  if isFirst then pieces else pieces.push (text " ")

/-- Write the content of a value that is there. An expression starts a row, a string is quoted,
and anything else is written as it is. -/
def writeContent (kind content : Value) (below : List Row) (pieces : Array Value) :
    Except Fault Composition :=
  match kind with
  | nodeKind .expression => do
      return ⟨⟨← content.elements, true⟩ :: below, pieces.push (text "(")⟩
  | nodeKind .string => do return ⟨below, pieces.push (← content.quoted)⟩
  | _ => .ok ⟨below, pieces.push content⟩

/-- Write a value that is there. -/
def writeItem (item : Value) (below : List Row) (pieces : Array Value) :
    Except Fault Composition := do
  let kind ← item.field "kind"
  writeContent kind (← item.field "value") below pieces

/-- One round over the innermost row. An absent value ends the row, and all rows but the
outermost one are closed by a bracket. -/
def round (row : Row) (outer : List Row) (pieces : Array Value) : Except Fault Composition :=
  match next row.remaining with
  | (absent, _) => .ok ⟨outer, if outer.isEmpty then pieces else pieces.push (text ")")⟩
  | (item, rest) => writeItem item (⟨rest, false⟩ :: outer) (separate row.isFirst pieces)

end Composition

/-! ## Visits -/

mutual

/-- The number of visits that writing a value takes. -/
def visits : Value → Nat
  | node tree => tree.visits
  | foreign _ fields _ => 2 + visitsOfFields fields
  | _ => 1

/-- The number of visits that writing the elements of a value takes. -/
def visitsWithin : Value → Nat
  | list items | tuple items => visitsOfAll items
  | text content => content.length
  | labelled _ _ => 1
  | foreign _ _ (some items) => visitsOfAll items
  | _ => 0

/-- The number of visits that writing a sequence of values takes. -/
def visitsOfAll : List Value → Nat
  | [] => 0
  | value :: values => visits value + visitsOfAll values

/-- A bound for the elements of any one of the fields. -/
def visitsOfFields : List (String × Value) → Nat
  | [] => 0
  | (_, content) :: fields => visitsWithin content + visitsOfFields fields

end

theorem visitsOfAll_ofChars (chars : List Char) :
    visitsOfAll (ofChars chars) = chars.length := by
  induction chars with
  | nil => rfl
  | cons c chars ih =>
      have hcons : ofChars (c :: chars) = text (String.singleton c) :: ofChars chars := rfl
      have hone : visits (text (String.singleton c)) = 1 := by simp [visits]
      rw [hcons, visitsOfAll, ih, hone, List.length_cons, Nat.add_comm]

theorem visitsOfAll_map_node (nodes : List Node) :
    visitsOfAll (nodes.map node) = Node.visitsAll nodes := by
  induction nodes with
  | nil => rfl
  | cons tree nodes ih => rw [List.map_cons, visitsOfAll, ih, visits, Node.visitsAll]

theorem visitsOfAll_of_elements? {value : Value} {items : List Value}
    (h : value.elements? = some items) : visitsOfAll items = visitsWithin value := by
  cases value with
  | list _ | tuple _ | foreign _ _ _ =>
      cases h
      rw [visitsWithin]
  | text content =>
      cases h
      rw [visitsOfAll_ofChars, visitsWithin, String.length]
  | labelled _ _ =>
      cases h
      rfl
  | _ => cases h

theorem visitsWithin_le_visitsOfFields {fields : List (String × Value)} {field : String}
    {content : Value} (h : fields.lookup field = some content) :
    visitsWithin content ≤ visitsOfFields fields := by
  induction fields with
  | nil => cases h
  | cons first fields ih =>
      obtain ⟨name, found⟩ := first
      rw [List.lookup_cons] at h
      rw [visitsOfFields]
      split at h
      · cases h
        exact Nat.le_add_right _ _
      · exact Nat.le_trans (ih h) (Nat.le_add_left _ _)

theorem visits_pos (value : Value) : 0 < value.visits := by
  cases value with
  | node tree =>
      rw [visits]
      cases tree with
      | symbol _ | string _ => simp [Node.visits]
      | expression children =>
          rw [Node.visits]
          omega
  | foreign _ _ _ =>
      rw [visits]
      omega
  | _ => simp [visits]

/-- A value of the kind of expressions has two visits beside those of its elements. -/
theorem visitsWithin_lt_visits {value content : Value}
    (hkind : value.field "kind" = .ok (nodeKind .expression))
    (hcontent : value.field "value" = .ok content) :
    visitsWithin content + 2 ≤ visits value := by
  cases value with
  | node tree =>
      cases tree with
      | symbol _ | string _ => cases hkind
      | expression children =>
          cases hcontent
          rw [ofNodeContent, visitsWithin, visitsOfAll_map_node, visits, Node.visits]
          omega
  | foreign self fields items? =>
      rw [field, fieldAmong] at hcontent
      cases hfound : fields.lookup "value" with
      | none =>
          rw [hfound] at hcontent
          cases hcontent
      | some found =>
          rw [hfound] at hcontent
          cases hcontent
          have hle := visitsWithin_le_visitsOfFields hfound
          rw [visits]
          omega
  | report _ kind _ _ _ => cases kind <;> cases hkind
  | _ => cases hkind

/-! ## Running the loop -/

namespace Composition

/-- The visits that a stack of rows still takes. -/
def workload : List Row → Nat
  | [] => 0
  | row :: outer => 1 + visitsOfAll row.remaining + workload outer

/-- What is written adds a piece, or opens a row of the elements of an expression. -/
theorem writeContent_cases {kind content : Value} {below : List Row} {pieces : Array Value}
    {after : Composition} (h : writeContent kind content below pieces = .ok after) :
    after.rows = below ∨ kind = nodeKind .expression ∧
      ∃ items, content.elements? = some items ∧ after.rows = ⟨items, true⟩ :: below := by
  unfold writeContent at h
  split at h
  · rw [elements] at h
    cases hitems : content.elements? with
    | none =>
        rw [hitems] at h
        cases h
    | some items =>
        rw [hitems] at h
        cases h
        exact Or.inr ⟨rfl, items, rfl, rfl⟩
  · cases hquoted : content.quoted with
    | error fault =>
        rw [hquoted] at h
        cases h
    | ok piece =>
        rw [hquoted] at h
        cases h
        exact Or.inl rfl
  · cases h
    exact Or.inl rfl

theorem writeItem_cases {item : Value} {below : List Row} {pieces : Array Value}
    {after : Composition} (h : writeItem item below pieces = .ok after) :
    after.rows = below ∨ item.field "kind" = .ok (nodeKind .expression) ∧
      ∃ content items, item.field "value" = .ok content ∧ content.elements? = some items ∧
        after.rows = ⟨items, true⟩ :: below := by
  rw [writeItem] at h
  cases hkind : item.field "kind" with
  | error fault =>
      rw [hkind] at h
      cases h
  | ok kind =>
      cases hcontent : item.field "value" with
      | error fault =>
          rw [hkind, hcontent] at h
          cases h
      | ok content =>
          rw [hkind, hcontent] at h
          rcases writeContent_cases h with hkept | ⟨rfl, items, hitems, hopened⟩
          · exact Or.inl hkept
          · exact Or.inr ⟨rfl, content, items, rfl, hitems, hopened⟩

theorem workload_writeItem {item : Value} {below : List Row} {pieces : Array Value}
    {after : Composition} (h : writeItem item below pieces = .ok after) :
    workload after.rows < visits item + workload below := by
  rcases writeItem_cases h with hkept | ⟨hkind, content, items, hcontent, hitems, hopened⟩
  · have hpos := item.visits_pos
    rw [hkept]
    omega
  · have hlt := visitsWithin_lt_visits hkind hcontent
    rw [hopened, workload, visitsOfAll_of_elements? hitems]
    omega

theorem round_item {item : Value} (h : item.isAbsent = false) (rest : List Value)
    (isFirst : Bool) (outer : List Row) (pieces : Array Value) :
    round ⟨item :: rest, isFirst⟩ outer pieces =
      writeItem item (⟨rest, false⟩ :: outer) (separate isFirst pieces) := by
  cases item with
  | absent => cases h
  | _ => rfl

theorem rows_of_round_absent {item : Value} (h : item.isAbsent = true) {rest : List Value}
    {isFirst : Bool} {outer : List Row} {pieces : Array Value} {after : Composition}
    (hround : round ⟨item :: rest, isFirst⟩ outer pieces = .ok after) : after.rows = outer := by
  cases item with
  | absent =>
      cases hround
      rfl
  | _ => cases h

/-- A round takes away one visit at least. -/
theorem workload_round {row : Row} {outer : List Row} {pieces : Array Value}
    {after : Composition} (h : round row outer pieces = .ok after) :
    workload after.rows < workload (row :: outer) := by
  obtain ⟨remaining, isFirst⟩ := row
  cases remaining with
  | nil =>
      cases h
      show workload outer < 1 + 0 + workload outer
      omega
  | cons item rest =>
      rw [workload, visitsOfAll]
      cases habsent : item.isAbsent with
      | true =>
          rw [rows_of_round_absent habsent h]
          omega
      | false =>
          rw [round_item habsent] at h
          have hwritten : workload after.rows <
              visits item + (1 + visitsOfAll rest + workload outer) := workload_writeItem h
          omega

/-- Go through all rounds and put the pieces together, unless a round is refused. -/
def run (composition : Composition) : Except Fault String :=
  match composition with
  | ⟨[], pieces⟩ => joinPieces pieces.toList
  | ⟨row :: outer, pieces⟩ =>
      match _hround : round row outer pieces with
      | .ok after => run after
      | .error fault => .error fault
termination_by workload composition.rows
decreasing_by exact workload_round _hround

end Composition

end SexpReader.Value
