/-
# Checked construction

Lexemes and nodes from arbitrary values. The first fault is reported, in the order kind,
payload, leftmost child that is no node; the position of a lexeme is not looked at.
-/

import SexpReader.Value.Fault

namespace SexpReader.Value

/-- A lexeme of the given kind, value and position. -/
def makeLexeme (kind value position : Value) : Except Fault Value :=
  match kind with
  | tokenKind .symbol =>
      match value with
      | text content => .ok (lexeme (.symbol content) position)
      | _ => .error (.tokenNeedsText .symbol)
  | tokenKind .string =>
      match value with
      | text content => .ok (lexeme (.string content) position)
      | _ => .error (.tokenNeedsText .string)
  | tokenKind .openBracket =>
      match value with
      | absent => .ok (lexeme .openBracket position)
      | _ => .error (.tokenHasNoValue .openBracket)
  | tokenKind .closeBracket =>
      match value with
      | absent => .ok (lexeme .closeBracket position)
      | _ => .error (.tokenHasNoValue .closeBracket)
  | _ => .error (.unknownTokenKind kind)

/-- The nodes of a sequence of children, or the leftmost child that is none. -/
def childNodes (children : List Value) : Except Fault (List Node) :=
  children.mapM fun
    | node child => .ok child
    | other => .error (.childNoNode other)

/-- An expression of the given children. -/
def expressionOf (children : List Value) : Except Fault Node :=
  (childNodes children).map .expression

/-- A node of the given kind and value. The children of an expression may be a list or a
tuple. -/
def makeNode (kind value : Value) : Except Fault Node :=
  match kind with
  | nodeKind .symbol =>
      match value with
      | text content => .ok (.symbol content)
      | _ => .error (.nodeNeedsText .symbol)
  | nodeKind .string =>
      match value with
      | text content => .ok (.string content)
      | _ => .error (.nodeNeedsText .string)
  | nodeKind .expression =>
      match value with
      | list children | tuple children => expressionOf children
      | _ => .error (.childrenNoSequence value)
  | _ => .error (.unknownNodeKind kind)

/-- A symbol of the given text. -/
def makeSymbol (value : Value) : Except Fault Node :=
  makeNode (nodeKind .symbol) value

/-- A string of the given text. -/
def makeString (value : Value) : Except Fault Node :=
  makeNode (nodeKind .string) value

/-- An expression of the elements of a value, which may be anything that has elements. -/
def makeExpression (children : Value) : Except Fault Node := do
  makeNode (nodeKind .expression) (tuple (← children.elements))

/-- The kind of token that a value is or is the label of. -/
def lookupTokenKind (value : Value) : Except Fault Token.Kind :=
  match value with
  | tokenKind kind => .ok kind
  | text label =>
      match Token.Kind.ofLabel? label with
      | some kind => .ok kind
      | none => .error (.noSuchMember "LexemeKind" value)
  | _ => .error (.noSuchMember "LexemeKind" value)

/-- The kind of node that a value is or is the label of. -/
def lookupNodeKind (value : Value) : Except Fault Node.Kind :=
  match value with
  | nodeKind kind => .ok kind
  | text label =>
      match Node.Kind.ofLabel? label with
      | some kind => .ok kind
      | none => .error (.noSuchMember "NodeKind" value)
  | _ => .error (.noSuchMember "NodeKind" value)

end SexpReader.Value
