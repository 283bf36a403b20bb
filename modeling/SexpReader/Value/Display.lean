/-
# Showing values

The form of a value in a message that quotes it, and its form where a message takes it in
as text. They differ for texts, which are quoted only in the first, for the members of
enumerations, and for error reports.
-/

import SexpReader.Value
import SexpReader.Diagnostic
import SexpReader.Text.Literal

namespace SexpReader.Value

/-- Parts in brackets with a comma and a space between neighbours. -/
def bracketed (opening closing : String) (parts : List String) : String :=
  opening ++ String.intercalate ", " parts ++ closing

/-- A tuple in round brackets. A single part is followed by a comma. -/
def tupleText : List String → String
  | [part] => "(" ++ part ++ ",)"
  | parts => bracketed "(" ")" parts

/-- A member of an enumeration with its label. -/
def memberText (enumeration name label : String) : String :=
  "<" ++ enumeration ++ "." ++ name ++ ": " ++ Text.literal label ++ ">"

/-- A kind of token as a message shows it. -/
def displayTokenKind (kind : Token.Kind) : String :=
  memberText "LexemeKind" kind.name kind.label

/-- A kind of node as a message shows it. -/
def displayNodeKind (kind : Node.Kind) : String :=
  memberText "NodeKind" kind.name kind.label

/-- A node with its content in the form given. -/
def nodeText (kind : Node.Kind) (content : String) : String :=
  "Node(kind=" ++ displayNodeKind kind ++ ", value=" ++ content ++ ")"

mutual

/-- A node as a message shows it. -/
def displayNode : Node → String
  | .symbol content => nodeText .symbol (Text.literal content)
  | .string content => nodeText .string (Text.literal content)
  | .expression children => nodeText .expression (tupleText (displayNodes children))

/-- The nodes of a sequence as a message shows them. -/
def displayNodes : List Node → List String
  | [] => []
  | tree :: trees => displayNode tree :: displayNodes trees

end

/-- The text of a token as a message shows it. -/
def displayTokenText (token : Token) : String :=
  match token.text? with
  | some content => Text.literal content
  | none => "None"

/-- The two forms that a value takes inside a message. -/
inductive Form
  | quoted
  | plain
  deriving DecidableEq, Repr

/-- A member of an enumeration: its name alone in plain form, with the label otherwise. -/
def memberForm (form : Form) (enumeration name label : String) : String :=
  match form with
  | .quoted => memberText enumeration name label
  | .plain => enumeration ++ "." ++ name

/-- A report in quoted form is its kind with what it says in brackets. It says its message,
as the value that it is, or the text of its message with an offset. -/
def reportForm (form : Form) (kind : ErrorKind) (quotedMessage message : String)
    (offset? : Option String) : String :=
  match form with
  | .plain => withOffset message offset?
  | .quoted =>
      match offset? with
      | none => kind.name ++ "(" ++ quotedMessage ++ ")"
      | some offset => kind.name ++ "(" ++ Text.literal (withOffset message (some offset)) ++ ")"

mutual

/-- A value in a given form. What it holds is always quoted, except in a report. -/
def render (form : Form) : Value → String
  | absent => "None"
  | bool true => "True"
  | bool false => "False"
  | int number => toString number
  | text content =>
      match form with
      | .quoted => Text.literal content
      | .plain => content
  | list items => bracketed "[" "]" (renderAll items)
  | tuple items => tupleText (renderAll items)
  | tokenKind kind => memberForm form "LexemeKind" kind.name kind.label
  | nodeKind kind => memberForm form "NodeKind" kind.name kind.label
  | lexeme token position =>
      "Lexeme(kind=" ++ displayTokenKind token.kind ++ ", value=" ++ displayTokenText token ++
        ", position=" ++ render .quoted position ++ ")"
  | node tree => displayNode tree
  | labelled label content =>
      "\x7b" ++ Text.literal label ++ ": " ++ render .quoted content ++ "\x7d"
  | report _ kind message _ position =>
      reportForm form kind (render .quoted message) (render .plain message)
        (if position.isAbsent then none else some (render .plain position))
  | foreign self _ _ =>
      match form with
      | .quoted => self.quoted
      | .plain => self.plain

/-- The values of a sequence, each quoted. -/
def renderAll : List Value → List String
  | [] => []
  | value :: values => render .quoted value :: renderAll values

end

/-- A value as a message quotes it. -/
def display (value : Value) : String :=
  value.render .quoted

/-- A value as a message takes it in: a text as it is, a kind by its name alone, a report by
what it says. -/
def asText (value : Value) : String :=
  value.render .plain

/-- How a position is written behind a message; an absent one is not written. -/
def offsetText? (position : Value) : Option String :=
  if position.isAbsent then none else some position.asText

/-- What a report says: its message, as the value that it is, or the text of its message
with an offset. -/
def reportContent (message position : Value) : Value :=
  match position.offsetText? with
  | none => message
  | some offset => text (withOffset message.asText (some offset))

theorem render_report (form : Form) (serial : Nat) (kind : ErrorKind)
    (message buffer position : Value) :
    render form (report serial kind message buffer position) =
      reportForm form kind message.display message.asText position.offsetText? := rfl

theorem display_text (content : String) : (text content).display = Text.literal content := rfl

theorem asText_text (content : String) : (text content).asText = content := rfl

/-- A report is quoted as its kind with what it says, quoted in its turn. -/
theorem display_report (serial : Nat) (kind : ErrorKind) (message buffer position : Value) :
    (report serial kind message buffer position).display =
      kind.name ++ "(" ++ (reportContent message position).display ++ ")" := by
  rw [display, render_report, reportContent]
  cases position.offsetText? with
  | none => rfl
  | some offset => rw [display_text, reportForm]

/-- A report is taken in as what it says. -/
theorem asText_report (serial : Nat) (kind : ErrorKind) (message buffer position : Value) :
    (report serial kind message buffer position).asText =
      (reportContent message position).asText := by
  rw [asText, render_report, reportContent]
  cases position.offsetText? with
  | none => rfl
  | some offset => rw [asText_text, reportForm]

end SexpReader.Value
