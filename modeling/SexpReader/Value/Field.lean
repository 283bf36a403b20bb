/-
# Fields

The named parts of lexemes, nodes, kinds, numbers, error reports and objects of other classes.
Lexemes and nodes never change, so every attempt to set or remove a field of theirs is
refused, whether the field exists or not. Values of the built-in classes take no fields at
all, while error reports and objects of other classes can be given further ones.
-/

import SexpReader.Value.Equality
import SexpReader.Value.Fault
import SexpReader.Node.Depth

namespace SexpReader.Value

/-- A named part of a node. Only expressions have children; the depth is computed. -/
def nodeField (content : Node) (field : String) : Except Fault Value :=
  match field with
  | "kind" => .ok (nodeKind content.kind)
  | "value" => .ok (ofNodeContent content)
  | "children" =>
      match content with
      | .expression children => .ok (tuple (children.map node))
      | .symbol _ | .string _ => .error (.noChildren content.kind)
  | "depth" => .ok (int content.depth)
  | _ => .error (.noField "Node" field)

/-- A named part of a lexeme. -/
def lexemeField (token : Token) (position : Value) (field : String) : Except Fault Value :=
  match field with
  | "kind" => .ok (tokenKind token.kind)
  | "value" => .ok (ofTokenText token)
  | "position" => .ok position
  | _ => .error (.noField "Lexeme" field)

/-- A named part of a member of an enumeration. The name and the label are there with and
without underscores around them. Every member also leads to the members of its enumeration
by their names, so the sibling of the given name is passed along. -/
def memberField (enumeration name label : String) (sibling? : Option Value) (field : String) :
    Except Fault Value :=
  match field, sibling? with
  | "name", _ | "_name_", _ => .ok (text name)
  | "value", _ | "_value_", _ => .ok (text label)
  | _, some sibling => .ok sibling
  | _, none => .error (.noField enumeration field)

/-- A named part of a number, which is also a complex number and a fraction. -/
def numberField (className : String) (number : Int) (field : String) : Except Fault Value :=
  match field with
  | "real" | "numerator" => .ok (int number)
  | "imag" => .ok (int 0)
  | "denominator" => .ok (int 1)
  | _ => .error (.noField className field)

/-- The named parts of a report. Of the place in a file that the general kind can name,
nothing is known. -/
def reportFields (kind : ErrorKind) (message buffer position : Value) : List (String × Value) :=
  let content := reportContent message position
  [("message", message), ("position", position), ("msg", content), ("args", tuple [content])] ++
    (if kind.hasBuffer then [("buffer", buffer)] else []) ++
    ["filename", "lineno", "offset", "text", "end_lineno", "end_offset",
      "print_file_and_line"].map fun name => (name, absent)

/-- The field of a given name, for a value that has these fields and no others. -/
def fieldAmong (value : Value) (fields : List (String × Value)) (field : String) :
    Except Fault Value :=
  match fields.lookup field with
  | some content => .ok content
  | none => .error (value.lacks field)

/-- A named part of a value. -/
def field (value : Value) (field : String) : Except Fault Value :=
  match value with
  | node content => nodeField content field
  | lexeme token position => lexemeField token position field
  | tokenKind kind =>
      memberField value.className kind.name kind.label
        ((Token.Kind.ofName? field).map tokenKind) field
  | nodeKind kind =>
      memberField value.className kind.name kind.label
        ((Node.Kind.ofName? field).map nodeKind) field
  | report _ kind message buffer position =>
      value.fieldAmong (reportFields kind message buffer position) field
  | foreign _ fields _ => value.fieldAmong fields field
  | other =>
      match other.number? with
      | some number => numberField other.className number field
      | none => .error (.noField other.className field)

/-- A value with a further field. Lexemes and nodes never change, and the built-in classes know no
further fields. A report with such a field stays the same object and says the same, but it is no
longer known by its kind alone. -/
def withField (value : Value) (field : String) (content : Value) : Except Fault Value :=
  match value with
  | node _ | lexeme _ _ => .error (.fixedField field)
  | report serial kind message buffer position =>
      .ok (foreign
        { serial, className := kind.name, quoted := value.display, plain := value.asText }
        ((field, content) :: reportFields kind message buffer position) none)
  | foreign self fields items? => .ok (foreign self ((field, content) :: fields) items?)
  | other => .error (other.lacks field)

/-- Removing a field is refused. For reports and objects of other classes that goes for the
fields that they do not have. -/
def removeField (value : Value) (field : String) : Fault :=
  match value with
  | node _ | lexeme _ _ => .permanentField field
  | other => other.lacks field

end SexpReader.Value
