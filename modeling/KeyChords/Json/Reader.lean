import KeyChords.Json.Token

/-! # Reading JSON5

The reader takes one token at a time and keeps the lists and objects that are still open on a stack.
A key that comes a second time gives its new value to the first place; one comma may follow the last
item of a list or the last field of an object.
-/

namespace KeyChords.Json

open KeyChords.Text

/-- **What is open around the place of reading**: a list with its items so far, or an object with
its fields so far and the key whose value is read. -/
inductive Frame where
  | list (items : List Document)
  | member (fields : Fields (List CodePoint)) (key : List CodePoint)

/-- **Where the reader stands**, between two tokens. -/
inductive Reading where
  | beforeValue (stack : List Frame)
  /-- Inside a list, before an item or the end. -/
  | beforeItem (items : List Document) (stack : List Frame)
  /-- Inside a list, behind an item. -/
  | afterItem (items : List Document) (stack : List Frame)
  /-- Inside an object, before a key or the end. -/
  | beforeKey (fields : Fields (List CodePoint)) (stack : List Frame)
  | afterKey (fields : Fields (List CodePoint)) (key : List CodePoint) (stack : List Frame)
  /-- Inside an object, behind a field. -/
  | afterField (fields : Fields (List CodePoint)) (stack : List Frame)
  | done (document : Document)

namespace Reading

/-- Puts a value where the innermost frame wants it. -/
def place (value : Document) : List Frame → Reading
  | [] => .done value
  | .list items :: stack => .afterItem (items ++ [value]) stack
  | .member fields key :: stack => .afterField (fields.put key value) stack

/-- Begins a value, which goes on top of a stack. -/
def begin (stack : List Frame) : Token → Except SyntaxFault Reading
  | .openList => .ok (.beforeItem [] stack)
  | .openObject => .ok (.beforeKey [] stack)
  | .text content => .ok (place (.str content) stack)
  | .bare word =>
    match bareValue? word with
    | some value => .ok (place value stack)
    | none => .error .unexpected
  | _ => .error .unexpected

/-- **Reads one token.** -/
def step : Reading → Token → Except SyntaxFault Reading
  | .beforeValue stack, token => begin stack token
  | .beforeItem items stack, .closeList => .ok (place (.list items) stack)
  | .beforeItem items stack, token => begin (.list items :: stack) token
  | .afterItem items stack, .comma => .ok (.beforeItem items stack)
  | .afterItem items stack, .closeList => .ok (place (.list items) stack)
  | .beforeKey fields stack, .closeObject => .ok (place (.object fields) stack)
  | .beforeKey fields stack, .text content => .ok (.afterKey fields content stack)
  | .beforeKey fields stack, .bare word =>
    match bareKey? word with
    | some key => .ok (.afterKey fields key stack)
    | none => .error .unexpected
  | .afterKey fields key stack, .colon => .ok (.beforeValue (.member fields key :: stack))
  | .afterField fields stack, .comma => .ok (.beforeKey fields stack)
  | .afterField fields stack, .closeObject => .ok (place (.object fields) stack)
  | _, _ => .error .unexpected

/-- The document, when it is complete. -/
def result : Reading → Except SyntaxFault Document
  | .done document => .ok document
  | _ => .error .unfinished

/-- Reads tokens, up to the first that is out of place. -/
def run (reading : Reading) : List Token → Except SyntaxFault Reading
  | [] => .ok reading
  | token :: rest =>
    match reading.step token with
    | .ok next => next.run rest
    | .error fault => .error fault

end Reading

/-- **The value that a JSON5 document spells.** -/
def Document.read (text : String) : Except SyntaxFault Document :=
  match tokens text.toList with
  | .error fault => .error fault
  | .ok sequence =>
    match (Reading.beforeValue []).run sequence with
    | .ok final => final.result
    | .error fault => .error fault

end KeyChords.Json
