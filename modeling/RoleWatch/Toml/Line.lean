import RoleWatch.Toml.Scalar
import RoleWatch.Toml.Table
import RoleWatch.Toml.Token

/-!
The lines of a document: headers, and keys with their values. Tokens are read one at a time. The
values that are still open are kept in a stack, so a list inside a list needs no recursion and
the depth of the stack is the depth of the value.
-/
namespace RoleWatch.Toml

/-- A line of a document; a value may go on over several lines of the text. -/
inductive Line where
  | table (path : KeyPath)
  | item (path : KeyPath)
  | pair (path : KeyPath) (value : Value)

namespace Line

inductive Place where
  | table
  | item
  | line
  | entry (held : Section)

inductive Frame where
  | line (path : KeyPath)
  | list (items : List Value)
  | table (held : Section) (path : KeyPath)

inductive Point where
  | fresh
  | bracketed
  | key (place : Place) (path : List String)
  | keyed (place : Place) (path : List String)
  | unbracketed (path : List String)
  | ended
  | value
  | scalar (read : List Char)
  /-- A date and a space have been read, and a time of day may come. -/
  | dated (read : List Char)
  | item (items : List Value)
  | listed (items : List Value)
  | entry (held : Section)
  | entered (held : Section)

/-- What has been read of a line: the values that are open, the innermost first, and the point. -/
structure Reader where
  frames : List Frame
  point : Point

abbrev Step := Except Fault (Reader × List Line)

def greatestDepth : Nat := 80

def move (frames : List Frame) (point : Point) : Step := .ok (⟨frames, point⟩, [])

def pathOf : List String → Except Fault KeyPath
  | [] => .error .place
  | last :: front => .ok (front.reverse, last)

def isKeyChar (c : Char) : Bool := c.isAlphanum || c = '_' || c = '-'

def keyOf : Token → Except Fault String
  | .word cs => if cs.all isKeyChar then .ok (String.ofList cs) else .error .key
  | .text content false => .ok content
  | .text _ true => .error .key
  | _ => .error .place

def readKey (frames : List Frame) (place : Place) (path : List String) (token : Token) :
    Step := do
  move frames (.keyed place ((← keyOf token) :: path))

def complete (value : Value) : List Frame → Step
  | .line path :: frames => .ok (⟨frames, .ended⟩, [.pair path value])
  | .list items :: frames => move frames (.listed (value :: items))
  | .table held path :: frames => do move frames (.entered (← assign path value held))
  | [] => .error .place

def beginValue (frames : List Frame) : Token → Step
  | .word cs => move frames (.scalar cs.reverse)
  | .dot => move frames (.scalar ['.'])
  | .text content _ => complete (.text content) frames
  | .bracket => if frames.length ≤ greatestDepth then move frames (.item []) else .error .depth
  | .brace =>
    if frames.length ≤ greatestDepth then move frames (.entry (.braces, [])) else .error .depth
  | _ => .error .place

def afterValue (r : Reader) (token : Token) : Step :=
  match r.point, token with
  | .ended, .blank _ | .listed _, .blank _ | .entered _, .blank _
  | .listed _, .newline | .entered _, .newline => move r.frames r.point
  | .ended, .newline => move r.frames .fresh
  | .listed items, .comma => move r.frames (.item items)
  | .listed items, .unbracket => complete (.list items.reverse) r.frames
  | .entered held, .comma => move r.frames (.entry held)
  | .entered held, .unbrace => complete (.table held.1 held.2) r.frames
  | _, _ => .error .place

def endScalar (frames : List Frame) (read : List Char) : Step := do
  complete (← Scalar.ofChars read.reverse) frames

/-- Reads a token that ends a value without quotes. -/
def afterScalar (frames : List Frame) (read : List Char) (token : Token) : Step := do
  let (r, lines) ← endScalar frames read
  let (r, more) ← afterValue r token
  return (r, lines ++ more)

def afterKey (frames : List Frame) (place : Place) (path : List String) (token : Token) : Step :=
  match token, place with
  | .blank _, _ => move frames (.keyed place path)
  | .dot, _ => move frames (.key place path)
  | .equals, .line => do move (.line (← pathOf path) :: frames) .value
  | .equals, .entry held => do move (.table held (← pathOf path) :: frames) .value
  | .unbracket, .table => do return (⟨frames, .ended⟩, [.table (← pathOf path)])
  | .unbracket, .item => move frames (.unbracketed path)
  | _, _ => .error .place

def step (r : Reader) (token : Token) : Step :=
  let frames := r.frames
  match r.point, token with
  | .fresh, .blank _ | .fresh, .newline | .key _ _, .blank _ | .value, .blank _
  | .item _, .blank _ | .item _, .newline | .entry _, .blank _ | .entry _, .newline =>
    move frames r.point
  | .fresh, .bracket => move frames .bracketed
  | .fresh, token => readKey frames .line [] token
  | .bracketed, .bracket => move frames (.key .item [])
  | .bracketed, .blank _ => move frames (.key .table [])
  | .bracketed, token => readKey frames .table [] token
  | .key place path, token => readKey frames place path token
  | .keyed place path, token => afterKey frames place path token
  | .unbracketed path, .unbracket => do return (⟨frames, .ended⟩, [.item (← pathOf path)])
  | .unbracketed _, _ => .error .place
  | .value, token => beginValue frames token
  | .scalar read, .word cs => move frames (.scalar (cs.reverse ++ read))
  | .scalar read, .dot => move frames (.scalar ('.' :: read))
  | .scalar read, token =>
    if token = .blank ' ' ∧ Scalar.isDate read.reverse then move frames (.dated read)
    else afterScalar frames read token
  | .dated read, .word cs => move frames (.scalar (cs.reverse ++ ' ' :: read))
  | .dated read, token => afterScalar frames read token
  | .item items, .unbracket => complete (.list items.reverse) frames
  | .item items, token => beginValue (.list items :: frames) token
  | .entry held, .unbrace => complete (.table held.1 held.2) frames
  | .entry held, token => readKey frames (.entry held) [] token
  | .ended, token | .listed _, token | .entered _, token => afterValue r token

def finish (r : Reader) : Except Fault (List Line) := do
  let (r, lines) ← match r.point with
    | .scalar read | .dated read => endScalar r.frames read
    | _ => move r.frames r.point
  match r.point with
  | .fresh | .ended => return lines
  | _ => throw .place

def ofTokens (tokens : List Token) : Except Fault (List Line) := do
  let next (reached : Reader × List Line) (token : Token) : Step := do
    let (r, lines) ← step reached.1 token
    return (r, lines.reverse ++ reached.2)
  let (r, lines) ← tokens.foldlM next (⟨[], .fresh⟩, [])
  return lines.reverse ++ (← finish r)

end Line

end RoleWatch.Toml
