import RoleWatch.Text.Blank
import RoleWatch.Toml.Fault

/-!
The tokens of a document. A text is read one character at a time; the state between two
characters says what is being read, so the whole scan is a fold and reading can stop and go on
anywhere. Comments leave no token, blanks and line ends do.
-/
namespace RoleWatch.Toml

inductive Token where
  | blank (char : Char)
  | newline
  /-- Characters without a mark of their own: a bare key, or a piece of a value. -/
  | word (chars : List Char)
  | text (content : String) (lines : Bool)
  | dot
  | equals
  | comma
  | bracket
  | unbracket
  | brace
  | unbrace
  deriving DecidableEq

namespace Token

def ofMark? : Char → Option Token
  | ' ' => some (.blank ' ')
  | '\t' => some (.blank '\t')
  | '\n' => some .newline
  | '.' => some .dot
  | '=' => some .equals
  | ',' => some .comma
  | '[' => some .bracket
  | ']' => some .unbracket
  | '\x7b' => some .brace
  | '\x7d' => some .unbrace
  | _ => none

structure Draft where
  mark : Char
  lines : Bool
  read : List Char

def Draft.add (d : Draft) (c : Char) : Draft := { d with read := c :: d.read }

def Draft.token (d : Draft) : Token := .text (String.ofList d.read.reverse) d.lines

inductive State where
  | free
  | word (read : List Char)
  | comment
  | opened (mark : Char) (again : Bool)
  | start (draft : Draft)
  | inside (draft : Draft)
  /-- Quotation marks in a text of many lines, which may be closing it. -/
  | closing (draft : Draft) (marks : Nat)
  | escape (draft : Draft)
  | code (draft : Draft) (left value : Nat)
  /-- What follows a backslash at the end of a line. -/
  | splice (draft : Draft) (broken : Bool)

abbrev Step := Except Fault (State × List Token)

/-- Whether a control character stands where only tabs may. -/
def isControl (c : Char) : Bool := (c.toNat < 0x20 && c ≠ '\t') || c.toNat = 0x7f

def ofFree (c : Char) : State × List Token :=
  match ofMark? c with
  | some token => (.free, [token])
  | none =>
    if c = '#' then (.comment, [])
    else if c = '"' ∨ c = '\'' then (.opened c false, [])
    else (.word [c], [])

def after (token : Token) (c : Char) : State × List Token :=
  let (state, tokens) := ofFree c
  (state, token :: tokens)

def escaped? : Char → Option Char
  | 'b' => some '\x08'
  | 't' => some '\t'
  | 'n' => some '\n'
  | 'f' => some '\x0c'
  | 'r' => some '\r'
  | 'e' => some '\x1b'
  | '"' => some '"'
  | '\\' => some '\\'
  | _ => none

def codeWidth? : Char → Option Nat
  | 'x' => some 2
  | 'u' => some 4
  | 'U' => some 8
  | _ => none

def digitValue? (base : Nat) (c : Char) : Option Nat :=
  let value? :=
    if c.isDigit then some (c.toNat - '0'.toNat)
    else if 'a' ≤ c ∧ c ≤ 'f' then some (c.toNat - 'a'.toNat + 10)
    else if 'A' ≤ c ∧ c ≤ 'F' then some (c.toNat - 'A'.toNat + 10)
    else none
  value?.filter (· < base)

def ofInside (d : Draft) (c : Char) : Step :=
  if c = d.mark then
    if d.lines then .ok (.closing d 1, []) else .ok (.free, [d.token])
  else if c = '\\' ∧ d.mark = '"' then .ok (.escape d, [])
  else if c = '\n' then
    if d.lines then .ok (.inside (d.add c), []) else .error .openText
  else if isControl c then .error .control
  else .ok (.inside (d.add c), [])

def ofEscape (d : Draft) (c : Char) : Step :=
  match escaped? c, codeWidth? c with
  | some stands, _ => .ok (.inside (d.add stands), [])
  | none, some width => .ok (.code d width 0, [])
  | none, none =>
    if d.lines ∧ (c = ' ' ∨ c = '\t' ∨ c = '\n') then .ok (.splice d (c = '\n'), [])
    else .error .escape

def ofCode (d : Draft) (left value : Nat) (c : Char) : Step :=
  match digitValue? 16 c with
  | none => .error .escape
  | some digit =>
    let value := value * 16 + digit
    if 1 < left then .ok (.code d (left - 1) value, [])
    else if value.isValidChar then .ok (.inside (d.add (Char.ofNat value)), [])
    else .error .escape

def step : State → Char → Step
  | .free, c => .ok (ofFree c)
  | .word read, c =>
    if (ofMark? c).isSome ∨ c = '#' then .ok (after (.word read.reverse) c)
    else .ok (.word (c :: read), [])
  | .comment, c =>
    if c = '\n' then .ok (.free, [.newline])
    else if isControl c then .error .control
    else .ok (.comment, [])
  | .opened mark again, c =>
    if c = mark then
      .ok (if again then .start ⟨mark, true, []⟩ else .opened mark true, [])
    else if again then .ok (after (.text "" false) c)
    else ofInside ⟨mark, false, []⟩ c
  | .start d, c => if c = '\n' then .ok (.inside d, []) else ofInside d c
  | .inside d, c => ofInside d c
  | .closing d marks, c =>
    if c = d.mark then
      if marks < 5 then .ok (.closing (if marks < 3 then d else d.add c) (marks + 1), [])
      else .error .place
    else if marks < 3 then ofInside { d with read := List.replicate marks d.mark ++ d.read } c
    else .ok (after d.token c)
  | .escape d, c => ofEscape d c
  | .code d left value, c => ofCode d left value c
  | .splice d broken, c =>
    if c = ' ' ∨ c = '\t' then .ok (.splice d broken, [])
    else if c = '\n' then .ok (.splice d true, [])
    else if broken then ofInside d c
    else .error .escape

def finish : State → Except Fault (List Token)
  | .free | .comment => .ok []
  | .word read => .ok [.word read.reverse]
  | .opened _ true => .ok [.text "" false]
  | .closing d marks => if marks < 3 then .error .openText else .ok [d.token]
  | .opened _ false | .start _ | .inside _ | .escape _ | .code _ _ _ | .splice _ _ =>
    .error .openText

def scan (cs : List Char) : Except Fault (List Token) := do
  let next (reached : State × List Token) (c : Char) : Step := do
    let (state, tokens) ← step reached.1 c
    return (state, tokens.reverse ++ reached.2)
  let (state, tokens) ← cs.foldlM next (.free, [])
  return tokens.reverse ++ (← finish state)

/-- Ends every line by a line feed alone; a carriage return elsewhere stays. -/
def plainLines : List Char → List Char
  | '\r' :: '\n' :: rest => '\n' :: plainLines rest
  | c :: rest => c :: plainLines rest
  | [] => []

/-- The tokens of a text, after a byte order mark if there is one. -/
def ofText (text : String) : Except Fault (List Token) :=
  match plainLines text.toList with
  | '\uFEFF' :: rest => scan rest
  | cs => scan cs

end Token

end RoleWatch.Toml
