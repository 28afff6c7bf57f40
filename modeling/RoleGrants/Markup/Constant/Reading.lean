import RoleGrants.Markup.Constant.Token
import RoleGrants.Text.LineEnd

/-!
# Constants

A constant is a number, a text, bytes, one of a few words, or made of constants: a list between
parentheses, or a set or a table between braces. A number may have a sign, and a real number may
have an imaginary one added or taken away; nothing else is computed. Members of sets and keys of
tables have to be values that can be members, which sets and tables are not.

The writing is read token by token, with one level for each open bracket. `accepts` says whether the
tokens make one constant; without parentheses, commas make a list of the whole.

The grammar of constants has a rule for every way to put values together, and a value is looked for
by trying the rules one inside the other. How many rules may be open at once is limited, so what
stands deep inside brackets may be out of reach although no more brackets are open than may be.
-/

namespace RoleGrants.Markup.Constant

/-- What is known of a value: what may still be done to it, and whether it can be a member. -/
inductive Shape where
  | real (signed fits : Bool)
  | imaginary (signed : Bool)
  | text
  | bytes
  /-- the word that has to be called to give the empty set -/
  | setName
  /-- any other value that can be a member -/
  | member
  /-- a value that cannot be a member -/
  | collection
  deriving DecidableEq, Repr

namespace Shape

def isMember : Shape → Bool
  | .collection | .setName => false
  | _ => true

/-- The shape of a value in parentheses of its own: texts are no longer joined to their
neighbours. -/
def enclosed : Shape → Shape
  | .text | .bytes => .member
  | s => s

/-- The shape of a list. -/
def ofList (allMembers : Bool) : Shape := if allMembers then .member else .collection

end Shape

/-- How far an item has been read. -/
inductive Progress where
  | start
  /-- behind a sign -/
  | signed
  | value (shape : Shape)
  /-- behind a real number and a sign -/
  | sum
  deriving DecidableEq, Repr

namespace Progress

/-- Goes on with a value. Texts that follow each other are joined. -/
def take : Progress → Shape → Option Progress
  | .start, s => some (.value s)
  | .signed, .real false fits => some (.value (.real true fits))
  | .signed, .imaginary false => some (.value (.imaginary true))
  | .sum, .imaginary false => some (.value .member)
  | .value .text, .text => some (.value .text)
  | .value .bytes, .bytes => some (.value .bytes)
  | _, _ => none

/-- Goes on with a sign. -/
def sign : Progress → Option Progress
  | .start => some .signed
  | .value (.real _ true) => some .sum
  | _ => none

/-- Whether the value of an item that is read can be a member, if it is one. -/
def finished : Progress → Option Bool
  | .value .setName => none
  | .value s => some s.isMember
  | _ => none

end Progress

/-- What has been read behind an open bracket, up to the last comma or colon. -/
inductive Enclosure where
  /-- a value in parentheses, or a list; behind a comma, whether all items so far can be members -/
  | list (items : Option Bool)
  /-- the parentheses of a call -/
  | call
  /-- braces that may be those of a set or of a table -/
  | braces
  | set
  /-- a table in which a key is next, or a value -/
  | key
  | entry
  deriving DecidableEq, Repr

namespace Enclosure

/-- Goes on behind a comma. -/
def comma : Enclosure → Bool → Option Enclosure
  | .list items, isMember => some (.list (some (items.getD true && isMember)))
  | .braces, true | .set, true => some .set
  | .entry, _ => some .key
  | _, _ => none

/-- Goes on behind a colon. -/
def colon : Enclosure → Bool → Option Enclosure
  | .braces, true | .key, true => some .entry
  | _, _ => none

/-- The rules that are open at the first item inside brackets, beyond those at the item that the
brackets are. -/
def rules : Enclosure → Nat
  | .list _ => 28
  | .call => 24
  | .braces | .set | .key | .entry => 29

/-- The rules that are open at an item behind a number of commas, beyond those at the first item. In
parentheses what follows the first comma is a part of its own; the items of any part but its first
are one rule deeper. -/
def rulesBehind (outermost : Bool) (commas : Nat) : Enclosure → Nat
  | .list _ => if commas = 0 then 0 else if commas = 1 || outermost then 2 else 3
  | .call => 0
  | .braces | .set | .key | .entry => if commas = 0 then 0 else 1

end Enclosure

structure Level where
  enclosure : Enclosure := .list none
  progress : Progress := .start
  /-- how many commas have been read -/
  commas : Nat := 0
  /-- the rules that are open at the first item, its own included; two are always open around it -/
  rules : Nat := 3
  deriving DecidableEq, Repr

namespace Level

/-- The rules that are open at the item that is being read. A sign is a rule. -/
def rulesHere (l : Level) (outermost : Bool) : Nat :=
  l.rules + l.enclosure.rulesBehind outermost l.commas + (if l.progress == .signed then 1 else 0)

/-- The value of a level that a bracket closes. -/
def close? (l : Level) : Bracket → Option Shape
  | .round =>
    match l.enclosure, l.progress with
    | .list none, .start => some .member
    | .list none, .value s => some s.enclosed
    | .list (some items), .start => some (.ofList items)
    | .list (some items), p => p.finished.map fun isMember => .ofList (items && isMember)
    | .call, .start => some .collection
    | _, _ => none
  | .curly =>
    match l.enclosure, l.progress with
    | .braces, .start | .set, .start | .key, .start => some .collection
    | .braces, p | .set, p => if p.finished == some true then some .collection else none
    | .entry, p => p.finished.map fun _ => .collection
    | _, _ => none

/-- Whether the outermost level holds a whole constant. -/
def isWhole (l : Level) : Bool :=
  match l.enclosure, l.progress with
  | .list (some _), .start => true
  | _, p => p.finished.isSome

end Level

/-- How far a writing has been read. -/
structure Reading where
  level : Level := {}
  outer : List Level := []
  /-- whether the line of the constant is over -/
  ended : Bool := false
  deriving DecidableEq, Repr

/-- The most brackets that may be open. -/
def maxOpen : Nat := 200

/-- The most rules that may be open. -/
def maxRules : Nat := 6000

/-- The rules between an item and the numbers and words, which are looked for last. -/
def rulesOfValue : Nat := 22

/-- The rules between an item and the parts of a text. -/
def rulesOfText : Nat := 24

namespace Reading

/-- The rules that are open at the item that is being read. -/
def rules (r : Reading) : Nat := r.level.rulesHere r.outer.isEmpty

/-- Whether a value is within reach at the item that is being read. -/
def isWithinReach (r : Reading) : Bool := r.rules + rulesOfValue ≤ maxRules

/-- Goes on with a value in the innermost level. -/
def take (r : Reading) (s : Shape) : Option Reading :=
  (r.level.progress.take s).map fun p => { r with level := { r.level with progress := p } }

/-- Goes on with a text, which has to be within reach. -/
def takeText (r : Reading) (s : Shape) : Option Reading :=
  if r.rules + rulesOfText ≤ maxRules then r.take s else none

/-- Opens a level inside another one, of which nothing has been read. -/
def enter (r : Reading) (around : Level) (e : Enclosure) : Reading :=
  { r with level := { enclosure := e, rules := r.rules + e.rules }, outer := around :: r.outer }

/-- Opens a level. Behind the word for sets it is that of a call, which takes the place of the
word. -/
def openBracket (r : Reading) (b : Bracket) : Option Reading :=
  if maxOpen ≤ r.outer.length then none
  else
    match b, r.level.progress with
    | .round, .value .setName => some (r.enter { r.level with progress := .start } .call)
    | _, .value _ => none
    | .round, _ => some (r.enter r.level (.list none))
    | .curly, _ => some (r.enter r.level .braces)

/-- Closes the innermost level, whose value goes into the one around it. -/
def closeBracket (r : Reading) (b : Bracket) : Option Reading :=
  match r.outer with
  | [] => none
  | level :: outer =>
    (r.level.close? b).bind fun s => { r with level := level, outer := outer }.take s

/-- Goes on behind a separator. -/
def separate (r : Reading) (next : Enclosure → Bool → Option Enclosure) (commas : Nat) :
    Option Reading :=
  r.level.progress.finished.bind fun isMember =>
    (next r.level.enclosure isMember).map fun e =>
      { r with level := { r.level with enclosure := e, progress := .start, commas := commas } }

/-- Goes on behind a comma. -/
def comma (r : Reading) : Option Reading := r.separate Enclosure.comma (r.level.commas + 1)

/-- Goes on behind a colon. -/
def colon (r : Reading) : Option Reading := r.separate Enclosure.colon r.level.commas

/-- Goes on behind a sign. -/
def sign (r : Reading) : Option Reading :=
  r.level.progress.sign.map fun p => { r with level := { r.level with progress := p } }

/-- The end of a line ends the constant, unless a bracket is open or nothing has been read. A
constant may not start behind white space. -/
def endLine (r : Reading) (indented : Bool) : Option Reading :=
  if !r.outer.isEmpty || r.ended then some r
  else if r.level == {} then if indented then none else some r
  else if r.level.isWhole then some { r with ended := true }
  else none

/-- Goes on with a token that belongs to a constant. -/
def advance (r : Reading) : Token → Option Reading
  | .real fits => r.take (.real false fits)
  | .imaginary => r.take (.imaginary false)
  | .text => r.takeText .text
  | .bytes => r.takeText .bytes
  | .named => r.take .member
  | .setName => r.take .setName
  | .opening b => r.openBracket b
  | .closing b => r.closeBracket b
  | .comma => r.comma
  | .colon => r.colon
  | .sign => r.sign
  | .lineEnd indented => r.endLine indented

/-- Goes on with a token; behind the line of the constant only the ends of lines may follow. What
comes next has to be within reach. -/
def step (r : Reading) (t : Token) : Option Reading :=
  match t with
  | .lineEnd indented => r.endLine indented
  | other => if r.ended then none else (r.advance other).filter isWithinReach

/-- Whether a whole constant has been read. -/
def isWhole (r : Reading) : Bool := r.outer.isEmpty && r.level.isWhole

end Reading

/-- Whether tokens make one constant. -/
def accepts (tokens : List Token) : Bool :=
  (tokens.foldlM Reading.step ({} : Reading)).any Reading.isWhole

/-- Whether a text is the writing of a constant. Lines may end with a return too; the null character
stands nowhere. The first line is read like one behind another, so it may not start with white
space. -/
def isConstant (cs : List Char) : Bool :=
  !cs.contains '\x00' && (tokens? ('\n' :: Text.withLineFeedsOnly cs)).any accepts

end RoleGrants.Markup.Constant
