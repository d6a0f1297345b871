import DocQuery.Pattern.Engine
import DocQuery.Pattern.Size
import DocQuery.Text.Hex

/-!
This module contains the notation of patterns: literals, classes, groups, repetitions and anchors, with
the flags that a caller or the pattern itself sets. What is no pattern is refused.
-/

namespace DocQuery
namespace Pattern

namespace Flags

def update? (flags : Flags) (value : Bool) : Char → Option Flags
  | 'i' => some { flags with ignoreCase := value }
  | 'm' => some { flags with multiLine := value }
  | 's' => some { flags with dotAll := value }
  | 'U' => some flags
  | 'u' => some flags
  | _ => none

end Flags

structure Row where
  parts : Nat := 0
  deepest : Nat := 0
deriving DecidableEq

namespace Row

def add (row : Row) (depth : Nat) : Row := ⟨row.parts + 1, max row.deepest depth⟩

def depth (row : Row) : Nat := if row.parts < 2 then row.deepest else row.deepest + 1

def limit : Nat := 250

end Row

inductive Atom where
  | literal (c : Char)
  | oneOf (set : CharSet)
  | anchor (anchor : Anchor)

def isEscapable (c : Char) : Bool :=
  c.toNat < 128 && !c.isAlphanum && c != '<' && c != '>'

def charOfNat? (n : Nat) : Option Char :=
  if n.isValidChar then some (Char.ofNat n) else none

def readHex? (count : Nat) : List Char → Option (Char × List Char)
  | '\x7b' :: cs =>
    let digits := cs.takeWhile (· != '\x7d')
    match cs.dropWhile (· != '\x7d') with
    | _ :: rest =>
      if digits ≠ [] ∧ digits.all Text.isHexDigit then
        (charOfNat? (Text.hexValue digits)).map (·, rest)
      else
        none
    | [] => none
  | cs =>
    let digits := cs.take count
    if digits.length = count ∧ digits.all Text.isHexDigit then
      (charOfNat? (Text.hexValue digits)).map (·, cs.drop count)
    else
      none

def isAnchorNameChar (c : Char) : Bool := c.isAlpha || c == '-'

def namedAnchor? : String → Option Anchor
  | "start" => some .wordStart
  | "end" => some .wordEnd
  | "start-half" => some .wordStartHalf
  | "end-half" => some .wordEndHalf
  | _ => none

def readWordEdge? : List Char → Option (Anchor × List Char)
  | '\x7b' :: c :: cs =>
    if isAnchorNameChar c then
      let name := (c :: cs).takeWhile isAnchorNameChar
      match (c :: cs).dropWhile isAnchorNameChar with
      | '\x7d' :: rest => (namedAnchor? (String.ofList name)).map (·, rest)
      | _ => none
    else
      some (.wordEdge, '\x7b' :: c :: cs)
  | ['\x7b'] => none
  | cs => some (.wordEdge, cs)

def readEscape? : List Char → Option (Atom × List Char)
  | [] => none
  | 'x' :: cs => (readHex? 2 cs).map fun (c, rest) => (.literal c, rest)
  | 'u' :: cs => (readHex? 4 cs).map fun (c, rest) => (.literal c, rest)
  | 'U' :: cs => (readHex? 8 cs).map fun (c, rest) => (.literal c, rest)
  | 'd' :: cs => some (.oneOf .digit, cs)
  | 'D' :: cs => some (.oneOf (.compl .digit), cs)
  | 's' :: cs => some (.oneOf .blank, cs)
  | 'S' :: cs => some (.oneOf (.compl .blank), cs)
  | 'w' :: cs => some (.oneOf .word, cs)
  | 'W' :: cs => some (.oneOf (.compl .word), cs)
  | 'a' :: cs => some (.literal '\x07', cs)
  | 'f' :: cs => some (.literal '\x0c', cs)
  | 't' :: cs => some (.literal '\t', cs)
  | 'n' :: cs => some (.literal '\n', cs)
  | 'r' :: cs => some (.literal '\r', cs)
  | 'v' :: cs => some (.literal '\x0b', cs)
  | 'A' :: cs => some (.anchor .startText, cs)
  | 'z' :: cs => some (.anchor .endText, cs)
  | 'b' :: cs => (readWordEdge? cs).map fun (anchor, rest) => (.anchor anchor, rest)
  | 'B' :: cs => some (.anchor .noWordEdge, cs)
  | '<' :: cs => some (.anchor .wordStart, cs)
  | '>' :: cs => some (.anchor .wordEnd, cs)
  | c :: cs => if isEscapable c then some (.literal c, cs) else none

def readMember? : List Char → Option (Atom × List Char)
  | [] => none
  | '\\' :: cs => readEscape? cs
  | c :: cs => some (.literal c, cs)

def Atom.toSet? : Atom → Option CharSet
  | .literal c => some (.singleton c)
  | .oneOf set => some set
  | .anchor _ => none

def readRange? (cs : List Char) : Option (CharSet × List Char) := do
  let (first, rest) ← readMember? cs
  match rest with
  | [] => none
  | '-' :: ']' :: _ | '-' :: '-' :: _ => first.toSet?.map (·, rest)
  | '-' :: rest =>
    match first, ← readMember? rest with
    | .literal a, (.literal b, rest) => if a ≤ b then some (.range a b, rest) else none
    | _, _ => none
  | rest => first.toSet?.map (·, rest)

def readNamedSet? (ignoreCase : Bool) : List Char → Option (CharSet × List Char)
  | ':' :: cs =>
    let (negated, cs) :=
      match cs with
      | '^' :: cs => (true, cs)
      | cs => (false, cs)
    match cs.dropWhile (· != ':') with
    | ':' :: ']' :: rest =>
      (CharSet.named? (String.ofList (cs.takeWhile (· != ':')))).map fun set =>
        (.negatedIf negated (.anyCaseIf ignoreCase set), rest)
    | _ => none
  | _ => none

inductive SetOp where
  | inter
  | diff
  | symDiff

def SetOp.apply : SetOp → CharSet → CharSet → CharSet
  | .inter, a, b => .inter a b
  | .diff, a, b => .inter a (.compl b)
  | .symDiff, a, b => .inter (.union a b) (.compl (.inter a b))

structure ClassPart where
  set : CharSet := .empty
  row : Row := {}

namespace ClassPart

def add (part : ClassPart) (set : CharSet) (depth : Nat) : ClassPart where
  set := .union part.set set
  row := part.row.add depth

def close (ignoreCase : Bool) (before : Option (SetOp × ClassPart)) (part : ClassPart) : ClassPart :=
  match before with
  | none => part
  | some (op, left) =>
    { set := op.apply (.anyCaseIf ignoreCase left.set) (.anyCaseIf ignoreCase part.set)
      row := ⟨1, max left.row.depth part.row.depth + 1⟩ }

end ClassPart

mutual

def readClass? (ignoreCase : Bool) : Nat → List Char → Option (CharSet × Nat × List Char)
  | 0, _ => none
  | fuel + 1, cs => do
    let (negated, cs) :=
      match cs with
      | '^' :: cs => (true, cs)
      | cs => (false, cs)
    let (start, cs) : ClassPart × List Char :=
      match cs with
      | ']' :: cs => (⟨.singleton ']', ⟨1, 0⟩⟩, cs)
      | '-' :: _ => (⟨.singleton '-', ⟨(cs.takeWhile (· == '-')).length, 0⟩⟩, cs.dropWhile (· == '-'))
      | cs => ({}, cs)
    let (part, rest) ← readParts? ignoreCase fuel none start cs
    return (.negatedIf negated (.anyCaseIf ignoreCase part.set), part.row.depth + 1, rest)

def readParts? (ignoreCase : Bool) :
    Nat → Option (SetOp × ClassPart) → ClassPart → List Char → Option (ClassPart × List Char)
  | 0, _, _, _ => none
  | fuel + 1, before, part, cs =>
    let closed := part.close ignoreCase before
    match cs with
    | [] => none
    | ']' :: rest => some (closed, rest)
    | '&' :: '&' :: rest => readParts? ignoreCase fuel (some (.inter, closed)) {} rest
    | '-' :: '-' :: rest => readParts? ignoreCase fuel (some (.diff, closed)) {} rest
    | '~' :: '~' :: rest => readParts? ignoreCase fuel (some (.symDiff, closed)) {} rest
    | '[' :: rest =>
      match readNamedSet? ignoreCase rest with
      | some (set, rest) => readParts? ignoreCase fuel before (part.add set 0) rest
      | none => do
        let (set, depth, rest) ← readClass? ignoreCase fuel rest
        readParts? ignoreCase fuel before (part.add set depth) rest
    | cs => do
      let (set, rest) ← readRange? cs
      readParts? ignoreCase fuel before (part.add set 0) rest

end

def readCount? (cs : List Char) : Option (Nat × List Char) :=
  let cs := cs.dropWhile Text.isBlank
  match Text.readDigits? (cs.takeWhile Text.isDigit) with
  | some n =>
    if n < 4294967296 then some (n, (cs.dropWhile Text.isDigit).dropWhile Text.isBlank) else none
  | none => none

def readCounts? (cs : List Char) : Option ((Nat × Option Nat) × List Char) := do
  let (least, rest) ← readCount? cs
  match rest with
  | '\x7d' :: rest => some ((least, some 0), rest)
  | ',' :: rest =>
    match rest with
    | '\x7d' :: rest => some ((least, none), rest)
    | rest =>
      let (most, rest) ← readCount? rest
      match rest with
      | '\x7d' :: rest => if least ≤ most then some ((least, some (most - least)), rest) else none
      | _ => none
  | _ => none

def readRepetition? : List Char → Option ((Nat × Option Nat) × List Char)
  | '?' :: cs => some ((0, some 1), lazily cs)
  | '*' :: cs => some ((0, none), lazily cs)
  | '+' :: cs => some ((1, none), lazily cs)
  | '\x7b' :: cs => (readCounts? cs).map fun (counts, rest) => (counts, lazily rest)
  | _ => none
where
  lazily : List Char → List Char
    | '?' :: cs => cs
    | cs => cs

def isRepetitionChar (c : Char) : Bool := c == '?' || c == '*' || c == '+' || c == '\x7b'

def readName? (cs : List Char) : Option (String × List Char) :=
  let name := cs.takeWhile (· != '>')
  match name, cs.dropWhile (· != '>') with
  | first :: others, _ :: rest =>
    let isLetter (c : Char) := isWord c && !isDigit c
    let isOther (c : Char) := isWord c || c == '.' || c == '[' || c == ']'
    if isLetter first ∧ others.all isOther then some (String.ofList name, rest) else none
  | _, _ => none

def readFlags? (flags : Flags) (value : Bool) (seen : List Char) :
    List Char → Option (Flags × List Char × List Char)
  | [] => none
  | ':' :: cs => if seen.head? = some '-' then none else some (flags, seen, ':' :: cs)
  | ')' :: cs => if seen.head? = some '-' then none else some (flags, seen, ')' :: cs)
  | c :: cs =>
    if c ∈ seen then
      none
    else if c = '-' then
      readFlags? flags false (c :: seen) cs
    else
      match flags.update? value c with
      | some flags => readFlags? flags value (c :: seen) cs
      | none => none

inductive GroupStart where
  | flags (flags : Flags)
  | group (flags : Flags) (captured : Bool) (name : Option String)

def readGroupStart? (flags : Flags) : List Char → Option (GroupStart × List Char)
  | '?' :: '=' :: _ => none
  | '?' :: '!' :: _ => none
  | '?' :: '<' :: '=' :: _ => none
  | '?' :: '<' :: '!' :: _ => none
  | '?' :: 'P' :: '<' :: cs =>
    (readName? cs).map fun (name, rest) => (.group flags true (some name), rest)
  | '?' :: '<' :: cs => (readName? cs).map fun (name, rest) => (.group flags true (some name), rest)
  | '?' :: cs =>
    match readFlags? flags true [] cs with
    | some (inner, _, ':' :: rest) => some (.group inner false none, rest)
    | some (inner, _ :: _, ')' :: rest) => some (.flags inner, rest)
    | _ => none
  | cs => some (.group flags true none, cs)

structure Reader where
  flags : Flags
  names : List String := []
  before : Expr := .empty
  last : Option (Expr × Nat) := none
  row : Row := {}

namespace Reader

def expr (reader : Reader) : Expr :=
  match reader.last with
  | some (last, _) => .seq reader.before last
  | none => reader.before

def push (reader : Reader) (item : Expr) (depth : Nat) : Reader :=
  { reader with before := reader.expr, last := some (item, depth), row := reader.row.add depth }

def repeatLast? (reader : Reader) (least : Nat) (more : Option Nat) : Option Reader := do
  let (body, depth) ← reader.last
  return { reader with
    last := some (.many body least more, depth + 1)
    row := { reader.row with deepest := max reader.row.deepest (depth + 1) } }

def setFlags (reader : Reader) (flags : Flags) : Reader :=
  { reader with flags, before := reader.expr, last := none, row := reader.row.add 0 }

def ofAtom (reader : Reader) : Atom → Expr
  | .literal c => .char (.anyCaseIf reader.flags.ignoreCase (.singleton c))
  | .oneOf set => .char set
  | .anchor anchor => .at anchor

def readItem? (reader : Reader) : List Char → Option (Expr × List Char)
  | [] => none
  | '.' :: cs =>
    some (.char (if reader.flags.dotAll then .compl .empty else .compl (.singleton '\n')), cs)
  | '^' :: cs => some (.at (if reader.flags.multiLine then .startLine else .startText), cs)
  | '$' :: cs => some (.at (if reader.flags.multiLine then .endLine else .endText), cs)
  | '\\' :: cs => (readEscape? cs).map fun (atom, rest) => (reader.ofAtom atom, rest)
  | c :: cs => some (reader.ofAtom (.literal c), cs)

end Reader

def readAlternatives? : Nat → Reader → List Char → Option (Reader × Row × List Char)
  | 0, _, _ => none
  | fuel + 1, reader, cs =>
    match cs with
    | [] => some (reader, ({} : Row).add reader.row.depth, [])
    | ')' :: rest => some (reader, ({} : Row).add reader.row.depth, ')' :: rest)
    | '|' :: rest => do
      let fresh : Reader := { flags := reader.flags, names := reader.names }
      let (right, bars, rest) ← readAlternatives? fuel fresh rest
      let both := { right with before := .alt reader.expr right.expr, last := none }
      return (both, bars.add reader.row.depth, rest)
    | '(' :: rest => do
      match ← readGroupStart? reader.flags rest with
      | (.flags flags, rest) => readAlternatives? fuel (reader.setFlags flags) rest
      | (.group flags captured name, rest) =>
        if name.any (· ∈ reader.names) then
          none
        else
          let names := name.toList ++ reader.names
          let (inner, bars, rest) ← readAlternatives? fuel { flags, names } rest
          match rest with
          | ')' :: rest =>
            let body := if captured then .group inner.expr else inner.expr
            readAlternatives? fuel ({ reader with names := inner.names }.push body (bars.depth + 1)) rest
          | _ => none
    | '[' :: rest => do
      let (set, depth, rest) ← readClass? reader.flags.ignoreCase (2 * rest.length + 2) rest
      readAlternatives? fuel (reader.push (.char set) depth) rest
    | c :: rest =>
      if isRepetitionChar c then do
        let ((least, more), rest) ← readRepetition? (c :: rest)
        readAlternatives? fuel (← reader.repeatLast? least more) rest
      else do
        let (item, rest) ← reader.readItem? (c :: rest)
        readAlternatives? fuel (reader.push item 0) rest

def parse? (flags : Flags) (pattern : String) : Option Expr :=
  let cs := pattern.toList
  match readAlternatives? (cs.length + 1) { flags } cs with
  | some (reader, bars, []) =>
    if bars.depth ≤ Row.limit && reader.expr.fits then some reader.expr else none
  | _ => none

end Pattern
end DocQuery
