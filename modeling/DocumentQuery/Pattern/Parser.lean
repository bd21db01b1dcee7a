import DocumentQuery.Pattern.Automaton.Size
import DocumentQuery.Pattern.Shorthand
import DocumentQuery.Text.Blank

/-! Reading patterns. The reader goes through a text once and keeps the groups that
are still open on a stack; each step takes at least one character, so the length of
the text bounds their number. Case is disregarded unless a flag says otherwise, and
a text that is no pattern, or one that takes too much room, has no reading.
-/

set_option autoImplicit false

namespace DocumentQuery.Pattern

open Text

structure Flags where
  ignoreCase : Bool := true
  multiLine : Bool := false
  dotMatchesNewline : Bool := false
  /-- Exchanges greedy and lazy repetition, which the existence of a match does not show. -/
  swapGreed : Bool := false
  unicode : Bool := true
  crlf : Bool := false
  /-- Blanks and comments do not count. -/
  extended : Bool := false
  deriving DecidableEq, Repr

def Flags.set? (flags : Flags) (on : Bool) : Char → Option Flags
  | 'i' => some { flags with ignoreCase := on }
  | 'm' => some { flags with multiLine := on }
  | 's' => some { flags with dotMatchesNewline := on }
  | 'U' => some { flags with swapGreed := on }
  | 'u' => some { flags with unicode := on }
  | 'R' => some { flags with crlf := on }
  | 'x' => some { flags with extended := on }
  | _ => none

/-- Skips what does not count: blanks, and comments up to the end of their line. -/
def skipIgnored (comment : Bool) : List Char → List Char
  | [] => []
  | c :: rest =>
    if comment then skipIgnored (c != '\n') rest
    else if isBlank c then skipIgnored false rest
    else if c = '#' then skipIgnored true rest
    else c :: rest

def Flags.skip (flags : Flags) (text : List Char) : List Char :=
  if flags.extended then skipIgnored false text else text

def Flags.peek? (flags : Flags) (text : List Char) : Option Char :=
  if flags.extended then
    match skipBlanks text with
    | '#' :: rest => (skipBlanks rest).head?
    | rest => rest.head?
  else text.head?

def Flags.fold (flags : Flags) (set : CharSet) : CharSet :=
  if flags.ignoreCase then if flags.unicode then set.foldCase else set.foldAsciiCase else set

/-- A finished class. Where Unicode is off a class must stay within ASCII, so that no part of a
character matches. -/
def Flags.close? (flags : Flags) (negated : Bool) (set : CharSet) : Option CharSet :=
  let set := if negated then set.complement else set
  if flags.unicode || set.isAscii then some set else none

def Flags.word (flags : Flags) : CharSet :=
  (escaped? flags.unicode 'w').getD .empty

/-- What an escape, or a character by itself, stands for. -/
inductive Atom where
  | char (c : Char)
  /-- A byte written with two digits. -/
  | byte (code : Nat)
  | oneOf (members : CharSet)
  | anchor (place : Anchor)

def Atom.code? (flags : Flags) : Atom → Option Nat
  -- Where Unicode is off it must be an ASCII one.
  | .char c => if flags.unicode || c.toNat < 128 then some c.toNat else none
  | .byte code => if flags.unicode || code < 128 then some code else none
  | _ => none

def Atom.members? (flags : Flags) : Atom → Option CharSet
  | .oneOf members => some members
  | atom => (atom.code? flags).map fun code => .interval code code

def char? (code : Nat) : Option Char :=
  if code.isValidChar then some (Char.ofNat code) else none

def fixedHex? (flags : Flags) : (count : Nat) → List Char → Option (List Nat × List Char)
  | 0, text => some ([], text)
  | count + 1, text =>
    match text with
    | [] => none
    | c :: rest => do
      let value ← digitValue? 16 c
      let (values, rest) ← fixedHex? flags count (flags.skip rest)
      return (value :: values, rest)

def bracedHex? (flags : Flags) : (fuel : Nat) → List Char → Option (List Nat × List Char)
  | 0, _ => none
  | fuel + 1, text =>
    match flags.skip text with
    | [] => none
    | '\x7d' :: rest => some ([], flags.skip rest)
    | c :: rest => do
      let value ← digitValue? 16 c
      let (values, rest) ← bracedHex? flags fuel rest
      return (value :: values, rest)

/-- Reads a code point after `x`, `u` or `U`: digits in braces, or exactly `count` of them. -/
def hex? (flags : Flags) (count : Nat) (text : List Char) : Option (Atom × List Char) :=
  match flags.skip text with
  | [] => none
  | '\x7b' :: rest => do
    let (values, rest) ← bracedHex? flags (rest.length + 1) rest
    if values.isEmpty then none
    let c ← char? (ofDigits 16 values)
    return (.char c, rest)
  | text => do
    let (values, rest) ← fixedHex? flags count text
    let c ← char? (ofDigits 16 values)
    return (if count = 2 then .byte c.toNat else .char c, rest)

def bracedName? (flags : Flags) : (fuel : Nat) → List Char → Option (List Char × List Char)
  | 0, _ => none
  | fuel + 1, text =>
    match flags.skip text with
    | [] => none
    | '\x7d' :: rest => some ([], rest)
    | c :: rest => (bracedName? flags fuel rest).map fun (name, rest) => (c :: name, rest)

def divideBy? (mark : List Char) : List Char → Option (List Char × List Char)
  | [] => none
  | c :: rest =>
    match mark.isPrefixOf? (c :: rest) with
    | some after => some ([], after)
    | none => (divideBy? mark rest).map fun (before, after) => (c :: before, after)

/-- The set of a property as written within braces, and whether the writing negates it. -/
def property? (name : List Char) : Option (Bool × CharSet) :=
  let valued (parts : List Char × List Char) :=
    CharSet.valued? (String.ofList parts.1) (String.ofList parts.2)
  match divideBy? ['!', '='] name, divideBy? [':'] name, divideBy? ['='] name with
  | some parts, _, _ => (valued parts).map (true, ·)
  | none, some parts, _ | none, none, some parts => (valued parts).map (false, ·)
  | none, none, none => (CharSet.named? (String.ofList name)).map (false, ·)

def writtenProperty? (flags : Flags) (text : List Char) :
    Option ((Bool × CharSet) × List Char) :=
  match flags.skip text with
  | [] => none
  | '\x7b' :: rest => do
    let (name, rest) ← bracedName? flags (rest.length + 1) rest
    return (← property? name, rest)
  | c :: rest =>
    if c = '\\' then none
    else (CharSet.named? (String.ofList [c])).map fun set => ((false, set), flags.skip rest)

def propertyEscape? (flags : Flags) (negated : Bool) (text : List Char) :
    Option (Atom × List Char) := do
  let ((writtenNegated, set), rest) ← writtenProperty? flags text
  -- Only Unicode has properties.
  if flags.unicode then
    return (.oneOf (← flags.close? (negated != writtenNegated) (flags.fold set)), rest)
  else none

def boundary? : String → Option Anchor
  | "start" => some .wordStart
  | "end" => some .wordEnd
  | "start-half" => some .wordStartHalf
  | "end-half" => some .wordEndHalf
  | _ => none

def isBoundaryChar (c : Char) : Bool :=
  c.isAlpha || c == '-'

def boundaryName (flags : Flags) : (fuel : Nat) → List Char → List Char × List Char
  | 0, text => ([], text)
  | fuel + 1, text =>
    match text with
    | [] => ([], [])
    | c :: rest =>
      if isBoundaryChar c then
        let (name, rest) := boundaryName flags fuel (flags.skip rest)
        (c :: name, rest)
      else ([], c :: rest)

/-- Reads what follows `b`: the name of a boundary in braces, or nothing of its own. -/
def boundaryEscape? (flags : Flags) (text : List Char) : Option (Atom × List Char) :=
  match text with
  | '\x7b' :: rest =>
    match flags.skip rest with
    | [] => none
    | c :: more =>
      if isBoundaryChar c then
        match boundaryName flags (more.length + 1) (c :: more) with
        | (name, '\x7d' :: rest) =>
          (boundary? (String.ofList name)).map fun anchor => (.anchor anchor, rest)
        | _ => none
      -- Other braces are left to be read as a repetition.
      else some (.anchor .wordBoundary, text)
  | text => some (.anchor .wordBoundary, text)

/-- ASCII characters other than letters and digits may be escaped, angle brackets apart. -/
def isEscapable (c : Char) : Bool :=
  c.toNat < 128 && ! c.isAlphanum && c != '<' && c != '>'

def escape? (flags : Flags) : List Char → Option (Atom × List Char)
  | [] => none
  | c :: rest =>
    match c with
    | 'x' => hex? flags 2 rest
    | 'u' => hex? flags 4 rest
    | 'U' => hex? flags 8 rest
    | 'p' => propertyEscape? flags false rest
    | 'P' => propertyEscape? flags true rest
    | 'd' | 's' | 'w' | 'D' | 'S' | 'W' => do
      let set ← escaped? flags.unicode c.toLower
      return (.oneOf (← flags.close? c.isUpper set), rest)
    | 'a' => some (.char '\x07', rest)
    | 'f' => some (.char '\x0c', rest)
    | 't' => some (.char '\t', rest)
    | 'n' => some (.char '\n', rest)
    | 'r' => some (.char '\r', rest)
    | 'v' => some (.char '\x0b', rest)
    | 'A' => some (.anchor .textStart, rest)
    | 'z' => some (.anchor .textEnd, rest)
    | 'b' => boundaryEscape? flags rest
    | 'B' => some (.anchor .noWordBoundary, rest)
    | '<' => some (.anchor .wordStart, rest)
    | '>' => some (.anchor .wordEnd, rest)
    | c => if isEscapable c then some (.char c, rest) else none

structure Nested where
  set : CharSet
  depth : Nat := 0

def Nested.union (items : List Nested) : Nested :=
  match items with
  | [] => ⟨.empty, 0⟩
  | [item] => item
  | items =>
    { set := .unions (items.map (·.set))
      depth := 1 + (items.map (·.depth)).foldl max 0 }

inductive Operation where
  | intersection
  | difference
  | symmetricDifference

def Operation.apply (flags : Flags) (operation : Operation) (left right : Nested) : Nested :=
  let a := flags.fold left.set
  let b := flags.fold right.set
  { set := match operation with
      | .intersection => a.intersection b
      | .difference => a.difference b
      | .symmetricDifference => a.symmetricDifference b
    depth := 1 + max left.depth right.depth }

/-- A class that is still open: what it holds so far, last first, and the operation that waits
for its right side. -/
structure OpenClass where
  negated : Bool
  pending : Option (Nested × Operation) := none
  items : List Nested := []

def OpenClass.push (current : OpenClass) (item : Nested) : OpenClass :=
  { current with items := item :: current.items }

/-- The left side of the next operation, or the whole of a class that ends here. -/
def OpenClass.content (flags : Flags) (current : OpenClass) : Nested :=
  let right := Nested.union current.items.reverse
  match current.pending with
  | some (left, operation) => operation.apply flags left right
  | none => right

def OpenClass.operate (flags : Flags) (current : OpenClass) (operation : Operation) : OpenClass :=
  { current with pending := some (current.content flags, operation), items := [] }

def OpenClass.close? (flags : Flags) (current : OpenClass) : Option Nested := do
  let content := current.content flags
  return ⟨← flags.close? current.negated (flags.fold content.set), 1 + content.depth⟩

/-- Reads the hyphens at the start of a class, which stand for themselves. -/
def leadingHyphens (flags : Flags) : (fuel : Nat) → List Char → List Nested × List Char
  | 0, text => ([], text)
  | fuel + 1, text =>
    match text with
    | '-' :: rest =>
      let (hyphens, rest) := leadingHyphens flags fuel (flags.skip rest)
      (⟨.char '-', 0⟩ :: hyphens, rest)
    | text => ([], text)

def openClass (flags : Flags) (text : List Char) : OpenClass × List Char :=
  let text := flags.skip text
  let (negated, text) := match text with
    | '^' :: rest => (true, flags.skip rest)
    | text => (false, text)
  match leadingHyphens flags (text.length + 1) text with
  -- A closing bracket in first place stands for itself.
  | ([], ']' :: rest) => ({ negated, items := [⟨.char ']', 0⟩] }, flags.skip rest)
  | (hyphens, rest) => ({ negated, items := hyphens }, rest)

def namedClass? (flags : Flags) (text : List Char) : Option (Option Nested × List Char) :=
  match text with
  | ':' :: rest =>
    let (negated, rest) := match rest with
      | '^' :: rest => (true, rest)
      | rest => (false, rest)
    let name := rest.takeWhile (· != ':')
    match rest.drop name.length with
    | ':' :: ']' :: after => do
      let set ← ascii? (String.ofList name)
      return ((flags.close? negated (flags.fold set)).map (⟨·, 0⟩), after)
    | _ => none
  | _ => none

def classAtom? (flags : Flags) : List Char → Option (Atom × List Char)
  | [] => none
  | '\\' :: rest => escape? flags rest
  | c :: rest => some (.char c, rest)

/-- Reads a character, an escape or an interval within a class. A hyphen makes an interval unless
a bracket or another hyphen follows it. -/
def classItem? (flags : Flags) (text : List Char) : Option (Nested × List Char) := do
  let (first, rest) ← classAtom? flags text
  match flags.skip rest with
  | [] => none
  | '-' :: more =>
    -- A hyphen before a bracket or a hyphen is left for the next step.
    let next := flags.peek? more
    if next = some ']' ∨ next = some '-' then
      return (⟨← first.members? flags, 0⟩, flags.skip rest)
    let (last, rest) ← classAtom? flags (flags.skip more)
    let low ← first.code? flags
    let high ← last.code? flags
    if low ≤ high then return (⟨.interval low high, 0⟩, rest) else none
  | rest => return (⟨← first.members? flags, 0⟩, rest)

def readClass? (flags : Flags) : (fuel : Nat) → OpenClass → List OpenClass → List Char →
    Option (Nested × List Char)
  | 0, _, _, _ => none
  | fuel + 1, current, outer, text =>
    match flags.skip text with
    | [] => none
    | '[' :: rest =>
      match namedClass? flags rest with
      | some (some named, rest) => readClass? flags fuel (current.push named) outer rest
      | some (none, _) => none
      -- Brackets that do not hold a known name open a class within the class.
      | none =>
        let (inner, rest) := openClass flags rest
        readClass? flags fuel inner (current :: outer) rest
    | ']' :: rest => do
      let closed ← current.close? flags
      match outer with
      | [] => return (closed, rest)
      | next :: outer => readClass? flags fuel (next.push closed) outer rest
    | '&' :: '&' :: rest => readClass? flags fuel (current.operate flags .intersection) outer rest
    | '-' :: '-' :: rest => readClass? flags fuel (current.operate flags .difference) outer rest
    | '~' :: '~' :: rest =>
      readClass? flags fuel (current.operate flags .symmetricDifference) outer rest
    | text => do
      let (item, rest) ← classItem? flags text
      readClass? flags fuel (current.push item) outer rest

/-- A piece of a pattern: its depth, and whether it may be repeated. -/
structure Piece where
  node : Node
  depth : Nat := 0
  repeatable : Bool := true

/-- Pieces one after the other; they are held last first. -/
def Piece.sequence (pieces : List Piece) : Piece :=
  match pieces with
  | [] => { node := .empty, repeatable := false }
  | [piece] => piece
  | pieces =>
    { node := .sequence (pieces.reverse.map (·.node))
      depth := 1 + (pieces.map (·.depth)).foldl max 0 }

def Piece.alternatives (branches : List Piece) : Piece :=
  match branches with
  | [branch] => branch
  | branches =>
    { node := .alternatives (branches.reverse.map (·.node))
      depth := 1 + (branches.map (·.depth)).foldl max 0 }

/-- What has been read of a group: its finished branches and the pieces of the open one, last
first, and the flags in force. Parentheses that only hold a part together have no number. -/
structure Group where
  flags : Flags
  number : Option Nat := none
  branches : List Piece := []
  pieces : List Piece := []

def Group.push (group : Group) (piece : Piece) : Group :=
  { group with pieces := piece :: group.pieces }

def Group.piece (group : Group) : Piece :=
  Piece.alternatives (Piece.sequence group.pieces :: group.branches)

def maxCount : Nat := UInt32.size - 1

def countDigits (flags : Flags) : (fuel : Nat) → List Char → List Nat × List Char
  | 0, text => ([], text)
  | fuel + 1, text =>
    match text with
    | [] => ([], [])
    | c :: rest =>
      match digitValue? 10 c with
      | some value =>
        let (values, rest) := countDigits flags fuel (flags.skip rest)
        (value :: values, rest)
      | none => ([], c :: rest)

def count? (flags : Flags) (text : List Char) : Option (Nat × List Char) :=
  match countDigits flags (text.length + 1) (skipBlanks text) with
  | ([], _) => none
  | (values, rest) =>
    let count := ofDigits 10 values
    if count ≤ maxCount then some (count, flags.skip (skipBlanks rest)) else none

def bounds? (flags : Flags) (text : List Char) : Option (Nat × Option Nat × List Char) := do
  let (least, rest) ← count? flags (flags.skip text)
  match rest with
  | '\x7d' :: rest => return (least, some least, rest)
  | ',' :: rest =>
    match flags.skip rest with
    | '\x7d' :: rest => return (least, none, rest)
    | rest =>
      match ← count? flags rest with
      | (most, '\x7d' :: rest) => if least ≤ most then return (least, some most, rest) else none
      | _ => none
  | _ => none

def readLazy : List Char → Bool × List Char
  | '?' :: rest => (true, rest)
  | text => (false, text)

def Group.repeat? (group : Group) (least : Nat) (most : Option Nat) (isLazy : Bool) :
    Option Group :=
  match group.pieces with
  | [] => none
  | piece :: rest =>
    if piece.repeatable then
      let node := piece.node.repetition least most (isLazy == group.flags.swapGreed)
      some { group with pieces := { node, depth := 1 + piece.depth } :: rest }
    else none

/-- Reads flags up to a colon or a closing parenthesis, which is returned with them. -/
def readFlags? (current : Flags) (seen : List Char) :
    List Char → Option (Flags × List Char × Char × List Char)
  | [] => none
  | c :: rest =>
    if c = ':' ∨ c = ')' then
      if seen.head? = some '-' then none else some (current, seen, c, rest)
    -- Each flag may be set once, and a minus sign switches off the ones after it.
    else if c ∈ seen then none
    else if c = '-' then readFlags? current ('-' :: seen) rest
    else do readFlags? (← current.set? ('-' ∉ seen) c) (c :: seen) rest

def isNameChar (first : Bool) (c : Char) : Bool :=
  c == '_' || CharSet.Trait.alphabetic.contains c.toNat ||
    (! first && (c == '.' || c == '[' || c == ']' || CharSet.Category.number.contains c.toNat))

def groupName? (text : List Char) : Option (String × List Char) :=
  let name := text.takeWhile (· != '>')
  match text.drop name.length with
  | '>' :: rest =>
    match name with
    | [] => none
    | c :: more =>
      if isNameChar true c && more.all (isNameChar false) then some (String.ofList name, rest)
      else none
  | _ => none

structure Progress where
  group : Group
  /-- The groups around the current one, innermost first. -/
  outer : List Group := []
  /-- The number of groups that have one. -/
  numbered : Nat := 0
  names : List String := []

namespace Progress

def openPart (progress : Progress) (flags : Flags) : Progress :=
  { progress with group := { flags := flags }, outer := progress.group :: progress.outer }

def openGroup (progress : Progress) : Progress :=
  { progress with
    group := { flags := progress.group.flags, number := some (progress.numbered + 1) }
    outer := progress.group :: progress.outer
    numbered := progress.numbered + 1 }

def openNamed? (progress : Progress) (text : List Char) : Option (Progress × List Char) := do
  let (name, rest) ← groupName? text
  if name ∈ progress.names then none
  return ({ progress.openGroup with names := name :: progress.names }, rest)

/-- Reads what follows an opening parenthesis. There is no looking around. -/
def parenthesis? (progress : Progress) (text : List Char) : Option (Progress × List Char) :=
  let flags := progress.group.flags
  match flags.skip text with
  | '?' :: 'P' :: '<' :: rest => progress.openNamed? rest
  -- Looking behind is told from a name by its sign; looking ahead fails with the flags.
  | '?' :: '<' :: '=' :: _ | '?' :: '<' :: '!' :: _ => none
  | '?' :: '<' :: rest => progress.openNamed? rest
  | '?' :: rest =>
    match readFlags? flags [] rest with
    | some (flags, _, ':', rest) => some (progress.openPart flags, rest)
    -- Flags without a group hold from here to the end of the group around them.
    | some (flags, _ :: _, _, rest) =>
      let directive : Piece := { node := .empty, repeatable := false }
      some ({ progress with group := { progress.group.push directive with flags := flags } }, rest)
    | _ => none
  | rest => some (progress.openGroup, rest)

def push (progress : Progress) (piece : Piece) : Progress :=
  { progress with group := progress.group.push piece }

def pushAtom? (progress : Progress) (atom : Atom) : Option Progress :=
  let flags := progress.group.flags
  match atom with
  | .anchor place => some (progress.push { node := .anchor place flags.word })
  | .oneOf members => some (progress.push { node := .ofSet members })
  | .char c => some (progress.push { node := .ofSet (flags.fold (.char c)) })
  -- Where Unicode is off a byte beyond ASCII would be a part of a character.
  | .byte code =>
    if flags.unicode || code < 128 then
      some (progress.push { node := .ofSet (flags.fold (.interval code code)) })
    else none

/-- The set of the dot, which exists in Unicode only. -/
def dot (flags : Flags) : CharSet :=
  if flags.dotMatchesNewline then .any
  else if flags.crlf then (CharSet.spans "A D").complement
  else (CharSet.spans "A").complement

def lineAnchor (flags : Flags) (text line crlf : Anchor) : Anchor :=
  if flags.multiLine then if flags.crlf then crlf else line else text

def step? (progress : Progress) (c : Char) (rest : List Char) :
    Option (Progress × List Char) :=
  let flags := progress.group.flags
  let repeated (least : Nat) (most : Option Nat) (rest : List Char) := do
    let (isLazy, rest) := readLazy rest
    return ({ progress with group := ← progress.group.repeat? least most isLazy }, rest)
  match c with
  | '(' => progress.parenthesis? rest
  | ')' =>
    match progress.outer with
    | [] => none
    | enclosing :: outer =>
      let inner := progress.group.piece
      let node := match progress.group.number with
        | some number => .group number inner.node
        | none => inner.node
      let piece : Piece := { node, depth := 1 + inner.depth }
      some ({ progress with group := enclosing.push piece, outer := outer }, rest)
  | '|' =>
    -- The flags set in one branch go on to hold in the next.
    let branch := Piece.sequence progress.group.pieces
    some ({ progress with
      group := { progress.group with
        pieces := [], branches := branch :: progress.group.branches } },
      rest)
  | '[' => do
    let (start, rest) := openClass flags rest
    let (closed, rest) ← readClass? flags (rest.length + 1) start [] rest
    return (progress.push { node := .ofSet closed.set, depth := closed.depth }, rest)
  | '?' => repeated 0 (some 1) rest
  | '*' => repeated 0 none rest
  | '+' => repeated 1 none rest
  | '\x7b' => do
    let (least, most, rest) ← bounds? flags rest
    repeated least most (flags.skip rest)
  | '\\' => do
    let (atom, rest) ← escape? flags rest
    return (← progress.pushAtom? atom, rest)
  | '.' => if flags.unicode then some (progress.push { node := .ofSet (dot flags) }, rest) else none
  | '^' => do
    return (← progress.pushAtom? (.anchor (lineAnchor flags .textStart .lineStart .lineStartCrlf)),
      rest)
  | '$' => do
    return (← progress.pushAtom? (.anchor (lineAnchor flags .textEnd .lineEnd .lineEndCrlf)), rest)
  | c => do return (← progress.pushAtom? (.char c), rest)

def run? : (fuel : Nat) → Progress → List Char → Option Progress
  | 0, _, _ => none
  | fuel + 1, progress, text =>
    match progress.group.flags.skip text with
    | [] => some progress
    | c :: rest => do
      let (progress, rest) ← progress.step? c rest
      run? fuel progress rest

end Progress

def maxDepth : Nat := 250

/-- The pattern that a text writes, with case disregarded from the start. -/
def read? (text : String) : Option Node := do
  let progress ← Progress.run? (text.length + 1) { group := { flags := {} } } text.toList
  let piece := progress.group.piece
  if progress.outer.isEmpty && piece.depth ≤ maxDepth && piece.node.fits then return piece.node
  else none

end DocumentQuery.Pattern
