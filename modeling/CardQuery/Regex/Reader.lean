import CardQuery.Number.Numeral
import CardQuery.Regex.Choice
import CardQuery.Regex.Error
import CardQuery.Text.CharacterName
import CardQuery.Text.Name

/-!
# Regex/Reader — reading a pattern

A pattern is read from left to right, one symbol at a time; a symbol is a character, or a backslash
with the character after it.  `readAlternatives` reads branches between bars, `readBranch` the items
of a branch, and `readGroup` what stands between parentheses.

Nested calls carry a bound on their depth.  Every call that is not the first of its kind comes after
a symbol was read, so four times the number of symbols is always enough.
-/

namespace CardQuery.Regex

/-! ## Symbols -/

/-- A symbol of a pattern. -/
inductive Symbol where
  | plain (c : Char)
  | escaped (c : Char)
  /-- A backslash with nothing after it. -/
  | dangling
deriving DecidableEq, Repr

/-- A symbol as it stands in the pattern. -/
def Symbol.chars : Symbol → List Char
  | plain c => [c]
  | escaped c => ['\\', c]
  | dangling => ['\\']

/-- A symbol as it stands in the pattern. -/
def Symbol.text (s : Symbol) : String := String.ofList s.chars

/-- The symbols of a pattern. -/
def symbols : List Char → List Symbol
  | [] => []
  | ['\\'] => [.dangling]
  | '\\' :: c :: rest => .escaped c :: symbols rest
  | c :: rest => .plain c :: symbols rest

/-! ## The state of reading -/

/-- What is known while a pattern is read. -/
structure Progress where
  /-- The symbols still to be read. -/
  rest : List Symbol
  /-- The place of the first of them. -/
  place : Nat
  /-- The width of each group so far, from group one; an open group has none yet. -/
  groups : List (Option Width)
  /-- The groups with a name. -/
  names : List (String × Nat)
  /-- The number of groups when the outermost look-behind was entered. -/
  behindFrom : Option Nat
  /-- The groups that conditions refer to before they exist, and where. -/
  pending : List (Nat × Nat)
  /-- The mode changes for the whole pattern. -/
  mode : ModeChange
  /-- Whether full classes were asked for by name. -/
  full : Bool
  /-- Whether blanks and comments are passed over in the whole pattern. -/
  spaced : Bool

/-- Why reading stops. -/
inductive Stop where
  | complaint (c : Complaint) (place : Nat)
  | longNumeral (digits : Nat)
  | countTooLarge

/-- A step of reading. -/
abbrev Reading := StateT Progress (Except Stop)

/-- Complains at a place. -/
def complainAt {α : Type} (c : Complaint) (place : Nat) : Reading α := throw (.complaint c place)

/-- Complains about what was read last, `back` characters before the next symbol. -/
def complain {α : Type} (c : Complaint) (back : Nat) : Reading α := do
  complainAt c ((← get).place - back)

/-- The next symbol, which stays unread. -/
def peek : Reading (Option Symbol) := return (← get).rest.head?

/-- Reads a symbol.  A backslash that ends the pattern is noticed as soon as it comes next. -/
def next : Reading (Option Symbol) := do
  let p ← get
  match p.rest with
  | [] => return none
  | s :: rest =>
    set { p with rest, place := p.place + s.chars.length }
    if rest.head? = some .dangling then complain .endsInEscape 0
    return some s

/-- Reads a character if it comes next. -/
def accept (c : Char) : Reading Bool := do
  if (← peek) = some (.plain c) then
    let _ ← next
    return true
  return false

/-- Reads up to `n` characters of a class. -/
def nextWhile (p : Char → Bool) : Nat → Reading (List Char)
  | 0 => return []
  | n + 1 => do
    match ← peek with
    | some (.plain c) =>
      if p c then
        let _ ← next
        return c :: (← nextWhile p n)
      return []
    | _ => return []

/-- Reads a name up to the character that closes it; `bound` is more than what is left to read. -/
def nextName (closing : Char) (what : String) : Nat → List Char → Reading String
  | 0, _ => return ""
  | bound + 1, acc => do
    match ← next with
    | none =>
      if acc.isEmpty then complain (.missing what) 0
      else complain (.unterminatedName closing) acc.length
    | some s =>
      if s = .plain closing then
        if acc.isEmpty then complain (.missing what) 1
        return String.ofList acc
      nextName closing what bound (acc ++ s.chars)

/-- Reads a name up to the character that closes it. -/
def nextNameTo (closing : Char) (what : String) : Reading String := do
  nextName closing what ((← get).rest.length + 1) []

/-- The number of groups, counting the whole pattern. -/
def groupCount : Reading Nat := return (← get).groups.length + 1

/-- The width of a group that is closed. -/
def closedWidth? (group : Nat) : Reading (Option Width) := do
  let p ← get
  if group = 0 then return none
  return p.groups.getD (group - 1) none

/-- Complains about a reference to a group from within the look-behind that it belongs to. -/
def checkBehind (group : Nat) : Reading Unit := do
  match (← get).behindFrom with
  | none => return
  | some entered =>
    if (← closedWidth? group).isNone then complain .openGroup 0
    if entered ≤ group then complain .sameLookBehind 0

/-- The reference to a group, `back` characters after its name or number began. -/
def reference (group back : Nat) : Reading Node := do
  match ← closedWidth? group with
  | none => complain .openGroup back
  | some w =>
    checkBehind group
    return .sameAs group w

/-! ## Escapes -/

/-- Whether a character is an octal digit. -/
def isOctal (c : Char) : Bool := '0' ≤ c && c ≤ '7'

/-- Whether a character is a hexadecimal digit. -/
def isHex (c : Char) : Bool := c.isDigit || ('a' ≤ c && c ≤ 'f') || ('A' ≤ c && c ≤ 'F')

/-- The value of a hexadecimal digit. -/
def hexValue (c : Char) : Nat :=
  if c.isDigit then c.toNat - 48 else if 'a' ≤ c then c.toNat - 87 else c.toNat - 55

/-- The number that digits write in a base. -/
def readBase (base : Nat) (ds : List Char) : Nat := ds.foldl (fun n c => n * base + hexValue c) 0

/-- An escape for one fixed character. -/
def fixedEscape? : Char → Option Nat
  | 'a' => some 7
  | 'b' => some 8
  | 'f' => some 12
  | 'n' => some 10
  | 'r' => some 13
  | 't' => some 9
  | 'v' => some 11
  | '\\' => some 92
  | _ => none

/-- An escape for a class of characters. -/
def categoryEscape? : Char → Option ClassItem
  | 'd' => some (.category .digit false)
  | 'D' => some (.category .digit true)
  | 's' => some (.category .space false)
  | 'S' => some (.category .space true)
  | 'w' => some (.category .word false)
  | 'W' => some (.category .word true)
  | _ => none

/-- An escape for a place. -/
def anchorEscape? : Char → Option Anchor
  | 'A' => some .textStart
  | 'Z' => some .textEnd
  | 'b' => some .wordEdge
  | 'B' => some .wordInside
  | _ => none

/-- The escape of a letter with a fixed number of hexadecimal digits. -/
def hexEscape (letter : Char) (count : Nat) : Reading Nat := do
  let ds ← nextWhile isHex count
  let escape := '\\' :: letter :: ds
  if ds.length ≠ count then complain (.incompleteEscape (String.ofList escape)) escape.length
  let code := readBase 16 ds
  if 0x10FFFF < code then complain (.badEscape (String.ofList escape)) escape.length
  return code

/-- The escape of a character by its name. -/
def nameEscape : Reading Nat := do
  if !(← accept '\x7b') then complain (.missing "\x7b") 0
  let name ← nextNameTo '\x7d' "character name"
  match Text.characterNamed? name with
  | some code => return code
  | none => complain (.noSuchCharacterName name) (name.length + 4)

/-- An octal escape. -/
def octalEscape (ds : List Char) : Reading Nat := do
  let code := readBase 8 ds
  if 255 < code then
    complain (.octalTooLarge (String.ofList ('\\' :: ds))) (ds.length + 1)
  return code

/-- An escape of a letter that has no meaning is refused; of any other character it is the
character. -/
def plainEscape (c : Char) : Reading Nat := do
  if c.isAlpha then complain (.badEscape (String.ofList ['\\', c])) 2
  return c.toNat

/-- The item that an escape gives in a character class. -/
def classEscape (c : Char) : Reading ClassItem := do
  match fixedEscape? c, categoryEscape? c with
  | some code, _ => return .one code
  | none, some item => return item
  | none, none =>
    if c == 'x' then return .one (← hexEscape c 2)
    if c == 'u' then return .one (← hexEscape c 4)
    if c == 'U' then return .one (← hexEscape c 8)
    if c == 'N' then return .one (← nameEscape)
    if isOctal c then return .one (← octalEscape (c :: (← nextWhile isOctal 2)))
    if c.isDigit then complain (.badEscape (String.ofList ['\\', c])) 2
    return .one (← plainEscape c)

/-- An escape that starts with a digit other than zero: three octal digits are a character, and
otherwise up to two digits refer to a group. -/
def digitEscape (c : Char) : Reading Node := do
  let second ← nextWhile Char.isDigit 1
  let third ←
    if isOctal c && !second.isEmpty && second.all isOctal then nextWhile isOctal 1 else pure []
  if !third.isEmpty then return .char (← octalEscape (c :: second ++ third))
  let ds := c :: second
  let group := readBase 10 ds
  if group < (← groupCount) then reference group (ds.length + 1)
  else complain (.noSuchGroup group) ds.length

/-- The item that an escape gives outside of a character class. -/
def itemEscape (c : Char) : Reading Node := do
  match anchorEscape? c, categoryEscape? c, fixedEscape? c with
  | some a, _, _ => return .anchor a
  | none, some item, _ => return .charClass false [item]
  | none, none, some code => return .char code
  | none, none, none =>
    if c == 'x' then return .char (← hexEscape c 2)
    if c == 'u' then return .char (← hexEscape c 4)
    if c == 'U' then return .char (← hexEscape c 8)
    if c == 'N' then return .char (← nameEscape)
    if c == '0' then return .char (readBase 8 (c :: (← nextWhile isOctal 2)))
    if c.isDigit then digitEscape c
    else return .char (← plainEscape c)

/-! ## Character classes -/

/-- The item that a symbol gives in a character class. -/
def classItem : Symbol → Reading ClassItem
  | .plain c => return .one c.toNat
  | .escaped c => classEscape c
  | .dangling => complain .endsInEscape 1

/-- The items of a character class up to its closing bracket, which does not close an empty class.
`start` is the place of the opening bracket. -/
def readClassItems (start : Nat) : Nat → List ClassItem → Reading (List ClassItem)
  | 0, acc => return acc
  | bound + 1, acc => do
    match ← next with
    | none => complainAt .unterminatedClass start
    | some this =>
      if this = .plain ']' && !acc.isEmpty then return acc
      let first ← classItem this
      if ← accept '-' then
        match ← next with
        | none => complainAt .unterminatedClass start
        | some that =>
          if that = .plain ']' then return acc ++ [first, .one 0x2D]
          let last ← classItem that
          let bad : Complaint := .badRange this.text that.text
          let back := this.chars.length + 1 + that.chars.length
          match first, last with
          | .one a, .one b =>
            if b < a then complain bad back
            readClassItems start bound (acc ++ [.range a b])
          | _, _ => complain bad back
      else readClassItems start bound (acc ++ [first])

/-- A character class after its opening bracket. -/
def readClass : Reading Node := do
  let start := (← get).place - 1
  let negated ← accept '^'
  let items ← readClassItems start ((← get).rest.length + 1) []
  match items.eraseDups with
  | [.one code] => return if negated then .charExcept code else .char code
  | items => return .charClass negated items

/-! ## Repetitions -/

/-- The bounds of a repetition. -/
abbrev Bounds := Nat × Option Nat

/-- Counts from this one on are refused. -/
def countLimit : Nat := 4294967295

/-- The most digits that a count may have. -/
def countDigits : Nat := 4300

/-- The count that digits write. -/
def countOf (ds : List Char) : Reading Nat := do
  if countDigits < ds.length then throw (.longNumeral ds.length)
  let n := readBase 10 ds
  if countLimit ≤ n then throw .countTooLarge
  return n

/-- The bounds between braces, after the opening one.  Anything that is not a count leaves the brace
a character of its own. -/
def readBounds : Reading (Option Bounds) := do
  if (← peek) = some (.plain '\x7d') then return none
  let saved ← get
  let bound := saved.rest.length
  let lo ← nextWhile Char.isDigit bound
  let comma ← accept ','
  let hi ← if comma then nextWhile Char.isDigit bound else pure lo
  if !(← accept '\x7d') then
    set saved
    return none
  let least ← countOf lo
  let most ← countOf hi
  if hi.isEmpty then return some (least, none)
  if most < least then complainAt .crossedRepeat saved.place
  return some (least, some most)

/-- The bounds that a repetition mark stands for. -/
def boundsOf (mark : Char) : Reading (Option Bounds) :=
  if mark == '?' then return some (0, some 1)
  else if mark == '*' then return some (0, none)
  else if mark == '+' then return some (1, none)
  else readBounds

/-- In which order the counts are tried. -/
def readGreed : Reading Greed := do
  if ← accept '?' then return .lazy
  if ← accept '+' then return .possessive
  return .greedy

/-! ## Modes -/

/-- Whether a letter names a mode. -/
def isModeLetter (c : Char) : Bool := ['i', 'L', 'm', 's', 'x', 'a', 't', 'u'].contains c

/-- Letters of modes after a first one, up to a character that is none. -/
def readModes (stops : List Char) (lack : String) :
    Nat → List Char → (Char → List Char → Reading Unit) → Char → Reading (List Char × Char)
  | 0, acc, _, c => return (acc, c)
  | bound + 1, acc, check, c => do
    check c acc
    let acc := acc ++ [c]
    match ← next with
    | none => complain (.missing lack) 0
    | some (.plain d) =>
      if stops.contains d then return (acc, d)
      if isModeLetter d then readModes stops lack bound acc check d
      else complain (if Text.isLetter d then .unknownMode else .missing lack) 1
    | some s => complain (.missing lack) s.chars.length

/-- The modes that cannot be combined are refused. -/
def checkAdded (c : Char) (before : List Char) : Reading Unit := do
  if c == 'L' then complain (.badModes "cannot use 'L' flag with a str pattern") 0
  let alphabets := (c :: before).filter fun d => d == 'a' || d == 'u'
  if alphabets.contains 'a' && alphabets.contains 'u' && (c == 'a' || c == 'u') then
    complain (.badModes "flags 'a', 'u' and 'L' are incompatible") 0

/-- The modes that cannot be turned off are refused. -/
def checkRemoved (c : Char) (_ : List Char) : Reading Unit := do
  if c == 'a' || c == 'u' || c == 'L' then
    complain (.badModes "cannot turn off flags 'a', 'u' and 'L'") 0

/-- The change that letters of modes make. -/
def modeChange (added removed : List Char) : ModeChange :=
  let switch c := if added.contains c then some true else if removed.contains c then some false
    else none
  ⟨switch 'i', switch 'm', switch 's',
    if added.contains 'a' then some true else if added.contains 'u' then some false else none⟩

/-- Letters of modes in parentheses: either for the whole pattern, or for a group with the letters
added and removed. -/
def readModeLetters (first : Char) : Reading (Option (List Char × List Char)) := do
  let bound := (← get).rest.length + 1
  let (added, stop) ←
    if first == '-' then pure ([], '-')
    else readModes [')', '-', ':'] "-, : or )" bound [] checkAdded first
  if stop == ')' then
    modify fun p =>
      { p with
        mode := ⟨if added.contains 'i' then some true else p.mode.caseless,
          if added.contains 'm' then some true else p.mode.multiline,
          if added.contains 's' then some true else p.mode.dotAll,
          if added.contains 'a' then some true else p.mode.ascii⟩
        full := p.full || added.contains 'u'
        spaced := p.spaced || added.contains 'x' }
    return none
  if added.contains 't' then complain (.badModes "cannot turn on global flag") 1
  let removed ←
    if stop == '-' then
      match ← next with
      | none => complain (.missing "flag") 0
      | some (.plain d) =>
        if isModeLetter d then
          pure (← readModes [':'] ":" bound [] checkRemoved d).1
        else complain (if Text.isLetter d then .unknownMode else .missing "flag") 1
      | some s => complain (.missing "flag") s.chars.length
    else pure []
  if removed.contains 't' then complain (.badModes "cannot turn off global flag") 1
  if added.any removed.contains then complain (.badModes "flag turned on and off") 1
  return some (added, removed)

/-! ## Names of groups -/

/-- The group that a name stands for, read up to a closing character. -/
def groupNamed (name : String) : Reading Nat := do
  if !Text.isName name then complain (.badName name) (name.length + 1)
  match (← get).names.lookup name with
  | some group => return group
  | none => complain (.noSuchName name) (name.length + 1)

/-- The group of a condition, by name or by number. -/
def conditionGroup (name : String) : Reading Nat := do
  if Text.isName name then groupNamed name
  else
    match readInteger? name with
    | none => complain (.badName name) (name.length + 1)
    | some n =>
      if n < 0 then complain (.badName name) (name.length + 1)
      if n = 0 then complain .badGroupNumber (name.length + 1)
      if 1073741823 ≤ n then complain (.noSuchGroup n.toNat) (name.length + 1)
      modify fun p =>
        if p.pending.any (·.1 == n.toNat) then p
        else { p with pending := p.pending ++ [(n.toNat, p.place - name.length - 1)] }
      return n.toNat

/-- Opens a group and gives its number. -/
def openGroup (name : Option String) : Reading Nat := do
  let group ← groupCount
  modify fun p => { p with groups := p.groups ++ [none] }
  match name with
  | none => return group
  | some name =>
    match (← get).names.lookup name with
    | some former => complain (.repeatedName name group former) (name.length + 1)
    | none =>
      modify fun p => { p with names := p.names ++ [(name, group)] }
      return group

/-- Closes a group with the width that it turned out to have. -/
def closeGroup (group : Nat) (body : Node) : Reading Unit :=
  modify fun p => { p with groups := p.groups.set (group - 1) (some body.width) }

/-- Reads the parenthesis that closes a group opened at a place. -/
def closeParenthesis (start : Nat) : Reading Unit := do
  if !(← accept ')') then complainAt .unterminatedGroup start

/-! ## Groups, branches and alternatives -/

/-- What a repetition mark after an item has to know of it. -/
inductive Standing where
  | item
  | anchor
  | repeated
deriving DecidableEq

/-- A comment up to its closing parenthesis. -/
def skipComment (start : Nat) : Nat → Reading Unit
  | 0 => return
  | bound + 1 => do
    match ← next with
    | none => complainAt .unterminatedComment start
    | some s => if s ≠ .plain ')' then skipComment start bound

/-- A comment up to the end of its line. -/
def skipLine : Nat → Reading Unit
  | 0 => return
  | bound + 1 => do
    match ← next with
    | none => return
    | some s => if s ≠ .plain '\n' then skipLine bound

/-- The blanks that are passed over where patterns are spaced out. -/
def isSpacing (c : Char) : Bool := [' ', '\t', '\n', '\r', '\x0b', '\x0c'].contains c

mutual

/-- Branches between bars.  `outermost` says that no group is open. -/
def readAlternatives : Nat → Bool → Bool → Reading Node
  | 0, _, _ => return .empty
  | fuel + 1, outermost, spaced => do
    let first ← readBranch fuel outermost spaced []
    return .choice (first :: (← readMore fuel outermost spaced))

/-- The branches after a first one. -/
def readMore : Nat → Bool → Bool → Reading (List Node)
  | 0, _, _ => return []
  | fuel + 1, outermost, spaced => do
    if ← accept '|' then
      let whole := (← get).spaced
      let spaced := if outermost then whole else spaced
      let next ← readBranch fuel false spaced []
      return next :: (← readMore fuel outermost spaced)
    return []

/-- The items of a branch.  `leading` says that modes for the whole pattern may still come; the
items read so far are kept last first. -/
def readBranch : Nat → Bool → Bool → List (Node × Standing) → Reading Node
  | 0, _, _, acc => return Node.ofList (acc.reverse.map (·.1))
  | fuel + 1, leading, spaced, acc => do
    match ← peek with
    | none => return Node.ofList (acc.reverse.map (·.1))
    | some (.plain '|') => return Node.ofList (acc.reverse.map (·.1))
    | some (.plain ')') => return Node.ofList (acc.reverse.map (·.1))
    | some s =>
      let _ ← next
      match s with
      | .dangling => complain .endsInEscape 1
      | .escaped c =>
        let node ← itemEscape c
        let standing : Standing := match node with | .anchor _ => .anchor | _ => .item
        readBranch fuel leading spaced ((node, standing) :: acc)
      | .plain c =>
        if spaced && isSpacing c then readBranch fuel leading spaced acc
        else if spaced && c == '#' then
          skipLine ((← get).rest.length + 1)
          readBranch fuel leading spaced acc
        else if c == '[' then
          let node ← readClass
          readBranch fuel leading spaced ((node, .item) :: acc)
        else if ['*', '+', '?', '\x7b'].contains c then
          let mark := (← get).place - 1
          match ← boundsOf c with
          | none => readBranch fuel leading spaced ((.char c.toNat, .item) :: acc)
          | some (least, most) =>
            match acc with
            | [] => complainAt .nothingToRepeat mark
            | (_, .anchor) :: _ => complainAt .nothingToRepeat mark
            | (_, .repeated) :: _ => complainAt .multipleRepeat mark
            | (body, .item) :: acc =>
              let greed ← readGreed
              readBranch fuel leading spaced ((.repeated least most greed body, .repeated) :: acc)
        else if c == '.' then readBranch fuel leading spaced ((.any, .item) :: acc)
        else if c == '^' then readBranch fuel leading spaced ((.anchor .lineStart, .anchor) :: acc)
        else if c == '$' then readBranch fuel leading spaced ((.anchor .lineEnd, .anchor) :: acc)
        else if c == '(' then
          let start := (← get).place - 1
          match ← readGroup fuel (leading && acc.isEmpty) spaced start with
          | some node => readBranch fuel leading spaced ((node, .item) :: acc)
          | none =>
            readBranch fuel leading (spaced || (leading && acc.isEmpty && (← get).spaced)) acc
        else readBranch fuel leading spaced ((.char c.toNat, .item) :: acc)

/-- What stands between parentheses, after the opening one at `start`.  Comments and modes for the
whole pattern, which may come only where `leading`, give nothing. -/
def readGroup : Nat → Bool → Bool → Nat → Reading (Option Node)
  | 0, _, _, _ => return none
  | fuel + 1, leading, spaced, start => do
    if !(← accept '?') then return some (← readCapture fuel spaced start none)
    match ← next with
    | none => complain .unexpectedEnd 0
    | some (.plain 'P') =>
      if ← accept '<' then
        let name ← nextNameTo '>' "group name"
        if !Text.isName name then complain (.badName name) (name.length + 1)
        return some (← readCapture fuel spaced start (some name))
      if ← accept '=' then
        let name ← nextNameTo ')' "group name"
        let group ← groupNamed name
        return some (← reference group (name.length + 1))
      match ← next with
      | none => complain .unexpectedEnd 0
      | some s => complain (.unknownExtension ("P" ++ s.text)) (s.chars.length + 2)
    | some (.plain ':') =>
      let body ← readAlternatives fuel false spaced
      closeParenthesis start
      return some body
    | some (.plain '#') =>
      skipComment start ((← get).rest.length + 1)
      return none
    | some (.plain '=') => return some (.ahead false (← readLook fuel spaced start))
    | some (.plain '!') => return some (.ahead true (← readLook fuel spaced start))
    | some (.plain '<') =>
      match ← next with
      | none => complain .unexpectedEnd 0
      | some s =>
        if s ≠ .plain '=' && s ≠ .plain '!' then
          complain (.unknownExtension ("<" ++ s.text)) (s.chars.length + 2)
        let outer := (← get).behindFrom
        let count ← groupCount
        if outer.isNone then modify fun p => { p with behindFrom := some count }
        let body ← readAlternatives fuel false spaced
        if outer.isNone then modify fun p => { p with behindFrom := none }
        closeParenthesis start
        return some (.behind (s = .plain '!') body)
    | some (.plain '(') => return some (← readCondition fuel spaced start)
    | some (.plain '>') =>
      let body ← readAlternatives fuel false spaced
      closeParenthesis start
      return some (.atomic body)
    | some (.plain c) =>
      if isModeLetter c || c == '-' then
        match ← readModeLetters c with
        | none =>
          if !leading then complainAt .lateMode start
          return none
        | some (added, removed) =>
          let spaced := (spaced || added.contains 'x') && !removed.contains 'x'
          let body ← readAlternatives fuel false spaced
          closeParenthesis start
          return some (.within (modeChange added removed) body)
      else complain (.unknownExtension (String.singleton c)) 2
    | some s => complain (.unknownExtension s.text) (s.chars.length + 1)

/-- A group that captures what it matches. -/
def readCapture : Nat → Bool → Nat → Option String → Reading Node
  | 0, _, _, _ => return .empty
  | fuel + 1, spaced, start, name => do
    let group ← openGroup name
    let body ← readAlternatives fuel false spaced
    closeParenthesis start
    closeGroup group body
    return .capture group body

/-- The body of a look-ahead. -/
def readLook : Nat → Bool → Nat → Reading Node
  | 0, _, _ => return .empty
  | fuel + 1, spaced, start => do
    let body ← readAlternatives fuel false spaced
    closeParenthesis start
    return body

/-- A choice by whether a group was captured. -/
def readCondition : Nat → Bool → Nat → Reading Node
  | 0, _, _ => return .empty
  | fuel + 1, spaced, start => do
    let name ← nextNameTo ')' "group name"
    let group ← conditionGroup name
    checkBehind group
    let yes ← readBranch fuel false spaced []
    let bar ← accept '|'
    let no ← if bar then readBranch fuel false spaced [] else pure .empty
    if bar && (← peek) = some (.plain '|') then complain .manyBranches 0
    closeParenthesis start
    return .ifCaptured group yes no

end

/-- A whole pattern. -/
def readPattern : Reading Node := do
  if (← get).rest = [.dangling] then complain .endsInEscape 0
  let fuel := 4 * (← get).rest.length + 8
  let node ← readAlternatives fuel true false
  return node

/-- What a pattern says: its tree, and the mode changes for the whole of it. -/
structure Parsed where
  node : Node
  mode : ModeChange

/-- Looking back by this length or more is refused. -/
def behindLimit : Nat := 2147483648

/-- **A pattern read into a tree**, or the reason why it is refused.  What stands behind is looked at
last: it has to have one length. -/
def read (pattern : String) : Except Refusal Parsed := do
  let malformed (c : Complaint) (place : Option Nat) : Refusal := .malformed ⟨c, place, pattern⟩
  let start : Progress :=
    ⟨symbols pattern.toList, 0, [], [], none, [], ⟨none, none, none, none⟩, false, false⟩
  match readPattern.run start with
  | .error (.complaint c place) => throw (malformed c (some place))
  | .error (.longNumeral digits) => throw (.longNumeral digits)
  | .error .countTooLarge => throw .countTooLarge
  | .ok (node, p) =>
    if p.full && p.mode.ascii == some true then throw .crossedAlphabets
    if !p.rest.isEmpty then throw (malformed .unbalancedParenthesis (some p.place))
    match p.pending.find? (p.groups.length < ·.1) with
    | some (group, place) => throw (malformed (.noSuchGroup group) (some place))
    | none =>
      if node.lookBehinds.any (!·.width.isFixed) then throw (malformed .variableLookBehind none)
      if node.lookBehinds.any (behindLimit ≤ ·.width.least) then throw .farLookBehind
      return ⟨node, p.mode⟩

end CardQuery.Regex
