import ScriptSandbox.Script.Token
import ScriptSandbox.Text.Case

/-!
Regular expressions of scripts: their trees, the reader that refuses malformed ones, and a matcher that
tries alternatives in order. The matcher walks the subject in both directions, backwards only inside
an assertion about what came before.
-/

namespace ScriptSandbox.Script.Regexp

structure Flags where
  global : Bool
  ignoreCase : Bool
  multiline : Bool
  dotAll : Bool
  unicode : Bool
  sticky : Bool
  indices : Bool
  sets : Bool
  deriving Inhabited

def Flags.read? (text : Units) : Option Flags :=
  let none : Flags := ⟨false, false, false, false, false, false, false, false⟩
  text.foldl (fun flags unit => do
    let flags ← flags
    if unit == 103 && !flags.global then some { flags with global := true }
    else if unit == 105 && !flags.ignoreCase then some { flags with ignoreCase := true }
    else if unit == 109 && !flags.multiline then some { flags with multiline := true }
    else if unit == 115 && !flags.dotAll then some { flags with dotAll := true }
    else if unit == 117 && !flags.unicode && !flags.sets then some { flags with unicode := true }
    else if unit == 118 && !flags.unicode && !flags.sets then
      some { flags with sets := true, unicode := true }
    else if unit == 121 && !flags.sticky then some { flags with sticky := true }
    else if unit == 100 && !flags.indices then some { flags with indices := true }
    else Option.none) (some none)

inductive Class where
  | digit | space | word
  deriving DecidableEq

inductive SetItem where
  | range (first last : Nat)
  | named (kind : Class) (negated : Bool)

inductive Node where
  | empty
  | char (code : Nat)
  | any
  | set (negated : Bool) (items : List SetItem)
  | sequence (first second : Node)
  | choice (first second : Node)
  | group (index : Nat) (inner : Node)
  /-- Repetition; the groups from `first` up to `last` are forgotten before each turn. -/
  | repeated (inner : Node) (least : Nat) (most : Option Nat) (greedy : Bool) (first last : Nat)
  | lineStart
  | lineEnd
  | boundary (negated : Bool)
  | look (ahead negated : Bool) (inner : Node)
  | again (index : Nat)
  | againNamed (name : String)
  deriving Inhabited

structure Compiled where
  node : Node
  /-- The number of groups, the whole match included. -/
  groups : Nat
  names : List (String × Nat)
  flags : Flags
  deriving Inhabited

structure Progress where
  rest : List Nat
  groups : Nat
  names : List (String × Nat)

abbrev Read := StateT Progress (Except String)

def peek : Read (Option Nat) := do return (← get).rest.head?

def take (count : Nat) : Read Unit := modify fun s => { s with rest := s.rest.drop count }

def eat (c : Char) : Read Bool := do
  if (← get).rest.head? == some c.toNat then
    take 1
    return true
  else return false

def stands (text : String) : Read Bool := do
  let codes := text.toList.map Char.toNat
  return codes.isPrefixOf (← get).rest

def number? : Read (Option Nat) := do
  let found := (← get).rest.takeWhile Token.isDigit
  if found.isEmpty then return none
  else
    take found.length
    return some (found.foldl (fun n code => n * 10 + (code - 48)) 0)

def isSyntaxMark (code : Nat) : Bool := "^$\\.*+?()[]\x7b\x7d|/".toList.any (·.toNat == code)

def hex? (count : Nat) : Read (Option Nat) := do
  match Token.hexAt? (← get).rest.toArray 0 count with
  | some value =>
    take count
    return some value
  | none => return none

def characterEscape (flags : Flags) (inSet : Bool) : Read Nat := do
  match ← peek with
  | none => throw "unexpected end"
  | some code =>
    take 1
    let identity : Read Nat := do
      if flags.unicode && !(isSyntaxMark code || (inSet && code == 45)) then throw "invalid escape sequence"
      else return code
    if code == 110 then return 10
    else if code == 116 then return 9
    else if code == 114 then return 13
    else if code == 118 then return 11
    else if code == 102 then return 12
    else if code == 98 && inSet then return 8
    else if code == 99 then
      match ← peek with
      | some letter =>
        if (65 ≤ letter && letter ≤ 90) || (97 ≤ letter && letter ≤ 122) then
          take 1
          return letter % 32
        else if flags.unicode then throw "invalid escape sequence"
        else
          modify fun s => { s with rest := 99 :: s.rest }
          return 92
      | none =>
        if flags.unicode then throw "invalid escape sequence"
        else
          modify fun s => { s with rest := 99 :: s.rest }
          return 92
    else if code == 48 && !((← peek).any Token.isDigit) then return 0
    else if code == 120 then
      match ← hex? 2 with
      | some value => return value
      | none => identity
    else if code == 117 then
      if (← peek) == some 123 && flags.unicode then
        match Token.unicodeAt? (← get).rest.toArray 0 with
        | some (value, length) =>
          take length
          return value
        | none => throw "invalid escape sequence"
      else
        match ← hex? 4 with
        | some high =>
          let s ← get
          if flags.unicode && 0xD800 ≤ high && high < 0xDC00 && (← stands "\\u") then
            take 2
            match ← hex? 4 with
            | some low =>
              if 0xDC00 ≤ low && low < 0xE000 then
                return Units.joined high.toUInt16 low.toUInt16
              else
                set s
                return high
            | none =>
              set s
              return high
          else return high
        | none => identity
    else if Token.isDigit code then
      if flags.unicode then throw "invalid escape sequence"
      else if code < 56 then
        let more := ((← get).rest.takeWhile fun c => 48 ≤ c && c < 56).take (if code < 52 then 2 else 1)
        take more.length
        return more.foldl (fun n c => n * 8 + (c - 48)) (code - 48)
      else return code
    else identity

def classEscape? (code : Nat) : Option (Class × Bool) :=
  if code == 100 then some (.digit, false)
  else if code == 68 then some (.digit, true)
  else if code == 115 then some (.space, false)
  else if code == 83 then some (.space, true)
  else if code == 119 then some (.word, false)
  else if code == 87 then some (.word, true)
  else none

def setAtom (flags : Flags) : Read (SetItem ⊕ Nat) := do
  match ← peek with
  | none => throw "unexpected end"
  | some 92 =>
    take 1
    match (← peek).bind classEscape? with
    | some (kind, negated) =>
      take 1
      return .inl (.named kind negated)
    | none => return .inr (← characterEscape flags true)
  | some code =>
    take 1
    return .inr code

def setItems (flags : Flags) : Nat → List SetItem → Read (List SetItem)
  | 0, _ => throw "unexpected end"
  | steps + 1, items => do
    if ← eat ']' then return items.reverse
    else
      let first ← setAtom flags
      let single := match first with
        | .inl item => item
        | .inr code => .range code code
      if (← get).rest.head? == some 45 && (← get).rest.tail.head? != some 93 then
        take 1
        let last ← setAtom flags
        match first, last with
        | .inr a, .inr b =>
          if b < a then throw "invalid class range"
          else setItems flags steps (.range a b :: items)
        | _, _ =>
          if flags.unicode then throw "invalid class range"
          else
            let second := match last with
              | .inl item => item
              | .inr code => .range code code
            setItems flags steps (second :: .range 45 45 :: single :: items)
      else setItems flags steps (single :: items)

def groupName : Read String := do
  let found := (← get).rest.takeWhile (· != 62)
  match Token.nameAt found.toArray found.length 0 "" false with
  | .ok (name, finish, _) =>
    if name.isEmpty || finish != found.length then throw "invalid group name"
    else
      take found.length
      if ← eat '>' then return name else throw "invalid group name"
  | .error _ => throw "invalid group name"

def quantifier? (flags : Flags) : Read (Option (Nat × Option Nat × Bool)) := do
  let start ← get
  let bounds : Option (Nat × Option Nat) ← do
    if ← eat '*' then pure (some (0, none))
    else if ← eat '+' then pure (some (1, none))
    else if ← eat '?' then pure (some (0, some 1))
    else if ← eat '\x7b' then
      match ← number? with
      | none => pure none
      | some least =>
        if ← eat '\x7d' then pure (some (least, some least))
        else if ← eat ',' then
          let most ← number?
          if ← eat '\x7d' then pure (some (least, most)) else pure none
        else pure none
    else return none
  match bounds with
  | none =>
    if flags.unicode then throw "invalid repetition count"
    else
      set start
      return none
  | some (least, most) =>
    let greedy := !(← eat '?')
    if most.any (· < least) then throw "invalid repetition count"
    else return some (least, most, greedy)

/-- An alternative of the grammar, where `inner` reads what stands in parentheses. -/
def alternative (flags : Flags) (hasNames : Bool) (total : Nat) (inner : Read Node) :
    Nat → Node → Read Node
  | 0, _ => throw "unexpected end"
  | steps + 1, done => do
    let close (node : Node) : Read Node := do
      if ← eat ')' then return node else throw "expecting ')'"
    match ← peek with
    | none => return done
    | some 124 => return done
    | some 41 => return done
    | some code =>
      let before := (← get).groups
      let (atom, repeatable) : Node × Bool ← do
        if ← eat '^' then pure (.lineStart, false)
        else if ← eat '$' then pure (.lineEnd, false)
        else if ← stands "(?=" then
          take 3
          pure (.look true false (← close (← inner)), !flags.unicode)
        else if ← stands "(?!" then
          take 3
          pure (.look true true (← close (← inner)), !flags.unicode)
        else if ← stands "(?<=" then
          take 4
          pure (.look false false (← close (← inner)), false)
        else if ← stands "(?<!" then
          take 4
          pure (.look false true (← close (← inner)), false)
        else if ← stands "(?:" then
          take 3
          pure (← close (← inner), true)
        else if ← stands "(?<" then
          take 3
          let name ← groupName
          let s ← get
          if s.names.any (·.1 == name) then throw "duplicate group name"
          else
            let index := s.groups
            set { s with groups := index + 1, names := s.names ++ [(name, index)] }
            pure (.group index (← close (← inner)), true)
        else if ← stands "(?" then throw "invalid group"
        else if ← eat '(' then
          let index := (← get).groups
          modify fun s => { s with groups := index + 1 }
          pure (.group index (← close (← inner)), true)
        else if ← eat '.' then pure (.any, true)
        else if ← eat '[' then
          let negated ← eat '^'
          pure (.set negated (← setItems flags ((← get).rest.length + 1) []), true)
        else if code == 92 then
          take 1
          match ← peek with
          | none => throw "unexpected end"
          | some next =>
            if next == 98 then
              take 1
              pure (.boundary false, false)
            else if next == 66 then
              take 1
              pure (.boundary true, false)
            else match classEscape? next with
              | some (kind, negated) =>
                take 1
                pure (.set false [.named kind negated], true)
              | none =>
                if next == 107 && (flags.unicode || hasNames) then
                  take 1
                  if ← eat '<' then pure (.againNamed (← groupName), true)
                  else throw "expecting group name"
                else if Token.isDigit next && next != 48 then
                  let s ← get
                  match ← number? with
                  | some index =>
                    if index < total then pure (.again index, true)
                    else if flags.unicode then throw "back reference out of range in reg exp"
                    else
                      set s
                      pure (.char (← characterEscape flags false), true)
                  | none => pure (.empty, false)
                else pure (.char (← characterEscape flags false), true)
        else if code == 42 || code == 43 || code == 63 then throw "nothing to repeat"
        else if code == 123 then
          if flags.unicode then throw "syntax error"
          else
            let s ← get
            match ← quantifier? flags with
            | some _ => throw "nothing to repeat"
            | none =>
              set s
              take 1
              pure (.char code, true)
        else if (code == 93 || code == 125) && flags.unicode then throw "syntax error"
        else
          take 1
          pure (.char code, true)
      let after := (← get).groups
      let node : Node ← do
        if repeatable then
          match ← quantifier? flags with
          | some (least, most, greedy) => pure (.repeated atom least most greedy before after)
          | none => pure atom
        else pure atom
      alternative flags hasNames total inner steps (match done with
        | .empty => node
        | _ => .sequence done node)

def choices (flags : Flags) (hasNames : Bool) (total : Nat) : Nat → Read Node
  | 0 => throw "stack overflow"
  | depth + 1 => do
    let first ← alternative flags hasNames total (choices flags hasNames total depth)
      ((← get).rest.length + 1) .empty
    if ← eat '|' then return .choice first (← choices flags hasNames total depth)
    else return first

def Node.references : Node → List String
  | .againNamed name => [name]
  | .sequence a b => a.references ++ b.references
  | .choice a b => a.references ++ b.references
  | .group _ inner => inner.references
  | .repeated inner .. => inner.references
  | .look _ _ inner => inner.references
  | _ => []

def compile (body flags : Units) : Except String Compiled := do
  match Flags.read? flags with
  | none => throw "invalid regular expression flags"
  | some flags =>
    let codes := if flags.unicode then body.codes.toList else body.toList.map (·.toNat)
    let depth := codes.length + 2
    let run (hasNames : Bool) (total : Nat) :=
      (choices flags hasNames total depth).run ⟨codes, 1, []⟩
    -- How many groups there are, and whether they have names, decides how escapes are read.
    let counted : Nat × Bool := match run false (codes.length + 2) with
      | .ok (_, s) => (s.groups, !s.names.isEmpty)
      | .error _ => match run true (codes.length + 2) with
        | .ok (_, s) => (s.groups, !s.names.isEmpty)
        | .error _ => (1, false)
    let (node, s) ← run counted.2 counted.1
    if !s.rest.isEmpty then throw "extraneous characters at the end"
    else if node.references.any fun name => !s.names.any (·.1 == name) then
      throw "group name not defined"
    else return { node, groups := s.groups, names := s.names, flags }

/-! ### Matching -/

structure Subject where
  codes : Array Nat
  flags : Flags

structure Place where
  position : Nat
  groups : Array (Option (Nat × Nat))

def isWordCode (code : Nat) : Bool :=
  Token.isDigit code || (65 ≤ code && code ≤ 90) || (97 ≤ code && code ≤ 122) || code == 95

def Class.holds (kind : Class) (code : Nat) : Bool :=
  match kind with
  | .digit => Token.isDigit code
  | .space => Token.isBlank code || Token.isLineEnd code
  | .word => isWordCode code

/-- The case of a character that stands for all its cases. -/
def fold (flags : Flags) (code : Nat) : Nat :=
  if !flags.ignoreCase || (0xD800 ≤ code && code < 0xE000) then code
  else
    match Text.upperCodes code with
    | [upper] => if 128 ≤ code && upper < 128 then code else upper
    | _ => code

def inSet (flags : Flags) (items : List SetItem) (code : Nat) : Bool :=
  let holds (code : Nat) := items.any fun item =>
    match item with
    | .range first last => first ≤ code && code ≤ last
    | .named kind negated => kind.holds code != negated
  holds code || (flags.ignoreCase && (holds (fold flags code) ||
    (match Text.lowerCodes code with
      | [lower] => holds lower
      | _ => false)))

namespace Subject

def next? (subject : Subject) (forward : Bool) (position : Nat) : Option (Nat × Nat) :=
  if forward then (subject.codes[position]?).map fun code => (code, position + 1)
  else if position = 0 then none
  else (subject.codes[position - 1]?).map fun code => (code, position - 1)

def isWordAt (subject : Subject) (position : Nat) : Bool :=
  (subject.codes[position]?).any isWordCode

def lineStarts (subject : Subject) (position : Nat) : Bool :=
  position = 0 || (subject.flags.multiline && (subject.codes[position - 1]?).any Token.isLineEnd)

def lineEnds (subject : Subject) (position : Nat) : Bool :=
  position = subject.codes.size ||
    (subject.flags.multiline && (subject.codes[position]?).any Token.isLineEnd)

def sameStretch? (subject : Subject) (forward : Bool) (first last position : Nat) : Option Nat :=
  let count := last - first
  if !forward && position < count then none
  else
    let start := if forward then position else position - count
    if subject.codes.size < start + count then none
    else if (List.range count).all fun offset =>
        fold subject.flags (subject.codes.getD (first + offset) 0) ==
          fold subject.flags (subject.codes.getD (start + offset) 0) then
      some (if forward then position + count else start)
    else none

end Subject

inductive Found where
  | at (place : Place)
  | nothing
  | exhausted

/-- Matches a tree at a place and goes on; the first way that works is taken. -/
def run (subject : Subject) (names : List (String × Nat)) :
    Nat → Bool → Node → Place → (Place → Found) → Found
  | 0, _, _, _, _ => .exhausted
  | steps + 1, forward, node, place, next =>
    let single (test : Nat → Bool) : Found :=
      match subject.next? forward place.position with
      | some (code, position) => if test code then next { place with position } else .nothing
      | none => .nothing
    let again (index : Nat) : Found :=
      match place.groups.getD index none with
      | none => next place
      | some (first, last) =>
        match subject.sameStretch? forward first last place.position with
        | some position => next { place with position }
        | none => .nothing
    match node with
    | .empty => next place
    | .char code => single fun found => fold subject.flags found == fold subject.flags code
    | .any => single fun found => subject.flags.dotAll || !Token.isLineEnd found
    | .set negated items => single fun found => inSet subject.flags items found != negated
    | .sequence first second =>
      let (a, b) := if forward then (first, second) else (second, first)
      run subject names steps forward a place fun place =>
        run subject names steps forward b place next
    | .choice first second =>
      match run subject names steps forward first place next with
      | .nothing => run subject names steps forward second place next
      | found => found
    | .group index inner =>
      run subject names steps forward inner place fun after =>
        let bounds := if forward then (place.position, after.position)
          else (after.position, place.position)
        next { after with groups := after.groups.setIfInBounds index (some bounds) }
    | .repeated inner least most greedy first last =>
      if most == some 0 then next place
      else
        let cleared := { place with
          groups := place.groups.mapIdx fun index bounds =>
            if first ≤ index && index < last then none else bounds }
        let more (_ : Unit) := run subject names steps forward inner cleared fun after =>
          if least = 0 && after.position = place.position then .nothing
          else run subject names steps forward
            (.repeated inner (least - 1) (most.map (· - 1)) greedy first last) after next
        if 0 < least then more ()
        else if greedy then
          match more () with
          | .nothing => next place
          | found => found
        else
          match next place with
          | .nothing => more ()
          | found => found
    | .lineStart => if subject.lineStarts place.position then next place else .nothing
    | .lineEnd => if subject.lineEnds place.position then next place else .nothing
    | .boundary negated =>
      let before := 0 < place.position && subject.isWordAt (place.position - 1)
      if (before != subject.isWordAt place.position) != negated then next place else .nothing
    | .look ahead negated inner =>
      match run subject names steps ahead inner place Found.at with
      | .exhausted => .exhausted
      | .at after =>
        if negated then .nothing else next { after with position := place.position }
      | .nothing => if negated then next place else .nothing
    | .again index => again index
    | .againNamed name => again ((names.lookup name).getD 0)

def depth : Nat := 20000

def matchAt? (regexp : Compiled) (codes : Array Nat) (position : Nat) :
    Option (Array (Option (Nat × Nat))) :=
  let groups := Array.replicate regexp.groups none
  match run { codes, flags := regexp.flags } regexp.names depth true regexp.node
      { position, groups } Found.at with
  | .at place => some (place.groups.setIfInBounds 0 (some (position, place.position)))
  | _ => none

end ScriptSandbox.Script.Regexp
