import ProtoSchema.Source.Token
import ProtoSchema.Text.Layout

/-!
# Laying out tokens

Tokens that are handed to something else, such as those of an attribute, need
not be source by themselves.  They are laid out by what they look like.  Between
two tokens there is a gap unless the *state* after the first one says that the
second one belongs to it: a number is close to a period before it, for instance,
and arguments are close to a name.
-/

namespace ProtoSchema.TokenLayout

open Layout (Piece level)

/-! ## What is invoked -/

/-- What was just written. -/
inductive State where
  | start
  | dollar
  | dollarName
  | dollarNameColon
  | dollarParenthesis
  | dollarSeparator
  | pound
  | poundBang
  | dot
  | colon
  | twoColons
  | name
  | nameBang
  | closing
  | other
deriving DecidableEq, Repr, Inhabited

/-- The words that do not count as names. -/
def keywords : List String :=
  ["as", "async", "await", "box", "break", "const", "continue", "crate", "dyn", "else", "enum",
    "extern", "fn", "for", "if", "impl", "in", "let", "loop", "macro", "match", "mod", "move",
    "mut", "pub", "ref", "return", "static", "struct", "trait", "type", "unsafe", "use", "where",
    "while", "yield"]

/-- Whether there is a gap before a name, and the state after it. -/
def nameStep (matcher : Bool) (state : State) (text : String) : Bool × State :=
  match state with
  | .dollar => (false, if matcher then .dollarName else .other)
  | .dollarNameColon => (false, .other)
  | .dollarParenthesis => (false, .dollarSeparator)
  | state =>
    if keywords.contains text then (true, .other)
    else (state != .dot && state != .twoColons, .name)

/-- Whether there is a gap before a literal, and the state after it. -/
def literalStep (state : State) : Bool × State :=
  match state with
  | .dollarParenthesis => (false, .dollarSeparator)
  | state => (state != .dot, .name)

/-- Whether there is a gap before a group, and the state after it. -/
def groupStep (state : State) (delimiter : Delimiter) : Bool × State :=
  match state, delimiter with
  | _, .brace => (true, .other)
  | .dollar, .parenthesis => (false, .dollarParenthesis)
  | .pound, .bracket | .poundBang, .bracket => (false, .other)
  | .name, _ => (false, .closing)
  | .nameBang, _ => (false, .other)
  | _, _ => (true, .closing)

/-- Whether there is a gap before a mark, and the state after it, when what was
just written says nothing about it. -/
def freeMarkStep (matcher : Bool) (state : State) (c : Char) (joint : Bool) : Bool × State :=
  match c, joint with
  | ',', _ | ';', _ => (false, .other)
  | '.', _ =>
    if matcher then (true, .other) else (state != .name && state != .closing, .dot)
  | ':', true => (state != .name, .colon)
  | '$', _ => (true, .dollar)
  | '#', _ => (true, .pound)
  | _, _ => (true, .other)

/-- Whether there is a gap before a mark, and the state after it. -/
def markStep (matcher : Bool) (state : State) (c : Char) (joint : Bool) : Bool × State :=
  match state, c, joint with
  | .dollarName, ':', false => (false, .dollarNameColon)
  | .dollarParenthesis, '+', false => (false, .other)
  | .dollarParenthesis, '*', false => (false, .other)
  | .dollarParenthesis, '?', false => (false, .other)
  | .dollarParenthesis, _, true => (false, .dollarParenthesis)
  | .dollarParenthesis, _, false => (false, .dollarSeparator)
  | .dollarSeparator, '+', _ => (false, .other)
  | .dollarSeparator, '*', _ => (false, .other)
  | .pound, '!', _ => (false, .poundBang)
  | .name, '!', false => (false, .nameBang)
  | .colon, ':', _ => (false, .twoColons)
  | state, c, joint => freeMarkStep matcher state c joint

/-- Whether there is a gap before a token, and the state after it. -/
def step (matcher : Bool) (state : State) : Token → Bool × State
  | .name ident => nameStep matcher state ident.spelling
  | .literal _ => literalStep state
  | .mark c joint => markStep matcher state c joint
  | .group delimiter _ => groupStep state delimiter
  | .lifetime ident =>
    let (gap, state) := markStep matcher state '\'' true
    (gap, (nameStep matcher state ident.spelling).2)

/-- Whether the token after this one follows without a gap. -/
def holdsNext : Token → Bool
  | .mark c joint => joint || c == '$'
  | _ => false

/-- The gap before a token. -/
def gapBefore (needed : Bool) (token : Token) : List Piece :=
  match needed, token with
  | true, _ => [.gap { blanks := 1 }]
  | false, .mark '.' _ => [.gap {}]
  | false, _ => []

mutual

/-- The pieces of a token. -/
def piecesOf (matcher : Bool) : Token → List Piece
  | .group delimiter [] => [.word (delimiter.opening ++ delimiter.closing)]
  | .group .brace inside =>
    .word "\x7b" :: .gap { blanks := 1 } :: pieces matcher .start true inside ++
      [.gap { blanks := 1 }, .word "\x7d"]
  | .group delimiter inside =>
    .word delimiter.opening :: pieces matcher .start true inside ++ [.word delimiter.closing]
  | token => [.word token.text]
termination_by structural token => token

/-- The pieces of tokens.  `held` says whether the first one follows without a
gap. -/
def pieces (matcher : Bool) (state : State) (held : Bool) : List Token → List Piece
  | [] => []
  | token :: rest =>
    let (needed, next) := step matcher state token
    (if held then [] else gapBefore needed token) ++ piecesOf matcher token ++
      pieces matcher next (holdsNext token) rest
termination_by structural tokens => tokens

end

/-- The pieces of tokens in brackets, as a group that starts with a certain
gap. -/
def enclosed (matcher : Bool) (gap : Layout.Gap) (tokens : List Token) : List Piece :=
  if tokens.isEmpty then []
  else
    [.group level true
      [.gap gap, .group 0 false (pieces matcher .start true tokens),
        .gap { gap with shift := -level }]]

/-- A gap that always breaks. -/
def lineFeed : Layout.Gap := { blanks := Layout.endless }

/-- The brackets and the tokens that something is invoked with. -/
def invoked (delimiter : Delimiter) (tokens : List Token) : List Piece :=
  match delimiter with
  | .brace => .word " \x7b" :: enclosed false lineFeed tokens ++ [.word "\x7d"]
  | delimiter =>
    .word delimiter.opening :: enclosed false {} tokens ++ [.word delimiter.closing]

/-! ## Rules -/

/-- What comes next in a list of rules. -/
inductive RuleState where
  | start
  | matcher
  | equal
  | greater
  | expander
deriving DecidableEq, Repr, Inhabited

/-- The pieces of rules, if they have the form of rules. -/
def rules? : RuleState → List Token → Option (List Piece)
  | .start, [] => some []
  | .expander, [] => some [.word ";", Layout.newline 0]
  | _, [] => some [Layout.newline 0]
  | .start, .group delimiter tokens :: rest =>
    (rules? .matcher rest).map fun more =>
      .word delimiter.opening :: enclosed true {} tokens ++ .word delimiter.closing :: more
  | .matcher, .mark '=' true :: rest => (rules? .equal rest).map (.word " =" :: ·)
  | .equal, .mark '>' false :: rest => (rules? .greater rest).map (.word ">" :: ·)
  | .greater, .group _ tokens :: rest =>
    (rules? .expander rest).map fun more =>
      .word " \x7b" :: .gap { fixed := true } :: enclosed false lineFeed tokens ++
        .word "\x7d" :: more
  | .expander, .mark ';' false :: rest =>
    (rules? .start rest).map fun more => .word ";" :: Layout.newline 0 :: more
  | _, _ => none

/-- The pieces of named rules, if they have the form of rules. -/
def namedRules? (name : Ident) (tokens : List Token) : Option (List Piece) :=
  (rules? .start tokens).map fun pieces =>
    [.word ("macro_rules! " ++ name.spelling ++ " \x7b")] ++ Layout.hangingGroup pieces ++
      [.word "\x7d"]

/-! ## Attributes -/

/-- What was just written in an attribute. -/
inductive AttributeState where
  | word
  | mark
  | lastComma
deriving DecidableEq, Repr, Inhabited

/-- The gap between two words of an attribute, which is fixed outside of all
brackets. -/
def between (inside : Bool) : Piece := if inside then .gap { blanks := 1 } else .word " "

/-- The gap before a word of an attribute. -/
def beforeWord (inside : Bool) : AttributeState → List Piece
  | .word => [between inside]
  | _ => []

/-- The pieces of a mark in an attribute, which is the last one in its brackets
or not. -/
def attributeMark (inside last : Bool) (state : AttributeState) (c : Char) : List Piece :=
  if c == ',' && last then [.gap { atEnd := some ',' }]
  else
    (if state = .word && c == '=' then [.word " "] else []) ++ [.word (String.singleton c)] ++
      (if c == '=' then [.word " "] else if c == ',' then [between inside] else [])

mutual

/-- The pieces of a group in an attribute. -/
def attributeGroup : Token → List Piece
  | .group .parenthesis tokens =>
    let (inside, state) := attributePieces true .mark tokens
    [.word "(",
      .group level true
        (Layout.shiftLast (-level)
          (.gap {} :: inside ++ (if state = .lastComma then [] else [.gap {}]))),
      .word ")"]
  | .group delimiter tokens =>
    .word delimiter.opening :: (attributePieces true .mark tokens).1 ++ [.word delimiter.closing]
  | token => [.word token.text]
termination_by structural token => token

/-- The pieces of tokens in an attribute, and what was written last. -/
def attributePieces (inside : Bool) (state : AttributeState) :
    List Token → List Piece × AttributeState
  | [] => ([], state)
  | token :: rest =>
    let (first, next) : List Piece × AttributeState :=
      match token with
      | .mark c _ =>
        (attributeMark inside rest.isEmpty state c,
          if c == ',' && rest.isEmpty then .lastComma else .mark)
      | .group _ _ => (attributeGroup token, .mark)
      | .lifetime ident => ([.word (Token.lifetimeText ident)], .word)
      | token => (beforeWord inside state ++ [.word token.text], .word)
    let (more, last) := attributePieces inside next rest
    (first ++ more, last)
termination_by structural tokens => tokens

end

end ProtoSchema.TokenLayout
