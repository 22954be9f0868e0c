import ProtoSchema.Source.Pattern

/-!
# Reading expressions

An expression is made of operands with operators between them.  An operator
binds its sides more or less closely.  Comparisons do not follow one another, and
of two operators that bind equally closely the first one is applied first, unless
they assign.

An operand is something in brackets, a path, a block or a word with what belongs
to it.  Operators stand in front of it, and arguments or an index may follow.
-/

namespace ProtoSchema

open Layout (Piece level)

/-! ## Operators -/

/-- An operator between two operands, and how closely it binds them. -/
structure Operator where
  /-- How it is written. -/
  text : String
  /-- How closely it binds. -/
  closeness : Nat
deriving DecidableEq, Repr, Inhabited

namespace Operator

/-- How closely an assignment binds. -/
def assigning : Nat := 1

/-- How closely a comparison binds. -/
def comparing : Nat := 6

/-- The operators that are made of marks.  One comes after every longer one that
it starts. -/
def ofMarks : List Operator :=
  (["+=", "-=", "*=", "/=", "%=", "^=", "&=", "|=", "<<=", ">>="].map (⟨·, assigning⟩)) ++
    [⟨"&&", 4⟩, ⟨"||", 3⟩, ⟨"<<", 10⟩, ⟨">>", 10⟩] ++
    (["==", "<=", "!=", ">="].map (⟨·, comparing⟩)) ++
    [⟨"+", 11⟩, ⟨"-", 11⟩, ⟨"*", 12⟩, ⟨"/", 12⟩, ⟨"%", 12⟩, ⟨"^", 8⟩, ⟨"&", 9⟩, ⟨"|", 7⟩] ++
    (["<", ">"].map (⟨·, comparing⟩))

/-- The operator that changes a type. -/
def cast : Operator := ⟨"as", 13⟩

/-- The operator that assigns. -/
def assign : Operator := ⟨"=", assigning⟩

/-- The operator that comes next. -/
def next? (tokens : List Token) : Option Operator :=
  match ofMarks.find? fun operator => Ahead.mark operator.text tokens with
  | some operator => some operator
  | none =>
    if Ahead.mark "=" tokens && !Ahead.mark "=>" tokens then some assign
    else if Ahead.word "as" tokens then some cast
    else none

/-- What two operands with an operator between them are. -/
def kind (operator : Operator) : ExpressionKind :=
  if operator.closeness = comparing then .comparison
  else if operator.closeness = assigning then .assignment
  else .other

end Operator

namespace Expression

open Reader

/-! ## Chains of operands -/

/-- Two sides with something between them, which starts a line of its own when
they do not fit. -/
def sides (left : ExpressionText) (between : String) (right : List Piece)
    (kind : ExpressionKind) : ExpressionText where
  pieces :=
    [.group level false
      (.group (-level) false left.pieces :: .gap { blanks := 1 } :: .word (between ++ " ") ::
        right)]
  kind
  wraps := true
  startsStatement := left.opensStatement

/-- A value that is assigned. -/
def assignment (left right : ExpressionText) : ExpressionText where
  pieces :=
    [.group 0 false (left.pieces ++ .word " = " :: .gap { fixed := true } :: right.pieces)]
  kind := .assignment
  wraps := true
  startsStatement := left.opensStatement

/-- Reads the type that the operand in front is changed to.  Nothing may be
called or taken from the result. -/
def cast (nested : Nested) (left : ExpressionText) : Reader ExpressionText := do
  word "as"
  let type ← nested.type false
  let continued : Ahead :=
    .or (.mark "?") (.or (.group .bracket) (.group .parenthesis))
  guard !(← sees continued)
  return sides left "as" type.pieces .other

mutual

/-- Reads the operators that bind at least as closely as `least`, and what is on
their right sides. -/
def chainUpTo (nested : Nested) (fields : Bool) :
    Nat → Nat → ExpressionText → Reader ExpressionText
  | 0, _, _ => failure
  | n + 1, least, left => do
    let some operator := Operator.next? (← get).rest | return left
    if operator.closeness < least then return left
    if operator = .cast then
      chainUpTo nested fields n least (← cast nested left)
    else
      guard !(operator.kind == .comparison && left.kind == .comparison)
      mark operator.text
      let operand ← nested.operand fields
      let right ← sideUpTo nested fields n operator.closeness operand
      let whole :=
        if operator = .assign then assignment left right
        else sides left operator.text right.pieces operator.kind
      chainUpTo nested fields n least whole
termination_by structural n => n

/-- Reads the rest of the right side of an operator: what binds more closely than
the operator itself. -/
def sideUpTo (nested : Nested) (fields : Bool) :
    Nat → Nat → ExpressionText → Reader ExpressionText
  | 0, _, _ => failure
  | n + 1, closeness, right => do
    let some operator := Operator.next? (← get).rest | return right
    if operator.closeness > closeness ||
        (operator.closeness == closeness && closeness == Operator.assigning) then
      sideUpTo nested fields n closeness (← chainUpTo nested fields n operator.closeness right)
    else return right
termination_by structural n => n

end

/-- Reads the operators after an operand that bind at least as closely as `least`,
and what is on their right sides. -/
def chain (nested : Nested) (fields : Bool) (least : Nat) (left : ExpressionText) :
    Reader ExpressionText :=
  bounded fun n => chainUpTo nested fields n least left

/-! ## Brackets -/

/-- The pieces of what is called with some arguments. -/
def callPieces (called : List Piece) (arguments : List ExpressionText) : List Piece :=
  match arguments with
  | [argument] =>
    if argument.hugs then called ++ .word "(" :: argument.pieces ++ [.word ")"]
    else called ++ Layout.bracketed "(" ")" [argument.pieces]
  | arguments => called ++ Layout.bracketed "(" ")" (arguments.map ExpressionText.pieces)

/-- Reads what follows an operand. -/
def trailersUpTo (nested : Nested) : Nat → ExpressionText → Reader ExpressionText
  | 0, _ => failure
  | n + 1, operand => do
    if ← sees (.group .parenthesis) then
      let arguments ← inside .parenthesis (list (nested.expression true))
      trailersUpTo nested n {
        pieces := callPieces operand.pieces arguments
        kind := .call
        wraps := operand.wraps
        startsStatement := operand.opensStatement }
    else if ← sees (.group .bracket) then
      let index ← inside .bracket (nested.expression true)
      trailersUpTo nested n {
        pieces := operand.pieces ++ .word "[" :: index.pieces ++ [.word "]"]
        wraps := true
        startsStatement := operand.opensStatement }
    else if ← takesMark "?" then
      trailersUpTo nested n {
        pieces := operand.pieces ++ [.word "?"]
        wraps := operand.wraps
        startsStatement := operand.startsStatement }
    else return operand

/-- Reads what follows an operand. -/
def trailers (nested : Nested) (operand : ExpressionText) : Reader ExpressionText :=
  bounded fun n => trailersUpTo nested n operand

/-- Reads expressions in parentheses: one, or several with commas. -/
def grouped (nested : Nested) (isAttributed : Bool) : Reader ExpressionText := do
  let found ← inside .parenthesis (separated Ahead.nothing (nested.expression true))
  match found.items, found.trailing with
  | [item], false =>
    return { pieces := .word "(" :: item.pieces ++ [.word ")"], wraps := item.wraps }
  | items, _ =>
    return {
      pieces := TypeExpression.tuple (items.map ExpressionText.pieces)
      kind := .enclosed
      ownArm :=
        if items.isEmpty && !isAttributed then some (BlockText.hangingGroup {}) else none }

/-- The pieces of items in square brackets.  Simple ones stand on one line as long
as they fit. -/
def itemPieces (items : List ExpressionText) : List Piece :=
  if items.all fun item => item.kind == .simple then
    let filled := [Piece.word ",", .gap { blanks := 1 }].intercalate
      (items.map ExpressionText.pieces)
    [.word "[",
      .group level true
        [.gap {}, .group 0 false filled, .gap { atEnd := some ',', shift := -level }],
      .word "]"]
  else Layout.enclosed "[" "]" (items.map ExpressionText.pieces)

/-- Reads items in square brackets, or an item and how often it is repeated. -/
def sequence (nested : Nested) : Reader ExpressionText := inside .bracket do
  if ← sees Ahead.nothing then return { pieces := [.word "[]"], kind := .enclosed }
  let first ← nested.expression true
  if ← takesMark ";" then
    let count ← nested.expression true
    return { pieces := .word "[" :: first.pieces ++ .word "; " :: count.pieces ++ [.word "]"] }
  let rest ← if ← takesMark "," then list (nested.expression true) else pure []
  return { pieces := itemPieces (first :: rest), kind := .enclosed }

/-! ## Paths -/

/-- Reads the value of a field. -/
def field (nested : Nested) : Reader (List Piece) := do
  let attributes ← Attribute.outer nested
  let isIndex ← sees Ahead.index
  let member ← Pattern.member
  if isIndex || (← sees (.mark ":")) then
    mark ":"
    let value ← nested.expression true
    return attributes ++ [.word (member ++ ": "), .group 0 false value.pieces]
  return attributes ++ [.word member]

/-- Reads a path to a value, something that is invoked, or a value with fields if
it may stand there. -/
def path (nested : Nested) (fields : Bool) : Reader ExpressionText := do
  let (header, isSimple) ← PathText.value nested
  if isSimple && (← sees Invocation.bang) then
    let found ← Invocation.rest header
    return { pieces := found.pieces, kind := .invocation found.hasBraces }
  if fields && (← sees (.group .brace)) then
    let items ← inside .brace (list (field nested))
    return { pieces := Pattern.fields header items, kind := .enclosed }
  return { pieces := header }

/-! ## Jumps -/

/-- Whether an expression may come next. -/
def mayStart : Ahead := fun tokens =>
  (Ahead.anyName tokens && !Ahead.word "as" tokens) || Ahead.literal tokens ||
    Ahead.lifetime tokens ||
    [Delimiter.parenthesis, .bracket, .brace].any (Ahead.group · tokens) ||
    (Ahead.mark "!" tokens && !Ahead.mark "!=" tokens) ||
    (Ahead.mark "-" tokens && !Ahead.marks ["-=", "->"] tokens) ||
    (Ahead.mark "*" tokens && !Ahead.mark "*=" tokens) ||
    (Ahead.mark "|" tokens && !Ahead.mark "|=" tokens) ||
    (Ahead.mark "&" tokens && !Ahead.mark "&=" tokens) ||
    (Ahead.mark "<" tokens && !Ahead.marks ["<=", "<<="] tokens) ||
    Ahead.marks ["::", "#"] tokens

/-- Reads the value that a jump takes along, if there is one. -/
def taken (nested : Nested) (jump : String) (ahead : Ahead) : Reader ExpressionText := do
  if ← sees ahead then
    let value ← nested.expression true
    return { pieces := .word (jump ++ " ") :: value.pieces, kind := .jump, wraps := value.wraps }
  return { pieces := [.word jump], kind := .jump }

/-- Reads the label that a jump leads to, if there is one. -/
def destination (jump : String) : Reader String := do
  if ← sees Ahead.lifetime then return jump ++ " " ++ (← lifetime)
  return jump

/-- Reads a jump out of a loop or a block. -/
def exit (nested : Nested) (fields : Bool) : Reader ExpressionText := do
  word "break"
  guard !(← sees (.and Ahead.lifetime (.after 1 (.mark ":"))))
  let jump ← destination "break"
  taken nested jump (.and mayStart fun tokens => fields || !Ahead.group .brace tokens)

/-! ## Closures -/

/-- Reads an input of a closure. -/
def closureInput (nested : Nested) : Reader (List Piece) := do
  let attributes ← Attribute.outer nested
  let pattern ← nested.pattern
  let type : List Piece ←
    if ← takesMark ":" then do pure (.word ": " :: (← nested.type true).pieces) else pure []
  return attributes ++ pattern.pieces ++ type

/-- Reads a block without attributes in its braces. -/
def plainBlock (nested : Nested) : Reader BlockText := do
  let block ← nested.block
  guard block.attributes.isEmpty
  return block

/-- The inputs of a closure without a bar behind them. -/
def closureInputs (inputs : List (List Piece)) : List Piece :=
  if inputs.isEmpty then []
  else .gap {} :: [Piece.word ",", .gap { blanks := 1 }].intercalate inputs

/-- Reads a closure. -/
def closure (nested : Nested) (fields : Bool) : Reader ExpressionText := do
  let binder ← Bound.binder nested
  let words ← ["const", "static", "async", "move"].flatMapM optionalWord
  mark "|"
  let inputs ← Punctuated.items <$> separated (.mark "|") (closureInput nested)
  mark "|"
  let header (rest : List Piece) : List Piece :=
    binder.getD [] ++ words ++ [.group level true (.word "|" :: closureInputs inputs ++ rest)]
  if ← takesMark "->" then
    let type ← nested.type true
    let block ← plainBlock nested
    let stop : List Piece :=
      if inputs.isEmpty then [] else [.gap { atEnd := some ',', shift := -level }]
    return {
      pieces :=
        [.group 0 false
          (header (stop ++ [.word "|"]) ++ .word " -> " :: type.pieces ++
            [.word " ", .gap { fixed := true }, block.group])]
      kind := .enclosed }
  let body ← nested.expression fields
  let result := if body.followsInputs then body.pieces else [body.inBrackets false]
  return {
    pieces :=
      [.group 0 false
        (header [.word "|", .gap { blanks := 1, shift := -level }] ++
          .gap { fixed := true } :: result)]
    kind := .enclosed }

/-! ## Conditions -/

/-- Reads a pattern that a value may have, which is a condition. -/
def binding (nested : Nested) (fields : Bool) : Reader ExpressionText := do
  word "let"
  let pattern ← Pattern.choice nested
  mark "="
  let value ← chain nested fields Operator.comparing (← nested.operand fields)
  return {
    pieces :=
      [.group 0 false
        (.word "let " :: .group 0 false pattern.pieces :: .word " = " ::
          .gap { fixed := true } :: value.pieces)]
    wraps := value.wraps }

/-- Reads a condition and the block that depends on it. -/
def clause (nested : Nested) : Reader (List Piece × BlockText) := do
  word "if"
  let condition ← nested.expression false
  let block ← plainBlock nested
  return ([.word "if ", .group (-level) true condition.beforeBrace], block)

/-- Reads the blocks for when a condition does not hold.  Says whether the last one
depends on nothing. -/
def alternatives (nested : Nested) : Nat → Reader (List Piece × Bool)
  | 0 => failure
  | n + 1 => do
    if ← takesWord "else" then
      if ← sees (.word "if") then
        let (header, block) ← clause nested
        let (rest, complete) ← alternatives nested n
        return (.word " else " :: header ++ block.pieces ++ rest, complete)
      let block ← plainBlock nested
      return (.word " else " :: block.pieces, true)
    return ([], false)

/-- Reads a block that depends on a condition, and what else is done. -/
def conditional (nested : Nested) : Reader ExpressionText := do
  let (header, block) ← clause nested
  let (rest, complete) ← bounded (alternatives nested)
  let blocks := if rest.isEmpty then block.hanging else block.pieces ++ rest
  return { pieces := [.group level true (header ++ blocks)], kind := .conditional complete }

/-- Reads a condition on an arm, if there is one. -/
def guardPieces (nested : Nested) : Reader (List Piece) := do
  if ← takesWord "if" then return .word " if " :: (← nested.expression true).pieces
  return []

/-! ## Blocks -/

/-- Reads a label, if there is one. -/
def label : Reader (List Piece) := do
  if ← sees Ahead.lifetime then
    let name ← lifetime
    mark ":"
    return [.word (name ++ ": ")]
  return []

/-- An expression that is a block behind some words. -/
def ofBlock (header : List Piece) (kind : ExpressionKind) (block : BlockText) : ExpressionText where
  pieces := header ++ [block.group]
  kind

/-- Reads a block.  One that is a single expression and nothing else is not needed
as the result of an arm. -/
def block (nested : Nested) (label : List Piece) (isAttributed : Bool) : Reader ExpressionText := do
  let block ← nested.block
  let isPlain := label.isEmpty && block.attributes.isEmpty && !isAttributed
  let arm :=
    match block.single? with
    | some single => if isPlain then single.armPieces else label ++ block.hangingGroup
    | none => label ++ block.hangingGroup
  return { ofBlock label .block block with ownArm := some arm }

/-- Reads a block that is repeated. -/
def loop (nested : Nested) (label : List Piece) : Reader ExpressionText := do
  if ← takesWord "while" then
    let condition ← nested.expression false
    let block ← nested.block
    return {
      pieces := label ++ .word "while " :: condition.beforeBrace ++ block.hangingGroup
      kind := .loop false }
  if ← takesWord "for" then
    let pattern ← Pattern.choice nested
    word "in"
    let values ← nested.expression false
    let block ← nested.block
    return {
      pieces :=
        [.group 0 false
          (label ++ .word "for " :: pattern.pieces ++ .word " in " :: .gap { fixed := true } ::
            values.beforeBrace ++ block.hangingGroup)]
      kind := .loop false }
  word "loop"
  let block ← nested.block
  return {
    pieces := label ++ .word "loop \x7b" :: Layout.hangingGroup block.inside ++ [.word "\x7d"]
    kind := .loop true }

/-- Whether a binder comes next. -/
def startsBinder : Ahead := .and (.word "for") (.after 1 Parameters.mayStart)

/-- Whether a block comes next that ends a statement. -/
def startsBlock : Ahead := fun tokens =>
  Ahead.oneOfWords ["if", "while", "loop", "match", "unsafe"] tokens ||
    (Ahead.word "for" tokens && !startsBinder tokens) ||
    (Ahead.oneOfWords ["try", "const"] tokens && Ahead.after 1 (.group .brace) tokens) ||
    Ahead.group .brace tokens || Ahead.lifetime tokens

/-- Whether a block comes next that is done later. -/
def startsTask : Ahead := fun tokens =>
  let body := Ahead.skipWords ["async", "move"] tokens
  Ahead.word "async" tokens && Ahead.group .brace body

/-- Whether a closure comes next. -/
def startsClosure : Ahead := fun tokens =>
  Ahead.mark "|" tokens || Ahead.oneOfWords ["move", "static"] tokens || startsBinder tokens ||
    (Ahead.word "const" tokens && !Ahead.after 1 (.group .brace) tokens) ||
    (Ahead.word "async" tokens && Ahead.after 1 (.or (.mark "|") (.word "move")) tokens)

/-! ## Choices -/

/-- Reads an arm.  A comma has to follow it unless its result is a block, or no
other arm follows. -/
def arm (nested : Nested) : Reader (List Piece) := do
  let attributes ← Attribute.outer nested
  let pattern ← Pattern.choice nested
  let condition ← guardPieces nested
  mark "=>"
  let result ← nested.result []
  let hasComma ← takesMark ","
  guard (hasComma || result.kind.isClosed || (← sees Ahead.nothing))
  return attributes ++
    [.group 0 false (pattern.pieces ++ condition ++ .word " => " :: result.armPieces),
      Layout.newline 0]

/-- Reads a choice between arms. -/
def choice (nested : Nested) : Reader ExpressionText := do
  word "match"
  let value ← nested.expression false
  let arms ← inside .brace do
    let attributes ← Attribute.inner nested
    return attributes ++ (← repeated Ahead.nothing (arm nested)).flatten
  return {
    pieces :=
      [.group 0 false
        (.word "match " :: value.beforeBrace ++ .word "\x7b" :: .gap { fixed := true } ::
          Layout.hangingGroup arms ++ [.word "\x7d"])]
    kind := .choice }

/-! ## Operands -/

/-- Reads a block that ends a statement. -/
def closed (nested : Nested) (isAttributed : Bool) : Reader ExpressionText := do
  if ← sees (.word "if") then return ← conditional nested
  if ← sees (.word "match") then return ← choice nested
  if ← takesWord "unsafe" then return ofBlock [.word "unsafe "] .block (← nested.block)
  if ← takesWord "const" then return ofBlock [.word "const "] .block (← nested.block)
  if ← takesWord "try" then return ofBlock [.word "try "] .block (← plainBlock nested)
  let label ← label
  if ← sees (.group .brace) then block nested label isAttributed else loop nested label

/-- Reads an expression that has a meaning only to those who read it. -/
def special (nested : Nested) : Reader Unit := verbatim do
  if ← takesWord "builtin" then
    mark "#"
    let _ ← name
    guard (← sees (.group .parenthesis))
    let _ ← anyGroup
  else
    word "become"
    let _ ← nested.expression true

/-- Whether an expression comes next that has a meaning only to those who read
it. -/
def startsSpecial : Ahead := fun tokens =>
  Ahead.word "become" tokens || (Ahead.word "builtin" tokens && Ahead.after 1 (.mark "#") tokens)

/-- Whether a path comes next. -/
def startsPath : Ahead := fun tokens =>
  Ahead.name tokens || Ahead.oneOfWords ["self", "Self", "super", "crate"] tokens ||
    Ahead.marks ["::", "<"] tokens ||
    (Ahead.word "try" tokens && Ahead.after 1 (.marks ["!", "::"]) tokens)

/-- Reads an operand without what stands in front of it and what follows it. -/
def atom (nested : Nested) (fields isAttributed : Bool) : Reader ExpressionText := do
  if ← sees Ahead.literal then
    let text ← literal
    return { pieces := [.word text], kind := if Literal.isSimple text then .simple else .other }
  if ← sees startsBlock then return ← closed nested isAttributed
  if ← sees startsTask then
    word "async"
    let movement ← optionalWord "move"
    return ofBlock (.word "async " :: movement) .enclosed (← plainBlock nested)
  if ← sees startsClosure then return ← closure nested fields
  if ← sees startsSpecial then
    special nested
    return { pieces := [] }
  if ← sees startsPath then return ← path nested fields
  if ← sees (.group .parenthesis) then return ← grouped nested isAttributed
  if ← sees (.group .bracket) then return ← sequence nested
  if ← sees (.word "break") then return ← exit nested fields
  if ← takesWord "continue" then
    return { pieces := [.word (← destination "continue")], kind := .jump }
  if ← takesWord "return" then return ← taken nested "return" mayStart
  if ← takesWord "yield" then return ← taken nested "yield" mayStart
  if ← sees (.word "let") then return ← binding nested fields
  word "_"
  return { pieces := [.word "_"] }

/-- Reads what makes a reference what it is. -/
def referenceKind : Reader (List Piece) := do
  if ← sees (.and (.word "raw") (.after 1 (.oneOfWords ["mut", "const"]))) then
    word "raw"
    if ← takesWord "mut" then return [.word "raw mut "]
    word "const"
    return [.word "raw const "]
  optionalWord "mut"

/-- Reads the operator in front of an operand, if there is one. -/
def sign : Reader (List Piece) := do
  if ← takesMark "&" then return .word "&" :: (← referenceKind)
  for text in ["*", "!", "-"] do
    if ← takesMark text then return [.word text]
  return []

/-- Reads an operand after its attributes. -/
def operandAfter (nested : Nested) (fields : Bool) (attributes : List Piece) :
    Reader ExpressionText := do
  let sign ← sign
  let operand : ExpressionText ←
    if sign.isEmpty then do
      trailers nested (← atom nested fields (!attributes.isEmpty))
    else do
      let operand ← nested.operand fields
      pure { pieces := sign ++ operand.pieces, wraps := operand.wraps }
  return operand.withAttributes attributes

/-- Reads an operand. -/
def operand (nested : Nested) (fields : Bool) : Reader ExpressionText := do
  operandAfter nested fields (← Attribute.outer nested)

/-! ## Expressions -/

/-- Reads an expression.  One with fields in braces is read if it may stand
there. -/
def read (nested : Nested) (fields : Bool) : Reader ExpressionText := do
  chain nested fields 0 (← operand nested fields)

/-- Reads an expression that is a statement or the result of an arm.  Some of its
attributes were read before.  A block at its start ends it, unless a question mark
follows. -/
def result (nested : Nested) (before : List Piece) : Reader ExpressionText := do
  let attributes := before ++ (← Attribute.outer nested)
  if ← sees startsBlock then
    let block ← closed nested (!attributes.isEmpty)
    if ← sees (.mark "?") then
      let operand ← trailers nested block
      chain nested true 0 (operand.withAttributes attributes)
    else return block.withAttributes attributes
  else chain nested true 0 (← operandAfter nested true attributes)

end Expression

end ProtoSchema
