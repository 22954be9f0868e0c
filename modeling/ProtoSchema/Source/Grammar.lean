import ProtoSchema.Source.Statement

/-!
# Readers for everything that is nested

Every reader is made from readers for what stands inside of what it reads.
`Nested.upTo n` ties them together.  Its readers go down `n` steps at most, which
is enough for tokens of which there are fewer.
-/

namespace ProtoSchema

namespace Nested

/-- Readers that go down some steps at most. -/
def upTo : Nat → Nested
  | 0 => .none
  | n + 1 =>
    let inner := upTo n
    { type := TypeExpression.read inner
      arguments := TypeExpression.arguments inner
      bound := Bound.read inner
      pattern := Pattern.read inner
      expression := Expression.read inner
      operand := Expression.operand inner
      result := Expression.result inner
      block := Statement.block inner
      fields := Declaration.namedFields inner
      imported := Import.read inner
      declaration := Declaration.read inner }

/-- Readers for all of some tokens.  One token leads down three steps at most. -/
def forTokens (tokens : List Token) : Nested := upTo (3 * Token.sizes tokens + 3)

end Nested

end ProtoSchema
