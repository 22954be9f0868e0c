/-!
# Full names

The full name of a type is its package and the names around it, joined by dots.
A reference to a type is written with a dot in front.  A *bare* name has none,
and tables are known by their bare names.
-/

namespace ProtoSchema.FullName

/-- A name without the dots in front of it. -/
def bare (name : String) : String := String.ofList (name.toList.dropWhile fun c => c == '.')

/-- The name of something declared inside what `outer` stands for.  `outer`
ends in a dot. -/
def inside (outer name : String) : String := outer ++ name

/-- What stands in front of a name declared inside this one. -/
def asOuter (name : String) : String := name ++ "."

end ProtoSchema.FullName
