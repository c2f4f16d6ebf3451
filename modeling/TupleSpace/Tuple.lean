/-!
# Tuples

A tuple is text between angle brackets, such as `<a,1>`. Search patterns have the same shape.
-/

namespace TupleSpace

/-- Text that starts with `<` and ends with `>`. -/
def isBracketed (text : String) : Bool :=
  text.toList.head? == some '<' && text.toList.getLast? == some '>'

end TupleSpace
