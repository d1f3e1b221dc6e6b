/-!
# Values of the wrong kind

An operation that needs a value of one kind fails on a value of another.  The kinds go
by their names.
-/

namespace AccessDecision

/-- A value of one kind where another is needed. -/
inductive KindFault where
  | notCallable (kind : String)
  | notIterable (kind : String)
  | unhashable (kind : String)
  | notSubscriptable (kind : String)
  | textIndex
  | listIndex
  /-- Fields cannot be set in a value of this kind. -/
  | notSettable (kind : String)
  | notInteger
  /-- Nothing can be repeated as often as a value of this kind says. -/
  | notCount (kind : String)
  /-- A value of this kind cannot be added to a number. -/
  | notSummand (kind : String)
  | notDuration (kind : String)
  | notPath (kind : String)
  /-- No text starts with a value of this kind. -/
  | notStart (kind : String)
  | unordered (kind : String)
  /-- A field is taken from a value that has none of that name. -/
  | noField (kind field : String)
  /-- Something is made with an argument that its maker does not know. -/
  | unexpectedArgument (maker name : String)
  /-- Something is made without an argument that its maker needs. -/
  | missingArgument (maker name : String)
deriving DecidableEq

def KindFault.message : KindFault → String
  | .notCallable kind => "'" ++ kind ++ "' object is not callable"
  | .notIterable kind => "'" ++ kind ++ "' object is not iterable"
  | .unhashable kind => "unhashable type: '" ++ kind ++ "'"
  | .notSubscriptable kind => "'" ++ kind ++ "' object is not subscriptable"
  | .textIndex => "string indices must be integers, not 'str'"
  | .listIndex => "list indices must be integers or slices, not str"
  | .notSettable kind => "'" ++ kind ++ "' object does not support item assignment"
  | .notInteger => "an integer is required"
  | .notCount kind => "can't multiply sequence by non-int of type '" ++ kind ++ "'"
  | .notSummand kind =>
      "unsupported operand type(s) for +=: 'float' and '" ++ kind ++ "'"
  | .notDuration kind => "unsupported type for timedelta seconds component: " ++ kind
  | .notPath kind => "expected str, bytes or os.PathLike object, not " ++ kind
  | .notStart kind => "startswith first arg must be str or a tuple of str, not " ++ kind
  | .unordered kind =>
      "'<=' not supported between instances of '" ++ kind ++ "' and 'int'"
  | .noField kind field => "'" ++ kind ++ "' object has no attribute '" ++ field ++ "'"
  | .unexpectedArgument maker name =>
      maker ++ ".__init__() got an unexpected keyword argument '" ++ name ++ "'"
  | .missingArgument maker name =>
      maker ++ ".__init__() missing 1 required positional argument: '" ++ name ++ "'"

end AccessDecision
