/-!
# Flags

A flag is an argument that is followed by its value. Flags are told by their position alone: an
argument may at once be the value of one flag and the name of another, and a flag that is the last
argument has no value.
-/

namespace TopicStream.Command.Flags

/-- The value of a flag: the argument that follows its first occurrence. -/
def value? (flag : String) : List String → Option String
  | [] => none
  | argument :: rest => if argument = flag then rest.head? else value? flag rest

/-- The values of a flag: all arguments that follow an occurrence of it, in order. -/
def values (flag : String) : List String → List String
  | [] => []
  | argument :: rest =>
    if argument = flag then rest.head?.toList ++ values flag rest else values flag rest

end TopicStream.Command.Flags
