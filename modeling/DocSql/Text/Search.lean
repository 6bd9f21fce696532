/-!
Finding one text inside another.
-/
namespace DocSql.Text

def after? (needle : List Char) : List Char → Option (List Char)
  | [] => if needle.isEmpty then some [] else none
  | c :: rest =>
    if needle.isPrefixOf (c :: rest) then some ((c :: rest).drop needle.length)
    else after? needle rest

def occurs (needle text : String) : Bool := (after? needle.toList text.toList).isSome

end DocSql.Text
