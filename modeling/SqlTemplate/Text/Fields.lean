/-!
# Fields

A text in which a character separates fields: the names of a path, the segments of a pattern. There
is always one field more than there are separators, so the empty text is one empty field and a
separator at an end has an empty field beyond it. **No field holds the separator.**
-/

set_option autoImplicit false

namespace SqlTemplate
namespace Text

def fields (separator : Char) : List Char → List (List Char)
  | [] => [[]]
  | c :: rest =>
    if c = separator then [] :: fields separator rest
    else
      match fields separator rest with
      | [] => [[c]]
      | field :: others => (c :: field) :: others

end Text
end SqlTemplate
