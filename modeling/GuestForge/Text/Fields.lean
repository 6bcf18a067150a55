set_option autoImplicit false

/-!
# Fields and segments of a text

The fields of a text are its maximal runs of characters that are no separators; no field is empty. Its segments
are what stands between one separator and the next, which may be nothing.
-/
namespace GuestForge.Text

def fieldsFrom (isSeparator : Char → Bool) (field : List Char) : List Char → List (List Char)
  | [] => if field = [] then [] else [field]
  | c :: rest =>
    if isSeparator c then
      if field = [] then fieldsFrom isSeparator [] rest else field :: fieldsFrom isSeparator [] rest
    else fieldsFrom isSeparator (field ++ [c]) rest

def fields (isSeparator : Char → Bool) (text : List Char) : List (List Char) := fieldsFrom isSeparator [] text

def segments (separator : Char) : List Char → List (List Char)
  | [] => [[]]
  | c :: rest =>
    if c = separator then [] :: segments separator rest
    else match segments separator rest with
      | [] => [[c]]
      | first :: others => (c :: first) :: others

end GuestForge.Text
