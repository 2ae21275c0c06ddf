namespace Bulletin.Text

def split (isSeparator : Char → Bool) : List Char → List (List Char)
  | [] => [[]]
  | c :: cs =>
    if isSeparator c then [] :: split isSeparator cs
    else match split isSeparator cs with
      | part :: parts => (c :: part) :: parts
      | [] => [[c]]

end Bulletin.Text
