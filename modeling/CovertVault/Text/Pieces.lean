namespace CovertVault.Text

/-- The pieces between the marks of one kind, one more than there are marks. -/
def pieces (mark : Char) : List Char → List (List Char)
  | [] => [[]]
  | c :: r =>
    if c = mark then [] :: pieces mark r
    else match pieces mark r with
      | [] => [[c]]
      | p :: ps => (c :: p) :: ps

end CovertVault.Text
