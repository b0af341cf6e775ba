namespace KarelLab.Text

def plainLines : List Char → List Char
  | [] => []
  | '\r' :: '\n' :: rest => '\n' :: plainLines rest
  | '\r' :: rest => '\n' :: plainLines rest
  | c :: rest => c :: plainLines rest

def unifyLineEnds (s : String) : String := String.ofList (plainLines s.toList)

end KarelLab.Text
