/-!
# Capital letters

Names of log levels are compared in capitals. The capital form of a character may be several
characters long and may be an ASCII form although the character itself is not ASCII, as for the
dotless i or a ligature. Level names are ASCII, so a character whose capital form leaves ASCII
can never take part in one, and it is left as it stands.
-/

namespace ScionEcho.Text

/-- The capital form of a character as far as it is ASCII. -/
def capital (c : Char) : List Char :=
  match c with
  | 'ß' => ['S', 'S']
  | 'ı' => ['I']
  | 'ſ' => ['S']
  | 'ﬀ' => ['F', 'F']
  | 'ﬁ' => ['F', 'I']
  | 'ﬂ' => ['F', 'L']
  | 'ﬃ' => ['F', 'F', 'I']
  | 'ﬄ' => ['F', 'F', 'L']
  | 'ﬅ' => ['S', 'T']
  | 'ﬆ' => ['S', 'T']
  | c => [c.toUpper]

def capitals (text : String) : String := String.ofList (text.toList.flatMap capital)

end ScionEcho.Text
