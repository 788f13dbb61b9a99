/-!
# Upper and lower case

Settings are compared, after a change of case, with a handful of ASCII words.  So the only
characters whose case matters are those with an ASCII counterpart: the Latin letters, and the few
letters outside ASCII whose upper or lower case is spelled with Latin letters alone.  Every other
character is kept, and stays outside ASCII as its counterpart would.
-/

namespace Bytecode.Text

/-- The upper case of `c`.  The sharp s and the ligatures of f and s have upper cases of two or
three letters; the dotless i and the long s share the upper case of i and s.  Any other `c` goes by
`Char.toUpper`. -/
def upperChar (c : Char) : List Char :=
  match c with
  | '\u00df' => ['S', 'S']
  | '\u0131' => ['I']
  | '\u017f' => ['S']
  | '\ufb00' => ['F', 'F']
  | '\ufb01' => ['F', 'I']
  | '\ufb02' => ['F', 'L']
  | '\ufb03' => ['F', 'F', 'I']
  | '\ufb04' => ['F', 'F', 'L']
  | '\ufb05' => ['S', 'T']
  | '\ufb06' => ['S', 'T']
  | c => [c.toUpper]

/-- The lower case of `c`.  The Kelvin sign has the lower case of k, and any other `c` goes by
`Char.toLower`. -/
def lowerChar (c : Char) : Char :=
  match c with
  | '\u212a' => 'k'
  | c => c.toLower

/-- The text `s` in upper case, each character by `upperChar`. -/
def upper (s : String) : String :=
  String.ofList (s.toList.flatMap upperChar)

/-- The text `s` in lower case, each character by `lowerChar`. -/
def lower (s : String) : String :=
  String.ofList (s.toList.map lowerChar)

end Bytecode.Text
