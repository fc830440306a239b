import TripleRules.Text.Hex
import TripleRules.Text.Property

/-!
# Quoted text

Text between double quotes, with everything that would not show as itself
written as an escape. A single quote stands for itself.
-/

namespace TripleRules.Text

/-- One character inside quotes. Marks that would join the character before them are escaped too. -/
def quotedChar (c : Char) : List Char :=
  match c with
  | '\x00' => ['\\', '0']
  | '\t' => ['\\', 't']
  | '\n' => ['\\', 'n']
  | '\r' => ['\\', 'r']
  | '"' => ['\\', '"']
  | '\\' => ['\\', '\\']
  | c =>
    if Property.graphemeExtend.contains c || !isPrintable c then
      "\\u\x7b".toList ++ hexDigits c.toNat ++ ['\x7d']
    else [c]

def quoted (s : String) : String :=
  String.ofList ('"' :: s.toList.flatMap quotedChar ++ ['"'])

end TripleRules.Text
