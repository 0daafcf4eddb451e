import TabularQuery.Text.Invisible
import TabularQuery.Text.Ranges

/-! Text between quotation marks, for a reader who must see what it holds. Quotation
marks and backslashes are escaped, as is every character without a visible form. -/

namespace TabularQuery.Text

def escape (c : Char) : List Char :=
  match c with
  | '\x00' => ['\\', '0']
  | '\t' => ['\\', 't']
  | '\n' => ['\\', 'n']
  | '\r' => ['\\', 'r']
  | '"' => ['\\', '"']
  | '\\' => ['\\', '\\']
  | c =>
    if covered Ranges.invisible c then
      '\\' :: 'u' :: '\x7b' :: Nat.toDigits 16 c.toNat ++ ['\x7d']
    else [c]

def quote (text : String) : String :=
  String.ofList ('"' :: text.toList.flatMap escape ++ ['"'])

end TabularQuery.Text
