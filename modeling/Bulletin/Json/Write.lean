import Bulletin.Text.Ascii
import Bulletin.Text.Numeral

namespace Bulletin.Json.Write

def escape (b : UInt8) : Bytes :=
  match Char.ofUInt8 b with
  | '"' => utf8 "\\\""
  | '\\' => utf8 "\\\\"
  | '\x08' => utf8 "\\b"
  | '\x0c' => utf8 "\\f"
  | '\n' => utf8 "\\n"
  | '\r' => utf8 "\\r"
  | '\t' => utf8 "\\t"
  | _ =>
    if b < 32 then utf8 "\\u00" ++ [Numeral.hexDigit (b / 16), Numeral.hexDigit (b % 16)] else [b]

def text (s : String) : Bytes := Ascii.quote :: (utf8 s).flatMap escape ++ [Ascii.quote]

def flag (b : Bool) : Bytes := utf8 (if b then "true" else "false")

def natural (n : Nat) : Bytes := Numeral.write n

def list (items : List Bytes) : Bytes :=
  Ascii.openBracket :: [Ascii.comma].intercalate items ++ [Ascii.closeBracket]

def member (name : String) (value : Bytes) : Bytes := text name ++ Ascii.colon :: value

def object (members : List (String × Bytes)) : Bytes :=
  Ascii.openBrace :: [Ascii.comma].intercalate (members.map fun (name, value) => member name value)
    ++ [Ascii.closeBrace]

end Bulletin.Json.Write
