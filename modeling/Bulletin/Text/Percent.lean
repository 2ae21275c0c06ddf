import Bulletin.Text.Ascii
import Bulletin.Text.Utf8

namespace Bulletin.Percent

/-- A percent sign without two digits stands for itself. -/
def decode : Bytes → Bytes
  | Ascii.percent :: a :: b :: rest => match Ascii.hexDigit? a, Ascii.hexDigit? b with
    | some x, some y => (16 * x + y).toUInt8 :: decode rest
    | _, _ => Ascii.percent :: decode (a :: b :: rest)
  | b :: rest => b :: decode rest
  | [] => []

end Bulletin.Percent
